import FilterQuery.Filter.Registry

/-!
# Sets of filters

A set holds one filter per identifier, in the order of the identifiers. That
order is the order of their code points, which is also the order of their bytes.
Registering a filter under an identifier that is taken replaces the filter that
was there; what is found under any other identifier stays (`get?_insert`).
-/

namespace FilterQuery

/-- Filters in strictly rising order of their identifiers. -/
def Ascending (filters : List Filter) : Prop :=
  filters.Pairwise fun f g => f.identifier < g.identifier

/-- Puts a filter in its place, instead of the one with its identifier. -/
def insertFilter (f : Filter) : List Filter → List Filter
  | [] => [f]
  | g :: rest =>
    if f.identifier < g.identifier then f :: g :: rest
    else if f.identifier = g.identifier then f :: rest
    else g :: insertFilter f rest

theorem mem_insertFilter {f g : Filter} {filters : List Filter}
    (h : g ∈ insertFilter f filters) : g = f ∨ g ∈ filters := by
  induction filters with
  | nil => simpa [insertFilter] using h
  | cons x rest ih =>
    unfold insertFilter at h
    split at h
    next => simpa using h
    next =>
      split at h
      next =>
        rcases List.mem_cons.mp h with rfl | h
        · exact .inl rfl
        · exact .inr (List.mem_cons_of_mem _ h)
      next =>
        rcases List.mem_cons.mp h with rfl | h
        · exact .inr List.mem_cons_self
        · exact (ih h).imp_right (List.mem_cons_of_mem _)

theorem ascending_insertFilter (f : Filter) {filters : List Filter}
    (h : Ascending filters) : Ascending (insertFilter f filters) := by
  induction filters with
  | nil => simp [insertFilter, Ascending]
  | cons x rest ih =>
    obtain ⟨hx, hrest⟩ := List.pairwise_cons.mp h
    unfold insertFilter
    split
    next lt =>
      refine List.pairwise_cons.mpr ⟨fun g hg => ?_, h⟩
      rcases List.mem_cons.mp hg with rfl | hg
      · exact lt
      · exact String.lt_trans lt (hx g hg)
    next nlt =>
      split
      next eq => exact List.pairwise_cons.mpr ⟨fun g hg => eq ▸ hx g hg, hrest⟩
      next ne =>
        refine List.pairwise_cons.mpr ⟨fun g hg => ?_, ih hrest⟩
        rcases mem_insertFilter hg with rfl | hg
        · exact Std.lt_of_le_of_ne (String.not_lt.mp nlt) (Ne.symm ne)
        · exact hx g hg

theorem find?_insertFilter (f : Filter) (filters : List Filter) (identifier : String) :
    (insertFilter f filters).find? (·.identifier = identifier) =
      if f.identifier = identifier then some f
      else filters.find? (·.identifier = identifier) := by
  induction filters with
  | nil => by_cases h : f.identifier = identifier <;> simp [insertFilter, h]
  | cons g rest ih =>
    unfold insertFilter
    split
    next => by_cases h : f.identifier = identifier <;> simp [h]
    next =>
      split
      next eq => by_cases h : f.identifier = identifier <;> simp [h, ← eq]
      next ne =>
        by_cases hg : g.identifier = identifier
        · have hf : f.identifier ≠ identifier := fun hf => ne (hf.trans hg.symm)
          simp [hg, hf]
        · simp [hg, ih]

/-- The filter that makes way when `f` is put in its place. -/
def displacedBy (f : Filter) : List Filter → Option Filter
  | [] => none
  | g :: rest =>
    if f.identifier < g.identifier then none
    else if f.identifier = g.identifier then some g
    else displacedBy f rest

/-- In rising order the search may end where the place of `f` is. -/
theorem displacedBy_eq_find? (f : Filter) {filters : List Filter} (h : Ascending filters) :
    displacedBy f filters = filters.find? (·.identifier = f.identifier) := by
  induction filters with
  | nil => rfl
  | cons g rest ih =>
    obtain ⟨hg, hrest⟩ := List.pairwise_cons.mp h
    unfold displacedBy
    split
    next lt =>
      have hne : ∀ x ∈ g :: rest, x.identifier ≠ f.identifier := by
        intro x hx heq
        rcases List.mem_cons.mp hx with rfl | hx
        · exact String.lt_irrefl _ (heq ▸ lt)
        · exact String.lt_irrefl _ (heq ▸ String.lt_trans lt (hg x hx))
      exact (List.find?_eq_none.mpr (by simpa using hne)).symm
    next =>
      split
      next eq => simp [← eq]
      next ne => simp [Ne.symm ne, ih hrest]

/-- A set of filters, at most one per identifier. -/
structure FilterSet where
  /-- The filters in the order of their identifiers. -/
  toList : List Filter
  /-- The order is strict. -/
  ascending : Ascending toList

namespace FilterSet

/-- The set without filters. -/
def empty : FilterSet :=
  ⟨[], List.Pairwise.nil⟩

instance : Inhabited FilterSet := ⟨empty⟩

/-- The filter with this identifier. -/
def get? (set : FilterSet) (identifier : String) : Option Filter :=
  set.toList.find? (·.identifier = identifier)

/-- Registers a filter under its identifier. -/
def insert (set : FilterSet) (f : Filter) : FilterSet :=
  ⟨insertFilter f set.toList, ascending_insertFilter f set.ascending⟩

/-- Registering a filter changes what is found under its identifier only. -/
theorem get?_insert (set : FilterSet) (f : Filter) (identifier : String) :
    (set.insert f).get? identifier =
      if f.identifier = identifier then some f else set.get? identifier :=
  find?_insertFilter f set.toList identifier

/-- Registers a filter under its identifier and gives back the one that it replaced. -/
def register (set : FilterSet) (f : Filter) : Option Filter × FilterSet :=
  (displacedBy f set.toList, set.insert f)

/-- The replaced filter is the one that was found under the identifier. -/
theorem fst_register (set : FilterSet) (f : Filter) :
    (set.register f).1 = set.get? f.identifier :=
  displacedBy_eq_find? f set.ascending

/-- Registers filters one after the other. -/
def insertMany (set : FilterSet) (filters : List Filter) : FilterSet :=
  filters.foldl insert set

/-- The set that registering these filters gives. -/
def ofList (filters : List Filter) : FilterSet :=
  empty.insertMany filters

/-- The number of filters. -/
def size (set : FilterSet) : Nat :=
  set.toList.length

/-- Whether there is no filter. -/
def isEmpty (set : FilterSet) : Bool :=
  set.toList.isEmpty

/-- The identifiers in order. -/
def identifiers (set : FilterSet) : List String :=
  set.toList.map (·.identifier)

/-- What a reader of queries learns from the set: every filter in it, and every
identifier as a suggestion. -/
def registry (set : FilterSet) : Registry where
  lookup identifier := (set.get? identifier).map (·.kind)
  identifiers := set.identifiers

/-- The filters that are always known. -/
def builtin : FilterSet :=
  ofList [
    ⟨"favorite_count", .numerical⟩,
    ⟨"followers_count", .numerical⟩,
    ⟨"friends_count", .numerical⟩,
    ⟨"listed_count", .numerical⟩,
    ⟨"retweet_count", .numerical⟩,
    ⟨"statuses_count", .numerical⟩,
    ⟨"text", .text⟩]

end FilterSet

end FilterQuery
