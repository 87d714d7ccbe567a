import FilterQuery.Proofs.FilterRows
import FilterQuery.Proofs.Suggestion

/-!
# Changes of a set of filters

A set is built up by registering filters, one at a time or many. Every change amounts to
registering a list (`Change.apply_eq_insertMany`), so a run of changes does too, and what is
found afterwards is what a single look at the run tells: under each identifier the filter
registered last or, if there is none, the one from the start (`after_spec`). Nothing else of
the run is left in the set, since its list is in strict order and so is given by its look-ups
(`eq_of_get?_eq`): two runs end in the same set exactly if they agree on every last filter.
-/

namespace FilterQuery

namespace FilterSet

/-- A change of a set of filters. -/
inductive Change where
  /-- A filter is registered, and the one that it replaces is given back. -/
  | register (f : Filter)
  /-- A filter is registered, and only the set is kept. -/
  | add (f : Filter)
  /-- Filters are registered one after the other. -/
  | extend (filters : List Filter)

/-- The set that a change makes of a set. -/
def Change.apply (set : FilterSet) : Change → FilterSet
  | register f => (set.register f).2
  | add f => set.insert f
  | extend filters => set.insertMany filters

/-- The filters that a change registers, in their order. -/
def Change.filters : Change → List Filter
  | register f => [f]
  | add f => [f]
  | extend filters => filters

/-- The set after a run of changes. -/
def after (start : FilterSet) (changes : List Change) : FilterSet :=
  changes.foldl Change.apply start

/-- The filters that a run of changes registers, in their order. -/
def registered (changes : List Change) : List Filter :=
  changes.flatMap Change.filters

/-- The filter that a run registers last under an identifier or, if it registers none there,
the one from the start. -/
def lastUnder (start : FilterSet) (changes : List Change) (identifier : String) :
    Option Filter :=
  ((registered changes).filter (·.identifier = identifier)).getLast?.or (start.get? identifier)

variable {set set' start : FilterSet} {changes : List Change} {identifier : String}

/-! ## Runs -/

theorem insertMany_append (set : FilterSet) (filters filters' : List Filter) :
    set.insertMany (filters ++ filters') = (set.insertMany filters).insertMany filters' :=
  List.foldl_append

theorem Change.apply_eq_insertMany (set : FilterSet) (change : Change) :
    change.apply set = set.insertMany change.filters := by
  cases change <;> rfl

theorem after_eq_insertMany (start : FilterSet) (changes : List Change) :
    start.after changes = start.insertMany (registered changes) := by
  induction changes generalizing start with
  | nil => rfl
  | cons change changes ih =>
    calc start.after (change :: changes)
        = (change.apply start).after changes := rfl
      _ = (start.insertMany change.filters).insertMany (registered changes) := by
          rw [ih, Change.apply_eq_insertMany]
      _ = start.insertMany (registered (change :: changes)) := by
          rw [← insertMany_append, registered, registered, List.flatMap_cons]

theorem get?_after (start : FilterSet) (changes : List Change) (identifier : String) :
    (start.after changes).get? identifier = lastUnder start changes identifier := by
  rw [after_eq_insertMany, get?_insertMany, lastUnder, List.getLast?_eq_head?_reverse,
    ← List.filter_reverse, List.head?_filter]

/-! ## Sets and their look-ups -/

theorem nodup_identifiers (set : FilterSet) : set.identifiers.Nodup :=
  set.pairwise_identifiers.imp ne_of_lt

theorem mem_toList_iff {f : Filter} : f ∈ set.toList ↔ set.get? f.identifier = some f := by
  rw [get?_eq_some_iff, and_iff_left rfl]

/-- A set is given by what is found in it. -/
theorem eq_of_get?_eq (h : ∀ identifier, set.get? identifier = set'.get? identifier) :
    set = set' := by
  have hmem (f : Filter) : f ∈ set.toList ↔ f ∈ set'.toList := by
    rw [mem_toList_iff, mem_toList_iff, h]
  have hperm : set.toList.Perm set'.toList :=
    (List.perm_ext_iff_of_nodup set.nodup_identifiers.of_map set'.nodup_identifiers.of_map).mpr
      hmem
  have hlist : set.toList = set'.toList := hperm.eq_of_pairwise
    (fun f g _ _ hlt hgt => absurd hgt (lt_asymm hlt)) set.ascending set'.ascending
  cases set
  cases set'
  cases hlist
  rfl

/-- A look-up tells the kind of the filter that is found; its identifier is the one asked
for. -/
theorem lookup_registry (set : FilterSet) (identifier : String) :
    (set.registry.lookup identifier).map (Filter.mk identifier) = set.get? identifier := by
  rw [registry, Option.map_map]
  cases h : set.get? identifier with
  | none => rfl
  | some f =>
    obtain ⟨-, rfl⟩ := get?_eq_some_iff.mp h
    rfl

theorem mem_identifiers_after_iff :
    identifier ∈ (start.after changes).identifiers ↔
      identifier ∈ (start.toList ++ registered changes).map (·.identifier) := by
  rw [mem_identifiers_iff, after_eq_insertMany, get?_insertMany_ne_none_iff, ← mem_identifiers_iff]
  simp [identifiers]

/-- A set has as many filters as there are identifiers, each counted once. -/
theorem size_after (start : FilterSet) (changes : List Change) :
    (start.after changes).size =
      ((start.toList ++ registered changes).map (·.identifier)).toFinset.card := by
  have hsame : (start.after changes).identifiers.toFinset =
      ((start.toList ++ registered changes).map (·.identifier)).toFinset := by
    ext identifier
    rw [List.mem_toFinset, List.mem_toFinset, mem_identifiers_after_iff]
  rw [← hsame, List.toFinset_card_of_nodup (nodup_identifiers _), identifiers, List.length_map,
    size]

/-! ## What a run leaves -/

/-- After any run of changes the last filter under each identifier is found, and registering
another one gives back what was found under its identifier. The filters stand in the order
of the bytes of their identifiers, each under its own and none twice, and there are as many
as there are identifiers. Another run ends in the same set exactly if its last filters are
the same. -/
theorem after_spec (start : FilterSet) (changes : List Change) :
    let set := start.after changes
    (∀ identifier, set.get? identifier = lastUnder start changes identifier ∧
      (set.registry.lookup identifier).map (Filter.mk identifier) =
        lastUnder start changes identifier) ∧
    (∀ f, (set.register f).1 = set.get? f.identifier) ∧
    (set.toList.Pairwise fun f g => Text.bytes f.identifier < Text.bytes g.identifier) ∧
    (∀ f, f ∈ set.toList ↔ lastUnder start changes f.identifier = some f) ∧
    (set.identifiers.Pairwise fun x y => Text.bytes x < Text.bytes y) ∧
    (∀ identifier, identifier ∈ set.identifiers ↔
      ∃ f, lastUnder start changes identifier = some f ∧ f.identifier = identifier) ∧
    set.size = ((start.toList ++ registered changes).map (·.identifier)).toFinset.card ∧
    (set.isEmpty = true ↔ set.size = 0) ∧
    ∀ start' changes', set = after start' changes' ↔
      ∀ identifier, lastUnder start changes identifier = lastUnder start' changes' identifier := by
  intro set
  have hget (identifier : String) :
      set.get? identifier = lastUnder start changes identifier := get?_after _ _ _
  refine ⟨fun identifier => ⟨hget identifier, ?_⟩, fun f => ?_, ?_, fun f => ?_, ?_,
    fun identifier => ?_, size_after _ _, ?_, fun start' changes' => ⟨?_, fun h => ?_⟩⟩
  · rw [lookup_registry, hget]
  · exact fst_register set f
  · exact set.ascending.imp Text.bytes_lt_iff.mpr
  · rw [← hget, mem_toList_iff]
  · exact set.pairwise_identifiers.imp Text.bytes_lt_iff.mpr
  · rw [mem_identifiers_iff, Option.ne_none_iff_exists']
    refine exists_congr fun f => ?_
    rw [← hget, iff_self_and]
    exact fun h => (get?_eq_some_iff.mp h).2
  · rw [isEmpty, size, List.isEmpty_iff, List.length_eq_zero_iff]
  · rintro h identifier
    rw [← hget, h, get?_after]
  · refine eq_of_get?_eq fun identifier => ?_
    rw [hget, get?_after, h]

end FilterSet

end FilterQuery
