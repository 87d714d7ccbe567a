import FilterQuery.Proofs.Bytes
import FilterQuery.Proofs.Edits
import FilterQuery.Proofs.Evidence
import FilterQuery.Proofs.Nameable

/-!
# What is suggested

For an unknown identifier a registered one is proposed: of those that are nearest the
first, if it is one to three edits away (`suggest_spec`). Distances are those of the texts
in lower case (`isLeast_distance`), while look-ups go by the letters as they are. An
identifier that differs from a registered one in nothing but its case is therefore unknown
and at no distance, and then nothing is proposed (`suggestion_of_compile`).
-/

namespace FilterQuery

/-! ## Distances -/

namespace Registry

/-- The distance of two identifiers is the least number of edits between their lower-case
texts. -/
theorem isLeast_distance (a b : String) :
    IsLeast {n | Text.Edits n (Text.lowercase a).toList (Text.lowercase b).toList}
      (distance a b) :=
  Text.isLeast_charDistance _ _

theorem distance_eq_zero_iff {a b : String} :
    distance a b = 0 ↔ Text.lowercase a = Text.lowercase b :=
  Text.charDistance_eq_zero_iff.trans String.toList_inj

/-! ## The nearest candidate -/

variable {q x : String} {n : Nat} {names : List String}

theorem nearest_eq_none_iff : nearest q names = none ↔ names = [] := by
  cases names with
  | nil => simp [nearest]
  | cons name rest =>
    rw [nearest]
    cases nearest q rest <;> grind

/-- What is found is nearer than the candidates before it, and not farther than those
behind it. -/
theorem exists_append_of_nearest (h : nearest q names = some (x, n)) :
    ∃ before after, names = before ++ x :: after ∧ n = distance q x ∧
      (∀ y ∈ before, n < distance q y) ∧ ∀ y ∈ after, n ≤ distance q y := by
  induction names generalizing x n with
  | nil => cases h
  | cons name rest ih =>
    rw [nearest] at h
    cases hrest : nearest q rest with
    | none =>
      obtain rfl := nearest_eq_none_iff.mp hrest
      simp only [hrest, Option.some.injEq, Prod.mk.injEq] at h
      obtain ⟨rfl, rfl⟩ := h
      exact ⟨[], [], rfl, rfl, by simp, by simp⟩
    | some found =>
      obtain ⟨best, least⟩ := found
      obtain ⟨before, after, rfl, hleast, hbefore, hafter⟩ := ih hrest
      simp only [hrest] at h
      split at h
      next hle =>
        simp only [Option.some.injEq, Prod.mk.injEq] at h
        obtain ⟨rfl, rfl⟩ := h
        refine ⟨[], before ++ best :: after, rfl, rfl, by simp, fun y hy => ?_⟩
        have hy : least ≤ distance q y := by
          rcases List.mem_append.mp hy with hy | hy
          · exact (hbefore y hy).le
          · rcases List.mem_cons.mp hy with rfl | hy
            · exact hleast.le
            · exact hafter y hy
        exact hle.trans hy
      next hlt =>
        simp only [Option.some.injEq, Prod.mk.injEq] at h
        obtain ⟨rfl, rfl⟩ := h
        refine ⟨name :: before, after, rfl, hleast, ?_, hafter⟩
        intro y hy
        rcases List.mem_cons.mp hy with rfl | hy
        · exact Nat.lt_of_not_le hlt
        · exact hbefore y hy

end Registry

/-! ## The first of the nearest -/

namespace FilterSet

variable {set : FilterSet} {q x y : String}

theorem mem_identifiers_iff : x ∈ set.identifiers ↔ set.get? x ≠ none := by
  simp [identifiers, get?]

theorem pairwise_identifiers (set : FilterSet) : set.identifiers.Pairwise (· < ·) :=
  List.pairwise_map.mpr set.ascending

/-- Among the identifiers with a letter at least, the first one of those that are nearest
to `q`, in the order of their bytes. -/
structure IsNearest (set : FilterSet) (q x : String) : Prop where
  registered : set.get? x ≠ none
  nonempty : x ≠ ""
  least : ∀ y, set.get? y ≠ none → y ≠ "" → Registry.distance q x ≤ Registry.distance q y
  first : ∀ y, set.get? y ≠ none → y ≠ "" → Text.bytes y < Text.bytes x →
    Registry.distance q x < Registry.distance q y

theorem IsNearest.unique (hx : set.IsNearest q x) (hy : set.IsNearest q y) : x = y := by
  have hxy := hx.least y hy.registered hy.nonempty
  have hyx := hy.least x hx.registered hx.nonempty
  rcases lt_trichotomy x y with hlt | heq | hlt
  · have := hy.first x hx.registered hx.nonempty (Text.bytes_lt_iff.mpr hlt)
    omega
  · exact heq
  · have := hx.first y hy.registered hy.nonempty (Text.bytes_lt_iff.mpr hlt)
    omega

/-- The identifiers that are candidates, in order. -/
theorem mem_candidates_iff :
    x ∈ set.identifiers.filter (!·.isEmpty) ↔ set.get? x ≠ none ∧ x ≠ "" := by
  simp [mem_identifiers_iff]

theorem isNearest_of_nearest {n : Nat}
    (h : Registry.nearest q (set.identifiers.filter (!·.isEmpty)) = some (x, n)) :
    n = Registry.distance q x ∧ set.IsNearest q x := by
  obtain ⟨before, after, hnames, rfl, hbefore, hafter⟩ := Registry.exists_append_of_nearest h
  have hmem {y : String} (hy : set.get? y ≠ none) (hne : y ≠ "") :
      y ∈ before ∨ y = x ∨ y ∈ after := by
    have := mem_candidates_iff.mpr ⟨hy, hne⟩
    rw [hnames] at this
    simpa using this
  have hx := mem_candidates_iff.mp (hnames ▸ List.mem_append_right before List.mem_cons_self)
  refine ⟨rfl, hx.1, hx.2, fun y hy hne => ?_, fun y hy hne hlt => ?_⟩
  · rcases hmem hy hne with hy | rfl | hy
    · exact (hbefore y hy).le
    · exact Nat.le_refl _
    · exact hafter y hy
  · have hsorted := set.pairwise_identifiers.filter (!·.isEmpty)
    rw [hnames, List.pairwise_append, List.pairwise_cons] at hsorted
    rw [Text.bytes_lt_iff] at hlt
    rcases hmem hy hne with hy | rfl | hy
    · exact hbefore y hy
    · exact absurd hlt (lt_irrefl _)
    · exact absurd hlt (lt_asymm (hsorted.2.1.1 y hy))

theorem suggest_eq_some_iff :
    set.registry.suggest q = some x ↔
      set.IsNearest q x ∧ 1 ≤ Registry.distance q x ∧ Registry.distance q x ≤ 3 := by
  rw [Registry.suggest, registry]
  cases h : Registry.nearest q (set.identifiers.filter (!·.isEmpty)) with
  | none =>
    constructor
    · intro hsome
      cases hsome
    · rintro ⟨hx, -⟩
      have hmem := mem_candidates_iff.mpr ⟨hx.registered, hx.nonempty⟩
      rw [Registry.nearest_eq_none_iff.mp h] at hmem
      cases hmem
  | some found =>
    obtain ⟨best, least⟩ := found
    obtain ⟨rfl, hbest⟩ := isNearest_of_nearest h
    constructor
    · intro hsome
      simp only [Option.ite_none_right_eq_some, Option.some.injEq] at hsome
      obtain ⟨hrange, rfl⟩ := hsome
      exact ⟨hbest, hrange⟩
    · rintro ⟨hx, hrange⟩
      obtain rfl := hbest.unique hx
      exact if_pos hrange

theorem exists_isNearest (hx : set.get? x ≠ none) (hne : x ≠ "") (q : String) :
    ∃ best, set.IsNearest q best := by
  cases h : Registry.nearest q (set.identifiers.filter (!·.isEmpty)) with
  | none =>
    have hmem := mem_candidates_iff.mpr ⟨hx, hne⟩
    rw [Registry.nearest_eq_none_iff.mp h] at hmem
    cases hmem
  | some found => exact ⟨found.1, (isNearest_of_nearest h).2⟩

theorem suggest_eq_none_iff :
    set.registry.suggest q = none ↔
      (∃ x, set.get? x ≠ none ∧ x ≠ "" ∧ Registry.distance q x = 0) ∨
        ∀ x, set.get? x ≠ none → x ≠ "" → 3 < Registry.distance q x := by
  constructor
  · intro h
    by_cases hfar : ∀ x, set.get? x ≠ none → x ≠ "" → 3 < Registry.distance q x
    · exact .inr hfar
    push Not at hfar
    obtain ⟨x, hx, hne, hnear⟩ := hfar
    obtain ⟨best, hbest⟩ := exists_isNearest hx hne q
    have hle := hbest.least x hx hne
    have hrange : ¬(1 ≤ Registry.distance q best ∧ Registry.distance q best ≤ 3) := by
      intro hrange
      rw [suggest_eq_some_iff.mpr ⟨hbest, hrange⟩] at h
      cases h
    exact .inl ⟨best, hbest.registered, hbest.nonempty, by omega⟩
  · intro h
    refine Option.eq_none_iff_forall_ne_some.mpr fun x hx => ?_
    obtain ⟨hx, hpos, hle⟩ := suggest_eq_some_iff.mp hx
    rcases h with ⟨y, hy, hne, hzero⟩ | hfar
    · have := hx.least y hy hne
      omega
    · have := hfar x hx.registered hx.nonempty
      omega

/-- Only which identifiers are registered matters. -/
theorem suggest_congr {set' : FilterSet}
    (h : ∀ x, set.get? x ≠ none ↔ set'.get? x ≠ none) (q : String) :
    set.registry.suggest q = set'.registry.suggest q := by
  have hnearest (x : String) : set.IsNearest q x ↔ set'.IsNearest q x := by
    constructor <;> rintro ⟨hregistered, hnonempty, hleast, hfirst⟩
    · exact ⟨(h x).mp hregistered, hnonempty, fun y hy => hleast y ((h y).mpr hy),
        fun y hy => hfirst y ((h y).mpr hy)⟩
    · exact ⟨(h x).mpr hregistered, hnonempty, fun y hy => hleast y ((h y).mp hy),
        fun y hy => hfirst y ((h y).mp hy)⟩
  ext x
  rw [suggest_eq_some_iff, suggest_eq_some_iff, hnearest]

/-- A suggestion is the first of the nearest identifiers, and it is one to three edits
away; in which order the filters have been registered makes no difference. -/
theorem suggest_spec (set : FilterSet) (q : String) :
    (∀ x, IsLeast {n | Text.Edits n (Text.lowercase q).toList (Text.lowercase x).toList}
      (Registry.distance q x)) ∧
    (∀ x, set.registry.suggest q = some x ↔
      set.IsNearest q x ∧ 1 ≤ Registry.distance q x ∧ Registry.distance q x ≤ 3) ∧
    ∀ filters filters' : List Filter, filters.Perm filters' →
      (set.insertMany filters).registry.suggest q =
        (set.insertMany filters').registry.suggest q := by
  refine ⟨fun x => Registry.isLeast_distance q x, fun x => suggest_eq_some_iff, ?_⟩
  intro filters filters' hperm
  refine suggest_congr (fun x => ?_) q
  simp only [get?_insertMany_ne_none_iff, hperm.mem_iff]

/-- `text` is the one nearest to `TXT` of the filters that are always known. With two more
that are as near, the first in order is proposed, not the first that was registered. -/
theorem suggest_spec_upper_case :
    let near : List Filter := [⟨"txts", .text⟩, ⟨"taxt", .text⟩]
    builtin.IsNearest "TXT" "text" ∧ near.Perm near.reverse ∧
      (builtin.insertMany near).registry.suggest "TXT" =
        (builtin.insertMany near.reverse).registry.suggest "TXT" ∧
      (builtin.insertMany near).registry.suggest "TXT" = some "taxt" := by
  obtain ⟨-, hsome, hperm⟩ := suggest_spec builtin "TXT"
  have htext : builtin.registry.suggest "TXT" = some "text" := by cbv
  have hnear : [(⟨"txts", .text⟩ : Filter), ⟨"taxt", .text⟩].Perm
      [(⟨"txts", .text⟩ : Filter), ⟨"taxt", .text⟩].reverse := (List.reverse_perm _).symm
  exact ⟨((hsome "text").mp htext).1, hnear, hperm _ _ hnear, by cbv⟩

end FilterSet

/-! ## Suggestions in errors -/

theorem lookup_of_compile_unknownFilter {registry : Registry} {source identifier : String}
    {suggestion : Option String} {offset : Nat}
    (h : (compile registry source).outcome =
      .error (.query ⟨.unknownFilter identifier suggestion, offset⟩)) :
    registry.lookup identifier = none ∧ suggestion = registry.suggest identifier := by
  obtain ⟨kind, c, -, he, hshown⟩ := (raises_shown registry source.toList).of_compile h
  cases he
  exact ⟨hshown.1, hshown.2.1⟩

/-- An unknown identifier comes without a suggestion exactly if a registered one differs
from it in case only, or if none is within three edits. -/
theorem suggestion_of_compile (set : FilterSet) (source identifier : String)
    (suggestion : Option String) (offset : Nat)
    (h : (compile set.registry source).outcome =
      .error (.query ⟨.unknownFilter identifier suggestion, offset⟩)) :
    set.get? identifier = none ∧
      (suggestion = none ↔
        (∃ x, set.get? x ≠ none ∧ x ≠ "" ∧ Text.lowercase x = Text.lowercase identifier) ∨
        ∀ x n, set.get? x ≠ none → x ≠ "" →
          Text.Edits n (Text.lowercase identifier).toList (Text.lowercase x).toList → 3 < n) := by
  obtain ⟨hlookup, rfl⟩ := lookup_of_compile_unknownFilter h
  have hunknown : set.get? identifier = none := Option.map_eq_none_iff.mp hlookup
  refine ⟨hunknown, ?_⟩
  have hfar (x : String) : (∀ n, Text.Edits n (Text.lowercase identifier).toList
      (Text.lowercase x).toList → 3 < n) ↔ 3 < Registry.distance identifier x := by
    obtain ⟨hmem, hleast⟩ := Registry.isLeast_distance identifier x
    exact ⟨fun h => h _ hmem, fun h n hn => Nat.lt_of_lt_of_le h (hleast hn)⟩
  have hcase (x : String) :
      Text.lowercase x = Text.lowercase identifier ↔ Registry.distance identifier x = 0 :=
    eq_comm.trans Registry.distance_eq_zero_iff.symm
  rw [FilterSet.suggest_eq_none_iff]
  simp only [hcase, ← hfar]
  grind

/-- Capital letters make a filter unknown that is always there, and it is not proposed. -/
theorem suggestion_of_compile_capitals :
    let source := "\x7bTEXT:\"a\"\x7d"
    (compile FilterSet.builtin.registry source).outcome =
        .error (.query ⟨.unknownFilter "TEXT" none, 1⟩) ∧
      ((∃ x, FilterSet.builtin.get? x ≠ none ∧ x ≠ "" ∧
          Text.lowercase x = Text.lowercase "TEXT") ∨
        ∀ x n, FilterSet.builtin.get? x ≠ none → x ≠ "" →
          Text.Edits n (Text.lowercase "TEXT").toList (Text.lowercase x).toList → 3 < n) := by
  have h : (compile FilterSet.builtin.registry "\x7bTEXT:\"a\"\x7d").outcome =
      .error (.query ⟨.unknownFilter "TEXT" none, 1⟩) := by cbv
  exact ⟨h, (suggestion_of_compile _ _ _ _ _ h).2.mp rfl⟩

/-- An identifier can be unknown, within three edits of a registered one, and still come
without a suggestion. -/
theorem exists_near_without_suggestion :
    ∃ (set : FilterSet) (source identifier x : String) (offset n : Nat),
      (compile set.registry source).outcome =
        .error (.query ⟨.unknownFilter identifier none, offset⟩) ∧
      set.get? x ≠ none ∧ x ≠ "" ∧ n ≤ 3 ∧
      Text.Edits n (Text.lowercase identifier).toList (Text.lowercase x).toList := by
  have h : (compile FilterSet.builtin.registry "\x7bTEXT:\"a\"\x7d").outcome =
      .error (.query ⟨.unknownFilter "TEXT" none, 1⟩) := by cbv
  have hcase : Text.lowercase "TEXT" = Text.lowercase "text" := by decide
  refine ⟨.builtin, _, "TEXT", "text", 1, 0, h, by decide, by decide, by decide, ?_⟩
  rw [hcase]
  exact .done _

end FilterQuery
