import FilterQuery.Proofs.Bytes
import FilterQuery.Proofs.Nameable
import FilterQuery.Report.Settings

/-!
# The table of filters and the filters of queries

The table of filters is built from the filters that are known, their origins from the list
of declarations, and queries are read with look-ups. The three agree (`filterRows_spec`): a
row says what the look-up yields, which is the last declaration of the identifier or, if it
has none, the filter that is always known, and a query for the filter is read as one of the
kind in the row.
-/

namespace FilterQuery

namespace FilterSet

variable {set : FilterSet} {f : Filter} {filters : List Filter} {identifier : String}

theorem get?_eq_some_iff :
    set.get? identifier = some f ↔ f ∈ set.toList ∧ f.identifier = identifier := by
  constructor
  · intro h
    exact ⟨List.mem_of_find?_eq_some h, by simpa using List.find?_some h⟩
  · rintro ⟨hf, rfl⟩
    have hfound : set.get? f.identifier ≠ none := by
      simpa [get?] using ⟨f, hf, rfl⟩
    obtain ⟨g, hg⟩ := Option.ne_none_iff_exists'.mp hfound
    have hmem : g ∈ set.toList := List.mem_of_find?_eq_some hg
    have hsame : g.identifier = f.identifier := by simpa using List.find?_some hg
    have hnodup : (set.toList.map (·.identifier)).Nodup :=
      (List.pairwise_map.mpr set.ascending).imp ne_of_lt
    rw [hg, List.inj_on_of_nodup_map hnodup hmem hf hsame]

/-- The last of the filters that are registered under an identifier stays. -/
theorem get?_insertMany (set : FilterSet) (filters : List Filter) (identifier : String) :
    (set.insertMany filters).get? identifier =
      (filters.reverse.find? (·.identifier = identifier)).or (set.get? identifier) := by
  induction filters generalizing set with
  | nil => simp [insertMany]
  | cons f filters ih =>
    rw [insertMany, List.foldl_cons, ← insertMany, ih, get?_insert, List.reverse_cons,
      List.find?_append, Option.or_assoc]
    by_cases hf : f.identifier = identifier <;> simp [hf]

/-- Every identifier of the set can be written in a query. -/
def Nameable (set : FilterSet) : Prop :=
  ∀ f ∈ set.toList, f.identifier ≠ "" ∧ ∀ c ∈ f.identifier.toList, isIdentifierChar c

theorem nameable_builtin : builtin.Nameable := by
  have h : builtin.toList.all fun f => Settings.isNameable f.identifier := by cbv
  exact fun f hf => Settings.isNameable_iff.mp (List.all_eq_true.mp h f hf)

theorem Nameable.insertMany (h : set.Nameable)
    (hfilters : ∀ f ∈ filters, f.identifier ≠ "" ∧ ∀ c ∈ f.identifier.toList, isIdentifierChar c) :
    (set.insertMany filters).Nameable := by
  intro f hf
  have hget := get?_eq_some_iff.mpr ⟨hf, rfl⟩
  rw [get?_insertMany, Option.or_eq_some_iff] at hget
  rcases hget with hfind | ⟨-, hget⟩
  · exact hfilters f (List.mem_reverse.mp (List.mem_of_find?_eq_some hfind))
  · exact h f (get?_eq_some_iff.mp hget).1

end FilterSet

namespace Settings

variable {settings : Settings} {f : Filter} {identifier : String}

/-- The last declaration of an identifier. -/
def LastDeclares (settings : Settings) (f : Filter) : Prop :=
  ∃ before after, settings.filters = before ++ f :: after ∧
    ∀ g ∈ after, g.identifier ≠ f.identifier

theorem lastDeclares_iff :
    settings.LastDeclares f ↔
      settings.filters.reverse.find? (·.identifier = f.identifier) = some f := by
  rw [List.find?_eq_some_iff_append]
  constructor
  · rintro ⟨before, after, hfilters, hafter⟩
    exact ⟨by simp, after.reverse, before.reverse, by simp [hfilters], by simpa using hafter⟩
  · rintro ⟨-, after, before, hfilters, hafter⟩
    refine ⟨before.reverse, after.reverse, ?_, by simpa using hafter⟩
    simpa using congrArg List.reverse hfilters

theorem declares_iff :
    settings.declares identifier = true ↔ ∃ f ∈ settings.filters, f.identifier = identifier := by
  simp [declares]

theorem declares_eq_false_iff :
    settings.declares identifier = false ↔
      settings.filters.reverse.find? (·.identifier = identifier) = none := by
  simp [declares]

/-- What is known under an identifier is its last declaration or, if it has none, the filter
that is always known. -/
theorem get?_known_eq_some_iff :
    settings.known.get? f.identifier = some f ↔
      settings.LastDeclares f ∨
        settings.declares f.identifier = false ∧ FilterSet.builtin.get? f.identifier = some f := by
  rw [known, FilterSet.get?_insertMany, lastDeclares_iff, declares_eq_false_iff,
    Option.or_eq_some_iff]

end Settings

namespace Report

variable {settings : Settings} {row : FilterRow}

theorem mem_filterRows_iff :
    row ∈ filterRows settings ↔
      settings.known.get? row.filter.identifier = some row.filter ∧
        (row.origin = .config ↔ settings.declares row.filter.identifier = true) := by
  obtain ⟨f, origin⟩ := row
  rw [FilterSet.get?_eq_some_iff, filterRows, List.mem_map]
  constructor
  · rintro ⟨g, hg, hrow⟩
    cases hrow
    exact ⟨⟨hg, rfl⟩, by simp⟩
  · rintro ⟨⟨hf, -⟩, horigin⟩
    refine ⟨f, hf, ?_⟩
    cases origin <;> simp_all

/-- Everything that is known with settings that have been loaded can be named in a query. -/
theorem nameable_known {fs : FileSystem} {path : Path}
    (h : Settings.load fs path = .ok settings) : settings.known.Nameable := by
  obtain ⟨written, haccept⟩ := Settings.exists_accept_of_load h
  obtain ⟨-, hall, rfl⟩ := Settings.accept_eq_ok_iff.mp haccept
  exact FilterSet.nameable_builtin.insertMany fun f hf => Settings.isNameable_iff.mp (hall f hf)

theorem letters_of_mem_filterRows {fs : FileSystem} {path : Path}
    (h : Settings.load fs path = .ok settings) (hrow : row ∈ filterRows settings) :
    ∀ c ∈ row.filter.identifier.toList, isIdentifierChar c :=
  (nameable_known h _ (FilterSet.get?_eq_some_iff.mp (mem_filterRows_iff.mp hrow).1).1).2

/-- The rows are in strictly rising order of their identifiers, and there is one for exactly
what a look-up finds. Each shows the last declaration of its identifier, as one of the
settings, or else the filter that is always known; and a query for it yields the kind in the
row. -/
theorem filterRows_spec (fs : FileSystem) (path : Path) (settings : Settings)
    (h : Settings.load fs path = .ok settings) :
    ((filterRows settings).Pairwise fun r s =>
      Text.bytes r.filter.identifier < Text.bytes s.filter.identifier) ∧
    (∀ identifier kind, (∃ row ∈ filterRows settings, row.filter = ⟨identifier, kind⟩) ↔
      settings.known.registry.lookup identifier = some kind) ∧
    ∀ row ∈ filterRows settings,
      ((∃ before after, settings.filters = before ++ row.filter :: after ∧
          ∀ g ∈ after, g.identifier ≠ row.filter.identifier) ∨
        (∀ g ∈ settings.filters, g.identifier ≠ row.filter.identifier) ∧
          row.filter ∈ FilterSet.builtin.toList) ∧
      (row.origin = .config ↔ ∃ f ∈ settings.filters, f.identifier = row.filter.identifier) ∧
      compile settings.known.registry ("\x7b" ++ row.filter.identifier ++ ":\"x\"\x7d") =
        ⟨.ok (some ⟨[.filter
          ⟨row.filter.identifier, row.filter.kind, .includes, "x", none⟩]⟩), []⟩ := by
  refine ⟨?_, fun identifier kind => ?_, fun row hrow => ⟨?_, ?_, ?_⟩⟩
  · rw [filterRows, List.pairwise_map]
    exact settings.known.ascending.imp Text.bytes_lt_iff.mpr
  · simp only [FilterSet.registry, Option.map_eq_some_iff]
    constructor
    · rintro ⟨row, hrow, hfilter⟩
      have hget := (mem_filterRows_iff.mp hrow).1
      rw [hfilter] at hget
      exact ⟨_, hget, rfl⟩
    · rintro ⟨f, hget, rfl⟩
      obtain rfl := (FilterSet.get?_eq_some_iff.mp hget).2
      refine ⟨⟨f, if settings.declares f.identifier then .config else .builtin⟩, ?_, rfl⟩
      exact mem_filterRows_iff.mpr ⟨hget, by simp⟩
  · rcases Settings.get?_known_eq_some_iff.mp (mem_filterRows_iff.mp hrow).1 with
      hlast | ⟨hnot, hget⟩
    · exact .inl hlast
    · refine .inr ⟨fun g hg hsame => ?_, (FilterSet.get?_eq_some_iff.mp hget).1⟩
      rw [Settings.declares_iff.mpr ⟨g, hg, hsame⟩] at hnot
      cases hnot
  · rw [(mem_filterRows_iff.mp hrow).2, Settings.declares_iff]
  · have hget := (mem_filterRows_iff.mp hrow).1
    refine compile_filter_of_lookup (letters_of_mem_filterRows h hrow) ?_
    simp [FilterSet.registry, hget]

/-- A filter that is always known is declared twice: the last declaration counts, in the row
and in a query. -/
theorem filterRows_spec_declared_twice :
    let text := "filters=[\x7bid=\"text\",kind=\"text\"\x7d,\x7bid=\"text\",kind=\"numerical\"\x7d]"
    let settings : Settings := ⟨1, none, [⟨"text", .text⟩, ⟨"text", .numerical⟩]⟩
    Settings.load ⟨[(["c"], .file text.toUTF8)], []⟩ ⟨"c"⟩ = .ok settings ∧
      (∃ row ∈ filterRows settings, row.filter = ⟨"text", .numerical⟩ ∧ row.origin = .config) ∧
      compile settings.known.registry "\x7btext:\"x\"\x7d" =
        ⟨.ok (some ⟨[.filter ⟨"text", .numerical, .includes, "x", none⟩]⟩), []⟩ := by
  intro text settings
  have htext : Settings.ofText text = .ok settings := by cbv
  have hload : Settings.load ⟨[(["c"], .file text.toUTF8)], []⟩ ⟨"c"⟩ = .ok settings :=
    (Settings.load_of_get rfl).trans htext
  have hlookup : settings.known.registry.lookup "text" = some .numerical := by cbv
  obtain ⟨-, hrows, hrow⟩ := filterRows_spec _ _ _ hload
  obtain ⟨row, hmem, hfilter⟩ := (hrows "text" .numerical).mpr hlookup
  obtain ⟨-, horigin, hcompile⟩ := hrow row hmem
  rw [hfilter] at horigin hcompile
  exact ⟨hload, ⟨row, hmem, hfilter, horigin.mpr ⟨_, List.mem_cons_self, rfl⟩⟩, hcompile⟩

end Report

end FilterQuery
