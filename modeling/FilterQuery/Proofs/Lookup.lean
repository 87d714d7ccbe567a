import FilterQuery.Filter.Set
import FilterQuery.Proofs.ReaderSimulation

/-!
# What the compiler asks a registry

A registry is asked for the kind of a name, in two places: for the name of a filter,
and for an operand that is a word. If it knows the name, then the answer is all that
counts. If it does not, the compilation ends there, with the one error that has more of
the registry in it: the name that it proposes instead.

So two readers over one text, one with a registry that knows more than that of the
other, are in lockstep until the lesser registry is asked for a name that it does not
know. What becomes of the second reader there is kept as far as it can be said: if its
registry does not know the name either, it ends in the same place, and only the proposals may
differ. With this one change a registry may be replaced by a greater one, and by one with
other proposals.
-/

namespace FilterQuery

theorem Registry.extends_of_lookup_eq {registry lesser : Registry}
    (h : ∀ identifier, registry.lookup identifier = lesser.lookup identifier) :
    registry.Extends lesser :=
  fun identifier _ hknown => (h identifier).trans hknown

variable {registry registry' : Registry}

/-! ## Another registry -/

/-- The error that no filter has a name, where neither registry knows it. -/
def BothUnknown (registry registry' : Registry) (e e' : CompileError) : Prop :=
  ∃ identifier start, registry.lookup identifier = none ∧ registry'.lookup identifier = none ∧
    e = registry.unknown identifier start ∧ e' = registry'.unknown identifier start

/-- The error that no filter has a name, where the second registry knows it. -/
def UnknownFirst (registry registry' : Registry) (e : CompileError) : Prop :=
  ∃ identifier start, registry.lookup identifier = none ∧ registry'.lookup identifier ≠ none ∧
    e = registry.unknown identifier start

theorem unknown_of_lookup_eq_none {identifier : String} {c c' : Cursor}
    (hnone : registry.lookup identifier = none) (hoffset : c'.offset = c.offset) :
    UnknownFirst registry registry' (registry.unknown identifier c) ∨
      registry'.lookup identifier = none ∧ BothUnknown registry registry'
        (registry.unknown identifier c) (registry'.unknown identifier c') := by
  cases hnone' : registry'.lookup identifier with
  | some kind =>
    have hknown : registry'.lookup identifier ≠ none := hnone'.trans_ne (Option.some_ne_none kind)
    exact .inl ⟨identifier, c, hnone, hknown, rfl⟩
  | none =>
    have hsame : registry'.unknown identifier c' = registry'.unknown identifier c := by
      rw [Registry.unknown, Scan.errorAt, hoffset]
      rfl
    exact .inr ⟨rfl, identifier, c, hnone, hnone', rfl, hsame⟩

/-- What becomes of an error where another registry is asked. -/
def askingErrors (registry registry' : Registry) : ErrorChange CompileError where
  becomes e e' := e' = e ∨ BothUnknown registry registry' e e'
  loose := UnknownFirst registry registry'

/-- Corresponding places are the same place, as another error tells. -/
theorem offset_eq_of_corresponds {c c' : Cursor}
    (h : Corresponds id (askingErrors registry registry') c c') : c'.offset = c.offset := by
  rcases h.errorAt .emptyCalculator with hsame | ⟨_, _, -, -, hunknown, -⟩
  · exact congrArg QueryError.offset (CompileError.query.inj hsame)
  · cases hunknown

theorem corresponds_self (c : Cursor) :
    Corresponds id (askingErrors registry registry') c c :=
  ⟨rfl, fun kind => .inl (by rw [QueryErrorKind.respell_id])⟩

/-- A registry that knows more is asked. -/
def asking (h : registry'.Extends registry) : Change where
  registry := registry
  registry' := registry'
  char := id
  move := id
  errors := askingErrors registry registry'
  note := id
  rebrackets := .same
  corresponds := corresponds_self
  step h := h
  ends := .inr fun _ => rfl
  begins _ h := .inr ⟨h, .inl rfl⟩
  knows := h
  unknown hc hnone :=
    (unknown_of_lookup_eq_none hnone (offset_eq_of_corresponds hc)).imp id fun hboth =>
      ⟨hboth.1, .inr hboth.2⟩
  note_unexpected _ := id_eq _

def askingTree (h : registry'.Extends registry) : TreeChange :=
  (asking h).keepingNodes rfl False nofun

/-! ## Compilations -/

/-- With a greater registry a compilation comes to the same, unless it ended at a name
that was not known. If that is not known still, it ends there again. -/
theorem compile_of_extends (h : registry'.Extends registry) (source : String) :
    compile registry' source = compile registry source ∨
      ∃ identifier start ds, registry.lookup identifier = none ∧
        compile registry source = ⟨.error (registry.unknown identifier start), ds⟩ ∧
        (registry'.lookup identifier = none →
          compile registry' source = ⟨.error (registry'.unknown identifier start), ds⟩) := by
  unfold compile
  cases Cursor.ofString? source with
  | none => exact .inl rfl
  | some c =>
    have hnote (ds : List Diagnostic) : ds.map (askingTree h).note = ds := List.map_id ds
    dsimp only
    generalize hx : compileFrom registry c = x
    generalize hy : compileFrom registry' c = y
    cases (askingTree h).alongside_compileFrom hx hy with
    | ok q ds =>
      rw [hnote, TreeChange.query_of_node_eq rfl, Option.map_id]
      exact .inl rfl
    | @error e e' hbecomes ds =>
      rw [hnote]
      rcases hbecomes with rfl | ⟨identifier, start, hmissing, -, rfl, rfl⟩
      · exact .inl rfl
      · exact .inr ⟨identifier, start, ds, hmissing, rfl, fun _ => rfl⟩
    | @loose e ds _ hloose =>
      obtain ⟨identifier, start, hmissing, hknown, rfl⟩ := hloose
      exact .inr ⟨identifier, start, ds, hmissing, rfl, fun hnone => absurd hnone hknown⟩

/-- Of a registry only the look-ups count: what was known may be looked up in a greater
registry, and the names that it proposes appear in one place of one error. -/
theorem compile_decided_by_lookup (registry registry' : Registry) (source : String) :
    (registry'.Extends registry →
      (∀ identifier suggestion offset, (compile registry source).outcome ≠
        .error (.query ⟨.unknownFilter identifier suggestion, offset⟩)) →
      compile registry' source = compile registry source) ∧
    ((∀ identifier, registry'.lookup identifier = registry.lookup identifier) →
      compile registry' source = compile registry source ∨
      ∃ identifier offset ds, registry.lookup identifier = none ∧
        compile registry source = ⟨.error (.query
          ⟨.unknownFilter identifier (registry.suggest identifier), offset⟩), ds⟩ ∧
        compile registry' source = ⟨.error (.query
          ⟨.unknownFilter identifier (registry'.suggest identifier), offset⟩), ds⟩) := by
  refine ⟨fun hextends hne => ?_, fun heq => ?_⟩
  · rcases compile_of_extends hextends source with hsame | ⟨identifier, start, ds, -, h, -⟩
    · exact hsame
    · exact absurd (congrArg Compilation.outcome h) (hne _ _ _)
  · have hextends := Registry.extends_of_lookup_eq heq
    rcases compile_of_extends hextends source with
      hsame | ⟨identifier, start, ds, hmissing, h, h'⟩
    · exact .inl hsame
    · exact .inr ⟨identifier, start.offset, ds, hmissing, h, h' ((heq identifier).trans hmissing)⟩

/-- One more filter makes no difference to a query without it; and a name that is not
known is not known either where nothing is proposed. -/
theorem compile_decided_by_lookup_reply_count :
    let registry := FilterSet.builtin.registry
    let more := (FilterSet.builtin.insert ⟨"reply_count", .numerical⟩).registry
    let mute : Registry := { registry with identifiers := [] }
    let known := "\x7btext:\"a\"\x7d"
    let unknown := "\x7btxt:\"a\"\x7d"
    more.Extends registry ∧ compile more known = compile registry known ∧
      (∀ identifier, mute.lookup identifier = registry.lookup identifier) ∧
      compile mute unknown ≠ compile registry unknown ∧
      ∃ identifier offset ds, registry.lookup identifier = none ∧
        compile registry unknown = ⟨.error (.query
          ⟨.unknownFilter identifier (registry.suggest identifier), offset⟩), ds⟩ ∧
        compile mute unknown = ⟨.error (.query
          ⟨.unknownFilter identifier (mute.suggest identifier), offset⟩), ds⟩ := by
  -- evaluated before the abbreviations are in the context, which is far quicker
  have hknown : compile FilterSet.builtin.registry "\x7btext:\"a\"\x7d" =
      ⟨.ok (some ⟨[.filter ⟨"text", .text, .includes, "a", none⟩]⟩), []⟩ := by cbv
  have hunknown : compile FilterSet.builtin.registry "\x7btxt:\"a\"\x7d" =
      ⟨.error (.query ⟨.unknownFilter "txt" (some "text"), 1⟩), []⟩ := by cbv
  have hmuted : compile { FilterSet.builtin.registry with identifiers := [] }
      "\x7btxt:\"a\"\x7d" = ⟨.error (.query ⟨.unknownFilter "txt" none, 1⟩), []⟩ := by cbv
  have hnew : FilterSet.builtin.registry.lookup "reply_count" = none := by cbv
  intro registry more mute known unknown
  have hextends : more.Extends registry := by
    intro identifier kind hlookup
    have hne : "reply_count" ≠ identifier := by
      rintro rfl
      rw [show registry.lookup "reply_count" = none from hnew] at hlookup
      cases hlookup
    have hget := FilterSet.get?_insert FilterSet.builtin ⟨"reply_count", .numerical⟩ identifier
    rw [if_neg hne] at hget
    exact (congrArg (Option.map Filter.kind) hget).trans hlookup
  have hmute : ∀ identifier, mute.lookup identifier = registry.lookup identifier :=
    fun _ => rfl
  have hdiffer : compile mute unknown ≠ compile registry unknown := by
    rw [show compile mute unknown = _ from hmuted, show compile registry unknown = _ from hunknown]
    simp
  refine ⟨hextends, ?_, hmute, hdiffer, ?_⟩
  · refine (compile_decided_by_lookup registry more known).1 hextends fun _ _ _ herror => ?_
    rw [show compile registry known = _ from hknown] at herror
    cases herror
  · exact ((compile_decided_by_lookup registry mute unknown).2 hmute).resolve_left hdiffer

end FilterQuery
