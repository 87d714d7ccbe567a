import FilterQuery.Proofs.Language
import FilterQuery.Proofs.Results

/-!
# Two scans side by side

A scan is made twice: over two texts that have something to do with each other, or with two
registries. It starts at corresponding places, and it comes to corresponding results. That
is proved once for each scan, along its recursion, for all the ways in which the texts and
the registries may differ.

Such a way is a `Change`. It says where a cursor of the first text stands in the second one,
and what becomes of an error. The characters may change a little: a bracket may be another
bracket of the same side, so that no decision of a scan changes with it, and no more is seen
of it than in the words of an error or an argument. The second text may be the longer one.
Then the first scan may run out of characters where the second one does not, and such errors
are loose.
-/

namespace FilterQuery

/-! ## Errors -/

/-- An error that says that the text stops too early. -/
def QueryErrorKind.mendable : QueryErrorKind → Bool
  | .missingRootObject none | .unterminatedObject | .unterminatedFilter _
  | .unterminatedCalculator | .missingArgument _ | .unterminatedArgument _ _ => true
  | _ => false

/-- An error that says that the text stops too early. -/
def CompileError.mendable : CompileError → Bool
  | .fault _ => false
  | .query e => e.kind.mendable

/-- The error with other characters in what it shows of the text. Of the errors that show
characters of the text, three can show one that is no letter. -/
def QueryErrorKind.respell (f : Char → Char) : QueryErrorKind → QueryErrorKind
  | .missingRootObject found => .missingRootObject (found.map f)
  | .unknownOperator filter symbol => .unknownOperator filter (symbol.map f)
  | .unknownArithmetic symbol => .unknownArithmetic (f symbol)
  | kind => kind

theorem QueryErrorKind.respell_id (kind : QueryErrorKind) : kind.respell id = kind := by
  cases kind with
  | missingRootObject found => rw [respell, Option.map_id, id]
  | unknownOperator filter symbol => rw [respell, String.map_id]
  | _ => rfl

theorem QueryErrorKind.respell_of_mendable {f : Char → Char} {kind : QueryErrorKind}
    (h : kind.mendable) : kind.respell f = kind := by
  cases kind with
  | missingRootObject found =>
    cases found with
    | none => rfl
    | some c => cases h
  | unknownOperator => cases h
  | unknownArithmetic => cases h
  | _ => rfl

theorem mendable_unfinishedArgument (filter : String) (opened : Bool) (found : String) :
    (Scan.unfinishedArgument filter opened found).mendable := by
  cases opened <;> rfl

namespace Registry

/-- The registry knows every name that `lesser` knows, with the same kind. -/
def Extends (registry lesser : Registry) : Prop :=
  ∀ identifier kind, lesser.lookup identifier = some kind →
    registry.lookup identifier = some kind

/-- The error that the name under `start` is not known. -/
def unknown (registry : Registry) (identifier : String) (start : Cursor) : CompileError :=
  Scan.errorAt start (.unknownFilter identifier (registry.suggest identifier))

end Registry

/-! ## Characters -/

/-- A bracket may become another bracket of the same side; any other character stays. -/
def Rebrackets (f : Char → Char) : Prop :=
  ∀ c, f c = c ∨
    classify (f c) = classify c ∧ (classify c = .openBracket ∨ classify c = .closeBracket)

section Words

variable (f : Char → Char) (s : String)

theorem map_push (c : Char) : (s.push c).map f = (s.map f).push (f c) := by
  rw [← String.toList_inj]
  simp

theorem isEmpty_map : (s.map f).isEmpty = s.isEmpty := by
  rw [Bool.eq_iff_iff, String.isEmpty_iff, String.isEmpty_iff, ← String.toList_eq_nil_iff,
    ← String.toList_eq_nil_iff]
  simp

end Words

namespace Rebrackets

theorem same : Rebrackets id :=
  fun _ => .inl rfl

variable {f : Char → Char} (hf : Rebrackets f)

include hf

theorem classify_eq (c : Char) : classify (f c) = classify c := by
  rcases hf c with h | ⟨h, -⟩
  · rw [h]
  · exact h

theorem eq_self {c : Char} (hopen : classify c ≠ .openBracket)
    (hclose : classify c ≠ .closeBracket) : f c = c := by
  rcases hf c with h | ⟨-, h | h⟩
  · exact h
  · exact absurd h hopen
  · exact absurd h hclose

theorem eq_self_of_other {c : Char} (h : classify c = .other) : f c = c :=
  hf.eq_self (by simp [h]) (by simp [h])

/-- A test that no bracket passes. -/
theorem test_eq {p : Char → Bool} (hp : ∀ {c}, p c → classify c = .other) (c : Char) :
    p (f c) = p c := by
  rw [Bool.eq_iff_iff]
  constructor
  · intro h
    have hother : classify c = .other := (hf.classify_eq c).symm.trans (hp h)
    rwa [hf.eq_self_of_other hother] at h
  · intro h
    rwa [hf.eq_self_of_other (hp h)]

theorem isIdentifierChar_eq (c : Char) : isIdentifierChar (f c) = isIdentifierChar c :=
  hf.test_eq classify_of_isIdentifierChar c

theorem isDigit_eq (c : Char) : (f c).isDigit = c.isDigit :=
  hf.test_eq (p := Char.isDigit) classify_of_isDigit c

theorem isOperandChar_eq (c : Char) : Scan.isOperandChar (f c) = Scan.isOperandChar c := by
  rw [Scan.isOperandChar, hf.classify_eq, hf.isIdentifierChar_eq, hf.isDigit_eq]
  rfl

/-- A word that takes in only characters that no bracket is among. -/
theorem ite_push_eq {p : Char → Bool} (hp : ∀ {c}, p c → classify c = .other) (s : String)
    (c : Char) : (if p c then s.push (f c) else s) = if p c then s.push c else s := by
  split
  next h => rw [hf.eq_self_of_other (hp h)]
  next => rfl

theorem decodeEscape_eq (c : Char) :
    Scan.decodeEscape (f c) = f (Scan.decodeEscape c) := by
  rcases hf c with h | ⟨hsame, hbracket⟩
  · rw [h]
    unfold Scan.decodeEscape
    split
    · exact (hf.eq_self (by decide) (by decide)).symm
    · exact (hf.eq_self (by decide) (by decide)).symm
    · exact h.symm
  · -- brackets stand for themselves
    have hself {x : Char} (hx : classify x = classify c) : Scan.decodeEscape x = x := by
      unfold Scan.decodeEscape
      split
      · rcases hbracket with h | h <;> rw [h] at hx <;> cases hx
      · rcases hbracket with h | h <;> rw [h] at hx <;> cases hx
      · rfl
    rw [hself hsame, hself rfl]

theorem arithmetic_eq (c : Char) : Arithmetic.ofSymbol? (f c) = Arithmetic.ofSymbol? c := by
  have hiff {x : Char} {k : Arithmetic} :
      Arithmetic.ofSymbol? x = some k ↔ (x == k.symbol) = true := by
    rw [beq_iff_eq]
    exact ⟨Arithmetic.symbol_of_ofSymbol?, fun h => h ▸ Arithmetic.ofSymbol?_symbol k⟩
  ext k
  have hother {x : Char} (hx : (x == k.symbol) = true) : classify x = .other := by
    rw [beq_iff_eq.mp hx]
    cases k <;> rfl
  rw [hiff, hiff, hf.test_eq (p := (· == k.symbol)) hother]

theorem map_eq_symbol_iff {s : String} {k : Comparison} :
    s.map f = k.symbol ↔ s = k.symbol := by
  have hother : ∀ c ∈ k.symbol.toList, classify c = .other := by
    cases k <;> simp [Comparison.symbol, classify]
  rw [← String.toList_inj, ← String.toList_inj, String.toList_map]
  constructor
  · intro h
    have hfixed : ∀ c ∈ s.toList, f c = c := by
      intro c hc
      have hmem : f c ∈ k.symbol.toList := h ▸ List.mem_map_of_mem hc
      exact hf.eq_self_of_other ((hf.classify_eq c).symm.trans (hother _ hmem))
    rw [← h, List.map_congr_left hfixed, List.map_id']
  · intro h
    rw [h, List.map_congr_left fun c hc => hf.eq_self_of_other (hother c hc), List.map_id']

/-- No comparison has a bracket in its symbol, so the brackets of a symbol do not count. -/
theorem comparison_eq (s : String) :
    Comparison.ofSymbol? (s.map f) = Comparison.ofSymbol? s := by
  have hiff {s : String} {k : Comparison} : Comparison.ofSymbol? s = some k ↔ s = k.symbol :=
    ⟨Comparison.symbol_of_ofSymbol?, fun h => h ▸ Comparison.ofSymbol?_symbol k⟩
  ext k
  rw [hiff, hiff, hf.map_eq_symbol_iff]

end Rebrackets

/-! ## Changes -/

/-- A cursor of the second text has what one of the first has: the character that stands under
it, and the place in the text, as far as errors tell. -/
structure Corresponds (char : Char → Char) (errors : ErrorChange CompileError) (c c' : Cursor) :
    Prop where
  current : c'.current = char c.current
  errorAt : ∀ kind : QueryErrorKind,
    errors.becomes (Scan.errorAt c kind) (Scan.errorAt c' (kind.respell char))

/-- Nothing is said of errors that say that the first text stops too early. -/
def OpenEnded (errors : ErrorChange CompileError) : Prop :=
  ∀ (c : Cursor) (kind : QueryErrorKind), kind.mendable → errors.loose (Scan.errorAt c kind)

/-- How a second compilation differs from a first one. -/
structure Change where
  /-- The registry of the first compilation. -/
  registry : Registry
  /-- The registry of the second one. -/
  registry' : Registry
  /-- The character of the second text in place of one of the first. -/
  char : Char → Char
  /-- Where a cursor stands in the second text. -/
  move : Cursor → Cursor
  /-- What becomes of errors. -/
  errors : ErrorChange CompileError
  /-- What becomes of diagnostics. -/
  note : Diagnostic → Diagnostic
  rebrackets : Rebrackets char
  corresponds : ∀ c, Corresponds char errors c (move c)
  step : ∀ {c d : Cursor}, c.Reads [d.current] d → (move c).Reads [(move d).current] (move d)
  /-- The second text may be longer, if errors at the end of the first one are loose. -/
  ends : OpenEnded errors ∨ ∀ c, (move c).remaining = c.remaining
  /-- There may be more text before the second one. -/
  begins : ∀ c : Cursor, c.before = [] → errors.loose (.fault .beforeStart) ∨
    (move c).before = [] ∧ errors.becomes (.fault .beforeStart) (.fault .beforeStart)
  knows : registry'.Extends registry
  unknown : ∀ {identifier c c'}, Corresponds char errors c c' →
    registry.lookup identifier = none →
    errors.loose (registry.unknown identifier c) ∨ registry'.lookup identifier = none ∧
      errors.becomes (registry.unknown identifier c) (registry'.unknown identifier c')
  note_unexpected : ∀ c : Cursor, note (.unexpectedCharacter c.current c.offset) =
    .unexpectedCharacter (move c).current (move c).offset

namespace Change

open Scan

variable {α β : Type} (T : Change)

/-- A cursor of the second text corresponds to one of the first. -/
abbrev At (c c' : Cursor) : Prop :=
  Corresponds T.char T.errors c c'

/-- What the second scan comes to, in terms of what the first does. -/
abbrev Agrees (V : α → β → Prop) : Except CompileError α → Except CompileError β → Prop :=
  Compares T.errors V

/-- A value and the place where its scan ends. -/
def Ends (V : α → β → Prop) (s : α × Cursor) (s' : β × Cursor) : Prop :=
  V s.1 s'.1 ∧ s'.2 = T.move s.2

theorem currentClass_of_at {T : Change} {c c' : Cursor} (h : T.At c c') :
    c'.currentClass = c.currentClass := by
  rw [Cursor.currentClass, h.current, T.rebrackets.classify_eq]
  rfl

@[simp] theorem current_move (c : Cursor) : (T.move c).current = T.char c.current :=
  (T.corresponds c).current

@[simp] theorem currentClass_move (c : Cursor) : (T.move c).currentClass = c.currentClass :=
  currentClass_of_at (T.corresponds c)

variable {T} {c c' d : Cursor}

/-- An error that shows no character of the text. -/
theorem agrees_errorAt {V : α → β → Prop} (h : T.At c c') {kind : QueryErrorKind}
    (hkind : kind.respell T.char = kind) :
    T.Agrees V (.error (errorAt c kind)) (.error (errorAt c' kind)) := by
  have hbecomes := h.errorAt kind
  rw [hkind] at hbecomes
  exact .error hbecomes

/-! ## Steps -/

variable {missing : QueryErrorKind} {e : CompileError}

theorem stepForward_ok (h : stepForward c missing = .ok d) :
    stepForward (T.move c) missing = .ok (T.move d) :=
  stepForward_eq_ok_iff.mpr (T.step (stepForward_eq_ok_iff.mp h))

theorem stepOn_ok (h : stepOn c = .ok d) : stepOn (T.move c) = .ok (T.move d) :=
  stepOn_eq_ok_iff.mpr (T.step (stepOn_eq_ok_iff.mp h))

theorem stepForward_error (hmissing : missing.mendable) (h : stepForward c missing = .error e) :
    T.errors.loose e ∨
      ∃ e', stepForward (T.move c) missing = .error e' ∧ T.errors.becomes e e' := by
  obtain ⟨hnil, rfl⟩ := stepForward_eq_error_iff.mp h
  rcases T.ends with hloose | hremaining
  · exact .inl (hloose c missing hmissing)
  · have hlength : (T.move c).remaining = 0 := by rw [hremaining, Cursor.remaining, hnil]; rfl
    have hbecomes := (T.corresponds c).errorAt missing
    rw [QueryErrorKind.respell_of_mendable hmissing] at hbecomes
    exact .inr ⟨_, stepForward_of_after_nil (List.eq_nil_of_length_eq_zero hlength), hbecomes⟩

/-- A scan that ends with the first text. In the second one it ends in the same way, unless there
is more of that. -/
theorem agrees_of_stepForward_error {V : α → β → Prop} {y : Except CompileError β}
    (hmissing : missing.mendable) (h : stepForward c missing = .error e)
    (hy : ∀ e', stepForward (T.move c) missing = .error e' → y = .error e') :
    T.Agrees V (.error e) y := by
  rcases stepForward_error (T := T) hmissing h with hloose | ⟨e', h', hbecomes⟩
  · exact .loose hloose y
  · rw [hy e' h']
    exact .error hbecomes

theorem agrees_stepForward (hmissing : missing.mendable) (c : Cursor) :
    T.Agrees (fun d d' => d' = T.move d) (stepForward c missing)
      (stepForward (T.move c) missing) := by
  cases h : stepForward c missing with
  | ok d =>
    rw [stepForward_ok h]
    exact .ok rfl
  | error e => exact agrees_of_stepForward_error hmissing h fun _ h' => h'

theorem agrees_stepBack (c : Cursor) :
    T.Agrees (fun d d' => d' = T.move d) (stepBack c) (stepBack (T.move c)) := by
  cases h : stepBack c with
  | ok d =>
    rw [stepBack_eq_ok_iff.mpr (T.step (stepBack_eq_ok_iff.mp h))]
    exact .ok rfl
  | error e =>
    have hrefused {c : Cursor} (hc : c.before = []) :
        stepBack c = .error (.fault .beforeStart) := by
      rw [stepBack, Cursor.retreat, hc]
      rfl
    have hfirst : c.before = [] := by
      obtain ⟨before, x, after⟩ := c
      cases before with
      | nil => rfl
      | cons => cases h
    rw [hrefused hfirst] at h
    cases h
    rcases T.begins c hfirst with hloose | ⟨hfirst', hbecomes⟩
    · exact .loose hloose _
    · rw [hrefused hfirst']
      exact .error hbecomes

/-! ## Filters -/

theorem agrees_identifier (found : String) (c : Cursor) :
    T.Agrees (T.Ends Eq) (identifier found c) (identifier found (T.move c)) := by
  fun_induction identifier found c with
  | case1 found c e step =>
    refine agrees_of_stepForward_error rfl step fun e' step' => ?_
    rw [identifier.eq_def found (T.move c), step']
  | case2 found c d step hclose =>
    rw [identifier.eq_def found (T.move c), stepForward_ok step]
    simp only [currentClass_move, hclose]
    exact agrees_errorAt (T.corresponds d) rfl
  | case3 found c d step hletter _ ih =>
    rw [identifier.eq_def found (T.move c), stepForward_ok step]
    simp only [currentClass_move, current_move, hletter,
      T.rebrackets.eq_self_of_other (classify_of_isIdentifierChar hletter)]
    exact ih
  | case4 found c d step hother _ =>
    rw [identifier.eq_def found (T.move c), stepForward_ok step]
    simp only [currentClass_move, current_move, T.rebrackets.isIdentifierChar_eq, hother]
    exact .ok ⟨rfl, rfl⟩

theorem agrees_resolve (identifier : String) (h : T.At c c') :
    T.Agrees Eq (resolve T.registry identifier c) (resolve T.registry' identifier c') := by
  unfold resolve
  cases hlookup : T.registry.lookup identifier with
  | some kind =>
    rw [T.knows identifier kind hlookup]
    exact .ok rfl
  | none =>
    rcases T.unknown h hlookup with hloose | ⟨hnone, hbecomes⟩
    · exact .loose hloose _
    · rw [hnone]
      exact .error hbecomes

variable (T) in
/-- What the scan of an operator has found, in the second text. -/
def symbol (found : Symbol) : Symbol :=
  ⟨T.move found.start, found.text.map T.char⟩

theorem extend_symbol (found : Option Symbol) (d : Cursor) :
    Symbol.extend (found.map T.symbol) (T.move d) = T.symbol (Symbol.extend found d) := by
  cases found with
  | none =>
    have htext : d.current.toString.map T.char = (T.char d.current).toString := by
      rw [← String.toList_inj]
      simp [Char.toString]
    rw [Option.map_none, Symbol.extend, Symbol.extend, symbol, htext, current_move]
  | some s => simp [Symbol.extend, symbol, map_push]

theorem agrees_symbol (filter : String) (found : Option Symbol) (c : Cursor) :
    T.Agrees (T.Ends fun s s' => s' = s.map T.symbol) (Scan.symbol filter found c)
      (Scan.symbol filter (found.map T.symbol) (T.move c)) := by
  fun_induction Scan.symbol filter found c with
  | case1 found c e step =>
    refine agrees_of_stepForward_error rfl step fun e' step' => ?_
    rw [Scan.symbol.eq_def filter _ (T.move c), step']
  | case2 found c d step hblank hfound =>
    rw [Scan.symbol.eq_def filter _ (T.move c), stepForward_ok step]
    simp only [currentClass_move, hblank, Option.isSome_map, hfound]
    exact .ok ⟨rfl, rfl⟩
  | case3 found c d step hblank hfound ih =>
    rw [Scan.symbol.eq_def filter _ (T.move c), stepForward_ok step]
    simp only [currentClass_move, hblank, Option.isSome_map, hfound]
    exact ih
  | case4 found c d step hquote =>
    rw [Scan.symbol.eq_def filter _ (T.move c), stepForward_ok step]
    simp only [currentClass_move, hquote]
    exact .ok ⟨rfl, rfl⟩
  | case5 found c d step hclose =>
    rw [Scan.symbol.eq_def filter _ (T.move c), stepForward_ok step]
    simp only [currentClass_move, hclose, Option.isSome_map]
    exact agrees_errorAt (T.corresponds d) (by split <;> rfl)
  | case6 found c d step hletter _ _ _ =>
    rw [Scan.symbol.eq_def filter _ (T.move c), stepForward_ok step]
    simp only [currentClass_move, current_move, T.rebrackets.isIdentifierChar_eq, hletter]
    exact .ok ⟨rfl, rfl⟩
  | case7 found c d step hletter _ _ _ ih =>
    rw [Scan.symbol.eq_def filter _ (T.move c), stepForward_ok step]
    simp only [currentClass_move, current_move, T.rebrackets.isIdentifierChar_eq, hletter,
      extend_symbol]
    exact ih

theorem agrees_comparison (filter : String) (c : Cursor) :
    T.Agrees (T.Ends Eq) (comparison filter c) (comparison filter (T.move c)) := by
  unfold comparison
  refine (agrees_symbol filter none c).bind fun (found, d) (found', d') ⟨hfound, hd⟩ => ?_
  subst hfound hd
  cases found with
  | none => exact agrees_errorAt (T.corresponds d) rfl
  | some s =>
    refine (agrees_stepBack d).bind fun m m' hm => ?_
    subst hm
    simp only [symbol, T.rebrackets.comparison_eq]
    split
    · exact .ok ⟨rfl, rfl⟩
    · exact .error ((T.corresponds s.start).errorAt _)

theorem unfinishedArgument_map (filter : String) (opened : Bool) (found : String) :
    unfinishedArgument filter opened (found.map T.char) =
      unfinishedArgument filter opened found := by
  rw [unfinishedArgument, isEmpty_map, unfinishedArgument]

theorem agrees_argument (filter : String) (opened : Bool) (found : String) (c : Cursor) :
    T.Agrees (T.Ends fun a a' => a' = a.map T.char) (argument filter opened found c)
      (argument filter opened (found.map T.char) (T.move c)) := by
  have hmendable := mendable_unfinishedArgument filter
  fun_induction argument filter opened found c with
  | case1 opened found c e step =>
    refine agrees_of_stepForward_error (hmendable _ _) step fun e' step' => ?_
    rw [argument.eq_def filter _ _ (T.move c), unfinishedArgument_map, step']
  | case2 opened found c d step hblank ih =>
    rw [argument.eq_def filter _ _ (T.move c), unfinishedArgument_map, stepForward_ok step]
    simp only [currentClass_move, hblank]
    exact ih
  | case3 opened found c d step hescape e step' =>
    refine agrees_of_stepForward_error (hmendable _ _) step' fun e' hstep' => ?_
    rw [argument.eq_def filter _ _ (T.move c), unfinishedArgument_map, stepForward_ok step]
    simp only [currentClass_move, hescape]
    rw [hstep']
  | case4 opened found c d step hescape e step' ih =>
    rw [argument.eq_def filter _ _ (T.move c), unfinishedArgument_map, stepForward_ok step]
    simp only [currentClass_move, hescape]
    rw [stepForward_ok step']
    simp only [current_move, T.rebrackets.decodeEscape_eq, ← map_push]
    exact ih
  | case5 found c d hquote step =>
    rw [argument.eq_def filter _ _ (T.move c), unfinishedArgument_map, stepForward_ok step]
    simp only [currentClass_move, hquote]
    exact .ok ⟨rfl, rfl⟩
  | case6 opened found c d step hquote hopened ih =>
    rw [argument.eq_def filter _ _ (T.move c), unfinishedArgument_map, stepForward_ok step]
    simp only [currentClass_move, hquote, hopened]
    exact ih
  | case7 opened found c d step hclose =>
    rw [argument.eq_def filter _ _ (T.move c), unfinishedArgument_map, stepForward_ok step]
    simp only [currentClass_move, hclose]
    exact agrees_errorAt (T.corresponds d) (QueryErrorKind.respell_of_mendable (hmendable _ _))
  | case8 opened found c d step _ _ _ _ ih =>
    rw [argument.eq_def filter _ _ (T.move c), unfinishedArgument_map, stepForward_ok step]
    simp only [currentClass_move, current_move, ← map_push, ← apply_ite]
    exact ih

/-! ## Calculators -/

theorem agrees_operandParts (letters digits : String) (c : Cursor) :
    T.Agrees (T.Ends Eq) (operandParts letters digits c)
      (operandParts letters digits (T.move c)) := by
  have hletters := T.rebrackets.ite_push_eq @classify_of_isIdentifierChar
  have hdigits := T.rebrackets.ite_push_eq (p := Char.isDigit) @classify_of_isDigit
  fun_induction operandParts letters digits c with
  | case1 letters digits c hpart e step =>
    refine agrees_of_stepForward_error rfl step fun e' step' => ?_
    rw [operandParts.eq_def _ _ (T.move c), step']
    simp only [current_move, T.rebrackets.isOperandChar_eq, hpart]
    rfl
  | case2 letters digits c hpart d step ih =>
    rw [operandParts.eq_def _ _ (T.move c), stepForward_ok step]
    simp only [current_move, T.rebrackets.isOperandChar_eq, hpart,
      T.rebrackets.isIdentifierChar_eq, T.rebrackets.isDigit_eq, hletters, hdigits]
    exact ih
  | case3 letters digits c hpart hclose =>
    rw [operandParts.eq_def _ _ (T.move c)]
    simp only [current_move, T.rebrackets.isOperandChar_eq, hpart, currentClass_move, hclose]
    exact .ok ⟨rfl, rfl⟩
  | case4 letters digits c hpart hclose k hk =>
    rw [operandParts.eq_def _ _ (T.move c)]
    simp only [current_move, T.rebrackets.isOperandChar_eq, hpart, currentClass_move, hclose,
      T.rebrackets.arithmetic_eq, hk]
    exact .ok ⟨rfl, rfl⟩
  | case5 letters digits c hpart hclose hk =>
    rw [operandParts.eq_def _ _ (T.move c)]
    simp only [current_move, T.rebrackets.isOperandChar_eq, hpart, currentClass_move, hclose,
      T.rebrackets.arithmetic_eq, hk]
    exact .error ((T.corresponds c).errorAt _)

theorem agrees_operandValue (letters digits : String) (h : T.At c c') :
    T.Agrees Eq (operandValue T.registry letters digits c)
      (operandValue T.registry' letters digits c') := by
  unfold operandValue
  split
  · exact .ok rfl
  · refine (agrees_resolve letters h).bind fun kind kind' hkind => ?_
    subst hkind
    cases kind with
    | numerical => exact .ok rfl
    | text => exact agrees_errorAt h rfl
  · exact agrees_errorAt h rfl

theorem agrees_operand (c : Cursor) :
    T.Agrees (T.Ends Eq) (operand T.registry c) (operand T.registry' (T.move c)) := by
  unfold operand
  refine (agrees_operandParts "" "" c).bind fun (parts, d) (parts', d') ⟨hparts, hd⟩ => ?_
  obtain rfl : parts = parts' := hparts
  obtain ⟨letters, digits, k⟩ := parts
  refine (agrees_operandValue letters digits (T.corresponds c)).bind fun value _ hvalue => ?_
  subst hvalue
  exact .ok ⟨rfl, hd⟩

/-- No character is missing in the second text. -/
theorem remaining_le_move (c : Cursor) : c.remaining ≤ (T.move c).remaining := by
  induction hn : c.remaining generalizing c with
  | zero => exact Nat.zero_le _
  | succ n ih =>
    obtain ⟨x, rest, hafter⟩ := List.exists_cons_of_length_eq_add_one hn
    obtain ⟨d, hd, hrest⟩ := Cursor.exists_step hafter
    have hd := hd.current_eq_of_step ▸ hd
    have hmoved := (T.step hd).remaining_eq
    have hleft := hd.remaining_eq
    have := ih d (by simp at hleft; omega)
    simp at hmoved
    omega

theorem hasTwoNext_move (h : c.hasTwoNext) : (T.move c).hasTwoNext := by
  have hle := remaining_le_move (T := T) c
  rw [Cursor.hasTwoNext_iff] at h ⊢
  omega

theorem agrees_operands (found : List Operand) (c : Cursor) :
    T.Agrees (T.Ends Eq) (operands T.registry found c)
      (operands T.registry' found (T.move c)) := by
  fun_induction operands T.registry found c with
  | case1 found c htwo e step => exact absurd step (stepOn_ne_error htwo)
  | case2 found c htwo d step hblank ih =>
    rw [operands.eq_def T.registry' _ (T.move c), if_pos (hasTwoNext_move htwo), stepOn_ok step]
    simp only [currentClass_move, hblank]
    exact ih
  | case3 found c htwo d step hopen ih =>
    rw [operands.eq_def T.registry' _ (T.move c), if_pos (hasTwoNext_move htwo), stepOn_ok step]
    simp only [currentClass_move, hopen]
    exact ih
  | case4 found c htwo d step hclose =>
    rw [operands.eq_def T.registry' _ (T.move c), if_pos (hasTwoNext_move htwo), stepOn_ok step]
    simp only [currentClass_move, hclose]
    exact .ok ⟨rfl, rfl⟩
  | case5 found c htwo d step e hone _ _ _ =>
    rw [operands.eq_def T.registry' _ (T.move c), if_pos (hasTwoNext_move htwo), stepOn_ok step]
    simp only [currentClass_move]
    rcases (agrees_operand d).eq_error hone with hloose | ⟨e', hone', hbecomes⟩
    · exact .loose hloose _
    · rw [hone']
      exact .error hbecomes
  | case6 found c htwo d step one e hone hclose _ _ _ =>
    rw [operands.eq_def T.registry' _ (T.move c), if_pos (hasTwoNext_move htwo), stepOn_ok step]
    simp only [currentClass_move]
    obtain ⟨⟨_, _⟩, hone', rfl, rfl⟩ := (agrees_operand d).eq_ok hone
    rw [hone']
    simp only [currentClass_move, hclose]
    exact .ok ⟨rfl, rfl⟩
  | case7 found c htwo d step one e hone hclose _ _ _ ih =>
    rw [operands.eq_def T.registry' _ (T.move c), if_pos (hasTwoNext_move htwo), stepOn_ok step]
    simp only [currentClass_move]
    obtain ⟨⟨_, _⟩, hone', rfl, rfl⟩ := (agrees_operand d).eq_ok hone
    rw [hone']
    simp only [currentClass_move, hclose]
    exact ih
  | case8 found c htwo =>
    rcases T.ends with hloose | hremaining
    · exact .loose (hloose c _ rfl) _
    · have htwo' : ¬ (T.move c).hasTwoNext := by
        rwa [Cursor.hasTwoNext_iff, hremaining, ← Cursor.hasTwoNext_iff]
      rw [operands.eq_def T.registry' _ (T.move c), if_neg htwo']
      exact agrees_errorAt (T.corresponds c) rfl

/-! ## The connector and the root -/

/-- The search has noted the same in both texts, or it has come to the end of the first one. -/
theorem agrees_connector (c : Cursor) :
    ((connector (T.move c)).1 = (connector c).1.map T.note ∧
      T.Agrees (T.Ends Eq) (connector c).2 (connector (T.move c)).2) ∨
    (connector c).1.map T.note <+: (connector (T.move c)).1 ∧
      ∃ e, (connector c).2 = .error e ∧ T.errors.loose e := by
  have hstop (k : Option Connector) (d : Cursor) :
      T.Agrees (T.Ends Eq) ((stepBack d).map (k, ·)) ((stepBack (T.move d)).map (k, ·)) :=
    (agrees_stepBack d).map fun _ _ h => ⟨rfl, h⟩
  fun_induction connector c with
  | case1 c e step =>
    rcases stepForward_error (T := T) rfl step with hloose | ⟨e', step', hbecomes⟩
    · exact .inr ⟨List.nil_prefix, e, rfl, hloose⟩
    · rw [connector.eq_def (T.move c), step']
      exact .inl ⟨rfl, .error hbecomes⟩
  | case2 c d step hblank ih =>
    rw [connector.eq_def (T.move c), stepForward_ok step]
    simp only [currentClass_move, hblank]
    exact ih
  | case3 c d step stop hclose =>
    rw [connector.eq_def (T.move c), stepForward_ok step]
    simp only [currentClass_move, hclose]
    exact .inl ⟨rfl, hstop _ d⟩
  | case4 c d step stop hand =>
    rw [connector.eq_def (T.move c), stepForward_ok step]
    simp only [currentClass_move, hand]
    exact .inl ⟨rfl, hstop _ d⟩
  | case5 c d step stop hor =>
    rw [connector.eq_def (T.move c), stepForward_ok step]
    simp only [currentClass_move, hor]
    exact .inl ⟨rfl, hstop _ d⟩
  | case6 c d step stop hxor =>
    rw [connector.eq_def (T.move c), stepForward_ok step]
    simp only [currentClass_move, hxor]
    exact .inl ⟨rfl, hstop _ d⟩
  | case7 c d step skipped outcome hrest _ _ _ _ _ ih =>
    rw [connector.eq_def (T.move c), stepForward_ok step]
    simp only [currentClass_move]
    rw [hrest] at ih
    rw [List.map_cons, T.note_unexpected]
    rcases ih with ⟨hsame, hagrees⟩ | ⟨hfront, hloose⟩
    · exact .inl ⟨congrArg _ hsame, hagrees⟩
    · exact .inr ⟨List.cons_prefix_cons.mpr ⟨rfl, hfront⟩, hloose⟩

theorem agrees_root (c : Cursor) :
    T.Agrees (fun d d' => d' = T.move d) (root c) (root (T.move c)) := by
  fun_induction root c with
  | case1 c hblank e step =>
    refine agrees_of_stepForward_error rfl step fun e' step' => ?_
    rw [root.eq_def (T.move c), step']
    simp only [currentClass_move, hblank]
  | case2 c hblank d step ih =>
    rw [root.eq_def (T.move c), stepForward_ok step]
    simp only [currentClass_move, hblank]
    exact ih
  | case3 c hopen =>
    rw [root.eq_def (T.move c)]
    simp only [currentClass_move, hopen]
    exact .ok rfl
  | case4 c hcounts hclosed =>
    rw [root.eq_def (T.move c)]
    simp only [currentClass_move, current_move]
    exact .error ((T.corresponds c).errorAt _)

end Change

end FilterQuery
