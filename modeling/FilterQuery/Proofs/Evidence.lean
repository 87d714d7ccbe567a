import FilterQuery.Filter.Set
import FilterQuery.Proofs.Failures

/-!
# What an error points at

An error names a place, and what it says about the text can be seen there.
`QueryErrorKind.ShownAt` spells this out, one line for each kind of error, in
terms of the text around the place alone: no scan and no reader occurs in it. The
compiler raises no error but with this evidence (`shown_of_compile_error`).

Some errors are raised where the reader has got to, some at the start of the
construct it was in. For the former the way that a scan ends tells what stands
under the cursor, for the latter the text that was read since. Only the operator
without a right-hand operand needs more: that one was read many turns before the
bracket at which it is missed, and what lies between is an invariant of the loop
over the operands (`Scan.trails_of_operands`).
-/

namespace FilterQuery

open Grammar

namespace Cursor

/-- The text from the cursor on, the character under it included. -/
def onward (c : Cursor) : List Char :=
  c.current :: c.after

/-- Blanks apart, the text from the cursor on begins with this name. -/
def BeginsName (c : Cursor) (name : String) : Prop :=
  name.toList <+: c.onward.filter (classify · ≠ .whitespace)

end Cursor

/-- An operator was read, nearest first, and after it only what does not count among
operands. -/
def Trails (read : List Char) (k : Arithmetic) : Prop :=
  ∃ dropped earlier, read = dropped ++ k.symbol :: earlier ∧
    ∀ a ∈ dropped, classify a = .whitespace ∨ classify a = .openBracket

/-- What can be seen at the place of an error of this kind. -/
def QueryErrorKind.ShownAt (registry : Registry) (c : Cursor) : QueryErrorKind → Prop
  | .missingRootObject (some x) =>
    c.current = x ∧ classify x ≠ .whitespace ∧ classify x ≠ .openBracket ∧ Blanks c.before
  | .missingRootObject none => Blanks c.source ∧ c.after = []
  | .unterminatedObject | .unterminatedFilter _ => c.after = []
  | .unterminatedCalculator => c.remaining ≤ 1
  | .unknownFilter identifier suggestion =>
    registry.lookup identifier = none ∧ suggestion = registry.suggest identifier ∧
      c.BeginsName identifier
  | .missingOperator _ =>
    c.currentClass = .closeBracket ∨ c.current = '"' ∨ isIdentifierChar c.current
  | .unknownOperator _ symbol =>
    symbol ≠ "" ∧ symbol.toList <+: c.onward ∧ Comparison.ofSymbol? symbol = none
  | .missingArgument _ | .unterminatedArgument _ _ =>
    c.currentClass = .closeBracket ∨ c.after = []
  | .danglingConnector k => c.current = k.symbol
  | .missingConnector => StartsNode registry c
  | .invalidOperandType identifier kind =>
    registry.lookup identifier = some kind ∧ kind ≠ .numerical ∧ c.BeginsName identifier
  | .unknownArithmetic symbol => c.current = symbol ∧ Arithmetic.ofSymbol? symbol = none
  | .malformedOperand =>
    let word := c.onward.takeWhile Scan.isOperandChar
    word.filter isIdentifierChar = [] ↔ word.filter Char.isDigit = []
  | .emptyCalculator => c.current = '#'
  | .danglingArithmetic k => c.currentClass = .closeBracket ∧ Trails c.before k
  | .nestingTooDeep limit => c.currentClass = .openBracket ∧ limit = maxNestingDepth

/-- The error is one of the text `source`, and its place shows it. -/
def Shown (registry : Registry) (source : List Char) (e : CompileError) : Prop :=
  ∃ kind c, c.source = source ∧ e = Scan.errorAt c kind ∧ kind.ShownAt registry c

variable {registry : Registry} {p c d start : Cursor} {e : CompileError} {t : List Char}

namespace Cursor.Reads

/-- An error behind what was read from `c` on. -/
theorem shown {kind : QueryErrorKind} (h : c.Reads t d) (hd : kind.ShownAt registry d) :
    Shown registry c.source (Scan.errorAt d kind) :=
  ⟨kind, d, h.source_eq, rfl, hd⟩

/-- The text from the first character of a walk on. -/
theorem onward_eq (h : p.Reads t d) (hp : p.Reads [c.current] c) : c.onward = t ++ d.after :=
  hp.after.symm.trans h.after

theorem beginsName {name : String} (h : p.Reads (t ++ [d.current]) d)
    (hp : p.Reads [c.current] c)
    (hspells : t.filter (classify · ≠ .whitespace) = name.toList) : c.BeginsName name := by
  rw [BeginsName, h.onward_eq hp, List.append_assoc, List.filter_append, hspells]
  exact List.prefix_append _ _

theorem takeWhile_onward {q : Char → Bool} (h : p.Reads (t ++ [d.current]) d)
    (hp : p.Reads [c.current] c) (ht : ∀ a ∈ t, q a) (hd : q d.current = false) :
    c.onward.takeWhile q = t := by
  rw [h.onward_eq hp, List.append_assoc, List.takeWhile_append_of_pos ht,
    List.singleton_append, List.takeWhile_cons_of_neg (by simp [hd]), List.append_nil]

end Cursor.Reads

/-! ## The scans -/

namespace Scan

theorem shown_root (hc : c.before = []) (h : root c = .error e) : Shown registry c.source e := by
  have hends := root_ends c
  rw [h] at hends
  cases hends with
  | @cut text d hread hblank hnil =>
    refine hread.shown ⟨?_, hnil⟩
    rw [hread.source_eq, Cursor.source, hc, hread.after, hnil, List.append_nil]
    exact hblank
  | @other text lead d hread hsplit hlead hcounts hclosed =>
    refine hread.shown ⟨rfl, hcounts, hclosed, ?_⟩
    -- from the first character on, what was passed is the lead and the culprit
    have hpassed : d.passed.reverse = lead ++ [d.current] := by
      rw [hread.passed_reverse, Cursor.passed, hc]
      exact hsplit
    have hbefore : d.before.reverse = lead := by
      rw [Cursor.passed, List.reverse_cons] at hpassed
      exact List.append_cancel_right hpassed
    intro a ha
    exact hlead a (hbefore ▸ List.mem_reverse.mpr ha)

theorem shown_identifier (h : identifier "" c = .error e) : Shown registry c.source e := by
  have hends := identifier_ends c
  rw [h] at hends
  cases hends with
  | cut hread _ hnil => exact hread.shown hnil
  | bracket hread _ hclose => exact hread.shown (.inl hclose)

theorem shown_resolve {name : String} (hp : p.Reads [start.current] start)
    (hread : p.Reads (name.toList ++ [d.current]) d)
    (hname : ∀ a ∈ name.toList, isIdentifierChar a)
    (h : resolve registry name start = .error e) : Shown registry p.source e := by
  have hspells : name.toList.filter (classify · ≠ .whitespace) = name.toList :=
    List.filter_eq_self.mpr fun a ha => by simpa using isIdentifierChar_counts a (hname a ha)
  unfold resolve at h
  split at h
  · cases h
  · next hnone =>
    cases h
    exact hp.shown ⟨hnone, rfl, hread.beginsName hp hspells⟩

theorem shown_comparison {filter : String} (h : comparison filter c = .error e) :
    Shown registry c.source e := by
  have hends := comparison_ends filter c
  rw [h] at hends
  cases hends with
  | cut hread _ _ hnil => exact hread.shown hnil
  | @missing blanks d hread hblanks hcounts hother =>
    refine hread.shown ?_
    by_cases hclose : d.currentClass = .closeBracket
    · exact .inl hclose
    by_cases hquote : d.current = '"'
    · exact .inr (.inl hquote)
    have hends : endsSymbol d.current := by
      simpa [inSymbol, show classify d.current ≠ .closeBracket from hclose] using hother
    have hblank : classify d.current ≠ .whitespace := hcounts
    exact .inr (.inr (by simpa [endsSymbol, hblank, hquote] using hends))
  | bracket hread _ _ _ hclose => exact hread.shown (.inl hclose)
  | @unknown blanks text s d hstart _ hread _ _ hnone =>
    refine hstart.shown ⟨by simp [← String.toList_inj], ?_, hnone⟩
    rw [Cursor.onward, hread.after, String.toList_ofList, List.append_assoc]
    exact List.prefix_append (s.current :: text) _

/-- No argument goes on from here: behind one more character, if there is one, a
bracket closes or the text ends. -/
theorem Stops.ends (h : Stops c.after) (hnext : c.Reads (c.after.take 1) d) :
    d.currentClass = .closeBracket ∨ d.after = [] := by
  generalize hafter : c.after = rest at h hnext
  cases h with
  | nil =>
    obtain rfl := Cursor.reads_nil.mp hnext
    exact .inr hafter
  | slash => exact .inr (List.append_cancel_left (hnext.after.symm.trans hafter))
  | bracket closing t =>
    left
    rw [Cursor.currentClass, Cursor.Reads.current_eq_of_step hnext]
    exact closing.property

theorem shown_argument {filter : String} (h : argument filter false "" c = .error e) :
    Shown registry c.source e := by
  have hends := argument_ends filter c
  rw [h] at hends
  cases hends with
  | missing hread _ hstops hnext => exact (hread.trans hnext).shown (hstops.ends hnext)
  | unterminated hread _ _ hstops hnext => exact (hread.trans hnext).shown (hstops.ends hnext)

theorem shown_connector {ds : List Diagnostic} (h : connector c = (ds, .error e)) :
    Shown registry c.source e := by
  have hends := connector_ends c
  rw [h] at hends
  cases hends with
  | cut hread _ hnil => exact hread.shown hnil

theorem shown_operands (h : operands registry [] c = .error e) : Shown registry c.source e := by
  cases operands_fail h with
  | cut hread hfew =>
    refine hread.shown ?_
    have htwo := Cursor.hasTwoNext_iff.not.mp (Bool.eq_false_iff.mp hfew)
    exact Nat.le_of_lt_succ (Nat.lt_of_not_le htwo)
  | operand hread hfirst _ _ _ hends =>
    cases hends with
    | parts hparts =>
      cases hparts with
      | cut htext _ hnil =>
        refine (hread.trans htext).shown ?_
        simp [QueryErrorKind.ShownAt, Cursor.remaining, hnil]
      | unknown htext _ _ _ hnone => exact (hread.trans htext).shown ⟨rfl, hnone⟩
    | malformed htext hspelled hstops hmixed =>
      refine (hread.trans hfirst).shown ?_
      simpa only [QueryErrorKind.ShownAt, htext.takeWhile_onward hfirst hspelled hstops]
        using hmixed
    | unregistered htext hspells hnone =>
      exact (hread.trans hfirst).shown ⟨hnone, rfl, htext.beginsName hfirst hspells⟩
    | textual htext hspells hkind =>
      exact (hread.trans hfirst).shown ⟨hkind, by decide, htext.beginsName hfirst hspells⟩

/-! ## The operator that is left over -/

theorem trails_cons {read : List Char} {k : Arithmetic} {x : Char} (h : Trails read k)
    (hx : classify x = .whitespace ∨ classify x = .openBracket) : Trails (x :: read) k := by
  obtain ⟨dropped, earlier, rfl, hdropped⟩ := h
  exact ⟨x :: dropped, earlier, rfl, List.forall_mem_cons.mpr ⟨hx, hdropped⟩⟩

/-- The newest operand brings its operator with it, which trails until the next
operand. A list that ends on an operator ends while that operator trails. -/
theorem trails_of_operands {found newest : List Operand}
    (hfound : ∀ o ∈ found.head?, ∀ k ∈ o.arithmetic, Trails c.passed k)
    (h : operands registry found c = .ok (newest, d)) :
    d.currentClass = .closeBracket ∧
      ∀ o ∈ newest.head?, ∀ k ∈ o.arithmetic, Trails d.before k := by
  fun_induction operands registry found c with
  | case1 => cases h
  | case2 found c htwo m step hm ih =>
    have hread : c.Reads [m.current] m := stepOn_eq_ok_iff.mp step
    refine ih (fun o ho k hk => ?_) h
    rw [hread.passed]
    exact trails_cons (hfound o ho k hk) (.inl hm)
  | case3 found c htwo m step hm ih =>
    have hread : c.Reads [m.current] m := stepOn_eq_ok_iff.mp step
    refine ih (fun o ho k hk => ?_) h
    rw [hread.passed]
    exact trails_cons (hfound o ho k hk) (.inr hm)
  | case4 found c htwo m step hm =>
    cases h
    have hread : c.Reads [d.current] d := stepOn_eq_ok_iff.mp step
    have hbefore : d.before = c.passed := (List.cons.inj hread.passed).2
    exact ⟨hm, fun o ho k hk => hbefore ▸ hfound o ho k hk⟩
  | case5 => cases h
  | case6 found c htwo m step one e hone hclose hblank hopen hnoclose =>
    cases h
    obtain ⟨-, -, -, -, hends⟩ := reads_of_operand (stepOn_eq_ok_iff.mp step) hblank hone
    refine ⟨hclose, fun o ho k hk => ?_⟩
    obtain rfl : one = o := Option.some.inj ho
    -- no operator closes the list
    rw [Option.mem_def.mp hk] at hends
    have hk' : d.current = k.symbol := hends
    rw [Cursor.currentClass, hk'] at hclose
    cases k <;> cases hclose
  | case7 found c htwo m step one e hone hnone hblank hopen hnoclose ih =>
    obtain ⟨-, -, -, -, hends⟩ := reads_of_operand (stepOn_eq_ok_iff.mp step) hblank hone
    refine ih (fun o ho k hk => ?_) h
    obtain rfl : one = o := Option.some.inj ho
    rw [Option.mem_def.mp hk] at hends
    have hk' : e.current = k.symbol := hends
    exact ⟨[], e.before, by rw [Cursor.passed, hk']; rfl, by simp⟩
  | case8 => cases h

end Scan

/-! ## The whole -/

namespace Reading

theorem ClauseFails.shown {filter : String} (h : ClauseFails filter c e) :
    Shown registry c.source e := by
  cases h with
  | comparison h => exact Scan.shown_comparison h
  | argument hk h =>
    obtain ⟨t, hread⟩ := Scan.exists_reads_of_comparison hk
    exact hread.source_eq ▸ Scan.shown_argument h
  | connector hk ha h =>
    obtain ⟨t, hread⟩ := Scan.exists_reads_of_comparison hk
    obtain ⟨u, hread'⟩ := Scan.exists_reads_of_argument ha
    exact (hread.trans hread').source_eq ▸ Scan.shown_connector h

theorem FilterFails.shown (h : FilterFails registry p start e)
    (hp : p.Reads [start.current] start) : Shown registry p.source e := by
  cases h with
  | identifier h => exact Scan.shown_identifier h
  | resolve hread hname h => exact Scan.shown_resolve hp hread hname h
  | clause hread _ h => exact hread.source_eq ▸ h.shown

theorem shown_checkOperands {newest : List Operand} (hstart : start.Reads t d)
    (hsharp : start.current = '#') (hclose : d.currentClass = .closeBracket)
    (htrails : ∀ o ∈ newest.head?, ∀ k ∈ o.arithmetic, Trails d.before k)
    (h : checkOperands start d newest = .error e) : Shown registry start.source e := by
  unfold checkOperands at h
  split at h
  · cases h
    exact (Cursor.Reads.refl start).shown hsharp
  · cases h
    exact hstart.shown ⟨hclose, htrails _ rfl _ rfl⟩
  · cases h

theorem CalculatorFails.shown (h : CalculatorFails registry start c e)
    (hstart : start.Reads [c.current] c) (hsharp : start.current = '#') :
    Shown registry c.source e := by
  cases h with
  | operands h => exact Scan.shown_operands h
  | check hlisted h =>
    obtain ⟨t, hread⟩ := Scan.exists_reads_of_operands hlisted
    obtain ⟨hclose, htrails⟩ := Scan.trails_of_operands (by simp) hlisted
    exact hstart.source_eq ▸ shown_checkOperands (hstart.trans hread) hsharp hclose htrails h
  | clause hread _ h => exact hread.source_eq ▸ h.shown

end Reading

theorem raises_shown (registry : Registry) (source : List Char) :
    Raises registry source (Shown registry source) where
  root hsource hbefore h := hsource ▸ Scan.shown_root hbefore h
  unterminated hsource hnil := ⟨_, _, hsource, rfl, hnil⟩
  nesting hsource hopen := ⟨_, _, hsource, rfl, hopen, rfl⟩
  missing hsource hstarts := ⟨_, _, hsource, rfl, hstarts⟩
  dangling hsource hk := ⟨_, _, hsource, rfl, hk⟩
  filter hp hsource _ h := by
    rw [← hsource, hp.source_eq]
    exact (Reading.filter_fails hp h).shown hp
  calculator hsource hstart hsharp _ h := by
    rw [← hsource]
    exact (Reading.calculator_fails h).shown hstart hsharp

/-- A compilation fails with an error of the query, whose offset is that of a
character of the text, and there the error shows. -/
theorem shown_of_compile_error (registry : Registry) (source : String) (e : CompileError)
    (h : (compile registry source).outcome = .error e) :
    ∃ (error : QueryError) (c : Cursor), e = .query error ∧ c.source = source.toList ∧
      error.offset = c.offset ∧ error.kind.ShownAt registry c := by
  obtain ⟨kind, c, hsource, rfl, hshown⟩ :=
    (raises_shown registry source.toList).of_compile h
  exact ⟨⟨kind, c.offset⟩, c, rfl, hsource, rfl, hshown⟩

/-- The symbol is no comparison and stands behind a letter of two bytes; it is seen
once its last character has been read, and reported at its first one. -/
theorem shown_of_compile_error_unknown_operator :
    let source := "\x7btext: \"é\" & text =! \"1\"\x7d"
    let e : CompileError := .query ⟨.unknownOperator "text" "=!", 19⟩
    (compile FilterSet.builtin.registry source).outcome = .error e ∧
      ∃ (error : QueryError) (c : Cursor), e = .query error ∧ c.source = source.toList ∧
        error.offset = c.offset ∧ error.kind.ShownAt FilterSet.builtin.registry c := by
  have h : (compile FilterSet.builtin.registry "\x7btext: \"é\" & text =! \"1\"\x7d").outcome =
      .error (.query ⟨.unknownOperator "text" "=!", 19⟩) := by cbv
  exact ⟨h, shown_of_compile_error _ _ _ h⟩

end FilterQuery
