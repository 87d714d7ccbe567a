import FilterQuery.Proofs.Lasting
import FilterQuery.Proofs.Rerouted

/-!
# Another name in the place of an unknown operand

The operands of a calculator are read up to the first one that is unknown. With a registered
name in its place, the ones before it are read as they were, and the scan goes on beyond the
name or fails because of its kind (`operands_respelled`). What comes later may be unknown,
too, but never at the same place again.

An operand is read together with the blanks in it. It is replaced where the text has the
letters one after the other, so that only blanks can follow them
(`exists_blanks_of_text`), and these follow the new name, too.
-/

namespace FilterQuery

open Grammar

/-- A query can write the name, and it is the name of a filter. -/
structure Registry.Spells (registry : Registry) (name : String) (kind : Kind) : Prop where
  letters : ∀ a ∈ name.toList, isIdentifierChar a
  nonempty : name.toList ≠ []
  lookup : registry.lookup name = some kind

namespace Scan

variable {registry : Registry} {p c d m : Cursor} {found : List Operand} {e : CompileError}

/-! ## Operands -/

/-- An operand that is a name is read, if it is registered as a number, and refused as a text
otherwise. -/
theorem operand_of_name {kind : Kind} {name : String} {blanks : List Char}
    {k : Option Arithmetic} (hp : p.Reads [c.current] c)
    (hname : registry.Spells name kind) (hblanks : Blanks blanks)
    (h : p.Reads (name.toList ++ blanks ++ [d.current]) d) (hd : EndsOperand d.current k) :
    operand registry c =
      match kind with
      | .numerical => .ok (⟨.filter name, k⟩, d)
      | .text => .error (errorAt c (.invalidOperandType name .text)) := by
  have hoperand : ∀ a ∈ name.toList ++ blanks, isOperandChar a := by
    intro a ha
    rcases List.mem_append.mp ha with ha | ha
    · simp [isOperandChar, hname.letters a ha]
    · simp [isOperandChar, hblanks a ha]
  have hspelled : (name.toList ++ blanks).filter isIdentifierChar = name.toList := by
    have hnone : blanks.filter isIdentifierChar = [] :=
      List.filter_eq_nil_iff.mpr fun a ha hletter =>
        isIdentifierChar_counts a hletter (hblanks a ha)
    rw [List.filter_append, hnone, List.append_nil, List.filter_eq_self.mpr hname.letters]
  have hdigits : (name.toList ++ blanks).filter Char.isDigit = [] := by
    refine List.filter_eq_nil_iff.mpr fun a ha hdigit => ?_
    rcases List.mem_append.mp ha with ha | ha
    · rw [not_isDigit_of_isIdentifierChar (hname.letters a ha)] at hdigit
      cases hdigit
    · exact isDigit_counts a hdigit (hblanks a ha)
  rw [operand_of_parts (operandParts_of_reads hp hoperand h hd), hspelled, hdigits,
    operandValue_letters hname.nonempty, String.ofList_toList, resolve_eq_ok_iff.mpr hname.lookup]
  cases kind <;> rfl

/-- Behind a name that has been read as an operand there are only blanks left of the operand. -/
theorem exists_blanks_of_text {name text rest after : List Char} {x : Char}
    (h : name ++ rest = text ++ x :: after)
    (hname : text.filter (classify · ≠ .whitespace) = name) :
    ∃ blanks, Blanks blanks ∧ rest = blanks ++ x :: after := by
  have hcounts : ∀ a ∈ name, classify a ≠ .whitespace := by
    rw [← hname]
    simp
  rcases List.append_eq_append_iff.mp h with ⟨blanks, rfl, hrest⟩ | ⟨w, rfl, hrest⟩
  · refine ⟨blanks, fun a ha => ?_, hrest⟩
    rw [List.filter_append, List.filter_eq_self.mpr (by simpa using hcounts),
      List.append_right_eq_self] at hname
    simpa using List.filter_eq_nil_iff.mp hname a ha
  · have hlength := congrArg List.length hname
    have hle := List.length_filter_le (fun a => decide (classify a ≠ .whitespace)) text
    rw [List.length_append] at hlength
    obtain rfl := List.eq_nil_of_length_eq_zero (show w.length = 0 by omega)
    exact ⟨[], blanks_nil, hrest.symm⟩

end Scan

/-- The error is not that an identifier up to byte `k` is unknown. -/
def CompileError.KnownUpTo (k : Nat) (e : CompileError) : Prop :=
  ∀ identifier suggestion offset, e = .query ⟨.unknownFilter identifier suggestion, offset⟩ →
    k < offset

theorem CompileError.knownUpTo_of_not {k : Nat} {e : CompileError} (h : ¬ e.IsUnknownFilter) :
    e.KnownUpTo k :=
  fun identifier suggestion offset he => absurd ⟨identifier, suggestion, offset, he⟩ h

theorem Scan.knownUpTo_errorAt {k : Nat} {c : Cursor} {kind : QueryErrorKind} (h : k < c.offset) :
    (errorAt c kind).KnownUpTo k := by
  rintro identifier suggestion offset he
  cases he
  exact h

namespace Scan

variable {registry : Registry} {c : Cursor} {found : List Operand} {e : CompileError}
  {mid rest : List Char} {k : Nat} {name : String} {suggestion : Option String}

theorem knownUpTo_of_operands (h : operands registry found c = .error e) (hc : k < c.reach) :
    e.KnownUpTo k := by
  cases operands_fail h with
  | cut => exact CompileError.knownUpTo_of_not (not_isUnknownFilter_errorAt (by simp))
  | operand hread hfirst _ _ _ hends =>
    have hoffset := (hread.trans hfirst).offset_eq
    cases hends with
    | parts hparts =>
      cases hparts <;>
        exact CompileError.knownUpTo_of_not (not_isUnknownFilter_errorAt (by simp))
    | malformed | textual | unregistered => exact knownUpTo_errorAt (by omega)

/-- An operand that is unknown is one that has not been passed. -/
theorem reach_le_of_operands
    (h : operands registry found c = .error (.query ⟨.unknownFilter name suggestion, k⟩)) :
    c.reach ≤ k :=
  Nat.not_lt.mp fun hc => Nat.lt_irrefl k (knownUpTo_of_operands h hc name suggestion k rfl)

/-- A scan has gone beyond byte `k`, or it has not failed because of an identifier up to it. -/
def EndsBeyond {α : Type} (k : Nat) : Except CompileError (α × Cursor) → Prop
  | .ok (_, d) => k < d.reach
  | .error e => e.KnownUpTo k

/-- From beyond byte `k` on. -/
theorem operands_endsBeyond (hc : k < c.reach) : EndsBeyond k (operands registry found c) := by
  cases h : operands registry found c with
  | ok result =>
    obtain ⟨t, hread⟩ := exists_reads_of_operands h
    have hreach := hread.reach_eq
    show k < result.2.reach
    omega
  | error e => exact knownUpTo_of_operands h hc

variable {other : String} {kind : Kind}

/-- At the unknown operand. -/
theorem operands_at_unknown {text : List Char} {d : Cursor} {j : Option Arithmetic}
    (hread : c.Reads (text ++ [d.current]) d) (hends : EndsOperand d.current j)
    (hspells : text.filter (classify · ≠ .whitespace) = name.toList)
    (hc : c.after = name.toList ++ rest) (hk : c.reach = k) (hnew : registry.Spells other kind) :
    EndsBeyond k (operands registry found (c.onto (other.toList ++ rest))) := by
  have htail : c.after = text ++ d.current :: d.after := by simpa using hread.after
  obtain ⟨blanks, hblanks, rfl⟩ := exists_blanks_of_text (hc.symm.trans htail) hspells
  obtain ⟨y, u, hother⟩ := List.exists_cons_of_ne_nil hnew.nonempty
  -- in the other text the name is read where the unknown one was
  obtain ⟨n, hn⟩ : ∃ n, n = c.onto (other.toList ++ (blanks ++ d.current :: d.after)) := ⟨_, rfl⟩
  have hafter : n.after = other.toList ++ blanks ++ [d.current] ++ d.after := by
    simp [hn, Cursor.onto]
  obtain ⟨d', hd', -⟩ := Cursor.exists_reads hafter
  obtain ⟨m', hm', -⟩ := Cursor.reads_cons.mp
    (show n.Reads (y :: (u ++ blanks ++ [d.current])) d' by simpa [hother] using hd')
  obtain rfl := hm'.current_eq_of_step
  have hfirst : m'.currentClass = .other := classify_of_isIdentifierChar
    (hnew.letters _ (by simp [hother]))
  have htwo : n.hasTwoNext := by simp [Cursor.hasTwoNext, hafter, hother]
  have hbeyond : k < d'.reach := by
    refine hd'.beyond (by simp) ?_
    rw [hn, Cursor.reach_onto, hk]
  have hcurrent := hd'.current_eq
  rw [← hcurrent] at hd' hends
  rw [← hn, operands_first htwo hm' hfirst,
    operand_of_name hm' hnew hblanks hd' hends]
  cases kind with
  | text => exact CompileError.knownUpTo_of_not (not_isUnknownFilter_errorAt (by simp))
  | numerical =>
    dsimp only
    split
    · exact hbeyond
    · exact operands_endsBeyond hbeyond

/-- Operands that end with an unknown name at the place. -/
theorem operands_respelled (hc : c.Before mid (name.toList ++ rest) k)
    (h : operands registry found c = .error (.query ⟨.unknownFilter name suggestion, k⟩))
    (hnew : registry.Spells other kind) :
    EndsBeyond k (operands registry found (c.onto (mid ++ (other.toList ++ rest)))) := by
  have hnext (d : Cursor) (rest' : List Char) :
      (d.onto (rest' ++ (other.toList ++ rest))).after ≠ [] := by simp [Cursor.onto, hnew.nonempty]
  fun_induction operands registry found c generalizing mid with
  | case1 found c htwo e step => exact absurd step (stepOn_ne_error htwo)
  | case2 found c htwo m step hm ih | case3 found c htwo m step hm ih =>
    have hstep := stepOn_eq_ok_iff.mp step
    have hdropped : classify m.current = .whitespace ∨ classify m.current = .openBracket := by
      rw [Cursor.currentClass] at hm
      simp [hm]
    obtain ⟨rest', hmid, hm'⟩ := (hstep.before_or_beyond hc).resolve_right
      (reach_le_of_operands h).not_gt
    rw [operands_dropped (hstep.onto hmid _) (hnext m rest') hdropped]
    exact ih hm' h
  | case4 => cases h
  | case5 found c htwo m step e hone hblank =>
    cases h
    have hstep := stepOn_eq_ok_iff.mp step
    have hoffset : m.offset = c.reach := hstep.offset_eq (t := [])
    have hends := operand_ends registry hstep hblank
    rw [hone] at hends
    cases hends with
    | parts hparts => cases hparts
    | unregistered hread hspells _ hend =>
      obtain rfl := hc.eq_nil hoffset.le
      exact operands_at_unknown hread hend hspells hc.after hoffset.symm hnew
  | case6 => cases h
  | case7 found c htwo m step one d hone hclose hblank hopen hnoclose ih =>
    obtain ⟨term, hread, hvalid, hvalue, hx⟩ :=
      reads_of_operand (stepOn_eq_ok_iff.mp step) hblank hone
    obtain ⟨rest', hmid, hd⟩ := (hread.before_or_beyond hc).resolve_right
      (reach_le_of_operands h).not_gt
    have hgoes : one.arithmetic ≠ none := by
      intro hnone
      rw [hnone] at hx
      exact hclose hx
    have hagain := hread.onto hmid (other.toList ++ rest)
    rw [operands_term hvalid hagain (hnext d rest') hx, if_neg hgoes, ← hvalue]
    exact ih hd h
  | case8 => cases h

end Scan

end FilterQuery
