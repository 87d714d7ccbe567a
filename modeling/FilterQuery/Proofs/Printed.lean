import FilterQuery.Proofs.PrefixFree
import FilterQuery.Proofs.WellFormed
import FilterQuery.Report.Settings
import FilterQuery.Report.Query

/-!
# Texts without control characters

Whatever a report says of a compiled query is printed: it holds no character before the
blank, so no line end and no escape (`Printed`). Names in a compiled query are letters and
numbers are digits. An argument may be any text, but it is quoted, and a quoted text has a
letter or a number in place of every character that is not visible.
-/

namespace FilterQuery

namespace Text

/-- The text holds no control character. -/
def Printed (s : String) : Prop :=
  ∀ c ∈ s.toList, 0x20 ≤ c.toNat

instance (s : String) : Decidable (Printed s) :=
  decidable_of_iff (s.toList.all fun c => 0x20 ≤ c.toNat) (by simp [Printed])

theorem Printed.not_mem {s : String} (h : Printed s) {c : Char} (hc : c.toNat < 0x20) :
    c ∉ s.toList :=
  fun hmem => absurd (h c hmem) (Nat.not_le.mpr hc)

@[simp] theorem printed_append {s t : String} :
    Printed (s ++ t) ↔ Printed s ∧ Printed t := by
  simp [Printed, or_imp, forall_and]

@[simp] theorem printed_toString_string {s : String} : Printed (toString s) ↔ Printed s :=
  Iff.rfl

theorem le_of_isDigit {c : Char} (h : c.isDigit) : 0x20 ≤ c.toNat := by
  simp only [Char.isDigit, Bool.and_eq_true, decide_eq_true_eq] at h
  exact Nat.le_trans (by decide) h.1

theorem le_of_isIdentifierChar {c : Char} (h : isIdentifierChar c) : 0x20 ≤ c.toNat := by
  simp only [isIdentifierChar, Char.isAlpha, Char.isUpper, Char.isLower, Bool.or_eq_true,
    Bool.and_eq_true, decide_eq_true_eq, beq_iff_eq] at h
  rcases h with (⟨h, -⟩ | ⟨h, -⟩) | rfl
  · exact Nat.le_trans (by decide) h
  · exact Nat.le_trans (by decide) h
  · decide

@[simp] theorem printed_repr (n : Nat) : Printed n.repr := by
  intro c hc
  rw [Nat.repr_eq_ofList_toDigits, String.toList_ofList] at hc
  exact le_of_isDigit (Nat.isDigit_of_mem_toDigits (by decide) (by decide) hc)

/-! ## Quoted texts -/

theorem le_of_isVisible {c : Char} (h : isVisible c) : 0x20 ≤ c.toNat := by
  obtain ⟨rest, hrest⟩ : ∃ rest, unprintable = (0x0, 0x1f) :: rest := ⟨_, rfl⟩
  by_contra hlt
  have hle : c.toNat ≤ 0x1f := Nat.le_of_lt_succ (Nat.not_le.mp hlt)
  have hunprintable : unprintable.contains c.toNat = true := by
    rw [hrest, CodeRanges.contains, if_neg (Nat.not_lt_zero _), if_pos hle]
  rw [isVisible, hunprintable, Bool.not_true, Bool.and_false] at h
  cases h

theorem printed_quoteChar {delimiter : Char} (hdelimiter : 0x20 ≤ delimiter.toNat) (c : Char) :
    ∀ d ∈ quoteChar delimiter c, 0x20 ≤ d.toNat := by
  fun_cases quoteChar delimiter c
  case case6 hc => simpa [hc] using hdelimiter
  case case7 hvisible => exact List.forall_mem_singleton.mpr (le_of_isVisible hvisible)
  case case8 =>
    have hdigits : ∀ d ∈ Nat.toDigits 16 c.toNat, 0x20 ≤ d.toNat := by
      intro d hd
      obtain ⟨k, hk, rfl⟩ := exists_of_mem_toDigits (by decide) hd
      interval_cases k <;> decide
    simpa [or_imp, forall_and] using hdigits
  all_goals simp

theorem printed_between {mark : Char} {t : List Char} (hmark : 0x20 ≤ mark.toNat)
    (ht : ∀ c ∈ t, 0x20 ≤ c.toNat) : Printed (String.ofList (mark :: t ++ [mark])) := by
  intro c hc
  simp only [String.toList_ofList, List.cons_append, List.mem_cons, List.mem_append,
    List.not_mem_nil, or_false] at hc
  rcases hc with rfl | hc | rfl
  · exact hmark
  · exact ht c hc
  · exact hmark

@[simp] theorem printed_quoted (s : String) : Printed (quoted s) := by
  refine printed_between (by decide) fun d hd => ?_
  obtain ⟨c, -, hd⟩ := List.mem_flatMap.mp hd
  exact printed_quoteChar (by decide) c d hd

@[simp] theorem printed_quotedChar (c : Char) : Printed (quotedChar c) :=
  printed_between (by decide) (printed_quoteChar (by decide) c)

end Text

namespace Report

open Text

/-! ## Nodes -/

@[simp] theorem printed_kindName (k : Kind) : Printed k.name := by
  cases k <;> decide

@[simp] theorem printed_comparisonSymbol (k : Comparison) : Printed k.symbol := by
  cases k <;> decide

@[simp] theorem printed_originName (o : Origin) : Printed o.name := by
  cases o <;> decide

@[simp] theorem printed_connector (k : Option Connector) : Printed (connector .plain k) := by
  cases k with
  | none => decide
  | some k => cases k <;> decide

variable {registry : Registry}

theorem printed_operandText {v : OperandValue} (h : v.WellFormed registry) : Printed v.text := by
  intro c hc
  cases v with
  | filter identifier => exact le_of_isIdentifierChar (h.2.1 c hc)
  | literal digits => exact le_of_isDigit (h.2 c hc)

theorem printed_expression {operands : List Operand}
    (h : ∀ o ∈ operands, o.value.WellFormed registry) : Printed (expression operands) := by
  induction operands with
  | nil => decide
  | cons o rest ih =>
    obtain ⟨ho, hrest⟩ := List.forall_mem_cons.mp h
    have hoperator (k : Arithmetic) :
        Printed (toString " " ++ toString k.symbol ++ toString " ") := by
      cases k <;> decide
    obtain ⟨v, k⟩ := o
    cases k with
    | none => simp [expression, printed_operandText ho, ih hrest]
    | some k =>
      simp only [expression, printed_append, printed_operandText ho, hoperator, ih hrest,
        and_self]

/-- What a line says of a node of a compiled query is printed, argument included. -/
theorem printed_describe {n : Node} (h : n.WellFormed registry) :
    Printed (describe .plain n) := by
  cases h with
  | filter r hletters _ =>
    have hidentifier : Printed r.identifier :=
      fun c hc => le_of_isIdentifierChar (hletters c hc)
    simp only [describe, kind, Ink.paint, printed_append, printed_toString_string, hidentifier,
      printed_comparisonSymbol, printed_quoted, printed_kindName]
    decide
  | calculator c hc =>
    simp only [describe, printed_append, printed_toString_string, printed_expression hc.values,
      printed_comparisonSymbol, printed_quoted]
    decide
  | cluster id =>
    simp only [describe, Ink.paint, printed_append, printed_toString_string,
      Nat.toString_eq_repr, printed_repr]
    decide

end Report

end FilterQuery
