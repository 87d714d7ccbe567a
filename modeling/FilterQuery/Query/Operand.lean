import FilterQuery.Filter.Registry
import FilterQuery.Query.Node
import FilterQuery.Query.Scan

/-!
# Reading the operands of a calculator

Operands are names of numerical filters or runs of digits, joined by arithmetic
operators, in one flat list: an opening bracket inside the list is passed over.
Whitespace is dropped even inside an operand. The list ends with a closing
bracket, which is found either at the start of an operand or at its end.
-/

namespace FilterQuery

namespace Scan

/-- The kind of the filter with this identifier, or the error that there is
none; `start` is where the identifier begins. -/
def resolve (registry : Registry) (identifier : String) (start : Cursor) :
    Except CompileError Kind :=
  match registry.lookup identifier with
  | some kind => .ok kind
  | none => .error (errorAt start (.unknownFilter identifier (registry.suggest identifier)))

/-- What letters and digits read as one operand stand for: it has to be all
letters or all digits. -/
def operandValue (registry : Registry) (letters digits : String) (start : Cursor) :
    Except CompileError OperandValue :=
  match letters.isEmpty, digits.isEmpty with
  | true, false => .ok (.literal digits)
  | false, true => do
    match ← resolve registry letters start with
    | .numerical => .ok (.filter letters)
    | .text => .error (errorAt start (.invalidOperandType letters .text))
  | _, _ => .error (errorAt start .malformedOperand)

/-- Whether a character belongs to an operand, or is dropped inside one. -/
def isOperandChar (c : Char) : Bool :=
  classify c = .whitespace || isIdentifierChar c || c.isDigit

/-- The letters and digits of an operand and the operator after it, from the
character under the cursor on. The cursor is left on the operator, or on the
closing bracket if there is none. -/
def operandParts (letters digits : String) (c : Cursor) :
    Except CompileError ((String × String × Option Arithmetic) × Cursor) :=
  if isOperandChar c.current then
    match _step : stepForward c .unterminatedCalculator with
    | .error e => .error e
    | .ok d =>
      operandParts
        (if isIdentifierChar c.current then letters.push c.current else letters)
        (if c.current.isDigit then digits.push c.current else digits) d
  else if c.currentClass = .closeBracket then
    .ok ((letters, digits, none), c)
  else
    match Arithmetic.ofSymbol? c.current with
    | some operator => .ok ((letters, digits, some operator), c)
    | none => .error (errorAt c (.unknownArithmetic c.current))
termination_by c.remaining
decreasing_by exact remaining_stepForward_lt _step

/-- Reads one operand from the character under the cursor on. -/
def operand (registry : Registry) (c : Cursor) : Except CompileError (Operand × Cursor) := do
  let ((letters, digits, arithmetic), d) ← operandParts "" "" c
  let value ← operandValue registry letters digits c
  .ok (⟨value, arithmetic⟩, d)

theorem operandParts_remaining_le {letters digits : String} {c d : Cursor}
    {parts : String × String × Option Arithmetic}
    (h : operandParts letters digits c = .ok (parts, d)) : d.remaining ≤ c.remaining := by
  fun_induction operandParts letters digits c with
  | case1 => cases h
  | case2 letters digits c _ e step ih =>
    exact Nat.le_trans (ih h) (Nat.le_of_lt (remaining_stepForward_lt step))
  | case3 => cases h; exact Nat.le_refl _
  | case4 => cases h; exact Nat.le_refl _
  | case5 => cases h

theorem operand_remaining_le {registry : Registry} {c d : Cursor} {one : Operand}
    (h : operand registry c = .ok (one, d)) : d.remaining ≤ c.remaining := by
  unfold operand at h
  cases hp : operandParts "" "" c with
  | error e => rw [hp] at h; cases h
  | ok r =>
    obtain ⟨⟨letters, digits, arithmetic⟩, e⟩ := r
    cases hv : operandValue registry letters digits c with
    | error e => simp [bind, Except.bind, hp, hv] at h
    | ok value =>
      simp only [bind, Except.bind, hp, hv, Except.ok.injEq, Prod.mk.injEq] at h
      exact h.2 ▸ operandParts_remaining_le hp

/-! ## The list -/

/-- Reads the operands of a calculator, newest first, and leaves the cursor on
the closing bracket. At least two characters have to be left at each turn: the
bracket and something to compare with. -/
def operands (registry : Registry) (found : List Operand) (c : Cursor) :
    Except CompileError (List Operand × Cursor) :=
  if c.hasTwoNext then
    match _step : stepOn c with
    | .error e => .error e
    | .ok d =>
      match d.currentClass with
      | .whitespace | .openBracket => operands registry found d
      | .closeBracket => .ok (found, d)
      | _ =>
        match _one : operand registry d with
        | .error e => .error e
        | .ok (one, e) =>
          if e.currentClass = .closeBracket then .ok (one :: found, e)
          else operands registry (one :: found) e
  else
    .error (errorAt c .unterminatedCalculator)
termination_by c.remaining
decreasing_by
  · exact remaining_stepOn_lt _step
  · exact Nat.lt_of_le_of_lt (operand_remaining_le _one) (remaining_stepOn_lt _step)

end Scan

end FilterQuery
