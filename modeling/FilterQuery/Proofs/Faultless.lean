import FilterQuery.Proofs.Failures

/-!
# The reader stays in the text

A cursor refuses to step out of the text. A refusal is a fault of the reader and
no error of the query, and nothing catches it: a compilation in which any step
was refused would end with that fault. None does (`compile_ne_fault`), whatever
the registry makes of the names it is asked for, the empty one included.

Forward, all scans but one ask for a character before they step. The operands of
a calculator ask for two, of which the step takes one. A step back always undoes
a step forward of the same scan, or of the loop that came to a filter; so there is a
character to go back to, if only the bracket that opens the cluster.

Filters and calculators are gone through scan by scan, with a list of the kinds of errors
that they end with (`QueryErrorKind.inScan`, `QueryErrorKind.inFilter`,
`QueryErrorKind.inCalculator`). A fault is none of them.
-/

namespace FilterQuery

open Grammar

/-- An error about the text, and not a step that was refused. -/
def CompileError.IsQuery (e : CompileError) : Prop :=
  ∃ error, e = .query error

/-- The kinds of errors that the scans of a filter end with. -/
def QueryErrorKind.inScan : QueryErrorKind → Bool
  | .unterminatedObject | .unterminatedFilter _ | .missingOperator _ | .unknownOperator _ _
  | .missingArgument _ | .unterminatedArgument _ _ => true
  | _ => false

/-- The kinds of errors that the reading of a filter ends with. -/
def QueryErrorKind.inFilter : QueryErrorKind → Bool
  | .unterminatedObject | .unterminatedFilter _ | .unknownFilter _ _ | .missingOperator _
  | .unknownOperator _ _ | .missingArgument _ | .unterminatedArgument _ _ => true
  | _ => false

/-- The kinds of errors that the reading of a calculator ends with. -/
def QueryErrorKind.inCalculator : QueryErrorKind → Bool
  | .unterminatedCalculator | .unknownArithmetic _ | .malformedOperand
  | .invalidOperandType _ _ | .emptyCalculator | .danglingArithmetic _ => true
  | kind => kind.inFilter

/-- The error is one about the text, of a kind with `p`. -/
def CompileError.IsOf (p : QueryErrorKind → Bool) (e : CompileError) : Prop :=
  ∃ error, e = .query error ∧ p error.kind

theorem CompileError.IsOf.isQuery {p : QueryErrorKind → Bool} {e : CompileError}
    (h : e.IsOf p) : e.IsQuery := by
  obtain ⟨error, he, -⟩ := h
  exact ⟨error, he⟩

theorem CompileError.IsOf.inFilter {e : CompileError} (h : e.IsOf QueryErrorKind.inScan) :
    e.IsOf QueryErrorKind.inFilter := by
  obtain ⟨⟨kind, offset⟩, rfl, hkind⟩ := h
  refine ⟨_, rfl, ?_⟩
  cases kind <;> first | rfl | cases hkind

theorem CompileError.IsOf.inCalculator {e : CompileError}
    (h : e.IsOf QueryErrorKind.inFilter) : e.IsOf QueryErrorKind.inCalculator := by
  obtain ⟨⟨kind, offset⟩, rfl, hkind⟩ := h
  refine ⟨_, rfl, ?_⟩
  cases kind <;> first | rfl | cases hkind

namespace Scan

variable {c : Cursor} {e : CompileError} {registry : Registry} {filter : String}
  {p : QueryErrorKind → Bool}

theorem isOf_errorAt {kind : QueryErrorKind} (h : p kind) : (errorAt c kind).IsOf p :=
  ⟨_, rfl, h⟩

theorem isQuery_errorAt (c : Cursor) (kind : QueryErrorKind) : (errorAt c kind).IsQuery :=
  ⟨_, rfl⟩

theorem isQuery_root (h : root c = .error e) : e.IsQuery := by
  have hends := root_ends c
  rw [h] at hends
  cases hends <;> exact isQuery_errorAt _ _

theorem isOf_identifier (h : identifier "" c = .error e) : e.IsOf QueryErrorKind.inScan := by
  have hends := identifier_ends c
  rw [h] at hends
  cases hends <;> exact isOf_errorAt rfl

theorem isOf_resolve {identifier : String} (h : resolve registry identifier c = .error e) :
    e.IsOf QueryErrorKind.inFilter := by
  unfold resolve at h
  split at h <;> cases h
  exact isOf_errorAt rfl

theorem isOf_comparison (h : comparison filter c = .error e) : e.IsOf QueryErrorKind.inScan := by
  have hends := comparison_ends filter c
  rw [h] at hends
  cases hends <;> exact isOf_errorAt rfl

theorem isOf_argument (h : argument filter false "" c = .error e) :
    e.IsOf QueryErrorKind.inScan := by
  have hends := argument_ends filter c
  rw [h] at hends
  cases hends <;> exact isOf_errorAt rfl

theorem isOf_connector {ds : List Diagnostic} (h : connector c = (ds, .error e)) :
    e.IsOf QueryErrorKind.inScan := by
  have hends := connector_ends c
  rw [h] at hends
  cases hends
  exact isOf_errorAt rfl

theorem isOf_operands (h : operands registry [] c = .error e) :
    e.IsOf QueryErrorKind.inCalculator := by
  cases operands_fail h with
  | cut => exact isOf_errorAt rfl
  | operand _ _ _ _ _ hends =>
    cases hends with
    | parts hparts => cases hparts <;> exact isOf_errorAt rfl
    | malformed | unregistered | textual => exact isOf_errorAt rfl

end Scan

namespace Reading

variable {registry : Registry} {e : CompileError} {filter : String} {p start c : Cursor}

theorem isOf_checkOperands {finish : Cursor} {newest : List Operand}
    (h : checkOperands start finish newest = .error e) : e.IsOf QueryErrorKind.inCalculator := by
  unfold checkOperands at h
  split at h <;> cases h <;> exact Scan.isOf_errorAt rfl

theorem ClauseFails.isOf (h : ClauseFails filter c e) : e.IsOf QueryErrorKind.inScan := by
  cases h with
  | comparison h => exact Scan.isOf_comparison h
  | argument _ h => exact Scan.isOf_argument h
  | connector _ _ h => exact Scan.isOf_connector h

theorem FilterFails.isOf (h : FilterFails registry p start e) : e.IsOf QueryErrorKind.inFilter := by
  cases h with
  | identifier h => exact (Scan.isOf_identifier h).inFilter
  | resolve _ _ h => exact Scan.isOf_resolve h
  | clause _ _ h => exact h.isOf.inFilter

theorem CalculatorFails.isOf (h : CalculatorFails registry start c e) :
    e.IsOf QueryErrorKind.inCalculator := by
  cases h with
  | operands h => exact Scan.isOf_operands h
  | check _ h => exact isOf_checkOperands h
  | clause _ _ h => exact h.isOf.inFilter.inCalculator

end Reading

theorem raises_isQuery (registry : Registry) (source : List Char) :
    Raises registry source CompileError.IsQuery where
  root _ _ h := Scan.isQuery_root h
  unterminated _ _ := Scan.isQuery_errorAt _ _
  nesting _ _ := Scan.isQuery_errorAt _ _
  missing _ _ := Scan.isQuery_errorAt _ _
  dangling _ _ := Scan.isQuery_errorAt _ _
  filter hp _ _ h := (Reading.filter_fails hp h).isOf.isQuery
  calculator _ _ _ _ h := (Reading.calculator_fails h).isOf.isQuery

/-- No compilation ends with a refused step. -/
theorem compile_ne_fault (registry : Registry) (source : String) (fault : CursorFault) :
    (compile registry source).outcome ≠ .error (.fault fault) := by
  intro h
  obtain ⟨error, herror⟩ := (raises_isQuery registry source.toList).of_compile h
  cases herror

end FilterQuery
