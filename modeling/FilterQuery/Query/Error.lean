import FilterQuery.Filter
import FilterQuery.Query.Cursor
import FilterQuery.Query.Operator
import FilterQuery.Text.Quoted

/-!
# Errors and diagnostics

What can be said against a text: an error ends its compilation, a diagnostic does not.
-/

namespace FilterQuery

/-!
## Errors of a compilation

The first error ends a compilation. A query error says what is wrong with the
text and at which byte; a cursor fault would say that the reader itself stepped
out of the text.
-/

/-- What is wrong with a query. -/
inductive QueryErrorKind where
  /-- The first character that is not whitespace, if there is one, opens no
  cluster. -/
  | missingRootObject (found : Option Char)
  /-- The text ends inside a cluster. -/
  | unterminatedObject
  /-- The text ends inside a filter, whose name so far is `filter`. -/
  | unterminatedFilter (filter : String)
  /-- The text ends inside the operands of a calculator. -/
  | unterminatedCalculator
  /-- No filter has this name; `suggestion` is one that has a similar name. -/
  | unknownFilter (identifier : String) (suggestion : Option String)
  /-- A filter is not followed by an operator. -/
  | missingOperator (filter : String)
  /-- The symbol after a filter is no comparison. -/
  | unknownOperator (filter symbol : String)
  /-- A filter has no argument. -/
  | missingArgument (filter : String)
  /-- The argument of a filter is opened and not closed; `captured` tells
  whether it has any content. -/
  | unterminatedArgument (filter : String) (captured : Bool)
  /-- A connector stands before every node of its cluster. -/
  | danglingConnector (connector : Connector)
  /-- A node follows another one without a connector. -/
  | missingConnector
  /-- An operand of a calculator names a filter that is not numerical. -/
  | invalidOperandType (identifier : String) (kind : Kind)
  /-- The character after an operand is no arithmetic operator. -/
  | unknownArithmetic (symbol : Char)
  /-- An operand mixes letters and digits, or has neither. -/
  | malformedOperand
  /-- A calculator has no operands. -/
  | emptyCalculator
  /-- An arithmetic operator follows the last operand of a calculator. -/
  | danglingArithmetic (operator : Arithmetic)
  /-- Clusters are nested deeper than `limit`. -/
  | nestingTooDeep (limit : Nat)
  deriving DecidableEq, Repr, Inhabited

/-- What is wrong with a query, and where: `offset` counts the bytes before the
place. -/
structure QueryError where
  /-- What is wrong. -/
  kind : QueryErrorKind
  /-- The number of bytes before the place. -/
  offset : Nat
  deriving DecidableEq, Repr, Inhabited

/-- The wording of a query error. -/
def QueryError.message (e : QueryError) : String :=
  let offset := e.offset
  match e.kind with
  | .missingRootObject found =>
    let what := match found with
      | some c => s!"'{c}'"
      | none => "only whitespace"
    s!"query must start with '\x7b' (found {what} at byte {offset})"
  | .unterminatedObject => s!"object is not closed (input ends at byte {offset})"
  | .unterminatedFilter filter =>
    s!"filter '{filter}' is not terminated (input ends at byte {offset})"
  | .unterminatedCalculator => s!"calculator is not closed (input ends at byte {offset})"
  | .unknownFilter identifier suggestion =>
    let hint := match suggestion with
      | some s => s!". Did you mean '{s}'?"
      | none => ""
    s!"no filter matches id \"{identifier}\" (byte {offset}){hint}"
  | .missingOperator filter => s!"filter '{filter}' has no operator (byte {offset})"
  | .unknownOperator filter symbol =>
    s!"unknown operator '{symbol}' for filter '{filter}' (byte {offset})"
  | .missingArgument filter => s!"filter '{filter}' has no argument (byte {offset})"
  | .unterminatedArgument filter captured =>
    let what :=
      if captured then "is not closed; arguments must end with '\"'"
      else "is empty or malformed; arguments must be enclosed in '\"'"
    s!"argument of filter '{filter}' {what} (byte {offset})"
  | .danglingConnector connector =>
    s!"connector '{Connector.label (some connector)}' has no preceding filter (byte {offset})"
  | .missingConnector => s!"missing connector before byte {offset}"
  | .invalidOperandType identifier kind =>
    s!"filter '{identifier}' of kind {kind.name} cannot be a calculator operand; " ++
      s!"only numerical filters can (byte {offset})"
  | .unknownArithmetic symbol => s!"unknown arithmetic operator '{symbol}' (byte {offset})"
  | .malformedOperand => s!"operand is neither a filter nor a literal (byte {offset})"
  | .emptyCalculator => s!"calculator has no operands (byte {offset})"
  | .danglingArithmetic operator =>
    s!"arithmetic operator '{operator.symbol}' has no right-hand operand (byte {offset})"
  | .nestingTooDeep limit =>
    s!"clusters are nested more than {limit} levels deep (byte {offset})"

/-- Any failure of a compilation. -/
inductive CompileError where
  /-- The reader stepped out of the text. -/
  | fault (fault : CursorFault)
  /-- The text is not a query. -/
  | query (error : QueryError)
  deriving DecidableEq, Repr, Inhabited

namespace CompileError

/-- The wording of a failure. -/
def message : CompileError → String
  | fault f => s!"structural error: {f.message}"
  | query e => s!"query error: {e.message}"

/-- The place of a query error. -/
def offset? : CompileError → Option Nat
  | fault _ => none
  | query e => some e.offset

end CompileError

/-!
## Diagnostics

A diagnostic records an irregularity that the reader tolerates. It never stops
the reading.
-/

/-- A tolerated irregularity of a query. -/
inductive Diagnostic where
  /-- A character was skipped in search of the connector after a filter or
  calculator; `offset` counts the bytes before it. -/
  | unexpectedCharacter (found : Char) (offset : Nat)
  deriving DecidableEq, Repr, Inhabited

namespace Diagnostic

/-- The number of bytes before the place the diagnostic is about. -/
def offset : Diagnostic → Nat
  | unexpectedCharacter _ offset => offset

/-- The wording of a diagnostic. -/
def message : Diagnostic → String
  | unexpectedCharacter found offset =>
    s!"ignored unexpected character {Text.quotedChar found} " ++
      s!"while looking for a connector (byte {offset})"

end Diagnostic

end FilterQuery
