/-!
# Operators

The three families of operators of the query language: a comparison stands
between a filter and its argument, an arithmetic operator between two operands
of a calculator, and a connector between two nodes of a cluster. Each has a
symbol, which is how a query writes it, and a tag, which is how a JSON document
names it.
-/

namespace FilterQuery

/-- How the value of a filter or calculator is held against its argument. -/
inductive Comparison where
  /-- The value contains the argument. -/
  | includes
  /-- The value contains the argument, with some tolerance. -/
  | includesTolerantly
  /-- The argument is a regular expression for the value. -/
  | regex
  | equal
  | unequal
  | greaterThan
  | lessThan
  | greaterOrEqual
  | lessOrEqual
  deriving DecidableEq, Repr, Inhabited

namespace Comparison

/-- How a query writes the comparison. -/
def symbol : Comparison → String
  | includes => ":"
  | includesTolerantly => "."
  | regex => "::"
  | equal => "=="
  | unequal => "!="
  | greaterThan => ">"
  | lessThan => "<"
  | greaterOrEqual => ">="
  | lessOrEqual => "<="

/-- Reads a comparison; the whole symbol has to fit. -/
def ofSymbol? : String → Option Comparison
  | ":" => some includes
  | "." => some includesTolerantly
  | "::" => some regex
  | "==" => some equal
  | "!=" => some unequal
  | ">" => some greaterThan
  | "<" => some lessThan
  | ">=" => some greaterOrEqual
  | "<=" => some lessOrEqual
  | _ => none

theorem ofSymbol?_symbol (c : Comparison) : ofSymbol? c.symbol = some c := by
  cases c <;> rfl

/-- How a JSON document names the comparison. -/
def tag : Comparison → String
  | includes => "include"
  | includesTolerantly => "include_tolerance"
  | regex => "regex"
  | equal => "equal"
  | unequal => "unequal"
  | greaterThan => "greater_than"
  | lessThan => "less_than"
  | greaterOrEqual => "greater_than_or_equal"
  | lessOrEqual => "less_than_or_equal"

end Comparison

/-- How an operand of a calculator is joined with the next one. -/
inductive Arithmetic where
  | add
  | sub
  | mul
  | div
  deriving DecidableEq, Repr, Inhabited

namespace Arithmetic

/-- How a query writes the operator. -/
def symbol : Arithmetic → Char
  | add => '+'
  | sub => '-'
  | mul => '*'
  | div => '/'

/-- Reads an arithmetic operator. -/
def ofSymbol? : Char → Option Arithmetic
  | '+' => some add
  | '-' => some sub
  | '*' => some mul
  | '/' => some div
  | _ => none

theorem ofSymbol?_symbol (a : Arithmetic) : ofSymbol? a.symbol = some a := by
  cases a <;> rfl

/-- How a JSON document names the operator. -/
def tag : Arithmetic → String
  | add => "add"
  | sub => "sub"
  | mul => "mul"
  | div => "div"

end Arithmetic

/-- How a node of a cluster is joined with the next one. A node that ends its
cluster has none, so a node holds an `Option Connector`. -/
inductive Connector where
  | and
  | or
  | xor
  deriving DecidableEq, Repr, Inhabited

namespace Connector

/-- How a query writes the connector. -/
def symbol : Connector → Char
  | .and => '&'
  | .or => '|'
  | .xor => '^'

/-- The connector of a node in words: its symbol, or that there is none. -/
def label : Option Connector → String
  | some connector => connector.symbol.toString
  | none => "none"

/-- How a JSON document names the connector of a node; `none` is a name too. -/
def tag : Option Connector → String
  | some .and => "and"
  | some .or => "or"
  | some .xor => "xor"
  | none => "none"

end Connector

end FilterQuery
