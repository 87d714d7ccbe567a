import FilterQuery.Filter
import FilterQuery.Query.Operator

/-!
# Query trees

A query is a list of nodes: filters and calculators, which compare a value with
an argument, and clusters, which hold nodes of their own. Clusters are numbered
in the order in which they open; number 0 is the root, whose nodes form the
query, so it never appears as a node itself.
-/

namespace FilterQuery

/-- A filter compared with an argument. -/
structure FilterReference where
  /-- The filter's name. -/
  identifier : String
  /-- What the filter yields. -/
  kind : Kind
  /-- How its value is held against the argument. -/
  comparison : Comparison
  /-- The argument, escapes resolved. -/
  argument : String
  /-- How the node is joined with the next one. -/
  connector : Option Connector
  deriving DecidableEq, Repr, Inhabited

/-- What an operand of a calculator stands for. -/
inductive OperandValue where
  /-- The value of a numerical filter. -/
  | filter (identifier : String)
  /-- Decimal digits. -/
  | literal (digits : String)
  deriving DecidableEq, Repr, Inhabited

/-- The words of an operand, as a query writes them. -/
def OperandValue.text : OperandValue → String
  | filter identifier => identifier
  | literal digits => digits

/-- An operand of a calculator, with the operator that follows it. -/
structure Operand where
  /-- What the operand stands for. -/
  value : OperandValue
  /-- How it is joined with the next operand; the last one has none. -/
  arithmetic : Option Arithmetic
  deriving DecidableEq, Repr, Inhabited

/-- An arithmetic expression compared with an argument. -/
structure Calculator where
  /-- The cluster in which the calculator stands. -/
  parent : Nat
  /-- The operands as written. -/
  operands : List Operand
  /-- How the result is held against the argument. -/
  comparison : Comparison
  /-- The argument, escapes resolved. -/
  argument : String
  /-- How the node is joined with the next one. -/
  connector : Option Connector
  deriving DecidableEq, Repr, Inhabited

/-- A node of a cluster. -/
inductive Node where
  /-- A filter compared with an argument. -/
  | filter (reference : FilterReference)
  /-- An arithmetic expression compared with an argument. -/
  | calculator (sum : Calculator)
  /-- A nested cluster: its number, the number of the cluster around it, its
  nodes and its connector. -/
  | cluster (id parent : Nat) (children : List Node) (connector : Option Connector)
  deriving Repr, Inhabited

namespace Node

/-- How the node is joined with the next one. -/
def connector : Node → Option Connector
  | .filter reference => reference.connector
  | .calculator sum => sum.connector
  | .cluster _ _ _ connector => connector

/-- The node with another connector. -/
def withConnector (connector : Option Connector) : Node → Node
  | .filter reference => .filter { reference with connector }
  | .calculator sum => .calculator { sum with connector }
  | .cluster id parent children _ => .cluster id parent children connector

@[simp] theorem connector_withConnector (k : Option Connector) (n : Node) :
    (n.withConnector k).connector = k := by
  cases n <;> rfl

end Node

/-- A compiled query: the nodes of the root cluster. -/
structure Query where
  /-- The nodes as written. -/
  nodes : List Node
  deriving Repr, Inhabited

end FilterQuery
