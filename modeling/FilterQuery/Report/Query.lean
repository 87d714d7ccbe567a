import FilterQuery.Query.Error
import FilterQuery.Query.Node
import FilterQuery.Query.Statistics
import FilterQuery.Text.Ink

/-!
# Reports on a query

What a query is shown as: a line on how much it holds, or the tree of its nodes. Pieces of
text that several reports share come first.
-/

namespace FilterQuery.Report

open Text (Ink)

/-!
## Labels

The pieces of text that several reports share: kinds, connectors, warnings and
counts.
-/

/-- A kind, in the colour that stands for it. -/
def kind (ink : Ink) (k : Kind) : String :=
  let colour := match k with
    | .numerical => .cyan
    | .text => .magenta
  ink.paint colour k.name

/-- The connector at the end of a node's line; nothing if there is none. -/
def connector (ink : Ink) : Option Connector → String
  | some k => " " ++ ink.paint .yellow k.symbol.toString
  | none => ""

/-- The label of a line that reports success or gives a title. -/
def strong (ink : Ink) (colour : Text.Style) (s : String) : String :=
  ink.paint .bold (ink.paint colour s)

/-- A diagnostic as a warning. -/
def warning (ink : Ink) (d : Diagnostic) : String :=
  strong ink .yellow "warning:" ++ " " ++ d.message

/-- A count with its noun, in the plural but for a count of one. -/
def plural (count : Nat) (noun : String) : String :=
  if count = 1 then s!"{count} {noun}" else s!"{count} {noun}s"

/-!
## The summary of a query

One line that says that a query is valid and how much it holds.
-/

/-- The summary of a compiled query, or a note that the text was empty. -/
def summary (ink : Ink) : Option Query → String
  | none => "Empty query: nothing to filter.\n"
  | some query =>
    let s := Statistics.ofQuery query
    let counts := [plural s.filters "filter", plural s.calculators "calculator",
      plural s.clusters "cluster"]
    strong ink .green "Valid query:" ++ " " ++ ", ".intercalate counts ++ "\n"

/-!
## The tree of a query

A query is drawn as a tree: a line for the root and a line for every node, in
the order of the text. A line shows by its branches how deep the node lies and
whether more nodes of its cluster follow; then it shows the node and the
connector after it. Arguments are quoted, so that none of them can break a line
or look like one.
-/

/-- The operands of a calculator as a query would write them. -/
def expression : List Operand → String
  | [] => ""
  | o :: rest =>
    let operator := match o.arithmetic with
      | some a => s!" {a.symbol} "
      | none => ""
    o.value.text ++ operator ++ expression rest

/-- A node without its connector and without what it holds. -/
def describe (ink : Ink) : Node → String
  | .filter r =>
    s!"{ink.paint .bold r.identifier} {r.comparison.symbol} {Text.quoted r.argument} " ++
      s!"({kind ink r.kind})"
  | .calculator c =>
    s!"#({expression c.operands}) {c.comparison.symbol} {Text.quoted c.argument}"
  | .cluster id _ _ _ => ink.paint .dimmed s!"cluster #{id}"

/-- The branch to a node, which is the last of its cluster or not. -/
def branch (last : Bool) : String :=
  if last then "└─ " else "├─ "

/-- What stands in front of everything below a node. -/
def indent (last : Bool) : String :=
  if last then "   " else "│  "

mutual

/-- The lines of a node and of all below it, behind `margin`. -/
def nodeLines (ink : Ink) (margin : String) (last : Bool) : Node → List String
  | .cluster id parent children k =>
    (margin ++ branch last ++ describe ink (.cluster id parent children k) ++ connector ink k)
      :: lines ink (margin ++ indent last) children
  | node => [margin ++ branch last ++ describe ink node ++ connector ink node.connector]

/-- The lines of the nodes of a cluster. -/
def lines (ink : Ink) (margin : String) : List Node → List String
  | [] => []
  | node :: rest => nodeLines ink margin rest.isEmpty node ++ lines ink margin rest

end

/-- Lines, each with its end. -/
def unlines (ls : List String) : String :=
  String.join (ls.map (· ++ "\n"))

/-- The tree of a compiled query, or a note that the text was empty. -/
def tree (ink : Ink) : Option Query → String
  | none => "(empty query)\n"
  | some query => unlines (ink.paint .bold "query" :: lines ink "" query.nodes)

end FilterQuery.Report
