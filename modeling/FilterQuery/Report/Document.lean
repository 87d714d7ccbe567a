import FilterQuery.Query.Error
import FilterQuery.Query.Statistics
import FilterQuery.Text.Json

/-!
# Documents about a query

The JSON forms of a query tree and of its statistics. A node is tagged by its
sort, an operand by whether it is a filter or a literal.
-/

namespace FilterQuery.Report

open Text (Json)

/-- An operand and the operator after it. -/
def operandDocument (o : Operand) : Json :=
  let (sort, text) := match o.value with
    | .filter identifier => ("filter", identifier)
    | .literal digits => ("literal", digits)
  .object [
    ("value", .object [("type", .string sort), ("value", .string text)]),
    ("arithmetic", .ofOption (fun (a : Arithmetic) => .string a.tag) o.arithmetic)]

/-- The connector of a node. -/
def connectorField (k : Option Connector) : String × Json :=
  ("logical_operator", .string (Connector.tag k))

/-- A node as documents have it. They leave room for a cluster that stands in no other one,
as the root does; no cluster of a query is without a parent. -/
inductive Outline where
  | filter (reference : FilterReference)
  | calculator (sum : Calculator)
  | cluster (id : Nat) (parent : Option Nat) (children : List Outline)
      (connector : Option Connector)
  deriving Repr, Inhabited

mutual

/-- The outline of a node. -/
def Outline.ofNode : Node → Outline
  | .filter r => .filter r
  | .calculator c => .calculator c
  | .cluster id parent children k => .cluster id (some parent) (ofNodes children) k

/-- The outlines of the nodes of a cluster. -/
def Outline.ofNodes : List Node → List Outline
  | [] => []
  | node :: rest => ofNode node :: ofNodes rest

end

mutual

/-- A node and all below it. -/
def outlineDocument : Outline → Json
  | .filter r => .object [
      ("node", .string "filter"),
      ("identifier", .string r.identifier),
      ("kind", .string r.kind.name),
      ("comparison", .string r.comparison.tag),
      ("argument", .string r.argument),
      connectorField r.connector]
  | .calculator c => .object [
      ("node", .string "calculator"),
      ("parent", .number c.parent),
      ("operands", .array (c.operands.map operandDocument)),
      ("comparison", .string c.comparison.tag),
      ("argument", .string c.argument),
      connectorField c.connector]
  | .cluster id parent children k => .object [
      ("node", .string "cluster"),
      ("id", .number id),
      ("parent", .ofOption .number parent),
      ("children", .array (outlineDocuments children)),
      connectorField k]

/-- The nodes of a cluster. -/
def outlineDocuments : List Outline → List Json
  | [] => []
  | node :: rest => outlineDocument node :: outlineDocuments rest

end

/-- The nodes of a query. -/
def nodesDocument (nodes : List Outline) : Json :=
  .object [("nodes", .array (outlineDocuments nodes))]

/-- A diagnostic, without its wording. -/
def diagnosticDocument : Diagnostic → Json
  | .unexpectedCharacter found offset => .object [
      ("kind", .string "unexpected_character"),
      ("found", .string found.toString),
      ("offset", .number offset)]

/-- The diagnostics of a compilation. -/
def diagnosticsField (ds : List Diagnostic) : String × Json :=
  ("diagnostics", .array (ds.map diagnosticDocument))

/-- The document about the nodes of a query, if there are any to show. -/
def outlineTreeDocument (nodes : Option (List Outline)) (ds : List Diagnostic) : Json :=
  .object [("query", .ofOption nodesDocument nodes), diagnosticsField ds]

/-- The document about a query tree; the query is missing for an empty text. -/
def treeDocument (query : Option Query) (ds : List Diagnostic) : Json :=
  outlineTreeDocument (query.map fun q => Outline.ofNodes q.nodes) ds

/-- The document that says that a query is valid. -/
def summaryDocument (query : Option Query) (ds : List Diagnostic) : Json :=
  let s := (query.map Statistics.ofQuery).getD .zero
  .object [
    ("valid", .bool true),
    ("empty", .bool query.isNone),
    ("filters", .number s.filters),
    ("calculators", .number s.calculators),
    ("clusters", .number s.clusters),
    ("depth", .number s.depth),
    diagnosticsField ds]

end FilterQuery.Report
