import FilterQuery.Query.Node

/-!
# Statistics of a query

How many nodes of each sort a query has, and how deep its clusters go. The root
is not counted, neither as a cluster nor as a level.
-/

namespace FilterQuery

/-- Counts over a query. -/
structure Statistics where
  /-- How many filters there are. -/
  filters : Nat
  /-- How many calculators there are. -/
  calculators : Nat
  /-- How many clusters there are. -/
  clusters : Nat
  /-- The greatest number of clusters around a place in the query. -/
  depth : Nat
  deriving DecidableEq, Repr, Inhabited

namespace Statistics

/-- The counts of no nodes at all. -/
def zero : Statistics := ⟨0, 0, 0, 0⟩

/-- The counts of neighbours. -/
def beside (a b : Statistics) : Statistics where
  filters := a.filters + b.filters
  calculators := a.calculators + b.calculators
  clusters := a.clusters + b.clusters
  depth := max a.depth b.depth

/-- The counts of a cluster around nodes with the counts `a`. -/
def around (a : Statistics) : Statistics :=
  { a with clusters := a.clusters + 1, depth := a.depth + 1 }

mutual

/-- The counts of one node. -/
def ofNode : Node → Statistics
  | .filter _ => { zero with filters := 1 }
  | .calculator _ => { zero with calculators := 1 }
  | .cluster _ _ children _ => (ofNodes children).around

/-- The counts of neighbouring nodes. -/
def ofNodes : List Node → Statistics
  | [] => zero
  | node :: nodes => (ofNode node).beside (ofNodes nodes)

end

/-- The counts of a query. -/
def ofQuery (query : Query) : Statistics :=
  ofNodes query.nodes

end Statistics

end FilterQuery
