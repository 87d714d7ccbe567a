import Mathlib
import FilterQuery.Query.Node

/-!
# Walks over a query

What one meets on the way through a query from left to right, down into every
cluster: its leaves, which are the filters and calculators, and its clusters
with their numbers. `AllPlaced` says of every node that it names the cluster it
stands in, and `raiseAll` counts the clusters from another number on.
-/

namespace FilterQuery

mutual

/-- The filters and calculators in a node. -/
def Node.leaves : Node → List Node
  | .filter reference => [.filter reference]
  | .calculator sum => [.calculator sum]
  | .cluster _ _ children _ => leavesOf children

/-- The filters and calculators in neighbouring nodes. -/
def leavesOf : List Node → List Node
  | [] => []
  | node :: nodes => node.leaves ++ leavesOf nodes

end

/-- The argument of a filter or calculator. -/
def Node.argument? : Node → Option String
  | .filter reference => some reference.argument
  | .calculator sum => some sum.argument
  | .cluster _ _ _ _ => none

mutual

/-- The numbers of the clusters in a node, each before those inside it. -/
def Node.clusterIds : Node → List Nat
  | .filter _ => []
  | .calculator _ => []
  | .cluster id _ children _ => id :: clusterIdsOf children

/-- The numbers of the clusters in neighbouring nodes. -/
def clusterIdsOf : List Node → List Nat
  | [] => []
  | node :: nodes => node.clusterIds ++ clusterIdsOf nodes

end

mutual

/-- The clusters in a node, each before those inside it: its number and its nodes. -/
def Node.clusters : Node → List (Nat × List Node)
  | .filter _ => []
  | .calculator _ => []
  | .cluster id _ children _ => (id, children) :: clustersOf children

/-- The clusters in neighbouring nodes. -/
def clustersOf : List Node → List (Nat × List Node)
  | [] => []
  | node :: nodes => node.clusters ++ clustersOf nodes

end

mutual

/-- A calculator or cluster in `parent` names it, and so on inside. -/
def Node.Placed (parent : Nat) : Node → Prop
  | .filter _ => True
  | .calculator sum => sum.parent = parent
  | .cluster id around children _ => around = parent ∧ AllPlaced id children

/-- All of these nodes stand in `parent`. -/
def AllPlaced (parent : Nat) : List Node → Prop
  | [] => True
  | node :: nodes => node.Placed parent ∧ AllPlaced parent nodes

end

mutual

/-- The node with `n` added to every number of a cluster. -/
def Node.raise (n : Nat) : Node → Node
  | .filter reference => .filter reference
  | .calculator sum => .calculator { sum with parent := sum.parent + n }
  | .cluster id parent children connector =>
    .cluster (id + n) (parent + n) (raiseAll n children) connector

/-- Neighbouring nodes with `n` added to every number of a cluster. -/
def raiseAll (n : Nat) : List Node → List Node
  | [] => []
  | node :: nodes => node.raise n :: raiseAll n nodes

end

end FilterQuery
