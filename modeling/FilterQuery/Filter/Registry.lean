import FilterQuery.Filter
import FilterQuery.Text.Lowercase

/-!
# Registries and suggestions

What the reader of queries knows about filters, and which identifier it proposes for one that
it does not know: the nearest, in edits.
-/

namespace FilterQuery.Text

/-!
## Edit distance

The least number of insertions, deletions and substitutions of single
characters that turns one text into another. It is computed row by row: the row
of a list `a` holds the distances from `a` to every prefix of the target, and
each further character of `a` gives the next row from the last.
-/

/-- The rest of a row: `corner` and `above` are the neighbours in the previous
row, `left` the entry just computed. -/
def nextEntries (x : Char) (corner left : Nat) : List Char → List Nat → List Nat
  | y :: ys, above :: aboves =>
    let here := min (min (above + 1) (left + 1)) (corner + if x = y then 0 else 1)
    here :: nextEntries x above here ys aboves
  | _, _ => []

/-- The row after one more character `x` on the left. -/
def nextRow (target : List Char) (row : List Nat) (x : Char) : List Nat :=
  match row with
  | [] => []
  | corner :: aboves => (corner + 1) :: nextEntries x corner (corner + 1) target aboves

/-- The distance between two lists of characters. -/
def charDistance (a b : List Char) : Nat :=
  (a.foldl (nextRow b) (List.range (b.length + 1))).getLastD 0

/-- The edit distance between two texts, counted over characters. -/
def editDistance (a b : String) : Nat :=
  charDistance a.toList b.toList

end FilterQuery.Text

namespace FilterQuery

/-!
## Looking a name up

A registry is all that the reader of queries knows about filters: which
identifiers name a filter and of what kind, and which identifiers may be
proposed for one that names none. The two are independent of each other, so a
registry may answer look-ups and propose nothing.
-/

/-- What a reader of queries knows about filters. -/
structure Registry where
  /-- The kind of the filter with this identifier, if there is one. -/
  lookup : String → Option Kind
  /-- The identifiers to choose suggestions from. -/
  identifiers : List String

namespace Registry

/-- The farthest an identifier may lie from an unknown one to be proposed. -/
def maxSuggestionDistance : Nat := 3

/-- How far apart two identifiers are when case does not count. -/
def distance (a b : String) : Nat :=
  Text.editDistance (Text.lowercase a) (Text.lowercase b)

/-- The first of the candidates that are nearest to `identifier`, with its
distance. -/
def nearest (identifier : String) : List String → Option (String × Nat)
  | [] => none
  | name :: rest =>
    let d := distance identifier name
    match nearest identifier rest with
    | some (best, least) => if d ≤ least then some (name, d) else some (best, least)
    | none => some (name, d)

/-- The identifier to propose for an unknown one: the nearest, if it is near
enough. One that differs in case only is not proposed. -/
def suggest (registry : Registry) (identifier : String) : Option String :=
  match nearest identifier (registry.identifiers.filter (!·.isEmpty)) with
  | some (best, least) =>
    if 0 < least ∧ least ≤ maxSuggestionDistance then some best else none
  | none => none

end Registry

end FilterQuery
