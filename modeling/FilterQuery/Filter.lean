/-!
# Filters

A filter is known to the rest of the library by two facts only: the identifier
under which a query names it, and the kind of value it yields. What the filter
computes is no concern here: a query is read, checked and shown, never run.
-/

namespace FilterQuery

/-- The kind of value a filter yields. Only numerical filters may stand in a
calculator. -/
inductive Kind where
  /-- A number, such as a count. -/
  | numerical
  /-- Text, such as the body of a post. -/
  | text
  deriving DecidableEq, Repr, Inhabited

/-- The word by which a kind is written, in settings and in every output. -/
def Kind.name : Kind → String
  | .numerical => "numerical"
  | .text => "text"

/-- Reads a kind from its word; case counts. -/
def Kind.ofName? : String → Option Kind
  | "numerical" => some .numerical
  | "text" => some .text
  | _ => none

theorem Kind.ofName?_name (k : Kind) : Kind.ofName? k.name = some k := by
  cases k <;> rfl

/-- A known filter: its identifier and the kind of value it yields. -/
structure Filter where
  /-- The name a query uses. -/
  identifier : String
  /-- What the filter yields. -/
  kind : Kind
  deriving DecidableEq, Repr, Inhabited

end FilterQuery
