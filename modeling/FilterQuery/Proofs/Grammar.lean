import Mathlib
import FilterQuery.Query.Compile

/-!
# The language of queries

The texts that compile, and what each of them means, without a cursor and
without a reader. A text is described by its tree: what stands where, every
blank and every character that is passed over included. From the tree one reads
off the text (`Root.text`), the query (`Root.query`) and the diagnostics
(`Root.diagnostics`).

A body is one sequence of parts, so `Body` is a list with seven kinds of cells.
Where a part is one character of a class the class is in its type, and a clause
or a term carries the conditions on its characters with it. What is left
to ask of a tree is what no single part can know (`Body.Valid`): that names are
registered, and that a connector stands behind a node and a second node behind
a connector.

Two points are wider than the documented grammar. A clause keeps a `gap`
between its comparison and the quote that opens the argument; there anything
may stand that is no quote and no closing bracket, and a backslash there counts
already (`escapes`). And behind the argument every character is passed over up
to the next connector or closing bracket.
-/

namespace FilterQuery

namespace Grammar

/-! ## Characters -/

abbrev Blank : Type := { c : Char // classify c = .whitespace }

/-- A run of blanks. -/
def Blanks (t : List Char) : Prop :=
  ∀ c ∈ t, classify c = .whitespace

abbrev Opening : Type := { c : Char // classify c = .openBracket }

abbrev Closing : Type := { c : Char // classify c = .closeBracket }

/-- The connector that a character stands for. -/
def connector? (c : Char) : Option Connector :=
  match classify c with
  | .logicalAnd => some .and
  | .logicalOr => some .or
  | .logicalXor => some .xor
  | _ => none

/-- Whether the search for a connector ends on this character: at a connector,
or at the bracket that closes the cluster. -/
def endsSearch (c : Char) : Bool :=
  classify c = .closeBracket || (connector? c).isSome

/-- Whether the symbol of a comparison ends before this character. -/
def endsSymbol (c : Char) : Bool :=
  classify c = .whitespace || c = '"' || isIdentifierChar c

/-! ## Arguments -/

/-- Whether a text has no quote and no closing bracket but behind a backslash,
and no backslash without a character behind it. -/
def bare : List Char → Bool
  | [] => true
  | '\\' :: _ :: t => bare t
  | c :: t => c ≠ '"' && c ≠ '\\' && classify c ≠ .closeBracket && bare t

/-- What the text between two quotes stands for: whitespace is dropped unless it
is escaped, and escapes are resolved. -/
def decode : List Char → List Char
  | [] => []
  | '\\' :: c :: t => Scan.decodeEscape c :: decode t
  | c :: t => if classify c = .whitespace then decode t else c :: decode t

/-- What the escapes of a text stand for, everything else dropped. -/
def escapes : List Char → List Char
  | [] => []
  | '\\' :: c :: t => Scan.decodeEscape c :: escapes t
  | _ :: t => escapes t

/-- The diagnostics about a text that is passed over; the bytes before it are
counted by `offset`. -/
def skipDiagnostics (offset : Nat) : List Char → List Diagnostic
  | [] => []
  | c :: t =>
    let later := skipDiagnostics (offset + c.utf8Size) t
    if classify c = .whitespace then later else .unexpectedCharacter c offset :: later

/-- A comparison with its argument: what follows the name of a filter, or the
operands of a calculator. -/
structure Clause where
  blanks : List Char
  comparison : Comparison
  /-- What stands between the comparison and the quote that opens the argument. -/
  gap : List Char
  /-- What stands between the quotes. -/
  inner : List Char
  /-- What is passed over in search of a connector. -/
  skipped : List Char
  blanks_blank : Blanks blanks
  gap_ends_symbol : ∀ c ∈ gap.head?, endsSymbol c
  gap_bare : bare gap
  inner_bare : bare inner
  skipped_search : ∀ c ∈ skipped, endsSearch c = false

namespace Clause

/-- The text of a clause up to the quote that closes its argument. -/
def front (clause : Clause) : List Char :=
  clause.blanks ++ clause.comparison.symbol.toList ++ clause.gap ++
    '"' :: clause.inner ++ ['"']

def text (clause : Clause) : List Char :=
  clause.front ++ clause.skipped

def argument (clause : Clause) : String :=
  String.ofList (escapes clause.gap ++ decode clause.inner)

/-- The diagnostics about a clause that begins at `offset`. -/
def diagnostics (clause : Clause) (offset : Nat) : List Diagnostic :=
  skipDiagnostics (offset + utf8Length clause.front) clause.skipped

end Clause

/-! ## Calculators -/

/-- An operand that names a filter is a word of identifier characters, any other a
word of digits. -/
def Uniform : OperandValue → Prop
  | .filter identifier => ∀ c ∈ identifier.toList, isIdentifierChar c
  | .literal digits => ∀ c ∈ digits.toList, c.isDigit

/-- An operand as it is written: with blanks inside it, which do not count. -/
structure Term where
  head : Char
  tail : List Char
  value : OperandValue
  head_counts : classify head ≠ .whitespace
  spells : (head :: tail).filter (classify · ≠ .whitespace) = value.text.toList
  uniform : Uniform value

def Term.text (term : Term) : List Char :=
  term.head :: term.tail

/-- An operand that names a filter names a numerical one. -/
def Term.Valid (registry : Registry) (term : Term) : Prop :=
  match term.value with
  | .filter identifier => registry.lookup identifier = some .numerical
  | .literal _ => True

/-- The operands of a calculator, up to the bracket that closes them. -/
inductive Sum where
  /-- A blank or an opening bracket before an operand, which does not count. -/
  | dropped (c : { c : Char // classify c = .whitespace ∨ classify c = .openBracket })
      (rest : Sum)
  | last (term : Term) (closing : Closing)
  | more (term : Term) (operator : Arithmetic) (rest : Sum)

namespace Sum

def text : Sum → List Char
  | dropped c rest => c.val :: rest.text
  | last term closing => term.text ++ [closing.val]
  | more term operator rest => term.text ++ operator.symbol :: rest.text

def operands : Sum → List Operand
  | dropped _ rest => rest.operands
  | last term _ => [⟨term.value, none⟩]
  | more term operator rest => ⟨term.value, some operator⟩ :: rest.operands

/-- Every operand that names a filter names a numerical one. -/
def Valid (registry : Registry) : Sum → Prop
  | dropped _ rest => rest.Valid registry
  | last term _ => term.Valid registry
  | more term _ rest => term.Valid registry ∧ rest.Valid registry

end Sum

/-! ## Bodies -/

abbrev Name : Type := { name : String // ∀ c ∈ name.toList, isIdentifierChar c }

/-- What stands between the brackets of a cluster. -/
inductive Body where
  | done
  | blank (c : Blank) (rest : Body)
  /-- A `#` that announces no calculator, with the character behind it. -/
  | pair (c : { c : Char // classify c ≠ .openBracket }) (rest : Body)
  | connector (k : Connector) (rest : Body)
  | filter (name : Name) (kind : Kind) (clause : Clause) (rest : Body)
  | calculator (opening : Opening) (sum : Sum) (clause : Clause) (rest : Body)
  | cluster (opening : Opening) (inner : Body) (closing : Closing) (rest : Body)

/-- What stands before a place of a body: no node, a node without a connector,
or a node with one. -/
inductive Joint where
  | first
  | loose
  | joined
  deriving DecidableEq, Repr, Inhabited

namespace Body

def text : Body → List Char
  | done => []
  | blank c rest => c.val :: rest.text
  | pair c rest => '#' :: c.val :: rest.text
  | connector k rest => k.symbol :: rest.text
  | filter name _ clause rest => name.val.toList ++ clause.text ++ rest.text
  | calculator opening sum clause rest =>
    '#' :: opening.val :: sum.text ++ clause.text ++ rest.text
  | cluster opening inner closing rest =>
    opening.val :: inner.text ++ closing.val :: rest.text

/-- The number of clusters in a body, at any depth. -/
def clusters : Body → Nat
  | done => 0
  | blank _ rest | pair _ rest | connector _ rest => rest.clusters
  | filter _ _ _ rest | calculator _ _ _ rest => rest.clusters
  | cluster _ inner _ rest => inner.clusters + 1 + rest.clusters

/-- How deep clusters are nested in a body. -/
def depth : Body → Nat
  | done => 0
  | blank _ rest | pair _ rest | connector _ rest => rest.depth
  | filter _ _ _ rest | calculator _ _ _ rest => rest.depth
  | cluster _ inner _ rest => max (inner.depth + 1) rest.depth

/-- The last connector of a body before its first node: the one that a node
before the body is joined by. -/
def joining : Body → Option Connector
  | blank _ rest | pair _ rest => rest.joining
  | connector k rest => rest.joining.or (some k)
  | _ => none

/-- The nodes of the body of cluster `id`; clusters are numbered from `next` on,
in the order in which they open. -/
def nodes (id next : Nat) : Body → List Node
  | done => []
  | blank _ rest | pair _ rest | connector _ rest => rest.nodes id next
  | filter name kind clause rest =>
    .filter ⟨name.val, kind, clause.comparison, clause.argument, rest.joining⟩ ::
      rest.nodes id next
  | calculator _ sum clause rest =>
    .calculator ⟨id, sum.operands, clause.comparison, clause.argument, rest.joining⟩ ::
      rest.nodes id next
  | cluster _ inner _ rest =>
    .cluster next id (inner.nodes next (next + 1)) rest.joining ::
      rest.nodes id (next + 1 + inner.clusters)

/-- The diagnostics about a body that begins at `offset`. -/
def diagnostics (offset : Nat) : Body → List Diagnostic
  | done => []
  | blank c rest => rest.diagnostics (offset + utf8Length [c.val])
  | pair c rest => rest.diagnostics (offset + utf8Length ['#', c.val])
  | connector k rest => rest.diagnostics (offset + utf8Length [k.symbol])
  | filter name _ clause rest =>
    let start := offset + utf8Length name.val.toList
    clause.diagnostics start ++ rest.diagnostics (start + utf8Length clause.text)
  | calculator opening sum clause rest =>
    let start := offset + utf8Length ('#' :: opening.val :: sum.text)
    clause.diagnostics start ++ rest.diagnostics (start + utf8Length clause.text)
  | cluster opening inner closing rest =>
    let start := offset + utf8Length [opening.val]
    inner.diagnostics start ++
      rest.diagnostics (start + utf8Length (inner.text ++ [closing.val]))

/-- Whether a body may follow a filter or a calculator: those are passed over up
to a connector or to the end of the body. -/
def endsClause : Body → Prop
  | done | connector _ _ => True
  | _ => False

/-- Whether a body may follow what `joint` says: every filter is registered with
its kind, and begins with its name unless the name is empty; a connector stands
behind a node, and every node but the first behind a connector. -/
def Valid (registry : Registry) : Joint → Body → Prop
  | _, done => True
  | joint, blank _ rest | joint, pair _ rest => rest.Valid registry joint
  | joint, connector _ rest => joint ≠ .first ∧ rest.Valid registry .joined
  | joint, filter name kind clause rest =>
    joint ≠ .loose ∧ registry.lookup name.val = some kind ∧
      (name.val = "" → clause.blanks = []) ∧
      rest.endsClause ∧ rest.Valid registry .loose
  | joint, calculator _ sum _ rest =>
    joint ≠ .loose ∧ sum.Valid registry ∧ rest.endsClause ∧ rest.Valid registry .loose
  | joint, cluster _ inner _ rest =>
    joint ≠ .loose ∧ inner.Valid registry .first ∧ rest.Valid registry .loose

end Body

/-! ## Queries -/

/-- A whole text: blanks, the root cluster, and anything behind it. -/
structure Root where
  lead : List Char
  opening : Opening
  body : Body
  closing : Closing
  ignored : List Char
  lead_blank : Blanks lead

namespace Root

def text (root : Root) : List Char :=
  root.lead ++ root.opening.val :: root.body.text ++ root.closing.val :: root.ignored

/-- The query. The root has number 0. -/
def query (root : Root) : Query :=
  ⟨root.body.nodes 0 1⟩

def diagnostics (root : Root) : List Diagnostic :=
  root.body.diagnostics (utf8Length (root.lead ++ [root.opening.val]))

/-- The body is valid, and no more than 128 clusters are open at once. -/
def Valid (registry : Registry) (root : Root) : Prop :=
  root.body.Valid registry .first ∧ root.body.depth + 1 ≤ 128

end Root

/-- Under a registry, `source` is a text of the language that stands for the
query `q` and gives the diagnostics `ds`. -/
def Derives (registry : Registry) (source : List Char) (q : Query)
    (ds : List Diagnostic) : Prop :=
  ∃ root : Root, root.Valid registry ∧ root.text = source ∧ root.query = q ∧
    root.diagnostics = ds

end Grammar

end FilterQuery
