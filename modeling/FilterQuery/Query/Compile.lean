import FilterQuery.Query.Operand

/-!
# Reading and compiling a query

The reader goes over the text once, from the bracket that opens the root cluster to the one
that closes it. What it has come to there is the compilation of the text.
-/

namespace FilterQuery

/-!
## Reading a query

The reader walks once through the text. Its state is the cursor, the number that
the next cluster will get, the number of clusters open around the cursor, and
the diagnostics so far. A reading takes the state and ends with a value or with
the first error; either way it leaves a state, since the diagnostics before an
error still count.

Filters and calculators are flat; clusters nest. The body of a cluster is one
loop over its characters, which calls itself for a cluster inside. It is given a
bound on the characters still to come: every turn uses one up, so when the bound
is spent there is no character left, and the answer is the same as at the end of
the text.
-/

/-- The state of reading a query. -/
structure Reader where
  /-- The place in the text. -/
  cursor : Cursor
  /-- The number of the next cluster to open. -/
  nextId : Nat
  /-- How many clusters are open. -/
  depth : Nat
  /-- The irregularities so far, in the order of the text. -/
  diagnostics : List Diagnostic
  deriving DecidableEq, Repr, Inhabited

/-- A part of the reading: it ends with a value or an error, and with a state in
both cases. -/
abbrev Reading (α : Type) : Type :=
  EStateM CompileError Reader α

namespace Reading

/-- The place of the reader. -/
def place : Reading Cursor :=
  fun r => .ok r.cursor r

/-- Lets a scan run from the reader's place; the reader moves if it succeeds. -/
def scan {α : Type} (f : Cursor → Except CompileError (α × Cursor)) : Reading α :=
  fun r =>
    match f r.cursor with
    | .ok (a, c) => .ok a { r with cursor := c }
    | .error e => .error e r

/-- Steps to the next character. -/
def stepForward (missing : QueryErrorKind) : Reading Unit :=
  scan fun c => (Scan.stepForward c missing).map ((), ·)

/-- Steps to the previous character. -/
def stepBack : Reading Unit :=
  scan fun c => (Scan.stepBack c).map ((), ·)

/-- Goes on with a result that was computed apart. -/
def ofExcept {α : Type} : Except CompileError α → Reading α
  | .ok a => pure a
  | .error e => throw e

/-- Looks ahead for a connector and keeps the diagnostics of doing so. -/
def connector : Reading (Option Connector) :=
  fun r =>
    let (skipped, outcome) := Scan.connector r.cursor
    let r := { r with diagnostics := r.diagnostics ++ skipped }
    match outcome with
    | .ok (k, c) => .ok k { r with cursor := c }
    | .error e => .error e r

/-! ## Filters and calculators -/

/-- Reads a filter from its first character on. The scan of the identifier is
handed the character before it, as every scan is. -/
def filter (registry : Registry) : Reading FilterReference := do
  let start ← place
  stepBack
  let identifier ← scan (Scan.identifier "")
  let kind ← ofExcept (Scan.resolve registry identifier start)
  stepBack
  let comparison ← scan (Scan.comparison identifier)
  let argument ← scan (Scan.argument identifier false "")
  let connector ← connector
  return { identifier, kind, comparison, argument, connector }

/-- The name that stands for a calculator in the errors of its comparison and
its argument. -/
def calculatorName : String := "#calc"

/-- Checks that a calculator has operands, newest first, and that no operator is
left without one. -/
def checkOperands (start finish : Cursor) : List Operand → Except CompileError Unit
  | [] => .error (Scan.errorAt start .emptyCalculator)
  | ⟨_, some operator⟩ :: _ => .error (Scan.errorAt finish (.danglingArithmetic operator))
  | ⟨_, none⟩ :: _ => .ok ()

/-- Reads a calculator of the cluster `parent` from the bracket that opens its
operands on; `start` is the mark before the bracket. -/
def calculator (registry : Registry) (parent : Nat) (start : Cursor) : Reading Calculator := do
  let newest ← scan (Scan.operands registry [])
  ofExcept (checkOperands start (← place) newest)
  let comparison ← scan (Scan.comparison calculatorName)
  let argument ← scan (Scan.argument calculatorName false "")
  let connector ← connector
  return { parent, operands := newest.reverse, comparison, argument, connector }

end Reading

/-! ## Clusters -/

/-- A cluster whose end has not been reached. -/
structure OpenCluster where
  /-- The number of the cluster. -/
  id : Nat
  /-- Its nodes so far, newest first. -/
  newest : List Node
  deriving Repr, Inhabited

namespace OpenCluster

/-- The nodes as written. -/
def nodes (cluster : OpenCluster) : List Node :=
  cluster.newest.reverse

/-- Adds a node that starts at `start`; the node before it has to be joined with
it. -/
def append (cluster : OpenCluster) (node : Node) (start : Cursor) :
    Except CompileError OpenCluster :=
  let added := { cluster with newest := node :: cluster.newest }
  match cluster.newest with
  | [] => .ok added
  | last :: _ =>
    if last.connector = none then .error (Scan.errorAt start .missingConnector) else .ok added

/-- Joins the last node with the next one, by a connector that stands at
`start`. A second connector replaces the first. -/
def attach (cluster : OpenCluster) (connector : Connector) (start : Cursor) :
    Except CompileError OpenCluster :=
  match cluster.newest with
  | [] => .error (Scan.errorAt start (.danglingConnector connector))
  | last :: earlier =>
    .ok { cluster with newest := last.withConnector (some connector) :: earlier }

end OpenCluster

/-- The deepest nesting of clusters, counting the root. -/
def maxNestingDepth : Nat := 128

namespace Reading

/-- Reads a cluster with the given reading of its body: gives it a number and
counts it as open while the body is read. The reader is on the opening
bracket. -/
def nested (body : OpenCluster → Reading OpenCluster) : Reading OpenCluster :=
  fun r =>
    if r.depth = maxNestingDepth then
      .error (Scan.errorAt r.cursor (.nestingTooDeep maxNestingDepth)) r
    else
      match body ⟨r.nextId, []⟩ { r with nextId := r.nextId + 1, depth := r.depth + 1 } with
      | .ok cluster r => .ok cluster { r with depth := r.depth - 1 }
      | .error e r => .error e { r with depth := r.depth - 1 }

/-- Reads the rest of a cluster and leaves the reader on its closing bracket.
`bound` is at least the number of unread characters. -/
def body (registry : Registry) (bound : Nat) (cluster : OpenCluster) : Reading OpenCluster := do
  match bound with
  | 0 => throw (Scan.errorAt (← place) .unterminatedObject)
  | bound + 1 =>
    stepForward .unterminatedObject
    let start ← place
    match start.currentClass with
    | .whitespace => body registry bound cluster
    | .closeBracket => return cluster
    | .openBracket =>
      let child ← nested (body registry bound)
      let node := .cluster child.id cluster.id child.nodes none
      body registry bound (← ofExcept (cluster.append node start))
    | .sharp =>
      stepForward .unterminatedObject
      if (← place).currentClass = .openBracket then
        let node ← calculator registry cluster.id start
        body registry bound (← ofExcept (cluster.append (.calculator node) start))
      else
        body registry bound cluster
    | .logicalAnd => body registry bound (← ofExcept (cluster.attach .and start))
    | .logicalOr => body registry bound (← ofExcept (cluster.attach .or start))
    | .logicalXor => body registry bound (← ofExcept (cluster.attach .xor start))
    | _ =>
      let node ← filter registry
      body registry bound (← ofExcept (cluster.append (.filter node) start))

/-- Reads a cluster from its opening bracket to its closing one. -/
def cluster (registry : Registry) : Reading OpenCluster :=
  fun r => nested (body registry r.cursor.remaining) r

end Reading

/-!
## Compiling a query

A text that is empty compiles to nothing. Any other text has to start, after
whitespace, with a bracket that opens the root cluster; its nodes are the query,
and nothing after its closing bracket is read.
-/

/-- Moves to the bracket that opens the root cluster. -/
def Scan.root (c : Cursor) : Except CompileError Cursor :=
  match c.currentClass with
  | .whitespace =>
    match _step : stepForward c (.missingRootObject none) with
    | .error e => .error e
    | .ok d => root d
  | .openBracket => .ok c
  | _ => .error (errorAt c (.missingRootObject (some c.current)))
termination_by c.remaining
decreasing_by exact remaining_stepForward_lt _step

/-- The outcome of a compilation. -/
structure Compilation where
  /-- The query, nothing for an empty text, or the first error. -/
  outcome : Except CompileError (Option Query)
  /-- The irregularities found on the way, in the order of the text. -/
  diagnostics : List Diagnostic
  deriving Inhabited

/-- Compiles the text in which `c` is the first character. -/
def compileFrom (registry : Registry) (c : Cursor) : Compilation :=
  match Scan.root c with
  | .error e => ⟨.error e, []⟩
  | .ok c =>
    match Reading.cluster registry ⟨c, 0, 0, []⟩ with
    | .ok root r => ⟨.ok (some ⟨root.nodes⟩), r.diagnostics⟩
    | .error e r => ⟨.error e, r.diagnostics⟩

/-- Compiles a text against a registry. -/
def compile (registry : Registry) (source : String) : Compilation :=
  match Cursor.ofString? source with
  | none => ⟨.ok none, []⟩
  | some c => compileFrom registry c

theorem compile_of_nil {registry : Registry} {source : String} (h : source.toList = []) :
    compile registry source = ⟨.ok none, []⟩ := by
  unfold compile Cursor.ofString?
  rw [h]
  rfl

theorem compile_of_cons {registry : Registry} {source : String} {c : Char} {t : List Char}
    (h : source.toList = c :: t) : compile registry source = compileFrom registry ⟨[], c, t⟩ := by
  unfold compile Cursor.ofString?
  rw [h]
  rfl

end FilterQuery
