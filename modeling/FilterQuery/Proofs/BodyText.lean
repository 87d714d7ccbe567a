import FilterQuery.Proofs.ReaderText

/-!
# What the reader reads in a cluster

The loop over the body of a cluster does one of seven things at a turn, chosen by
the character in front of it. Each of them is an equation for the loop
(`body_blank` to `body_filter`), and they are all that is ever used of it.

Along the text the turns build a `Body`, cell by cell. The state that carries the
induction is the open cluster: a turn that meets a connector rewrites the newest
node in it, so the node that a filter leaves behind is not yet the node of the
query. `OpenCluster.extend` says what becomes of the nodes already there when
more of the body follows, and composes along the turns.
-/

namespace FilterQuery

open Grammar

/-! ## The characters that a turn begins with -/

/-- Whether a filter is read from this character on: any that has no part of its
own in a cluster. -/
def startsFilter (x : Char) : Bool :=
  match classify x with
  | .other | .singleQuote | .doubleQuote | .escape => true
  | _ => false

theorem classify_eq_sharp {x : Char} : classify x = .sharp ↔ x = '#' := by
  unfold classify
  split <;> simp_all

/-- The ways in which a turn can begin. -/
theorem turn_cases (x : Char) :
    classify x = .whitespace ∨ classify x = .closeBracket ∨ classify x = .openBracket ∨
      x = '#' ∨ (∃ k : Connector, x = k.symbol) ∨ startsFilter x := by
  simp only [startsFilter, ← classify_eq_sharp, ← connector?_eq_some_iff, connector?]
  cases classify x <;> simp

theorem startsFilter_ne_whitespace {x : Char} (h : startsFilter x) :
    classify x ≠ .whitespace := by
  intro hx
  simp [startsFilter, hx] at h

theorem startsFilter_of_isIdentifierChar {x : Char} (h : isIdentifierChar x) :
    startsFilter x := by
  simp [startsFilter, classify_of_isIdentifierChar h]

/-! ## Nodes and their connectors -/

namespace Node

@[simp] theorem withConnector_connector (node : Node) :
    node.withConnector node.connector = node := by
  cases node <;> rfl

@[simp] theorem withConnector_withConnector (node : Node) (j k : Option Connector) :
    (node.withConnector j).withConnector k = node.withConnector k := by
  cases node <;> rfl

end Node

namespace OpenCluster

/-- What stands before the next node of the cluster. -/
def joint (cluster : OpenCluster) : Joint :=
  match cluster.newest with
  | [] => .first
  | last :: _ => if last.connector = none then .loose else .joined

/-- Joins the newest node, if there is one, by a connector, if there is one. -/
def join (k : Option Connector) : List Node → List Node
  | [] => []
  | last :: earlier => last.withConnector (k.or last.connector) :: earlier

/-- The cluster when some more of its body has been read. -/
def extend (cluster : OpenCluster) (b : Body) (next : Nat) : OpenCluster :=
  ⟨cluster.id, (b.nodes cluster.id next).reverse ++ join b.joining cluster.newest⟩

theorem append_eq_ok_iff {cluster cluster' : OpenCluster} {node : Node} {start : Cursor} :
    cluster.append node start = .ok cluster' ↔
      cluster.joint ≠ .loose ∧ cluster' = ⟨cluster.id, node :: cluster.newest⟩ := by
  obtain ⟨id, newest⟩ := cluster
  cases newest with
  | nil => simp [append, joint, eq_comm]
  | cons last earlier =>
    cases hlast : last.connector <;> simp [append, joint, hlast, eq_comm]

theorem attach_eq_ok_iff {cluster cluster' : OpenCluster} {k : Connector} {start : Cursor} :
    cluster.attach k start = .ok cluster' ↔
      cluster.joint ≠ .first ∧ cluster' = ⟨cluster.id, join (some k) cluster.newest⟩ := by
  obtain ⟨id, newest⟩ := cluster
  cases newest with
  | nil => simp [attach, joint]
  | cons last earlier =>
    cases hlast : last.connector <;> simp [attach, joint, join, hlast, eq_comm]

theorem join_none (nodes : List Node) : join none nodes = nodes := by
  cases nodes <;> simp [join]

theorem join_cons (last : Node) (earlier : List Node) (k : Option Connector) :
    join k (last :: earlier) = last.withConnector (k.or last.connector) :: earlier := rfl

theorem join_join (nodes : List Node) (j k : Option Connector) :
    join k (join j nodes) = join (k.or j) nodes := by
  cases nodes <;> simp [join, Option.or_assoc]

theorem joint_cons_ne_first (id : Nat) (node : Node) (newest : List Node) :
    joint ⟨id, node :: newest⟩ ≠ .first := by
  unfold joint
  split
  · next h => cases h
  · split <;> simp

theorem joint_cons_of_connector_eq_none {id : Nat} {node : Node} {newest : List Node}
    (h : node.connector = none) : joint ⟨id, node :: newest⟩ = .loose := by
  simp [joint, h]

theorem joint_join {cluster : OpenCluster} {k : Connector} (h : cluster.joint ≠ .first) :
    joint ⟨cluster.id, join (some k) cluster.newest⟩ = .joined := by
  obtain ⟨id, newest⟩ := cluster
  cases newest with
  | nil => exact absurd rfl h
  | cons last earlier => simp [joint, join]

end OpenCluster

/-! ## The turns -/

/-- The reader inside the cluster that it has come to. -/
def Reader.enter (r : Reader) : Reader :=
  { r with nextId := r.nextId + 1, depth := r.depth + 1 }

/-- The reader outside the cluster that it has read. -/
def Reader.leave (r : Reader) : Reader :=
  { r with depth := r.depth - 1 }

namespace Reading

variable {registry : Registry} {bound : Nat} {cluster : OpenCluster} {r : Reader}
  {m : Cursor} {x : Char}

theorem stepForward_of_reads {missing : QueryErrorKind} (h : r.cursor.Reads [x] m) :
    stepForward missing r = .ok () (r.goto m) :=
  stepForward_eq_ok_iff.mpr ⟨m, h.current_eq_of_step ▸ h, rfl⟩

theorem body_of_after_nil (h : r.cursor.after = []) :
    body registry bound cluster r = .error (Scan.errorAt r.cursor .unterminatedObject) r := by
  cases bound with
  | zero =>
    simp [body, place, bind, EStateM.bind, throw, throwThe, MonadExceptOf.throw, EStateM.throw]
  | succ bound =>
    simp [body, stepForward, scan, Scan.stepForward_of_after_nil h, bind, EStateM.bind,
      Except.map]

theorem place_goto : place (r.goto m) = .ok m (r.goto m) := rfl

theorem body_blank (h : r.cursor.Reads [x] m) (hx : classify x = .whitespace) :
    body registry (bound + 1) cluster r = body registry bound cluster (r.goto m) := by
  rw [body, EStateM.bind_of_eq_ok (stepForward_of_reads h), EStateM.bind_of_eq_ok place_goto]
  simp only [Cursor.currentClass, h.current_eq_of_step, hx]

theorem body_close (h : r.cursor.Reads [x] m) (hx : classify x = .closeBracket) :
    body registry (bound + 1) cluster r = .ok cluster (r.goto m) := by
  rw [body, EStateM.bind_of_eq_ok (stepForward_of_reads h), EStateM.bind_of_eq_ok place_goto]
  simp only [Cursor.currentClass, h.current_eq_of_step, hx]
  rfl

theorem body_open (h : r.cursor.Reads [x] m) (hx : classify x = .openBracket) :
    body registry (bound + 1) cluster r =
      (do
        let child ← nested (body registry bound)
        let node := .cluster child.id cluster.id child.nodes none
        body registry bound (← ofExcept (cluster.append node m)) :
        Reading OpenCluster) (r.goto m) := by
  rw [body, EStateM.bind_of_eq_ok (stepForward_of_reads h), EStateM.bind_of_eq_ok place_goto]
  simp only [Cursor.currentClass, h.current_eq_of_step, hx]

theorem body_connector {k : Connector} (h : r.cursor.Reads [k.symbol] m) :
    body registry (bound + 1) cluster r =
      (do body registry bound (← ofExcept (cluster.attach k m)) :
        Reading OpenCluster) (r.goto m) := by
  rw [body, EStateM.bind_of_eq_ok (stepForward_of_reads h), EStateM.bind_of_eq_ok place_goto]
  simp only [Cursor.currentClass, h.current_eq_of_step]
  cases k <;> rfl

theorem body_filter (h : r.cursor.Reads [x] m) (hx : startsFilter x) :
    body registry (bound + 1) cluster r =
      (do
        let node ← filter registry
        body registry bound (← ofExcept (cluster.append (.filter node) m)) :
        Reading OpenCluster) (r.goto m) := by
  rw [body, EStateM.bind_of_eq_ok (stepForward_of_reads h), EStateM.bind_of_eq_ok place_goto]
  simp only [Cursor.currentClass, h.current_eq_of_step]
  simp only [startsFilter] at hx
  cases hclass : classify x <;> simp [hclass] at hx ⊢

theorem body_sharp (h : r.cursor.Reads ['#'] m) :
    body registry (bound + 1) cluster r =
      (do
        stepForward .unterminatedObject
        if (← place).currentClass = .openBracket then
          let node ← calculator registry cluster.id m
          body registry bound (← ofExcept (cluster.append (.calculator node) m))
        else
          body registry bound cluster :
        Reading OpenCluster) (r.goto m) := by
  rw [body, EStateM.bind_of_eq_ok (stepForward_of_reads h), EStateM.bind_of_eq_ok place_goto]
  simp only [Cursor.currentClass, h.current_eq_of_step]
  rfl

/-- Behind a `#` the turn goes one character on. -/
theorem body_sharp_step {c : Cursor} (h : r.cursor.Reads ['#'] m) (hx : m.Reads [x] c) :
    body registry (bound + 1) cluster r =
      (if classify x = .openBracket then do
          let node ← calculator registry cluster.id m
          body registry bound (← ofExcept (cluster.append (.calculator node) m))
        else
          body registry bound cluster :
        Reading OpenCluster) (r.goto c) := by
  have hstep : stepForward .unterminatedObject (r.goto m) = .ok () (r.goto c) :=
    stepForward_of_reads hx
  rw [body_sharp h, EStateM.bind_of_eq_ok hstep, EStateM.bind_of_eq_ok place_goto,
    Cursor.currentClass, hx.current_eq_of_step]

theorem nested_eq_ok_iff {f : OpenCluster → Reading OpenCluster} {child : OpenCluster}
    {r' : Reader} :
    nested f r = .ok child r' ↔
      r.depth ≠ maxNestingDepth ∧
        ∃ s, f ⟨r.nextId, []⟩ r.enter = .ok child s ∧ r' = s.leave := by
  unfold nested
  split
  · next hdepth => simp [hdepth]
  · next hdepth =>
    simp only [Reader.enter, Reader.leave]
    cases f ⟨r.nextId, []⟩ { r with nextId := r.nextId + 1, depth := r.depth + 1 } <;>
      simp [hdepth, and_assoc, eq_comm]

end Reading

/-! ## What may follow a clause -/

namespace Grammar.Body

variable {b : Body} {closing : Closing} {x : Char} {t : List Char}

/-- The first character tells whether a body may follow a clause. -/
theorem endsClause_iff (h : b.text ++ [closing.val] = x :: t) :
    b.endsClause ↔ endsSearch x := by
  cases b with
  | done =>
    obtain ⟨rfl, -⟩ := List.cons.inj h
    simp [endsClause, endsSearch, closing.property]
  | blank c rest =>
    obtain ⟨rfl, -⟩ := List.cons.inj h
    simp [endsClause, endsSearch, connector?, c.property]
  | pair c rest =>
    obtain ⟨rfl, -⟩ := List.cons.inj h
    simp [endsClause, endsSearch, connector?, classify]
  | connector k rest =>
    obtain ⟨rfl, -⟩ := List.cons.inj h
    cases k <;> simp [endsClause, endsSearch, connector?, classify, Connector.symbol]
  | filter name kind clause rest =>
    have hx : endsSearch x = false := by
      cases hname : name.val.toList with
      | nil =>
        obtain ⟨y, u, htext, -, hy⟩ := clause.text_head
        simp only [text, hname, htext, List.nil_append, List.cons_append, List.cons.injEq] at h
        rw [← h.1, hy]
      | cons a letters =>
        have ha : isIdentifierChar a := name.property a (by simp [hname])
        simp only [text, hname, List.cons_append, List.cons.injEq] at h
        simp [← h.1, endsSearch, connector?, classify_of_isIdentifierChar ha]
    simp [endsClause, hx]
  | calculator opening sum clause rest =>
    obtain ⟨rfl, -⟩ := List.cons.inj h
    simp [endsClause, endsSearch, connector?, classify]
  | cluster opening inner closing' rest =>
    obtain ⟨rfl, -⟩ := List.cons.inj h
    simp [endsClause, endsSearch, connector?, opening.property]

/-- The connector that a filter finds by looking ahead is found again by what
follows. -/
theorem joining_or (hends : b.endsClause) (h : b.text ++ [closing.val] = x :: t) :
    b.joining.or (connector? x) = b.joining := by
  cases b with
  | done =>
    obtain ⟨rfl, -⟩ := List.cons.inj h
    simp [joining, connector?, closing.property]
  | connector k rest =>
    obtain ⟨rfl, -⟩ := List.cons.inj h
    rw [connector?_eq_some_iff.mpr rfl, joining, Option.or_assoc, Option.or_self]
  | _ => cases hends

theorem valid_iff_of_endsClause {registry : Registry} {joint : Joint}
    (hends : b.endsClause) (hjoint : joint ≠ .first) :
    b.Valid registry joint ↔ b.Valid registry .loose := by
  cases b with
  | done => simp [Valid]
  | connector k rest => simp [Valid, hjoint]
  | _ => cases hends

end Grammar.Body

/-! ## Cells

How one cell moves the reader. Each cell is an equivalence, so it serves for
taking a text apart and for putting one together. -/

/-- From an open cluster, the reader covers a body and the bracket that closes
it. -/
structure Covers (registry : Registry) (cluster : OpenCluster) (r : Reader) (b : Body)
    (closing : Closing) (d : Cursor) : Prop where
  reads : r.cursor.Reads (b.text ++ [closing.val]) d
  valid : b.Valid registry cluster.joint
  depth : r.depth + b.depth ≤ maxNestingDepth

/-- The reader behind a body. -/
def Reader.behind (r : Reader) (b : Body) (d : Cursor) : Reader :=
  ⟨d, r.nextId + b.clusters, r.depth, r.diagnostics ++ b.diagnostics r.cursor.reach⟩

namespace Covers

variable {registry : Registry} {cluster : OpenCluster} {r : Reader} {rest : Body}
  {closing : Closing} {m d : Cursor}

theorem blank_iff {c : Blank} (h : r.cursor.Reads [c.val] m) :
    Covers registry cluster r (.blank c rest) closing d ↔
      Covers registry cluster (r.goto m) rest closing d := by
  constructor
  · rintro ⟨hread, hvalid, hdepth⟩
    exact ⟨h.append_iff.mp hread, hvalid, hdepth⟩
  · rintro ⟨hread, hvalid, hdepth⟩
    exact ⟨h.append_iff.mpr hread, hvalid, hdepth⟩

theorem pair_iff {c : { c : Char // classify c ≠ .openBracket }}
    (h : r.cursor.Reads ['#', c.val] m) :
    Covers registry cluster r (.pair c rest) closing d ↔
      Covers registry cluster (r.goto m) rest closing d := by
  constructor
  · rintro ⟨hread, hvalid, hdepth⟩
    exact ⟨h.append_iff.mp hread, hvalid, hdepth⟩
  · rintro ⟨hread, hvalid, hdepth⟩
    exact ⟨h.append_iff.mpr hread, hvalid, hdepth⟩

theorem connector_iff {k : Connector} (h : r.cursor.Reads [k.symbol] m) :
    Covers registry cluster r (.connector k rest) closing d ↔
      cluster.joint ≠ .first ∧
        Covers registry ⟨cluster.id, OpenCluster.join (some k) cluster.newest⟩ (r.goto m)
          rest closing d := by
  constructor
  · rintro ⟨hread, ⟨hjoint, hvalid⟩, hdepth⟩
    refine ⟨hjoint, h.append_iff.mp hread, ?_, hdepth⟩
    rw [OpenCluster.joint_join hjoint]
    exact hvalid
  · rintro ⟨hjoint, hread, hvalid, hdepth⟩
    rw [OpenCluster.joint_join hjoint] at hvalid
    exact ⟨h.append_iff.mpr hread, ⟨hjoint, hvalid⟩, hdepth⟩

theorem filter_iff {name : Name} {kind : Kind} {clause : Clause} {node : Node}
    {ds : List Diagnostic} (h : r.cursor.Reads (name.val.toList ++ clause.text) m) :
    Covers registry cluster r (.filter name kind clause rest) closing d ↔
      cluster.joint ≠ .loose ∧ registry.lookup name.val = some kind ∧
        (name.val = "" → clause.blanks = []) ∧ rest.endsClause ∧
        Covers registry ⟨cluster.id, node :: cluster.newest⟩ (r.moved m ds) rest closing d := by
  have hjoint := OpenCluster.joint_cons_ne_first cluster.id node cluster.newest
  constructor
  · rintro ⟨hread, ⟨hloose, hlookup, hblanks, hends, hvalid⟩, hdepth⟩
    refine ⟨hloose, hlookup, hblanks, hends, ?_, ?_, hdepth⟩
    · rw [Body.text, List.append_assoc] at hread
      exact h.append_iff.mp hread
    · exact (Body.valid_iff_of_endsClause hends hjoint).mpr hvalid
  · rintro ⟨hloose, hlookup, hblanks, hends, hread, hvalid, hdepth⟩
    refine ⟨?_, ⟨hloose, hlookup, hblanks, hends, ?_⟩, hdepth⟩
    · rw [Body.text, List.append_assoc]
      exact h.append_iff.mpr hread
    · exact (Body.valid_iff_of_endsClause hends hjoint).mp hvalid

theorem calculator_iff {opening : Opening} {sum : Sum} {clause : Clause} {node : Node}
    {ds : List Diagnostic}
    (h : r.cursor.Reads ('#' :: opening.val :: sum.text ++ clause.text) m) :
    Covers registry cluster r (.calculator opening sum clause rest) closing d ↔
      cluster.joint ≠ .loose ∧ sum.Valid registry ∧ rest.endsClause ∧
        Covers registry ⟨cluster.id, node :: cluster.newest⟩ (r.moved m ds) rest closing d := by
  have hjoint := OpenCluster.joint_cons_ne_first cluster.id node cluster.newest
  constructor
  · rintro ⟨hread, ⟨hloose, hsum, hends, hvalid⟩, hdepth⟩
    refine ⟨hloose, hsum, hends, ?_, ?_, hdepth⟩
    · rw [Body.text, List.append_assoc] at hread
      exact h.append_iff.mp hread
    · exact (Body.valid_iff_of_endsClause hends hjoint).mpr hvalid
  · rintro ⟨hloose, hsum, hends, hread, hvalid, hdepth⟩
    refine ⟨?_, ⟨hloose, hsum, hends, ?_⟩, hdepth⟩
    · rw [Body.text, List.append_assoc]
      exact h.append_iff.mpr hread
    · exact (Body.valid_iff_of_endsClause hends hjoint).mp hvalid

theorem cluster_iff {opening : Opening} {inner : Body} {closing' : Closing} {node : Node}
    {id : Nat} {e : Cursor} (h : r.cursor.Reads [opening.val] m)
    (hinner : m.Reads (inner.text ++ [closing'.val]) e) (hnode : node.connector = none) :
    Covers registry cluster r (.cluster opening inner closing' rest) closing d ↔
      cluster.joint ≠ .loose ∧
        Covers registry ⟨id, []⟩ (r.goto m).enter inner closing' e ∧
        Covers registry ⟨cluster.id, node :: cluster.newest⟩
          ((r.goto m).enter.behind inner e).leave rest closing d := by
  have hdepth_inner : (r.goto m).enter.depth = r.depth + 1 := rfl
  have hdepth_rest : ((r.goto m).enter.behind inner e).leave.depth = r.depth := rfl
  have hjoint : OpenCluster.joint ⟨cluster.id, node :: cluster.newest⟩ = .loose :=
    OpenCluster.joint_cons_of_connector_eq_none hnode
  have hreads :
      r.cursor.Reads ((Body.cluster opening inner closing' rest).text ++ [closing.val]) d ↔
        e.Reads (rest.text ++ [closing.val]) d := by
    rw [← (h.trans hinner).append_iff]
    simp [Body.text]
  constructor
  · rintro ⟨hread, ⟨hloose, hvalid, hrest⟩, hdepth⟩
    rw [Body.depth] at hdepth
    refine ⟨hloose, ⟨hinner, hvalid, ?_⟩, hreads.mp hread, ?_, ?_⟩
    · omega
    · rw [hjoint]
      exact hrest
    · omega
  · rintro ⟨hloose, ⟨-, hvalid, hdepth⟩, hread, hrest, hdepth'⟩
    rw [hjoint] at hrest
    refine ⟨hreads.mpr hread, ⟨hloose, hvalid, hrest⟩, ?_⟩
    rw [Body.depth]
    omega

end Covers

/-! ## What becomes of the cluster and of the reader -/

namespace OpenCluster

variable {cluster : OpenCluster} {rest : Body} {next : Nat}

theorem extend_done : cluster.extend .done next = cluster := by
  simp [extend, Body.nodes, Body.joining, join_none]

theorem nodes_extend_nil {id : Nat} {b : Body} :
    (extend ⟨id, []⟩ b next).nodes = b.nodes id next := by
  simp [extend, nodes, join]

theorem extend_connector {k : Connector} :
    extend ⟨cluster.id, join (some k) cluster.newest⟩ rest next =
      cluster.extend (.connector k rest) next := by
  simp [extend, Body.nodes, Body.joining, join_join]

/-- A node with the connector it has been given so far, and the cell that it is
for. -/
theorem extend_node {b : Body} {node : Node} {later : Nat} (hjoining : b.joining = none)
    (hnodes : b.nodes cluster.id next =
      node.withConnector (rest.joining.or node.connector) :: rest.nodes cluster.id later) :
    extend ⟨cluster.id, node :: cluster.newest⟩ rest later = cluster.extend b next := by
  rw [extend, extend, hjoining, hnodes, join_none, join_cons, List.reverse_cons,
    List.append_assoc, List.singleton_append]

theorem extend_filter {name : Name} {kind : Kind} {clause : Clause} {j : Option Connector}
    (hj : rest.joining.or j = rest.joining) :
    extend ⟨cluster.id, .filter ⟨name.val, kind, clause.comparison, clause.argument, j⟩ ::
        cluster.newest⟩ rest next =
      cluster.extend (.filter name kind clause rest) next := by
  apply extend_node rfl
  rw [Node.connector, hj]
  rfl

theorem extend_calculator {opening : Opening} {sum : Sum} {clause : Clause}
    {j : Option Connector} (hj : rest.joining.or j = rest.joining) :
    extend ⟨cluster.id, .calculator ⟨cluster.id, sum.operands, clause.comparison,
        clause.argument, j⟩ :: cluster.newest⟩ rest next =
      cluster.extend (.calculator opening sum clause rest) next := by
  apply extend_node rfl
  rw [Node.connector, hj]
  rfl

theorem extend_cluster {opening : Opening} {inner : Body} {closing : Closing} :
    extend ⟨cluster.id, .cluster next cluster.id (inner.nodes next (next + 1)) none ::
        cluster.newest⟩ rest (next + 1 + inner.clusters) =
      cluster.extend (.cluster opening inner closing rest) next := by
  apply extend_node rfl
  rw [Node.connector, Option.or_none]
  rfl

end OpenCluster

namespace Reader

variable {r : Reader} {rest : Body} {m d e : Cursor}

theorem behind_done : r.goto d = r.behind .done d := by
  simp [behind, goto, Body.clusters, Body.diagnostics]

theorem behind_blank {c : Blank} (h : r.cursor.Reads [c.val] m) :
    (r.goto m).behind rest d = r.behind (.blank c rest) d := by
  simp [behind, goto, Body.clusters, Body.diagnostics, h.reach_eq]

theorem behind_pair {c : { c : Char // classify c ≠ .openBracket }}
    (h : r.cursor.Reads ['#', c.val] m) :
    (r.goto m).behind rest d = r.behind (.pair c rest) d := by
  simp [behind, goto, Body.clusters, Body.diagnostics, h.reach_eq]

theorem behind_connector {k : Connector} (h : r.cursor.Reads [k.symbol] m) :
    (r.goto m).behind rest d = r.behind (.connector k rest) d := by
  simp [behind, goto, Body.clusters, Body.diagnostics, h.reach_eq]

theorem behind_filter {name : Name} {kind : Kind} {clause : Clause}
    (h : r.cursor.Reads (name.val.toList ++ clause.text) m) :
    (r.moved m (clause.diagnostics (r.cursor.reach + utf8Length name.val.toList))).behind
        rest d = r.behind (.filter name kind clause rest) d := by
  simp [behind, moved, Body.clusters, Body.diagnostics, h.reach_eq, utf8Length_append,
    Nat.add_assoc]

theorem behind_calculator {opening : Opening} {sum : Sum} {clause : Clause}
    (hopening : r.cursor.Reads ['#', opening.val] m)
    (h : m.Reads (sum.text ++ clause.text) e) :
    (r.moved e (clause.diagnostics (m.reach + utf8Length sum.text))).behind rest d =
      r.behind (.calculator opening sum clause rest) d := by
  simp [behind, moved, Body.clusters, Body.diagnostics, h.reach_eq, hopening.reach_eq,
    utf8Length_append, Nat.add_assoc]

theorem behind_cluster {opening : Opening} {inner : Body} {closing : Closing}
    (hopening : r.cursor.Reads [opening.val] m)
    (h : m.Reads (inner.text ++ [closing.val]) e) :
    ((r.goto m).enter.behind inner e).leave.behind rest d =
      r.behind (.cluster opening inner closing rest) d := by
  simp [behind, goto, enter, leave, Body.clusters, Body.diagnostics, h.reach_eq,
    hopening.reach_eq, utf8Length_append, Nat.add_assoc]
  omega

end Reader

/-! ## The loop reads nothing but bodies -/

/-- What a reading of a body ends with: it has covered a body. -/
def Covered (registry : Registry) (cluster : OpenCluster) (r : Reader)
    (cluster' : OpenCluster) (r' : Reader) : Prop :=
  ∃ (b : Body) (closing : Closing) (d : Cursor), Covers registry cluster r b closing d ∧
    cluster' = cluster.extend b r.nextId ∧ r' = r.behind b d

/-- A reading that covers a body whenever it succeeds. -/
def CoversBodies (registry : Registry) (f : OpenCluster → Reading OpenCluster) : Prop :=
  ∀ {cluster cluster' : OpenCluster} {r r' : Reader}, f cluster r = .ok cluster' r' →
    r.depth ≤ maxNestingDepth → Covered registry cluster r cluster' r'

namespace Reading

variable {registry : Registry} {bound : Nat} {cluster cluster' : OpenCluster}
  {r r' : Reader} {m c : Cursor} {x : Char} {f : OpenCluster → Reading OpenCluster}

theorem covered_of_filter (hf : CoversBodies registry f) (hdepth : r.depth ≤ maxNestingDepth)
    (hm : r.cursor.Reads [x] m) (hx : startsFilter x)
    (h : (do
        let node ← filter registry
        f (← ofExcept (cluster.append (.filter node) m)) :
        Reading OpenCluster) (r.goto m) = .ok cluster' r') :
    Covered registry cluster r cluster' r' := by
  simp only [EStateM.bind_eq_ok_iff, ofExcept_eq_ok_iff, OpenCluster.append_eq_ok_iff] at h
  obtain ⟨reference, _, hfilter, _, _, ⟨⟨hloose, rfl⟩, rfl⟩, hrest⟩ := h
  have hcurrent : m.current = x := hm.current_eq_of_step
  have hstart : m.currentClass ≠ .whitespace := by
    rw [Cursor.currentClass, hcurrent]
    exact startsFilter_ne_whitespace hx
  obtain ⟨name, kind, clause, e, y, t, hread, hafter, hy, hlookup, hblanks, rfl, rfl⟩ :=
    reads_of_filter (r := r.goto m) (hcurrent.symm ▸ hm) hstart hfilter
  obtain ⟨rest, closing, d, hcovers, rfl, rfl⟩ := hf hrest hdepth
  -- the clause has stopped in front of `y`, so what follows begins with it
  obtain ⟨u, htext⟩ := hcovers.reads.exists_eq_cons (by simp) hafter
  have hends : rest.endsClause := (Body.endsClause_iff htext).mpr hy
  refine ⟨.filter name kind clause rest, closing, d, ?_, ?_, ?_⟩
  · exact (Covers.filter_iff hread).mpr ⟨hloose, hlookup, hblanks, hends, hcovers⟩
  · exact OpenCluster.extend_filter (Body.joining_or hends htext)
  · rw [Reader.moved_goto, Reader.behind_filter hread]

theorem covered_of_calculator (hf : CoversBodies registry f)
    (hdepth : r.depth ≤ maxNestingDepth) (hc : r.cursor.Reads ['#', x] c)
    (hx : classify x = .openBracket)
    (h : (do
        let node ← calculator registry cluster.id m
        f (← ofExcept (cluster.append (.calculator node) m)) :
        Reading OpenCluster) (r.goto c) = .ok cluster' r') :
    Covered registry cluster r cluster' r' := by
  obtain ⟨opening, rfl⟩ : ∃ opening : Opening, opening.val = x := ⟨⟨x, hx⟩, rfl⟩
  simp only [EStateM.bind_eq_ok_iff, ofExcept_eq_ok_iff, OpenCluster.append_eq_ok_iff] at h
  obtain ⟨node, _, hcalculator, _, _, ⟨⟨hloose, rfl⟩, rfl⟩, hrest⟩ := h
  obtain ⟨sum, clause, e, y, t, hread, hafter, hy, hsum, rfl, rfl⟩ :=
    reads_of_calculator hcalculator
  obtain ⟨rest, closing, d, hcovers, rfl, rfl⟩ := hf hrest hdepth
  obtain ⟨u, htext⟩ := hcovers.reads.exists_eq_cons (by simp) hafter
  have hends : rest.endsClause := (Body.endsClause_iff htext).mpr hy
  refine ⟨.calculator opening sum clause rest, closing, d, ?_, ?_, ?_⟩
  · exact (Covers.calculator_iff (hc.trans hread)).mpr ⟨hloose, hsum, hends, hcovers⟩
  · exact OpenCluster.extend_calculator (Body.joining_or hends htext)
  · exact Reader.behind_calculator hc hread

theorem covered_of_cluster (hf : CoversBodies registry f) (hdepth : r.depth ≤ maxNestingDepth)
    (hm : r.cursor.Reads [x] m) (hx : classify x = .openBracket)
    (h : (do
        let child ← nested f
        let node := .cluster child.id cluster.id child.nodes none
        f (← ofExcept (cluster.append node m)) :
        Reading OpenCluster) (r.goto m) = .ok cluster' r') :
    Covered registry cluster r cluster' r' := by
  obtain ⟨opening, rfl⟩ : ∃ opening : Opening, opening.val = x := ⟨⟨x, hx⟩, rfl⟩
  simp only [EStateM.bind_eq_ok_iff, ofExcept_eq_ok_iff, OpenCluster.append_eq_ok_iff,
    nested_eq_ok_iff] at h
  obtain ⟨child, _, ⟨hnesting, s, hchild, rfl⟩, _, _, ⟨⟨hloose, rfl⟩, rfl⟩, hrest⟩ := h
  have hdeeper : r.depth + 1 ≤ maxNestingDepth := by
    have hne : r.depth ≠ maxNestingDepth := hnesting
    omega
  obtain ⟨inner, closing', e, hinner, rfl, rfl⟩ := hf hchild hdeeper
  obtain ⟨rest, closing, d, hcovers, rfl, rfl⟩ := hf hrest hdepth
  refine ⟨.cluster opening inner closing' rest, closing, d, ?_, ?_, ?_⟩
  · exact (Covers.cluster_iff hm hinner.reads rfl).mpr
      ⟨hloose, hinner, hcovers⟩
  · rw [OpenCluster.nodes_extend_nil]
    exact OpenCluster.extend_cluster
  · exact Reader.behind_cluster hm hinner.reads

theorem covered_of_body (hf : CoversBodies registry (body registry bound))
    (hdepth : r.depth ≤ maxNestingDepth)
    (h : body registry (bound + 1) cluster r = .ok cluster' r') :
    Covered registry cluster r cluster' r' := by
  cases hafter : r.cursor.after with
  | nil =>
    rw [body_of_after_nil hafter] at h
    cases h
  | cons x t =>
  obtain ⟨m, hm, hnext⟩ := Cursor.exists_step hafter
  -- one cell for each way to begin a turn; a `#` is decided by the character behind it
  rcases turn_cases x with hblank | hclose | hopen | rfl | ⟨k, rfl⟩ | hfilter
  · rw [body_blank hm hblank] at h
    obtain ⟨b, closing, d, hcovers, rfl, rfl⟩ := hf h hdepth
    exact ⟨.blank ⟨x, hblank⟩ b, closing, d, (Covers.blank_iff hm).mpr hcovers, rfl,
      Reader.behind_blank (c := ⟨x, hblank⟩) hm⟩
  · rw [body_close hm hclose] at h
    cases h
    refine ⟨.done, ⟨x, hclose⟩, m, ⟨hm, trivial, hdepth⟩, ?_, Reader.behind_done⟩
    rw [OpenCluster.extend_done]
  · rw [body_open hm hopen] at h
    exact covered_of_cluster hf hdepth hm hopen h
  · cases t with
    | nil =>
      rw [body_sharp hm] at h
      simp only [EStateM.bind_eq_ok_iff, stepForward_eq_ok_iff] at h
      obtain ⟨_, _, ⟨c, hc, rfl⟩, _⟩ := h
      have hmore := hc.after
      rw [Reader.cursor_goto, hnext] at hmore
      cases hmore
    | cons y u =>
    obtain ⟨c, hc, -⟩ := Cursor.exists_step hnext
    have hread : r.cursor.Reads ['#', y] c := hm.trans hc
    rw [body_sharp_step hm hc] at h
    split at h
    · next hopen => exact covered_of_calculator hf hdepth hread hopen h
    · next hpair =>
      obtain ⟨b, closing, d, hcovers, rfl, rfl⟩ := hf h hdepth
      exact ⟨.pair ⟨y, hpair⟩ b, closing, d,
        (Covers.pair_iff (c := ⟨y, hpair⟩) hread).mpr hcovers, rfl,
        Reader.behind_pair (c := ⟨y, hpair⟩) hread⟩
  · rw [body_connector hm] at h
    simp only [EStateM.bind_eq_ok_iff, ofExcept_eq_ok_iff, OpenCluster.attach_eq_ok_iff] at h
    obtain ⟨_, _, ⟨⟨hjoint, rfl⟩, rfl⟩, hrest⟩ := h
    obtain ⟨b, closing, d, hcovers, rfl, rfl⟩ := hf hrest hdepth
    exact ⟨.connector k b, closing, d, (Covers.connector_iff hm).mpr ⟨hjoint, hcovers⟩,
      OpenCluster.extend_connector, Reader.behind_connector hm⟩
  · rw [body_filter hm hfilter] at h
    exact covered_of_filter hf hdepth hm hfilter h

/-- The loop covers bodies, whatever its bound. -/
theorem coversBodies_body (bound : Nat) : CoversBodies registry (body registry bound) := by
  -- a cluster is read with the bound of the turn that opens it, so one induction is enough
  induction bound with
  | zero =>
    intro cluster cluster' r r' h
    simp [body, EStateM.bind_eq_ok_iff, throw, throwThe, MonadExceptOf.throw, EStateM.throw] at h
  | succ bound ih =>
    intro cluster cluster' r r' h hdepth
    exact covered_of_body ih hdepth h

/-! ## Whole cells -/

/-- A filter begins with a character that no other part begins with. -/
theorem exists_startsFilter {name : Name} {clause : Clause}
    (h : name.val = "" → clause.blanks = []) :
    ∃ x t, name.val.toList ++ clause.text = x :: t ∧ startsFilter x := by
  cases hname : name.val.toList with
  | nil =>
    have hblanks := h (String.toList_eq_nil_iff.mp hname)
    obtain ⟨x, t, hsymbol, hx⟩ := clause.comparison.exists_symbol_eq_cons
    exact ⟨x, _, by simp only [Clause.text, Clause.front, hblanks, hsymbol]; rfl, by
      simp [startsFilter, hx]⟩
  | cons a letters =>
    have ha : isIdentifierChar a := name.property a (by simp [hname])
    exact ⟨a, letters ++ clause.text, rfl, startsFilter_of_isIdentifierChar ha⟩

theorem ofExcept_append_bind {node : Node} {start : Cursor} {r' : Reader}
    (h : cluster.joint ≠ .loose) :
    (do body registry bound (← ofExcept (cluster.append node start)) :
      Reading OpenCluster) r' = body registry bound ⟨cluster.id, node :: cluster.newest⟩ r' := by
  rw [OpenCluster.append_eq_ok_iff.mpr ⟨h, rfl⟩]
  rfl

theorem body_filter_of_reads {name : Name} {kind : Kind} {clause : Clause} {e : Cursor}
    {y : Char} {u : List Char} (he : r.cursor.Reads (name.val.toList ++ clause.text) e)
    (hnext : e.after = y :: u) (hy : endsSearch y) (hlookup : registry.lookup name.val = some kind)
    (hblanks : name.val = "" → clause.blanks = []) (hjoint : cluster.joint ≠ .loose) :
    body registry (bound + 1) cluster r =
      body registry bound ⟨cluster.id, .filter ⟨name.val, kind, clause.comparison,
        clause.argument, connector? y⟩ :: cluster.newest⟩
        (r.moved e (clause.diagnostics (r.cursor.reach + utf8Length name.val.toList))) := by
  obtain ⟨x, t, htext, hx⟩ := exists_startsFilter hblanks
  obtain ⟨m, hm, -⟩ := Cursor.reads_cons.mp (htext ▸ he)
  have hfirst : r.cursor.Reads [m.current] m := hm.current_eq_of_step ▸ hm
  have hfilter := filter_of_reads (r := r.goto m) hfirst he hnext hy hlookup
  rw [body_filter hm hx, EStateM.bind_of_eq_ok hfilter, ofExcept_append_bind hjoint]
  rfl

theorem body_calculator_of_reads {opening : Opening} {sum : Sum} {clause : Clause} {c e : Cursor}
    {y : Char} {u : List Char} (hc : r.cursor.Reads ['#', opening.val] c)
    (he : c.Reads (sum.text ++ clause.text) e)
    (hnext : e.after = y :: u) (hy : endsSearch y) (hsum : sum.Valid registry)
    (hjoint : cluster.joint ≠ .loose) :
    body registry (bound + 1) cluster r =
      body registry bound ⟨cluster.id, .calculator ⟨cluster.id, sum.operands, clause.comparison,
        clause.argument, connector? y⟩ :: cluster.newest⟩
        (r.moved e (clause.diagnostics (c.reach + utf8Length sum.text))) := by
  obtain ⟨m, hm, hopening⟩ := Cursor.reads_cons.mp hc
  have hcalculator := calculator_of_reads (r := r.goto c) cluster.id m he hnext hy hsum
  rw [body_sharp_step hm hopening, if_pos opening.property, EStateM.bind_of_eq_ok hcalculator,
    ofExcept_append_bind hjoint]
  rfl

theorem body_cluster_of_eq_ok {opening : Opening} {child : OpenCluster} {s : Reader}
    (hm : r.cursor.Reads [opening.val] m) (hdepth : r.depth ≠ maxNestingDepth)
    (hchild : body registry bound ⟨r.nextId, []⟩ (r.goto m).enter = .ok child s)
    (hjoint : cluster.joint ≠ .loose) :
    body registry (bound + 1) cluster r =
      body registry bound
        ⟨cluster.id, .cluster child.id cluster.id child.nodes none :: cluster.newest⟩ s.leave := by
  have hnested : nested (body registry bound) (r.goto m) = .ok child s.leave :=
    nested_eq_ok_iff.mpr ⟨hdepth, s, hchild, rfl⟩
  rw [body_open hm opening.property, EStateM.bind_of_eq_ok hnested]
  exact ofExcept_append_bind hjoint

/-! ## The loop reads every body -/

theorem exists_bound_succ {t : List Char} (h : r.cursor.Reads t m) (ht : t ≠ [])
    (hbound : r.cursor.remaining ≤ bound) :
    ∃ bound', bound = bound' + 1 ∧ m.remaining ≤ bound' := by
  have hremaining := h.remaining_eq
  have hlength := List.length_pos_iff.mpr ht
  exact ⟨bound - 1, by omega, by omega⟩

/-- The loop reads every text of a body, if its bound suffices. -/
def ReadsBody (registry : Registry) (b : Body) : Prop :=
  ∀ {bound : Nat} {cluster : OpenCluster} {r : Reader} {closing : Closing} {d : Cursor},
    Covers registry cluster r b closing d → r.cursor.remaining ≤ bound →
    body registry bound cluster r = .ok (cluster.extend b r.nextId) (r.behind b d)

/-- The loop finds behind a clause what the clause looked ahead for. -/
theorem exists_next_of_endsClause {rest : Body} {closing : Closing} {e d : Cursor}
    (hread : e.Reads (rest.text ++ [closing.val]) d) (hends : rest.endsClause) :
    ∃ x t, e.after = x :: t ∧ endsSearch x ∧ rest.joining.or (connector? x) = rest.joining := by
  obtain ⟨x, u, htext⟩ := List.exists_cons_of_ne_nil
    (show rest.text ++ [closing.val] ≠ [] by simp)
  refine ⟨x, u ++ d.after, ?_, (Body.endsClause_iff htext).mp hends,
    Body.joining_or hends htext⟩
  rw [hread.after, htext, List.cons_append]

theorem readsBody_filter {name : Name} {kind : Kind} {clause : Clause} {rest : Body}
    (ih : ReadsBody registry rest) : ReadsBody registry (.filter name kind clause rest) := by
  intro bound cluster r closing d hcovers hbound
  have hread := hcovers.reads
  rw [Body.text, List.append_assoc] at hread
  obtain ⟨e, he, hafter⟩ := Cursor.reads_append.mp hread
  obtain ⟨hloose, hlookup, hblanks, hends, -⟩ := hcovers.valid
  obtain ⟨y, u, hnext, hy, hjoining⟩ := exists_next_of_endsClause hafter hends
  obtain ⟨x, t, htext, -⟩ := exists_startsFilter hblanks
  obtain ⟨bound, rfl, hbound'⟩ := exists_bound_succ he (by simp [htext]) hbound
  obtain ⟨-, -, -, -, hrest⟩ := (Covers.filter_iff he).mp hcovers
  rw [body_filter_of_reads he hnext hy hlookup hblanks hloose,
    ← OpenCluster.extend_filter hjoining, ← Reader.behind_filter he]
  exact ih hrest hbound'

theorem readsBody_calculator {opening : Opening} {sum : Sum} {clause : Clause} {rest : Body}
    (ih : ReadsBody registry rest) :
    ReadsBody registry (.calculator opening sum clause rest) := by
  intro bound cluster r closing d hcovers hbound
  have hread := hcovers.reads
  rw [Body.text, List.append_assoc] at hread
  obtain ⟨e, he, hafter⟩ := Cursor.reads_append.mp hread
  obtain ⟨c, hc, hclause⟩ := Cursor.reads_append.mp
    (show r.cursor.Reads (['#', opening.val] ++ (sum.text ++ clause.text)) e from he)
  obtain ⟨hloose, hsum, hends, -⟩ := hcovers.valid
  obtain ⟨y, u, hnext, hy, hjoining⟩ := exists_next_of_endsClause hafter hends
  obtain ⟨bound, rfl, hbound'⟩ := exists_bound_succ he (by simp) hbound
  obtain ⟨-, -, -, hrest⟩ := (Covers.calculator_iff he).mp hcovers
  rw [body_calculator_of_reads hc hclause hnext hy hsum hloose,
    ← OpenCluster.extend_calculator hjoining, ← Reader.behind_calculator hc hclause]
  exact ih hrest hbound'

theorem readsBody_cluster {opening : Opening} {inner : Body} {closing' : Closing} {rest : Body}
    (ih_inner : ReadsBody registry inner) (ih_rest : ReadsBody registry rest) :
    ReadsBody registry (.cluster opening inner closing' rest) := by
  intro bound cluster r closing d hcovers hbound
  obtain ⟨m, hm, hread⟩ := Cursor.reads_cons.mp hcovers.reads
  have hparts : m.Reads ((inner.text ++ [closing'.val]) ++ (rest.text ++ [closing.val])) d := by
    simpa using hread
  obtain ⟨e, he, -⟩ := Cursor.reads_append.mp hparts
  have hnode : (Node.cluster r.nextId cluster.id (inner.nodes r.nextId (r.nextId + 1))
    none).connector = none := rfl
  obtain ⟨hloose, hinner, hrest⟩ := (Covers.cluster_iff hm he hnode).mp hcovers
  obtain ⟨bound, rfl, hbound'⟩ := exists_bound_succ hm (by simp) hbound
  have hdepth : r.depth ≠ maxNestingDepth := by
    have hnested := hcovers.depth
    rw [Body.depth] at hnested
    omega
  have hbound'' : e.remaining ≤ bound := by
    have := he.remaining_eq
    omega
  rw [body_cluster_of_eq_ok hm hdepth (ih_inner hinner hbound') hloose,
    ← OpenCluster.extend_cluster, ← Reader.behind_cluster hm he, OpenCluster.nodes_extend_nil]
  exact ih_rest hrest hbound''

theorem readsBody (b : Body) : ReadsBody registry b := by
  -- a cell leaves the reader where the next one begins, and takes one off the bound
  induction b with
  | done =>
    intro bound cluster r closing d hcovers hbound
    obtain ⟨bound, rfl, -⟩ := exists_bound_succ hcovers.reads (by simp) hbound
    rw [body_close hcovers.reads closing.property, OpenCluster.extend_done, Reader.behind_done]
  | blank c rest ih =>
    intro bound cluster r closing d hcovers hbound
    obtain ⟨m, hm, -⟩ := Cursor.reads_cons.mp hcovers.reads
    obtain ⟨bound, rfl, hbound'⟩ := exists_bound_succ hm (by simp) hbound
    rw [body_blank hm c.property, ih ((Covers.blank_iff hm).mp hcovers) hbound',
      Reader.behind_blank hm]
    rfl
  | pair c rest ih =>
    intro bound cluster r closing d hcovers hbound
    obtain ⟨e, he, hrest⟩ := Cursor.reads_cons.mp hcovers.reads
    obtain ⟨m, hm, -⟩ := Cursor.reads_cons.mp hrest
    have hread : r.cursor.Reads ['#', c.val] m := he.trans hm
    obtain ⟨bound, rfl, hbound'⟩ := exists_bound_succ hread (by simp) hbound
    rw [body_sharp_step he hm, if_neg c.property,
      ih ((Covers.pair_iff hread).mp hcovers) hbound', Reader.behind_pair hread]
    rfl
  | connector k rest ih =>
    intro bound cluster r closing d hcovers hbound
    obtain ⟨m, hm, -⟩ := Cursor.reads_cons.mp hcovers.reads
    obtain ⟨bound, rfl, hbound'⟩ := exists_bound_succ hm (by simp) hbound
    obtain ⟨hjoint, hrest⟩ := (Covers.connector_iff hm).mp hcovers
    rw [body_connector hm, ← OpenCluster.extend_connector, ← Reader.behind_connector hm]
    simp only [EStateM.bind_eq_ok_iff, ofExcept_eq_ok_iff, OpenCluster.attach_eq_ok_iff]
    exact ⟨_, _, ⟨⟨hjoint, rfl⟩, rfl⟩, ih hrest hbound'⟩
  | filter name kind clause rest ih => exact readsBody_filter ih
  | calculator opening sum clause rest ih => exact readsBody_calculator ih
  | cluster opening inner closing' rest ih_inner ih_rest =>
    exact readsBody_cluster ih_inner ih_rest

end Reading

end FilterQuery
