import FilterQuery.Proofs.Lasting
import FilterQuery.Proofs.ScanSimulation

/-!
# Two readers side by side

Two readers go over two texts, or ask two registries, and are in lockstep: from corresponding
states they come to corresponding ones, with corresponding values or errors, until the first
one ends with a loose error. `Simulates` says it of two readings, is closed under sequences,
and so is carried along the reader's own definitions, once for every change; what a change has
to supply beyond that is what becomes of the nodes.

When the first reader has ended with a loose error, the second one is not followed any
further, and all that may be kept of it is that it takes no diagnostic back. To know that of
a sequence it has to be known of its second part from every value on, also from one that the
first reader never comes to. So where diagnostics are watched, each value of the second
reader has to correspond to one of the first (`Match`).

The loop over a body is given a bound on what is left of the text, which is greater for the
longer one. The lemma about one turn is stated for any two bounds, and the run for a second
bound that is not smaller.
-/

namespace FilterQuery

open Grammar

/-- How a second compilation differs from a first one, with what becomes of nodes. -/
structure TreeChange extends Change where
  node : Node → Node
  node_filter : ∀ reference : FilterReference, node (.filter reference) =
    .filter { reference with argument := reference.argument.map char }
  node_calculator : ∀ sum : Calculator, node (.calculator sum) =
    .calculator { sum with argument := sum.argument.map char }
  node_cluster : ∀ id parent children connector, node (.cluster id parent children connector) =
    .cluster id parent (children.map node) connector
  /-- Beyond a loose error the diagnostics of the second reader are watched. -/
  watched : Prop
  char_of_watched : watched → char = id
  node_of_watched : watched → node = id
  becomes_of_watched : watched → ∀ e, errors.becomes e e

/-- A change that leaves nodes as they are. -/
def Change.keepingNodes (T : Change) (hchar : T.char = id) (watched : Prop)
    (hbecomes : watched → ∀ e, T.errors.becomes e e) : TreeChange where
  toChange := T
  node := id
  node_filter reference := by rw [hchar, String.map_id]; rfl
  node_calculator sum := by rw [hchar, String.map_id]; rfl
  node_cluster id parent children connector := by rw [List.map_id]; rfl
  watched := watched
  char_of_watched _ := hchar
  node_of_watched _ := rfl
  becomes_of_watched := hbecomes

/-- The values of two readings that correspond. -/
structure Match (T : TreeChange) (α : Type) where
  rel : α → α → Prop
  total : T.watched → ∀ b, ∃ a, rel a b

namespace Match

variable {T : TreeChange} {α : Type}

def same : Match T α where
  rel := Eq
  total _ b := ⟨b, rfl⟩

/-- The value of the second reading is that of the first one, changed by `f`. -/
def along (f : α → α) (hf : T.watched → f = id) : Match T α where
  rel a b := b = f a
  total h b := ⟨b, by rw [hf h]; rfl⟩

end Match

namespace Reading

/-- The diagnostics at the end of a reading. -/
def finalDiagnostics {α : Type} : EStateM.Result CompileError Reader α → List Diagnostic
  | .ok _ r => r.diagnostics
  | .error _ r => r.diagnostics

def leaveAll {α : Type} :
    EStateM.Result CompileError Reader α → EStateM.Result CompileError Reader α
  | .ok a r => .ok a r.leave
  | .error e r => .error e r.leave

theorem nested_eq_leaveAll {f : OpenCluster → Reading OpenCluster} {r : Reader}
    (h : r.depth ≠ maxNestingDepth) : nested f r = leaveAll (f ⟨r.nextId, []⟩ r.enter) := by
  have hinner : f ⟨r.nextId, []⟩ { r with nextId := r.nextId + 1, depth := r.depth + 1 } =
      f ⟨r.nextId, []⟩ r.enter := rfl
  rw [nested, if_neg h, hinner]
  cases f ⟨r.nextId, []⟩ r.enter <;> rfl

theorem finalDiagnostics_leaveAll {α : Type} (x : EStateM.Result CompileError Reader α) :
    finalDiagnostics (leaveAll x) = finalDiagnostics x := by
  cases x <;> rfl

/-- The loop over a body takes no diagnostic back. -/
theorem diagnostics_prefix_body (registry : Registry) (bound : Nat) (cluster : OpenCluster)
    (r : Reader) : r.diagnostics <+: finalDiagnostics (body registry bound cluster r) := by
  have hlasting : Lasting (fun s => r.diagnostics <+: s.diagnostics)
      (fun _ ds => r.diagnostics <+: ds) :=
    ⟨fun h _ => h, fun h _ _ => h.trans (List.prefix_append _ _), fun h _ hsame => hsame ▸ h,
      fun h _ => h, fun h _ => h⟩
  have hends : EndsIn (fun _ ds => r.diagnostics <+: ds) (fun s => r.diagnostics <+: s.diagnostics)
      (body registry bound cluster r) := ensures_body hlasting bound cluster r List.prefix_rfl
  revert hends
  cases body registry bound cluster r <;> exact id

end Reading

namespace TreeChange

open Change Reading

variable {α β : Type} (T : TreeChange)

/-- The state of the second reader. -/
def reader (r : Reader) : Reader :=
  { r with cursor := T.move r.cursor, diagnostics := r.diagnostics.map T.note }

def places : Match T Cursor where
  rel := T.At
  total h c := ⟨c, by rw [T.char_of_watched h]; rfl, fun kind => by
    rw [T.char_of_watched h, QueryErrorKind.respell_id]
    exact T.becomes_of_watched h _⟩

def arguments : Match T String :=
  .along (·.map T.char) fun h => by
    rw [T.char_of_watched h]
    exact funext fun _ => String.map_id

def references : Match T FilterReference :=
  .along (fun reference => { reference with argument := reference.argument.map T.char }) fun h => by
    rw [T.char_of_watched h]
    exact funext fun reference => by rw [String.map_id]; rfl

def calculators : Match T Calculator :=
  .along (fun sum => { sum with argument := sum.argument.map T.char }) fun h => by
    rw [T.char_of_watched h]
    exact funext fun reference => by rw [String.map_id]; rfl

/-- The open cluster of the second reader. -/
def openCluster (cluster : OpenCluster) : OpenCluster :=
  ⟨cluster.id, cluster.newest.map T.node⟩

def clusters : Match T OpenCluster :=
  .along T.openCluster fun h => funext fun cluster => by
    rw [openCluster, T.node_of_watched h, List.map_id]
    rfl

/-- What the second reading comes to, in terms of what the first one does. -/
inductive Parallel (V : Match T α) :
    EStateM.Result CompileError Reader α → EStateM.Result CompileError Reader α → Prop
  | ok {a b : α} (h : V.rel a b) (r : Reader) : Parallel V (.ok a r) (.ok b (T.reader r))
  | error {e e' : CompileError} (h : T.errors.becomes e e') (r : Reader) :
      Parallel V (.error e r) (.error e' (T.reader r))
  | loose {e : CompileError} {r : Reader} {y : EStateM.Result CompileError Reader α}
      (h : T.errors.loose e) (kept : T.watched → (T.reader r).diagnostics <+: finalDiagnostics y) :
      Parallel V (.error e r) y

/-- In corresponding states `y` does what `x` does. -/
structure Simulates (V : Match T α) (x y : Reading α) : Prop where
  parallel : ∀ r, T.Parallel V (x r) (y (T.reader r))
  keeps : T.watched → ∀ r, r.diagnostics <+: finalDiagnostics (y r)

variable {T} {V : Match T α} {W : Match T β}

theorem Simulates.bind {x y : Reading α} {f g : α → Reading β} (h : T.Simulates V x y)
    (hf : ∀ a b, V.rel a b → T.Simulates W (f a) (g b)) :
    T.Simulates W (x >>= f) (y >>= g) := by
  -- whatever comes after the first part keeps the diagnostics of that part
  have hkeeps (hwatched : T.watched) (r : Reader) :
      finalDiagnostics (y r) <+: finalDiagnostics ((y >>= g) r) := by
    simp only [Bind.bind, EStateM.bind]
    cases y r with
    | ok b r' =>
      obtain ⟨a, hab⟩ := V.total hwatched b
      exact (hf a b hab).keeps hwatched r'
    | error e r' => exact List.prefix_rfl
  refine ⟨fun r => ?_, fun hw r => (h.keeps hw r).trans (hkeeps hw r)⟩
  have hparallel := h.parallel r
  have hlonger (hwatched : T.watched) := hkeeps hwatched (T.reader r)
  simp only [Bind.bind, EStateM.bind] at hlonger ⊢
  revert hparallel hlonger
  generalize y (T.reader r) = y'
  cases x r with
  | ok a r' =>
    intro hparallel hlonger
    cases hparallel with
    | ok hab => exact (hf _ _ hab).parallel r'
  | error e r' =>
    intro hparallel hlonger
    cases hparallel with
    | error hbecomes => exact .error hbecomes r'
    | loose hloose hkept => exact .loose hloose fun hw => (hkept hw).trans (hlonger hw)

/-! ## Parts of a reading -/

theorem simulates_pure {a b : α} (h : V.rel a b) : T.Simulates V (pure a) (pure b) :=
  ⟨fun r => .ok h r, fun _ _ => List.prefix_rfl⟩

theorem simulates_place : T.Simulates T.places place place :=
  ⟨fun r => .ok (T.corresponds r.cursor) r, fun _ _ => List.prefix_rfl⟩

theorem simulates_ofExcept {x y : Except CompileError α} (h : T.Agrees V.rel x y) :
    T.Simulates V (Reading.ofExcept x) (Reading.ofExcept y) := by
  have hkeeps (r : Reader) : r.diagnostics <+: finalDiagnostics (Reading.ofExcept y r) := by
    cases y <;> exact List.prefix_rfl
  refine ⟨fun r => ?_, fun _ => hkeeps⟩
  cases h with
  | ok hab => exact .ok hab r
  | error hbecomes => exact .error hbecomes r
  | loose hloose => exact .loose hloose fun _ => hkeeps _

theorem simulates_scan {f g : Cursor → Except CompileError (α × Cursor)}
    (h : ∀ c, T.Agrees (T.Ends V.rel) (f c) (g (T.move c))) :
    T.Simulates V (scan f) (scan g) := by
  have hkeeps (r : Reader) : r.diagnostics <+: finalDiagnostics (scan g r) := by
    unfold scan
    split <;> exact List.prefix_rfl
  refine ⟨fun r => ?_, fun _ => hkeeps⟩
  have hcursor : (T.reader r).cursor = T.move r.cursor := rfl
  have hkept := hkeeps (T.reader r)
  have hagrees := h r.cursor
  simp only [scan, hcursor] at hkept ⊢
  revert hagrees hkept
  generalize g (T.move r.cursor) = y
  cases f r.cursor with
  | ok s =>
    intro hagrees hkept
    cases hagrees with
    | @ok _ s' hends =>
      obtain ⟨b, d⟩ := s'
      obtain ⟨hrel, rfl⟩ := hends
      exact .ok hrel { r with cursor := s.2 }
  | error e =>
    intro hagrees hkept
    cases hagrees with
    | error hbecomes => exact .error hbecomes r
    | loose hloose => exact .loose hloose fun _ => hkept

theorem simulates_stepForward {missing : QueryErrorKind} (h : missing.mendable) :
    T.Simulates .same (stepForward missing) (stepForward missing) :=
  simulates_scan fun c => (agrees_stepForward h c).map fun _ _ hd => ⟨rfl, hd⟩

theorem simulates_stepBack : T.Simulates .same stepBack stepBack :=
  simulates_scan fun c => (agrees_stepBack c).map fun _ _ hd => ⟨rfl, hd⟩

theorem simulates_connector : T.Simulates .same connector connector := by
  have hfinal (r : Reader) :
      finalDiagnostics (connector r) = r.diagnostics ++ (Scan.connector r.cursor).1 := by
    unfold connector
    dsimp only
    split <;> rfl
  refine ⟨fun r => ?_, fun _ r => by rw [hfinal]; exact List.prefix_append _ _⟩
  have hcursor : (T.reader r).cursor = T.move r.cursor := rfl
  have hdiagnostics (ds : List Diagnostic) :
      (T.reader r).diagnostics ++ ds.map T.note = (r.diagnostics ++ ds).map T.note := by
    rw [List.map_append]
    rfl
  rcases agrees_connector (T := T.toChange) r.cursor with
    ⟨hskipped, hagrees⟩ | ⟨hfront, e, hcut, hloose⟩
  · simp only [connector, hcursor]
    revert hskipped hagrees
    rcases Scan.connector r.cursor with ⟨ds, x⟩
    rcases Scan.connector (T.move r.cursor) with ⟨ds', y⟩
    rintro rfl hagrees
    rw [hdiagnostics]
    cases hagrees with
    | @ok s s' hends =>
      obtain ⟨k', d⟩ := s'
      obtain ⟨rfl, rfl⟩ := hends
      exact .ok rfl ⟨s.2, r.nextId, r.depth, r.diagnostics ++ ds⟩
    | error hbecomes => exact .error hbecomes ⟨r.cursor, r.nextId, r.depth, r.diagnostics ++ ds⟩
    | loose hloose y =>
      refine .loose hloose fun _ => ?_
      cases y <;> exact List.prefix_rfl
  · have hshorter : connector r =
        .error e { r with diagnostics := r.diagnostics ++ (Scan.connector r.cursor).1 } := by
      simp only [connector, hcut]
    rw [hshorter]
    refine .loose hloose fun _ => ?_
    rw [hfinal, hcursor]
    show List.map T.note (r.diagnostics ++ _) <+: _
    rw [← hdiagnostics]
    exact (List.prefix_append_right_inj _).mpr hfront

/-! ## Filters and calculators -/

/-- The end of a filter and of a calculator. -/
theorem simulates_clause (filter : String) {f g : Comparison → String → Option Connector → α}
    (h : ∀ k a j, V.rel (f k a j) (g k (a.map T.char) j)) :
    T.Simulates V
      (do
        let comparison ← scan (Scan.comparison filter)
        let argument ← scan (Scan.argument filter false "")
        let connector ← connector
        return f comparison argument connector)
      (do
        let comparison ← scan (Scan.comparison filter)
        let argument ← scan (Scan.argument filter false "")
        let connector ← connector
        return g comparison argument connector) := by
  have hargument := agrees_argument (T := T.toChange) filter false ""
  have hempty : "".map T.char = "" := by
    rw [← String.toList_inj]
    simp
  rw [hempty] at hargument
  refine (simulates_scan (V := .same) (agrees_comparison filter)).bind fun k k' hk => ?_
  obtain rfl : k = k' := hk
  refine (simulates_scan (V := T.arguments) hargument).bind fun a a' ha => ?_
  obtain rfl : a' = a.map T.char := ha
  refine simulates_connector.bind fun j j' hj => ?_
  obtain rfl : j = j' := hj
  exact simulates_pure (h k a j)

theorem simulates_filter :
    T.Simulates T.references (filter T.registry) (filter T.registry') := by
  refine simulates_place.bind fun start start' hstart => ?_
  refine simulates_stepBack.bind fun _ _ _ => ?_
  refine (simulates_scan (V := .same) (agrees_identifier "")).bind fun name name' hname => ?_
  obtain rfl : name = name' := hname
  refine (simulates_ofExcept (V := .same) (agrees_resolve name hstart)).bind
    fun kind kind' hkind => ?_
  obtain rfl : kind = kind' := hkind
  refine simulates_stepBack.bind fun _ _ _ => ?_
  exact simulates_clause name fun _ _ _ => rfl

theorem agrees_checkOperands {start start' finish finish' : Cursor} (hstart : T.At start start')
    (hfinish : T.At finish finish') (newest : List Operand) :
    T.Agrees Eq (checkOperands start finish newest) (checkOperands start' finish' newest) := by
  unfold checkOperands
  split
  · exact agrees_errorAt hstart rfl
  · exact agrees_errorAt hfinish rfl
  · exact .ok rfl

theorem simulates_calculator (parent : Nat) {start start' : Cursor} (hstart : T.At start start') :
    T.Simulates T.calculators (calculator T.registry parent start)
      (calculator T.registry' parent start') := by
  refine (simulates_scan (V := .same) (agrees_operands [])).bind fun newest newest' hnewest => ?_
  obtain rfl : newest = newest' := hnewest
  refine simulates_place.bind fun finish finish' hfinish => ?_
  refine (simulates_ofExcept (V := .same) (agrees_checkOperands hstart hfinish newest)).bind
    fun _ _ _ => ?_
  exact simulates_clause calculatorName fun _ _ _ => rfl

/-! ## Clusters -/

theorem connector_node (node : Node) : (T.node node).connector = node.connector := by
  cases node with
  | filter reference => rw [T.node_filter]; rfl
  | calculator sum => rw [T.node_calculator]; rfl
  | cluster id parent children k => rw [T.node_cluster]; rfl

theorem node_withConnector (k : Option Connector) (node : Node) :
    T.node (node.withConnector k) = (T.node node).withConnector k := by
  cases node with
  | filter reference => rw [T.node_filter, Node.withConnector, T.node_filter]; rfl
  | calculator sum => rw [T.node_calculator, Node.withConnector, T.node_calculator]; rfl
  | cluster id parent children j => rw [T.node_cluster, Node.withConnector, T.node_cluster]; rfl

theorem nodes_openCluster (cluster : OpenCluster) :
    (T.openCluster cluster).nodes = cluster.nodes.map T.node := by
  rw [OpenCluster.nodes, openCluster, OpenCluster.nodes, List.map_reverse]

variable {start start' : Cursor}

theorem agrees_append (cluster : OpenCluster) (node : Node) (hstart : T.At start start') :
    T.Agrees T.clusters.rel (cluster.append node start)
      ((T.openCluster cluster).append (T.node node) start') := by
  obtain ⟨id, newest⟩ := cluster
  cases newest with
  | nil => exact .ok rfl
  | cons last earlier =>
    simp only [OpenCluster.append, openCluster, List.map_cons, connector_node]
    split
    · exact agrees_errorAt hstart rfl
    · exact .ok rfl

theorem agrees_attach (cluster : OpenCluster) (k : Connector) (hstart : T.At start start') :
    T.Agrees T.clusters.rel (cluster.attach k start)
      ((T.openCluster cluster).attach k start') := by
  obtain ⟨id, newest⟩ := cluster
  cases newest with
  | nil => exact agrees_errorAt hstart rfl
  | cons last earlier =>
    simp only [OpenCluster.attach, openCluster, List.map_cons, ← node_withConnector]
    exact .ok rfl

theorem Parallel.leaveAll {x y : EStateM.Result CompileError Reader α} (h : T.Parallel V x y) :
    T.Parallel V (leaveAll x) (leaveAll y) := by
  cases h with
  | ok hab r => exact .ok hab r.leave
  | error hbecomes r => exact .error hbecomes r.leave
  | loose hloose hkept =>
    refine .loose hloose fun hw => ?_
    rw [finalDiagnostics_leaveAll]
    exact hkept hw

theorem simulates_nested {f g : OpenCluster → Reading OpenCluster}
    (h : ∀ cluster, T.Simulates T.clusters (f cluster) (g (T.openCluster cluster))) :
    T.Simulates T.clusters (nested f) (nested g) := by
  have hchild (r : Reader) := h ⟨r.nextId, []⟩
  refine ⟨fun r => ?_, fun hw r => ?_⟩
  · by_cases hdepth : r.depth = maxNestingDepth
    · have hdepth' : (T.reader r).depth = maxNestingDepth := hdepth
      rw [nested, nested, if_pos hdepth, if_pos hdepth']
      exact .error ((T.corresponds r.cursor).errorAt _) r
    · have hdepth' : (T.reader r).depth ≠ maxNestingDepth := hdepth
      rw [nested_eq_leaveAll hdepth, nested_eq_leaveAll hdepth']
      exact ((hchild r).parallel r.enter).leaveAll
  · by_cases hdepth : r.depth = maxNestingDepth
    · rw [nested, if_pos hdepth]
      exact List.prefix_rfl
    · rw [nested_eq_leaveAll hdepth, finalDiagnostics_leaveAll]
      exact (hchild r).keeps hw r.enter

variable {n m : Nat}

/-- One turn of the loop over a body. -/
theorem simulates_turn
    (h : ∀ cluster, T.Simulates T.clusters (body T.registry n cluster)
      (body T.registry' m (T.openCluster cluster)))
    (cluster : OpenCluster) :
    T.Simulates T.clusters (body T.registry (n + 1) cluster)
      (body T.registry' (m + 1) (T.openCluster cluster)) := by
  have hrest {x y : Except CompileError OpenCluster} (hxy : T.Agrees T.clusters.rel x y) :
      T.Simulates T.clusters (do body T.registry n (← Reading.ofExcept x))
        (do body T.registry' m (← Reading.ofExcept y)) := by
    refine (simulates_ofExcept hxy).bind fun next next' hnext => ?_
    obtain rfl : next' = T.openCluster next := hnext
    exact h next
  unfold body
  refine (simulates_stepForward rfl).bind fun _ _ _ => ?_
  refine simulates_place.bind fun start start' hstart => ?_
  rw [currentClass_of_at hstart]
  cases start.currentClass with
  | whitespace => exact h cluster
  | closeBracket => exact simulates_pure rfl
  | openBracket =>
    refine (simulates_nested h).bind fun child child' hchild => ?_
    obtain rfl : child' = T.openCluster child := hchild
    have happend := agrees_append cluster (.cluster child.id cluster.id child.nodes none) hstart
    rw [T.node_cluster, ← nodes_openCluster] at happend
    exact hrest happend
  | sharp =>
    refine (simulates_stepForward rfl).bind fun _ _ _ => ?_
    refine simulates_place.bind fun c c' hc => ?_
    rw [currentClass_of_at hc]
    split
    · refine (simulates_calculator cluster.id hstart).bind fun sum sum' hsum => ?_
      obtain rfl : sum' = _ := hsum
      have happend := agrees_append cluster (.calculator sum) hstart
      rw [T.node_calculator] at happend
      exact hrest happend
    · exact h cluster
  | logicalAnd => exact hrest (agrees_attach cluster .and hstart)
  | logicalOr => exact hrest (agrees_attach cluster .or hstart)
  | logicalXor => exact hrest (agrees_attach cluster .xor hstart)
  | _ =>
    refine simulates_filter.bind fun reference reference' hreference => ?_
    obtain rfl : reference' = _ := hreference
    have happend := agrees_append cluster (.filter reference) hstart
    rw [T.node_filter] at happend
    exact hrest happend

/-- The second reader may be given a greater bound if its text may be longer. -/
theorem simulates_body (hle : n ≤ m) (hends : OpenEnded T.errors ∨ n = m) :
    ∀ cluster, T.Simulates T.clusters (body T.registry n cluster)
      (body T.registry' m (T.openCluster cluster)) := by
  induction n generalizing m with
  | zero =>
    intro cluster
    rcases hends with hloose | rfl
    · have hkeeps (r : Reader) :=
        diagnostics_prefix_body T.registry' m (T.openCluster cluster) r
      exact ⟨fun r => .loose (hloose r.cursor _ rfl) fun _ => hkeeps (T.reader r),
        fun _ => hkeeps⟩
    · exact simulates_place.bind fun c c' hc =>
        simulates_ofExcept (x := .error _) (y := .error _) (agrees_errorAt hc rfl)
  | succ n ih =>
    obtain ⟨m, rfl⟩ : ∃ k, m = k + 1 := ⟨m - 1, by omega⟩
    exact simulates_turn (ih (Nat.le_of_succ_le_succ hle) (hends.imp_right Nat.succ.inj))

theorem parallel_cluster (r : Reader) :
    T.Parallel T.clusters (cluster T.registry r) (cluster T.registry' (T.reader r)) := by
  have hends : OpenEnded T.errors ∨ r.cursor.remaining = (T.reader r).cursor.remaining :=
    T.ends.imp_right fun h => (h r.cursor).symm
  exact (simulates_nested (simulates_body (remaining_le_move r.cursor) hends)).parallel r

end TreeChange

/-! ## Compilations -/

namespace TreeChange

open Change

variable (T : TreeChange)

/-- The query of the second compilation. -/
def query (q : Query) : Query :=
  ⟨q.nodes.map T.node⟩

/-- What the second compilation comes to, in terms of what the first one does. -/
inductive Alongside : Compilation → Compilation → Prop
  | ok (q : Option Query) (ds : List Diagnostic) :
      Alongside ⟨.ok q, ds⟩ ⟨.ok (q.map T.query), ds.map T.note⟩
  | error {e e' : CompileError} (h : T.errors.becomes e e') (ds : List Diagnostic) :
      Alongside ⟨.error e, ds⟩ ⟨.error e', ds.map T.note⟩
  | loose {e : CompileError} {ds : List Diagnostic} {y : Compilation} (h : T.errors.loose e)
      (kept : T.watched → ds.map T.note <+: y.diagnostics) : Alongside ⟨.error e, ds⟩ y

theorem query_of_node_eq {T : TreeChange} (h : T.node = id) : T.query = id := by
  funext q
  rw [query, h, List.map_id]
  rfl

theorem alongside_compileFrom {c : Cursor} {x y : Compilation}
    (hx : compileFrom T.registry c = x) (hy : compileFrom T.registry' (T.move c) = y) :
    T.Alongside x y := by
  subst hx hy
  unfold compileFrom
  have hroot := agrees_root (T := T.toChange) c
  revert hroot
  generalize Scan.root (T.move c) = root'
  cases Scan.root c with
  | error e =>
    intro hroot
    cases hroot with
    | error hbecomes => exact .error hbecomes []
    | loose hloose => exact .loose hloose fun _ => List.nil_prefix
  | ok d =>
    intro hroot
    obtain ⟨d', rfl, rfl⟩ := hroot.eq_ok rfl
    have hcluster := parallel_cluster (T := T) ⟨d, 0, 0, []⟩
    dsimp only
    revert hcluster
    rw [show T.reader ⟨d, 0, 0, []⟩ = ⟨T.move d, 0, 0, []⟩ from rfl]
    generalize Reading.cluster T.registry' ⟨T.move d, 0, 0, []⟩ = y
    cases Reading.cluster T.registry ⟨d, 0, 0, []⟩ with
    | ok root r =>
      intro hcluster
      cases hcluster with
      | @ok _ root' hroot =>
        obtain rfl : root' = T.openCluster root := hroot
        simp only [nodes_openCluster]
        exact .ok (some ⟨root.nodes⟩) r.diagnostics
    | error e r =>
      intro hcluster
      cases hcluster with
      | error hbecomes => exact .error hbecomes r.diagnostics
      | loose hloose hkept =>
        refine .loose hloose fun hw => ?_
        cases y <;> exact hkept hw

end TreeChange

end FilterQuery
