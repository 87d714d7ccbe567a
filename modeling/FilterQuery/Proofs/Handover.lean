import FilterQuery.Filter.Set
import FilterQuery.Proofs.Raised
import FilterQuery.Proofs.Steps

/-!
# Where the parts of the reading leave the cursor

Each part of the reading ends on a character that the next part counts on: a cluster on the
bracket that closes it, a filter or calculator in front of its connector or of the bracket
that closes the cluster, an operand on its operator or on the bracket that closes the list.
And each of them moves on, from whatever state it begins in (`handover`).

A filter steps back twice, and its name may be empty, so its scans do not all move on. The
two quotes of its argument make up for that: behind the character at which the scan of the
name begins there are at least these two.

The loops are taken apart into turns (`turn`, `Scan.operandsTurn`). A turn over a body moves on
because it begins with a step, and because the cluster that it may read moves on, which is
the loop itself with a smaller bound. So the induction is on the bound.
-/

namespace FilterQuery

open Grammar

/-- The second cursor stands behind the first one, in the same text. -/
structure Cursor.Ahead (c d : Cursor) : Prop where
  source_eq : d.source = c.source
  position_lt : c.position < d.position

namespace Cursor

variable {c d e : Cursor} {t : List Char}

theorem Ahead.trans (h : c.Ahead d) (h' : d.Ahead e) : c.Ahead e :=
  ⟨h'.source_eq.trans h.source_eq, h.position_lt.trans h'.position_lt⟩

theorem Ahead.remaining_lt (h : c.Ahead d) : d.remaining < c.remaining := by
  have hc := c.position_add_remaining
  have hd := d.position_add_remaining
  have hlt := h.position_lt
  rw [h.source_eq] at hd
  omega

theorem Reads.ahead (h : c.Reads t d) (ht : t ≠ []) : c.Ahead d := by
  have hremaining := h.remaining_eq
  have hlength := List.length_pos_iff.mpr ht
  have hc := c.position_add_remaining
  have hd := d.position_add_remaining
  rw [h.source_eq] at hd
  exact ⟨h.source_eq, by omega⟩

/-- A walk that starts one character earlier has to be longer by one. -/
theorem Reads.ahead_of_head {p : Cursor} (hc : p.Reads [c.current] c) (h : p.Reads t d)
    (ht : 2 ≤ t.length) : c.Ahead d := by
  match t with
  | x :: u =>
    obtain ⟨-, hread⟩ := reads_head hc h
    refine hread.ahead ?_
    rintro rfl
    simp at ht

end Cursor

/-- What follows a filter or a calculator is its connector, or closes the cluster if it has
none. -/
def FollowsClause (x : Char) : Option Connector → Prop
  | none => classify x = .closeBracket
  | some k => x = k.symbol

theorem followsClause_of_endsSearch {x : Char} (h : endsSearch x) :
    FollowsClause x (connector? x) := by
  cases hk : connector? x with
  | none =>
    have hclose : classify x = .closeBracket := by simpa [endsSearch, hk] using h
    exact hclose
  | some k => exact connector?_eq_some_iff.mp hk

theorem Grammar.Clause.two_le_length_text (clause : Clause) : 2 ≤ clause.text.length := by
  simp only [Clause.text, Clause.front, List.length_append, List.length_cons, List.length_nil]
  omega

/-! ## Operands -/

namespace Scan

variable {registry : Registry} {c d : Cursor}

theorem endsOperand_of_operandParts {letters digits l g : String} {k : Option Arithmetic}
    (h : operandParts letters digits c = .ok ((l, g, k), d)) : EndsOperand d.current k := by
  fun_induction operandParts letters digits c with
  | case1 => cases h
  | case2 letters digits c _ e _ ih => exact ih h
  | case3 letters digits c _ hclose =>
    cases h
    exact hclose
  | case4 letters digits c _ _ k hk =>
    cases h
    exact Arithmetic.symbol_of_ofSymbol? hk
  | case5 => cases h

theorem endsOperand_of_operand {one : Operand} (h : operand registry c = .ok (one, d)) :
    EndsOperand d.current one.arithmetic := by
  cases hparts : operandParts "" "" c with
  | error e =>
    rw [operand_of_parts_error hparts] at h
    cases h
  | ok parts =>
    obtain ⟨⟨l, g, k⟩, m⟩ := parts
    have hends := endsOperand_of_operandParts hparts
    rw [operand_of_parts hparts] at h
    cases hvalue : operandValue registry l g c with
    | error e =>
      rw [hvalue] at h
      cases h
    | ok value =>
      rw [hvalue] at h
      cases h
      exact hends

/-- One turn of the loop over operands: the operands so far, and whether their list has been
closed. -/
def operandsTurn (registry : Registry) (found : List Operand) (c : Cursor) :
    Except CompileError ((List Operand × Bool) × Cursor) :=
  if c.hasTwoNext then do
    let d ← stepOn c
    match d.currentClass with
    | .whitespace | .openBracket => .ok ((found, false), d)
    | .closeBracket => .ok ((found, true), d)
    | _ => do
      let (one, e) ← operand registry d
      .ok ((one :: found, e.currentClass = .closeBracket), e)
  else
    .error (errorAt c .unterminatedCalculator)

theorem operands_eq_turn (registry : Registry) (found : List Operand) (c : Cursor) :
    operands registry found c = (do
      let ((found, closed), d) ← operandsTurn registry found c
      if closed then .ok (found, d) else operands registry found d) := by
  rw [operands, operandsTurn]
  split
  · cases stepOn c with
    | error e => rfl
    | ok d =>
      simp only [bind, Except.bind]
      cases hclass : d.currentClass <;> try rfl
      all_goals
        cases operand registry d with
        | error e => rfl
        | ok read => simp
  · rfl

theorem ahead_of_operandsTurn {found : List Operand} {out : List Operand × Bool}
    (h : operandsTurn registry found c = .ok (out, d)) : c.Ahead d := by
  unfold operandsTurn at h
  split at h
  · cases hstep : stepOn c with
    | error e =>
      rw [hstep] at h
      cases h
    | ok m =>
    have hm : c.Reads [m.current] m := stepOn_eq_ok_iff.mp hstep
    rw [hstep] at h
    simp only [bind, Except.bind] at h
    split at h
    · cases h
      exact hm.ahead (by simp)
    · cases h
      exact hm.ahead (by simp)
    · cases h
      exact hm.ahead (by simp)
    next hblank _ _ =>
    cases hone : operand registry m with
    | error e =>
      rw [hone] at h
      cases h
    | ok read =>
      obtain ⟨one, e⟩ := read
      obtain ⟨term, hread, -⟩ := reads_of_operand hm hblank hone
      rw [hone] at h
      cases h
      exact hread.ahead (by simp)
  · cases h

end Scan

/-! ## Filters and calculators -/

namespace Reading

variable {α β : Type} {registry : Registry} {r r' : Reader} {bound : Nat}

theorem ahead_of_filter {reference : FilterReference} (h : filter registry r = .ok reference r') :
    r.cursor.Ahead r'.cursor ∧
      ∃ x ∈ r'.cursor.after.head?, FollowsClause x reference.connector := by
  simp only [filter, EStateM.bind_eq_ok_iff, place_eq_ok_iff, stepBack_eq_ok_iff, scan_eq_ok_iff,
    ofExcept_eq_ok_iff, connector_eq_ok_iff, pure_eq_ok_iff] at h
  obtain ⟨_, _, ⟨rfl, rfl⟩, _, _, ⟨p, hp, rfl⟩, name, _, ⟨d₁, hname, rfl⟩, kind, _, ⟨-, rfl⟩,
    _, _, ⟨m, hm, rfl⟩, comparison, _, ⟨c₁, hcomparison, rfl⟩, argument, _, ⟨c₂, hargument, rfl⟩,
    j, _, ⟨ds, d, hconnector, rfl⟩, rfl, rfl⟩ := h
  simp only [Reader.cursor_goto] at *
  obtain ⟨hread, -⟩ := Scan.reads_of_identifier hname
  obtain ⟨hspelled, -⟩ := Scan.reads_of_stepBack hread hm
  obtain ⟨clause, x, rest, hclause, -, -, -, hnext, hx, rfl⟩ :=
    Scan.exists_clause hcomparison hargument hconnector
  have hwhole : p.Reads (name.toList ++ clause.text) d := hspelled.trans hclause
  have hlength : 2 ≤ (name.toList ++ clause.text).length := by
    have := clause.two_le_length_text
    rw [List.length_append]
    omega
  refine ⟨hp.ahead_of_head hwhole hlength, x, ?_, followsClause_of_endsSearch hx⟩
  show x ∈ d.after.head?
  rw [hnext]
  rfl

theorem ahead_of_calculator {parent : Nat} {start : Cursor} {sum : Calculator}
    (h : calculator registry parent start r = .ok sum r') :
    r.cursor.Ahead r'.cursor ∧ ∃ x ∈ r'.cursor.after.head?, FollowsClause x sum.connector := by
  obtain ⟨sum, clause, d, x, rest, hread, hnext, hx, -, rfl, rfl⟩ := reads_of_calculator h
  have hne : sum.text ++ clause.text ≠ [] := by
    obtain ⟨y, t, htext, -⟩ := clause.text_head
    simp [htext]
  refine ⟨hread.ahead hne, x, ?_, followsClause_of_endsSearch hx⟩
  show x ∈ d.after.head?
  rw [hnext]
  rfl

/-! ## The loop over a body -/

/-- One turn of the loop over a body: the cluster so far, or nothing if it has been closed. -/
def turn (registry : Registry) (bound : Nat) (cluster : OpenCluster) :
    Reading (Option OpenCluster) := do
  stepForward .unterminatedObject
  let start ← place
  match start.currentClass with
  | .whitespace => return some cluster
  | .closeBracket => return none
  | .openBracket =>
    let child ← nested (body registry bound)
    return some (← ofExcept
      (cluster.append (.cluster child.id cluster.id child.nodes none) start))
  | .sharp =>
    stepForward .unterminatedObject
    if (← place).currentClass = .openBracket then
      let node ← calculator registry cluster.id start
      return some (← ofExcept (cluster.append (.calculator node) start))
    else
      return some cluster
  | .logicalAnd => return some (← ofExcept (cluster.attach .and start))
  | .logicalOr => return some (← ofExcept (cluster.attach .or start))
  | .logicalXor => return some (← ofExcept (cluster.attach .xor start))
  | _ =>
    let node ← filter registry
    return some (← ofExcept (cluster.append (.filter node) start))

theorem body_eq_turn (registry : Registry) (bound : Nat) (cluster : OpenCluster) :
    body registry (bound + 1) cluster = (do
      match ← turn registry bound cluster with
      | none => return cluster
      | some cluster => body registry bound cluster) := by
  rw [body, turn, bind_assoc]
  refine congrArg _ (funext fun _ => ?_)
  rw [bind_assoc]
  refine congrArg _ (funext fun start => ?_)
  cases start.currentClass with
  | sharp =>
    simp only [bind_assoc]
    refine congrArg _ (funext fun _ => congrArg _ (funext fun c => ?_))
    split <;> simp
  | _ => simp

/-- The loop ends on a bracket that closes the cluster, and has moved on. -/
def Closes (x : Reading α) : Prop :=
  ∀ {a r r'}, x r = .ok a r' → r'.cursor.currentClass = .closeBracket ∧ r.cursor.Ahead r'.cursor

theorem closes_nested {f : OpenCluster → Reading OpenCluster} (hf : ∀ cluster, Closes (f cluster)) :
    Closes (nested f) := by
  intro child r r' h
  obtain ⟨-, s, hbody, rfl⟩ := nested_eq_ok_iff.mp h
  obtain ⟨hclose, hahead⟩ := hf _ hbody
  exact ⟨hclose, hahead⟩

theorem ahead_of_turn (hbody : ∀ cluster, Closes (body registry bound cluster))
    {cluster : OpenCluster} {next : Option OpenCluster}
    (h : turn registry bound cluster r = .ok next r') :
    r.cursor.Ahead r'.cursor ∧ (next = none → r'.cursor.currentClass = .closeBracket) := by
  simp only [turn, EStateM.bind_eq_ok_iff, stepForward_eq_ok_iff, place_eq_ok_iff] at h
  obtain ⟨_, _, ⟨_, hm, rfl⟩, m, _, ⟨rfl, rfl⟩, h⟩ := h
  have hstep : r.cursor.Ahead m := hm.ahead (by simp)
  have hattach {k : Connector}
      (h : (do return some (← ofExcept (cluster.attach k m)) : Reading _) (r.goto m) =
        .ok next r') :
      r.cursor.Ahead r'.cursor ∧ (next = none → r'.cursor.currentClass = .closeBracket) := by
    simp only [EStateM.bind_eq_ok_iff, ofExcept_eq_ok_iff, pure_eq_ok_iff] at h
    obtain ⟨_, _, ⟨-, rfl⟩, rfl, rfl⟩ := h
    exact ⟨hstep, nofun⟩
  cases hclass : m.currentClass with
  | whitespace =>
    rw [hclass] at h
    obtain ⟨rfl, rfl⟩ := pure_eq_ok_iff.mp h
    exact ⟨hstep, nofun⟩
  | closeBracket =>
    rw [hclass] at h
    obtain ⟨rfl, rfl⟩ := pure_eq_ok_iff.mp h
    exact ⟨hstep, fun _ => hclass⟩
  | openBracket =>
    simp only [hclass, EStateM.bind_eq_ok_iff, ofExcept_eq_ok_iff, pure_eq_ok_iff] at h
    obtain ⟨child, _, hchild, _, _, ⟨-, rfl⟩, rfl, rfl⟩ := h
    obtain ⟨-, hahead⟩ := closes_nested hbody hchild
    exact ⟨hstep.trans hahead, nofun⟩
  | sharp =>
    simp only [hclass, EStateM.bind_eq_ok_iff, stepForward_eq_ok_iff, place_eq_ok_iff] at h
    obtain ⟨_, _, ⟨_, hc, rfl⟩, c, _, ⟨rfl, rfl⟩, h⟩ := h
    simp only [Reader.cursor_goto, Reader.goto_goto] at hc h
    have hpair : r.cursor.Ahead c := hstep.trans (hc.ahead (by simp))
    split at h
    · simp only [EStateM.bind_eq_ok_iff, ofExcept_eq_ok_iff, pure_eq_ok_iff] at h
      obtain ⟨sum, _, hsum, _, _, ⟨-, rfl⟩, rfl, rfl⟩ := h
      obtain ⟨hahead, -⟩ := ahead_of_calculator hsum
      exact ⟨hpair.trans hahead, nofun⟩
    · obtain ⟨rfl, rfl⟩ := pure_eq_ok_iff.mp h
      exact ⟨hpair, nofun⟩
  | logicalAnd =>
    rw [hclass] at h
    exact hattach h
  | logicalOr =>
    rw [hclass] at h
    exact hattach h
  | logicalXor =>
    rw [hclass] at h
    exact hattach h
  | _ =>
    simp only [hclass, EStateM.bind_eq_ok_iff, ofExcept_eq_ok_iff, pure_eq_ok_iff] at h
    obtain ⟨reference, _, hreference, _, _, ⟨-, rfl⟩, rfl, rfl⟩ := h
    obtain ⟨hahead, -⟩ := ahead_of_filter hreference
    exact ⟨hstep.trans hahead, nofun⟩

theorem closes_body (bound : Nat) : ∀ cluster, Closes (body registry bound cluster) := by
  -- a turn reads a cluster with the bound that is left to the turns behind it
  induction bound with
  | zero =>
    intro cluster child r r' h
    simp [body, EStateM.bind_eq_ok_iff, throw, throwThe, MonadExceptOf.throw, EStateM.throw] at h
  | succ bound ih =>
    intro cluster child r r' h
    rw [body_eq_turn, EStateM.bind_eq_ok_iff] at h
    obtain ⟨next, r₁, hturn, h⟩ := h
    obtain ⟨hahead, hclose⟩ := ahead_of_turn ih hturn
    cases next with
    | none =>
      obtain ⟨rfl, rfl⟩ := pure_eq_ok_iff.mp h
      exact ⟨hclose rfl, hahead⟩
    | some next =>
      obtain ⟨hclose', hahead'⟩ := ih next h
      exact ⟨hclose', hahead.trans hahead'⟩

/-! ## Open clusters -/

/-- However the reading ends, as many clusters are open as before. -/
def KeepsDepth (x : Reading α) : Prop :=
  ∀ r, match x r with
    | .ok _ s | .error _ s => s.depth = r.depth

theorem KeepsDepth.bind {x : Reading α} {f : α → Reading β} (h : KeepsDepth x)
    (hf : ∀ a, KeepsDepth (f a)) : KeepsDepth (x >>= f) := by
  intro r
  have hx := h r
  simp only [Bind.bind, EStateM.bind]
  cases hresult : x r with
  | error e s =>
    rw [hresult] at hx
    exact hx
  | ok a s =>
    rw [hresult] at hx
    have hfa := hf a s
    show match f a s with | .ok _ s' | .error _ s' => s'.depth = r.depth
    rw [← show s.depth = r.depth from hx]
    exact hfa

theorem keepsDepth_pure (a : α) : KeepsDepth (pure a) :=
  fun _ => rfl

theorem keepsDepth_place : KeepsDepth place :=
  fun _ => rfl

theorem keepsDepth_ofExcept (x : Except CompileError α) : KeepsDepth (ofExcept x) := by
  intro r
  cases x with
  | error e => rfl
  | ok a => rfl

theorem keepsDepth_scan (f : Cursor → Except CompileError (α × Cursor)) :
    KeepsDepth (scan f) := by
  intro r
  unfold scan
  cases f r.cursor with
  | error e => rfl
  | ok read => rfl

theorem keepsDepth_connector : KeepsDepth connector := by
  intro r
  unfold connector
  obtain ⟨skipped, outcome⟩ := Scan.connector r.cursor
  cases outcome with
  | error e => rfl
  | ok found => rfl

theorem keepsDepth_filter (registry : Registry) : KeepsDepth (filter registry) := by
  refine keepsDepth_place.bind fun start => (keepsDepth_scan _).bind fun _ => ?_
  refine (keepsDepth_scan _).bind fun name => (keepsDepth_ofExcept _).bind fun kind => ?_
  refine (keepsDepth_scan _).bind fun _ => (keepsDepth_scan _).bind fun comparison => ?_
  refine (keepsDepth_scan _).bind fun argument => keepsDepth_connector.bind fun connector => ?_
  exact keepsDepth_pure _

theorem keepsDepth_calculator (registry : Registry) (parent : Nat) (start : Cursor) :
    KeepsDepth (calculator registry parent start) := by
  refine (keepsDepth_scan _).bind fun newest => keepsDepth_place.bind fun finish => ?_
  refine (keepsDepth_ofExcept _).bind fun _ => (keepsDepth_scan _).bind fun comparison => ?_
  refine (keepsDepth_scan _).bind fun argument => keepsDepth_connector.bind fun connector => ?_
  exact keepsDepth_pure _

/-- What has been opened is closed again, also if the reading of the body fails. -/
theorem keepsDepth_nested {f : OpenCluster → Reading OpenCluster}
    (hf : ∀ cluster, KeepsDepth (f cluster)) : KeepsDepth (nested f) := by
  intro r
  have hbody := hf ⟨r.nextId, []⟩ r.enter
  have hleave {s : Reader} (hs : s.depth = r.enter.depth) : s.leave.depth = r.depth := by
    show s.depth - 1 = r.depth
    rw [hs]
    rfl
  cases hresult : nested f r with
  | ok child r' =>
    obtain ⟨-, s, hchild, rfl⟩ := nested_eq_ok_iff.mp hresult
    rw [hchild] at hbody
    exact hleave hbody
  | error e r' =>
    rcases nested_eq_error_iff.mp hresult with ⟨-, -, rfl⟩ | ⟨-, s, hfails, rfl⟩
    · rfl
    · rw [hfails] at hbody
      exact hleave hbody

theorem keepsDepth_turn (hbody : ∀ cluster, KeepsDepth (body registry bound cluster))
    (cluster : OpenCluster) : KeepsDepth (turn registry bound cluster) := by
  have hof (x : Except CompileError OpenCluster) :
      KeepsDepth (do return some (← ofExcept x)) :=
    (keepsDepth_ofExcept x).bind fun _ => keepsDepth_pure _
  refine (keepsDepth_scan _).bind fun _ => keepsDepth_place.bind fun start => ?_
  cases start.currentClass with
  | whitespace => exact keepsDepth_pure _
  | closeBracket => exact keepsDepth_pure _
  | openBracket => exact (keepsDepth_nested hbody).bind fun child => hof _
  | sharp =>
    refine (keepsDepth_scan _).bind fun _ => keepsDepth_place.bind fun c => ?_
    split
    · exact (keepsDepth_calculator registry cluster.id start).bind fun sum => hof _
    · exact keepsDepth_pure _
  | logicalAnd => exact hof _
  | logicalOr => exact hof _
  | logicalXor => exact hof _
  | _ => exact (keepsDepth_filter registry).bind fun reference => hof _

theorem keepsDepth_body (registry : Registry) (bound : Nat) :
    ∀ cluster, KeepsDepth (body registry bound cluster) := by
  induction bound with
  | zero => exact fun cluster => keepsDepth_place.bind fun c r => rfl
  | succ bound ih =>
    intro cluster
    rw [body_eq_turn]
    refine (keepsDepth_turn ih cluster).bind fun next => ?_
    cases next with
    | none => exact keepsDepth_pure _
    | some next => exact ih next

/-! ## The whole -/

/-- Where the parts of the reading leave the cursor when they begin in this state, and that
their loops come to an end. A cluster is read with a bound: the first one with the number of
unread characters, any other with what the loop around it has left. -/
structure HandsOver (registry : Registry) (r : Reader) : Prop where
  cluster_eq : cluster registry r = nested (body registry r.cursor.remaining) r
  nested_ok : ∀ bound child r', nested (body registry bound) r = .ok child r' →
    r'.cursor.currentClass = .closeBracket ∧ r.cursor.Ahead r'.cursor ∧ r'.depth = r.depth
  nested_error : ∀ bound e r', nested (body registry bound) r = .error e r' → r'.depth = r.depth
  filter_ok : ∀ reference r', filter registry r = .ok reference r' →
    r.cursor.Ahead r'.cursor ∧ ∃ x ∈ r'.cursor.after.head?, FollowsClause x reference.connector
  calculator_ok : ∀ parent start sum r', calculator registry parent start r = .ok sum r' →
    r.cursor.Ahead r'.cursor ∧ ∃ x ∈ r'.cursor.after.head?, FollowsClause x sum.connector
  operand_ok : ∀ one d, Scan.operand registry r.cursor = .ok (one, d) →
    Scan.EndsOperand d.current one.arithmetic
  body_turns : ∀ bound cluster, body registry (bound + 1) cluster r = (do
    match ← turn registry bound cluster with
    | none => return cluster
    | some cluster => body registry bound cluster : Reading OpenCluster) r
  turn_ok : ∀ bound cluster next r', turn registry bound cluster r = .ok next r' →
    r'.cursor.remaining < r.cursor.remaining
  operands_turns : ∀ found, Scan.operands registry found r.cursor = (do
    let ((found, closed), d) ← Scan.operandsTurn registry found r.cursor
    if closed then .ok (found, d) else Scan.operands registry found d)
  operandsTurn_ok : ∀ found out d, Scan.operandsTurn registry found r.cursor = .ok (out, d) →
    d.remaining < r.cursor.remaining

/-- Every part of the reading hands the cursor over as the next one expects it, whatever
names are registered, and every turn of a loop leaves fewer characters unread. -/
theorem handover (registry : Registry) (r : Reader) : HandsOver registry r where
  cluster_eq := rfl
  nested_ok bound child r' h := by
    have hdepth := keepsDepth_nested (keepsDepth_body registry bound) r
    rw [h] at hdepth
    obtain ⟨hclose, hahead⟩ := closes_nested (closes_body bound) h
    exact ⟨hclose, hahead, hdepth⟩
  nested_error bound e r' h := by
    have hdepth := keepsDepth_nested (keepsDepth_body registry bound) r
    rw [h] at hdepth
    exact hdepth
  filter_ok _ _ := ahead_of_filter
  calculator_ok _ _ _ _ := ahead_of_calculator
  operand_ok _ _ := Scan.endsOperand_of_operand
  body_turns bound cluster := by rw [body_eq_turn]
  turn_ok bound _ _ _ h := (ahead_of_turn (closes_body bound) h).1.remaining_lt
  operands_turns found := Scan.operands_eq_turn registry found r.cursor
  operandsTurn_ok _ _ _ h := (Scan.ahead_of_operandsTurn h).remaining_lt

/-- A filter without a name, registered as such: its reading begins with two steps back. -/
theorem handover_of_empty_name :
    let registry := (FilterSet.ofList [⟨"", .text⟩]).registry
    let r : Reader := ⟨⟨['\x7b'], '=', "=\"x\" &".toList⟩, 1, 1, []⟩
    let d : Cursor := ⟨"\"x\"==\x7b".toList, ' ', ['&']⟩
    filter registry r = .ok ⟨"", .text, .equal, "x", some .and⟩ (r.goto d) ∧
      r.cursor.Ahead d ∧ FollowsClause '&' (some .and) := by
  intro registry r d
  have h : filter registry r = .ok ⟨"", .text, .equal, "x", some .and⟩ (r.goto d) := by cbv
  obtain ⟨hahead, x, hx, hfollows⟩ := (handover registry r).filter_ok _ _ h
  obtain rfl : '&' = x := Option.some.inj hx
  exact ⟨h, hahead, hfollows⟩

end Reading

end FilterQuery
