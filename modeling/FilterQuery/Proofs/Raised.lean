import FilterQuery.Proofs.Language

/-!
# Where errors come from

A compilation that fails has failed in one place, at one of its steps. So a
property of errors that holds whatever step fails, wherever in the text, holds
of the error of the whole (`Raises.of_compile`). The steps are those of the loop
over a body; filters and calculators count as one step each, since what can fail
in them is a matter of their own scans.

The induction follows the turns of the loop. Between two turns lies a part that
was read well, and all that is needed of it is that the reader has stayed in the
same text.
-/

namespace FilterQuery

open Grammar

namespace Reading

variable {α β : Type} {r r' : Reader} {e : CompileError}

theorem pure_eq_error_iff {a : α} : (pure a : Reading α) r = .error e r' ↔ False := by
  simp [pure, EStateM.pure]

theorem scan_eq_error_iff {f : Cursor → Except CompileError (α × Cursor)} :
    scan f r = .error e r' ↔ f r.cursor = .error e ∧ r' = r := by
  simp only [scan]
  cases f r.cursor <;> simp [eq_comm]

theorem stepForward_eq_error_iff {missing : QueryErrorKind} :
    stepForward missing r = .error e r' ↔
      (r.cursor.after = [] ∧ e = Scan.errorAt r.cursor missing) ∧ r' = r := by
  rw [stepForward, scan_eq_error_iff, ← Scan.stepForward_eq_error_iff]
  cases Scan.stepForward r.cursor missing <;> simp [Except.map]

theorem ofExcept_eq_error_iff {x : Except CompileError α} :
    ofExcept x r = .error e r' ↔ x = .error e ∧ r' = r := by
  cases x with
  | error e => simp [ofExcept, throw, throwThe, MonadExceptOf.throw, EStateM.throw, eq_comm]
  | ok b => simp [ofExcept, pure, EStateM.pure]

theorem connector_eq_error_iff :
    connector r = .error e r' ↔
      ∃ ds, Scan.connector r.cursor = (ds, .error e) ∧ r' = r.moved r.cursor ds := by
  simp only [connector, Reader.moved]
  rcases Scan.connector r.cursor with ⟨ds, e | ⟨j, d⟩⟩
  · simp [and_assoc, eq_comm]
  · simp

theorem nested_eq_error_iff {f : OpenCluster → Reading OpenCluster} :
    nested f r = .error e r' ↔
      (r.depth = maxNestingDepth ∧
          e = Scan.errorAt r.cursor (.nestingTooDeep maxNestingDepth) ∧ r' = r) ∨
        r.depth ≠ maxNestingDepth ∧
          ∃ s, f ⟨r.nextId, []⟩ r.enter = .error e s ∧ r' = s.leave := by
  unfold nested
  split
  · next hdepth => simp [hdepth, eq_comm]
  · next hdepth =>
    simp only [Reader.enter, Reader.leave]
    cases f ⟨r.nextId, []⟩ { r with nextId := r.nextId + 1, depth := r.depth + 1 } <;>
      simp [hdepth, and_assoc, eq_comm]

end Reading

namespace OpenCluster

variable {cluster : OpenCluster} {start : Cursor} {e : CompileError}

theorem append_eq_error_iff {node : Node} :
    cluster.append node start = .error e ↔
      cluster.joint = .loose ∧ e = Scan.errorAt start .missingConnector := by
  obtain ⟨id, newest⟩ := cluster
  cases newest with
  | nil => simp [append, joint]
  | cons last earlier =>
    cases hlast : last.connector <;> simp [append, joint, hlast, eq_comm]

theorem attach_eq_error_iff {k : Connector} :
    cluster.attach k start = .error e ↔
      cluster.joint = .first ∧ e = Scan.errorAt start (.danglingConnector k) := by
  obtain ⟨id, newest⟩ := cluster
  cases newest with
  | nil => simp [attach, joint, eq_comm]
  | cons last earlier =>
    cases hlast : last.connector <;> simp [attach, joint, hlast]

end OpenCluster

/-- A node starts at the cursor: a cluster, a calculator, or the text of a filter. -/
inductive StartsNode (registry : Registry) (c : Cursor) : Prop where
  | cluster (opens : c.currentClass = .openBracket)
  | calculator (marks : c.current = '#')
  | filter {name : Name} {kind : Kind} {clause : Clause} {rest : List Char}
      (starts : startsFilter c.current) (registered : registry.lookup name.val = some kind)
      (reads : c.current :: c.after = name.val.toList ++ clause.text ++ rest)

/-- `P` holds of every error that a single step raises in the text `source`. -/
structure Raises (registry : Registry) (source : List Char) (P : CompileError → Prop) :
    Prop where
  root : ∀ {c e}, c.source = source → c.before = [] → Scan.root c = .error e → P e
  unterminated : ∀ {c : Cursor}, c.source = source → c.after = [] →
    P (Scan.errorAt c .unterminatedObject)
  nesting : ∀ {c : Cursor}, c.source = source → c.currentClass = .openBracket →
    P (Scan.errorAt c (.nestingTooDeep maxNestingDepth))
  missing : ∀ {c : Cursor}, c.source = source → StartsNode registry c →
    P (Scan.errorAt c .missingConnector)
  dangling : ∀ {c : Cursor} {k : Connector}, c.source = source → c.current = k.symbol →
    P (Scan.errorAt c (.danglingConnector k))
  filter : ∀ {p : Cursor} {r e r'}, p.Reads [r.cursor.current] r.cursor → r.cursor.source = source →
    startsFilter r.cursor.current → Reading.filter registry r = .error e r' → P e
  calculator : ∀ {parent start r e r'}, r.cursor.source = source →
    start.Reads [r.cursor.current] r.cursor → start.current = '#' →
    r.cursor.currentClass = .openBracket →
    Reading.calculator registry parent start r = .error e r' → P e

namespace Raises

variable {registry : Registry} {source : List Char} {P : CompileError → Prop} {bound : Nat}
  {cluster : OpenCluster} {r r' : Reader} {e : CompileError} {m c : Cursor} {x : Char}
  {f : OpenCluster → Reading OpenCluster}

/-- `P` holds of every error that `f` raises in the text `source`, with at most
`bound` characters to come. -/
def Within (source : List Char) (P : CompileError → Prop) (bound : Nat)
    (f : OpenCluster → Reading OpenCluster) : Prop :=
  ∀ {cluster : OpenCluster} {r r' : Reader} {e : CompileError}, f cluster r = .error e r' →
    r.cursor.source = source → r.depth ≤ maxNestingDepth → r.cursor.remaining ≤ bound → P e

theorem of_filter (hP : Raises registry source P) (hf : Within source P bound f)
    (hsource : r.cursor.source = source) (hdepth : r.depth ≤ maxNestingDepth)
    (hbound : r.cursor.remaining ≤ bound + 1) (hm : r.cursor.Reads [x] m) (hx : startsFilter x)
    (h : (do
        let node ← Reading.filter registry
        f (← Reading.ofExcept (cluster.append (.filter node) m)) :
        Reading OpenCluster) (r.goto m) = .error e r') : P e := by
  have hcurrent : m.current = x := hm.current_eq_of_step
  have hfirst : r.cursor.Reads [m.current] m := hcurrent.symm ▸ hm
  have hstart : startsFilter m.current := hcurrent.symm ▸ hx
  have hmsource : m.source = source := hm.source_eq.trans hsource
  simp only [EStateM.bind_eq_error_iff, Reading.ofExcept_eq_error_iff,
    Reading.ofExcept_eq_ok_iff, OpenCluster.append_eq_error_iff,
    OpenCluster.append_eq_ok_iff] at h
  rcases h with hfilter | ⟨_, _, hfilter, ⟨⟨-, rfl⟩, rfl⟩ | ⟨_, _, ⟨⟨-, rfl⟩, rfl⟩, hrest⟩⟩
  · exact hP.filter (r := r.goto m) hfirst hmsource hstart hfilter
  · obtain ⟨name, kind, clause, d, y, t, hread, -, -, hlookup, -, -, -⟩ :=
      Reading.reads_of_filter (r := r.goto m) hfirst (startsFilter_ne_whitespace hstart) hfilter
    exact hP.missing hmsource (.filter hstart hlookup (hfirst.after.symm.trans hread.after))
  · obtain ⟨name, kind, clause, d, y, t, hread, -, -, -, -, -, rfl⟩ :=
      Reading.reads_of_filter (r := r.goto m) hfirst (startsFilter_ne_whitespace hstart) hfilter
    obtain ⟨u, v, htext, -⟩ := clause.text_head
    obtain ⟨_, hsucc, hd⟩ := Reading.exists_bound_succ hread (by simp [htext]) hbound
    cases hsucc
    exact hf hrest (hread.source_eq.trans hsource) hdepth hd

theorem of_calculator (hP : Raises registry source P) (hf : Within source P bound f)
    (hsource : r.cursor.source = source) (hdepth : r.depth ≤ maxNestingDepth)
    (hbound : r.cursor.remaining ≤ bound + 1) (hm : r.cursor.Reads ['#'] m)
    (hc : m.Reads [x] c) (hx : classify x = .openBracket)
    (h : (do
        let node ← Reading.calculator registry cluster.id m
        f (← Reading.ofExcept (cluster.append (.calculator node) m)) :
        Reading OpenCluster) (r.goto c) = .error e r') : P e := by
  have hcurrent : c.current = x := hc.current_eq_of_step
  have hopen : c.currentClass = .openBracket := by rw [Cursor.currentClass, hcurrent, hx]
  have hmsource : m.source = source := hm.source_eq.trans hsource
  have hcsource : c.source = source := hc.source_eq.trans hmsource
  simp only [EStateM.bind_eq_error_iff, Reading.ofExcept_eq_error_iff,
    Reading.ofExcept_eq_ok_iff, OpenCluster.append_eq_error_iff,
    OpenCluster.append_eq_ok_iff] at h
  rcases h with hsum | ⟨_, _, hsum, ⟨⟨-, rfl⟩, rfl⟩ | ⟨_, _, ⟨⟨-, rfl⟩, rfl⟩, hrest⟩⟩
  · exact hP.calculator (r := r.goto c) hcsource (hcurrent.symm ▸ hc) hm.current_eq_of_step
      hopen hsum
  · exact hP.missing hmsource (.calculator hm.current_eq_of_step)
  · obtain ⟨sum, clause, d, y, t, hread, -, -, -, -, rfl⟩ :=
      Reading.reads_of_calculator (r := r.goto c) hsum
    have hwhole := (hm.trans hc).trans hread
    obtain ⟨_, hsucc, hd⟩ := Reading.exists_bound_succ hwhole (by simp) hbound
    cases hsucc
    exact hf hrest (hwhole.source_eq.trans hsource) hdepth hd

theorem of_cluster (hP : Raises registry source P) (hf : Within source P bound f)
    (hcovers : CoversBodies registry f)
    (hsource : r.cursor.source = source) (hdepth : r.depth ≤ maxNestingDepth)
    (hbound : r.cursor.remaining ≤ bound + 1) (hm : r.cursor.Reads [x] m)
    (hx : classify x = .openBracket)
    (h : (do
        let child ← Reading.nested f
        let node := .cluster child.id cluster.id child.nodes none
        f (← Reading.ofExcept (cluster.append node m)) :
        Reading OpenCluster) (r.goto m) = .error e r') : P e := by
  have hcurrent : m.current = x := hm.current_eq_of_step
  have hopen : m.currentClass = .openBracket := by rw [Cursor.currentClass, hcurrent, hx]
  have hmsource : m.source = source := hm.source_eq.trans hsource
  obtain ⟨_, hsucc, hmbound⟩ := Reading.exists_bound_succ hm (by simp) hbound
  cases hsucc
  have hdeeper (hne : (r.goto m).depth ≠ maxNestingDepth) : r.depth + 1 ≤ maxNestingDepth := by
    have hne : r.depth ≠ maxNestingDepth := hne
    omega
  simp only [EStateM.bind_eq_error_iff, Reading.ofExcept_eq_error_iff,
    Reading.ofExcept_eq_ok_iff, OpenCluster.append_eq_error_iff,
    OpenCluster.append_eq_ok_iff, Reading.nested_eq_error_iff, Reading.nested_eq_ok_iff] at h
  -- too deep, inside the cluster, when it is joined, or behind it
  rcases h with (⟨-, rfl, -⟩ | ⟨hne, s, hinner, -⟩) |
    ⟨child, _, ⟨hne, s, hinner, rfl⟩, ⟨⟨-, rfl⟩, rfl⟩ | ⟨_, _, ⟨⟨-, rfl⟩, rfl⟩, hrest⟩⟩
  · exact hP.nesting hmsource hopen
  · exact hf hinner hmsource (hdeeper hne) hmbound
  · exact hP.missing hmsource (.cluster hopen)
  · obtain ⟨inner, closing, d, hcovered, rfl, rfl⟩ := hcovers hinner (hdeeper hne)
    have hread : m.Reads (inner.text ++ [closing.val]) d := hcovered.reads
    have hd : d.remaining ≤ bound := by
      have hremaining := hread.remaining_eq
      omega
    exact hf hrest (hread.source_eq.trans hmsource) hdepth hd

theorem of_body (hP : Raises registry source P) :
    ∀ bound, Within source P bound (Reading.body registry bound) := by
  -- the bound falls with the text that is left, so at zero the text has ended, too
  intro bound
  induction bound with
  | zero =>
    intro cluster r r' e h hsource _ hbound
    have hnil : r.cursor.after = [] := List.eq_nil_of_length_eq_zero (Nat.le_zero.mp hbound)
    rw [Reading.body_of_after_nil hnil] at h
    cases h
    exact hP.unterminated hsource hnil
  | succ bound hf =>
    intro cluster r r' e h hsource hdepth hbound
    cases hafter : r.cursor.after with
    | nil =>
      rw [Reading.body_of_after_nil hafter] at h
      cases h
      exact hP.unterminated hsource hafter
    | cons x t =>
    obtain ⟨m, hm, hnext⟩ := Cursor.exists_step hafter
    have hmsource : m.source = source := hm.source_eq.trans hsource
    obtain ⟨_, hsucc, hmbound⟩ := Reading.exists_bound_succ hm (by simp) hbound
    cases hsucc
    rcases turn_cases x with hblank | hclose | hopen | rfl | ⟨k, rfl⟩ | hfilter
    · rw [Reading.body_blank hm hblank] at h
      exact hf h hmsource hdepth hmbound
    · rw [Reading.body_close hm hclose] at h
      cases h
    · rw [Reading.body_open hm hopen] at h
      exact hP.of_cluster hf (Reading.coversBodies_body bound) hsource hdepth hbound hm hopen h
    · cases t with
      | nil =>
        rw [Reading.body_sharp hm] at h
        simp only [EStateM.bind_eq_error_iff, Reading.stepForward_eq_error_iff,
          Reading.stepForward_eq_ok_iff] at h
        rcases h with ⟨⟨-, rfl⟩, -⟩ | ⟨_, _, ⟨c, hc, rfl⟩, -⟩
        · exact hP.unterminated hmsource hnext
        · have hmore := hc.after
          rw [Reader.cursor_goto, hnext] at hmore
          cases hmore
      | cons y u =>
      obtain ⟨c, hc, -⟩ := Cursor.exists_step hnext
      rw [Reading.body_sharp_step hm hc] at h
      split at h
      · next hopen => exact hP.of_calculator hf hsource hdepth hbound hm hc hopen h
      · next hpair =>
        have hread : r.cursor.Reads ['#', y] c := hm.trans hc
        obtain ⟨_, hsucc, hcbound⟩ := Reading.exists_bound_succ hread (by simp) hbound
        cases hsucc
        exact hf h (hread.source_eq.trans hsource) hdepth hcbound
    · rw [Reading.body_connector hm] at h
      simp only [EStateM.bind_eq_error_iff, Reading.ofExcept_eq_error_iff,
        Reading.ofExcept_eq_ok_iff, OpenCluster.attach_eq_error_iff,
        OpenCluster.attach_eq_ok_iff] at h
      rcases h with ⟨⟨-, rfl⟩, rfl⟩ | ⟨_, _, ⟨⟨-, rfl⟩, rfl⟩, hrest⟩
      · exact hP.dangling hmsource (hm.current_eq_of_step)
      · exact hf hrest hmsource hdepth hmbound
    · rw [Reading.body_filter hm hfilter] at h
      exact hP.of_filter hf hsource hdepth hbound hm hfilter h

/-- A property of the errors that single steps raise is one of the errors that the
compiler ends with. -/
theorem of_compile {text : String} (hP : Raises registry text.toList P)
    (h : (compile registry text).outcome = .error e) : P e := by
  cases htext : text.toList with
  | nil =>
    rw [compile_of_nil htext] at h
    cases h
  | cons x t =>
  rw [htext] at hP
  rw [compile_of_cons htext, compileFrom] at h
  split at h
  · next hroot =>
    cases h
    exact hP.root rfl rfl hroot
  next d hroot =>
  obtain ⟨_, _, opening, hread, hcons, -⟩ := Scan.reads_of_root hroot
  have hsource : d.source = x :: t := hread.source_eq
  split at h
  · cases h
  · next hcluster =>
    cases h
    rcases Reading.nested_eq_error_iff.mp hcluster with ⟨hdepth, -⟩ | ⟨-, s, hbody, -⟩
    · cases hdepth
    · exact of_body hP d.remaining hbody hsource (show 1 ≤ maxNestingDepth by decide)
        (Nat.le_refl _)

end Raises

end FilterQuery
