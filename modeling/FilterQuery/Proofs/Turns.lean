import FilterQuery.Proofs.Faultless

/-!
# Where the loop over a body comes by

While a text is compiled, the loop over a body is at the head of a turn again and again,
in one cluster after the other. `Visits` are these places: the loop begins behind the
bracket of the root, and behind every bracket that opens a cluster, and it goes on behind
what a turn has read (`Turns`). A node that has been read is not yet in its cluster
(`Adds`): what it is appended to decides whether the loop goes on.

An invariant of the loop is a property of these places, by induction on the way to them.
What ties them to the compilation are two lemmas. A place at which the loop must fail is
the end of the compilation (`Visits.compile_eq_error`). And a compilation that fails behind
its first bracket has come to a turn that failed (`TurnFails`, `ComesTo`). One that misses a
connector has thus come to a place where a node could not be appended
(`exists_adds_of_compile`).
-/

namespace FilterQuery

open Grammar

/-- A turn has read `node`, which starts at `start`, and is about to append it. -/
inductive Adds (registry : Registry) (cluster : OpenCluster) (r : Reader) :
    Node → Cursor → Reader → Prop where
  | filter {x : Char} {m : Cursor} {reference : FilterReference} {r' : Reader}
      (step : r.cursor.Reads [x] m) (starts : startsFilter x)
      (reads : Reading.filter registry (r.goto m) = .ok reference r') :
      Adds registry cluster r (.filter reference) m r'
  | calculator {x : Char} {m c : Cursor} {sum : Calculator} {r' : Reader}
      (step : r.cursor.Reads ['#'] m) (next : m.Reads [x] c)
      (opens : classify x = .openBracket)
      (reads : Reading.calculator registry cluster.id m (r.goto c) = .ok sum r') :
      Adds registry cluster r (.calculator sum) m r'
  | cluster {x : Char} {m : Cursor} {child : OpenCluster} {r' : Reader}
      (step : r.cursor.Reads [x] m) (opens : classify x = .openBracket)
      (reads : Reading.cluster registry (r.goto m) = .ok child r') :
      Adds registry cluster r (.cluster child.id cluster.id child.nodes none) m r'

/-- A turn after which the loop goes on, with the nodes so far and the reader before it and
after it. -/
inductive Turns (registry : Registry) (cluster : OpenCluster) (r : Reader) :
    OpenCluster → Reader → Prop where
  | blank {x : Char} {m : Cursor} (step : r.cursor.Reads [x] m)
      (blank : classify x = .whitespace) : Turns registry cluster r cluster (r.goto m)
  | pair {x : Char} {c : Cursor} (step : r.cursor.Reads ['#', x] c)
      (other : classify x ≠ .openBracket) : Turns registry cluster r cluster (r.goto c)
  | attach {k : Connector} {m : Cursor} {next : OpenCluster}
      (step : r.cursor.Reads [k.symbol] m) (attaches : cluster.attach k m = .ok next) :
      Turns registry cluster r next (r.goto m)
  | append {node : Node} {start : Cursor} {r' : Reader} {next : OpenCluster}
      (adds : Adds registry cluster r node start r')
      (appends : cluster.append node start = .ok next) : Turns registry cluster r next r'

/-- While `source` is compiled, the loop over a body is at the head of a turn, with these
nodes of its cluster so far. -/
inductive Visits (registry : Registry) (source : String) : OpenCluster → Reader → Prop where
  | root {x : Char} {t : List Char} {c : Cursor} (first : source.toList = x :: t)
      (opens : Scan.root ⟨[], x, t⟩ = .ok c) :
      Visits registry source ⟨0, []⟩ (Reader.enter ⟨c, 0, 0, []⟩)
  | enter {cluster : OpenCluster} {r : Reader} {x : Char} {m : Cursor}
      (visits : Visits registry source cluster r) (step : r.cursor.Reads [x] m)
      (opens : classify x = .openBracket) (room : r.depth ≠ maxNestingDepth) :
      Visits registry source ⟨r.nextId, []⟩ (r.goto m).enter
  | turn {cluster cluster' : OpenCluster} {r r' : Reader}
      (visits : Visits registry source cluster r)
      (turns : Turns registry cluster r cluster' r') : Visits registry source cluster' r'

section

variable {registry : Registry} {cluster cluster' : OpenCluster} {r r' : Reader} {node : Node}
  {start m : Cursor} {bound : Nat} {e : CompileError}

/-! ## What has been read -/

theorem Adds.start_reads (h : Adds registry cluster r node start r') :
    ∃ x, r.cursor.Reads [x] start ∧ classify x ≠ .closeBracket := by
  cases h with
  | filter step starts =>
    refine ⟨_, step, fun hclose => ?_⟩
    simp [startsFilter, hclose] at starts
  | calculator step => exact ⟨_, step, by decide⟩
  | cluster step opens => exact ⟨_, step, by simp [opens]⟩

/-- Behind a cluster that has been read is the bracket that closes it. -/
theorem covered_of_cluster_eq_ok {child : OpenCluster} (hdepth : r.depth ≤ maxNestingDepth)
    (h : Reading.cluster registry r = .ok child r') :
    ∃ (inner : Body) (closing : Closing), inner.Valid registry .first ∧
      r.cursor.Reads (inner.text ++ [closing.val]) r'.cursor ∧
      child = ⟨r.nextId, (inner.nodes r.nextId (r.nextId + 1)).reverse⟩ ∧ r'.depth = r.depth := by
  obtain ⟨hne, s, hbody, rfl⟩ := Reading.nested_eq_ok_iff.mp h
  have hroom : r.enter.depth ≤ maxNestingDepth := Nat.lt_of_le_of_ne hdepth hne
  obtain ⟨inner, closing, d, hcovers, rfl, rfl⟩ :=
    Reading.coversBodies_body r.cursor.remaining hbody hroom
  refine ⟨inner, closing, hcovers.valid, hcovers.reads, ?_, rfl⟩
  simp [OpenCluster.extend, OpenCluster.join, Reader.enter]

/-- A cluster that is read with one bound is read with every bound that suffices. -/
theorem nested_body_eq_ok_iff {child : OpenCluster} (hdepth : r.depth ≤ maxNestingDepth)
    (hbound : r.cursor.remaining ≤ bound) :
    Reading.nested (Reading.body registry bound) r = .ok child r' ↔
      Reading.cluster registry r = .ok child r' := by
  have hmore {n n' : Nat} (hn : r.cursor.remaining ≤ n')
      (h : Reading.nested (Reading.body registry n) r = .ok child r') :
      Reading.nested (Reading.body registry n') r = .ok child r' := by
    obtain ⟨hne, s, hbody, rfl⟩ := Reading.nested_eq_ok_iff.mp h
    have hroom : r.enter.depth ≤ maxNestingDepth := Nat.lt_of_le_of_ne hdepth hne
    obtain ⟨inner, closing, d, hcovers, rfl, rfl⟩ := Reading.coversBodies_body n hbody hroom
    exact Reading.nested_eq_ok_iff.mpr ⟨hne, _, Reading.readsBody inner hcovers hn, rfl⟩
  exact ⟨hmore (Nat.le_refl _), hmore hbound⟩

theorem Adds.reads (h : Adds registry cluster r node start r')
    (hdepth : r.depth ≤ maxNestingDepth) :
    ∃ text, text ≠ [] ∧ r.cursor.Reads text r'.cursor ∧ r'.depth = r.depth := by
  cases h with
  | filter step starts reads =>
    obtain rfl := step.current_eq_of_step
    obtain ⟨name, kind, clause, d, y, t, hread, -, -, -, -, -, rfl⟩ :=
      Reading.reads_of_filter (r := r.goto start) step (startsFilter_ne_whitespace starts) reads
    obtain ⟨u, v, htext, -⟩ := clause.text_head
    exact ⟨_, by simp [htext], hread, rfl⟩
  | calculator step next opens reads =>
    obtain ⟨sum, clause, d, y, t, hread, -, -, -, -, rfl⟩ := Reading.reads_of_calculator reads
    exact ⟨_, by simp, (step.trans next).trans hread, rfl⟩
  | cluster step opens reads =>
    obtain ⟨inner, closing, -, hread, -, hsame⟩ :=
      covered_of_cluster_eq_ok (r := r.goto start) hdepth reads
    exact ⟨_, by simp, step.trans hread, hsame⟩

theorem Turns.reads (h : Turns registry cluster r cluster' r')
    (hdepth : r.depth ≤ maxNestingDepth) :
    ∃ text, text ≠ [] ∧ r.cursor.Reads text r'.cursor ∧ r'.depth = r.depth := by
  cases h with
  | blank step => exact ⟨_, by simp, step, rfl⟩
  | pair step => exact ⟨_, by simp, step, rfl⟩
  | attach step => exact ⟨_, by simp, step, rfl⟩
  | append adds => exact adds.reads hdepth

theorem Visits.source_eq {source : String} (h : Visits registry source cluster r) :
    r.cursor.source = source.toList ∧ r.depth ≤ maxNestingDepth := by
  induction h with
  | root first opens =>
    obtain ⟨_, _, opening, hread, -⟩ := Scan.reads_of_root opens
    exact ⟨hread.source_eq.trans first.symm, show 1 ≤ maxNestingDepth by decide⟩
  | enter visits step opens room ih =>
    exact ⟨step.source_eq.trans ih.1, Nat.lt_of_le_of_ne ih.2 room⟩
  | turn visits turns ih =>
    obtain ⟨text, -, hread, hdepth⟩ := turns.reads ih.2
    exact ⟨hread.source_eq.trans ih.1, hdepth ▸ ih.2⟩

/-! ## The loop makes these turns -/

namespace Reading

theorem body_of_adds (h : Adds registry cluster r node start r')
    (hdepth : r.depth ≤ maxNestingDepth) (hbound : r.cursor.remaining ≤ bound + 1) :
    body registry (bound + 1) cluster r =
      (do body registry bound (← ofExcept (cluster.append node start)) :
        Reading OpenCluster) r' := by
  cases h with
  | filter step starts reads => rw [body_filter step starts, EStateM.bind_of_eq_ok reads]
  | calculator step next opens reads =>
    rw [body_sharp_step step next, if_pos opens, EStateM.bind_of_eq_ok reads]
  | cluster step opens reads =>
    obtain ⟨_, hsucc, hm⟩ := exists_bound_succ step (by simp) hbound
    cases hsucc
    have hnested := (nested_body_eq_ok_iff (r := r.goto start) hdepth hm).mpr reads
    rw [body_open step opens, EStateM.bind_of_eq_ok hnested]

theorem body_of_turns (h : Turns registry cluster r cluster' r')
    (hdepth : r.depth ≤ maxNestingDepth) (hbound : r.cursor.remaining ≤ bound) :
    ∃ bound', r'.cursor.remaining ≤ bound' ∧
      body registry bound cluster r = body registry bound' cluster' r' := by
  obtain ⟨text, hne, hread, -⟩ := h.reads hdepth
  obtain ⟨bound, rfl, hbound'⟩ := exists_bound_succ hread hne hbound
  refine ⟨bound, hbound', ?_⟩
  cases h with
  | blank step blank => exact body_blank step blank
  | pair step other =>
    obtain ⟨m, hm, hc⟩ := Cursor.reads_cons.mp step
    rw [body_sharp_step hm hc, if_neg other]
  | attach step attaches =>
    rw [body_connector step, attaches]
    rfl
  | append adds appends =>
    rw [body_of_adds adds hdepth hbound, appends]
    rfl

/-- From here on the loop fails, whatever its bound. -/
def Dooms (registry : Registry) (cluster : OpenCluster) (r : Reader) (e : CompileError) :
    Prop :=
  ∀ bound, r.cursor.remaining ≤ bound → ∃ s, body registry bound cluster r = .error e s

theorem dooms_of_append (h : Adds registry cluster r node start r')
    (hdepth : r.depth ≤ maxNestingDepth) (happend : cluster.append node start = .error e) :
    Dooms registry cluster r e := by
  intro bound hbound
  obtain ⟨text, hne, hread, -⟩ := h.reads hdepth
  obtain ⟨bound, rfl, -⟩ := exists_bound_succ hread hne hbound
  rw [body_of_adds h hdepth hbound, happend]
  exact ⟨r', rfl⟩

end Reading

/-- A place at which the loop fails is the end of the compilation. -/
theorem Visits.compile_eq_error {source : String} (h : Visits registry source cluster r)
    (hdooms : Reading.Dooms registry cluster r e) :
    (compile registry source).outcome = .error e := by
  induction h with
  | @root x t c first opens =>
    obtain ⟨s, hbody⟩ := hdooms c.remaining (Nat.le_refl _)
    have hcluster : Reading.cluster registry ⟨c, 0, 0, []⟩ = .error e s.leave :=
      Reading.nested_eq_error_iff.mpr (.inr ⟨show 0 ≠ maxNestingDepth by decide, s, hbody, rfl⟩)
    simp only [compile_of_cons first, compileFrom, opens, hcluster]
  | @enter cluster r x m visits step opens room ih =>
    refine ih fun bound hbound => ?_
    obtain ⟨bound, rfl, hm⟩ := Reading.exists_bound_succ step (by simp) hbound
    obtain ⟨s, hbody⟩ := hdooms bound hm
    have hnested : Reading.nested (Reading.body registry bound) (r.goto m) = .error e s.leave :=
      Reading.nested_eq_error_iff.mpr (.inr ⟨room, s, hbody, rfl⟩)
    rw [Reading.body_open step opens]
    exact ⟨_, EStateM.bind_eq_error_iff.mpr (.inl hnested)⟩
  | turn visits turns ih =>
    refine ih fun bound hbound => ?_
    obtain ⟨bound', hbound', hbody⟩ := Reading.body_of_turns turns visits.source_eq.2 hbound
    rw [hbody]
    exact hdooms bound' hbound'

/-! ## The way to an error -/

/-- The turn at this place ends the loop with an error, and leaves the reader `s`. -/
inductive TurnFails (registry : Registry) (cluster : OpenCluster) (r : Reader) :
    CompileError → Reader → Prop where
  | unterminated {t : List Char} {c : Cursor} (reads : r.cursor.Reads t c)
      (nothing : c.after = []) :
      TurnFails registry cluster r (Scan.errorAt c .unterminatedObject) (r.goto c)
  | nesting {x : Char} {m : Cursor} (step : r.cursor.Reads [x] m)
      (opens : classify x = .openBracket) (full : r.depth = maxNestingDepth) :
      TurnFails registry cluster r (Scan.errorAt m (.nestingTooDeep maxNestingDepth)) (r.goto m)
  | attach {k : Connector} {m : Cursor} {e : CompileError} (step : r.cursor.Reads [k.symbol] m)
      (fails : cluster.attach k m = .error e) : TurnFails registry cluster r e (r.goto m)
  | append {node : Node} {start : Cursor} {r' : Reader} {e : CompileError}
      (adds : Adds registry cluster r node start r')
      (fails : cluster.append node start = .error e) : TurnFails registry cluster r e r'
  | filter {x : Char} {m : Cursor} {e : CompileError} {s : Reader} (step : r.cursor.Reads [x] m)
      (starts : startsFilter x) (fails : Reading.filter registry (r.goto m) = .error e s) :
      TurnFails registry cluster r e s
  | calculator {x : Char} {m c : Cursor} {e : CompileError} {s : Reader}
      (step : r.cursor.Reads ['#'] m) (next : m.Reads [x] c) (opens : classify x = .openBracket)
      (fails : Reading.calculator registry cluster.id m (r.goto c) = .error e s) :
      TurnFails registry cluster r e s

/-- The loop comes to an error, and leaves the reader `s`: its turn fails, or it comes to the
error behind the turn, or inside the cluster that it has opened. -/
inductive ComesTo (registry : Registry) (e : CompileError) : OpenCluster → Reader → Reader → Prop
    where
  | here {cluster : OpenCluster} {r s : Reader} (fails : TurnFails registry cluster r e s) :
      ComesTo registry e cluster r s
  | behind {cluster cluster' : OpenCluster} {r r' s : Reader}
      (turns : Turns registry cluster r cluster' r') (rest : ComesTo registry e cluster' r' s) :
      ComesTo registry e cluster r s
  | inside {cluster : OpenCluster} {r s : Reader} {x : Char} {m : Cursor}
      (step : r.cursor.Reads [x] m) (opens : classify x = .openBracket)
      (room : r.depth ≠ maxNestingDepth)
      (rest : ComesTo registry e ⟨r.nextId, []⟩ (r.goto m).enter s) :
      ComesTo registry e cluster r s.leave

theorem comesTo_of_append {s : Reader} (hadds : Adds registry cluster r node start r')
    (ih : ∀ {cluster'}, Turns registry cluster r cluster' r' →
      Reading.body registry bound cluster' r' = .error e s → ComesTo registry e cluster' r' s)
    (h : (do Reading.body registry bound (← Reading.ofExcept (cluster.append node start)) :
        Reading OpenCluster) r' = .error e s) : ComesTo registry e cluster r s := by
  rcases EStateM.bind_eq_error_iff.mp h with hfails | ⟨next, _, hok, hrest⟩
  · obtain ⟨happend, rfl⟩ := Reading.ofExcept_eq_error_iff.mp hfails
    exact .here (.append hadds happend)
  · obtain ⟨happends, rfl⟩ := Reading.ofExcept_eq_ok_iff.mp hok
    have hturns := Turns.append hadds happends
    exact .behind hturns (ih hturns hrest)

/-- The loop fails nowhere but where a turn fails. -/
theorem comesTo_of_body : ∀ {bound : Nat} {cluster : OpenCluster} {r s : Reader},
    Reading.body registry bound cluster r = .error e s → r.depth ≤ maxNestingDepth →
    r.cursor.remaining ≤ bound → ComesTo registry e cluster r s := by
  -- a turn uses up some of the text, so the bound falls along the way
  intro bound
  induction bound with
  | zero =>
    intro cluster r s h _ hbound
    have hnil : r.cursor.after = [] := List.eq_nil_of_length_eq_zero (Nat.le_zero.mp hbound)
    rw [Reading.body_of_after_nil hnil] at h
    cases h
    exact .here (.unterminated (.refl _) hnil)
  | succ bound ih =>
    intro cluster r s h hdepth hbound
    have hturn {cluster' : OpenCluster} {r' : Reader} (turns : Turns registry cluster r cluster' r')
        (hrest : Reading.body registry bound cluster' r' = .error e s) :
        ComesTo registry e cluster' r' s := by
      obtain ⟨text, hne, hread, hsame⟩ := turns.reads hdepth
      obtain ⟨_, hsucc, hbound'⟩ := Reading.exists_bound_succ hread hne hbound
      cases hsucc
      exact ih hrest (hsame ▸ hdepth) hbound'
    cases hafter : r.cursor.after with
    | nil =>
      rw [Reading.body_of_after_nil hafter] at h
      cases h
      exact .here (.unterminated (.refl _) hafter)
    | cons x t =>
    obtain ⟨m, hm, hnext⟩ := Cursor.exists_step hafter
    obtain ⟨_, hsucc, hmbound⟩ := Reading.exists_bound_succ hm (by simp) hbound
    cases hsucc
    rcases turn_cases x with hblank | hclose | hopen | rfl | ⟨k, rfl⟩ | hfilter
    · rw [Reading.body_blank hm hblank] at h
      exact .behind (.blank hm hblank) (hturn (.blank hm hblank) h)
    · rw [Reading.body_close hm hclose] at h
      cases h
    · rw [Reading.body_open hm hopen] at h
      rcases EStateM.bind_eq_error_iff.mp h with hnested | ⟨child, r', hnested, hrest⟩
      · rcases Reading.nested_eq_error_iff.mp hnested with ⟨hfull, rfl, rfl⟩ |
          ⟨hroom, s', hbody, rfl⟩
        · exact .here (.nesting hm hopen hfull)
        · exact .inside hm hopen hroom (ih hbody (Nat.lt_of_le_of_ne hdepth hroom) hmbound)
      · have hcluster := (nested_body_eq_ok_iff (r := r.goto m) hdepth hmbound).mp hnested
        exact comesTo_of_append (.cluster hm hopen hcluster) hturn hrest
    · cases t with
      | nil =>
        rw [Reading.body_sharp hm] at h
        simp only [EStateM.bind_eq_error_iff, Reading.stepForward_eq_error_iff,
          Reading.stepForward_eq_ok_iff] at h
        rcases h with ⟨⟨-, rfl⟩, rfl⟩ | ⟨_, _, ⟨c, hc, rfl⟩, -⟩
        · exact .here (.unterminated hm hnext)
        · have hmore := hc.after
          rw [Reader.cursor_goto, hnext] at hmore
          cases hmore
      | cons y u =>
      obtain ⟨c, hc, -⟩ := Cursor.exists_step hnext
      rw [Reading.body_sharp_step hm hc] at h
      split at h
      · next hopen =>
        rcases EStateM.bind_eq_error_iff.mp h with hsum | ⟨sum, r', hsum, hrest⟩
        · exact .here (.calculator hm hc hopen hsum)
        · exact comesTo_of_append (.calculator hm hc hopen hsum) hturn hrest
      · next hother =>
        have hpair : Turns registry cluster r cluster (r.goto c) := .pair (hm.trans hc) hother
        exact .behind hpair (hturn hpair h)
    · rw [Reading.body_connector hm] at h
      rcases EStateM.bind_eq_error_iff.mp h with hattach | ⟨next, _, hok, hrest⟩
      · obtain ⟨hfails, rfl⟩ := Reading.ofExcept_eq_error_iff.mp hattach
        exact .here (.attach hm hfails)
      · obtain ⟨hattach, rfl⟩ := Reading.ofExcept_eq_ok_iff.mp hok
        exact .behind (.attach hm hattach) (hturn (.attach hm hattach) hrest)
    · rw [Reading.body_filter hm hfilter] at h
      rcases EStateM.bind_eq_error_iff.mp h with hread | ⟨reference, r', hread, hrest⟩
      · exact .here (.filter hm hfilter hread)
      · exact comesTo_of_append (.filter hm hfilter hread) hturn hrest

/-- A compilation that fails does so at the root, or the loop over the root comes to the
error. -/
theorem comesTo_of_compile {source : String}
    (h : (compile registry source).outcome = .error e) :
    ∃ x t, source.toList = x :: t ∧
      (Scan.root ⟨[], x, t⟩ = .error e ∧ (compile registry source).diagnostics = [] ∨
        ∃ c s, Scan.root ⟨[], x, t⟩ = .ok c ∧
          ComesTo registry e ⟨0, []⟩ (Reader.enter ⟨c, 0, 0, []⟩) s ∧
          (compile registry source).diagnostics = s.diagnostics) := by
  cases htext : source.toList with
  | nil =>
    rw [compile_of_nil htext] at h
    cases h
  | cons x t =>
  rw [compile_of_cons htext, compileFrom] at h ⊢
  refine ⟨x, t, rfl, ?_⟩
  cases hroot : Scan.root ⟨[], x, t⟩ with
  | error e' =>
    rw [hroot] at h
    cases h
    exact .inl ⟨rfl, rfl⟩
  | ok c =>
    rw [hroot] at h
    dsimp only at h ⊢
    cases hcluster : Reading.cluster registry ⟨c, 0, 0, []⟩ with
    | ok root r =>
      rw [hcluster] at h
      cases h
    | error e' r =>
      rw [hcluster] at h
      cases h
      rcases Reading.nested_eq_error_iff.mp hcluster with ⟨hdepth, -⟩ | ⟨-, s, hbody, rfl⟩
      · cases hdepth
      · refine .inr ⟨c, s, rfl, comesTo_of_body hbody ?_ (Nat.le_refl _), rfl⟩
        show 1 ≤ maxNestingDepth
        decide

/-! ## The way to a missing connector -/

/-- The error says that a node is not joined with the one before it. -/
def CompileError.MissesConnector (e : CompileError) : Prop :=
  ∃ offset, e = .query ⟨.missingConnector, offset⟩

theorem CompileError.IsOf.not_missesConnector (h : e.IsOf QueryErrorKind.inCalculator) :
    ¬ e.MissesConnector := by
  obtain ⟨error, rfl, hkind⟩ := h
  rintro ⟨offset, he⟩
  cases he
  cases hkind

theorem not_missesConnector_errorAt {c : Cursor} {kind : QueryErrorKind}
    (h : kind ≠ .missingConnector) : ¬ (Scan.errorAt c kind).MissesConnector := by
  rintro ⟨offset, he⟩
  cases he
  exact h rfl

/-- A turn that misses a connector could not append a node. -/
theorem TurnFails.exists_adds {s : Reader} (h : TurnFails registry cluster r e s)
    (he : e.MissesConnector) :
    ∃ node start r', Adds registry cluster r node start r' ∧
      cluster.append node start = .error e := by
  cases h with
  | append adds fails => exact ⟨_, _, _, adds, fails⟩
  | unterminated | nesting => exact absurd he (not_missesConnector_errorAt (by simp))
  | attach step fails =>
    rw [(OpenCluster.attach_eq_error_iff.mp fails).2] at he
    exact absurd he (not_missesConnector_errorAt (by simp))
  | @filter _ m _ _ step starts fails =>
    obtain rfl := step.current_eq_of_step
    have hfails := Reading.filter_fails (r := r.goto m) step fails
    exact absurd he hfails.isOf.inCalculator.not_missesConnector
  | calculator step next opens fails =>
    exact absurd he (Reading.calculator_fails fails).isOf.not_missesConnector

/-- The loop that misses a connector has come to a node that could not be appended. -/
theorem ComesTo.exists_adds {source : String} {s : Reader} (h : ComesTo registry e cluster r s)
    (visits : Visits registry source cluster r) (he : e.MissesConnector) :
    ∃ cluster' r' node start r'', Visits registry source cluster' r' ∧
      Adds registry cluster' r' node start r'' ∧ cluster'.append node start = .error e := by
  induction h with
  | here fails =>
    obtain ⟨node, start, r', adds, appends⟩ := fails.exists_adds he
    exact ⟨_, _, _, _, _, visits, adds, appends⟩
  | behind turns rest ih => exact ih (visits.turn turns)
  | inside step opens room rest ih => exact ih (visits.enter step opens room)

/-- A compilation that misses a connector has come to a node that could not be appended. -/
theorem exists_adds_of_compile {source : String}
    (h : (compile registry source).outcome = .error e) (he : e.MissesConnector) :
    ∃ cluster r node start r', Visits registry source cluster r ∧
      Adds registry cluster r node start r' ∧ cluster.append node start = .error e := by
  obtain ⟨x, t, htext, ⟨hroot, -⟩ | ⟨c, s, hroot, hcomes, -⟩⟩ := comesTo_of_compile h
  · have hends := Scan.root_ends ⟨[], x, t⟩
    rw [hroot] at hends
    cases hends <;> exact absurd he (not_missesConnector_errorAt (by simp))
  · exact hcomes.exists_adds (.root htext hroot) he

end

end FilterQuery
