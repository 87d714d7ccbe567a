import FilterQuery.Filter.Set
import FilterQuery.Proofs.Turns

/-!
# Nodes without a connector

A node is put into its cluster before the connector behind it is read, but a filter and a
calculator have looked ahead: they come with the connector that follows, or else the
bracket that closes the cluster is next. So nothing can be appended to them without a
connector. A cluster has not looked ahead. It is the one node that can be left without a
connector while more of the body comes, and then all that has come so far are blanks and
pairs of `#` with another character.

`Unjoined` says this of the newest node, as an invariant of the loop
(`sound_of_visits`). That a connector is missed behind a cluster and nowhere else, and
behind a cluster always, are the two directions of `missing_connector_behind_cluster`.
-/

namespace FilterQuery

open Grammar

/-- Blanks and pairs of `#` and a character that opens nothing: text that adds no node and
joins none. -/
inductive Idle : List Char → Prop where
  | nil : Idle []
  | blank {c : Char} {t : List Char} (blank : classify c = .whitespace) (rest : Idle t) :
      Idle (c :: t)
  | pair {c : Char} {t : List Char} (other : classify c ≠ .openBracket) (rest : Idle t) :
      Idle ('#' :: c :: t)

theorem Idle.append {s t : List Char} (hs : Idle s) (ht : Idle t) : Idle (s ++ t) := by
  induction hs with
  | nil => exact ht
  | blank hc rest ih => exact .blank hc ih
  | pair hc rest ih => exact .pair hc ih

/-- The text ends with that of a cluster with the number `id` and these nodes, and `between`
behind the bracket that closes it. -/
def EndsWithCluster (registry : Registry) (text : List Char) (id : Nat) (children : List Node)
    (between : List Char) : Prop :=
  ∃ (before : List Char) (opening : Opening) (inner : Body) (closing : Closing),
    text = before ++ opening.val :: inner.text ++ closing.val :: between ∧
      inner.Valid registry .first ∧ children = inner.nodes id (id + 1)

/-- What is known at the cursor if the newest node of a cluster has no connector: a filter or
a calculator is the last node of all, and behind a cluster there is idle text. -/
def Unjoined (registry : Registry) (c : Cursor) : Node → Prop
  | .cluster id _ children _ =>
    ∃ between, EndsWithCluster registry c.passed.reverse id children between ∧ Idle between
  | _ => ∃ x t, c.after = x :: t ∧ classify x = .closeBracket

theorem OpenCluster.joint_eq_loose_iff {cluster : OpenCluster} :
    cluster.joint = .loose ↔
      ∃ last earlier, cluster.newest = last :: earlier ∧ last.connector = none := by
  obtain ⟨_, newest⟩ := cluster
  cases newest with
  | nil => simp [joint]
  | cons last earlier => simp [joint]

section

variable {registry : Registry} {cluster cluster' : OpenCluster} {r r' : Reader} {node last : Node}
  {start c d : Cursor} {s : List Char}

/-! ## The invariant -/

/-- Idle text is read behind a cluster only. -/
theorem Unjoined.of_idle (h : Unjoined registry c last) (hread : c.Reads s d) (hs : Idle s) :
    Unjoined registry d last := by
  have hclosed (hnext : ∃ x t, c.after = x :: t ∧ classify x = .closeBracket) :
      ∃ x t, d.after = x :: t ∧ classify x = .closeBracket := by
    obtain ⟨x, t, hafter, hclose⟩ := hnext
    rw [hread.after] at hafter
    cases hs with
    | nil => exact ⟨x, t, hafter, hclose⟩
    | blank hblank =>
      obtain ⟨rfl, -⟩ := List.cons.inj hafter
      rw [hblank] at hclose
      cases hclose
    | pair =>
      obtain ⟨rfl, -⟩ := List.cons.inj hafter
      cases hclose
  cases last with
  | filter => exact hclosed h
  | calculator => exact hclosed h
  | cluster id parent children k =>
    obtain ⟨between, ⟨before, opening, inner, closing, htext, hvalid, hchildren⟩, hidle⟩ := h
    refine ⟨between ++ s, ⟨before, opening, inner, closing, ?_, hvalid, hchildren⟩,
      hidle.append hs⟩
    rw [hread.passed_reverse, htext]
    simp

theorem connector?_eq_none {x : Char} (hends : endsSearch x) (h : connector? x = none) :
    classify x = .closeBracket := by
  simpa [endsSearch, h] using hends

/-- A node that has just been read has looked ahead, or is a cluster. -/
theorem unjoined_of_adds (h : Adds registry cluster r node start r')
    (hdepth : r.depth ≤ maxNestingDepth) (hnone : node.connector = none) :
    Unjoined registry r'.cursor node := by
  cases h with
  | filter step starts reads =>
    obtain rfl := step.current_eq_of_step
    obtain ⟨name, kind, clause, d, x, t, -, hafter, hends, -, -, rfl, rfl⟩ :=
      Reading.reads_of_filter (r := r.goto start) step (startsFilter_ne_whitespace starts) reads
    exact ⟨x, t, hafter, connector?_eq_none hends hnone⟩
  | calculator step next opens reads =>
    obtain ⟨sum, clause, d, x, t, -, hafter, hends, -, rfl, rfl⟩ :=
      Reading.reads_of_calculator reads
    exact ⟨x, t, hafter, connector?_eq_none hends hnone⟩
  | cluster step opens reads =>
    obtain ⟨inner, closing, hvalid, hread, rfl, -⟩ :=
      covered_of_cluster_eq_ok (r := r.goto start) hdepth reads
    have hpassed := (step.trans hread).passed_reverse
    refine ⟨[], ⟨r.cursor.passed.reverse, ⟨_, opens⟩, inner, closing, ?_, hvalid, ?_⟩, .nil⟩
    · rw [hpassed]
      simp
    · simp [OpenCluster.nodes]

/-- The newest node of the cluster has a connector, or is `Unjoined`. -/
def OpenCluster.Sound (registry : Registry) (cluster : OpenCluster) (c : Cursor) : Prop :=
  ∀ last ∈ cluster.newest.head?, last.connector = none → Unjoined registry c last

theorem sound_of_turns (h : Turns registry cluster r cluster' r')
    (hdepth : r.depth ≤ maxNestingDepth) (hsound : cluster.Sound registry r.cursor) :
    cluster'.Sound registry r'.cursor := by
  cases h with
  | blank step blank =>
    exact fun last hlast hnone => (hsound last hlast hnone).of_idle step (.blank blank .nil)
  | pair step other =>
    exact fun last hlast hnone => (hsound last hlast hnone).of_idle step (.pair other .nil)
  | attach step attaches =>
    obtain ⟨hjoint, rfl⟩ := OpenCluster.attach_eq_ok_iff.mp attaches
    intro last hlast hnone
    obtain ⟨id, newest⟩ := cluster
    cases newest with
    | nil => exact absurd rfl hjoint
    | cons node earlier =>
      obtain rfl := Option.some.inj hlast
      simp at hnone
  | append adds appends =>
    obtain ⟨-, rfl⟩ := OpenCluster.append_eq_ok_iff.mp appends
    intro last hlast hnone
    obtain rfl := Option.some.inj hlast
    exact unjoined_of_adds adds hdepth hnone

theorem sound_of_visits {source : String} (h : Visits registry source cluster r) :
    cluster.Sound registry r.cursor := by
  induction h with
  | root | enter => exact fun last hlast => nomatch hlast
  | turn visits turns ih => exact sound_of_turns turns visits.source_eq.2 ih

/-! ## The two directions -/

theorem Visits.idle {source : String} (hs : Idle s) :
    ∀ {r : Reader}, Visits registry source cluster r → r.cursor.Reads s d →
      Visits registry source cluster (r.goto d) := by
  induction hs with
  | nil =>
    intro r h hread
    obtain rfl := Cursor.reads_nil.mp hread
    exact h
  | blank hblank rest ih =>
    intro r h hread
    obtain ⟨m, hm, hrest⟩ := Cursor.reads_cons.mp hread
    exact ih (r := r.goto m) (h.turn (.blank hm hblank)) hrest
  | @pair x t hother rest ih =>
    intro r h hread
    obtain ⟨m, hm, hrest⟩ :=
      Cursor.reads_append.mp (show r.cursor.Reads (['#', x] ++ t) d from hread)
    exact ih (r := r.goto m) (h.turn (.pair hm hother)) hrest

/-- A node that is about to be appended does not find the end of the cluster next, so the
node without a connector in front of it is a cluster. -/
theorem exists_cluster_of_adds {source : String} {earlier : List Node}
    (hvisits : Visits registry source cluster r) (hadds : Adds registry cluster r node start r')
    (hnewest : cluster.newest = last :: earlier) (hnone : last.connector = none) :
    ∃ id parent children between, last = .cluster id parent children none ∧
      EndsWithCluster registry r.cursor.passed.reverse id children between ∧ Idle between := by
  have hunjoined := sound_of_visits hvisits last (by simp [hnewest]) hnone
  have hopen : ¬ ∃ x t, r.cursor.after = x :: t ∧ classify x = .closeBracket := by
    rintro ⟨x, t, hafter, hclose⟩
    obtain ⟨y, hy, hother⟩ := hadds.start_reads
    obtain ⟨rfl, -⟩ := List.cons.inj (hy.after.symm.trans hafter)
    exact hother hclose
  cases last with
  | filter => exact absurd hunjoined hopen
  | calculator => exact absurd hunjoined hopen
  | cluster id parent children k =>
    obtain rfl : k = none := hnone
    obtain ⟨between, hends, hidle⟩ := hunjoined
    exact ⟨id, parent, children, between, rfl, hends, hidle⟩

end

/-- A connector is missed behind a cluster only. Whenever a node is about to be appended
behind a filter or a calculator, that one is joined; so where a compilation misses a
connector, the text in front of the place ends with a cluster and idle text, and the
cluster is the newest node. And whenever a cluster is the newest node and has no connector,
the next node of the same body, if there is only idle text in between and it can be read,
ends the compilation: a connector is missing in front of its first character. -/
theorem missing_connector_behind_cluster (registry : Registry) (source : String) :
    (∀ cluster r node start r' last earlier, Visits registry source cluster r →
      Adds registry cluster r node start r' → cluster.newest = last :: earlier →
      (∃ reference, last = .filter reference) ∨ (∃ sum, last = .calculator sum) →
      ∃ k, last.connector = some k) ∧
    (∀ offset, (compile registry source).outcome = .error (.query ⟨.missingConnector, offset⟩) →
      ∃ cluster r id parent children earlier text between rest,
        Visits registry source cluster r ∧ r.cursor.passed.reverse = text ∧
        cluster.newest = .cluster id parent children none :: earlier ∧
        source.toList = text ++ rest ∧ offset = utf8Length text ∧
        EndsWithCluster registry text id children between ∧ Idle between) ∧
    (∀ cluster r id parent children earlier between d node start r',
      Visits registry source cluster r →
      cluster.newest = .cluster id parent children none :: earlier →
      r.cursor.Reads between d → Idle between → Adds registry cluster (r.goto d) node start r' →
      (∃ x, d.Reads [x] start) ∧
        (compile registry source).outcome = .error (.query ⟨.missingConnector, start.offset⟩)) := by
  refine ⟨?_, ?_, ?_⟩
  · intro cluster r node start r' last earlier hvisits hadds hnewest hleaf
    cases hconnector : last.connector with
    | some k => exact ⟨k, rfl⟩
    | none =>
      obtain ⟨id, parent, children, -, rfl, -⟩ :=
        exists_cluster_of_adds hvisits hadds hnewest hconnector
      rcases hleaf with ⟨reference, hleaf⟩ | ⟨sum, hleaf⟩ <;> cases hleaf
  · intro offset h
    obtain ⟨cluster, r, node, start, r', hvisits, hadds, happend⟩ :=
      exists_adds_of_compile h ⟨offset, rfl⟩
    obtain ⟨hloose, herror⟩ := OpenCluster.append_eq_error_iff.mp happend
    obtain ⟨last, earlier, hnewest, hnone⟩ := OpenCluster.joint_eq_loose_iff.mp hloose
    obtain ⟨id, parent, children, between, rfl, hends, hidle⟩ :=
      exists_cluster_of_adds hvisits hadds hnewest hnone
    obtain ⟨x, hstart, -⟩ := hadds.start_reads
    have hoffset : offset = start.offset := by
      cases herror
      rfl
    refine ⟨cluster, r, id, parent, children, earlier, _, between, r.cursor.after, hvisits, rfl,
      hnewest, ?_, ?_, hends, hidle⟩
    · rw [← hvisits.source_eq.1, (Cursor.Reads.refl r.cursor).source_eq_append]
      simp
    · rw [hoffset, Cursor.Reads.offset_eq (t := []) hstart, utf8Length_reverse]
      rfl
  · intro cluster r id parent children earlier between d node start r' hvisits hnewest hread
      hidle hadds
    have hloose : cluster.joint = .loose :=
      OpenCluster.joint_eq_loose_iff.mpr ⟨_, earlier, hnewest, rfl⟩
    have happend : cluster.append node start = .error (Scan.errorAt start .missingConnector) :=
      OpenCluster.append_eq_error_iff.mpr ⟨hloose, rfl⟩
    have hvisits' := hvisits.idle hidle hread
    obtain ⟨x, hstart, -⟩ := hadds.start_reads
    exact ⟨⟨x, hstart⟩,
      hvisits'.compile_eq_error (Reading.dooms_of_append hadds hvisits'.source_eq.2 happend)⟩

/-- The reader in the root of a text, at its character `k`, with `n` for the next cluster. -/
def Reader.inRoot (text : List Char) (k n : Nat) : Reader :=
  ⟨⟨(text.take k).reverse, text[k]!, text.drop (k + 1)⟩, n, 1, []⟩

/-- A filter that is joined with a cluster, and a filter behind that cluster and a pair. -/
theorem missing_connector_behind_cluster_and_pair :
    let registry : Registry := ⟨fun _ => some .text, []⟩
    let source := "\x7ba:\"\"&(b:\"\")#x c:\"\"\x7d"
    (∃ cluster r node start r' reference, Visits registry source cluster r ∧
      Adds registry cluster r node start r' ∧ cluster.newest = [.filter reference] ∧
      ∃ k, reference.connector = some k) ∧
    (compile registry source).outcome = .error (.query ⟨.missingConnector, 15⟩) ∧
    ∃ text id children between rest, source.toList = text ++ rest ∧ 15 = utf8Length text ∧
      EndsWithCluster registry text id children between ∧ Idle between := by
  intro registry source
  let text : List Char :=
    ['\x7b', 'a', ':', '"', '"', '&', '(', 'b', ':', '"', '"', ')', '#', 'x', ' ', 'c', ':', '"',
      '"', '\x7d']
  have htext : source.toList = text := by cbv
  let first : Node := .filter ⟨"a", .text, .includes, "", some .and⟩
  let child : Node := .cluster 1 0 [.filter ⟨"b", .text, .includes, "", none⟩] none
  let last : Node := .filter ⟨"c", .text, .includes, "", none⟩
  have hstart : Visits registry source ⟨0, []⟩ (.inRoot text 0 1) :=
    .root (x := '\x7b') (t := text.tail) (c := (Reader.inRoot text 0 1).cursor) htext (by cbv)
  have hfirst : Adds registry ⟨0, []⟩ (.inRoot text 0 1) first (Reader.inRoot text 1 1).cursor
      (.inRoot text 4 1) :=
    .filter (x := 'a') ⟨by cbv, by cbv⟩ (by decide) (by cbv)
  have hjoined : Visits registry source ⟨0, [first]⟩
      ((Reader.inRoot text 4 1).goto (Reader.inRoot text 5 1).cursor) :=
    (hstart.turn (.append hfirst rfl)).turn (.attach (k := .and) ⟨by cbv, by cbv⟩ rfl)
  have hchild : Reading.cluster registry (((Reader.inRoot text 4 1).goto
      (Reader.inRoot text 5 1).cursor).goto (Reader.inRoot text 6 1).cursor) =
        .ok ⟨1, [.filter ⟨"b", .text, .includes, "", none⟩]⟩ (.inRoot text 11 2) := by cbv
  have hcluster : Adds registry ⟨0, [first]⟩
      ((Reader.inRoot text 4 1).goto (Reader.inRoot text 5 1).cursor) child
      (Reader.inRoot text 6 1).cursor (.inRoot text 11 2) :=
    .cluster (x := '(') ⟨by cbv, by cbv⟩ rfl hchild
  have hclosed : Visits registry source ⟨0, [child, first]⟩ (.inRoot text 11 2) :=
    hjoined.turn (.append hcluster rfl)
  have hidle : Idle ['#', 'x', ' '] := .pair (by decide) (.blank rfl .nil)
  have hlast : Adds registry ⟨0, [child, first]⟩
      ((Reader.inRoot text 11 2).goto (Reader.inRoot text 14 2).cursor) last
      (Reader.inRoot text 15 2).cursor (.inRoot text 18 2) :=
    .filter (x := 'c') ⟨by cbv, by cbv⟩ (by decide) (by cbv)
  obtain ⟨hleaf, hmissing, hbehind⟩ := missing_connector_behind_cluster registry source
  obtain ⟨-, houtcome⟩ := hbehind _ _ _ _ _ _ _ (Reader.inRoot text 14 2).cursor _ _ _ hclosed
    rfl ⟨by cbv, by cbv⟩ hidle hlast
  rw [show (Reader.inRoot text 15 2).cursor.offset = 15 by cbv] at houtcome
  refine ⟨⟨_, _, _, _, _, _, hjoined, hcluster, rfl, ?_⟩, houtcome, ?_⟩
  · exact hleaf _ _ _ _ _ first [] hjoined hcluster rfl (.inl ⟨_, rfl⟩)
  · obtain ⟨-, -, id, -, children, -, text, between, rest, -, -, -, hsplit, hoffset, hends,
      hidle⟩ := hmissing 15 houtcome
    exact ⟨text, id, children, between, rest, hsplit, hoffset, hends, hidle⟩

end FilterQuery
