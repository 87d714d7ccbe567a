import FilterQuery.Proofs.Turns

/-!
# Texts that go on differently

Two texts agree up to a place, and go on differently from there. As long as the loop over a
body has not come to the place it makes the same turns in both (`Turns.onto`): what it has
read, it has read in the part that they share. A turn looks ahead by one character at most,
so the one turn to be careful about ends exactly at the place. What it may have looked for
there is the end of a clause, and the turn is the same if nothing of this kind stands there.
-/

namespace FilterQuery

open Grammar

/-! ## Places ahead -/

namespace Cursor

/-- The cursor in the text that goes on with `w` behind it. -/
def onto (w : List Char) (c : Cursor) : Cursor :=
  { c with after := w }

variable {c d : Cursor} {s t mid : List Char} {k : Nat}

@[simp] theorem reach_onto (w : List Char) : (c.onto w).reach = c.reach := rfl

theorem Reads.onto (h : c.Reads s d) {u : List Char} (hmid : mid = s ++ u)
    (w : List Char) : (c.onto (mid ++ w)).Reads s (d.onto (u ++ w)) := by
  rw [hmid, List.append_assoc]
  exact ⟨h.passed, rfl⟩

/-- The place with byte `k` is ahead: `mid` stands between the cursor and the place, and `t`
behind it. -/
structure Before (c : Cursor) (mid t : List Char) (k : Nat) : Prop where
  after : c.after = mid ++ t
  place : k = c.reach + utf8Length mid

/-- From the place there is nothing left on the way to it. -/
theorem Before.eq_nil (h : c.Before mid t k) (hk : k ≤ c.reach) : mid = [] := by
  cases mid with
  | nil => rfl
  | cons x mid =>
    have hplace := h.place
    have hsize := x.utf8Size_pos
    rw [utf8Length_cons] at hplace
    omega

/-- A walk that begins before a place ends before it, or beyond it. -/
theorem Reads.before_or_beyond (h : c.Reads s d) (hc : c.Before mid t k) :
    (∃ rest, mid = s ++ rest ∧ d.Before rest t k) ∨ k < d.reach := by
  rcases List.append_eq_append_iff.mp (hc.after.symm.trans h.after) with
    ⟨w, hs, ht⟩ | ⟨rest, hmid, hafter⟩
  · cases w with
    | nil =>
      rw [List.append_nil] at hs
      subst hs
      exact .inl ⟨[], by simp, ht.symm, by simp [h.reach_eq, hc.place]⟩
    | cons x w =>
      refine .inr ?_
      have hsize := x.utf8Size_pos
      rw [h.reach_eq, hs, utf8Length_append, utf8Length_cons, hc.place]
      omega
  · refine .inl ⟨rest, hmid, hafter, ?_⟩
    rw [hc.place, h.reach_eq, hmid, utf8Length_append, Nat.add_assoc]

theorem Reads.before_nil (h : c.Reads s d) (hc : c.Before mid t k) (hd : d.after = t) :
    d.Before [] t k := by
  have hafter := hc.after.symm.trans h.after
  rw [hd] at hafter
  obtain rfl := List.append_cancel_right hafter
  exact ⟨hd, by rw [hc.place, h.reach_eq]; rfl⟩

/-- The first character of a walk that begins at the place is beyond it. -/
theorem Reads.beyond (h : c.Reads s d) (hs : s ≠ []) (hc : c.reach = k) : k < d.reach := by
  obtain ⟨x, u, rfl⟩ := List.exists_cons_of_ne_nil hs
  have hsize := x.utf8Size_pos
  rw [h.reach_eq, utf8Length_cons, hc]
  omega

/-- What stands before a place that a cursor has not passed begins with what it has passed. -/
theorem exists_before {start : List Char} (h : c.source = start ++ t)
    (hk : utf8Length start = k) (hreach : c.reach ≤ k) :
    ∃ mid, start = c.passed.reverse ++ mid ∧ c.Before mid t k := by
  have hsource : c.source = c.passed.reverse ++ c.after := by simp [source, passed]
  have hpassed : utf8Length c.passed.reverse = c.reach := utf8Length_reverse _
  rcases List.append_eq_append_iff.mp (hsource.symm.trans h) with ⟨mid, rfl, hafter⟩ | ⟨u, hu, ht⟩
  · refine ⟨mid, rfl, hafter, ?_⟩
    rw [← hk, utf8Length_append, hpassed]
  · cases u with
    | nil =>
      rw [List.append_nil] at hu
      exact ⟨[], by simp [hu], ht.symm, by rw [← hk, ← hu, hpassed]; rfl⟩
    | cons x u =>
      have hsize := x.utf8Size_pos
      rw [hu, utf8Length_append, utf8Length_cons] at hpassed
      omega

end Cursor

/-- The root of a text is that of every text that goes on behind it differently. -/
theorem Scan.root_onto {x : Char} {t : List Char} {c : Cursor} (h : root ⟨[], x, t⟩ = .ok c) :
    ∃ text, c.passed.reverse = x :: text ∧ c.source = x :: t ∧
      ∀ w, root ⟨[], x, text ++ w⟩ = .ok (c.onto w) := by
  obtain ⟨text, lead, opening, hread, htext, hlead⟩ := reads_of_root h
  exact ⟨text, hread.passed_reverse, hread.source_eq, fun w =>
    root_of_reads hlead ⟨hread.passed, rfl⟩ htext⟩

/-- The reader in the text that goes on with `w` behind its cursor. -/
def Reader.onto (w : List Char) (r : Reader) : Reader :=
  { r with cursor := r.cursor.onto w }

/-! ## The same turns -/

section

variable {registry : Registry} {cluster cluster' : OpenCluster} {r r' : Reader} {node : Node}
  {start : Cursor} {mid t : List Char} {k : Nat} {y : Char} {u : List Char}

/-- What a clause has looked for stands before the place. -/
theorem Cursor.Before.exists_eq_cons {d : Cursor} {rest : List Char} (hd : d.Before rest t k)
    (hnext : d.after = y :: u) (hy : endsSearch y)
    (hplace : d.after = t → ∀ a v, t = a :: v → endsSearch a = false) :
    ∃ v, rest = y :: v := by
  cases rest with
  | nil =>
    have hat : d.after = t := hd.after
    have := hplace hat y u (hat.symm.trans hnext)
    rw [hy] at this
    cases this
  | cons b v =>
    obtain ⟨rfl, -⟩ := List.cons.inj (hnext.symm.trans hd.after)
    exact ⟨v, rfl⟩

theorem Adds.onto (h : Adds registry cluster r node start r') (hr : r.cursor.Before mid t k)
    (hdepth : r.depth ≤ maxNestingDepth)
    (hplace : r'.cursor.after = t → ∀ a v, t = a :: v → endsSearch a = false) (w : List Char) :
    (∃ rest start', r'.cursor.Before rest t k ∧
      Adds registry cluster (r.onto (mid ++ w)) node start' (r'.onto (rest ++ w))) ∨
      k < r'.cursor.reach := by
  cases h with
  | @filter x m reference r' step starts reads =>
    obtain rfl := step.current_eq_of_step
    obtain ⟨name, kind, clause, d, y, u, hread, hnext, hy, hlookup, hblanks, rfl, rfl⟩ :=
      Reading.reads_of_filter (r := r.goto start) step (startsFilter_ne_whitespace starts) reads
    rcases hread.before_or_beyond hr with ⟨rest, hmid, hd⟩ | hbeyond
    · obtain ⟨v, rfl⟩ := hd.exists_eq_cons hnext hy hplace
      obtain ⟨x, text, htext, hx⟩ := Reading.exists_startsFilter hblanks
      have hread' := hread.onto hmid w
      obtain ⟨m, hm, -⟩ := Cursor.exists_step (hread'.after.trans (congrArg (· ++ _) htext))
      obtain rfl := hm.current_eq_of_step
      have hfilter := Reading.filter_of_reads (r := (r.onto (mid ++ w)).goto m) hm hread' rfl hy
        hlookup
      exact .inl ⟨_, m, hd, .filter hm hx hfilter⟩
    · exact .inr hbeyond
  | @calculator x m c sum r' step next opens reads =>
    obtain ⟨sum, clause, d, y, u, hread, hnext, hy, hvalid, rfl, rfl⟩ :=
      Reading.reads_of_calculator reads
    rcases ((step.trans next).trans hread).before_or_beyond hr with ⟨rest, hmid, hd⟩ | hbeyond
    · obtain ⟨v, rfl⟩ := hd.exists_eq_cons hnext hy hplace
      have hstep := step.onto (u := x :: (sum.text ++ clause.text ++ y :: v))
        (hmid.trans (by simp)) w
      have hopen := next.onto (u := sum.text ++ clause.text ++ y :: v) rfl w
      have hread' := hread.onto (u := y :: v) rfl w
      have hcalculator := Reading.calculator_of_reads
        (r := (r.onto (mid ++ w)).goto (c.onto (sum.text ++ clause.text ++ y :: v ++ w)))
        cluster.id (start.onto (x :: (sum.text ++ clause.text ++ y :: v) ++ w)) hread' rfl hy hvalid
      exact .inl ⟨_, _, hd, .calculator hstep hopen opens hcalculator⟩
    · exact .inr hbeyond
  | @cluster x m child r' step opens reads =>
    obtain ⟨hroom, s, hbody, rfl⟩ := Reading.nested_eq_ok_iff.mp reads
    have hdeeper : (r.goto start).enter.depth ≤ maxNestingDepth :=
      Nat.lt_of_le_of_ne hdepth hroom
    obtain ⟨inner, closing, d, hcovers, rfl, rfl⟩ :=
      Reading.coversBodies_body _ hbody hdeeper
    rcases (step.trans hcovers.reads).before_or_beyond hr with ⟨rest, hmid, hd⟩ | hbeyond
    · have hstep := step.onto (hmid.trans (List.append_assoc [x] _ rest)) w
      have hcovers' : Covers registry ⟨r.nextId, []⟩ ((r.onto (mid ++ w)).goto
          (start.onto (inner.text ++ [closing.val] ++ rest ++ w))).enter inner closing
          (d.onto (rest ++ w)) := ⟨hcovers.reads.onto rfl w, hcovers.valid, hcovers.depth⟩
      have hcluster : Reading.cluster registry ((r.onto (mid ++ w)).goto
          (start.onto (inner.text ++ [closing.val] ++ rest ++ w))) = _ :=
        Reading.nested_eq_ok_iff.mpr
          ⟨hroom, _, Reading.readsBody inner hcovers' (Nat.le_refl _), rfl⟩
      exact .inl ⟨_, _, hd, .cluster hstep opens hcluster⟩
    · exact .inr hbeyond

/-- A turn that ends before the place is made in the other text, too, if a search that looked
on would not have ended there. -/
theorem Turns.onto (h : Turns registry cluster r cluster' r') (hr : r.cursor.Before mid t k)
    (hdepth : r.depth ≤ maxNestingDepth)
    (hplace : r'.cursor.after = t → ∀ a v, t = a :: v → endsSearch a = false) (w : List Char) :
    (∃ rest, r'.cursor.Before rest t k ∧
      Turns registry cluster (r.onto (mid ++ w)) cluster' (r'.onto (rest ++ w))) ∨
      k < r'.cursor.reach := by
  cases h with
  | blank step blank =>
    exact (step.before_or_beyond hr).imp_left fun ⟨rest, hmid, hm⟩ =>
      ⟨rest, hm, .blank (step.onto hmid w) blank⟩
  | pair step other =>
    exact (step.before_or_beyond hr).imp_left fun ⟨rest, hmid, hc⟩ =>
      ⟨rest, hc, .pair (step.onto hmid w) other⟩
  | attach step attaches =>
    obtain ⟨hjoint, rfl⟩ := OpenCluster.attach_eq_ok_iff.mp attaches
    exact (step.before_or_beyond hr).imp_left fun ⟨rest, hmid, hm⟩ =>
      ⟨rest, hm, .attach (step.onto hmid w) (OpenCluster.attach_eq_ok_iff.mpr ⟨hjoint, rfl⟩)⟩
  | append adds appends =>
    obtain ⟨hjoint, rfl⟩ := OpenCluster.append_eq_ok_iff.mp appends
    exact (adds.onto hr hdepth hplace w).imp_left fun ⟨rest, start', hr', hadds⟩ =>
      ⟨rest, hr', .append hadds (OpenCluster.append_eq_ok_iff.mpr ⟨hjoint, rfl⟩)⟩

end

end FilterQuery
