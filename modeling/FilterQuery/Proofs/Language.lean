import FilterQuery.Proofs.BodyText

/-!
# The compiler accepts the language of queries

`Grammar.Derives` says which texts are queries, what they stand for and what they
are reported for; `compile` finds it out. The two agree (`compile_eq_ok_iff`):
nothing else is accepted, nothing of the language is refused, and query and
diagnostics are those of the tree. Since `compile` is a function, a text has at
most one query, although several trees may lead to it.

What is left to do is the way to the bracket that opens the root. It is the only
scan that looks at the character under the cursor before it steps, so the text
it reads is that character and the ones behind it.
-/

namespace FilterQuery

open Grammar

variable {registry : Registry} {source : String} {q : Query} {ds : List Diagnostic}

/-! ## The way to the root -/

namespace Scan

variable {c d : Cursor}

/-- How the way to the root ends: there are only blanks, or behind them there is a
character that opens nothing, or the bracket of the root. -/
inductive RootEnds (c : Cursor) : Except CompileError Cursor → Prop where
  | cut {text : List Char} {d : Cursor} (reads : c.Reads text d)
      (blank : Blanks (c.current :: text)) (nothing : d.after = []) :
      RootEnds c (.error (errorAt d (.missingRootObject none)))
  | other {text lead : List Char} {d : Cursor} (reads : c.Reads text d)
      (split : c.current :: text = lead ++ [d.current]) (blank : Blanks lead)
      (counts : d.currentClass ≠ .whitespace) (closed : d.currentClass ≠ .openBracket) :
      RootEnds c (.error (errorAt d (.missingRootObject (some d.current))))
  | found {text lead : List Char} {d : Cursor} (reads : c.Reads text d)
      (split : c.current :: text = lead ++ [d.current]) (blank : Blanks lead)
      (opens : d.currentClass = .openBracket) : RootEnds c (.ok d)

theorem RootEnds.of_blank {result : Except CompileError Cursor} (h : c.Reads [d.current] d)
    (hblank : c.currentClass = .whitespace) (hd : RootEnds d result) : RootEnds c result := by
  cases hd with
  | cut hread hlead hnil => exact .cut (h.trans hread) (blanks_cons.mpr ⟨hblank, hlead⟩) hnil
  | @other text lead e hread hsplit hlead hcounts hclosed =>
    have hsplit' : c.current :: d.current :: text = (c.current :: lead) ++ [e.current] :=
      congrArg (c.current :: ·) hsplit
    exact .other (h.trans hread) hsplit' (blanks_cons.mpr ⟨hblank, hlead⟩) hcounts hclosed
  | @found text lead e hread hsplit hlead hopen =>
    have hsplit' : c.current :: d.current :: text = (c.current :: lead) ++ [e.current] :=
      congrArg (c.current :: ·) hsplit
    exact .found (h.trans hread) hsplit' (blanks_cons.mpr ⟨hblank, hlead⟩) hopen

theorem root_ends (c : Cursor) : RootEnds c (root c) := by
  fun_induction root c with
  | case1 c hblank e step =>
    obtain ⟨hnil, rfl⟩ := stepForward_eq_error_iff.mp step
    exact .cut (.refl c) (blanks_cons.mpr ⟨hblank, blanks_nil⟩) hnil
  | case2 c hblank m step ih => exact ih.of_blank (stepForward_eq_ok_iff.mp step) hblank
  | case3 c hopen =>
    exact .found (.refl c) (List.nil_append [c.current]).symm blanks_nil hopen
  | case4 c hcounts hclosed =>
    exact .other (.refl c) (List.nil_append [c.current]).symm blanks_nil hcounts hclosed

theorem reads_of_root (h : root c = .ok d) :
    ∃ (text lead : List Char) (opening : Opening), c.Reads text d ∧
      c.current :: text = lead ++ [opening.val] ∧ Blanks lead := by
  have hends := root_ends c
  rw [h] at hends
  cases hends with
  | found hread hsplit hlead hopen => exact ⟨_, _, ⟨d.current, hopen⟩, hread, hsplit, hlead⟩

theorem root_of_reads {lead : List Char} {opening : Opening} (hlead : Blanks lead) :
    ∀ {text : List Char} {c : Cursor}, c.Reads text d →
      c.current :: text = lead ++ [opening.val] → root c = .ok d := by
  induction lead with
  | nil =>
    intro text c hread htext
    obtain ⟨hcurrent, rfl⟩ := List.cons.inj htext
    obtain rfl := Cursor.reads_nil.mp hread
    rw [root, Cursor.currentClass, hcurrent, opening.property]
  | cons a lead ih =>
    intro text c hread htext
    obtain ⟨hcurrent, htail⟩ := List.cons.inj htext
    obtain ⟨b, text, rfl⟩ := List.exists_cons_of_ne_nil
      (show text ≠ [] by rw [htail]; simp)
    obtain ⟨m, hm, hrest⟩ := Cursor.reads_cons.mp hread
    obtain ⟨step, rfl⟩ := stepForward_of_reads hm (.missingRootObject none)
    have hblank : classify c.current = .whitespace := hlead _ (by simp [hcurrent])
    rw [root, Cursor.currentClass, hblank]
    simp only
    rw [step]
    exact ih (fun x hx => hlead x (by simp [hx])) hrest htail

end Scan

/-! ## The two directions -/

/-- The bytes up to a cursor that has come from the first character. -/
theorem Cursor.Reads.reach_of_first {x : Char} {t text : List Char} {d : Cursor}
    (h : Reads ⟨[], x, t⟩ text d) : d.reach = utf8Length (x :: text) := by
  rw [h.reach_eq]
  simp [reach, Cursor.passed]

/-- What is left unread behind the bracket that closes the root, if it is closed. -/
def unread? (registry : Registry) (source : String) : Option (List Char) :=
  match Cursor.ofString? source with
  | none => none
  | some c =>
    match Scan.root c with
    | .error _ => none
    | .ok d =>
      match Reading.cluster registry ⟨d, 0, 0, []⟩ with
      | .ok _ r => some r.cursor.after
      | .error _ _ => none

theorem exists_root_of_compile (h : compile registry source = ⟨.ok (some q), ds⟩) :
    ∃ root : Root, root.Valid registry ∧ root.text = source.toList ∧ root.query = q ∧
      root.diagnostics = ds ∧ unread? registry source = some root.ignored := by
  cases hsource : source.toList with
  | nil =>
    rw [compile_of_nil hsource] at h
    cases h
  | cons x t =>
  rw [compile_of_cons hsource, compileFrom] at h
  split at h
  · cases h
  next d hroot =>
  split at h
  · next root r hcluster =>
    cases h
    obtain ⟨text, lead, opening, hread, htext, hlead⟩ := Scan.reads_of_root hroot
    obtain ⟨-, s, hbody, rfl⟩ := Reading.nested_eq_ok_iff.mp hcluster
    obtain ⟨b, closing, e, hcovers, rfl, rfl⟩ :=
      Reading.coversBodies_body d.remaining hbody (show 1 ≤ maxNestingDepth by decide)
    have hafter : d.after = b.text ++ [closing.val] ++ e.after := hcovers.reads.after
    have hdepth : 1 + b.depth ≤ 128 := hcovers.depth
    refine ⟨⟨lead, opening, b, closing, e.after, hlead⟩, ⟨hcovers.valid, ?_⟩, ?_, ?_, ?_, ?_⟩
    · rw [Nat.add_comm]
      exact hdepth
    · have ht : t = text ++ d.after := hread.after
      rw [ht, ← List.cons_append, htext, hafter]
      simp [Root.text]
    · rw [OpenCluster.nodes_extend_nil]
      rfl
    · have hreach : d.reach = utf8Length (lead ++ [opening.val]) := by
        rw [hread.reach_of_first, htext]
      rw [Root.diagnostics, ← hreach]
      rfl
    · simp only [unread?, Cursor.ofString?, hsource, Cursor.ofChars?, hroot, hcluster]
      rfl
  · cases h

theorem derives_of_compile (h : compile registry source = ⟨.ok (some q), ds⟩) :
    Derives registry source.toList q ds := by
  obtain ⟨root, hvalid, htext, hquery, hdiagnostics, -⟩ := exists_root_of_compile h
  exact ⟨root, hvalid, htext, hquery, hdiagnostics⟩

/-- A text that begins with a bracket is compiled from that bracket on. -/
theorem exists_compile_eq (registry : Registry) {lead t : List Char} {opening : Opening}
    (hlead : Blanks lead) (hsource : source.toList = lead ++ opening.val :: t) :
    ∃ d : Cursor, d.after = t ∧ d.reach = utf8Length (lead ++ [opening.val]) ∧
      (∀ root r, Reading.cluster registry ⟨d, 0, 0, []⟩ = .ok root r →
        compile registry source = ⟨.ok (some ⟨root.nodes⟩), r.diagnostics⟩) ∧
      ∀ e r, Reading.cluster registry ⟨d, 0, 0, []⟩ = .error e r →
        compile registry source = ⟨.error e, r.diagnostics⟩ := by
  obtain ⟨x, text, htext⟩ := List.exists_cons_of_ne_nil
    (show lead ++ [opening.val] ≠ [] by simp)
  have hcons : source.toList = x :: (text ++ t) := by
    rw [← List.cons_append, ← htext, hsource]
    simp
  obtain ⟨d, hd, hafter⟩ := Cursor.exists_reads (c := ⟨[], x, text ++ t⟩) rfl
  have hroot : Scan.root ⟨[], x, text ++ t⟩ = .ok d := Scan.root_of_reads hlead hd htext.symm
  have hreach : d.reach = utf8Length (lead ++ [opening.val]) := by
    rw [hd.reach_of_first, ← htext]
  rw [compile_of_cons hcons]
  refine ⟨d, hafter, hreach, fun root r hcluster => ?_, fun e r hcluster => ?_⟩
  · simp only [compileFrom, hroot, hcluster]
  · simp only [compileFrom, hroot, hcluster]

theorem compile_of_derives (h : Derives registry source.toList q ds) :
    compile registry source = ⟨.ok (some q), ds⟩ := by
  obtain ⟨root, ⟨hvalid, hdepth⟩, hsource, rfl, rfl⟩ := h
  have hlead : source.toList = root.lead ++ root.opening.val ::
      (root.body.text ++ root.closing.val :: root.ignored) := by
    rw [← hsource]
    simp [Root.text]
  obtain ⟨d, hafter, hreach, hcompile, -⟩ := exists_compile_eq registry root.lead_blank hlead
  obtain ⟨e, he, -⟩ := Cursor.exists_reads
    (show d.after = (root.body.text ++ [root.closing.val]) ++ root.ignored by simp [hafter])
  have hcovers : Covers registry ⟨0, []⟩ (Reader.enter ⟨d, 0, 0, []⟩) root.body root.closing e :=
    ⟨he, hvalid, by rw [Nat.add_comm] at hdepth; exact hdepth⟩
  have hbody := Reading.readsBody root.body hcovers (Nat.le_refl _)
  have hcluster : Reading.cluster registry ⟨d, 0, 0, []⟩ = .ok _ _ :=
    Reading.nested_eq_ok_iff.mpr
      ⟨(show (0 : Nat) ≠ maxNestingDepth by decide), _, hbody, rfl⟩
  rw [hcompile _ _ hcluster, OpenCluster.nodes_extend_nil, Root.diagnostics, ← hreach]
  rfl

/-- The compiler accepts exactly the texts of the language, with exactly the query
and the diagnostics of a tree for the text. -/
theorem compile_eq_ok_iff :
    compile registry source = ⟨.ok (some q), ds⟩ ↔ Derives registry source.toList q ds :=
  ⟨derives_of_compile, compile_of_derives⟩

end FilterQuery
