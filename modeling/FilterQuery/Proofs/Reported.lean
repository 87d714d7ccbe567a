import FilterQuery.Proofs.Gap
import FilterQuery.Proofs.Lasting

/-!
# What is reported

Whether a compilation succeeds or fails, its diagnostics are among those that the text
could give at all (`sublist_reportable`). These are in the order of the text, so no
character is reported twice, although the search for a connector steps back onto one
that it may have reported; and each of them is about a character that ends no search.

The invariant is one of the reader: what it has noted lies in the text behind it
(`Noted`). It lasts while the text is read, and then an error leaves nothing among the
diagnostics but what could be reported (`lasting_noted`).
-/

namespace FilterQuery

open Grammar

/-! ## What could be reported -/

/-- The diagnostics that a text could give, about every character that is passed over in
a search. -/
def reportable (offset : Nat) : List Char → List Diagnostic
  | [] => []
  | c :: t =>
    let later := reportable (offset + c.utf8Size) t
    if classify c = .whitespace ∨ endsSearch c then later
    else .unexpectedCharacter c offset :: later

theorem reportable_append (offset : Nat) (s t : List Char) :
    reportable offset (s ++ t) =
      reportable offset s ++ reportable (offset + utf8Length s) t := by
  induction s generalizing offset with
  | nil => rfl
  | cons c s ih =>
    simp only [List.cons_append, reportable, ih, utf8Length_cons, Nat.add_assoc]
    split <;> rfl

theorem skipDiagnostics_eq_reportable {t : List Char} (offset : Nat)
    (ht : ∀ a ∈ t, endsSearch a = false) : skipDiagnostics offset t = reportable offset t := by
  induction t generalizing offset with
  | nil => rfl
  | cons c t ih =>
    simp only [skipDiagnostics, reportable, ih _ fun a ha => ht a (by simp [ha]),
      ht c (by simp), Bool.false_eq_true, or_false]

/-- A diagnostic is about a character of a text that it follows: the one at its offset, and
neither a blank, nor a connector, nor a closing bracket. -/
structure Diagnostic.Stands (d : Diagnostic) (offset : Nat) (text : List Char) : Prop where
  at_offset : ∃ s t, text = s ++ d.found :: t ∧ d.offset = offset + utf8Length s
  counts : classify d.found ≠ .whitespace
  no_connector : ∀ k : Connector, d.found ≠ k.symbol
  no_bracket : classify d.found ≠ .closeBracket

theorem stands_of_mem_reportable {d : Diagnostic} {offset : Nat} {text : List Char}
    (h : d ∈ reportable offset text) : d.Stands offset text := by
  induction text generalizing offset with
  | nil => cases h
  | cons c t ih =>
    have hlater (hd : d ∈ reportable (offset + c.utf8Size) t) : d.Stands offset (c :: t) := by
      obtain ⟨⟨s, u, rfl, hoffset⟩, hcounts, hconnector, hbracket⟩ := ih hd
      refine ⟨⟨c :: s, u, rfl, ?_⟩, hcounts, hconnector, hbracket⟩
      rw [hoffset, utf8Length_cons, Nat.add_assoc]
    rw [reportable] at h
    split at h
    · exact hlater h
    next hc =>
    rcases List.mem_cons.mp h with rfl | h
    · simp only [endsSearch, not_or, Bool.or_eq_true, decide_eq_true_eq] at hc
      obtain ⟨hcounts, hbracket, hconnector⟩ := hc
      refine ⟨⟨[], t, rfl, rfl⟩, hcounts, fun k hk => hconnector ?_, hbracket⟩
      rw [connector?_eq_some_iff.mpr (show c = k.symbol from hk)]
      rfl
    · exact hlater h

theorem pairwise_reportable (offset : Nat) (text : List Char) :
    (reportable offset text).Pairwise (·.offset < ·.offset) := by
  induction text generalizing offset with
  | nil => exact .nil
  | cons c t ih =>
    rw [reportable]
    split
    · exact ih _
    · refine List.pairwise_cons.mpr ⟨fun d hd => ?_, ih _⟩
      obtain ⟨⟨s, u, -, hoffset⟩, -⟩ := stands_of_mem_reportable hd
      have hsize := c.utf8Size_pos
      simp only [Diagnostic.offset] at hoffset ⊢
      omega

/-! ## The invariant -/

variable {source : List Char} {r : Reader} {registry : Registry}

/-- What the reader has noted is part of what could be reported up to the cursor. -/
structure Noted (source : List Char) (r : Reader) : Prop where
  source_eq : r.cursor.source = source
  listed : r.diagnostics.Sublist (reportable 0 r.cursor.passed.reverse)

namespace Noted

theorem goto (h : Noted source r) {t : List Char} {d : Cursor} (hread : r.cursor.Reads t d) :
    Noted source (r.goto d) where
  source_eq := hread.source_eq.trans h.source_eq
  listed := by
    rw [Reader.cursor_goto, hread.passed_reverse, reportable_append]
    exact h.listed.trans (List.sublist_append_left _ _)

theorem moved (h : Noted source r) {skipped : List Char} {d : Cursor}
    (hread : r.cursor.Reads skipped d) (hskipped : ∀ a ∈ skipped, endsSearch a = false) :
    Noted source (r.moved d (skipDiagnostics r.cursor.reach skipped)) where
  source_eq := hread.source_eq.trans h.source_eq
  listed := by
    rw [skipDiagnostics_eq_reportable _ hskipped]
    simp only [Reader.moved, hread.passed_reverse, reportable_append, utf8Length_reverse,
      Nat.zero_add]
    exact h.listed.append (.refl _)

theorem sublist (h : Noted source r) : r.diagnostics.Sublist (reportable 0 source) := by
  have hsplit : source = r.cursor.passed.reverse ++ r.cursor.after := by
    rw [← h.source_eq, Cursor.source, Cursor.passed]
    simp
  rw [hsplit, reportable_append]
  exact h.listed.trans (List.sublist_append_left _ _)

end Noted

theorem lasting_noted (source : List Char) :
    Lasting (Noted source) fun _ ds => ds.Sublist (reportable 0 source) where
  goto hr hread := hr.goto hread
  moved hr hread hskipped := hr.moved hread hskipped
  same hr hcursor hdiagnostics := ⟨hcursor ▸ hr.source_eq, hcursor ▸ hdiagnostics ▸ hr.listed⟩
  error hr _ := hr.sublist
  unknown hr _ := hr.sublist

/-! ## Compilations -/

theorem sublist_reportable (registry : Registry) (source : String) :
    (compile registry source).diagnostics.Sublist (reportable 0 source.toList) := by
  cases htext : source.toList with
  | nil =>
    rw [compile_of_nil htext]
    exact .slnil
  | cons x t =>
  rw [compile_of_cons htext, compileFrom]
  cases hroot : Scan.root ⟨[], x, t⟩ with
  | error e => exact List.nil_sublist _
  | ok d =>
  obtain ⟨_, _, _, hread, -⟩ := Scan.reads_of_root hroot
  have hbody (cluster : OpenCluster) : Ensures _ _ (Reading.body registry d.remaining cluster) _ :=
    Reading.ensures_body (lasting_noted (x :: t)) _ cluster
  have hcluster := Reading.ensures_nested (lasting_noted (x :: t)) hbody ⟨d, 0, 0, []⟩
    ⟨hread.source_eq, List.nil_sublist _⟩
  dsimp only [Reading.cluster]
  revert hcluster
  generalize Reading.nested (Reading.body registry d.remaining) ⟨d, 0, 0, []⟩ = result
  intro hcluster
  cases result with
  | ok root r => exact hcluster.sublist
  | error e r => exact hcluster

end FilterQuery
