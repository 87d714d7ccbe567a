import Mathlib
import FilterQuery.Query.Scan

/-!
# Walks of a cursor

Every scan moves the cursor forward over some text, and now and then one step
back. What it did is told by that text alone: `c.Reads text d` says that `text`
stands between the two cursors, the character under `c` excluded and the one
under `d` included. Read this way a scan that begins on the last character of
what came before, and ends on the last character it used up, reads exactly its
own text, and consecutive scans read consecutive texts.

The relation is a function of the text in both directions: a cursor that reads
`text` gets to one place (`Reads.unique`), and it gets there exactly if `text`
comes next (`exists_reads`). The steps of the cursor are the case of a single
character, so the scans never have to be opened below `stepForward` and
`stepBack` again.
-/

namespace FilterQuery

@[simp] theorem utf8Length_nil : utf8Length [] = 0 := rfl

@[simp] theorem utf8Length_cons (c : Char) (t : List Char) :
    utf8Length (c :: t) = c.utf8Size + utf8Length t := rfl

theorem utf8Length_append (s t : List Char) :
    utf8Length (s ++ t) = utf8Length s + utf8Length t := by
  induction s with
  | nil => simp
  | cons c s ih =>
    rw [List.cons_append, utf8Length_cons, utf8Length_cons, ih, Nat.add_assoc]

@[simp] theorem utf8Length_reverse (t : List Char) :
    utf8Length t.reverse = utf8Length t := by
  induction t with
  | nil => rfl
  | cons c t ih => simp [utf8Length_append, ih, Nat.add_comm]

namespace Cursor

/-- The characters up to the cursor, the one under it included, nearest first. -/
def passed (c : Cursor) : List Char :=
  c.current :: c.before

/-- The number of bytes before the first unread character. -/
def reach (c : Cursor) : Nat :=
  utf8Length c.passed

/-- `text` is what the cursor moves over on its way from `c` to `d`. -/
structure Reads (c : Cursor) (text : List Char) (d : Cursor) : Prop where
  passed : d.passed = text.reverse ++ c.passed
  after : c.after = text ++ d.after

theorem eq_of_passed_eq {c d : Cursor} (hp : d.passed = c.passed)
    (ha : d.after = c.after) : d = c := by
  cases c
  cases d
  simp_all [Cursor.passed]

namespace Reads

variable {c d e : Cursor} {s t : List Char} {x : Char}

theorem refl (c : Cursor) : c.Reads [] c := ⟨rfl, rfl⟩

theorem trans (h₁ : c.Reads s d) (h₂ : d.Reads t e) : c.Reads (s ++ t) e := by
  constructor
  · rw [h₂.passed, h₁.passed, List.reverse_append, List.append_assoc]
  · rw [h₁.after, h₂.after, List.append_assoc]

theorem unique (h₁ : c.Reads t d) (h₂ : c.Reads t e) : e = d := by
  apply eq_of_passed_eq
  · rw [h₁.passed, h₂.passed]
  · exact List.append_cancel_left (h₂.after.symm.trans h₁.after)

theorem unique_start (h₁ : c.Reads t e) (h₂ : d.Reads t e) : d = c := by
  apply eq_of_passed_eq
  · exact List.append_cancel_left (h₂.passed.symm.trans h₁.passed)
  · rw [h₁.after, h₂.after]

theorem source_eq (h : c.Reads t d) : d.source = c.source := by
  have hp := congrArg List.reverse h.passed
  simp only [Cursor.passed, List.reverse_cons, List.reverse_append,
    List.reverse_reverse] at hp
  simp only [source]
  rw [h.after, List.append_cons, hp]
  simp

theorem append_iff (h : c.Reads s d) : c.Reads (s ++ t) e ↔ d.Reads t e := by
  constructor
  · intro he
    refine ⟨?_, ?_⟩
    · rw [he.passed, h.passed, List.reverse_append, List.append_assoc]
    · refine List.append_cancel_left (h.after.symm.trans ?_)
      rw [he.after, List.append_assoc]
  · exact h.trans

/-- A walk begins with the character that comes next. -/
theorem exists_eq_cons (h : c.Reads t d) (ht : t ≠ []) {rest : List Char}
    (hafter : c.after = x :: rest) : ∃ u, t = x :: u := by
  obtain ⟨y, u, rfl⟩ := List.exists_cons_of_ne_nil ht
  obtain ⟨rfl, -⟩ := List.cons.inj (hafter.symm.trans h.after)
  exact ⟨u, rfl⟩

theorem passed_reverse (h : c.Reads t d) : d.passed.reverse = c.passed.reverse ++ t := by
  rw [h.passed, List.reverse_append, List.reverse_reverse]

/-- The text around a walk. -/
theorem source_eq_append (h : c.Reads t d) : c.source = c.passed.reverse ++ t ++ d.after := by
  simp [source, Cursor.passed, h.after]

theorem remaining_eq (h : c.Reads t d) : c.remaining = t.length + d.remaining := by
  simp [remaining, h.after]

theorem reach_eq (h : c.Reads t d) : d.reach = c.reach + utf8Length t := by
  rw [reach, h.passed, utf8Length_append, utf8Length_reverse, Nat.add_comm]
  rfl

theorem passed_cons_eq (h : c.Reads (t ++ [x]) d) :
    d.current = x ∧ d.before = t.reverse ++ c.passed := by
  have hp := h.passed
  simp only [Cursor.passed, List.reverse_append, List.reverse_singleton,
    List.cons_append, List.nil_append, List.cons.injEq] at hp
  exact hp

theorem current_eq (h : c.Reads (t ++ [x]) d) : d.current = x :=
  h.passed_cons_eq.1

theorem current_eq_of_step (h : c.Reads [x] d) : d.current = x :=
  current_eq (t := []) h

theorem offset_eq (h : c.Reads (t ++ [x]) d) : d.offset = c.reach + utf8Length t := by
  rw [offset, h.passed_cons_eq.2, utf8Length_append, utf8Length_reverse, Nat.add_comm]
  rfl

end Reads

theorem exists_reads {c : Cursor} {t rest : List Char} (h : c.after = t ++ rest) :
    ∃ d, c.Reads t d ∧ d.after = rest := by
  cases hr : t.reverse ++ c.passed with
  | nil => simp [passed] at hr
  | cons x before => exact ⟨⟨before, x, rest⟩, ⟨hr.symm, h⟩, rfl⟩

theorem exists_step {c : Cursor} {x : Char} {rest : List Char} (h : c.after = x :: rest) :
    ∃ d, c.Reads [x] d ∧ d.after = rest :=
  exists_reads h

/-- A walk over two texts stops between them. -/
theorem reads_append {c d : Cursor} {s t : List Char} :
    c.Reads (s ++ t) d ↔ ∃ m, c.Reads s m ∧ m.Reads t d := by
  constructor
  · intro h
    obtain ⟨m, hm, hafter⟩ := exists_reads (h.after.trans (List.append_assoc s t d.after))
    refine ⟨m, hm, ?_, hafter⟩
    rw [h.passed, hm.passed, List.reverse_append, List.append_assoc]
  · rintro ⟨m, hs, ht⟩
    exact hs.trans ht

/-- A walk over a text begins with a step over its first character. -/
theorem reads_cons {c d : Cursor} {x : Char} {t : List Char} :
    c.Reads (x :: t) d ↔ ∃ m, c.Reads [x] m ∧ m.Reads t d := by
  rw [← reads_append, List.singleton_append]

theorem reads_nil {c d : Cursor} : c.Reads [] d ↔ d = c := by
  constructor
  · exact fun h => (Reads.refl c).unique h
  · rintro rfl
    exact .refl d

/-- A walk that starts where the last step started begins with that step. -/
theorem reads_head {p c d : Cursor} {x : Char} {t : List Char}
    (hc : p.Reads [c.current] c) (h : p.Reads (x :: t) d) :
    x = c.current ∧ c.Reads t d := by
  obtain ⟨m, hm, hread⟩ := reads_cons.mp h
  have hx : x = c.current := by
    have hafter := hm.after.symm.trans hc.after
    exact (List.cons.inj hafter).1
  subst hx
  exact ⟨rfl, hc.unique hm ▸ hread⟩

/-- A cursor may walk on while the characters have a property, up to the end of the
text or the first one that has not. -/
theorem exists_reads_while (p : Char → Bool) (c : Cursor) :
    ∃ text d, c.Reads text d ∧ (∀ a ∈ text, p a) ∧
      (d.after = [] ∨ ∃ m, d.Reads [m.current] m ∧ p m.current = false) := by
  obtain ⟨d, hd, hafter⟩ :=
    exists_reads (List.takeWhile_append_dropWhile (p := p) (l := c.after)).symm
  refine ⟨c.after.takeWhile p, d, hd, fun a ha => ?_, ?_⟩
  · exact List.all_eq_true.mp List.all_takeWhile a ha
  · cases hrest : d.after with
    | nil => exact .inl rfl
    | cons x rest =>
      obtain ⟨m, hm, -⟩ := exists_step hrest
      obtain rfl : m.current = x := hm.current_eq_of_step
      have hx := List.head?_dropWhile_not p c.after
      rw [← hafter, hrest] at hx
      exact .inr ⟨m, hm, by simpa using hx⟩

/-! ## Steps -/

theorem advance_eq_ok_iff {c d : Cursor} : c.advance = .ok d ↔ c.Reads [d.current] d := by
  constructor
  · intro h
    unfold advance at h
    split at h
    · cases h
    · next next rest heq =>
      cases h
      exact ⟨rfl, heq⟩
  · intro h
    have hp : d.before = c.passed := (List.cons.inj h.passed).2
    simp only [advance, h.after, List.singleton_append]
    cases d
    simp_all [passed]

theorem retreat_eq_ok_iff {c d : Cursor} : d.retreat = .ok c ↔ c.Reads [d.current] d := by
  constructor
  · intro h
    unfold retreat at h
    split at h
    · cases h
    · next previous rest heq =>
      cases h
      refine ⟨?_, rfl⟩
      simp [passed, heq]
  · intro h
    have hp : d.before = c.passed := (List.cons.inj h.passed).2
    have ha : c.after = d.current :: d.after := h.after
    simp only [retreat, hp, passed]
    cases c
    simp_all

end Cursor

namespace Scan

variable {c d : Cursor} {missing : QueryErrorKind} {e : CompileError}

theorem stepForward_eq_ok_iff :
    stepForward c missing = .ok d ↔ c.Reads [d.current] d := by
  constructor
  · exact fun h => Cursor.advance_eq_ok_iff.mp (advance_of_stepForward h)
  · intro h
    have hnext : c.hasNext = true := by simp [Cursor.hasNext, h.after]
    rw [stepForward, if_pos hnext, stepOn, Cursor.advance_eq_ok_iff.mpr h]
    rfl

theorem stepOn_eq_ok_iff : stepOn c = .ok d ↔ c.Reads [d.current] d := by
  rw [stepOn, mapError_eq_ok, Cursor.advance_eq_ok_iff]

theorem stepOn_of_reads {x : Char} (h : c.Reads [x] d) : stepOn c = .ok d ∧ d.current = x := by
  have hx : d.current = x := h.current_eq_of_step
  exact ⟨stepOn_eq_ok_iff.mpr (hx ▸ h), hx⟩

/-- A step is not refused if there is room for two. -/
theorem stepOn_ne_error (h : c.hasTwoNext) : stepOn c ≠ .error e := by
  have hafter : c.after ≠ [] := by
    intro hnil
    simp [Cursor.hasTwoNext, hnil] at h
  obtain ⟨x, rest, hafter⟩ := List.exists_cons_of_ne_nil hafter
  obtain ⟨d, hd, -⟩ := Cursor.exists_step hafter
  rw [(stepOn_of_reads hd).1]
  simp

theorem stepForward_of_reads {x : Char} (h : c.Reads [x] d) (missing : QueryErrorKind) :
    stepForward c missing = .ok d ∧ d.current = x := by
  have hx : d.current = x := h.current_eq_of_step
  exact ⟨stepForward_eq_ok_iff.mpr (hx ▸ h), hx⟩

theorem stepForward_of_after_nil (h : c.after = []) :
    stepForward c missing = .error (errorAt c missing) := by
  have hnext : c.hasNext = false := by simp [Cursor.hasNext, h]
  rw [stepForward, if_neg (by simp [hnext])]

theorem stepForward_eq_error_iff :
    stepForward c missing = .error e ↔ c.after = [] ∧ e = errorAt c missing := by
  cases ha : c.after with
  | nil =>
    rw [stepForward_of_after_nil ha]
    simp [eq_comm]
  | cons x rest =>
    obtain ⟨d, hd, -⟩ := Cursor.exists_step ha
    rw [(stepForward_of_reads hd missing).1]
    simp

theorem stepBack_eq_ok_iff : stepBack d = .ok c ↔ c.Reads [d.current] d := by
  rw [stepBack, mapError_eq_ok, Cursor.retreat_eq_ok_iff]

/-- A step back undoes the last step of a walk. -/
theorem reads_of_stepBack {m : Cursor} {x : Char} {t : List Char}
    (h : c.Reads (t ++ [x]) d) (hm : m.Reads [d.current] d) :
    c.Reads t m ∧ m.after = x :: d.after := by
  obtain ⟨m', ht, hx⟩ := Cursor.reads_append.mp h
  have hcur : d.current = x := hx.current_eq_of_step
  obtain rfl := (hcur ▸ hx).unique_start hm
  exact ⟨ht, hx.after⟩

end Scan

end FilterQuery
