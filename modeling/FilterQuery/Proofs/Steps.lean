import FilterQuery.Proofs.Walk

/-!
# Any steps of a cursor

A cursor is asked for steps forward and back, in any order, and refuses those that would
leave the text. However often it is asked, it stays on a character of the text, and all that
it says of its place is true (`Cursor.wander_spec`).

There is one invariant, the text around the cursor: a step rewrites it into the same text
with another character marked. What the views say needs no induction. They are read off the
text and the number of characters before the mark, so they are right for every cursor in the
text that it stands in.

Text and number are also all that there is to know of a cursor. A program may therefore keep
the text as a table of its characters with their offsets and change an index into it: asked
for the same steps, table and cursor answer alike and stay alike, where a step is refused too
(`step_table`, `wander_table`, `answers_table`).
-/

namespace FilterQuery

theorem utf8Length_eq (t : List Char) : utf8Length t = (String.ofList t).utf8ByteSize := by
  rw [String.utf8ByteSize_ofList]
  induction t with
  | nil => rfl
  | cons c t ih => rw [utf8Length_cons, ih, String.utf8Len_cons, Nat.add_comm]

namespace Cursor

/-- What a cursor can be asked for. -/
inductive Step where
  | forward
  | back

/-- The step that undoes this one. -/
def Step.opposite : Step → Step
  | forward => back
  | back => forward

/-- Where a step leads, or why it is refused. -/
def step (c : Cursor) : Step → Except CursorFault Cursor
  | .forward => c.advance
  | .back => c.retreat

/-- The cursor when it has been asked for steps: one that it refuses leaves it where it is. -/
def wander (c : Cursor) : List Step → Cursor
  | [] => c
  | s :: steps =>
    match c.step s with
    | .ok d => d.wander steps
    | .error _ => c.wander steps

variable {c d : Cursor} {fault : CursorFault}

/-! ## What the views say -/

theorem position_lt (c : Cursor) : c.position < c.source.length := by
  simp [position, source]

theorem getElem?_position (c : Cursor) : c.source[c.position]? = some c.current := by
  simp [position, source]

theorem take_position (c : Cursor) : c.source.take c.position = c.before.reverse := by
  have hlength : c.before.reverse.length = c.position := List.length_reverse
  rw [source, List.take_left' hlength]

theorem position_add_remaining (c : Cursor) :
    c.position + c.remaining + 1 = c.source.length := by
  simp [position, remaining, source]
  omega

theorem offset_eq_take (c : Cursor) : c.offset = utf8Length (c.source.take c.position) := by
  rw [take_position, utf8Length_reverse, offset]

/-- There is a character behind the offset, the one under the cursor. -/
theorem offset_lt (c : Cursor) : c.offset < utf8Length c.source := by
  have hcurrent : 0 < c.current.utf8Size := Char.utf8Size_pos _
  rw [source, utf8Length_append, utf8Length_reverse, utf8Length_cons, offset]
  omega

/-! ## What the steps do -/

theorem advance_eq_error_iff :
    c.advance = .error fault ↔ c.remaining = 0 ∧ fault = .pastEnd c.position := by
  obtain ⟨before, current, after⟩ := c
  cases after with
  | nil => simp [advance, remaining, eq_comm]
  | cons next rest => simp [advance, remaining]

theorem retreat_eq_error_iff :
    c.retreat = .error fault ↔ c.position = 0 ∧ fault = .beforeStart := by
  obtain ⟨before, current, after⟩ := c
  cases before with
  | nil => simp [retreat, position, eq_comm]
  | cons previous rest => simp [retreat, position]

theorem exists_advance_iff : (∃ d, c.advance = .ok d) ↔ c.hasNext = true := by
  obtain ⟨before, current, after⟩ := c
  cases after with
  | nil => simp [advance, hasNext]
  | cons next rest => simp [advance, hasNext]

theorem advance_eq_ok_iff_retreat : c.advance = .ok d ↔ d.retreat = .ok c := by
  rw [advance_eq_ok_iff, retreat_eq_ok_iff]

theorem step_opposite {s : Step} (h : c.step s = .ok d) : d.step s.opposite = .ok c := by
  cases s with
  | forward => exact advance_eq_ok_iff_retreat.mp h
  | back => exact advance_eq_ok_iff_retreat.mpr h

theorem position_advance (h : c.advance = .ok d) : d.position = c.position + 1 := by
  have hread := advance_eq_ok_iff.mp h
  have hbefore : d.before = c.passed := (List.cons.inj hread.passed).2
  simp [position, hbefore, passed]

theorem source_step {s : Step} (h : c.step s = .ok d) : d.source = c.source := by
  cases s with
  | forward => exact source_advance h
  | back => exact source_retreat h

/-! ## Steps in a row -/

theorem wander_append (c : Cursor) (steps more : List Step) :
    c.wander (steps ++ more) = (c.wander steps).wander more := by
  induction steps generalizing c with
  | nil => rfl
  | cons s steps ih =>
    rw [List.cons_append, wander, wander]
    cases c.step s with
    | ok d => exact ih d
    | error e => exact ih c

theorem source_wander (c : Cursor) (steps : List Step) : (c.wander steps).source = c.source := by
  -- a step keeps the text, so any number of steps does
  induction steps generalizing c with
  | nil => rfl
  | cons s steps ih =>
    rw [wander]
    cases hstep : c.step s with
    | ok d =>
      show (d.wander steps).source = c.source
      rw [ih, source_step hstep]
    | error e => exact ih c

theorem exists_ofString? {source : String} (h : source ≠ "") :
    ∃ start, ofString? source = some start ∧ start.source = source.toList := by
  unfold ofString?
  cases htext : source.toList with
  | nil => exact absurd (String.toList_eq_nil_iff.mp htext) h
  | cons x t => exact ⟨⟨[], x, t⟩, rfl, rfl⟩

/-- The cursor stands on a character of `source`, says so in all its views, and refuses no
step but those out of the text. -/
structure StandsIn (source : String) (c : Cursor) : Prop where
  position_lt : c.position < source.toList.length
  current_eq : source.toList[c.position]? = some c.current
  offset_eq : c.offset = (String.ofList (source.toList.take c.position)).utf8ByteSize
  offset_lt : c.offset < source.utf8ByteSize
  offset_isValid : (String.Pos.Raw.mk c.offset).IsValid source
  remaining_eq : c.position + c.remaining + 1 = source.toList.length
  hasNext_iff : c.hasNext = true ↔ ∃ d, c.advance = .ok d
  advance_refused : ∀ fault, c.advance = .error fault ↔
    c.position = source.toList.length - 1 ∧ fault = .pastEnd c.position
  retreat_refused : ∀ fault, c.retreat = .error fault ↔ c.position = 0 ∧ fault = .beforeStart
  advance_undone : ∀ d, c.advance = .ok d → d.position = c.position + 1 ∧ d.retreat = .ok c
  retreat_undone : ∀ d, c.retreat = .ok d → d.position + 1 = c.position ∧ d.advance = .ok c

theorem standsIn_of_source_eq {source : String} (h : c.source = source.toList) :
    c.StandsIn source := by
  have hremaining : c.position + c.remaining + 1 = source.toList.length :=
    h ▸ c.position_add_remaining
  have hoffset : c.offset = (String.ofList (source.toList.take c.position)).utf8ByteSize := by
    rw [← utf8Length_eq, ← h, offset_eq_take]
  refine ⟨h ▸ c.position_lt, h ▸ c.getElem?_position, hoffset, ?_, ?_, hremaining,
    exists_advance_iff.symm, fun fault => ?_, fun fault => retreat_eq_error_iff,
    fun d hd => ⟨position_advance hd, advance_eq_ok_iff_retreat.mp hd⟩, fun d hd => ?_⟩
  · have hlt := c.offset_lt
    rwa [h, utf8Length_eq, String.ofList_toList] at hlt
  · exact String.Pos.Raw.isValid_iff_exists_take_toList.mpr ⟨c.position, hoffset⟩
  · have hlast : c.remaining = 0 ↔ c.position = source.toList.length - 1 := by omega
    rw [advance_eq_error_iff, hlast]
  · have hback := advance_eq_ok_iff_retreat.mpr hd
    exact ⟨(position_advance hback).symm, hback⟩

/-- After any steps the cursor stands in the text that it began in. The next step is refused
and changes nothing, or is made and can be undone. -/
theorem wander_spec (source : String) (hsource : source ≠ "") (steps : List Step) :
    ∃ start, ofString? source = some start ∧ (start.wander steps).StandsIn source ∧
      ∀ s : Step,
        (∀ fault, (start.wander steps).step s = .error fault →
          start.wander (steps ++ [s]) = start.wander steps) ∧
        ∀ d, (start.wander steps).step s = .ok d →
          start.wander (steps ++ [s]) = d ∧ start.wander (steps ++ [s, s.opposite]) =
            start.wander steps := by
  obtain ⟨start, hstart, htext⟩ := exists_ofString? hsource
  have hstands := standsIn_of_source_eq ((source_wander start steps).trans htext)
  refine ⟨start, hstart, hstands, fun s => ⟨fun fault hrefused => ?_, fun d hstep => ?_⟩⟩
  · rw [wander_append, wander, hrefused]
    rfl
  · have hback := step_opposite hstep
    constructor
    · rw [wander_append, wander, hstep]
      rfl
    · rw [wander_append, wander, hstep]
      show d.wander [s.opposite] = _
      rw [wander, hback]
      rfl

/-- Back at the first character, on to the last one of two, and one step too far: it takes
two bytes to get there. -/
theorem wander_spec_two_bytes :
    "é:" ≠ "" ∧ ∃ start, ofString? "é:" = some start ∧
      (start.wander [.back, .forward, .forward]).StandsIn "é:" ∧
      (start.wander [.back, .forward, .forward]).offset = 2 ∧
      (start.wander [.back, .forward, .forward]).current = ':' := by
  obtain ⟨start, hstart, hstands, -⟩ :=
    wander_spec "é:" (by decide) [.back, .forward, .forward]
  obtain rfl : start = ⟨[], 'é', [':']⟩ := by
    have hfirst : ofString? "é:" = some ⟨[], 'é', [':']⟩ := by decide
    exact Option.some.inj (hstart.symm.trans hfirst)
  exact ⟨by decide, _, hstart, hstands, by decide, by decide⟩

end Cursor

/-! ## The table of a text -/

/-- Characters, each with the number of bytes before it; `n` bytes come before them all. -/
def charOffsets (n : Nat) : List Char → List (Nat × Char)
  | [] => []
  | c :: t => (n, c) :: charOffsets (n + c.utf8Size) t

theorem length_charOffsets (n : Nat) (t : List Char) : (charOffsets n t).length = t.length := by
  induction t generalizing n with
  | nil => rfl
  | cons c t ih => rw [charOffsets, List.length_cons, List.length_cons, ih]

theorem charOffsets_append (n : Nat) (s t : List Char) :
    charOffsets n (s ++ t) = charOffsets n s ++ charOffsets (n + utf8Length s) t := by
  induction s generalizing n with
  | nil => rfl
  | cons c s ih =>
    rw [List.cons_append, charOffsets, charOffsets, ih, utf8Length_cons, Nat.add_assoc]
    rfl

/-- A text as a table, and the index of one of its characters. -/
@[ext] structure IndexedText where
  chars : List (Nat × Char)
  position : Nat
  inRange : position < chars.length

namespace IndexedText

open Cursor (Step)

/-- The index of the first character; an empty text has none. -/
def ofString? (source : String) : Option IndexedText :=
  if h : 0 < (charOffsets 0 source.toList).length then some ⟨_, 0, h⟩ else none

variable (t : IndexedText)

/-- The entry at the index: the offset and the character. -/
def entry : Nat × Char :=
  t.chars.get ⟨t.position, t.inRange⟩

def remaining : Nat :=
  t.chars.length - 1 - t.position

def hasNext : Bool :=
  0 < t.remaining

theorem succ_lt_of_hasNext {t : IndexedText} (h : t.hasNext = true) :
    t.position + 1 < t.chars.length := by
  have hleft := of_decide_eq_true h
  rw [remaining] at hleft
  omega

theorem pred_lt : t.position - 1 < t.chars.length :=
  Nat.lt_of_le_of_lt (Nat.sub_le _ _) t.inRange

/-- The step to the next character: its answer, and the index that it leaves behind whether it
is made or refused. -/
def advance : EStateM.Result CursorFault IndexedText Unit :=
  if h : t.hasNext = true then .ok () ⟨t.chars, t.position + 1, succ_lt_of_hasNext h⟩
  else .error (.pastEnd t.position) t

/-- The step to the previous character, in the same way. -/
def retreat : EStateM.Result CursorFault IndexedText Unit :=
  if t.position = 0 then .error .beforeStart t
  else .ok () ⟨t.chars, t.position - 1, t.pred_lt⟩

def step : Step → EStateM.Result CursorFault IndexedText Unit
  | .forward => t.advance
  | .back => t.retreat

/-- The index when it has been asked for steps, whatever the answers were. -/
def wander (t : IndexedText) : List Step → IndexedText
  | [] => t
  | s :: steps =>
    match t.step s with
    | .ok () u => u.wander steps
    | .error _ u => u.wander steps

end IndexedText

namespace Cursor

/-- The table of the text that the cursor stands in, and its place there. -/
def table (c : Cursor) : IndexedText :=
  ⟨charOffsets 0 c.source, c.position, by rw [length_charOffsets]; exact c.position_lt⟩

/-! ## What both say of the place -/

theorem entry_table (c : Cursor) : c.table.entry = (c.offset, c.current) := by
  have hchars : c.table.chars = charOffsets 0 c.before.reverse ++
      (c.offset, c.current) :: charOffsets (c.offset + c.current.utf8Size) c.after := by
    show charOffsets 0 (c.before.reverse ++ c.current :: c.after) = _
    rw [charOffsets_append, utf8Length_reverse, Nat.zero_add]
    rfl
  have hbefore : (charOffsets 0 c.before.reverse).length = c.position := by
    rw [length_charOffsets, List.length_reverse, position]
  have hentry : c.table.chars[c.position]? = some (c.offset, c.current) := by
    rw [hchars, ← hbefore, List.getElem?_append_right (Nat.le_refl _), Nat.sub_self]
    rfl
  obtain ⟨_, h⟩ := List.getElem?_eq_some_iff.mp hentry
  exact h

theorem remaining_table (c : Cursor) : c.table.remaining = c.remaining := by
  have hlength := c.position_add_remaining
  rw [IndexedText.remaining, table, length_charOffsets]
  show c.source.length - 1 - c.position = c.remaining
  omega

theorem hasNext_table (c : Cursor) : c.table.hasNext = c.hasNext := by
  rw [IndexedText.hasNext, remaining_table, remaining, hasNext]
  cases c.after <;> simp

/-! ## What both do -/

theorem table_ofString? (source : String) :
    (ofString? source).map table = IndexedText.ofString? source := by
  unfold ofString? IndexedText.ofString?
  cases htext : source.toList with
  | nil => rfl
  | cons x t => rfl

/-- The answer to a step of a cursor, with the table that it leaves behind. -/
def tableAfter (c : Cursor) :
    Except CursorFault Cursor → EStateM.Result CursorFault IndexedText Unit
  | .ok d => .ok () d.table
  | .error fault => .error fault c.table

theorem advance_table (c : Cursor) : c.table.advance = c.tableAfter c.advance := by
  unfold IndexedText.advance
  cases hstep : c.advance with
  | ok d =>
    have hnext : c.table.hasNext = true :=
      c.hasNext_table.trans (exists_advance_iff.mp ⟨d, hstep⟩)
    rw [dif_pos hnext, tableAfter]
    congr 1
    exact IndexedText.ext (congrArg (charOffsets 0) (source_advance hstep).symm)
      (position_advance hstep).symm
  | error fault =>
    obtain ⟨hlast, rfl⟩ := advance_eq_error_iff.mp hstep
    have hnext : ¬ c.table.hasNext = true := by
      simp [IndexedText.hasNext, remaining_table, hlast]
    rw [dif_neg hnext]
    rfl

theorem retreat_table (c : Cursor) : c.table.retreat = c.tableAfter c.retreat := by
  unfold IndexedText.retreat
  cases hstep : c.retreat with
  | ok d =>
    have hback : c.position = d.position + 1 :=
      position_advance (advance_eq_ok_iff_retreat.mpr hstep)
    have hfirst : ¬ c.table.position = 0 := by
      show ¬ c.position = 0
      omega
    rw [if_neg hfirst, tableAfter]
    congr 1
    refine IndexedText.ext (congrArg (charOffsets 0) (source_retreat hstep).symm) ?_
    show c.position - 1 = d.position
    omega
  | error fault =>
    obtain ⟨hfirst, rfl⟩ := retreat_eq_error_iff.mp hstep
    exact if_pos hfirst

theorem step_table (c : Cursor) (s : Step) : c.table.step s = c.tableAfter (c.step s) := by
  cases s with
  | forward => exact advance_table c
  | back => exact retreat_table c

theorem wander_table (c : Cursor) (steps : List Step) :
    (c.wander steps).table = c.table.wander steps := by
  induction steps generalizing c with
  | nil => rfl
  | cons s steps ih =>
    rw [wander, IndexedText.wander, step_table]
    cases c.step s with
    | ok d => exact ih d
    | error fault => exact ih c

/-- Table and cursor of a text that have been asked for the same steps: what they say of their
place is the same, and so is the answer to one more step. -/
theorem answers_table {source : String} {start c : Cursor} {t u : IndexedText}
    (hstart : ofString? source = some start) (ht : IndexedText.ofString? source = some t)
    {steps : List Step} (hc : start.wander steps = c) (hu : t.wander steps = u) :
    u.entry = (c.offset, c.current) ∧ u.remaining = c.remaining ∧ u.hasNext = c.hasNext ∧
      ∀ s, u.step s = c.tableAfter (c.step s) := by
  rw [← table_ofString?, hstart] at ht
  obtain rfl := Option.some.inj ht
  obtain rfl : c.table = u := by rw [← hu, ← hc, wander_table]
  exact ⟨c.entry_table, c.remaining_table, c.hasNext_table, c.step_table⟩

end Cursor

end FilterQuery
