import Mathlib.Order.Bounds.Basic
import Mathlib.Order.MinMax
import FilterQuery.Filter.Registry

/-!
# The distance is the least number of edits

An edit inserts, deletes or replaces one character, wherever it stands.
`charDistance` fills a table row by row and says nothing of edits;
`isLeast_charDistance` says that its result is the least number of them.

Between the two stands `backwardDistance`, the recursion that the table holds the
values of. It takes both texts from their ends, as the rows grow at the end: in the
lists that it reads, the last character is the head. Each row holds its values for
the beginnings of the target (`nextRow_row`), and what a single edit changes of it is
at most one (`backwardDistance_le_of_edit`).
-/

namespace FilterQuery.Text

/-- One character is inserted, deleted or replaced, in one place. -/
inductive Edit : List Char → List Char → Prop
  | insert (x : Char) (t : List Char) : Edit t (x :: t)
  | delete (x : Char) (t : List Char) : Edit (x :: t) t
  | substitute (x y : Char) (t : List Char) : Edit (x :: t) (y :: t)
  | behind (x : Char) {s t : List Char} (edit : Edit s t) : Edit (x :: s) (x :: t)

/-- So many edits, one after the other. -/
inductive Edits : Nat → List Char → List Char → Prop
  | done (t : List Char) : Edits 0 t t
  | step {n : Nat} {s t u : List Char} (edit : Edit s t) (rest : Edits n t u) :
      Edits (n + 1) s u

variable {n : Nat} {s t u : List Char} {x y : Char}

theorem Edits.behind (x : Char) (h : Edits n s t) : Edits n (x :: s) (x :: t) := by
  induction h with
  | done t => exact .done _
  | step edit rest ih => exact .step (.behind x edit) ih

theorem Edit.append (h : Edit s t) (w : List Char) : Edit (s ++ w) (t ++ w) := by
  induction h with
  | insert x t => exact .insert x _
  | delete x t => exact .delete x _
  | substitute x y t => exact .substitute x y _
  | behind x edit ih => exact .behind x ih

theorem Edit.prepend (w : List Char) (h : Edit s t) : Edit (w ++ s) (w ++ t) := by
  induction w with
  | nil => exact h
  | cons x w ih => exact .behind x ih

theorem Edit.reverse (h : Edit s t) : Edit s.reverse t.reverse := by
  induction h with
  | insert x t => simpa using Edit.prepend t.reverse (.insert x [])
  | delete x t => simpa using Edit.prepend t.reverse (.delete x [])
  | substitute x y t => simpa using Edit.prepend t.reverse (.substitute x y [])
  | behind x edit ih => simpa using ih.append [x]

theorem Edits.reverse (h : Edits n s t) : Edits n s.reverse t.reverse := by
  induction h with
  | done t => exact .done _
  | step edit rest ih => exact .step edit.reverse ih

theorem Edits.eq_of_zero (h : Edits 0 s t) : s = t := by
  cases h
  rfl

/-! ## The recursion -/

/-- The distance of two texts that are written from their last character on. -/
def backwardDistance : List Char → List Char → Nat
  | [], t => t.length
  | s, [] => s.length
  | x :: s, y :: t =>
    min (min (backwardDistance s (y :: t) + 1) (backwardDistance (x :: s) t + 1))
      (backwardDistance s t + if x = y then 0 else 1)

theorem backwardDistance_nil_right (s : List Char) : backwardDistance s [] = s.length := by
  cases s <;> simp [backwardDistance]

theorem backwardDistance_cons_cons : backwardDistance (x :: s) (y :: t) =
    min (min (backwardDistance s (y :: t) + 1) (backwardDistance (x :: s) t + 1))
      (backwardDistance s t + if x = y then 0 else 1) := by
  rw [backwardDistance]

theorem backwardDistance_cons_left_le :
    backwardDistance (x :: s) t ≤ backwardDistance s t + 1 := by
  cases t with
  | nil => simp [backwardDistance_nil_right]
  | cons y t => rw [backwardDistance_cons_cons]; omega

theorem backwardDistance_cons_right_le :
    backwardDistance s (y :: t) ≤ backwardDistance s t + 1 := by
  cases s with
  | nil => simp [backwardDistance]
  | cons x s => rw [backwardDistance_cons_cons]; omega

/-- An edit changes the distance to any text by at most one. The induction on the edit
has to go through the other text as well: the recursion takes from both. -/
theorem backwardDistance_le_of_edit (h : Edit s u) (t : List Char) :
    backwardDistance s t ≤ backwardDistance u t + 1 := by
  induction h generalizing t with
  | insert x s =>
    induction t with
    | nil => simp [backwardDistance_nil_right]; omega
    | cons z t ih =>
      have := backwardDistance_cons_right_le (s := s) (t := t) (y := z)
      rw [backwardDistance_cons_cons]
      omega
  | delete x s => exact backwardDistance_cons_left_le
  | substitute x y s =>
    induction t with
    | nil => simp [backwardDistance_nil_right]
    | cons z t ih =>
      rw [backwardDistance_cons_cons, backwardDistance_cons_cons]
      split <;> omega
  | @behind x s u edit ih =>
    induction t with
    | nil =>
      have := ih []
      simp only [backwardDistance_nil_right, List.length_cons] at *
      omega
    | cons z t ih' =>
      have := ih t
      have := ih (z :: t)
      rw [backwardDistance_cons_cons, backwardDistance_cons_cons]
      omega

theorem backwardDistance_self (t : List Char) : backwardDistance t t = 0 := by
  induction t with
  | nil => exact backwardDistance_nil_right []
  | cons x t ih => simp [backwardDistance_cons_cons, ih]

theorem backwardDistance_le_of_edits (h : Edits n s t) : backwardDistance s t ≤ n := by
  induction h with
  | done t => exact (backwardDistance_self t).le
  | @step n s t u edit rest ih =>
    have := backwardDistance_le_of_edit edit u
    omega

theorem edits_nil_left (t : List Char) : Edits t.length [] t := by
  induction t with
  | nil => exact .done []
  | cons y t ih => exact .step (.insert y []) (ih.behind y)

theorem edits_nil_right (s : List Char) : Edits s.length s [] := by
  induction s with
  | nil => exact .done []
  | cons x s ih => exact .step (.delete x s) ih

theorem edits_backwardDistance (s t : List Char) : Edits (backwardDistance s t) s t := by
  fun_induction backwardDistance s t with
  | case1 t => exact edits_nil_left t
  | case2 s _ => exact edits_nil_right s
  | case3 x s y t hdelete hinsert hkeep =>
    replace hdelete : Edits (backwardDistance s (y :: t) + 1) (x :: s) (y :: t) :=
      .step (.delete x s) hdelete
    replace hinsert : Edits (backwardDistance (x :: s) t + 1) (x :: s) (y :: t) :=
      .step (.insert y (x :: s)) (hinsert.behind y)
    replace hkeep :
        Edits (backwardDistance s t + if x = y then 0 else 1) (x :: s) (y :: t) := by
      split
      next hxy => exact hxy ▸ hkeep.behind x
      next => exact .step (.substitute x y s) (hkeep.behind y)
    have hmin {a b : Nat} (ha : Edits a (x :: s) (y :: t)) (hb : Edits b (x :: s) (y :: t)) :
        Edits (min a b) (x :: s) (y :: t) := by
      rcases min_choice a b with h | h <;> rwa [h]
    exact hmin (hmin hdelete hinsert) hkeep

/-! ## The table -/

/-- The entries of a row behind its first one: the distances of `s` to `before` with more
and more of the target put on. -/
def entries (s before : List Char) : List Char → List Nat
  | [] => []
  | y :: rest => backwardDistance s (y :: before) :: entries s (y :: before) rest

/-- The distances of `s` to all beginnings of the target. -/
def row (s target : List Char) : List Nat :=
  backwardDistance s [] :: entries s [] target

theorem nextEntries_entries (x : Char) (s before target : List Char) :
    nextEntries x (backwardDistance s before) (backwardDistance (x :: s) before) target
      (entries s before target) = entries (x :: s) before target := by
  induction target generalizing before with
  | nil => rfl
  | cons y target ih => rw [entries, entries, nextEntries, ← backwardDistance_cons_cons, ih]

theorem nextRow_row (target s : List Char) (x : Char) :
    nextRow target (row s target) x = row (x :: s) target := by
  have hfirst : backwardDistance s [] + 1 = backwardDistance (x :: s) [] := by
    simp [backwardDistance_nil_right]
  rw [row, nextRow, hfirst, nextEntries_entries, row]

theorem foldl_nextRow (target s t : List Char) :
    t.foldl (nextRow target) (row s target) = row (t.reverse ++ s) target := by
  induction t generalizing s with
  | nil => rfl
  | cons x t ih => simp [nextRow_row, ih]

theorem row_nil (target : List Char) : row [] target = List.range (target.length + 1) := by
  have hentries (before : List Char) :
      entries [] before target = List.range' (before.length + 1) target.length := by
    induction target generalizing before with
    | nil => rfl
    | cons y target ih => rw [entries, ih, backwardDistance]; rfl
  rw [row, hentries, List.range_eq_range', List.range'_succ]
  simp [backwardDistance]

theorem getLastD_entries (s before target : List Char) (d : Nat) :
    (backwardDistance s before :: entries s before target).getLastD d =
      backwardDistance s (target.reverse ++ before) := by
  induction target generalizing before d with
  | nil => rfl
  | cons y target ih => rw [entries, List.getLastD_cons, ih]; simp

theorem charDistance_eq (a b : List Char) :
    charDistance a b = backwardDistance a.reverse b.reverse := by
  rw [charDistance, ← row_nil, foldl_nextRow, row, getLastD_entries]
  simp

/-- So many edits lead from one text to the other, and no fewer do. -/
theorem isLeast_charDistance (a b : List Char) :
    IsLeast {n | Edits n a b} (charDistance a b) := by
  rw [charDistance_eq]
  constructor
  · have h := (edits_backwardDistance a.reverse b.reverse).reverse
    rwa [List.reverse_reverse, List.reverse_reverse] at h
  · exact fun n h => backwardDistance_le_of_edits h.reverse

theorem charDistance_eq_zero_iff {a b : List Char} : charDistance a b = 0 ↔ a = b := by
  obtain ⟨hmem, hleast⟩ := isLeast_charDistance a b
  constructor
  · intro h
    rw [h] at hmem
    exact Edits.eq_of_zero hmem
  · rintro rfl
    exact Nat.le_zero.mp (hleast (Edits.done a))

end FilterQuery.Text
