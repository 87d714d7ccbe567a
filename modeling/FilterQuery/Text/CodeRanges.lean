/-!
# Sets of code points

A property of characters is written down as the ranges of code points that have
it, in rising order and with gaps between them. Membership walks along the
ranges and gives up at the first range that starts too late, so ASCII is decided
at once.
-/

namespace FilterQuery.Text

/-- Ranges `(first, last)` of code points, both ends included, in rising
order. -/
abbrev CodeRanges := List (Nat × Nat)

namespace CodeRanges

/-- Whether a code point lies in one of the ranges. -/
def contains : CodeRanges → Nat → Bool
  | [], _ => false
  | (first, last) :: rest, n =>
    if n < first then false else if n ≤ last then true else contains rest n

/-- Whether each range ends no earlier than it starts and leaves a gap before
the next one. -/
def inOrder : CodeRanges → Bool
  | [] => true
  | [(first, last)] => first ≤ last
  | (first, last) :: (first', last') :: rest =>
    first ≤ last && last + 1 < first' && inOrder ((first', last') :: rest)

/-! ## What the walk finds -/

/-- Some range holds the code point. `contains` decides it on ranges that are in
order. -/
def Covers (ranges : CodeRanges) (n : Nat) : Prop :=
  ∃ range ∈ ranges, range.1 ≤ n ∧ n ≤ range.2

theorem inOrder_tail {range : Nat × Nat} {rest : CodeRanges}
    (ordered : inOrder (range :: rest) = true) : inOrder rest = true := by
  cases rest with
  | nil => rfl
  | cons next rest =>
    simp only [inOrder, Bool.and_eq_true] at ordered
    exact ordered.2

/-- Everything behind the first range lies beyond it. -/
theorem lt_of_inOrder {range : Nat × Nat} {rest : CodeRanges}
    (ordered : inOrder (range :: rest) = true) : ∀ later ∈ rest, range.2 < later.1 := by
  induction rest generalizing range with
  | nil => simp
  | cons next rest ih =>
    have behind := ih (inOrder_tail ordered)
    simp only [inOrder, Bool.and_eq_true, decide_eq_true_eq] at ordered
    have starts : next.1 ≤ next.2 := by
      cases rest <;> simp_all [inOrder]
    intro later found
    rcases List.mem_cons.mp found with rfl | found
    · omega
    · have := behind later found
      omega

/-- Giving up at the first range that starts too late loses nothing: in ranges
that are in order, the walk finds exactly the code points of the ranges. -/
theorem contains_iff {ranges : CodeRanges} (ordered : ranges.inOrder = true) (n : Nat) :
    ranges.contains n = true ↔ ranges.Covers n := by
  induction ranges with
  | nil => simp [contains, Covers]
  | cons range rest ih =>
    have below := lt_of_inOrder ordered
    have starts : range.1 ≤ range.2 := by
      cases rest <;> simp_all [inOrder]
    have found := ih (inOrder_tail ordered)
    simp only [contains, Covers, List.mem_cons, exists_eq_or_imp]
    split
    case isTrue early =>
      -- Every later range starts later still.
      have none : ¬ ∃ later ∈ rest, later.1 ≤ n ∧ n ≤ later.2 := by
        rintro ⟨later, mem, first, -⟩
        have := below later mem
        omega
      simp only [Bool.false_eq_true, none, or_false, false_iff]
      omega
    case isFalse begun =>
      split
      case isTrue reached => simp only [true_iff]; exact .inl ⟨by omega, reached⟩
      case isFalse passed =>
        rw [found, Covers]
        exact ⟨.inr, fun held => held.resolve_left fun h => passed h.2⟩

end CodeRanges

end FilterQuery.Text
