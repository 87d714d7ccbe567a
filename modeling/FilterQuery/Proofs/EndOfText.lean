import FilterQuery.Proofs.Evidence
import FilterQuery.Proofs.Faultless

/-!
# Errors about the end of the text

Three kinds of errors say that the text ends inside something, and where it ends. For a
cluster and for a filter the place is that of the last character. For a calculator it is
not always (`offset_of_unterminated`): an operand is begun only if two characters are
left, and if one is left the error stands at the character in front of it.

Which of the two it is can be seen in the text. What stands between the bracket of a
calculator and a place where an operand is due has a simple form (`Due`), and the scan
gets over it to the end, or stops at an operand that is not in order
(`Scan.operands_due`). So the place is in front of the last character exactly if such a
place is there.
-/

namespace FilterQuery

open Grammar

/-- From the bracket of a calculator, or from the operator behind an operand, to a place
where an operand is due. -/
inductive Due : List Char → Prop where
  | here : Due []
  | dropped {c : Char} {t : List Char}
      (drops : classify c = .whitespace ∨ classify c = .openBracket) (rest : Due t) : Due (c :: t)
  | operand {word t : List Char} (spelled : ∀ a ∈ word, Scan.isOperandChar a)
      (counts : ∀ a ∈ word.head?, classify a ≠ .whitespace) (k : Arithmetic) (rest : Due t) :
      Due (word ++ k.symbol :: t)

/-- In a calculator, there is one character behind a place where an operand is due, and it
is the last one of the text. -/
def LacksOperand (source : List Char) : Prop :=
  ∃ (before : List Char) (opening : Opening) (s : List Char) (x : Char),
    source = before ++ '#' :: opening.val :: (s ++ [x]) ∧ Due s

/-- The error says that the text ends among the operands of a calculator. -/
def CompileError.CutsCalculator (e : CompileError) : Prop :=
  ∃ offset, e = .query ⟨.unterminatedCalculator, offset⟩

theorem sharp_not_mem_of_due {s : List Char} (h : Due s) : '#' ∉ s := by
  induction h with
  | here => exact List.not_mem_nil
  | dropped drops rest ih =>
    refine List.not_mem_cons_of_ne_of_not_mem ?_ ih
    rintro rfl
    simp [classify] at drops
  | operand spelled counts k rest ih =>
    rw [List.mem_append, List.mem_cons]
    rintro (hword | hsymbol | hrest)
    · exact absurd (spelled _ hword) (by decide)
    · cases k <;> cases hsymbol
    · exact ih hrest

namespace Scan

variable {registry : Registry} {c d m : Cursor} {found : List Operand} {e : CompileError}
  {s word : List Char}

/-! ## Over the operands -/

/-- What begins an operand, or its operator if it has no characters at all. -/
theorem classify_first (hword : ∀ a ∈ word, isOperandChar a)
    (hcounts : ∀ a ∈ word.head?, classify a ≠ .whitespace) (k : Arithmetic) {x : Char}
    {t : List Char} (h : word ++ [k.symbol] = x :: t) : classify x = .other := by
  cases word with
  | nil =>
    obtain ⟨rfl, -⟩ := List.cons.inj h
    cases k <;> rfl
  | cons a word =>
    obtain ⟨rfl, -⟩ := List.cons.inj h
    exact classify_of_isOperandChar (hword a (by simp)) (hcounts a rfl)

/-- An operand that is in order ends where its characters do. -/
theorem eq_of_reads_operand {k : Arithmetic} (hm : c.Reads [m.current] m)
    (hword : ∀ a ∈ word, isOperandChar a) (h : c.Reads (word ++ [k.symbol]) d) {one : Operand}
    {d' : Cursor} (hcounts : m.currentClass ≠ .whitespace)
    (hone : operand registry m = .ok (one, d')) : d' = d := by
  obtain ⟨term, hread, -, -, hends⟩ := reads_of_operand hm hcounts hone
  have hlast : d.current = k.symbol := h.current_eq
  have hsymbol : isOperandChar k.symbol = false := by cases k <;> rfl
  have hread' : c.Reads (word ++ [d.current]) d := hlast ▸ h
  have htext := hread'.takeWhile_onward hm hword (hlast ▸ hsymbol)
  rw [hread.takeWhile_onward hm (isOperandChar_of_term term) hends.not_isOperandChar] at htext
  rw [htext] at hread
  have hafter := List.append_cancel_left
    ((List.append_assoc _ _ _).symm.trans (hread'.after.symm.trans hread.after) |>.trans
      (List.append_assoc _ _ _))
  rw [(List.cons.inj hafter).1] at hread'
  exact hread'.unique hread

/-- Over what stands before an operand the scan goes to its end, or some operand in it is
not in order. -/
theorem operands_due (hs : Due s) (hd : d.after ≠ []) : ∀ {found : List Operand} {c : Cursor},
    c.Reads s d → operands registry found c = .error e →
    ¬ e.CutsCalculator ∨ ∃ found', operands registry found' d = .error e := by
  induction hs with
  | here =>
    intro found c hread h
    obtain rfl := Cursor.reads_nil.mp hread
    exact .inr ⟨found, h⟩
  | dropped drops rest ih =>
    intro found c hread h
    obtain ⟨m, hm, hrest⟩ := Cursor.reads_cons.mp hread
    have hne : m.after ≠ [] := by simp [hrest.after, hd]
    rw [operands_dropped hm hne drops] at h
    exact ih hrest h
  | @operand word t spelled counts k rest ih =>
    intro found c hread h
    rw [List.append_cons] at hread
    obtain ⟨n, hn, hrest⟩ := Cursor.reads_append.mp hread
    obtain ⟨x, u, hfirst⟩ := List.exists_cons_of_ne_nil (show word ++ [k.symbol] ≠ [] by simp)
    obtain ⟨m, hm, -⟩ := Cursor.reads_cons.mp (hfirst ▸ hn)
    obtain ⟨step, rfl⟩ := stepOn_of_reads hm
    have hclass : m.currentClass = .other := classify_first spelled counts k hfirst
    have hcounts : m.currentClass ≠ .whitespace := by simp [hclass]
    rw [operands, if_pos (hasTwoNext_of_reads hread (by simp) hd), step] at h
    simp only [hclass] at h
    have hends := operand_ends registry hm hcounts
    cases hone : operand registry m with
    | error e' =>
      rw [hone] at h hends
      cases h
      refine .inl ?_
      cases hends with
      | parts hparts =>
        cases hparts with
        | cut hcut htext hnil =>
          -- the operator is not one of the characters that were read
          have hmem : k.symbol ∈ c.after := by simp [hn.after]
          rw [hcut.after, hnil, List.append_nil] at hmem
          have hsymbol := htext _ hmem
          cases k <;> cases hsymbol
        | unknown => simp [CompileError.CutsCalculator, errorAt]
      | malformed | unregistered | textual => simp [CompileError.CutsCalculator, errorAt]
    | ok result =>
      obtain ⟨one, d'⟩ := result
      obtain rfl := eq_of_reads_operand hm spelled hn hcounts hone
      have hclose : d'.currentClass ≠ .closeBracket := by
        rw [Cursor.currentClass, hn.current_eq]
        cases k <;> simp [Arithmetic.symbol, classify]
      rw [hone] at h
      simp only [hclose] at h
      exact ih hrest h

theorem sharp_not_mem_of_isOperandChar {text : List Char} (h : ∀ a ∈ text, isOperandChar a) :
    '#' ∉ text :=
  fun hmem => absurd (h _ hmem) (by decide)

theorem sharp_not_mem_cons {x : Char} (hx : classify x = .whitespace ∨ classify x = .openBracket)
    (hs : '#' ∉ s) : '#' ∉ x :: s := by
  refine List.not_mem_cons_of_ne_of_not_mem ?_ hs
  rintro rfl
  simp [classify] at hx

/-- The scan has come to the end of the text, or one character is left where an operand is
due. -/
theorem cut_of_operands (h : operands registry found c = .error e) (he : e.CutsCalculator) :
    ∃ s d, c.Reads s d ∧ e = errorAt d .unterminatedCalculator ∧
      (d.after = [] ∧ '#' ∉ s ∨ Due s ∧ ∃ x, d.after = [x]) := by
  fun_induction operands registry found c with
  | case1 found c htwo e' step => exact absurd step (stepOn_ne_error htwo)
  | case2 found c htwo n step hn ih =>
    obtain ⟨s, d, hread, hd, hs⟩ := ih h
    exact ⟨_, d, (stepOn_eq_ok_iff.mp step).trans hread, hd,
      hs.imp (.imp_right (sharp_not_mem_cons (.inl hn))) (.imp_left (.dropped (.inl hn)))⟩
  | case3 found c htwo n step hn ih =>
    obtain ⟨s, d, hread, hd, hs⟩ := ih h
    exact ⟨_, d, (stepOn_eq_ok_iff.mp step).trans hread, hd,
      hs.imp (.imp_right (sharp_not_mem_cons (.inr hn))) (.imp_left (.dropped (.inr hn)))⟩
  | case4 => cases h
  | case5 found c htwo n step e' hone hblank hopen hclose =>
    cases h
    have hends := operand_ends registry (stepOn_eq_ok_iff.mp step) hblank
    rw [hone] at hends
    cases hends with
    | parts hparts =>
      cases hparts with
      | cut hread htext hnil =>
        exact ⟨_, _, hread, rfl, .inl ⟨hnil, sharp_not_mem_of_isOperandChar htext⟩⟩
      | unknown => simp [CompileError.CutsCalculator, errorAt] at he
    | malformed | unregistered | textual => simp [CompileError.CutsCalculator, errorAt] at he
  | case6 => cases h
  | case7 found c htwo n step one n' hone hnone hblank hopen hclose ih =>
    obtain ⟨term, hread, -, -, hend⟩ := reads_of_operand (stepOn_eq_ok_iff.mp step) hblank hone
    obtain ⟨s, d, hread', hd, hs⟩ := ih h
    cases hk : one.arithmetic with
    | none =>
      rw [hk] at hend
      exact absurd hend hnone
    | some k =>
      rw [hk] at hend
      have hlast : n'.current = k.symbol := hend
      rw [hlast] at hread
      refine ⟨_, d, hread.trans hread', hd, ?_⟩
      rw [List.append_assoc]
      refine hs.imp (.imp_right fun hs => ?_) (.imp_left fun hs => ?_)
      · have hsymbol : '#' ≠ k.symbol := by cases k <;> decide
        simpa [hs, hsymbol] using sharp_not_mem_of_isOperandChar (isOperandChar_of_term term)
      · refine .operand (isOperandChar_of_term term) (fun a ha => ?_) k hs
        obtain rfl : term.head = a := Option.some.inj ha
        exact term.head_counts
  | case8 found c htwo =>
    cases h
    refine ⟨[], c, .refl c, rfl, ?_⟩
    rcases hafter : c.after with _ | ⟨x, _ | ⟨y, t⟩⟩
    · exact .inl ⟨rfl, List.not_mem_nil⟩
    · exact .inr ⟨.here, x, rfl⟩
    · simp [Cursor.hasTwoNext, hafter] at htwo

/-! ## The mark of the calculator -/

theorem eq_of_cons_sharp {a u v : List Char} (h : '#' :: u = a ++ '#' :: v) (hv : v ≠ [])
    (hu : '#' ∉ u.dropLast) : u = v := by
  cases a with
  | nil => exact (List.cons.inj h).2
  | cons y a =>
    rw [(List.cons.inj h).2, List.append_eq, List.dropLast_append_of_ne_nil (by simp),
      List.dropLast_cons_of_ne_nil hv] at hu
    simp at hu

/-- Of two marks with no other mark behind them, the last character apart, one is the
other. -/
theorem eq_of_append_sharp {b b' u v : List Char} (h : b ++ '#' :: u = b' ++ '#' :: v)
    (hu : u ≠ []) (hv : v ≠ []) (hnone : '#' ∉ u.dropLast) (hnone' : '#' ∉ v.dropLast) :
    u = v := by
  rcases List.append_eq_append_iff.mp h with ⟨a, -, ha⟩ | ⟨a, -, ha⟩
  · exact eq_of_cons_sharp ha hv hnone
  · exact (eq_of_cons_sharp ha hu hnone').symm

end Scan

/-! ## The place -/

/-- The error of a calculator stands at the last character if the text ends elsewhere than
in front of it. -/
def CutInPlace (source : List Char) (e : CompileError) : Prop :=
  ∀ offset, e = .query ⟨.unterminatedCalculator, offset⟩ →
    (LacksOperand source → offset = utf8Length source.dropLast.dropLast) ∧
      (¬ LacksOperand source → offset = utf8Length source.dropLast)

theorem CutInPlace.of_not {source : List Char} {e : CompileError} (h : ¬ e.CutsCalculator) :
    CutInPlace source e :=
  fun offset he => absurd ⟨offset, he⟩ h

namespace Cursor

variable {d : Cursor}

theorem offset_of_after_eq_nil (h : d.after = []) : d.offset = utf8Length d.source.dropLast := by
  simp [source, h, offset]

theorem offset_of_after_eq_singleton {x : Char} (h : d.after = [x]) :
    d.offset = utf8Length d.source.dropLast.dropLast := by
  have hsource : d.source = d.before.reverse ++ [d.current] ++ [x] := by simp [source, h]
  rw [hsource, List.dropLast_concat, List.dropLast_concat, utf8Length_reverse]
  rfl

end Cursor

namespace Scan

theorem cutInPlace_operands {registry : Registry} {start c : Cursor} {e : CompileError}
    (hsharp : start.current = '#') (hopen : c.currentClass = .openBracket)
    (hc : start.Reads [c.current] c) (h : operands registry [] c = .error e) :
    CutInPlace c.source e := by
  intro offset he
  obtain ⟨s, d, hs, hd, hends⟩ := cut_of_operands h ⟨offset, he⟩
  obtain rfl : offset = d.offset := by
    rw [he] at hd
    cases hd
    rfl
  have hsource : c.source = start.before.reverse ++ '#' :: c.current :: c.after := by
    rw [hc.source_eq, Cursor.source, hsharp, hc.after]
    rfl
  constructor
  · rintro ⟨before, opening, s', x, htext, hdue⟩
    have hnone : '#' ∉ (c.current :: c.after).dropLast := by
      rcases hends with ⟨hnil, hnone⟩ | ⟨hdue', y, hlast⟩
      · rw [hs.after, hnil, List.append_nil]
        exact mt List.mem_of_mem_dropLast (sharp_not_mem_cons (.inr hopen) hnone)
      · rw [hs.after, hlast, ← List.cons_append, List.dropLast_concat]
        exact sharp_not_mem_cons (.inr hopen) (sharp_not_mem_of_due hdue')
    have hnone' : '#' ∉ (opening.val :: (s' ++ [x])).dropLast := by
      rw [← List.cons_append, List.dropLast_concat]
      exact sharp_not_mem_cons (.inr opening.property) (sharp_not_mem_of_due hdue)
    have hafter := eq_of_append_sharp (hsource.symm.trans htext) (by simp) (by simp) hnone hnone'
    obtain ⟨d', hd', hlast⟩ := Cursor.exists_reads (List.cons.inj hafter).2
    rcases operands_due hdue (by simp [hlast]) hd' h with hnot | ⟨found, h'⟩
    · exact absurd ⟨_, he⟩ hnot
    rw [operands, if_neg (by simp [Cursor.hasTwoNext, hlast]), he] at h'
    obtain ⟨-, hoffset⟩ := QueryError.mk.inj (CompileError.query.inj (Except.error.inj h'))
    rw [← hoffset, ← hd'.source_eq]
    exact Cursor.offset_of_after_eq_singleton hlast
  · intro hlacks
    rcases hends with ⟨hnil, -⟩ | ⟨hdue, x, hlast⟩
    · rw [← hs.source_eq, ← Cursor.offset_of_after_eq_nil hnil]
    · rw [hs.after, hlast] at hsource
      exact absurd ⟨_, ⟨_, hopen⟩, s, x, hsource, hdue⟩ hlacks

/-! ## The other steps -/

theorem not_cuts_errorAt {c : Cursor} {kind : QueryErrorKind}
    (h : kind ≠ .unterminatedCalculator) : ¬ (errorAt c kind).CutsCalculator := by
  rintro ⟨offset, he⟩
  cases he
  exact h rfl

theorem not_cuts_root {c : Cursor} {e : CompileError} (h : root c = .error e) :
    ¬ e.CutsCalculator := by
  have hends := root_ends c
  rw [h] at hends
  cases hends <;> exact not_cuts_errorAt (by simp)

end Scan

theorem CompileError.IsOf.not_cuts {e : CompileError} (h : e.IsOf QueryErrorKind.inFilter) :
    ¬ e.CutsCalculator := by
  obtain ⟨error, rfl, hkind⟩ := h
  rintro ⟨offset, he⟩
  cases he
  cases hkind

namespace Reading

theorem not_cuts_checkOperands {start finish : Cursor} {newest : List Operand}
    {e : CompileError} (h : checkOperands start finish newest = .error e) :
    ¬ e.CutsCalculator := by
  unfold checkOperands at h
  split at h <;> cases h <;> exact Scan.not_cuts_errorAt (by simp)

theorem CalculatorFails.cutInPlace {registry : Registry} {start c : Cursor} {e : CompileError}
    (h : CalculatorFails registry start c e)
    (hstart : start.Reads [c.current] c) (hsharp : start.current = '#')
    (hopen : c.currentClass = .openBracket) : CutInPlace c.source e := by
  cases h with
  | operands h => exact Scan.cutInPlace_operands hsharp hopen hstart h
  | check _ h => exact .of_not (not_cuts_checkOperands h)
  | clause _ _ h => exact .of_not h.isOf.inFilter.not_cuts

end Reading

theorem raises_cutInPlace (registry : Registry) (source : List Char) :
    Raises registry source (CutInPlace source) where
  root _ _ h := .of_not (Scan.not_cuts_root h)
  unterminated _ _ := .of_not (Scan.not_cuts_errorAt (by simp))
  nesting _ _ := .of_not (Scan.not_cuts_errorAt (by simp))
  missing _ _ := .of_not (Scan.not_cuts_errorAt (by simp))
  dangling _ _ := .of_not (Scan.not_cuts_errorAt (by simp))
  filter hp _ _ h := .of_not (Reading.filter_fails hp h).isOf.not_cuts
  calculator hsource hstart hsharp hopen h :=
    hsource ▸ (Reading.calculator_fails h).cutInPlace hstart hsharp hopen

/-- Where the text ends inside a cluster or a filter, the error stands at its last
character. Where it ends inside the operands of a calculator, the error stands there, too,
unless there is one more character and an operand is due: then the error stands at the
character in front of it. -/
theorem offset_of_unterminated (registry : Registry) (source : String) (kind : QueryErrorKind)
    (offset : Nat) (h : (compile registry source).outcome = .error (.query ⟨kind, offset⟩)) :
    (kind = .unterminatedObject ∨ (∃ filter, kind = .unterminatedFilter filter) →
        offset = utf8Length source.toList.dropLast) ∧
      (kind = .unterminatedCalculator →
        (¬ LacksOperand source.toList → offset = utf8Length source.toList.dropLast) ∧
          (LacksOperand source.toList →
            offset = utf8Length source.toList.dropLast.dropLast)) := by
  constructor
  · intro hkind
    obtain ⟨kind', c, hsource, herror, hshown⟩ :=
      (raises_shown registry source.toList).of_compile h
    obtain ⟨rfl, rfl⟩ := QueryError.mk.inj (CompileError.query.inj herror)
    have hnil : c.after = [] := by
      rcases hkind with rfl | ⟨filter, rfl⟩ <;> exact hshown
    rw [← hsource]
    exact Cursor.offset_of_after_eq_nil hnil
  · rintro rfl
    exact ((raises_cutInPlace registry source.toList).of_compile h offset rfl).symm

/-- An operand is due in front of the last character, which is at byte 3. -/
theorem offset_of_unterminated_calculator_at_two :
    let source := "\x7b#(é"
    (compile FilterSet.builtin.registry source).outcome =
        .error (.query ⟨.unterminatedCalculator, 2⟩) ∧
      LacksOperand source.toList ∧ 2 = utf8Length source.toList.dropLast.dropLast := by
  have h : (compile FilterSet.builtin.registry "\x7b#(é").outcome =
      .error (.query ⟨.unterminatedCalculator, 2⟩) := by cbv
  have hlacks : LacksOperand "\x7b#(é".toList := ⟨['\x7b'], ⟨'(', rfl⟩, [], 'é', rfl, .here⟩
  exact ⟨h, hlacks, (offset_of_unterminated _ _ _ _ h).2 rfl |>.2 hlacks⟩

/-- The error of a calculator does not always name the last character. -/
theorem exists_unterminated_before_last :
    ∃ (registry : Registry) (source : String) (offset : Nat),
      (compile registry source).outcome = .error (.query ⟨.unterminatedCalculator, offset⟩) ∧
        offset ≠ utf8Length source.toList.dropLast :=
  ⟨FilterSet.builtin.registry, "\x7b#(1", 2, by cbv, by decide⟩

end FilterQuery
