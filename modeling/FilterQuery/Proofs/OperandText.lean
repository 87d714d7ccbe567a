import FilterQuery.Proofs.ScanText

/-!
# What the scan of a calculator's operands reads

The operands of a calculator are scanned twice over: the loop of `operands` goes
from one operand to the next, the loop of `operandParts` over the characters of
one. The inner one keeps letters and digits apart and drops the blanks, so what
it returns is the text filtered in two ways; a `Term` filters its text in a third
way, by the blanks alone. The three agree as soon as one of the two kinds is
missing (`counts_of_no_letters`, `counts_of_no_digits`), which is what makes an
operand well formed.

The outer loop asks for two characters at every turn. Behind an operand there is
at least the bracket that closes the list, and behind that bracket at least one
character of the clause, so the condition never refuses a text of the grammar.
-/

namespace FilterQuery

open Grammar

theorem Arithmetic.symbol_of_ofSymbol? {c : Char} {k : Arithmetic}
    (h : Arithmetic.ofSymbol? c = some k) : c = k.symbol := by
  unfold ofSymbol? at h
  split at h <;> cases h <;> rfl

theorem Grammar.Term.value_text_ne_empty (term : Term) : term.value.text ≠ "" := by
  intro hempty
  have hspells := term.spells
  rw [hempty, List.filter_cons_of_pos (by simpa using term.head_counts)] at hspells
  cases hspells

namespace Scan

variable {c d p : Cursor}

/-! ## The characters of an operand -/

/-- The character behind an operand is its operator, or closes the list if it has
none. -/
def EndsOperand (x : Char) : Option Arithmetic → Prop
  | none => classify x = .closeBracket
  | some k => x = k.symbol

theorem EndsOperand.not_isOperandChar {x : Char} {k : Option Arithmetic}
    (h : EndsOperand x k) : isOperandChar x = false := by
  cases k with
  | none => rcases classify_eq_closeBracket.mp h with rfl | rfl | rfl <;> decide
  | some k =>
    obtain rfl : x = k.symbol := h
    cases k <;> decide

/-- Adding the characters of a kind one by one adds them all. -/
theorem push_filter (p : Char → Bool) (s : String) (x : Char) (t : List Char) :
    (if p x then s.push x else s) ++ String.ofList (t.filter p) =
      s ++ String.ofList ((x :: t).filter p) := by
  apply String.toList_injective
  cases hx : p x <;> simp [hx]

/-- How the scan of the characters of an operand ends: the text ends, or there is a
character that may not follow an operand, or one that may. -/
inductive OperandPartsEnd (p : Cursor) :
    Except CompileError ((String × String × Option Arithmetic) × Cursor) → Prop where
  | cut {text : List Char} {d : Cursor} (reads : p.Reads text d)
      (spelled : ∀ a ∈ text, isOperandChar a) (nothing : d.after = []) :
      OperandPartsEnd p (.error (errorAt d .unterminatedCalculator))
  | unknown {text : List Char} {d : Cursor} (reads : p.Reads (text ++ [d.current]) d)
      (spelled : ∀ a ∈ text, isOperandChar a) (other : isOperandChar d.current = false)
      (goes_on : d.currentClass ≠ .closeBracket)
      (none_such : Arithmetic.ofSymbol? d.current = none) :
      OperandPartsEnd p (.error (errorAt d (.unknownArithmetic d.current)))
  | found {text : List Char} {d : Cursor} {k : Option Arithmetic}
      (reads : p.Reads (text ++ [d.current]) d) (spelled : ∀ a ∈ text, isOperandChar a)
      (ends : EndsOperand d.current k) :
      OperandPartsEnd p (.ok ((String.ofList (text.filter isIdentifierChar),
        String.ofList (text.filter Char.isDigit), k), d))

theorem operandParts_chars {text : List Char} {x : Char}
    (htext : ∀ a ∈ text, isOperandChar a) :
    ∀ {letters digits : String} {p c : Cursor}, p.Reads [c.current] c →
      p.Reads (text ++ [x]) d →
      operandParts letters digits c =
        operandParts (letters ++ String.ofList (text.filter isIdentifierChar))
          (digits ++ String.ofList (text.filter Char.isDigit)) d := by
  induction text with
  | nil =>
    intro letters digits p c hp h
    obtain ⟨-, hd⟩ := Cursor.reads_head hp h
    obtain rfl := Cursor.reads_nil.mp hd
    simp
  | cons a text ih =>
    intro letters digits p c hp h
    obtain ⟨rfl, hd⟩ := Cursor.reads_head hp h
    obtain ⟨e, he⟩ : ∃ e, c.Reads [e.current] e := by
      cases text with
      | nil => exact ⟨d, hd.current_eq_of_step ▸ hd⟩
      | cons b text =>
        obtain ⟨e, he, -⟩ := Cursor.reads_cons.mp hd
        exact ⟨e, he.current_eq_of_step ▸ he⟩
    rw [operandParts, if_pos (htext _ (by simp)), stepForward_eq_ok_iff.mpr he]
    simp only
    rw [ih (fun b hb => htext b (by simp [hb])) he hd, push_filter, push_filter]

theorem operandParts_stop {letters digits : String} {k : Option Arithmetic}
    (hd : EndsOperand d.current k) :
    operandParts letters digits d = .ok ((letters, digits, k), d) := by
  have hend : ¬ isOperandChar d.current = true := by simp [hd.not_isOperandChar]
  rw [operandParts, if_neg hend]
  cases k with
  | none =>
    have hclose : d.currentClass = .closeBracket := hd
    simp [hclose]
  | some k =>
    have hk : d.current = k.symbol := hd
    have hclose : d.currentClass ≠ .closeBracket := by
      rw [Cursor.currentClass, hk]
      cases k <;> decide
    simp [hclose, hk, Arithmetic.ofSymbol?_symbol]

theorem operandParts_of_reads {text : List Char} {k : Option Arithmetic}
    (hp : p.Reads [c.current] c) (htext : ∀ a ∈ text, isOperandChar a)
    (h : p.Reads (text ++ [d.current]) d) (hd : EndsOperand d.current k) :
    operandParts "" "" c = .ok ((String.ofList (text.filter isIdentifierChar),
      String.ofList (text.filter Char.isDigit), k), d) := by
  rw [operandParts_chars htext hp h, operandParts_stop hd]
  simp

theorem operandParts_ends (hp : p.Reads [c.current] c) :
    OperandPartsEnd p (operandParts "" "" c) := by
  obtain ⟨text, d, hread, htext, hnil | ⟨m, hm, hother⟩⟩ := p.exists_reads_while isOperandChar
  -- the scan runs out under the last character, so that one is split off
  · rcases List.eq_nil_or_concat text with rfl | ⟨front, x, htext_eq⟩
    · obtain rfl := Cursor.reads_nil.mp hread
      simp [hp.after] at hnil
    rw [List.concat_eq_append] at htext_eq
    subst htext_eq
    obtain rfl : d.current = x := hread.current_eq
    rw [operandParts_chars (fun a ha => htext a (by simp [ha])) hp hread, operandParts,
      if_pos (htext _ (by simp)), stepForward_of_after_nil hnil]
    exact .cut hread htext hnil
  · have hread' := hread.trans hm
    by_cases hclose : m.currentClass = .closeBracket
    · rw [operandParts_of_reads (k := none) hp htext hread' hclose]
      exact .found hread' htext hclose
    cases hk : Arithmetic.ofSymbol? m.current with
    | some k =>
      have hend : EndsOperand m.current (some k) := Arithmetic.symbol_of_ofSymbol? hk
      rw [operandParts_of_reads hp htext hread' hend]
      exact .found hread' htext hend
    | none =>
      rw [operandParts_chars htext hp hread', operandParts, if_neg (by simp [hother]),
        if_neg hclose, hk]
      exact .unknown hread' htext hother hclose hk

/-! ## One operand -/

theorem resolve_eq_ok_iff {registry : Registry} {identifier : String} {start : Cursor}
    {kind : Kind} :
    resolve registry identifier start = .ok kind ↔ registry.lookup identifier = some kind := by
  unfold resolve
  cases registry.lookup identifier <;> simp

theorem isIdentifierChar_counts (a : Char) (h : isIdentifierChar a) :
    classify a ≠ .whitespace := by
  simp [classify_of_isIdentifierChar h]

theorem isDigit_counts (a : Char) (h : a.isDigit) : classify a ≠ .whitespace := by
  simp [classify_of_isDigit h]

theorem counted_filter {q : Char → Bool} (hq : ∀ a, q a → classify a ≠ .whitespace)
    (t : List Char) :
    (t.filter (classify · ≠ .whitespace)).filter q = t.filter q := by
  rw [List.filter_filter]
  refine List.filter_congr fun a _ => ?_
  cases ha : q a with
  | false => rfl
  | true => simp [hq a ha]

theorem isOperandChar_of_term (term : Term) : ∀ a ∈ term.text, isOperandChar a := by
  intro a ha
  by_cases hblank : classify a = .whitespace
  · simp [isOperandChar, hblank]
  · have hmem : a ∈ term.value.text.toList := by
      rw [← term.spells]
      exact List.mem_filter.mpr ⟨ha, by simpa using hblank⟩
    have huniform := term.uniform
    generalize term.value = value at hmem huniform
    cases value with
    | filter identifier => simp [isOperandChar, huniform a hmem]
    | literal digits => simp [isOperandChar, huniform a hmem]

theorem operandValue_of_uniform {registry : Registry} {value : OperandValue} {start : Cursor}
    (huniform : Uniform value) (hne : value.text.toList ≠ [])
    (hvalid : ∀ identifier, value = .filter identifier →
      registry.lookup identifier = some .numerical) :
    operandValue registry (String.ofList (value.text.toList.filter isIdentifierChar))
      (String.ofList (value.text.toList.filter Char.isDigit)) start = .ok value := by
  have hnil : "".isEmpty = true := rfl
  cases value with
  | filter identifier =>
    have hletters : identifier.toList.filter isIdentifierChar = identifier.toList :=
      List.filter_eq_self.mpr huniform
    have hdigits : identifier.toList.filter Char.isDigit = [] :=
      List.filter_eq_nil_iff.mpr fun a ha => by
        simp [not_isDigit_of_isIdentifierChar (huniform a ha)]
    have hempty : identifier.isEmpty = false := by
      simpa [OperandValue.text] using hne
    simp only [OperandValue.text, hletters, hdigits, String.ofList_toList]
    simp [operandValue, resolve, hempty, hnil, hvalid identifier rfl, bind, Except.bind]
  | literal digits =>
    have hdigits : digits.toList.filter Char.isDigit = digits.toList :=
      List.filter_eq_self.mpr huniform
    have hletters : digits.toList.filter isIdentifierChar = [] :=
      List.filter_eq_nil_iff.mpr fun a ha hletter => by
        have hdigit : a.isDigit = true := huniform a ha
        rw [not_isDigit_of_isIdentifierChar hletter] at hdigit
        cases hdigit
    have hempty : digits.isEmpty = false := by
      simpa [OperandValue.text] using hne
    simp only [OperandValue.text, hletters, hdigits, String.ofList_toList]
    simp [operandValue, hempty, hnil]

/-- In an operand without letters the digits are all that counts. -/
theorem counts_of_no_letters {text : List Char} (htext : ∀ a ∈ text, isOperandChar a)
    (hletters : text.filter isIdentifierChar = []) :
    text.filter (classify · ≠ .whitespace) = text.filter Char.isDigit := by
  refine List.filter_congr fun a ha => ?_
  have hletter : isIdentifierChar a = false := by
    simpa using List.filter_eq_nil_iff.mp hletters a ha
  have hoperand := htext a ha
  cases hdigit : a.isDigit with
  | false => simpa [isOperandChar, hletter, hdigit] using hoperand
  | true => simp [isDigit_counts a hdigit]

/-- In an operand without digits the letters are all that counts. -/
theorem counts_of_no_digits {text : List Char} (htext : ∀ a ∈ text, isOperandChar a)
    (hdigits : text.filter Char.isDigit = []) :
    text.filter (classify · ≠ .whitespace) = text.filter isIdentifierChar := by
  refine List.filter_congr fun a ha => ?_
  have hdigit : a.isDigit = false := by
    simpa using List.filter_eq_nil_iff.mp hdigits a ha
  have hoperand := htext a ha
  cases hletter : isIdentifierChar a with
  | false => simpa [isOperandChar, hletter, hdigit] using hoperand
  | true => simp [isIdentifierChar_counts a hletter]

theorem operand_of_reads {registry : Registry} {term : Term} {k : Option Arithmetic}
    (hp : p.Reads [c.current] c) (h : p.Reads (term.text ++ [d.current]) d)
    (hvalid : term.Valid registry) (hx : EndsOperand d.current k) :
    operand registry c = .ok (⟨term.value, k⟩, d) := by
  have hspells : term.text.filter (classify · ≠ .whitespace) = term.value.text.toList :=
    term.spells
  have hne : term.value.text.toList ≠ [] := by simpa using term.value_text_ne_empty
  have hvalue : operandValue registry (String.ofList (term.text.filter isIdentifierChar))
      (String.ofList (term.text.filter Char.isDigit)) c = .ok term.value := by
    rw [← counted_filter isIdentifierChar_counts, ← counted_filter isDigit_counts, hspells]
    refine operandValue_of_uniform term.uniform hne fun identifier hid => ?_
    rw [Term.Valid, hid] at hvalid
    exact hvalid
  unfold operand
  rw [operandParts_of_reads hp (isOperandChar_of_term term) h hx]
  simp only [bind, Except.bind, hvalue]

/-- A text that is uniform spells a term. -/
theorem exists_term {text : List Char} {x : Char} (value : OperandValue)
    (hp : p.Reads [c.current] c) (hcounts : c.currentClass ≠ .whitespace)
    (h : p.Reads (text ++ [x]) d)
    (hspells : text.filter (classify · ≠ .whitespace) = value.text.toList)
    (huniform : Uniform value) (hne : value.text.toList ≠ []) :
    ∃ term : Term, term.text = text ∧ term.value = value := by
  cases text with
  | nil => exact absurd hspells.symm hne
  | cons a tail =>
    obtain ⟨rfl, -⟩ := Cursor.reads_head hp h
    exact ⟨⟨c.current, tail, value, hcounts, hspells, huniform⟩, rfl, rfl⟩

/-- How the scan of an operand ends. Its characters may not be those of an operand; or
they are, but letters and digits are mixed or both missing; or they name no
filter, or one that is not numerical; or the operand is in order. -/
inductive OperandEnds (registry : Registry) (p c : Cursor) :
    Except CompileError (Operand × Cursor) → Prop where
  | parts {e : CompileError} (ends : OperandPartsEnd p (.error e)) :
      OperandEnds registry p c (.error e)
  | malformed {text : List Char} {d : Cursor} (reads : p.Reads (text ++ [d.current]) d)
      (spelled : ∀ a ∈ text, isOperandChar a) (stops : isOperandChar d.current = false)
      (mixed : text.filter isIdentifierChar = [] ↔ text.filter Char.isDigit = []) :
      OperandEnds registry p c (.error (errorAt c .malformedOperand))
  | unregistered {text : List Char} {identifier : String} {d : Cursor} {k : Option Arithmetic}
      (reads : p.Reads (text ++ [d.current]) d)
      (spells : text.filter (classify · ≠ .whitespace) = identifier.toList)
      (none_such : registry.lookup identifier = none) (ends : EndsOperand d.current k) :
      OperandEnds registry p c
        (.error (errorAt c (.unknownFilter identifier (registry.suggest identifier))))
  | textual {text : List Char} {identifier : String} {d : Cursor}
      (reads : p.Reads (text ++ [d.current]) d)
      (spells : text.filter (classify · ≠ .whitespace) = identifier.toList)
      (registered : registry.lookup identifier = some .text) :
      OperandEnds registry p c (.error (errorAt c (.invalidOperandType identifier .text)))
  | found {term : Term} {d : Cursor} {k : Option Arithmetic}
      (reads : p.Reads (term.text ++ [d.current]) d) (valid : term.Valid registry)
      (ends : EndsOperand d.current k) :
      OperandEnds registry p c (.ok (⟨term.value, k⟩, d))

theorem operandValue_mixed {registry : Registry} {l g : List Char} (h : l = [] ↔ g = []) :
    operandValue registry (String.ofList l) (String.ofList g) c =
      .error (errorAt c .malformedOperand) := by
  unfold operandValue
  rw [isEmpty_ofList, isEmpty_ofList]
  cases l <;> cases g <;> simp_all

theorem operandValue_letters {registry : Registry} {l : List Char} (h : l ≠ []) :
    operandValue registry (String.ofList l) (String.ofList []) c =
      (resolve registry (String.ofList l) c).bind fun
        | .numerical => .ok (.filter (String.ofList l))
        | .text => .error (errorAt c (.invalidOperandType (String.ofList l) .text)) := by
  unfold operandValue
  rw [isEmpty_ofList, isEmpty_ofList, List.isEmpty_eq_false_iff.mpr h]
  rfl

theorem operand_of_parts {registry : Registry} {l g : String} {k : Option Arithmetic}
    (h : operandParts "" "" c = .ok ((l, g, k), d)) :
    operand registry c = (operandValue registry l g c).map fun value => (⟨value, k⟩, d) := by
  unfold operand
  rw [h]
  rfl

theorem operand_of_parts_error {registry : Registry} {e : CompileError}
    (h : operandParts "" "" c = .error e) : operand registry c = .error e := by
  unfold operand
  rw [h]
  rfl

theorem operand_ends (registry : Registry) (hp : p.Reads [c.current] c)
    (hcounts : c.currentClass ≠ .whitespace) :
    OperandEnds registry p c (operand registry c) := by
  have hparts := operandParts_ends hp
  generalize hresult : operandParts "" "" c = result at hparts
  cases hparts with
  | cut hread htext hnil =>
    rw [operand_of_parts_error hresult]
    exact .parts (.cut hread htext hnil)
  | unknown hread htext hother hclose hnone =>
    rw [operand_of_parts_error hresult]
    exact .parts (.unknown hread htext hother hclose hnone)
  | @found text d k hread htext hends =>
    by_cases hmixed : text.filter isIdentifierChar = [] ↔ text.filter Char.isDigit = []
    · rw [operand_of_parts hresult, operandValue_mixed hmixed]
      exact .malformed hread htext hends.not_isOperandChar hmixed
    by_cases hletters : text.filter isIdentifierChar = []
    · have hdigits : text.filter Char.isDigit ≠ [] := by simpa [hletters] using hmixed
      have hspells := counts_of_no_letters htext hletters
      obtain ⟨term, rfl, hvalue⟩ :=
        exists_term (.literal (String.ofList (text.filter Char.isDigit))) hp hcounts
          hread (by simpa [OperandValue.text] using hspells) (by simp [Uniform])
          (by simpa [OperandValue.text] using hdigits)
      have hvalid : term.Valid registry := by
        rw [Term.Valid, hvalue]
        trivial
      rw [operand_of_reads hp hread hvalid hends]
      exact .found hread hvalid hends
    · have hdigits : text.filter Char.isDigit = [] := by simpa [hletters] using hmixed
      have hspells : text.filter (classify · ≠ .whitespace) =
          (String.ofList (text.filter isIdentifierChar)).toList := by
        rw [counts_of_no_digits htext hdigits, String.toList_ofList]
      cases hkind : registry.lookup (String.ofList (text.filter isIdentifierChar)) with
      | none =>
        rw [operand_of_parts hresult, hdigits, operandValue_letters hletters, resolve, hkind]
        exact .unregistered hread hspells hkind hends
      | some kind =>
        cases kind with
        | text =>
          rw [operand_of_parts hresult, hdigits, operandValue_letters hletters, resolve, hkind]
          exact .textual hread hspells hkind
        | numerical =>
          obtain ⟨term, rfl, hvalue⟩ :=
            exists_term (.filter (String.ofList (text.filter isIdentifierChar))) hp
              hcounts hread hspells (by simp [Uniform])
              (by simpa [OperandValue.text] using hletters)
          have hvalid : term.Valid registry := by
            rw [Term.Valid, hvalue]
            exact hkind
          rw [operand_of_reads hp hread hvalid hends]
          exact .found hread hvalid hends

theorem reads_of_operand {registry : Registry} {one : Operand} (hp : p.Reads [c.current] c)
    (hcounts : c.currentClass ≠ .whitespace) (h : operand registry c = .ok (one, d)) :
    ∃ term : Term, p.Reads (term.text ++ [d.current]) d ∧ term.Valid registry ∧
      one.value = term.value ∧ EndsOperand d.current one.arithmetic := by
  have hends := operand_ends registry hp hcounts
  rw [h] at hends
  cases hends with
  | found hread hvalid hend => exact ⟨_, hread, hvalid, rfl, hend⟩

/-! ## The list of operands -/

theorem reads_of_operands {registry : Registry} {found newest : List Operand}
    (hfound : ∀ o ∈ found.head?, o.arithmetic ≠ none)
    (hnewest : ∃ o ∈ newest.head?, o.arithmetic = none)
    (h : operands registry found c = .ok (newest, d)) :
    ∃ sum : Sum, c.Reads sum.text d ∧ sum.Valid registry ∧
      newest = sum.operands.reverse ++ found := by
  fun_induction operands registry found c with
  | case1 => cases h
  | case2 found c htwo m step hm ih =>
    obtain ⟨sum, hread, hvalid, hsum⟩ := ih hfound h
    exact ⟨.dropped ⟨m.current, .inl hm⟩ sum, (stepOn_eq_ok_iff.mp step).trans hread,
      hvalid, hsum⟩
  | case3 found c htwo m step hm ih =>
    obtain ⟨sum, hread, hvalid, hsum⟩ := ih hfound h
    exact ⟨.dropped ⟨m.current, .inr hm⟩ sum, (stepOn_eq_ok_iff.mp step).trans hread,
      hvalid, hsum⟩
  | case4 found c htwo m step hm =>
    cases h
    -- a list that ends before an operand is empty, or its last operator is left over
    obtain ⟨o, ho, hnone⟩ := hnewest
    exact absurd hnone (hfound o ho)
  | case5 => cases h
  | case6 found c htwo m step one e hone hclose hblank hopen hnoclose =>
    cases h
    obtain ⟨term, hread, hvalid, hvalue, hx⟩ :=
      reads_of_operand (stepOn_eq_ok_iff.mp step) hblank hone
    obtain ⟨o, ho, hnone⟩ := hnewest
    obtain rfl : one = o := Option.some.inj ho
    rw [hnone] at hx
    refine ⟨.last term ⟨d.current, hx⟩, hread, hvalid, ?_⟩
    cases one
    simp_all [Sum.operands]
  | case7 found c htwo m step one e hone hclose hblank hopen hnoclose ih =>
    obtain ⟨term, hread, hvalid, hvalue, hx⟩ :=
      reads_of_operand (stepOn_eq_ok_iff.mp step) hblank hone
    obtain ⟨value, arithmetic⟩ := one
    cases arithmetic with
    | none => exact absurd hx hclose
    | some k =>
      have hk : e.current = k.symbol := hx
      obtain rfl : value = term.value := hvalue
      obtain ⟨sum, hread', hvalid', hsum⟩ := ih (by simp) h
      refine ⟨.more term k sum, ?_, ⟨hvalid, hvalid'⟩, ?_⟩
      · simpa [Sum.text, hk] using hread.trans hread'
      · rw [hsum]
        simp [Sum.operands]
  | case8 => cases h

/-- The scan moves forward, whether or not an operator is left over. -/
theorem exists_reads_of_operands {registry : Registry} {found newest : List Operand}
    (h : operands registry found c = .ok (newest, d)) : ∃ t, c.Reads t d := by
  fun_induction operands registry found c with
  | case1 => cases h
  | case2 found c htwo m step hm ih | case3 found c htwo m step hm ih =>
    obtain ⟨t, hread⟩ := ih h
    exact ⟨_, (stepOn_eq_ok_iff.mp step).trans hread⟩
  | case4 found c htwo m step hm =>
    cases h
    exact ⟨_, stepOn_eq_ok_iff.mp step⟩
  | case5 => cases h
  | case6 found c htwo m step one e hone hclose hblank hopen hnoclose =>
    cases h
    obtain ⟨term, hread, -⟩ := reads_of_operand (stepOn_eq_ok_iff.mp step) hblank hone
    exact ⟨_, hread⟩
  | case7 found c htwo m step one e hone hclose hblank hopen hnoclose ih =>
    obtain ⟨term, hread, -⟩ := reads_of_operand (stepOn_eq_ok_iff.mp step) hblank hone
    obtain ⟨t, hread'⟩ := ih h
    exact ⟨_, hread.trans hread'⟩
  | case8 => cases h

/-- How the scan of a list of operands fails: too little of the text is left for one
more, or the next one is not in order. -/
inductive OperandsFail (registry : Registry) (c : Cursor) : CompileError → Prop where
  | cut {text : List Char} {d : Cursor} (reads : c.Reads text d)
      (few : d.hasTwoNext = false) :
      OperandsFail registry c (errorAt d .unterminatedCalculator)
  | operand {text : List Char} {d m : Cursor} {e : CompileError} (reads : c.Reads text d)
      (first : d.Reads [m.current] m) (counts : m.currentClass ≠ .whitespace)
      (begins : m.currentClass ≠ .openBracket) (goes_on : m.currentClass ≠ .closeBracket)
      (ends : OperandEnds registry d m (.error e)) : OperandsFail registry c e

theorem OperandsFail.of_reads {registry : Registry} {t : List Char} {e : CompileError}
    (h : c.Reads t d) (hd : OperandsFail registry d e) : OperandsFail registry c e := by
  cases hd with
  | cut hread hfew => exact .cut (h.trans hread) hfew
  | operand hread hfirst hcounts hopen hclose hends =>
    exact .operand (h.trans hread) hfirst hcounts hopen hclose hends

theorem operands_fail {registry : Registry} {found : List Operand} {e : CompileError}
    (h : operands registry found c = .error e) : OperandsFail registry c e := by
  fun_induction operands registry found c with
  | case1 found c htwo e' step => exact absurd step (stepOn_ne_error htwo)
  | case2 found c htwo m step hm ih => exact (ih h).of_reads (stepOn_eq_ok_iff.mp step)
  | case3 found c htwo m step hm ih => exact (ih h).of_reads (stepOn_eq_ok_iff.mp step)
  | case4 => cases h
  | case5 found c htwo m step e' hone hblank hopen hclose =>
    cases h
    have hm : c.Reads [m.current] m := stepOn_eq_ok_iff.mp step
    exact .operand (.refl c) hm hblank hopen hclose (hone ▸ operand_ends registry hm hblank)
  | case6 => cases h
  | case7 found c htwo m step one e' hone hnone hblank hopen hclose ih =>
    obtain ⟨term, hread, -⟩ := reads_of_operand (stepOn_eq_ok_iff.mp step) hblank hone
    exact (ih h).of_reads hread
  | case8 found c htwo =>
    cases h
    exact .cut (.refl c) (by simpa using htwo)

theorem hasTwoNext_of_reads {t : List Char} (h : c.Reads t d) (ht : t ≠ [])
    (hafter : d.after ≠ []) : c.hasTwoNext = true := by
  have hlength := List.length_pos_iff.mpr ht
  have hlength' := List.length_pos_iff.mpr hafter
  rw [Cursor.hasTwoNext_iff, h.remaining_eq]
  simp only [Cursor.remaining]
  omega

section

variable {registry : Registry} {found : List Operand} {m : Cursor} {x : Char}

theorem operands_dropped (h : c.Reads [x] m) (hafter : m.after ≠ [])
    (hx : classify x = .whitespace ∨ classify x = .openBracket) :
    operands registry found c = operands registry found m := by
  obtain ⟨step, rfl⟩ := stepOn_of_reads h
  rw [operands, if_pos (hasTwoNext_of_reads h (by simp) hafter), step]
  rcases hx with hx | hx <;> simp only [Cursor.currentClass, hx]

theorem classify_of_isOperandChar (h : isOperandChar x) (hcounts : classify x ≠ .whitespace) :
    classify x = .other := by
  simp only [isOperandChar, Bool.or_eq_true, decide_eq_true_eq] at h
  rcases h with (hblank | hletter) | hdigit
  · exact absurd hblank hcounts
  · exact classify_of_isIdentifierChar hletter
  · exact classify_of_isDigit hdigit

theorem classify_head (term : Term) : classify term.head = .other :=
  classify_of_isOperandChar (isOperandChar_of_term term term.head (by simp [Term.text]))
    term.head_counts

/-- The operand that begins behind the cursor comes next. -/
theorem operands_first (htwo : c.hasTwoNext) (h : c.Reads [m.current] m)
    (hm : m.currentClass = .other) :
    operands registry found c =
      match operand registry m with
      | .error e => .error e
      | .ok (one, e) =>
        if e.currentClass = .closeBracket then .ok (one :: found, e)
        else operands registry (one :: found) e := by
  rw [operands, if_pos htwo, stepOn_eq_ok_iff.mpr h]
  simp only [hm]
  cases operand registry m <;> rfl

theorem operands_term {term : Term} {k : Option Arithmetic} (hvalid : term.Valid registry)
    (h : c.Reads (term.text ++ [d.current]) d) (hafter : d.after ≠ [])
    (hx : EndsOperand d.current k) :
    operands registry found c =
      if k = none then .ok (⟨term.value, k⟩ :: found, d)
      else operands registry (⟨term.value, k⟩ :: found) d := by
  obtain ⟨m, hm, -⟩ := Cursor.reads_cons.mp h
  have hhead := hm.current_eq_of_step
  have hfirst : m.currentClass = .other := by rw [Cursor.currentClass, hhead, classify_head]
  have hone : operand registry m = .ok (⟨term.value, k⟩, d) :=
    operand_of_reads (hhead ▸ hm) h hvalid hx
  have hclose : classify d.current = .closeBracket ↔ k = none := by
    cases k with
    | none => exact ⟨fun _ => rfl, fun _ => hx⟩
    | some k =>
      have hk : d.current = k.symbol := hx
      rw [hk]
      cases k <;> decide
  rw [operands_first (hasTwoNext_of_reads h (by simp) hafter) (hhead ▸ hm) hfirst, hone]
  simp only [Cursor.currentClass, hclose]

end

theorem operands_of_reads {registry : Registry} {sum : Sum} (hvalid : sum.Valid registry)
    (hafter : d.after ≠ []) :
    ∀ {found : List Operand} {c : Cursor}, c.Reads sum.text d →
      operands registry found c = .ok (sum.operands.reverse ++ found, d) := by
  induction sum with
  | dropped a rest ih =>
    intro found c h
    obtain ⟨m, hm, hread⟩ := Cursor.reads_cons.mp h
    have hne : m.after ≠ [] := by simp [hread.after, hafter]
    rw [operands_dropped hm hne a.property, ih hvalid hread]
    rfl
  | last term closing =>
    intro found c h
    have hlast : d.current = closing.val := Cursor.Reads.current_eq h
    have hx : EndsOperand d.current none := hlast ▸ closing.property
    rw [operands_term hvalid (hlast ▸ h) hafter hx, if_pos rfl]
    rfl
  | more term k rest ih =>
    intro found c h
    obtain ⟨hterm, hrest⟩ := hvalid
    have hsplit : (Sum.more term k rest).text = term.text ++ [k.symbol] ++ rest.text := by
      simp [Sum.text]
    obtain ⟨m, hm, hread⟩ := Cursor.reads_append.mp (hsplit ▸ h)
    have hne : m.after ≠ [] := by simp [hread.after, hafter]
    have hlast : m.current = k.symbol := hm.current_eq
    have hx : EndsOperand m.current (some k) := hlast
    rw [operands_term hterm (hlast ▸ hm) hne hx, if_neg (by simp), ih hrest hread]
    simp [Sum.operands]

end Scan

end FilterQuery
