import FilterQuery.Proofs.Walk
import FilterQuery.Proofs.Grammar

/-!
# What the scans of a filter read

A scan runs on over characters of one kind, until there is one of another kind or
none at all. So there are few ways for it to end, and for each scan an inductive
lists them all (`IdentifierEnds` and so on): with the text that has been read
until then, and with the error and the place of it where the scan fails. What a
scan accepts and what it complains about are read off there.

The other direction is a lemma for each scan (`identifier_of_reads` and so on):
where a text of its part of the grammar comes next, followed by a character that
ends it, the scan succeeds. This is what makes the scans fit together, since each
of them stops in front of whatever the grammar lets follow.

Both rest on one induction over the text that is run over, in which the turn for
the first character leaves the scan of the others.
-/

namespace FilterQuery

theorem classify_eq_doubleQuote {c : Char} : classify c = .doubleQuote ↔ c = '"' := by
  unfold classify
  split <;> simp_all

theorem classify_eq_escape {c : Char} : classify c = .escape ↔ c = '\\' := by
  unfold classify
  split <;> simp_all

theorem classify_of_isIdentifierChar {c : Char} (h : isIdentifierChar c = true) :
    classify c = .other := by
  unfold classify
  split <;> first | rfl | exact absurd h (by decide)

theorem classify_eq_closeBracket {c : Char} :
    classify c = .closeBracket ↔ c = ')' ∨ c = '}' ∨ c = ']' := by
  unfold classify
  split <;> simp_all

theorem classify_of_isDigit {a : Char} (h : a.isDigit) : classify a = .other := by
  unfold classify
  split <;> first | rfl | exact absurd h (by decide)

theorem not_isDigit_of_isIdentifierChar {a : Char} (h : isIdentifierChar a) :
    a.isDigit = false := by
  simp only [isIdentifierChar, Char.isAlpha, Char.isUpper, Char.isLower, Bool.or_eq_true,
    Bool.and_eq_true, decide_eq_true_eq, beq_iff_eq, ge_iff_le, UInt32.le_iff_toNat_le] at h
  rcases h with h | rfl
  · simp only [Char.isDigit, Bool.and_eq_false_iff, decide_eq_false_iff_not, ge_iff_le,
      UInt32.le_iff_toNat_le]
    right
    have h9 : '9'.val.toNat = 57 := rfl
    have hA : 'A'.val.toNat = 65 := rfl
    have ha : 'a'.val.toNat = 97 := rfl
    omega
  · decide

namespace Grammar

variable {c : Char} {t : List Char}

theorem bare_cons (hescape : classify c ≠ .escape) (hquote : classify c ≠ .doubleQuote)
    (hclose : classify c ≠ .closeBracket) (ht : bare t) : bare (c :: t) := by
  have hx : c ≠ '\\' := fun h => hescape (classify_eq_escape.mpr h)
  have hq : c ≠ '"' := fun h => hquote (classify_eq_doubleQuote.mpr h)
  simp [bare, hx, hq, hclose, ht]

/-- The condition under which the last case of `bare` holds, in terms of classes. -/
theorem of_bare_cons (h : (c ≠ '"' && c ≠ '\\' && classify c ≠ .closeBracket && bare t) = true) :
    classify c ≠ .escape ∧ classify c ≠ .doubleQuote ∧ classify c ≠ .closeBracket ∧
      bare t = true := by
  simp only [ne_eq, decide_not, Bool.and_eq_true, Bool.not_eq_true', decide_eq_false_iff_not,
    classify_eq_escape, classify_eq_doubleQuote] at h ⊢
  obtain ⟨⟨⟨hquote, hescape⟩, hclose⟩, ht⟩ := h
  exact ⟨hescape, hquote, hclose, ht⟩

theorem decode_blank (hc : classify c = .whitespace) : decode (c :: t) = decode t := by
  have hx : c ≠ '\\' := by rintro rfl; cases hc
  simp [decode, hx, hc]

theorem decode_plain (hc : classify c ≠ .escape) (hw : classify c ≠ .whitespace) :
    decode (c :: t) = c :: decode t := by
  have hx : c ≠ '\\' := fun h => hc (classify_eq_escape.mpr h)
  simp [decode, hx, hw]

theorem escapes_cons (hc : classify c ≠ .escape) : escapes (c :: t) = escapes t := by
  have hx : c ≠ '\\' := fun h => hc (classify_eq_escape.mpr h)
  simp [escapes, hx]

theorem connector?_eq_some_iff {k : Connector} :
    connector? c = some k ↔ c = k.symbol := by
  unfold connector? classify
  constructor
  · cases k <;> (split <;> simp_all [Connector.symbol]) <;> split at * <;> simp_all
  · rintro rfl
    cases k <;> rfl

theorem skipDiagnostics_append (offset : Nat) (s t : List Char) :
    skipDiagnostics offset (s ++ t) =
      skipDiagnostics offset s ++ skipDiagnostics (offset + utf8Length s) t := by
  induction s generalizing offset with
  | nil => rfl
  | cons c s ih =>
    simp only [List.cons_append, skipDiagnostics, ih, utf8Length_cons, Nat.add_assoc]
    split <;> rfl

/-! ## Blanks -/

@[simp] theorem blanks_nil : Blanks [] := by simp [Blanks]

@[simp] theorem blanks_cons : Blanks (c :: t) ↔ classify c = .whitespace ∧ Blanks t := by
  simp [Blanks]

namespace Blanks

theorem append {s t : List Char} (hs : Blanks s) (ht : Blanks t) : Blanks (s ++ t) := by
  intro c hc
  rcases List.mem_append.mp hc with hc | hc
  · exact hs c hc
  · exact ht c hc

theorem bare {t : List Char} (h : Blanks t) : bare t := by
  induction t with
  | nil => rfl
  | cons c t ih =>
    have hc : classify c = .whitespace := h c List.mem_cons_self
    exact bare_cons (by simp [hc]) (by simp [hc]) (by simp [hc])
      (ih fun a ha => h a (List.mem_cons_of_mem c ha))

theorem escapes_eq_nil {t : List Char} (h : Blanks t) : escapes t = [] := by
  induction t with
  | nil => rfl
  | cons c t ih =>
    have hc : classify c = .whitespace := h c List.mem_cons_self
    rw [escapes_cons (by simp [hc])]
    exact ih fun a ha => h a (List.mem_cons_of_mem c ha)

theorem skipDiagnostics_eq_nil {t : List Char} (h : Blanks t) (offset : Nat) :
    skipDiagnostics offset t = [] := by
  induction t generalizing offset with
  | nil => rfl
  | cons c t ih =>
    simp only [skipDiagnostics, if_pos (h c List.mem_cons_self)]
    exact ih (fun a ha => h a (List.mem_cons_of_mem c ha)) _

end Blanks

end Grammar

open Grammar

theorem Comparison.symbol_of_ofSymbol? {s : String} {k : Comparison}
    (h : Comparison.ofSymbol? s = some k) : s = k.symbol := by
  unfold ofSymbol? at h
  split at h <;> cases h <;> rfl

theorem Comparison.exists_symbol_eq_cons (k : Comparison) :
    ∃ x t, k.symbol.toList = x :: t ∧ classify x = .other ∧ isIdentifierChar x = false := by
  cases k <;> exact ⟨_, _, rfl, by decide, by decide⟩

/-- A cursor may walk on over the blanks. -/
theorem Cursor.exists_blanks (c : Cursor) :
    ∃ blanks d, c.Reads blanks d ∧ Blanks blanks ∧
      (d.after = [] ∨ ∃ m, d.Reads [m.current] m ∧ m.currentClass ≠ .whitespace) := by
  simpa [Blanks, Cursor.currentClass] using
    c.exists_reads_while (classify · = .whitespace)

namespace Scan

variable {c d : Cursor}

/-! ## The identifier -/

/-- How the scan of an identifier ends: behind the letters the text ends, or there is a
closing bracket, or another character. -/
inductive IdentifierEnds (c : Cursor) : Except CompileError (String × Cursor) → Prop where
  | cut {letters : List Char} {d : Cursor} (reads : c.Reads letters d)
      (spelled : ∀ a ∈ letters, isIdentifierChar a) (nothing : d.after = []) :
      IdentifierEnds c (.error (errorAt d (.unterminatedFilter (String.ofList letters))))
  | bracket {letters : List Char} {d : Cursor} (reads : c.Reads (letters ++ [d.current]) d)
      (spelled : ∀ a ∈ letters, isIdentifierChar a)
      (closes : d.currentClass = .closeBracket) :
      IdentifierEnds c (.error (errorAt d (.missingOperator (String.ofList letters))))
  | found {letters : List Char} {d : Cursor} (reads : c.Reads (letters ++ [d.current]) d)
      (spelled : ∀ a ∈ letters, isIdentifierChar a)
      (other : isIdentifierChar d.current = false) (goes_on : d.currentClass ≠ .closeBracket) :
      IdentifierEnds c (.ok (String.ofList letters, d))

theorem identifier_letters {letters : List Char}
    (hletters : ∀ a ∈ letters, isIdentifierChar a) :
    ∀ {found : String} {c : Cursor}, c.Reads letters d →
      identifier found c = identifier (found ++ String.ofList letters) d := by
  induction letters with
  | nil =>
    intro found c h
    obtain rfl := Cursor.reads_nil.mp h
    simp
  | cons a letters ih =>
    intro found c h
    obtain ⟨m, ha, hread⟩ := Cursor.reads_cons.mp h
    obtain ⟨step, rfl⟩ := stepForward_of_reads ha (.unterminatedFilter found)
    have hletter : isIdentifierChar m.current := hletters _ (by simp)
    rw [identifier, step]
    simp only [Cursor.currentClass, classify_of_isIdentifierChar hletter, hletter, if_true]
    rw [ih (fun b hb => hletters b (by simp [hb])) hread]
    congr 1
    apply String.toList_injective
    simp

theorem identifier_stop (found : String) (h : c.Reads [d.current] d)
    (hother : isIdentifierChar d.current = false) :
    identifier found c =
      if d.currentClass = .closeBracket then .error (errorAt d (.missingOperator found))
      else .ok (found, d) := by
  rw [identifier, stepForward_eq_ok_iff.mpr h]
  simp only [hother, Bool.false_eq_true, if_false]
  split <;> simp_all

theorem identifier_of_reads {letters : List Char}
    (hletters : ∀ a ∈ letters, isIdentifierChar a)
    (hother : isIdentifierChar d.current = false) (hclose : d.currentClass ≠ .closeBracket)
    (h : c.Reads (letters ++ [d.current]) d) :
    identifier "" c = .ok (String.ofList letters, d) := by
  obtain ⟨m, hm, hd⟩ := Cursor.reads_append.mp h
  rw [identifier_letters hletters hm, identifier_stop _ hd hother, if_neg hclose]
  simp

theorem identifier_ends (c : Cursor) : IdentifierEnds c (identifier "" c) := by
  obtain ⟨letters, m, hread, hletters, hnil | ⟨d, hd, hother⟩⟩ :=
    c.exists_reads_while isIdentifierChar
  · have hcut := IdentifierEnds.cut hread hletters hnil
    rwa [identifier_letters hletters hread, identifier, stepForward_of_after_nil hnil]
  · rw [identifier_letters hletters hread, identifier_stop _ hd hother]
    split
    · next hclose => exact .bracket (hread.trans hd) hletters hclose
    · next hclose => exact .found (hread.trans hd) hletters hother hclose

theorem reads_of_identifier {name : String} (h : identifier "" c = .ok (name, d)) :
    c.Reads (name.toList ++ [d.current]) d ∧ ∀ a ∈ name.toList, isIdentifierChar a := by
  have hends := identifier_ends c
  rw [h] at hends
  cases hends with
  | found hread hletters => simpa using ⟨hread, hletters⟩

/-! ## The comparison -/

/-- Whether a character belongs to an operator that has begun. -/
def inSymbol (c : Char) : Bool :=
  !endsSymbol c && classify c ≠ .closeBracket

theorem inSymbol_iff {x : Char} :
    inSymbol x ↔ classify x ≠ .whitespace ∧ classify x ≠ .doubleQuote ∧
      isIdentifierChar x = false ∧ classify x ≠ .closeBracket := by
  simp [inSymbol, endsSymbol, classify_eq_doubleQuote, and_assoc]

theorem not_close_of_endsSymbol {x : Char} (h : endsSymbol x) :
    classify x ≠ .closeBracket := by
  simp only [endsSymbol, Bool.or_eq_true, decide_eq_true_eq] at h
  rcases h with (hblank | rfl) | hletter
  · simp [hblank]
  · decide
  · simp [classify_of_isIdentifierChar hletter]

theorem inSymbol_of_mem_symbol (k : Comparison) : ∀ a ∈ k.symbol.toList, inSymbol a := by
  cases k <;> simp [Comparison.symbol] <;> decide

/-- How the scan of a comparison ends. There is an operator that is known, or one that
is not, or none; or the text ends, or there is a closing bracket in place of
what ends the operator. -/
inductive ComparisonEnds (filter : String) (c : Cursor) :
    Except CompileError (Comparison × Cursor) → Prop where
  | cut {blanks text : List Char} {d : Cursor} (reads : c.Reads (blanks ++ text) d)
      (blank : Blanks blanks) (symbolic : ∀ a ∈ text, inSymbol a) (nothing : d.after = []) :
      ComparisonEnds filter c (.error (errorAt d (.unterminatedFilter filter)))
  | missing {blanks : List Char} {d : Cursor} (reads : c.Reads (blanks ++ [d.current]) d)
      (blank : Blanks blanks) (counts : d.currentClass ≠ .whitespace)
      (other : inSymbol d.current = false) :
      ComparisonEnds filter c (.error (errorAt d (.missingOperator filter)))
  | bracket {blanks text : List Char} {d : Cursor}
      (reads : c.Reads (blanks ++ text ++ [d.current]) d) (blank : Blanks blanks)
      (symbolic : ∀ a ∈ text, inSymbol a) (begun : text ≠ [])
      (closes : d.currentClass = .closeBracket) :
      ComparisonEnds filter c (.error (errorAt d (.missingArgument filter)))
  | unknown {blanks text : List Char} {s d : Cursor} (start : c.Reads (blanks ++ [s.current]) s)
      (blank : Blanks blanks) (reads : s.Reads (text ++ [d.current]) d)
      (symbolic : ∀ a ∈ s.current :: text, inSymbol a) (ends : endsSymbol d.current)
      (none_such : Comparison.ofSymbol? (String.ofList (s.current :: text)) = none) :
      ComparisonEnds filter c
        (.error (errorAt s (.unknownOperator filter (String.ofList (s.current :: text)))))
  | found {blanks : List Char} {k : Comparison} {d e : Cursor}
      (reads : c.Reads (blanks ++ k.symbol.toList) d) (blank : Blanks blanks)
      (next : d.Reads [e.current] e) (ends : endsSymbol e.current) :
      ComparisonEnds filter c (.ok (k, d))

section

variable {b s m : Cursor} {filter : String} {blanks text : List Char}

theorem symbol_blanks (hblanks : Blanks blanks) :
    ∀ {c : Cursor}, c.Reads blanks d → symbol filter none c = symbol filter none d := by
  induction blanks with
  | nil =>
    intro c h
    obtain rfl := Cursor.reads_nil.mp h
    rfl
  | cons a blanks ih =>
    intro c h
    obtain ⟨m, hm, hread⟩ := Cursor.reads_cons.mp h
    obtain ⟨step, rfl⟩ := stepForward_of_reads hm (.unterminatedFilter filter)
    have hblank : m.currentClass = .whitespace := hblanks _ (by simp)
    rw [← ih (fun b hb => hblanks b (by simp [hb])) hread, symbol, step]
    simp [hblank]

theorem symbol_extend {found : Option Symbol} (h : c.Reads [d.current] d)
    (hd : inSymbol d.current) :
    symbol filter found c = symbol filter (some (Symbol.extend found d)) d := by
  obtain ⟨hblank, hquote, hletter, hclose⟩ := inSymbol_iff.mp hd
  rw [symbol, stepForward_eq_ok_iff.mpr h]
  simp [Cursor.currentClass, hletter]

theorem symbol_more {start : Cursor} (htext : ∀ a ∈ text, inSymbol a) :
    ∀ {written : String} {c : Cursor}, c.Reads text d →
      symbol filter (some ⟨start, written⟩) c =
        symbol filter (some ⟨start, written ++ String.ofList text⟩) d := by
  induction text with
  | nil =>
    intro written c h
    obtain rfl := Cursor.reads_nil.mp h
    simp
  | cons a text ih =>
    intro written c h
    obtain ⟨m, hm, hread⟩ := Cursor.reads_cons.mp h
    obtain rfl : m.current = a := hm.current_eq_of_step
    rw [symbol_extend hm (htext _ (by simp)), Symbol.extend,
      ih (fun b hb => htext b (by simp [hb])) hread]
    congr 3
    apply String.toList_injective
    simp

/-- What the scan has found by the end of an operator. -/
theorem symbol_found (hb : c.Reads blanks b) (hblanks : Blanks blanks)
    (hs : b.Reads [s.current] s) (hm : s.Reads text m)
    (htext : ∀ a ∈ s.current :: text, inSymbol a) :
    symbol filter none c =
      symbol filter (some ⟨s, String.ofList (s.current :: text)⟩) m := by
  rw [symbol_blanks hblanks hb, symbol_extend hs (htext _ (by simp)), Symbol.extend,
    symbol_more (fun a ha => htext a (by simp [ha])) hm]
  congr 3
  apply String.toList_injective
  simp

theorem symbol_stop {found : Option Symbol} (h : c.Reads [d.current] d)
    (hd : inSymbol d.current = false)
    (hcounts : found = none → d.currentClass ≠ .whitespace) :
    symbol filter found c =
      if d.currentClass = .closeBracket then
        .error (errorAt d
          (if found.isSome then .missingArgument filter else .missingOperator filter))
      else .ok (found, d) := by
  -- of the classes left over only an identifier character stops an operator
  have hletter : d.currentClass ≠ .whitespace → d.currentClass ≠ .doubleQuote →
      d.currentClass ≠ .closeBracket → isIdentifierChar d.current = true := by
    intro hblank hquote hclose
    cases hother : isIdentifierChar d.current with
    | true => rfl
    | false => simp [inSymbol_iff.mpr ⟨hblank, hquote, hother, hclose⟩] at hd
  rw [symbol, stepForward_eq_ok_iff.mpr h]
  simp only
  split <;> simp_all

theorem comparison_of_reads {k : Comparison} {e : Cursor} (hblanks : Blanks blanks)
    (h : c.Reads (blanks ++ k.symbol.toList) d) (he : d.Reads [e.current] e)
    (hends : endsSymbol e.current) : comparison filter c = .ok (k, d) := by
  obtain ⟨b, hb, hsymbol⟩ := Cursor.reads_append.mp h
  obtain ⟨a, text, htext, -⟩ := k.exists_symbol_eq_cons
  rw [htext] at hsymbol
  obtain ⟨s, hs, hd⟩ := Cursor.reads_cons.mp hsymbol
  obtain rfl : s.current = a := hs.current_eq_of_step
  have hstop : inSymbol e.current = false := by simp [inSymbol, hends]
  have hclose : e.currentClass ≠ .closeBracket := not_close_of_endsSymbol hends
  have hback : stepBack e = .ok d := stepBack_eq_ok_iff.mpr he
  have hk : Comparison.ofSymbol? (String.ofList (s.current :: text)) = some k := by
    rw [← htext, String.ofList_toList, Comparison.ofSymbol?_symbol]
  unfold comparison
  rw [symbol_found hb hblanks hs hd (htext ▸ inSymbol_of_mem_symbol k),
    symbol_stop he hstop (by simp), if_neg hclose]
  simp only [bind, Except.bind, hback, hk]

theorem comparison_ends (filter : String) (c : Cursor) :
    ComparisonEnds filter c (comparison filter c) := by
  unfold comparison
  obtain ⟨blanks, b, hb, hblanks, hnil | ⟨s, hs, hcounts⟩⟩ := c.exists_blanks
  · rw [symbol_blanks hblanks hb, symbol, stepForward_of_after_nil hnil]
    have hread : c.Reads (blanks ++ []) b := by simpa using hb
    exact .cut hread hblanks (by simp) hnil
  cases hfirst : inSymbol s.current with
  | false =>
    rw [symbol_blanks hblanks hb, symbol_stop hs hfirst fun _ => hcounts]
    split <;> exact .missing (hb.trans hs) hblanks hcounts hfirst
  | true =>
    obtain ⟨text, m, hm, htext, hstop⟩ := s.exists_reads_while inSymbol
    have hsymbolic : ∀ a ∈ s.current :: text, inSymbol a := by simpa using ⟨hfirst, htext⟩
    rw [symbol_found hb hblanks hs hm hsymbolic]
    rcases hstop with hnil | ⟨d, hd, hstop⟩
    · rw [symbol, stepForward_of_after_nil hnil]
      exact .cut (hb.trans (hs.trans hm)) hblanks hsymbolic hnil
    rw [symbol_stop hd hstop (by simp)]
    by_cases hclose : d.currentClass = .closeBracket
    · rw [if_pos hclose]
      have hread := (hb.trans (hs.trans hm)).trans hd
      exact .bracket hread hblanks hsymbolic (by simp) hclose
    have hends : endsSymbol d.current := by
      simpa [inSymbol, show classify d.current ≠ .closeBracket from hclose] using hstop
    rw [if_neg hclose]
    simp only [bind, Except.bind, stepBack_eq_ok_iff.mpr hd]
    cases hk : Comparison.ofSymbol? (String.ofList (s.current :: text)) with
    | none =>
      exact .unknown (hb.trans hs) hblanks (hm.trans hd) hsymbolic hends hk
    | some k =>
      have hsymbol : s.current :: text = k.symbol.toList := by
        rw [← Comparison.symbol_of_ofSymbol? hk, String.toList_ofList]
      exact .found (hsymbol ▸ hb.trans (hs.trans hm)) hblanks hd hends

theorem exists_reads_of_comparison {k : Comparison} (h : comparison filter c = .ok (k, d)) :
    ∃ t, c.Reads t d := by
  have hends := comparison_ends filter c
  rw [h] at hends
  cases hends with
  | found hread => exact ⟨_, hread⟩

end

/-! ## The argument

Before the opening quote only the escapes count, behind it everything but
whitespace does. Over a bare text the scan runs on in either stage
(`argument_bare`), and every text begins with a bare one, behind which there is a
quote or nothing to go on with (`exists_bare`). So the scan has three ways to
end, one for each stage that it may break off in and one for success. -/

/-- What follows a bare text if no quote does: no argument goes on with it. -/
inductive Stops : List Char → Prop where
  | nil : Stops []
  | slash : Stops ['\\']
  | bracket (closing : Closing) (t : List Char) : Stops (closing.val :: t)

/-- How the scan of an argument ends: it breaks off in front of the quote that opens the
argument, or behind it, or there is the quote that closes it. -/
inductive ArgumentEnds (filter : String) (c : Cursor) :
    Except CompileError (String × Cursor) → Prop where
  | missing {gap : List Char} {m d : Cursor} (reads : c.Reads gap m) (gap_bare : bare gap)
      (stops : Stops m.after) (next : m.Reads (m.after.take 1) d) :
      ArgumentEnds filter c (.error (errorAt d (.missingArgument filter)))
  | unterminated {gap inner : List Char} {m d : Cursor} (reads : c.Reads (gap ++ '"' :: inner) m)
      (gap_bare : bare gap) (inner_bare : bare inner) (stops : Stops m.after)
      (next : m.Reads (m.after.take 1) d) :
      ArgumentEnds filter c (.error (errorAt d
        (.unterminatedArgument filter (!(escapes gap ++ decode inner).isEmpty))))
  | found {gap inner : List Char} {d : Cursor} (reads : c.Reads (gap ++ '"' :: inner ++ ['"']) d)
      (gap_bare : bare gap) (inner_bare : bare inner) :
      ArgumentEnds filter c (.ok (String.ofList (escapes gap ++ decode inner), d))

theorem exists_bare (t : List Char) :
    ∃ inner rest, t = inner ++ rest ∧ bare inner ∧ (Stops rest ∨ ∃ u, rest = '"' :: u) := by
  induction t using bare.induct with
  | case1 => exact ⟨[], [], rfl, rfl, .inl .nil⟩
  | case2 x t ih =>
    obtain ⟨inner, rest, rfl, hbare, hrest⟩ := ih
    exact ⟨'\\' :: x :: inner, rest, rfl, hbare, hrest⟩
  | case3 c t hpair ih =>
    -- the tests come in the order of the scan: escape, quote, bracket
    by_cases hescape : classify c = .escape
    · obtain rfl := classify_eq_escape.mp hescape
      cases t with
      | nil => exact ⟨[], ['\\'], rfl, rfl, .inl .slash⟩
      | cons x t => exact absurd rfl (hpair x t rfl)
    by_cases hquote : classify c = .doubleQuote
    · exact ⟨[], c :: t, rfl, rfl, .inr ⟨t, by rw [classify_eq_doubleQuote.mp hquote]⟩⟩
    by_cases hclose : classify c = .closeBracket
    · exact ⟨[], c :: t, rfl, rfl, .inl (.bracket ⟨c, hclose⟩ t)⟩
    obtain ⟨inner, rest, rfl, hbare, hrest⟩ := ih
    exact ⟨c :: inner, rest, rfl, bare_cons hescape hquote hclose hbare, hrest⟩

section

variable {m : Cursor} {filter found : String} {opened : Bool} {x : Char}

theorem argument_blank (h : c.Reads [x] m) (hblank : classify x = .whitespace) :
    argument filter opened found c = argument filter opened found m := by
  obtain ⟨step, rfl⟩ := stepForward_of_reads h (unfinishedArgument filter opened found)
  rw [argument, step]
  simp only [Cursor.currentClass, hblank]

theorem argument_escaped (h : c.Reads ['\\', x] m) :
    argument filter opened found c =
      argument filter opened (found.push (decodeEscape x)) m := by
  obtain ⟨e, he, hm⟩ := Cursor.reads_cons.mp h
  obtain ⟨step, hslash⟩ := stepForward_of_reads he (unfinishedArgument filter opened found)
  obtain ⟨step', rfl⟩ := stepForward_of_reads hm (unfinishedArgument filter opened found)
  rw [argument, step]
  simp only [Cursor.currentClass, classify_eq_escape.mpr hslash]
  rw [step']

theorem argument_quote (h : c.Reads ['"'] m) :
    argument filter opened found c =
      if opened then .ok (found, m) else argument filter true found m := by
  obtain ⟨step, hquote⟩ := stepForward_of_reads h (unfinishedArgument filter opened found)
  rw [argument, step]
  simp only [Cursor.currentClass, classify_eq_doubleQuote.mpr hquote]

theorem argument_plain (h : c.Reads [x] m) (hblank : classify x ≠ .whitespace)
    (hescape : classify x ≠ .escape) (hquote : classify x ≠ .doubleQuote)
    (hclose : classify x ≠ .closeBracket) :
    argument filter opened found c =
      argument filter opened (if opened then found.push x else found) m := by
  obtain ⟨step, rfl⟩ := stepForward_of_reads h (unfinishedArgument filter opened found)
  rw [argument, step]
  simp only [Cursor.currentClass]

theorem argument_bare {t : List Char} (ht : bare t) : ∀ {found : String} {c : Cursor},
    c.Reads t d → argument filter opened found c =
      argument filter opened
        (found ++ String.ofList (if opened then decode t else escapes t)) d := by
  -- a turn of the scan uses up what a case of `bare` splits off
  fun_induction bare t with
  | case1 =>
    intro found c h
    obtain rfl := Cursor.reads_nil.mp h
    simp [decode, escapes]
  | case2 x t ih =>
    intro found c h
    obtain ⟨m, hm, hread⟩ := Cursor.reads_append.mp (show c.Reads (['\\', x] ++ t) d from h)
    rw [argument_escaped hm, ih ht hread]
    congr 1
    apply String.toList_injective
    cases opened <;> simp [decode, escapes]
  | case3 x t _ ih =>
    intro found c h
    obtain ⟨hescape, hquote, hclose, ht⟩ := of_bare_cons ht
    obtain ⟨m, hm, hread⟩ := Cursor.reads_cons.mp h
    by_cases hblank : classify x = .whitespace
    · rw [argument_blank hm hblank, ih ht hread, decode_blank hblank, escapes_cons hescape]
    · rw [argument_plain hm hblank hescape hquote hclose, ih ht hread,
        decode_plain hescape hblank, escapes_cons hescape]
      congr 1
      apply String.toList_injective
      cases opened <;> simp

theorem argument_of_stops (filter : String) (opened : Bool) (found : String)
    (h : Stops c.after) :
    ∃ d, c.Reads (c.after.take 1) d ∧ argument filter opened found c =
      .error (errorAt d (unfinishedArgument filter opened found)) := by
  generalize hafter : c.after = rest at h
  cases h with
  | nil =>
    refine ⟨c, .refl c, ?_⟩
    rw [argument, stepForward_of_after_nil hafter]
  | slash =>
    obtain ⟨m, hm, hnext⟩ := Cursor.exists_step hafter
    obtain ⟨step, hslash⟩ := stepForward_of_reads hm (unfinishedArgument filter opened found)
    refine ⟨m, hm, ?_⟩
    rw [argument, step]
    simp only [Cursor.currentClass, classify_eq_escape.mpr hslash]
    rw [stepForward_of_after_nil hnext]
  | bracket closing t =>
    obtain ⟨m, hm, -⟩ := Cursor.exists_step hafter
    obtain ⟨step, hclose⟩ := stepForward_of_reads hm (unfinishedArgument filter opened found)
    refine ⟨m, hm, ?_⟩
    rw [argument, step]
    simp only [Cursor.currentClass, hclose, closing.property]

end

theorem isEmpty_ofList (t : List Char) : (String.ofList t).isEmpty = t.isEmpty := by
  cases t with
  | nil => rfl
  | cons c t =>
    rw [List.isEmpty_cons, ← Bool.not_eq_true, String.isEmpty_iff]
    simp

/-- What the scan has found by the end of the inner text. -/
theorem argument_found (filter : String) {gap inner : List Char} (hgap : bare gap)
    (hinner : bare inner) (h : c.Reads (gap ++ '"' :: inner) d) :
    argument filter false "" c =
      argument filter true (String.ofList (escapes gap ++ decode inner)) d := by
  obtain ⟨m, hm, hrest⟩ := Cursor.reads_append.mp h
  obtain ⟨m', hm', hread⟩ := Cursor.reads_cons.mp hrest
  rw [argument_bare hgap hm, argument_quote hm', if_neg (by decide),
    argument_bare hinner hread]
  simp

theorem argument_of_reads {filter : String} {gap inner : List Char} (hgap : bare gap)
    (hinner : bare inner) (h : c.Reads (gap ++ '"' :: inner ++ ['"']) d) :
    argument filter false "" c = .ok (String.ofList (escapes gap ++ decode inner), d) := by
  obtain ⟨m, hm, hclose⟩ := Cursor.reads_append.mp h
  rw [argument_found filter hgap hinner hm, argument_quote hclose, if_pos rfl]

theorem argument_ends (filter : String) (c : Cursor) :
    ArgumentEnds filter c (argument filter false "" c) := by
  obtain ⟨gap, rest, hafter, hgap, hstops | ⟨u, rfl⟩⟩ := exists_bare c.after
  · obtain ⟨m, hm, rfl⟩ := Cursor.exists_reads hafter
    obtain ⟨d, hd, herror⟩ := argument_of_stops filter false _ hstops
    rw [argument_bare hgap hm]
    exact herror ▸ .missing hm hgap hstops hd
  obtain ⟨inner, rest, rfl, hinner, hstops | ⟨v, rfl⟩⟩ := exists_bare u
  · obtain ⟨m, hm, rfl⟩ := Cursor.exists_reads (show c.after = (gap ++ '"' :: inner) ++ rest by
      simpa using hafter)
    obtain ⟨d, hd, herror⟩ := argument_of_stops filter true _ hstops
    rw [argument_found filter hgap hinner hm, herror, unfinishedArgument, if_pos rfl,
      isEmpty_ofList]
    exact .unterminated hm hgap hinner hstops hd
  · obtain ⟨d, hd, -⟩ := Cursor.exists_reads
      (show c.after = (gap ++ '"' :: inner ++ ['"']) ++ v by simpa using hafter)
    rw [argument_of_reads hgap hinner hd]
    exact .found hd hgap hinner

theorem exists_reads_of_argument {filter a : String}
    (h : argument filter false "" c = .ok (a, d)) : ∃ t, c.Reads t d := by
  have hends := argument_ends filter c
  rw [h] at hends
  cases hends with
  | found hread => exact ⟨_, hread⟩

/-! ## The connector -/

/-- How the search for a connector ends: the text ends, or there is a connector or a
closing bracket. -/
inductive ConnectorEnds (c : Cursor) :
    List Diagnostic × Except CompileError (Option Connector × Cursor) → Prop where
  | cut {skipped : List Char} {d : Cursor} (reads : c.Reads skipped d)
      (search : ∀ a ∈ skipped, endsSearch a = false) (nothing : d.after = []) :
      ConnectorEnds c (skipDiagnostics c.reach skipped, .error (errorAt d .unterminatedObject))
  | found {skipped : List Char} {d e : Cursor} (reads : c.Reads skipped d)
      (search : ∀ a ∈ skipped, endsSearch a = false) (next : d.Reads [e.current] e)
      (ends : endsSearch e.current) :
      ConnectorEnds c (skipDiagnostics c.reach skipped, .ok (connector? e.current, d))

section

variable {m : Cursor} {x : Char}

theorem connector_end (h : c.Reads [d.current] d) (hd : endsSearch d.current) :
    connector c = ([], .ok (connector? d.current, c)) := by
  have hback : stepBack d = .ok c := stepBack_eq_ok_iff.mpr h
  rw [connector, stepForward_eq_ok_iff.mpr h]
  simp only [hback, Except.map, Cursor.currentClass]
  simp only [endsSearch, connector?] at hd ⊢
  cases hclass : classify d.current <;> simp_all

theorem connector_skip (h : c.Reads [x] m) (hx : endsSearch x = false) :
    connector c =
      (skipDiagnostics c.reach [x] ++ (connector m).1, (connector m).2) := by
  obtain ⟨step, rfl⟩ := stepForward_of_reads h .unterminatedObject
  have hoff : m.offset = c.reach := Cursor.Reads.offset_eq (t := []) h
  rw [connector, step]
  simp only [Cursor.currentClass, skipDiagnostics, endsSearch, connector?] at hx ⊢
  cases hm : classify m.current <;> simp_all

end

theorem connector_skips {skipped : List Char} (hskip : ∀ a ∈ skipped, endsSearch a = false) :
    ∀ {c : Cursor}, c.Reads skipped d →
      connector c =
        (skipDiagnostics c.reach skipped ++ (connector d).1, (connector d).2) := by
  induction skipped with
  | nil =>
    intro c h
    obtain rfl := Cursor.reads_nil.mp h
    rfl
  | cons x skipped ih =>
    intro c h
    obtain ⟨m, hm, hread⟩ := Cursor.reads_cons.mp h
    rw [connector_skip hm (hskip x (by simp)), ih (fun a ha => hskip a (by simp [ha])) hread,
      hm.reach_eq, ← List.append_assoc, ← skipDiagnostics_append]
    rfl

theorem connector_of_reads {skipped : List Char} {e : Cursor}
    (hskip : ∀ a ∈ skipped, endsSearch a = false) (h : c.Reads skipped d)
    (he : d.Reads [e.current] e) (hends : endsSearch e.current) :
    connector c = (skipDiagnostics c.reach skipped, .ok (connector? e.current, d)) := by
  rw [connector_skips hskip h, connector_end he hends, List.append_nil]

theorem connector_ends (c : Cursor) : ConnectorEnds c (connector c) := by
  obtain ⟨skipped, d, hread, hskip, hnext⟩ := c.exists_reads_while (!endsSearch ·)
  simp only [Bool.not_eq_true', Bool.not_eq_false'] at hskip hnext
  rcases hnext with hnil | ⟨e, he, hends⟩
  · rw [connector_skips hskip hread, connector, stepForward_of_after_nil hnil, List.append_nil]
    exact .cut hread hskip hnil
  · rw [connector_of_reads hskip hread he hends]
    exact .found hread hskip he hends

/-! ## The whole clause -/

theorem exists_clause {name : String} {c₁ c₂ : Cursor} {k : Comparison} {a : String}
    {ds : List Diagnostic} {j : Option Connector}
    (hk : comparison name c = .ok (k, c₁)) (ha : argument name false "" c₁ = .ok (a, c₂))
    (hj : connector c₂ = (ds, .ok (j, d))) :
    ∃ (clause : Clause) (x : Char) (rest : List Char), c.Reads clause.text d ∧
      clause.comparison = k ∧ clause.argument = a ∧ clause.diagnostics c.reach = ds ∧
      d.after = x :: rest ∧ endsSearch x ∧ j = connector? x := by
  have hcomparison := comparison_ends name c
  rw [hk] at hcomparison
  have hargument := argument_ends name c₁
  rw [ha] at hargument
  have hconnector := connector_ends c₂
  rw [hj] at hconnector
  cases hcomparison with
  | @found blanks _ _ s hread₁ hblanks hs hx =>
  cases hargument with
  | @found gap inner _ hread₂ hgap hinner =>
  cases hconnector with
  | @found skipped _ e hread₃ hskip he hy =>
  -- the character that ended the symbol is the first one of the gap
  have hhead : ∀ b ∈ gap.head?, endsSymbol b := by
    intro b hb
    cases gap with
    | nil => cases hb
    | cons g gap =>
      have hsplit := hs.after.symm.trans hread₂.after
      obtain rfl : g = b := Option.some.inj hb
      obtain rfl : s.current = g := (List.cons.inj hsplit).1
      exact hx
  refine ⟨⟨blanks, k, gap, inner, skipped, hblanks, hhead, hgap, hinner, hskip⟩, e.current,
    e.after, ?_, rfl, rfl, ?_, he.after, hy, rfl⟩
  · have hread := (hread₁.trans hread₂).trans hread₃
    simpa [Clause.text, Clause.front] using hread
  · have hreach := (hread₁.trans hread₂).reach_eq
    rw [hreach]
    simp [Clause.diagnostics, Clause.front]

theorem scans_of_clause {clause : Clause} {x : Char} {rest : List Char} (name : String)
    (h : c.Reads clause.text d) (hafter : d.after = x :: rest) (hx : endsSearch x) :
    ∃ c₁ c₂, comparison name c = .ok (clause.comparison, c₁) ∧
      argument name false "" c₁ = .ok (clause.argument, c₂) ∧
      connector c₂ = (clause.diagnostics c.reach, .ok (connector? x, d)) := by
  obtain ⟨c₂, hfront, hskipped⟩ := Cursor.reads_append.mp h
  have hsplit : clause.front = clause.blanks ++ clause.comparison.symbol.toList ++
      (clause.gap ++ '"' :: clause.inner ++ ['"']) := by
    simp [Clause.front]
  obtain ⟨c₁, hsymbol, harg⟩ := Cursor.reads_append.mp (hsplit ▸ hfront)
  obtain ⟨y, t, hy, hends⟩ :
      ∃ y t, clause.gap ++ '"' :: clause.inner ++ ['"'] = y :: t ∧ endsSymbol y := by
    cases hgap : clause.gap with
    | nil => exact ⟨'"', _, rfl, rfl⟩
    | cons g gap => exact ⟨g, _, rfl, clause.gap_ends_symbol g (by simp [hgap])⟩
  obtain ⟨s, hs, -⟩ := Cursor.reads_cons.mp (hy ▸ harg)
  obtain rfl : s.current = y := hs.current_eq_of_step
  obtain ⟨e, he, -⟩ := Cursor.exists_step hafter
  obtain rfl : e.current = x := he.current_eq_of_step
  refine ⟨c₁, c₂, comparison_of_reads clause.blanks_blank hsymbol hs hends, ?_, ?_⟩
  · rw [argument_of_reads clause.gap_bare clause.inner_bare harg]
    simp [Clause.argument]
  · rw [connector_of_reads clause.skipped_search hskipped he hx, hfront.reach_eq]
    rfl

end Scan

end FilterQuery
