import Mathlib
import FilterQuery.Filter
import FilterQuery.Query.Operator
import FilterQuery.Text.Quoted

/-!
# Writings that can be told apart

A writing is prefix-free if it can be split off the front of a text, whatever stands behind
it: two texts that begin with writings and are the same begin with the same one. Reports are
put together from such pieces, so they can be taken apart again piece by piece. Two pieces
need more of what follows. A run of characters of one class, such as a name or a number,
ends only where another character stands (`run_append_inj`), and a list of pieces ends only
at a mark with which none of them begins (`PrefixFree.flatMap_stop`). The words and symbols
of the query language are few, and no two of them are the same.
-/

namespace FilterQuery

namespace Text

variable {α : Type} {p : Char → Bool} {x y s t : List Char}

/-- The writings can be split off the front of a text. -/
def PrefixFree (f : α → List Char) : Prop :=
  ∀ ⦃a b : α⦄ ⦃s t : List Char⦄, f a ++ s = f b ++ t → a = b ∧ s = t

/-- A list of pieces can be split off if the mark behind it is the start of no piece. -/
theorem PrefixFree.flatMap_stop {f : α → List Char} {stop : Char} (hf : PrefixFree f)
    (hstop : ∀ a s t, f a ++ s ≠ stop :: t) :
    PrefixFree fun l : List α => l.flatMap f ++ [stop] := by
  intro l l' s t h
  -- if one list ended before the other, its mark would be the start of a piece
  induction l generalizing l' with
  | nil =>
    cases l' with
    | nil => simpa using h
    | cons b l' => exact absurd (by simpa using h.symm) (hstop b (l'.flatMap f ++ stop :: t) s)
  | cons a l ih =>
    cases l' with
    | nil => exact absurd (by simpa using h) (hstop a (l.flatMap f ++ stop :: s) t)
    | cons b l' =>
      obtain ⟨rfl, hrest⟩ := hf (s := l.flatMap f ++ [stop] ++ s)
        (t := l'.flatMap f ++ [stop] ++ t) (by simpa using h)
      obtain ⟨rfl, rfl⟩ := ih hrest
      exact ⟨rfl, rfl⟩

/-! ## Runs -/

/-- The text does not begin with a character of the class. -/
def Stops (p : Char → Bool) (s : List Char) : Prop :=
  ∀ c ∈ s.head?, p c = false

@[simp] theorem stops_nil : Stops p [] := by
  simp [Stops]

@[simp] theorem stops_cons {c : Char} : Stops p (c :: s) ↔ p c = false := by
  simp [Stops]

theorem takeWhile_run_append (hx : ∀ c ∈ x, p c) (hs : Stops p s) :
    (x ++ s).takeWhile p = x := by
  rw [List.takeWhile_append_of_pos hx]
  cases s with
  | nil => simp
  | cons c s => simp [stops_cons.mp hs]

/-- A run of characters of a class can be split off where another character follows. -/
theorem run_append_inj (hx : ∀ c ∈ x, p c) (hy : ∀ c ∈ y, p c) (hs : Stops p s)
    (ht : Stops p t) (h : x ++ s = y ++ t) : x = y ∧ s = t := by
  have hxy : x = y := by
    rw [← takeWhile_run_append hx hs, h, takeWhile_run_append hy ht]
  subst hxy
  exact ⟨rfl, List.append_cancel_left h⟩

/-! ## Numbers -/

variable {b m n : Nat}

theorem exists_of_mem_toDigits (hb : 1 < b) {c : Char} (h : c ∈ Nat.toDigits b n) :
    ∃ d < b, c = d.digitChar := by
  induction n using Nat.strongRecOn with
  | ind n ih =>
    rw [Nat.toDigits_eq_if hb] at h
    split at h
    next hn => exact ⟨n, hn, List.mem_singleton.mp h⟩
    next hn =>
      rcases List.mem_append.mp h with h | h
      · exact ih _ (Nat.div_lt_self (by omega) hb) h
      · exact ⟨n % b, Nat.mod_lt _ (by omega), List.mem_singleton.mp h⟩

theorem digitChar_inj : ∀ m < 16, ∀ n < 16, m.digitChar = n.digitChar → m = n := by
  decide

/-- To a base of at most sixteen, numbers with the same digits are the same. -/
theorem toDigits_inj (hb : 1 < b) (hle : b ≤ 16) (h : Nat.toDigits b m = Nat.toDigits b n) :
    m = n := by
  induction m using Nat.strongRecOn generalizing n with
  | ind m ih =>
    rw [Nat.toDigits_eq_if hb, Nat.toDigits_eq_if (n := n) hb] at h
    split at h <;> split at h
    next hm hn => exact digitChar_inj m (by omega) n (by omega) (List.singleton_inj.mp h)
    next hm hn => exact absurd (congrArg List.length h) (by simp [Nat.toDigits_ne_nil])
    next hm hn => exact absurd (congrArg List.length h) (by simp [Nat.toDigits_ne_nil])
    next hm hn =>
      obtain ⟨hdiv, hmod⟩ := List.append_inj' h rfl
      have hdiv : m / b = n / b := ih _ (Nat.div_lt_self (by omega) hb) hdiv
      have hmod : m % b = n % b :=
        digitChar_inj _ ((Nat.mod_lt m (by omega)).trans_le hle) _
          ((Nat.mod_lt n (by omega)).trans_le hle) (List.singleton_inj.mp hmod)
      rw [← Nat.div_add_mod m b, ← Nat.div_add_mod n b, hdiv, hmod]

/-- A number can be split off where no digit follows. -/
theorem number_append_inj (hs : Stops Char.isDigit s) (ht : Stops Char.isDigit t)
    (h : Nat.toDigits 10 m ++ s = Nat.toDigits 10 n ++ t) : m = n ∧ s = t := by
  have hdigits (k : Nat) : ∀ c ∈ Nat.toDigits 10 k, c.isDigit :=
    fun c hc => Nat.isDigit_of_mem_toDigits (by decide) (by decide) hc
  obtain ⟨hmn, rfl⟩ := run_append_inj (hdigits m) (hdigits n) hs ht h
  exact ⟨toDigits_inj (by decide) (by decide) hmn, rfl⟩

/-! ## Texts between marks -/

/-- The character that a letter behind a backslash stands for. -/
def escapeMeaning : Char → Char
  | '0' => '\x00'
  | 't' => '\t'
  | 'r' => '\r'
  | 'n' => '\n'
  | 'b' => '\x08'
  | 'f' => '\x0c'
  | c => c

/-- A character is written as it stands, or behind a backslash for a letter, or by its
number. -/
inductive Escaped (number : Char → List Char → Prop) (c : Char) : List Char → Prop where
  | bare (hslash : c ≠ '\\') (hmark : c ≠ '"') : Escaped number c [c]
  | letter (k : Char) (hk : k ≠ 'u') (hmeaning : escapeMeaning k = c) : Escaped number c ['\\', k]
  | numbered (x : List Char) (hx : number c x) : Escaped number c ('\\' :: 'u' :: x)

/-- Where numbers can be split off, so can characters. -/
theorem Escaped.append_inj {number : Char → List Char → Prop} {c d : Char}
    (hnumber : ∀ {x y s t}, number c x → number d y → x ++ s = y ++ t → c = d ∧ s = t)
    (hx : Escaped number c x) (hy : Escaped number d y) (h : x ++ s = y ++ t) :
    c = d ∧ s = t := by
  cases hx with
  | bare hslash =>
    cases hy with
    | bare => simpa using h
    | letter | numbered => exact absurd (List.cons.inj h).1 hslash
  | letter k hk hmeaning =>
    cases hy with
    | bare hslash => exact absurd (List.cons.inj h).1.symm hslash
    | letter k' _ hmeaning' =>
      obtain ⟨rfl, rfl⟩ : k = k' ∧ s = t := by simpa using h
      exact ⟨hmeaning.symm.trans hmeaning', rfl⟩
    | numbered => exact absurd (List.cons.inj (List.cons.inj h).2).1 hk
  | numbered x hx =>
    cases hy with
    | bare hslash => exact absurd (List.cons.inj h).1.symm hslash
    | letter k hk => exact absurd (List.cons.inj (List.cons.inj h).2).1.symm hk
    | numbered y hy => exact hnumber hx hy (by simpa using h)

theorem Escaped.append_ne_mark {number : Char → List Char → Prop} {c : Char}
    (hx : Escaped number c x) : x ++ s ≠ '"' :: t := by
  cases hx with
  | bare _ hmark => exact fun h => hmark (List.cons.inj h).1
  | letter | numbered => simp

/-- A text between marks ends at its second bare mark, so it can be split off. -/
theorem prefixFree_between_marks {f : Char → List Char} {number : Char → List Char → Prop}
    (hf : ∀ c, Escaped number c (f c))
    (hnumber : ∀ {c d x y s t}, number c x → number d y → x ++ s = y ++ t → c = d ∧ s = t) :
    PrefixFree fun s : String => '"' :: (s.toList.flatMap f ++ ['"']) := by
  have hchar : PrefixFree f := fun c d s t => (hf c).append_inj hnumber (hf d)
  intro a b s t h
  obtain ⟨hab, rfl⟩ := hchar.flatMap_stop (fun c _ _ => (hf c).append_ne_mark)
    (List.cons.inj h).2
  exact ⟨String.toList_inj.mp hab, rfl⟩

/-! ## Quoted text -/

/-- The number of a character in braces. -/
def inBraces (c : Char) : List Char :=
  '\x7b' :: (Nat.toDigits 16 c.toNat ++ ['\x7d'])

theorem escaped_quoteChar (c : Char) :
    Escaped (fun c x => x = inBraces c) c (quoteChar '"' c) := by
  fun_cases quoteChar '"' c
  case case1 h => exact .letter '0' (by decide) h.symm
  case case2 h => exact .letter 't' (by decide) h.symm
  case case3 h => exact .letter 'r' (by decide) h.symm
  case case4 h => exact .letter 'n' (by decide) h.symm
  case case5 h => exact .letter '\\' (by decide) h.symm
  case case6 h => exact .letter c (by simp [h]) (by rw [h]; rfl)
  case case7 hslash hmark _ => exact .bare hslash hmark
  case case8 => exact .numbered _ rfl

theorem inBraces_append_inj {c d : Char} (h : inBraces c ++ s = inBraces d ++ t) :
    c = d ∧ s = t := by
  have hdigits {n : Nat} : ∀ c ∈ Nat.toDigits 16 n, (c != '\x7d') = true := by
    intro c hc
    obtain ⟨d, hd, rfl⟩ := exists_of_mem_toDigits (by decide) hc
    interval_cases d <;> rfl
  obtain ⟨hnumber, hrest⟩ := run_append_inj (p := (· != '\x7d')) hdigits hdigits
    (s := '\x7d' :: s) (t := '\x7d' :: t) (by simp) (by simp) (by simpa [inBraces] using h)
  exact ⟨Char.toNat_inj.mp (toDigits_inj (by decide) (by decide) hnumber), by simpa using hrest⟩

theorem prefixFree_quoted : PrefixFree fun s : String => (quoted s).toList := by
  have hquoted := prefixFree_between_marks escaped_quoteChar
    (by rintro c d _ _ s t rfl rfl; exact inBraces_append_inj)
  simpa [quoted] using hquoted

end Text

/-! ## Words and symbols -/

theorem Kind.name_injective : Function.Injective name :=
  fun k l h => Option.some.inj (by rw [← ofName?_name k, ← ofName?_name l, h])

theorem Comparison.tag_injective : Function.Injective tag := by
  intro c d
  cases c <;> cases d <;> simp [tag]

theorem Arithmetic.tag_injective : Function.Injective tag := by
  intro a b
  cases a <;> cases b <;> simp [tag]

theorem Connector.tag_injective : Function.Injective tag := by
  intro k l
  rcases k with _ | (_ | _ | _) <;> rcases l with _ | (_ | _ | _) <;> simp [tag]

theorem Comparison.symbol_injective : Function.Injective symbol :=
  fun k l h => Option.some.inj (by rw [← ofSymbol?_symbol k, ← ofSymbol?_symbol l, h])

theorem Arithmetic.symbol_injective : Function.Injective symbol :=
  fun k l h => Option.some.inj (by rw [← ofSymbol?_symbol k, ← ofSymbol?_symbol l, h])

theorem Connector.symbol_injective : Function.Injective symbol := by
  intro k l
  cases k <;> cases l <;> simp [symbol]

end FilterQuery
