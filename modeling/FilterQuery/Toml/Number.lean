import FilterQuery.Toml.Basic

/-!
# TOML numbers

Integers are decimal, with an optional sign, or hexadecimal, octal or binary,
without one; they have to fit into 64 bits with a sign. A float has a fraction
or an exponent, or is infinite or not a number by name. Single underscores may
stand between digits.

A float is stored as the nearest double. One that is so large that the nearest
double is infinite is refused, but only if it is positive.
-/

namespace FilterQuery.Toml

/-- The value of a digit up to `f`, of either case. -/
def digitValue (c : Char) : Nat :=
  if c.isDigit then c.toNat - '0'.toNat
  else if 'a' ≤ c then c.toNat - 'a'.toNat + 10
  else c.toNat - 'A'.toNat + 10

/-- The number that digits write in a base. -/
def numberOf (base : Nat) (digits : List Char) : Nat :=
  digits.foldl (fun n d => base * n + digitValue d) 0

/-- Digits after a first one: an underscore may stand between two digits, and
has to have one behind it. -/
def moreDigits (isDigit : Char → Bool) : Parse (List Char)
  | '_' :: c :: rest =>
    if isDigit c then do
      let (ds, rest) ← moreDigits isDigit rest
      return (c :: ds, rest)
    else none
  | ['_'] => none
  | c :: rest =>
    if isDigit c then do
      let (ds, rest) ← moreDigits isDigit rest
      return (c :: ds, rest)
    else some ([], c :: rest)
  | [] => some ([], [])

/-- A run of one digit or more. -/
def digits (isDigit : Char → Bool) : Parse (List Char)
  | c :: rest =>
    if isDigit c then do
      let (ds, rest) ← moreDigits isDigit rest
      return (c :: ds, rest)
    else none
  | [] => none

/-- The digits of a decimal integer: a zero stands alone. -/
def decimalDigits : Parse (List Char)
  | '0' :: rest => some (['0'], rest)
  | cs => digits Char.isDigit cs

/-- Whether there is a minus, and the text after the sign. -/
def sign : List Char → Bool × List Char
  | '-' :: rest => (true, rest)
  | '+' :: rest => (false, rest)
  | cs => (false, cs)

/-- The number with a sign. -/
def signed (negative : Bool) (n : Nat) : Int :=
  if negative then -(n : Int) else n

/-- An integer that fits into 64 bits. -/
def word64 (i : Int) : Option Value :=
  if -0x8000000000000000 ≤ i ∧ i < 0x8000000000000000 then some (.integer i) else none

/-- An integer in a base that is marked by two characters. -/
def markedInteger (base : Nat) (isDigit : Char → Bool) : Parse Value := fun cs => do
  let (ds, rest) ← digits isDigit cs
  return (← word64 (numberOf base ds), rest)

/-- A digit of a hexadecimal number. -/
def isHexDigit (c : Char) : Bool :=
  c.isDigit || ('a' ≤ c && c ≤ 'f') || ('A' ≤ c && c ≤ 'F')

/-- An integer in any base. -/
def integer : Parse Value
  | '0' :: 'x' :: rest => markedInteger 16 isHexDigit rest
  | '0' :: 'o' :: rest => markedInteger 8 (fun c => '0' ≤ c && c ≤ '7') rest
  | '0' :: 'b' :: rest => markedInteger 2 (fun c => c = '0' || c = '1') rest
  | cs => do
    let (negative, cs) := sign cs
    let (ds, rest) ← decimalDigits cs
    return (← word64 (signed negative (numberOf 10 ds)), rest)

/-- Whether the double nearest to `n · 10 ^ e` is infinite: the least such
number lies halfway between the greatest double and the next power of two. The
number of digits decides but for the few numbers of the same size. -/
def isInfinite (n : Nat) (e : Int) : Bool :=
  let size := (Nat.toDigits 10 n).length + e
  if n = 0 ∨ size ≤ 308 then false
  else if 310 ≤ size then true
  else
    let least := Nat.pow 2 1024 - Nat.pow 2 970
    if e < 0 then least * Nat.pow 10 (-e).toNat ≤ n else least ≤ n * Nat.pow 10 e.toNat

/-- An exponent, with its mark. -/
def exponent : Parse Int
  | c :: rest =>
    if c = 'e' ∨ c = 'E' then do
      let (negative, rest) := sign rest
      let (ds, rest) ← digits Char.isDigit rest
      return (signed negative (numberOf 10 ds), rest)
    else none
  | [] => none

/-- The text after one of the named floats. -/
def namedFloat? : List Char → Option (List Char)
  | 'i' :: 'n' :: 'f' :: rest => some rest
  | 'n' :: 'a' :: 'n' :: rest => some rest
  | _ => none

/-- The part of a float after its whole digits: a fraction, an exponent, or
both. The digits of the fraction are given as well. -/
def floatTail : Parse (List Char × Int)
  | '.' :: rest => do
    let (fraction, rest) ← digits Char.isDigit rest
    match rest with
    | c :: _ =>
      if c = 'e' ∨ c = 'E' then do
        let (e, rest) ← exponent rest
        return ((fraction, e), rest)
      else return ((fraction, 0), rest)
    | [] => return ((fraction, 0), [])
  | cs => do
    let (e, rest) ← exponent cs
    return (([], e), rest)

/-- A float that is written with digits. -/
def digitFloat : Parse Value := fun cs => do
  let (negative, cs) := sign cs
  let (whole, rest) ← decimalDigits cs
  let ((fraction, e), rest) ← floatTail rest
  if !negative ∧ isInfinite (numberOf 10 (whole ++ fraction)) (e - fraction.length) then none
  else return (.float, rest)

/-- A number of any form. -/
def number : Parse Value := fun cs =>
  digitFloat cs <|> (namedFloat? (sign cs).2).map (.float, ·) <|> integer cs

end FilterQuery.Toml
