import FilterQuery.Toml.Basic

/-!
# TOML dates and times

A date, a time of day, or both with an optional offset from universal time.
Months and days have to exist, and a minute may have a sixtieth second. Only the
form matters: a moment has no value here.
-/

namespace FilterQuery.Toml

/-- A number of two digits within bounds. -/
def twoDigits (low high : Nat) : Parse Nat
  | a :: b :: rest =>
    if a.isDigit ∧ b.isDigit then
      let n := 10 * (a.toNat - '0'.toNat) + (b.toNat - '0'.toNat)
      if low ≤ n ∧ n ≤ high then some (n, rest) else none
    else none
  | _ => none

/-- The text after a character of this class. -/
def mark (accepts : Char → Bool) : List Char → Option (List Char)
  | c :: rest => if accepts c then some rest else none
  | [] => none

/-- The number of days of a month. -/
def daysIn (year month : Nat) : Nat :=
  if month = 2 then
    if year % 4 = 0 ∧ (year % 100 ≠ 0 ∨ year % 400 = 0) then 29 else 28
  else if month = 4 ∨ month = 6 ∨ month = 9 ∨ month = 11 then 30
  else 31

/-- The text after a date. -/
def date (cs : List Char) : Option (List Char) := do
  let (century, cs) ← twoDigits 0 99 cs
  let (year, cs) ← twoDigits 0 99 cs
  let cs ← mark (· = '-') cs
  let (month, cs) ← twoDigits 1 12 cs
  let cs ← mark (· = '-') cs
  let (_, cs) ← twoDigits 1 (daysIn (100 * century + year) month) cs
  return cs

/-- The text after the fraction of a second, if there is one. -/
def skipFraction : List Char → List Char
  | '.' :: c :: rest => if c.isDigit then rest.dropWhile Char.isDigit else '.' :: c :: rest
  | cs => cs

/-- The text after a time of day. -/
def time (cs : List Char) : Option (List Char) := do
  let (_, cs) ← twoDigits 0 23 cs
  let cs ← mark (· = ':') cs
  let (_, cs) ← twoDigits 0 59 cs
  let cs ← mark (· = ':') cs
  let (_, cs) ← twoDigits 0 60 cs
  return skipFraction cs

/-- The text after an offset from universal time. -/
def zone (cs : List Char) : Option (List Char) :=
  mark (fun c => c = 'Z' || c = 'z') cs <|> do
    let cs ← mark (fun c => c = '+' || c = '-') cs
    let (_, cs) ← twoDigits 0 23 cs
    let cs ← mark (· = ':') cs
    let (_, cs) ← twoDigits 0 59 cs
    return cs

/-- The text after a date, a time of day, or both. -/
def moment (cs : List Char) : Option (List Char) :=
  match date cs with
  | none => time cs
  | some cs =>
    match mark (fun c => c = 'T' || c = 't' || c = ' ') cs >>= time with
    | none => some cs
    | some cs => some ((zone cs).getD cs)

end FilterQuery.Toml
