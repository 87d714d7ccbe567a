import FilterQuery.Toml.Basic

/-!
# TOML strings

Four forms of string: between quotation marks with escapes, or between
apostrophes without, and each of them on one line or, between three marks, over
several. One or two marks may stand inside the three, also right before the
closing ones. In the longer forms a line end right after the opening marks is
dropped, and every line end is read as a line feed.
-/

namespace FilterQuery.Toml

/-- A character that stands for itself between quotation marks. -/
def isBasicChar (c : Char) : Bool :=
  isCommentChar c && c ≠ '"' && c ≠ '\\'

/-- A character that stands for itself between apostrophes. -/
def isLiteralChar (c : Char) : Bool :=
  isCommentChar c && c ≠ '\x27'

/-- The character that a backslash and a letter stand for. -/
def simpleEscape? : Char → Option Char
  | 'b' => some '\x08'
  | 'f' => some '\x0c'
  | 'n' => some '\n'
  | 'r' => some '\r'
  | 't' => some '\t'
  | '\\' => some '\\'
  | '"' => some '"'
  | _ => none

/-- The value of a hexadecimal digit of either case. -/
def hexDigit? (c : Char) : Option Nat :=
  if '0' ≤ c ∧ c ≤ '9' then some (c.toNat - '0'.toNat)
  else if 'a' ≤ c ∧ c ≤ 'f' then some (c.toNat - 'a'.toNat + 10)
  else if 'A' ≤ c ∧ c ≤ 'F' then some (c.toNat - 'A'.toNat + 10)
  else none

/-- The character with the number that the digits write, if there is one. -/
def numberedChar? (digits : List Char) : Option Char := do
  let values ← digits.mapM hexDigit?
  let n := values.foldl (fun n d => 16 * n + d) 0
  if n.isValidChar then some (Char.ofNat n) else none

/-- The rest of a string between quotation marks; `found` holds what has been
read, newest first. -/
def basicBody (found : List Char) : Parse String
  | '"' :: rest => some (String.ofList found.reverse, rest)
  | '\\' :: 'u' :: a :: b :: c :: d :: rest =>
    match numberedChar? [a, b, c, d] with
    | some x => basicBody (x :: found) rest
    | none => none
  | '\\' :: 'U' :: a :: b :: c :: d :: e :: f :: g :: h :: rest =>
    match numberedChar? [a, b, c, d, e, f, g, h] with
    | some x => basicBody (x :: found) rest
    | none => none
  | '\\' :: c :: rest =>
    match simpleEscape? c with
    | some x => basicBody (x :: found) rest
    | none => none
  | c :: rest => if isBasicChar c then basicBody (c :: found) rest else none
  | [] => none

/-- The rest of a string between three quotation marks. A backslash that ends a
line starts `trimming`: the line end goes, and with it all blanks and line ends
that follow. -/
def longBasicBody (trimming : Bool) (found : List Char) : Parse String
  | '"' :: '"' :: '"' :: '"' :: '"' :: rest =>
    some (String.ofList ('"' :: '"' :: found).reverse, rest)
  | '"' :: '"' :: '"' :: '"' :: rest => some (String.ofList ('"' :: found).reverse, rest)
  | '"' :: '"' :: '"' :: rest => some (String.ofList found.reverse, rest)
  | '\\' :: 'u' :: a :: b :: c :: d :: rest =>
    match numberedChar? [a, b, c, d] with
    | some x => longBasicBody false (x :: found) rest
    | none => none
  | '\\' :: 'U' :: a :: b :: c :: d :: e :: f :: g :: h :: rest =>
    match numberedChar? [a, b, c, d, e, f, g, h] with
    | some x => longBasicBody false (x :: found) rest
    | none => none
  | '\\' :: c :: rest =>
    match simpleEscape? c with
    | some x => longBasicBody false (x :: found) rest
    | none =>
      if (newline? (skipBlanks (c :: rest))).isSome then longBasicBody true found (c :: rest)
      else none
  | '\r' :: '\n' :: rest =>
    longBasicBody trimming (if trimming then found else '\n' :: found) rest
  | '\n' :: rest => longBasicBody trimming (if trimming then found else '\n' :: found) rest
  | c :: rest =>
    if trimming && isBlank c then longBasicBody true found rest
    else if c = '"' || isBasicChar c then longBasicBody false (c :: found) rest
    else none
  | [] => none

/-- The rest of a string between three apostrophes. -/
def longLiteralBody (found : List Char) : Parse String
  | '\x27' :: '\x27' :: '\x27' :: '\x27' :: '\x27' :: rest =>
    some (String.ofList ('\x27' :: '\x27' :: found).reverse, rest)
  | '\x27' :: '\x27' :: '\x27' :: '\x27' :: rest =>
    some (String.ofList ('\x27' :: found).reverse, rest)
  | '\x27' :: '\x27' :: '\x27' :: rest => some (String.ofList found.reverse, rest)
  | '\r' :: '\n' :: rest => longLiteralBody ('\n' :: found) rest
  | '\n' :: rest => longLiteralBody ('\n' :: found) rest
  | c :: rest => if isCommentChar c then longLiteralBody (c :: found) rest else none
  | [] => none

/-- The rest of a string between apostrophes. -/
def literalBody : Parse String := fun cs =>
  match cs.dropWhile isLiteralChar with
  | '\x27' :: rest => some (String.ofList (cs.takeWhile isLiteralChar), rest)
  | _ => none

/-- The text after a line end, if it starts with one. -/
def dropNewline (cs : List Char) : List Char :=
  (newline? cs).getD cs

/-- A string in any of its forms. -/
def string : Parse String
  | '"' :: '"' :: '"' :: rest => longBasicBody false [] (dropNewline rest)
  | '"' :: rest => basicBody [] rest
  | '\x27' :: '\x27' :: '\x27' :: rest => longLiteralBody [] (dropNewline rest)
  | '\x27' :: rest => literalBody rest
  | _ => none

end FilterQuery.Toml
