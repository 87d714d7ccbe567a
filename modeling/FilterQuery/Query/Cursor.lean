/-!
# Characters and cursors

What the reader sees of a text: the class of the character that its cursor stands on, and the
place of the cursor.
-/

namespace FilterQuery

/-!
## Character classes

The query language has no tokens longer than a character: every decision of the
reader is taken on the class of one character. The three styles of bracket are
one class each way, so they may be mixed freely and are never matched against
each other.
-/

/-- The class of a single character of a query. -/
inductive CharClass where
  /-- Space, tab, carriage return or line feed. -/
  | whitespace
  /-- An opening bracket of any of the three styles. -/
  | openBracket
  /-- A closing bracket of any of the three styles. -/
  | closeBracket
  /-- The apostrophe, which has no meaning of its own. -/
  | singleQuote
  /-- The mark that bounds an argument. -/
  | doubleQuote
  /-- The connector `&`. -/
  | logicalAnd
  /-- The connector `|`. -/
  | logicalOr
  /-- The connector `^`. -/
  | logicalXor
  /-- The backslash, which takes the next character of an argument literally. -/
  | escape
  /-- The mark that announces a calculator. -/
  | sharp
  /-- Any other character. -/
  | other
  deriving DecidableEq, Repr, Inhabited

/-- The class of a character. Only the four ASCII blanks are whitespace. -/
def classify (c : Char) : CharClass :=
  match c with
  | ' ' | '\t' | '\r' | '\n' => .whitespace
  | '(' | '{' | '[' => .openBracket
  | ')' | '}' | ']' => .closeBracket
  | '\x27' => .singleQuote
  | '"' => .doubleQuote
  | '&' => .logicalAnd
  | '|' => .logicalOr
  | '^' => .logicalXor
  | '\\' => .escape
  | '#' => .sharp
  | _ => .other

/-- Whether a character may stand in the identifier of a filter: an ASCII
letter or the underscore. -/
def isIdentifierChar (c : Char) : Bool :=
  c.isAlpha || c == '_'

/-!
## Cursors

A cursor stands on one character of a non-empty text. It keeps the characters
before it, nearest first, and the characters after it, so that a step in either
direction is a local move and nothing about the text is ever lost: `source` is
the same before and after every step.

A step beyond an end of the text is refused with a fault and moves nothing. The
number of unread characters falls by one with every step forward; that number
is the measure on which all reading below terminates.
-/

/-- A step that a cursor refuses. -/
inductive CursorFault where
  /-- A step forward from the last character, which stands at `position`. -/
  | pastEnd (position : Nat)
  /-- A step back from the first character. -/
  | beforeStart
  deriving DecidableEq, Repr, Inhabited

/-- The wording of a fault. -/
def CursorFault.message : CursorFault → String
  | .pastEnd position =>
    s!"cursor cannot advance past the end of the query (position {position})"
  | .beforeStart => "cursor cannot retreat before the start of the query"

/-- The number of bytes that characters take in UTF-8. -/
def utf8Length : List Char → Nat
  | [] => 0
  | c :: cs => c.utf8Size + utf8Length cs

/-- A place on one of the characters of a text. -/
structure Cursor where
  /-- The characters already passed, nearest first. -/
  before : List Char
  /-- The character under the cursor. -/
  current : Char
  /-- The unread characters, nearest first. -/
  after : List Char
  deriving DecidableEq, Repr, Inhabited

namespace Cursor

/-- A cursor on the first character; an empty text has none. -/
def ofChars? : List Char → Option Cursor
  | [] => none
  | c :: cs => some ⟨[], c, cs⟩

/-- A cursor on the first character of `source`. -/
def ofString? (source : String) : Option Cursor :=
  ofChars? source.toList

/-- The text the cursor stands in. -/
def source (c : Cursor) : List Char :=
  c.before.reverse ++ c.current :: c.after

/-- The number of characters before the cursor. -/
def position (c : Cursor) : Nat :=
  c.before.length

/-- The number of bytes before the cursor. -/
def offset (c : Cursor) : Nat :=
  utf8Length c.before

/-- The number of characters after the cursor. -/
def remaining (c : Cursor) : Nat :=
  c.after.length

/-- Whether a step forward would succeed. -/
def hasNext (c : Cursor) : Bool :=
  !c.after.isEmpty

/-- Whether two steps forward would succeed. -/
def hasTwoNext (c : Cursor) : Bool :=
  !c.after.tail.isEmpty

/-- The class of the character under the cursor. -/
def currentClass (c : Cursor) : CharClass :=
  classify c.current

/-- The step to the next character. -/
def advance (c : Cursor) : Except CursorFault Cursor :=
  match c.after with
  | [] => .error (.pastEnd c.position)
  | next :: rest => .ok ⟨c.current :: c.before, next, rest⟩

/-- The step to the previous character. -/
def retreat (c : Cursor) : Except CursorFault Cursor :=
  match c.before with
  | [] => .error .beforeStart
  | previous :: rest => .ok ⟨rest, previous, c.current :: c.after⟩

/-! ## What a step does to the views -/

theorem hasTwoNext_iff {c : Cursor} : c.hasTwoNext = true ↔ 2 ≤ c.remaining := by
  cases c with
  | mk b x a =>
    match a with
    | [] => simp [hasTwoNext, remaining]
    | [_] => simp [hasTwoNext, remaining]
    | _ :: _ :: _ => simp [hasTwoNext, remaining]

theorem remaining_advance {c d : Cursor} (h : c.advance = .ok d) :
    c.remaining = d.remaining + 1 := by
  unfold advance at h
  split at h
  next => cases h
  next next rest heq =>
    cases h
    simp [remaining, heq]

theorem remaining_advance_lt {c d : Cursor} (h : c.advance = .ok d) :
    d.remaining < c.remaining := by
  have := remaining_advance h
  omega

theorem source_advance {c d : Cursor} (h : c.advance = .ok d) : d.source = c.source := by
  unfold advance at h
  split at h
  next => cases h
  next next rest heq => cases h; simp [source, heq]

theorem source_retreat {c d : Cursor} (h : c.retreat = .ok d) : d.source = c.source := by
  unfold retreat at h
  split at h
  next => cases h
  next previous rest heq => cases h; simp [source, heq]

end Cursor

end FilterQuery
