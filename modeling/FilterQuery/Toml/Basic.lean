/-!
# Values and lines of a TOML document

What the parts of a document are read as, and what stands between them.
-/

namespace FilterQuery.Toml

/-!
## TOML values

The values of a TOML document. Of a float and of a date or time only its
presence is kept: nothing that is read from a document here has such a type, so
all that matters is that the value stands where something else should.
-/

/-- A value of a TOML document. -/
inductive Value where
  | text (s : String)
  | integer (i : Int)
  | float
  | boolean (b : Bool)
  /-- A date, a time, or both. -/
  | moment
  | array (items : List Value)
  /-- A table, whose keys are distinct. -/
  | table (entries : List (String × Value))
  deriving Repr, Inhabited

/-- A reading of the start of a text: what was read and the rest, or nothing if
the text does not start that way. -/
abbrev Parse (α : Type) := List Char → Option (α × List Char)

/-!
## Blanks, comments and line ends

A line ends with a line feed, with or without a carriage return before it.
Within a line only spaces and tabs are blank; between the items of an array line
ends and comments may stand as well. A comment runs to the end of its line and
holds no control characters but the tab.
-/

/-- A space or a tab. -/
def isBlank (c : Char) : Bool :=
  c = ' ' || c = '\t'

/-- A character that may stand in a comment. -/
def isCommentChar (c : Char) : Bool :=
  c = '\t' || (' ' ≤ c && c ≤ '~') || '\x7f' < c

/-- The text after its blanks. -/
def skipBlanks (cs : List Char) : List Char :=
  cs.dropWhile isBlank

/-- The text after a line end. -/
def newline? : List Char → Option (List Char)
  | '\n' :: rest => some rest
  | '\r' :: '\n' :: rest => some rest
  | _ => none

/-- The text after a line end, which the end of the text stands for too. -/
def lineEnd? : List Char → Option (List Char)
  | [] => some []
  | cs => newline? cs

/-- The text after the rest of a line that may hold a comment and nothing
else. -/
def restOfLine? (cs : List Char) : Option (List Char) :=
  match skipBlanks cs with
  | '#' :: rest => lineEnd? (rest.dropWhile isCommentChar)
  | cs => lineEnd? cs

/-- The text after blanks, line ends and comments; `inComment` tells where the
text starts. A comment has to end with its line. -/
def skipGaps (inComment : Bool) : List Char → Option (List Char)
  | [] => if inComment then none else some []
  | '\n' :: rest => skipGaps false rest
  | '\r' :: '\n' :: rest => skipGaps false rest
  | c :: rest =>
    if inComment then
      if isCommentChar c then skipGaps true rest else none
    else if isBlank c then skipGaps false rest
    else if c = '#' then skipGaps true rest
    else some (c :: rest)

end FilterQuery.Toml
