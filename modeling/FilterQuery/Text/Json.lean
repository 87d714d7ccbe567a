import FilterQuery.Text.Quoted

/-!
# JSON documents

A document is written over several lines: every item of a list and every field
of an object has a line of its own, two spaces further in than the bracket that
holds it, and an empty list or object is a pair of brackets. Fields keep the
order in which they are given. Characters outside ASCII stand as they are.
-/

namespace FilterQuery.Text

/-- A JSON document. The numbers of this library are counts and offsets. -/
inductive Json where
  | null
  | bool (b : Bool)
  | number (n : Nat)
  | string (s : String)
  | array (items : List Json)
  | object (fields : List (String × Json))
  deriving Repr, Inhabited

namespace Json

/-- A value that may be missing, in which case it is `null`. -/
def ofOption {α : Type} (f : α → Json) : Option α → Json
  | some a => f a
  | none => null

/-- One character inside a string: the mark and the backslash are escaped, and
so are the control characters below the space. -/
def escapeChar (c : Char) : List Char :=
  if c = '"' then ['\\', '"']
  else if c = '\\' then ['\\', '\\']
  else if c = '\n' then ['\\', 'n']
  else if c = '\r' then ['\\', 'r']
  else if c = '\t' then ['\\', 't']
  else if c = '\x08' then ['\\', 'b']
  else if c = '\x0c' then ['\\', 'f']
  else if c.toNat < 0x10 then ['\\', 'u', '0', '0', '0'] ++ Nat.toDigits 16 c.toNat
  else if c.toNat < 0x20 then ['\\', 'u', '0', '0'] ++ Nat.toDigits 16 c.toNat
  else [c]

/-- A string between its marks. -/
def writeString (s : String) : List Char :=
  '"' :: s.toList.flatMap escapeChar ++ ['"']

/-- The start of a line at some depth. -/
def lineStart (depth : Nat) : List Char :=
  '\n' :: List.replicate (2 * depth) ' '

mutual

/-- A document whose first line starts at `depth`. -/
def write (depth : Nat) : Json → List Char
  | .null => ['n', 'u', 'l', 'l']
  | .bool true => ['t', 'r', 'u', 'e']
  | .bool false => ['f', 'a', 'l', 's', 'e']
  | .number n => Nat.toDigits 10 n
  | .string s => writeString s
  | .array [] => ['[', ']']
  | .array (item :: items) =>
    '[' :: lineStart (depth + 1) ++ write (depth + 1) item ++ writeItems (depth + 1) items
      ++ lineStart depth ++ [']']
  | .object [] => ['{', '}']
  | .object ((name, value) :: fields) =>
    '{' :: lineStart (depth + 1) ++ writeString name ++ [':', ' '] ++ write (depth + 1) value
      ++ writeFields (depth + 1) fields ++ lineStart depth ++ ['}']

/-- The items of a list after the first, each behind a comma. -/
def writeItems (depth : Nat) : List Json → List Char
  | [] => []
  | item :: items => ',' :: lineStart depth ++ write depth item ++ writeItems depth items

/-- The fields of an object after the first, each behind a comma. -/
def writeFields (depth : Nat) : List (String × Json) → List Char
  | [] => []
  | (name, value) :: fields =>
    ',' :: lineStart depth ++ writeString name ++ [':', ' '] ++ write depth value
      ++ writeFields depth fields

end

/-- The text of a document, without a line end after it. -/
def pretty (document : Json) : String :=
  String.ofList (write 0 document)

end Json

end FilterQuery.Text
