import FilterQuery.Toml.Moment
import FilterQuery.Toml.Number
import FilterQuery.Toml.Quote
import FilterQuery.Toml.Table

/-!
# TOML documents

A document is a sequence of lines: a key with its value, a header that says into
which table the following keys go, a comment, or nothing. The reader builds the
root table as it goes and refuses the document at the first thing that does not
fit.

The loops below are given a bound on their turns. Every turn uses up a character,
so the length of the text bounds them all.
-/

namespace FilterQuery.Toml

/-! ## Keys -/

/-- A character of a key without quotes. -/
def isBareKeyChar (c : Char) : Bool :=
  c.isAlphanum || c = '-' || c = '_'

/-- One part of a key. -/
def keyPart : Parse String
  | '"' :: rest => basicBody [] rest
  | '\x27' :: rest => literalBody rest
  | cs =>
    match cs.takeWhile isBareKeyChar with
    | [] => none
    | part => some (String.ofList part, cs.dropWhile isBareKeyChar)

/-- The parts of a key, separated by dots, with blanks around each. -/
def keyParts (bound : Nat) : Parse (List String) := fun cs =>
  match bound with
  | 0 => none
  | bound + 1 => do
    let (part, rest) ← keyPart (skipBlanks cs)
    match skipBlanks rest with
    | '.' :: rest =>
      let (parts, rest) ← keyParts bound rest
      return (part :: parts, rest)
    | rest => return ([part], rest)

/-- One more than the deepest nesting of arrays and tables in a value, and one
more than the greatest number of parts of a key. -/
def nestingLimit : Nat := 80

/-- A key: the parts before the last, and the last. -/
def key : Parse (List String × String) := fun cs => do
  let (parts, rest) ← keyParts cs.length cs
  if parts.length < nestingLimit then
    return ((parts.dropLast, parts.getLastD ""), rest)
  else none

/-! ## Values -/

/-- The text after a word. -/
def word? (word : String) (cs : List Char) : Option (List Char) :=
  if word.toList.isPrefixOf cs then some (cs.drop word.length) else none

/-- A value that holds no others. -/
def scalar : Parse Value := fun cs =>
  (string cs).map (fun (s, rest) => (.text s, rest))
    <|> (moment cs).map (.moment, ·)
    <|> number cs
    <|> (word? "true" cs).map (.boolean true, ·)
    <|> (word? "false" cs).map (.boolean false, ·)

mutual

/-- A value; `depth` counts the arrays and tables around it. -/
def value (bound depth : Nat) (cs : List Char) : Option (Value × List Char) :=
  match bound with
  | 0 => none
  | bound + 1 =>
    match cs with
    | '[' :: rest =>
      if depth + 1 < nestingLimit then
        (arrayItems bound (depth + 1) [] rest).map fun (items, rest) => (.array items, rest)
      else none
    | '{' :: rest =>
      if depth + 1 < nestingLimit then
        match skipBlanks rest with
        | '}' :: rest => some (.table [], rest)
        | rest =>
          (inlineEntries bound (depth + 1) [] rest).map fun (entries, rest) =>
            (.table (finishEntries entries), rest)
      else none
    | cs => scalar cs

/-- The items of an array that are still to come; `found` are those before them,
newest first. A comma may follow the last item. -/
def arrayItems (bound depth : Nat) (found : List Value) (cs : List Char) :
    Option (List Value × List Char) :=
  match bound with
  | 0 => none
  | bound + 1 =>
    match skipGaps false cs with
    | some (']' :: rest) => some (found.reverse, rest)
    | some cs => do
      let (item, rest) ← value bound depth cs
      match ← skipGaps false rest with
      | ',' :: rest => arrayItems bound depth (item :: found) rest
      | ']' :: rest => return ((item :: found).reverse, rest)
      | _ => none
    | none => none

/-- The keys and values of a table within braces, all on one line. No comma may
follow the last. -/
def inlineEntries (bound depth : Nat) (found : Entries) (cs : List Char) :
    Option (Entries × List Char) :=
  match bound with
  | 0 => none
  | bound + 1 => do
    let ((path, name), rest) ← key cs
    match rest with
    | '=' :: rest =>
      let (v, rest) ← value bound depth (skipBlanks rest)
      let found ← found.insert name v path
      match skipBlanks rest with
      | ',' :: rest => inlineEntries bound depth found rest
      | '}' :: rest => return (found, rest)
      | _ => none
    | _ => none

end

/-! ## Lines -/

/-- What has been read of a document: the root table, and the path of the table
into which keys go. -/
structure Draft where
  /-- The root table. -/
  root : Entries
  /-- The parts of the last header. -/
  current : List String
  deriving Repr, Inhabited

namespace Draft

/-- A line with a key and its value. -/
def keyLine (draft : Draft) (cs : List Char) : Option (Draft × List Char) := do
  let ((path, name), rest) ← key cs
  match rest with
  | '=' :: rest =>
    let (v, rest) ← value rest.length 0 (skipBlanks rest)
    let rest ← restOfLine? rest
    let root ← draft.root.within (Entries.insert name v path) draft.current
    return ({ draft with root }, rest)
  | _ => none

/-- A header between double brackets, after the opening ones. -/
def elementHeader (draft : Draft) (cs : List Char) : Option (Draft × List Char) := do
  let ((path, name), rest) ← key cs
  match rest with
  | ']' :: ']' :: rest =>
    let rest ← restOfLine? rest
    let root ← draft.root.within (Entries.openElement name) path
    return (⟨root, path ++ [name]⟩, rest)
  | _ => none

/-- A header between brackets, after the opening one. -/
def tableHeader (draft : Draft) (cs : List Char) : Option (Draft × List Char) := do
  let ((path, name), rest) ← key cs
  match rest with
  | ']' :: rest =>
    let rest ← restOfLine? rest
    let root ← draft.root.within (Entries.openTable name) path
    return (⟨root, path ++ [name]⟩, rest)
  | _ => none

/-- The lines of a document. -/
def lines (bound : Nat) (draft : Draft) (cs : List Char) : Option Draft :=
  match bound with
  | 0 => none
  | bound + 1 =>
    match skipBlanks cs with
    | [] => some draft
    | '[' :: '[' :: rest => do
      let (draft, rest) ← draft.elementHeader rest
      lines bound draft rest
    | '[' :: rest => do
      let (draft, rest) ← draft.tableHeader rest
      lines bound draft rest
    | c :: rest =>
      if c = '#' ∨ c = '\n' ∨ c = '\r' then
        restOfLine? (c :: rest) >>= lines bound draft
      else do
        let (draft, rest) ← draft.keyLine (c :: rest)
        lines bound draft rest

end Draft

/-- Reads a document as the entries of its root table. A mark of the byte order
may stand before it. -/
def document? (source : String) : Option (List (String × Value)) :=
  let cs := match source.toList with
    | '\ufeff' :: rest => rest
    | cs => cs
  (Draft.lines (cs.length + 1) ⟨[], []⟩ cs).map fun draft => finishEntries draft.root

end FilterQuery.Toml
