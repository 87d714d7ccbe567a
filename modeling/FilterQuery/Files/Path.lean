/-!
# Paths

A path is a text, and is shown as it was given. What it names is read off its
segments, the pieces between slashes: empty segments and single dots lead
nowhere, so only the others, the names, count. Two things are lost with them and
kept apart: whether the path starts at the root, and whether it ends in a way
that only fits a directory.

The directories around a path are paths of their own. Each is the start of the
text, as it was given, up to one of the names: how long a path is depends on its
text and not on its names alone.
-/

namespace FilterQuery

/-- The place of a file or directory, as a user writes it. -/
structure Path where
  /-- The path as it was given. -/
  text : String
  deriving DecidableEq, Repr, Inhabited

namespace Path

/-- The pieces of a text between slashes, of which there is always at least
one. -/
def splitSlashes : List Char → List (List Char)
  | [] => [[]]
  | c :: cs =>
    if c = '/' then [] :: splitSlashes cs
    else
      match splitSlashes cs with
      | [] => [[c]]
      | piece :: pieces => (c :: piece) :: pieces

/-- The pieces of a path between slashes. -/
def segments (p : Path) : List String :=
  (splitSlashes p.text.toList).map String.ofList

/-- Whether a path starts at the root. -/
def isAbsolute (p : Path) : Bool :=
  p.text.toList.head? = some '/'

/-- Whether a segment leads nowhere. -/
def isIdle (segment : String) : Bool :=
  segment = "" || segment = "."

/-- The segments that lead somewhere; two dots lead to the directory around. -/
def names (p : Path) : List String :=
  p.segments.filter (!isIdle ·)

/-- The path with these segments: the first, and the others from the last one
on. The first is empty if the path starts at the root. -/
def ofSegments (first : String) (others : List String) : Path :=
  if first = "" ∧ others = [] then ⟨"/"⟩
  else ⟨"/".intercalate (first :: others.reverse)⟩

/-- The directories around the path with these segments, the nearest first. -/
def directoriesAround (first : String) : List String → List Path
  | [] => if first = "" then [] else [⟨""⟩]
  | last :: others =>
    if isIdle last then directoriesAround first others
    else ofSegments first (others.dropWhile isIdle) :: directoriesAround first others

/-- The directories around what a path names, the nearest first. They go up to
the root, or to the empty path, which stands for the working directory. -/
def ancestors (p : Path) : List Path :=
  match p.segments with
  | [] => []
  | first :: others => directoriesAround first others.reverse

/-- How a path ends. -/
inductive Ending where
  /-- With a name. -/
  | name
  /-- With a slash after a name. -/
  | slash
  /-- With a segment that is always a directory: dots, or the root itself. -/
  | dots
  deriving DecidableEq, Repr, Inhabited

/-- How the path ends. -/
def ending (p : Path) : Ending :=
  match p.segments.reverse with
  | [] => .name
  | last :: earlier =>
    if last = "." ∨ last = ".." then .dots
    else if last ≠ "" then .name
    else
      match earlier.find? (· ≠ "") with
      | none => .dots
      | some s => if s = "." ∨ s = ".." then .dots else .slash

/-- A path continued by another; one that starts at the root stands alone. -/
def join (p q : Path) : Path :=
  if q.isAbsolute ∨ p.text = "" then q
  else if p.segments.getLast? = some "" then ⟨p.text ++ q.text⟩
  else ⟨p.text ++ "/" ++ q.text⟩

end Path

end FilterQuery
