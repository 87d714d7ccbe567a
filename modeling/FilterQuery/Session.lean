import FilterQuery.Files.System
import FilterQuery.Session.Failure
import FilterQuery.Settings.Location
import FilterQuery.Text.Ink

/-!
# Sessions

A session is one run of a command. It works on a world: the files, and what has
been printed so far as an answer and as notes beside it. It ends well or with a
failure, and leaves a world in both cases.

How a session presents itself decides what it prints, and nothing else.
-/

namespace FilterQuery

open Text (Ink Json)

/-- What surrounds a session: the environment and what the user sends it. -/
structure Surroundings where
  /-- What the environment says. -/
  environment : Environment
  /-- What stands in standard input. -/
  input : ByteArray
  deriving Inhabited

/-- What a session works on. -/
structure World where
  /-- The files. -/
  files : FileSystem
  /-- What has been printed as the answer. -/
  stdout : String
  /-- What has been printed beside the answer. -/
  stderr : String
  deriving Inhabited

/-- A part of a session. -/
abbrev Session (α : Type) : Type :=
  EStateM Failure World α

/-- How a session presents itself. -/
structure Presentation where
  /-- Whether to print notes on what is done. -/
  verbose : Bool
  /-- Whether to print failures only. -/
  quiet : Bool
  /-- Whether to answer with documents. -/
  json : Bool
  /-- Whether the text of an answer is coloured. -/
  ink : Ink
  deriving DecidableEq, Repr, Inhabited

namespace Session

/-- Prints a part of the answer. -/
def print (text : String) : Session Unit :=
  modify fun w => { w with stdout := w.stdout ++ text }

/-- Prints a line beside the answer. -/
def note (line : String) : Session Unit :=
  modify fun w => { w with stderr := w.stderr ++ line ++ "\n" }

/-- Prints a document as the answer. -/
def printDocument (document : Json) : Session Unit :=
  print (document.pretty ++ "\n")

/-- Gives the answer as a document or as text, whichever is wanted. -/
def answer (how : Presentation) (document : Json) (text : String) : Session Unit :=
  if how.json then printDocument document
  else if how.quiet then pure ()
  else print text

/-- Goes on with a result that was computed apart. -/
def ofExcept {ε α : Type} (failure : ε → Failure) : Except ε α → Session α
  | .ok a => pure a
  | .error e => throw (failure e)

/-- The files as they are. -/
def files : Session FileSystem :=
  fun w => .ok w.files w

/-- Leaves other files. -/
def setFiles (fs : FileSystem) : Session Unit :=
  modify fun w => { w with files := fs }

end Session

end FilterQuery
