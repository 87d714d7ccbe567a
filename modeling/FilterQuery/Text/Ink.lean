/-!
# Ink

Output is plain or coloured. In coloured output a piece of text is put between
two escape sequences, one that turns a style on and one that turns it off again;
in plain output the text stands alone. Every style keeps its text as it is, so
colours add escape sequences and change nothing else.
-/

namespace FilterQuery.Text

/-- Whether output carries colours. -/
inductive Ink where
  /-- No escape sequences. -/
  | plain
  /-- Styles are written out as escape sequences. -/
  | coloured
  deriving DecidableEq, Repr, Inhabited

/-- A way to set text off. -/
inductive Style where
  | bold
  | dimmed
  | green
  | yellow
  | cyan
  | magenta
  deriving DecidableEq, Repr, Inhabited

/-- The escape sequence with the given number. -/
def escapeSequence (code : Nat) : String :=
  s!"\x1b[{code}m"

/-- The number that turns a style on. -/
def Style.onCode : Style → Nat
  | bold => 1
  | dimmed => 2
  | green => 32
  | yellow => 33
  | cyan => 36
  | magenta => 35

/-- The number that turns a style off: weights go back to everything being
normal, colours to the default colour. -/
def Style.offCode : Style → Nat
  | bold | dimmed => 0
  | green | yellow | cyan | magenta => 39

namespace Ink

/-- The ink for a wish for colours. -/
def ofBool : Bool → Ink
  | true => coloured
  | false => plain

/-- A text in a style. -/
def paint (ink : Ink) (style : Style) (s : String) : String :=
  match ink with
  | plain => s
  | coloured => escapeSequence style.onCode ++ s ++ escapeSequence style.offCode

end Ink

end FilterQuery.Text
