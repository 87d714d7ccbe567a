import FilterQuery.Query.Error

/-!
# Scanning the parts of a filter

A filter is read in four scans: its identifier, its comparison, its argument and
a look ahead for its connector. Every scan starts by stepping forward, so it
begins with the cursor on the last character that belongs to what came before,
and it ends with the cursor on the last character that it used up. A scan that
stops on a character of its neighbour steps back to leave it unread.

Each scan is one loop over the unread characters, and ends because every turn
leaves fewer of them (`remaining_stepForward_lt`).
-/

namespace FilterQuery

namespace Scan

/-! ## Steps -/

/-- The error of this kind at the cursor. -/
def errorAt (c : Cursor) (kind : QueryErrorKind) : CompileError :=
  .query ⟨kind, c.offset⟩

/-- A step forward that takes it for granted that a character is left. -/
def stepOn (c : Cursor) : Except CompileError Cursor :=
  c.advance.mapError .fault

/-- A step forward; `missing` is the error if no character is left. -/
def stepForward (c : Cursor) (missing : QueryErrorKind) : Except CompileError Cursor :=
  if c.hasNext then stepOn c else .error (errorAt c missing)

/-- A step back. -/
def stepBack (c : Cursor) : Except CompileError Cursor :=
  c.retreat.mapError .fault

theorem mapError_eq_ok {ε ε' α : Type} {f : ε → ε'} {x : Except ε α} {a : α} :
    x.mapError f = .ok a ↔ x = .ok a := by
  cases x with
  | error e => exact ⟨nofun, nofun⟩
  | ok b =>
    exact ⟨fun h => congrArg Except.ok (Except.ok.inj h),
      fun h => congrArg Except.ok (Except.ok.inj h)⟩

theorem advance_of_stepForward {c d : Cursor} {missing : QueryErrorKind}
    (h : stepForward c missing = .ok d) : c.advance = .ok d := by
  unfold stepForward at h
  split at h
  next => exact mapError_eq_ok.mp h
  next => cases h

theorem remaining_stepForward_lt {c d : Cursor} {missing : QueryErrorKind}
    (h : stepForward c missing = .ok d) : d.remaining < c.remaining :=
  Cursor.remaining_advance_lt (advance_of_stepForward h)

theorem remaining_stepOn_lt {c d : Cursor} (h : stepOn c = .ok d) :
    d.remaining < c.remaining :=
  Cursor.remaining_advance_lt (mapError_eq_ok.mp h)

/-! ## The identifier -/

/-- Reads identifier characters up to the first other character, on which the
cursor is left; `found` are the characters read so far. -/
def identifier (found : String) (c : Cursor) : Except CompileError (String × Cursor) :=
  match _step : stepForward c (.unterminatedFilter found) with
  | .error e => .error e
  | .ok d =>
    match d.currentClass with
    | .closeBracket => .error (errorAt d (.missingOperator found))
    | _ =>
      if isIdentifierChar d.current then identifier (found.push d.current) d
      else .ok (found, d)
termination_by c.remaining
decreasing_by exact remaining_stepForward_lt _step

/-! ## The comparison -/

/-- The characters of an operator that have been read: where the first of them
stands, and all of them. -/
structure Symbol where
  /-- The cursor on the first character. -/
  start : Cursor
  /-- The characters. -/
  text : String
  deriving DecidableEq, Repr, Inhabited

/-- An operator with one more character, the one under the cursor. -/
def Symbol.extend (symbol : Option Symbol) (d : Cursor) : Symbol :=
  match symbol with
  | some s => { s with text := s.text.push d.current }
  | none => ⟨d, d.current.toString⟩

/-- Reads the characters of an operator up to the character that ends it, on
which the cursor is left. Whitespace ends an operator only after it has begun. -/
def symbol (filter : String) (found : Option Symbol) (c : Cursor) :
    Except CompileError (Option Symbol × Cursor) :=
  match _step : stepForward c (.unterminatedFilter filter) with
  | .error e => .error e
  | .ok d =>
    match d.currentClass with
    | .whitespace => if found.isSome then .ok (found, d) else symbol filter found d
    | .doubleQuote => .ok (found, d)
    | .closeBracket =>
      .error (errorAt d
        (if found.isSome then .missingArgument filter else .missingOperator filter))
    | _ =>
      if isIdentifierChar d.current then .ok (found, d)
      else symbol filter (some (Symbol.extend found d)) d
termination_by c.remaining
decreasing_by all_goals exact remaining_stepForward_lt _step

/-- Reads the comparison of a filter and leaves the cursor on its last
character. -/
def comparison (filter : String) (c : Cursor) : Except CompileError (Comparison × Cursor) := do
  let (found, d) ← symbol filter none c
  match found with
  | none => .error (errorAt d (.missingOperator filter))
  | some s =>
    let d ← stepBack d
    match Comparison.ofSymbol? s.text with
    | some comparison => .ok (comparison, d)
    | none => .error (errorAt s.start (.unknownOperator filter s.text))

/-! ## The argument -/

/-- The character that an escaped character stands for. -/
def decodeEscape : Char → Char
  | 'n' => '\n'
  | 'r' => '\r'
  | c => c

/-- What is wrong with an argument that goes no further: it is not `opened`, or
not closed. -/
def unfinishedArgument (filter : String) (opened : Bool) (found : String) : QueryErrorKind :=
  if opened then .unterminatedArgument filter (!found.isEmpty) else .missingArgument filter

/-- Reads an argument and leaves the cursor on the quote that closes it. Escaped
characters count from the start, others only once the argument is `opened`;
whitespace never counts. -/
def argument (filter : String) (opened : Bool) (found : String) (c : Cursor) :
    Except CompileError (String × Cursor) :=
  match _step : stepForward c (unfinishedArgument filter opened found) with
  | .error e => .error e
  | .ok d =>
    match d.currentClass with
    | .whitespace => argument filter opened found d
    | .escape =>
      match _step' : stepForward d (unfinishedArgument filter opened found) with
      | .error e => .error e
      | .ok e => argument filter opened (found.push (decodeEscape e.current)) e
    | .doubleQuote => if opened then .ok (found, d) else argument filter true found d
    | .closeBracket => .error (errorAt d (unfinishedArgument filter opened found))
    | _ => argument filter opened (if opened then found.push d.current else found) d
termination_by c.remaining
decreasing_by
  · exact remaining_stepForward_lt _step
  · exact Nat.lt_trans (remaining_stepForward_lt _step') (remaining_stepForward_lt _step)
  · exact remaining_stepForward_lt _step
  · exact remaining_stepForward_lt _step

/-! ## The connector -/

/-- Looks ahead for the connector after a filter or calculator and leaves it, or
the closing bracket found in its place, unread. Every other character but
whitespace is passed over with a diagnostic. -/
def connector (c : Cursor) :
    List Diagnostic × Except CompileError (Option Connector × Cursor) :=
  match _step : stepForward c .unterminatedObject with
  | .error e => ([], .error e)
  | .ok d =>
    let stop (k : Option Connector) : List Diagnostic × Except CompileError _ :=
      ([], (stepBack d).map (k, ·))
    match d.currentClass with
    | .whitespace => connector d
    | .closeBracket => stop none
    | .logicalAnd => stop (some .and)
    | .logicalOr => stop (some .or)
    | .logicalXor => stop (some .xor)
    | _ =>
      let (skipped, outcome) := connector d
      (.unexpectedCharacter d.current d.offset :: skipped, outcome)
termination_by c.remaining
decreasing_by all_goals exact remaining_stepForward_lt _step

end Scan

end FilterQuery
