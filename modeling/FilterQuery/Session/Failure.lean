import FilterQuery.Query.Error
import FilterQuery.Settings.Location
import FilterQuery.Text.Json

/-!
# Failures

A command ends well or with a failure: of its query, of the settings, or of
reading what the user wrote. A failure is told apart by its code and by the exit
status, and is shown as a line or as a document.
-/

namespace FilterQuery

open Text (Json)

/-- Why a command fails. -/
inductive Failure where
  /-- The query does not compile. -/
  | compile (error : CompileError)
  /-- Something is wrong with the settings. -/
  | settings (fault : SettingsFault)
  /-- The query cannot be read. -/
  | input (fault : FileFault)
  deriving DecidableEq, Repr, Inhabited

namespace Failure

/-- The word for the sort of a failure. -/
def code : Failure → String
  | compile (.query _) => "QUERY_ERROR"
  | compile (.fault _) => "STRUCTURAL_ERROR"
  | settings _ => "CONFIG_ERROR"
  | input _ => "IO_ERROR"

/-- The exit status after a failure. -/
def exitStatus : Failure → Nat
  | compile (.query _) => 1
  | input _ => 3
  | compile (.fault _) => 4
  | settings _ => 5

/-- The wording of a failure. -/
def message : Failure → String
  | compile error => error.message
  | settings fault => s!"configuration error: {fault.message}"
  | input fault => s!"I/O error: {fault.message}"

/-- Where the query is wrong, in bytes before the place. -/
def offset? : Failure → Option Nat
  | compile error => error.offset?
  | _ => none

/-- A failure as a document. -/
def document (f : Failure) : Json :=
  let place := match f.offset? with
    | some offset => [("offset", Json.number offset)]
    | none => []
  .object [("error",
    .object ([("code", .string f.code), ("message", .string f.message)] ++ place))]

end Failure

end FilterQuery
