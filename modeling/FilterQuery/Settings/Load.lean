import FilterQuery.Query.Cursor
import FilterQuery.Settings
import FilterQuery.Settings.Location
import FilterQuery.Toml.Document

/-!
# Loading settings

From the text of a settings file to settings that apply.
-/

namespace FilterQuery

/-!
## Settings in a TOML document

The root table holds the version, the preferences about output and the filters.
Every one of them may be missing, and other keys are passed over. A group of
fields is a table, or an array that lists the fields in their order; a date,
which has neither names nor an order, is a group without any of the fields.
-/

namespace Settings

open Toml (Value)

/-- The least number that is too great for a version. -/
def versionLimit : Int := 4294967296

/-- A version: a whole number of 32 bits. -/
def decodeVersion : Value → Option Nat
  | .integer i => if 0 ≤ i ∧ i < versionLimit then some i.toNat else none
  | _ => none

/-- A preference about colours, which is there. -/
def decodeColor : Value → Option (Option Bool)
  | .boolean b => some (some b)
  | _ => none

/-- The preferences about output. -/
def decodeOutput : Value → Option (Option Bool)
  | .table entries =>
    match entries.lookup "color" with
    | some v => decodeColor v
    | none => some none
  | .array (v :: _) => decodeColor v
  | .moment => some none
  | _ => none

/-- A kind: its word, alone or as the only key of a table, where it holds
nothing. -/
def decodeKind : Value → Option Kind
  | .text name => Kind.ofName? name
  | .table [(name, .table [])] => Kind.ofName? name
  | .table [(name, .array [])] => Kind.ofName? name
  | _ => none

/-- A filter from the values of its fields. -/
def decodeFields (identifier kind : Value) : Option Filter :=
  match identifier with
  | .text identifier => (decodeKind kind).map (⟨identifier, ·⟩)
  | _ => none

/-- A filter. -/
def decodeFilter : Value → Option Filter
  | .table entries => do decodeFields (← entries.lookup "id") (← entries.lookup "kind")
  | .array (identifier :: kind :: _) => decodeFields identifier kind
  | _ => none

/-- The filters of a user. -/
def decodeFilters : Value → Option (List Filter)
  | .array items => items.mapM decodeFilter
  | _ => none

/-- The field of a table under a key, or what stands for it if it is missing. -/
def field {α : Type} (entries : List (String × Value)) (key : String)
    (decode : Value → Option α) (missing : α) : Option α :=
  match entries.lookup key with
  | some v => decode v
  | none => some missing

/-- Settings from the entries of a root table. -/
def ofEntries? (entries : List (String × Value)) : Option Settings := do
  let version ← field entries "version" decodeVersion default.version
  let color ← field entries "output" decodeOutput default.color
  let filters ← field entries "filters" decodeFilters default.filters
  return { version, color, filters }

/-- Settings from the text of a settings file. -/
def ofText? (text : String) : Option Settings :=
  Toml.document? text >>= ofEntries?

end Settings

/-!
## Loading the file

If there is no settings file the default settings apply. If there is one it has
to be readable, and what it says has to be acceptable: its version is not above
the current one, and every filter it declares can be named in a query.
-/

namespace Settings

/-- Whether a query can name a filter with this identifier. -/
def isNameable (identifier : String) : Bool :=
  identifier ≠ "" && identifier.toList.all isIdentifierChar

/-- Settings that are acceptable, in the current version; of several identifiers
that are not, the first is the fault. -/
def accept (settings : Settings) : Except SettingsFault Settings :=
  if settings.version > currentVersion then
    .error (.newerVersion settings.version currentVersion)
  else
    match settings.filters.find? fun f => !isNameable f.identifier with
    | some f => .error (.invalidIdentifier f.identifier)
    | none => .ok { settings with version := currentVersion }

/-- The settings that a text holds. -/
def ofText (text : String) : Except SettingsFault Settings :=
  match ofText? text with
  | some settings => settings.accept
  | none => .error .malformed

/-- The settings in the file under a path. -/
def load (fs : FileSystem) (path : Path) : Except SettingsFault Settings :=
  if fs.contains path then
    match fs.readText path with
    | .ok text => ofText text
    | .error cause => .error (.unreadable cause)
  else .ok default

end Settings

end FilterQuery
