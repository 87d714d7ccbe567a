import FilterQuery.Filter.Set
import FilterQuery.Text.Json

/-!
# Settings

A user may keep a preference about colours and filters of their own. The user's
filters extend the ones that are always known, and take their place where the
identifiers are the same.
-/

namespace FilterQuery

open Text (Json)

/-- What a user has set. -/
structure Settings where
  /-- The version of the format the settings are written in. -/
  version : Nat
  /-- Whether output shall be coloured, if the user has a preference. -/
  color : Option Bool
  /-- The user's filters, in the order in which they are declared. -/
  filters : List Filter
  deriving DecidableEq, Repr, Inhabited

namespace Settings

/-- The version of the format that this library reads. -/
def currentVersion : Nat := 1

/-- The settings of a user who has none. -/
def default : Settings where
  version := currentVersion
  color := none
  filters := []

/-- The filters that are always known and the user's. -/
def known (settings : Settings) : FilterSet :=
  FilterSet.builtin.insertMany settings.filters

/-- Whether the user declares a filter under this identifier. -/
def declares (settings : Settings) (identifier : String) : Bool :=
  settings.filters.any (·.identifier = identifier)

/-- A filter as a document. -/
def filterDocument (f : Filter) : Json :=
  .object [("id", .string f.identifier), ("kind", .string f.kind.name)]

/-- The settings as a document, without the fields that are not set. -/
def document (settings : Settings) : Json :=
  let color := match settings.color with
    | some color => [("color", Json.bool color)]
    | none => []
  let filters :=
    if settings.filters.isEmpty then []
    else [("filters", Json.array (settings.filters.map filterDocument))]
  .object (filters ++ [("output", .object color), ("version", .number settings.version)])

/-- The text of a new settings file. It sets the version only, so it means the
same as no file at all. -/
def template : String :=
  "# tfq - Twitch filter query checker configuration\n" ++
  "\n" ++
  "# Config schema version (do not modify)\n" ++
  "version = 1\n" ++
  "\n" ++
  "# Output preferences\n" ++
  "[output]\n" ++
  "# color = true    # Enable colors (respects NO_COLOR env)\n" ++
  "\n" ++
  "# Filters queries may reference in addition to the built-in ones.\n" ++
  "# A filter with a built-in id replaces it. kind is \"numerical\" or \"text\".\n" ++
  "# [[filters]]\n" ++
  "# id = \"reply_count\"\n" ++
  "# kind = \"numerical\"\n"

end Settings

end FilterQuery
