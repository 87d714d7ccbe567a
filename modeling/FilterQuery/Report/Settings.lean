import FilterQuery.Files.Path
import FilterQuery.Report.Query
import FilterQuery.Settings

/-!
# Reports on settings and filters

The settings with their file, and the filters that are known with them.
-/

namespace FilterQuery.Report

open Text (Ink Json)

/-!
## Showing settings

Settings are shown with the path of their file. A file that does not exist says
nothing, so the text only tells how to make one; the document shows the settings
that apply in either case.
-/

/-- The settings, their file and whether it exists, as text. -/
def settings (ink : Ink) (path : Path) (found : Bool) (s : Settings) : String :=
  let color := match s.color with
    | some color => s!"  color: {color}\n"
    | none => ""
  let filters :=
    if s.filters.isEmpty then "  (none)\n"
    else String.join (s.filters.map fun f => s!"  {f.identifier}: {f.kind.name}\n")
  let body :=
    if found then "[output]\n" ++ color ++ "\n[filters]\n" ++ filters
    else "(No config file exists. Run 'tfq config init' to create one.)\n"
  strong ink .green "Configuration" ++ "\n\n" ++ s!"File: {path.text}\nExists: {found}\n\n"
    ++ body

/-- The settings, their file and whether it exists, as a document. -/
def settingsDocument (path : Path) (found : Bool) (s : Settings) : Json :=
  .object [("config", s.document), ("exists", .bool found), ("path", .string path.text)]

/-!
## The table of filters

The known filters, each with its kind and where it was declared, as a table or
as a JSON document. The first column is as wide as the longest identifier has
bytes, and every cell is filled up to the width of its column by its number of
characters, so the columns line up whatever the identifiers are.
-/

/-- Where a filter was declared. -/
inductive Origin where
  /-- It is always known. -/
  | builtin
  /-- The settings declare it. -/
  | config
  deriving DecidableEq, Repr, Inhabited

/-- The word for an origin. -/
def Origin.name : Origin → String
  | builtin => "builtin"
  | config => "config"

/-- A row of the table. -/
structure FilterRow where
  /-- The filter of the row. -/
  filter : Filter
  /-- Where it was declared. -/
  origin : Origin
  deriving DecidableEq, Repr, Inhabited

/-- The rows of all filters that are known with these settings, in the order of
their identifiers. A filter that the settings declare comes from them, even if it
took the place of another. -/
def filterRows (settings : Settings) : List FilterRow :=
  settings.known.toList.map fun f =>
    ⟨f, if settings.declares f.identifier then .config else .builtin⟩

/-- The spaces that fill a text up to a width. -/
def padding (width : Nat) (s : String) : String :=
  String.ofList (List.replicate (width - s.length) ' ')

/-- The width of the column of kinds. -/
def kindWidth : Nat := 9

/-- The width of the column of identifiers. -/
def identifierWidth (rows : List FilterRow) : Nat :=
  rows.foldl (fun width row => max width row.filter.identifier.utf8ByteSize) 2

/-- A line of the table; `shown` is the second cell as it is written. -/
def tableLine (width : Nat) (first second shown third : String) : String :=
  s!"{first}{padding width first}  {shown}{padding kindWidth second}  {third}"

/-- The line of one filter. -/
def filterLine (ink : Ink) (width : Nat) (row : FilterRow) : String :=
  tableLine width row.filter.identifier row.filter.kind.name (kind ink row.filter.kind)
    row.origin.name

/-- The table of filters, or a note that there are none. -/
def filterTable (ink : Ink) (rows : List FilterRow) : String :=
  if rows.isEmpty then "No filters registered.\n"
  else
    let width := identifierWidth rows
    let title := ink.paint .dimmed (tableLine width "ID" "Kind" "Kind" "Source")
    String.join ((title :: rows.map (filterLine ink width)).map (· ++ "\n"))

/-- One filter as a document. -/
def filterRowDocument (row : FilterRow) : Json :=
  .object [
    ("id", .string row.filter.identifier),
    ("kind", .string row.filter.kind.name),
    ("source", .string row.origin.name)]

/-- The filters as a document. -/
def filterTableDocument (rows : List FilterRow) : Json :=
  .object [("filters", .array (rows.map filterRowDocument))]

end FilterQuery.Report
