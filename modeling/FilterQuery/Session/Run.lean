import FilterQuery.Invocation
import FilterQuery.Query.Compile
import FilterQuery.Report.Document
import FilterQuery.Report.Query
import FilterQuery.Report.Settings
import FilterQuery.Session
import FilterQuery.Settings.Load

/-!
# Commands

What each command does, and the run of an invocation by its command.
-/

namespace FilterQuery

/-!
## Commands about queries and filters

These commands work with the user's settings: they know the user's filters and
follow the user's preference about colours. The query is an operand of the
command or, if that is missing or a dash, what stands in standard input.
-/

namespace Session

/-- The settings that the user means by `named`, and the presentation that they
ask for. -/
def openSettings (around : Surroundings) (how : Presentation) (named : Option Path) :
    Session (Settings × Presentation) := do
  let path ← ofExcept .settings (Settings.path around.environment named)
  let fs ← files
  let settings ← ofExcept .settings (Settings.load fs path)
  if how.verbose then
    let state := if fs.contains path then "" else " (not found, using defaults)"
    note s!"Using config {path.text}{state}"
  if settings.color = some false then return (settings, { how with ink := .plain })
  else return (settings, how)

/-- The text of the query that the user means. -/
def readQuery (around : Surroundings) : Option String → Session String
  | some query => if query = "-" then fromInput else pure query
  | none => fromInput
where
  /-- The text in standard input. -/
  fromInput : Session String := ofExcept .input (decodeText around.input)

/-- Compiles a query and warns of what was tolerated in it. -/
def compileQuery (how : Presentation) (known : FilterSet) (source : String) :
    Session (Option Query × List Diagnostic) := do
  if how.verbose then
    note s!"Compiling {source.utf8ByteSize} bytes against {known.size} filters"
  let compiled := compile known.registry source
  if !how.json && !how.quiet then
    compiled.diagnostics.forM fun d => note (Report.warning how.ink d)
  let query ← ofExcept .compile compiled.outcome
  return (query, compiled.diagnostics)

/-- Says whether a query is valid. -/
def check (around : Surroundings) (how : Presentation) (named : Option Path)
    (operand : Option String) : Session Unit := do
  let (settings, how) ← openSettings around how named
  let (query, diagnostics) ← compileQuery how settings.known (← readQuery around operand)
  answer how (Report.summaryDocument query diagnostics) (Report.summary how.ink query)

/-- Shows the tree of a query. -/
def ast (around : Surroundings) (how : Presentation) (named : Option Path)
    (operand : Option String) : Session Unit := do
  let (settings, how) ← openSettings around how named
  let (query, diagnostics) ← compileQuery how settings.known (← readQuery around operand)
  answer how (Report.treeDocument query diagnostics) (Report.tree how.ink query)

/-- Shows the known filters. -/
def filters (around : Surroundings) (how : Presentation) (named : Option Path) :
    Session Unit := do
  let (settings, how) ← openSettings around how named
  let rows := Report.filterRows settings
  answer how (Report.filterTableDocument rows) (Report.filterTable how.ink rows)

end Session

/-!
## Commands about the settings file

The settings can be shown, the path of their file can be shown, and a new file
can be made. A new file takes the place of another one only if the user forces
it to. Making one is the only thing any command does to the files.
-/

namespace Session

/-- Shows what the settings say. -/
def showSettings (env : Environment) (how : Presentation) (named : Option Path) :
    Session Unit := do
  let path ← ofExcept .settings (Settings.path env named)
  let fs ← files
  let settings ← ofExcept .settings (Settings.load fs path)
  let found := fs.contains path
  answer how (Report.settingsDocument path found settings)
    (Report.settings how.ink path found settings)

/-- Shows the path of the settings file. It is short, and it is what the user
asks for, so it is shown to the quiet user as well. -/
def showPath (env : Environment) (how : Presentation) (named : Option Path) :
    Session Unit := do
  let path ← ofExcept .settings (Settings.path env named)
  let found := (← files).contains path
  answer { how with quiet := false }
    (.object [("exists", .bool found), ("path", .string path.text)]) (path.text ++ "\n")

/-- Makes a new settings file. The directories around it that are missing are
made first, and stay if the file cannot be written after all. -/
def initSettings (env : Environment) (how : Presentation) (named : Option Path)
    (force : Bool) : Session Unit := do
  let path ← ofExcept .settings (Settings.path env named)
  let fs ← files
  if fs.contains path && !force then throw (.settings (.alreadyExists path))
  let (fs, made) := fs.makeParents path
  setFiles fs
  ofExcept (.settings ∘ .noDirectory) made
  setFiles (← ofExcept (.settings ∘ .unwritable) (fs.write path Settings.template.toUTF8))
  answer how (.object [("path", .string path.text), ("status", .string "success")])
    s!"Created config at {path.text}\n"

end Session

/-!
## Running an invocation

An invocation is run by its command. Colours are used unless the command line or
the environment forbids them; the commands that work with the settings let these
forbid them too.

The text of completions depends on the command line as a whole and on nothing
else, so it is left to the program around this library.
-/

/-- The presentation that an invocation asks for in an environment. -/
def Invocation.presentation (inv : Invocation) (env : Environment) : Presentation where
  verbose := inv.verbose
  quiet := inv.quiet
  json := inv.json
  ink := .ofBool (!inv.noColor && !env.noColor)

namespace Session

/-- What is shown if no command is asked for. -/
def greeting : String :=
  "tfq - Twitch filter query checker\nUse --help for usage information\n"

/-- Runs an invocation. -/
def run (around : Surroundings) (inv : Invocation) : Session Unit :=
  let env := around.environment
  let how := inv.presentation env
  let named := inv.settings.map Path.mk
  match inv.command with
  | some (.check operand) => check around how named operand
  | some (.ast operand) => ast around how named operand
  | some .filters => filters around how named
  | some (.config none) | some (.config (some .show)) => showSettings env how named
  | some (.config (some .path)) => showPath env how named
  | some (.config (some (.init force))) => initSettings env how named force
  | some (.completions _) => pure ()
  | none => if how.quiet then pure () else print greeting

end Session

end FilterQuery
