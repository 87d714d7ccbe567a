import FilterQuery.Invocation.Help
import FilterQuery.Invocation.Parse
import FilterQuery.Session.Run

/-!
# The program

Reads the command line, the environment, standard input and the files on the way
to the settings file, runs the session, and carries out what it leaves behind.
-/

namespace FilterQuery

/-- The environment of the program. -/
def readEnvironment : IO Environment := do
  return {
    settingsPath := ← IO.getEnv "TFQ_CONFIG"
    settingsHome := ← IO.getEnv "XDG_CONFIG_HOME"
    home := ← IO.getEnv "HOME"
    accountHome := none
    noColor := (← IO.getEnv "NO_COLOR").isSome }

/-- The path of a location, from the root. -/
def Location.path (location : Location) : String :=
  "/" ++ "/".intercalate location

/-- What stands at a location on the disk. -/
def readEntry (location : Location) : IO (Option Entry) := do
  let place := (← IO.currentDir) / location.path
  if ← place.isDir then return some .directory
  else if ← place.pathExists then return some (.file (← IO.FS.readBinFile place))
  else return none

/-- Adds what stands on the way along some names. -/
def readAlong (fs : FileSystem) (location : Location) : List String → IO FileSystem
  | [] => return fs
  | name :: names => do
    let location := if name = ".." then location.dropLast else location ++ [name]
    match ← readEntry location with
    | some entry => readAlong (if location = [] then fs else fs.put location entry) location names
    | none => readAlong fs location names

/-- The part of the disk that lies on the way to a path. -/
def readFiles (path : Path) : IO FileSystem := do
  let here := Path.mk (← IO.currentDir).toString
  let fs ← readAlong ⟨[], here.names⟩ [] here.names
  readAlong fs (fs.start path) path.names

/-- Brings the disk to the state of a file system, where it differs from what
was there before. -/
def writeFiles (before after : FileSystem) : IO Unit := do
  let changed := after.entries.reverse.filter fun (location, entry) =>
    before.lookup location ≠ some entry
  for (location, entry) in changed do
    match entry with
    | .directory => IO.FS.createDirAll location.path
    | .file content => IO.FS.writeBinFile location.path content

/-- Whether a command reads its query from standard input. -/
def Command.readsInput : Command → Bool
  | .check query | .ast query => query = none || query = some "-"
  | _ => false

/-- Runs a session on the disk and returns the exit status. -/
def runInvocation (env : Environment) (inv : Invocation) : IO UInt32 := do
  let files ← match Settings.path env (inv.settings.map Path.mk) with
    | .ok path => readFiles path
    | .error _ => pure default
  let input ←
    if inv.command.any Command.readsInput then (← IO.getStdin).readBinToEnd
    else pure ByteArray.empty
  match Session.run ⟨env, input⟩ inv ⟨files, "", ""⟩ with
  | .ok _ w =>
    writeFiles files w.files
    IO.eprint w.stderr
    IO.print w.stdout
    match inv.command with
    | some (.completions shell) => IO.print (completions shell)
    | _ => pure ()
    return 0
  | .error f w =>
    writeFiles files w.files
    IO.eprint w.stderr
    IO.print w.stdout
    IO.eprintln (if inv.json then f.document.pretty else s!"Error: {f.message}")
    return f.exitStatus.toUInt32

end FilterQuery

open FilterQuery in
/-- Runs the program. -/
def main (words : List String) : IO UInt32 := do
  let env ← readEnvironment
  match Invocation.parse env.settingsPath words with
  | .ok inv => runInvocation env inv
  | .error fault =>
    if fault.exitStatus = 0 then IO.print fault.text else IO.eprint fault.text
    return fault.exitStatus.toUInt32
