import FilterQuery.Files.System

/-!
# Faults and the place of settings

The place of the settings file, and what can go wrong with it.
-/

namespace FilterQuery

/-!
## Faults of settings

What can go wrong with the settings file: finding it, reading it, what it says,
and making a new one.
-/

/-- What is wrong with the settings or their file. -/
inductive SettingsFault where
  /-- There is no place where settings are kept. -/
  | noLocation
  /-- The file cannot be read. -/
  | unreadable (cause : FileFault)
  /-- The file is no settings file. -/
  | malformed
  /-- The settings are written in a later version of the format. -/
  | newerVersion (version supported : Nat)
  /-- No query can name a filter with this identifier. -/
  | invalidIdentifier (identifier : String)
  /-- A new file would take the place of this one. -/
  | alreadyExists (path : Path)
  /-- The directory of a new file cannot be made. -/
  | noDirectory (cause : FileFault)
  /-- A new file cannot be written. -/
  | unwritable (cause : FileFault)
  deriving DecidableEq, Repr, Inhabited

/-- The wording of a fault. -/
def SettingsFault.message : SettingsFault → String
  | noLocation => "Could not determine config directory"
  | unreadable cause => s!"Failed to read config: {cause.message}"
  | malformed => "Failed to parse config: "
  | newerVersion version supported =>
    s!"Config version {version} is newer than supported version {supported}"
  | invalidIdentifier identifier =>
    s!"Invalid filter id '{identifier}'. Ids may only contain letters and '_'"
  | alreadyExists path =>
    s!"Config already exists at {path.text}. Use --force to overwrite it"
  | noDirectory cause => s!"Failed to create config directory: {cause.message}"
  | unwritable cause => s!"Failed to write config: {cause.message}"

/-!
## The path of the settings file

The settings file is the one that the user names. Without a name it lies in the
directory where the user's programs keep their settings, and if the environment
names no such directory, in one of the user's own.
-/

/-- What the variables around the program say, and the user's account. -/
structure Environment where
  /-- The path of the settings file, unless the command line gives one. -/
  settingsPath : Option String
  /-- The directory where programs keep their settings. -/
  settingsHome : Option String
  /-- The directory of the user. -/
  home : Option String
  /-- The directory that the user's account names, where `home` says nothing. -/
  accountHome : Option String
  /-- Whether output shall not be coloured. -/
  noColor : Bool
  deriving DecidableEq, Repr, Inhabited

namespace Environment

/-- The directory of the user; an empty name counts as none. -/
def userHome (env : Environment) : Option String :=
  match env.home with
  | some home => if home = "" then env.accountHome else some home
  | none => env.accountHome

/-- The directory where settings are kept. -/
def settingsDirectory (env : Environment) : Option Path :=
  match env.settingsHome, env.userHome with
  | some directory, _ => some (Path.join ⟨directory⟩ ⟨"tfq"⟩)
  | none, some home => some ((Path.join ⟨home⟩ ⟨".config"⟩).join ⟨"tfq"⟩)
  | none, none => none

end Environment

namespace Settings

/-- The path of the settings file, which the user may have named. -/
def path (env : Environment) : Option Path → Except SettingsFault Path
  | some named => .ok named
  | none =>
    match env.settingsDirectory with
    | some directory => .ok (directory.join ⟨"config.toml"⟩)
    | none => .error .noLocation

end Settings

end FilterQuery
