/-!
# Invocations

An invocation is what a user asks for on a command line: a command, or none, and
how its outcome is to be presented.
-/

namespace FilterQuery

/-- A shell for which completions can be made. -/
inductive Shell where
  | bash
  | zsh
  | fish
  | powershell
  deriving DecidableEq, Repr, Inhabited

/-- Reads a shell from its name; case counts. -/
def Shell.ofName? : String → Option Shell
  | "bash" => some .bash
  | "zsh" => some .zsh
  | "fish" => some .fish
  | "powershell" => some .powershell
  | _ => none

/-- What can be done with the settings file. -/
inductive SettingsCommand where
  /-- Show what it says. -/
  | show
  /-- Show where it is. -/
  | path
  /-- Make a new one; `force` allows it to take the place of another. -/
  | init (force : Bool)
  deriving DecidableEq, Repr, Inhabited

/-- What a user can ask for. -/
inductive Command where
  /-- Say whether a query is valid. -/
  | check (query : Option String)
  /-- Show the tree of a query. -/
  | ast (query : Option String)
  /-- Show the known filters. -/
  | filters
  /-- Do something with the settings file; without a word on what, show it. -/
  | config (command : Option SettingsCommand)
  /-- Make completions for a shell. -/
  | completions (shell : Shell)
  deriving DecidableEq, Repr, Inhabited

/-- What a user asks for. -/
structure Invocation where
  /-- Whether to report what is done on the way. -/
  verbose : Bool
  /-- Whether to report nothing but failures. -/
  quiet : Bool
  /-- Whether to answer with documents. -/
  json : Bool
  /-- Whether to do without colours. -/
  noColor : Bool
  /-- The path of the settings file, if the user names one. -/
  settings : Option String
  /-- The command, if there is one. -/
  command : Option Command
  deriving DecidableEq, Repr, Inhabited

/-- A command without anything else. -/
def Invocation.plain (command : Option Command) : Invocation where
  verbose := false
  quiet := false
  json := false
  noColor := false
  settings := none
  command

/-- Why a command line is no invocation. Asking for help or for the version is
one of the reasons. -/
inductive UsageFault where
  | displayHelp
  | displayVersion
  | argumentConflict
  | invalidValue
  | invalidSubcommand
  | missingRequiredArgument
  | tooManyValues
  | unknownArgument
  deriving DecidableEq, Repr, Inhabited

/-- The exit status after such a command line: help and the version are what the
user wanted. -/
def UsageFault.exitStatus : UsageFault → Nat
  | displayHelp | displayVersion => 0
  | _ => 2

end FilterQuery
