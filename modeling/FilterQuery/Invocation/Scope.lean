import FilterQuery.Invocation

/-!
# Words and scopes of a command line

What a word may be by its form, and what it means in the part of the command line that it
belongs to.
-/

namespace FilterQuery

/-!
## Words of a command line

The form of a word tells what it may be: a word with two dashes is an option by
name, one with a single dash a run of one-letter options, two dashes alone end
the options, and everything else, a single dash included, is plain.
-/

/-- A word of a command line. -/
inductive Word where
  /-- Two dashes alone. -/
  | separator
  /-- An option by name, with what stands after the first equals sign. -/
  | long (name : String) (value : Option String)
  /-- Options by their letters. -/
  | short (letters : List Char)
  /-- Anything else. -/
  | plain
  deriving DecidableEq, Repr, Inhabited

namespace Word

/-- A name and the value after the first equals sign, if there is one. -/
def splitValue (cs : List Char) : String × Option String :=
  match cs.dropWhile (· ≠ '=') with
  | _ :: value => (String.ofList (cs.takeWhile (· ≠ '=')), some (String.ofList value))
  | [] => (String.ofList cs, none)

/-- The form of a word. -/
def ofString (s : String) : Word :=
  match s.toList with
  | ['-', '-'] => separator
  | '-' :: '-' :: cs =>
    let (name, value) := splitValue cs
    long name value
  | '-' :: c :: cs => short (c :: cs)
  | _ => plain

end Word

/-!
## Scopes of a command line

A command line is read in nested scopes: the program as a whole, then a command,
then perhaps a command of that command. A scope says which words open a scope
inside it, whether it takes an operand, and which flags it knows.
-/

/-- Something that is on when it is named. -/
inductive Flag where
  | verbose
  | quiet
  | json
  | noColor
  /-- Overwrite a file that is there. -/
  | force
  deriving DecidableEq, Repr, Inhabited

/-- What an option by name or letter asks for. -/
inductive Switch where
  /-- To turn a flag on. -/
  | flag (flag : Flag)
  /-- To see the help. -/
  | help
  /-- To see the version. -/
  | version
  deriving DecidableEq, Repr, Inhabited

/-- The part of a command line that words belong to. -/
inductive Scope where
  /-- The program. -/
  | program
  /-- The command that checks a query. -/
  | check
  /-- The command that shows a tree. -/
  | ast
  /-- The command that shows the filters. -/
  | filters
  /-- The command about the settings file. -/
  | config
  /-- Its command that shows the settings. -/
  | configShow
  /-- Its command that shows the path. -/
  | configPath
  /-- Its command that makes a new file. -/
  | configInit
  /-- The command that makes completions. -/
  | completions
  deriving DecidableEq, Repr, Inhabited

namespace Scope

/-- The words that open a scope inside this one. -/
def commands : Scope → List (String × Scope)
  | program => [("check", check), ("c", check), ("ast", ast), ("filters", filters),
      ("f", filters), ("config", config), ("completions", completions)]
  | config => [("show", configShow), ("path", configPath), ("init", configInit)]
  | _ => []

/-- The word that asks for help about a command. -/
def helpWord : String := "help"

/-- Whether a word is a command of this scope. Where there are commands there is
one for help. -/
def isCommand (scope : Scope) (word : String) : Bool :=
  !scope.commands.isEmpty && (word = helpWord || (scope.commands.lookup word).isSome)

/-- Whether the scope takes an operand. -/
def takesOperand : Scope → Bool
  | check | ast | completions => true
  | _ => false

/-- Whether a word may be the operand of this scope. -/
def acceptsOperand (scope : Scope) (word : String) : Bool :=
  scope ≠ completions || (Shell.ofName? word).isSome

/-- The name of the option that gives the path of the settings file. -/
def settingsOption : String := "config"

/-- The switch with this name. -/
def switchByName? (scope : Scope) : String → Option Switch
  | "verbose" => some (.flag .verbose)
  | "quiet" => some (.flag .quiet)
  | "json" => some (.flag .json)
  | "no-color" => some (.flag .noColor)
  | "force" => if scope = configInit then some (.flag .force) else none
  | "help" => some .help
  | "version" => some .version
  | _ => none

/-- The switch with this letter. -/
def switchByLetter? : Char → Option Switch
  | 'v' => some (.flag .verbose)
  | 'q' => some (.flag .quiet)
  | 'h' => some .help
  | 'V' => some .version
  | _ => none

/-- The scopes that the words after the one for help lead to: none of them has
to be a scope that could do anything, but each has to be a command of the one
before. -/
def help : Scope → List String → UsageFault
  | _, [] => .displayHelp
  | scope, word :: words =>
    match scope.commands.lookup word with
    | some inner => inner.help words
    | none =>
      if scope.isCommand word ∧ words.isEmpty then .displayHelp else .invalidSubcommand

end Scope

end FilterQuery
