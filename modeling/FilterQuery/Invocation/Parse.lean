import FilterQuery.Invocation.Scope

/-!
# Reading a command line

The words of a scope are taken one by one. An option that waits for a value gets
the next plain word, be it a command or not. A value or an operand is kept
`pending` at first and only judged when something else is taken up or the scope
ends, so a later word may be refused first.

A command opens a scope of its own, which the rest of the words belong to. The
scopes are judged from the inside out, each by itself: a flag may be repeated in
two scopes but not in one, and two flags that exclude each other do so within a
scope. Then the flags of all scopes count together, and of several paths the
innermost counts.
-/

namespace FilterQuery

/-- Something that has been given and not been judged yet. -/
inductive Pending where
  /-- The option for the settings file, with its value if there is one. -/
  | settings (path : Option String)
  /-- An operand. -/
  | operand (word : String)
  deriving DecidableEq, Repr, Inhabited

/-- What the words of one scope have given so far. -/
structure Level where
  /-- The scope. -/
  scope : Scope
  /-- The flags that are on. -/
  flags : List Flag
  /-- The path of the settings file. -/
  settings : Option String
  /-- The operand. -/
  operand : Option String
  /-- What has not been judged. -/
  pending : Option Pending
  /-- Whether an operand has been given, judged or not. -/
  hasOperand : Bool
  /-- Whether options have ended. -/
  trailing : Bool
  deriving DecidableEq, Repr, Inhabited

namespace Level

/-- A scope of which no word has been read. -/
def initial (scope : Scope) : Level where
  scope
  flags := []
  settings := none
  operand := none
  pending := none
  hasOperand := false
  trailing := false

/-- Whether a flag is on. -/
def has (level : Level) (flag : Flag) : Bool :=
  flag ∈ level.flags

/-- Whether an option waits for its value. -/
def awaitsValue (level : Level) : Bool :=
  level.pending = some (.settings none)

/-- Judges what is pending. -/
def resolve (level : Level) : Except UsageFault Level :=
  match level.pending with
  | none => .ok level
  | some (.settings none) => .error .invalidValue
  | some (.settings (some path)) =>
    if level.settings.isSome then .error .argumentConflict
    else if path = "" then .error .invalidValue
    else .ok { level with settings := some path, pending := none }
  | some (.operand word) =>
    if level.scope.acceptsOperand word then
      .ok { level with operand := some word, pending := none }
    else .error .invalidValue

/-- Takes up a switch. -/
def switch (level : Level) (s : Switch) : Except UsageFault Level := do
  let level ← level.resolve
  match s with
  | .help => .error .displayHelp
  | .version => .error .displayVersion
  | .flag flag =>
    if level.has flag then .error .argumentConflict
    else .ok { level with flags := flag :: level.flags }

/-- Takes up an option by name. -/
def long (level : Level) (name : String) (value : Option String) :
    Except UsageFault Level :=
  if name = Scope.settingsOption then do
    let level ← level.resolve
    let level := { level with pending := some (.settings value) }
    if value.isSome then level.resolve else .ok level
  else
    match level.scope.switchByName? name, value with
    | none, _ => .error .unknownArgument
    | some _, some _ => .error .tooManyValues
    | some s, none => level.switch s

/-- Takes up options by their letters. -/
def short (level : Level) : List Char → Except UsageFault Level
  | [] => .ok level
  | letter :: letters =>
    match Scope.switchByLetter? letter with
    | some s => do (← level.switch s).short letters
    | none => .error .unknownArgument

/-- Takes up a word that is neither an option nor a command. -/
def plain (level : Level) (word : String) : Except UsageFault Level :=
  if level.awaitsValue ∧ !level.trailing then
    .ok { level with pending := some (.settings (some word)) }
  else if level.scope.takesOperand ∧ !level.hasOperand then do
    let level ← level.resolve
    .ok { level with pending := some (.operand word), hasOperand := true }
  else if level.scope.commands.isEmpty ∨ (level.trailing ∧ level.scope.isCommand word) then
    .error .unknownArgument
  else .error .invalidSubcommand

/-- Takes up a word that opens no scope. -/
def take (level : Level) (word : String) : Except UsageFault Level :=
  if level.trailing then level.plain word
  else
    match Word.ofString word with
    | .separator => .ok { level with trailing := true }
    | .long name value => level.long name value
    | .short letters => level.short letters
    | .plain => level.plain word

/-- Whether a word in this place is a command if it names one. -/
def expectsCommand (level : Level) : Bool :=
  !level.trailing && !level.awaitsValue

/-! ## Judging a scope -/

/-- The command that the innermost scope asks for. -/
def command (level : Level) : Except UsageFault (Option Command) :=
  match level.scope with
  | .program => .ok none
  | .check => .ok (some (.check level.operand))
  | .ast => .ok (some (.ast level.operand))
  | .filters => .ok (some .filters)
  | .config => .ok (some (.config none))
  | .configShow => .ok (some (.config (some .show)))
  | .configPath => .ok (some (.config (some .path)))
  | .configInit => .ok (some (.config (some (.init (level.has .force)))))
  | .completions =>
    match level.operand with
    | none => .error .missingRequiredArgument
    | some word =>
      match Shell.ofName? word with
      | some shell => .ok (some (.completions shell))
      | none => .error .invalidValue

/-- What all scopes ask for together, from what the inner ones ask for. -/
def around (level : Level) (inner : Invocation) : Invocation where
  verbose := level.has .verbose || inner.verbose
  quiet := level.has .quiet || inner.quiet
  json := level.has .json || inner.json
  noColor := level.has .noColor || inner.noColor
  settings := inner.settings.or level.settings
  command := inner.command

/-- Judges a scope of which all words have been read. The path that the
environment gives counts as a value of every scope that gives none. -/
def check (level : Level) (environmentPath : Option String) : Except UsageFault Level := do
  let level ← level.resolve
  if level.settings.isNone ∧ environmentPath = some "" then .error .invalidValue
  else if level.has .quiet ∧ level.has .verbose then .error .argumentConflict
  else .ok level

/-- Reads the words of a scope and of the scopes inside it. -/
def read (environmentPath : Option String) (level : Level) :
    List String → Except UsageFault Invocation
  | [] => do
    let level ← level.check environmentPath
    return level.around (Invocation.plain (← level.command))
  | word :: words =>
    if level.expectsCommand ∧ level.scope.isCommand word then
      match level.scope.commands.lookup word with
      | none => .error (level.scope.help words)
      | some scope => do
        let inner ← (initial scope).read environmentPath words
        return (← level.check environmentPath).around inner
    else do (← level.take word).read environmentPath words

end Level

/-- Reads a command line, without the name of the program. -/
def Invocation.parse (environmentPath : Option String) (words : List String) :
    Except UsageFault Invocation := do
  let asked ← (Level.initial .program).read environmentPath words
  return { asked with settings := asked.settings.or environmentPath }

end FilterQuery
