import FilterQuery.Invocation.Scope

/-!
# Help

What the program says about itself: its help, its version, what is wrong with a
command line, and completions of the words of the program's own scope.
-/

namespace FilterQuery

/-- The program and its version. -/
def versionText : String :=
  "tfq 0.1.0\n"

/-- How the program is used. -/
def helpText : String :=
  "tfq - check and inspect Twitch filter queries\n" ++
  "\n" ++
  "Usage: tfq [OPTIONS] [COMMAND]\n" ++
  "\n" ++
  "Commands:\n" ++
  "  check [QUERY]         Compile a query and report whether it is valid\n" ++
  "  ast [QUERY]           Print the compiled syntax tree\n" ++
  "  filters               List the filters queries can reference\n" ++
  "  config [show]         Show the configuration\n" ++
  "  config path           Print the path of the config file\n" ++
  "  config init           Write a default config file; --force overwrites one\n" ++
  "  completions <SHELL>   Generate completions for bash, zsh, fish or powershell\n" ++
  "  help [COMMAND]...     Print this help\n" ++
  "\n" ++
  "Options:\n" ++
  "  -v, --verbose         Show config and registry details\n" ++
  "  -q, --quiet           Errors only\n" ++
  "      --json            Output JSON instead of text\n" ++
  "      --no-color        Disable colors in output\n" ++
  "      --config <PATH>   Config file to use\n" ++
  "  -h, --help            Print help\n" ++
  "  -V, --version         Print version\n"

/-- What the program says to a command line that it refuses, or that asks for
help or for the version. -/
def UsageFault.text : UsageFault → String
  | displayHelp => helpText
  | displayVersion => versionText
  | argumentConflict => "error: arguments exclude each other or are repeated\n"
  | invalidValue => "error: a value is missing or not acceptable\n"
  | invalidSubcommand => "error: unknown command\n"
  | missingRequiredArgument => "error: a required argument is missing\n"
  | tooManyValues => "error: an option without a value was given one\n"
  | unknownArgument => "error: unknown argument\n"

/-- The words that a command line may start with. -/
def commandWords : String :=
  " ".intercalate (Scope.program.commands.map (·.1) ++ [Scope.helpWord])

/-- Has a shell propose the commands of the program. -/
def completions : Shell → String
  | .bash => s!"complete -W \"{commandWords}\" tfq\n"
  | .zsh => s!"compctl -k \"({commandWords})\" tfq\n"
  | .fish => s!"complete -c tfq -n __fish_use_subcommand -a \"{commandWords}\"\n"
  | .powershell =>
    "Register-ArgumentCompleter -Native -CommandName tfq -ScriptBlock \x7b\n" ++
    "  param($word)\n" ++
    s!"  \"{commandWords}\".Split() | Where-Object " ++ "\x7b $_ -like \"$word*\" \x7d\n" ++
    "\x7d\n"

end FilterQuery
