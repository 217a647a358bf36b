import TextQuery.CommandLine.Matches

/-!
# Help, versions and completions

The texts that the program shows about itself.
-/
set_option autoImplicit false

namespace TextQuery.CommandLine

def programVersion : String := "0.1.0"

/-- The version of the program, under the names of the levels that lead to where it was asked for. -/
def versionText (path : List Level) : String :=
  String.intercalate "-" (path.map Level.name) ++ " " ++ programVersion ++ "\n"

/-- What is shown if no command is given. -/
def overviewText : String :=
  "sift - Boolean full-text query classifier\nUse --help for usage information\n"

def helpText : String :=
  "Classify text records against boolean full-text queries\n\n" ++
  "Usage: sift [OPTIONS] [COMMAND]\n\n" ++
  "Commands:\n" ++
  "  check [NAMES]... [--columns LIST] [-i FILE] [-o FILE] [-w COUNT] [--keep-text]\n" ++
  "  parse EXPR\n" ++
  "  eval EXPR TEXT\n" ++
  "  config [show|path]\n" ++
  "  completions bash|zsh|fish|powershell\n" ++
  "  help [COMMAND]...\n\n" ++
  "Options:\n" ++
  "  -v, --verbose   Verbose output\n" ++
  "  -q, --quiet     Errors only\n" ++
  "      --json      Output JSON\n" ++
  "      --no-color  Disable colors in output\n" ++
  "  -h, --help      Print help\n" ++
  "  -V, --version   Print version\n"

def UsageError.message : UsageError → String
  | unknownArgument => "unexpected argument"
  | unknownCommand => "unrecognized subcommand"
  | missingArgument => "required arguments were not provided"
  | badValue => "a value is missing or not possible"
  | badNumber => "a number is not valid"
  | conflict => "arguments cannot be used together or more than once"
  | surplusValue => "unexpected value for an option"

/-- The names of the commands, with spaces between them. -/
def commandNames : String :=
  String.intercalate " " (Level.top.commands.map Level.name ++ ["help"])

/-- A script with which a shell completes the names of the commands. -/
def completionScript : Shell → String
  | .bash => "complete -W \"" ++ commandNames ++ "\" sift\n"
  | .zsh => "compctl -k \"(" ++ commandNames ++ ")\" sift\n"
  | .fish => "complete -c sift -f -a \"" ++ commandNames ++ "\"\n"
  | .powershell =>
    "Register-ArgumentCompleter -Native -CommandName sift -ScriptBlock \x7b " ++
      "param($word) \"" ++ commandNames ++ "\".Split(' ') | Where-Object \x7b $_ -like \"$word*\" \x7d \x7d\n"

end TextQuery.CommandLine
