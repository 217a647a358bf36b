/-!
# The grammar of the command line

A command line names a command, and within some commands another one. Each of these levels has its own
switches, settings and places; four switches belong to every level.
-/
set_option autoImplicit false

namespace TextQuery.CommandLine

inductive Level
  | top
  | check
  | parse
  | eval
  | config
  | configShow
  | configPath
  | completions
deriving DecidableEq

/-- An option that is given or not. -/
inductive Switch
  | verbose
  | quiet
  | json
  | noColor
  | keepText
deriving DecidableEq

/-- An option with a value. -/
inductive Setting
  | columns
  | input
  | output
  | workers
deriving DecidableEq

/-- What an option on the command line asks for. -/
inductive Flag
  | switch (switch : Switch)
  | setting (setting : Setting)
  | help
  | version
deriving DecidableEq

namespace Level

def name : Level → String
  | top => "sift"
  | check => "check"
  | parse => "parse"
  | eval => "eval"
  | config => "config"
  | configShow => "show"
  | configPath => "path"
  | completions => "completions"

def commands : Level → List Level
  | top => [check, parse, eval, config, completions]
  | config => [configShow, configPath]
  | _ => []

def alias? : Level → Option String
  | check => some "c"
  | parse => some "p"
  | eval => some "e"
  | _ => none

/-- The command within a level that goes by a name. -/
def command? (level : Level) (word : String) : Option Level :=
  level.commands.find? fun command => command.name = word ∨ command.alias? = some word

/-- The word asks for help on the commands within a level. -/
def asksForHelp (level : Level) (word : String) : Bool :=
  !level.commands.isEmpty && word = "help"

/-- The most values that a level takes without an option, if there is such a number. -/
def capacity? : Level → Option Nat
  | top | config | configShow | configPath => some 0
  | parse | completions => some 1
  | eval => some 2
  | check => none

/-- The values that a level must have. -/
def required : Level → Nat
  | parse | completions => 1
  | eval => 2
  | top | check | config | configShow | configPath => 0

end Level

/-- The option that a long name stands for in a level. -/
def longFlag? (level : Level) (name : String) : Option Flag :=
  match name, level with
  | "verbose", _ => some (.switch .verbose)
  | "quiet", _ => some (.switch .quiet)
  | "json", _ => some (.switch .json)
  | "no-color", _ => some (.switch .noColor)
  | "help", _ => some .help
  | "version", _ => some .version
  | "keep-text", .check => some (.switch .keepText)
  | "columns", .check => some (.setting .columns)
  | "input", .check => some (.setting .input)
  | "output", .check => some (.setting .output)
  | "workers", .check => some (.setting .workers)
  | _, _ => none

/-- The option that a letter stands for in a level. -/
def shortFlag? (level : Level) (letter : Char) : Option Flag :=
  match letter, level with
  | 'v', _ => some (.switch .verbose)
  | 'q', _ => some (.switch .quiet)
  | 'h', _ => some .help
  | 'V', _ => some .version
  | 'i', .check => some (.setting .input)
  | 'o', .check => some (.setting .output)
  | 'w', .check => some (.setting .workers)
  | _, _ => none

inductive Shell
  | bash
  | zsh
  | fish
  | powershell
deriving DecidableEq

namespace Shell

def all : List Shell := [bash, zsh, fish, powershell]

def name : Shell → String
  | bash => "bash"
  | zsh => "zsh"
  | fish => "fish"
  | powershell => "powershell"

def ofName? (name : String) : Option Shell := all.find? fun shell => shell.name = name

end Shell

end TextQuery.CommandLine
