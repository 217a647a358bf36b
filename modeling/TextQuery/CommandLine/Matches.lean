import TextQuery.CommandLine.Grammar

/-!
# Reading the command line

The arguments are read from left to right. A value is accepted when the argument after it is read, so an
unknown option is reported before a fault in the value in front of it. Options of every level may stand
at any level, and are checked against others of their level only.
-/
set_option autoImplicit false

namespace TextQuery.CommandLine

inductive UsageError
  | unknownArgument
  | unknownCommand
  | missingArgument
  /-- A value that is missing, or none of those that are possible. -/
  | badValue
  /-- A number that is not in range, or no number. -/
  | badNumber
  /-- Two options that exclude each other, or one that is given twice. -/
  | conflict
  /-- A value for an option that takes none. -/
  | surplusValue
deriving DecidableEq

/-- Why the arguments do not amount to a request. -/
inductive Halt
  | help
  /-- The version was asked for at the level with the given path. -/
  | version (path : List Level)
  | usage (error : UsageError)
deriving DecidableEq

/-- What was given and is not accepted yet. -/
inductive Pending
  | setting (setting : Setting) (value : Option String)
  | place (value : String)
deriving DecidableEq

/-- What has been read at one level, in the order in which it was given. -/
structure Matches where
  switches : List Switch
  settings : List (Setting × String)
  places : List String
deriving DecidableEq

/-- A level that is being read. -/
structure Reading where
  /-- The levels from the top down to this one. -/
  path : List Level
  level : Level
  accepted : Matches
  pending : Option Pending

/-- The number in a text: digits, with a plus sign before them or not. -/
def decimal? (text : String) : Option Nat :=
  let digits := match text.toList with
    | '+' :: rest => rest
    | chars => chars
  if digits ≠ [] ∧ digits.all Char.isDigit then
    some (digits.foldl (fun value c => value * 10 + (c.toNat - '0'.toNat)) 0)
  else none

/-- A number of workers that may be asked for. -/
def workers? (text : String) : Option Nat :=
  (decimal? text).filter fun count => 1 ≤ count ∧ count ≤ 0xFFFF

def Setting.check (value : String) : Setting → Except UsageError Unit
  | columns => .ok ()
  | input | output => if value.isEmpty then .error .badValue else .ok ()
  | workers => if (workers? value).isSome then .ok () else .error .badNumber

namespace Reading

def fail {α : Type} (error : UsageError) : Except Halt α := .error (.usage error)

def enter (path : List Level) (level : Level) : Reading :=
  ⟨path ++ [level], level, ⟨[], [], []⟩, none⟩

/-- Accepts a setting. Only columns may be given more than once. -/
def acceptSetting (reading : Reading) (setting : Setting) (value : String) : Except Halt Reading :=
  if setting ≠ .columns ∧ reading.accepted.settings.any (·.1 = setting) then fail .conflict
  else
    match setting.check value with
    | .error error => fail error
    | .ok () =>
      let settings := reading.accepted.settings ++ [(setting, value)]
      .ok { reading with accepted := { reading.accepted with settings } }

def acceptPlace (reading : Reading) (value : String) : Except Halt Reading :=
  if reading.level = .completions ∧ Shell.ofName? value = none then fail .badValue
  else
    let places := reading.accepted.places ++ [value]
    .ok { reading with accepted := { reading.accepted with places } }

def settle (reading : Reading) : Except Halt Reading :=
  let settled := { reading with pending := none }
  match reading.pending with
  | none => .ok settled
  | some (.setting _ none) => fail .badValue
  | some (.setting setting (some value)) => settled.acceptSetting setting value
  | some (.place value) => settled.acceptPlace value

/-- The option that was given last has no value yet. -/
def awaiting? (reading : Reading) : Option Setting :=
  match reading.pending with
  | some (.setting setting none) => some setting
  | _ => none

def acceptSwitch (reading : Reading) (switch : Switch) : Except Halt Reading := do
  let reading ← reading.settle
  if switch ∈ reading.accepted.switches then fail .conflict
  else
    let switches := reading.accepted.switches ++ [switch]
    return { reading with accepted := { reading.accepted with switches } }

/-- An option with its value, which may still be to come. -/
def giveSetting (reading : Reading) (setting : Setting) : Option String → Except Halt Reading
  | some value => do (← reading.settle).acceptSetting setting value
  | none => do return { ← reading.settle with pending := some (.setting setting none) }

/-- Carries out an option without a value. -/
def giveFlag (reading : Reading) (flag : Flag) : Except Halt Reading :=
  match flag with
  | .switch switch => reading.acceptSwitch switch
  | .setting setting => reading.giveSetting setting none
  | .help => do
    let _ ← reading.settle
    .error .help
  | .version => do
    let _ ← reading.settle
    .error (.version reading.path)

/-- An option by its long name, with a value after an equals sign or not. -/
def readLong (reading : Reading) (name : String) (value : Option String) : Except Halt Reading :=
  match longFlag? reading.level name, value with
  | none, _ => fail .unknownArgument
  | some (.setting setting), value => reading.giveSetting setting value
  | some flag, none => reading.giveFlag flag
  | some _, some _ => fail .surplusValue

/-- Options by their letters. What follows the letter of an option with a value is its value. -/
def readShort (reading : Reading) : List Char → Except Halt Reading
  | [] => .ok reading
  | letter :: rest =>
    match shortFlag? reading.level letter, rest with
    | none, _ => fail .unknownArgument
    | some (.setting setting), '=' :: value =>
      reading.giveSetting setting (some (String.ofList value))
    | some (.setting setting), c :: more =>
      reading.giveSetting setting (some (String.ofList (c :: more)))
    | some flag, rest => do readShort (← reading.giveFlag flag) rest

/-- A value without an option. `literal` says that a double hyphen came before. -/
def readPlace (reading : Reading) (literal : Bool) (value : String) : Except Halt Reading := do
  let reading ← reading.settle
  let level := reading.level
  if level.capacity?.any (· ≤ reading.accepted.places.length) then
    let isCommand := (level.command? value).isSome || level.asksForHelp value
    if (literal && isCommand) || level.commands.isEmpty then fail .unknownArgument
    else fail .unknownCommand
  else return { reading with pending := some (.place value) }

/-- One argument that is neither a command nor a double hyphen. -/
def readArgument (reading : Reading) (argument : String) : Except Halt Reading :=
  match argument.toList with
  | '-' :: '-' :: long =>
    let name := String.ofList (long.takeWhile (· ≠ '='))
    match long.dropWhile (· ≠ '=') with
    | _ :: value => reading.readLong name (some (String.ofList value))
    | [] => reading.readLong name none
  | '-' :: letter :: letters => reading.readShort (letter :: letters)
  | _ =>
    match reading.awaiting? with
    | some setting => .ok { reading with pending := some (.setting setting (some argument)) }
    | none => reading.readPlace false argument

/-- Ends a level: nothing may be missing, and options must go together. -/
def finish (reading : Reading) : Except Halt Matches := do
  let reading ← reading.settle
  let accepted := reading.accepted
  if .quiet ∈ accepted.switches ∧ .verbose ∈ accepted.switches then fail .conflict
  else if accepted.places.length < reading.level.required then fail .missingArgument
  else return accepted

end Reading

/-- Reads the words after `help`, which are the names of commands. -/
def readHelp (level : Level) : List String → Halt
  | [] => .help
  | word :: rest =>
    match level.command? word with
    | some command => readHelp command rest
    | none => if level.asksForHelp word ∧ rest.isEmpty then .help else .usage .unknownCommand

/-- The arguments after a double hyphen. -/
def readLiterals (reading : Reading) (arguments : List String) : Except Halt Matches := do
  (← arguments.foldlM (Reading.readPlace · true) reading).finish

/-- Reads the rest of the arguments at a level and below it. The result is the level that was reached and
what was given there, with the switches of all levels. -/
def readLevel (reading : Reading) : List String → Except Halt (Level × Matches)
  | [] => do return (reading.level, ← reading.finish)
  | argument :: rest =>
    match reading.level.command? argument with
    | some command => do
      let (reached, matched) ← readLevel (.enter reading.path command) rest
      let above ← reading.finish
      return (reached, { matched with switches := above.switches ++ matched.switches })
    | none =>
      if reading.level.asksForHelp argument then .error (readHelp reading.level rest)
      else if argument = "--" then do return (reading.level, ← readLiterals reading rest)
      else do readLevel (← reading.readArgument argument) rest

def readArguments (arguments : List String) : Except Halt (Level × Matches) :=
  readLevel (.enter [] .top) arguments

end TextQuery.CommandLine
