import TextQuery.Command.Error
import TextQuery.Files.Tree
import TextQuery.Selection
import TextQuery.Toml.Document

/-!
# Configuration

The directories and the settings of runs. They are read from a document in which every section and
every setting may be left out; keys that mean nothing here are passed over.
-/
set_option autoImplicit false

namespace TextQuery

open Command (ConfigError)
open Files (FileTree Path)

structure PathSettings where
  /-- The directory of the query files. -/
  queryDir : Path
  /-- The directory whose first file is read if no input is given. -/
  inputDir : Path
  /-- The directory of the results. -/
  resultsDir : Path
deriving DecidableEq

structure RunSettings where
  cpuDivideCount : Nat
  workers : Option Nat
  chunkLen : Nat
  /-- The number of older results that are kept. -/
  backupCount : Nat
  /-- Whether results repeat the text of the records. -/
  keepText : Bool
deriving DecidableEq

structure Config where
  version : Nat
  paths : PathSettings
  run : RunSettings
deriving DecidableEq

namespace PathSettings

def default : PathSettings := ⟨.ofString "queries", .ofString "run", .ofString "results"⟩

end PathSettings

namespace RunSettings

def default : RunSettings := ⟨2, none, 100, 5, false⟩

/-- The options of a selection; a number of workers that is given for it counts more than the one that
is configured. -/
def selectionOptions (settings : RunSettings) (workers : Option Nat) : SelectionOptions :=
  ⟨workers <|> settings.workers, settings.cpuDivideCount, settings.chunkLen⟩

end RunSettings

namespace Config

/-- The version that every configuration has once it has been read. -/
def currentVersion : Nat := 1

def maxVersion : Nat := 0xFFFFFFFF

def default : Config := ⟨currentVersion, .default, .default⟩

/-! ## Reading values -/

/-- The settings of a section by place and name. A section is a table, or an array of its settings in
their order; a date or time counts as a table without settings. -/
def settingsOf? : Toml.Value → Option (Nat → String → Option Toml.Value)
  | .table _ members => some fun _ name => members.lookup name.toList
  | .array items => some fun place _ => items[place]?
  | .dateTime => some fun _ _ => none
  | .tables before last =>
    some fun place _ => ((before ++ [last])[place]?).map (.table .header)
  | _ => none

/-- The value of a setting, or what it is by default. -/
def valueOf {α : Type} (decode : Toml.Value → Option α) (default : α) :
    Option Toml.Value → Option α
  | none => some default
  | some value => decode value

/-- A natural number up to a bound. -/
def natural? (bound : Nat) : Toml.Value → Option Nat
  | .integer value => if 0 ≤ value ∧ value ≤ bound then some value.toNat else none
  | _ => none

def count? : Toml.Value → Option Nat := natural? maxCount

def flag? : Toml.Value → Option Bool
  | .boolean value => some value
  | _ => none

def path? : Toml.Value → Option Path
  | .text chars => some ⟨chars⟩
  | _ => none

def pathSettings? (value : Toml.Value) : Option PathSettings := do
  let setting ← settingsOf? value
  let default := PathSettings.default
  return {
    queryDir := ← valueOf path? default.queryDir (setting 0 "query_dir")
    inputDir := ← valueOf path? default.inputDir (setting 1 "input_dir")
    resultsDir := ← valueOf path? default.resultsDir (setting 2 "results_dir") }

def runSettings? (value : Toml.Value) : Option RunSettings := do
  let setting ← settingsOf? value
  let default := RunSettings.default
  return {
    cpuDivideCount := ← valueOf count? default.cpuDivideCount (setting 0 "cpu_divide_count")
    workers := ← valueOf (fun value => some <$> count? value) default.workers (setting 1 "workers")
    chunkLen := ← valueOf count? default.chunkLen (setting 2 "chunk_len")
    backupCount := ← valueOf count? default.backupCount (setting 3 "backup_count")
    keepText := ← valueOf flag? default.keepText (setting 4 "keep_text") }

def ofMembers? (members : Toml.Members) : Option Config := do
  let member (name : String) := members.lookup name.toList
  return {
    version := ← valueOf (natural? maxVersion) currentVersion (member "version")
    paths := ← valueOf pathSettings? .default (member "paths")
    run := ← valueOf runSettings? .default (member "run") }

/-! ## Reading documents -/

/-- The first setting that is zero and must not be. -/
def zeroSetting? (config : Config) : Option Command.PositiveSetting :=
  if config.run.cpuDivideCount = 0 then some .cpuDivideCount
  else if config.run.chunkLen = 0 then some .chunkLen
  else if config.run.workers = some 0 then some .workers
  else none

/-- The configuration that a document describes. -/
def parse (document : List Char) : Except ConfigError Config :=
  match Toml.parse? document >>= ofMembers? with
  | none => .error .malformed
  | some config =>
    match config.zeroSetting? with
    | some setting => .error (.zero setting)
    | none => .ok { config with version := currentVersion }

/-- The configuration at a path. Where there is nothing the defaults hold. -/
def load (tree : FileTree) (path : Path) : Except ConfigError Config :=
  if tree.contains path then
    match tree.readText path with
    | .ok document => parse document.toList
    | .error cause => .error (.unreadable cause)
  else .ok default

end Config

end TextQuery
