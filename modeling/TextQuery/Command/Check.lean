import TextQuery.Command.ResultTable
import TextQuery.Config
import TextQuery.Files.FirstFile
import TextQuery.Report.Summary

/-!
# Classifying a file

The records of an input file are checked against named queries, and the verdicts are written to a result
file. Everything that is read is read before anything is written.
-/
set_option autoImplicit false

namespace TextQuery.Command

open Delimited
open Files (Change FileTree Machine Path)

/-- What is asked for; what is left out follows from the configuration. -/
structure CheckRequest where
  names : List String
  input : Option Path
  output : Option Path
  workers : Option Nat
  keepText : Bool
deriving DecidableEq

/-- The path of the file that holds a query. -/
def queryPath (dir : Path) (name : String) : Path := dir.joinName (name ++ ".txt")

/-- The text of a query file without the white space around it. -/
def readQuery (machine : Machine) (tree : FileTree) (dir : Path) (name : String) :
    Except CommandError String :=
  let path := queryPath dir name
  match machine.allows (.openFile path 1) tree *> machine.allows (.readFile path 1) tree *>
      tree.readText path with
  | .ok text => .ok (String.ofList (Text.trim text.toList))
  | .error cause => .error (.input (.unreadableQuery name path cause))

/-- The names with the texts of their queries. `seen` are the names before them; a name is refused
before its file is read. -/
def readQueries (machine : Machine) (tree : FileTree) (dir : Path) (seen : List String) :
    List String → Except CommandError (List (String × String))
  | [] => .ok []
  | name :: rest => do
    if name ∈ seen then
      .error (.input (.repeatedName name))
    else
      let query ← readQuery machine tree dir name
      return (name, query) :: (← readQueries machine tree dir (name :: seen) rest)

def loadQueries (machine : Machine) (tree : FileTree) (dir : Path) (names : List String) :
    Except CommandError QuerySet := do
  if names.isEmpty then
    .error (.input .noNames)
  else
    match QuerySet.parseAll (← readQueries machine tree dir [] names) with
    | .ok queries => .ok queries
    | .error cause => .error (.querySet cause)

/-- The first file of the input directory. -/
def firstInputOn (machine : Machine) (tree : FileTree) (dir : Path) : Except CommandError Path :=
  match machine.allows (.openDirectory dir) tree *> tree.firstFile? dir with
  | .error cause => .error (.input (.unreadableDirectory dir cause))
  | .ok found => do
    (machine.allows (.listDirectory dir) tree).mapError .access
    match found with
    | some path => .ok path
    | none => .error (.input (.emptyDirectory dir))

def firstInput (tree : FileTree) (dir : Path) : Except CommandError Path :=
  firstInputOn .reliable tree dir

/-- A classified file that is still to be written. -/
structure Classification where
  input : Path
  output : Path
  workers : Nat
  layout : ResultLayout
  records : List Record
  rows : List CheckRow

namespace Classification

/-- The number of rows in which the query at a place has a match. -/
def hits (rows : List CheckRow) (place : Nat) : Nat :=
  rows.countP fun row => (row.verdicts[place]?).any Verdict.isMatch

def summary (classification : Classification) : Summary where
  input := classification.input.toString
  output := classification.output.toString
  rows := classification.rows.length
  workers := classification.workers
  queries := classification.layout.queryNames.mapIdx fun place name =>
    ⟨name, hits classification.rows place⟩

def table (classification : Classification) : List (List String) :=
  classification.layout.table classification.records classification.rows

end Classification

/-- Reads the queries and the input, and checks every record. `cpus` is the number of processors. -/
def classify (machine : Machine) (config : Config) (request : CheckRequest) (cpus : Nat)
    (tree : FileTree) : Except CommandError Classification := do
  let queries ← loadQueries machine tree config.paths.queryDir request.names
  let input ← match request.input with
    | some path => .ok path
    | none => firstInputOn machine tree config.paths.inputDir
  let file ← RecordFile.openOn machine tree input
  let records ← file.recordsOn machine tree 0
  let options := config.run.selectionOptions request.workers
  let workers := options.workerCount cpus
  (machine.allows (.startWorkers workers) tree).mapError .access
  return {
    input, workers, records
    output := request.output.getD (resultPath config.paths.resultsDir input)
    layout := {
      textHeader := file.textHeader
      fieldHeaders := file.fieldHeaders
      queryNames := queries.names
      keepText := request.keepText || config.run.keepText }
    rows := queries.select options workers (records.map Record.text) }

/-- Classifies a file on a machine and writes the results. -/
def checkOn (machine : Machine) (config : Config) (request : CheckRequest) (cpus : Nat) :
    Change CommandError Summary := do
  match classify machine config request cpus (← get) with
  | .error error => throw error
  | .ok classification =>
    writeResultsOn machine classification.output classification.table config.run.backupCount
    return classification.summary

def check (config : Config) (request : CheckRequest) (cpus : Nat) : Change CommandError Summary :=
  checkOn .reliable config request cpus

end TextQuery.Command
