import TextQuery.Command.RecordFile
import TextQuery.Delimited.Writer
import TextQuery.Files.Backup
import TextQuery.QuerySet

/-!
# Result tables

A result table repeats the records of a file, with or without their text, and adds a column of verdict
letters for each query. The table takes the place of an older file of the same path, which becomes a
backup.
-/
set_option autoImplicit false

namespace TextQuery.Command

open Delimited
open Files (Change Machine Path)

structure ResultLayout where
  textHeader : String
  fieldHeaders : List String
  queryNames : List String
  keepText : Bool
deriving DecidableEq

namespace ResultLayout

def header (layout : ResultLayout) : List String :=
  (if layout.keepText then [layout.textHeader] else []) ++ layout.fieldHeaders ++ layout.queryNames

def row (layout : ResultLayout) (record : Record) (verdicts : CheckRow) : List String :=
  (if layout.keepText then [record.text] else []) ++ record.fields ++
    verdicts.verdicts.map fun verdict => verdict.letter.toString

/-- The rows of the table, its header first. -/
def table (layout : ResultLayout) (records : List Record) (rows : List CheckRow) :
    List (List String) :=
  layout.header :: List.zipWith layout.row records rows

end ResultLayout

def encodeTable (delimiter : Delimiter) (table : List (List String)) : Bytes :=
  writeRecords delimiter (table.map (·.map Bytes.ofString))

/-- Writes a result table on a machine and keeps at most `backups` older ones. -/
def writeResultsOn (machine : Machine) (path : Path) (table : List (List String)) (backups : Nat) :
    Change CommandError Unit := do
  let content := encodeTable (.ofPath path) table
  (machine.createParent path).mapError .access
  (machine.rotateBackups path backups).mapError .access
  (machine.perform (.write path content)).mapError fun cause => .record (.access cause)
  (machine.perform (.flush path content)).mapError .access

def writeResults (path : Path) (table : List (List String)) (backups : Nat) :
    Change CommandError Unit :=
  writeResultsOn .reliable path table backups

/-- The path of the results for an input file: beside other results, under the name of the input with
`_result` before its extension. -/
def resultPath (resultsDir input : Path) : Path :=
  let name := input.stem ++ ['_', 'r', 'e', 's', 'u', 'l', 't']
  match input.extension? with
  | some extension => resultsDir.join ⟨name ++ '.' :: extension⟩
  | none => resultsDir.join ⟨name⟩

end TextQuery.Command
