import Mathlib.Data.List.Zip
import TextQuery.Proofs.Command.RecordFile
import TextQuery.Proofs.Files.Stages

/-!
# Result files read again

A result file is itself a file of records: opened and read, it gives the header and the rows that were
written, in order and cell by cell (`records_of_writeResults`).
-/
set_option autoImplicit false

namespace TextQuery.Command

open Delimited
open Files (Change FileTree Location Machine Path)

/-- Writing results ends by writing the table to the path. -/
theorem write_of_writeResultsOn {machine : Machine} {path : Path} {table : List (List String)} {backups : Nat}
    {tree after : FileTree} (run : writeResultsOn machine path table backups tree = .ok () after) :
    ∃ before : FileTree, before.write path (encodeTable (.ofPath path) table) = .ok after := by
  rw [writeResultsOn] at run
  obtain ⟨-, prepared, -, run⟩ := Change.bind_ok run
  obtain ⟨-, rotated, -, run⟩ := Change.bind_ok run
  obtain ⟨_, written, wrote, run⟩ := Change.bind_ok run
  have flushed : written.perform (.flush path (encodeTable (.ofPath path) table)) = .ok after :=
    Machine.perform_ok (Change.mapError_ok run)
  obtain rfl := Except.ok.inj flushed
  exact ⟨rotated, Machine.perform_ok (Change.mapError_ok wrote)⟩

theorem find_of_writeResultsOn {machine : Machine} {path : Path} {table : List (List String)} {backups : Nat}
    {tree after : FileTree} (run : writeResultsOn machine path table backups tree = .ok () after) :
    ∃ place, after.find path = .ok (place, .file (encodeTable (.ofPath path) table)) := by
  obtain ⟨before, written⟩ := write_of_writeResultsOn run
  exact Files.FileTree.find_of_write written

theorem refines_writeResultsOn (machine : Machine) (path : Path) (table : List (List String)) (backups : Nat) :
    (writeResultsOn machine path table backups).Refines (writeResults path table backups) :=
  (machine.refines_createParent path).mapError.bind fun _ =>
    (machine.refines_rotateBackups path backups).mapError.bind fun _ =>
      (machine.refines_perform _).mapError.bind fun _ => (machine.refines_perform _).mapError

namespace ResultLayout

variable {layout : ResultLayout}

theorem header_ne_nil (queries : layout.queryNames ≠ []) : layout.header ≠ [] := by
  simp [header, queries]

theorem row_ne_nil {verdicts : CheckRow} (answered : verdicts.entries ≠ []) (record : Record) :
    layout.row record verdicts ≠ [] := by
  simp [row, CheckRow.verdicts, answered]

theorem row_ne_nil_of_mem {records : List Record} {rows : List CheckRow}
    (answered : ∀ verdicts ∈ rows, verdicts.entries ≠ []) :
    ∀ row ∈ List.zipWith layout.row records rows, row ≠ [] := by
  intro row member
  rw [← List.map_uncurry_zip_eq_zipWith] at member
  obtain ⟨⟨record, verdicts⟩, pair, rfl⟩ := List.mem_map.mp member
  exact row_ne_nil (answered verdicts (List.of_mem_zip pair).2) record

end ResultLayout

/-- A result file that was written gives back its header and its rows. -/
theorem records_of_writeResults {machine : Machine} {path : Path} {layout : ResultLayout}
    {records : List Record} {rows : List CheckRow} {backups : Nat} {tree after : FileTree}
    (queries : layout.queryNames ≠ [])
    (answered : ∀ verdicts ∈ rows, verdicts.entries ≠ [])
    (unmarked : (layout.header.headD "").toList.head? ≠ some markChar)
    (run : writeResultsOn machine path (layout.table records rows) backups tree = .ok () after) :
    ∃ file written, RecordFile.openAt after path = .ok file ∧
      file.textHeader :: file.fieldHeaders = layout.header ∧ file.records 0 = .ok written ∧
        written.map Record.cells = List.zipWith layout.row records rows := by
  obtain ⟨place, found⟩ := find_of_writeResultsOn run
  exact RecordFile.exists_of_encodeTable (ResultLayout.header_ne_nil queries)
    (ResultLayout.row_ne_nil_of_mem answered) unmarked found

/-! Cells with delimiters, quotes, line ends and nothing in them, in rows of different lengths. -/

def sampleLayout : ResultLayout := ⟨"te\"xt", ["", "a\tb"], ["q\r\n"], true⟩

def sampleRecords : List Record := [⟨"x\ty", ["", "\"q\"", "\r"]⟩, ⟨"", []⟩]

def sampleRows : List CheckRow := [⟨[("q", .matched)]⟩, ⟨[("q", .unmatched)]⟩]

theorem records_of_writeResults_sample :
    ∃ after, writeResults (.ofString "results/out.tsv") (sampleLayout.table sampleRecords sampleRows) 5 .empty =
        .ok () after ∧
      ∃ file written, RecordFile.openAt after (.ofString "results/out.tsv") = .ok file ∧
        file.textHeader :: file.fieldHeaders = sampleLayout.header ∧ file.records 0 = .ok written ∧
          written.map Record.cells = List.zipWith sampleLayout.row sampleRecords sampleRows := by
  have succeeds : Change.succeeded (writeResults (.ofString "results/out.tsv")
      (sampleLayout.table sampleRecords sampleRows) 5 .empty) = true := by
    decide +kernel
  obtain ⟨_, after, run⟩ := Change.exists_of_succeeded succeeds
  exact ⟨after, run, records_of_writeResults (by decide) (by decide) (by decide) run⟩

end TextQuery.Command
