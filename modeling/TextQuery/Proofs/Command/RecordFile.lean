import TextQuery.Command.ResultTable
import TextQuery.Proofs.Delimited.Records
import TextQuery.Proofs.Files.Tree

/-!
# Files of text cells

A file that holds written cells is a file of records: its header row and its records are the cells as they
were written, unless the first of them starts with the character that also serves as a mark of byte order.
-/
set_option autoImplicit false

namespace TextQuery

namespace Record

/-- The cells of a record. -/
def cells (record : Record) : List String := record.text :: record.fields

theorem cells_ofCells {row : List String} (nonempty : row ≠ []) : (ofCells row).cells = row := by
  cases row with
  | nil => contradiction
  | cons text fields => rfl

end Record

namespace Delimited

variable {delimiter : Delimiter}

/-! ## Marks of byte order -/

/-- The character whose bytes are the mark of byte order. -/
def markChar : Char := '\uFEFF'

theorem withoutMark_eq_self {bytes : Bytes} (unmarked : Bytes.firstChar? bytes ≠ some markChar) :
    withoutMark bytes = bytes := by
  unfold withoutMark
  split
  · rename_i rest
    have marked := Bytes.firstChar?_encode markChar rest
    rw [show String.utf8EncodeChar markChar = [0xEF, 0xBB, 0xBF] by decide] at marked
    exact absurd marked unmarked
  · rfl

theorem firstChar?_quoteByte (rest : Bytes) : Bytes.firstChar? (quoteByte :: rest) = some '"' :=
  Bytes.firstChar?_encode '"' rest

theorem firstChar?_delimiter (rest : Bytes) :
    Bytes.firstChar? (delimiter.byte :: rest) ≠ some markChar := by
  cases delimiter with
  | comma =>
    rw [show Delimiter.comma.byte :: rest = String.utf8EncodeChar ',' ++ rest from rfl,
      Bytes.firstChar?_encode]
    decide
  | tab =>
    rw [show Delimiter.tab.byte :: rest = String.utf8EncodeChar '\t' ++ rest from rfl,
      Bytes.firstChar?_encode]
    decide

theorem firstChar?_writeField {cell : String} (unmarked : cell.toList.head? ≠ some markChar) (rest : Bytes)
    (follows : Bytes.firstChar? rest ≠ some markChar) :
    Bytes.firstChar? (writeField delimiter (Bytes.ofString cell) ++ rest) ≠ some markChar := by
  rw [writeField]
  split
  · rw [List.cons_append, List.cons_append, firstChar?_quoteByte]
    decide
  · rw [Bytes.ofString]
    cases chars : cell.toList with
    | nil => exact follows
    | cons c more =>
      rw [Bytes.ofChars, List.flatMap_cons, List.append_assoc, Bytes.firstChar?_encode]
      rw [chars] at unmarked
      exact unmarked

theorem firstChar?_writeRecord {cell : String} (unmarked : cell.toList.head? ≠ some markChar)
    (others : List Field) (rest : Bytes) :
    Bytes.firstChar? (writeRecord delimiter (Bytes.ofString cell :: others) ++ rest) ≠ some markChar := by
  have newlineFirst : Bytes.firstChar? (newline :: rest) = some '\n' := Bytes.firstChar?_encode '\n' rest
  have line : Bytes.firstChar? (writeFields delimiter (Bytes.ofString cell :: others) ++ newline :: rest) ≠
      some markChar := by
    cases others with
    | nil =>
      apply firstChar?_writeField unmarked
      rw [newlineFirst]
      decide
    | cons next others =>
      rw [writeFields_cons _ (List.cons_ne_nil _ _), List.append_assoc, List.cons_append]
      exact firstChar?_writeField unmarked _ (firstChar?_delimiter _)
  rw [writeRecord]
  split
  · rw [List.cons_append, firstChar?_quoteByte]
    decide
  · rw [List.append_assoc, List.singleton_append]
    exact line

end Delimited

namespace Command

open Delimited
open Files (FileTree Location Machine Path bind_eq_ok)

/-! ## Runs that end well -/

section Except

variable {ε ε' α β : Type} {value : β}

theorem ok_of_mapError {f : ε → ε'} {result : Except ε β} (run : result.mapError f = .ok value) :
    result = .ok value := by
  cases result with
  | error error => contradiction
  | ok found => exact congrArg Except.ok (Except.ok.inj run)

theorem seqRight_eq_ok {first : Except ε α} {next : Except ε β} (run : (first *> next) = .ok value) :
    next = .ok value := by
  cases first with
  | error error => contradiction
  | ok found => exact run

end Except

/-! ## Tables -/

/-- The cells in delimited bytes, if all of them are text. -/
def cellsOf? (delimiter : Delimiter) (bytes : Bytes) : Option (List (List String)) :=
  (readRecords delimiter bytes).mapM fun record => record.fields.mapM Bytes.toString?

variable {header : List String} {rows : List (List String)}

theorem fields_encodeTable (delimiter : Delimiter) {table : List (List String)}
    (nonempty : ∀ row ∈ table, row ≠ []) :
    (readRecords delimiter (encodeTable delimiter table)).map ReadRecord.fields =
      table.map (·.map Bytes.ofString) := by
  rw [encodeTable, fields_readRecords]
  intro fields member
  obtain ⟨row, inTable, rfl⟩ := List.mem_map.mp member
  simpa using nonempty row inTable

theorem mapM_toString? (cells : List String) :
    (cells.map Bytes.ofString).mapM Bytes.toString? = some cells := by
  induction cells with
  | nil => rfl
  | cons cell cells ih =>
    have first : Bytes.toString? (Bytes.ofString cell) = some cell := by
      rw [Bytes.toString?, Bytes.decode_ofString]
      rfl
    rw [List.map_cons, List.mapM_cons, first, ih]
    rfl

theorem cellsOf?_encodeTable (delimiter : Delimiter) {table : List (List String)}
    (nonempty : ∀ row ∈ table, row ≠ []) :
    cellsOf? delimiter (encodeTable delimiter table) = some table := by
  have fields := fields_encodeTable delimiter nonempty
  rw [cellsOf?]
  generalize readRecords delimiter (encodeTable delimiter table) = records at fields
  clear nonempty
  induction table generalizing records with
  | nil =>
    rw [List.map_eq_nil_iff.mp fields]
    rfl
  | cons row table ih =>
    obtain ⟨record, others, rfl, first, rest⟩ := List.map_eq_cons_iff.mp fields
    rw [List.mapM_cons, first, mapM_toString?, ih others rest]
    rfl

theorem fields_recordsOf (path : Path) (nonempty : header ≠ []) (filled : ∀ row ∈ rows, row ≠ [])
    (unmarked : (header.headD "").toList.head? ≠ some markChar) :
    (recordsOf path (encodeTable (.ofPath path) (header :: rows))).map ReadRecord.fields =
      (header :: rows).map (·.map Bytes.ofString) := by
  rw [recordsOf, withoutMark_eq_self]
  · exact fields_encodeTable _ (List.forall_mem_cons.mpr ⟨nonempty, filled⟩)
  · cases header with
    | nil => contradiction
    | cons cell cells =>
      rw [encodeTable, List.map_cons, writeRecords, List.flatMap_cons, List.map_cons]
      exact firstChar?_writeRecord unmarked _ _

/-! ## Reading -/

theorem decodeFields_ofString (position : RecordPosition) (number : Nat) (cells : List String) :
    decodeFields position number (cells.map Bytes.ofString) = .ok cells := by
  induction cells generalizing number with
  | nil => rfl
  | cons cell cells ih =>
    rw [List.map_cons, decodeFields, Bytes.decode_ofString]
    dsimp only
    rw [ih]
    rfl

namespace RecordFile

theorem records_dataRecords (file : RecordFile) :
    file.dataRecords.map Prod.snd = (recordsOf file.path file.content).tail := by
  rw [dataRecords, List.map_snd_zip]
  simp

theorem records_of_fields {file : RecordFile}
    (same : (recordsOf file.path file.content).tail.map ReadRecord.fields =
      rows.map (·.map Bytes.ofString)) : file.records 0 = .ok (rows.map Record.ofCells) := by
  rw [← records_dataRecords] at same
  rw [records, List.drop_zero]
  generalize file.dataRecords = read at same
  induction rows generalizing read with
  | nil =>
    rw [List.map_map, List.map_nil, List.map_eq_nil_iff] at same
    rw [same]
    rfl
  | cons row rows ih =>
    rw [List.map_map, List.map_cons] at same
    obtain ⟨⟨position, record⟩, others, rfl, first, rest⟩ := List.map_eq_cons_iff.mp same
    have fields : record.fields = row.map Bytes.ofString := first
    rw [List.mapM_cons, ih others (by rw [List.map_map]; exact rest)]
    dsimp only
    rw [fields, decodeFields_ofString]
    rfl

/-! ## Opening -/

variable {machine : Machine} {tree : FileTree} {path : Path} {place : Location} {content : Bytes} {turn : Nat}
  {file : RecordFile}

theorem readBytes_of_find (found : tree.find path = .ok (place, .file content)) (turn : Nat) :
    readBytes .reliable tree path turn = .ok content := by
  rw [readBytes, found]
  rfl

/-- What is read on any machine is what is there. -/
theorem find_of_readBytes (read : readBytes machine tree path turn = .ok content) :
    ∃ place, tree.find path = .ok (place, .file content) := by
  rw [readBytes] at read
  obtain ⟨⟨place, entry⟩, found, read⟩ := bind_eq_ok.mp read
  have found := seqRight_eq_ok (ok_of_mapError found)
  cases entry with
  | directory => contradiction
  | file bytes =>
    obtain ⟨_, -, read⟩ := bind_eq_ok.mp read
    obtain rfl := Except.ok.inj read
    exact ⟨place, found⟩

theorem openAt_of_openOn (opened : openOn machine tree path = .ok file) : openAt tree path = .ok file := by
  rw [openOn] at opened
  obtain ⟨content, read, opened⟩ := bind_eq_ok.mp opened
  obtain ⟨place, found⟩ := find_of_readBytes read
  rw [openAt, openOn, readBytes_of_find found]
  exact opened

theorem exists_find_of_openAt (opened : openAt tree path = .ok file) :
    file.path = path ∧ ∃ place content, tree.find path = .ok (place, .file content) := by
  rw [openAt, openOn] at opened
  obtain ⟨content, read, opened⟩ := bind_eq_ok.mp opened
  refine ⟨?_, (find_of_readBytes read).imp fun place found => ⟨content, found⟩⟩
  split at opened
  · contradiction
  · split at opened
    · contradiction
    · obtain rfl := Except.ok.inj opened
      rfl

theorem records_of_recordsOn {start : Nat} {records : List Record}
    (read : file.recordsOn machine tree start = .ok records) : file.records start = .ok records := by
  rw [recordsOn] at read
  obtain ⟨_, -, read⟩ := bind_eq_ok.mp read
  exact read

theorem recordsOn_of_openAt (opened : openAt tree path = .ok file) (start : Nat) :
    file.recordsOn .reliable tree start = file.records start := by
  obtain ⟨same, place, content, found⟩ := exists_find_of_openAt opened
  rw [recordsOn, same, readBytes_of_find found]
  rfl

theorem openAt_of_find (found : tree.find path = .ok (place, .file content))
    (same : (recordsOf path content).map ReadRecord.fields = (header :: rows).map (·.map Bytes.ofString)) :
    openAt tree path =
      .ok ⟨path, content, (Record.ofCells header).text, (Record.ofCells header).fields⟩ := by
  obtain ⟨first, others, read, fields, -⟩ := List.map_eq_cons_iff.mp same
  rw [openAt, openOn, readBytes_of_find found]
  dsimp only [bind, Except.bind]
  rw [read]
  dsimp only
  rw [fields, decodeFields_ofString]

/-- A file that holds written cells is opened and read, and gives them back. -/
theorem exists_of_encodeTable (nonempty : header ≠ [])
    (filled : ∀ row ∈ rows, row ≠ []) (unmarked : (header.headD "").toList.head? ≠ some markChar)
    (found : tree.find path = .ok (place, .file (encodeTable (.ofPath path) (header :: rows)))) :
    ∃ file records, openAt tree path = .ok file ∧ file.textHeader :: file.fieldHeaders = header ∧
      file.records 0 = .ok records ∧ records.map Record.cells = rows := by
  have fields := fields_recordsOf path nonempty filled unmarked
  have opened := openAt_of_find found fields
  have rest : (recordsOf path (encodeTable (.ofPath path) (header :: rows))).tail.map ReadRecord.fields =
      rows.map (·.map Bytes.ofString) := by
    rw [List.map_tail, fields, List.map_cons, List.tail_cons]
  refine ⟨_, _, opened, Record.cells_ofCells nonempty, records_of_fields rest, ?_⟩
  rw [List.map_map]
  calc rows.map (Record.cells ∘ Record.ofCells)
      = rows.map id := List.map_congr_left fun row member => Record.cells_ofCells (filled row member)
    _ = rows := List.map_id rows

end RecordFile

end Command

end TextQuery
