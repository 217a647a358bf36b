import TextQuery.Bytes
import TextQuery.Delimited.Delimiter

/-!
# Reading delimited records

A record is a sequence of fields up to a line feed or a carriage return; blank lines are no records.
Records may differ in length. A field that starts with a quote extends to the next quote that stands
alone; what follows up to the delimiter belongs to the field as it is. A mark of byte order at the start
of a file is not part of its first field.
-/
set_option autoImplicit false

namespace TextQuery.Delimited

abbrev Field := Bytes

/-- A record, and the bytes after the byte that ended it. -/
structure ReadRecord where
  fields : List Field
  unread : Bytes
deriving DecidableEq

namespace ReadRecord

/-- The record with another byte at the start of its first field. -/
def prepend (byte : UInt8) (record : ReadRecord) : ReadRecord :=
  match record.fields with
  | [] => { record with fields := [[byte]] }
  | field :: fields => { record with fields := (byte :: field) :: fields }

/-- The record with an empty field before its first. -/
def prependField (record : ReadRecord) : ReadRecord :=
  { record with fields := [] :: record.fields }

@[simp] theorem unread_prepend (byte : UInt8) (record : ReadRecord) :
    (record.prepend byte).unread = record.unread := by
  unfold prepend
  split <;> rfl

@[simp] theorem unread_prependField (record : ReadRecord) :
    record.prependField.unread = record.unread := rfl

end ReadRecord

/-- Where in a field reading stands. -/
inductive FieldState
  | atStart
  | unquoted
  | quoted
  /-- Right after a quote inside a quoted field. -/
  | afterQuote
deriving DecidableEq

/-- The rest of a record, its first field being the rest of the field in which reading stands. -/
def readFields (delimiter : Delimiter) : FieldState → Bytes → ReadRecord
  | _, [] => ⟨[[]], []⟩
  | .quoted, byte :: rest =>
    if byte = quoteByte then readFields delimiter .afterQuote rest
    else (readFields delimiter .quoted rest).prepend byte
  | state, byte :: rest =>
    if byte = quoteByte ∧ state = .atStart then readFields delimiter .quoted rest
    else if byte = quoteByte ∧ state = .afterQuote then
      (readFields delimiter .quoted rest).prepend byte
    else if byte = delimiter.byte then (readFields delimiter .atStart rest).prependField
    else if isTerminator byte then ⟨[[]], rest⟩
    else (readFields delimiter .unquoted rest).prepend byte

theorem readFields_unread_length (delimiter : Delimiter) (state : FieldState) (bytes : Bytes) :
    (readFields delimiter state bytes).unread.length ≤ bytes.length - 1 := by
  fun_induction readFields delimiter state bytes <;> simp_all <;> omega

/-- The first record, if there is any. -/
def readRecord? (delimiter : Delimiter) (bytes : Bytes) : Option ReadRecord :=
  match bytes.dropWhile isTerminator with
  | [] => none
  | byte :: rest => some (readFields delimiter .atStart (byte :: rest))

theorem readRecord?_unread_length {delimiter : Delimiter} {bytes : Bytes} {record : ReadRecord}
    (read : readRecord? delimiter bytes = some record) : record.unread.length < bytes.length := by
  have shorter := (List.dropWhile_suffix (l := bytes) isTerminator).length_le
  unfold readRecord? at read
  split at read
  · simp at read
  · rename_i byte rest bytes_eq
    have bound := readFields_unread_length delimiter .atStart (byte :: rest)
    simp only [Option.some.injEq] at read
    simp only [bytes_eq, List.length_cons] at shorter
    simp only [read, List.length_cons] at bound
    omega

def readRecords (delimiter : Delimiter) (bytes : Bytes) : List ReadRecord :=
  match _read : readRecord? delimiter bytes with
  | none => []
  | some record => record :: readRecords delimiter record.unread
termination_by bytes.length
decreasing_by exact readRecord?_unread_length _read

/-- The bytes of a file without a mark of byte order at their start. -/
def withoutMark : Bytes → Bytes
  | 0xEF :: 0xBB :: 0xBF :: rest => rest
  | bytes => bytes

end TextQuery.Delimited
