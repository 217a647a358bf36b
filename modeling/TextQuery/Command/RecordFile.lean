import TextQuery.Command.Error
import TextQuery.Delimited.Reader
import TextQuery.Files.Machine

/-!
# Files of records

The first record of a file is its header row. In each record the first field is the text to classify;
the other fields are carried along.
-/
set_option autoImplicit false

namespace TextQuery

/-- A text to classify, and what is carried along with it. -/
structure Record where
  text : String
  fields : List String
deriving DecidableEq

namespace Record

def ofCells : List String → Record
  | [] => ⟨"", []⟩
  | text :: fields => ⟨text, fields⟩

end Record

namespace Command

open Delimited
open Files (FileTree Machine Path)

/-- The fields as text. The first that is not text is named by its number and the number of bytes in
front of the fault. -/
def decodeFields (position : RecordPosition) (number : Nat) :
    List Field → Except RecordError (List String)
  | [] => .ok []
  | field :: rest =>
    match field.decode with
    | .error byte => .error (.notText position number byte)
    | .ok text => (text :: ·) <$> decodeFields position (number + 1) rest

structure RecordFile where
  path : Path
  content : Bytes
  textHeader : String
  fieldHeaders : List String
deriving DecidableEq

namespace RecordPosition

def start : RecordPosition := ⟨0, 1, 0⟩

/-- Where the record after a record is looked for; `number` counts the records up to there. -/
def after (content : Bytes) (number : Nat) (record : ReadRecord) : RecordPosition :=
  let consumed := content.take (content.length - record.unread.length)
  ⟨number, consumed.count newline + 1, consumed.length⟩

end RecordPosition

/-- All records of a file, the header row among them. -/
def recordsOf (path : Path) (content : Bytes) : List ReadRecord :=
  readRecords (.ofPath path) (withoutMark content)

namespace RecordFile

/-- Opens a file, for the first time or again, and reads it. -/
def readBytes (machine : Machine) (tree : FileTree) (path : Path) (turn : Nat) :
    Except CommandError Bytes := do
  let (_, entry) ← (machine.allows (.openFile path turn) tree *> tree.find path).mapError fun cause =>
    .input (.unreadableFile path cause)
  match entry with
  | .directory => .error (.record (.access .isADirectory))
  | .file content =>
    (machine.allows (.readFile path turn) tree).mapError fun cause => .record (.access cause)
    return content

/-- Opens a file on a machine and reads its header row. -/
def openOn (machine : Machine) (tree : FileTree) (path : Path) : Except CommandError RecordFile := do
  let content ← readBytes machine tree path 1
  match recordsOf path content with
  | [] => .error (.input (.noHeader path))
  | header :: _ =>
    match decodeFields .start 0 header.fields with
    | .error cause => .error (.record cause)
    | .ok headers =>
      let header := Record.ofCells headers
      .ok ⟨path, content, header.text, header.fields⟩

def openAt (tree : FileTree) (path : Path) : Except CommandError RecordFile :=
  openOn .reliable tree path

def delimiter (file : RecordFile) : Delimiter := .ofPath file.path

/-- The records after the header row, each with the position at which reading it started. The first of
them is read together with the header row. -/
def dataRecords (file : RecordFile) : List (RecordPosition × ReadRecord) :=
  let records := (recordsOf file.path file.content).tail
  let later := records.mapIdx fun index record => .after file.content (index + 2) record
  (RecordPosition.start :: later).zip records

/-- The records from number `start` on, counted from zero. -/
def records (file : RecordFile) (start : Nat) : Except CommandError (List Record) :=
  (file.dataRecords.drop start).mapM fun (position, record) =>
    match decodeFields position 0 record.fields with
    | .ok cells => .ok (.ofCells cells)
    | .error cause => .error (.record cause)

/-- The records read from the file on a machine. The file is opened once more for that. -/
def recordsOn (machine : Machine) (tree : FileTree) (file : RecordFile) (start : Nat) :
    Except CommandError (List Record) := do
  let _ ← readBytes machine tree file.path 2
  file.records start

end RecordFile

end Command

end TextQuery
