import TextQuery.Files.Error
import TextQuery.Files.Path
import TextQuery.QuerySet

/-!
# Errors of commands

What can keep a command from its work, by cause, and the words in which it is reported.
-/
set_option autoImplicit false

namespace TextQuery.Command

open Files (FileError Path)
open Query (QueryError)

/-- What was to be read is missing or cannot be used. -/
inductive InputError
  | noNames
  | repeatedName (name : String)
  | unreadableQuery (name : String) (path : Path) (cause : FileError)
  | unreadableDirectory (path : Path) (cause : FileError)
  | emptyDirectory (path : Path)
  | unreadableFile (path : Path) (cause : FileError)
  | noHeader (path : Path)
deriving DecidableEq

def InputError.message : InputError → String
  | noNames => "No query names given"
  | repeatedName name => "Query '" ++ name ++ "' given more than once"
  | unreadableQuery name path cause =>
    "Cannot read query '" ++ name ++ "' at " ++ path.toString ++ ": " ++ cause.message
  | unreadableDirectory path cause =>
    "Cannot read input directory " ++ path.toString ++ ": " ++ cause.message
  | emptyDirectory path => "No input file in " ++ path.toString
  | unreadableFile path cause => "Cannot open input " ++ path.toString ++ ": " ++ cause.message
  | noHeader path => path.toString ++ " has no header row"

/-- Where a record starts: the records, lines and bytes before it, with lines counted from one. -/
structure RecordPosition where
  record : Nat
  line : Nat
  byte : Nat
deriving DecidableEq

inductive RecordError
  | access (cause : FileError)
  /-- A field is not text from some byte on. -/
  | notText (position : RecordPosition) (field byte : Nat)
deriving DecidableEq

def RecordError.message : RecordError → String
  | access cause => cause.message
  | notText position field byte =>
    s!"CSV parse error: record {position.record} (line {position.line}, field: {field}, " ++
      s!"byte: {position.byte}): invalid utf-8: invalid UTF-8 in field {field} near byte index {byte}"

/-- A setting that has to be positive. -/
inductive PositiveSetting
  | cpuDivideCount
  | chunkLen
  | workers
deriving DecidableEq

def PositiveSetting.name : PositiveSetting → String
  | cpuDivideCount => "run.cpu_divide_count"
  | chunkLen => "run.chunk_len"
  | workers => "run.workers"

inductive ConfigError
  /-- There is no place where the configuration could stand. -/
  | noLocation
  | unreadable (cause : FileError)
  | malformed
  | zero (setting : PositiveSetting)
deriving DecidableEq

def ConfigError.message : ConfigError → String
  | noLocation => "Could not determine config directory"
  | unreadable cause => "Failed to read config: " ++ cause.message
  | malformed => "Failed to parse config"
  | zero setting => setting.name ++ " must be at least 1"

inductive CommandError
  | query (cause : QueryError)
  | querySet (cause : QuerySetError)
  | config (cause : ConfigError)
  | input (cause : InputError)
  | access (cause : FileError)
  | record (cause : RecordError)
deriving DecidableEq

namespace CommandError

def message : CommandError → String
  | query cause => "query error: " ++ cause.message
  | querySet cause => cause.message
  | config cause => "configuration error: " ++ cause.message
  | input cause => "input error: " ++ cause.message
  | access cause => "I/O error: " ++ cause.message
  | record cause => "record error: " ++ cause.message

/-- The name of the kind of error in reports. -/
def code : CommandError → String
  | query _ | querySet _ => "QUERY_ERROR"
  | config _ => "CONFIG_ERROR"
  | input _ => "INPUT_ERROR"
  | access _ => "IO_ERROR"
  | record _ => "RECORD_ERROR"

/-- The status with which the program ends. -/
def status : CommandError → Nat
  | query _ | querySet _ => 1
  | input _ | access _ | record _ => 3
  | config _ => 5

end CommandError

end TextQuery.Command
