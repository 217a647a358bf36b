import TextQuery.Delimited.Reader

/-!
# Writing delimited records

A field is quoted if it holds a byte that means something between fields, and a quote inside is then
written twice. A record whose line would be empty is written as a pair of quotes, since blank lines are
no records. Every record ends in a line feed.
-/
set_option autoImplicit false

namespace TextQuery.Delimited

/-- The field holds a byte that means something between fields. -/
def needsQuotes (delimiter : Delimiter) (field : Field) : Bool :=
  field.any fun byte => byte = delimiter.byte ∨ byte = quoteByte ∨ isTerminator byte

def doubleQuotes (field : Field) : Bytes :=
  field.flatMap fun byte => if byte = quoteByte then [quoteByte, quoteByte] else [byte]

def writeField (delimiter : Delimiter) (field : Field) : Bytes :=
  if needsQuotes delimiter field then quoteByte :: doubleQuotes field ++ [quoteByte] else field

/-- The fields with the delimiter between neighbours. -/
def writeFields (delimiter : Delimiter) : List Field → Bytes
  | [] => []
  | [field] => writeField delimiter field
  | field :: rest => writeField delimiter field ++ delimiter.byte :: writeFields delimiter rest

def writeRecord (delimiter : Delimiter) (fields : List Field) : Bytes :=
  match writeFields delimiter fields with
  | [] => [quoteByte, quoteByte, newline]
  | line => line ++ [newline]

def writeRecords (delimiter : Delimiter) (records : List (List Field)) : Bytes :=
  records.flatMap (writeRecord delimiter)

end TextQuery.Delimited
