import TextQuery.Toml.Scalar

/-!
# Configuration documents

A document is a sequence of lines: keys with their values, headers that open tables, comments and
blanks. Arrays and tables in braces nest up to a fixed depth.
-/
set_option autoImplicit false

namespace TextQuery.Toml

open Text Text.Reader

/-- The depth from which on nesting and the paths of keys are refused. -/
def depthLimit : Nat := 80

def isBareKey (c : Char) : Bool := c.isAlphanum ∨ c = '_' ∨ c = '-'

/-- A key without dots: bare, or in quotes of either kind. -/
def readSimpleKey : Reader Key := readBasic <|> readLiteral <|> takeWhile1 isBareKey

/-- A key with its path, dots between the parts. -/
def readKey : Reader (List Key × Key) := do
  let path ← separated (readBlanks *> readSimpleKey <* readBlanks) (char '.')
  match path.getLast? with
  | some key => if path.length < depthLimit then return (path.dropLast, key) else failure
  | none => failure

/-- A key, an equals sign and a value. -/
def readPair (readValue : Reader Value) : Reader Pair := do
  let (path, key) ← readKey
  char '='
  readBlanks
  return ⟨path, key, ← readValue⟩

/-- An array after its bracket. A comma may follow the last item. -/
def readArray (readValue : Reader Value) : Reader Value := do
  let items ← separated (readGap *> readValue <* readGap) (char ',') <|> pure []
  if !items.isEmpty then
    let _ ← optional (char ',')
  readGap
  char ']'
  return .array items

/-- A table in braces after the first of them. It stands on one line and has no comma at its end. -/
def readInlineTable (readValue : Reader Value) : Reader Value := do
  let pairs ← separated (readPair readValue <* readBlanks) (char ',') <|> pure []
  readBlanks
  char '\x7d'
  match Members.ofPairs pairs with
  | some members => return .table .inline members
  | none => failure

/-- A value in which at most `depth` arrays and tables are nested. -/
def readValue : (depth : Nat) → Reader Value
  | 0 => readScalar
  | depth + 1 =>
    readScalar <|> (char '[' *> readArray (readValue depth)) <|>
      (char '\x7b' *> readInlineTable (readValue depth))

def readStatement : Reader Statement :=
  (readNewline *> pure .blank) <|>
    (readComment *> (readNewline <|> atEnd) *> pure .blank) <|>
    (do
      chars ['[', '[']
      let (path, key) ← readKey
      chars [']', ']']
      readLineEnd
      return .nextHeader path key) <|>
    (do
      char '['
      let (path, key) ← readKey
      char ']'
      readLineEnd
      return .header path key) <|>
    (do
      let pair ← readPair (readValue (depthLimit - 1))
      readLineEnd
      return .pair pair)

/-- The lines of a document. A mark of byte order at its start does not count. -/
def readStatements : Reader (List Statement) := do
  let _ ← optional (char '\ufeff')
  readBlanks
  many (readStatement <* readBlanks)

/-- The members of the table that a document describes, if it is well-formed. -/
def parse? (document : List Char) : Option Members := do
  Members.ofStatements (← run? readStatements document)

end TextQuery.Toml
