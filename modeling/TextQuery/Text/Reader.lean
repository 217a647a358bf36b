/-!
# Readers

A reader takes a value from the front of a text and leaves the rest, or fails and leaves the text to an
alternative. Repetition is bounded by the length of the text, which no repetition of readers that take
at least one character can exceed.
-/
set_option autoImplicit false

namespace TextQuery.Text

abbrev Reader (α : Type) := StateT (List Char) Option α

namespace Reader

/-- The next character, if it passes the test. -/
def satisfy (test : Char → Bool) : Reader Char := fun text =>
  match text with
  | c :: rest => if test c then some (c, rest) else none
  | [] => none

def char (c : Char) : Reader Unit := do
  let _ ← satisfy (· = c)

/-- The given characters, in order. -/
def chars (expected : List Char) : Reader Unit := expected.forM char

/-- The longest front of the text whose characters pass the test. -/
def takeWhile (test : Char → Bool) : Reader (List Char) := fun text =>
  some (text.takeWhile test, text.dropWhile test)

/-- As `takeWhile`, with at least one character. -/
def takeWhile1 (test : Char → Bool) : Reader (List Char) := do
  let first ← satisfy test
  return first :: (← takeWhile test)

/-- The end of the text. -/
def atEnd : Reader Unit := fun text => if text.isEmpty then some ((), []) else none

/-- Succeeds without taking anything if the next character fails the test or there is none. -/
def notAhead (test : Char → Bool) : Reader Unit := fun text =>
  if text.head?.any test then none else some ((), text)

/-- At most `count` values in a row. -/
def manyUpTo {α : Type} (reader : Reader α) : (count : Nat) → Reader (List α)
  | 0 => pure []
  | count + 1 =>
    (do
      let first ← reader
      return first :: (← manyUpTo reader count)) <|> pure []

/-- As many values in a row as can be read. -/
def many {α : Type} (reader : Reader α) : Reader (List α) := do
  manyUpTo reader (← get).length

/-- One or more values with separators between them. -/
def separated {α : Type} (reader : Reader α) (separator : Reader Unit) : Reader (List α) := do
  let first ← reader
  return first :: (← many (separator *> reader))

/-- The value of a reader that takes all of a text. -/
def run? {α : Type} (reader : Reader α) (text : List Char) : Option α :=
  ((reader <* atEnd) text).map Prod.fst

end Reader

end TextQuery.Text
