import TextQuery.Text.Reader
import TextQuery.Toml.Value

/-!
# Single values

Text in quotes, numbers, dates and times, and the blanks, comments and line ends around them.
-/
set_option autoImplicit false

namespace TextQuery.Toml

open Text Text.Reader

/-! ## Blanks -/

def isBlank (c : Char) : Bool := c = ' ' ∨ c = '\t'

/-- A character that may stand in a comment, and in text but for those that mean something there. -/
def isPlain (c : Char) : Bool := c = '\t' ∨ (0x20 ≤ c.toNat ∧ c.toNat ≠ 0x7F)

def readBlanks : Reader Unit := do
  let _ ← takeWhile isBlank

def readNewline : Reader Unit := char '\n' <|> chars ['\r', '\n']

def readComment : Reader Unit := do
  char '#'
  let _ ← takeWhile isPlain

/-- What may follow on the line after a value or a header, and the end of the line. -/
def readLineEnd : Reader Unit := do
  readBlanks
  let _ ← optional readComment
  readNewline <|> atEnd

/-- Blanks, comments and line ends, as they may stand between the items of an array. -/
def readGap : Reader Unit := do
  let _ ← many (discard (satisfy isBlank) <|> readNewline <|> (readComment *> readNewline))

/-! ## Text -/

def hexDigit? (c : Char) : Option Nat :=
  if '0' ≤ c ∧ c ≤ '9' then some (c.toNat - 0x30)
  else if 'A' ≤ c ∧ c ≤ 'F' then some (c.toNat - 0x37)
  else if 'a' ≤ c ∧ c ≤ 'f' then some (c.toNat - 0x57)
  else none

/-- The character with a code of `count` hexadecimal digits. -/
def readCode (count : Nat) : Reader Char := fun text =>
  let digits := text.take count
  match digits.mapM hexDigit? with
  | none => none
  | some values =>
    let code := values.foldl (fun code digit => code * 16 + digit) 0
    if digits.length = count ∧ code.isValidChar then some (Char.ofNat code, text.drop count) else none

/-- A backslash and what it makes of the characters after it. -/
def readEscape : Reader Char := do
  char '\\'
  match ← satisfy fun _ => true with
  | 'b' => return '\x08'
  | 'f' => return '\x0c'
  | 'n' => return '\n'
  | 'r' => return '\r'
  | 't' => return '\t'
  | 'u' => readCode 4
  | 'U' => readCode 8
  | '"' => return '"'
  | '\\' => return '\\'
  | _ => failure

/-- A backslash at the end of a line, which takes the blanks and line ends after it along. -/
def readContinuation : Reader Unit := do
  char '\\'
  readBlanks
  readNewline
  let _ ← many (discard (satisfy isBlank) <|> readNewline)

/-- One or two quotes that do not belong to a longer row. -/
def readQuotes (quote : Char) : Reader (List Char) :=
  (chars [quote, quote] *> notAhead (· = quote) *> pure [quote, quote]) <|>
    (char quote *> notAhead (· = quote) *> pure [quote])

/-- Three quotes that end a text over lines, and the quotes before them that belong to the text. -/
def readEndQuotes (quote : Char) : Reader (List Char) :=
  let close := chars [quote, quote, quote]
  (chars [quote, quote] *> close *> pure [quote, quote]) <|> (char quote *> close *> pure [quote]) <|>
    (close *> pure [])

/-- A text over lines: three quotes, a line end that does not count, and pieces up to three quotes. -/
def readLines (quote : Char) (piece : Reader (List Char)) : Reader (List Char) := do
  chars [quote, quote, quote]
  let _ ← optional readNewline
  let pieces ← many (piece <|> (readNewline *> pure ['\n']) <|> readQuotes quote)
  return pieces.flatten ++ (← readEndQuotes quote)

def readOneOf (test : Char → Bool) : Reader (List Char) := (fun c => [c]) <$> satisfy test

/-- Text in double quotes on one line. -/
def readBasic : Reader (List Char) := do
  char '"'
  let pieces ← many (satisfy (fun c => isPlain c ∧ c ≠ '"' ∧ c ≠ '\\') <|> readEscape)
  char '"'
  return pieces

def readBasicLines : Reader (List Char) :=
  readLines '"' (readOneOf (fun c => isPlain c ∧ c ≠ '"' ∧ c ≠ '\\') <|>
    (readContinuation *> pure []) <|> ((fun c => [c]) <$> readEscape))

/-- Text in single quotes on one line, in which nothing is escaped. -/
def readLiteral : Reader (List Char) := do
  char '\''
  let text ← takeWhile fun c => isPlain c ∧ c ≠ '\''
  char '\''
  return text

def readLiteralLines : Reader (List Char) :=
  readLines '\'' (readOneOf fun c => isPlain c ∧ c ≠ '\'')

def readText : Reader (List Char) :=
  readBasicLines <|> readBasic <|> readLiteralLines <|> readLiteral

/-! ## Numbers -/

/-- Digits of some kind; single underscores may stand between them. -/
def readDigits (digit : Char → Bool) : Reader (List Char) := do
  let first ← satisfy digit
  return first :: (← many (satisfy digit <|> (char '_' *> satisfy digit)))

def readSign : Reader Bool := do
  match ← optional (satisfy fun c => c = '+' ∨ c = '-') with
  | some c => return c = '-'
  | none => return false

/-- The digits of a whole number, which starts with zero only if it is zero. -/
def readWhole : Reader (List Char) := do
  match ← satisfy Char.isDigit with
  | '0' => return ['0']
  | first => return first :: (← many (satisfy Char.isDigit <|> (char '_' *> satisfy Char.isDigit)))

/-- The value of digits in a base of at most 16. -/
def digitsValue (base : Nat) (digits : List Char) : Nat :=
  digits.foldl (fun value c => value * base + (hexDigit? c).getD 0) 0

/-- Whole numbers have 64 bits. -/
def integer? (value : Int) : Option Value :=
  if -0x8000000000000000 ≤ value ∧ value ≤ 0x7FFFFFFFFFFFFFFF then some (.integer value) else none

def readBase (mark : Char) (base : Nat) : Reader Value := do
  chars ['0', mark]
  let digits ← readDigits fun c => (hexDigit? c).any (· < base)
  fun text => (integer? (digitsValue base digits)).map (·, text)

def readInteger : Reader Value :=
  readBase 'x' 16 <|> readBase 'o' 8 <|> readBase 'b' 2 <|> do
    let negative ← readSign
    let value : Nat := digitsValue 10 (← readWhole)
    fun text => (integer? (if negative then -value else value)).map (·, text)

/-- `digits` shifted by `shift` decimal places is too large for a float: it is nearer to the power of two
after the largest than to the largest. -/
def overflows (digits : List Char) (shift : Int) : Bool :=
  let value := digitsValue 10 digits
  let size : Int := (digits.dropWhile (· = '0')).length + shift
  if value = 0 ∨ size < 300 then false
  else if 320 < size then true
  else Nat.pow 2 1024 - Nat.pow 2 970 ≤ value * Nat.pow 10 shift.toNat / Nat.pow 10 (-shift).toNat

def readExponent : Reader Int := do
  let _ ← satisfy fun c => c = 'e' ∨ c = 'E'
  let negative ← readSign
  let value : Nat := digitsValue 10 (← readDigits Char.isDigit)
  return if negative then -value else value

/-- A number with a fraction, an exponent or both. One that is too large is refused unless it is
negative. -/
def readDecimal : Reader Value := do
  let negative ← readSign
  let whole ← readWhole
  let fraction ← optional (char '.' *> readDigits Char.isDigit)
  let exponent ← optional readExponent
  if fraction.isNone ∧ exponent.isNone then failure
  let places := fraction.getD []
  if !negative ∧ overflows (whole ++ places) (exponent.getD 0 - places.length) then failure
  return .float

def readSpecial : Reader Value := do
  let _ ← readSign
  chars ['i', 'n', 'f'] <|> chars ['n', 'a', 'n']
  return .float

/-! ## Dates and times -/

/-- A number of exactly `count` digits within bounds. -/
def readField (count low high : Nat) : Reader Nat := do
  let digits ← (List.replicate count ()).mapM fun _ => satisfy Char.isDigit
  let value := digitsValue 10 digits
  if low ≤ value ∧ value ≤ high then return value else failure

def daysInMonth (year month : Nat) : Nat :=
  if month = 2 then
    if year % 4 = 0 ∧ (year % 100 ≠ 0 ∨ year % 400 = 0) then 29 else 28
  else if month ∈ [4, 6, 9, 11] then 30
  else 31

def readDate : Reader Unit := do
  let year ← readField 4 0 9999
  char '-'
  let month ← readField 2 1 12
  char '-'
  let _ ← readField 2 1 (daysInMonth year month)

def readTime : Reader Unit := do
  let _ ← readField 2 0 23
  char ':'
  let _ ← readField 2 0 59
  char ':'
  let _ ← readField 2 0 60
  let _ ← optional (char '.' *> takeWhile1 Char.isDigit)

def readOffset : Reader Unit :=
  discard (satisfy fun c => c = 'Z' ∨ c = 'z') <|> do
    let _ ← satisfy fun c => c = '+' ∨ c = '-'
    let _ ← readField 2 0 23
    char ':'
    let _ ← readField 2 0 59

def readDateTime : Reader Value := do
  (do
    readDate
    let _ ← optional do
      let _ ← satisfy fun c => c = 'T' ∨ c = 't' ∨ c = ' '
      readTime
      let _ ← optional readOffset) <|> readTime
  return .dateTime

def readBoolean : Reader Value :=
  (chars ['t', 'r', 'u', 'e'] *> pure (.boolean true)) <|>
    (chars ['f', 'a', 'l', 's', 'e'] *> pure (.boolean false))

def readScalar : Reader Value :=
  (.text <$> readText) <|> readDateTime <|> readDecimal <|> readSpecial <|> readInteger <|> readBoolean

end TextQuery.Toml
