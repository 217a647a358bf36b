import TextQuery.Unicode.NormalForm

/-!
# Typographic cleaning

Queries and records are cleaned in the same way, so that curly quotes and decomposed accents on one
side match the plain forms on the other.
-/
set_option autoImplicit false

namespace TextQuery.Text

/-- Curly quotes become straight ones. -/
def straightQuote (c : Char) : Char :=
  match c with
  | '\u201C' | '\u201D' => '"'
  | '\u2018' | '\u2019' => '\''
  | c => c

/-- The text with straight quotes and in composed form. -/
def clean (text : List Char) : List Char :=
  Unicode.nfc (text.map straightQuote)

end TextQuery.Text
