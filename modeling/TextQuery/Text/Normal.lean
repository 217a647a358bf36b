import TextQuery.Text.Typography
import TextQuery.Text.Words
import TextQuery.Unicode.Lowercase

/-!
# Normalized record text

The form in which a record is matched: cleaned, in lower case, and with exactly one space before,
between and after its words. Text without words becomes two spaces.
-/
set_option autoImplicit false

namespace TextQuery.Text

structure Normal where
  chars : List Char
deriving DecidableEq

namespace Normal

/-- The words, each followed by a space, after one space at the start. -/
def pad : List Word → List Char
  | [] => [' ', ' ']
  | words => ' ' :: words.flatMap (· ++ [' '])

def ofChars (raw : List Char) : Normal :=
  ⟨pad (words (Unicode.lower (clean raw)))⟩

def ofString (raw : String) : Normal := ofChars raw.toList

def toWords (text : Normal) : List Word :=
  splitWords (· = ' ') text.chars

def toString (text : Normal) : String := String.ofList text.chars

end Normal

end TextQuery.Text
