import TextQuery.Unicode.Category
import TextQuery.Unicode.Property.Addition

/-!
# Properties of characters

Each property is the union of general categories and of the code points listed for it by hand. The
blocks of a property may overlap and stand in no order: only membership counts.
-/
set_option autoImplicit false

namespace TextQuery.Unicode.Property

open Category

/-- White space: what separates the words of a query and of a record. -/
def whiteSpace : List CodeRange := [
  (0x0009, 0x000D), (0x0020, 0x0020), (0x0085, 0x0085), (0x00A0, 0x00A0), (0x1680, 0x1680),
  (0x2000, 0x200A), (0x2028, 0x2029), (0x202F, 0x202F), (0x205F, 0x205F), (0x3000, 0x3000)]

def joinControl : List CodeRange := [(0x200C, 0x200D)]

def lowercase : List CodeRange :=
  lowercaseLetter ++ otherLowercase

def uppercase : List CodeRange :=
  uppercaseLetter ++ otherUppercase

/-- Characters with case, whether or not they change under a case mapping. -/
def cased : List CodeRange :=
  lowercase ++ uppercase ++ titlecaseLetter

/-- Characters that do not interrupt a word when the case of its letters is considered. -/
def caseIgnorable : List CodeRange :=
  wordInternal ++ nonspacingMark ++ enclosingMark ++ format ++ modifierLetter ++ modifierSymbol

def alphabetic : List CodeRange :=
  cased ++ modifierLetter ++ otherLetter ++ letterNumber ++ otherAlphabetic

/-- The characters of words: letters, marks, digits, and what joins them. -/
def word : List CodeRange :=
  alphabetic ++ decimalNumber ++ connectorPunctuation ++ mark ++ joinControl

def asciiHexDigit : List CodeRange := [(0x0030, 0x0039), (0x0041, 0x0046), (0x0061, 0x0066)]

def hexDigit : List CodeRange :=
  asciiHexDigit ++ [(0xFF10, 0xFF19), (0xFF21, 0xFF26), (0xFF41, 0xFF46)]

/-- The properties under their names, in the loose form in which they are looked up. -/
def named : List (List String × List CodeRange) := [
  (["alphabetic", "alpha"], alphabetic),
  (["lowercase", "lower"], lowercase),
  (["uppercase", "upper"], uppercase),
  (["cased"], cased),
  (["caseignorable", "ci"], caseIgnorable),
  (["whitespace", "wspace", "space"], whiteSpace),
  (["joincontrol", "joinc"], joinControl),
  (["asciihexdigit", "ahex"], asciiHexDigit),
  (["hexdigit", "hex"], hexDigit)]

end TextQuery.Unicode.Property

namespace TextQuery.Unicode

def isWhiteSpace (c : Char) : Bool := inRanges Property.whiteSpace c

def isCased (c : Char) : Bool := inRanges Property.cased c

def isCaseIgnorable (c : Char) : Bool := inRanges Property.caseIgnorable c

def isWord (c : Char) : Bool := inRanges Property.word c

end TextQuery.Unicode
