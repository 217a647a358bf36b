import TextQuery.Unicode.Category.Letter
import TextQuery.Unicode.Category.Mark
import TextQuery.Unicode.Category.Number
import TextQuery.Unicode.Category.Other
import TextQuery.Unicode.Category.Punctuation
import TextQuery.Unicode.Category.Symbol

/-!
# General categories by name

Each general category and each union of them has a short and a long name, kept here in the loose
form in which they are looked up: lower case, without spaces and low lines.
-/
set_option autoImplicit false

namespace TextQuery.Unicode.Category

/-- Letters that come in pairs of capital and small. -/
def casedLetter : List CodeRange :=
  lowercaseLetter ++ uppercaseLetter ++ titlecaseLetter

def letter : List CodeRange :=
  casedLetter ++ modifierLetter ++ otherLetter

def mark : List CodeRange :=
  nonspacingMark ++ spacingMark ++ enclosingMark

def number : List CodeRange :=
  decimalNumber ++ letterNumber ++ otherNumber

def punctuation : List CodeRange :=
  connectorPunctuation ++ dashPunctuation ++ openPunctuation ++ closePunctuation ++
    initialPunctuation ++ finalPunctuation ++ otherPunctuation

def symbol : List CodeRange :=
  mathSymbol ++ currencySymbol ++ modifierSymbol ++ otherSymbol

def separator : List CodeRange :=
  spaceSeparator ++ lineSeparator ++ paragraphSeparator

/-- Every code point that has been given a meaning, private use included. -/
def assigned : List CodeRange :=
  letter ++ mark ++ number ++ punctuation ++ symbol ++ separator ++ control ++ format ++ privateUse

/-- The categories under their names. -/
def named : List (List String × List CodeRange) := [
  (["l", "letter"], letter),
  (["lc", "casedletter"], casedLetter),
  (["lu", "uppercaseletter"], uppercaseLetter),
  (["ll", "lowercaseletter"], lowercaseLetter),
  (["lt", "titlecaseletter"], titlecaseLetter),
  (["lm", "modifierletter"], modifierLetter),
  (["lo", "otherletter"], otherLetter),
  (["m", "mark", "combiningmark"], mark),
  (["mn", "nonspacingmark"], nonspacingMark),
  (["mc", "spacingmark"], spacingMark),
  (["me", "enclosingmark"], enclosingMark),
  (["n", "number"], number),
  (["nd", "decimalnumber", "digit"], decimalNumber),
  (["nl", "letternumber"], letterNumber),
  (["no", "othernumber"], otherNumber),
  (["p", "punctuation", "punct"], punctuation),
  (["pc", "connectorpunctuation"], connectorPunctuation),
  (["pd", "dashpunctuation"], dashPunctuation),
  (["ps", "openpunctuation"], openPunctuation),
  (["pe", "closepunctuation"], closePunctuation),
  (["pi", "initialpunctuation"], initialPunctuation),
  (["pf", "finalpunctuation"], finalPunctuation),
  (["po", "otherpunctuation"], otherPunctuation),
  (["s", "symbol"], symbol),
  (["sm", "mathsymbol"], mathSymbol),
  (["sc", "currencysymbol"], currencySymbol),
  (["sk", "modifiersymbol"], modifierSymbol),
  (["so", "othersymbol"], otherSymbol),
  (["z", "separator"], separator),
  (["zs", "spaceseparator"], spaceSeparator),
  (["zl", "lineseparator"], lineSeparator),
  (["zp", "paragraphseparator"], paragraphSeparator),
  (["cc", "control", "cntrl"], control),
  (["cf", "format"], format),
  (["co", "privateuse"], privateUse),
  (["assigned"], assigned)]

end TextQuery.Unicode.Category
