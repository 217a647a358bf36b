/-!
# Marks inside terms

Before a query is split into words its quoted phrases are marked, so that no part of a phrase is
taken for structure. Four private-use characters stand for what means something between words.
-/
set_option autoImplicit false

namespace TextQuery.Query.Mark

/-- Joins the words of a phrase. -/
def join : Char := '\uE000'

/-- An opening parenthesis inside a phrase. -/
def opening : Char := '\uE001'

/-- A closing parenthesis inside a phrase. -/
def closing : Char := '\uE002'

/-- Stands before each phrase. A word with this mark is never a keyword or a group reference. -/
def quote : Char := '\uE003'

/-- What a character of a term shows to the reader. -/
def restore (c : Char) : List Char :=
  if c = quote then []
  else if c = join then [' ']
  else if c = opening then ['(']
  else if c = closing then [')']
  else [c]

end TextQuery.Query.Mark
