import TextQuery.Query.Mark
import TextQuery.Text.Typography
import TextQuery.Text.Words

/-!
# Query text before parsing

The text of a query is cleaned, its white space is collapsed, and each quoted phrase is marked so
that the parser sees it as one word without structure.
-/
set_option autoImplicit false

namespace TextQuery.Query

/-- A character as it stands inside quotes. -/
def shieldChar (c : Char) : Char :=
  if c = ' ' then Mark.join
  else if c = '(' then Mark.opening
  else if c = ')' then Mark.closing
  else c

/-- Where the reading of a query stands: outside quotes, right after an opening quote, or further
inside. -/
inductive QuoteState
  | outside
  | opened
  | inside

/-- Removes the quotes and marks what stood between them. Every quote opens or closes; a phrase without
end extends to the end of the query, and an empty phrase leaves nothing. -/
def shieldFrom : QuoteState → List Char → List Char
  | _, [] => []
  | .outside, c :: rest => if c = '"' then shieldFrom .opened rest else c :: shieldFrom .outside rest
  | .opened, c :: rest =>
    if c = '"' then shieldFrom .outside rest
    else Mark.quote :: shieldChar c :: shieldFrom .inside rest
  | .inside, c :: rest =>
    if c = '"' then shieldFrom .outside rest else shieldChar c :: shieldFrom .inside rest

def shieldQuotes (text : List Char) : List Char := shieldFrom .outside text

/-- The query as the parser reads it. -/
def normalize (raw : List Char) : List Char :=
  shieldQuotes (Text.clean (Text.unwords (Text.words raw)))

end TextQuery.Query
