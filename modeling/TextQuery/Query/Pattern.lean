import TextQuery.Query.Keyword
import TextQuery.Query.Mark
import TextQuery.Regex.Parser

/-!
# Terms and patterns

A term is a word or a phrase of a query. Its pattern is a regular expression that finds the term at
word boundaries of normalized text: it starts with a space and ends with a space or a mark that may
follow a word.
-/
set_option autoImplicit false

namespace TextQuery.Query

/-- What a character of a term becomes in the expression. The dot and the plus match themselves, the
question mark matches one character and the star a run without spaces; all else is passed on. -/
def expandChar (c : Char) : List Char :=
  if c = '.' then "[.]".toList
  else if c = '+' then "[+]".toList
  else if c = '?' then ".".toList
  else if c = '*' then "[^ ]*".toList
  else if c = Mark.join then [' ']
  else if c = Mark.opening then "\\(".toList
  else if c = Mark.closing then "\\)".toList
  else if c = Mark.quote then []
  else [c]

/-- The class of characters that may follow a term. -/
def wordEnd : List Char := "[?!,. ]".toList

/-- The regular expression for a term. -/
def expression (term : List Char) : List Char :=
  ' ' :: (term.flatMap expandChar ++ wordEnd)

/-- A term whose expression is well-formed. -/
structure Pattern where
  term : List Char
  regex : Regex
  compiled : Regex.parse? (expression term) = some regex

namespace Pattern

/-- The pattern of a term, if its expression is well-formed. -/
def ofTerm? (term : List Char) : Option Pattern :=
  match compiled : Regex.parse? (expression term) with
  | some regex => some ⟨term, regex, compiled⟩
  | none => none

def source (pattern : Pattern) : List Char := expression pattern.term

/-- Patterns are equal if they are the same expression. -/
instance : BEq Pattern := ⟨fun left right => left.source == right.source⟩

/-- The number of words that the term spans. -/
def wordCount (pattern : Pattern) : Nat :=
  1 + pattern.term.countP fun c => c = ' ' || c = Mark.join

/-- The term as it was written, without the quotes. -/
def shown (pattern : Pattern) : List Char := pattern.term.flatMap Mark.restore

/-- The term would be read as something else if it stood without quotes. -/
def needsQuotes (pattern : Pattern) : Bool :=
  let shown := pattern.shown
  1 < pattern.wordCount ||
    pattern.term.any (fun c => c = Mark.opening || c = Mark.closing || c = Mark.quote) ||
    shown.any (fun c => c = '(' || c = ')') ||
    isNear shown ||
    isKeyword .or shown || isKeyword .and shown || isKeyword .not shown

/-- The term in query notation. -/
def render (pattern : Pattern) : List Char :=
  if pattern.needsQuotes then '"' :: pattern.shown ++ ['"'] else pattern.shown

end Pattern

end TextQuery.Query
