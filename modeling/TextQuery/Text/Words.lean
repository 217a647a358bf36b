import TextQuery.Unicode.Property

/-!
# Words

A word is a maximal run of characters that are not blank. What counts as blank is a parameter: white
space in what users write, the space alone in text that has been normalized.
-/
set_option autoImplicit false

namespace TextQuery.Text

abbrev Word := List Char

/-- The words of a text. -/
def splitWords (blank : Char → Bool) : List Char → List Word
  | [] => []
  | c :: rest =>
    if blank c then splitWords blank rest
    else
      match rest, splitWords blank rest with
      | d :: _, word :: words => if blank d then [c] :: word :: words else (c :: word) :: words
      | _, words => [c] :: words

/-- The words of a text, separated by white space. -/
def words (text : List Char) : List Word :=
  splitWords Unicode.isWhiteSpace text

/-- The words with one space between neighbours. -/
def unwords : List Word → List Char
  | [] => []
  | [word] => word
  | word :: rest => word ++ ' ' :: unwords rest

/-- The text without the white space at its ends. -/
def trim (text : List Char) : List Char :=
  ((text.dropWhile Unicode.isWhiteSpace).reverse.dropWhile Unicode.isWhiteSpace).reverse

end TextQuery.Text
