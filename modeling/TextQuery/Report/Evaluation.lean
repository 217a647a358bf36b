import TextQuery.Json
import TextQuery.Query.Printer
import TextQuery.Report.Style

/-!
# Evaluating one query on one text

The verdict together with the words that satisfied the query, and the reports on it.
-/
set_option autoImplicit false

namespace TextQuery

open Query (Condition QueryError)

structure Evaluation where
  /-- The query as given. -/
  query : String
  canonical : String
  verdict : Verdict
  /-- The matched words of the normalized text by their positions, in ascending order. -/
  matched : List (Nat × String)
deriving DecidableEq

namespace Evaluation

/-- The words at the given positions; a position without a word is left out. -/
def wordsAt (words : List Text.Word) (positions : List Nat) : List (Nat × String) :=
  positions.filterMap fun position =>
    (words[position]?).map fun word => (position, String.ofList word)

/-- Evaluates a parsed query. Words are reported only if it matches. -/
def ofCondition (query text : String) (condition : Condition) : Evaluation :=
  let normal := Text.Normal.ofString text
  let verdict := Verdict.ofBool (condition.holds normal)
  { query
    canonical := condition.toString
    verdict
    matched :=
      if verdict.isMatch then
        wordsAt normal.toWords (condition.wordIndices normal.chars.toArray).toList
      else [] }

/-- Parses a query and evaluates it on a text. -/
def run (query text : String) : Except QueryError Evaluation :=
  (Query.parse query).map (ofCondition query text)

end Evaluation

namespace Report

/-- The verdict on a line, and below it the matched words if they are wanted. -/
def evaluationText (evaluation : Evaluation) (verbose colors : Bool) : String :=
  let words := evaluation.matched.map fun (position, word) => toString position ++ ":" ++ word
  verdictText evaluation.verdict colors ++ "\n" ++
    if verbose && !words.isEmpty then "Matched words: " ++ String.intercalate " " words ++ "\n"
    else ""

def evaluationJson (evaluation : Evaluation) : String :=
  (Json.object [
    ("query", .string evaluation.query),
    ("canonical", .string evaluation.canonical),
    ("verdict", .string evaluation.verdict.letter.toString),
    ("word_indices", .array (evaluation.matched.map fun entry => .number entry.1)),
    ("words", .array (evaluation.matched.map fun entry => .string entry.2))]).render

end Report

end TextQuery
