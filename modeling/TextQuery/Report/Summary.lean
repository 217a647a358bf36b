import TextQuery.Json
import TextQuery.Report.Percent
import TextQuery.Report.Style

/-!
# Reports on a run

The outcome of classifying the records of a file: how many rows were written and how many of them
each query matched.
-/
set_option autoImplicit false

namespace TextQuery

structure QueryCount where
  name : String
  hits : Nat
deriving DecidableEq

structure Summary where
  input : String
  output : String
  rows : Nat
  workers : Nat
  queries : List QueryCount
deriving DecidableEq

namespace Report

/-- The width of the column of query names. -/
def nameWidth : Nat := 24

/-- The width of each column of numbers. -/
def numberWidth : Nat := 8

def summaryHeader : String :=
  padRight nameWidth "Query" ++ " " ++ padLeft numberWidth "Matches" ++ " " ++
    padLeft numberWidth "Share"

def summaryRow (rows : Nat) (colors : Bool) (query : QueryCount) : String :=
  let count := padLeft numberWidth (toString query.hits)
  let count := if colors && 0 < query.hits then Style.green.apply count else count
  padRight nameWidth (truncate query.name nameWidth) ++ " " ++ count ++ " " ++
    padLeft numberWidth (percent query.hits rows) ++ "\n"

def summaryTable (summary : Summary) (colors : Bool) : String :=
  "Checked " ++ toString summary.rows ++ " rows from " ++ summary.input ++ " (" ++
    toString summary.workers ++ " workers)\n" ++
  "Wrote " ++ summary.output ++ "\n\n" ++
  (if colors then Style.dimmed.apply summaryHeader else summaryHeader) ++ "\n" ++
  String.join (summary.queries.map (summaryRow summary.rows colors))

def summaryJson (summary : Summary) : String :=
  (Json.object [
    ("input", .string summary.input),
    ("output", .string summary.output),
    ("rows", .number summary.rows),
    ("workers", .number summary.workers),
    ("queries", .array (summary.queries.map fun query =>
      .object [("name", .string query.name), ("matches", .number query.hits)]))]).render

end Report

end TextQuery
