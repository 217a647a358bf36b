import TextQuery.Query.Evaluation
import TextQuery.Query.Parser

/-!
# Sets of named queries

Queries are kept in the order in which they were added, under names that do not repeat. Checking a
text gives one verdict for each name, in that order.
-/
set_option autoImplicit false

namespace TextQuery

open Query (Condition QueryError)

/-- The answer of one query on one text. -/
inductive Verdict
  | matched
  | unmatched
deriving DecidableEq, Repr

namespace Verdict

def ofBool (holds : Bool) : Verdict := if holds then matched else unmatched

/-- The letter that stands for the verdict in results. -/
def letter : Verdict → Char
  | matched => 'Y'
  | unmatched => 'N'

def isMatch : Verdict → Bool
  | matched => true
  | unmatched => false

end Verdict

inductive QuerySetError
  | malformed (name : String) (cause : QueryError)
  | duplicateName (name : String)
deriving DecidableEq

namespace QuerySetError

def name : QuerySetError → String
  | malformed name _ | duplicateName name => name

def message : QuerySetError → String
  | malformed name cause => "query '" ++ name ++ "': " ++ cause.message
  | duplicateName name => "query '" ++ name ++ "' given more than once"

end QuerySetError

/-- The verdicts on one text, under the names of the queries. -/
structure CheckRow where
  entries : List (String × Verdict)
deriving DecidableEq

namespace CheckRow

def verdicts (row : CheckRow) : List Verdict := row.entries.map Prod.snd

/-- The verdict of the first query of that name. -/
def get? (row : CheckRow) (name : String) : Option Verdict :=
  (row.entries.find? fun entry => entry.1 = name).map Prod.snd

end CheckRow

structure QuerySet where
  entries : List (String × Condition)

namespace QuerySet

def empty : QuerySet := ⟨[]⟩

def names (set : QuerySet) : List String := set.entries.map Prod.fst

def size (set : QuerySet) : Nat := set.entries.length

/-- The first query of that name. -/
def get? (set : QuerySet) (name : String) : Option Condition :=
  (set.entries.find? fun entry => entry.1 = name).map Prod.snd

/-- Work on a set that ends in a value or an error, and either way with a set. -/
abbrev Change (α : Type) := EStateM QuerySetError QuerySet α

/-- Adds a query at the end, unless its name is taken. -/
def Change.push (name : String) (condition : Condition) : Change Unit := fun set =>
  match set.get? name with
  | some _ => .error (.duplicateName name) set
  | none => .ok () ⟨set.entries ++ [(name, condition)]⟩

/-- The set with one more query. -/
def push (set : QuerySet) (name : String) (condition : Condition) :
    Except QuerySetError QuerySet :=
  match Change.push name condition set with
  | .ok _ changed => .ok changed
  | .error error _ => .error error

/-- Parses and adds queries in order, up to the first that repeats a name or does not parse. A name is
looked at before its query. -/
def parseOnto (set : QuerySet) : List (String × String) → Except QuerySetError QuerySet
  | [] => .ok set
  | (name, query) :: rest =>
    match set.get? name with
    | some _ => .error (.duplicateName name)
    | none =>
      match Query.parse query with
      | .error cause => .error (.malformed name cause)
      | .ok condition => parseOnto ⟨set.entries ++ [(name, condition)]⟩ rest

def parseAll (queries : List (String × String)) : Except QuerySetError QuerySet :=
  parseOnto empty queries

/-- Checks normalized text against every query. -/
def checkNormal (set : QuerySet) (text : Text.Normal) : CheckRow :=
  ⟨set.entries.map fun entry => (entry.1, .ofBool (entry.2.holds text))⟩

/-- Checks a text against every query; the text is normalized once. -/
def check (set : QuerySet) (text : String) : CheckRow :=
  set.checkNormal (.ofString text)

end QuerySet

end TextQuery
