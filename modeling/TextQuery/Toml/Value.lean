/-!
# Configuration values

A document is a table of values by keys. How a table came about decides whether more may be added to it:
a table with a header is complete but for tables below it, a table in braces is complete, and a table
that only stands on the way to others can still be given a header.
-/
set_option autoImplicit false

namespace TextQuery.Toml

abbrev Key := List Char

/-- How a table came about. -/
inductive TableKind
  /-- From a header of its own, or as the document itself. -/
  | header
  /-- On the way to a table with a header. -/
  | passed
  /-- On the way to a key with dots. -/
  | dotted
  /-- In braces. -/
  | inline
deriving DecidableEq

inductive Value
  | text (chars : List Char)
  | integer (value : Int)
  | boolean (value : Bool)
  /-- A number with a fraction or an exponent, infinity, or what is not a number. -/
  | float
  | dateTime
  | array (items : List Value)
  | table (kind : TableKind) (members : List (Key × Value))
  /-- Tables under one header, the last of them apart. -/
  | tables (before : List (List (Key × Value))) (last : List (Key × Value))

abbrev Members := List (Key × Value)

namespace Members

def set (members : Members) (key : Key) (value : Value) : Members :=
  members.map fun (k, old) => if k = key then (k, value) else (k, old)

/-- Whether a header or a key with dots may lead through a table of some kind. -/
inductive Route
  | header
  | dotted
deriving DecidableEq

/-- A table that is complete is closed to headers if it stands in braces, and to keys with dots if it
has a header too. -/
def Route.mayEnter : Route → TableKind → Bool
  | _, .inline => false
  | .dotted, .header => false
  | _, _ => true

/-- The kind of the tables that are made on the way. -/
def Route.made : Route → TableKind
  | .header => .passed
  | .dotted => .dotted

/-- Works on the table at the end of a path. Missing tables are made on the way; of tables under one
header the path leads to the last. -/
def updateAt (route : Route) (work : TableKind → Members → Option Members) :
    List Key → TableKind → Members → Option Members
  | [], kind, members => work kind members
  | key :: path, _, members =>
    match members.lookup key with
    | none =>
      (updateAt route work path route.made []).map fun inner =>
        members ++ [(key, .table route.made inner)]
    | some (.table kind inner) =>
      if route.mayEnter kind then
        (updateAt route work path kind inner).map fun inner => set members key (.table kind inner)
      else none
    | some (.tables before last) =>
      (updateAt route work path .header last).map fun last => set members key (.tables before last)
    | some _ => none

/-- Adds a value under a key. A key with dots only adds to tables that such keys have made, and no key
is given twice. -/
def addPair (path : List Key) (key : Key) (value : Value) (kind : TableKind) (members : Members) :
    Option Members :=
  updateAt .dotted (fun kind members =>
    if decide (kind = .dotted) = path.isEmpty then none
    else if (members.lookup key).isSome then none
    else some (members ++ [(key, value)])) path kind members

/-- Opens the table under a key for a header. The header must be its first. -/
def openTable (key : Key) (members : Members) : Option Members :=
  match members.lookup key with
  | none => some (members ++ [(key, .table .header [])])
  | some (.table .passed inner) => some (set members key (.table .header inner))
  | some _ => none

/-- Begins another table under a header for many. -/
def openNext (key : Key) (members : Members) : Option Members :=
  match members.lookup key with
  | none => some (members ++ [(key, .tables [] [])])
  | some (.tables before last) => some (set members key (.tables (before ++ [last]) []))
  | some _ => none

end Members

/-- A key with its path, and the value given to it. -/
structure Pair where
  path : List Key
  key : Key
  value : Value

/-- The table in braces with the given pairs. -/
def Members.ofPairs (pairs : List Pair) : Option Members :=
  pairs.foldlM (fun members pair => members.addPair pair.path pair.key pair.value .inline) []

/-- A line of a document. -/
inductive Statement
  | blank
  | header (path : List Key) (key : Key)
  | nextHeader (path : List Key) (key : Key)
  | pair (pair : Pair)

/-- A document as far as it has been read: its members, and the path of the table that is open. -/
structure Draft where
  members : Members
  opened : List Key

namespace Draft

def start : Draft := ⟨[], []⟩

def apply (draft : Draft) : Statement → Option Draft
  | .blank => some draft
  | .header path key => do
    let members ← Members.updateAt .header (fun _ => Members.openTable key) path .header draft.members
    return ⟨members, path ++ [key]⟩
  | .nextHeader path key => do
    let members ← Members.updateAt .header (fun _ => Members.openNext key) path .header draft.members
    return ⟨members, path ++ [key]⟩
  | .pair pair => do
    let work := Members.addPair pair.path pair.key pair.value
    let members ← Members.updateAt .header work draft.opened .header draft.members
    return ⟨members, draft.opened⟩

end Draft

/-- The members of the document with the given lines. -/
def Members.ofStatements (statements : List Statement) : Option Members :=
  (statements.foldlM Draft.apply .start).map (·.members)

end TextQuery.Toml
