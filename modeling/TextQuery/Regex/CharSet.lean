import TextQuery.Unicode.Property
import TextQuery.Unicode.Script

/-!
# Sets of characters

What a bracket class or a class escape of a regular expression stands for. A set is kept as it was
written, and membership is decided by recursion on it.
-/
set_option autoImplicit false

namespace TextQuery.Regex

open Unicode

/-- The operations that join two parts of a bracket class. -/
inductive SetOperation
  | intersection
  | difference
  | symmetricDifference

inductive CharSet
  | ranges (blocks : List CodeRange)
  | negated (inner : CharSet)
  | union (left right : CharSet)
  | joined (operation : SetOperation) (left right : CharSet)

namespace CharSet

def single (c : Char) : CharSet := .ranges [(c.toNat, c.toNat)]

def interval (first last : Char) : CharSet := .ranges [(first.toNat, last.toNat)]

def empty : CharSet := .ranges []

def notLineFeed : CharSet := .negated (single '\n')

def contains : CharSet → Char → Bool
  | ranges blocks, c => inRanges blocks c
  | negated inner, c => !inner.contains c
  | union left right, c => left.contains c || right.contains c
  | joined .intersection left right, c => left.contains c && right.contains c
  | joined .difference left right, c => left.contains c && !right.contains c
  | joined .symmetricDifference left right, c => left.contains c != right.contains c

/-- How many blocks the set is written with. -/
def blockCount : CharSet → Nat
  | ranges blocks => blocks.length
  | negated inner => inner.blockCount + 1
  | union left right => left.blockCount + right.blockCount
  | joined _ left right => left.blockCount + right.blockCount

/-! ## Sets by name -/

/-- The classes of ASCII characters that may be named inside a bracket class. -/
def asciiClass? (name : String) : Option CharSet :=
  match name with
  | "alnum" => some (.ranges [(0x30, 0x39), (0x41, 0x5A), (0x61, 0x7A)])
  | "alpha" => some (.ranges [(0x41, 0x5A), (0x61, 0x7A)])
  | "ascii" => some (.ranges [(0x00, 0x7F)])
  | "blank" => some (.ranges [(0x09, 0x09), (0x20, 0x20)])
  | "cntrl" => some (.ranges [(0x00, 0x1F), (0x7F, 0x7F)])
  | "digit" => some (.ranges [(0x30, 0x39)])
  | "graph" => some (.ranges [(0x21, 0x7E)])
  | "lower" => some (.ranges [(0x61, 0x7A)])
  | "print" => some (.ranges [(0x20, 0x7E)])
  | "punct" => some (.ranges [(0x21, 0x2F), (0x3A, 0x40), (0x5B, 0x60), (0x7B, 0x7E)])
  | "space" => some (.ranges [(0x09, 0x0D), (0x20, 0x20)])
  | "upper" => some (.ranges [(0x41, 0x5A)])
  | "word" => some (.ranges [(0x30, 0x39), (0x41, 0x5A), (0x5F, 0x5F), (0x61, 0x7A)])
  | "xdigit" => some (.ranges [(0x30, 0x39), (0x41, 0x46), (0x61, 0x66)])
  | _ => none

/-- A name as it is looked up: spaces, hyphens, low lines, case and everything beyond ASCII do not
count, nor does a leading "is", unless all that is left is "c": that name is no other name of "c". -/
def looseName (name : List Char) : String :=
  let simplify (cs : List Char) : List Char :=
    (cs.filter fun c => c != ' ' && c != '_' && c != '-' && c.toNat < 0x80).map Char.toLower
  match name with
  | i :: s :: rest =>
    if i.toLower = 'i' ∧ s.toLower = 's' then
      match simplify rest with
      | ['c'] => "isc"
      | simple => String.ofList simple
    else String.ofList (simplify name)
  | _ => String.ofList (simplify name)

def findNamed? (table : List (List String × List CodeRange)) (name : String) : Option CharSet :=
  (table.find? fun entry => entry.1.contains name).map fun entry => .ranges entry.2

/-- A general category, "any" and "ascii" included. -/
def category? (name : String) : Option CharSet :=
  match name with
  | "any" => some (.negated empty)
  | "ascii" => some (.ranges [(0x00, 0x7F)])
  | "cn" | "unassigned" => some (.negated (.ranges Category.assigned))
  | "c" | "other" =>
    some (.union (.ranges (Category.control ++ Category.format ++ Category.privateUse))
      (.negated (.ranges Category.assigned)))
  | "cs" | "surrogate" => some empty
  | _ => findNamed? Category.named name

def script? (name : String) : Option CharSet :=
  (scripts.find? fun script => script.names.contains name).map fun script => .ranges script.ranges

/-- The set that a bare name stands for: a property, a general category or a script. -/
def named? (name : List Char) : Option CharSet :=
  let loose := looseName name
  findNamed? Property.named loose <|> category? loose <|> script? loose

/-- The set of the characters for which a property has the given value. -/
def valued? (property value : List Char) : Option CharSet :=
  match looseName property with
  | "gc" | "generalcategory" => category? (looseName value)
  | "sc" | "script" => script? (looseName value)
  | _ => none

end CharSet

end TextQuery.Regex
