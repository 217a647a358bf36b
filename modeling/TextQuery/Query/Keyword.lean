import TextQuery.Count

/-!
# Keywords

The operators, the words that stand for them in a query, and the numbers that some words carry.
-/
set_option autoImplicit false

namespace TextQuery.Query

inductive Operator
  | or
  | and
  | not
  | near
deriving DecidableEq, Repr

def Operator.keyword : Operator → String
  | or => "OR"
  | and => "AND"
  | not => "NOT"
  | near => "NEAR"

/-- Equal up to the case of ASCII letters. -/
def sameIgnoringCase (left right : List Char) : Bool :=
  left.map Char.toLower == right.map Char.toLower

def isKeyword (operator : Operator) (word : List Char) : Bool :=
  sameIgnoringCase word operator.keyword.toList

/-- What follows "near" in a proximity word, which is nothing or starts with a slash. -/
def nearTail? (word : List Char) : Option (List Char) :=
  if sameIgnoringCase (word.take 4) Operator.near.keyword.toList then
    match word.drop 4 with
    | [] => some []
    | '/' :: rest => some ('/' :: rest)
    | _ => none
  else none

/-- A proximity word, well-formed or not. -/
def isNear (word : List Char) : Bool := (nearTail? word).isSome

/-- A number in decimal digits that is a count. -/
def readNumber? (digits : List Char) : Option Nat :=
  let value := digits.foldl (fun value c => value * 10 + (c.toNat - '0'.toNat)) 0
  if digits ≠ [] ∧ digits.all Char.isDigit ∧ value ≤ maxCount then some value else none

def nearDistance? (word : List Char) : Option Nat :=
  match nearTail? word with
  | some ('/' :: digits) => readNumber? digits
  | _ => none

/-- The number of a group reference, which is written between colons. -/
def groupNumber? (word : List Char) : Option Nat :=
  match word with
  | ':' :: rest => if rest.getLast? = some ':' then readNumber? rest.dropLast else none
  | _ => none

end TextQuery.Query
