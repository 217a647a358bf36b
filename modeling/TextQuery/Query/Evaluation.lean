import TextQuery.Query.Condition
import TextQuery.Regex.Spans
import TextQuery.Text.Normal

/-!
# Evaluating conditions

A condition either holds of a text or not, and it covers a set of words of the text. Words are
numbered from zero by the spaces before them. The verdict and the words are computed by two
recursions with different short cuts, which agree unless an operator that takes all of its operands
has none.
-/
set_option autoImplicit false

namespace TextQuery.Query

/-! ## Occurrences of a pattern -/

def spacesBetween (text : Array Char) (first last : Nat) : Nat :=
  (text.extract first last).count ' '

/-- Where the search goes on after a match: a space at its end is left to the next match. -/
def resumeAt (text : Array Char) (start stop : Nat) : Nat :=
  if text[stop - 1]? = some ' ' ∧ start < stop - 1 then stop - 1 else stop

/-- The words covered by the matches that start at `start` or later. `spaces` is the number of spaces
before `counted`. The search ends when it does not advance, which happens only after an empty
match. -/
def coveredFrom (spans : Regex.Spans) (text : Array Char) (wordCount : Nat)
    (counted spaces start : Nat) : List Nat :=
  match spans.firstFrom start with
  | none => []
  | some (first, last) =>
    let spaces := spaces + spacesBetween text counted first
    let next := resumeAt text first last
    List.range' spaces wordCount ++
      if start < next ∧ next < text.size then
        coveredFrom spans text wordCount first spaces next
      else []
termination_by text.size - start

namespace Pattern

def matchesIn (pattern : Pattern) (text : Array Char) : Bool :=
  pattern.regex.matchesIn text

/-- The words covered by every match: a match after `n` spaces covers as many words from `n` on as the
term has. -/
def wordIndices (pattern : Pattern) (text : Array Char) : List Nat :=
  coveredFrom (pattern.regex.spans text) text pattern.wordCount 0 0 0

end Pattern

/-! ## Proximity -/

/-- At most `distance` words lie between two words. The bound on the difference of their positions is a
count, so it ends with the largest one. -/
def within (distance i j : Nat) : Bool :=
  (i - j) + (j - i) ≤ min (distance + 1) maxCount

/-- For each word of the left side the first word of the right side that is near enough, with all words
between the two. -/
def nearSpan (distance : Nat) (left right : IndexSet) : IndexSet :=
  left.toList.foldl
    (fun span i =>
      match right.toList.find? (within distance i) with
      | some j => span.insertAll (List.range' (min i j) (max i j + 1 - min i j))
      | none => span)
    .empty

/-- Some word of the left side is near enough to some word of the right side. -/
def nearPairExists (distance : Nat) (left right : IndexSet) : Bool :=
  left.toList.any fun i => right.toList.any (within distance i)

/-! ## Conditions -/

namespace Condition

mutual

def holdsIn (text : Array Char) : Condition → Bool
  | leaf pattern => pattern.matchesIn text
  | or operands => someHolds text operands
  | and operands => allHold text operands
  | not included excluded => holdsIn text included && !holdsIn text excluded
  | near left right distance =>
    nearPairExists distance (wordIndices text left) (wordIndices text right)
  | resolved indices => !indices.isEmpty

def someHolds (text : Array Char) : List Condition → Bool
  | [] => false
  | operand :: rest => holdsIn text operand || someHolds text rest

def allHold (text : Array Char) : List Condition → Bool
  | [] => true
  | operand :: rest => holdsIn text operand && allHold text rest

/-- The words that the condition covers. -/
def wordIndices (text : Array Char) : Condition → IndexSet
  | leaf pattern => .ofList (pattern.wordIndices text)
  | or operands => someIndices text operands
  | and operands => (allIndices? text operands).getD .empty
  | not included excluded => if holdsIn text excluded then .empty else wordIndices text included
  | near left right distance =>
    nearSpan distance (wordIndices text left) (wordIndices text right)
  | resolved indices => indices

/-- The words of all operands. -/
def someIndices (text : Array Char) : List Condition → IndexSet
  | [] => .empty
  | operand :: rest => (wordIndices text operand).union (someIndices text rest)

/-- The words of all operands, unless one has none. -/
def allIndices? (text : Array Char) : List Condition → Option IndexSet
  | [] => some .empty
  | operand :: rest =>
    let indices := wordIndices text operand
    if indices.isEmpty then none
    else (allIndices? text rest).map indices.union

end

def holds (condition : Condition) (text : Text.Normal) : Bool :=
  condition.holdsIn text.chars.toArray

end Condition

end TextQuery.Query
