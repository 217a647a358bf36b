import TextQuery.Query.Parser

/-!
# Reading a query level by level

A second parser, which never rewrites the text: it keeps a stack of the levels that are open, each a
list of words and of conditions that were already read, and hands the condition of a level that closes
to the level around it.
-/
set_option autoImplicit false

namespace TextQuery.Query

open Text (Word words unwords)

/-- What is wrong with a query, without the position and the text that an error names when it is about
a text with references. -/
inductive Fault
  | emptyExpression
  | unbalancedParenthesis
  | emptyOperand (operator : Operator)
  | operandCount (operator : Operator) (found : Nat)
  | missingNearDistance (token : List Char)
  | unknownGroup
  | malformedTerm (term : List Char)
deriving DecidableEq

def QueryError.fault : QueryError → Fault
  | emptyExpression => .emptyExpression
  | unbalancedParenthesis _ => .unbalancedParenthesis
  | emptyOperand operator => .emptyOperand operator
  | operandCount operator found => .operandCount operator found
  | missingNearDistance token => .missingNearDistance token
  | unknownGroup _ => .unknownGroup
  | malformedTerm term => .malformedTerm term

/-! ## One level -/

/-- A part of a level: a word, or the condition of a group. -/
inductive Piece
  | word (word : Word)
  | group (condition : Condition)

namespace Piece

def word? : Piece → Option Word
  | .word chars => some chars
  | .group _ => none

def isKeyword (operator : Operator) : Piece → Bool
  | .word chars => Query.isKeyword operator chars
  | .group _ => false

def isNear : Piece → Bool
  | .word chars => Query.isNear chars
  | .group _ => false

end Piece

/-- An operand is one group alone or words only. -/
def readOperand : List Piece → Except Fault Condition
  | [.group condition] => .ok condition
  | pieces =>
    match pieces.mapM Piece.word? with
    | some words => (parseTerm words).mapError QueryError.fault
    | none => .error .unknownGroup

/-- The operands between separators, none of which may be empty. -/
def cutOperands (operator : Operator) (isSeparator : Piece → Bool) (pieces : List Piece) :
    Except Fault (List (List Piece)) :=
  let operands := pieces.splitOnP isSeparator
  if operands.any List.isEmpty then .error (.emptyOperand operator) else .ok operands

def readSplit (operator : Operator) (pieces : List Piece) : Except Fault (List Condition) :=
  match cutOperands operator (Piece.isKeyword operator) pieces with
  | .ok operands => operands.mapM readOperand
  | .error fault => .error fault

def readNear (pieces : List Piece) : Except Fault Condition :=
  match nearDistances ((pieces.filterMap Piece.word?).filter isNear) with
  | .error error => .error error.fault
  | .ok distances =>
    match cutOperands .near Piece.isNear pieces with
    | .error fault => .error fault
    | .ok operands =>
      if operands.length = 2 then
        match operands.mapM readOperand with
        | .ok [left, right] => .ok (.near left right (distances.headD 0))
        | .ok _ => .error (.operandCount .near operands.length)
        | .error fault => .error fault
      else .error (.operandCount .near operands.length)

/-- The first kind of operator that is present, in the order OR, AND, NOT, NEAR, splits the level. -/
def readLevel (pieces : List Piece) : Except Fault Condition :=
  if pieces.isEmpty then .error .emptyExpression
  else if pieces.any (Piece.isKeyword .or) then (readSplit .or pieces).map .or
  else if pieces.any (Piece.isKeyword .and) then (readSplit .and pieces).map .and
  else if pieces.any (Piece.isKeyword .not) then
    match readSplit .not pieces with
    | .ok [included, excluded] => .ok (.not included excluded)
    | .ok conditions => .error (.operandCount .not conditions.length)
    | .error fault => .error fault
  else if pieces.any Piece.isNear then readNear pieces
  else readOperand pieces

/-! ## All levels -/

/-- The innermost level, its latest piece first, after the end of the word that was being read. -/
def endWord (level : List Piece) (word : List Char) : List Piece :=
  if word = [] then level else .word word.reverse :: level

/-- Reads the rest of a normalized query. `outer` are the open levels around the innermost one, the
nearest first, and `word` is what has been read of a word; pieces and characters stand with the latest
first. -/
def readFrom (outer : List (List Piece)) (level : List Piece) (word : List Char) :
    List Char → Except Fault Condition
  | [] =>
    match outer with
    | [] => readLevel (endWord level word).reverse
    | _ :: _ => .error .unbalancedParenthesis
  | c :: rest =>
    if c = ' ' then readFrom outer (endWord level word) [] rest
    else if c = '(' then readFrom (endWord level word :: outer) [] [] rest
    else if c = ')' then
      match outer with
      | [] => .error .unbalancedParenthesis
      | around :: outer =>
        match readLevel (endWord level word).reverse with
        | .ok condition => readFrom outer (.group condition :: around) [] rest
        | .error fault => .error fault
    else readFrom outer level (c :: word) rest

/-- Reads a normalized query. -/
def readQuery (query : List Char) : Except Fault Condition :=
  readFrom [] [] [] query

/-- Ends a run of characters of a query: a space or a parenthesis. -/
def isDelimiter (c : Char) : Bool := c = ' ' || c = '(' || c = ')'

/-- The runs of characters between spaces and parentheses. -/
def runs (query : List Char) : List Word := Text.splitWords isDelimiter query

/-! ## Steps -/

section Steps

variable (outer : List (List Piece)) (level : List Piece) (word rest : List Char)

theorem readFrom_space :
    readFrom outer level word (' ' :: rest) = readFrom outer (endWord level word) [] rest := by
  rw [readFrom.eq_def]
  rfl

theorem readFrom_opening :
    readFrom outer level word ('(' :: rest) = readFrom (endWord level word :: outer) [] [] rest := by
  rw [readFrom.eq_def]
  rfl

theorem readFrom_closing (around : List Piece) :
    readFrom (around :: outer) level word (')' :: rest) =
      match readLevel (endWord level word).reverse with
      | .ok condition => readFrom outer (.group condition :: around) [] rest
      | .error fault => .error fault := by
  rw [readFrom.eq_def]
  rfl

theorem readFrom_unopened :
    readFrom [] level word (')' :: rest) = .error .unbalancedParenthesis := by
  rw [readFrom.eq_def]
  rfl

theorem readFrom_letter {c : Char} (solid : isDelimiter c = false) :
    readFrom outer level word (c :: rest) = readFrom outer level (c :: word) rest := by
  simp only [isDelimiter, Bool.or_eq_false_iff, decide_eq_false_iff_not] at solid
  rw [readFrom.eq_def]
  dsimp only
  rw [if_neg solid.1.1, if_neg solid.1.2, if_neg solid.2]

end Steps

end TextQuery.Query
