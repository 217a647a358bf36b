import TextQuery.Query.Condition
import TextQuery.Query.Error
import TextQuery.Query.Source
import TextQuery.Unicode.Lowercase

/-!
# Parsing queries

Groups are resolved from left to right, innermost first: when a closing parenthesis is reached, the
text back to its opening parenthesis is parsed on its own, the condition is put into a table, and a
reference `:n:` to the entry takes the place of the group. What remains has no parentheses and is one
level.

A level is split at one kind of operator, the first of OR, AND, NOT and NEAR that occurs in it; other
keywords are ordinary words there. An operand is one group reference or a term of words.
-/
set_option autoImplicit false

namespace TextQuery.Query

open Text (Word words unwords)

/-- The conditions of the groups parsed so far; an entry is emptied when it is used. -/
abbrev Groups := List (Option Condition)

/-- A value with the groups that are left. -/
abbrev Parsed (α : Type) := Except QueryError (α × Groups)

def takeGroup? (groups : Groups) (number : Nat) : Option (Condition × Groups) :=
  match groups[number]? with
  | some (some condition) => some (condition, groups.set number none)
  | _ => none

/-! ## Operands -/

/-- The words between separators, in order; between two separators there may be none. -/
def splitAtWords (isSeparator : Word → Bool) : List Word → List (List Word)
  | [] => [[]]
  | word :: rest =>
    if isSeparator word then [] :: splitAtWords isSeparator rest
    else
      match splitAtWords isSeparator rest with
      | operand :: operands => (word :: operand) :: operands
      | [] => [[word]]

/-- The operands of an operator, none of which may be empty. -/
def splitOperands (operator : Operator) (isSeparator : Word → Bool) (words : List Word) :
    Except QueryError (List (List Word)) :=
  let operands := splitAtWords isSeparator words
  if operands.any List.isEmpty then .error (.emptyOperand operator) else .ok operands

/-- A term is compiled in lower case. -/
def parseTerm (words : List Word) : Except QueryError Condition :=
  let term := Unicode.lower (unwords words)
  match Pattern.ofTerm? term with
  | some pattern => .ok (.leaf pattern)
  | none => .error (.malformedTerm term)

/-- The number of the group that an operand refers to, if it is one reference alone. -/
def reference? : List Word → Option Nat
  | [word] => groupNumber? word
  | _ => none

def parseOperand (groups : Groups) (words : List Word) : Parsed Condition :=
  match reference? words with
  | some number =>
    match takeGroup? groups number with
    | some result => .ok result
    | none => .error (.unknownGroup (unwords words))
  | none =>
    if words.any fun word => (groupNumber? word).isSome then
      .error (.unknownGroup (unwords words))
    else
      match parseTerm words with
      | .ok condition => .ok (condition, groups)
      | .error error => .error error

def parseOperands (groups : Groups) : List (List Word) → Parsed (List Condition)
  | [] => .ok ([], groups)
  | operand :: rest =>
    match parseOperand groups operand with
    | .error error => .error error
    | .ok (condition, groups) =>
      match parseOperands groups rest with
      | .error error => .error error
      | .ok (conditions, groups) => .ok (condition :: conditions, groups)

/-! ## Levels -/

/-- Splits a level at a keyword and parses its operands. -/
def parseSplit (groups : Groups) (operator : Operator) (words : List Word) :
    Parsed (List Condition) :=
  match splitOperands operator (isKeyword operator) words with
  | .error error => .error error
  | .ok operands => parseOperands groups operands

/-- The distances of all proximity words, or the first that is malformed. -/
def nearDistances : List Word → Except QueryError (List Nat)
  | [] => .ok []
  | word :: rest =>
    match nearDistance? word with
    | none => .error (.missingNearDistance word)
    | some distance =>
      match nearDistances rest with
      | .error error => .error error
      | .ok distances => .ok (distance :: distances)

/-- A level that is split at proximity words. There must be two operands, and the first word gives the
distance. -/
def parseNear (groups : Groups) (words : List Word) : Parsed Condition :=
  match nearDistances (words.filter isNear) with
  | .error error => .error error
  | .ok distances =>
    match splitOperands .near isNear words with
    | .error error => .error error
    | .ok operands =>
      if operands.length = 2 then
        match parseOperands groups operands with
        | .ok ([left, right], groups) => .ok (.near left right (distances.headD 0), groups)
        | .ok _ => .error (.operandCount .near operands.length)
        | .error error => .error error
      else .error (.operandCount .near operands.length)

def parseWords (groups : Groups) (words : List Word) : Parsed Condition :=
  if words.isEmpty then .error .emptyExpression
  else if words.any (isKeyword .or) then
    match parseSplit groups .or words with
    | .ok (conditions, groups) => .ok (.or conditions, groups)
    | .error error => .error error
  else if words.any (isKeyword .and) then
    match parseSplit groups .and words with
    | .ok (conditions, groups) => .ok (.and conditions, groups)
    | .error error => .error error
  else if words.any (isKeyword .not) then
    match parseSplit groups .not words with
    | .ok ([included, excluded], groups) => .ok (.not included excluded, groups)
    | .ok (conditions, _) => .error (.operandCount .not conditions.length)
    | .error error => .error error
  else if words.any isNear then parseNear groups words
  else parseOperand groups words

/-- Parses text without parentheses. -/
def parseLevel (groups : Groups) (text : List Char) : Parsed Condition :=
  parseWords groups (words text)

/-! ## Groups -/

def byteLength (text : List Char) : Nat :=
  text.foldr (fun c length => c.utf8Size + length) 0

/-- What takes the place of a group. -/
def referenceText (number : Nat) : List Char :=
  " :".toList ++ Nat.toDigits 10 number ++ ": ".toList

/-- Splits a text at the first place where `mark` stands. -/
def cut? (mark : Char) : List Char → Option (List Char × List Char)
  | [] => none
  | c :: rest =>
    if c = mark then some ([], rest)
    else (cut? mark rest).map fun (before, after) => (c :: before, after)

/-- Reads the rest of a query. `read` is what has been read, with references in place of its groups,
the latest character first. -/
def parseFrom (groups : Groups) (read : List Char) : List Char → Except QueryError Condition
  | [] =>
    match cut? '(' read.reverse with
    | some (before, _) => .error (.unbalancedParenthesis (byteLength before))
    | none => (parseLevel groups read.reverse).map Prod.fst
  | c :: rest =>
    if c = ')' then
      match cut? '(' read with
      | none => .error (.unbalancedParenthesis (byteLength read))
      | some (inside, outside) =>
        match parseLevel groups inside.reverse with
        | .error error => .error error
        | .ok (condition, groups) =>
          parseFrom (groups ++ [some condition])
            ((referenceText groups.length).reverse ++ outside) rest
    else parseFrom groups (c :: read) rest

def parseNormalized (query : List Char) : Except QueryError Condition :=
  if query.isEmpty then .error .emptyExpression else parseFrom [] [] query

def parseChars (query : List Char) : Except QueryError Condition :=
  parseNormalized (normalize query)

def parse (query : String) : Except QueryError Condition :=
  parseChars query.toList

end TextQuery.Query
