import TextQuery.Query.Keyword

/-!
# Errors of queries
-/
set_option autoImplicit false

namespace TextQuery.Query

inductive QueryError
  | emptyExpression
  /-- A parenthesis without counterpart, at a byte position of the query with references in place of the
  groups parsed so far. -/
  | unbalancedParenthesis (position : Nat)
  /-- An operator with nothing on one of its sides. -/
  | emptyOperand (operator : Operator)
  /-- An operator of two operands that was given another number of them. -/
  | operandCount (operator : Operator) (found : Nat)
  /-- A proximity word without a number. -/
  | missingNearDistance (token : List Char)
  /-- A group reference that stands for no group, or not alone in its operand. -/
  | unknownGroup (token : List Char)
  /-- A term whose expression is not well-formed. -/
  | malformedTerm (term : List Char)
deriving DecidableEq

namespace QueryError

/-- The query breaks the grammar; a malformed term does not. -/
def isInvalidQuery : QueryError → Bool
  | malformedTerm _ => false
  | _ => true

def message : QueryError → String
  | emptyExpression => "query expression is empty"
  | unbalancedParenthesis position => s!"unbalanced parenthesis at position {position}"
  | emptyOperand operator => s!"{operator.keyword} is missing an operand"
  | operandCount operator found =>
    s!"{operator.keyword} takes exactly 2 operands, found {found}"
  | missingNearDistance token =>
    "NEAR requires a word distance (NEAR/<n>), found '" ++ String.ofList token ++ "'"
  | unknownGroup token => "unresolvable group reference in '" ++ String.ofList token ++ "'"
  | malformedTerm term => "cannot compile term '" ++ String.ofList term ++ "'"

end QueryError

end TextQuery.Query
