import TextQuery.Query.Condition

/-!
# Printing conditions

The canonical text of a condition in query notation: every operand that has an operator of its own
stands in parentheses. The text of a parsed query is meant to be read back to an equal condition.
-/
set_option autoImplicit false

namespace TextQuery.Query

def digitsOf (n : Nat) : List Char := Nat.toDigits 10 n

/-- Known words, as a set of numbers in braces. -/
def renderIndices (indices : List Nat) : List Char :=
  '\x7b' :: (List.intercalate [',', ' '] (indices.map digitsOf) ++ ['\x7d'])

namespace Condition

/-- An operand stands in parentheses if it has an operator. -/
def enclose (operand : Condition) (text : List Char) : List Char :=
  if operand.operator?.isSome then '(' :: text ++ [')'] else text

mutual

def render : Condition → List Char
  | leaf pattern => pattern.render
  | or operands => renderJoined " OR ".toList operands
  | and operands => renderJoined " AND ".toList operands
  | not included excluded =>
    enclose included (render included) ++ " NOT ".toList ++ enclose excluded (render excluded)
  | near left right distance =>
    enclose left (render left) ++ " NEAR/".toList ++ digitsOf distance ++
      ' ' :: enclose right (render right)
  | resolved indices => renderIndices indices.toList

def renderJoined (separator : List Char) : List Condition → List Char
  | [] => []
  | [operand] => enclose operand (render operand)
  | operand :: rest =>
    enclose operand (render operand) ++ separator ++ renderJoined separator rest

end

def toString (condition : Condition) : String := String.ofList condition.render

end Condition

end TextQuery.Query
