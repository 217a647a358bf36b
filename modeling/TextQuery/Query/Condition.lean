import TextQuery.Query.IndexSet
import TextQuery.Query.Pattern

/-!
# Conditions

The tree that a query stands for.
-/
set_option autoImplicit false

namespace TextQuery.Query

inductive Condition
  /-- A single word or phrase. -/
  | leaf (pattern : Pattern)
  /-- Some operand holds. -/
  | or (operands : List Condition)
  /-- Every operand holds. -/
  | and (operands : List Condition)
  /-- The first holds and the second does not. -/
  | not (included excluded : Condition)
  /-- Both hold with at most `distance` words between them. -/
  | near (left right : Condition) (distance : Nat)
  /-- Words that are known to match. -/
  | resolved (indices : IndexSet)

namespace Condition

/-- The operator of a node; a leaf and a set of known words have none. -/
def operator? : Condition → Option Operator
  | leaf _ | resolved _ => none
  | or _ => some .or
  | and _ => some .and
  | not .. => some .not
  | near .. => some .near

def operands : Condition → List Condition
  | leaf _ | resolved _ => []
  | or operands | and operands => operands
  | not included excluded => [included, excluded]
  | near left right _ => [left, right]

def distance? : Condition → Option Nat
  | near _ _ distance => some distance
  | _ => none

/-! ## Equality -/

mutual

/-- Equal operators, distances and expressions of the leaves, operand by operand. -/
def beq : Condition → Condition → Bool
  | leaf p, leaf q => p == q
  | or xs, or ys => beqAll xs ys
  | and xs, and ys => beqAll xs ys
  | not a b, not c d => beq a c && beq b d
  | near a b m, near c d n => beq a c && beq b d && m == n
  | resolved s, resolved t => s == t
  | _, _ => false

def beqAll : List Condition → List Condition → Bool
  | [], [] => true
  | x :: xs, y :: ys => beq x y && beqAll xs ys
  | _, _ => false

end

instance : BEq Condition := ⟨beq⟩

/-! ## Leaves -/

mutual

/-- The patterns of the leaves, from left to right. -/
def patterns : Condition → List Pattern
  | leaf p => [p]
  | or xs | and xs => patternsOf xs
  | not a b | near a b _ => patterns a ++ patterns b
  | resolved _ => []

def patternsOf : List Condition → List Pattern
  | [] => []
  | x :: xs => patterns x ++ patternsOf xs

end

end Condition

end TextQuery.Query
