import TextQuery.Json
import TextQuery.Query.Printer
import TextQuery.Report.Style

/-!
# Reports on a query

The tree of a query as canonical text, as an indented outline and as JSON.
-/
set_option autoImplicit false

namespace TextQuery.Report

open Query (Condition)

/-- The label of an operator in the outline; proximity shows its distance. -/
def operatorLabel (condition : Condition) : Option String :=
  condition.operator?.map fun operator =>
    match condition.distance? with
    | some distance => operator.keyword ++ "/" ++ toString distance
    | none => operator.keyword

/-- A line of the outline, two spaces in for each level. -/
def outlineLine (depth : Nat) (text : String) : String :=
  String.ofList (List.replicate (2 * depth) ' ') ++ text ++ "\n"

/-- The line of a node: its operator, or its text if it has none. -/
def outlineHead (colors : Bool) (depth : Nat) (condition : Condition) : String :=
  match operatorLabel condition with
  | some label =>
    outlineLine depth (if colors then Style.bold.apply (Style.cyan.apply label) else label)
  | none => outlineLine depth condition.toString

mutual

/-- Each node on a line of its own, operands below their operator. -/
def outline (colors : Bool) (depth : Nat) : Condition → String
  | .leaf pattern => outlineHead colors depth (.leaf pattern)
  | .resolved indices => outlineHead colors depth (.resolved indices)
  | .or operands => outlineHead colors depth (.or operands) ++ outlineAll colors (depth + 1) operands
  | .and operands =>
    outlineHead colors depth (.and operands) ++ outlineAll colors (depth + 1) operands
  | .not included excluded =>
    outlineHead colors depth (.not included excluded) ++ outline colors (depth + 1) included ++
      outline colors (depth + 1) excluded
  | .near left right distance =>
    outlineHead colors depth (.near left right distance) ++ outline colors (depth + 1) left ++
      outline colors (depth + 1) right

def outlineAll (colors : Bool) (depth : Nat) : List Condition → String
  | [] => ""
  | operand :: rest => outline colors depth operand ++ outlineAll colors depth rest

end

/-- The canonical text on a line, and below it the outline if it is wanted. -/
def treeText (condition : Condition) (withOutline colors : Bool) : String :=
  condition.toString ++ "\n" ++ if withOutline then "\n" ++ outline colors 0 condition else ""

mutual

/-- The tree as a JSON value; leaves show their terms. -/
def treeJson : Condition → Json
  | .leaf pattern => .object [("leaf", .string (String.ofList pattern.shown))]
  | .or operands => .object [("or", .array (treeJsonAll operands))]
  | .and operands => .object [("and", .array (treeJsonAll operands))]
  | .not included excluded => .object [("not", .array [treeJson included, treeJson excluded])]
  | .near left right distance =>
    .object [("near", .object
      [("left", treeJson left), ("right", treeJson right), ("distance", .number distance)])]
  | .resolved indices => .object [("resolved", .array (indices.toList.map .number))]

def treeJsonAll : List Condition → List Json
  | [] => []
  | operand :: rest => treeJson operand :: treeJsonAll rest

end

/-- The report on a parsed query as JSON. -/
def queryJson (query : String) (condition : Condition) : String :=
  (Json.object [
    ("query", .string query),
    ("canonical", .string condition.toString),
    ("tree", treeJson condition)]).render

end TextQuery.Report
