import TextQuery.Proofs.Query.Equality
import TextQuery.Proofs.Query.Roundtrip
import TextQuery.Report.Outline

/-!
# What an outline tells

The outline of a parsed query determines its condition (`beq_of_outline_eq`). A line tells its depth and its
label apart, since no label starts with a space; a term is never written like an operator; and the operands
of a node end where a line stands that is no deeper than the node.
-/
set_option autoImplicit false

namespace TextQuery.Query

/-! ## Terms and operators -/

theorem newline_not_visible : ¬ Visible '\n' :=
  fun visible => absurd (visible.blank (by decide)) (by decide)

namespace Pattern

variable {left right pattern : Pattern}

theorem quote_not_mem_shown (legible : pattern.Legible) : '"' ∉ pattern.shown :=
  fun member => (legible.visible _ member).noQuote rfl

/-- Quotes tell terms that need them from those that do not. -/
theorem shown_eq_of_render_eq (first : left.Legible) (second : right.Legible)
    (same : left.render = right.render) : left.shown = right.shown := by
  have quoted (pattern : Pattern) : '"' ∈ '"' :: pattern.shown ++ ['"'] := List.mem_cons_self
  rw [render, render] at same
  split at same <;> split at same
  · exact List.append_cancel_right (List.cons.inj same).2
  · exact absurd (same ▸ quoted left) (quote_not_mem_shown second)
  · exact absurd (same ▸ quoted right) (quote_not_mem_shown first)
  · exact same

theorem beq_of_render_eq (first : left.Legible) (second : right.Legible)
    (same : left.render = right.render) : (left == right) = true := by
  rw [beq_iff, source_eq first.inside, source_eq second.inside, shown_eq_of_render_eq first second same]

theorem newline_not_mem_render (legible : pattern.Legible) : '\n' ∉ pattern.render := by
  have absent : '\n' ∉ pattern.shown := fun member => newline_not_visible (legible.visible _ member)
  rw [render]
  split
  · simpa using absent
  · exact absent

theorem head?_render (legible : pattern.Legible) : pattern.render.head? ≠ some ' ' := by
  rw [render]
  split
  · simp
  · rename_i bare
    intro head
    have inside := (unquoted_of_needsQuotes legible.inside (Bool.eq_false_iff.mpr bare)).inside ' '
      (List.mem_of_head? head)
    contradiction

end Pattern

namespace Joins

variable {conditions operands : List Condition} {left right condition : Condition}

theorem isKeyword_or_isNear_separator (joins : Joins conditions condition) :
    (∃ operator, operator ≠ .near ∧ isKeyword operator condition.separator = true) ∨
      isNear condition.separator = true := by
  cases joins with
  | or two => exact .inl ⟨.or, by decide, rfl⟩
  | and two => exact .inl ⟨.and, by decide, rfl⟩
  | not included excluded => exact .inl ⟨.not, by decide, rfl⟩
  | near left right fits => exact .inr rfl

/-- No term is written like an operator. -/
theorem render_ne_separator (joins : Joins conditions condition) {pattern : Pattern}
    (legible : pattern.Legible) : pattern.render ≠ condition.separator := by
  intro same
  rw [Pattern.render] at same
  split at same
  · have quoted : '"' ∈ condition.separator := same ▸ List.mem_cons_self
    exact (Condition.of_mem_separator quoted).2.2.2 rfl
  · rename_i bare
    have unquoted := Pattern.unquoted_of_needsQuotes legible.inside (Bool.eq_false_iff.mpr bare)
    rcases joins.isKeyword_or_isNear_separator with ⟨operator, other, keyword⟩ | near
    · rw [← same, unquoted.keyword operator other] at keyword
      contradiction
    · rw [← same, unquoted.near] at near
      contradiction

/-- An operator is known by the first two letters of its separator. -/
theorem take_separator (joins : Joins conditions condition) :
    ∃ operator, condition.operator? = some operator ∧
      condition.separator.take 2 = operator.keyword.toList.take 2 := by
  cases joins with
  | or two => exact ⟨.or, rfl, rfl⟩
  | and two => exact ⟨.and, rfl, rfl⟩
  | not included excluded => exact ⟨.not, rfl, rfl⟩
  | near left right fits => exact ⟨.near, rfl, rfl⟩

theorem operator?_eq_of_separator_eq (first : Joins conditions left) (second : Joins operands right)
    (same : left.separator = right.separator) : left.operator? = right.operator? := by
  obtain ⟨operator, isFirst, begins⟩ := first.take_separator
  obtain ⟨other, isSecond, alike⟩ := second.take_separator
  rw [same, alike] at begins
  have equal : other = operator := by
    revert begins
    cases other <;> cases operator <;> decide
  rw [isFirst, isSecond, equal]

theorem beq_of_separator_eq (first : Joins conditions left) (second : Joins operands right)
    (same : left.separator = right.separator)
    (each : List.Forall₂ (fun x y => (x == y) = true) conditions operands) : (left == right) = true := by
  have operators := operator?_eq_of_separator_eq first second same
  cases first <;> cases second <;> cases operators
  case or.or.refl | and.and.refl => exact Condition.beqAll_iff.mpr each
  case not.not.refl =>
    simp only [List.forall₂_cons] at each
    exact (Bool.and_eq_true _ _).mpr ⟨each.1, each.2.1⟩
  case near.near.refl _ _ _ fits _ _ _ fitsOther =>
    simp only [List.forall₂_cons] at each
    have distances := congrArg nearDistance? same
    rw [Condition.separator, Condition.separator, nearDistance?_nearWord fits,
      nearDistance?_nearWord fitsOther] at distances
    have both := (Bool.and_eq_true _ _).mpr ⟨each.1, each.2.1⟩
    exact (Bool.and_eq_true _ _).mpr ⟨both, beq_iff_eq.mpr (Option.some.inj distances)⟩

end Joins

theorem Condition.Legible.newline_not_mem_render {condition : Condition} (legible : condition.Legible) :
    '\n' ∉ condition.render := by
  induction legible with
  | leaf legible => exact Pattern.newline_not_mem_render legible
  | @joined conditions condition joins each ih =>
    rw [joins.render_eq]
    intro member
    rcases Text.mem_intercalate member with between | ⟨text, inTexts, inText⟩
    · have inSeparator : '\n' ∈ condition.separator := by simpa using between
      have solid := (Condition.of_mem_separator inSeparator).2.1
      contradiction
    · obtain ⟨operand, inConditions, rfl⟩ := List.mem_map.mp inTexts
      rw [Condition.enclose] at inText
      split at inText
      · exact ih operand inConditions (by simpa using inText)
      · exact ih operand inConditions inText

end TextQuery.Query

namespace TextQuery.Report

open Query (Condition Joins Pattern parse)

/-! ## Lines -/

/-- Text that can stand on a line of an outline: it is not indented, and it has no line break. -/
structure IsLabel (text : List Char) : Prop where
  flush : text.head? ≠ some ' '
  single : '\n' ∉ text

/-- The line of a node. -/
def line (depth : Nat) (label : List Char) : List Char :=
  List.replicate (2 * depth) ' ' ++ label ++ ['\n']

theorem toList_outlineLine (depth : Nat) (text : String) :
    (outlineLine depth text).toList = line depth text.toList := by
  simp [outlineLine, line]

theorem takeWhile_line {label : List Char} (isLabel : IsLabel label) (depth : Nat) (rest : List Char) :
    (line depth label ++ rest).takeWhile (· = ' ') = List.replicate (2 * depth) ' ' := by
  have ends : (label ++ '\n' :: rest).takeWhile (· = ' ') = [] := by
    cases label with
    | nil => rfl
    | cons c text =>
      have notSpace : c ≠ ' ' := fun same => isLabel.flush (congrArg some same)
      simp [notSpace]
  rw [line, List.append_assoc, List.append_assoc, List.singleton_append,
    List.takeWhile_append_of_pos (by simp), ends, List.append_nil]

/-- A line tells its depth and its label, and where it ends. -/
theorem line_inj {depth level : Nat} {label other rest left : List Char} (first : IsLabel label)
    (second : IsLabel other) (same : line depth label ++ rest = line level other ++ left) :
    depth = level ∧ label = other ∧ rest = left := by
  have indents := congrArg (List.takeWhile (· = ' ')) same
  rw [takeWhile_line first, takeWhile_line second] at indents
  have depths : depth = level := by
    have lengths := congrArg List.length indents
    rw [List.length_replicate, List.length_replicate] at lengths
    omega
  subst depths
  rw [line, line, List.append_assoc, List.append_assoc, List.append_assoc, List.append_assoc] at same
  have texts := congrArg (Query.cut? '\n') (List.append_cancel_left same)
  rw [List.singleton_append, List.singleton_append, Query.cut?_append_cons first.single,
    Query.cut?_append_cons second.single] at texts
  obtain ⟨labels, rests⟩ := Prod.mk.inj (Option.some.inj texts)
  exact ⟨rfl, labels, rests⟩

/-! ## Outlines as lines -/

theorem isLabel_render {pattern : Pattern} (legible : pattern.Legible) : IsLabel pattern.render :=
  ⟨Pattern.head?_render legible, Pattern.newline_not_mem_render legible⟩

theorem isLabel_separator (condition : Condition) : IsLabel condition.separator := by
  refine ⟨fun head => ?_, fun member => ?_⟩
  · have inside := (Condition.of_mem_separator (List.mem_of_head? head)).2.1
    contradiction
  · have solid := (Condition.of_mem_separator member).2.1
    contradiction

/-- The outlines of operands. -/
def outlines (depth : Nat) (conditions : List Condition) : List Char :=
  conditions.flatMap fun condition => (outline false depth condition).toList

theorem toList_outlineAll (depth : Nat) (conditions : List Condition) :
    (outlineAll false depth conditions).toList = outlines depth conditions := by
  induction conditions with
  | nil => rfl
  | cons condition rest ih =>
    rw [outlineAll, String.toList_append, ih]
    rfl

theorem outline_leaf (depth : Nat) (pattern : Pattern) :
    (outline false depth (.leaf pattern)).toList = line depth pattern.render := by
  have text : (Condition.leaf pattern).toString.toList = pattern.render := String.toList_ofList
  rw [outline, ← text]
  exact toList_outlineLine depth _

theorem toList_outlineHead {conditions : List Condition} {condition : Condition}
    (joins : Joins conditions condition) (depth : Nat) :
    (outlineHead false depth condition).toList = line depth condition.separator := by
  have label : ∃ label, operatorLabel condition = some label ∧ label.toList = condition.separator := by
    cases joins with
    | or two => exact ⟨_, rfl, rfl⟩
    | and two => exact ⟨_, rfl, rfl⟩
    | not included excluded => exact ⟨_, rfl, rfl⟩
    | @near left right distance fits =>
      have word : "NEAR" ++ "/" = "NEAR/" := rfl
      exact ⟨_, congrArg (fun keyword => some (keyword ++ toString distance)) word,
        Query.toList_nearWord distance⟩
  obtain ⟨label, found, spelled⟩ := label
  rw [outlineHead, found, ← spelled]
  exact toList_outlineLine depth label

theorem outline_joined {conditions : List Condition} {condition : Condition}
    (joins : Joins conditions condition) (depth : Nat) :
    (outline false depth condition).toList =
      line depth condition.separator ++ outlines (depth + 1) conditions := by
  rw [← toList_outlineHead joins, ← toList_outlineAll, ← String.toList_append]
  refine congrArg String.toList ?_
  cases joins with
  | or two => rw [outline]
  | and two => rw [outline]
  | not included excluded =>
    rw [outline, outlineAll, outlineAll, outlineAll, String.append_empty, String.append_assoc]
  | near left right fits =>
    rw [outline, outlineAll, outlineAll, outlineAll, String.append_empty, String.append_assoc]

/-- What can stand below an outline: nothing, or a line that is no deeper than its first. -/
inductive Below (depth : Nat) : List Char → Prop
  | nothing : Below depth []
  | line {level : Nat} {label rest : List Char} (within : level ≤ depth) (isLabel : IsLabel label) :
    Below depth (line level label ++ rest)

theorem exists_line {condition : Condition} (legible : condition.Legible) (depth : Nat) :
    ∃ label rest, IsLabel label ∧ (outline false depth condition).toList = line depth label ++ rest := by
  cases legible with
  | leaf legible =>
    exact ⟨_, [], isLabel_render legible, (outline_leaf depth _).trans (List.append_nil _).symm⟩
  | joined joins each => exact ⟨_, _, isLabel_separator condition, outline_joined joins depth⟩

theorem below_outlines {conditions : List Condition} (legible : ∀ operand ∈ conditions, operand.Legible)
    {depth : Nat} {rest : List Char} (below : Below depth rest) :
    Below depth (outlines depth conditions ++ rest) := by
  cases conditions with
  | nil => exact below
  | cons condition more =>
    obtain ⟨label, others, isLabel, shape⟩ := exists_line (legible condition List.mem_cons_self) depth
    rw [outlines, List.flatMap_cons, shape, List.append_assoc, List.append_assoc]
    exact .line (Nat.le_refl _) isLabel

theorem Below.deeper {depth : Nat} {rest : List Char} (below : Below depth rest) : Below (depth + 1) rest := by
  cases below with
  | nothing => exact .nothing
  | line within isLabel => exact .line (Nat.le_succ_of_le within) isLabel

/-- No operand starts where something stands that is less deep. -/
theorem not_below_outline {condition : Condition} (legible : condition.Legible) {depth : Nat}
    {rest : List Char} : ¬ Below depth ((outline false (depth + 1) condition).toList ++ rest) := by
  obtain ⟨label, others, isLabel, shape⟩ := exists_line legible (depth + 1)
  rw [shape, List.append_assoc]
  intro below
  generalize whole : line (depth + 1) label ++ (others ++ rest) = text at below
  cases below with
  | nothing => simp [line] at whole
  | line within other =>
    obtain ⟨rfl, -, -⟩ := line_inj isLabel other whole
    omega

/-! ## Decoding -/

/-- The outline of the condition can be read in front of whatever can stand below it. -/
def Decodes (condition : Condition) : Prop :=
  ∀ (other : Condition) (depth : Nat) (rest left : List Char), other.Legible → Below depth rest →
    Below depth left →
    (outline false depth condition).toList ++ rest = (outline false depth other).toList ++ left →
      (condition == other) = true ∧ rest = left

theorem decodes_outlines {conditions others : List Condition} {depth : Nat} {rest left : List Char}
    (legible : ∀ operand ∈ conditions, operand.Legible) (each : ∀ operand ∈ conditions, Decodes operand)
    (legibleOthers : ∀ operand ∈ others, operand.Legible) (below : Below depth rest)
    (belowOther : Below depth left)
    (same : outlines (depth + 1) conditions ++ rest = outlines (depth + 1) others ++ left) :
    List.Forall₂ (fun x y => (x == y) = true) conditions others ∧ rest = left := by
  induction conditions generalizing others with
  | nil =>
    cases others with
    | nil => exact ⟨.nil, same⟩
    | cons other more =>
      rw [outlines, outlines, List.flatMap_nil, List.nil_append, List.flatMap_cons,
        List.append_assoc] at same
      rw [same] at below
      exact absurd below (not_below_outline (legibleOthers other List.mem_cons_self))
  | cons condition conditions ih =>
    obtain ⟨legibleFirst, legibleRest⟩ := List.forall_mem_cons.mp legible
    obtain ⟨decodes, eachRest⟩ := List.forall_mem_cons.mp each
    cases others with
    | nil =>
      rw [outlines, outlines, List.flatMap_nil, List.nil_append, List.flatMap_cons,
        List.append_assoc] at same
      rw [← same] at belowOther
      exact absurd belowOther (not_below_outline legibleFirst)
    | cons other others =>
      obtain ⟨legibleOther, legibleMore⟩ := List.forall_mem_cons.mp legibleOthers
      rw [outlines, outlines, List.flatMap_cons, List.flatMap_cons, List.append_assoc,
        List.append_assoc] at same
      obtain ⟨head, tails⟩ := decodes other (depth + 1) _ _ legibleOther
        (below_outlines legibleRest below.deeper) (below_outlines legibleMore belowOther.deeper) same
      obtain ⟨tail, rests⟩ := ih legibleRest eachRest legibleMore tails
      exact ⟨.cons head tail, rests⟩

theorem decodes {condition : Condition} (legible : condition.Legible) : Decodes condition := by
  induction legible with
  | @leaf pattern legible =>
    intro other depth rest left legibleOther below belowOther same
    rw [outline_leaf] at same
    cases legibleOther with
    | leaf legibleOther =>
      rw [outline_leaf] at same
      obtain ⟨-, renders, rests⟩ := line_inj (isLabel_render legible) (isLabel_render legibleOther) same
      exact ⟨Pattern.beq_of_render_eq legible legibleOther renders, rests⟩
    | joined joins each =>
      rw [outline_joined joins, List.append_assoc] at same
      obtain ⟨-, renders, -⟩ := line_inj (isLabel_render legible) (isLabel_separator other) same
      exact absurd renders (joins.render_ne_separator legible)
  | @joined conditions condition joins each ih =>
    intro other depth rest left legibleOther below belowOther same
    rw [outline_joined joins, List.append_assoc] at same
    cases legibleOther with
    | leaf legibleOther =>
      rw [outline_leaf] at same
      obtain ⟨-, renders, -⟩ := line_inj (isLabel_separator condition) (isLabel_render legibleOther) same
      exact absurd renders.symm (joins.render_ne_separator legibleOther)
    | joined joinsOther eachOther =>
      rw [outline_joined joinsOther, List.append_assoc] at same
      obtain ⟨-, separators, tails⟩ :=
        line_inj (isLabel_separator condition) (isLabel_separator other) same
      obtain ⟨operands, rests⟩ := decodes_outlines each ih eachOther below belowOther tails
      exact ⟨joins.beq_of_separator_eq joinsOther separators operands, rests⟩

/-! ## Main statement -/

/-- What a text says below its first line. -/
def belowFirstLine (text : String) : List Char := (text.toList.dropWhile (· ≠ '\n')).tail

theorem belowFirstLine_treeText {condition : Condition} (legible : condition.Legible) :
    belowFirstLine (treeText condition true false) = '\n' :: (outline false 0 condition).toList := by
  have text : (treeText condition true false).toList =
      condition.render ++ '\n' :: '\n' :: (outline false 0 condition).toList := by
    simp [treeText, Condition.toString]
  have single : ∀ c ∈ condition.render, decide (c ≠ '\n') = true := fun c member =>
    decide_eq_true fun same => legible.newline_not_mem_render (same ▸ member)
  rw [belowFirstLine, text, List.dropWhile_append_of_pos single]
  rfl

/-- Parsed queries with the same outline are equal. -/
theorem beq_of_outline_eq {first second : String} {left right : Condition}
    (parsed : parse first = .ok left) (parsedOther : parse second = .ok right)
    (same : belowFirstLine (treeText left true false) = belowFirstLine (treeText right true false)) :
    (left == right) = true := by
  have legible := Query.legible_of_parse parsed
  have legibleOther := Query.legible_of_parse parsedOther
  rw [belowFirstLine_treeText legible, belowFirstLine_treeText legibleOther] at same
  have ended := congrArg (· ++ []) (List.cons.inj same).2
  exact (decodes legible right 0 [] [] legibleOther .nothing .nothing ended).1

/-- Two spellings of one query, with a phrase that has to be quoted. -/
theorem beq_of_outline_eq_sample : ∃ left right,
    parse "(A or \"b not\") NEAR/2 c*" = .ok left ∧ parse "( a OR \u201Cb  NOT\u201D ) near/02 C*" = .ok right ∧
      (left == right) = true := by
  have outlined : (parse "(A or \"b not\") NEAR/2 c*").toOption.any (fun left =>
      (parse "( a OR \u201Cb  NOT\u201D ) near/02 C*").toOption.any fun right =>
        belowFirstLine (treeText left true false) = belowFirstLine (treeText right true false)) = true := by
    decide +kernel
  obtain ⟨left, parsed, outlined⟩ := (Option.any_eq_true _ _).mp outlined
  obtain ⟨right, parsedOther, same⟩ := (Option.any_eq_true _ _).mp outlined
  have first := Query.eq_ok_of_toOption parsed
  have second := Query.eq_ok_of_toOption parsedOther
  exact ⟨left, right, first, second, beq_of_outline_eq first second (of_decide_eq_true same)⟩

end TextQuery.Report
