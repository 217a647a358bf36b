import TextQuery.Proofs.Query.Levels
import TextQuery.Proofs.Regex.Spans
import TextQuery.Query.Evaluation

/-!
# The verdict and the words agree

A condition holds of a text exactly when it covers a word of it, although the two are computed by
different recursions. The exception is an operator AND without operands, which holds and covers nothing;
a parsed query has none. Main statement: `holdsIn_iff_of_parse`.
-/
set_option autoImplicit false

namespace TextQuery.Query

/-! ## Leaves -/

namespace Pattern

theorem wordCount_pos (pattern : Pattern) : 0 < pattern.wordCount :=
  Nat.lt_add_right _ Nat.one_pos

/-- A pattern matches a text exactly when it covers a word of it: its first match covers one. -/
theorem matchesIn_iff (pattern : Pattern) (text : Array Char) :
    pattern.matchesIn text = true ↔ ∃ index, index ∈ pattern.wordIndices text := by
  have search : pattern.matchesIn text = true ↔ (pattern.regex.spans text).firstFrom 0 ≠ none := by
    rw [matchesIn, Regex.matchesIn, Regex.Spans.any_iff, ne_eq, Regex.Spans.firstFrom_eq_none_iff]
    simp
  rw [search, wordIndices, coveredFrom]
  cases (pattern.regex.spans text).firstFrom 0 with
  | none => simp
  | some found =>
    obtain ⟨first, last⟩ := found
    refine ⟨fun _ => ⟨0 + spacesBetween text 0 first, ?_⟩, fun _ => by simp⟩
    refine List.mem_append_left _ (List.mem_range'_1.mpr ⟨Nat.le_refl _, ?_⟩)
    exact Nat.lt_add_of_pos_right pattern.wordCount_pos

end Pattern

/-! ## Proximity -/

/-- The words from a word of the left side to the first word of the right side that is near enough. -/
def Spanned (distance : Nat) (right : IndexSet) (first index : Nat) : Prop :=
  ∃ second, right.toList.find? (within distance first) = some second ∧
    min first second ≤ index ∧ index ≤ max first second

theorem mem_foldl {step : IndexSet → Nat → IndexSet} (adds : Nat → Nat → Prop) {index : Nat}
    (each : ∀ span first, index ∈ step span first ↔ index ∈ span ∨ adds first index)
    (firsts : List Nat) (span : IndexSet) :
    index ∈ firsts.foldl step span ↔ index ∈ span ∨ ∃ first ∈ firsts, adds first index := by
  induction firsts generalizing span with
  | nil => simp
  | cons first rest ih =>
    rw [List.foldl_cons, ih, each, or_assoc]
    simp only [List.mem_cons, exists_eq_or_imp]

theorem mem_nearSpan {distance : Nat} {left right : IndexSet} {index : Nat} :
    index ∈ nearSpan distance left right ↔ ∃ first ∈ left, Spanned distance right first index := by
  rw [nearSpan, mem_foldl (Spanned distance right)]
  · simp [IndexSet.mem_toList]
  · intro span first
    cases found : right.toList.find? (within distance first) with
    | none => simp [Spanned, found]
    | some second =>
      have order : min first second ≤ max first second := by omega
      simp only [Spanned, found, IndexSet.mem_insertAll, List.mem_range'_1, Option.some.injEq,
        exists_eq_left']
      rw [or_comm]
      refine or_congr_right (and_congr_right fun _ => ?_)
      omega

theorem nearPairExists_iff {distance : Nat} {left right : IndexSet} :
    nearPairExists distance left right = true ↔ ∃ index, index ∈ nearSpan distance left right := by
  rw [nearPairExists, List.any_eq_true]
  constructor
  · rintro ⟨first, member, near⟩
    obtain ⟨second, found⟩ := Option.isSome_iff_exists.mp
      ((List.find?_isSome).mpr (List.any_eq_true.mp near))
    exact ⟨first, mem_nearSpan.mpr ⟨first, member, second, found, by omega, by omega⟩⟩
  · rintro ⟨index, covered⟩
    obtain ⟨first, member, second, found, -⟩ := mem_nearSpan.mp covered
    refine ⟨first, member, List.any_eq_true.mpr ⟨second, List.mem_of_find?_eq_some found, ?_⟩⟩
    exact List.find?_some found

/-! ## Operands -/

namespace Condition

theorem someHolds_iff {text : Array Char} {operands : List Condition} :
    someHolds text operands = true ↔ ∃ operand ∈ operands, operand.holdsIn text = true := by
  induction operands with
  | nil => simp [someHolds]
  | cons operand rest ih => simp only [someHolds, Bool.or_eq_true, ih, List.mem_cons, exists_eq_or_imp]

theorem allHold_iff {text : Array Char} {operands : List Condition} :
    allHold text operands = true ↔ ∀ operand ∈ operands, operand.holdsIn text = true := by
  induction operands with
  | nil => simp [allHold]
  | cons operand rest ih => rw [allHold, Bool.and_eq_true, ih, List.forall_mem_cons]

theorem mem_someIndices {text : Array Char} {operands : List Condition} {index : Nat} :
    index ∈ someIndices text operands ↔ ∃ operand ∈ operands, index ∈ operand.wordIndices text := by
  induction operands with
  | nil => simp [someIndices]
  | cons operand rest ih =>
    rw [someIndices, IndexSet.mem_union, ih, or_comm]
    simp only [List.mem_cons, exists_eq_or_imp]

/-- The condition covers some word. -/
def Covers (text : Array Char) (condition : Condition) : Prop :=
  ∃ index, index ∈ condition.wordIndices text

theorem allIndices?_eq_some {text : Array Char} {operands : List Condition}
    (covers : ∀ operand ∈ operands, Covers text operand) :
    ∃ indices, allIndices? text operands = some indices ∧
      ∀ index, index ∈ indices ↔ ∃ operand ∈ operands, index ∈ operand.wordIndices text := by
  induction operands with
  | nil => exact ⟨.empty, rfl, by simp⟩
  | cons operand rest ih =>
    obtain ⟨first, others⟩ := List.forall_mem_cons.mp covers
    obtain ⟨indices, found, members⟩ := ih others
    refine ⟨(operand.wordIndices text).union indices, ?_, fun index => ?_⟩
    · rw [allIndices?, IndexSet.isEmpty_eq_false_iff.mpr first, found]
      rfl
    · rw [IndexSet.mem_union, members, or_comm]
      simp only [List.mem_cons, exists_eq_or_imp]

theorem allIndices?_eq_none {text : Array Char} {operands : List Condition} {operand : Condition}
    (member : operand ∈ operands) (bare : ¬ Covers text operand) :
    allIndices? text operands = none := by
  induction operands with
  | nil => contradiction
  | cons first rest ih =>
    rw [allIndices?]
    split
    · rfl
    · rename_i covers
      rcases List.mem_cons.mp member with rfl | later
      · exact absurd (IndexSet.isEmpty_eq_false_iff.mp (Bool.eq_false_iff.mpr covers)) bare
      · rw [ih later]
        rfl

/-- An operator AND covers the words of all operands, unless one covers none. -/
theorem mem_wordIndices_and {text : Array Char} {operands : List Condition} {index : Nat} :
    index ∈ (Condition.and operands).wordIndices text ↔
      (∀ operand ∈ operands, Covers text operand) ∧
        ∃ operand ∈ operands, index ∈ operand.wordIndices text := by
  rw [wordIndices]
  by_cases covers : ∀ operand ∈ operands, Covers text operand
  · obtain ⟨indices, found, members⟩ := allIndices?_eq_some covers
    rw [found, Option.getD_some, members]
    exact (and_iff_right covers).symm
  · obtain ⟨operand, member, bare⟩ : ∃ operand ∈ operands, ¬ Covers text operand := by
      simpa only [not_forall, exists_prop] using covers
    rw [allIndices?_eq_none member bare]
    simp [covers]

/-! ## Parts of a condition -/

theorem sizeOf_operand_lt {operand condition : Condition} (member : operand ∈ condition.operands) :
    sizeOf operand < sizeOf condition := by
  cases condition with
  | leaf | resolved => contradiction
  | or operands | and operands =>
    have smaller := List.sizeOf_lt_of_mem member
    simp only [or.sizeOf_spec, and.sizeOf_spec]
    exact Nat.lt_of_lt_of_le smaller (Nat.le_add_left _ _)
  | not included excluded =>
    simp only [operands, List.mem_cons, List.not_mem_nil, or_false] at member
    rcases member with rfl | rfl <;> simp only [not.sizeOf_spec] <;> omega
  | near left right distance =>
    simp only [operands, List.mem_cons, List.not_mem_nil, or_false] at member
    rcases member with rfl | rfl <;> simp only [near.sizeOf_spec] <;> omega

/-- Induction on the operands of a condition. -/
theorem operand_induction {motive : Condition → Prop}
    (step : ∀ condition, (∀ operand ∈ condition.operands, motive operand) → motive condition)
    (condition : Condition) : motive condition :=
  step condition fun operand member =>
    have _smaller := sizeOf_operand_lt member
    operand_induction step operand
termination_by sizeOf condition

/-- A condition that is the whole, one of its operands, or a part of one. -/
inductive Part : Condition → Condition → Prop
  | whole (condition : Condition) : Part condition condition
  | operand {part operand condition : Condition} (member : operand ∈ condition.operands)
      (inside : Part part operand) : Part part condition

/-! ## Agreement -/

theorem holdsIn_iff {text : Array Char} (condition : Condition)
    (filled : ∀ operands, Part (.and operands) condition → operands ≠ []) :
    condition.holdsIn text = true ↔ Covers text condition := by
  induction condition using operand_induction with
  | step condition ih =>
    have agree : ∀ operand ∈ condition.operands,
        (operand.holdsIn text = true ↔ Covers text operand) := fun operand member =>
      ih operand member fun operands inside => filled operands (.operand member inside)
    cases condition with
    | leaf pattern =>
      rw [holdsIn, pattern.matchesIn_iff, Covers, wordIndices]
      simp only [IndexSet.mem_ofList]
    | resolved indices =>
      rw [holdsIn, Covers, wordIndices, Bool.not_eq_true', IndexSet.isEmpty_eq_false_iff]
    | or operands =>
      rw [holdsIn, someHolds_iff, Covers, wordIndices]
      constructor
      · rintro ⟨operand, member, holds⟩
        obtain ⟨index, covered⟩ := (agree operand member).mp holds
        exact ⟨index, mem_someIndices.mpr ⟨operand, member, covered⟩⟩
      · rintro ⟨index, covered⟩
        obtain ⟨operand, member, inOperand⟩ := mem_someIndices.mp covered
        exact ⟨operand, member, (agree operand member).mpr ⟨index, inOperand⟩⟩
    | and operands =>
      rw [holdsIn, allHold_iff, Covers]
      constructor
      · intro holds
        have covers : ∀ operand ∈ operands, Covers text operand := fun operand member =>
          (agree operand member).mp (holds operand member)
        obtain ⟨operand, member⟩ := List.exists_mem_of_ne_nil _ (filled operands (.whole _))
        obtain ⟨index, covered⟩ := covers operand member
        exact ⟨index, mem_wordIndices_and.mpr ⟨covers, operand, member, covered⟩⟩
      · rintro ⟨index, covered⟩ operand member
        exact (agree operand member).mpr ((mem_wordIndices_and.mp covered).1 operand member)
    | not included excluded =>
      have first := agree included List.mem_cons_self
      rw [holdsIn, Bool.and_eq_true, Bool.not_eq_true', first, Covers, Covers, wordIndices]
      by_cases holds : excluded.holdsIn text = true
      · simp [holds]
      · rw [if_neg holds]
        simp [holds]
    | near left right distance =>
      rw [holdsIn, nearPairExists_iff, Covers, wordIndices]

/-! ## Parsed queries -/

theorem Part.eq_or_exists {part condition : Condition} (inside : Part part condition) :
    part = condition ∨ ∃ operand ∈ condition.operands, Part part operand := by
  cases inside with
  | whole => exact Or.inl rfl
  | operand member inside => exact Or.inr ⟨_, member, inside⟩

/-- Operators that take all their operands have two at least. -/
def Wide (condition : Condition) : Prop :=
  ∀ operands, Part (.or operands) condition ∨ Part (.and operands) condition → 2 ≤ operands.length

/-- No words are known to match. -/
def Unresolved (condition : Condition) : Prop :=
  ∀ indices, ¬ Part (.resolved indices) condition

theorem wide_of_parse {query : String} {condition : Condition} (run : parse query = .ok condition) :
    Wide condition := by
  refine @parse_induction Wide (fun words condition term => ?_)
    (fun conditions condition joins each => ?_) query condition run
  · obtain ⟨pattern, -, rfl⟩ := parseTerm_ok term
    rintro operands (inside | inside) <;>
      rcases inside.eq_or_exists with same | ⟨operand, member, -⟩ <;> contradiction
  · have below : ∀ operands part, (part = .or operands ∨ part = .and operands) →
        Part part condition → part = condition ∨ 2 ≤ operands.length := by
      intro operands part shape inside
      rcases inside.eq_or_exists with same | ⟨operand, member, deeper⟩
      · exact Or.inl same
      · rw [joins.operands_eq] at member
        rcases shape with rfl | rfl
        · exact Or.inr (each operand member operands (Or.inl deeper))
        · exact Or.inr (each operand member operands (Or.inr deeper))
    rintro operands (inside | inside)
    · rcases below operands _ (Or.inl rfl) inside with rfl | two
      · cases joins with
        | or two => exact two
      · exact two
    · rcases below operands _ (Or.inr rfl) inside with rfl | two
      · cases joins with
        | and two => exact two
      · exact two

theorem unresolved_of_parse {query : String} {condition : Condition}
    (run : parse query = .ok condition) : Unresolved condition := by
  refine @parse_induction Unresolved (fun words condition term => ?_)
    (fun conditions condition joins each => ?_) query condition run
  · obtain ⟨pattern, -, rfl⟩ := parseTerm_ok term
    intro indices inside
    rcases inside.eq_or_exists with same | ⟨operand, member, -⟩ <;> contradiction
  · intro indices inside
    rcases inside.eq_or_exists with rfl | ⟨operand, member, deeper⟩
    · cases joins
    · rw [joins.operands_eq] at member
      exact each operand member indices deeper

/-- The verdict and the words agree for every condition whose operators AND have operands, as all of a
parsed query have. -/
theorem holdsIn_iff_covers :
    (∀ (condition : Condition) (text : Array Char),
        (∀ operands, Part (.and operands) condition → operands ≠ []) →
        (condition.holdsIn text = true ↔ ∃ index, index ∈ condition.wordIndices text)) ∧
      (∀ (distance : Nat) (left right : IndexSet), nearPairExists distance left right = true ↔
        ∃ index, index ∈ nearSpan distance left right) ∧
      ∀ (query : String) (condition : Condition), parse query = .ok condition →
        (∀ operands, Part (.or operands) condition ∨ Part (.and operands) condition →
          2 ≤ operands.length) ∧
        (∀ indices, ¬ Part (.resolved indices) condition) ∧
        ∀ text, condition.holdsIn text = true ↔ ∃ index, index ∈ condition.wordIndices text := by
  refine ⟨fun condition _ filled => holdsIn_iff condition filled,
    fun _ _ _ => nearPairExists_iff, fun query condition run => ?_⟩
  have two := wide_of_parse run
  refine ⟨two, unresolved_of_parse run, fun text => holdsIn_iff condition fun operands inside => ?_⟩
  have atLeast := two operands (Or.inr inside)
  rintro rfl
  contradiction

theorem holdsIn_iff_covers_sample :
    (∃ condition, parse "(a OR b) AND c" = .ok condition ∧
      ∀ text, condition.holdsIn text = true ↔ ∃ index, index ∈ condition.wordIndices text) ∧
    ((Condition.and [.resolved (.ofList [2])]).holdsIn #[] = true ↔
      ∃ index, index ∈ (Condition.and [.resolved (.ofList [2])]).wordIndices #[]) := by
  constructor
  · have parses : (parse "(a OR b) AND c").toOption.isSome = true := by decide +kernel
    cases run : parse "(a OR b) AND c" with
    | error error =>
      rw [run] at parses
      contradiction
    | ok condition => exact ⟨condition, rfl, (holdsIn_iff_covers.2.2 _ condition run).2.2⟩
  · refine holdsIn_iff_covers.1 _ _ fun operands inside => ?_
    rcases inside.eq_or_exists with same | ⟨operand, member, deeper⟩
    · rw [Condition.and.inj same]
      exact List.cons_ne_nil _ _
    · rw [List.mem_singleton.mp member] at deeper
      rcases deeper.eq_or_exists with same | ⟨operand, member, -⟩ <;> contradiction

end Condition

end TextQuery.Query
