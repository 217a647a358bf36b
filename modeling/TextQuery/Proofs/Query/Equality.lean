import TextQuery.Proofs.Query.Evaluation

/-!
# Equal conditions

Conditions are equal if they have the same shape and their leaves have the same expressions. How many words a
term spans can be counted in its expression (`Pattern.count_space_source`), so equal conditions hold of the
same texts and cover the same words of them (`agree_of_beq`).
-/
set_option autoImplicit false

namespace TextQuery.Query

/-! ## Words counted in the expression -/

/-- The spaces of an expression come from the spaces of the term and from its stars, and a star leaves a
star. -/
theorem count_space_expandChar (c : Char) :
    (expandChar c).count ' ' = [c].countP (fun d => d = ' ' || d = Mark.join) + (expandChar c).count '*' := by
  by_cases dot : c = '.'
  · subst dot
    decide
  by_cases plus : c = '+'
  · subst plus
    decide
  by_cases any : c = '?'
  · subst any
    decide
  by_cases star : c = '*'
  · subst star
    decide
  by_cases join : c = Mark.join
  · subst join
    decide
  by_cases opening : c = Mark.opening
  · subst opening
    decide
  by_cases closing : c = Mark.closing
  · subst closing
    decide
  by_cases quote : c = Mark.quote
  · subst quote
    decide
  have itself : expandChar c = [c] := by
    simp [expandChar, dot, plus, any, star, join, opening, closing, quote]
  have noStar : [c].count '*' = 0 := List.count_eq_zero.mpr (by simpa using Ne.symm star)
  rw [itself, noStar, Nat.add_zero, List.count]
  simp [join, List.countP_cons]

theorem count_space_flatMap_expandChar (term : List Char) :
    (term.flatMap expandChar).count ' ' =
      term.countP (fun d => d = ' ' || d = Mark.join) + (term.flatMap expandChar).count '*' := by
  induction term with
  | nil => rfl
  | cons c term ih =>
    have first := count_space_expandChar c
    have split : c :: term = [c] ++ term := rfl
    rw [List.flatMap_cons, List.count_append, List.count_append, ih, split, List.countP_append]
    omega

namespace Pattern

variable {left right : Pattern}

/-- An expression has two spaces around its term, one less than the term has words inside it, and one for each
of its stars. -/
theorem count_space_source (pattern : Pattern) :
    pattern.source.count ' ' = pattern.wordCount + 1 + pattern.source.count '*' := by
  have term := count_space_flatMap_expandChar pattern.term
  have ending : wordEnd.count ' ' = 1 ∧ wordEnd.count '*' = 0 := by decide
  rw [source, expression, List.count_cons_self, List.count_cons_of_ne (by decide), List.count_append,
    List.count_append, ending.1, ending.2, wordCount]
  omega

/-- Terms with the same expression span equally many words. -/
theorem wordCount_eq_of_source_eq (same : left.source = right.source) :
    left.wordCount = right.wordCount := by
  have first := left.count_space_source
  have second := right.count_space_source
  rw [same] at first
  omega

theorem regex_eq_of_source_eq (same : left.source = right.source) : left.regex = right.regex := by
  have first := left.compiled
  have second := right.compiled
  rw [source, source] at same
  rw [same, second] at first
  exact (Option.some.inj first).symm

theorem beq_iff : (left == right) = true ↔ left.source = right.source :=
  beq_iff_eq (a := left.source)

end Pattern

/-! ## Answers -/

namespace Condition

theorem beqAll_iff {left right : List Condition} :
    beqAll left right = true ↔ List.Forall₂ (fun x y => (x == y) = true) left right := by
  induction left generalizing right with
  | nil =>
    cases right with
    | nil => exact ⟨fun _ => .nil, fun _ => rfl⟩
    | cons y others =>
      constructor
      · intro same
        contradiction
      · intro each
        cases each
  | cons x rest ih =>
    cases right with
    | nil =>
      constructor
      · intro same
        contradiction
      · intro each
        cases each
    | cons y others =>
      rw [beqAll, Bool.and_eq_true, ih, List.forall₂_cons]
      rfl

/-- Both conditions hold of the text or neither does, and they cover the same words of it. -/
structure SameAnswers (text : Array Char) (left right : Condition) : Prop where
  holds : left.holdsIn text = right.holdsIn text
  words : left.wordIndices text = right.wordIndices text

namespace SameAnswers

variable {text : Array Char} {before after : List Condition} {first first' second second' : Condition}

theorem leaf {left right : Pattern} (same : left.source = right.source) :
    SameAnswers text (.leaf left) (.leaf right) where
  holds := by
    rw [holdsIn, holdsIn, Pattern.matchesIn, Pattern.matchesIn, Pattern.regex_eq_of_source_eq same]
  words := by
    rw [wordIndices, wordIndices, Pattern.wordIndices, Pattern.wordIndices,
      Pattern.regex_eq_of_source_eq same, Pattern.wordCount_eq_of_source_eq same]

theorem or (each : List.Forall₂ (SameAnswers text) before after) :
    SameAnswers text (.or before) (.or after) := by
  constructor
  · simp only [holdsIn]
    induction each with
    | nil => rfl
    | cons head _ ih => simp only [someHolds, head.holds, ih]
  · simp only [wordIndices]
    induction each with
    | nil => rfl
    | cons head _ ih => simp only [someIndices, head.words, ih]

theorem and (each : List.Forall₂ (SameAnswers text) before after) :
    SameAnswers text (.and before) (.and after) := by
  constructor
  · simp only [holdsIn]
    induction each with
    | nil => rfl
    | cons head _ ih => simp only [allHold, head.holds, ih]
  · have indices : allIndices? text before = allIndices? text after := by
      induction each with
      | nil => rfl
      | cons head _ ih => simp only [allIndices?, head.words, ih]
    simp only [wordIndices, indices]

theorem not (included : SameAnswers text first first') (excluded : SameAnswers text second second') :
    SameAnswers text (.not first second) (.not first' second') := by
  constructor
  · simp only [holdsIn, included.holds, excluded.holds]
  · simp only [wordIndices, included.words, excluded.holds]

theorem near (left : SameAnswers text first first') (right : SameAnswers text second second')
    (distance : Nat) :
    SameAnswers text (.near first second distance) (.near first' second' distance) := by
  constructor
  · simp only [holdsIn, left.words, right.words]
  · simp only [wordIndices, left.words, right.words]

end SameAnswers

/-- Equal conditions give the same answers, whatever the text. -/
theorem sameAnswers_of_beq (text : Array Char) {left right : Condition} (same : (left == right) = true) :
    SameAnswers text left right := by
  induction left using operand_induction generalizing right with
  | step left ih =>
    have listed : ∀ {xs ys : List Condition}, (∀ x ∈ xs, x ∈ left.operands) → beqAll xs ys = true →
        List.Forall₂ (SameAnswers text) xs ys := by
      intro xs ys within equal
      have each := beqAll_iff.mp equal
      clear equal
      induction each with
      | nil => exact .nil
      | cons head _ tail =>
        obtain ⟨first, others⟩ := List.forall_mem_cons.mp within
        exact .cons (ih _ first head) (tail others)
    cases left <;> cases right <;> try contradiction
    case leaf.leaf p q => exact .leaf (Pattern.beq_iff.mp same)
    case or.or xs ys => exact .or (listed (fun _ member => member) same)
    case and.and xs ys => exact .and (listed (fun _ member => member) same)
    case not.not a b c d =>
      obtain ⟨included, excluded⟩ := (Bool.and_eq_true _ _).mp same
      exact .not (ih a List.mem_cons_self included) (ih b (by simp [operands]) excluded)
    case near.near a b m c d n =>
      obtain ⟨both, distance⟩ := (Bool.and_eq_true _ _).mp same
      obtain ⟨first, second⟩ := (Bool.and_eq_true _ _).mp both
      rw [beq_iff_eq.mp distance]
      exact .near (ih a List.mem_cons_self first) (ih b (by simp [operands]) second) n
    case resolved.resolved s t =>
      have equal : s = t := beq_iff_eq.mp same
      rw [equal]
      exact ⟨rfl, rfl⟩

/-- Equal conditions hold of the same texts and cover the same words. In particular, terms with the same
expression span equally many words. -/
theorem agree_of_beq :
    (∀ left right : Condition, (left == right) = true → ∀ text : Array Char,
      left.holdsIn text = right.holdsIn text ∧ left.wordIndices text = right.wordIndices text) ∧
    ∀ left right : Pattern, left.source = right.source → left.wordCount = right.wordCount := by
  constructor
  · intro left right same text
    have answers := sameAnswers_of_beq text same
    exact ⟨answers.holds, answers.words⟩
  · intro left right same
    exact Pattern.wordCount_eq_of_source_eq same

/-- Two terms of two words that are spelled differently, in conditions that are equal. -/
theorem agree_of_beq_sample : ∃ first second : Pattern,
    Pattern.ofTerm? "[?] b*".toList = some first ∧ Pattern.ofTerm? ".\uE000b*".toList = some second ∧
    first.wordCount = second.wordCount ∧
    (Condition.near (.leaf first) (.leaf second) 1 == .near (.leaf second) (.leaf first) 1) = true ∧
    ∀ text : Array Char,
      (Condition.near (.leaf first) (.leaf second) 1).holdsIn text =
          (Condition.near (.leaf second) (.leaf first) 1).holdsIn text ∧
        (Condition.near (.leaf first) (.leaf second) 1).wordIndices text =
          (Condition.near (.leaf second) (.leaf first) 1).wordIndices text := by
  have compiles : (Pattern.ofTerm? "[?] b*".toList).any (fun first =>
      (Pattern.ofTerm? ".\uE000b*".toList).any fun second =>
        decide (first.source = second.source)) = true := by
    decide +kernel
  obtain ⟨first, compiledFirst, compiles⟩ := (Option.any_eq_true _ _).mp compiles
  obtain ⟨second, compiledSecond, same⟩ := (Option.any_eq_true _ _).mp compiles
  have sources : first.source = second.source := of_decide_eq_true same
  have equal : (Condition.near (.leaf first) (.leaf second) 1 ==
      .near (.leaf second) (.leaf first) 1) = true := by
    have forth := Pattern.beq_iff.mpr sources
    have back := Pattern.beq_iff.mpr sources.symm
    exact (Bool.and_eq_true _ _).mpr ⟨(Bool.and_eq_true _ _).mpr ⟨forth, back⟩, beq_self_eq_true 1⟩
  exact ⟨first, second, compiledFirst, compiledSecond, agree_of_beq.2 first second sources, equal,
    agree_of_beq.1 _ _ equal⟩

end Condition

end TextQuery.Query
