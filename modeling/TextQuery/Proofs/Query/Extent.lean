import TextQuery.Proofs.Query.Boundaries
import TextQuery.Proofs.Query.Partners
import TextQuery.Proofs.Query.Scan

/-!
# Where the covered words lie

A match covers as many words as its term has, from the one that the spaces before it count, whether or not
there are so many. It covers only words that there are if it keeps the spaces of its term, that is, if it has
before its last character at least as many spaces as the term has words (`Pattern.Keeps`). What all leaves of
a condition keep to, the condition keeps to (`KeptByOperators.wordIndices`).
-/
set_option autoImplicit false

namespace TextQuery.Query

open Text (Word Solid spaced)

/-! ## Words of a match -/

def spacesBefore (text : Array Char) (position : Nat) : Nat := (text.toList.take position).count ' '

/-- The words that a match covers. -/
def CoveredAt (text : Array Char) (wordCount start index : Nat) : Prop :=
  spacesBefore text start ≤ index ∧ index < spacesBefore text start + wordCount

/-- The number of spaces that the search carries is that of all spaces before the match. -/
theorem coveredFrom_of_firstFrom {spans : Regex.Spans} {text : Array Char} {wordCount counted start : Nat}
    (order : counted ≤ start) {first last : Nat} (found : spans.firstFrom start = some (first, last)) :
    coveredFrom spans text wordCount counted (spacesBefore text counted) start =
      List.range' (spacesBefore text first) wordCount ++
        if start < resumeAt text first last ∧ resumeAt text first last < text.size then
          coveredFrom spans text wordCount first (spacesBefore text first) (resumeAt text first last)
        else [] := by
  have behind := (Regex.Spans.mem_of_firstFrom found).1
  have spaces : spacesBefore text counted + spacesBetween text counted first = spacesBefore text first :=
    count_take_add_spacesBetween text (Nat.le_trans order behind)
  rw [coveredFrom, found]
  dsimp only
  rw [spaces]

/-- Every word that the search covers is covered by a match, together with all words of that match. -/
theorem exists_of_mem_coveredFrom {spans : Regex.Spans} {text : Array Char}
    (inside : Regex.Spans.Within text.size spans) {wordCount counted start index : Nat}
    (order : counted ≤ start)
    (covered : index ∈ coveredFrom spans text wordCount counted (spacesBefore text counted) start) :
    ∃ first, ∃ last ∈ spans.ends first, CoveredAt text wordCount first index ∧
      ∀ other, CoveredAt text wordCount first other →
        other ∈ coveredFrom spans text wordCount counted (spacesBefore text counted) start := by
  -- The search goes on at a later place, so the length of the rest decreases.
  induction rest : text.size - start using Nat.strongRecOn generalizing counted start with
  | ind rest ih =>
    subst rest
    cases found : spans.firstFrom start with
    | none =>
      rw [coveredFrom, found] at covered
      contradiction
    | some result =>
      obtain ⟨first, last⟩ := result
      obtain ⟨behind, isMatch⟩ := Regex.Spans.mem_of_firstFrom found
      rw [coveredFrom_of_firstFrom order found] at covered ⊢
      rcases List.mem_append.mp covered with here | later
      · refine ⟨first, last, isMatch, List.mem_range'_1.mp here, ?_⟩
        intro other inMatch
        exact List.mem_append_left _ (List.mem_range'_1.mpr inMatch)
      · split at later
        · rename_i advance
          have ahead : first ≤ resumeAt text first last := by
            have bounds := inside.2 first last isMatch
            unfold resumeAt
            split <;> omega
          obtain ⟨next, stop, isNext, inNext, all⟩ := ih _ (by omega) ahead later rfl
          rw [if_pos advance]
          refine ⟨next, stop, isNext, inNext, fun other inMatch => ?_⟩
          exact List.mem_append_right _ (all other inMatch)
        · contradiction

namespace Pattern

variable {pattern : Pattern} {text : Array Char} {start stop count index : Nat}

theorem exists_of_mem_wordIndices (covered : index ∈ pattern.wordIndices text) :
    ∃ start, ∃ stop ∈ (pattern.regex.spans text).ends start,
      CoveredAt text pattern.wordCount start index ∧
        ∀ other, CoveredAt text pattern.wordCount start other → other ∈ pattern.wordIndices text :=
  exists_of_mem_coveredFrom (Regex.within_spans text pattern.regex) (Nat.le_refl 0) covered

/-! ## Spaces of a match -/

/-- Every match has so many spaces at least before its last character. -/
def Keeps (pattern : Pattern) (count : Nat) (text : Array Char) : Prop :=
  ∀ start, ∀ stop ∈ (pattern.regex.spans text).ends start, count ≤ spacesBetween text start (stop - 1)

/-- The spaces before a match and those that it keeps stand before the space that ends the text. -/
theorem Keeps.spacesBefore_add_le (keeps : pattern.Keeps count text) (positive : 0 < count)
    {body : List Char} (shape : text.toList = body ++ [' '])
    (isMatch : stop ∈ (pattern.regex.spans text).ends start) :
    spacesBefore text start + count ≤ body.count ' ' := by
  have kept := keeps start stop isMatch
  have order : start ≤ stop - 1 := by
    refine Nat.le_of_not_lt fun beyond => ?_
    have none : spacesBetween text start (stop - 1) = 0 := by
      rw [spacesBetween_eq, Nat.sub_eq_zero_of_le (Nat.le_of_lt beyond), List.take_zero, List.count_nil]
    omega
  have spaces := count_take_add_spacesBetween text order
  have bound := (Regex.within_spans text pattern.regex).2 start stop isMatch
  have size : text.size = body.length + 1 := by
    rw [← Array.length_toList, shape, List.length_append, List.length_singleton]
  have front : text.toList.take (stop - 1) = body.take (stop - 1) := by
    rw [shape, List.take_append_of_le_length (by omega)]
  have fewer : (body.take (stop - 1)).count ' ' ≤ body.count ' ' := (List.take_sublist _ _).count_le _
  rw [front] at spaces
  unfold spacesBefore
  omega

/-- A match that keeps the spaces of its term covers only words that there are. -/
theorem Keeps.index_lt (keeps : pattern.Keeps pattern.wordCount text) {body : List Char}
    (shape : text.toList = body ++ [' ']) (covered : index ∈ pattern.wordIndices text) :
    index < body.count ' ' := by
  obtain ⟨start, stop, isMatch, ⟨-, below⟩, -⟩ := exists_of_mem_wordIndices covered
  have bound := keeps.spacesBefore_add_le pattern.wordCount_pos shape isMatch
  omega

/-- A match with a space before its last character covers the last word, if it covers one that there is not. -/
theorem Keeps.mem_last (keeps : pattern.Keeps 1 text) {body : List Char}
    (shape : text.toList = body ++ [' ']) (covered : index ∈ pattern.wordIndices text)
    (beyond : body.count ' ' ≤ index) : body.count ' ' - 1 ∈ pattern.wordIndices text := by
  obtain ⟨start, stop, isMatch, ⟨-, below⟩, all⟩ := exists_of_mem_wordIndices covered
  have bound := keeps.spacesBefore_add_le Nat.one_pos shape isMatch
  exact all _ ⟨by omega, by omega⟩

theorem le_count_splits {term : List Char} {text : List Char} (splits : Splits term text) :
    (term.countP fun c => c = ' ' || c = Mark.join) ≤ text.count ' ' := by
  induction term generalizing text with
  | nil => exact Nat.zero_le _
  | cons c term ih =>
    obtain ⟨first, rest, rfl, accepts, splits⟩ := splits
    have later := ih splits
    rw [List.count_append, List.countP_cons]
    by_cases any : c = '?'
    · have noJoin : (c = ' ' || c = Mark.join) = false := by
        rw [any]
        decide
      rw [noJoin, if_neg Bool.false_ne_true]
      omega
    · rw [count_accepts any accepts]
      omega

/-- A term of literal characters keeps its spaces in every text. -/
theorem keeps_of_literal (literal : ∀ c ∈ pattern.term, IsLiteral c) (text : Array Char) :
    pattern.Keeps pattern.wordCount text := by
  intro start stop isMatch
  obtain ⟨middle, c, rest, shape, splits, -, rfl⟩ := (Pattern.mem_spans literal).mp isMatch
  have enough := le_count_splits splits
  have length : start + middle.length + 2 - 1 - start = middle.length + 1 := by omega
  have inner : (text.toList.drop start).take (middle.length + 1) = ' ' :: middle := by
    rw [shape, List.take_succ_cons, List.take_left]
  rw [spacesBetween_eq, length, inner, List.count_cons_self, wordCount]
  omega

/-- A term that is an expression on its own and is not divided has a space at the start of every match. -/
theorem keeps_one_of_undivided {inner : Regex}
    (standsAlone : Regex.parse? (bareExpression pattern.term) = some inner)
    (undivided : ¬Divided pattern.term) (text : Array Char) : pattern.Keeps 1 text := by
  intro start stop isMatch
  obtain ⟨last, grafted, graft, rfl, spaced, whole⟩ := exists_grafted standsAlone
  rw [Option.some.inj (pattern.compiled.symm.trans whole)] at isMatch
  cases graft with
  | whole items =>
    obtain ⟨space, final, member, -, rfl⟩ := mem_spans_between.mp isMatch
    have after := (Regex.within_spans text _).2 (start + 1) final member
    obtain ⟨rest, shape⟩ := getElem?_eq_some_iff_drop.mp space
    obtain ⟨length, size⟩ : ∃ length, final + 1 - 1 - start = length + 1 :=
      ⟨final - start - 1, by omega⟩
    rw [spacesBetween_eq, size, shape, List.take_succ_cons, List.count_cons_self]
    omega
  | divided first later items =>
    exact absurd ⟨_, _, spaced.trans (congrArg some (close_divided _ _ _))⟩ undivided

end Pattern

/-! ## Words of a condition -/

/-- A property of sets of words that every operator keeps: the sets that are made of parts with the property
have it, and so has what a proximity covers of two sides with the property. -/
structure KeptByOperators (property : IndexSet → Prop) : Prop where
  made : ∀ set : IndexSet, (∀ index ∈ set, ∃ part : IndexSet, property part ∧ index ∈ part ∧
    ∀ other ∈ part, other ∈ set) → property set
  near : ∀ distance left right, property left → property right → property (nearSpan distance left right)

namespace Condition

theorem mem_patterns {operand condition : Condition} (member : operand ∈ condition.operands)
    {pattern : Pattern} (inOperand : pattern ∈ operand.patterns) : pattern ∈ condition.patterns := by
  cases condition with
  | leaf | resolved => contradiction
  | or operands | and operands =>
    rw [patterns, patternsOf_eq]
    exact List.mem_flatMap.mpr ⟨operand, member, inOperand⟩
  | not first second | near first second =>
    simp only [operands, List.mem_cons, List.not_mem_nil, or_false] at member
    rw [patterns, List.mem_append]
    rcases member with rfl | rfl
    · exact Or.inl inOperand
    · exact Or.inr inOperand

end Condition

/-- What holds of the words of every leaf holds of the words of the condition. -/
theorem KeptByOperators.wordIndices {property : IndexSet → Prop} (kept : KeptByOperators property)
    {text : Array Char} {condition : Condition} (unresolved : condition.Unresolved)
    (leaves : ∀ pattern ∈ condition.patterns, property (.ofList (pattern.wordIndices text))) :
    property (condition.wordIndices text) := by
  induction condition using Condition.operand_induction with
  | step condition ih =>
    have each : ∀ operand ∈ condition.operands, property (operand.wordIndices text) := by
      intro operand member
      refine ih operand member (fun indices inside => unresolved indices (.operand member inside)) ?_
      intro pattern inOperand
      exact leaves pattern (Condition.mem_patterns member inOperand)
    cases condition with
    | leaf pattern =>
      rw [Condition.wordIndices]
      exact leaves pattern (by simp [Condition.patterns])
    | resolved indices => exact absurd (.whole _) (unresolved indices)
    | or operands =>
      refine kept.made _ fun index covered => ?_
      rw [Condition.wordIndices, Condition.mem_someIndices] at covered
      obtain ⟨operand, member, inOperand⟩ := covered
      refine ⟨_, each operand member, inOperand, fun other inPart => ?_⟩
      rw [Condition.wordIndices, Condition.mem_someIndices]
      exact ⟨operand, member, inPart⟩
    | and operands =>
      refine kept.made _ fun index covered => ?_
      obtain ⟨covers, operand, member, inOperand⟩ := Condition.mem_wordIndices_and.mp covered
      refine ⟨_, each operand member, inOperand, fun other inPart => ?_⟩
      exact Condition.mem_wordIndices_and.mpr ⟨covers, operand, member, inPart⟩
    | not included excluded =>
      rw [Condition.wordIndices]
      split
      · exact kept.made _ fun index inEmpty => absurd inEmpty (IndexSet.not_mem_empty index)
      · exact each included List.mem_cons_self
    | near left right distance =>
      rw [Condition.wordIndices]
      exact kept.near distance _ _ (each left List.mem_cons_self)
        (each right (List.mem_cons_of_mem _ List.mem_cons_self))

/-- A bound is kept. -/
theorem kept_below (bound : Nat) : KeptByOperators fun set => ∀ index ∈ set, index < bound where
  made := by
    intro set parts index member
    obtain ⟨part, below, inPart, -⟩ := parts index member
    exact below index inPart
  near := by
    intro distance left right leftBelow rightBelow index covered
    obtain ⟨i, inLeft, j, found, between⟩ := mem_nearSpan_iff.mp covered
    have first := leftBelow i inLeft
    have second := rightBelow j (firstPartner?_mem found).1
    omega

/-- So is it that no word behind some word is covered without that one. -/
theorem kept_through (last : Nat) :
    KeptByOperators fun set => ∀ index ∈ set, last < index → last ∈ set where
  made := by
    intro set parts index member beyond
    obtain ⟨part, through, inPart, all⟩ := parts index member
    exact all last (through index inPart beyond)
  near := by
    intro distance left right leftThrough rightThrough index covered beyond
    obtain ⟨i, inLeft, j, found, between⟩ := mem_nearSpan_iff.mp covered
    by_cases starts : min i j ≤ last
    · exact mem_nearSpan_iff.mpr ⟨i, inLeft, j, found, starts, by omega⟩
    · -- Both ends lie behind the last word, so it is in both sides and a partner of itself.
      have inRight := rightThrough j (firstPartner?_mem found).1 (by omega)
      have self : within distance last last = true := by simp [within]
      obtain ⟨first, own, le⟩ := exists_firstPartner? inRight self
      exact mem_nearSpan_iff.mpr ⟨last, leftThrough i inLeft (by omega), first, own, by omega, by omega⟩

end TextQuery.Query
