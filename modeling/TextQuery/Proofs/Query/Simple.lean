import TextQuery.Proofs.Query.Roundtrip

/-!
# Conditions of simple terms

A term of words in lower case, with wildcards and a few other signs, is read back as it was printed, whatever
its words mean elsewhere. So every condition that is built of such terms has a query text
(`parse_toString_of_simple`).
-/
set_option autoImplicit false

namespace TextQuery.Query

open Text (Word unwords clean squeeze straightQuote)
open Unicode (isWhiteSpace isReserved lower lowerChar)

/-! ## Simple terms -/

/-- A letter in lower case, a digit, or one of six signs. -/
def isSimpleChar (c : Char) : Bool :=
  c.isLower || c.isDigit || ['\'', '/', '.', '*', '?', '+'].contains c

/-- One or more words with one space between neighbours. -/
def SimpleTerm (term : List Char) : Prop :=
  ∃ words : List Word, words ≠ [] ∧ (∀ word ∈ words, word ≠ [] ∧ word.all isSimpleChar = true) ∧
    term = unwords words

theorem toNat_lt_of_isSimpleChar {c : Char} (simple : isSimpleChar c = true) : c.toNat < 123 := by
  rw [isSimpleChar, Bool.or_eq_true, Bool.or_eq_true] at simple
  rcases simple with (letter | digit) | sign
  · have alphanumeric : (c.isUpper || c.isLower || c.isDigit) = true := by
      rw [letter, Bool.or_true, Bool.true_or]
    exact Unicode.toNat_lt_of_isAlphanum alphanumeric
  · have alphanumeric : (c.isAlpha || c.isDigit) = true := by rw [digit, Bool.or_true]
    exact Unicode.toNat_lt_of_isAlphanum alphanumeric
  · have few : ['\'', '/', '.', '*', '?', '+'].all (fun d => d.toNat < 123) = true := by decide
    exact of_decide_eq_true (List.all_eq_true.mp few c (List.contains_iff_mem.mp sign))

/-- A character of words that normalizing leaves as it is, and that means nothing to the parser. -/
structure Ordinary (c : Char) : Prop extends Sound c where
  even : Unicode.isOdd c = false
  unchanged : c ≠ 'Σ' ∧ lowerChar c = [c]
  noMark : isReserved c = false
  noColon : c ≠ ':'
  literal : IsLiteral c

theorem ordinary_of_isSimpleChar {c : Char} (simple : isSimpleChar c = true) : Ordinary c := by
  obtain ⟨solid, inside, noQuote, even, unchanged, noMark, noColon, literal⟩ :=
    Unicode.of_codes_below (P := fun c => isSimpleChar c = true → isWhiteSpace c = false ∧
      isDelimiter c = false ∧ c ≠ '"' ∧ Unicode.isOdd c = false ∧ (c ≠ 'Σ' ∧ lowerChar c = [c]) ∧
        isReserved c = false ∧ c ≠ ':' ∧ IsLiteral c) (by decide) (toNat_lt_of_isSimpleChar simple) simple
  exact ⟨⟨solid, inside, straightQuote_of_even even, noQuote⟩, even, unchanged, noMark, noColon,
    literal⟩

theorem ordinary_of_mem_word {word : Word} (simple : word.all isSimpleChar = true) :
    ∀ c ∈ word, Ordinary c :=
  fun c member => ordinary_of_isSimpleChar (List.all_eq_true.mp simple c member)

namespace SimpleTerm

variable {term : List Char} (simple : SimpleTerm term)

include simple

theorem ordinary_of_mem {c : Char} (member : c ∈ term) : c = ' ' ∨ Ordinary c := by
  obtain ⟨words, -, each, rfl⟩ := simple
  rcases Text.mem_unwords member with space | ⟨word, inList, inWord⟩
  · exact Or.inl space
  · exact Or.inr (ordinary_of_mem_word (each word inList).2 c inWord)

theorem lower_eq : lower term = term := by
  refine Unicode.lower_of_unchanged fun c member => ?_
  rcases simple.ordinary_of_mem member with rfl | ordinary
  · decide
  · exact ordinary.unchanged

/-- Normalizing a simple term changes nothing. -/
theorem normal : lower (clean (squeeze term)) = term := by
  have squeezed : squeeze term = term := by
    obtain ⟨words, -, each, rfl⟩ := simple
    refine Text.squeeze_unwords fun word inList => ⟨(each word inList).1, fun c inWord => ?_⟩
    exact (ordinary_of_mem_word (each word inList).2 c inWord).solid
  have even : ∀ c ∈ term, Unicode.isOdd c = false := by
    intro c member
    rcases simple.ordinary_of_mem member with rfl | ordinary
    · decide
    · exact ordinary.even
  rw [squeezed, clean_of_even even, simple.lower_eq]

/-- Every simple term has a pattern, so it can be a leaf. -/
theorem exists_pattern : ∃ pattern, Pattern.ofTerm? term = some pattern := by
  have literal : ∀ c ∈ term, IsLiteral c := by
    intro c member
    rcases simple.ordinary_of_mem member with rfl | ordinary
    · decide
    · exact ordinary.literal
  obtain ⟨pattern, compiled, -⟩ := exists_pattern_of_literal literal
  exact ⟨pattern, compiled⟩

variable {pattern : Pattern} (compiled : Pattern.ofTerm? term = some pattern)

include compiled

theorem legible : pattern.Legible := by
  have same := simple.lower_eq
  obtain ⟨words, nonempty, each, rfl⟩ := simple
  have ordinary : ∀ word ∈ words, ∀ c ∈ word, Ordinary c := fun word inList =>
    ordinary_of_mem_word (each word inList).2
  refine Pattern.legible_of_sound nonempty (fun word inList => (each word inList).1)
    (fun word inList c inWord => (ordinary word inList c inWord).toSound) (fun word inList => ?_)
    (same.symm ▸ compiled)
  obtain ⟨c, rest, rfl⟩ := List.exists_cons_of_ne_nil (each word inList).1
  exact groupNumber?_cons_eq_none (ordinary _ inList c List.mem_cons_self).noColon rest

theorem shown_eq : pattern.shown = term := by
  have kept : ∀ c ∈ term, Mark.restore c = [c] := by
    intro c member
    rcases simple.ordinary_of_mem member with rfl | ordinary
    · decide
    · exact Pattern.restore_of_noMark ordinary.noMark
  rw [Pattern.shown, Pattern.ofTerm?_term compiled, List.flatMap_congr kept, List.flatMap_singleton']

theorem settled : pattern.Settled := by
  have shown := simple.shown_eq compiled
  have normal := simple.normal
  obtain ⟨words, nonempty, each, rfl⟩ := simple
  refine ⟨?_, ?_⟩
  · rw [shown]
    exact Text.unwords_ne_nil nonempty fun word inList => (each word inList).1
  · rw [shown, normal]

end SimpleTerm

/-! ## Conditions of them -/

/-- A tree of operators over simple terms: two or more operands of OR and AND, two of NOT and NEAR. -/
inductive Condition.Simple : Condition → Prop
  | leaf {term : List Char} {pattern : Pattern} (simple : SimpleTerm term)
      (compiled : Pattern.ofTerm? term = some pattern) : Simple (.leaf pattern)
  | joined {conditions : List Condition} {condition : Condition} (joins : Joins conditions condition)
      (each : ∀ operand ∈ conditions, Simple operand) : Simple condition

theorem Condition.Simple.legible {condition : Condition} (simple : condition.Simple) :
    condition.Legible := by
  induction simple with
  | leaf simple compiled => exact .leaf (simple.legible compiled)
  | joined joins _ ih => exact .joined joins ih

theorem Condition.Simple.settled {condition : Condition} (simple : condition.Simple) :
    ∀ pattern ∈ condition.patterns, pattern.Settled := by
  induction simple with
  | leaf simple compiled =>
    intro pattern member
    rw [List.mem_singleton.mp member]
    exact simple.settled compiled
  | joined joins _ ih =>
    intro pattern member
    rw [joins.patterns_eq] at member
    obtain ⟨operand, inConditions, inOperand⟩ := List.mem_flatMap.mp member
    exact ih operand inConditions pattern inOperand

/-- The printed text of operators over simple terms is parsed to an equal condition, if its length is a
count. -/
theorem parse_toString_of_simple {condition : Condition} (simple : condition.Simple)
    (fits : condition.toString.length ≤ maxCount) :
    ∃ again, parse condition.toString = .ok again ∧ (again == condition) = true := by
  have legible := simple.legible
  have few : condition.operatorCount ≤ maxCount + 1 :=
    Nat.le_trans legible.operatorCount_le (Nat.succ_le_succ fits)
  obtain ⟨again, read, same, -⟩ := legible.exists_reread?_of_settled simple.settled
  refine ⟨again, eq_ok_of_toOption ?_, same⟩
  rw [legible.toOption_parse few, read]

/-- Keywords as terms, a phrase with signs, and the largest distance. -/
theorem parse_toString_of_simple_sample : ∃ condition again : Condition, condition.Simple ∧
    condition.toString = "(\"or\" OR \"near/2\") NEAR/18446744073709551615 \"a* c++\"" ∧
      parse condition.toString = .ok again ∧ (again == condition) = true := by
  have keyword : SimpleTerm "or".toList := ⟨["or".toList], by decide, by decide, rfl⟩
  have near : SimpleTerm "near/2".toList := ⟨["near/2".toList], by decide, by decide, rfl⟩
  have phrase : SimpleTerm "a* c++".toList := ⟨["a*".toList, "c++".toList], by decide, by decide, rfl⟩
  have leaf : ∀ {term : List Char} (_ : SimpleTerm term) (literal : ∀ c ∈ term, IsLiteral c),
      Condition.Simple (.leaf (.ofLiteral term literal)) := fun simple literal =>
    .leaf simple (Pattern.ofTerm?_ofLiteral literal)
  have either : Condition.Simple (.or [.leaf (.ofLiteral "or".toList (by simp [IsLiteral])),
      .leaf (.ofLiteral "near/2".toList (by simp [IsLiteral]))]) := by
    refine .joined (.or (Nat.le_refl 2)) ?_
    exact List.forall_mem_cons.mpr ⟨leaf keyword _, List.forall_mem_singleton.mpr (leaf near _)⟩
  have simple : Condition.Simple (.near (.or [.leaf (.ofLiteral "or".toList (by simp [IsLiteral])),
      .leaf (.ofLiteral "near/2".toList (by simp [IsLiteral]))])
        (.leaf (.ofLiteral "a* c++".toList (by simp [IsLiteral]))) maxCount) := by
    refine .joined (.near _ _ (Nat.le_refl _)) ?_
    exact List.forall_mem_cons.mpr ⟨either, List.forall_mem_singleton.mpr (leaf phrase _)⟩
  obtain ⟨again, read, same⟩ := parse_toString_of_simple simple (by decide +kernel)
  exact ⟨_, again, simple, by decide +kernel, read, same⟩

end TextQuery.Query
