import TextQuery.Proofs.Query.References

/-!
# What parsing gives

All that a level can be is an operand alone or operands that one operator joins (`parseWords_cases`), and
all that a query can be is a text whose groups close one after the other until a level is left
(`ParsesTo`). A property of conditions that terms have, and that every operator preserves, is therefore a
property of every parsed query (`parse_induction`). The words of the terms are those of the query; their
characters pass every test that those of the query pass (`parse_induction_words`).
-/
set_option autoImplicit false

namespace TextQuery.Query

open Text (Word words unwords)

/-- The condition that an operator of a level makes of its operands. -/
inductive Joins : List Condition → Condition → Prop
  | or {conditions : List Condition} (two : 2 ≤ conditions.length) : Joins conditions (.or conditions)
  | and {conditions : List Condition} (two : 2 ≤ conditions.length) :
      Joins conditions (.and conditions)
  | not (included excluded : Condition) : Joins [included, excluded] (.not included excluded)
  | near (left right : Condition) {distance : Nat} (fits : distance ≤ maxCount) :
      Joins [left, right] (.near left right distance)

theorem Joins.operands_eq {conditions : List Condition} {condition : Condition}
    (joins : Joins conditions condition) : condition.operands = conditions := by
  cases joins <;> rfl

/-! ## Operands -/

theorem parseTerm_ok {words : List Word} {condition : Condition}
    (run : parseTerm words = .ok condition) :
    ∃ pattern, Pattern.ofTerm? (Unicode.lower (unwords words)) = some pattern ∧
      condition = .leaf pattern := by
  unfold parseTerm at run
  dsimp only at run
  split at run
  · rename_i pattern compiled
    exact ⟨pattern, compiled, (Except.ok.inj run).symm⟩
  · contradiction

theorem length_splitAtWords (isSeparator : Word → Bool) (words : List Word) :
    (splitAtWords isSeparator words).length = words.countP isSeparator + 1 := by
  induction words with
  | nil => rfl
  | cons word rest ih =>
    rw [splitAtWords_cons]
    split
    · rename_i separates
      rw [List.length_cons, ih, List.countP_cons_of_pos separates]
    · rename_i inside
      rw [List.length_modifyHead, ih, List.countP_cons_of_neg inside]

theorem splitOperands_ok {operator : Operator} {isSeparator : Word → Bool} {words : List Word}
    {operands : List (List Word)}
    (cut : splitOperands operator isSeparator words = .ok operands) :
    operands = splitAtWords isSeparator words ∧ ∀ operand ∈ operands, operand ≠ [] := by
  unfold splitOperands at cut
  dsimp only at cut
  split at cut
  · contradiction
  · rename_i present
    obtain rfl := Except.ok.inj cut
    refine ⟨rfl, fun operand member empty => present ?_⟩
    exact List.any_eq_true.mpr ⟨operand, member, by rw [empty]; rfl⟩

theorem splitOperands_error {operator : Operator} {isSeparator : Word → Bool} {words : List Word}
    {error : QueryError} (cut : splitOperands operator isSeparator words = .error error) :
    error = .emptyOperand operator := by
  unfold splitOperands at cut
  dsimp only at cut
  split at cut
  · exact (Except.error.inj cut).symm
  · contradiction

/-- An operand is a group that is still in the table, or a term without references. -/
theorem parseOperand_ok {groups left : Groups} {words : List Word} {condition : Condition}
    (run : parseOperand groups words = .ok (condition, left)) :
    (∃ word number, words = [word] ∧ groupNumber? word = some number ∧
        groups[number]? = some (some condition) ∧ left = groups.set number none) ∨
      (∀ word ∈ words, groupNumber? word = none) ∧ parseTerm words = .ok condition ∧ left = groups := by
  unfold parseOperand at run
  split at run
  · rename_i number reference
    split at run
    · rename_i result taken
      obtain rfl := Except.ok.inj run
      obtain ⟨word, rfl, reference⟩ := reference?_eq_some reference
      exact Or.inl ⟨word, number, rfl, reference, held_of_takeGroup? taken⟩
    · contradiction
  split at run
  · contradiction
  · rename_i noReference
    split at run
    · rename_i parsed
      obtain ⟨rfl, rfl⟩ := Prod.mk.inj (Except.ok.inj run)
      exact Or.inr ⟨by simpa using noReference, parsed, rfl⟩
    · contradiction

/-- The first operand is parsed before the others, which find the groups that it leaves. -/
theorem parseOperands_cons_ok {groups left : Groups} {operand : List Word} {rest : List (List Word)}
    {conditions : List Condition}
    (run : parseOperands groups (operand :: rest) = .ok (conditions, left)) :
    ∃ condition others between, conditions = condition :: others ∧
      parseOperand groups operand = .ok (condition, between) ∧
      parseOperands between rest = .ok (others, left) := by
  unfold parseOperands at run
  split at run
  · contradiction
  · rename_i condition between first
    split at run
    · contradiction
    · rename_i others final second
      obtain ⟨rfl, rfl⟩ := Prod.mk.inj (Except.ok.inj run)
      exact ⟨condition, others, between, rfl, first, second⟩

theorem length_parseOperands {groups left : Groups} {operands : List (List Word)}
    {conditions : List Condition} (run : parseOperands groups operands = .ok (conditions, left)) :
    conditions.length = operands.length := by
  induction operands generalizing groups conditions with
  | nil =>
    obtain ⟨rfl, -⟩ := Prod.mk.inj (Except.ok.inj run)
    rfl
  | cons operand rest ih =>
    obtain ⟨condition, others, between, rfl, -, later⟩ := parseOperands_cons_ok run
    rw [List.length_cons, List.length_cons, ih later]

theorem parseSplit_ok {groups left : Groups} {operator : Operator} {words : List Word}
    {conditions : List Condition} (present : words.any (isKeyword operator) = true)
    (run : parseSplit groups operator words = .ok (conditions, left)) :
    2 ≤ conditions.length ∧ (∀ operand ∈ splitAtWords (isKeyword operator) words, operand ≠ []) ∧
      parseOperands groups (splitAtWords (isKeyword operator) words) = .ok (conditions, left) := by
  unfold parseSplit at run
  split at run
  · contradiction
  · rename_i operands cut
    obtain ⟨rfl, filled⟩ := splitOperands_ok cut
    refine ⟨?_, filled, run⟩
    obtain ⟨word, member, separates⟩ := List.any_eq_true.mp present
    have positive : 0 < words.countP (isKeyword operator) :=
      List.countP_pos_iff.mpr ⟨word, member, separates⟩
    rw [length_parseOperands run, length_splitAtWords]
    omega

/-! ## Distances -/

theorem nearDistances_le {words : List Word} {distances : List Nat}
    (read : nearDistances words = .ok distances) : ∀ distance ∈ distances, distance ≤ maxCount := by
  induction words generalizing distances with
  | nil =>
    obtain rfl := Except.ok.inj read
    exact fun _ member => absurd member List.not_mem_nil
  | cons word rest ih =>
    unfold nearDistances at read
    split at read
    · contradiction
    · rename_i distance first
      split at read
      · contradiction
      · rename_i second
        obtain rfl := Except.ok.inj read
        exact List.forall_mem_cons.mpr ⟨nearDistance?_le first, ih second⟩

theorem headD_le {distances : List Nat} (small : ∀ distance ∈ distances, distance ≤ maxCount) :
    distances.headD 0 ≤ maxCount := by
  cases distances with
  | nil => exact Nat.zero_le _
  | cons distance rest => exact small distance List.mem_cons_self

theorem parseNear_ok {groups left : Groups} {words : List Word} {condition : Condition}
    (run : parseNear groups words = .ok (condition, left)) :
    ∃ conditions, (∀ operand ∈ splitAtWords isNear words, operand ≠ []) ∧
      parseOperands groups (splitAtWords isNear words) = .ok (conditions, left) ∧
      Joins conditions condition := by
  unfold parseNear at run
  split at run
  · contradiction
  rename_i distances read
  split at run
  · contradiction
  rename_i operands cut
  obtain ⟨rfl, filled⟩ := splitOperands_ok cut
  split at run
  · split at run
    · rename_i parsed
      obtain ⟨rfl, rfl⟩ := Prod.mk.inj (Except.ok.inj run)
      exact ⟨_, filled, parsed, .near _ _ (headD_le (nearDistances_le read))⟩
    · contradiction
    · contradiction
  · contradiction

/-! ## Levels -/

/-- No reference is a separator. -/
def SparesReferences (isSeparator : Word → Bool) : Prop :=
  ∀ word number, groupNumber? word = some number → isSeparator word = false

theorem parseWords_cases {groups left : Groups} {words : List Word} {condition : Condition}
    (run : parseWords groups words = .ok (condition, left)) :
    words ≠ [] ∧ parseOperand groups words = .ok (condition, left) ∨
      ∃ isSeparator conditions, SparesReferences isSeparator ∧
        (∀ operand ∈ splitAtWords isSeparator words, operand ≠ []) ∧
        parseOperands groups (splitAtWords isSeparator words) = .ok (conditions, left) ∧
        Joins conditions condition := by
  have keywords : ∀ operator, SparesReferences (isKeyword operator) := fun operator _ _ reference =>
    isKeyword_of_groupNumber? reference operator
  unfold parseWords at run
  split at run
  · contradiction
  rename_i present
  have nonempty : words ≠ [] := by simpa using present
  split at run
  · rename_i present
    split at run
    · rename_i parsed
      obtain ⟨rfl, rfl⟩ := Prod.mk.inj (Except.ok.inj run)
      obtain ⟨two, filled, operands⟩ := parseSplit_ok present parsed
      exact Or.inr ⟨_, _, keywords .or, filled, operands, .or two⟩
    · contradiction
  split at run
  · rename_i present
    split at run
    · rename_i parsed
      obtain ⟨rfl, rfl⟩ := Prod.mk.inj (Except.ok.inj run)
      obtain ⟨two, filled, operands⟩ := parseSplit_ok present parsed
      exact Or.inr ⟨_, _, keywords .and, filled, operands, .and two⟩
    · contradiction
  split at run
  · rename_i present
    split at run
    · rename_i parsed
      obtain ⟨rfl, rfl⟩ := Prod.mk.inj (Except.ok.inj run)
      obtain ⟨-, filled, operands⟩ := parseSplit_ok present parsed
      exact Or.inr ⟨_, _, keywords .not, filled, operands, .not _ _⟩
    · contradiction
    · contradiction
  split at run
  · obtain ⟨conditions, filled, operands, joins⟩ := parseNear_ok run
    exact Or.inr ⟨_, conditions, fun _ _ => isNear_of_groupNumber?, filled, operands, joins⟩
  · exact Or.inl ⟨nonempty, run⟩

theorem mem_of_mem_splitAtWords {isSeparator : Word → Bool} {words operand : List Word} {word : Word}
    (inWords : operand ∈ splitAtWords isSeparator words) (inOperand : word ∈ operand) :
    word ∈ words := by
  induction words generalizing operand with
  | nil =>
    rw [List.mem_singleton.mp inWords] at inOperand
    contradiction
  | cons first rest ih =>
    rw [splitAtWords_cons] at inWords
    split at inWords
    · rcases List.mem_cons.mp inWords with rfl | later
      · contradiction
      · exact List.mem_cons_of_mem _ (ih later inOperand)
    · obtain ⟨begun, others, shape⟩ := List.exists_cons_of_ne_nil (splitAtWords_ne_nil isSeparator rest)
      rw [shape, List.modifyHead_cons] at inWords
      rw [shape] at ih
      rcases List.mem_cons.mp inWords with rfl | later
      · rcases List.mem_cons.mp inOperand with rfl | inBegun
        · exact List.mem_cons_self
        · exact List.mem_cons_of_mem _ (ih List.mem_cons_self inBegun)
      · exact List.mem_cons_of_mem _ (ih (List.mem_cons_of_mem _ later) inOperand)

/-! ## Whole queries -/

/-- How the rest of a query comes to its condition: a character is passed, or a group closes and its reference
takes its place, until one level is left. -/
inductive ParsesTo (condition : Condition) : Groups → List Char → List Char → Prop
  | level {groups left : Groups} {read : List Char} (flat : '(' ∉ read)
      (run : parseLevel groups read.reverse = .ok (condition, left)) : ParsesTo condition groups read []
  | group {groups left : Groups} {inside outside rest : List Char} {inner : Condition} (flat : '(' ∉ inside)
      (run : parseLevel groups inside.reverse = .ok (inner, left))
      (later : ParsesTo condition (left ++ [some inner])
        ((referenceText left.length).reverse ++ outside) rest) :
      ParsesTo condition groups (inside ++ '(' :: outside) (')' :: rest)
  | letter {groups : Groups} {read rest : List Char} {c : Char} (unclosed : c ≠ ')')
      (later : ParsesTo condition groups (c :: read) rest) : ParsesTo condition groups read (c :: rest)

theorem parsesTo_of_parseFrom {groups : Groups} {read rest : List Char} {condition : Condition}
    (run : parseFrom groups read rest = .ok condition) : ParsesTo condition groups read rest := by
  induction rest generalizing groups read with
  | nil =>
    unfold parseFrom at run
    split at run
    · contradiction
    · rename_i closed
      have flat : '(' ∉ read := fun member => by
        obtain ⟨before, after, cut⟩ := cut?_isSome (List.mem_reverse.mpr member)
        rw [cut] at closed
        contradiction
      cases parsed : parseLevel groups read.reverse with
      | error error => simp [parsed, Except.map] at run
      | ok result =>
        obtain rfl : result.1 = condition := by simpa [parsed, Except.map] using run
        exact .level flat parsed
  | cons c rest ih =>
    unfold parseFrom at run
    split at run
    · rename_i closing
      subst closing
      split at run
      · contradiction
      · rename_i inside outside cut
        obtain ⟨rfl, flat⟩ := cut?_eq_some cut
        split at run
        · contradiction
        · rename_i parsed
          exact .group flat parsed (ih run)
    · rename_i unclosed
      exact .letter unclosed (ih run)

theorem parsesTo_of_parse {query : String} {condition : Condition} (run : parse query = .ok condition) :
    ParsesTo condition [] [] (normalize query.toList) := by
  unfold parse parseChars parseNormalized at run
  split at run
  · contradiction
  · exact parsesTo_of_parseFrom run

/-! ## Properties of parsed conditions -/

/-- All conditions that wait in the table have the property. -/
def AllGroups (property : Condition → Prop) (groups : Groups) : Prop :=
  ∀ condition, some condition ∈ groups → property condition

/-- Words all of whose characters pass. -/
def Passing (test : Char → Prop) (words : List Word) : Prop :=
  ∀ word ∈ words, word ≠ [] ∧ ∀ c ∈ word, test c

/-- Text in which a group may still be open, but none closes. All else of it passes, blanks apart. -/
def PassingText (test : Char → Prop) (text : List Char) : Prop :=
  ∀ c ∈ text, c ≠ ')' ∧ (Unicode.isWhiteSpace c = false → c ≠ '(' → test c)

theorem PassingText.words {test : Char → Prop} {text : List Char} (passing : PassingText test text)
    (flat : '(' ∉ text) : Passing test (words text) := by
  intro word member
  obtain ⟨nonempty, solid, inText⟩ := Text.of_mem_splitWords member
  refine ⟨nonempty, fun c inWord => (passing c (inText c inWord)).2 (solid c inWord) ?_⟩
  rintro rfl
  exact flat (inText _ inWord)

theorem PassingText.reverse {test : Char → Prop} {text : List Char} (passing : PassingText test text) :
    PassingText test text.reverse :=
  fun c member => passing c (List.mem_reverse.mp member)

theorem passingText_referenceText {test : Char → Prop} {number : Nat}
    (reference : ∀ c ∈ referenceWord number, test c) : PassingText test (referenceText number) := by
  have space : ' ' ≠ ')' ∧ (Unicode.isWhiteSpace ' ' = false → ' ' ≠ '(' → test ' ') :=
    ⟨by decide, fun solid => absurd solid (by decide)⟩
  rw [referenceText_eq]
  refine List.forall_mem_cons.mpr ⟨space, List.forall_mem_append.mpr ⟨fun c member => ⟨?_, fun _ _ =>
    reference c member⟩, List.forall_mem_singleton.mpr space⟩⟩
  rintro rfl
  have inside := (of_mem_referenceWord member).2
  contradiction

section Induction

variable {test : Char → Prop} {property : Condition → Prop}
  (term : ∀ words condition, words ≠ [] → (∀ word ∈ words, groupNumber? word = none) →
    Passing test words → parseTerm words = .ok condition → property condition)

include term

theorem property_parseOperand {groups left : Groups} {words : List Word} {condition : Condition}
    (nonempty : words ≠ []) (passing : Passing test words) (all : AllGroups property groups)
    (run : parseOperand groups words = .ok (condition, left)) :
    property condition ∧ AllGroups property left := by
  rcases parseOperand_ok run with ⟨word, number, -, -, held, rfl⟩ | ⟨bare, parsed, rfl⟩
  · refine ⟨all _ (List.mem_of_getElem? held), fun other member => all other ?_⟩
    exact (List.mem_or_eq_of_mem_set member).resolve_right (by simp)
  · exact ⟨term _ _ nonempty bare passing parsed, all⟩

theorem property_parseOperands {groups left : Groups} {operands : List (List Word)}
    {conditions : List Condition}
    (operand : ∀ words ∈ operands, words ≠ [] ∧ Passing test words) (all : AllGroups property groups)
    (run : parseOperands groups operands = .ok (conditions, left)) :
    (∀ condition ∈ conditions, property condition) ∧ AllGroups property left := by
  induction operands generalizing groups conditions with
  | nil =>
    obtain ⟨rfl, rfl⟩ := Prod.mk.inj (Except.ok.inj run)
    exact ⟨fun _ member => absurd member List.not_mem_nil, all⟩
  | cons words rest ih =>
    obtain ⟨⟨nonempty, passing⟩, operands⟩ := List.forall_mem_cons.mp operand
    obtain ⟨condition, others, between, rfl, first, later⟩ := parseOperands_cons_ok run
    obtain ⟨head, allBetween⟩ := property_parseOperand term nonempty passing all first
    obtain ⟨tail, allLeft⟩ := ih operands allBetween later
    exact ⟨List.forall_mem_cons.mpr ⟨head, tail⟩, allLeft⟩

variable (joined : ∀ conditions condition, Joins conditions condition →
  (∀ operand ∈ conditions, property operand) → property condition)

include joined

theorem property_parseWords {groups left : Groups} {words : List Word} {condition : Condition}
    (passing : Passing test words) (all : AllGroups property groups)
    (run : parseWords groups words = .ok (condition, left)) :
    property condition ∧ AllGroups property left := by
  rcases parseWords_cases run with
    ⟨nonempty, alone⟩ | ⟨isSeparator, conditions, -, filled, operands, joins⟩
  · exact property_parseOperand term nonempty passing all alone
  · have operand : ∀ operand ∈ splitAtWords isSeparator words, operand ≠ [] ∧ Passing test operand :=
      fun operand member => ⟨filled operand member, fun word inside =>
        passing word (mem_of_mem_splitAtWords member inside)⟩
    obtain ⟨each, allLeft⟩ := property_parseOperands term operand all operands
    exact ⟨joined _ _ joins each, allLeft⟩

variable (reference : ∀ number, ∀ c ∈ referenceWord number, test c)

include reference

theorem property_of_parsesTo {groups : Groups} {read rest : List Char} {condition : Condition}
    (parses : ParsesTo condition groups read rest) (passing : PassingText test read)
    (unread : ∀ c ∈ rest, Unicode.isWhiteSpace c = false → isDelimiter c = false → test c)
    (all : AllGroups property groups) : property condition := by
  induction parses with
  | level flat run =>
    have words := passing.reverse.words fun member => flat (List.mem_reverse.mp member)
    exact (property_parseWords term joined words all run).1
  | @group groups left inside outside rest inner flat run later ih =>
    have passingInside : PassingText test inside := fun d member =>
      passing d (List.mem_append_left _ member)
    have words := passingInside.reverse.words fun member => flat (List.mem_reverse.mp member)
    obtain ⟨holds, allLeft⟩ := property_parseWords term joined words all run
    refine ih (fun d member => ?_) (List.forall_mem_cons.mp unread).2 (fun other member => ?_)
    · rcases List.mem_append.mp member with new | old
      · exact (passingText_referenceText (reference _)).reverse d new
      · exact passing d (List.mem_append_right _ (List.mem_cons_of_mem _ old))
    · rcases List.mem_append.mp member with known | new
      · exact allLeft other known
      · obtain rfl := Option.some.inj (List.mem_singleton.mp new)
        exact holds
  | @letter groups read rest c unclosed later ih =>
    obtain ⟨first, unreadRest⟩ := List.forall_mem_cons.mp unread
    refine ih (List.forall_mem_cons.mpr ⟨⟨unclosed, fun solid unopened => ?_⟩, passing⟩) unreadRest all
    refine first solid ?_
    have notSpace : c ≠ ' ' := by
      rintro rfl
      contradiction
    simp [isDelimiter, notSpace, unopened, unclosed]

/-- What holds of terms of words, and of a condition when it holds of its operands, holds of every query
whose words have only characters that pass the test. -/
theorem parse_induction_words {query : String} {condition : Condition}
    (passing : ∀ c ∈ normalize query.toList, Unicode.isWhiteSpace c = false → isDelimiter c = false →
      test c)
    (run : parse query = .ok condition) : property condition :=
  property_of_parsesTo term joined reference (parsesTo_of_parse run)
    (fun _ member => absurd member List.not_mem_nil) passing
    (fun _ member => absurd member List.not_mem_nil)

end Induction

/-- What holds of terms, and of a condition when it holds of its operands, holds of every query. -/
theorem parse_induction {property : Condition → Prop}
    (term : ∀ words condition, parseTerm words = .ok condition → property condition)
    (joined : ∀ conditions condition, Joins conditions condition →
      (∀ operand ∈ conditions, property operand) → property condition)
    {query : String} {condition : Condition} (run : parse query = .ok condition) :
    property condition :=
  parse_induction_words (fun words condition _ _ _ => term words condition) joined
    (fun _ _ _ => trivial) (fun _ _ _ _ => trivial) run

end TextQuery.Query
