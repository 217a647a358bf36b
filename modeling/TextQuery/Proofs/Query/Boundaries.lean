import TextQuery.Proofs.Query.Wildcards
import TextQuery.Proofs.Regex.Context

/-!
# Where the matches of a term lie

The expression of a term is written without a group around the term, so its space and the class behind it
belong to what they stand next to. A term that is an expression on its own is found between a space and
a character that may follow a word unless it has alternatives outside groups: then the space belongs to
the first one alone, and the class to the last (`Pattern.mem_spans_iff`).
-/
set_option autoImplicit false

namespace TextQuery.Query

open Regex (spans Level)

/-- What the characters of a term become, without the space and the class around them. -/
def bareExpression (term : List Char) : List Char := term.flatMap expandChar

/-- The space before the term belongs to the first of several alternatives. -/
def Divided (term : List Char) : Prop :=
  ∃ first others, Regex.parse? (' ' :: bareExpression term) = some (.alt first others)

instance (term : List Char) : Decidable (Divided term) :=
  match parsed : Regex.parse? (' ' :: bareExpression term) with
  | some (.alt first others) => .isTrue ⟨first, others, parsed⟩
  | none | some .empty | some (.set _) | some (.anchor _) | some (.seq _ _) | some (.repeat _ _ _) =>
    .isFalse fun ⟨_, _, divides⟩ => nomatch parsed.symm.trans divides

/-- A character that may follow a word. -/
def EndsWord (text : Array Char) (position : Nat) : Prop := ∃ c ∈ closers, text[position]? = some c

section Guards

variable {text : Array Char} {start stop : Nat} {alternatives items : List Regex}

theorem mem_spans_behindSpace :
    stop ∈ (spans text (⟨alternatives, items ++ [Regex.char ' ']⟩ : Level).sequence).ends start ↔
      text[start]? = some ' ' ∧
        stop ∈ (spans text (⟨alternatives, items⟩ : Level).sequence).ends (start + 1) := by
  rw [Regex.mem_spans_sequence_append]
  constructor
  · rintro ⟨between, space, member⟩
    obtain ⟨found, rfl⟩ := mem_spans_char.mp space
    exact ⟨found, member⟩
  · rintro ⟨found, member⟩
    exact ⟨start + 1, mem_spans_char.mpr ⟨found, rfl⟩, member⟩

theorem mem_spans_beforeEnd :
    stop ∈ (spans text (⟨alternatives, endClass :: items⟩ : Level).sequence).ends start ↔
      ∃ last ∈ (spans text (⟨alternatives, items⟩ : Level).sequence).ends start,
        EndsWord text last ∧ stop = last + 1 := by
  rw [← List.singleton_append, Regex.mem_spans_sequence_append]
  refine exists_congr fun last => and_congr_right fun _ => ?_
  have single : (⟨alternatives, [endClass]⟩ : Level).sequence = endClass := rfl
  rw [single, endClass, Regex.mem_spans_set]
  constructor
  · rintro ⟨c, found, contained, rfl⟩
    exact ⟨⟨c, contains_bracket.mp contained, found⟩, rfl⟩
  · rintro ⟨⟨c, closes, found⟩, rfl⟩
    exact ⟨c, found, contains_bracket.mpr closes, rfl⟩

/-- Items that are not divided stand between a space and the end of a word. -/
theorem mem_spans_between :
    stop ∈ (spans text ((⟨[], items ++ [Regex.char ' ']⟩ : Level).push endClass).close).ends start ↔
      text[start]? = some ' ' ∧
        ∃ last ∈ (spans text (⟨[], items⟩ : Level).close).ends (start + 1),
          EndsWord text last ∧ stop = last + 1 := by
  have sequence_eq : ((⟨[], items ++ [Regex.char ' ']⟩ : Level).push endClass).close =
      (⟨[], endClass :: (items ++ [Regex.char ' '])⟩ : Level).sequence := rfl
  rw [sequence_eq, mem_spans_beforeEnd]
  simp only [mem_spans_behindSpace, and_assoc, exists_and_left]
  rfl

/-- Of divided items the first ones stand behind a space, and the last ones before the end of a word. -/
theorem mem_spans_divided {later first : List Regex} :
    stop ∈ (spans text ((⟨later ++ [(⟨[], first ++ [Regex.char ' ']⟩ : Level).sequence], items⟩ :
        Level).push endClass).close).ends start ↔
      (text[start]? = some ' ' ∧
        stop ∈ (spans text (⟨[], first⟩ : Level).sequence).ends (start + 1)) ∨
      (∃ part ∈ later.reverse, stop ∈ (spans text part).ends start) ∨
      ∃ last ∈ (spans text (⟨[], items⟩ : Level).sequence).ends start,
        EndsWord text last ∧ stop = last + 1 := by
  rw [Regex.mem_spans_close, Level.push]
  simp only [List.mem_append, List.mem_singleton, or_and_right, exists_or, exists_eq_left,
    mem_spans_behindSpace, mem_spans_beforeEnd, List.mem_reverse]
  rw [or_assoc, or_left_comm]
  exact Iff.rfl

end Guards

/-- A term that is an expression on its own becomes the items of that expression between a space and the
class of the characters that may follow a word. -/
theorem exists_grafted {term : List Char} {inner : Regex}
    (standsAlone : Regex.parse? (bareExpression term) = some inner) :
    ∃ last grafted, Regex.Grafted [Regex.char ' '] last grafted ∧ last.close = inner ∧
      Regex.parse? (' ' :: bareExpression term) = some grafted.close ∧
      Regex.parse? (expression term) = some (grafted.push endClass).close := by
  have start : Regex.GraftedAll [Regex.char ' '] [Level.start] [⟨[], [Regex.char ' ']⟩] :=
    .outermost (.whole [])
  obtain ⟨last, grafted, graft, closes, goesOn⟩ := Regex.parseLevel?_graft standsAlone start
  have spaced : ∀ more : List Char, more.head? ≠ some '\x7b' →
      Regex.parse? (' ' :: (bareExpression term ++ more)) = Regex.parseLevel? [] grafted more :=
    fun more noBrace => (Regex.parseLevel?_char (by decide) _).trans (goesOn more noBrace)
  refine ⟨last, grafted, graft, closes, ?_, ?_⟩
  · have alone := spaced [] (by simp)
    rw [List.append_nil, Regex.parseLevel?.eq_def] at alone
    exact alone
  · exact (spaced wordEnd (by decide)).trans (parseLevel?_wordEnd grafted)

/-- Items behind a space are no alternatives. -/
theorem sequence_behindSpace_ne {alternatives items : List Regex} (first others : Regex) :
    (⟨alternatives, items ++ [Regex.char ' ']⟩ : Level).sequence ≠ .alt first others := by
  intro same
  cases items with
  | nil => contradiction
  | cons last before =>
    rw [List.cons_append, Level.sequence] at same
    dsimp only at same
    rw [List.foldl_append] at same
    contradiction

/-- The first alternative comes first. -/
theorem close_divided (later items : List Regex) (first : Regex) :
    (⟨later ++ [first], items⟩ : Level).close =
      .alt first (later.reverse.foldr .alt (⟨[], items⟩ : Level).sequence) := by
  rw [Level.close]
  dsimp only
  rw [List.foldl_append, List.foldr_reverse]
  rfl

/-- Where a term is found that is an expression on its own. If it is not divided, every match begins with
a space, goes on with a match of the term, and ends with a character that may follow a word; so does
every match that the search finds. If it is divided, only the matches of its first alternative begin so,
and only those of its last end so. -/
theorem Pattern.mem_spans_iff (pattern : Pattern) (inner : Regex)
    (standsAlone : Regex.parse? (bareExpression pattern.term) = some inner) :
    (¬Divided pattern.term → ∀ text : Array Char,
      (∀ start stop, stop ∈ (spans text pattern.regex).ends start ↔
        text[start]? = some ' ' ∧ ∃ last ∈ (spans text inner).ends (start + 1),
          EndsWord text last ∧ stop = last + 1) ∧
      ∀ position start stop,
        (spans text pattern.regex).firstFrom position = some (start, stop) →
          text[start]? = some ' ' ∧ start + 1 < stop ∧ EndsWord text (stop - 1)) ∧
    (Divided pattern.term → ∃ (first : Regex) (middle : List Regex) (last : Regex),
      inner = .alt first (middle.foldr .alt last) ∧
      ∀ text : Array Char, ∀ start stop, stop ∈ (spans text pattern.regex).ends start ↔
        (text[start]? = some ' ' ∧ stop ∈ (spans text first).ends (start + 1)) ∨
        (∃ part ∈ middle, stop ∈ (spans text part).ends start) ∨
        ∃ final ∈ (spans text last).ends start, EndsWord text final ∧ stop = final + 1) := by
  obtain ⟨last, grafted, graft, rfl, spaced, whole⟩ := exists_grafted standsAlone
  have regex_eq := Option.some.inj (pattern.compiled.symm.trans whole)
  rw [regex_eq]
  cases graft with
  | whole items =>
    have undivided : ¬Divided pattern.term := by
      rintro ⟨first, others, divides⟩
      exact sequence_behindSpace_ne first others (Option.some.inj (spaced.symm.trans divides))
    refine ⟨fun _ text => ?_, fun divided => absurd divided undivided⟩
    refine ⟨fun start stop => mem_spans_between, fun position start stop found => ?_⟩
    obtain ⟨space, last, member, ends, rfl⟩ :=
      mem_spans_between.mp (Regex.Spans.mem_of_firstFrom found).2
    have after := (Regex.within_spans text _).2 (start + 1) last member
    exact ⟨space, by omega, ends⟩
  | divided first later items =>
    have divided : Divided pattern.term := ⟨_, _, spaced.trans (congrArg some (close_divided _ _ _))⟩
    refine ⟨fun undivided => absurd divided undivided, fun _ => ?_⟩
    exact ⟨_, later.reverse, _, close_divided _ _ _, fun text start stop => mem_spans_divided⟩

theorem Pattern.mem_spans_iff_sample : ∃ pattern inner,
    Pattern.ofTerm? "(a|b)\\d".toList = some pattern ∧
      Regex.parse? (bareExpression pattern.term) = some inner ∧ ¬Divided pattern.term ∧
      (spans " ab a1, ".toList.toArray pattern.regex).firstFrom 0 = some (3, 7) ∧
      EndsWord " ab a1, ".toList.toArray 6 := by
  have compiles : (Pattern.ofTerm? "(a|b)\\d".toList).any (fun pattern =>
      (Regex.parse? (bareExpression pattern.term)).isSome && decide (¬Divided pattern.term) &&
        decide ((spans " ab a1, ".toList.toArray pattern.regex).firstFrom 0 = some (3, 7))) = true := by
    decide +kernel
  obtain ⟨pattern, compiled, holds⟩ := (Option.any_eq_true _ _).mp compiles
  simp only [Bool.and_eq_true, decide_eq_true_eq] at holds
  obtain ⟨⟨alone, undivided⟩, found⟩ := holds
  obtain ⟨inner, standsAlone⟩ := Option.isSome_iff_exists.mp alone
  have bounded := ((Pattern.mem_spans_iff pattern inner standsAlone).1 undivided _).2 0 3 7 found
  exact ⟨pattern, inner, compiled, standsAlone, undivided, found, bounded.2.2⟩

/-- The bar of a term divides its space from its end. -/
theorem Pattern.divided_match_inside_word : ∃ pattern, Pattern.ofTerm? "a|b".toList = some pattern ∧
    pattern.matchesIn " apple ".toList.toArray = true ∧
      (spans " apple ".toList.toArray pattern.regex).firstFrom 0 = some (0, 2) ∧
      ¬EndsWord " apple ".toList.toArray 1 := by
  have compiles : (Pattern.ofTerm? "a|b".toList).any (fun pattern =>
      pattern.matchesIn " apple ".toList.toArray &&
        decide ((spans " apple ".toList.toArray pattern.regex).firstFrom 0 = some (0, 2))) = true := by
    decide +kernel
  obtain ⟨pattern, compiled, holds⟩ := (Option.any_eq_true _ _).mp compiles
  simp only [Bool.and_eq_true, decide_eq_true_eq] at holds
  exact ⟨pattern, compiled, holds.1, holds.2, by simp [EndsWord, closers]⟩

end TextQuery.Query
