import TextQuery.Proofs.Query.Expression
import TextQuery.Query.Evaluation

/-!
# Wildcards

A term stands in a text where a space is followed by what the term matches and by a character that may
follow a word. What it matches is decided character by character, and a search for it tries every way
to split the text along the term (`matchesIn_iff_splits`).
-/
set_option autoImplicit false

namespace TextQuery.Query

open Regex (spans)

/-! ## Splitting along a term -/

/-- What a character of a term matches. -/
def Accepts (c : Char) (text : List Char) : Prop :=
  if c = '?' then text.length = 1 ∧ '\n' ∉ text
  else if c = '*' then ' ' ∉ text
  else if c = Mark.join then text = [' ']
  else if c = Mark.opening then text = ['(']
  else if c = Mark.closing then text = [')']
  else if c = Mark.quote then text = []
  else text = [c]

/-- The text is made of what each character of the term matches, in order. -/
def Splits : List Char → List Char → Prop
  | [], text => text = []
  | c :: term, text => ∃ first rest, text = first ++ rest ∧ Accepts c first ∧ Splits term rest

instance (c : Char) (text : List Char) : Decidable (Accepts c text) :=
  inferInstanceAs (Decidable (ite _ _ _))

theorem splits_cons_iff {c : Char} {term text : List Char} : Splits (c :: term) text ↔
    ∃ length < text.length + 1, Accepts c (text.take length) ∧ Splits term (text.drop length) := by
  constructor
  · rintro ⟨first, rest, rfl, accepts, splits⟩
    refine ⟨first.length, ?_, ?_, ?_⟩
    · rw [List.length_append]
      omega
    · rwa [List.take_left]
    · rwa [List.drop_left]
  · rintro ⟨length, -, accepts, splits⟩
    exact ⟨_, _, (List.take_append_drop length text).symm, accepts, splits⟩

instance decidableSplits : (term text : List Char) → Decidable (Splits term text)
  | [], text => inferInstanceAs (Decidable (text = []))
  | _ :: term, _ =>
    have := decidableSplits term
    decidable_of_iff _ splits_cons_iff.symm

/-- The characters that may follow a term. -/
def closers : List Char := ['?', '!', ',', '.', ' ']

/-! ## Parts of an expression -/

section Parts

variable {text : Array Char} {start stop : Nat} {tail : Regex}

theorem getElem?_of_drop_append {first rest : List Char}
    (shape : text.toList.drop start = first ++ rest) {offset : Nat} (inside : offset < first.length) :
    text[start + offset]? = first[offset]? := by
  have same : (text.toList.drop start)[offset]? = (first ++ rest)[offset]? := by rw [shape]
  rw [List.getElem?_drop, Array.getElem?_toList, List.getElem?_append_left inside] at same
  exact same

/-- What is left behind the front of a text. -/
theorem drop_of_drop_append {first rest : List Char} (inside : start ≤ text.size)
    (shape : text.toList.drop start = first ++ rest) :
    start + first.length ≤ text.size ∧ text.toList.drop (start + first.length) = rest := by
  have lengths := congrArg List.length shape
  simp only [List.length_drop, Array.length_toList, List.length_append] at lengths
  refine ⟨by omega, ?_⟩
  rw [← List.drop_drop, shape, List.drop_left]

theorem run_iff_drop {chars : Regex.CharSet} : Regex.Run chars text start stop ↔
    ∃ first rest, text.toList.drop start = first ++ rest ∧ (∀ c ∈ first, chars.contains c = true) ∧
      stop = start + first.length := by
  constructor
  · rintro ⟨order, all⟩
    refine ⟨(text.toList.drop start).take (stop - start), (text.toList.drop start).drop (stop - start),
      (List.take_append_drop _ _).symm, ?_, ?_⟩
    · intro c member
      obtain ⟨offset, inside, found⟩ := List.mem_take_iff_getElem.mp member
      have here : text[start + offset]? = some c := by
        rw [← Array.getElem?_toList, ← List.getElem?_drop]
        exact List.getElem?_eq_some_iff.mpr ⟨by omega, found⟩
      obtain ⟨d, there, contained⟩ := all (start + offset) (by omega) (by omega)
      rw [here] at there
      rwa [Option.some.inj there]
    · have bound : stop ≤ text.size ∨ stop = start := by
        rcases Nat.eq_or_lt_of_le order with same | advances
        · exact Or.inr same.symm
        · obtain ⟨c, found, -⟩ := all (stop - 1) (by omega) (by omega)
          have := (Array.getElem?_eq_some_iff.mp found).1
          exact Or.inl (by omega)
      simp only [List.length_take, List.length_drop, Array.length_toList]
      omega
  · rintro ⟨first, rest, shape, all, rfl⟩
    refine ⟨Nat.le_add_right _ _, ?_⟩
    intro position after before
    have inside : position - start < first.length := by omega
    have found := getElem?_of_drop_append shape inside
    rw [Nat.add_sub_cancel' after, List.getElem?_eq_getElem inside] at found
    exact ⟨_, found, all _ (List.getElem_mem inside)⟩

theorem getElem?_eq_some_iff_drop {c : Char} :
    text[start]? = some c ↔ ∃ rest, text.toList.drop start = c :: rest := by
  rw [← Array.getElem?_toList, ← List.head?_drop, List.head?_eq_some_iff]

theorem mem_seq_set {chars : Regex.CharSet} : stop ∈ (spans text (.seq (.set chars) tail)).ends start ↔
    ∃ first rest, text.toList.drop start = first ++ rest ∧
      (∃ d, first = [d] ∧ chars.contains d = true) ∧
        stop ∈ (spans text tail).ends (start + first.length) := by
  rw [Regex.mem_spans_seq]
  constructor
  · rintro ⟨between, first, later⟩
    obtain ⟨d, found, contained, rfl⟩ := Regex.mem_spans_set.mp first
    obtain ⟨rest, shape⟩ := getElem?_eq_some_iff_drop.mp found
    exact ⟨[d], rest, shape, ⟨d, rfl, contained⟩, later⟩
  · rintro ⟨-, rest, shape, ⟨d, rfl, contained⟩, later⟩
    have found := getElem?_eq_some_iff_drop.mpr ⟨rest, shape⟩
    exact ⟨start + 1, Regex.mem_spans_set.mpr ⟨d, found, contained, rfl⟩, later⟩

theorem mem_seq_star {chars : Regex.CharSet} (inside : start ≤ text.size) :
    stop ∈ (spans text (.seq (.repeat (.set chars) 0 none) tail)).ends start ↔
      ∃ first rest, text.toList.drop start = first ++ rest ∧ (∀ d ∈ first, chars.contains d = true) ∧
        stop ∈ (spans text tail).ends (start + first.length) := by
  rw [Regex.mem_spans_seq]
  constructor
  · rintro ⟨between, first, later⟩
    rw [Regex.mem_spans_star inside] at first
    obtain ⟨run, rest, shape, all, rfl⟩ := run_iff_drop.mp first
    exact ⟨run, rest, shape, all, later⟩
  · rintro ⟨run, rest, shape, all, later⟩
    refine ⟨start + run.length, ?_, later⟩
    rw [Regex.mem_spans_star inside]
    exact run_iff_drop.mpr ⟨run, rest, shape, all, rfl⟩

/-- A character becomes nothing, a set or a run of a set, which says what it matches. -/
theorem parts_cases (c : Char) :
    (parts c = [] ∧ ∀ text, Accepts c text ↔ text = []) ∨
    (∃ chars : Regex.CharSet, parts c = [.set chars] ∧
      ∀ text, Accepts c text ↔ ∃ d, text = [d] ∧ chars.contains d = true) ∨
    ∃ chars : Regex.CharSet, parts c = [.repeat (.set chars) 0 none] ∧
      ∀ text, Accepts c text ↔ ∀ d ∈ text, chars.contains d = true := by
  have single : ∀ d : Char, (∀ text, Accepts c text ↔ text = [d]) → ∀ chars : Regex.CharSet,
      (∀ e, chars.contains e = true ↔ e = d) →
        ∀ text, Accepts c text ↔ ∃ e, text = [e] ∧ chars.contains e = true := by
    intro d accepts chars contains text
    rw [accepts]
    simp [contains]
  by_cases any : c = '?'
  · subst any
    refine Or.inr (Or.inl ⟨_, rfl, fun text => ?_⟩)
    have noFeed : ∀ d, Regex.CharSet.notLineFeed.contains d = true ↔ d ≠ '\n' := by
      intro d
      rw [Regex.CharSet.notLineFeed, Regex.CharSet.contains, Bool.not_eq_true', ← Bool.not_eq_true,
        contains_single]
    simp only [Accepts, if_pos, noFeed, List.length_eq_one_iff]
    constructor
    · rintro ⟨⟨d, rfl⟩, other⟩
      exact ⟨d, rfl, fun same => other (List.mem_singleton.mpr same.symm)⟩
    · rintro ⟨d, rfl, other⟩
      exact ⟨⟨d, rfl⟩, fun member => other (List.mem_singleton.mp member).symm⟩
  by_cases star : c = '*'
  · subst star
    refine Or.inr (Or.inr ⟨_, rfl, fun text => ?_⟩)
    simp only [contains_bracket_negated, List.mem_singleton]
    constructor
    · rintro noSpace d member rfl
      exact noSpace member
    · intro noSpace member
      exact noSpace ' ' member rfl
  by_cases join : c = Mark.join
  · subst join
    exact Or.inr (Or.inl ⟨_, rfl, single ' ' (fun text => Iff.rfl) _ fun e => contains_single⟩)
  by_cases opening : c = Mark.opening
  · subst opening
    exact Or.inr (Or.inl ⟨_, rfl, single '(' (fun text => Iff.rfl) _ fun e => contains_single⟩)
  by_cases closing : c = Mark.closing
  · subst closing
    exact Or.inr (Or.inl ⟨_, rfl, single ')' (fun text => Iff.rfl) _ fun e => contains_single⟩)
  by_cases quote : c = Mark.quote
  · subst quote
    exact Or.inl ⟨rfl, fun text => Iff.rfl⟩
  have itself : ∀ text, Accepts c text ↔ text = [c] := by
    intro text
    simp [Accepts, any, star, join, opening, closing, quote]
  refine Or.inr (Or.inl ?_)
  by_cases dot : c = '.'
  · subst dot
    exact ⟨_, rfl, single '.' itself _ fun e => by simp [contains_bracket]⟩
  by_cases plus : c = '+'
  · subst plus
    exact ⟨_, rfl, single '+' itself _ fun e => by simp [contains_bracket]⟩
  · refine ⟨.single c, ?_, single c itself _ fun e => contains_single⟩
    simp [parts, any, star, join, opening, closing, quote, dot, plus, Regex.char]

theorem mem_spans_parts {c : Char} (inside : start ≤ text.size) :
    stop ∈ (spans text ((parts c).foldr .seq tail)).ends start ↔
      ∃ first rest, text.toList.drop start = first ++ rest ∧ Accepts c first ∧
        stop ∈ (spans text tail).ends (start + first.length) := by
  rcases parts_cases c with ⟨none, accepts⟩ | ⟨chars, one, accepts⟩ | ⟨chars, many, accepts⟩
  · simp only [none, accepts, List.foldr_nil]
    constructor
    · intro later
      exact ⟨[], _, rfl, rfl, later⟩
    · rintro ⟨-, rest, shape, rfl, later⟩
      exact later
  · simp only [one, accepts, List.foldr_cons, List.foldr_nil, mem_seq_set]
  · simp only [many, accepts, List.foldr_cons, List.foldr_nil, mem_seq_star inside]

/-! ## Whole terms -/

theorem mem_endClass : stop ∈ (spans text endClass).ends start ↔
    ∃ c rest, text.toList.drop start = c :: rest ∧ c ∈ closers ∧ stop = start + 1 := by
  rw [endClass, Regex.mem_spans_set]
  constructor
  · rintro ⟨c, found, contained, rfl⟩
    obtain ⟨rest, shape⟩ := getElem?_eq_some_iff_drop.mp found
    exact ⟨c, rest, shape, contains_bracket.mp contained, rfl⟩
  · rintro ⟨c, rest, shape, closes, rfl⟩
    exact ⟨c, getElem?_eq_some_iff_drop.mpr ⟨rest, shape⟩, contains_bracket.mpr closes, rfl⟩

theorem mem_spans_sequence {term : List Char} (inside : start ≤ text.size) :
    stop ∈ (spans text (sequence (term.flatMap parts))).ends start ↔
      ∃ middle c rest, text.toList.drop start = middle ++ c :: rest ∧ Splits term middle ∧
        c ∈ closers ∧ stop = start + middle.length + 1 := by
  induction term generalizing start with
  | nil =>
    simp only [List.flatMap_nil, sequence, List.foldr_nil, mem_endClass, Splits]
    constructor
    · rintro ⟨c, rest, shape, closes, rfl⟩
      exact ⟨[], c, rest, shape, rfl, closes, rfl⟩
    · rintro ⟨-, c, rest, shape, rfl, closes, rfl⟩
      exact ⟨c, rest, shape, closes, rfl⟩
  | cons c term ih =>
    have unfolded : sequence ((c :: term).flatMap parts) =
        (parts c).foldr .seq (sequence (term.flatMap parts)) := by
      rw [List.flatMap_cons, sequence, List.foldr_append, sequence]
    rw [unfolded, mem_spans_parts inside]
    constructor
    · rintro ⟨first, rest, shape, accepts, later⟩
      obtain ⟨bound, here⟩ := drop_of_drop_append inside shape
      obtain ⟨middle, d, after, shapeRest, splits, closes, rfl⟩ := (ih bound).mp later
      rw [here] at shapeRest
      refine ⟨first ++ middle, d, after, ?_, ⟨first, middle, rfl, accepts, splits⟩, closes, ?_⟩
      · rw [shape, shapeRest, List.append_assoc]
      · rw [List.length_append, ← Nat.add_assoc]
    · rintro ⟨-, d, after, shape, ⟨first, middle, rfl, accepts, splits⟩, closes, rfl⟩
      rw [List.append_assoc] at shape
      obtain ⟨bound, here⟩ := drop_of_drop_append inside shape
      refine ⟨first, _, shape, accepts, (ih bound).mpr ⟨middle, d, after, here, splits, closes, ?_⟩⟩
      rw [List.length_append, ← Nat.add_assoc]

theorem Pattern.regex_eq {pattern : Pattern} (literal : ∀ c ∈ pattern.term, IsLiteral c) :
    pattern.regex = .seq (Regex.char ' ') (sequence (pattern.term.flatMap parts)) :=
  Option.some.inj (pattern.compiled.symm.trans (parse?_expression literal))

/-- Where the pattern of a term matches: at a space, what the term matches, and what may follow it. -/
theorem Pattern.mem_spans {pattern : Pattern} (literal : ∀ c ∈ pattern.term, IsLiteral c) :
    stop ∈ (spans text pattern.regex).ends start ↔
      ∃ middle c rest, text.toList.drop start = ' ' :: (middle ++ c :: rest) ∧
        Splits pattern.term middle ∧ c ∈ closers ∧ stop = start + middle.length + 2 := by
  rw [Pattern.regex_eq literal, Regex.mem_spans_seq]
  constructor
  · rintro ⟨between, first, later⟩
    obtain ⟨found, rfl⟩ := mem_spans_char.mp first
    obtain ⟨after, shape⟩ := getElem?_eq_some_iff_drop.mp found
    have inside := Nat.le_of_lt (Array.getElem?_eq_some_iff.mp found).1
    rw [← List.singleton_append] at shape
    obtain ⟨bound, here⟩ := drop_of_drop_append inside shape
    obtain ⟨middle, c, rest, shapeAfter, splits, closes, rfl⟩ := (mem_spans_sequence bound).mp later
    refine ⟨middle, c, rest, ?_, splits, closes, ?_⟩
    · rw [shape, ← here, shapeAfter, List.singleton_append]
    · rw [List.length_singleton]
      omega
  · rintro ⟨middle, c, rest, shape, splits, closes, rfl⟩
    have found := getElem?_eq_some_iff_drop.mpr ⟨_, shape⟩
    have inside := Nat.le_of_lt (Array.getElem?_eq_some_iff.mp found).1
    rw [← List.singleton_append] at shape
    obtain ⟨bound, here⟩ := drop_of_drop_append inside shape
    refine ⟨start + 1, mem_spans_char.mpr ⟨found, rfl⟩, (mem_spans_sequence bound).mpr ?_⟩
    refine ⟨middle, c, rest, here, splits, closes, ?_⟩
    rw [List.length_singleton]
    omega

end Parts

/-- Where the pattern of a term is found in a text. -/
theorem Pattern.matchesIn_iff_exists {pattern : Pattern} (literal : ∀ c ∈ pattern.term, IsLiteral c)
    {text : List Char} : pattern.matchesIn text.toArray = true ↔ ∃ before middle c after,
      text = before ++ ' ' :: (middle ++ c :: after) ∧ Splits pattern.term middle ∧ c ∈ closers := by
  rw [Pattern.matchesIn, Regex.matchesIn_iff]
  simp only [Pattern.mem_spans literal]
  constructor
  · rintro ⟨start, stop, middle, c, after, shape, splits, closes, -⟩
    refine ⟨text.take start, middle, c, after, ?_, splits, closes⟩
    rw [← shape]
    exact (List.take_append_drop start text).symm
  · rintro ⟨before, middle, c, after, rfl, splits, closes⟩
    exact ⟨before.length, _, middle, c, after, by simp, splits, closes, rfl⟩

theorem exists_pattern_of_literal {term : List Char} (literal : ∀ c ∈ term, IsLiteral c) :
    ∃ pattern, Pattern.ofTerm? term = some pattern ∧ pattern.term = term :=
  ⟨.ofLiteral term literal, Pattern.ofTerm?_ofLiteral literal, rfl⟩

/-- A term of literal characters has a pattern, which matches a text exactly if somewhere in it a space
is followed by a text that splits along the term and by a character that may follow a term. -/
theorem matchesIn_iff_splits (term : List Char) (literal : ∀ c ∈ term, IsLiteral c) :
    ∃ pattern : Pattern, Pattern.ofTerm? term = some pattern ∧ ∀ text : List Char,
      pattern.matchesIn text.toArray = true ↔ ∃ before middle c after,
        text = before ++ ' ' :: (middle ++ c :: after) ∧ Splits term middle ∧
          c ∈ ['?', '!', ',', '.', ' '] := by
  obtain ⟨pattern, compiled, rfl⟩ := exists_pattern_of_literal literal
  exact ⟨pattern, compiled, fun text => Pattern.matchesIn_iff_exists literal⟩

theorem matchesIn_iff_splits_sample :
    (∀ c ∈ "a*\uE000??\uE002".toList, IsLiteral c) ∧ ∃ pattern : Pattern,
      Pattern.ofTerm? "a*\uE000??\uE002".toList = some pattern ∧
        pattern.matchesIn "x  abc  d), e".toList.toArray = true := by
  have literal : ∀ c ∈ "a*\uE000??\uE002".toList, IsLiteral c := by simp [IsLiteral]
  refine ⟨literal, ?_⟩
  obtain ⟨pattern, compiled, matching⟩ := matchesIn_iff_splits "a*\uE000??\uE002".toList literal
  refine ⟨pattern, compiled, (matching _).mpr ?_⟩
  exact ⟨"x ".toList, "abc  d)".toList, ',', " e".toList, by decide, by decide, by decide⟩

end TextQuery.Query
