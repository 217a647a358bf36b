import TextQuery.Proofs.Query.Grouping

/-!
# Quotes hide what they hold

Nothing between quotes is structure: a phrase is one word for the parser, whatever keywords, references,
parentheses and blanks stand in it. So phrases between quotes that are joined by a keyword are the operands of
that operator, one leaf each, unless a term among them is malformed (`parse_quotedBy`).
-/
set_option autoImplicit false

namespace TextQuery.Query

open Text (Word words unwords clean squeeze)
open Unicode (isWhiteSpace lower)

/-! ## The word of a phrase -/

/-- The word that a phrase between quotes is for the parser. -/
def phraseWord (phrase : List Char) : Word := Mark.quote :: (clean (squeeze phrase)).map shieldChar

/-- The term of a phrase between quotes: its text with runs of blanks made one space, clean and in lower case,
with marks for spaces and parentheses. -/
def phraseTerm (phrase : List Char) : List Char :=
  Mark.quote :: (lower (clean (squeeze phrase))).map shieldChar

theorem lower_phraseWord (phrase : List Char) : lower (phraseWord phrase) = phraseTerm phrase :=
  lower_quoted _

/-- A phrase that may stand between quotes, and need not be anything else. -/
structure Phrase (text : List Char) : Prop where
  nonempty : text ≠ []
  noQuote : ∀ c ∈ text, isDoubleQuote c = false

theorem Phrase.quote_not_mem {phrase : List Char} (isPhrase : Phrase phrase) :
    '"' ∉ clean (squeeze phrase) := by
  have none : phrase.countP isDoubleQuote = 0 := by
    rw [List.countP_eq_zero]
    intro c member
    rw [isPhrase.noQuote c member]
    exact Bool.false_ne_true
  rw [← List.count_eq_zero, count_quote_clean, Text.countP_squeeze isDoubleQuote_of_blank, none]

theorem isDelimiter_of_mem_phraseWord {phrase : List Char} {c : Char} (member : c ∈ phraseWord phrase) :
    isDelimiter c = false := by
  rcases List.mem_cons.mp member with rfl | shielded
  · decide
  · obtain ⟨d, -, rfl⟩ := List.mem_map.mp shielded
    exact isDelimiter_shieldChar d

/-- The only blank of a phrase is the space, and that is shielded. -/
theorem isWhiteSpace_of_mem_phraseWord {phrase : List Char} {c : Char} (member : c ∈ phraseWord phrase) :
    isWhiteSpace c = false := by
  refine Bool.eq_false_iff.mpr fun blank => ?_
  have solid := isDelimiter_of_mem_phraseWord member
  have space : c = ' ' := by
    rcases List.mem_cons.mp member with rfl | shielded
    · exact absurd blank (by decide)
    · obtain ⟨d, inClean, rfl⟩ := List.mem_map.mp shielded
      rcases shieldChar_cases d with ⟨_, mark⟩ | ⟨_, mark⟩ | ⟨_, mark⟩ | ⟨_, unchanged⟩
      · rw [mark] at blank
        exact absurd blank (by decide)
      · rw [mark] at blank
        exact absurd blank (by decide)
      · rw [mark] at blank
        exact absurd blank (by decide)
      · rw [unchanged] at blank ⊢
        exact eq_space_of_mem_clean (fun _ => Text.eq_space_of_mem_squeeze) inClean blank
  rw [space] at solid
  contradiction

/-! ## Words of the query -/

/-- Phrases between quotes, with a word between neighbours. -/
def quotedBy (word : String) (phrases : List String) : String :=
  (" " ++ word ++ " ").intercalate (phrases.map fun phrase => "\"" ++ phrase ++ "\"")

theorem toList_quotedBy (word : String) (phrases : List String) : (quotedBy word phrases).toList =
    (' ' :: word.toList ++ [' ']).intercalate
      ((phrases.map String.toList).map fun phrase => '"' :: phrase ++ ['"']) := by
  have quoted : (phrases.map fun phrase => "\"" ++ phrase ++ "\"").map String.toList =
      (phrases.map String.toList).map fun phrase => '"' :: phrase ++ ['"'] := by
    rw [List.map_map, List.map_map]
    refine List.map_congr_left ?_
    intro phrase _
    simp
  rw [quotedBy, String.toList_intercalate, quoted]
  simp

section Query

variable {operator : Operator} {phrases : List (List Char)} (each : ∀ phrase ∈ phrases, Phrase phrase)

/-- The quoted phrases and the keywords between them. -/
def quotedWords (operator : Operator) (phrases : List (List Char)) : List Word :=
  (phrases.map phraseWord).intersperse operator.keyword.toList

theorem quotedWords_cons {phrase : List Char} (more : phrases ≠ []) :
    quotedWords operator (phrase :: phrases) =
      phraseWord phrase :: operator.keyword.toList :: quotedWords operator phrases := by
  obtain ⟨next, others, rfl⟩ := List.exists_cons_of_ne_nil more
  rfl

theorem mem_quotedWords {word : Word} (member : word ∈ quotedWords operator phrases) :
    word = operator.keyword.toList ∨ ∃ phrase ∈ phrases, word = phraseWord phrase := by
  induction phrases with
  | nil => contradiction
  | cons phrase rest ih =>
    by_cases last : rest = []
    · rw [last] at member
      exact Or.inr ⟨phrase, List.mem_cons_self, List.mem_singleton.mp member⟩
    · rw [quotedWords_cons last, List.mem_cons, List.mem_cons] at member
      rcases member with rfl | rfl | later
      · exact Or.inr ⟨phrase, List.mem_cons_self, rfl⟩
      · exact Or.inl rfl
      · refine (ih later).imp_right ?_
        rintro ⟨other, inRest, same⟩
        exact ⟨other, List.mem_cons_of_mem _ inRest, same⟩

theorem of_mem_quotedWords {word : Word} (member : word ∈ quotedWords operator phrases) :
    word ≠ [] ∧ ∀ c ∈ word, isWhiteSpace c = false ∧ isDelimiter c = false := by
  rcases mem_quotedWords member with rfl | ⟨phrase, -, rfl⟩
  · refine ⟨by cases operator <;> decide, ?_⟩
    intro c inKeyword
    obtain ⟨-, solid, flat, -⟩ := of_mem_keyword inKeyword
    exact ⟨solid, flat⟩
  · refine ⟨List.cons_ne_nil _ _, ?_⟩
    intro c inPhrase
    exact ⟨isWhiteSpace_of_mem_phraseWord inPhrase, isDelimiter_of_mem_phraseWord inPhrase⟩

theorem prepared_keyword {rest : List Char} (closed : Closed rest) :
    prepared (operator.keyword.toList ++ rest) = operator.keyword.toList ++ prepared rest := by
  have cleaned : clean operator.keyword.toList = operator.keyword.toList :=
    clean_of_even fun c member => (of_mem_keyword member).1
  have noQuote : '"' ∉ clean operator.keyword.toList := by
    rw [cleaned]
    intro member
    exact (of_mem_keyword member).2.2.2 rfl
  rw [prepared_word (fun c member => (of_mem_keyword member).2.1) noQuote closed, cleaned]

theorem prepared_phrase_keyword {phrase rest : List Char} (isPhrase : Phrase phrase)
    (solid : rest.head?.any isWhiteSpace = false) :
    prepared ('"' :: phrase ++ '"' :: ' ' :: (operator.keyword.toList ++ ' ' :: rest)) =
      phraseWord phrase ++ ' ' :: (operator.keyword.toList ++ ' ' :: prepared rest) := by
  have starts : (operator.keyword.toList ++ ' ' :: rest).head?.any isWhiteSpace = false := by
    cases operator <;> rfl
  rw [prepared_phrase isPhrase.nonempty isPhrase.quote_not_mem, prepared_space starts,
    prepared_keyword (.space solid), prepared_space solid]
  rfl

/-- The query of the quoted phrases. -/
def quotedText (operator : Operator) (phrases : List (List Char)) : List Char :=
  (' ' :: operator.keyword.toList ++ [' ']).intercalate (phrases.map fun phrase => '"' :: phrase ++ ['"'])

theorem quotedText_cons {phrase : List Char} (more : phrases ≠ []) :
    quotedText operator (phrase :: phrases) =
      '"' :: phrase ++ '"' :: ' ' :: (operator.keyword.toList ++ ' ' :: quotedText operator phrases) := by
  have others : (phrases.map fun phrase => '"' :: phrase ++ ['"']) ≠ [] := by simpa using more
  rw [quotedText, List.map_cons, List.intercalate_cons_of_ne_nil others, quotedText]
  simp

theorem quotedText_ends (nonempty : phrases ≠ []) :
    (quotedText operator phrases).head? = some '"' ∧ (quotedText operator phrases).getLast? = some '"' := by
  induction phrases with
  | nil => exact absurd rfl nonempty
  | cons phrase rest ih =>
    by_cases last : rest = []
    · rw [last, quotedText, List.map_singleton, List.intercalate_singleton, List.getLast?_concat]
      exact ⟨rfl, rfl⟩
    · have cut : quotedText operator (phrase :: rest) =
          ('"' :: phrase ++ '"' :: ' ' :: (operator.keyword.toList ++ [' '])) ++ quotedText operator rest := by
        rw [quotedText_cons last]
        simp
      refine ⟨by rw [cut]; rfl, ?_⟩
      rw [cut, List.getLast?_append, (ih last).2]
      rfl

theorem quotedWords_ne_nil (nonempty : phrases ≠ []) : quotedWords operator phrases ≠ [] := by
  obtain ⟨phrase, rest, rfl⟩ := List.exists_cons_of_ne_nil nonempty
  cases rest <;> exact List.cons_ne_nil _ _

include each

/-- The quoted phrases as the parser reads them. -/
theorem prepared_quotedText (nonempty : phrases ≠ []) :
    prepared (quotedText operator phrases) = unwords (quotedWords operator phrases) := by
  induction phrases with
  | nil => exact absurd rfl nonempty
  | cons phrase rest ih =>
    obtain ⟨first, others⟩ := List.forall_mem_cons.mp each
    by_cases last : rest = []
    · have alone := prepared_phrase first.nonempty first.quote_not_mem []
      rw [show prepared [] = [] from rfl, List.append_nil] at alone
      rw [last, quotedText, List.map_singleton, List.intercalate_singleton, alone]
      rfl
    · have starts : (quotedText operator rest).head?.any isWhiteSpace = false := by
        rw [(quotedText_ends last).1]
        rfl
      rw [quotedText_cons last, prepared_phrase_keyword first starts, ih others last, quotedWords_cons last,
        Text.unwords_cons (List.cons_ne_nil _ _), Text.unwords_cons (quotedWords_ne_nil last)]

/-- Normalizing the query leaves the words of the phrases and the keywords, with one space between them. -/
theorem normalize_quotedText (nonempty : phrases ≠ []) :
    normalize (quotedText operator phrases) = unwords (quotedWords operator phrases) := by
  obtain ⟨starts, ends⟩ := @quotedText_ends operator phrases nonempty
  rw [normalize_eq_prepared, prepared_quotedText each nonempty]
  · rw [starts]
    rfl
  · rw [ends]
    rfl

end Query

/-! ## Parsing the words -/

section Parsing

variable {operator : Operator} {phrases : List (List Char)}

/-- A query of quoted phrases is one level. -/
theorem parseChars_quotedText (each : ∀ phrase ∈ phrases, Phrase phrase) (nonempty : phrases ≠ []) :
    parseChars (quotedText operator phrases) =
      (parseWords [] (quotedWords operator phrases)).map Prod.fst := by
  have present : quotedWords operator phrases ≠ [] := quotedWords_ne_nil nonempty
  have flat : ∀ mark, isDelimiter mark = true → mark ≠ ' ' →
      mark ∉ unwords (quotedWords operator phrases) := by
    intro mark delimiter noSpace member
    rcases Text.mem_unwords member with space | ⟨word, inQuery, inWord⟩
    · exact noSpace space
    · have solid := ((of_mem_quotedWords inQuery).2 mark inWord).2
      rw [delimiter] at solid
      contradiction
  have someText : (unwords (quotedWords operator phrases)).isEmpty = false := by
    rw [List.isEmpty_eq_false_iff]
    exact Text.unwords_ne_nil present fun word member => (of_mem_quotedWords member).1
  have cut : words (unwords (quotedWords operator phrases)) = quotedWords operator phrases := by
    refine Text.words_unwords ?_
    intro word member
    obtain ⟨filled, solid⟩ := of_mem_quotedWords member
    exact ⟨filled, fun c inWord => (solid c inWord).1⟩
  rw [parseChars, normalize_quotedText each nonempty, parseNormalized, someText,
    if_neg Bool.false_ne_true, parseFrom_of_flat (flat ')' rfl (by decide)) (flat '(' rfl (by decide)),
    parseLevel, cut]

theorem isKeyword_phraseWord (phrase : List Char) : isKeyword operator (phraseWord phrase) = false :=
  isKeyword_cons_eq_false (by decide) _ operator

/-- Only the keyword of the operator separates, so every phrase is an operand of its own. -/
theorem splitAtWords_quotedWords (nonempty : phrases ≠ []) :
    splitAtWords (isKeyword operator) (quotedWords operator phrases) =
      phrases.map fun phrase => [phraseWord phrase] := by
  have separates : isKeyword operator operator.keyword.toList = true := by cases operator <;> rfl
  induction phrases with
  | nil => exact absurd rfl nonempty
  | cons phrase rest ih =>
    by_cases last : rest = []
    · rw [last]
      show splitAtWords (isKeyword operator) [phraseWord phrase] = [[phraseWord phrase]]
      rw [splitAtWords_cons, isKeyword_phraseWord, if_neg Bool.false_ne_true]
      rfl
    · rw [quotedWords_cons last, splitAtWords_cons, isKeyword_phraseWord, if_neg Bool.false_ne_true,
        splitAtWords_cons, separates, if_pos rfl, ih last]
      rfl

/-- Operands that are phrases give the fault of the first whose term is malformed, or a leaf for each. -/
theorem parseOperands_phrases (groups : Groups) (phrases : List (List Char)) :
    (∃ phrase, phrases.find? (fun phrase => (Pattern.ofTerm? (phraseTerm phrase)).isNone) = some phrase ∧
      parseOperands groups (phrases.map fun phrase => [phraseWord phrase]) =
        .error (.malformedTerm (phraseTerm phrase))) ∨
    ∃ patterns : List Pattern,
      List.Forall₂ (fun phrase pattern => Pattern.ofTerm? (phraseTerm phrase) = some pattern) phrases
        patterns ∧
      parseOperands groups (phrases.map fun phrase => [phraseWord phrase]) =
        .ok (patterns.map .leaf, groups) := by
  induction phrases with
  | nil => exact Or.inr ⟨[], .nil, rfl⟩
  | cons phrase rest ih =>
    have first : parseOperand groups [phraseWord phrase] =
        (parseTerm [phraseWord phrase]).map fun condition => (condition, groups) := parseOperand_quoted groups _
    have term : lower (unwords [phraseWord phrase]) = phraseTerm phrase := lower_phraseWord phrase
    rw [List.find?_cons, List.map_cons, parseOperands, first, parseTerm, term]
    cases compiled : Pattern.ofTerm? (phraseTerm phrase) with
    | none => exact Or.inl ⟨phrase, rfl, rfl⟩
    | some pattern =>
      rcases ih with ⟨faulty, found, run⟩ | ⟨patterns, each, run⟩
      · refine Or.inl ⟨faulty, found, ?_⟩
        simp only [Except.map, run]
      · refine Or.inr ⟨pattern :: patterns, .cons compiled each, ?_⟩
        simp only [Except.map, run, List.map_cons]

theorem any_isKeyword_quotedWords {other : Operator}
    (different : isKeyword other operator.keyword.toList = false) :
    (quotedWords operator phrases).any (isKeyword other) = false := by
  rw [List.any_eq_false]
  intro word member
  rcases mem_quotedWords member with rfl | ⟨phrase, -, rfl⟩
  · rw [different]
    exact Bool.false_ne_true
  · rw [isKeyword_phraseWord]
    exact Bool.false_ne_true

theorem parseSplit_quotedWords (groups : Groups) (nonempty : phrases ≠ []) :
    parseSplit groups operator (quotedWords operator phrases) =
      parseOperands groups (phrases.map fun phrase => [phraseWord phrase]) := by
  have filled : (phrases.map fun phrase => [phraseWord phrase]).any List.isEmpty = false := by
    simp
  rw [parseSplit, splitOperands, splitAtWords_quotedWords nonempty, filled]
  rfl

end Parsing

/-- The operators whose level may have any number of operands, with the condition that they make of them. -/
inductive Gathers : Operator → (List Condition → Condition) → Prop
  | or : Gathers .or .or
  | and : Gathers .and .and

/-- A level of two phrases or more is split at the keyword between them. -/
theorem Gathers.parseWords_eq {operator : Operator} {join : List Condition → Condition}
    (gathers : Gathers operator join) (groups : Groups) {phrases : List (List Char)}
    (two : 2 ≤ phrases.length) :
    parseWords groups (quotedWords operator phrases) =
      (parseOperands groups (phrases.map fun phrase => [phraseWord phrase])).map fun parsed =>
        (join parsed.1, parsed.2) := by
  obtain ⟨first, others, rfl⟩ : ∃ first others, phrases = first :: others := by
    cases phrases with
    | nil => contradiction
    | cons first others => exact ⟨first, others, rfl⟩
  have more : others ≠ [] := by
    rintro rfl
    contradiction
  have someWord : (quotedWords operator (first :: others)).isEmpty = false := by
    rw [quotedWords_cons more]
    rfl
  have split : parseSplit groups operator (quotedWords operator (first :: others)) = _ :=
    parseSplit_quotedWords groups (List.cons_ne_nil first others)
  have present : (quotedWords operator (first :: others)).any (isKeyword operator) = true := by
    rw [quotedWords_cons more, List.any_cons, List.any_cons]
    cases gathers <;> simp [isKeyword, sameIgnoringCase]
  cases gathers with
  | or =>
    rw [parseWords, someWord, present, split]
    cases parseOperands groups ((first :: others).map fun phrase => [phraseWord phrase]) <;> rfl
  | and =>
    have absent : (quotedWords .and (first :: others)).any (isKeyword .or) = false :=
      any_isKeyword_quotedWords (by decide)
    rw [parseWords, someWord, absent, present, split]
    cases parseOperands groups ((first :: others).map fun phrase => [phraseWord phrase]) <;> rfl

/-- What phrases between quotes may stand for: the fault of one of them, the leaf of the only one, or a leaf
for each under one operator. -/
inductive LeafForEach (join : List Condition → Condition) (phrases : List (List Char)) :
    Except QueryError Condition → Prop
  | malformed {phrase : List Char}
      (first : phrases.find? (fun phrase => (Pattern.ofTerm? (phraseTerm phrase)).isNone) = some phrase) :
      LeafForEach join phrases (.error (.malformedTerm (phraseTerm phrase)))
  | alone {phrase : List Char} {pattern : Pattern} (only : phrases = [phrase])
      (compiled : Pattern.ofTerm? (phraseTerm phrase) = some pattern) :
      LeafForEach join phrases (.ok (.leaf pattern))
  | joined {patterns : List Pattern} (two : 2 ≤ phrases.length)
      (compiled : List.Forall₂ (fun phrase pattern => Pattern.ofTerm? (phraseTerm phrase) = some pattern)
        phrases patterns) :
      LeafForEach join phrases (.ok (join (patterns.map .leaf)))

theorem Gathers.leafForEach {operator : Operator} {join : List Condition → Condition}
    (gathers : Gathers operator join) {phrases : List (List Char)} (nonempty : phrases ≠ [])
    (each : ∀ phrase ∈ phrases, Phrase phrase) :
    LeafForEach join phrases (parseChars (quotedText operator phrases)) := by
  rw [parseChars_quotedText each nonempty]
  obtain ⟨phrase, rest, rfl⟩ := List.exists_cons_of_ne_nil nonempty
  cases rest with
  | nil =>
    have level : parseWords [] (quotedWords operator [phrase]) =
        (parseTerm [phraseWord phrase]).map fun condition => (condition, []) := parseWords_quoted [] _
    have term : lower (unwords [phraseWord phrase]) = phraseTerm phrase := lower_phraseWord phrase
    rw [level, parseTerm, term]
    cases compiled : Pattern.ofTerm? (phraseTerm phrase) with
    | none => exact .malformed (by rw [List.find?_cons, compiled]; rfl)
    | some pattern => exact .alone rfl compiled
  | cons second others =>
    have two : 2 ≤ (phrase :: second :: others).length := by simp
    rw [gathers.parseWords_eq [] two]
    rcases parseOperands_phrases [] (phrase :: second :: others) with
      ⟨faulty, first, run⟩ | ⟨patterns, compiled, run⟩
    · rw [run]
      exact .malformed first
    · rw [run]
      exact .joined two compiled

/-- Phrases between quotes that OR or AND joins are one leaf each, in their order, and nothing that they hold
can be structure. The only fault that the query can have is a term that is malformed. -/
theorem parse_quotedBy (phrases : List String) (nonempty : phrases ≠ [])
    (each : ∀ phrase ∈ phrases, phrase ≠ "" ∧ ∀ c ∈ phrase.toList, isDoubleQuote c = false) :
    LeafForEach .or (phrases.map String.toList) (parse (quotedBy "OR" phrases)) ∧
      LeafForEach .and (phrases.map String.toList) (parse (quotedBy "AND" phrases)) := by
  have all : ∀ phrase ∈ phrases.map String.toList, Phrase phrase := by
    intro phrase member
    obtain ⟨text, inPhrases, rfl⟩ := List.mem_map.mp member
    obtain ⟨filled, noQuote⟩ := each text inPhrases
    exact ⟨fun empty => filled (String.toList_eq_nil_iff.mp empty), noQuote⟩
  have present : phrases.map String.toList ≠ [] := by simpa using nonempty
  rw [parse, parse, toList_quotedBy, toList_quotedBy]
  exact ⟨Gathers.or.leafForEach present all, Gathers.and.leafForEach present all⟩

/-- Phrases with keywords, a reference, a parenthesis, only blanks, and a mark that needs a letter before it. -/
theorem parse_quotedBy_sample :
    LeafForEach .or (["a OR b", ":0: near/2", ")(", "  ", "\u0301x"].map String.toList)
        (parse (quotedBy "OR" ["a OR b", ":0: near/2", ")(", "  ", "\u0301x"])) ∧
      LeafForEach .and (["a OR b", ":0: near/2", ")(", "  ", "\u0301x"].map String.toList)
        (parse (quotedBy "AND" ["a OR b", ":0: near/2", ")(", "  ", "\u0301x"])) :=
  parse_quotedBy ["a OR b", ":0: near/2", ")(", "  ", "\u0301x"] (by decide) (by simp [isDoubleQuote])

end TextQuery.Query
