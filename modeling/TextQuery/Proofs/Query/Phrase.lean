import TextQuery.Proofs.Query.Levels
import TextQuery.Proofs.Query.Wildcards
import TextQuery.Proofs.Text.Squeeze

/-!
# Quoted phrases

A phrase between quotes is one word for the parser, and its term is the phrase as it stands in normalized
records, with marks for its spaces and parentheses. So the phrase is found in every record in which it
stands between spaces (`holds_quoted_phrase`).
-/
set_option autoImplicit false

namespace TextQuery.Query

open Text (Word words unwords clean normalWord)
open Unicode (isWhiteSpace isReserved isInert isLowerForm lower)

/-! ## Shielding -/

theorem isReserved_shieldChar {c : Char} (delimiter : isDelimiter c = true) :
    isReserved (shieldChar c) = true := by
  simp only [isDelimiter, Bool.or_eq_true, decide_eq_true_eq] at delimiter
  rcases delimiter with (rfl | rfl) | rfl <;> decide

theorem shieldChar_of_not_delimiter {c : Char} (solid : isDelimiter c = false) : shieldChar c = c := by
  simp only [isDelimiter, Bool.or_eq_false_iff, decide_eq_false_iff_not] at solid
  rw [shieldChar, if_neg solid.1.1, if_neg solid.1.2, if_neg solid.2]

theorem breaking_of_isDelimiter {c : Char} (delimiter : isDelimiter c = true) :
    Unicode.inRanges Unicode.breaking c = true := by
  simp only [isDelimiter, Bool.or_eq_true, decide_eq_true_eq] at delimiter
  rcases delimiter with (rfl | rfl) | rfl <;> decide

/-- Lower-casing does not depend on what is shielded. -/
theorem lower_map_shieldChar (text : List Char) :
    lower (text.map shieldChar) = (lower text).map shieldChar := by
  have run : ∀ word : List Char, (∀ c ∈ word, isDelimiter c = false) →
      lower (word.map shieldChar) = (lower word).map shieldChar := by
    intro word solid
    have kept : ∀ c ∈ lower word, shieldChar c = id c := by
      intro c member
      refine shieldChar_of_not_delimiter (Bool.eq_false_iff.mpr fun delimiter => ?_)
      have inWord := Unicode.mem_of_breaking_of_mem_lower member (breaking_of_isDelimiter delimiter)
      rw [solid c inWord] at delimiter
      contradiction
    rw [List.map_congr_left (fun c member => shieldChar_of_not_delimiter (solid c member)),
      List.map_congr_left kept, List.map_id, List.map_id']
  induction text using Text.run_induction isDelimiter with
  | run word solid => exact run word solid
  | cut word b rest solid delimiter ih =>
    have mark := Unicode.breaks_of_breaking
      (Unicode.breaking_of_isReserved (isReserved_shieldChar delimiter))
    have plain := Unicode.breaks_of_breaking (breaking_of_isDelimiter delimiter)
    rw [List.map_append, List.map_cons, Unicode.lower_append_cons mark, run word solid, ih,
      Unicode.lower_append_cons plain, List.map_append, List.map_cons]

theorem lower_quoted (text : List Char) :
    lower (Mark.quote :: text.map shieldChar) = Mark.quote :: (lower text).map shieldChar := by
  have mark := Unicode.breaks_of_breaking
    (Unicode.breaking_of_isReserved (c := Mark.quote) (by decide))
  have opened := Unicode.lower_append_cons mark [] (text.map shieldChar)
  rw [lower_map_shieldChar] at opened
  exact opened

theorem shieldFrom_inside {text : List Char} (noQuote : '"' ∉ text) (rest : List Char) :
    shieldFrom .inside (text ++ '"' :: rest) = text.map shieldChar ++ shieldFrom .outside rest := by
  induction text with
  | nil => rfl
  | cons c more ih =>
    rw [List.mem_cons, not_or] at noQuote
    rw [List.cons_append, shieldFrom, if_neg (Ne.symm noQuote.1), ih noQuote.2]
    rfl

theorem shieldQuotes_quoted {text : List Char} (nonempty : text ≠ []) (noQuote : '"' ∉ text)
    (rest : List Char) : shieldQuotes ('"' :: text ++ '"' :: rest) =
      Mark.quote :: text.map shieldChar ++ shieldQuotes rest := by
  obtain ⟨c, more, rfl⟩ := List.exists_cons_of_ne_nil nonempty
  rw [List.mem_cons, not_or] at noQuote
  rw [shieldQuotes, List.cons_append, shieldFrom, if_pos rfl, List.cons_append, shieldFrom,
    if_neg (Ne.symm noQuote.1), shieldFrom_inside noQuote.2]
  rfl

/-! ## Parsing one word -/

theorem parseFrom_of_flat {groups : Groups} {text : List Char} (closed : ')' ∉ text)
    (opened : '(' ∉ text) : parseFrom groups [] text = (parseLevel groups text).map Prod.fst := by
  have through : ∀ rest read : List Char, ')' ∉ rest →
      parseFrom groups read rest = parseFrom groups (rest.reverse ++ read) [] := by
    intro rest
    induction rest with
    | nil =>
      intro read _
      rfl
    | cons c rest ih =>
      intro read absent
      rw [List.mem_cons, not_or] at absent
      rw [parseFrom.eq_2, if_neg (Ne.symm absent.1), ih _ absent.2, List.reverse_cons,
        List.append_assoc, List.singleton_append]
  rw [through text [] closed, List.append_nil, parseFrom, List.reverse_reverse, cut?_eq_none opened]

/-- An operand of one word is a term, if the word is no reference. -/
theorem parseOperand_word (groups : Groups) {word : Word} (bare : groupNumber? word = none) :
    parseOperand groups [word] = (parseTerm [word]).map fun condition => (condition, groups) := by
  simp only [parseOperand, reference?, bare, List.any_cons, List.any_nil, Bool.or_false,
    Option.isSome_none, Bool.false_eq_true, if_false]
  cases parseTerm [word] <;> rfl

/-- A level of one word is an operand, if the word is no operator. -/
theorem parseWords_word (groups : Groups) {word : Word}
    (noKeyword : ∀ operator, operator ≠ .near → isKeyword operator word = false)
    (noNear : isNear word = false) : parseWords groups [word] = parseOperand groups [word] := by
  simp only [parseWords, List.isEmpty_cons, List.any_cons, List.any_nil, noNear,
    noKeyword .or (by decide), noKeyword .and (by decide), noKeyword .not (by decide), Bool.or_false,
    Bool.false_eq_true, if_false]

/-- So is a query of one word. -/
theorem parseNormalized_word {word : Word} (nonempty : word ≠ [])
    (solid : ∀ c ∈ word, isDelimiter c = false) (noBlank : ∀ c ∈ word, isWhiteSpace c = false)
    (noKeyword : ∀ operator, operator ≠ .near → isKeyword operator word = false)
    (noNear : isNear word = false) :
    parseNormalized word = (parseOperand [] [word]).map Prod.fst := by
  have closed : ')' ∉ word := fun member => by
    have delimiter := solid _ member
    contradiction
  have opened : '(' ∉ word := fun member => by
    have delimiter := solid _ member
    contradiction
  rw [parseNormalized, if_neg (by simpa using nonempty), parseFrom_of_flat closed opened, parseLevel,
    Text.words_eq_singleton nonempty noBlank, parseWords_word [] noKeyword noNear]

section Quoted

variable (groups : Groups) (rest : List Char)

theorem parseOperand_quoted :
    parseOperand groups [Mark.quote :: rest] =
      (parseTerm [Mark.quote :: rest]).map fun condition => (condition, groups) :=
  parseOperand_word groups (groupNumber?_cons_eq_none (by decide) rest)

theorem parseWords_quoted :
    parseWords groups [Mark.quote :: rest] =
      (parseTerm [Mark.quote :: rest]).map fun condition => (condition, groups) := by
  rw [parseWords_word groups (fun operator _ => isKeyword_cons_eq_false (by decide) rest operator)
    (isNear_cons_eq_false (by decide) rest), parseOperand_quoted]

end Quoted

theorem parseNormalized_quoted {rest : List Char} (solid : ∀ c ∈ rest, isDelimiter c = false)
    (noBlank : ∀ c ∈ rest, isWhiteSpace c = false) :
    parseNormalized (Mark.quote :: rest) = parseTerm [Mark.quote :: rest] := by
  rw [parseNormalized_word (List.cons_ne_nil _ _) (List.forall_mem_cons.mpr ⟨by decide, solid⟩)
    (List.forall_mem_cons.mpr ⟨by decide, noBlank⟩)
    (fun operator _ => isKeyword_cons_eq_false (by decide) rest operator)
    (isNear_cons_eq_false (by decide) rest), parseOperand_quoted]
  cases parseTerm [Mark.quote :: rest] <;> rfl

theorem parseTerm_of_literal {words : List Word}
    (literal : ∀ c ∈ lower (unwords words), IsLiteral c) :
    ∃ pattern : Pattern, parseTerm words = .ok (.leaf pattern) ∧ pattern.term = lower (unwords words) := by
  obtain ⟨pattern, compiled, same⟩ := exists_pattern_of_literal literal
  refine ⟨pattern, ?_, same⟩
  rw [parseTerm, compiled]

/-! ## Matching -/

/-- A character of normalized text is matched by what stands for it in a term. -/
theorem accepts_shieldChar {c : Char} (free : isReserved c = false) : Accepts (shieldChar c) [c] := by
  rcases shieldChar_cases c with ⟨rfl, mark⟩ | ⟨rfl, mark⟩ | ⟨rfl, mark⟩ | ⟨_, same⟩
  · rw [mark]
    decide
  · rw [mark]
    decide
  · rw [mark]
    decide
  · have unmarked : ∀ mark, isReserved mark = true → c ≠ mark := by
      rintro mark reserved rfl
      rw [free] at reserved
      contradiction
    rw [same]
    by_cases any : c = '?'
    · subst any
      decide
    by_cases star : c = '*'
    · subst star
      decide
    · rw [Accepts, if_neg any, if_neg star, if_neg (unmarked _ (by decide)),
        if_neg (unmarked _ (by decide)), if_neg (unmarked _ (by decide)), if_neg (unmarked _ (by decide))]

theorem splits_map_shieldChar {phrase : List Char} (free : ∀ c ∈ phrase, isReserved c = false) :
    Splits (phrase.map shieldChar) phrase := by
  induction phrase with
  | nil => rfl
  | cons c rest ih =>
    obtain ⟨first, others⟩ := List.forall_mem_cons.mp free
    exact ⟨[c], rest, rfl, accepts_shieldChar first, ih others⟩

/-! ## A quoted phrase finds itself -/

/-- The phrase as it stands in normalized records. -/
def normalPhrase (phrase : List Char) : List Char :=
  unwords ((words phrase).map normalWord)

theorem normalPhrase_eq (phrase : List Char) :
    normalPhrase phrase = lower (clean (unwords (words phrase))) := by
  rw [Text.clean_unwords, Text.lower_unwords, List.map_map]
  rfl

/-- What is no letter and no space in the normal form of a phrase comes from the phrase. -/
theorem mem_normalPhrase {phrase : List Char} {c : Char} (member : c ∈ normalPhrase phrase)
    (alone : isInert c = true ∨ isReserved c = true) (noForm : isLowerForm c = false)
    (noSpace : c ≠ ' ') : ∃ d ∈ phrase, c = Text.straightQuote d := by
  rw [normalPhrase_eq] at member
  rcases Unicode.mem_lower member with inClean | form
  · obtain ⟨d, inWords, same⟩ := Text.mem_of_mem_clean inClean alone
    rcases Text.mem_unwords inWords with rfl | ⟨word, inList, inWord⟩
    · exact absurd same noSpace
    · exact ⟨d, (Text.of_mem_splitWords inList).2.2 d inWord, same⟩
  · rw [noForm] at form
    contradiction

theorem isDelimiter_shieldChar (c : Char) : isDelimiter (shieldChar c) = false := by
  rcases shieldChar_cases c with ⟨_, mark⟩ | ⟨_, mark⟩ | ⟨_, mark⟩ | ⟨other, same⟩
  · rw [mark]
    decide
  · rw [mark]
    decide
  · rw [mark]
    decide
  · rw [same]
    simp [isDelimiter, other]

/-- The phrase may stand between quotes: it has no quotes itself, and no blanks at its ends. -/
structure Quotable (phrase : List Char) : Prop where
  nonempty : phrase ≠ []
  starts : phrase.head?.any isWhiteSpace = false
  ends : phrase.getLast?.any isWhiteSpace = false
  noQuote : ∀ c ∈ phrase, Text.straightQuote c ≠ '"'

theorem Quotable.words_ne_nil {phrase : List Char} (quotable : Quotable phrase) :
    words phrase ≠ [] := by
  obtain ⟨c, rest, rfl⟩ := List.exists_cons_of_ne_nil quotable.nonempty
  exact Text.words_ne_nil List.mem_cons_self (by simpa using quotable.starts)

theorem normalize_quoted {phrase : List Char} (quotable : Quotable phrase) :
    normalize ('"' :: phrase ++ ['"']) =
      Mark.quote :: (clean (unwords (words phrase))).map shieldChar := by
  have collapsed : unwords (words ('"' :: phrase ++ ['"'])) = '"' :: unwords (words phrase) ++ ['"'] := by
    have ends : ('"' :: phrase ++ ['"']).getLast?.any isWhiteSpace = false := by
      rw [List.getLast?_concat]
      decide
    have quoted : Text.squeeze (phrase ++ ['"']) = Text.squeeze phrase ++ ['"'] :=
      Text.squeeze_append_cons (by decide) phrase []
    rw [← Text.squeeze_eq_unwords rfl ends, List.cons_append, Text.squeeze_cons (by decide), quoted,
      Text.squeeze_eq_unwords quotable.starts quotable.ends]
    rfl
  have cleaned : clean ('"' :: unwords (words phrase) ++ ['"']) =
      '"' :: clean (unwords (words phrase)) ++ ['"'] := by
    have opened := Text.clean_append_cons (c := '"') (by decide) (by decide) []
      (unwords (words phrase) ++ ['"'])
    have closed := Text.clean_append_cons (c := '"') (by decide) (by decide)
      (unwords (words phrase)) []
    rw [List.cons_append]
    exact opened.trans (congrArg ('"' :: ·) closed)
  have nonempty : clean (unwords (words phrase)) ≠ [] := by
    refine Text.clean_ne_nil ?_
    rw [← Text.squeeze_eq_unwords quotable.starts quotable.ends]
    obtain ⟨c, rest, rfl⟩ := List.exists_cons_of_ne_nil quotable.nonempty
    rw [Text.squeeze_cons (by simpa using quotable.starts)]
    exact List.cons_ne_nil _ _
  have noQuote : '"' ∉ clean (unwords (words phrase)) := by
    intro member
    obtain ⟨d, inWords, same⟩ := Text.mem_of_mem_clean member (Or.inl (by decide))
    rcases Text.mem_unwords inWords with rfl | ⟨word, inList, inWord⟩
    · contradiction
    · exact quotable.noQuote d ((Text.of_mem_splitWords inList).2.2 d inWord) same.symm
  rw [normalize, collapsed, cleaned, shieldQuotes_quoted nonempty noQuote []]
  exact List.append_nil _

/-- The characters that a phrase must not have, apart from quotes and marks: those that mean something
in expressions. The parentheses and the wildcards have marks or classes of their own. -/
def meaningful : List Char := ['\\', '[', '\x7b', '|', '^', '$']

theorem isLiteral_shieldChar {c : Char} (plain : c ∉ meaningful) : IsLiteral (shieldChar c) := by
  rcases shieldChar_cases c with ⟨_, mark⟩ | ⟨_, mark⟩ | ⟨_, mark⟩ | ⟨other, same⟩
  · rw [mark]
    decide
  · rw [mark]
    decide
  · rw [mark]
    decide
  · rw [same]
    simp_all [IsLiteral, meaningful]

theorem of_mem_meaningful {c : Char} (special : c ∈ meaningful) :
    isInert c = true ∧ isLowerForm c = false ∧ c ≠ ' ' ∧ c ≠ '"' ∧ c ≠ '\'' := by
  simp only [meaningful, List.mem_cons, List.not_mem_nil, or_false] at special
  rcases special with rfl | rfl | rfl | rfl | rfl | rfl <;> decide

theorem parse_quoted {phrase : List Char} (quotable : Quotable phrase)
    (literal : ∀ c ∈ phrase, c ∉ meaningful) :
    ∃ pattern : Pattern, parseChars ('"' :: phrase ++ ['"']) = .ok (.leaf pattern) ∧
      pattern.term = Mark.quote :: (normalPhrase phrase).map shieldChar ∧
      ∀ c ∈ pattern.term, IsLiteral c := by
  have normalized := normalize_quoted quotable
  have solid : ∀ c ∈ (clean (unwords (words phrase))).map shieldChar, isDelimiter c = false := by
    intro c member
    obtain ⟨d, -, rfl⟩ := List.mem_map.mp member
    exact isDelimiter_shieldChar d
  have noBlank : ∀ c ∈ (clean (unwords (words phrase))).map shieldChar, isWhiteSpace c = false := by
    intro c member
    refine Bool.eq_false_iff.mpr fun blank => ?_
    have inNormal : c ∈ normalize ('"' :: phrase ++ ['"']) := by
      rw [normalized]
      exact List.mem_cons_of_mem _ member
    have delimiter := solid c member
    rw [eq_space_of_mem_normalize inNormal blank] at delimiter
    contradiction
  have term_eq : lower (unwords [Mark.quote :: (clean (unwords (words phrase))).map shieldChar]) =
      Mark.quote :: (normalPhrase phrase).map shieldChar := by
    rw [normalPhrase_eq]
    exact lower_quoted _
  have plain : ∀ c ∈ Mark.quote :: (normalPhrase phrase).map shieldChar, IsLiteral c := by
    refine List.forall_mem_cons.mpr ⟨by decide, fun c member => ?_⟩
    obtain ⟨d, inNormal, rfl⟩ := List.mem_map.mp member
    refine isLiteral_shieldChar fun special => ?_
    obtain ⟨inert, noForm, noSpace, noQuote, noApostrophe⟩ := of_mem_meaningful special
    obtain ⟨e, inPhrase, same⟩ := mem_normalPhrase inNormal (Or.inl inert) noForm noSpace
    rcases Text.straightQuote_eq e with unchanged | quote | apostrophe
    · rw [same, unchanged] at special
      exact literal e inPhrase special
    · exact noQuote (same.trans quote)
    · exact noApostrophe (same.trans apostrophe)
  rw [← term_eq] at plain
  obtain ⟨pattern, run, same⟩ := parseTerm_of_literal plain
  refine ⟨pattern, ?_, same.trans term_eq, ?_⟩
  · rw [parseChars, normalized, parseNormalized_quoted solid noBlank, run]
  · rwa [same]

/-- Quotes and marks, which do not stand for themselves in a phrase. -/
def quotesAndMarks : List Char :=
  ['"', '\u201C', '\u201D', Mark.join, Mark.opening, Mark.closing, Mark.quote]

theorem mem_quotesAndMarks {c : Char}
    (special : Text.straightQuote c = '"' ∨ isReserved (Text.straightQuote c) = true) :
    c ∈ quotesAndMarks := by
  have marks : Unicode.passes (fun c => quotesAndMarks.contains c) Unicode.reserved = true := by
    decide
  rcases special with quote | reserved
  · unfold Text.straightQuote at quote
    split at quote
    · decide
    · decide
    · contradiction
    · contradiction
    · rw [quote]
      decide
  · rcases Text.straightQuote_eq c with same | same | same
    · rw [same] at reserved
      simpa using Unicode.of_passes marks reserved
    · rw [same] at reserved
      contradiction
    · rw [same] at reserved
      contradiction

theorem isReserved_of_mem_normalPhrase {phrase : List Char}
    (plain : ∀ c ∈ phrase, c ∉ quotesAndMarks) : ∀ c ∈ normalPhrase phrase, isReserved c = false := by
  intro c member
  refine Bool.eq_false_iff.mpr fun reserved => ?_
  have noForm : isLowerForm c = false :=
    Unicode.inRanges_eq_false Unicode.breaking_apart (Unicode.breaking_of_isReserved reserved)
  have noSpace : c ≠ ' ' := by
    rintro rfl
    contradiction
  obtain ⟨d, inPhrase, rfl⟩ := mem_normalPhrase member (Or.inr reserved) noForm noSpace
  exact plain d inPhrase (mem_quotesAndMarks (Or.inr reserved))

/-- A phrase between quotes parses, and it holds of every record in which it stands between spaces. -/
theorem holds_quoted_phrase (phrase before after : String) (nonempty : phrase ≠ "")
    (starts : phrase.toList.head?.any isWhiteSpace = false)
    (ends : phrase.toList.getLast?.any isWhiteSpace = false)
    (plain : ∀ c ∈ phrase.toList, c ∉ quotesAndMarks) (literal : ∀ c ∈ phrase.toList, c ∉ meaningful) :
    ∃ condition, parse ("\"" ++ phrase ++ "\"") = .ok condition ∧
      condition.holds (Text.Normal.ofString (before ++ " " ++ phrase ++ " " ++ after)) = true := by
  have quotable : Quotable phrase.toList :=
    ⟨fun empty => nonempty (String.toList_eq_nil_iff.mp empty), starts, ends,
      fun c member quote => plain c member (mem_quotesAndMarks (Or.inl quote))⟩
  obtain ⟨pattern, run, term_eq, plainTerm⟩ := parse_quoted quotable literal
  refine ⟨.leaf pattern, ?_, ?_⟩
  · rw [parse]
    simpa using run
  · obtain ⟨left, right, shape⟩ :=
      Text.exists_phrase_ofChars before.toList after.toList quotable.words_ne_nil
    have text_eq : (Text.Normal.ofString (before ++ " " ++ phrase ++ " " ++ after)).chars =
        left ++ ' ' :: (normalPhrase phrase.toList ++ ' ' :: right) := by
      rw [normalPhrase, ← shape, Text.Normal.ofString]
      simp
    have splits : Splits pattern.term (normalPhrase phrase.toList) := by
      rw [term_eq]
      exact ⟨[], _, rfl, rfl, splits_map_shieldChar (isReserved_of_mem_normalPhrase plain)⟩
    rw [Condition.holds, Condition.holdsIn, text_eq, Pattern.matchesIn_iff_exists plainTerm]
    exact ⟨left, _, ' ', right, rfl, splits, by decide⟩

/-- A phrase with capitals, wildcards and parentheses. -/
theorem holds_quoted_phrase_sample :
    ∃ condition, parse ("\"" ++ "The (new)  C++ *?" ++ "\"") = .ok condition ∧
      condition.holds (Text.Normal.ofString ("see" ++ " " ++ "The (new)  C++ *?" ++ " " ++ "now")) =
        true :=
  holds_quoted_phrase "The (new)  C++ *?" "see" "now" (by decide) (by decide) (by decide)
    (by simp [quotesAndMarks, Mark.join, Mark.opening, Mark.closing, Mark.quote]) (by simp [meaningful])

end TextQuery.Query
