import TextQuery.Proofs.Query.Phrase
import TextQuery.Proofs.Query.Readings
import TextQuery.Proofs.Unicode.Capital
import TextQuery.Proofs.Unicode.Odd

/-!
# What terms show

A term of a parsed query has neither quotes nor parentheses, and its only blank is the space. Its source is
determined by what it shows.
-/
set_option autoImplicit false

namespace TextQuery.Query

open Text (Word words unwords clean squeeze straightQuote)
open Unicode (isWhiteSpace isReserved isInert isLowerForm lower)

/-! ## Characters of words -/

/-- A character that a word of a normalized query may have. -/
structure Sound (c : Char) : Prop where
  solid : isWhiteSpace c = false
  inside : isDelimiter c = false
  straight : straightQuote c = c
  noQuote : c ≠ '"'

theorem sound_of_mem_normalize {raw : List Char} {c : Char} (member : c ∈ normalize raw)
    (inside : isDelimiter c = false) : Sound c := by
  refine ⟨Bool.eq_false_iff.mpr fun blank => ?_, inside, straightQuote_of_mem_normalize member, ?_⟩
  · rw [eq_space_of_mem_normalize member blank] at inside
    contradiction
  · rintro rfl
    exact quote_not_mem_shieldFrom _ _ member

theorem sound_of_isLowerForm {c : Char} (form : isLowerForm c = true) : Sound c := by
  have notBreaking : Unicode.inRanges Unicode.breaking c ≠ true := by
    intro isBreak
    rw [isLowerForm, Unicode.inRanges_eq_false Unicode.breaking_apart isBreak] at form
    contradiction
  refine ⟨?_, ?_, ?_, ?_⟩
  · exact Bool.eq_false_iff.mpr fun blank => notBreaking (Unicode.breaking_of_isWhiteSpace blank)
  · exact Bool.eq_false_iff.mpr fun delimiter => notBreaking (breaking_of_isDelimiter delimiter)
  · unfold straightQuote
    split <;> first | rfl | contradiction
  · rintro rfl
    contradiction

/-- The characters of a term are spaces and those of words. -/
theorem sound_of_mem_lower {words : List Word} (sound : ∀ word ∈ words, ∀ c ∈ word, Sound c) {c : Char}
    (member : c ∈ lower (unwords words)) : c = ' ' ∨ Sound c := by
  rcases Unicode.mem_lower member with inWords | form
  · rcases Text.mem_unwords inWords with space | ⟨word, inList, inWord⟩
    · exact Or.inl space
    · exact Or.inr (sound word inList c inWord)
  · exact Or.inr (sound_of_isLowerForm form)

/-! ## Shown characters -/

/-- A character that a term of a parsed query may show. -/
structure Visible (c : Char) : Prop where
  straight : straightQuote c = c
  noQuote : c ≠ '"'
  noMark : isReserved c = false
  blank : isWhiteSpace c = true → c = ' '
  noKelvin : c ≠ '\u212A'

theorem isReserved_eq_false {c : Char} (join : c ≠ Mark.join) (opening : c ≠ Mark.opening)
    (closing : c ≠ Mark.closing) (quote : c ≠ Mark.quote) : isReserved c = false := by
  refine Bool.eq_false_iff.mpr fun reserved => ?_
  have marks : Unicode.passes (fun c => [Mark.join, Mark.opening, Mark.closing, Mark.quote].contains c)
      Unicode.reserved = true := by
    decide
  have mark := Unicode.of_passes marks reserved
  simp [join, opening, closing, quote] at mark

theorem visible_of_mem_restore {c d : Char} (sound : c = ' ' ∨ Sound c) (noKelvin : c ≠ '\u212A')
    (member : d ∈ Mark.restore c) : Visible d := by
  have space : Visible ' ' := ⟨by decide, by decide, by decide, fun _ => rfl, by decide⟩
  have opened : Visible '(' := ⟨by decide, by decide, by decide, by decide, by decide⟩
  have closed : Visible ')' := ⟨by decide, by decide, by decide, by decide, by decide⟩
  unfold Mark.restore at member
  by_cases quote : c = Mark.quote
  · rw [if_pos quote] at member
    contradiction
  rw [if_neg quote] at member
  by_cases join : c = Mark.join
  · rw [if_pos join, List.mem_singleton] at member
    exact member ▸ space
  rw [if_neg join] at member
  by_cases opening : c = Mark.opening
  · rw [if_pos opening, List.mem_singleton] at member
    exact member ▸ opened
  rw [if_neg opening] at member
  by_cases closing : c = Mark.closing
  · rw [if_pos closing, List.mem_singleton] at member
    exact member ▸ closed
  rw [if_neg closing, List.mem_singleton] at member
  rw [member]
  rcases sound with rfl | sound
  · exact space
  · refine ⟨sound.straight, sound.noQuote, isReserved_eq_false join opening closing quote, ?_, noKelvin⟩
    intro blank
    rw [sound.solid] at blank
    contradiction

/-! ## References and keywords -/

/-- A reference is written with digits and colons. -/
theorem isInert_of_groupNumber? {word : Word} {number : Nat} (reference : groupNumber? word = some number) :
    ∀ c ∈ word, isInert c = true := by
  unfold groupNumber? at reference
  split at reference
  · rename_i rest
    split at reference
    · rename_i colon
      unfold readNumber? at reference
      dsimp only at reference
      split at reference
      · rename_i digits
        have ends : rest = rest.dropLast ++ [':'] := by
          obtain ⟨more, shape⟩ := List.getLast?_eq_some_iff.mp colon
          rw [shape, List.dropLast_concat]
        rw [ends]
        intro c member
        simp only [List.mem_cons, List.mem_append, List.not_mem_nil, or_false] at member
        rcases member with rfl | inDigits | rfl
        · decide
        · exact (of_isDigit (List.all_eq_true.mp digits.2.1 c inDigits)).1
        · decide
      · contradiction
    · contradiction
  · contradiction

/-- Lower-casing makes no reference. -/
theorem groupNumber?_lower {word : Word} (bare : groupNumber? word = none) :
    groupNumber? (lower word) = none := by
  cases reference : groupNumber? (lower word) with
  | none => rfl
  | some number =>
    have same := Unicode.lower_eq_self_of_isInert (isInert_of_groupNumber? reference)
    rw [same, bare] at reference
    contradiction

theorem even_of_even_toLower {c : Char} (even : Unicode.isOdd c.toLower = false) :
    Unicode.isOdd c = false := by
  refine Bool.eq_false_iff.mpr fun odd => ?_
  unfold Char.toLower at even
  split at even
  · rename_i capital
    have low : c.toNat = c.val.toNat := rfl
    have letters : 'A'.val.toNat = 65 ∧ 'Z'.val.toNat = 90 := ⟨rfl, rfl⟩
    simp only [UInt32.le_iff_toNat_le] at capital
    rw [Unicode.isOdd_iff] at odd
    omega
  · rw [odd] at even
    contradiction

theorem even_of_isKeyword {word : List Char} {operator : Operator}
    (keyword : isKeyword operator word = true) : ∀ c ∈ word, Unicode.isOdd c = false := by
  intro c member
  rw [isKeyword, sameIgnoringCase, beq_iff_eq] at keyword
  have inKeyword : c.toLower ∈ operator.keyword.toList.map Char.toLower := by
    rw [← keyword]
    exact List.mem_map_of_mem member
  refine even_of_even_toLower ?_
  have letters : (operator.keyword.toList.map Char.toLower).all (fun d => !Unicode.isOdd d) = true := by
    cases operator <;> decide
  simpa using List.all_eq_true.mp letters _ inKeyword

/-! ## What cleaning makes of shown text -/

section Clean

variable {text : List Char} (visible : ∀ c ∈ text, Visible c)

include visible

theorem map_straightQuote_eq : text.map straightQuote = text := by
  rw [List.map_congr_left fun c member => (visible c member).straight, List.map_id']

theorem clean_eq_self_of_even (even : ∀ c ∈ clean text, Unicode.isOdd c = false) :
    clean text = text := by
  have noKelvin : '\u212A' ∉ text := fun member => (visible _ member).noKelvin rfl
  rw [clean, map_straightQuote_eq visible] at even ⊢
  exact Unicode.nfc_eq_self_of_even noKelvin even

theorem mem_of_isInert_of_mem_clean {c : Char} (member : c ∈ clean text) (inert : isInert c = true) :
    c ∈ text := by
  rw [clean, map_straightQuote_eq visible] at member
  exact Unicode.mem_of_isInert_of_mem_nfc member inert

theorem filter_isInert_clean : (clean text).filter isInert = text.filter isInert := by
  rw [clean, map_straightQuote_eq visible, Unicode.filter_isInert_nfc]

/-- A clean text is cut at an inert character where the text itself is cut. -/
theorem cut_clean {c : Char} (inert : isInert c = true) {left right : List Char} (absent : c ∉ left)
    (shape : clean text = left ++ c :: right) :
    ∃ before after, text = before ++ c :: after ∧ clean before = left := by
  have present : c ∈ text := mem_of_isInert_of_mem_clean visible (by simp [shape]) inert
  obtain ⟨before, after, rfl, first⟩ := List.eq_append_cons_of_mem present
  have straight := (visible c present).straight
  have visibleBefore : ∀ d ∈ before, Visible d := fun d member =>
    visible d (List.mem_append_left _ member)
  have absentBefore : c ∉ clean before := fun member =>
    first (mem_of_isInert_of_mem_clean visibleBefore member inert)
  rw [Text.clean_append_cons inert straight] at shape
  have place := congrArg (List.idxOf c) shape
  rw [List.idxOf_append_of_notMem absentBefore, List.idxOf_append_of_notMem absent,
    List.idxOf_cons_self, List.idxOf_cons_self] at place
  exact ⟨before, after, rfl, (List.append_inj shape place).1⟩

theorem isKeyword_of_isKeyword_clean {operator : Operator}
    (keyword : isKeyword operator (clean text) = true) : isKeyword operator text = true := by
  rwa [clean_eq_self_of_even visible (even_of_isKeyword keyword)] at keyword

theorem groupNumber?_clean (bare : groupNumber? text = none) : groupNumber? (clean text) = none := by
  cases reference : groupNumber? (clean text) with
  | none => rfl
  | some number =>
    have even : ∀ c ∈ clean text, Unicode.isOdd c = false := fun c member =>
      Unicode.isOdd_of_isInert (isInert_of_groupNumber? reference c member)
    rw [clean_eq_self_of_even visible even, bare] at reference
    contradiction

theorem isNear_of_isNear_clean (near : isNear (clean text) = true) : isNear text = true := by
  rw [isNear, nearTail?] at near
  split at near
  · rename_i keyword
    have even := @even_of_isKeyword _ .near keyword
    have parts := List.take_append_drop 4 (clean text)
    split at near
    · rename_i whole
      rw [whole, List.append_nil] at parts
      rw [parts] at keyword even
      have same := clean_eq_self_of_even visible even
      rw [same] at whole keyword parts
      simp [isNear, nearTail?, whole, parts, keyword]
    · rename_i rest tail
      rw [tail] at parts
      have absent : '/' ∉ (clean text).take 4 := by
        intro member
        have inKeyword := List.mem_map_of_mem (f := Char.toLower) member
        rw [sameIgnoringCase, beq_iff_eq] at keyword
        rw [keyword] at inKeyword
        exact absurd inKeyword (by decide)
      have long : ((clean text).take 4).length = 4 := by
        have drop := congrArg List.length tail
        rw [List.length_drop, List.length_cons] at drop
        rw [List.length_take]
        omega
      obtain ⟨before, after, shape, cleaned⟩ := cut_clean visible (by decide) absent parts.symm
      have visibleBefore : ∀ c ∈ before, Visible c := fun c member =>
        visible c (by simp [shape, member])
      rw [← cleaned] at keyword even long
      rw [clean_eq_self_of_even visibleBefore even] at keyword long
      have start : text.take 4 = before := by rw [shape, List.take_left' long]
      have tail : text.drop 4 = '/' :: after := by rw [shape, List.drop_left' long]
      simp [isNear, nearTail?, start, tail, keyword]
    · contradiction
  · contradiction

end Clean

/-! ## Patterns -/

namespace Pattern

theorem ofTerm?_term {term : List Char} {pattern : Pattern} (compiled : ofTerm? term = some pattern) :
    pattern.term = term := by
  unfold ofTerm? at compiled
  split at compiled
  · obtain rfl := Option.some.inj compiled
    rfl
  · contradiction

/-- A pattern as the parser makes it. -/
structure Legible (pattern : Pattern) : Prop where
  inside : ∀ c ∈ pattern.term, c ≠ '(' ∧ c ≠ ')'
  visible : ∀ c ∈ pattern.shown, Visible c
  bare : pattern.needsQuotes = false → pattern.shown ≠ [] ∧ groupNumber? pattern.shown = none

/-- What stands without quotes shows its term, and it would be read as one word. -/
structure Unquoted (pattern : Pattern) : Prop where
  shown : pattern.shown = pattern.term
  inside : ∀ c ∈ pattern.shown, isDelimiter c = false
  near : isNear pattern.shown = false
  keyword : ∀ operator, operator ≠ .near → isKeyword operator pattern.shown = false

theorem unquoted_of_needsQuotes {pattern : Pattern} (inside : ∀ c ∈ pattern.term, c ≠ '(' ∧ c ≠ ')')
    (bare : pattern.needsQuotes = false) : pattern.Unquoted := by
  simp only [needsQuotes, wordCount, Bool.or_eq_false_iff, List.any_eq_false, Bool.or_eq_true,
    decide_eq_true_eq, not_or] at bare
  obtain ⟨⟨⟨⟨⟨⟨single, unmarked⟩, -⟩, near⟩, or⟩, and⟩, not⟩ := bare
  have noSpace : ∀ c ∈ pattern.term, c ≠ ' ' ∧ c ≠ Mark.join := by
    have few := of_decide_eq_false single
    have none : pattern.term.countP (fun c => decide (c = ' ') || decide (c = Mark.join)) = 0 := by
      omega
    intro c member
    simpa using List.countP_eq_zero.mp none c member
  have same : pattern.shown = pattern.term := by
    have kept : ∀ c ∈ pattern.term, Mark.restore c = [c] := by
      intro c member
      obtain ⟨⟨opening, closing⟩, quote⟩ := unmarked c member
      rw [Mark.restore, if_neg quote, if_neg (noSpace c member).2, if_neg opening, if_neg closing]
    rw [shown, List.flatMap_congr kept, List.flatMap_singleton']
  refine ⟨same, fun c member => ?_, near, fun operator other => ?_⟩
  · rw [same] at member
    obtain ⟨opening, closing⟩ := inside c member
    simp [isDelimiter, noSpace c member, opening, closing]
  · cases operator with
    | or => exact or
    | and => exact and
    | not => exact not
    | near => exact absurd rfl other

theorem flatMap_expandChar {term : List Char} (inside : ∀ c ∈ term, c ≠ '(' ∧ c ≠ ')') :
    term.flatMap expandChar = (term.flatMap Mark.restore).flatMap fun c => expandChar (shieldChar c) := by
  have each : ∀ c ∈ term, expandChar c = (Mark.restore c).flatMap fun d => expandChar (shieldChar d) := by
    intro c member
    obtain ⟨opening, closing⟩ := inside c member
    unfold Mark.restore
    by_cases quote : c = Mark.quote
    · subst quote
      decide
    by_cases join : c = Mark.join
    · subst join
      decide
    by_cases marked : c = Mark.opening
    · subst marked
      decide
    by_cases markedEnd : c = Mark.closing
    · subst markedEnd
      decide
    by_cases space : c = ' '
    · subst space
      decide
    rw [if_neg quote, if_neg join, if_neg marked, if_neg markedEnd, List.flatMap_singleton]
    rw [shieldChar, if_neg space, if_neg opening, if_neg closing]
  rw [List.flatMap_congr each, List.flatMap_assoc]

/-- The source is determined by what the term shows. -/
theorem source_eq {pattern : Pattern} (inside : ∀ c ∈ pattern.term, c ≠ '(' ∧ c ≠ ')') :
    pattern.source =
      ' ' :: (pattern.shown.flatMap (fun c => expandChar (shieldChar c)) ++ wordEnd) := by
  rw [source, expression, flatMap_expandChar inside]
  rfl

/-- Terms of words that the parser may meet are legible. -/
theorem legible_of_sound {words : List Word} {pattern : Pattern} (nonempty : words ≠ [])
    (filled : ∀ word ∈ words, word ≠ []) (sound : ∀ word ∈ words, ∀ c ∈ word, Sound c)
    (bare : ∀ word ∈ words, groupNumber? word = none)
    (compiled : ofTerm? (lower (unwords words)) = some pattern) : pattern.Legible := by
  have term := ofTerm?_term compiled
  have soundTerm : ∀ c ∈ pattern.term, c = ' ' ∨ Sound c := by
    intro c member
    rw [term] at member
    exact sound_of_mem_lower sound member
  have inside : ∀ c ∈ pattern.term, c ≠ '(' ∧ c ≠ ')' := by
    intro c member
    rcases soundTerm c member with rfl | sound
    · decide
    · have noDelimiter := sound.inside
      constructor <;> rintro rfl <;> contradiction
  have visible : ∀ c ∈ pattern.shown, Visible c := by
    intro c member
    obtain ⟨d, inTerm, restored⟩ := List.mem_flatMap.mp member
    refine visible_of_mem_restore (soundTerm d inTerm) ?_ restored
    rintro rfl
    rw [term] at inTerm
    exact Unicode.kelvin_not_mem_lower _ inTerm
  refine ⟨inside, visible, fun unmarked => ?_⟩
  have unquoted := unquoted_of_needsQuotes inside unmarked
  have shows := unquoted.shown.trans term
  refine ⟨?_, ?_⟩
  · rw [shows]
    exact Unicode.lower_ne_nil (Text.unwords_ne_nil nonempty filled)
  · obtain ⟨word, rest, rfl⟩ := List.exists_cons_of_ne_nil nonempty
    by_cases last : rest = []
    · rw [shows, last]
      exact groupNumber?_lower (bare word List.mem_cons_self)
    · have split : lower (unwords (word :: rest)) = lower word ++ ' ' :: lower (unwords rest) := by
        rw [Text.unwords_cons last]
        exact Unicode.lower_append_cons
          (Unicode.breaks_of_breaking (Unicode.breaking_of_isWhiteSpace (by decide))) _ _
      have noSpace := unquoted.inside ' ' (by simp [shows, split])
      contradiction

end Pattern

end TextQuery.Query
