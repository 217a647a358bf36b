import TextQuery.Proofs.Query.Scan

/-!
# Which words a term covers

A term of one word covers the words that it matches, each once (`wordIndices_single`). A phrase covers
the words of its occurrences, taken from left to right (`wordIndices_phrase`). These are all its
occurrences unless two of them overlap, which only those of a phrase that ends as it begins can do.
-/
set_option autoImplicit false

namespace TextQuery.Query

open Text (Word Solid spaced orBlank)

/-! ## Terms of one word -/

/-- Before its first space the text is the front of the first word. -/
theorem first_word {words : List Word} (solid : Solid words) {front rest : List Char} {c : Char}
    (shape : spaced words = front ++ c :: rest) (noSpace : ' ' ∉ front) :
    ∃ right after, words = (front ++ right) :: after ∧ c :: rest = right ++ ' ' :: spaced after := by
  obtain ⟨before, left, right, after, rfl, rfl, rest_eq⟩ :=
    Text.exists_cut shape (List.cons_ne_nil c rest)
  cases before with
  | nil => exact ⟨right, after, rfl, rest_eq⟩
  | cons word before => simp at noSpace

theorem begins_single_iff {term : List Char} (fixed : '?' ∉ term)
    (single : ∀ c ∈ term, c ≠ ' ' ∧ c ≠ Mark.join) {words : List Word} (solid : Solid words) {k : Nat} :
    Begins term (words.drop k) ↔ ∃ word, words[k]? = some word ∧ ∃ middle c rest,
      word ++ [' '] = middle ++ c :: rest ∧ Splits term middle ∧ c ∈ closers := by
  constructor
  · rintro ⟨middle, c, rest, shape, splits, closes⟩
    have noSpace : ' ' ∉ middle := by
      rw [← List.count_eq_zero, count_splits fixed splits, List.countP_eq_zero]
      intro d member
      simp [single d member]
    obtain ⟨right, after, left, rest_eq⟩ := first_word (solid.drop k) shape noSpace
    refine ⟨middle ++ right, ?_, middle, ?_⟩
    · rw [← List.head?_drop, left]
      rfl
    · cases right with
      | nil =>
        obtain rfl : c = ' ' := (List.cons.inj rest_eq).1
        exact ⟨' ', [], by simp, splits, closes⟩
      | cons d right =>
        obtain rfl : c = d := (List.cons.inj rest_eq).1
        exact ⟨c, right ++ [' '], by simp, splits, closes⟩
  · rintro ⟨word, here, middle, c, rest, shape, splits, closes⟩
    rw [← List.head?_drop] at here
    obtain ⟨after, left⟩ := List.head?_eq_some_iff.mp here
    refine ⟨middle, c, rest ++ spaced after, ?_, splits, closes⟩
    rw [left, Text.spaced_cons, ← List.singleton_append, ← List.append_assoc, shape]
    simp

theorem wordCount_single {pattern : Pattern} (single : ∀ c ∈ pattern.term, c ≠ ' ' ∧ c ≠ Mark.join) :
    pattern.wordCount = 1 := by
  rw [Pattern.wordCount, List.countP_eq_zero.mpr]
  intro c member
  simp [single c member]

theorem flatMap_range'_one (starts : List Nat) : starts.flatMap (List.range' · 1) = starts := by
  simp

/-- The words that a term of one word covers, in order: those of which it matches a front that a closing
character or the end of the word follows. -/
theorem wordIndices_single (term : List Char) (literal : ∀ c ∈ term, IsLiteral c)
    (single : ∀ c ∈ term, c ≠ '?' ∧ c ≠ ' ' ∧ c ≠ Mark.join) (raw : String)
    (worded : Text.words raw.toList ≠ []) :
    ∃ pattern, Pattern.ofTerm? term = some pattern ∧
      (pattern.wordIndices (Text.Normal.ofString raw).chars.toArray).Pairwise (· < ·) ∧
      ∀ k, k ∈ pattern.wordIndices (Text.Normal.ofString raw).chars.toArray ↔
        ∃ word, (Text.Normal.ofString raw).toWords[k]? = some word ∧ ∃ middle c rest,
          word ++ [' '] = middle ++ c :: rest ∧ Splits term middle ∧ c ∈ ['?', '!', ',', '.', ' '] := by
  have fixed : '?' ∉ term := fun member => (single _ member).1 rfl
  have joinless : ∀ c ∈ term, c ≠ ' ' ∧ c ≠ Mark.join := fun c member => (single c member).2
  have words : (Text.Normal.ofString raw).toWords ≠ [] := by
    rw [← List.length_pos_iff, Text.length_toWords_ofString, List.length_pos_iff]
    exact worded
  have solid := (Text.toWords_ofString raw).2.1
  obtain ⟨pattern, compiled, rfl⟩ := exists_pattern_of_literal literal
  refine ⟨pattern, compiled, ?_⟩
  rw [Text.chars_ofString, orBlank, if_neg words]
  obtain ⟨starts, found, taken⟩ := wordIndices_scan literal fixed solid
  rw [wordCount_single joinless] at found taken
  rw [found, flatMap_range'_one]
  refine ⟨taken.apart.imp Nat.lt_of_succ_le, fun k => ?_⟩
  rw [taken.mem_iff]
  exact begins_single_iff fixed joinless solid

theorem wordIndices_single_sample :
    (∀ c ∈ "a*.".toList, IsLiteral c) ∧
      (∀ c ∈ "a*.".toList, c ≠ '?' ∧ c ≠ ' ' ∧ c ≠ Mark.join) ∧
      Text.words "x ab.c A.,b".toList ≠ [] ∧
      ∃ pattern, Pattern.ofTerm? "a*.".toList = some pattern ∧
        2 ∈ pattern.wordIndices (Text.Normal.ofString "x ab.c A.,b").chars.toArray := by
  have literal : ∀ c ∈ "a*.".toList, IsLiteral c := by simp [IsLiteral]
  have single : ∀ c ∈ "a*.".toList, c ≠ '?' ∧ c ≠ ' ' ∧ c ≠ Mark.join := by simp [Mark.join]
  have worded : Text.words "x ab.c A.,b".toList ≠ [] := by decide
  refine ⟨literal, single, worded, ?_⟩
  obtain ⟨pattern, compiled, -, exact⟩ := wordIndices_single _ literal single "x ab.c A.,b" worded
  refine ⟨pattern, compiled, (exact 2).mpr ⟨"a.,b".toList, by decide +kernel, ?_⟩⟩
  exact ⟨"a.".toList, ',', "b ".toList, by decide, by decide, by decide⟩

/-! ## Phrases -/

/-- The characters that a word of a phrase must not have: those that do not stand for themselves in a
term, and those that may follow a word. -/
def special : List Char :=
  ['\\', '[', '(', ')', '|', '\x7b', '^', '$', '.', '+', '?', '*', '!', ',', ' ', Mark.join, Mark.opening,
    Mark.closing, Mark.quote]

theorem isLiteral_of_plain {c : Char} (plain : c ∉ special) : IsLiteral c := by
  intro member
  apply plain
  simp only [special, List.mem_cons] at member ⊢
  tauto

theorem accepts_of_plain {c : Char} (plain : c ∉ special) {text : List Char} :
    Accepts c text ↔ text = [c] := by
  simp only [special, List.mem_cons, not_or] at plain
  simp [Accepts, plain]

theorem ne_of_plain {c : Char} (plain : c ∉ special) : c ∉ closers ∧ c ≠ ' ' ∧ c ≠ Mark.join := by
  simp only [special, List.mem_cons, not_or] at plain
  simp [closers, plain]

theorem splits_append {word : Word} (plain : ∀ c ∈ word, c ∉ special) {term text : List Char} :
    Splits (word ++ term) text ↔ ∃ rest, text = word ++ rest ∧ Splits term rest := by
  induction word generalizing text with
  | nil => simp
  | cons c word ih =>
    obtain ⟨first, others⟩ := List.forall_mem_cons.mp plain
    constructor
    · rintro ⟨_, _, rfl, accepts, behind⟩
      obtain rfl := (accepts_of_plain first).mp accepts
      obtain ⟨rest, rfl, splits⟩ := (ih others).mp behind
      exact ⟨rest, rfl, splits⟩
    · rintro ⟨rest, rfl, splits⟩
      exact ⟨[c], word ++ rest, rfl, (accepts_of_plain first).mpr rfl, (ih others).mpr ⟨rest, rfl, splits⟩⟩

/-- The shown word is the word, or the word and more text behind a mark that may follow it. -/
def Shows (word shown : Word) : Prop :=
  shown = word ∨ ∃ c ∈ ['?', '!', ',', '.'], ∃ rest, shown = word ++ c :: rest

/-- The phrase stands in the words from `start` on. Its last word may be followed by a mark. -/
def OccursAt (phrase words : List Word) (start : Nat) : Prop :=
  ∃ front last shown rest, phrase = front ++ [last] ∧ words.drop start = front ++ shown :: rest ∧
    Shows last shown

/-- A proper part of the phrase both begins and ends it. -/
def Bordered (phrase : List Word) : Prop :=
  ∃ border, border ≠ [] ∧ border.length < phrase.length ∧ border <+: phrase ∧ border <:+ phrase

theorem occursAt_drop {phrase words : List Word} {start : Nat} :
    OccursAt phrase words start ↔ OccursAt phrase (words.drop start) 0 := Iff.rfl

theorem occursAt_singleton {word : Word} {words : List Word} :
    OccursAt [word] words 0 ↔ ∃ shown rest, words = shown :: rest ∧ Shows word shown := by
  constructor
  · rintro ⟨front, last, shown, rest, phrase_eq, rfl, shows⟩
    obtain ⟨rfl, rfl⟩ : front = [] ∧ last = word := by
      simpa using List.append_eq_singleton_iff.mp phrase_eq.symm
    exact ⟨shown, rest, rfl, shows⟩
  · rintro ⟨shown, rest, rfl, shows⟩
    exact ⟨[], word, shown, rest, rfl, rfl, shows⟩

theorem occursAt_cons {word : Word} {phrase words : List Word} (more : phrase ≠ []) :
    OccursAt (word :: phrase) words 0 ↔ ∃ others, words = word :: others ∧ OccursAt phrase others 0 := by
  constructor
  · rintro ⟨front, last, shown, rest, phrase_eq, rfl, shows⟩
    cases front with
    | nil => exact absurd (List.cons.inj phrase_eq).2 more
    | cons other front =>
      obtain ⟨rfl, rfl⟩ := List.cons.inj phrase_eq
      exact ⟨_, rfl, front, last, shown, rest, rfl, rfl, shows⟩
  · rintro ⟨_, rfl, front, last, shown, rest, rfl, others_eq, shows⟩
    rw [List.drop_zero] at others_eq
    subst others_eq
    exact ⟨word :: front, last, shown, rest, rfl, rfl, shows⟩

/-- The first word shows a word if the text begins with it and a character that may follow it. -/
theorem shows_iff_spaced {word : Word} {words : List Word} (solid : Solid words) (noSpace : ' ' ∉ word) :
    (∃ shown rest, words = shown :: rest ∧ Shows word shown) ↔
      ∃ c rest, spaced words = word ++ c :: rest ∧ c ∈ closers := by
  constructor
  · rintro ⟨shown, rest, rfl, rfl | ⟨c, mark, more, rfl⟩⟩
    · exact ⟨' ', spaced rest, by simp, by decide⟩
    · exact ⟨c, more ++ ' ' :: spaced rest, by simp, List.mem_append_left [' '] mark⟩
  · rintro ⟨c, rest, shape, closes⟩
    obtain ⟨right, after, rfl, rest_eq⟩ := first_word solid shape noSpace
    refine ⟨_, after, rfl, ?_⟩
    cases right with
    | nil => exact Or.inl (List.append_nil word)
    | cons d right =>
      obtain rfl := (List.cons.inj rest_eq).1
      refine Or.inr ⟨c, ?_, right, rfl⟩
      have other : c ≠ ' ' := by
        rintro rfl
        exact (List.forall_mem_cons.mp solid).1 (by simp)
      simpa [closers, other] using closes

section Phrase

variable {phrase : List Word} (filled : phrase ≠ []) (plain : ∀ word ∈ phrase, ∀ c ∈ word, c ∉ special)

include filled plain

theorem splits_phrase {text : List Char} :
    Splits ([Mark.join].intercalate phrase) text ↔ text = Text.unwords phrase := by
  induction phrase generalizing text with
  | nil => contradiction
  | cons word phrase ih =>
    obtain ⟨first, others⟩ := List.forall_mem_cons.mp plain
    by_cases more : phrase = []
    · subst more
      rw [List.intercalate_singleton, ← List.append_nil word, splits_append first]
      simp [Splits, Text.unwords]
    · rw [List.intercalate_cons_of_ne_nil more, List.append_assoc, splits_append first,
        Text.unwords_cons more]
      constructor
      · rintro ⟨_, rfl, _, rest, rfl, rfl, splits⟩
        rw [(ih more others).mp splits, List.singleton_append]
      · rintro rfl
        exact ⟨_, rfl, [' '], _, rfl, rfl, (ih more others).mpr rfl⟩

theorem wordCount_phrase {pattern : Pattern} (joined : pattern.term = [Mark.join].intercalate phrase) :
    pattern.wordCount = phrase.length := by
  rw [Pattern.wordCount, joined]
  clear joined
  induction phrase with
  | nil => contradiction
  | cons word phrase ih =>
    obtain ⟨first, others⟩ := List.forall_mem_cons.mp plain
    have none : word.countP (fun c => c = ' ' || c = Mark.join) = 0 := by
      rw [List.countP_eq_zero]
      intro c member
      simp [ne_of_plain (first c member)]
    by_cases more : phrase = []
    · subst more
      rw [List.intercalate_singleton, none]
      rfl
    · have one : [Mark.join].countP (fun c => c = ' ' || c = Mark.join) = 1 := by decide
      rw [List.intercalate_cons_of_ne_nil more, List.countP_append, List.countP_append, none, one,
        Nat.zero_add, ih more others, List.length_cons, Nat.add_comm]

/-- Where the text of the words begins with the phrase, the words are those of the phrase. -/
theorem occursAt_zero_iff {words : List Word} (solid : Solid words) : OccursAt phrase words 0 ↔
    ∃ c rest, spaced words = Text.unwords phrase ++ c :: rest ∧ c ∈ closers := by
  induction phrase generalizing words with
  | nil => contradiction
  | cons word phrase ih =>
    obtain ⟨first, others⟩ := List.forall_mem_cons.mp plain
    have noSpace : ' ' ∉ word := fun member => (ne_of_plain (first _ member)).2.1 rfl
    by_cases more : phrase = []
    · subst more
      rw [occursAt_singleton, Text.unwords]
      exact shows_iff_spaced solid noSpace
    · rw [Text.unwords_cons more]
      constructor
      · intro occurs
        obtain ⟨behind, rfl, later⟩ := (occursAt_cons more).mp occurs
        obtain ⟨c, rest, shape, closes⟩ := (ih more others (List.forall_mem_cons.mp solid).2).mp later
        exact ⟨c, rest, by simp [shape], closes⟩
      · rintro ⟨c, rest, shape, closes⟩
        rw [List.append_assoc, List.cons_append] at shape
        obtain ⟨right, after, rfl, rest_eq⟩ := first_word solid shape noSpace
        obtain ⟨noSpaces, solidAfter⟩ := List.forall_mem_cons.mp solid
        cases right with
        | nil =>
          rw [List.append_nil]
          refine (occursAt_cons more).mpr ⟨after, rfl, (ih more others solidAfter).mpr ⟨c, rest, ?_, closes⟩⟩
          exact (List.cons.inj rest_eq).2.symm
        | cons d right =>
          obtain rfl := (List.cons.inj rest_eq).1
          simp at noSpaces

theorem begins_phrase_iff {words : List Word} (solid : Solid words) {start : Nat} :
    Begins ([Mark.join].intercalate phrase) (words.drop start) ↔ OccursAt phrase words start := by
  rw [occursAt_drop, occursAt_zero_iff filled plain (solid.drop start), Begins]
  simp only [splits_phrase filled plain]
  constructor
  · rintro ⟨middle, c, rest, shape, rfl, closes⟩
    exact ⟨c, rest, shape, closes⟩
  · rintro ⟨c, rest, shape, closes⟩
    exact ⟨_, c, rest, shape, rfl, closes⟩

end Phrase

/-- A record without words has no occurrences, also if its blank is taken for a word. -/
theorem occursAt_orBlank {phrase : List Word} (solid : [] ∉ phrase) {words : List Word} {start : Nat} :
    OccursAt phrase (orBlank words) start ↔ OccursAt phrase words start := by
  by_cases none : words = []
  · subst none
    constructor
    · rintro ⟨front, last, shown, rest, rfl, blank, shows⟩
      have member : shown ∈ [([] : Word)].drop start := by
        rw [show [([] : Word)] = orBlank [] from rfl, blank]
        simp
      obtain rfl : shown = [] := List.mem_singleton.mp (List.mem_of_mem_drop member)
      rcases shows with rfl | ⟨c, mark, more, absurdity⟩
      · simp at solid
      · simp at absurdity
    · rintro ⟨front, last, shown, rest, rfl, empty, shows⟩
      simp at empty
  · rw [orBlank, if_neg none]

/-- A plain word is shown by itself only. -/
theorem eq_of_shows {word shown : Word} (plain : ∀ c ∈ shown, c ∉ special) (shows : Shows word shown) :
    shown = word := by
  rcases shows with same | ⟨c, mark, more, rfl⟩
  · exact same
  · have other := (ne_of_plain (plain c (by simp))).1
    exact absurd (List.mem_append_left [' '] mark) other

/-- Occurrences that share words make a border of the phrase: the words that they share. -/
theorem bordered_of_overlap {phrase : List Word} (plain : ∀ word ∈ phrase, ∀ c ∈ word, c ∉ special)
    {words : List Word} {start next : Nat} (first : OccursAt phrase words start)
    (second : OccursAt phrase words next) (after : start < next) (inside : next < start + phrase.length) :
    Bordered phrase := by
  obtain ⟨front, last, shown, rest, rfl, here, shows⟩ := first
  obtain ⟨front', last', shown', rest', phrase_eq, there, -⟩ := second
  obtain ⟨rfl, rfl⟩ : front = front' ∧ last = last' := by simpa using phrase_eq
  obtain ⟨offset, rfl⟩ := Nat.exists_eq_add_of_le (Nat.le_of_lt after)
  rw [List.length_append, List.length_singleton] at inside
  have room : offset ≤ front.length := by omega
  rw [← List.drop_drop, here, List.drop_append_of_le_length room] at there
  -- The words of the first occurrence from the start of the second on are a front of the phrase.
  have shared : front.drop offset ++ [shown] <+: front := by
    have longer : front.drop offset ++ [shown] <+: front ++ shown' :: rest' :=
      ⟨rest, by rw [← there, List.append_assoc, List.singleton_append]⟩
    refine List.prefix_of_prefix_length_le longer (List.prefix_append _ _) ?_
    simp only [List.length_append, List.length_drop, List.length_singleton]
    omega
  -- So the last of them is a word of the phrase, and has no mark behind it.
  have member : shown ∈ front := shared.subset (by simp)
  obtain rfl : shown = last := eq_of_shows (plain shown (List.mem_append_left _ member)) shows
  refine ⟨front.drop offset ++ [shown], by simp, ?_, shared.trans (List.prefix_append _ _), ?_⟩
  · simp only [List.length_append, List.length_drop, List.length_singleton]
    omega
  · exact ⟨front.take offset, by rw [← List.append_assoc, List.take_append_drop]⟩

/-- The search for a phrase takes its occurrences from left to right. -/
theorem wordIndices_occurrences {phrase : List Word} (filled : phrase ≠ []) (solid : [] ∉ phrase)
    (plain : ∀ word ∈ phrase, ∀ c ∈ word, c ∉ special) :
    ∃ pattern, Pattern.ofTerm? ([Mark.join].intercalate phrase) = some pattern ∧ ∀ raw, ∃ starts,
      pattern.wordIndices (Text.Normal.ofString raw).chars.toArray =
        starts.flatMap (List.range' · phrase.length) ∧
      Taken (OccursAt phrase (Text.Normal.ofString raw).toWords) phrase.length 0 starts := by
  have harmless : ∀ c ∈ [Mark.join].intercalate phrase, IsLiteral c ∧ c ≠ '?' := by
    intro c member
    rcases (Text.mem_intercalate member).imp_left List.mem_singleton.mp with rfl | ⟨word, inPhrase, inWord⟩
    · decide
    · have clear := plain word inPhrase c inWord
      refine ⟨isLiteral_of_plain clear, ?_⟩
      rintro rfl
      exact clear (by decide)
  have literal : ∀ c ∈ [Mark.join].intercalate phrase, IsLiteral c := fun c member => (harmless c member).1
  obtain ⟨pattern, compiled, joined⟩ := exists_pattern_of_literal literal
  have fixed : '?' ∉ pattern.term := by
    rw [joined]
    exact fun member => (harmless _ member).2 rfl
  refine ⟨pattern, compiled, fun raw => ?_⟩
  have solidWords := (Text.toWords_ofString raw).2.1.orBlank
  rw [← joined] at literal
  obtain ⟨starts, found, taken⟩ := wordIndices_scan literal fixed solidWords
  rw [wordCount_phrase filled plain joined] at found taken
  have occurs : (fun first => Begins pattern.term ((orBlank (Text.Normal.ofString raw).toWords).drop first)) =
      OccursAt phrase (Text.Normal.ofString raw).toWords := by
    funext first
    rw [joined, begins_phrase_iff filled plain solidWords, occursAt_orBlank solid]
  rw [occurs] at taken
  rw [Text.chars_ofString]
  exact ⟨starts, found, taken⟩

/-- A word covers the words that show it. -/
theorem wordIndices_word {word : Word} (filled : word ≠ []) (plain : ∀ c ∈ word, c ∉ special) :
    ∃ pattern, Pattern.ofTerm? word = some pattern ∧ ∀ (raw : String) (k : Nat),
      k ∈ pattern.wordIndices (Text.Normal.ofString raw).chars.toArray ↔
        ∃ shown, (Text.Normal.ofString raw).toWords[k]? = some shown ∧ Shows word shown := by
  have solid : [] ∉ [word] := by simpa using filled
  have clear : ∀ other ∈ [word], ∀ c ∈ other, c ∉ special := by simpa using plain
  obtain ⟨pattern, compiled, search⟩ := wordIndices_occurrences (List.cons_ne_nil word []) solid clear
  rw [List.intercalate_singleton] at compiled
  refine ⟨pattern, compiled, fun raw k => ?_⟩
  obtain ⟨starts, found, taken⟩ := search raw
  rw [List.length_singleton] at found taken
  rw [found, flatMap_range'_one, taken.mem_iff, occursAt_drop, occursAt_singleton, ← List.head?_drop]
  constructor
  · rintro ⟨shown, rest, left, shows⟩
    exact ⟨shown, by rw [left, List.head?_cons], shows⟩
  · rintro ⟨shown, first, shows⟩
    obtain ⟨rest, left⟩ := List.head?_eq_some_iff.mp first
    exact ⟨shown, rest, left, shows⟩

/-- The word is covered by an occurrence of the phrase. -/
def IsCovered (phrase words : List Word) (k : Nat) : Prop :=
  ∃ start, OccursAt phrase words start ∧ start ≤ k ∧ k < start + phrase.length

/-- A phrase covers the words of the occurrences that are taken from left to right. These are all the
words that its occurrences cover, exactly if right behind each taken one inside which another begins there
is a taken one again. No occurrence begins inside another if the phrase has no border. -/
theorem wordIndices_phrase (phrase : List Word) (filled : phrase ≠ [])
    (plain : ∀ word ∈ phrase, word ≠ [] ∧ ∀ c ∈ word, c ∉ special) :
    ∃ pattern, Pattern.ofTerm? ([Mark.join].intercalate phrase) = some pattern ∧
      ∀ raw : String, ∃ starts,
        Taken (OccursAt phrase (Text.Normal.ofString raw).toWords) phrase.length 0 starts ∧
        pattern.wordIndices (Text.Normal.ofString raw).chars.toArray =
          starts.flatMap (List.range' · phrase.length) ∧
        ((∀ k, k ∈ pattern.wordIndices (Text.Normal.ofString raw).chars.toArray ↔
            IsCovered phrase (Text.Normal.ofString raw).toWords k) ↔
          ∀ start ∈ starts, ∀ next, OccursAt phrase (Text.Normal.ofString raw).toWords next →
            start < next → next < start + phrase.length → start + phrase.length ∈ starts) ∧
        (¬ Bordered phrase → ∀ k,
          k ∈ pattern.wordIndices (Text.Normal.ofString raw).chars.toArray ↔
            IsCovered phrase (Text.Normal.ofString raw).toWords k) := by
  have solid : [] ∉ phrase := fun member => (plain [] member).1 rfl
  have clear : ∀ word ∈ phrase, ∀ c ∈ word, c ∉ special := fun word member => (plain word member).2
  obtain ⟨pattern, compiled, search⟩ := wordIndices_occurrences filled solid clear
  refine ⟨pattern, compiled, fun raw => ?_⟩
  obtain ⟨starts, found, taken⟩ := search raw
  have covers := taken.covers_iff
  have member : ∀ k, k ∈ pattern.wordIndices (Text.Normal.ofString raw).chars.toArray ↔
      ∃ start ∈ starts, start ≤ k ∧ k < start + phrase.length := by
    intro k
    simp only [found, List.mem_flatMap, List.mem_range'_1]
  simp only [← member] at covers
  refine ⟨starts, taken, found, covers, fun borderless => covers.mpr ?_⟩
  intro start here next there after inside
  have overlap := bordered_of_overlap clear (taken.sound start here).2 there after inside
  exact absurd overlap borderless

theorem wordIndices_phrase_sample :
    ["a".toList, "b".toList] ≠ [] ∧
      (∀ word ∈ ["a".toList, "b".toList], word ≠ [] ∧ ∀ c ∈ word, c ∉ special) ∧
      ∃ pattern, Pattern.ofTerm? "a\uE000b".toList = some pattern ∧
        3 ∈ pattern.wordIndices (Text.Normal.ofString "A b a  B, c").chars.toArray := by
  have filled : ["a".toList, "b".toList] ≠ [] := by decide
  have plain : ∀ word ∈ ["a".toList, "b".toList], word ≠ [] ∧ ∀ c ∈ word, c ∉ special := by
    simp [special, Mark.join, Mark.opening, Mark.closing, Mark.quote]
  refine ⟨filled, plain, ?_⟩
  obtain ⟨pattern, compiled, search⟩ := wordIndices_phrase _ filled plain
  refine ⟨pattern, compiled, ?_⟩
  obtain ⟨-, -, -, -, exact⟩ := search "A b a  B, c"
  have borderless : ¬ Bordered ["a".toList, "b".toList] := by
    rintro ⟨border, nonempty, short, ⟨behind, front⟩, ⟨before, back⟩⟩
    obtain ⟨word, rfl⟩ : ∃ word, border = [word] := by
      rw [← List.length_eq_one_iff]
      have positive := List.length_pos_iff.mpr nonempty
      simp only [List.length_cons, List.length_nil] at short
      omega
    obtain rfl : word = "a".toList := (List.cons.inj front).1
    have last := congrArg List.getLast? back
    simp at last
  refine (exact borderless 3).mpr ⟨2, ?_, by decide, by decide⟩
  exact ⟨["a".toList], "b".toList, "b,".toList, ["c".toList], rfl, by decide +kernel,
    Or.inr ⟨',', by decide, [], rfl⟩⟩

/-- Of three equal words the phrase of two covers the last as well, but the search has gone behind the
start of that occurrence. -/
theorem wordIndices_phrase_overlap :
    ∃ pattern, Pattern.ofTerm? ([Mark.join].intercalate ["a".toList, "a".toList]) = some pattern ∧
      ¬ ∀ k, k ∈ pattern.wordIndices (Text.Normal.ofString "a a a").chars.toArray ↔
        IsCovered ["a".toList, "a".toList] (Text.Normal.ofString "a a a").toWords k := by
  have search : (Pattern.ofTerm? ([Mark.join].intercalate ["a".toList, "a".toList])).map
      (·.wordIndices (Text.Normal.ofString "a a a").chars.toArray) = some [0, 1] := by decide +kernel
  obtain ⟨pattern, compiled, found⟩ := Option.map_eq_some_iff.mp search
  refine ⟨pattern, compiled, fun same => ?_⟩
  have second : OccursAt ["a".toList, "a".toList] (Text.Normal.ofString "a a a").toWords 1 :=
    ⟨["a".toList], "a".toList, "a".toList, [], rfl, by decide +kernel, Or.inl rfl⟩
  have missed := (same 2).mpr ⟨1, second, by decide, by decide⟩
  rw [found] at missed
  contradiction

end TextQuery.Query
