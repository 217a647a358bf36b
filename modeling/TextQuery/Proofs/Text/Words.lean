import TextQuery.Text.Words

/-!
# Words of a text

A text is either one run without blanks or starts with such a run and a blank after it, and a blank cuts
its words in two. Everything else about words follows from these two facts.
-/
set_option autoImplicit false

namespace TextQuery.Text

section Split

variable {blank : Char → Bool}

@[simp] theorem splitWords_nil : splitWords blank [] = [] := rfl

theorem splitWords_cons_of_blank {c : Char} (isBlank : blank c = true) (rest : List Char) :
    splitWords blank (c :: rest) = splitWords blank rest := by
  simp [splitWords, isBlank]

/-- A character with a blank behind it, or nothing, is a word of its own. -/
theorem splitWords_cons_of_alone {c : Char} (notBlank : blank c = false) {rest : List Char}
    (alone : rest.head?.all blank = true) :
    splitWords blank (c :: rest) = [c] :: splitWords blank rest := by
  rw [splitWords.eq_def]
  simp only [notBlank, Bool.false_eq_true, if_false]
  cases rest with
  | nil => rfl
  | cons d more =>
    have blankNext : blank d = true := by simpa using alone
    cases splitWords blank (d :: more) <;> simp [blankNext]

/-- A character before a word belongs to that word. -/
theorem splitWords_cons_of_joined {c d : Char} (notBlank : blank c = false)
    (nextNotBlank : blank d = false) {more : List Char} {word : Word} {words : List Word}
    (found : splitWords blank (d :: more) = word :: words) :
    splitWords blank (c :: d :: more) = (c :: word) :: words := by
  rw [splitWords.eq_def]
  simp [notBlank, nextNotBlank, found]

theorem splitWords_cons_ne_nil {c : Char} (notBlank : blank c = false) (rest : List Char) :
    splitWords blank (c :: rest) ≠ [] := by
  rw [splitWords.eq_def]
  simp only [notBlank, Bool.false_eq_true, if_false]
  split
  · split <;> simp
  · simp

/-- A blank separates the words before it from those behind it. -/
theorem splitWords_append_cons {b : Char} (isBlank : blank b = true) (left right : List Char) :
    splitWords blank (left ++ b :: right) = splitWords blank left ++ splitWords blank right := by
  induction left with
  | nil => simp [splitWords_cons_of_blank isBlank]
  | cons c rest ih =>
    cases blankHead : blank c with
    | true => simp only [List.cons_append, splitWords_cons_of_blank blankHead, ih]
    | false =>
      cases rest with
      | nil =>
        rw [List.cons_append, splitWords_cons_of_alone blankHead (by simpa using isBlank), ih,
          splitWords_cons_of_alone blankHead rfl]
        rfl
      | cons d more =>
        cases blankNext : blank d with
        | true =>
          rw [List.cons_append, splitWords_cons_of_alone blankHead (by simpa using blankNext), ih,
            splitWords_cons_of_alone blankHead (by simpa using blankNext)]
          rfl
        | false =>
          obtain ⟨word, words, found⟩ :=
            List.exists_cons_of_ne_nil (splitWords_cons_ne_nil blankNext more)
          simp only [found, List.cons_append] at ih ⊢
          rw [splitWords_cons_of_joined blankHead blankNext ih,
            splitWords_cons_of_joined blankHead blankNext found]
          rfl

/-- A text without blanks is one word, unless it is empty. -/
theorem splitWords_eq_singleton {word : List Char} (nonempty : word ≠ [])
    (solid : ∀ c ∈ word, blank c = false) : splitWords blank word = [word] := by
  induction word with
  | nil => exact absurd rfl nonempty
  | cons c rest ih =>
    have notBlank : blank c = false := solid c List.mem_cons_self
    cases rest with
    | nil => exact splitWords_cons_of_alone notBlank rfl
    | cons d more =>
      have tail := ih (by simp) fun e member => solid e (List.mem_cons_of_mem _ member)
      exact splitWords_cons_of_joined notBlank (solid d (by simp)) tail

/-- Induction on the runs of a text: a run without blanks stands at its end or before a blank. -/
theorem run_induction (blank : Char → Bool) {motive : List Char → Prop}
    (run : ∀ word, (∀ c ∈ word, blank c = false) → motive word)
    (cut : ∀ word b rest, (∀ c ∈ word, blank c = false) → blank b = true → motive rest →
      motive (word ++ b :: rest)) (text : List Char) : motive text := by
  suffices generalized : ∀ text word, (∀ c ∈ word, blank c = false) → motive (word ++ text) by
    simpa using generalized text [] (by simp)
  intro text
  induction text with
  | nil =>
    intro word solid
    simpa using run word solid
  | cons c rest ih =>
    intro word solid
    by_cases isBlank : blank c = true
    · exact cut word c rest solid isBlank (by simpa using ih [] (by simp))
    · have longer : ∀ d ∈ word ++ [c], blank d = false := by
        intro d member
        rcases List.mem_append.mp member with member | member
        · exact solid d member
        · rw [List.mem_singleton.mp member]
          simpa using isBlank
      simpa using ih (word ++ [c]) longer

/-- The words of a run and a blank, followed by more. -/
theorem splitWords_run_cons {word : List Char} (solid : ∀ c ∈ word, blank c = false) {b : Char}
    (isBlank : blank b = true) (rest : List Char) :
    splitWords blank (word ++ b :: rest) =
      (if word = [] then [] else [word]) ++ splitWords blank rest := by
  rw [splitWords_append_cons isBlank]
  split
  · simp [*]
  · rename_i nonempty
    rw [splitWords_eq_singleton nonempty solid]

/-- A word is not empty, has no blank, and all its characters come from the text. -/
theorem of_mem_splitWords {word : Word} {text : List Char} (member : word ∈ splitWords blank text) :
    word ≠ [] ∧ (∀ c ∈ word, blank c = false) ∧ ∀ c ∈ word, c ∈ text := by
  induction text using run_induction blank with
  | run only solid =>
    by_cases empty : only = []
    · simp [empty] at member
    · rw [splitWords_eq_singleton empty solid, List.mem_singleton] at member
      subst member
      exact ⟨empty, solid, fun _ inWord => inWord⟩
  | cut first b rest solid isBlank ih =>
    rw [splitWords_append_cons isBlank, List.mem_append] at member
    rcases member with member | member
    · by_cases empty : first = []
      · simp [empty] at member
      · rw [splitWords_eq_singleton empty solid, List.mem_singleton] at member
        subst member
        exact ⟨empty, solid, fun _ inWord => by simp [inWord]⟩
    · obtain ⟨nonempty, solidWord, inside⟩ := ih member
      exact ⟨nonempty, solidWord, fun c inWord => by simp [inside c inWord]⟩

/-- A text that does not end in a blank ends in a word, and what is written behind it without a blank
belongs to that word. -/
theorem exists_last_word {text : List Char} (nonempty : text ≠ [])
    (ends : ∀ c, text.getLast? = some c → blank c = false) :
    ∃ words word, word ≠ [] ∧ ∀ suffix, (∀ c ∈ suffix, blank c = false) →
      splitWords blank (text ++ suffix) = words ++ [word ++ suffix] := by
  induction text using run_induction blank with
  | run word solid =>
    refine ⟨[], word, nonempty, ?_⟩
    intro suffix solidSuffix
    apply splitWords_eq_singleton (by simp [nonempty])
    intro c member
    rcases List.mem_append.mp member with member | member
    · exact solid c member
    · exact solidSuffix c member
  | cut first b rest solid isBlank ih =>
    have more : rest ≠ [] := by
      rintro rfl
      have notBlank := ends b (by simp)
      rw [isBlank] at notBlank
      contradiction
    obtain ⟨words, word, filled, split⟩ := ih more fun c last => ends c (by simp [List.getLast?_cons, last])
    refine ⟨splitWords blank first ++ words, word, filled, ?_⟩
    intro suffix solidSuffix
    rw [List.append_assoc, List.cons_append, splitWords_append_cons isBlank, split suffix solidSuffix,
      List.append_assoc]

/-- What counts as blank matters only for the characters of the text. -/
theorem splitWords_congr {other : Char → Bool} {text : List Char}
    (same : ∀ c ∈ text, blank c = other c) : splitWords blank text = splitWords other text := by
  induction text using run_induction blank with
  | run word solid =>
    by_cases empty : word = []
    · rw [empty, splitWords_nil, splitWords_nil]
    · rw [splitWords_eq_singleton empty solid, splitWords_eq_singleton empty]
      exact fun c member => by rw [← same c member, solid c member]
  | cut word b rest solid isBlank ih =>
    have isBlankToo : other b = true := by rw [← same b (by simp), isBlank]
    have solidToo : ∀ c ∈ word, other c = false := fun c member => by
      rw [← same c (by simp [member]), solid c member]
    rw [splitWords_run_cons solid isBlank, splitWords_run_cons solidToo isBlankToo,
      ih fun c member => same c (by simp [member])]

/-- A function that works run by run works word by word. -/
theorem splitWords_comm {change : List Char → List Char} (empty : change [] = [])
    (run : ∀ word, word ≠ [] → (∀ c ∈ word, blank c = false) →
      change word ≠ [] ∧ ∀ c ∈ change word, blank c = false)
    (cut : ∀ left b right, blank b = true → ∃ c, blank c = true ∧
      change (left ++ b :: right) = change left ++ c :: change right) (text : List Char) :
    splitWords blank (change text) = (splitWords blank text).map change := by
  have single : ∀ word, (∀ c ∈ word, blank c = false) →
      splitWords blank (change word) = (splitWords blank word).map change := by
    intro word solid
    by_cases nothing : word = []
    · rw [nothing, empty]
      rfl
    · obtain ⟨nonempty, solidChange⟩ := run word nothing solid
      rw [splitWords_eq_singleton nonempty solidChange, splitWords_eq_singleton nothing solid]
      rfl
  induction text using run_induction blank with
  | run word solid => exact single word solid
  | cut word b rest solid isBlank ih =>
    obtain ⟨c, isBlankToo, changed⟩ := cut word b rest isBlank
    rw [changed, splitWords_append_cons isBlankToo, splitWords_append_cons isBlank, single word solid,
      ih, List.map_append]

end Split

/-- A text has at most as many words as characters. -/
theorem length_splitWords_le (blank : Char → Bool) (text : List Char) :
    (splitWords blank text).length ≤ text.length := by
  induction text using run_induction blank with
  | run word solid =>
    by_cases empty : word = []
    · rw [empty]
      exact Nat.le_refl 0
    · rw [splitWords_eq_singleton empty solid]
      exact List.length_pos_iff.mpr empty
  | cut word b rest solid isBlank ih =>
    rw [splitWords_run_cons solid isBlank]
    simp only [List.length_append, List.length_cons]
    split
    · simp only [List.length_nil]
      omega
    · simp only [List.length_singleton]
      omega

/-! ## White space -/

theorem words_append_cons {b : Char} (isBlank : Unicode.isWhiteSpace b = true)
    (left right : List Char) : words (left ++ b :: right) = words left ++ words right :=
  splitWords_append_cons isBlank left right

theorem words_eq_singleton {word : List Char} (nonempty : word ≠ [])
    (solid : ∀ c ∈ word, Unicode.isWhiteSpace c = false) : words word = [word] :=
  splitWords_eq_singleton nonempty solid

/-! ## Joined words -/

theorem unwords_cons {word : Word} {words : List Word} (more : words ≠ []) :
    unwords (word :: words) = word ++ ' ' :: unwords words := by
  cases words with
  | nil => exact absurd rfl more
  | cons next rest => rfl

theorem unwords_ne_nil {words : List Word} (nonempty : words ≠ [])
    (filled : ∀ word ∈ words, word ≠ []) : unwords words ≠ [] := by
  obtain ⟨word, rest, rfl⟩ := List.exists_cons_of_ne_nil nonempty
  have first := filled word List.mem_cons_self
  by_cases last : rest = []
  · rw [last]
    exact first
  · rw [unwords_cons last]
    exact List.append_ne_nil_of_left_ne_nil first _

/-- Words without blanks are found again when they are joined. -/
theorem words_unwords {list : List Word}
    (solid : ∀ word ∈ list, word ≠ [] ∧ ∀ c ∈ word, Unicode.isWhiteSpace c = false) :
    words (unwords list) = list := by
  induction list with
  | nil => rfl
  | cons word rest ih =>
    obtain ⟨⟨nonempty, first⟩, others⟩ := List.forall_mem_cons.mp solid
    by_cases last : rest = []
    · rw [last]
      exact words_eq_singleton nonempty first
    · rw [unwords_cons last, words_append_cons (by decide), words_eq_singleton nonempty first, ih others]
      rfl

theorem mem_intercalate {α : Type} {separator : List α} {x : α} {lists : List (List α)}
    (member : x ∈ separator.intercalate lists) : x ∈ separator ∨ ∃ list ∈ lists, x ∈ list := by
  induction lists with
  | nil => contradiction
  | cons list rest ih =>
    by_cases last : rest = []
    · rw [last, List.intercalate_singleton] at member
      exact Or.inr ⟨list, List.mem_cons_self, member⟩
    · rw [List.intercalate_cons_of_ne_nil last] at member
      simp only [List.mem_append, or_assoc] at member
      rcases member with inList | between | inRest
      · exact Or.inr ⟨list, List.mem_cons_self, inList⟩
      · exact Or.inl between
      · rcases ih inRest with between | ⟨other, inRest, inside⟩
        · exact Or.inl between
        · exact Or.inr ⟨other, List.mem_cons_of_mem _ inRest, inside⟩

theorem unwords_eq_intercalate (words : List Word) : unwords words = [' '].intercalate words := by
  induction words with
  | nil => rfl
  | cons word rest ih =>
    by_cases last : rest = []
    · rw [last, List.intercalate_singleton, unwords]
    · rw [unwords_cons last, List.intercalate_cons_of_ne_nil last, ih, List.append_assoc,
        List.singleton_append]

theorem mem_unwords {c : Char} {words : List Word} (member : c ∈ unwords words) :
    c = ' ' ∨ ∃ word ∈ words, c ∈ word := by
  rw [unwords_eq_intercalate] at member
  exact (mem_intercalate member).imp_left List.mem_singleton.mp

theorem length_unwords_words (text : List Char) : (unwords (words text)).length ≤ text.length := by
  unfold words
  induction text using run_induction Unicode.isWhiteSpace with
  | run word solid =>
    by_cases empty : word = []
    · simp [empty, unwords]
    · simp [splitWords_eq_singleton empty solid, unwords]
  | cut word b rest solid isBlank ih =>
    rw [splitWords_run_cons solid isBlank]
    simp only [List.length_append, List.length_cons]
    split
    · rw [List.nil_append]
      omega
    · by_cases last : splitWords Unicode.isWhiteSpace rest = []
      · simp [last, unwords]
      · rw [List.singleton_append, unwords_cons last]
        simp only [List.length_append, List.length_cons]
        omega

/-- A function that works piece by piece between spaces works word by word. -/
theorem unwords_comm {change : List Char → List Char} (empty : change [] = [])
    (cut : ∀ left right, change (left ++ ' ' :: right) = change left ++ ' ' :: change right)
    (words : List Word) : change (unwords words) = unwords (words.map change) := by
  induction words with
  | nil => exact empty
  | cons word rest ih =>
    by_cases last : rest = []
    · rw [last]
      rfl
    · rw [unwords_cons last, cut, ih, List.map_cons, unwords_cons (by simpa using last)]

end TextQuery.Text
