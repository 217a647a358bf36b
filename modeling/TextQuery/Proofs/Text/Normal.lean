import TextQuery.Proofs.Unicode.Lowercase
import TextQuery.Proofs.Unicode.Odd
import TextQuery.Text.Normal

/-!
# Cleaning and normalizing word by word

Cleaning and lower-casing work word by word, so the normal form of a record is its words, each cleaned
and in lower case. A phrase that stands between spaces in a record stands in the normal form too
(`exists_phrase_ofChars`).
-/
set_option autoImplicit false

namespace TextQuery.Text

/-- Straightening makes quotes only, and leaves all else as it is. -/
theorem straightQuote_eq (c : Char) :
    straightQuote c = c ∨ straightQuote c = '"' ∨ straightQuote c = '\'' := by
  unfold straightQuote
  split <;> simp

theorem isWhiteSpace_straightQuote (c : Char) :
    Unicode.isWhiteSpace (straightQuote c) = Unicode.isWhiteSpace c := by
  unfold straightQuote
  split <;> rfl

/-! ## Cleaning -/

theorem straightQuote_ascii {c : Char} (low : c.toNat < 0x80) : straightQuote c = c := by
  unfold straightQuote
  split <;> first | rfl | contradiction

theorem clean_ascii {text : List Char} (ascii : ∀ c ∈ text, c.toNat < 0x80) : clean text = text := by
  have straight : text.map straightQuote = text := by
    rw [List.map_congr_left fun c member => straightQuote_ascii (ascii c member), List.map_id']
  rw [clean, straight, Unicode.nfc_ascii ascii]

theorem words_map {change : Char → Char}
    (keeps : ∀ c, Unicode.isWhiteSpace (change c) = Unicode.isWhiteSpace c) (text : List Char) :
    words (text.map change) = (words text).map (List.map change) := by
  refine splitWords_comm rfl (fun word nonempty solid => ?_) (fun left b right blank => ?_) text
  · refine ⟨by simpa using nonempty, fun c member => ?_⟩
    obtain ⟨d, inWord, rfl⟩ := List.mem_map.mp member
    rw [keeps, solid d inWord]
  · exact ⟨change b, by rw [keeps, blank], by simp⟩

theorem words_clean (text : List Char) : words (clean text) = (words text).map clean := by
  rw [clean, Unicode.words_nfc, words_map isWhiteSpace_straightQuote, List.map_map]
  rfl

theorem clean_append_cons {c : Char} (inert : Unicode.isInert c = true) (noQuote : straightQuote c = c)
    (left right : List Char) : clean (left ++ c :: right) = clean left ++ c :: clean right := by
  rw [clean, List.map_append, List.map_cons, noQuote, Unicode.nfc_append_cons_of_isInert inert]
  rfl

theorem clean_unwords (words : List Word) : clean (unwords words) = unwords (words.map clean) :=
  unwords_comm rfl (clean_append_cons (by decide) (by decide)) words

theorem clean_ne_nil {text : List Char} (nonempty : text ≠ []) : clean text ≠ [] :=
  Unicode.nfc_ne_nil (by simpa using nonempty)

/-- An inert character that is no straight quote comes from the text. -/
theorem mem_of_mem_clean {c : Char} {text : List Char} (member : c ∈ clean text)
    (alone : Unicode.isInert c = true ∨ Unicode.isReserved c = true) :
    ∃ d ∈ text, c = straightQuote d := by
  have inMapped : c ∈ text.map straightQuote := by
    rcases alone with inert | reserved
    · exact Unicode.mem_of_isInert_of_mem_nfc member inert
    · exact Unicode.mem_of_isReserved_of_mem_nfc member reserved
  obtain ⟨d, inText, same⟩ := List.mem_map.mp inMapped
  exact ⟨d, inText, same.symm⟩

/-- A clean text has no curly quotes. -/
theorem straightQuote_of_mem_clean {c : Char} {text : List Char} (member : c ∈ clean text) :
    straightQuote c = c := by
  by_cases curly : c ∈ ['\u201C', '\u201D', '\u2018', '\u2019']
  · have facts : Unicode.standsAlone c = true ∧ c ≠ '\u2002' ∧ c ≠ '\u2003' := by
      simp only [List.mem_cons, List.not_mem_nil, or_false] at curly
      rcases curly with rfl | rfl | rfl | rfl <;> decide
    obtain ⟨a, inMapped, inParts⟩ := Unicode.exists_of_mem_nfc member facts.1
    have same := Unicode.eq_of_mem_decomposition facts.1 facts.2.1 facts.2.2 inParts
    obtain ⟨d, -, rfl⟩ := List.mem_map.mp inMapped
    rw [same]
    rcases straightQuote_eq d with unchanged | quote | apostrophe
    · rw [unchanged, unchanged]
    · rw [quote]
      rfl
    · rw [apostrophe]
      rfl
  · simp only [List.mem_cons, List.not_mem_nil, or_false, not_or] at curly
    obtain ⟨left, right, leftSingle, rightSingle⟩ := curly
    unfold straightQuote
    split <;> first | rfl | contradiction

/-! ## Normal form -/

theorem lower_unwords (words : List Word) :
    Unicode.lower (unwords words) = unwords (words.map Unicode.lower) :=
  unwords_comm rfl (Unicode.lower_append_cons
    (Unicode.breaks_of_breaking (Unicode.breaking_of_isWhiteSpace (by decide)))) words

/-- A word as it stands in the normal form. -/
def normalWord (word : Word) : Word := Unicode.lower (clean word)

theorem words_lower_clean (raw : List Char) :
    words (Unicode.lower (clean raw)) = (words raw).map normalWord := by
  rw [Unicode.words_lower, words_clean, List.map_map]
  rfl

theorem chars_ofChars (raw : List Char) :
    (Normal.ofChars raw).chars = Normal.pad ((words raw).map normalWord) := by
  rw [Normal.ofChars, words_lower_clean]

theorem flatMap_append_space {words : List Word} (nonempty : words ≠ []) :
    words.flatMap (· ++ [' ']) = unwords words ++ [' '] := by
  induction words with
  | nil => exact absurd rfl nonempty
  | cons word rest ih =>
    by_cases last : rest = []
    · simp [last, unwords]
    · rw [List.flatMap_cons, ih last, unwords_cons last]
      simp

/-- The words of a part of the text stand between spaces. -/
theorem exists_phrase_pad (before after : List Word) {phrase : List Word} (nonempty : phrase ≠ []) :
    ∃ left right, Normal.pad (before ++ phrase ++ after) =
      left ++ ' ' :: (unwords phrase ++ ' ' :: right) := by
  have padded : Normal.pad (before ++ phrase ++ after) =
      ' ' :: (before ++ phrase ++ after).flatMap (· ++ [' ']) := by
    obtain ⟨word, rest, shape⟩ := List.exists_cons_of_ne_nil
      (show before ++ phrase ++ after ≠ [] by simp [nonempty])
    rw [shape]
    rfl
  rw [padded, List.flatMap_append, List.flatMap_append, flatMap_append_space nonempty]
  by_cases first : before = []
  · refine ⟨[], after.flatMap (· ++ [' ']), ?_⟩
    simp [first]
  · refine ⟨' ' :: unwords before, after.flatMap (· ++ [' ']), ?_⟩
    rw [flatMap_append_space first]
    simp

/-- A phrase that stands between spaces in a record stands in its normal form. -/
theorem exists_phrase_ofChars (before after : List Char) {phrase : List Char}
    (nonempty : words phrase ≠ []) :
    ∃ left right, (Normal.ofChars (before ++ ' ' :: (phrase ++ ' ' :: after))).chars =
      left ++ ' ' :: (unwords ((words phrase).map normalWord) ++ ' ' :: right) := by
  rw [chars_ofChars, words_append_cons (by decide), words_append_cons (by decide),
    ← List.append_assoc, List.map_append, List.map_append]
  exact exists_phrase_pad _ _ (by simpa using nonempty)

end TextQuery.Text
