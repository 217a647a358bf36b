import TextQuery.Proofs.Text.Spaced
import TextQuery.Proofs.Unicode.Capital

/-!
# Normalizing again

The normal form of a record is in lower case, has no curly quotes and has single spaces, but it need not be
composed: a capital that no mark composes with may have a lower-case form that the mark behind it composes
with, and a capital may become a letter and a mark that stand in the wrong order with the mark behind it. So
normalizing again composes, and does nothing else (`ofString_toString`); a third time changes nothing.
-/
set_option autoImplicit false

namespace TextQuery.Text

open Unicode (isWhiteSpace isCapital nfc lower)

/-! ## Spaces between words -/

/-- The words are neither empty nor broken by a blank. -/
def AreWords (words : List Word) : Prop :=
  ∀ word ∈ words, word ≠ [] ∧ ∀ c ∈ word, isWhiteSpace c = false

theorem pad_of_ne_nil {words : List Word} (nonempty : words ≠ []) :
    Normal.pad words = ' ' :: (unwords words ++ [' ']) := by
  obtain ⟨word, rest, rfl⟩ := List.exists_cons_of_ne_nil nonempty
  rw [Normal.pad, flatMap_append_space nonempty]
  intro empty
  contradiction

theorem words_pad {list : List Word} (areWords : AreWords list) : words (Normal.pad list) = list := by
  by_cases empty : list = []
  · rw [empty]
    rfl
  · have behind := words_append_cons (b := ' ') (by decide) (unwords list) []
    rw [pad_of_ne_nil empty, words, splitWords_cons_of_blank (by decide), ← words, behind,
      words_unwords areWords]
    exact List.append_nil _

theorem mem_pad {words : List Word} {c : Char} (member : c ∈ Normal.pad words) :
    c = ' ' ∨ ∃ word ∈ words, c ∈ word := by
  by_cases empty : words = []
  · rw [empty] at member
    exact Or.inl (by simpa [Normal.pad] using member)
  · rw [pad_of_ne_nil empty, List.mem_cons, List.mem_append, List.mem_singleton] at member
    rcases member with space | inWords | space
    · exact Or.inl space
    · exact mem_unwords inWords
    · exact Or.inl space

theorem nfc_pad (words : List Word) : nfc (Normal.pad words) = Normal.pad (words.map nfc) := by
  have space := @Unicode.nfc_append_cons_of_isInert ' ' (by decide)
  by_cases empty : words = []
  · rw [empty]
    decide
  · have within : nfc (unwords words) = unwords (words.map nfc) := unwords_comm rfl space words
    have opened := space [] (unwords words ++ [' '])
    rw [List.nil_append, space (unwords words) [], within] at opened
    rw [pad_of_ne_nil empty, pad_of_ne_nil (by simpa using empty), opened]
    rfl

/-! ## Words in normal form -/

theorem areWords_normal (raw : List Char) : AreWords ((words raw).map normalWord) := by
  intro word member
  rw [← words_lower_clean] at member
  exact ⟨(of_mem_splitWords member).1, (of_mem_splitWords member).2.1⟩

theorem areWords_nfc {words : List Word} (areWords : AreWords words) : AreWords (words.map nfc) := by
  intro word member
  obtain ⟨source, inWords, rfl⟩ := List.mem_map.mp member
  obtain ⟨filled, solid⟩ := areWords source inWords
  refine ⟨Unicode.nfc_ne_nil filled, fun c inWord => Bool.eq_false_iff.mpr fun blank => ?_⟩
  obtain ⟨b, inSource, blankSource⟩ := Unicode.isWhiteSpace_of_mem_nfc inWord blank
  rw [solid b inSource] at blankSource
  contradiction

theorem isCapital_of_mem_normalWord {word : Word} {c : Char} (member : c ∈ normalWord word) :
    isCapital c = false :=
  Unicode.isCapital_of_mem_lower member

/-- No lower-case form is a curly quote. -/
theorem straightQuote_of_isLowerForm {c : Char} (form : Unicode.isLowerForm c = true) :
    straightQuote c = c := by
  unfold straightQuote
  split
  · contradiction
  · contradiction
  · contradiction
  · contradiction
  · rfl

theorem straightQuote_of_mem_normalWord {word : Word} {c : Char} (member : c ∈ normalWord word) :
    straightQuote c = c := by
  rcases Unicode.mem_lower member with inClean | form
  · exact straightQuote_of_mem_clean inClean
  · exact straightQuote_of_isLowerForm form

/-- Of a word in normal form, only composition changes anything. -/
theorem normalWord_normalWord (word : Word) : normalWord (normalWord word) = nfc (normalWord word) := by
  have straight : (normalWord word).map straightQuote = normalWord word := by
    rw [List.map_congr_left fun c => straightQuote_of_mem_normalWord, List.map_id']
  have uncapital : ∀ c ∈ nfc (normalWord word), isCapital c = false :=
    Unicode.isCapital_of_mem_nfc fun c => isCapital_of_mem_normalWord
  rw [normalWord, clean, straight, Unicode.lower_eq_self_iff.mpr uncapital]

/-! ## The normal form of a normal form -/

theorem chars_eq_pad (raw : String) :
    (Normal.ofString raw).chars = Normal.pad ((words raw.toList).map normalWord) :=
  chars_ofChars raw.toList

theorem chars_ofString_toString (raw : String) :
    (Normal.ofString (Normal.ofString raw).toString).chars = nfc (Normal.ofString raw).chars := by
  have again : (words raw.toList).map (normalWord ∘ normalWord) =
      (words raw.toList).map (nfc ∘ normalWord) :=
    List.map_congr_left fun word _ => normalWord_normalWord word
  rw [chars_eq_pad, Normal.toString, String.toList_ofList, chars_eq_pad, words_pad (areWords_normal _),
    nfc_pad, List.map_map, again, List.map_map]

theorem lower_chars (raw : String) : lower (Normal.ofString raw).chars = (Normal.ofString raw).chars := by
  rw [Unicode.lower_eq_self_iff, chars_eq_pad]
  intro c member
  rcases mem_pad member with rfl | ⟨word, inList, inWord⟩
  · decide +kernel
  · obtain ⟨source, -, rfl⟩ := List.mem_map.mp inList
    exact isCapital_of_mem_normalWord inWord

theorem straightQuote_of_mem_chars {raw : String} {c : Char} (member : c ∈ (Normal.ofString raw).chars) :
    straightQuote c = c := by
  rw [chars_eq_pad] at member
  rcases mem_pad member with rfl | ⟨word, inList, inWord⟩
  · rfl
  · obtain ⟨source, -, rfl⟩ := List.mem_map.mp inList
    exact straightQuote_of_mem_normalWord inWord

theorem pad_inj {left right : List Word} (areLeft : AreWords left) (areRight : AreWords right) :
    Normal.pad left = Normal.pad right ↔ left = right := by
  refine ⟨fun same => ?_, congrArg Normal.pad⟩
  rw [← words_pad areLeft, same, words_pad areRight]

/-- The normal form is composed if and only if each of its words is. -/
theorem nfc_chars_eq_self_iff (raw : String) : nfc (Normal.ofString raw).chars = (Normal.ofString raw).chars ↔
    ∀ word ∈ words raw.toList, nfc (normalWord word) = normalWord word := by
  have areWords := areWords_normal raw.toList
  rw [chars_eq_pad, nfc_pad, pad_inj (areWords_nfc areWords) areWords, List.map_map, List.map_inj_left]
  rfl

theorem normal_ext {first second : Normal} : first = second ↔ first.chars = second.chars := by
  cases first
  cases second
  exact ⟨congrArg Normal.chars, congrArg Normal.mk⟩

/-- Normalizing a normal form composes it, and that is all that normalizing again can change: the normal form
is in lower case, without curly quotes, and its words are apart by single spaces. So it is its own normal form
if and only if each of its words is composed, as every word is whose clean form has no capitals; and after the
second time nothing changes any more. -/
theorem ofString_toString (raw : String) :
    (lower (Normal.ofString raw).chars = (Normal.ofString raw).chars ∧
      (∀ c ∈ (Normal.ofString raw).chars, straightQuote c = c) ∧
      ∃ list, AreWords list ∧ (Normal.ofString raw).chars = Normal.pad list) ∧
    (Normal.ofString (Normal.ofString raw).toString).chars = nfc (Normal.ofString raw).chars ∧
    Normal.ofString (Normal.ofString (Normal.ofString raw).toString).toString =
      Normal.ofString (Normal.ofString raw).toString ∧
    (Normal.ofString (Normal.ofString raw).toString = Normal.ofString raw ↔
      ∀ word ∈ words raw.toList, nfc (normalWord word) = normalWord word) ∧
    ∀ word, lower (clean word) = clean word → nfc (normalWord word) = normalWord word := by
  refine ⟨⟨lower_chars raw, fun c => straightQuote_of_mem_chars, _, areWords_normal raw.toList,
    chars_eq_pad raw⟩, chars_ofString_toString raw, ?_, ?_, ?_⟩
  · rw [normal_ext, chars_ofString_toString, chars_ofString_toString, Unicode.nfc_nfc]
  · rw [normal_ext, chars_ofString_toString, nfc_chars_eq_self_iff]
  · intro word same
    rw [normalWord, same, clean, Unicode.nfc_nfc]

/-- A capital H with a line below is a letter and a mark, but the small one is one character. -/
theorem ofString_toString_lineBelow :
    Normal.ofString (Normal.ofString "H\u0331").toString ≠ Normal.ofString "H\u0331" := by
  decide +kernel

end TextQuery.Text
