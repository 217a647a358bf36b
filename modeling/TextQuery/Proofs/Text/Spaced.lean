import TextQuery.Proofs.Text.Normal

/-!
# Words between spaces

Normalized text is its words, each followed by a space, after one space at the start. A front of such a
text ends inside a word, and the spaces of the front count the words before that one (`exists_cut`).
-/
set_option autoImplicit false

namespace TextQuery.Text

/-- The words, each followed by a space. -/
def spaced (words : List Word) : List Char := words.flatMap (· ++ [' '])

@[simp] theorem spaced_nil : spaced [] = [] := rfl

@[simp] theorem spaced_cons (word : Word) (words : List Word) :
    spaced (word :: words) = word ++ ' ' :: spaced words := by
  simp [spaced]

/-- There is no space inside the words. -/
def Solid (words : List Word) : Prop := ∀ word ∈ words, ' ' ∉ word

theorem Solid.drop {words : List Word} (solid : Solid words) (count : Nat) :
    Solid (words.drop count) := by
  intro word member
  exact solid word (List.mem_of_mem_drop member)

theorem count_spaced {words : List Word} (solid : Solid words) :
    (spaced words).count ' ' = words.length := by
  induction words with
  | nil => rfl
  | cons word words ih =>
    obtain ⟨noSpace, others⟩ := List.forall_mem_cons.mp solid
    rw [spaced_cons, List.count_append, List.count_eq_zero.mpr noSpace, List.count_cons_self, ih others,
      List.length_cons, Nat.zero_add]

/-- A front of the words ends inside one of them. -/
theorem exists_cut {words : List Word} {front rest : List Char} (shape : spaced words = front ++ rest)
    (more : rest ≠ []) : ∃ before left right after, words = before ++ (left ++ right) :: after ∧
      front = spaced before ++ left ∧ rest = right ++ ' ' :: spaced after := by
  induction words generalizing front with
  | nil =>
    rw [spaced_nil] at shape
    exact absurd (List.append_eq_nil_iff.mp shape.symm).2 more
  | cons word words ih =>
    rw [spaced_cons] at shape
    rcases List.append_eq_append_iff.mp shape with ⟨beyond, rfl, behind⟩ | ⟨right, rfl, rfl⟩
    · cases beyond with
      | nil => exact ⟨[], word, [], words, by simp, by simp, behind.symm⟩
      | cons c beyond =>
        obtain ⟨rfl, later⟩ := List.cons.inj behind
        obtain ⟨before, left, right, after, rfl, rfl, rfl⟩ := ih later
        exact ⟨word :: before, left, right, after, by simp, by simp, rfl⟩
    · exact ⟨[], front, right, words, by simp, by simp, rfl⟩

theorem splitWords_spaced {words : List Word} (solid : Solid words) (filled : [] ∉ words) :
    splitWords (· = ' ') (spaced words) = words := by
  induction words with
  | nil => rfl
  | cons word words ih =>
    obtain ⟨noSpace, others⟩ := List.forall_mem_cons.mp solid
    rw [List.mem_cons, not_or] at filled
    have run : ∀ c ∈ word, decide (c = ' ') = false := by
      intro c member
      rw [decide_eq_false_iff_not]
      rintro rfl
      exact noSpace member
    rw [spaced_cons, splitWords_run_cons run (by decide), if_neg (Ne.symm filled.1),
      ih others filled.2, List.singleton_append]

/-! ## Normalized text -/

/-- What a record without words looks like: one word of no characters between spaces. -/
def orBlank (words : List Word) : List Word := if words = [] then [[]] else words

theorem pad_eq (words : List Word) : Normal.pad words = ' ' :: spaced (orBlank words) := by
  cases words <;> rfl

theorem Solid.orBlank {words : List Word} (solid : Solid words) : Solid (orBlank words) := by
  unfold Text.orBlank
  split
  · simp [Solid]
  · exact solid

/-- The words of a record, all with characters and without spaces. -/
theorem toWords_ofString (raw : String) :
    (Normal.ofString raw).toWords = (words raw.toList).map normalWord ∧
      Solid (Normal.ofString raw).toWords ∧ [] ∉ (Normal.ofString raw).toWords := by
  have split := words_lower_clean raw.toList
  have solid : Solid ((words raw.toList).map normalWord) := by
    intro word member space
    rw [← split] at member
    have noBlank := (of_mem_splitWords member).2.1 ' ' space
    contradiction
  have filled : [] ∉ (words raw.toList).map normalWord := by
    intro member
    rw [← split] at member
    exact (of_mem_splitWords member).1 rfl
  have same : (Normal.ofString raw).toWords = (words raw.toList).map normalWord := by
    rw [Normal.toWords, Normal.ofString, chars_ofChars, pad_eq, splitWords_cons_of_blank (by decide)]
    by_cases none : (words raw.toList).map normalWord = []
    · rw [none]
      rfl
    · rw [orBlank, if_neg none, splitWords_spaced solid filled]
  rw [same]
  exact ⟨rfl, solid, filled⟩

theorem chars_ofString (raw : String) :
    (Normal.ofString raw).chars = ' ' :: spaced (orBlank (Normal.ofString raw).toWords) := by
  rw [(toWords_ofString raw).1, Normal.ofString, chars_ofChars, pad_eq]

/-- The words of a record are the words of its text, each in its normal form. -/
theorem length_toWords_ofString (raw : String) :
    (Normal.ofString raw).toWords.length = (words raw.toList).length := by
  rw [(toWords_ofString raw).1, List.length_map]

end TextQuery.Text
