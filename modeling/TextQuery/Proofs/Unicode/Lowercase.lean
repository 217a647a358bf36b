import TextQuery.Proofs.Text.Words
import TextQuery.Proofs.Unicode.Composition
import TextQuery.Unicode.Lowercase

/-!
# Lower case around characters without case

A character without case that does not hide from its neighbours ends a word for the purposes of case, so
the lower-case form of a text is made piece by piece between such characters (`lower_append_cons`). White
space, parentheses and the reserved characters are among them.
-/
set_option autoImplicit false
set_option maxRecDepth 10000

namespace TextQuery.Unicode

/-! ## Breaks -/

/-- The character has no case, and no case is seen across it. -/
def breaks (c : Char) : Bool := !isCased c && !isCaseIgnorable c && lowerChar c == [c]

/-- White space, the reserved characters, the straight quote and the parentheses. -/
def breaking : List CodeRange := Property.whiteSpace ++ reserved ++ [(0x22, 0x22), (0x28, 0x29)]

theorem cased_apart : apart Property.cased breaking = true := by decide

theorem caseIgnorable_apart : apart Property.caseIgnorable breaking = true := by decide

theorem lowerChar_breaking : passes (fun c => lowerChar c == [c]) breaking = true := by
  decide

theorem breaks_of_breaking {c : Char} (member : inRanges breaking c = true) : breaks c = true := by
  rw [breaks, isCased, inRanges_eq_false cased_apart member, isCaseIgnorable,
    inRanges_eq_false caseIgnorable_apart member]
  exact of_passes lowerChar_breaking member

theorem breaking_of_isWhiteSpace {c : Char} (blank : isWhiteSpace c = true) :
    inRanges breaking c = true := by
  rw [isWhiteSpace] at blank
  rw [breaking, inRanges_append, inRanges_append, blank, Bool.true_or, Bool.true_or]

theorem breaking_of_isReserved {c : Char} (reserved : isReserved c = true) :
    inRanges breaking c = true := by
  rw [isReserved] at reserved
  rw [breaking, inRanges_append, inRanges_append, reserved, Bool.or_true, Bool.true_or]

section Breaks

variable {b : Char} (isBreak : breaks b = true)

include isBreak

theorem startsCased_append_cons (left right : List Char) :
    startsCased (left ++ b :: right) = startsCased left := by
  simp only [breaks, Bool.and_eq_true, Bool.not_eq_true'] at isBreak
  induction left with
  | nil => simp [startsCased, isBreak]
  | cons c rest ih =>
    by_cases ignorable : isCaseIgnorable c = true
    · simpa [startsCased, ignorable] using ih
    · simp [startsCased, ignorable]

theorem isFinalSigma_append_left (before after more : List Char) :
    isFinalSigma (before ++ b :: more) after = isFinalSigma before after := by
  rw [isFinalSigma, startsCased_append_cons isBreak]
  rfl

theorem isFinalSigma_append_right (before after more : List Char) :
    isFinalSigma before (after ++ b :: more) = isFinalSigma before after := by
  rw [isFinalSigma, startsCased_append_cons isBreak]
  rfl

/-- What comes before a break is of no account. -/
theorem lowerAfter_append_left (before more text : List Char) :
    lowerAfter (before ++ b :: more) text = lowerAfter before text := by
  induction text generalizing before with
  | nil => rfl
  | cons c rest ih =>
    rw [lowerAfter, lowerAfter, isFinalSigma_append_left isBreak, ← List.cons_append, ih]

theorem lowerAfter_append_cons (before left right : List Char) :
    lowerAfter before (left ++ b :: right) = lowerAfter before left ++ b :: lower right := by
  induction left generalizing before with
  | nil =>
    have caseless : isCased b = false := by
      simp only [breaks, Bool.and_eq_true, Bool.not_eq_true'] at isBreak
      exact isBreak.1.1
    have noSigma : b ≠ 'Σ' := by
      rintro rfl
      exact absurd caseless (by decide)
    have same : lowerChar b = [b] := by
      simp only [breaks, Bool.and_eq_true, beq_iff_eq] at isBreak
      exact isBreak.2
    have forgets : lowerAfter (b :: before) right = lower right :=
      lowerAfter_append_left isBreak [] before right
    rw [List.nil_append, lowerAfter.eq_2, if_neg noSigma, same, forgets]
    rfl
  | cons c rest ih =>
    rw [List.cons_append, lowerAfter, lowerAfter, ih, isFinalSigma_append_right isBreak,
      List.append_assoc]

/-- The lower-case form is made piece by piece between breaks. -/
theorem lower_append_cons (left right : List Char) :
    lower (left ++ b :: right) = lower left ++ b :: lower right :=
  lowerAfter_append_cons isBreak [] left right

end Breaks

/-! ## Lower-case forms -/

/-- Blocks that hold all lower-case forms of capitals, and no break. -/
def lowerForms : List CodeRange := [
  (0x61, 0x7A), (0xA1, 0x167F), (0x1681, 0x1FFF), (0x2060, 0x2FFF), (0x3001, 0xD7FF),
  (0xE004, 0x10FFFF)]

def isLowerForm (c : Char) : Bool := inRanges lowerForms c

theorem lowercaseRuns_lowerForms : lowercaseRuns.all (fun run => lowerForms.any fun block =>
    Nat.ble block.1 run.lower && Nat.ble (run.lower + (run.last - run.first)) block.2) = true := by
  decide

/-- The lower-case form of a capital of a run lies in a block of lower-case forms. -/
theorem exists_block_of_run {run : LowercaseRun} (member : run ∈ lowercaseRuns) {offset : Nat}
    (inRun : offset ≤ run.last - run.first) :
    (run.lower + offset).isValidChar ∧ isLowerForm (Char.ofNat (run.lower + offset)) = true := by
  have checked := List.all_eq_true.mp lowercaseRuns_lowerForms run member
  obtain ⟨block, inList, inBlock⟩ := List.any_eq_true.mp checked
  simp only [Bool.and_eq_true, Nat.ble_eq] at inBlock
  have valid : (run.lower + offset).isValidChar := by
    simp only [lowerForms, List.mem_cons, List.not_mem_nil, or_false] at inList
    unfold Nat.isValidChar
    rcases inList with rfl | rfl | rfl | rfl | rfl | rfl <;> dsimp only at inBlock <;> omega
  refine ⟨valid, List.any_eq_true.mpr ⟨block, inList, ?_⟩⟩
  simp only [inRange, toNat_ofNat valid, Bool.and_eq_true, decide_eq_true_eq]
  omega

/-- Lower-casing leaves a character as it is or makes lower-case forms of it. -/
theorem mem_lowerChar {c d : Char} (member : c ∈ lowerChar d) : c = d ∨ isLowerForm c = true := by
  unfold lowerChar at member
  split at member
  · rename_i ascii
    rw [List.mem_singleton.mp member]
    have checked : ∀ code < 0x80, (Char.ofNat code).toLower = Char.ofNat code ∨
        isLowerForm (Char.ofNat code).toLower = true := by
      decide
    have known := checked d.toNat ascii
    rwa [Char.ofNat_toNat] at known
  · split at member
    · right
      simp only [List.mem_cons, List.not_mem_nil, or_false] at member
      rcases member with rfl | rfl <;> decide
    · dsimp only at member
      split at member
      · rename_i run found
        right
        rw [List.mem_singleton.mp member]
        have bounds := List.find?_some found
        simp only [Bool.and_eq_true, decide_eq_true_eq] at bounds
        exact (exists_block_of_run (List.mem_of_find?_eq_some found) (by omega)).2
      · exact Or.inl (List.mem_singleton.mp member)

theorem lowerChar_ne_nil (c : Char) : lowerChar c ≠ [] := by
  unfold lowerChar
  split
  · exact List.cons_ne_nil _ _
  · split
    · exact List.cons_ne_nil _ _
    · dsimp only
      split <;> exact List.cons_ne_nil _ _

/-- What lower-casing makes is a form of the sigma or the form of a character of the text. -/
theorem exists_of_mem_lower {c : Char} {text : List Char} (member : c ∈ lower text) :
    c = 'ς' ∨ c = 'σ' ∨ ∃ d ∈ text, c ∈ lowerChar d := by
  have general : ∀ (rest before : List Char), c ∈ lowerAfter before rest →
      c = 'ς' ∨ c = 'σ' ∨ ∃ d ∈ rest, c ∈ lowerChar d := by
    intro rest
    induction rest with
    | nil =>
      intro before inNil
      contradiction
    | cons d rest ih =>
      intro before inLowered
      rw [lowerAfter] at inLowered
      rcases List.mem_append.mp inLowered with inFirst | inLater
      · split at inFirst
        · rw [List.mem_singleton.mp inFirst]
          split
          · exact Or.inl rfl
          · exact Or.inr (Or.inl rfl)
        · exact Or.inr (Or.inr ⟨d, List.mem_cons_self, inFirst⟩)
      · refine (ih _ inLater).imp_right (Or.imp_right ?_)
        rintro ⟨e, inRest, inForm⟩
        exact ⟨e, List.mem_cons_of_mem _ inRest, inForm⟩
  exact general text [] member

theorem mem_lower {c : Char} {text : List Char} (member : c ∈ lower text) :
    c ∈ text ∨ isLowerForm c = true := by
  rcases exists_of_mem_lower member with rfl | rfl | ⟨d, inText, inForm⟩
  · exact Or.inr (by decide)
  · exact Or.inr (by decide)
  · rcases mem_lowerChar inForm with rfl | form
    · exact Or.inl inText
    · exact Or.inr form

theorem lower_ne_nil {text : List Char} (nonempty : text ≠ []) : lower text ≠ [] := by
  obtain ⟨c, rest, rfl⟩ := List.exists_cons_of_ne_nil nonempty
  rw [lower, lowerAfter]
  refine List.append_ne_nil_of_left_ne_nil ?_ _
  split
  · exact List.cons_ne_nil _ _
  · exact lowerChar_ne_nil c

theorem breaking_apart : apart lowerForms breaking = true := by decide

/-- No lower-case form is a break of the kinds that are listed. -/
theorem mem_of_breaking_of_mem_lower {c : Char} {text : List Char} (member : c ∈ lower text)
    (isBreak : inRanges breaking c = true) : c ∈ text := by
  rcases mem_lower member with inText | form
  · exact inText
  · rw [isLowerForm, inRanges_eq_false breaking_apart isBreak] at form
    contradiction

/-- Lower-casing works word by word. -/
theorem words_lower (text : List Char) : Text.words (lower text) = (Text.words text).map lower := by
  refine Text.splitWords_comm rfl (fun word nonempty solid => ?_) (fun left b right blank => ?_) text
  · refine ⟨lower_ne_nil nonempty, fun c member => Bool.eq_false_iff.mpr fun blank => ?_⟩
    have inWord := mem_of_breaking_of_mem_lower member (breaking_of_isWhiteSpace blank)
    rw [solid c inWord] at blank
    contradiction
  · exact ⟨b, blank, lower_append_cons (breaks_of_breaking (breaking_of_isWhiteSpace blank)) left right⟩

/-! ## Inert characters -/

theorem lowerChar_of_isInert {c : Char} (inert : isInert c = true) : lowerChar c = [c] := by
  have passed : passes (fun c => lowerChar c == [c]) Unicode.inert = true := by decide
  simpa using of_passes passed inert

theorem isInert_of_isLowerForm {c : Char} (form : isLowerForm c = true) : isInert c = false :=
  inRanges_eq_false (show apart inert lowerForms = true by decide) form

theorem filter_isInert_lowerChar (c : Char) :
    (lowerChar c).filter isInert = [c].filter isInert := by
  by_cases inert : isInert c = true
  · rw [lowerChar_of_isInert inert]
  · rw [List.filter_cons_of_neg inert, List.filter_nil, List.filter_eq_nil_iff]
    intro d member
    rcases mem_lowerChar member with rfl | form
    · exact inert
    · rw [isInert_of_isLowerForm form]
      exact Bool.false_ne_true

/-- Lower-casing keeps the inert characters of a text and their order. -/
theorem filter_isInert_lower (text : List Char) :
    (lower text).filter isInert = text.filter isInert := by
  have general : ∀ (rest before : List Char),
      (lowerAfter before rest).filter isInert = rest.filter isInert := by
    intro rest
    induction rest with
    | nil =>
      intro before
      rfl
    | cons c rest ih =>
      intro before
      have first : (if c = 'Σ' then [if isFinalSigma before rest then 'ς' else 'σ'] else
          lowerChar c).filter isInert = [c].filter isInert := by
        by_cases sigma : c = 'Σ'
        · subst sigma
          rw [if_pos rfl]
          split <;> decide
        · rw [if_neg sigma, filter_isInert_lowerChar]
      rw [lowerAfter, List.filter_append, first, ih, ← List.filter_append, List.singleton_append]
  exact general text []

theorem length_le_length_lower (text : List Char) : text.length ≤ (lower text).length := by
  have general : ∀ (rest before : List Char), rest.length ≤ (lowerAfter before rest).length := by
    intro rest
    induction rest with
    | nil =>
      intro before
      exact Nat.le_refl _
    | cons c rest ih =>
      intro before
      have later := ih (c :: before)
      have first : 0 < (if c = 'Σ' then [if isFinalSigma before rest then 'ς' else 'σ'] else
          lowerChar c).length := by
        split
        · exact Nat.one_pos
        · exact List.length_pos_iff.mpr (lowerChar_ne_nil c)
      rw [lowerAfter, List.length_append, List.length_cons]
      omega
  exact general text []

/-- Characters that have one form each, without regard to their neighbours. -/
theorem lower_eq_map {text : List Char} {form : Char → Char}
    (forms : ∀ c ∈ text, c ≠ 'Σ' ∧ lowerChar c = [form c]) : lower text = text.map form := by
  have general : ∀ (rest before : List Char), (∀ c ∈ rest, c ≠ 'Σ' ∧ lowerChar c = [form c]) →
      lowerAfter before rest = rest.map form := by
    intro rest
    induction rest with
    | nil =>
      intro before _
      rfl
    | cons c rest ih =>
      intro before forms
      obtain ⟨⟨noSigma, first⟩, others⟩ := List.forall_mem_cons.mp forms
      rw [lowerAfter, if_neg noSigma, first, ih _ others, List.singleton_append, List.map_cons]
  exact general text [] forms

theorem lower_of_unchanged {text : List Char}
    (unchanged : ∀ c ∈ text, c ≠ 'Σ' ∧ lowerChar c = [c]) : lower text = text := by
  rw [lower_eq_map unchanged, List.map_id']

theorem lower_ascii {text : List Char} (ascii : ∀ c ∈ text, c.toNat < 0x80) :
    lower text = text.map Char.toLower := by
  refine lower_eq_map fun c member => ⟨?_, if_pos (ascii c member)⟩
  rintro rfl
  exact absurd (ascii _ member) (by decide)

/-- A text in lower case that is inert as a whole is the text itself. -/
theorem lower_eq_self_of_isInert {text : List Char} (inert : ∀ c ∈ lower text, isInert c = true) :
    lower text = text := by
  have kept : lower text = text.filter isInert := by
    rw [← filter_isInert_lower, List.filter_eq_self.mpr inert]
  have long := length_le_length_lower text
  rw [kept] at long
  exact kept.trans (List.filter_sublist.eq_of_length_le long)

/-! ## Letters of ASCII -/

def asciiLetters : List CodeRange := [(0x41, 0x5A), (0x61, 0x7A)]

theorem toLower_cases (c : Char) :
    c.toLower = c ∨ inRanges asciiLetters c = true ∧ inRanges asciiLetters c.toLower = true := by
  rcases Nat.lt_or_ge c.toNat 0x80 with low | high
  · exact of_codes_below (P := fun c => c.toLower = c ∨
      inRanges asciiLetters c = true ∧ inRanges asciiLetters c.toLower = true) (by decide) low
  · exact Or.inl (toLower_eq_self high)

theorem isCaseIgnorable_toLower (c : Char) : isCaseIgnorable c.toLower = isCaseIgnorable c := by
  rcases toLower_cases c with same | ⟨letter, small⟩
  · rw [same]
  · have disjoint : apart Property.caseIgnorable asciiLetters = true := by decide
    exact (inRanges_eq_false disjoint small).trans (inRanges_eq_false disjoint letter).symm

theorem isCased_of_asciiLetters {c : Char} (letter : inRanges asciiLetters c = true) :
    isCased c = true := by
  have blocks : ∀ block ∈ asciiLetters, block ∈ Property.cased := by decide
  obtain ⟨block, member, inBlock⟩ := List.any_eq_true.mp letter
  exact List.any_eq_true.mpr ⟨block, blocks block member, inBlock⟩

theorem isCased_toLower (c : Char) : isCased c.toLower = isCased c := by
  rcases toLower_cases c with same | ⟨letter, small⟩
  · rw [same]
  · exact (isCased_of_asciiLetters small).trans (isCased_of_asciiLetters letter).symm

theorem startsCased_map_toLower (text : List Char) :
    startsCased (text.map Char.toLower) = startsCased text := by
  induction text with
  | nil => rfl
  | cons c rest ih =>
    unfold startsCased at ih ⊢
    rw [List.map_cons, List.dropWhile_cons, List.dropWhile_cons, isCaseIgnorable_toLower]
    by_cases ignored : isCaseIgnorable c = true
    · rw [if_pos ignored, if_pos ignored]
      exact ih
    · rw [if_neg ignored, if_neg ignored]
      exact isCased_toLower c

/-- A text has the lower-case form that it has when its letters of ASCII are small already. -/
theorem lower_map_toLower (text : List Char) : lower (text.map Char.toLower) = lower text := by
  have sigma := eq_of_toLower (f := fun c => decide (c = 'Σ')) (by decide)
  have single := eq_of_toLower (f := lowerChar) (by decide)
  have general : ∀ (rest before : List Char),
      lowerAfter (before.map Char.toLower) (rest.map Char.toLower) = lowerAfter before rest := by
    intro rest
    induction rest with
    | nil =>
      intro before
      rfl
    | cons c rest ih =>
      intro before
      have later := ih (c :: before)
      have same : (c.toLower = 'Σ') = (c = 'Σ') := propext (decide_eq_decide.mp (sigma c))
      rw [List.map_cons] at later
      rw [List.map_cons, lowerAfter, lowerAfter, later, single, isFinalSigma, isFinalSigma,
        startsCased_map_toLower, startsCased_map_toLower]
      simp only [same]
  exact general text []

end TextQuery.Unicode
