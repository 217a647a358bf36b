import TextQuery.Count
import TextQuery.Proofs.Text.Normal
import TextQuery.Query.Source

/-!
# Normalized query text

After normalization the only blank of a query is the space, and a query has no more closing parentheses
than it had characters.
-/
set_option autoImplicit false

namespace TextQuery.Query

open Text (Word words unwords)

/-- In a text whose only blank is the space, the same holds of its clean form. -/
theorem eq_space_of_mem_clean {text : List Char}
    (spaces : ∀ c ∈ text, Unicode.isWhiteSpace c = true → c = ' ') {c : Char}
    (member : c ∈ Text.clean text) (blank : Unicode.isWhiteSpace c = true) : c = ' ' := by
  obtain ⟨a, inText, inParts⟩ :=
    Unicode.exists_of_mem_nfc member (Unicode.standsAlone_of_isWhiteSpace blank)
  have blankSource := Unicode.isWhiteSpace_of_mem_decomposition blank inParts
  obtain ⟨original, inOriginal, rfl⟩ := List.mem_map.mp inText
  rcases Text.straightQuote_eq original with same | same | same
  · rw [same] at blankSource inParts
    rw [spaces original inOriginal blankSource, Unicode.decomposition_of_isInert (by decide)]
      at inParts
    exact List.mem_singleton.mp inParts
  · rw [same] at blankSource
    exact absurd blankSource (by decide)
  · rw [same] at blankSource
    exact absurd blankSource (by decide)

theorem eq_space_of_mem_collapsed {raw : List Char} {c : Char} (member : c ∈ unwords (words raw))
    (blank : Unicode.isWhiteSpace c = true) : c = ' ' := by
  rcases Text.mem_unwords member with same | ⟨word, inWords, inWord⟩
  · exact same
  · have solid := (Text.of_mem_splitWords inWords).2.1 c inWord
    rw [blank] at solid
    contradiction

/-- Three characters are shielded, each by a mark of its own; all others stay. -/
theorem shieldChar_cases (c : Char) :
    c = ' ' ∧ shieldChar c = Mark.join ∨ c = '(' ∧ shieldChar c = Mark.opening ∨
      c = ')' ∧ shieldChar c = Mark.closing ∨
        (c ≠ ' ' ∧ c ≠ '(' ∧ c ≠ ')') ∧ shieldChar c = c := by
  by_cases space : c = ' '
  · exact Or.inl ⟨space, if_pos space⟩
  · by_cases opening : c = '('
    · exact Or.inr (Or.inl ⟨opening, by rw [shieldChar, if_neg space, if_pos opening]⟩)
    · by_cases closing : c = ')'
      · exact Or.inr (Or.inr (Or.inl ⟨closing,
          by rw [shieldChar, if_neg space, if_neg opening, if_pos closing]⟩))
      · exact Or.inr (Or.inr (Or.inr ⟨⟨space, opening, closing⟩,
          by rw [shieldChar, if_neg space, if_neg opening, if_neg closing]⟩))

/-- Shielding makes nothing but marks. -/
theorem shieldChar_eq_self {c : Char} (noMark : shieldChar c ≠ Mark.join ∧
    shieldChar c ≠ Mark.opening ∧ shieldChar c ≠ Mark.closing) : shieldChar c = c := by
  rcases shieldChar_cases c with ⟨_, mark⟩ | ⟨_, mark⟩ | ⟨_, mark⟩ | ⟨_, same⟩
  · exact absurd mark noMark.1
  · exact absurd mark noMark.2.1
  · exact absurd mark noMark.2.2
  · exact same

theorem mem_shieldFrom {state : QuoteState} {text : List Char} {c : Char}
    (member : c ∈ shieldFrom state text) : c = Mark.quote ∨ ∃ d ∈ text, c = d ∨ c = shieldChar d := by
  induction text generalizing state with
  | nil => cases state <;> contradiction
  | cons d rest ih =>
    have later {next : QuoteState} (inRest : c ∈ shieldFrom next rest) :
        c = Mark.quote ∨ ∃ e ∈ d :: rest, c = e ∨ c = shieldChar e := by
      rcases ih inRest with mark | ⟨e, inText, same⟩
      · exact Or.inl mark
      · exact Or.inr ⟨e, List.mem_cons_of_mem _ inText, same⟩
    cases state with
    | outside =>
      rw [shieldFrom] at member
      split at member
      · exact later member
      · rcases List.mem_cons.mp member with same | inRest
        · exact Or.inr ⟨d, List.mem_cons_self, Or.inl same⟩
        · exact later inRest
    | opened =>
      rw [shieldFrom] at member
      split at member
      · exact later member
      · rcases List.mem_cons.mp member with mark | inTail
        · exact Or.inl mark
        · rcases List.mem_cons.mp inTail with same | inRest
          · exact Or.inr ⟨d, List.mem_cons_self, Or.inr same⟩
          · exact later inRest
    | inside =>
      rw [shieldFrom] at member
      split at member
      · exact later member
      · rcases List.mem_cons.mp member with same | inRest
        · exact Or.inr ⟨d, List.mem_cons_self, Or.inr same⟩
        · exact later inRest

theorem quote_not_mem_shieldFrom (state : QuoteState) (text : List Char) :
    '"' ∉ shieldFrom state text := by
  have shielded : ∀ d, d ≠ '"' → '"' ≠ shieldChar d := by
    intro d other same
    rcases shieldChar_cases d with ⟨_, mark⟩ | ⟨_, mark⟩ | ⟨_, mark⟩ | ⟨_, unchanged⟩
    · exact absurd (same.trans mark) (by decide)
    · exact absurd (same.trans mark) (by decide)
    · exact absurd (same.trans mark) (by decide)
    · exact other (same.trans unchanged).symm
  induction text generalizing state with
  | nil => cases state <;> exact List.not_mem_nil
  | cons d rest ih =>
    by_cases quote : d = '"'
    · cases state <;> simpa only [shieldFrom, if_pos quote] using ih _
    · cases state with
      | outside =>
        rw [shieldFrom, if_neg quote, List.mem_cons, not_or]
        exact ⟨Ne.symm quote, ih _⟩
      | opened =>
        rw [shieldFrom, if_neg quote, List.mem_cons, not_or, List.mem_cons, not_or]
        exact ⟨by decide, shielded d quote, ih _⟩
      | inside =>
        rw [shieldFrom, if_neg quote, List.mem_cons, not_or]
        exact ⟨shielded d quote, ih _⟩

/-- No curly quotes are left. -/
theorem straightQuote_of_mem_normalize {raw : List Char} {c : Char} (member : c ∈ normalize raw) :
    Text.straightQuote c = c := by
  rcases mem_shieldFrom member with mark | ⟨d, inClean, rfl | shielded⟩
  · rw [mark]
    rfl
  · exact Text.straightQuote_of_mem_clean inClean
  · rcases shieldChar_cases d with ⟨_, mark⟩ | ⟨_, mark⟩ | ⟨_, mark⟩ | ⟨_, unchanged⟩
    · rw [shielded, mark]
      rfl
    · rw [shielded, mark]
      rfl
    · rw [shielded, mark]
      rfl
    · rw [shielded, unchanged]
      exact Text.straightQuote_of_mem_clean inClean

/-- The only blank of a normalized query is the space. -/
theorem eq_space_of_mem_normalize {raw : List Char} {c : Char} (member : c ∈ normalize raw)
    (blank : Unicode.isWhiteSpace c = true) : c = ' ' := by
  have cleaned (d : Char) (inClean : d ∈ Text.clean (unwords (words raw)))
      (blankClean : Unicode.isWhiteSpace d = true) : d = ' ' :=
    eq_space_of_mem_clean (fun _ inCollapsed => eq_space_of_mem_collapsed inCollapsed) inClean
      blankClean
  rcases mem_shieldFrom member with mark | ⟨d, inClean, same⟩
  · rw [mark] at blank
    exact absurd blank (by decide)
  · rcases same with rfl | rfl
    · exact cleaned c inClean blank
    · have unchanged : shieldChar d = d := shieldChar_eq_self
        ⟨fun mark => absurd (mark ▸ blank) (by decide), fun mark => absurd (mark ▸ blank) (by decide),
          fun mark => absurd (mark ▸ blank) (by decide)⟩
      rw [unchanged] at blank ⊢
      exact cleaned d inClean blank

theorem count_shieldFrom_le {c : Char} (notMark : c ≠ Mark.quote) (state : QuoteState)
    (text : List Char) (kept : ∀ d, shieldChar d = c → d = c) :
    (shieldFrom state text).count c ≤ text.count c := by
  induction text generalizing state with
  | nil => cases state <;> simp [shieldFrom]
  | cons d rest ih =>
    have shielded : [shieldChar d].count c ≤ [d].count c := by
      by_cases same : shieldChar d = c
      · exact Nat.le_of_eq (by rw [same, kept d same])
      · simp [same]
    have dropped (next : QuoteState) : (shieldFrom next rest).count c ≤ (d :: rest).count c :=
      Nat.le_trans (ih next) List.count_le_count_cons
    cases state with
    | outside =>
      rw [shieldFrom]
      split
      · exact dropped _
      · rw [List.count_cons, List.count_cons]
        exact Nat.add_le_add_right (ih _) _
    | opened =>
      rw [shieldFrom]
      split
      · exact dropped _
      · rw [List.count_cons_of_ne notMark.symm, List.count_cons, List.count_cons]
        simp only [List.count_singleton] at shielded
        exact Nat.add_le_add (ih _) shielded
    | inside =>
      rw [shieldFrom]
      split
      · exact dropped _
      · rw [List.count_cons, List.count_cons]
        simp only [List.count_singleton] at shielded
        exact Nat.add_le_add (ih _) shielded

theorem count_nfc {c : Char} (inert : Unicode.isInert c = true) (text : List Char) :
    (Unicode.nfc text).count c = text.count c := by
  rw [← List.count_filter inert, Unicode.filter_isInert_nfc, List.count_filter inert]

/-- A normalized query has no more closing parentheses than the query had characters. -/
theorem count_normalize_le (raw : List Char) : (normalize raw).count ')' ≤ raw.length := by
  calc
    (normalize raw).count ')' ≤ (Text.clean (unwords (words raw))).count ')' :=
      count_shieldFrom_le (by decide) _ _ fun d same => (shieldChar_eq_self
        ⟨by rw [same]; decide, by rw [same]; decide, by rw [same]; decide⟩).symm.trans same
    _ = ((unwords (words raw)).map Text.straightQuote).count ')' := count_nfc (by decide) _
    _ ≤ (unwords (words raw)).length := by
      rw [← List.length_map Text.straightQuote]
      exact List.count_le_length
    _ ≤ raw.length := Text.length_unwords_words raw

end TextQuery.Query
