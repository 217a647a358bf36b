import Mathlib.Data.List.Induction
import TextQuery.Proofs.Text.Words

/-!
# Runs of blanks

Collapsing white space by way of words is the same as making every run of blanks one space, in a text
that neither starts nor ends with a blank. The second works piece by piece (`squeeze_append_cons`).
-/
set_option autoImplicit false

namespace TextQuery.Text

open Unicode (isWhiteSpace)

/-- Every run of blanks becomes one space. -/
def squeeze : List Char → List Char
  | [] => []
  | c :: rest =>
    if isWhiteSpace c then
      if rest.head?.any isWhiteSpace then squeeze rest else ' ' :: squeeze rest
    else c :: squeeze rest

theorem squeeze_cons {c : Char} (solid : isWhiteSpace c = false) (rest : List Char) :
    squeeze (c :: rest) = c :: squeeze rest := by
  rw [squeeze, solid]
  rfl

/-- Runs of blanks do not reach across other characters. -/
theorem squeeze_append_cons {c : Char} (solid : isWhiteSpace c = false) (left right : List Char) :
    squeeze (left ++ c :: right) = squeeze left ++ c :: squeeze right := by
  induction left with
  | nil => exact squeeze_cons solid right
  | cons d rest ih =>
    rw [List.cons_append, squeeze, squeeze, ih]
    have head : (rest ++ c :: right).head?.any isWhiteSpace = rest.head?.any isWhiteSpace := by
      cases rest with
      | nil => simpa using solid
      | cons => rfl
    rw [head]
    split
    · split <;> rfl
    · rfl

theorem squeeze_append {word : List Char} (solid : ∀ c ∈ word, isWhiteSpace c = false)
    (rest : List Char) : squeeze (word ++ rest) = word ++ squeeze rest := by
  induction word with
  | nil => rfl
  | cons c more ih =>
    obtain ⟨first, others⟩ := List.forall_mem_cons.mp solid
    rw [List.cons_append, squeeze_cons first, ih others]
    rfl

theorem squeeze_of_solid {text : List Char} (solid : ∀ c ∈ text, isWhiteSpace c = false) :
    squeeze text = text := by
  have whole := squeeze_append solid []
  rwa [List.append_nil, squeeze, List.append_nil] at whole

theorem squeeze_space {rest : List Char} (solid : rest.head?.any isWhiteSpace = false) :
    squeeze (' ' :: rest) = ' ' :: squeeze rest := by
  rw [squeeze, if_pos (by decide), solid]
  rfl

theorem mem_squeeze {c : Char} {text : List Char} (member : c ∈ squeeze text) : c = ' ' ∨ c ∈ text := by
  induction text with
  | nil => contradiction
  | cons d rest ih =>
    have later : c ∈ squeeze rest → c = ' ' ∨ c ∈ d :: rest := fun inRest =>
      (ih inRest).imp_right (List.mem_cons_of_mem _)
    rw [squeeze] at member
    split at member
    · split at member
      · exact later member
      · exact (List.mem_cons.mp member).elim Or.inl later
    · rcases List.mem_cons.mp member with rfl | inRest
      · exact Or.inr List.mem_cons_self
      · exact later inRest

theorem eq_space_of_mem_squeeze {c : Char} {text : List Char} (member : c ∈ squeeze text)
    (blank : isWhiteSpace c = true) : c = ' ' := by
  induction text with
  | nil => contradiction
  | cons d rest ih =>
    rw [squeeze] at member
    split at member
    · split at member
      · exact ih member
      · exact (List.mem_cons.mp member).elim id ih
    · rename_i solid
      rcases List.mem_cons.mp member with rfl | inRest
      · exact absurd blank solid
      · exact ih inRest

theorem squeeze_ne_nil {text : List Char} (nonempty : text ≠ []) : squeeze text ≠ [] := by
  induction text with
  | nil => exact absurd rfl nonempty
  | cons c rest ih =>
    rw [squeeze]
    split
    · split
      · rename_i blank blankNext
        refine ih ?_
        rintro rfl
        contradiction
      · exact List.cons_ne_nil _ _
    · exact List.cons_ne_nil _ _

theorem countP_squeeze {test : Char → Bool} (solid : ∀ c, isWhiteSpace c = true → test c = false)
    (text : List Char) : (squeeze text).countP test = text.countP test := by
  have noSpace : ¬ test ' ' = true := by simp [solid ' ' (by decide)]
  induction text with
  | nil => rfl
  | cons d rest ih =>
    rw [squeeze]
    split
    · rename_i blank
      have other : ¬ test d = true := by simp [solid d blank]
      split
      · rw [ih, List.countP_cons_of_neg other]
      · rw [List.countP_cons_of_neg noSpace, ih, List.countP_cons_of_neg other]
    · rw [List.countP_cons, List.countP_cons, ih]

theorem count_squeeze {c : Char} (solid : isWhiteSpace c = false) (text : List Char) :
    (squeeze text).count c = text.count c := by
  refine countP_squeeze (fun d blank => ?_) text
  rw [beq_eq_false_iff_ne]
  rintro rfl
  rw [solid] at blank
  contradiction

/-- Between spaces, whatever is squeezed loses spaces. -/
theorem squeeze_eq_self_or_count_lt {text : List Char}
    (spaces : ∀ c ∈ text, isWhiteSpace c = true → c = ' ') :
    squeeze text = text ∨ (squeeze text).count ' ' < text.count ' ' := by
  induction text with
  | nil => exact Or.inl rfl
  | cons c rest ih =>
    obtain ⟨first, others⟩ := List.forall_mem_cons.mp spaces
    have later := ih others
    rw [squeeze]
    split
    · rename_i blank
      rw [first blank, List.count_cons_self]
      split
      · right
        rcases later with same | fewer
        · rw [same]
          omega
        · omega
      · rw [List.count_cons_self]
        exact later.imp (congrArg (' ' :: ·)) Nat.succ_lt_succ
    · rw [List.count_cons, List.count_cons]
      exact later.imp (congrArg (c :: ·)) (Nat.add_lt_add_right · _)

theorem words_ne_nil {text : List Char} {c : Char} (member : c ∈ text)
    (solid : isWhiteSpace c = false) : words text ≠ [] := by
  induction text with
  | nil => contradiction
  | cons d rest ih =>
    by_cases blank : isWhiteSpace d = true
    · rcases List.mem_cons.mp member with rfl | later
      · rw [solid] at blank
        contradiction
      · rw [words, splitWords_cons_of_blank blank]
        exact ih later
    · exact splitWords_cons_ne_nil (Bool.eq_false_iff.mpr blank) rest

/-- A text that does not end with a blank is its words, after a space if it starts with a blank. -/
theorem squeeze_eq {text : List Char} (ends : text.getLast?.any isWhiteSpace = false) :
    squeeze text =
      (if text.head?.any isWhiteSpace then [' '] else []) ++ unwords (words text) := by
  induction text with
  | nil => rfl
  | cons c rest ih =>
    cases rest with
    | nil =>
      have solid : isWhiteSpace c = false := by simpa using ends
      have single : words [c] = [[c]] := words_eq_singleton (List.cons_ne_nil _ _) (by simpa using solid)
      rw [squeeze_cons solid, single]
      simp [solid, squeeze, unwords]
    | cons d more =>
      have endsRest : (d :: more).getLast?.any isWhiteSpace = false := by simpa using ends
      have later := ih endsRest
      have someWord : words (d :: more) ≠ [] := by
        refine words_ne_nil (List.getLast_mem (List.cons_ne_nil d more)) ?_
        rwa [List.getLast?_eq_some_getLast (List.cons_ne_nil d more)] at endsRest
      rw [squeeze, later]
      by_cases blank : isWhiteSpace c = true
      · have same : words (c :: d :: more) = words (d :: more) := splitWords_cons_of_blank blank _
        by_cases blankNext : isWhiteSpace d = true <;> simp [blank, blankNext, same]
      · have solid := Bool.eq_false_iff.mpr blank
        by_cases blankNext : isWhiteSpace d = true
        · have alone : words (c :: d :: more) = [c] :: words (d :: more) :=
            splitWords_cons_of_alone solid (by simpa using blankNext)
          simp [solid, blankNext, alone, unwords_cons someWord]
        · obtain ⟨word, others, found⟩ := List.exists_cons_of_ne_nil someWord
          have joined : words (c :: d :: more) = (c :: word) :: others :=
            splitWords_cons_of_joined solid (Bool.eq_false_iff.mpr blankNext) found
          by_cases last : others = []
          · simp [solid, blankNext, joined, found, last, unwords]
          · simp [solid, blankNext, joined, found, unwords_cons last]

/-- A blank at the end adds a space, unless it continues a run of blanks. -/
theorem squeeze_concat {b : Char} (blank : isWhiteSpace b = true) (text : List Char) :
    squeeze (text ++ [b]) =
      if text.getLast?.any isWhiteSpace then squeeze text else squeeze text ++ [' '] := by
  induction text with
  | nil => simp [squeeze, blank]
  | cons c rest ih =>
    cases rest with
    | nil => by_cases blankFirst : isWhiteSpace c = true <;> simp [squeeze, blank, blankFirst]
    | cons d more =>
      have same : (c :: d :: more).getLast? = (d :: more).getLast? := List.getLast?_cons_cons
      rw [List.cons_append, squeeze, squeeze, ih, same]
      by_cases last : (d :: more).getLast?.any isWhiteSpace = true
      · rw [if_pos last, if_pos last]
        rfl
      · rw [if_neg last, if_neg last]
        by_cases blankFirst : isWhiteSpace c = true
        · by_cases blankNext : isWhiteSpace d = true <;> simp [blankFirst, blankNext]
        · simp [blankFirst]

/-- A text is its words between what is left of the blanks at its ends. -/
theorem exists_squeeze_eq (text : List Char) : ∃ after, squeeze text =
    (if text.head?.any isWhiteSpace then [' '] else []) ++
      (unwords (words text) ++ List.replicate after ' ') := by
  induction text using List.reverseRecOn with
  | nil => exact ⟨0, rfl⟩
  | append_singleton text b ih =>
    by_cases blank : isWhiteSpace b = true
    · by_cases empty : text = []
      · refine ⟨0, ?_⟩
        have none : words [b] = [] := splitWords_cons_of_blank blank []
        simp [empty, squeeze, blank, none, unwords]
      · obtain ⟨after, shape⟩ := ih
        have same : words (text ++ [b]) = words text := by
          rw [words_append_cons blank]
          exact List.append_nil _
        have head : (text ++ [b]).head? = text.head? := by
          obtain ⟨c, rest, rfl⟩ := List.exists_cons_of_ne_nil empty
          rfl
        rw [squeeze_concat blank, same, head]
        split
        · exact ⟨after, shape⟩
        · refine ⟨after + 1, ?_⟩
          rw [shape, List.replicate_succ', List.append_assoc, List.append_assoc]
    · refine ⟨0, ?_⟩
      rw [squeeze_eq (by simpa using blank), List.replicate_zero, List.append_nil]

/-- A text that starts and ends with other characters than blanks. -/
theorem squeeze_eq_unwords {text : List Char} (starts : text.head?.any isWhiteSpace = false)
    (ends : text.getLast?.any isWhiteSpace = false) : squeeze text = unwords (words text) := by
  rw [squeeze_eq ends, starts]
  rfl

/-- Between words with one space between neighbours there is nothing to collapse. -/
theorem squeeze_unwords {words : List Word}
    (solid : ∀ word ∈ words, word ≠ [] ∧ ∀ c ∈ word, isWhiteSpace c = false) :
    squeeze (unwords words) = unwords words := by
  induction words with
  | nil => rfl
  | cons word rest ih =>
    obtain ⟨⟨-, first⟩, others⟩ := List.forall_mem_cons.mp solid
    by_cases last : rest = []
    · rw [last]
      exact squeeze_of_solid first
    · obtain ⟨next, more, rfl⟩ := List.exists_cons_of_ne_nil last
      have starts : (unwords (next :: more)).head?.any isWhiteSpace = false := by
        obtain ⟨filledNext, solidNext⟩ := others next List.mem_cons_self
        obtain ⟨c, tail, rfl⟩ := List.exists_cons_of_ne_nil filledNext
        have head : (unwords ((c :: tail) :: more)).head? = some c := by cases more <;> rfl
        rw [head]
        exact solidNext c List.mem_cons_self
      rw [unwords_cons last, squeeze_append first, squeeze_space starts, ih others]

end TextQuery.Text
