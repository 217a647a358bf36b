import Mathlib.Data.List.Pairwise
import TextQuery.Proofs.Query.Evaluation
import TextQuery.Proofs.Query.Wildcards
import TextQuery.Proofs.Text.Spaced

/-!
# Searching for a term from left to right

The search for a term without the wildcard for any character takes matches from left to right and goes
on behind each of them, at its last space if it ends with one. In terms of words: the first match is
taken, and after it the first that begins behind the words it covers (`wordIndices_scan`).
-/
set_option autoImplicit false

namespace TextQuery.Regex.Spans

theorem firstFrom_eq_some {spans : Spans} {start position stop : Nat} {others : List Nat}
    (order : start ≤ position)
    (idle : ∀ before, start ≤ before → before < position → spans.ends before = [])
    (found : spans.ends position = stop :: others) : spans.firstFrom start = some (position, stop) := by
  have inside : position < spans.size := by
    refine Nat.lt_of_not_le fun beyond => ?_
    rw [ends_of_le beyond] at found
    contradiction
  induction gap : position - start generalizing start with
  | zero =>
    obtain rfl : start = position := by omega
    rw [firstFrom, if_pos inside, found]
  | succ gap ih =>
    rw [firstFrom, if_pos (by omega), idle start (Nat.le_refl _) (by omega)]
    exact ih (by omega) (fun before after => idle before (by omega)) (by omega)

end TextQuery.Regex.Spans

namespace TextQuery.Query

open Text (Word Solid spaced)

/-! ## Taking from left to right -/

/-- Starts that are taken from left to right, from `first` on: they do not overlap, and nothing is missed
but what begins inside one that is taken. -/
structure Taken (occurs : Nat → Prop) (width first : Nat) (starts : List Nat) : Prop where
  sound : ∀ start ∈ starts, first ≤ start ∧ occurs start
  apart : starts.Pairwise fun start next => start + width ≤ next
  reached : ∀ start, first ≤ start → occurs start → ∃ taken ∈ starts, taken ≤ start ∧ start < taken + width

namespace Taken

variable {occurs : Nat → Prop} {width first : Nat} {starts : List Nat}

theorem nil (never : ∀ start, first ≤ start → ¬ occurs start) : Taken occurs width first [] := by
  refine ⟨by simp, .nil, ?_⟩
  intro start later here
  exact absurd here (never start later)

theorem skip (absent : ¬ occurs first) (taken : Taken occurs width (first + 1) starts) :
    Taken occurs width first starts := by
  refine ⟨?_, taken.apart, ?_⟩
  · intro start member
    obtain ⟨later, here⟩ := taken.sound start member
    exact ⟨by omega, here⟩
  · intro start later here
    rcases Nat.eq_or_lt_of_le later with rfl | after
    · exact absurd here absent
    · exact taken.reached start after here

theorem cons (positive : 0 < width) (present : occurs first)
    (taken : Taken occurs width (first + width) starts) : Taken occurs width first (first :: starts) := by
  refine ⟨?_, List.pairwise_cons.mpr ⟨?_, taken.apart⟩, ?_⟩
  · intro start member
    rcases List.mem_cons.mp member with rfl | later
    · exact ⟨Nat.le_refl _, present⟩
    · obtain ⟨behind, here⟩ := taken.sound start later
      exact ⟨by omega, here⟩
  · intro start member
    exact (taken.sound start member).1
  · intro start later here
    by_cases inside : start < first + width
    · exact ⟨first, List.mem_cons_self, later, inside⟩
    · obtain ⟨earlier, member, bounds⟩ := taken.reached start (by omega) here
      exact ⟨earlier, List.mem_cons_of_mem _ member, bounds⟩

/-- Where every occurrence is one wide nothing is missed. -/
theorem mem_iff (taken : Taken occurs 1 0 starts) {start : Nat} : start ∈ starts ↔ occurs start := by
  constructor
  · intro member
    exact (taken.sound start member).2
  · intro here
    obtain ⟨other, member, low, high⟩ := taken.reached start (Nat.zero_le start) here
    obtain rfl : other = start := by omega
    exact member

theorem apart_of_ne (taken : Taken occurs width first starts) {start other : Nat} (left : start ∈ starts)
    (right : other ∈ starts) (differ : start ≠ other) : start + width ≤ other ∨ other + width ≤ start := by
  have either : starts.Pairwise fun start other => start + width ≤ other ∨ other + width ≤ start :=
    taken.apart.imp Or.inl
  have : Std.Symm fun start other => start + width ≤ other ∨ other + width ≤ start :=
    ⟨fun _ _ => Or.symm⟩
  exact either.forall left right differ

/-- What is taken covers all that the occurrences cover, exactly if wherever one begins inside a taken one
the next is taken right behind that. -/
theorem covers_iff (taken : Taken occurs width 0 starts) :
    (∀ k, (∃ start ∈ starts, start ≤ k ∧ k < start + width) ↔
      ∃ start, occurs start ∧ start ≤ k ∧ k < start + width) ↔
    ∀ start ∈ starts, ∀ next, occurs next → start < next → next < start + width →
      start + width ∈ starts := by
  constructor
  · intro same start member next here after inside
    obtain ⟨other, found, low, high⟩ := (same (start + width)).mpr ⟨next, here, by omega, by omega⟩
    by_cases equal : start = other
    · omega
    · have bounds := taken.apart_of_ne member found equal
      obtain rfl : other = start + width := by omega
      exact found
  · intro follows k
    constructor
    · rintro ⟨start, member, low, high⟩
      exact ⟨start, (taken.sound start member).2, low, high⟩
    · rintro ⟨next, here, low, high⟩
      obtain ⟨start, member, before, inside⟩ := taken.reached next (Nat.zero_le next) here
      by_cases near : k < start + width
      · exact ⟨start, member, by omega, near⟩
      · exact ⟨_, follows start member next here (by omega) inside, by omega, by omega⟩

end Taken

/-! ## Spaces and words of a match -/

theorem count_accepts {c : Char} (fixed : c ≠ '?') {text : List Char} (accepts : Accepts c text) :
    text.count ' ' = if c = ' ' || c = Mark.join then 1 else 0 := by
  rw [Accepts, if_neg fixed] at accepts
  by_cases star : c = '*'
  · subst star
    exact List.count_eq_zero.mpr accepts
  rw [if_neg star] at accepts
  split at accepts
  · subst c text
    rfl
  split at accepts
  · subst c text
    rfl
  split at accepts
  · subst c text
    rfl
  split at accepts
  · subst c text
    rfl
  · rename_i join _ _ _
    subst text
    simp [List.count_singleton, join]

/-- Without the wildcard for any character, a term always matches as many spaces as it joins words. -/
theorem count_splits {term : List Char} (fixed : '?' ∉ term) {text : List Char}
    (splits : Splits term text) :
    text.count ' ' = term.countP fun c => c = ' ' || c = Mark.join := by
  induction term generalizing text with
  | nil =>
    obtain rfl : text = [] := splits
    rfl
  | cons c term ih =>
    obtain ⟨first, rest, rfl, accepts, splits⟩ := splits
    rw [List.mem_cons, not_or] at fixed
    rw [List.count_append, count_accepts (Ne.symm fixed.1) accepts, ih fixed.2 splits, List.countP_cons,
      Nat.add_comm]

/-- The words begin with what the term matches, and a character that may follow it. -/
def Begins (term : List Char) (words : List Word) : Prop :=
  ∃ middle c rest, spaced words = middle ++ c :: rest ∧ Splits term middle ∧ c ∈ closers

theorem not_begins_nil (term : List Char) : ¬ Begins term [] := by
  rintro ⟨middle, c, rest, shape, -⟩
  have empty := (List.append_eq_nil_iff.mp shape.symm).2
  contradiction

/-! ## One step of the search -/

theorem spacesBetween_eq (text : Array Char) (first last : Nat) :
    spacesBetween text first last = ((text.toList.drop first).take (last - first)).count ' ' := by
  rw [spacesBetween, ← Array.count_toList, Array.toList_extract, List.extract_eq_take_drop]

theorem count_take_add_spacesBetween (text : Array Char) {counted first : Nat} (order : counted ≤ first) :
    (text.toList.take counted).count ' ' + spacesBetween text counted first =
      (text.toList.take first).count ' ' := by
  have between : spacesBetween text counted first =
      ((text.toList.take first).drop counted).count ' ' := by
    rw [spacesBetween_eq, List.drop_take]
  have front : text.toList.take counted = (text.toList.take first).take counted := by
    rw [List.take_take, Nat.min_eq_left order]
  rw [between, front, ← List.count_append, List.take_append_drop]

/-- The search goes on behind the match or, if it ends with a space, at that space. -/
theorem resumeAt_bounds (text : Array Char) {start stop : Nat} (advance : start + 2 ≤ stop) :
    stop - 1 ≤ resumeAt text start stop ∧ resumeAt text start stop ≤ stop ∧
      (text[stop - 1]? = some ' ' → resumeAt text start stop = stop - 1) := by
  unfold resumeAt
  split
  · refine ⟨Nat.le_refl _, by omega, fun _ => rfl⟩
  · rename_i other
    refine ⟨by omega, Nat.le_refl _, fun space => absurd ⟨space, by omega⟩ other⟩

section Search

variable {pattern : Pattern} (literal : ∀ c ∈ pattern.term, IsLiteral c) {text : Array Char}

include literal

/-- A match begins at a space. -/
theorem ends_eq_nil {start : Nat} (other : text[start]? ≠ some ' ') :
    (pattern.regex.spans text).ends start = [] := by
  refine List.eq_nil_iff_forall_not_mem.mpr ?_
  intro stop member
  obtain ⟨middle, c, rest, shape, -⟩ := (Pattern.mem_spans literal).mp member
  exact other (getElem?_eq_some_iff_drop.mpr ⟨_, shape⟩)

variable {seen : List Char} {words : List Word} (shape : text.toList = seen ++ ' ' :: spaced words)

include shape

theorem mem_ends_seen {stop : Nat} : stop ∈ (pattern.regex.spans text).ends seen.length ↔
    ∃ middle c rest, spaced words = middle ++ c :: rest ∧ Splits pattern.term middle ∧ c ∈ closers ∧
      stop = seen.length + middle.length + 2 := by
  rw [Pattern.mem_spans literal, shape, List.drop_left]
  simp only [List.cons.injEq, true_and]

theorem ends_seen_eq_nil (absent : ¬ Begins pattern.term words) :
    (pattern.regex.spans text).ends seen.length = [] := by
  refine List.eq_nil_iff_forall_not_mem.mpr ?_
  intro stop member
  obtain ⟨middle, c, rest, split, splits, closes, -⟩ := (mem_ends_seen literal shape).mp member
  exact absent ⟨middle, c, rest, split, splits, closes⟩

theorem ends_seen_eq_cons (present : Begins pattern.term words) :
    ∃ stop others, (pattern.regex.spans text).ends seen.length = stop :: others := by
  obtain ⟨middle, c, rest, split, splits, closes⟩ := present
  have member := (mem_ends_seen literal shape).mpr ⟨middle, c, rest, split, splits, closes, rfl⟩
  exact List.exists_cons_of_ne_nil (List.ne_nil_of_mem member)

/-- A match covers as many words as the term joins, and the search goes on in the last of them or at the
space behind it. -/
theorem resume_after (fixed : '?' ∉ pattern.term) (solid : Solid words) {stop : Nat}
    (found : stop ∈ (pattern.regex.spans text).ends seen.length) :
    ∃ skipped, text.toList = (seen ++ ' ' :: skipped) ++ ' ' :: spaced (words.drop pattern.wordCount) ∧
      (' ' :: skipped).count ' ' = pattern.wordCount ∧
      seen.length < resumeAt text seen.length stop ∧
      resumeAt text seen.length stop ≤ (seen ++ ' ' :: skipped).length ∧
      ∀ position, resumeAt text seen.length stop ≤ position →
        position < (seen ++ ' ' :: skipped).length → text[position]? ≠ some ' ' := by
  obtain ⟨middle, c, rest, split, splits, -, rfl⟩ := (mem_ends_seen literal shape).mp found
  obtain ⟨before, left, right, after, words_eq, middle_eq, rest_eq⟩ :=
    Text.exists_cut split (List.cons_ne_nil c rest)
  rw [words_eq, Text.Solid, List.forall_mem_append, List.forall_mem_cons, List.mem_append, not_or] at solid
  obtain ⟨solidBefore, ⟨noLeft, noRight⟩, -⟩ := solid
  have spaces : middle.count ' ' = before.length := by
    rw [middle_eq, List.count_append, Text.count_spaced solidBefore, List.count_eq_zero.mpr noLeft]
    rfl
  have width : pattern.wordCount = before.length + 1 := by
    rw [← spaces, count_splits fixed splits, Nat.add_comm]
    rfl
  have whole : text.toList = (seen ++ ' ' :: middle) ++ c :: rest := by
    rw [shape, split, List.append_assoc]
    rfl
  have front : (seen ++ ' ' :: middle).length = seen.length + middle.length + 1 := by
    simp
    omega
  have longer : (seen ++ ' ' :: (middle ++ right)).length =
      seen.length + middle.length + 1 + right.length := by
    simp
    omega
  have last : text[seen.length + middle.length + 2 - 1]? = some c := by
    have position : seen.length + middle.length + 2 - 1 = (seen ++ ' ' :: middle).length := by omega
    rw [position]
    refine getElem?_eq_some_iff_drop.mpr ⟨rest, ?_⟩
    rw [whole, List.drop_left]
  obtain ⟨low, high, atSpace⟩ := resumeAt_bounds text
    (show seen.length + 2 ≤ seen.length + middle.length + 2 by omega)
  refine ⟨middle ++ right, ?_, ?_, by omega, ?_, ?_⟩
  · rw [whole, rest_eq, width, words_eq]
    simp
  · rw [List.count_cons_self, List.count_append, spaces, List.count_eq_zero.mpr noRight, width]
  · rw [longer]
    cases right with
    | nil =>
      obtain rfl : c = ' ' := (List.cons.inj rest_eq).1
      rw [atSpace last, List.length_nil]
      omega
    | cons d right =>
      rw [List.length_cons]
      omega
  · intro position behind inside space
    have here : text.toList.drop (seen ++ ' ' :: middle).length = right ++ ' ' :: spaced after := by
      rw [whole, List.drop_left, rest_eq]
    have offset : position - (seen ++ ' ' :: middle).length < right.length := by omega
    have found := getElem?_of_drop_append here offset
    rw [Nat.add_sub_cancel' (by omega), space] at found
    exact noRight (List.mem_of_getElem? found.symm)

end Search

/-! ## The whole search -/

/-- The search stands at `start`, and no match begins between there and the words that are left, which
are those of `all` behind what has been seen. -/
structure Rests (spans : Regex.Spans) (text : Array Char) (all : List Word) (counted start : Nat)
    (seen : List Char) : Prop where
  shape : text.toList = seen ++ ' ' :: spaced (all.drop (seen.count ' '))
  behind : counted ≤ start
  ahead : start ≤ seen.length
  idle : ∀ position, start ≤ position → position < seen.length → spans.ends position = []

section Run

variable {pattern : Pattern} (literal : ∀ c ∈ pattern.term, IsLiteral c) {text : Array Char}
  {all : List Word} (solid : Solid all) {counted start : Nat} {seen : List Char}
  (rests : Rests (pattern.regex.spans text) text all counted start seen)

include rests

theorem Rests.spaces_eq : (text.toList.take counted).count ' ' + spacesBetween text counted seen.length =
    seen.count ' ' := by
  have order := Nat.le_trans rests.behind rests.ahead
  rw [count_take_add_spacesBetween text order, rests.shape, List.take_left]

include literal

/-- Where no word is left the search ends. -/
theorem Rests.over (ended : all.drop (seen.count ' ') = []) :
    (pattern.regex.spans text).firstFrom start = none := by
  have shape := rests.shape
  rw [ended] at shape
  have size_eq : text.size = seen.length + 1 := by
    rw [← Array.length_toList, shape]
    simp
  rw [Regex.Spans.firstFrom_eq_none_iff]
  intro position after
  rcases Nat.lt_trichotomy position seen.length with before | rfl | beyond
  · exact rests.idle position after before
  · exact ends_seen_eq_nil literal shape (not_begins_nil pattern.term)
  · apply ends_eq_nil literal
    rw [Array.getElem?_eq_none (by omega)]
    simp

include solid

/-- A word at which the term does not begin is passed over. -/
theorem Rests.pass {word : Word} {words : List Word} (left : all.drop (seen.count ' ') = word :: words)
    (absent : ¬ Begins pattern.term (word :: words)) :
    Rests (pattern.regex.spans text) text all counted start (seen ++ ' ' :: word) ∧
      (seen ++ ' ' :: word).count ' ' = seen.count ' ' + 1 := by
  have shape := rests.shape
  rw [left] at shape
  have noSpace : ' ' ∉ word := by
    apply solid.drop (seen.count ' ')
    rw [left]
    exact List.mem_cons_self
  have count_eq : (seen ++ ' ' :: word).count ' ' = seen.count ' ' + 1 := by
    rw [List.count_append, List.count_cons_self, List.count_eq_zero.mpr noSpace]
  have ahead := rests.ahead
  refine ⟨⟨?_, rests.behind, ?_, ?_⟩, count_eq⟩
  · rw [count_eq, ← List.drop_drop, left, shape]
    simp
  · rw [List.length_append]
    omega
  · intro position after before
    rcases Nat.lt_trichotomy position seen.length with earlier | rfl | inWord
    · exact rests.idle position after earlier
    · exact ends_seen_eq_nil literal shape absent
    · apply ends_eq_nil literal
      intro space
      have here : text.toList.drop (seen.length + 1) = word ++ ' ' :: spaced words := by
        rw [← List.drop_drop, shape, List.drop_left]
        simp
      have offset : position - (seen.length + 1) < word.length := by
        simp only [List.length_append, List.length_cons] at before
        omega
      have found := getElem?_of_drop_append here offset
      rw [Nat.add_sub_cancel' (by omega), space] at found
      exact noSpace (List.mem_of_getElem? found.symm)

/-- At words with which the term begins a match is taken, and the search rests before the words behind
it. -/
theorem Rests.take (fixed : '?' ∉ pattern.term)
    (present : Begins pattern.term (all.drop (seen.count ' '))) :
    ∃ stop skipped, (pattern.regex.spans text).firstFrom start = some (seen.length, stop) ∧
      start < resumeAt text seen.length stop ∧ resumeAt text seen.length stop < text.size ∧
      Rests (pattern.regex.spans text) text all seen.length (resumeAt text seen.length stop)
        (seen ++ ' ' :: skipped) ∧
      (seen ++ ' ' :: skipped).count ' ' = seen.count ' ' + pattern.wordCount := by
  have shape := rests.shape
  obtain ⟨stop, others, ends⟩ := ends_seen_eq_cons literal shape present
  obtain ⟨skipped, shapeNext, width, low, high, noSpace⟩ :=
    resume_after literal shape fixed (solid.drop _) (ends ▸ List.mem_cons_self)
  have count_eq : (seen ++ ' ' :: skipped).count ' ' = seen.count ' ' + pattern.wordCount := by
    rw [List.count_append, width]
  have ahead := rests.ahead
  refine ⟨stop, skipped, Regex.Spans.firstFrom_eq_some ahead rests.idle ends, by omega, ?_,
    ⟨?_, Nat.le_of_lt low, high, ?_⟩, count_eq⟩
  · have whole := congrArg List.length shapeNext
    simp only [Array.length_toList, List.length_append, List.length_cons] at whole high
    omega
  · rw [count_eq, ← List.drop_drop]
    exact shapeNext
  · intro position after before
    exact ends_eq_nil literal (noSpace position after before)

/-- From a state of rest on, the search covers the words of the matches taken from left to right. -/
theorem coveredFrom_scan (fixed : '?' ∉ pattern.term) : ∃ starts,
    coveredFrom (pattern.regex.spans text) text pattern.wordCount counted
        ((text.toList.take counted).count ' ') start =
      starts.flatMap (List.range' · pattern.wordCount) ∧
    Taken (fun first => Begins pattern.term (all.drop first)) pattern.wordCount (seen.count ' ')
      starts := by
  -- The induction is on the number of words left; a word that begins no match is passed over, a match
  -- takes as many words as the term joins.
  induction remaining : all.length - seen.count ' ' using Nat.strongRecOn
    generalizing seen counted start with
  | ind remaining ih =>
    cases left : all.drop (seen.count ' ') with
    | nil =>
      refine ⟨[], ?_, Taken.nil ?_⟩
      · rw [coveredFrom, rests.over literal left]
        rfl
      · intro first later
        have short := List.drop_eq_nil_iff.mp left
        rw [List.drop_eq_nil_iff.mpr (by omega)]
        exact not_begins_nil pattern.term
    | cons word words =>
      have more : seen.count ' ' < all.length := by
        refine Nat.lt_of_not_le fun short => ?_
        rw [List.drop_eq_nil_iff.mpr short] at left
        contradiction
      by_cases present : Begins pattern.term (word :: words)
      · rw [← left] at present
        obtain ⟨stop, skipped, search, low, inside, next, count_eq⟩ :=
          rests.take literal solid fixed present
        have positive := pattern.wordCount_pos
        obtain ⟨starts, found, taken⟩ := ih _ (by omega) next rfl
        rw [count_eq] at taken
        have seen_eq : (text.toList.take seen.length).count ' ' = seen.count ' ' := by
          rw [rests.shape, List.take_left]
        rw [seen_eq] at found
        refine ⟨seen.count ' ' :: starts, ?_, taken.cons positive present⟩
        rw [coveredFrom, search]
        dsimp only
        rw [rests.spaces_eq, if_pos ⟨low, inside⟩, found, List.flatMap_cons]
      · obtain ⟨next, count_eq⟩ := rests.pass literal solid left present
        obtain ⟨starts, found, taken⟩ := ih _ (by omega) next rfl
        rw [count_eq] at taken
        rw [← left] at present
        exact ⟨starts, found, taken.skip present⟩

end Run

/-- The words that a term covers are those of the matches taken from left to right. -/
theorem wordIndices_scan {pattern : Pattern} (literal : ∀ c ∈ pattern.term, IsLiteral c)
    (fixed : '?' ∉ pattern.term) {words : List Word} (solid : Solid words) : ∃ starts,
      pattern.wordIndices (' ' :: spaced words).toArray =
        starts.flatMap (List.range' · pattern.wordCount) ∧
      Taken (fun first => Begins pattern.term (words.drop first)) pattern.wordCount 0 starts := by
  have rests : Rests (pattern.regex.spans (' ' :: spaced words).toArray) (' ' :: spaced words).toArray
      words 0 0 [] := by
    refine ⟨rfl, Nat.le_refl 0, Nat.le_refl 0, ?_⟩
    intro position _ before
    exact absurd before (Nat.not_lt_zero position)
  exact coveredFrom_scan literal solid rests fixed

end TextQuery.Query
