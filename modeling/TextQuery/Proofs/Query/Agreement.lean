import Mathlib.Data.List.Nodup
import TextQuery.Proofs.Query.LiveGroups

/-!
# The parser and the reading agree

The parser rewrites the text of a query while it goes through it; the reading of `readQuery` does not.
Main statement: both give the same for a query in which the user has written no reference
(`parse_agrees`), and a query with such a reference has no condition at all (`parse_written_reference`).
-/
set_option autoImplicit false

namespace TextQuery.Query

open Text (Word words unwords)

/-! ## The text before the place that has been reached -/

/-- The text below the innermost level, latest character first, with the pieces of its levels and the
groups that it refers to. -/
inductive Below (groups : Groups) : List Char → List (List Piece) → List Nat → Prop
  | nil : Below groups [] [] []
  | cons {segment below : List Char} {around : List Piece} {outer : List (List Piece)}
      {taken : List Nat} (flat : '(' ∉ segment) (stand : StandFor groups (words segment) around.reverse)
      (rest : Below groups below outer taken) :
      Below groups ('(' :: (segment.reverse ++ below)) (around :: outer)
        (references (words segment) ++ taken)

theorem lt_length_of_mem_references {groups : Groups} {words : List Word} {pieces : List Piece}
    (stand : StandFor groups words pieces) {number : Nat} (member : number ∈ references words) :
    number < groups.length := by
  induction stand with
  | nil => contradiction
  | cons head tail ih =>
    rw [references_cons, List.mem_append, Option.mem_toList] at member
    exact member.elim head.lt_length ih

namespace Below

variable {groups : Groups} {below : List Char} {outer : List (List Piece)} {taken : List Nat}

theorem mono {left : Groups} (represents : Below groups below outer taken)
    (kept : ∀ number ∈ taken, left[number]? = groups[number]?) : Below left below outer taken := by
  induction represents with
  | nil => exact .nil
  | cons flat stand rest ih =>
    exact .cons flat (StandFor.mono stand fun number member => kept number (by simp [member]))
      (ih fun number member => kept number (by simp [member]))

theorem lt_length (represents : Below groups below outer taken) :
    ∀ number ∈ taken, number < groups.length := by
  induction represents with
  | nil => simp
  | cons flat stand rest ih =>
    intro number member
    rcases List.mem_append.mp member with inSegment | later
    · exact lt_length_of_mem_references stand inSegment
    · exact ih number later

end Below

/-- The text read so far, latest character first, and the state of the reading. The text of the
innermost level is a part that its last blank has settled, and the word that is being read. -/
structure Represents (groups : Groups) (read : List Char) (outer : List (List Piece))
    (level : List Piece) (word segment below : List Char) (taken : List Nat) : Prop where
  text : read = word ++ (segment.reverse ++ below)
  flat : '(' ∉ segment
  settled : ∀ more, words (segment ++ more) = words segment ++ words more
  stand : StandFor groups (words segment) level.reverse
  around : Below groups below outer taken
  distinct : (references (words segment) ++ taken).Nodup
  solid : ∀ c ∈ word, Unicode.isWhiteSpace c = false ∧ isDelimiter c = false

namespace Represents

variable {groups : Groups} {read : List Char} {outer : List (List Piece)} {level : List Piece}
  {word segment below : List Char} {taken : List Nat}

theorem start : Represents [] [] [] [] [] [] [] [] where
  text := rfl
  flat := List.not_mem_nil
  settled := fun _ => rfl
  stand := .nil
  around := .nil
  distinct := List.nodup_nil
  solid := by simp

theorem undelimited (represents : Represents groups read outer level word segment below taken) :
    ∀ c ∈ word, isDelimiter c = false :=
  fun c member => (represents.solid c member).2

/-- The text of the innermost level has no parenthesis. -/
theorem flat_inside (represents : Represents groups read outer level word segment below taken) :
    '(' ∉ word ++ segment.reverse := by
  intro member
  rcases List.mem_append.mp member with inWord | inSegment
  · have delimiter := (represents.solid _ inWord).2
    contradiction
  · exact represents.flat (List.mem_reverse.mp inSegment)

/-- The words of the innermost level when the word that is being read ends. -/
theorem words_ended (represents : Represents groups read outer level word segment below taken) :
    words (segment ++ word.reverse) =
      words segment ++ if word = [] then [] else [word.reverse] := by
  rw [represents.settled]
  split
  · rename_i empty
    rw [empty]
    rfl
  · rename_i nonempty
    rw [Text.words_eq_singleton (by simpa using nonempty)
      fun c member => (represents.solid c (List.mem_reverse.mp member)).1]

variable (represents : Represents groups read outer level word segment below taken)
  (bare : word ≠ [] → groupNumber? word.reverse = none)

include represents bare

theorem stand_ended :
    StandFor groups (words (segment ++ word.reverse)) (endWord level word).reverse := by
  rw [represents.words_ended, endWord]
  split
  · simpa using represents.stand
  · rename_i nonempty
    rw [List.reverse_cons]
    exact List.rel_append represents.stand (.cons (.word (bare nonempty)) .nil)

theorem references_ended :
    references (words (segment ++ word.reverse)) = references (words segment) := by
  rw [represents.words_ended]
  split
  · rw [List.append_nil]
  · rename_i nonempty
    rw [references_append]
    simp [references, bare nonempty]

theorem blank : Represents groups (' ' :: read) outer (endWord level word) []
    (segment ++ word.reverse ++ [' ']) below taken := by
  have ended : words (segment ++ word.reverse ++ [' ']) = words (segment ++ word.reverse) := by
    rw [Text.words_append_cons (by decide)]
    exact List.append_nil _
  refine ⟨by simp [represents.text], ?_, fun more => ?_, ?_, represents.around, ?_, by simp⟩
  · have flat := represents.flat_inside
    simp only [List.mem_append, List.mem_reverse, List.mem_singleton, not_or] at flat ⊢
    exact ⟨⟨flat.2, flat.1⟩, by decide⟩
  · rw [ended, List.append_assoc, List.singleton_append, Text.words_append_cons (by decide)]
  · rw [ended]
    exact represents.stand_ended bare
  · rw [ended, represents.references_ended bare]
    exact represents.distinct

theorem opened : Represents groups ('(' :: read) (endWord level word :: outer) [] [] []
    ('(' :: ((segment ++ word.reverse).reverse ++ below))
    (references (words (segment ++ word.reverse)) ++ taken) := by
  have flat : '(' ∉ segment ++ word.reverse := fun member =>
    represents.flat_inside (by simpa [or_comm] using member)
  refine ⟨by simp [represents.text], List.not_mem_nil, fun _ => rfl, .nil,
    .cons flat (represents.stand_ended bare) represents.around, ?_, by simp⟩
  rw [represents.references_ended bare]
  exact represents.distinct

omit bare in
theorem letter {c : Char} (notBlank : Unicode.isWhiteSpace c = false)
    (noDelimiter : isDelimiter c = false) :
    Represents groups (c :: read) outer level (c :: word) segment below taken :=
  ⟨by simp [represents.text], represents.flat, represents.settled, represents.stand,
    represents.around, represents.distinct,
    List.forall_mem_cons.mpr ⟨⟨notBlank, noDelimiter⟩, represents.solid⟩⟩

end Represents

theorem words_referenceText (segment : List Char) (number : Nat) :
    words (segment ++ referenceText number) = words segment ++ [referenceWord number] := by
  rw [referenceText_eq, Text.words_append_cons (by decide), Text.words_append_cons (by decide),
    words_referenceWord]
  rfl

/-- The reference of a new group comes after the text of the level around the group. -/
theorem represents_closed {groups left : Groups} {around : List Piece} {outer : List (List Piece)}
    {segment below : List Char} {used taken : List Nat} (flat : '(' ∉ segment)
    (stand : StandFor groups (words segment) around.reverse) (rest : Below groups below outer taken)
    (distinct : (used ++ (references (words segment) ++ taken)).Nodup)
    (unchanged : Unchanged groups left used) (fits : groups.length ≤ maxCount)
    (condition : Condition) :
    Represents (left ++ [some condition])
      ((referenceText groups.length).reverse ++ (segment.reverse ++ below)) outer
      (.group condition :: around) [] (segment ++ referenceText groups.length) below taken := by
  obtain ⟨_, distinctAround, apart⟩ := List.nodup_append.mp distinct
  have reference := groupNumber?_referenceWord fits
  have known : ∀ number ∈ references (words segment) ++ taken, number < groups.length := by
    intro number member
    rcases List.mem_append.mp member with inSegment | later
    · exact lt_length_of_mem_references stand inSegment
    · exact rest.lt_length number later
  have kept : ∀ number ∈ references (words segment) ++ taken,
      (left ++ [some condition])[number]? = groups[number]? := by
    intro number member
    rw [List.getElem?_append_left (unchanged.1.symm ▸ known number member)]
    exact unchanged.2 number fun inUsed => apart number inUsed number member rfl
  have held : (left ++ [some condition])[groups.length]? = some (some condition) := by
    rw [← unchanged.1]
    exact List.getElem?_concat_length
  refine ⟨by simp, ?_, fun more => ?_, ?_, ?_, ?_, by simp⟩
  · rw [referenceText_eq]
    intro member
    have inWord : '(' ∈ referenceWord groups.length := by simpa [flat] using member
    have delimiter := (of_mem_referenceWord inWord).2
    contradiction
  · have ends : segment ++ referenceText groups.length ++ more =
        segment ++ ' ' :: (referenceWord groups.length ++ ' ' :: more) := by
      simp [referenceText_eq]
    rw [ends, words_referenceText, Text.words_append_cons (by decide),
      Text.words_append_cons (by decide), words_referenceWord, List.append_assoc]
  · rw [words_referenceText, List.reverse_cons]
    exact List.rel_append
      (StandFor.mono stand fun number member => kept number (List.mem_append_left _ member))
      (.cons (.group reference held) .nil)
  · exact rest.mono fun number member => kept number (List.mem_append_right _ member)
  · have fresh : groups.length ∉ references (words segment) ++ taken := fun member =>
      Nat.lt_irrefl _ (known _ member)
    have single : references [referenceWord groups.length] = [groups.length] := by
      simp [references, reference]
    rw [words_referenceText, references_append, single, List.append_assoc, List.singleton_append]
    exact List.nodup_middle.mpr (List.nodup_cons.mpr ⟨fresh, distinctAround⟩)

/-! ## Agreement of a whole query -/

section Steps

variable {groups : Groups} {read rest : List Char} {outer : List (List Piece)} {level : List Piece}
  {word segment below : List Char} {taken : List Nat}

/-- At the end of the text a group is still open in both, or both give the condition of the last level. -/
theorem parseFrom_nil_agrees
    (represents : Represents groups read outer level word segment below taken)
    (bare : word ≠ [] → groupNumber? word.reverse = none) :
    (parseFrom groups read []).mapError QueryError.fault = readFrom outer level word [] := by
  rw [parseFrom, readFrom.eq_def]
  dsimp only
  cases represents.around with
  | nil =>
    have text : read.reverse = segment ++ word.reverse := by simp [represents.text]
    have absent : '(' ∉ read.reverse := by simpa [text, or_comm] using represents.flat_inside
    rw [cut?_eq_none absent, text]
    dsimp only
    obtain ⟨error, run, failed⟩ | ⟨condition, left, run, reading, _⟩ :=
      parseWords_agrees (represents.stand_ended bare)
        (by simpa [represents.references_ended bare] using represents.distinct)
    · rw [parseLevel, run, failed]
      rfl
    · rw [parseLevel, run, reading]
      rfl
  | cons flatAround stand rest =>
    have opened : '(' ∈ read.reverse := by simp [represents.text]
    obtain ⟨before, after, cut⟩ := cut?_isSome opened
    rw [cut]
    rfl

/-- At a closing parenthesis both fail, or both close the innermost group, for which the parser takes one
more place in the table. -/
theorem parseFrom_closing_agrees
    (represents : Represents groups read outer level word segment below taken)
    (bare : word ≠ [] → groupNumber? word.reverse = none) (fits : groups.length ≤ maxCount)
    (rest : List Char) :
    (∃ error, parseFrom groups read (')' :: rest) = .error error ∧
        readFrom outer level word (')' :: rest) = .error error.fault) ∨
      ∃ next nextRead nextOuter nextLevel nextSegment nextBelow nextTaken,
        Represents next nextRead nextOuter nextLevel [] nextSegment nextBelow nextTaken ∧
        next.length = groups.length + 1 ∧
        parseFrom groups read (')' :: rest) = parseFrom next nextRead rest ∧
        readFrom outer level word (')' :: rest) = readFrom nextOuter nextLevel [] rest := by
  have flat := represents.flat_inside
  have text := represents.text
  rw [← List.append_assoc] at text
  rw [parseFrom, if_pos rfl]
  cases represents.around with
  | nil =>
    rw [text, List.append_nil, cut?_eq_none flat, readFrom_unopened]
    exact Or.inl ⟨_, rfl, rfl⟩
  | @cons segmentAround belowAround around outer taken flatAround stand below =>
    have inside : (word ++ segment.reverse).reverse = segment ++ word.reverse := by simp
    have distinct := represents.distinct
    rw [← represents.references_ended bare] at distinct
    rw [text, cut?_append_cons flat, readFrom_closing]
    dsimp only
    rw [parseLevel, inside]
    obtain ⟨error, run, failed⟩ | ⟨condition, left, run, reading, unchanged⟩ :=
      parseWords_agrees (represents.stand_ended bare) (List.nodup_append.mp distinct).1
    · rw [run, failed]
      exact Or.inl ⟨_, rfl, rfl⟩
    · rw [run, reading]
      dsimp only
      rw [unchanged.1]
      refine Or.inr ⟨_, _, _, _, _, _, _,
        represents_closed flatAround stand below distinct unchanged fits condition, ?_, rfl, rfl⟩
      rw [List.length_append, List.length_singleton, unchanged.1]

theorem parseFrom_agrees
    (represents : Represents groups read outer level word segment below taken)
    (blanks : ∀ c ∈ rest, Unicode.isWhiteSpace c = true → c = ' ')
    (typed : ∀ run ∈ runs (word.reverse ++ rest), groupNumber? run = none)
    (fits : groups.length + rest.count ')' ≤ maxCount) :
    (parseFrom groups read rest).mapError QueryError.fault = readFrom outer level word rest := by
  induction rest generalizing groups read outer level word segment below taken with
  | nil =>
    refine parseFrom_nil_agrees represents fun nonempty => typed word.reverse ?_
    rw [List.append_nil, runs, Text.splitWords_eq_singleton (by simpa using nonempty)
      fun c member => represents.undelimited c (List.mem_reverse.mp member)]
    exact List.mem_singleton_self _
  | cons c rest ih =>
    obtain ⟨blank, blanksRest⟩ := List.forall_mem_cons.mp blanks
    by_cases space : c = ' '
    · subst space
      obtain ⟨bare, typedRest⟩ := passed_of_runs represents.undelimited (by decide) typed
      rw [parseFrom, if_neg (by decide), readFrom_space]
      exact ih (represents.blank bare) blanksRest typedRest (by simpa using fits)
    by_cases opening : c = '('
    · subst opening
      obtain ⟨bare, typedRest⟩ := passed_of_runs represents.undelimited (by decide) typed
      rw [parseFrom, if_neg (by decide), readFrom_opening]
      exact ih (represents.opened bare) blanksRest typedRest (by simpa using fits)
    by_cases closing : c = ')'
    · subst closing
      obtain ⟨bare, typedRest⟩ := passed_of_runs represents.undelimited (by decide) typed
      rw [List.count_cons_self] at fits
      obtain ⟨error, run, failed⟩ | ⟨_, _, _, _, _, _, _, closed, grown, run, reading⟩ :=
        parseFrom_closing_agrees represents bare (by omega) rest
      · rw [run, failed]
        rfl
      · rw [run, reading]
        exact ih closed blanksRest typedRest (by omega)
    · have noDelimiter : isDelimiter c = false := by simp [isDelimiter, space, opening, closing]
      have notBlank : Unicode.isWhiteSpace c = false :=
        Bool.eq_false_iff.mpr fun isBlank => space (blank isBlank)
      rw [parseFrom, if_neg closing, readFrom_letter _ _ _ _ noDelimiter]
      exact ih (represents.letter notBlank noDelimiter) blanksRest (by simpa using typed)
        (by simpa [List.count_cons_of_ne closing] using fits)

end Steps

theorem parse_agrees {query : String} (few : (normalize query.toList).count ')' ≤ maxCount)
    (bare : ∀ run ∈ runs (normalize query.toList), groupNumber? run = none) :
    (parse query).mapError QueryError.fault = readQuery (normalize query.toList) := by
  unfold parse parseChars parseNormalized
  split
  · rename_i empty
    rw [List.isEmpty_iff.mp empty]
    rfl
  · exact parseFrom_agrees .start (fun _ member => eq_space_of_mem_normalize member) bare
      (by simpa using few)

/-- The references that the parser puts into the text of a query never show. A query in which the user
wrote none gives what the reading of its text gives, and one in which the user wrote one is refused. The
numbers of groups are counts, so the query must be no longer than a count; every text in memory is. -/
theorem parse_eq_readQuery {query : String} (fits : query.length ≤ maxCount) :
    ((∀ run ∈ runs (normalize query.toList), groupNumber? run = none) →
        (parse query).mapError QueryError.fault = readQuery (normalize query.toList)) ∧
      ((∃ run ∈ runs (normalize query.toList), (groupNumber? run).isSome = true) →
        ∃ error, parse query = .error error) :=
  have few := Nat.le_trans (count_normalize_le query.toList) fits
  ⟨parse_agrees few, fun ⟨_, member, reference⟩ => parse_written_reference few member reference⟩

/-- A query with a group in a group, and one with a reference of its user. -/
theorem parse_eq_readQuery_samples :
    (parse "((a OR b) AND c) NOT d").mapError QueryError.fault =
        readQuery (normalize "((a OR b) AND c) NOT d".toList) ∧
      ∃ error, parse "(a OR b) AND :0:" = .error error :=
  ⟨(parse_eq_readQuery (by decide)).1 (by decide +kernel),
    (parse_eq_readQuery (by decide)).2 (by decide +kernel)⟩

end TextQuery.Query
