import TextQuery.Proofs.Query.Settled

/-!
# Printed text, piece by piece

A printed text is normalized piece by piece when it is read again, so it is read piece by piece too.
`ReadsAs` says what a part of it does in front of whatever may follow it.
-/
set_option autoImplicit false

namespace TextQuery.Query

open Text (Word words unwords clean squeeze straightQuote)
open Unicode (isWhiteSpace isReserved isInert isLowerForm lower)

/-! ## Normalizing from the front -/

/-- The text as the parser reads it, if blanks at its ends are kept as one space. -/
def prepared (text : List Char) : List Char := shieldQuotes (clean (squeeze text))

theorem normalize_eq_prepared {text : List Char} (starts : text.head?.any isWhiteSpace = false)
    (ends : text.getLast?.any isWhiteSpace = false) : normalize text = prepared text := by
  rw [normalize, prepared, Text.squeeze_eq_unwords starts ends]

/-- What may follow a part of a printed text: its end, or the end of a group, or a space and more. -/
inductive Closed : List Char → Prop
  | nil : Closed []
  | group (rest : List Char) : Closed (')' :: rest)
  | space {rest : List Char} (solid : rest.head?.any isWhiteSpace = false) : Closed (' ' :: rest)

theorem clean_cons {c : Char} (inert : isInert c = true) (straight : straightQuote c = c)
    (rest : List Char) : clean (c :: rest) = c :: clean rest :=
  Text.clean_append_cons inert straight [] rest

theorem shieldQuotes_append {text : List Char} (noQuote : '"' ∉ text) (rest : List Char) :
    shieldQuotes (text ++ rest) = text ++ shieldQuotes rest := by
  induction text with
  | nil => rfl
  | cons c more ih =>
    rw [List.mem_cons, not_or] at noQuote
    rw [shieldQuotes, List.cons_append, shieldFrom, if_neg (Ne.symm noQuote.1)]
    exact congrArg (c :: ·) (ih noQuote.2)

theorem prepared_parenthesis {c : Char} (parenthesis : c = '(' ∨ c = ')') (rest : List Char) :
    prepared (c :: rest) = c :: prepared rest := by
  have facts : isWhiteSpace c = false ∧ isInert c = true ∧ straightQuote c = c ∧ '"' ∉ [c] := by
    rcases parenthesis with rfl | rfl <;> decide
  rw [prepared, Text.squeeze_cons facts.1, clean_cons facts.2.1 facts.2.2.1]
  exact shieldQuotes_append facts.2.2.2 _

theorem prepared_space {rest : List Char} (solid : rest.head?.any isWhiteSpace = false) :
    prepared (' ' :: rest) = ' ' :: prepared rest := by
  rw [prepared, Text.squeeze_space solid, clean_cons (by decide) (by decide)]
  exact @shieldQuotes_append [' '] (by decide) _

/-- A closed rest is cut off by its first character, in the text and in what the parser reads. -/
theorem Closed.cases {rest : List Char} (closed : Closed rest) :
    rest = [] ∨ ∃ c more, (c = ' ' ∨ c = ')') ∧ squeeze rest = c :: squeeze more ∧
      prepared rest = c :: prepared more := by
  cases closed with
  | nil => exact Or.inl rfl
  | group more =>
    exact Or.inr ⟨')', more, Or.inr rfl, Text.squeeze_cons (by decide) more,
      prepared_parenthesis (Or.inr rfl) more⟩
  | @space more solid =>
    exact Or.inr ⟨' ', more, Or.inl rfl, Text.squeeze_space solid, prepared_space solid⟩

theorem prepared_word {word rest : List Char} (solid : ∀ c ∈ word, isWhiteSpace c = false)
    (noQuote : '"' ∉ clean word) (closed : Closed rest) :
    prepared (word ++ rest) = clean word ++ prepared rest := by
  rcases closed.cases with rfl | ⟨c, more, delimiter, squeezed, cut⟩
  · rw [List.append_nil, prepared, Text.squeeze_of_solid solid]
    have single := shieldQuotes_append noQuote []
    rw [List.append_nil] at single
    exact single
  · have facts : isInert c = true ∧ straightQuote c = c ∧ '"' ∉ [c] := by
      rcases delimiter with rfl | rfl <;> decide
    rw [cut, prepared, Text.squeeze_append solid, squeezed, Text.clean_append_cons facts.1 facts.2.1,
      shieldQuotes_append noQuote]
    exact congrArg (clean word ++ ·) (shieldQuotes_append facts.2.2 _)

theorem quote_not_mem_clean {text : List Char} (visible : ∀ c ∈ text, Visible c) : '"' ∉ clean text :=
  fun member => (visible _ (mem_of_isInert_of_mem_clean visible member (by decide))).noQuote rfl

/-- A phrase between quotes becomes one word with a mark, whatever stands in it. -/
theorem prepared_phrase {text : List Char} (nonempty : text ≠ []) (noQuote : '"' ∉ clean (squeeze text))
    (rest : List Char) : prepared ('"' :: text ++ '"' :: rest) =
      Mark.quote :: (clean (squeeze text)).map shieldChar ++ prepared rest := by
  have cleaned : clean (squeeze ('"' :: text ++ '"' :: rest)) =
      '"' :: clean (squeeze text) ++ '"' :: clean (squeeze rest) := by
    rw [List.cons_append, Text.squeeze_cons (by decide), Text.squeeze_append_cons (by decide),
      clean_cons (by decide) (by decide), Text.clean_append_cons (by decide) (by decide)]
    rfl
  rw [prepared, cleaned]
  exact shieldQuotes_quoted (Text.clean_ne_nil (Text.squeeze_ne_nil nonempty)) noQuote _

theorem prepared_quoted {text : List Char} (visible : ∀ c ∈ text, Visible c) (rest : List Char) :
    prepared ('"' :: text ++ '"' :: rest) =
      (if text = [] then [] else Mark.quote :: (clean (squeeze text)).map shieldChar) ++
        prepared rest := by
  by_cases empty : text = []
  · have pair : prepared ('"' :: [] ++ '"' :: rest) = prepared rest := by
      rw [prepared, List.cons_append, List.nil_append, Text.squeeze_cons (by decide),
        Text.squeeze_cons (by decide), clean_cons (by decide) (by decide), clean_cons (by decide) (by decide)]
      rfl
    rw [if_pos empty, empty, pair]
    rfl
  · rw [if_neg empty]
    exact prepared_phrase empty (quote_not_mem_clean (visible_squeeze visible)) rest

/-! ## Reading from the front -/

/-- No word is a reference. -/
def Bare (query : List Char) : Prop := ∀ run ∈ runs query, groupNumber? run = none

theorem readFrom_letters {outer : List (List Piece)} {level : List Piece} {word : Word}
    (solid : ∀ c ∈ word, isDelimiter c = false) (begun rest : List Char) :
    readFrom outer level begun (word ++ rest) = readFrom outer level (word.reverse ++ begun) rest := by
  induction word generalizing begun with
  | nil => rfl
  | cons c more ih =>
    obtain ⟨first, others⟩ := List.forall_mem_cons.mp solid
    rw [List.cons_append, readFrom_letter _ _ _ _ first, ih others]
    simp

/-- A word ends where a closed rest starts. -/
theorem readFrom_word {outer : List (List Piece)} {level : List Piece} {word rest : List Char}
    (nonempty : word ≠ []) (solid : ∀ c ∈ word, isDelimiter c = false) (closed : Closed rest) :
    readFrom outer level [] (word ++ prepared rest) =
      readFrom outer (.word word :: level) [] (prepared rest) := by
  have ended : endWord level word.reverse = endWord (.word word :: level) [] := by
    rw [endWord, if_neg (by simpa using nonempty), List.reverse_reverse]
    rfl
  rw [readFrom_letters solid, List.append_nil]
  rcases closed.cases with rfl | ⟨c, more, rfl | rfl, -, cut⟩
  · have nothing : prepared [] = [] := rfl
    rw [nothing, readFrom.eq_def, readFrom.eq_def _ _ _ [], ended]
  · rw [cut, readFrom_space, readFrom_space, ended]
  · rw [cut]
    cases outer with
    | nil => rw [readFrom_unopened, readFrom_unopened]
    | cons around outer => rw [readFrom_closing, readFrom_closing, ended]

theorem bare_append_cons {c : Char} (delimiter : isDelimiter c = true) {left right : List Char}
    (bareLeft : Bare left) (bareRight : Bare right) : Bare (left ++ c :: right) := by
  intro run member
  rw [runs_append_cons delimiter] at member
  exact (List.mem_append.mp member).elim (bareLeft run) (bareRight run)

theorem bare_nil : Bare [] := fun _ member => absurd member List.not_mem_nil

theorem bare_cons {c : Char} (delimiter : isDelimiter c = true) {text : List Char} (bare : Bare text) :
    Bare (c :: text) :=
  bare_append_cons delimiter bare_nil bare

theorem bare_word {word rest : List Char} (solid : ∀ c ∈ word, isDelimiter c = false)
    (noReference : groupNumber? word = none) (closed : Closed rest) (bare : Bare (prepared rest)) :
    Bare (word ++ prepared rest) := by
  have single : Bare word := by
    intro run member
    by_cases empty : word = []
    · rw [empty] at member
      contradiction
    · rw [runs, Text.splitWords_eq_singleton empty solid, List.mem_singleton] at member
      rw [member, noReference]
  rcases closed.cases with rfl | ⟨c, more, delimiter, -, cut⟩
  · have nothing : prepared [] = [] := rfl
    rwa [nothing, List.append_nil]
  · have isDelim : isDelimiter c = true := by rcases delimiter with rfl | rfl <;> decide
    have split : runs (c :: prepared more) = runs (prepared more) :=
      runs_append_cons isDelim [] (prepared more)
    rw [cut, Bare, split] at bare
    rw [cut]
    exact bare_append_cons isDelim single bare

/-! ## Parts of a printed text -/

/-- In front of a closed rest the text closes so many groups, holds no reference, and is read as the pieces
that were found, or reading fails. -/
structure ReadsAs (text : List Char) (closings : Nat) (found : Option (List Piece)) : Prop where
  nonempty : text ≠ []
  starts : text.head?.any isWhiteSpace = false
  ends : text.getLast?.any isWhiteSpace = false
  count : ∀ {rest}, Closed rest →
    (prepared (text ++ rest)).count ')' = closings + (prepared rest).count ')'
  bare : ∀ {rest}, Closed rest → Bare (prepared rest) → Bare (prepared (text ++ rest))
  reads : ∀ {rest} outer level, Closed rest →
    (readFrom outer level [] (prepared (text ++ rest))).toOption =
      found.bind fun pieces => (readFrom outer (pieces.reverse ++ level) [] (prepared rest)).toOption

theorem readsAs_word {word : Word} {text : List Char} (nonempty : word ≠ [])
    (starts : text.head?.any isWhiteSpace = false) (ends : text.getLast?.any isWhiteSpace = false)
    (filled : text ≠ []) (solid : ∀ c ∈ word, isDelimiter c = false)
    (noReference : groupNumber? word = none)
    (shape : ∀ {rest}, Closed rest → prepared (text ++ rest) = word ++ prepared rest) :
    ReadsAs text 0 (some [.word word]) where
  nonempty := filled
  starts := starts
  ends := ends
  count := by
    intro rest closed
    have none : word.count ')' = 0 := List.count_eq_zero.mpr fun member => by
      have noDelimiter := solid _ member
      contradiction
    rw [shape closed, List.count_append, none]
  bare := by
    intro rest closed bare
    rw [shape closed]
    exact bare_word solid noReference closed bare
  reads := by
    intro rest outer level closed
    rw [shape closed, readFrom_word nonempty solid closed]
    rfl

theorem render_ends {pattern : Pattern} (legible : pattern.Legible) :
    pattern.render ≠ [] ∧ pattern.render.head?.any isWhiteSpace = false ∧
      pattern.render.getLast?.any isWhiteSpace = false := by
  unfold Pattern.render
  split
  · refine ⟨List.cons_ne_nil _ _, rfl, ?_⟩
    rw [List.getLast?_concat]
    rfl
  · rename_i quoted
    have bare := Bool.eq_false_iff.mpr quoted
    have solid := Pattern.solid_shown legible bare
    refine ⟨(legible.bare bare).1, ?_, ?_⟩
    · simpa [Option.any_eq_false] using fun c head => solid c (List.mem_of_mem_head? head)
    · simpa [Option.any_eq_false] using fun c last => solid c (List.mem_of_mem_getLast? last)

/-- The pieces that a printed term is read as. -/
def Pattern.pieces (pattern : Pattern) : List Piece :=
  if pattern.shown = [] then [] else [.word pattern.marked]

theorem prepared_render {pattern : Pattern} (legible : pattern.Legible) {rest : List Char}
    (closed : Closed rest) : prepared (pattern.render ++ rest) =
      (if pattern.shown = [] then [] else pattern.marked) ++ prepared rest := by
  unfold Pattern.render Pattern.marked
  split
  · rw [← prepared_quoted legible.visible rest, List.append_assoc]
    rfl
  · rename_i quoted
    have bare := Bool.eq_false_iff.mpr quoted
    rw [prepared_word (Pattern.solid_shown legible bare) (quote_not_mem_clean legible.visible) closed,
      if_neg (legible.bare bare).1]

theorem readsAs_term {pattern : Pattern} (legible : pattern.Legible) :
    ReadsAs pattern.render 0 (some pattern.pieces) := by
  obtain ⟨filled, starts, ends⟩ := render_ends legible
  by_cases empty : pattern.shown = []
  · have shape : ∀ {rest}, Closed rest → prepared (pattern.render ++ rest) = prepared rest := by
      intro rest closed
      rw [prepared_render legible closed, if_pos empty]
      rfl
    rw [Pattern.pieces, if_pos empty]
    refine ⟨filled, starts, ends, fun closed => ?_, fun closed bare => ?_, fun outer level closed => ?_⟩
    · rw [shape closed, Nat.zero_add]
    · rw [shape closed]
      exact bare
    · rw [shape closed]
      rfl
  · rw [Pattern.pieces, if_neg empty]
    refine readsAs_word (Pattern.marked_ne_nil empty) starts ends filled (Pattern.solid_marked legible)
      (Pattern.groupNumber?_marked legible) fun closed => ?_
    rw [prepared_render legible closed, if_neg empty]

namespace ReadsAs

variable {left right text : List Char} {closingsLeft closingsRight closings : Nat}
  {foundLeft foundRight found : Option (List Piece)}

theorem closed_space (parts : ReadsAs text closings found) (rest : List Char) :
    Closed (' ' :: (text ++ rest)) ∧
      prepared (' ' :: (text ++ rest)) = ' ' :: prepared (text ++ rest) := by
  have starts := parts.starts
  obtain ⟨c, more, rfl⟩ := List.exists_cons_of_ne_nil parts.nonempty
  exact ⟨.space starts, prepared_space starts⟩

/-- Two parts with a space between them. -/
theorem joined (first : ReadsAs left closingsLeft foundLeft)
    (second : ReadsAs right closingsRight foundRight) :
    ReadsAs (left ++ ' ' :: right) (closingsLeft + closingsRight)
      (foundLeft.bind fun before => foundRight.map fun after => before ++ after) where
  nonempty := by simp
  starts := by
    have starts := first.starts
    obtain ⟨c, more, rfl⟩ := List.exists_cons_of_ne_nil first.nonempty
    exact starts
  ends := by
    have ends := second.ends
    obtain ⟨c, more, rfl⟩ := List.exists_cons_of_ne_nil second.nonempty
    rw [List.getLast?_append_of_ne_nil _ (List.cons_ne_nil _ _), List.getLast?_cons_cons]
    exact ends
  count := by
    intro rest closed
    obtain ⟨closedRight, cut⟩ := second.closed_space rest
    rw [List.append_assoc, List.cons_append, first.count closedRight, cut,
      List.count_cons_of_ne (by decide), second.count closed, Nat.add_assoc]
  bare := by
    intro rest closed bare
    obtain ⟨closedRight, cut⟩ := second.closed_space rest
    rw [List.append_assoc, List.cons_append]
    refine first.bare closedRight ?_
    rw [cut]
    exact bare_cons (by decide) (second.bare closed bare)
  reads := by
    intro rest outer level closed
    obtain ⟨closedRight, cut⟩ := second.closed_space rest
    have later : ∀ pieces : List Piece, (readFrom outer (pieces.reverse ++ level) []
        (prepared (' ' :: (right ++ rest)))).toOption =
        foundRight.bind fun after =>
          (readFrom outer (after.reverse ++ (pieces.reverse ++ level)) [] (prepared rest)).toOption := by
      intro pieces
      rw [cut, readFrom_space]
      exact second.reads outer _ closed
    rw [List.append_assoc, List.cons_append, first.reads outer level closedRight]
    simp only [later]
    cases foundLeft with
    | none => rfl
    | some before =>
      cases foundRight with
      | none => rfl
      | some after => simp

/-- A group. -/
theorem enclosed (inner : ReadsAs text closings found) :
    ReadsAs ('(' :: text ++ [')']) (closings + 1) ((found.bind fun pieces =>
      (readLevel pieces).toOption).map fun condition => [.group condition]) where
  nonempty := by simp
  starts := rfl
  ends := by
    rw [List.getLast?_concat]
    rfl
  count := by
    intro rest closed
    have shape : '(' :: text ++ [')'] ++ rest = '(' :: (text ++ ')' :: rest) := by simp
    rw [shape, prepared_parenthesis (Or.inl rfl), List.count_cons_of_ne (by decide),
      inner.count (.group rest), prepared_parenthesis (Or.inr rfl), List.count_cons_self]
    omega
  bare := by
    intro rest closed bare
    have shape : '(' :: text ++ [')'] ++ rest = '(' :: (text ++ ')' :: rest) := by simp
    rw [shape, prepared_parenthesis (Or.inl rfl)]
    refine bare_cons (by decide) (inner.bare (.group rest) ?_)
    rw [prepared_parenthesis (Or.inr rfl)]
    exact bare_cons (by decide) bare
  reads := by
    intro rest outer level closed
    have shape : '(' :: text ++ [')'] ++ rest = '(' :: (text ++ ')' :: rest) := by simp
    rw [shape, prepared_parenthesis (Or.inl rfl), readFrom_opening,
      inner.reads _ _ (.group rest), prepared_parenthesis (Or.inr rfl)]
    cases found with
    | none => rfl
    | some pieces =>
      rw [Option.bind_some, Option.bind_some, readFrom_closing]
      have inside : (endWord (pieces.reverse ++ []) []).reverse = pieces := by simp [endWord]
      rw [inside]
      cases readLevel pieces <;> rfl

end ReadsAs

end TextQuery.Query
