import Mathlib.Data.List.Forall2
import TextQuery.Proofs.Query.Keyword
import TextQuery.Proofs.Query.Reading
import TextQuery.Proofs.Query.Source

/-!
# References stand for groups

The parser puts references in place of groups and takes the groups out of a table; the reading of
`readQuery` keeps them on a stack. Main statement: a level gives the same in both ways
(`parseWords_agrees`). What carries it is that every reference stands for an entry of the table that is
still there, and that no two references are the same: an operand that takes its group then leaves the
groups of all others alone.
-/
set_option autoImplicit false

namespace TextQuery.Query

open Text (Word words unwords)

/-! ## Words that stand for pieces -/

/-- The groups that the words refer to. -/
def references (words : List Word) : List Nat := words.filterMap groupNumber?

theorem references_cons (word : Word) (words : List Word) :
    references (word :: words) = (groupNumber? word).toList ++ references words := by
  cases found : groupNumber? word <;> simp [references, found]

theorem references_append (left right : List Word) :
    references (left ++ right) = references left ++ references right :=
  List.filterMap_append

/-- A word stands for itself, and a reference for the condition that the table holds for it. -/
inductive Stands (groups : Groups) : Word → Piece → Prop
  | word {word : Word} (bare : groupNumber? word = none) : Stands groups word (.word word)
  | group {word : Word} {number : Nat} {condition : Condition}
      (reference : groupNumber? word = some number)
      (held : groups[number]? = some (some condition)) : Stands groups word (.group condition)

theorem exists_colon_of_groupNumber? {word : Word} {number : Nat}
    (reference : groupNumber? word = some number) : ∃ rest, word = ':' :: rest := by
  unfold groupNumber? at reference
  split at reference
  · exact ⟨_, rfl⟩
  · contradiction

theorem isKeyword_of_groupNumber? {word : Word} {number : Nat}
    (reference : groupNumber? word = some number) (operator : Operator) :
    isKeyword operator word = false := by
  obtain ⟨rest, rfl⟩ := exists_colon_of_groupNumber? reference
  exact isKeyword_cons_eq_false (by decide) rest operator

theorem isNear_of_groupNumber? {word : Word} {number : Nat}
    (reference : groupNumber? word = some number) : isNear word = false := by
  obtain ⟨rest, rfl⟩ := exists_colon_of_groupNumber? reference
  exact isNear_cons_eq_false (by decide) rest

namespace Stands

variable {groups : Groups}

theorem isKeyword_eq {word : Word} {piece : Piece} (stands : Stands groups word piece)
    (operator : Operator) : piece.isKeyword operator = isKeyword operator word := by
  cases stands with
  | word bare => rfl
  | group reference held => exact (isKeyword_of_groupNumber? reference operator).symm

theorem isNear_eq {word : Word} {piece : Piece} (stands : Stands groups word piece) :
    piece.isNear = isNear word := by
  cases stands with
  | word bare => rfl
  | group reference held => exact (isNear_of_groupNumber? reference).symm

/-- Entries that the word does not refer to are of no account. -/
theorem mono {left : Groups} {word : Word} {piece : Piece} (stands : Stands groups word piece)
    (kept : ∀ number, groupNumber? word = some number → left[number]? = groups[number]?) :
    Stands left word piece := by
  cases stands with
  | word bare => exact .word bare
  | group reference held => exact .group reference ((kept _ reference).trans held)

theorem lt_length {word : Word} {piece : Piece} (stands : Stands groups word piece) {number : Nat}
    (reference : groupNumber? word = some number) : number < groups.length := by
  cases stands with
  | word bare => rw [bare] at reference; contradiction
  | group known held =>
    rw [known] at reference
    obtain rfl := Option.some.inj reference
    exact (List.getElem?_eq_some_iff.mp held).1

end Stands

/-! ## Cutting at separators -/

theorem splitAtWords_ne_nil (isSeparator : Word → Bool) (words : List Word) :
    splitAtWords isSeparator words ≠ [] := by
  cases words with
  | nil => exact List.cons_ne_nil _ _
  | cons word rest =>
    rw [splitAtWords]
    split
    · exact List.cons_ne_nil _ _
    · split <;> exact List.cons_ne_nil _ _

theorem splitAtWords_cons (isSeparator : Word → Bool) (word : Word) (rest : List Word) :
    splitAtWords isSeparator (word :: rest) =
      if isSeparator word then [] :: splitAtWords isSeparator rest
      else (splitAtWords isSeparator rest).modifyHead (word :: ·) := by
  obtain ⟨operand, operands, found⟩ :=
    List.exists_cons_of_ne_nil (splitAtWords_ne_nil isSeparator rest)
  rw [splitAtWords, found]
  rfl

/-- The words stand for the pieces, one by one. -/
abbrev StandFor (groups : Groups) : List Word → List Piece → Prop := List.Forall₂ (Stands groups)

theorem StandFor.mono {groups left : Groups} {words : List Word} {pieces : List Piece}
    (stand : StandFor groups words pieces)
    (kept : ∀ number ∈ references words, left[number]? = groups[number]?) :
    StandFor left words pieces := by
  induction stand with
  | nil => exact .nil
  | @cons word piece words pieces head tail ih =>
    rw [references_cons] at kept
    refine .cons (head.mono fun number reference => kept number ?_)
      (ih fun number member => kept number (List.mem_append_right _ member))
    rw [reference]
    exact List.mem_append_left _ (List.mem_singleton_self number)

namespace StandFor

variable {groups : Groups} {words : List Word} {pieces : List Piece}

theorem any_isKeyword (stand : StandFor groups words pieces) (operator : Operator) :
    pieces.any (Piece.isKeyword operator) = words.any (isKeyword operator) := by
  induction stand with
  | nil => rfl
  | cons head tail ih => rw [List.any_cons, List.any_cons, head.isKeyword_eq, ih]

theorem any_isNear (stand : StandFor groups words pieces) :
    pieces.any Piece.isNear = words.any isNear := by
  induction stand with
  | nil => rfl
  | cons head tail ih => rw [List.any_cons, List.any_cons, head.isNear_eq, ih]

theorem isEmpty_eq (stand : StandFor groups words pieces) : pieces.isEmpty = words.isEmpty := by
  cases stand <;> rfl

/-- A proximity word is no reference, so the proximity words of both sides are the same. -/
theorem filter_isNear (stand : StandFor groups words pieces) :
    (pieces.filterMap Piece.word?).filter isNear = words.filter isNear := by
  induction stand with
  | nil => rfl
  | cons head tail ih =>
    cases head with
    | word bare => simp only [List.filterMap_cons, Piece.word?, List.filter_cons, ih]
    | group reference held =>
      rw [List.filterMap_cons_none rfl, ih, List.filter_cons_of_neg]
      simp [isNear_of_groupNumber? reference]

/-- Words without references stand for themselves. -/
theorem mapM_word? (stand : StandFor groups words pieces) :
    pieces.mapM Piece.word? =
      if words.any (fun word => (groupNumber? word).isSome) then none else some words := by
  induction stand with
  | nil => rfl
  | cons head tail ih =>
    cases head with
    | word bare =>
      rw [List.mapM_cons, ih, List.any_cons, bare]
      simp only [Piece.word?, Option.isSome_none, Bool.false_or]
      split <;> rfl
    | group reference held => simp [List.mapM_cons, Piece.word?, reference]

/-- Words and pieces are cut at the same places. -/
theorem splitAtWords (stand : StandFor groups words pieces) {isSeparator : Word → Bool}
    {separates : Piece → Bool}
    (same : ∀ {word piece}, Stands groups word piece → separates piece = isSeparator word) :
    List.Forall₂ (StandFor groups) (splitAtWords isSeparator words) (pieces.splitOnP separates) := by
  induction stand with
  | nil => exact .cons .nil .nil
  | @cons word piece words pieces head tail ih =>
    rw [splitAtWords_cons, List.splitOnP_cons_eq_if_modifyHead, same head]
    split
    · exact .cons .nil ih
    · obtain ⟨operand, operands, found⟩ :=
        List.exists_cons_of_ne_nil (splitAtWords_ne_nil isSeparator words)
      rw [found] at ih ⊢
      obtain ⟨cut, cuts, first, rest, split⟩ := List.forall₂_cons_left_iff.mp ih
      rw [split]
      exact .cons (.cons head first) rest

end StandFor

/-- No reference is lost when words are cut at words that are none. -/
theorem flatMap_references_splitAtWords (isSeparator : Word → Bool)
    (noReference : ∀ word number, groupNumber? word = some number → isSeparator word = false)
    (words : List Word) :
    (splitAtWords isSeparator words).flatMap references = references words := by
  induction words with
  | nil => rfl
  | cons word rest ih =>
    rw [splitAtWords_cons]
    split
    · rename_i separates
      cases found : groupNumber? word with
      | some number =>
        rw [noReference word number found] at separates
        contradiction
      | none =>
        rw [List.flatMap_cons, ih]
        simp [references, found]
    · obtain ⟨operand, operands, found⟩ :=
        List.exists_cons_of_ne_nil (splitAtWords_ne_nil isSeparator rest)
      rw [found] at ih ⊢
      rw [List.flatMap_cons] at ih
      rw [List.modifyHead_cons, List.flatMap_cons, references_cons, List.append_assoc, ih,
        ← references_cons]

/-! ## Agreement of one level -/

/-- Of the table only the entries in `taken` have changed. -/
def Unchanged (groups left : Groups) (taken : List Nat) : Prop :=
  left.length = groups.length ∧ ∀ n, n ∉ taken → left[n]? = groups[n]?

/-- The parser with references and the reading give the same: an error with the same fault, or the same
value, and then the parser has touched no other groups than those in `taken`. -/
def Agrees {α : Type} (groups : Groups) (taken : List Nat) (result : Parsed α)
    (reading : Except Fault α) : Prop :=
  (∃ error, result = .error error ∧ reading = .error error.fault) ∨
    ∃ value left, result = .ok (value, left) ∧ reading = .ok value ∧ Unchanged groups left taken

theorem agrees_error {α : Type} (groups : Groups) (taken : List Nat) (error : QueryError) :
    Agrees groups taken (.error error : Parsed α) (.error error.fault) :=
  Or.inl ⟨error, rfl, rfl⟩

theorem agrees_ok {α : Type} {groups left : Groups} {taken : List Nat} (value : α)
    (unchanged : Unchanged groups left taken) : Agrees groups taken (.ok (value, left)) (.ok value) :=
  Or.inr ⟨value, left, rfl, rfl, unchanged⟩

theorem takeGroup?_of_held {groups : Groups} {number : Nat} {condition : Condition}
    (held : groups[number]? = some (some condition)) :
    takeGroup? groups number = some (condition, groups.set number none) := by
  rw [takeGroup?, held]

theorem held_of_takeGroup? {groups left : Groups} {number : Nat} {condition : Condition}
    (taken : takeGroup? groups number = some (condition, left)) :
    groups[number]? = some (some condition) ∧ left = groups.set number none := by
  unfold takeGroup? at taken
  split at taken
  · rename_i held
    obtain ⟨rfl, rfl⟩ := Prod.mk.inj (Option.some.inj taken)
    exact ⟨held, rfl⟩
  · contradiction

theorem reference?_eq_some {words : List Word} {number : Nat} (reference : reference? words = some number) :
    ∃ word, words = [word] ∧ groupNumber? word = some number := by
  unfold reference? at reference
  split at reference
  · exact ⟨_, rfl, reference⟩
  · contradiction

theorem parseOperand_agrees {groups : Groups} {words : List Word} {pieces : List Piece}
    (stand : StandFor groups words pieces) :
    Agrees groups (references words) (parseOperand groups words) (readOperand pieces) := by
  unfold parseOperand
  split
  · rename_i number reference
    obtain ⟨word, rfl, refers⟩ := reference?_eq_some reference
    obtain ⟨piece, rest, stands, tail, rfl⟩ := List.forall₂_cons_left_iff.mp stand
    obtain rfl := List.forall₂_nil_left_iff.mp tail
    cases stands with
    | word bare =>
      rw [bare] at refers
      contradiction
    | group known held =>
      obtain rfl := Option.some.inj (known.symm.trans refers)
      rw [takeGroup?_of_held held]
      refine agrees_ok _ ⟨List.length_set, fun other untaken => List.getElem?_set_ne ?_⟩
      rintro rfl
      exact untaken (by simp [references, refers])
  · rename_i notAlone
    have mixed : readOperand pieces = (pieces.mapM Piece.word?).elim (.error .unknownGroup)
        fun words => (parseTerm words).mapError QueryError.fault := by
      unfold readOperand
      split
      · obtain ⟨word, rest, stands, tail, rfl⟩ := List.forall₂_cons_right_iff.mp stand
        obtain rfl := List.forall₂_nil_right_iff.mp tail
        cases stands with
        | group known held =>
          rw [reference?, known] at notAlone
          contradiction
      · cases pieces.mapM Piece.word? <;> rfl
    rw [mixed, stand.mapM_word?]
    split
    · exact agrees_error _ _ _
    · rw [Option.elim_some]
      cases parseTerm words with
      | ok condition => exact agrees_ok condition ⟨rfl, fun _ _ => rfl⟩
      | error error => exact agrees_error _ _ error

theorem standFor_all_mono {groups left : Groups} {operands : List (List Word)}
    {cuts : List (List Piece)} (stand : List.Forall₂ (StandFor groups) operands cuts)
    (kept : ∀ number ∈ operands.flatMap references, left[number]? = groups[number]?) :
    List.Forall₂ (StandFor left) operands cuts := by
  induction stand with
  | nil => exact .nil
  | cons head tail ih =>
    rw [List.flatMap_cons] at kept
    exact .cons (head.mono fun number member => kept number (List.mem_append_left _ member))
      (ih fun number member => kept number (List.mem_append_right _ member))

/-- Operands are taken in their order, and none takes a group that belongs to a later one. -/
theorem parseOperands_agrees {groups : Groups} {operands : List (List Word)}
    {cuts : List (List Piece)} (stand : List.Forall₂ (StandFor groups) operands cuts)
    (distinct : (operands.flatMap references).Nodup) :
    Agrees groups (operands.flatMap references) (parseOperands groups operands)
      (cuts.mapM readOperand) := by
  induction operands generalizing groups cuts with
  | nil =>
    obtain rfl := List.forall₂_nil_left_iff.mp stand
    exact agrees_ok [] ⟨rfl, fun _ _ => rfl⟩
  | cons operand rest ih =>
    obtain ⟨cut, more, head, tail, rfl⟩ := List.forall₂_cons_left_iff.mp stand
    rw [List.flatMap_cons, List.nodup_append] at distinct
    obtain ⟨_, distinctRest, apart⟩ := distinct
    rw [parseOperands, List.mapM_cons, List.flatMap_cons]
    obtain ⟨error, run, failed⟩ | ⟨condition, left, run, read, sameLength, unchanged⟩ :=
      parseOperand_agrees head
    · rw [run, failed]
      exact agrees_error _ _ error
    · have standRest : List.Forall₂ (StandFor left) rest more :=
        standFor_all_mono tail fun n member => unchanged n fun taken => apart n taken n member rfl
      rw [run, read]
      dsimp only
      obtain ⟨error, run, failed⟩ | ⟨conditions, final, run, read, restLength, restUnchanged⟩ :=
        ih standRest distinctRest
      · rw [run, failed]
        exact agrees_error _ _ error
      · rw [run, read]
        refine agrees_ok (condition :: conditions) ⟨restLength.trans sameLength, fun n untaken => ?_⟩
        rw [List.mem_append, not_or] at untaken
        exact (restUnchanged n untaken.2).trans (unchanged n untaken.1)

theorem any_isEmpty_eq {groups : Groups} {operands : List (List Word)} {cuts : List (List Piece)}
    (stand : List.Forall₂ (StandFor groups) operands cuts) :
    cuts.any List.isEmpty = operands.any List.isEmpty := by
  induction stand with
  | nil => rfl
  | cons head tail ih => rw [List.any_cons, List.any_cons, head.isEmpty_eq, ih]

section Level

variable {groups : Groups} {words : List Word} {pieces : List Piece}

theorem parseSplit_agrees (stand : StandFor groups words pieces) (distinct : (references words).Nodup)
    (operator : Operator) :
    Agrees groups (references words) (parseSplit groups operator words)
      (readSplit operator pieces) := by
  have cuts := stand.splitAtWords fun stands => Stands.isKeyword_eq stands operator
  have same := flatMap_references_splitAtWords (isKeyword operator)
    (fun _ _ reference => isKeyword_of_groupNumber? reference operator) words
  unfold parseSplit readSplit splitOperands cutOperands
  dsimp only
  rw [any_isEmpty_eq cuts]
  by_cases missing : (splitAtWords (isKeyword operator) words).any List.isEmpty = true
  · rw [if_pos missing, if_pos missing]
    exact agrees_error _ _ _
  · rw [if_neg missing, if_neg missing]
    rw [← same] at distinct ⊢
    exact parseOperands_agrees cuts distinct

theorem parseNear_agrees (stand : StandFor groups words pieces) (distinct : (references words).Nodup) :
    Agrees groups (references words) (parseNear groups words) (readNear pieces) := by
  have cuts := stand.splitAtWords fun stands => Stands.isNear_eq stands
  have same := flatMap_references_splitAtWords isNear
    (fun _ _ reference => isNear_of_groupNumber? reference) words
  unfold parseNear readNear splitOperands cutOperands
  rw [stand.filter_isNear]
  cases nearDistances (words.filter isNear) with
  | error error => exact agrees_error _ _ error
  | ok distances =>
    dsimp only
    rw [any_isEmpty_eq cuts]
    by_cases missing : (splitAtWords isNear words).any List.isEmpty = true
    · rw [if_pos missing, if_pos missing]
      exact agrees_error _ _ _
    · rw [if_neg missing, if_neg missing]
      dsimp only
      rw [← cuts.length_eq]
      by_cases two : (splitAtWords isNear words).length = 2
      · rw [if_pos two, if_pos two]
        rw [← same] at distinct ⊢
        obtain ⟨error, run, failed⟩ | ⟨conditions, left, run, read, unchanged⟩ :=
          parseOperands_agrees cuts distinct
        · rw [run, failed]
          exact agrees_error _ _ error
        · rw [run, read]
          match conditions with
          | [first, second] => exact agrees_ok _ unchanged
          | [] | [_] | _ :: _ :: _ :: _ => exact agrees_error _ _ _
      · rw [if_neg two, if_neg two]
        exact agrees_error _ _ _

/-- A level gives the same with references in a table and with the conditions in their places. -/
theorem parseWords_agrees (stand : StandFor groups words pieces)
    (distinct : (references words).Nodup) :
    Agrees groups (references words) (parseWords groups words) (readLevel pieces) := by
  unfold parseWords readLevel
  rw [stand.isEmpty_eq, stand.any_isKeyword, stand.any_isKeyword, stand.any_isKeyword,
    stand.any_isNear]
  by_cases empty : words.isEmpty = true
  · rw [if_pos empty, if_pos empty]
    exact agrees_error _ _ _
  rw [if_neg empty, if_neg empty]
  by_cases hasOr : words.any (isKeyword .or) = true
  · rw [if_pos hasOr, if_pos hasOr]
    obtain ⟨error, run, failed⟩ | ⟨conditions, left, run, read, unchanged⟩ :=
      parseSplit_agrees stand distinct .or
    · rw [run, failed]
      exact agrees_error _ _ error
    · rw [run, read]
      exact agrees_ok _ unchanged
  rw [if_neg hasOr, if_neg hasOr]
  by_cases hasAnd : words.any (isKeyword .and) = true
  · rw [if_pos hasAnd, if_pos hasAnd]
    obtain ⟨error, run, failed⟩ | ⟨conditions, left, run, read, unchanged⟩ :=
      parseSplit_agrees stand distinct .and
    · rw [run, failed]
      exact agrees_error _ _ error
    · rw [run, read]
      exact agrees_ok _ unchanged
  rw [if_neg hasAnd, if_neg hasAnd]
  by_cases hasNot : words.any (isKeyword .not) = true
  · rw [if_pos hasNot, if_pos hasNot]
    obtain ⟨error, run, failed⟩ | ⟨conditions, left, run, read, unchanged⟩ :=
      parseSplit_agrees stand distinct .not
    · rw [run, failed]
      exact agrees_error _ _ error
    · rw [run, read]
      match conditions with
      | [included, excluded] => exact agrees_ok _ unchanged
      | [] | [_] | _ :: _ :: _ :: _ => exact agrees_error _ _ _
  rw [if_neg hasNot, if_neg hasNot]
  by_cases hasNear : words.any isNear = true
  · rw [if_pos hasNear, if_pos hasNear]
    exact parseNear_agrees stand distinct
  · rw [if_neg hasNear, if_neg hasNear]
    exact parseOperand_agrees stand

end Level

/-! ## Reference texts -/

def referenceWord (number : Nat) : Word := ':' :: (Nat.toDigits 10 number ++ [':'])

theorem groupNumber?_referenceWord {number : Nat} (fits : number ≤ maxCount) :
    groupNumber? (referenceWord number) = some number := by
  simp [groupNumber?, referenceWord, readNumber?_toDigits fits]

theorem referenceText_eq (number : Nat) :
    referenceText number = ' ' :: (referenceWord number ++ [' ']) := by
  simp [referenceText, referenceWord]

theorem of_isDigit {c : Char} (digit : c.isDigit = true) : Unicode.isInert c = true ∧
    Unicode.isWhiteSpace c = false ∧ isDelimiter c = false ∧ c ≠ '"' := by
  have low : c.toNat < 58 := by
    simp only [Char.isDigit, Bool.and_eq_true, decide_eq_true_eq, UInt32.le_iff_toNat_le] at digit
    exact Nat.lt_succ_of_le digit.2
  exact Unicode.of_codes_below (P := fun c => c.isDigit = true → Unicode.isInert c = true ∧
    Unicode.isWhiteSpace c = false ∧ isDelimiter c = false ∧ c ≠ '"') (by decide) low digit

theorem colon_or_isDigit_of_mem_referenceWord {number : Nat} {c : Char}
    (member : c ∈ referenceWord number) : c = ':' ∨ c.isDigit = true := by
  rcases List.mem_cons.mp member with colon | member
  · exact Or.inl colon
  · rcases List.mem_append.mp member with digit | colon
    · exact Or.inr (Nat.isDigit_of_mem_toDigits (by decide) (by decide) digit)
    · exact Or.inl (List.mem_singleton.mp colon)

theorem of_mem_referenceWord {number : Nat} {c : Char} (member : c ∈ referenceWord number) :
    Unicode.isWhiteSpace c = false ∧ isDelimiter c = false := by
  rcases colon_or_isDigit_of_mem_referenceWord member with rfl | digit
  · decide
  · obtain ⟨-, noBlank, noDelimiter, -⟩ := of_isDigit digit
    exact ⟨noBlank, noDelimiter⟩

theorem words_referenceWord (number : Nat) : words (referenceWord number) = [referenceWord number] :=
  Text.splitWords_eq_singleton (List.cons_ne_nil _ _) fun _ member => (of_mem_referenceWord member).1

/-! ## Cutting a text at a mark -/

theorem cut?_eq_none {mark : Char} {text : List Char} (absent : mark ∉ text) :
    cut? mark text = none := by
  induction text with
  | nil => rfl
  | cons c rest ih =>
    rw [List.mem_cons, not_or] at absent
    rw [cut?, if_neg fun same => absent.1 same.symm, ih absent.2]
    rfl

theorem cut?_append_cons {mark : Char} {left : List Char} (absent : mark ∉ left)
    (right : List Char) : cut? mark (left ++ mark :: right) = some (left, right) := by
  induction left with
  | nil => exact if_pos rfl
  | cons c rest ih =>
    rw [List.mem_cons, not_or] at absent
    rw [List.cons_append, cut?, if_neg fun same => absent.1 same.symm, ih absent.2]
    rfl

theorem cut?_isSome {mark : Char} {text : List Char} (member : mark ∈ text) :
    ∃ before after, cut? mark text = some (before, after) := by
  obtain ⟨left, right, rfl, absent⟩ := List.eq_append_cons_of_mem member
  exact ⟨left, right, cut?_append_cons absent right⟩

theorem cut?_eq_some {mark : Char} {text before after : List Char}
    (cut : cut? mark text = some (before, after)) :
    text = before ++ mark :: after ∧ mark ∉ before := by
  by_cases member : mark ∈ text
  · obtain ⟨left, right, rfl, absent⟩ := List.eq_append_cons_of_mem member
    rw [cut?_append_cons absent] at cut
    obtain ⟨rfl, rfl⟩ := Prod.mk.inj (Option.some.inj cut)
    exact ⟨rfl, absent⟩
  · rw [cut?_eq_none member] at cut
    contradiction

end TextQuery.Query
