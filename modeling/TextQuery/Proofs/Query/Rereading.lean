import TextQuery.Proofs.Query.Agreement
import TextQuery.Proofs.Query.Prepared
import TextQuery.Query.Printer

/-!
# Reading what was printed

A condition of a parsed query is printed and parsed again. The operators, their order and the distances
come back, and every term is read again by itself (`toOption_parse_toString`).
-/
set_option autoImplicit false

namespace TextQuery.Query

open Text (Word words unwords clean squeeze mem_intercalate)
open Unicode (isWhiteSpace isInert lower)

namespace Condition

mutual

/-- What the printed condition is read as. -/
def reread? : Condition → Option Condition
  | leaf pattern => pattern.reread?.map leaf
  | or operands => (rereadAll? operands).map or
  | and operands => (rereadAll? operands).map and
  | not included excluded =>
    (reread? included).bind fun left => (reread? excluded).map fun right => not left right
  | near left right distance =>
    (reread? left).bind fun first => (reread? right).map fun second => near first second distance
  | resolved _ => none

def rereadAll? : List Condition → Option (List Condition)
  | [] => some []
  | operand :: rest =>
    (reread? operand).bind fun again => (rereadAll? rest).map fun others => again :: others

end

def nearWord (distance : Nat) : Word := "NEAR/".toList ++ digitsOf distance

/-- The word between the operands. -/
def separator : Condition → Word
  | leaf _ | resolved _ => []
  | or _ => "OR".toList
  | and _ => "AND".toList
  | not .. => "NOT".toList
  | near _ _ distance => nearWord distance

/-- The operator with other operands. -/
def rejoin? : Condition → List Condition → Option Condition
  | or _, operands => some (or operands)
  | and _, operands => some (and operands)
  | not .., [included, excluded] => some (not included excluded)
  | near _ _ distance, [left, right] => some (near left right distance)
  | _, _ => none

/-- The pieces that a printed operand is read as. -/
def pieces? : Condition → Option (List Piece)
  | leaf pattern => some pattern.pieces
  | condition => condition.reread?.map fun again => [.group again]

theorem rereadAll?_eq (operands : List Condition) : rereadAll? operands = operands.mapM reread? := by
  induction operands with
  | nil => rfl
  | cons operand rest ih =>
    rw [rereadAll?, ih, List.mapM_cons]
    cases reread? operand with
    | none => rfl
    | some again => cases rest.mapM reread? <;> rfl

theorem renderJoined_eq (separator : List Char) (operands : List Condition) :
    renderJoined separator operands =
      separator.intercalate (operands.map fun operand => operand.enclose operand.render) := by
  induction operands with
  | nil => rfl
  | cons operand rest ih =>
    cases rest with
    | nil => rw [renderJoined, List.map_singleton, List.intercalate_singleton]
    | cons next more =>
      have first : renderJoined separator (operand :: next :: more) =
          operand.enclose operand.render ++ separator ++ renderJoined separator (next :: more) := by
        rw [renderJoined]
        exact List.cons_ne_nil _ _
      rw [first, ih, List.map_cons, List.map_cons, List.map_cons, List.intercalate_cons_cons]

end Condition

theorem toList_nearWord (distance : Nat) :
    ("NEAR/" ++ toString distance).toList = Condition.nearWord distance := by
  rw [String.toList_append]
  exact congrArg ("NEAR/".toList ++ ·) String.toList_ofList

namespace Joins

variable {conditions : List Condition} {condition : Condition}

theorem reread?_eq (joins : Joins conditions condition) :
    condition.reread? = (conditions.mapM Condition.reread?).bind condition.rejoin? := by
  cases joins with
  | or two =>
    rw [Condition.reread?, Condition.rereadAll?_eq]
    cases conditions.mapM Condition.reread? <;> rfl
  | and two =>
    rw [Condition.reread?, Condition.rereadAll?_eq]
    cases conditions.mapM Condition.reread? <;> rfl
  | not included excluded =>
    rw [Condition.reread?]
    rw [List.mapM_cons, List.mapM_cons, List.mapM_nil]
    cases included.reread? with
    | none => rfl
    | some first => cases excluded.reread? <;> rfl
  | near left right fits =>
    rw [Condition.reread?]
    rw [List.mapM_cons, List.mapM_cons, List.mapM_nil]
    cases left.reread? with
    | none => rfl
    | some first => cases right.reread? <;> rfl

theorem pieces?_eq (joins : Joins conditions condition) :
    condition.pieces? = condition.reread?.map fun again => [.group again] := by
  cases joins <;> rfl

theorem enclose_eq (joins : Joins conditions condition) (text : List Char) :
    condition.enclose text = '(' :: text ++ [')'] := by
  cases joins <;> rfl

theorem render_eq (joins : Joins conditions condition) :
    condition.render = (' ' :: condition.separator ++ [' ']).intercalate
      (conditions.map fun operand => operand.enclose operand.render) := by
  cases joins with
  | or | and => exact Condition.renderJoined_eq _ conditions
  | not included excluded =>
    rw [Condition.render, List.map_cons, List.map_singleton, List.intercalate_cons_cons,
      List.intercalate_singleton]
    rfl
  | @near left right distance fits =>
    have word : ' ' :: (Condition.near left right distance).separator ++ [' '] =
        " NEAR/".toList ++ (digitsOf distance ++ [' ']) := List.append_assoc " NEAR/".toList _ _
    rw [Condition.render, List.map_cons, List.map_singleton, List.intercalate_cons_cons,
      List.intercalate_singleton, word]
    simp only [List.append_assoc, List.cons_append, List.nil_append]

end Joins

/-! ## Separators -/

theorem straightQuote_of_even {c : Char} (even : Unicode.isOdd c = false) :
    Text.straightQuote c = c :=
  Text.straightQuote_ascii (Unicode.toNat_lt_of_even even)

theorem clean_of_even {text : List Char} (even : ∀ c ∈ text, Unicode.isOdd c = false) :
    clean text = text :=
  Text.clean_ascii fun c member => Unicode.toNat_lt_of_even (even c member)

/-- A separator is read as a word of its own. -/
theorem readsAs_separator {word : Word} (even : ∀ c ∈ word, Unicode.isOdd c = false)
    (solid : ∀ c ∈ word, isWhiteSpace c = false ∧ isDelimiter c = false ∧ c ≠ '"')
    (nonempty : word ≠ []) (noReference : groupNumber? word = none) :
    ReadsAs word 0 (some [.word word]) := by
  have cleaned := clean_of_even even
  have blanks : ∀ c ∈ word, isWhiteSpace c = false := fun c member => (solid c member).1
  refine readsAs_word nonempty ?_ ?_ nonempty (fun c member => (solid c member).2.1) noReference
    fun closed => ?_
  · simpa [Option.any_eq_false] using fun c head => blanks c (List.mem_of_mem_head? head)
  · simpa [Option.any_eq_false] using fun c last => blanks c (List.mem_of_mem_getLast? last)
  · have noQuote : '"' ∉ clean word := by
      rw [cleaned]
      exact fun member => (solid _ member).2.2 rfl
    rw [prepared_word blanks noQuote closed, cleaned]

theorem of_mem_keyword {operator : Operator} {c : Char} (member : c ∈ operator.keyword.toList) :
    Unicode.isOdd c = false ∧ isWhiteSpace c = false ∧ isDelimiter c = false ∧ c ≠ '"' := by
  have checked : operator.keyword.toList.all (fun c => !Unicode.isOdd c && !isWhiteSpace c &&
      !isDelimiter c && c != '"') = true := by
    cases operator <;> decide
  simpa [and_assoc] using List.all_eq_true.mp checked c member

theorem readsAs_keyword {operator : Operator} :
    ReadsAs operator.keyword.toList 0 (some [.word operator.keyword.toList]) := by
  refine readsAs_separator (fun c member => (of_mem_keyword member).1)
    (fun c member => (of_mem_keyword member).2) ?_ ?_
  · cases operator <;> decide
  · cases operator <;> decide

theorem of_mem_nearWord {distance : Nat} {c : Char} (member : c ∈ Condition.nearWord distance) :
    Unicode.isOdd c = false ∧ isWhiteSpace c = false ∧ isDelimiter c = false ∧ c ≠ '"' := by
  have keyword : ∀ c ∈ "NEAR/".toList, Unicode.isOdd c = false ∧ isWhiteSpace c = false ∧
      isDelimiter c = false ∧ c ≠ '"' := by
    intro c member
    have parts : "NEAR/".toList = Operator.near.keyword.toList ++ ['/'] := rfl
    rw [parts, List.mem_append, List.mem_singleton] at member
    rcases member with inKeyword | rfl
    · exact of_mem_keyword inKeyword
    · decide
  have digit : ∀ c ∈ digitsOf distance, Unicode.isOdd c = false ∧ isWhiteSpace c = false ∧
      isDelimiter c = false ∧ c ≠ '"' := by
    intro c member
    have known := of_isDigit (Nat.isDigit_of_mem_toDigits (by omega) (by omega) member)
    exact ⟨Unicode.isOdd_of_isInert known.1, known.2⟩
  exact (List.mem_append.mp member).elim (keyword c) (digit c)

theorem readsAs_nearWord (distance : Nat) :
    ReadsAs (Condition.nearWord distance) 0 (some [.word (Condition.nearWord distance)]) := by
  have starts : Condition.nearWord distance = 'N' :: ("EAR/".toList ++ digitsOf distance) := rfl
  refine readsAs_separator (fun c member => (of_mem_nearWord member).1)
    (fun c member => (of_mem_nearWord member).2) ?_ ?_
  · rw [starts]
    exact List.cons_ne_nil _ _
  · rw [starts]
    exact groupNumber?_cons_eq_none (by decide) _

theorem Condition.of_mem_separator {condition : Condition} {c : Char} (member : c ∈ condition.separator) :
    Unicode.isOdd c = false ∧ isWhiteSpace c = false ∧ isDelimiter c = false ∧ c ≠ '"' := by
  cases condition with
  | leaf _ | resolved _ => contradiction
  | or _ => exact @of_mem_keyword .or c member
  | and _ => exact @of_mem_keyword .and c member
  | not _ _ => exact @of_mem_keyword .not c member
  | near _ _ distance => exact of_mem_nearWord member

theorem Joins.readsAs_separator {conditions : List Condition} {condition : Condition}
    (joins : Joins conditions condition) :
    ReadsAs condition.separator 0 (some [.word condition.separator]) := by
  cases joins with
  | or two => exact @readsAs_keyword .or
  | and two => exact @readsAs_keyword .and
  | not included excluded => exact @readsAs_keyword .not
  | near left right fits => exact readsAs_nearWord _

theorem forall₂_of_mapM? {α β : Type} {f : α → Option β} {xs : List α} {ys : List β}
    (found : xs.mapM f = some ys) : List.Forall₂ (fun x y => f x = some y) xs ys := by
  induction xs generalizing ys with
  | nil =>
    obtain rfl := Option.some.inj found
    exact .nil
  | cons x rest ih =>
    rw [List.mapM_cons] at found
    obtain ⟨y, first, more⟩ := Option.bind_eq_some_iff.mp found
    obtain ⟨others, later, same⟩ := Option.bind_eq_some_iff.mp more
    obtain rfl := Option.some.inj same
    exact .cons first (ih later)

theorem mapM?_of_forall₂ {α β : Type} {f : α → Option β} {xs : List α} {ys : List β}
    (each : List.Forall₂ (fun x y => f x = some y) xs ys) : xs.mapM f = some ys := by
  induction each with
  | nil => rfl
  | cons head tail ih =>
    rw [List.mapM_cons, head, ih]
    rfl

/-- Parts with a separator between neighbours. -/
theorem readsAs_intercalate {α : Type} {word : Word} (separator : ReadsAs word 0 (some [.word word]))
    {text : α → List Char} {closings : α → Nat} {found : α → Option (List Piece)} {items : List α}
    (nonempty : items ≠ [])
    (each : ∀ item ∈ items, ReadsAs (text item) (closings item) (found item)) :
    ReadsAs ((' ' :: word ++ [' ']).intercalate (items.map text)) (items.map closings).sum
      ((items.mapM found).map (List.intercalate [.word word])) := by
  induction items with
  | nil => exact absurd rfl nonempty
  | cons item rest ih =>
    obtain ⟨first, others⟩ := List.forall_mem_cons.mp each
    cases rest with
    | nil =>
      have alone : ([item].mapM found).map (List.intercalate [.word word]) = found item := by
        rw [List.mapM_cons, List.mapM_nil]
        cases found item <;> simp
      rw [alone, List.map_singleton, List.map_singleton, List.sum_singleton,
        List.intercalate_singleton]
      exact first
    | cons second more =>
      have pieces : ((item :: second :: more).mapM found).map (List.intercalate [.word word]) =
          (found item).bind fun before =>
            ((some [Piece.word word]).bind fun middle =>
              (((second :: more).mapM found).map (List.intercalate [.word word])).map
                fun after => middle ++ after).map fun after => before ++ after := by
        rw [List.mapM_cons]
        cases found item with
        | none => rfl
        | some before =>
          cases later : (second :: more).mapM found with
          | none => rfl
          | some after =>
            cases forall₂_of_mapM? later with
            | cons => rfl
      have shape : (' ' :: word ++ [' ']).intercalate ((item :: second :: more).map text) =
          text item ++ ' ' :: (word ++ ' ' ::
            (' ' :: word ++ [' ']).intercalate ((second :: more).map text)) := by
        rw [List.map_cons, List.map_cons, List.intercalate_cons_cons]
        simp only [List.append_assoc, List.cons_append, List.nil_append]
      have sum : ((item :: second :: more).map closings).sum =
          closings item + (0 + ((second :: more).map closings).sum) := by
        rw [List.map_cons, List.sum_cons, Nat.zero_add]
      rw [pieces, shape, sum]
      exact first.joined (separator.joined (ih (List.cons_ne_nil _ _) others))

/-! ## Levels of printed conditions -/

/-- The piece is no keyword and no proximity word. -/
def Piece.IsPlain (piece : Piece) : Prop :=
  piece.isNear = false ∧ ∀ operator, operator ≠ .near → piece.isKeyword operator = false

theorem isPlain_group (condition : Condition) : (Piece.group condition).IsPlain :=
  ⟨rfl, fun _ _ => rfl⟩

/-- What an operand is read as. Without pieces there is no operand. -/
def operand? (pieces : List Piece) : Option Condition :=
  if pieces = [] then none else (readOperand pieces).toOption

section Intercalate

variable {α : Type} {separator : α} {lists : List (List α)}

theorem separator_mem_intercalate (two : 2 ≤ lists.length) :
    separator ∈ [separator].intercalate lists := by
  obtain ⟨first, second, rest, rfl⟩ : ∃ first second rest, lists = first :: second :: rest := by
    match lists, two with
    | first :: second :: rest, _ => exact ⟨first, second, rest, rfl⟩
  rw [List.intercalate_cons_cons]
  simp

theorem splitOnP_intercalate {p : α → Bool} (separates : p separator = true)
    (inside : ∀ list ∈ lists, ∀ x ∈ list, p x = false) (nonempty : lists ≠ []) :
    ([separator].intercalate lists).splitOnP p = lists := by
  induction lists with
  | nil => exact absurd rfl nonempty
  | cons list rest ih =>
    obtain ⟨first, others⟩ := List.forall_mem_cons.mp inside
    by_cases last : rest = []
    · rw [last, List.intercalate_singleton, List.splitOnP_eq_singleton first]
    · rw [List.intercalate_cons_of_ne_nil last, List.append_assoc, List.singleton_append,
        List.splitOnP_append_cons_of_forall_mem first _ separates, ih others last]

end Intercalate

/-- Cutting and reading the operands fails as a whole if one of them is missing or malformed. -/
theorem mapM_operand? (operands : List (List Piece)) :
    operands.mapM operand? =
      if operands.any List.isEmpty then none else (operands.mapM readOperand).toOption := by
  induction operands with
  | nil => rfl
  | cons operand rest ih =>
    rw [List.mapM_cons, List.mapM_cons, ih, List.any_cons]
    by_cases empty : operand = []
    · rw [empty]
      rfl
    · have filled : operand.isEmpty = false := by simpa using empty
      rw [operand?, if_neg empty, filled, Bool.false_or]
      cases readOperand operand with
      | error fault => split <;> rfl
      | ok condition =>
        split
        · rfl
        · cases rest.mapM readOperand <;> rfl

theorem readSplit_intercalate {operator : Operator} {separator : Piece}
    (separates : separator.isKeyword operator = true) {operands : List (List Piece)}
    (inside : ∀ operand ∈ operands, ∀ piece ∈ operand, piece.isKeyword operator = false)
    (nonempty : operands ≠ []) :
    (readSplit operator ([separator].intercalate operands)).toOption = operands.mapM operand? := by
  rw [readSplit, cutOperands, splitOnP_intercalate separates inside nonempty, mapM_operand?]
  by_cases missing : operands.any List.isEmpty = true
  · rw [if_pos missing, if_pos missing]
    rfl
  · rw [if_neg missing, if_neg missing]

theorem nearDistance?_nearWord {distance : Nat} (fits : distance ≤ maxCount) :
    nearDistance? (Condition.nearWord distance) = some distance :=
  readNumber?_toDigits fits

theorem filter_isNear_of_isPlain {pieces : List Piece} (plain : ∀ piece ∈ pieces, piece.IsPlain) :
    (pieces.filterMap Piece.word?).filter isNear = [] := by
  rw [List.filter_eq_nil_iff]
  intro word member
  obtain ⟨piece, inPieces, found⟩ := List.mem_filterMap.mp member
  cases piece with
  | word chars =>
    obtain rfl := Option.some.inj found
    have near := (plain _ inPieces).1
    exact Bool.eq_false_iff.mp near
  | group condition => contradiction

theorem readNear_pair {distance : Nat} (fits : distance ≤ maxCount) {left right : List Piece}
    (plainLeft : ∀ piece ∈ left, piece.IsPlain) (plainRight : ∀ piece ∈ right, piece.IsPlain) :
    (readNear ([.word (Condition.nearWord distance)].intercalate [left, right])).toOption =
      ([left, right].mapM operand?).bind fun conditions =>
        match conditions with
        | [first, second] => some (.near first second distance)
        | _ => none := by
  have near : isNear (Condition.nearWord distance) = true := rfl
  have inside : ∀ operand ∈ [left, right], ∀ piece ∈ operand, piece.isNear = false := by
    simpa using ⟨fun piece member => (plainLeft piece member).1,
      fun piece member => (plainRight piece member).1⟩
  have distances : nearDistances ((([Piece.word (Condition.nearWord distance)].intercalate
      [left, right]).filterMap Piece.word?).filter isNear) = .ok [distance] := by
    rw [List.intercalate_cons_cons, List.intercalate_singleton, List.filterMap_append,
      List.filterMap_append, List.filter_append, List.filter_append, filter_isNear_of_isPlain plainLeft,
      filter_isNear_of_isPlain plainRight, List.append_nil, List.nil_append]
    have single : ([Piece.word (Condition.nearWord distance)].filterMap Piece.word?).filter isNear =
        [Condition.nearWord distance] := List.filter_cons_of_pos near
    rw [single, nearDistances, nearDistance?_nearWord fits]
    rfl
  rw [readNear, distances, cutOperands,
    @splitOnP_intercalate _ (Piece.word (Condition.nearWord distance)) _ _ near inside
      (List.cons_ne_nil _ _), mapM_operand?]
  by_cases missing : [left, right].any List.isEmpty = true
  · rw [if_pos missing, if_pos missing]
    rfl
  · rw [if_neg missing, if_neg missing]
    have two : [left, right].length = 2 := rfl
    dsimp only
    rw [if_pos two]
    cases read : [left, right].mapM readOperand with
    | error fault => rfl
    | ok conditions =>
      cases forall₂_of_mapM read with
      | cons first others =>
        cases others with
        | cons second none =>
          cases none
          rfl

theorem any_intercalate {separator : Piece} {operands : List (List Piece)} (two : 2 ≤ operands.length)
    {test : Piece → Bool} (fails : ∀ operand ∈ operands, ∀ piece ∈ operand, test piece = false) :
    ([separator].intercalate operands).any test = test separator := by
  cases result : test separator with
  | true => exact List.any_eq_true.mpr ⟨separator, separator_mem_intercalate two, result⟩
  | false =>
    refine List.any_eq_false.mpr fun piece member passes => ?_
    rcases (mem_intercalate member).imp_left List.mem_singleton.mp with rfl | ⟨operand, inList, inOperand⟩
    · rw [result] at passes
      contradiction
    · rw [fails operand inList piece inOperand] at passes
      contradiction

theorem toOption_map {α β : Type} (f : α → β) (result : Except Fault α) :
    (result.map f).toOption = result.toOption.map f := by
  cases result <;> rfl

/-- Between plain operands it is the separator that decides which operator splits the level. -/
theorem any_intercalate_word (word : Word) {operands : List (List Piece)} (two : 2 ≤ operands.length)
    (plain : ∀ operand ∈ operands, ∀ piece ∈ operand, piece.IsPlain) :
    (∀ operator, operator ≠ .near → ([Piece.word word].intercalate operands).any (Piece.isKeyword operator) =
        isKeyword operator word) ∧
      ([Piece.word word].intercalate operands).any Piece.isNear = isNear word :=
  ⟨fun _ other => any_intercalate two
      fun operand inList piece inOperand => (plain operand inList piece inOperand).2 _ other,
    any_intercalate two fun operand inList piece inOperand => (plain operand inList piece inOperand).1⟩

/-- Operands that are joined by an operator are read as such. -/
theorem Joins.readLevel_intercalate {conditions : List Condition} {condition : Condition}
    (joins : Joins conditions condition) {operands : List (List Piece)}
    (sameLength : operands.length = conditions.length)
    (plain : ∀ operand ∈ operands, ∀ piece ∈ operand, piece.IsPlain) :
    (readLevel ([.word condition.separator].intercalate operands)).toOption =
      (operands.mapM operand?).bind condition.rejoin? := by
  have two : 2 ≤ operands.length := by
    rw [sameLength]
    cases joins with
    | or two | and two => exact two
    | not | near => exact Nat.le_refl _
  have filled : operands ≠ [] := by
    rintro rfl
    contradiction
  have inside : ∀ operator, operator ≠ .near →
      ∀ operand ∈ operands, ∀ piece ∈ operand, piece.isKeyword operator = false :=
    fun operator other operand inList piece inOperand => (plain operand inList piece inOperand).2 _ other
  have present : ¬ ([Piece.word condition.separator].intercalate operands).isEmpty = true := by
    rw [List.isEmpty_iff]
    exact List.ne_nil_of_mem (separator_mem_intercalate two)
  obtain ⟨keyword, near⟩ := any_intercalate_word condition.separator two plain
  rw [readLevel, if_neg present, keyword .or (by decide), keyword .and (by decide),
    keyword .not (by decide), near]
  cases joins with
  | or =>
    have isOr : isKeyword .or (Condition.or conditions).separator = true := rfl
    have split := @readSplit_intercalate .or (.word (Condition.or conditions).separator) isOr operands
      (inside .or (by decide)) filled
    rw [if_pos isOr, toOption_map, split]
    cases operands.mapM operand? <;> rfl
  | and =>
    have isOr : ¬ isKeyword .or (Condition.and conditions).separator = true := Bool.false_ne_true
    have isAnd : isKeyword .and (Condition.and conditions).separator = true := rfl
    have split := @readSplit_intercalate .and (.word (Condition.and conditions).separator) isAnd operands
      (inside .and (by decide)) filled
    rw [if_neg isOr, if_pos isAnd, toOption_map, split]
    cases operands.mapM operand? <;> rfl
  | not included excluded =>
    have isOr : ¬ isKeyword .or (Condition.not included excluded).separator = true :=
      Bool.false_ne_true
    have isAnd : ¬ isKeyword .and (Condition.not included excluded).separator = true :=
      Bool.false_ne_true
    have isNot : isKeyword .not (Condition.not included excluded).separator = true := rfl
    have split := @readSplit_intercalate .not (.word (Condition.not included excluded).separator) isNot
      operands (inside .not (by decide)) filled
    rw [if_neg isOr, if_neg isAnd, if_pos isNot, ← split]
    cases readSplit .not ([Piece.word (Condition.not included excluded).separator].intercalate operands) with
    | error fault => rfl
    | ok conditions => rcases conditions with _ | ⟨first, _ | ⟨second, _ | ⟨third, rest⟩⟩⟩ <;> rfl
  | @near left right distance fits =>
    have isOr : ¬ isKeyword .or (Condition.nearWord distance) = true := Bool.false_ne_true
    have isAnd : ¬ isKeyword .and (Condition.nearWord distance) = true := Bool.false_ne_true
    have isNot : ¬ isKeyword .not (Condition.nearWord distance) = true := Bool.false_ne_true
    have isNear : isNear (Condition.nearWord distance) = true := rfl
    obtain ⟨first, second, rfl⟩ := List.length_eq_two.mp sameLength
    obtain ⟨plainFirst, plainSecond⟩ : (∀ piece ∈ first, piece.IsPlain) ∧
        ∀ piece ∈ second, piece.IsPlain := by simpa using plain
    rw [Condition.separator, if_neg isOr, if_neg isAnd, if_neg isNot, if_pos isNear,
      readNear_pair fits plainFirst plainSecond]
    cases [first, second].mapM operand? with
    | none => rfl
    | some conditions => rcases conditions with _ | ⟨first, _ | ⟨second, _ | ⟨third, rest⟩⟩⟩ <;> rfl

/-! ## Printed conditions -/

/-- The condition as an operand: how its text is read, and that its pieces are one operand. -/
structure Returns (condition : Condition) : Prop where
  reads : ReadsAs (condition.enclose condition.render) condition.operatorCount condition.pieces?
  operand : condition.pieces?.bind operand? = condition.reread?
  plain : ∀ pieces, condition.pieces? = some pieces → ∀ piece ∈ pieces, piece.IsPlain

theorem toOption_readOperand_word (word : Word) :
    (readOperand [.word word]).toOption = (Pattern.ofTerm? (lower word)).map .leaf := by
  have term : readOperand [.word word] = (parseTerm [word]).mapError QueryError.fault := rfl
  have single : unwords [word] = word := rfl
  rw [term, parseTerm, single]
  cases Pattern.ofTerm? (lower word) <;> rfl

theorem operand?_pieces (pattern : Pattern) : operand? pattern.pieces = pattern.reread?.map .leaf := by
  rw [Pattern.pieces, Pattern.reread?]
  split
  · rfl
  · exact toOption_readOperand_word pattern.marked

theorem isPlain_marked {pattern : Pattern} (legible : pattern.Legible) :
    (Piece.word pattern.marked).IsPlain :=
  ⟨Pattern.isNear_marked legible, fun _ other => Pattern.isKeyword_marked legible other⟩

theorem returns_leaf {pattern : Pattern} (legible : pattern.Legible) : Returns (.leaf pattern) where
  reads := readsAs_term legible
  operand := operand?_pieces pattern
  plain := by
    intro pieces found piece member
    obtain rfl := Option.some.inj found
    rw [Pattern.pieces] at member
    split at member
    · contradiction
    · rw [List.mem_singleton.mp member]
      exact isPlain_marked legible

/-- A leaf alone is one operand as well. -/
theorem toOption_readLevel_pieces {pattern : Pattern} (legible : pattern.Legible) :
    (readLevel pattern.pieces).toOption = (Condition.leaf pattern).reread? := by
  have operand := operand?_pieces pattern
  rw [Condition.reread?, ← operand]
  by_cases empty : pattern.pieces = []
  · rw [empty]
    rfl
  · obtain ⟨near, keyword⟩ := isPlain_marked legible
    have shape : pattern.pieces = [.word pattern.marked] := by
      unfold Pattern.pieces at empty ⊢
      split
      · rename_i hidden
        rw [if_pos hidden] at empty
        contradiction
      · rfl
    rw [operand?, if_neg empty, shape]
    simp [readLevel, near, keyword]

theorem mapM_bind_mapM {α β γ : Type} {f : α → Option β} {g : β → Option γ} {h : α → Option γ}
    {xs : List α} (each : ∀ x ∈ xs, (f x).bind g = h x) : (xs.mapM f).bind (List.mapM g) = xs.mapM h := by
  induction xs with
  | nil => rfl
  | cons x rest ih =>
    obtain ⟨first, others⟩ := List.forall_mem_cons.mp each
    rw [List.mapM_cons, List.mapM_cons, ← first, ← ih others]
    cases f x with
    | none => rfl
    | some y =>
      cases rest.mapM f with
      | none =>
        rw [Option.bind_some]
        cases g y <;> rfl
      | some ys => exact List.mapM_cons

namespace Joins

variable {conditions : List Condition} {condition : Condition} (joins : Joins conditions condition)
  (each : ∀ operand ∈ conditions, Returns operand)

include joins each

theorem readsAs_render : ReadsAs condition.render (conditions.map Condition.operatorCount).sum
    ((conditions.mapM Condition.pieces?).map (List.intercalate [.word condition.separator])) := by
  have nonempty : conditions ≠ [] := by
    rintro rfl
    cases joins <;> contradiction
  rw [joins.render_eq]
  exact readsAs_intercalate joins.readsAs_separator nonempty fun operand member =>
    (each operand member).reads

theorem bind_readLevel :
    (((conditions.mapM Condition.pieces?).map (List.intercalate [.word condition.separator])).bind
      fun pieces => (readLevel pieces).toOption) = condition.reread? := by
  have operands := mapM_bind_mapM fun operand member => (each operand member).operand
  rw [joins.reread?_eq, ← operands]
  cases found : conditions.mapM Condition.pieces? with
  | none => rfl
  | some pieces =>
    have matched := forall₂_of_mapM? found
    have plain := forall_of_forall₂ (((List.forall₂_and_left _ _).mpr ⟨each, matched⟩).imp
      fun _ pieces both => both.1.plain pieces both.2)
    exact joins.readLevel_intercalate matched.length_eq.symm plain

theorem returns : Returns condition where
  reads := by
    have body := (joins.readsAs_render each).enclosed
    rw [joins.bind_readLevel each, ← joins.operatorCount_eq, ← joins.pieces?_eq,
      ← joins.enclose_eq] at body
    exact body
  operand := by
    rw [joins.pieces?_eq]
    cases condition.reread? <;> rfl
  plain := by
    intro pieces found piece member
    rw [joins.pieces?_eq] at found
    obtain ⟨again, -, rfl⟩ := Option.map_eq_some_iff.mp found
    rw [List.mem_singleton.mp member]
    exact isPlain_group again

end Joins

/-- Legible terms, joined by operators. -/
inductive Condition.Legible : Condition → Prop
  | leaf {pattern : Pattern} (legible : pattern.Legible) : Legible (.leaf pattern)
  | joined {conditions : List Condition} {condition : Condition} (joins : Joins conditions condition)
      (each : ∀ operand ∈ conditions, Legible operand) : Legible condition

theorem Condition.Legible.returns {condition : Condition} (legible : condition.Legible) :
    Returns condition := by
  induction legible with
  | leaf legible => exact returns_leaf legible
  | joined joins each ih => exact joins.returns ih

end TextQuery.Query
