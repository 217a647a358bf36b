import Mathlib.Algebra.GroupWithZero.Nat
import Mathlib.Data.List.Forall2
import TextQuery.Proofs.Query.LiveGroups

/-!
# What reading gives

A level is an operand alone or operands that one operator joins (`readLevel_ok`). So whatever `readQuery`
reads has no more operators than groups close in the query, apart from the outermost.
-/
set_option autoImplicit false

namespace TextQuery.Query

open Text (Word words unwords)

/-! ## Operands -/

theorem forall₂_of_mapM {α β ε : Type} {f : α → Except ε β} {xs : List α} {ys : List β}
    (run : xs.mapM f = .ok ys) : List.Forall₂ (fun x y => f x = .ok y) xs ys := by
  induction xs generalizing ys with
  | nil =>
    obtain rfl := Except.ok.inj run
    exact .nil
  | cons x rest ih =>
    rw [List.mapM_cons] at run
    cases first : f x with
    | error error =>
      rw [first] at run
      contradiction
    | ok y =>
      cases later : rest.mapM f with
      | error error =>
        rw [first, later] at run
        contradiction
      | ok more =>
        rw [first, later] at run
        obtain rfl := Except.ok.inj run
        exact .cons first (ih later)

theorem forall_of_forall₂ {α β : Type} {p : β → Prop} {xs : List α} {ys : List β}
    (each : List.Forall₂ (fun _ y => p y) xs ys) : ∀ y ∈ ys, p y := by
  induction each with
  | nil => exact fun _ member => absurd member List.not_mem_nil
  | cons head tail ih => exact List.forall_mem_cons.mpr ⟨head, ih⟩

theorem eq_map_word_of_mapM {pieces : List Piece} {words : List Word}
    (found : pieces.mapM Piece.word? = some words) : pieces = words.map Piece.word := by
  induction pieces generalizing words with
  | nil =>
    obtain rfl := Option.some.inj found
    rfl
  | cons piece rest ih =>
    rw [List.mapM_cons] at found
    obtain ⟨word, isWord, more⟩ := Option.bind_eq_some_iff.mp found
    obtain ⟨others, tail, same⟩ := Option.bind_eq_some_iff.mp more
    obtain rfl := Option.some.inj same
    cases piece with
    | word chars =>
      obtain rfl := Option.some.inj isWord
      rw [ih tail]
      rfl
    | group condition => contradiction

/-- An operand is one group or a term. -/
theorem readOperand_ok {pieces : List Piece} {condition : Condition}
    (run : readOperand pieces = .ok condition) :
    pieces = [.group condition] ∨
      ∃ words, pieces = words.map Piece.word ∧ parseTerm words = .ok condition := by
  unfold readOperand at run
  split at run
  · obtain rfl := Except.ok.inj run
    exact Or.inl rfl
  · split at run
    · rename_i words found
      refine Or.inr ⟨words, eq_map_word_of_mapM found, ?_⟩
      cases term : parseTerm words with
      | error error =>
        rw [term] at run
        contradiction
      | ok result =>
        rw [term] at run
        obtain rfl := Except.ok.inj run
        rfl
    · contradiction

theorem two_le_length_splitOnP {α : Type} {p : α → Bool} {xs : List α} (present : xs.any p = true) :
    2 ≤ (xs.splitOnP p).length := by
  induction xs with
  | nil => contradiction
  | cons x rest ih =>
    have some := List.length_pos_of_ne_nil (List.splitOnP_ne_nil p rest)
    rw [List.splitOnP_cons_eq_if_modifyHead]
    split
    · rw [List.length_cons]
      omega
    · rename_i inside
      rw [List.length_modifyHead]
      rw [List.any_cons, Bool.eq_false_iff.mpr inside, Bool.false_or] at present
      exact ih present

theorem cutOperands_ok {operator : Operator} {separates : Piece → Bool} {pieces : List Piece}
    {operands : List (List Piece)} (cut : cutOperands operator separates pieces = .ok operands) :
    operands = pieces.splitOnP separates ∧ ∀ operand ∈ operands, operand ≠ [] := by
  unfold cutOperands at cut
  dsimp only at cut
  split at cut
  · contradiction
  · rename_i present
    obtain rfl := Except.ok.inj cut
    refine ⟨rfl, fun operand member empty => present ?_⟩
    exact List.any_eq_true.mpr ⟨operand, member, by rw [empty]; rfl⟩

/-- What a level can be read as: one operand alone, or operands that an operator joins. -/
inductive ReadLevel (pieces : List Piece) (condition : Condition) : Prop
  | alone (nonempty : pieces ≠ []) (run : readOperand pieces = .ok condition)
  | joined {conditions : List Condition} (separates : Piece → Bool) (joins : Joins conditions condition)
      (present : ∀ operand ∈ pieces.splitOnP separates, operand ≠ [])
      (operands : List.Forall₂ (fun operand condition => readOperand operand = .ok condition)
        (pieces.splitOnP separates) conditions)

theorem readSplit_ok {operator : Operator} {pieces : List Piece} {conditions : List Condition}
    (run : readSplit operator pieces = .ok conditions) :
    (∀ operand ∈ pieces.splitOnP (Piece.isKeyword operator), operand ≠ []) ∧
      List.Forall₂ (fun operand condition => readOperand operand = .ok condition)
        (pieces.splitOnP (Piece.isKeyword operator)) conditions := by
  unfold readSplit at run
  split at run
  · rename_i operands cut
    obtain ⟨rfl, present⟩ := cutOperands_ok cut
    exact ⟨present, forall₂_of_mapM run⟩
  · contradiction

theorem readNear_ok {pieces : List Piece} {condition : Condition}
    (run : readNear pieces = .ok condition) : ReadLevel pieces condition := by
  unfold readNear at run
  split at run
  · contradiction
  rename_i distances read
  split at run
  · contradiction
  rename_i operands cut
  obtain ⟨rfl, present⟩ := cutOperands_ok cut
  split at run
  · split at run
    · rename_i each
      obtain rfl := Except.ok.inj run
      exact .joined _ (.near _ _ (headD_le (nearDistances_le read))) present (forall₂_of_mapM each)
    · contradiction
    · contradiction
  · contradiction

theorem readLevel_ok {pieces : List Piece} {condition : Condition}
    (run : readLevel pieces = .ok condition) : ReadLevel pieces condition := by
  have joined {operator : Operator} {make : List Condition → Condition}
      (present : pieces.any (Piece.isKeyword operator) = true)
      (joins : ∀ conditions, 2 ≤ conditions.length → Joins conditions (make conditions))
      (split : (readSplit operator pieces).map make = .ok condition) : ReadLevel pieces condition := by
    cases each : readSplit operator pieces with
    | error fault =>
      rw [each] at split
      contradiction
    | ok conditions =>
      rw [each] at split
      obtain rfl := Except.ok.inj split
      obtain ⟨filled, operands⟩ := readSplit_ok each
      refine .joined _ (joins conditions ?_) filled operands
      rw [← operands.length_eq]
      exact two_le_length_splitOnP present
  unfold readLevel at run
  split at run
  · contradiction
  rename_i nonempty
  rw [List.isEmpty_iff] at nonempty
  split at run
  · rename_i present
    exact joined present (fun _ two => .or two) run
  split at run
  · rename_i present
    exact joined present (fun _ two => .and two) run
  split at run
  · split at run
    · rename_i each
      obtain rfl := Except.ok.inj run
      obtain ⟨filled, operands⟩ := readSplit_ok each
      exact .joined _ (.not _ _) filled operands
    · contradiction
    · contradiction
  split at run
  · exact readNear_ok run
  · exact .alone nonempty run

/-! ## Terms and operators -/

namespace Condition

mutual

/-- The number of operators in a condition. -/
def operatorCount : Condition → Nat
  | leaf _ | resolved _ => 0
  | or operands | and operands => operatorCounts operands + 1
  | not left right | near left right _ => operatorCount left + operatorCount right + 1

def operatorCounts : List Condition → Nat
  | [] => 0
  | operand :: rest => operatorCount operand + operatorCounts rest

end

theorem operatorCounts_eq (operands : List Condition) :
    operatorCounts operands = (operands.map operatorCount).sum := by
  induction operands with
  | nil => rfl
  | cons operand rest ih => rw [operatorCounts, ih, List.map_cons, List.sum_cons]

end Condition

theorem Joins.operatorCount_eq {conditions : List Condition} {condition : Condition}
    (joins : Joins conditions condition) :
    condition.operatorCount = (conditions.map Condition.operatorCount).sum + 1 := by
  cases joins <;> simp [Condition.operatorCount, Condition.operatorCounts_eq]

def Piece.operatorCount : Piece → Nat
  | .word _ => 0
  | .group condition => condition.operatorCount

/-- The number of operators in the groups of a level. -/
def operatorCount (pieces : List Piece) : Nat := (pieces.map Piece.operatorCount).sum

theorem operatorCount_readOperand {pieces : List Piece} {condition : Condition}
    (run : readOperand pieces = .ok condition) : condition.operatorCount ≤ operatorCount pieces := by
  rcases readOperand_ok run with rfl | ⟨words, rfl, term⟩
  · exact Nat.le_refl _
  · obtain ⟨pattern, -, rfl⟩ := parseTerm_ok term
    exact Nat.zero_le _

theorem sum_operatorCount_le {operands : List (List Piece)} {conditions : List Condition}
    (each : List.Forall₂ (fun operand condition => condition.operatorCount ≤ operatorCount operand)
      operands conditions) :
    (conditions.map Condition.operatorCount).sum ≤ operatorCount operands.flatten := by
  induction each with
  | nil => exact Nat.le_refl _
  | cons head tail ih =>
    rw [List.map_cons, List.sum_cons, List.flatten_cons, operatorCount, List.map_append,
      List.sum_append]
    exact Nat.add_le_add head ih

theorem operatorCount_splitOnP_le (separates : Piece → Bool) (pieces : List Piece) :
    operatorCount (pieces.splitOnP separates).flatten ≤ operatorCount pieces := by
  induction pieces with
  | nil => exact Nat.le_refl _
  | cons piece rest ih =>
    rw [List.splitOnP_cons_eq_if_modifyHead]
    split
    · exact Nat.le_trans ih (Nat.le_add_left _ _)
    · obtain ⟨first, others, shape⟩ := List.exists_cons_of_ne_nil (List.splitOnP_ne_nil separates rest)
      rw [shape] at ih ⊢
      exact Nat.add_le_add_left ih _

/-- A level adds at most one operator. -/
theorem operatorCount_readLevel {pieces : List Piece} {condition : Condition}
    (run : readLevel pieces = .ok condition) :
    condition.operatorCount ≤ operatorCount pieces + 1 := by
  cases readLevel_ok run with
  | alone nonempty run => exact Nat.le_succ_of_le (operatorCount_readOperand run)
  | joined separates joins present operands =>
    have counts := sum_operatorCount_le (operands.imp fun _ _ => operatorCount_readOperand)
    rw [joins.operatorCount_eq]
    exact Nat.succ_le_succ (Nat.le_trans counts (operatorCount_splitOnP_le separates pieces))

/-! ## Queries -/

theorem operatorCount_endWord (level : List Piece) (word : List Char) :
    operatorCount (endWord level word) = operatorCount level := by
  rw [endWord]
  split
  · rfl
  · exact Nat.zero_add _

theorem operatorCount_reverse (pieces : List Piece) :
    operatorCount pieces.reverse = operatorCount pieces := by
  rw [operatorCount, List.map_reverse, List.sum_reverse]
  rfl

theorem operatorCount_readFrom {condition : Condition} {rest : List Char} :
    ∀ {outer : List (List Piece)} {level : List Piece} {word : List Char},
    readFrom outer level word rest = .ok condition →
    condition.operatorCount ≤ ((level :: outer).map operatorCount).sum + rest.count ')' + 1 := by
  induction rest with
  | nil =>
    intro outer level word run
    rw [readFrom.eq_def] at run
    dsimp only at run
    split at run
    · have few := operatorCount_readLevel run
      rw [operatorCount_reverse, operatorCount_endWord] at few
      simpa using few
    · contradiction
  | cons c rest ih =>
    intro outer level word run
    by_cases space : c = ' '
    · subst space
      rw [readFrom_space] at run
      simpa [operatorCount_endWord] using ih run
    by_cases opening : c = '('
    · subst opening
      rw [readFrom_opening] at run
      have none : operatorCount [] = 0 := rfl
      simpa [operatorCount_endWord, none] using ih run
    by_cases closing : c = ')'
    · subst closing
      cases outer with
      | nil =>
        rw [readFrom_unopened] at run
        contradiction
      | cons around outer =>
        rw [readFrom_closing] at run
        split at run
        · rename_i inner closed
          have few := operatorCount_readLevel closed
          rw [operatorCount_reverse, operatorCount_endWord] at few
          refine Nat.le_trans (ih run) ?_
          simp only [List.map_cons, List.sum_cons, operatorCount, Piece.operatorCount,
            List.count_cons_self] at few ⊢
          omega
        · contradiction
    · have noDelimiter : isDelimiter c = false := by simp [isDelimiter, space, opening, closing]
      rw [readFrom_letter _ _ _ _ noDelimiter] at run
      simpa [List.count_cons_of_ne closing] using ih run

/-- Each operator of what is read, but the outermost, has the parentheses of a group. -/
theorem operatorCount_readQuery {query : List Char} {condition : Condition}
    (run : readQuery query = .ok condition) : condition.operatorCount ≤ query.count ')' + 1 := by
  simpa [operatorCount] using operatorCount_readFrom run

end TextQuery.Query
