import Mathlib.Data.List.Perm.Basic
import TextQuery.Selection

/-!
# Selections in chunks

Chunks put together again are the list they were cut from, so a selection checks every text on its own
and in order, whatever the options are and whichever chunk is ready first. There are no more chunks than
workers unless the batch is too large for that (`select_in_chunks`).
-/
set_option autoImplicit false

namespace TextQuery

/-! ## Chunks -/

theorem flatten_chunks {α : Type} {size : Nat} (positive : 0 < size) (list : List α) :
    (chunks size list).flatten = list := by
  induction list using chunks.induct size with
  | case1 list stops =>
    have blank : list = [] := by
      rcases stops with empty | zero
      · exact List.isEmpty_iff.mp empty
      · omega
    rw [blank, chunks]
    simp
  | case2 list continues ih =>
    rw [chunks, if_neg continues, List.flatten_cons, ih, List.take_append_drop]

theorem length_chunks_le_iff {α : Type} {size : Nat} (positive : 0 < size) (list : List α) (bound : Nat) :
    (chunks size list).length ≤ bound ↔ list.length ≤ bound * size := by
  induction list using chunks.induct size generalizing bound with
  | case1 list stops =>
    have blank : list = [] := by
      rcases stops with empty | zero
      · exact List.isEmpty_iff.mp empty
      · omega
    rw [chunks, if_pos stops, blank]
    simp
  | case2 list continues ih =>
    rw [chunks, if_neg continues, List.length_cons]
    have filled : 0 < list.length := by
      rw [List.length_pos_iff]
      rintro rfl
      exact continues (Or.inl rfl)
    cases bound with
    | zero => omega
    | succ bound =>
      rw [Nat.add_le_add_iff_right, ih bound, List.length_drop, Nat.succ_mul]
      omega

namespace SelectionOptions

/-- Records can be cut into parts of any positive size, and there are no more parts than are needed. -/
theorem exists_partCount? {total size : Nat} (positive : 0 < size) (fits : total ≤ maxCount) :
    ∃ parts, partCount? total size = some parts ∧ ∀ bound, parts ≤ bound ↔ total ≤ bound * size := by
  rw [partCount?, if_neg (by omega)]
  by_cases even : total % size = 0
  · have whole : total = total / size * size := (Nat.div_mul_cancel (Nat.dvd_of_mod_eq_zero even)).symm
    refine ⟨total / size, if_pos even, fun bound => ?_⟩
    calc
      total / size ≤ bound ↔ total / size * size ≤ bound * size :=
        (Nat.mul_le_mul_right_iff positive).symm
      _ ↔ total ≤ bound * size := by rw [← whole]
  -- A remainder needs a divisor above one, so the quotient is below the total.
  · have several : 1 < size := by
      by_contra few
      have one : size = 1 := by omega
      rw [one, Nat.mod_one] at even
      contradiction
    have some : 0 < total := by
      refine Nat.pos_of_ne_zero ?_
      rintro rfl
      exact even (Nat.zero_mod _)
    have below : total / size < total := Nat.div_lt_self some several
    refine ⟨total / size + 1, by rw [if_neg even, sum?, if_pos (by omega)], fun bound => ?_⟩
    have other : total ≠ bound * size := by
      intro same
      rw [same, Nat.mul_mod_left] at even
      contradiction
    calc
      total / size < bound ↔ total < bound * size := Nat.div_lt_iff_lt_mul positive
      _ ↔ total ≤ bound * size := by omega

variable (options : SelectionOptions) (total workers : Nat)

theorem one_le_workerCount (cpus : Nat) : 1 ≤ options.workerCount cpus := by
  unfold workerCount
  split
  · exact Nat.le_max_right _ _
  · exact Nat.le_trans (by decide) (Nat.le_max_right _ _)

/-- A large batch is cut into chunks of the length that the options give. -/
theorem chunkLenFor?_of_lt (large : max options.chunkLen 1 * workers < total) :
    options.chunkLenFor? total workers = some (max options.chunkLen 1) := by
  rw [chunkLenFor?]
  exact if_pos (Nat.lt_of_le_of_lt (Nat.min_le_left _ _) large)

/-- A small batch is shared by the workers. -/
theorem exists_chunkLenFor?_of_le (fits : total ≤ maxCount)
    (small : total ≤ max options.chunkLen 1 * workers) :
    ∃ parts, options.chunkLenFor? total workers = some (max parts 1) ∧
      ∀ bound, parts ≤ bound ↔ total ≤ bound * max workers 1 := by
  obtain ⟨parts, counted, least⟩ := exists_partCount? (show 0 < max workers 1 by omega) fits
  refine ⟨parts, ?_, least⟩
  rw [chunkLenFor?, counted]
  exact if_neg (by omega)

/-- No step overflows or divides by zero. -/
theorem chunkLenFor?_eq (fits : total ≤ maxCount) :
    options.chunkLenFor? total workers = some (options.chunkLenFor total workers) := by
  rw [chunkLenFor]
  by_cases small : total ≤ max options.chunkLen 1 * workers
  · obtain ⟨parts, counted, -⟩ := options.exists_chunkLenFor?_of_le total workers fits small
    rw [counted, Option.getD_some]
  · rw [options.chunkLenFor?_of_lt total workers (by omega), Option.getD_some]

theorem chunkLenFor_pos : 0 < options.chunkLenFor total workers := by
  rw [chunkLenFor]
  cases computed : options.chunkLenFor? total workers with
  | none => exact Nat.one_pos
  | some length =>
    rw [chunkLenFor?] at computed
    rw [Option.getD_some]
    split at computed
    · cases computed
      omega
    · obtain ⟨parts, -, rfl⟩ := Option.map_eq_some_iff.mp computed
      omega

theorem chunkLenFor_of_lt (large : max options.chunkLen 1 * workers < total) :
    options.chunkLenFor total workers = max options.chunkLen 1 := by
  rw [chunkLenFor, options.chunkLenFor?_of_lt total workers large, Option.getD_some]

theorem chunkLenFor_le (fits : total ≤ maxCount) :
    options.chunkLenFor total workers ≤ max options.chunkLen 1 := by
  by_cases small : total ≤ max options.chunkLen 1 * workers
  · have workersSmall : max options.chunkLen 1 * workers ≤ max options.chunkLen 1 * max workers 1 :=
      Nat.mul_le_mul_left _ (Nat.le_max_left _ _)
    obtain ⟨parts, counted, least⟩ := options.exists_chunkLenFor?_of_le total workers fits small
    have few : parts ≤ max options.chunkLen 1 := (least _).mpr (Nat.le_trans small workersSmall)
    rw [chunkLenFor, counted, Option.getD_some]
    omega
  · exact Nat.le_of_eq (chunkLenFor_of_lt options total workers (by omega))

/-- A batch that the workers can take in one chunk each is cut into at most that many chunks. -/
theorem length_chunks_le {α : Type} (records : List α) (fits : records.length ≤ maxCount)
    (small : records.length ≤ max options.chunkLen 1 * workers) :
    (chunks (options.chunkLenFor records.length workers) records).length ≤ workers := by
  rw [length_chunks_le_iff (options.chunkLenFor_pos _ workers)]
  -- Without workers a small batch is empty.
  by_cases idle : workers = 0
  · rw [idle] at small ⊢
    omega
  · have some : max workers 1 = workers := by omega
    obtain ⟨parts, counted, least⟩ := options.exists_chunkLenFor?_of_le _ workers fits small
    rw [chunkLenFor, counted, Option.getD_some]
    calc
      records.length ≤ parts * max workers 1 := (least parts).mp (Nat.le_refl parts)
      _ = workers * parts := by rw [some, Nat.mul_comm]
      _ ≤ workers * max parts 1 := Nat.mul_le_mul_left _ (Nat.le_max_left _ _)

end SelectionOptions

/-! ## The order in which chunks are ready -/

/-- The rows of each chunk, from when the chunk is ready. -/
abbrev Ready := List (Option (List CheckRow))

namespace QuerySet

variable (set : QuerySet) (pieces : List (List String))

/-- One more chunk is ready. -/
def finish (ready : Ready) (number : Nat) : Ready :=
  ready.set number (pieces[number]?.map fun piece => piece.map set.check)

/-- The rows of all chunks in the order of the chunks, once all of them are ready. -/
def gather? (ready : Ready) : Option (List CheckRow) := (ready.mapM id).map List.flatten

/-- The rows of a selection whose chunks are ready in the given order. -/
def selectAs? (options : SelectionOptions) (workers : Nat) (texts : List String) (order : List Nat) :
    Option (List CheckRow) :=
  let pieces := chunks (options.chunkLenFor texts.length workers) texts
  gather? (order.foldl (set.finish pieces) (List.replicate pieces.length none))

theorem getElem?_finish (ready : Ready) (number other : Nat) :
    (set.finish pieces ready number)[other]? =
      if other = number ∧ other < ready.length then
        some (pieces[other]?.map fun piece => piece.map set.check)
      else ready[other]? := by
  rw [finish]
  by_cases same : other = number
  · subst same
    by_cases within : other < ready.length
    · rw [if_pos ⟨rfl, within⟩, List.getElem?_set_self within]
    · rw [if_neg (fun both => within both.2), List.getElem?_eq_none (by simpa using within),
        List.getElem?_eq_none (by omega)]
  · rw [if_neg (fun both => same both.1), List.getElem?_set_ne (Ne.symm same)]

/-- What is in the place of a chunk depends on whether the chunk is ready, and not on when it was. -/
theorem getElem?_foldl_finish (order : List Nat) (ready : Ready) (other : Nat) :
    (order.foldl (set.finish pieces) ready)[other]? =
      if other ∈ order ∧ other < ready.length then
        some (pieces[other]?.map fun piece => piece.map set.check)
      else ready[other]? := by
  -- The table is general: each chunk that is ready changes it before the rest of them are.
  induction order generalizing ready with
  | nil => simp
  | cons number rest ih =>
    have length : (set.finish pieces ready number).length = ready.length := List.length_set
    rw [List.foldl_cons, ih, getElem?_finish, length]
    by_cases later : other ∈ rest ∧ other < ready.length
    · rw [if_pos later, if_pos ⟨List.mem_cons_of_mem _ later.1, later.2⟩]
    · rw [if_neg later]
      by_cases now : other = number ∧ other < ready.length
      · rw [if_pos now, if_pos ⟨now.1 ▸ List.mem_cons_self, now.2⟩]
      · have never : ¬ (other ∈ number :: rest ∧ other < ready.length) := by
          rintro ⟨member, within⟩
          rcases List.mem_cons.mp member with same | inRest
          · exact now ⟨same, within⟩
          · exact later ⟨inRest, within⟩
        rw [if_neg now, if_neg never]

/-- All chunks are ready in the end, each in its place. -/
theorem foldl_finish_eq {order : List Nat} (complete : order.Perm (List.range pieces.length)) :
    order.foldl (set.finish pieces) (List.replicate pieces.length none) =
      pieces.map fun piece => some (piece.map set.check) := by
  refine List.ext_getElem? fun number => ?_
  rw [getElem?_foldl_finish, List.length_replicate, List.getElem?_map]
  by_cases within : number < pieces.length
  · have member := complete.mem_iff.mpr (List.mem_range.mpr within)
    rw [if_pos ⟨member, within⟩, List.getElem?_eq_getElem within]
    rfl
  · have outside : pieces[number]? = none := List.getElem?_eq_none (by omega)
    rw [if_neg fun both => within both.2, outside]
    exact List.getElem?_eq_none (by rw [List.length_replicate]; omega)

/-- Every text is checked on its own, in order. -/
theorem select_eq_map (options : SelectionOptions) (workers : Nat) (texts : List String) :
    set.select options workers texts = texts.map set.check := by
  have whole := flatten_chunks (options.chunkLenFor_pos texts.length workers) texts
  calc
    set.select options workers texts
      = ((chunks (options.chunkLenFor texts.length workers) texts).flatten).map set.check := by
        rw [select, List.flatMap_def, List.map_flatten]
    _ = texts.map set.check := by rw [whole]

/-- The rows do not depend on the order in which chunks are ready. -/
theorem selectAs?_eq (options : SelectionOptions) (workers : Nat) (texts : List String)
    {order : List Nat} (complete : order.Perm (List.range
      (chunks (options.chunkLenFor texts.length workers) texts).length)) :
    set.selectAs? options workers texts order = some (set.select options workers texts) := by
  have gathered : (chunks (options.chunkLenFor texts.length workers) texts).mapM
      (fun piece => some (piece.map set.check)) = some ((chunks (options.chunkLenFor texts.length
        workers) texts).map fun piece => piece.map set.check) := List.mapM_pure
  rw [selectAs?, foldl_finish_eq set _ complete, gather?, List.mapM_map]
  calc
    ((chunks (options.chunkLenFor texts.length workers) texts).mapM
        fun piece => some (piece.map set.check)).map List.flatten
      = some ((chunks (options.chunkLenFor texts.length workers) texts).map
          fun piece => piece.map set.check).flatten := by rw [gathered, Option.map_some]
    _ = some (set.select options workers texts) := by rw [select, List.flatMap_def]

/-- How a batch is cut: the arithmetic stays within counts, a batch is one chunk for each worker at most
unless it is too large for that, and the rows show neither the chunks nor which of them was ready first. -/
theorem select_in_chunks (options : SelectionOptions) (cpus workers : Nat) {total : Nat}
    (fits : total ≤ maxCount) :
    1 ≤ options.workerCount cpus ∧
    options.chunkLenFor? total workers = some (options.chunkLenFor total workers) ∧
    1 ≤ options.chunkLenFor total workers ∧
    options.chunkLenFor total workers ≤ max options.chunkLen 1 ∧
    (total ≤ max options.chunkLen 1 * workers → ∀ texts : List String, texts.length = total →
      (chunks (options.chunkLenFor total workers) texts).length ≤ workers) ∧
    (max options.chunkLen 1 * workers < total →
      options.chunkLenFor total workers = max options.chunkLen 1) ∧
    ∀ (set : QuerySet) (texts : List String), texts.length = total →
      set.select options workers texts = texts.map set.check ∧
      ∀ order, order.Perm (List.range (chunks (options.chunkLenFor total workers) texts).length) →
        set.selectAs? options workers texts order = some (texts.map set.check) := by
  refine ⟨options.one_le_workerCount cpus, options.chunkLenFor?_eq total workers fits,
    options.chunkLenFor_pos total workers, options.chunkLenFor_le total workers fits, ?_,
    options.chunkLenFor_of_lt total workers, ?_⟩
  · rintro small texts rfl
    exact options.length_chunks_le workers texts fits small
  · rintro set texts rfl
    refine ⟨set.select_eq_map options workers texts, fun order complete => ?_⟩
    rw [set.selectAs?_eq options workers texts complete, set.select_eq_map]

/-- The largest counts, and three chunks of which the last is ready first. -/
theorem select_in_chunks_sample :
    SelectionOptions.chunkLenFor? ⟨none, 0, maxCount⟩ maxCount 3 = some 6148914691236517205 ∧
    ∃ set, parseAll [("cats", "cat*")] = .ok set ∧
      set.selectAs? ⟨some 0, 0, 0⟩ 2 ["a cat", "a dog", "cats"] [2, 0, 1] =
        some (["a cat", "a dog", "cats"].map set.check) := by
  obtain ⟨-, checked, -⟩ := select_in_chunks ⟨none, 0, maxCount⟩ 0 3 (Nat.le_refl maxCount)
  refine ⟨checked.trans (by decide), ?_⟩
  have parses : (parseAll [("cats", "cat*")]).toOption.isSome = true := by decide +kernel
  cases run : parseAll [("cats", "cat*")] with
  | error error =>
    rw [run] at parses
    contradiction
  | ok set =>
    obtain ⟨-, -, -, -, -, -, rows⟩ := select_in_chunks ⟨some 0, 0, 0⟩ 0 2 (by decide : 3 ≤ maxCount)
    have single : SelectionOptions.chunkLenFor ⟨some 0, 0, 0⟩ 3 2 = 1 := by decide
    have three : (chunks 1 ["a cat", "a dog", "cats"]).length = 3 := by simp [chunks]
    refine ⟨set, rfl, (rows set _ rfl).2 [2, 0, 1] ?_⟩
    rw [single, three]
    decide

end QuerySet

end TextQuery
