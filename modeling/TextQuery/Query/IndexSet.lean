/-!
# Sets of word indices

Finite sets of numbers, kept as ascending lists. Main statements: what a set holds after each
operation.
-/
set_option autoImplicit false

namespace TextQuery.Query

/-- Puts a number at its place in an ascending list, unless it is there already. -/
def insertAscending (n : Nat) : List Nat → List Nat
  | [] => [n]
  | m :: rest =>
    if n < m then n :: m :: rest
    else if n = m then m :: rest
    else m :: insertAscending n rest

theorem mem_insertAscending {n k : Nat} {list : List Nat} :
    k ∈ insertAscending n list ↔ k = n ∨ k ∈ list := by
  induction list with
  | nil => simp [insertAscending]
  | cons m rest ih =>
    unfold insertAscending
    split
    · simp
    · split
      · subst n; simp
      · simp only [List.mem_cons, ih]
        exact ⟨fun h => by rcases h with h | h | h <;> simp [h],
          fun h => by rcases h with h | h | h <;> simp [h]⟩

theorem pairwise_insertAscending {n : Nat} {list : List Nat} (ascending : list.Pairwise (· < ·)) :
    (insertAscending n list).Pairwise (· < ·) := by
  induction list with
  | nil => simp [insertAscending]
  | cons m rest ih =>
    obtain ⟨below, tail⟩ := List.pairwise_cons.1 ascending
    unfold insertAscending
    split
    · rename_i lt
      refine List.pairwise_cons.2 ⟨fun k hk => ?_, ascending⟩
      rcases List.mem_cons.1 hk with rfl | hk
      · exact lt
      · exact Nat.lt_trans lt (below k hk)
    · split
      · exact ascending
      · refine List.pairwise_cons.2 ⟨fun k hk => ?_, ih tail⟩
        rcases mem_insertAscending.1 hk with rfl | hk
        · omega
        · exact below k hk

structure IndexSet where
  toList : List Nat
  ascending : toList.Pairwise (· < ·)
deriving DecidableEq

namespace IndexSet

def empty : IndexSet := ⟨[], .nil⟩

def insert (set : IndexSet) (n : Nat) : IndexSet :=
  ⟨insertAscending n set.toList, pairwise_insertAscending set.ascending⟩

def insertAll (set : IndexSet) (indices : List Nat) : IndexSet :=
  indices.foldl insert set

def ofList (indices : List Nat) : IndexSet := empty.insertAll indices

def union (left right : IndexSet) : IndexSet := left.insertAll right.toList

def isEmpty (set : IndexSet) : Bool := set.toList.isEmpty

instance : Membership Nat IndexSet := ⟨fun set n => n ∈ set.toList⟩

theorem mem_toList {set : IndexSet} {n : Nat} : n ∈ set.toList ↔ n ∈ set := Iff.rfl

@[simp] theorem not_mem_empty (n : Nat) : n ∉ empty := by
  simp [← mem_toList, empty]

@[simp] theorem mem_insert {set : IndexSet} {n k : Nat} : k ∈ set.insert n ↔ k = n ∨ k ∈ set :=
  mem_insertAscending

@[simp] theorem mem_insertAll {set : IndexSet} {indices : List Nat} {k : Nat} :
    k ∈ set.insertAll indices ↔ k ∈ indices ∨ k ∈ set := by
  induction indices generalizing set with
  | nil => simp [insertAll]
  | cons n rest ih =>
    have step : set.insertAll (n :: rest) = (set.insert n).insertAll rest := rfl
    rw [step, ih, mem_insert, List.mem_cons]
    exact ⟨fun h => by rcases h with h | h | h <;> simp [h],
      fun h => by rcases h with (h | h) | h <;> simp [h]⟩

@[simp] theorem mem_ofList {indices : List Nat} {k : Nat} : k ∈ ofList indices ↔ k ∈ indices := by
  simp [ofList]

@[simp] theorem mem_union {left right : IndexSet} {k : Nat} :
    k ∈ left.union right ↔ k ∈ right ∨ k ∈ left := by
  simp [union, mem_toList]

theorem isEmpty_eq_false_iff {set : IndexSet} : set.isEmpty = false ↔ ∃ k, k ∈ set := by
  cases set with
  | mk list ascending =>
    cases list with
    | nil => simp [isEmpty, ← mem_toList]
    | cons n rest => exact ⟨fun _ => ⟨n, mem_toList.1 List.mem_cons_self⟩, fun _ => rfl⟩

end IndexSet

end TextQuery.Query
