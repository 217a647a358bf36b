import Mathlib.Data.List.Sort
import TextQuery.Proofs.Query.Proximity

/-!
# Partners

The words that a proximity covers reach from each word of its left side to the first word of its right side
that is near enough, its first partner. So the two sides do not play the same part, and a larger distance may
bring an earlier partner and lose what the old one covered. Neither happens where a word with a partner after
it has no other (`nearSpan_comm`), or keeps it (`nearSpan_mono`).
-/
set_option autoImplicit false

namespace TextQuery.Query

variable {distance farther i j k index : Nat} {set left right more wider : IndexSet}

theorem IndexSet.eq_of_mem_iff (same : ∀ k, k ∈ left ↔ k ∈ right) : left = right := by
  cases left with
  | mk first ascending =>
    cases right with
    | mk second ascending' =>
      obtain rfl := ascending.eq_of_mem_iff ascending' same
      rfl

/-! ## First partners -/

/-- The first word of a set that is near enough to a word. -/
def firstPartner? (distance : Nat) (set : IndexSet) (i : Nat) : Option Nat :=
  set.toList.find? (within distance i)

theorem firstPartner?_mem (found : firstPartner? distance set i = some j) :
    j ∈ set ∧ within distance i j = true :=
  ⟨IndexSet.mem_toList.mp (List.mem_of_find?_eq_some found), List.find?_some found⟩

theorem firstPartner?_le (found : firstPartner? distance set i = some j) (member : k ∈ set)
    (near : within distance i k = true) : j ≤ k := by
  obtain ⟨-, before, behind, split, none⟩ := List.find?_eq_some_iff_append.mp found
  have ascending := set.ascending
  rw [← IndexSet.mem_toList, split, List.mem_append, List.mem_cons] at member
  rw [split] at ascending
  rcases member with earlier | rfl | later
  · have far := none k earlier
    rw [near] at far
    contradiction
  · exact Nat.le_refl _
  · exact Nat.le_of_lt (List.rel_of_pairwise_cons (List.pairwise_append.mp ascending).2.1 later)

theorem exists_firstPartner? (member : j ∈ set) (near : within distance i j = true) :
    ∃ first, firstPartner? distance set i = some first ∧ first ≤ j := by
  have found : (firstPartner? distance set i).isSome = true :=
    List.find?_isSome.mpr ⟨j, IndexSet.mem_toList.mpr member, near⟩
  obtain ⟨first, found⟩ := Option.isSome_iff_exists.mp found
  exact ⟨first, found, firstPartner?_le found member near⟩

theorem mem_nearSpan_iff : index ∈ nearSpan distance left right ↔
    ∃ i ∈ left, ∃ j, firstPartner? distance right i = some j ∧ min i j ≤ index ∧ index ≤ max i j :=
  mem_nearSpan

/-! ## The order of the sides -/

/-- No word of the left side that has a partner after it has a second one. -/
def SolePartners (distance : Nat) (left right : IndexSet) : Prop :=
  ∀ i ∈ left, ∀ j ∈ right, ∀ k ∈ right,
    within distance i j = true → within distance i k = true → i < j → k = j

/-- Then everything between two words that are near enough is covered. -/
theorem SolePartners.mem_nearSpan (sole : SolePartners distance left right) :
    index ∈ nearSpan distance left right ↔
      ∃ i ∈ left, ∃ j ∈ right, within distance i j = true ∧ min i j ≤ index ∧ index ≤ max i j := by
  rw [mem_nearSpan_iff]
  constructor
  · rintro ⟨i, inLeft, j, found, between⟩
    obtain ⟨inRight, near⟩ := firstPartner?_mem found
    exact ⟨i, inLeft, j, inRight, near, between⟩
  · rintro ⟨i, inLeft, j, inRight, near, between⟩
    obtain ⟨first, found, le⟩ := exists_firstPartner? inRight near
    refine ⟨i, inLeft, first, found, ?_⟩
    rcases Nat.lt_or_ge i j with ahead | behind
    · obtain ⟨firstIn, firstNear⟩ := firstPartner?_mem found
      obtain rfl := sole i inLeft j inRight first firstIn near firstNear ahead
      exact between
    · omega

theorem nearSpan_comm (leftSole : SolePartners distance left right)
    (rightSole : SolePartners distance right left) :
    nearSpan distance left right = nearSpan distance right left := by
  refine IndexSet.eq_of_mem_iff fun index => ?_
  rw [leftSole.mem_nearSpan, rightSole.mem_nearSpan]
  constructor
  · rintro ⟨i, inLeft, j, inRight, near, between⟩
    exact ⟨j, inRight, i, inLeft, within_comm distance i j ▸ near, by omega⟩
  · rintro ⟨i, inRight, j, inLeft, near, between⟩
    exact ⟨j, inLeft, i, inRight, within_comm distance i j ▸ near, by omega⟩

theorem nearPairExists_comm (distance : Nat) (left right : IndexSet) :
    nearPairExists distance left right = nearPairExists distance right left := by
  rw [Bool.eq_iff_iff, nearPairExists_eq_true_iff, nearPairExists_eq_true_iff]
  constructor
  · rintro ⟨i, inLeft, j, inRight, near⟩
    exact ⟨j, inRight, i, inLeft, within_comm distance i j ▸ near⟩
  · rintro ⟨i, inRight, j, inLeft, near⟩
    exact ⟨j, inLeft, i, inRight, within_comm distance i j ▸ near⟩

/-! ## More words and a larger distance -/

/-- Every word of the left side whose first partner stands after it keeps that one when the right side and
the distance grow. -/
def KeepsPartners (distance farther : Nat) (left right wider : IndexSet) : Prop :=
  ∀ i ∈ left, ∀ j, firstPartner? distance right i = some j → i < j → firstPartner? farther wider i = some j

theorem nearSpan_mono (order : distance ≤ farther) (inLeft : ∀ i ∈ left, i ∈ more)
    (inRight : ∀ j ∈ right, j ∈ wider) (keeps : KeepsPartners distance farther left right wider)
    (covered : index ∈ nearSpan distance left right) : index ∈ nearSpan farther more wider := by
  rw [mem_nearSpan_iff] at covered ⊢
  obtain ⟨i, member, j, found, between⟩ := covered
  obtain ⟨partner, near⟩ := firstPartner?_mem found
  obtain ⟨first, still, le⟩ := exists_firstPartner? (inRight j partner) (within_mono order near)
  refine ⟨i, inLeft i member, first, still, ?_⟩
  rcases Nat.lt_or_ge i j with ahead | behind
  · obtain rfl := Option.some.inj (still.symm.trans (keeps i member j found ahead))
    exact between
  · omega

theorem nearPairExists_mono (order : distance ≤ farther) (inLeft : ∀ i ∈ left, i ∈ more)
    (inRight : ∀ j ∈ right, j ∈ wider) (pair : nearPairExists distance left right = true) :
    nearPairExists farther more wider = true := by
  rw [nearPairExists_eq_true_iff] at pair ⊢
  obtain ⟨i, first, j, second, near⟩ := pair
  exact ⟨i, inLeft i first, j, inRight j second, within_mono order near⟩

end TextQuery.Query
