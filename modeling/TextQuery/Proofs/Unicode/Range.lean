import TextQuery.Unicode.Range

/-!
# Checking blocks

What a table says about the characters of a few small blocks is checked character by character, and that
a table does not touch them is checked block by block. Two tables are checked against each other by way of
sets of codes (`codeMask`).
-/
set_option autoImplicit false

namespace TextQuery.Unicode

theorem exists_of_inRanges {ranges : List CodeRange} {c : Char} (member : inRanges ranges c = true) :
    ∃ range ∈ ranges, range.1 ≤ c.toNat ∧ c.toNat ≤ range.2 := by
  obtain ⟨range, inList, inBlock⟩ := List.any_eq_true.mp member
  simp only [inRange, Bool.and_eq_true, decide_eq_true_eq] at inBlock
  exact ⟨range, inList, inBlock⟩

theorem inRanges_append (left right : List CodeRange) (c : Char) :
    inRanges (left ++ right) c = (inRanges left c || inRanges right c) :=
  List.any_append

/-- No block of one list touches a block of the other. -/
def apart (left right : List CodeRange) : Bool :=
  left.all fun first => right.all fun second =>
    Nat.blt first.2 second.1 || Nat.blt second.2 first.1

theorem inRanges_eq_false {left right : List CodeRange} (disjoint : apart left right = true)
    {c : Char} (member : inRanges right c = true) : inRanges left c = false := by
  refine Bool.eq_false_iff.mpr fun inLeft => ?_
  obtain ⟨first, firstInList, low, high⟩ := exists_of_inRanges inLeft
  obtain ⟨second, secondInList, secondLow, secondHigh⟩ := exists_of_inRanges member
  have separate := List.all_eq_true.mp (List.all_eq_true.mp disjoint first firstInList) second
    secondInList
  simp only [Bool.or_eq_true, Nat.blt_eq] at separate
  omega

/-- A test that every code of the blocks passes. -/
def passes (test : Char → Bool) (ranges : List CodeRange) : Bool :=
  ranges.all fun range =>
    (List.range' range.1 (range.2 + 1 - range.1)).all fun code => test (Char.ofNat code)

theorem of_passes {test : Char → Bool} {ranges : List CodeRange} (passed : passes test ranges = true)
    {c : Char} (member : inRanges ranges c = true) : test c = true := by
  obtain ⟨range, inList, low, high⟩ := exists_of_inRanges member
  have block := List.all_eq_true.mp passed range inList
  have code := List.all_eq_true.mp block c.toNat (List.mem_range'_1.mpr ⟨low, by omega⟩)
  rwa [Char.ofNat_toNat] at code

/-- What holds of every code below a bound holds of the characters below it. -/
theorem of_codes_below {bound : Nat} {P : Char → Prop}
    (checked : ∀ code < bound, P (Char.ofNat code)) {c : Char} (low : c.toNat < bound) : P c := by
  have known := checked c.toNat low
  rwa [Char.ofNat_toNat] at known

theorem toLower_eq_self {c : Char} (high : 0x80 ≤ c.toNat) : c.toLower = c := by
  refine dif_neg fun capital => ?_
  have last : 'Z'.val.toNat = 90 := rfl
  have code : c.toNat = c.val.toNat := rfl
  simp only [UInt32.le_iff_toNat_le] at capital
  omega

/-- What does not tell the capital letters of ASCII from the small ones does not change when a letter becomes
small. -/
theorem eq_of_toLower {α : Type} {f : Char → α}
    (checked : ∀ code < 0x80, f (Char.ofNat code).toLower = f (Char.ofNat code)) (c : Char) :
    f c.toLower = f c := by
  rcases Nat.lt_or_ge c.toNat 0x80 with low | high
  · exact of_codes_below (P := fun c => f c.toLower = f c) checked low
  · rw [toLower_eq_self high]

theorem toNat_lt_of_isAlphanum {c : Char} (alphanumeric : c.isAlphanum = true) : c.toNat < 123 := by
  have code : c.toNat = c.val.toNat := rfl
  have codes : 'Z'.val.toNat = 90 ∧ 'z'.val.toNat = 122 ∧ '9'.val.toNat = 57 := ⟨rfl, rfl, rfl⟩
  have bounds : ((decide ('A'.val ≤ c.val ∧ c.val ≤ 'Z'.val) ||
      decide ('a'.val ≤ c.val) && decide (c.val ≤ 'z'.val)) ||
        decide ('0'.val ≤ c.val) && decide (c.val ≤ '9'.val)) = true := alphanumeric
  simp only [Bool.or_eq_true, Bool.and_eq_true, decide_eq_true_eq, UInt32.le_iff_toNat_le] at bounds
  omega

/-! ## Sets of codes -/

/-- A set of codes, each of them a bit. Tables are checked against each other by way of such sets, since a
search through one table for every entry of the other takes too long. -/
def codeMask : List Nat → Nat
  | [] => 0
  | code :: codes => 1 <<< code ||| codeMask codes

theorem testBit_codeMask (codes : List Nat) (code : Nat) :
    (codeMask codes).testBit code = decide (code ∈ codes) := by
  induction codes with
  | nil => simp [codeMask]
  | cons first rest ih =>
    rw [codeMask, Nat.testBit_or, Nat.one_shiftLeft, Nat.testBit_two_pow, ih]
    simp [eq_comm]

end TextQuery.Unicode
