import Mathlib.Data.List.Basic
import TextQuery.Bytes

/-!
# Byte offsets

Positions of a text, counted in characters, and the offsets in its bytes at which they stand. A position is
known by its offset (`position?_offset`), offsets rise with positions (`offset_lt`), and the bytes between two
of them are those of the characters between (`slice?_offset`). A space is one byte, which no other character
has (`space_mem_utf8EncodeChar`).
-/
set_option autoImplicit false

namespace TextQuery.Bytes

/-- The byte of a space. -/
def space : UInt8 := 0x20

/-- The number of bytes before a position of a text. -/
def offset (text : List Char) (position : Nat) : Nat := (ofChars (text.take position)).length

/-- The position that stands at an offset; none inside a character or beyond the text. -/
def position? : List Char → Nat → Option Nat
  | _, 0 => some 0
  | [], _ + 1 => none
  | c :: rest, before + 1 =>
    if c.utf8Size ≤ before + 1 then (position? rest (before + 1 - c.utf8Size)).map (· + 1) else none

/-- The bytes between two offsets; none out of range. -/
def slice? (bytes : Bytes) (first last : Nat) : Option Bytes :=
  if first ≤ last ∧ last ≤ bytes.length then some ((bytes.drop first).take (last - first)) else none

/-! ## Bytes of a character -/

/-- A character of ASCII is one byte; all bytes of others are beyond ASCII. -/
theorem toNat_of_mem_utf8EncodeChar {c : Char} {byte : UInt8} (member : byte ∈ String.utf8EncodeChar c) :
    byte.toNat = c.toNat ∨ 0x80 ≤ byte.toNat := by
  have code : c.toNat = c.val.toNat := rfl
  unfold String.utf8EncodeChar at member
  dsimp only at member
  split at member
  · left
    rw [List.mem_singleton.mp member, UInt8.toNat_ofNat']
    omega
  right
  split at member
  · simp only [List.mem_cons, List.not_mem_nil, or_false] at member
    rcases member with rfl | rfl <;> rw [UInt8.toNat_ofNat'] <;> omega
  split at member
  · simp only [List.mem_cons, List.not_mem_nil, or_false] at member
    rcases member with rfl | rfl | rfl <;> rw [UInt8.toNat_ofNat'] <;> omega
  · simp only [List.mem_cons, List.not_mem_nil, or_false] at member
    rcases member with rfl | rfl | rfl | rfl <;> rw [UInt8.toNat_ofNat'] <;> omega

theorem space_mem_utf8EncodeChar {c : Char} : space ∈ String.utf8EncodeChar c ↔ c = ' ' := by
  constructor
  · intro member
    have value : space.toNat = ' '.toNat := rfl
    rcases toNat_of_mem_utf8EncodeChar member with same | beyond
    · exact Char.toNat_inj.mp (same.symm.trans value)
    · rw [value] at beyond
      contradiction
  · rintro rfl
    decide

theorem utf8EncodeChar_ne_nil (c : Char) : String.utf8EncodeChar c ≠ [] := by
  refine List.ne_nil_of_length_pos ?_
  rw [String.length_utf8EncodeChar]
  exact c.utf8Size_pos

theorem ofChars_cons (c : Char) (rest : List Char) :
    ofChars (c :: rest) = String.utf8EncodeChar c ++ ofChars rest :=
  List.flatMap_cons

theorem ofChars_append (left right : List Char) :
    ofChars (left ++ right) = ofChars left ++ ofChars right :=
  List.flatMap_append

theorem count_space_ofChars (text : List Char) : (ofChars text).count space = text.count ' ' := by
  induction text with
  | nil => rfl
  | cons c rest ih =>
    rw [ofChars_cons, List.count_append, ih]
    by_cases isSpace : c = ' '
    · subst isSpace
      rw [List.count_cons_self, Nat.add_comm]
      rfl
    · rw [List.count_eq_zero.mpr (mt space_mem_utf8EncodeChar.mp isSpace), List.count_cons_of_ne isSpace,
        Nat.zero_add]

/-! ## Offsets of positions -/

section Offset

variable (text : List Char) {position first last : Nat}

theorem take_offset (position : Nat) : (ofChars text).take (offset text position) = ofChars (text.take position) := by
  have parts : ofChars text = ofChars (text.take position) ++ ofChars (text.drop position) := by
    rw [← ofChars_append, List.take_append_drop]
  rw [parts]
  exact List.take_left

theorem offset_length : offset text text.length = (ofChars text).length := by
  rw [offset, List.take_length]

theorem ofChars_take (order : first ≤ last) : ofChars (text.take last) =
    ofChars (text.take first) ++ ofChars ((text.take last).drop first) := by
  have front : (text.take last).take first = text.take first := by
    rw [List.take_take, Nat.min_eq_left order]
  rw [← front, ← ofChars_append, List.take_append_drop]

theorem offset_le (order : first ≤ last) : offset text first ≤ offset text last := by
  rw [offset, offset, ofChars_take text order, List.length_append]
  exact Nat.le_add_right _ _

theorem offset_le_length (position : Nat) : offset text position ≤ (ofChars text).length := by
  have front := take_offset text position
  have bound : min (offset text position) (ofChars text).length = offset text position := by
    rw [← List.length_take, front]
    rfl
  omega

variable {text}

theorem offset_succ {c : Char} (here : text[position]? = some c) :
    offset text (position + 1) = offset text position + c.utf8Size := by
  rw [offset, List.take_add_one, here, ofChars_append, List.length_append]
  simp [offset, ofChars]

theorem offset_lt (order : first < last) (inside : last ≤ text.length) :
    offset text first < offset text last := by
  have here : text[first]? = some text[first] := List.getElem?_eq_getElem (by omega)
  have next := offset_le text (Nat.succ_le_of_lt order)
  have size := text[first].utf8Size_pos
  rw [Nat.succ_eq_add_one, offset_succ here] at next
  omega

theorem slice?_offset (text : List Char) (order : first ≤ last) :
    slice? (ofChars text) (offset text first) (offset text last) =
      some (ofChars ((text.take last).drop first)) := by
  rw [slice?, if_pos ⟨offset_le text order, offset_le_length text last⟩, ← List.drop_take, take_offset,
    ofChars_take text order]
  exact congrArg some List.drop_left

theorem position?_offset (inside : position ≤ text.length) :
    position? text (offset text position) = some position := by
  induction text generalizing position with
  | nil =>
    obtain rfl := Nat.le_zero.mp inside
    rfl
  | cons c rest ih =>
    cases position with
    | zero => simp [offset, position?, ofChars]
    | succ position =>
      have size := c.utf8Size_pos
      have cut : offset (c :: rest) (position + 1) = c.utf8Size + offset rest position := by
        rw [offset, List.take_succ_cons, ofChars_cons, List.length_append, String.length_utf8EncodeChar]
        rfl
      obtain ⟨before, shape⟩ : ∃ before, offset (c :: rest) (position + 1) = before + 1 :=
        Nat.exists_eq_succ_of_ne_zero (by omega)
      have later : before + 1 - c.utf8Size = offset rest position := by omega
      rw [shape, position?, if_pos (by omega), later, ih (Nat.le_of_succ_le_succ inside)]
      rfl

/-- The byte before a position is that of a space exactly if the character before it is one. -/
theorem getElem?_offset_succ {c : Char} (here : text[position]? = some c) :
    (ofChars text)[offset text (position + 1) - 1]? = some space ↔ c = ' ' := by
  have lastByte : (ofChars text)[offset text (position + 1) - 1]? = (String.utf8EncodeChar c).getLast? := by
    have inside : offset text (position + 1) - 1 < offset text (position + 1) := by
      have size := c.utf8Size_pos
      rw [offset_succ here]
      omega
    have shape : ofChars (text.take (position + 1)) =
        ofChars (text.take position) ++ String.utf8EncodeChar c := by
      rw [List.take_add_one, here, ofChars_append]
      simp [ofChars]
    rw [← List.getElem?_take_of_lt inside, take_offset, offset, ← List.getLast?_eq_getElem?, shape,
      List.getLast?_append_of_ne_nil _ (utf8EncodeChar_ne_nil c)]
  rw [lastByte]
  constructor
  · intro isLast
    exact space_mem_utf8EncodeChar.mp (List.mem_of_getLast? isLast)
  · rintro rfl
    decide

end Offset

end TextQuery.Bytes
