/-!
# Bytes of text

Files hold bytes; their text is in UTF-8. Decoding stops at the first byte with which no character
begins, and says how many bytes came before it.
-/
set_option autoImplicit false

namespace TextQuery

abbrev Bytes := List UInt8

namespace Bytes

def ofChars (chars : List Char) : Bytes := chars.flatMap String.utf8EncodeChar

def ofString (text : String) : Bytes := ofChars text.toList

/-- The character that the bytes begin with. No character takes more than four of them. -/
def firstChar? (bytes : Bytes) : Option Char :=
  (bytes.take 4).toByteArray.utf8DecodeChar? 0

/-- The characters that the bytes begin with, and the bytes from the first on that begins none. -/
def splitChars : Bytes → List Char × Bytes
  | [] => ([], [])
  | byte :: rest =>
    match firstChar? (byte :: rest) with
    | none => ([], byte :: rest)
    | some c =>
      let (chars, undecoded) := splitChars (rest.drop (c.utf8Size - 1))
      (c :: chars, undecoded)
termination_by bytes => bytes.length
decreasing_by
  simp only [List.length_drop, List.length_cons]
  omega

/-- The text of the bytes, or the number of bytes before the first that is not part of a character. -/
def decode (bytes : Bytes) : Except Nat String :=
  match splitChars bytes with
  | (chars, []) => .ok (String.ofList chars)
  | (_, undecoded) => .error (bytes.length - undecoded.length)

/-- The text of the bytes, if all of them are text. -/
def toString? (bytes : Bytes) : Option String := (decode bytes).toOption

theorem firstChar?_encode (c : Char) (rest : Bytes) :
    firstChar? (String.utf8EncodeChar c ++ rest) = some c := by
  have short : (String.utf8EncodeChar c).length ≤ 4 := by
    rw [String.length_utf8EncodeChar]
    exact Char.utf8Size_le_four c
  rw [firstChar?, List.take_append, List.take_of_length_le short, List.toByteArray_append]
  exact ByteArray.utf8DecodeChar?_utf8EncodeChar_append

theorem splitChars_ofChars (chars : List Char) : splitChars (ofChars chars) = (chars, []) := by
  induction chars with
  | nil => simp [ofChars, splitChars]
  | cons c chars ih =>
    obtain ⟨byte, more, bytes⟩ : ∃ byte more, String.utf8EncodeChar c = byte :: more :=
      List.exists_cons_of_length_pos (by rw [String.length_utf8EncodeChar]; exact c.utf8Size_pos)
    have size : c.utf8Size - 1 = more.length := by
      rw [← String.length_utf8EncodeChar, bytes]
      simp
    have begins := firstChar?_encode c (ofChars chars)
    rw [bytes] at begins
    rw [show ofChars (c :: chars) = byte :: (more ++ ofChars chars) by simp [ofChars, bytes]]
    rw [splitChars]
    simp only [List.cons_append] at begins
    simp [begins, size, ih]

/-- Text is what its bytes decode to. -/
theorem decode_ofString (text : String) : decode (ofString text) = .ok text := by
  simp [decode, ofString, splitChars_ofChars]

end Bytes

end TextQuery
