import TextQuery.Query.Keyword

/-!
# Words that mean something

What the first character of a word tells about the word, and what the numbers in words can be.
-/
set_option autoImplicit false

namespace TextQuery.Query

/-! ## First characters -/

/-- All keywords start with one of three letters. -/
theorem isKeyword_cons_eq_false {c : Char} (other : c.toLower ∉ ['o', 'a', 'n']) (rest : List Char)
    (operator : Operator) : isKeyword operator (c :: rest) = false := by
  simp only [List.mem_cons, List.not_mem_nil, or_false, not_or] at other
  have letters : 'O'.toLower = 'o' ∧ 'A'.toLower = 'a' ∧ 'N'.toLower = 'n' := by decide
  cases operator <;> simp [isKeyword, sameIgnoringCase, Operator.keyword, other, letters]

theorem isNear_cons_eq_false {c : Char} (other : c.toLower ∉ ['o', 'a', 'n']) (rest : List Char) :
    isNear (c :: rest) = false := by
  have different : sameIgnoringCase ((c :: rest).take 4) Operator.near.keyword.toList = false :=
    isKeyword_cons_eq_false other (rest.take 3) .near
  rw [isNear, nearTail?, different]
  rfl

theorem groupNumber?_cons_eq_none {c : Char} (other : c ≠ ':') (rest : List Char) :
    groupNumber? (c :: rest) = none := by
  unfold groupNumber?
  split
  · rename_i colon
    exact absurd (List.cons.inj colon).1 other
  · rfl

/-! ## Numbers -/

theorem readNumber?_toDigits {n : Nat} (fits : n ≤ maxCount) :
    readNumber? (Nat.toDigits 10 n) = some n := by
  have value : (Nat.toDigits 10 n).foldl (fun value c => value * 10 + (c.toNat - '0'.toNat)) 0 = n := by
    have read : Nat.ofDigitChars 10 (Nat.toDigits 10 n) 0 = n := Nat.ofDigitChars_ten_toDigits
    simpa only [Nat.ofDigitChars_eq_foldl, Nat.mul_comm 10] using read
  have digits : (Nat.toDigits 10 n).all Char.isDigit = true :=
    List.all_eq_true.mpr fun c member => Nat.isDigit_of_mem_toDigits (by omega) (by omega) member
  simp only [readNumber?, value]
  rw [if_pos ⟨Nat.toDigits_ne_nil, digits, fits⟩]

theorem readNumber?_le {digits : List Char} {number : Nat} (read : readNumber? digits = some number) :
    number ≤ maxCount := by
  unfold readNumber? at read
  dsimp only at read
  split at read
  · rename_i within
    obtain rfl := Option.some.inj read
    exact within.2.2
  · contradiction

theorem nearDistance?_le {word : List Char} {distance : Nat} (read : nearDistance? word = some distance) :
    distance ≤ maxCount := by
  unfold nearDistance? at read
  split at read
  · exact readNumber?_le read
  · contradiction

end TextQuery.Query
