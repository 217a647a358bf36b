/-!
# Hangul syllables

A Hangul syllable is made of a leading consonant, a vowel and possibly a trailing consonant. The
syllables stand in one block in the order of their parts, so both directions are arithmetic.
-/
set_option autoImplicit false

namespace TextQuery.Unicode.Hangul

def firstSyllable : Nat := 0xAC00
def firstLeading : Nat := 0x1100
def firstVowel : Nat := 0x1161

/-- One before the first trailing consonant: position zero stands for none. -/
def noTrailing : Nat := 0x11A7

def leadingCount : Nat := 19
def vowelCount : Nat := 21
def trailingCount : Nat := 28
def syllableCount : Nat := leadingCount * vowelCount * trailingCount

/-- The parts of a syllable; `none` for any other code point. -/
def decompose? (code : Nat) : Option (List Nat) :=
  if firstSyllable ≤ code ∧ code < firstSyllable + syllableCount then
    let position := code - firstSyllable
    let leading := firstLeading + position / (vowelCount * trailingCount)
    let vowel := firstVowel + position % (vowelCount * trailingCount) / trailingCount
    let trailing := position % trailingCount
    some (if trailing = 0 then [leading, vowel] else [leading, vowel, noTrailing + trailing])
  else none

/-- The syllable made of a leading consonant and a vowel, or of an open syllable and a trailing
consonant. -/
def compose? (first second : Nat) : Option Nat :=
  if firstLeading ≤ first ∧ first < firstLeading + leadingCount ∧
      firstVowel ≤ second ∧ second < firstVowel + vowelCount then
    some (firstSyllable +
      ((first - firstLeading) * vowelCount + (second - firstVowel)) * trailingCount)
  else if firstSyllable ≤ first ∧ first < firstSyllable + syllableCount ∧
      (first - firstSyllable) % trailingCount = 0 ∧
      noTrailing < second ∧ second < noTrailing + trailingCount then
    some (first + (second - noTrailing))
  else none

end TextQuery.Unicode.Hangul
