/-!
# Percentages

A share is computed in binary floating point with 53 digits, each operation rounded to the nearest
value and halves to the even one. The result is written with one decimal place, rounded from the
exact binary value in the same way.
-/
set_option autoImplicit false

namespace TextQuery.Report

/-- The whole number nearest to a quotient; a half goes to the even neighbour. -/
def roundQuotient (num den : Nat) : Nat :=
  let whole := num / den
  let twice := 2 * (num % den)
  if twice < den ∨ (twice = den ∧ whole % 2 = 0) then whole else whole + 1

/-- A quotient of natural numbers. -/
structure Quotient where
  num : Nat
  den : Nat

/-- The binary floating-point number with 53 digits that is nearest to a quotient. -/
def Quotient.toBinary (value : Quotient) : Quotient :=
  if value.num = 0 then ⟨0, 1⟩
  else
    -- `value` is scaled so that its whole part has 54 or 55 binary digits, then cut to 53
    let up := 54 + Nat.log2 value.den - Nat.log2 value.num
    let down := Nat.log2 value.num - (54 + Nat.log2 value.den)
    let num := value.num <<< up
    let den := value.den <<< down
    let extra := Nat.log2 (num / den) - 52
    let digits := roundQuotient num (den <<< extra)
    ⟨digits <<< (down + extra), 1 <<< up⟩

/-- `part` as a percentage of `total`, as binary floating point computes it. -/
def shareOf (part total : Nat) : Quotient :=
  let part := Quotient.toBinary ⟨part, 1⟩
  let total := Quotient.toBinary ⟨total, 1⟩
  let hundredfold := Quotient.toBinary ⟨part.num * 100, part.den⟩
  Quotient.toBinary ⟨hundredfold.num * total.den, hundredfold.den * total.num⟩

/-- A share with one decimal place and a percent sign. A share of nothing is zero. -/
def percent (part total : Nat) : String :=
  if total = 0 then "0.0%"
  else
    let share := shareOf part total
    let tenths := roundQuotient (share.num * 10) share.den
    toString (tenths / 10) ++ "." ++ toString (tenths % 10) ++ "%"

end TextQuery.Report
