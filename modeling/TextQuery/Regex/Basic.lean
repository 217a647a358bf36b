import TextQuery.Regex.CharSet

/-!
# Regular expressions

The expressions that a term is compiled to, and the conditions on a position that they may hold.
-/
set_option autoImplicit false

namespace TextQuery.Regex

/-- Conditions on a position between two characters, or at an end of the text. -/
inductive Anchor
  | textStart
  | textEnd
  | wordBoundary
  | notWordBoundary
  | wordStart
  | wordEnd
  | wordStartHalf
  | wordEndHalf

/-- The condition holds between the two characters; `none` stands for an end of the text. -/
def Anchor.holds (anchor : Anchor) (before after : Option Char) : Bool :=
  let wordBefore := before.any Unicode.isWord
  let wordAfter := after.any Unicode.isWord
  match anchor with
  | textStart => before.isNone
  | textEnd => after.isNone
  | wordBoundary => wordBefore != wordAfter
  | notWordBoundary => wordBefore == wordAfter
  | wordStart => !wordBefore && wordAfter
  | wordEnd => wordBefore && !wordAfter
  | wordStartHalf => !wordBefore
  | wordEndHalf => !wordAfter

end TextQuery.Regex

namespace TextQuery

inductive Regex
  | empty
  | set (chars : Regex.CharSet)
  | anchor (condition : Regex.Anchor)
  | seq (first second : Regex)
  /-- The first alternative is preferred. -/
  | alt (first second : Regex)
  /-- From `min` to `max` times, or any number from `min` on; more is preferred. -/
  | repeat (inner : Regex) (min : Nat) (max : Option Nat)

namespace Regex

def char (c : Char) : Regex := .set (.single c)

/-- An estimate of the memory that the expression takes when its repetitions are written out: as much
for a condition as for each block of a set. -/
def weight : Regex → Nat
  | empty | anchor _ => 32
  | set chars => 32 * Nat.max 1 chars.blockCount
  | seq first second | alt first second => first.weight + second.weight
  | .repeat inner min max => inner.weight * Nat.max 1 (max.getD min)

/-- Counted repetitions are refused above this weight. -/
def maxWeight : Nat := 10485760

end Regex

end TextQuery
