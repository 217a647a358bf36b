import TextQuery.Unicode.CanonicalPair
import TextQuery.Unicode.CombiningClass
import TextQuery.Unicode.Hangul
import TextQuery.Unicode.OneWayDecomposition

/-!
# Normalization form C

Two spellings of one text may differ in whether a mark is part of a letter or follows it, and in the
order of marks that do not touch. The composed form of a text is the same for all its spellings: every
character is decomposed, the marks after a base are sorted by their class, and what can be composed
is composed again.
-/
set_option autoImplicit false

namespace TextQuery.Unicode

/-! ## Decomposition -/

/-- Undoes up to `depth` canonical pairs on the left edge. No composite is nested deeper than three. -/
def expandPairs : Nat → Nat → List Nat
  | 0, code => [code]
  | depth + 1, code =>
    match canonicalPairs.find? fun pair => pair.2.2 == code with
    | some (first, second, _) => expandPairs depth first ++ [second]
    | none => [code]

/-- What a character without a canonical pair stands for. -/
def oneWayDecomposition? (code : Nat) : Option (List Nat) :=
  match oneWayDecompositions.find? fun entry => entry.1 == code with
  | some (_, parts) => some parts
  | none =>
    match ideographDuplicates.find? fun (first, run) => first ≤ code && code < first + run.length with
    | some (first, run) => (run[code - first]?).map ([·])
    | none => none

/-- The full canonical decomposition of a character. Nothing below U+00C0 decomposes. -/
def decomposition (c : Char) : List Char :=
  if c.toNat < 0xC0 then [c]
  else
    let parts := (Hangul.decompose? c.toNat <|> oneWayDecomposition? c.toNat).getD
      (expandPairs 3 c.toNat)
    parts.map Char.ofNat

/-! ## Order of marks -/

/-- Moves a mark behind the marks of lower class at the head of the list. -/
def insertMark (c : Char) : List Char → List Char
  | [] => [c]
  | d :: rest =>
    if 0 < combiningClass d ∧ combiningClass d < combiningClass c then d :: insertMark c rest
    else c :: d :: rest

/-- Sorts every run of marks by class, keeping the order of marks of one class. -/
def sortMarks : List Char → List Char
  | [] => []
  | c :: rest => insertMark c (sortMarks rest)

/-! ## Composition -/

/-- The character that two adjacent characters compose to. Nothing below U+0300 is the second of a
pair. -/
def composePair? (first second : Char) : Option Char :=
  if second.toNat < 0x300 then none
  else
    match Hangul.compose? first.toNat second.toNat with
    | some code => some (Char.ofNat code)
    | none =>
      (canonicalPairs.find? fun pair => pair.1 == first.toNat && pair.2.1 == second.toNat).map
        fun pair => Char.ofNat pair.2.2

/-- A mark is cut off from its base by a mark between them of the same or a higher class. `marks` are
those between, the nearest first. -/
def isBlocked (marks : List Char) (c : Char) : Bool :=
  match marks with
  | [] => false
  | mark :: _ => combiningClass c ≤ combiningClass mark

/-- Composes what follows `base`, of which `marks` could not be composed and stay behind it, the
nearest first. -/
def composeAfter (base : Char) (marks : List Char) : List Char → List Char
  | [] => base :: marks.reverse
  | c :: rest =>
    match if isBlocked marks c then none else composePair? base c with
    | some composite => composeAfter composite marks rest
    | none =>
      if combiningClass c = 0 then base :: (marks.reverse ++ composeAfter c [] rest)
      else composeAfter base (c :: marks) rest

/-- Composes a decomposed and sorted text. Marks before the first base stay as they are. -/
def compose : List Char → List Char
  | [] => []
  | c :: rest => if combiningClass c = 0 then composeAfter c [] rest else c :: compose rest

/-- The composed normal form of a text. -/
def nfc (text : List Char) : List Char :=
  compose (sortMarks (text.flatMap decomposition))

end TextQuery.Unicode
