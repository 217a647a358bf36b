import TextQuery.Unicode.LowercaseRun
import TextQuery.Unicode.Property

/-!
# Lower case

Lower-casing is a map of single characters with two exceptions: the dotted capital I becomes two
characters, and a capital sigma at the end of a word becomes the final form of the letter.
-/
set_option autoImplicit false

namespace TextQuery.Unicode

/-- The lower-case form of one character, without regard to its neighbours. -/
def lowerChar (c : Char) : List Char :=
  if c.toNat < 0x80 then [c.toLower]
  else if c = 'İ' then ['i', '\u0307']
  else
    let run? := lowercaseRuns.find? fun run =>
      run.first ≤ c.toNat && c.toNat ≤ run.last && (c.toNat - run.first) % run.step == 0
    match run? with
    | some run => [Char.ofNat (run.lower + (c.toNat - run.first))]
    | none => [c]

/-- The first character that matters for the case of its neighbours has case itself. -/
def startsCased (text : List Char) : Bool :=
  match text.dropWhile isCaseIgnorable with
  | [] => false
  | c :: _ => isCased c

/-- A sigma is final if a cased letter precedes it in its word and none follows. `before` is the text
before it, the nearest character first. -/
def isFinalSigma (before after : List Char) : Bool :=
  startsCased before && !startsCased after

/-- Lower-cases a text of which `before` has been read, the nearest character first. -/
def lowerAfter (before : List Char) : List Char → List Char
  | [] => []
  | c :: rest =>
    (if c = 'Σ' then [if isFinalSigma before rest then 'ς' else 'σ'] else lowerChar c) ++
      lowerAfter (c :: before) rest

def lower (text : List Char) : List Char :=
  lowerAfter [] text

end TextQuery.Unicode
