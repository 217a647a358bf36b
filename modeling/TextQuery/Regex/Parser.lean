import TextQuery.Regex.Basic

/-!
# Reading regular expressions

The notation: literal characters, `.`, bracket classes with nesting and set operations, escapes,
groups, alternatives, and the repetitions `?`, `*`, `+` and `{n,m}`. Groups only group, and
repetitions always prefer more. `Regex.parse?` is total and refuses everything that is not in the
notation.

Each reader takes the text from where it stands and returns a value with the rest of the text, which
is never longer; the two loops end because each round takes at least one character.
-/
set_option autoImplicit false

namespace TextQuery.Regex

/-- A value read from the front of a text, and what follows it. The bound is the length of the text. -/
structure Read (α : Type) (bound : Nat) where
  value : α
  rest : List Char
  le : rest.length ≤ bound

namespace Read

variable {α β : Type} {bound : Nat}

def map (f : α → β) (read : Read α bound) : Read β bound :=
  ⟨f read.value, read.rest, read.le⟩

/-- The same reading of a longer text. -/
def widen {longer : Nat} (le : bound ≤ longer) (read : Read α bound) : Read α longer :=
  ⟨read.value, read.rest, Nat.le_trans read.le le⟩

/-- The same reading, seen from one character ahead. -/
def later (read : Read α bound) : Read α (bound + 1) :=
  read.widen (Nat.le_succ bound)

end Read

/-- The text up to a closing character, and what follows that character. -/
def readUntil? (close : Char) : (text : List Char) → Option (Read (List Char) text.length)
  | [] => none
  | c :: rest =>
    if c = close then some ⟨[], rest, Nat.le_succ _⟩
    else (readUntil? close rest).map fun read => (read.map (c :: ·)).later

/-- The longest front of the text whose characters pass the test. -/
def readWhile (test : Char → Bool) : (text : List Char) → Read (List Char) text.length
  | [] => ⟨[], [], Nat.le_refl _⟩
  | c :: rest =>
    if test c then ((readWhile test rest).map (c :: ·)).later
    else ⟨[], c :: rest, Nat.le_refl _⟩

/-! ## Escapes -/

/-- What a backslash and the characters after it stand for. -/
inductive Escape
  | char (c : Char)
  | set (chars : CharSet)
  | anchor (condition : Anchor)

def hexValue (c : Char) : Option Nat :=
  if '0' ≤ c ∧ c ≤ '9' then some (c.toNat - 0x30)
  else if 'A' ≤ c ∧ c ≤ 'F' then some (c.toNat - 0x37)
  else if 'a' ≤ c ∧ c ≤ 'f' then some (c.toNat - 0x57)
  else none

/-- The character with the given hexadecimal code; no digits, other characters and codes that are no
character are refused. -/
def hexChar? (digits : List Char) : Option Char :=
  let step (value? : Option Nat) (c : Char) : Option Nat :=
    match value?, hexValue c with
    | some value, some digit => some (value * 16 + digit)
    | _, _ => none
  match digits.foldl step (some 0) with
  | some code => if digits ≠ [] ∧ code.isValidChar then some (Char.ofNat code) else none
  | none => none

/-- The code of a character: exactly `count` digits, or any number between braces. -/
def readHex? (count : Nat) : (text : List Char) → Option (Read Escape text.length)
  | '\x7b' :: rest =>
    match readUntil? '\x7d' rest with
    | some read => (hexChar? read.value).map fun c => (read.map fun _ => .char c).later
    | none => none
  | text =>
    if count ≤ text.length then
      (hexChar? (text.take count)).map fun c =>
        ⟨.char c, text.drop count, by simp [List.length_drop]⟩
    else none

/-- The first place where `mark` stands in the text, which it splits. -/
def splitAtMark? (mark : List Char) : List Char → Option (List Char × List Char)
  | [] => none
  | c :: rest =>
    if mark.isPrefixOf (c :: rest) then some ([], (c :: rest).drop mark.length)
    else (splitAtMark? mark rest).map fun parts => (c :: parts.1, parts.2)

/-- A set given by a name, or by the name of a property and a value for it. -/
def propertySet? (name : List Char) : Option CharSet :=
  match splitAtMark? ['!', '='] name with
  | some (property, value) => (CharSet.valued? property value).map .negated
  | none =>
    match splitAtMark? [':'] name <|> splitAtMark? ['='] name with
    | some (property, value) => CharSet.valued? property value
    | none => CharSet.named? name

/-- The name of a set: one letter, or any text between braces. -/
def readProperty? (negate : Bool) (text : List Char) : Option (Read Escape text.length) :=
  let make (chars : CharSet) : Escape := .set (if negate then .negated chars else chars)
  match text with
  | [] | '\\' :: _ => none
  | '\x7b' :: rest =>
    match readUntil? '\x7d' rest with
    | some read => (propertySet? read.value).map fun set =>
      (read.map fun _ => make set).later
    | none => none
  | c :: rest => (CharSet.named? [c]).map fun set => ⟨make set, rest, Nat.le_succ _⟩

def isBoundaryName (c : Char) : Bool := c.isAlpha || c = '-'

def boundary? (name : List Char) : Option Anchor :=
  match String.ofList name with
  | "start" => some .wordStart
  | "end" => some .wordEnd
  | "start-half" => some .wordStartHalf
  | "end-half" => some .wordEndHalf
  | _ => none

/-- The kinds of word boundary that are given by name in braces. A brace that no name follows
belongs to a repetition. -/
def readBoundary? : (text : List Char) → Option (Read Escape text.length)
  | '\x7b' :: rest =>
    match rest.head? with
    | none => none
    | some c =>
      if isBoundaryName c then
        let name := readWhile isBoundaryName rest
        match name.rest, name.le with
        | '\x7d' :: after, le =>
          (boundary? name.value).map fun condition =>
            ⟨.anchor condition, after, Nat.le_trans (Nat.le_of_succ_le le) (Nat.le_succ _)⟩
        | _, _ => none
      else some ⟨.anchor .wordBoundary, '\x7b' :: rest, Nat.le_refl _⟩
  | text => some ⟨.anchor .wordBoundary, text, Nat.le_refl _⟩

/-- The text after a backslash. Every ASCII character stands for itself unless it is a letter, a digit
or an angle bracket. -/
def readEscape? : (text : List Char) → Option (Read Escape text.length)
  | [] => none
  | c :: rest =>
    let result (escape : Escape) : Option (Read Escape (rest.length + 1)) :=
      some ⟨escape, rest, Nat.le_succ _⟩
    match c with
    | 'x' => (readHex? 2 rest).map (·.later)
    | 'u' => (readHex? 4 rest).map (·.later)
    | 'U' => (readHex? 8 rest).map (·.later)
    | 'p' => (readProperty? false rest).map (·.later)
    | 'P' => (readProperty? true rest).map (·.later)
    | 'd' => result (.set (.ranges Unicode.Category.decimalNumber))
    | 'D' => result (.set (.negated (.ranges Unicode.Category.decimalNumber)))
    | 's' => result (.set (.ranges Unicode.Property.whiteSpace))
    | 'S' => result (.set (.negated (.ranges Unicode.Property.whiteSpace)))
    | 'w' => result (.set (.ranges Unicode.Property.word))
    | 'W' => result (.set (.negated (.ranges Unicode.Property.word)))
    | 'a' => result (.char '\x07')
    | 'f' => result (.char '\x0c')
    | 'n' => result (.char '\n')
    | 'r' => result (.char '\r')
    | 't' => result (.char '\t')
    | 'v' => result (.char '\x0b')
    | 'A' => result (.anchor .textStart)
    | 'z' => result (.anchor .textEnd)
    | 'b' => (readBoundary? rest).map (·.later)
    | 'B' => result (.anchor .notWordBoundary)
    | '<' => result (.anchor .wordStart)
    | '>' => result (.anchor .wordEnd)
    | _ => if c.toNat < 0x80 ∧ ¬c.isAlphanum then result (.char c) else none

/-! ## Bracket classes -/

/-- An open bracket class: whether its set is negated, the operand and operation that wait for their
right side, and the items read since. -/
structure ClassFrame where
  negated : Bool
  left : Option (SetOperation × CharSet)
  items : CharSet

namespace ClassFrame

def add (frame : ClassFrame) (set : CharSet) : ClassFrame :=
  { frame with items := .union frame.items set }

/-- All that was read, with the waiting operation carried out. -/
def joined (frame : ClassFrame) : CharSet :=
  match frame.left with
  | some (operation, left) => .joined operation left frame.items
  | none => frame.items

/-- Operations group to the left, and all bind alike. -/
def operate (frame : ClassFrame) (operation : SetOperation) : ClassFrame :=
  { frame with left := some (operation, frame.joined), items := .empty }

def close (frame : ClassFrame) : CharSet :=
  if frame.negated then .negated frame.joined else frame.joined

end ClassFrame

/-- The hyphens at the start of a class, which stand for themselves. -/
def readHyphens (frame : ClassFrame) : (text : List Char) → Read ClassFrame text.length
  | '-' :: rest => (readHyphens (frame.add (.single '-')) rest).later
  | text => ⟨frame, text, Nat.le_refl _⟩

/-- The start of a class after its bracket. A closing bracket that comes first stands for itself. -/
def openClass : (text : List Char) → Read ClassFrame text.length
  | '^' :: rest => (start ⟨true, none, .empty⟩ rest).later
  | text => start ⟨false, none, .empty⟩ text
where
  start (frame : ClassFrame) : (text : List Char) → Read ClassFrame text.length
    | ']' :: rest => ⟨frame.add (.single ']'), rest, Nat.le_succ _⟩
    | text => readHyphens frame text

/-- An ASCII class such as `:alpha:]` after its opening bracket. -/
def readAsciiClass? : (text : List Char) → Option (Read CharSet text.length)
  | ':' :: '^' :: rest => (name rest).map fun read => ((read.map .negated).later).later
  | ':' :: rest => (name rest).map (·.later)
  | _ => none
where
  name (text : List Char) : Option (Read CharSet text.length) :=
    let name := readWhile (· ≠ ':') text
    match name.rest, name.le with
    | ':' :: ']' :: rest, le =>
      (CharSet.asciiClass? (String.ofList name.value)).map fun set =>
        ⟨set, rest, by simp at le; omega⟩
    | _, _ => none

/-- One character or escape of a class. -/
def readClassItem? : (text : List Char) → Option (Read Escape text.length)
  | [] => none
  | '\\' :: rest => (readEscape? rest).map (·.later)
  | c :: rest => some ⟨.char c, rest, Nat.le_succ _⟩

theorem length_rest_readClassItem_lt {text : List Char} {read : Read Escape text.length}
    (success : readClassItem? text = some read) : read.rest.length < text.length := by
  unfold readClassItem? at success
  split at success
  · simp at success
  · rename_i rest
    obtain ⟨inner, _, rfl⟩ := Option.map_eq_some_iff.1 success
    exact Nat.lt_succ_of_le inner.le
  · simp only [Option.some.injEq] at success
    subst success
    exact Nat.lt_succ_self _

/-- The part of a class that an item stands for on its own. Conditions on positions have no place in
a class. -/
def Escape.toSet? : Escape → Option CharSet
  | .char c => some (.single c)
  | .set chars => some chars
  | .anchor _ => none

/-- The interval between two items, which must be characters in ascending order. -/
def intervalSet? : Escape → Escape → Option CharSet
  | .char first, .char last => if first ≤ last then some (.interval first last) else none
  | _, _ => none

/-- An item of a class, or two with a hyphen between them. -/
def readClassRange? (text : List Char) : Option { read : Read CharSet text.length //
    read.rest.length < text.length } :=
  match found : readClassItem? text with
  | none => none
  | some first =>
    have lt := length_rest_readClassItem_lt found
    let alone : Option { read : Read CharSet text.length // read.rest.length < text.length } :=
      first.value.toSet?.map fun set => ⟨first.map fun _ => set, lt⟩
    match split : first.rest with
    | [] => none
    | '-' :: ']' :: _ => alone
    | '-' :: '-' :: _ => alone
    | '-' :: rest =>
      match readClassItem? rest with
      | none => none
      | some last =>
        have le : last.rest.length + 1 ≤ text.length := by
          have := last.le
          rw [split] at lt
          simp only [List.length_cons] at lt
          omega
        (intervalSet? first.value last.value).map fun set =>
          ⟨⟨set, last.rest, by omega⟩, by simp only; omega⟩
    | _ => alone

/-- Reads a class to its end. `outer` are the classes around the one in `frame`. -/
def readClass? (outer : List ClassFrame) (frame : ClassFrame) (text : List Char) :
    Option (Read CharSet text.length) :=
  match text with
  | [] => none
  | ']' :: rest =>
    match outer with
    | [] => some ⟨frame.close, rest, Nat.le_succ _⟩
    | around :: outer => (readClass? outer (around.add frame.close) rest).map (·.later)
  | '[' :: rest =>
    match readAsciiClass? rest with
    | some read =>
      have := read.le
      (readClass? outer (frame.add read.value) read.rest).map fun more =>
        (more.widen this).later
    | none =>
      have := (openClass rest).le
      (readClass? (frame :: outer) (openClass rest).value (openClass rest).rest).map fun more =>
        (more.widen this).later
  | '&' :: '&' :: rest =>
    (readClass? outer (frame.operate .intersection) rest).map fun more =>
      (more.later).later
  | '-' :: '-' :: rest =>
    (readClass? outer (frame.operate .difference) rest).map fun more =>
      (more.later).later
  | '~' :: '~' :: rest =>
    (readClass? outer (frame.operate .symmetricDifference) rest).map fun more =>
      (more.later).later
  | text =>
    match readClassRange? text with
    | none => none
    | some ⟨read, lt⟩ =>
      (readClass? outer (frame.add read.value) read.rest).map fun more =>
        more.widen (Nat.le_of_lt lt)
termination_by text.length
decreasing_by
  all_goals simp_wf
  all_goals omega

/-- A bracket class after its opening bracket. -/
def readBracket? (text : List Char) : Option (Read CharSet text.length) :=
  let start := openClass text
  (readClass? [] start.value start.rest).map (·.widen start.le)

/-! ## Repetition counts -/

/-- A decimal number with white space around it; it must fit 32 bits. -/
def readCount? (text : List Char) : Option (Read Nat text.length) :=
  let blank := readWhile Unicode.isWhiteSpace text
  let digits := readWhile Char.isDigit blank.rest
  let after := readWhile Unicode.isWhiteSpace digits.rest
  let value := digits.value.foldl (fun value c => value * 10 + (c.toNat - 0x30)) 0
  if digits.value ≠ [] ∧ value ≤ 0xFFFFFFFF then
    some ⟨value, after.rest, Nat.le_trans after.le (Nat.le_trans digits.le blank.le)⟩
  else none

/-- The bounds of a repetition after its opening brace: `n}`, `n,}` or `n,m}`. -/
def readBounds? (text : List Char) : Option (Read (Nat × Option Nat) text.length) :=
  match readCount? text with
  | none => none
  | some min =>
    match min.rest, min.le with
    | '\x7d' :: rest, le => some ⟨(min.value, some min.value), rest, by simp at le; omega⟩
    | ',' :: '\x7d' :: rest, le => some ⟨(min.value, none), rest, by simp at le; omega⟩
    | ',' :: rest, le =>
      match readCount? rest with
      | none => none
      | some max =>
        match max.rest, max.le with
        | '\x7d' :: after, le' =>
          if min.value ≤ max.value then
            some ⟨(min.value, some max.value), after, by simp at le le'; omega⟩
          else none
        | _, _ => none
    | _, _ => none

/-! ## Groups and alternatives -/

/-- One level of grouping: the alternatives that are complete and the items of the one being read,
the latest first. -/
structure Level where
  alternatives : List Regex
  items : List Regex

namespace Level

def start : Level := ⟨[], []⟩

def push (level : Level) (item : Regex) : Level :=
  { level with items := item :: level.items }

/-- The items read so far in sequence. -/
def sequence (level : Level) : Regex :=
  match level.items with
  | [] => .empty
  | last :: before => before.foldl (fun rest item => .seq item rest) last

/-- Begins another alternative. -/
def split (level : Level) : Level := ⟨level.sequence :: level.alternatives, []⟩

def close (level : Level) : Regex :=
  level.alternatives.foldl (fun rest item => .alt item rest) level.sequence

/-- Repeats the latest item; there must be one, and counted repetition must not grow too large. -/
def repeatLast? (level : Level) (min : Nat) (max : Option Nat) : Option Level :=
  match level.items with
  | [] => none
  | last :: before =>
    let item := Regex.repeat last min max
    if item.weight ≤ maxWeight ∨ max.getD min ≤ 1 then some { level with items := item :: before }
    else none

end Level

/-- The expression that an escape stands for outside a class. -/
def Escape.toRegex : Escape → Regex
  | .char c => Regex.char c
  | .set chars => .set chars
  | .anchor condition => .anchor condition

/-- Reads an expression to the end of the text. `outer` are the levels around the one in `level`. -/
def parseLevel? (outer : List Level) (level : Level) (text : List Char) : Option Regex :=
  match text with
  | [] => if outer.isEmpty then some level.close else none
  | '(' :: rest => parseLevel? (level :: outer) .start rest
  | ')' :: rest =>
    match outer with
    | [] => none
    | around :: outer => parseLevel? outer (around.push level.close) rest
  | '|' :: rest => parseLevel? outer level.split rest
  | '[' :: rest =>
    match readBracket? rest with
    | none => none
    | some read =>
      have := read.le
      parseLevel? outer (level.push (.set read.value)) read.rest
  | '?' :: rest =>
    match level.repeatLast? 0 (some 1) with
    | none => none
    | some level => parseLevel? outer level rest
  | '*' :: rest =>
    match level.repeatLast? 0 none with
    | none => none
    | some level => parseLevel? outer level rest
  | '+' :: rest =>
    match level.repeatLast? 1 none with
    | none => none
    | some level => parseLevel? outer level rest
  | '\x7b' :: rest =>
    match readBounds? rest with
    | none => none
    | some read =>
      match level.repeatLast? read.value.1 read.value.2 with
      | none => none
      | some level =>
        have := read.le
        parseLevel? outer level read.rest
  | '\\' :: rest =>
    match readEscape? rest with
    | none => none
    | some read =>
      have := read.le
      parseLevel? outer (level.push read.value.toRegex) read.rest
  | '.' :: rest => parseLevel? outer (level.push (.set .notLineFeed)) rest
  | '^' :: rest => parseLevel? outer (level.push (.anchor .textStart)) rest
  | '$' :: rest => parseLevel? outer (level.push (.anchor .textEnd)) rest
  | c :: rest => parseLevel? outer (level.push (Regex.char c)) rest
termination_by text.length
decreasing_by
  all_goals simp_wf
  all_goals omega

/-- The expression that a text stands for, if it is one. -/
def parse? (text : List Char) : Option Regex :=
  parseLevel? [] .start text

end TextQuery.Regex
