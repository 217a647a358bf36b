import TextQuery.Regex.Parser

/-!
# Reading plain expressions

What the reader does with a character that stands for itself, with a bracket class of such characters,
and with the few other items that expressions of terms are made of.
-/
set_option autoImplicit false

namespace TextQuery.Regex

/-! ## Bracket classes of plain characters -/

/-- The character means nothing in a class but itself. -/
def IsClassChar (c : Char) : Prop := c ∉ ['\\', '[', ']', '&', '-', '~']

instance (c : Char) : Decidable (IsClassChar c) := inferInstanceAs (Decidable (c ∉ _))

theorem readClassRange?_char {c d : Char} (noEscape : c ≠ '\\') (noHyphen : d ≠ '-')
    (rest : List Char) : readClassRange? (c :: d :: rest) =
      some ⟨⟨.single c, d :: rest, Nat.le_succ _⟩, Nat.lt_succ_self _⟩ := by
  have item : readClassItem? (c :: d :: rest) = some ⟨.char c, d :: rest, Nat.le_succ _⟩ := by
    simp [readClassItem?]
  unfold readClassRange?
  split
  · rename_i none
    rw [item] at none
    contradiction
  · rename_i first found
    obtain rfl := Option.some.inj (item.symm.trans found)
    dsimp only
    split
    · contradiction
    · rename_i same
      exact absurd (List.cons.inj same).1 noHyphen
    · rename_i same
      exact absurd (List.cons.inj same).1 noHyphen
    · rename_i same
      exact absurd (List.cons.inj same).1 noHyphen
    · rfl

theorem readClass?_char {c : Char} (plain : IsClassChar c) {rest : List Char} (more : rest ≠ [])
    (noHyphen : rest.head? ≠ some '-') (outer : List ClassFrame) (frame : ClassFrame) :
    readClass? outer frame (c :: rest) =
      (readClass? outer (frame.add (.single c)) rest).map fun read =>
        read.widen (Nat.le_succ _) := by
  obtain ⟨d, rest, rfl⟩ := List.exists_cons_of_ne_nil more
  have hyphen : d ≠ '-' := by simpa using noHyphen
  simp only [IsClassChar, List.mem_cons, List.not_mem_nil, or_false, not_or] at plain
  have range := readClassRange?_char plain.1 hyphen rest
  rw [readClass?.eq_def]
  split <;> simp_all

/-- A frame with more characters. -/
def ClassFrame.addAll (frame : ClassFrame) (chars : List Char) : ClassFrame :=
  chars.foldl (fun frame c => frame.add (.single c)) frame

/-- A reader that succeeds with a value, and the text that it leaves. -/
def Reads {α : Type} {bound : Nat} (read? : Option (Read α bound)) (value : α) (rest : List Char) :
    Prop :=
  ∃ read, read? = some read ∧ read.value = value ∧ read.rest = rest

theorem reads_readClass? {chars : List Char} (plain : ∀ c ∈ chars, IsClassChar c) (frame : ClassFrame)
    (rest : List Char) :
    Reads (readClass? [] frame (chars ++ ']' :: rest)) (frame.addAll chars).close rest := by
  induction chars generalizing frame with
  | nil =>
    rw [List.nil_append, readClass?.eq_def]
    exact ⟨_, rfl, rfl, rfl⟩
  | cons c chars ih =>
    obtain ⟨first, others⟩ := List.forall_mem_cons.mp plain
    have noHyphen : (chars ++ ']' :: rest).head? ≠ some '-' := by
      cases chars with
      | nil => simp
      | cons d chars =>
        intro hyphen
        obtain rfl : d = '-' := by simpa using hyphen
        exact others '-' List.mem_cons_self (by decide)
    obtain ⟨read, found, value, left⟩ := ih others (frame.add (.single c))
    have step := readClass?_char first (by simp) noHyphen [] frame
    rw [found] at step
    exact ⟨_, step, value, left⟩

theorem start_openClass {c : Char} (plain : IsClassChar c) (frame : ClassFrame) (rest : List Char) :
    openClass.start frame (c :: rest) = ⟨frame, c :: rest, Nat.le_refl _⟩ := by
  simp only [IsClassChar, List.mem_cons, List.not_mem_nil, or_false, not_or] at plain
  simp [openClass.start, readHyphens, plain]

theorem reads_bracket {text inner rest : List Char} {frame : ClassFrame} {chars : CharSet}
    (value : (openClass text).value = frame) (left : (openClass text).rest = inner)
    (reads : Reads (readClass? [] frame inner) chars rest) :
    Reads (readBracket? text) chars rest := by
  subst value left
  obtain ⟨read, found, rfl, rfl⟩ := reads
  rw [readBracket?, found]
  exact ⟨_, rfl, rfl, rfl⟩

/-- A class of plain characters. -/
theorem reads_readBracket? {c : Char} {chars : List Char} (plain : ∀ d ∈ c :: chars, IsClassChar d)
    (noCaret : c ≠ '^') (rest : List Char) :
    Reads (readBracket? (c :: chars ++ ']' :: rest))
      (ClassFrame.addAll ⟨false, none, .empty⟩ (c :: chars)).close rest := by
  have opened : openClass (c :: chars ++ ']' :: rest) =
      openClass.start ⟨false, none, .empty⟩ (c :: chars ++ ']' :: rest) :=
    openClass.eq_2 _ (by simp [noCaret])
  have started := start_openClass (plain c List.mem_cons_self) ⟨false, none, .empty⟩
    (chars ++ ']' :: rest)
  rw [← List.cons_append] at started
  refine reads_bracket ?_ ?_ (reads_readClass? plain _ rest)
  · rw [opened, started]
  · rw [opened, started]

theorem reads_readBracket?_negated {c : Char} {chars : List Char}
    (plain : ∀ d ∈ c :: chars, IsClassChar d) (rest : List Char) :
    Reads (readBracket? ('^' :: c :: chars ++ ']' :: rest))
      (ClassFrame.addAll ⟨true, none, .empty⟩ (c :: chars)).close rest := by
  have started := start_openClass (plain c List.mem_cons_self) ⟨true, none, .empty⟩
    (chars ++ ']' :: rest)
  rw [← List.cons_append] at started
  refine reads_bracket ?_ ?_ (reads_readClass? plain _ rest)
  · change (openClass.start ⟨true, none, .empty⟩ (c :: chars ++ ']' :: rest)).value = _
    rw [started]
  · change (openClass.start ⟨true, none, .empty⟩ (c :: chars ++ ']' :: rest)).rest = _
    rw [started]

/-! ## Items of an expression -/

theorem parseLevel?_bracket {outer : List Level} {level : Level} {text rest : List Char}
    {chars : CharSet} (reads : Reads (readBracket? text) chars rest) :
    parseLevel? outer level ('[' :: text) = parseLevel? outer (level.push (.set chars)) rest := by
  obtain ⟨read, found, rfl, rfl⟩ := reads
  rw [parseLevel?.eq_def]
  simp only [found]

theorem parseLevel?_escape {outer : List Level} {level : Level} {text rest : List Char} {escape : Escape}
    (reads : Reads (readEscape? text) escape rest) :
    parseLevel? outer level ('\\' :: text) = parseLevel? outer (level.push escape.toRegex) rest := by
  obtain ⟨read, found, rfl, rfl⟩ := reads
  rw [parseLevel?.eq_def]
  simp only [found]

theorem parseLevel?_bounds {outer : List Level} {level next : Level} {text rest : List Char}
    {bounds : Nat × Option Nat} (reads : Reads (readBounds? text) bounds rest)
    (repeats : level.repeatLast? bounds.1 bounds.2 = some next) :
    parseLevel? outer level ('\x7b' :: text) = parseLevel? outer next rest := by
  obtain ⟨read, found, rfl, rfl⟩ := reads
  rw [parseLevel?.eq_def]
  simp only [found, repeats]

theorem parseLevel?_any {outer : List Level} {level : Level} (rest : List Char) :
    parseLevel? outer level ('.' :: rest) = parseLevel? outer (level.push (.set .notLineFeed)) rest := by
  rw [parseLevel?.eq_def]
  rfl

/-- A star after a set. -/
theorem parseLevel?_star {outer : List Level} {level : Level} (chars : CharSet) (rest : List Char) :
    parseLevel? outer (level.push (.set chars)) ('*' :: rest) =
      parseLevel? outer (level.push (.repeat (.set chars) 0 none)) rest := by
  rw [parseLevel?.eq_def]
  simp [Level.repeatLast?, Level.push]

/-- The character means nothing outside classes but itself. -/
def IsPlainChar (c : Char) : Prop :=
  c ∉ ['\\', '[', '(', ')', '|', '?', '*', '+', '\x7b', '.', '^', '$']

instance (c : Char) : Decidable (IsPlainChar c) := inferInstanceAs (Decidable (c ∉ _))

theorem parseLevel?_char {outer : List Level} {level : Level} {c : Char} (plain : IsPlainChar c)
    (rest : List Char) :
    parseLevel? outer level (c :: rest) = parseLevel? outer (level.push (Regex.char c)) rest := by
  simp only [IsPlainChar, List.mem_cons, List.not_mem_nil, or_false, not_or] at plain
  rw [parseLevel?.eq_def]
  split <;> simp_all

theorem parseLevel?_paren {outer : List Level} {level : Level} {c : Char} (paren : c = '(' ∨ c = ')')
    (rest : List Char) : parseLevel? outer level ('\\' :: c :: rest) =
      parseLevel? outer (level.push (Regex.char c)) rest := by
  rw [parseLevel?.eq_def]
  rcases paren with rfl | rfl <;> rfl

end TextQuery.Regex
