import Mathlib.Data.List.TakeWhile
import TextQuery.Proofs.Regex.Parser

/-!
# More text behind

What a reader takes from a text it takes from every text that goes on behind it: the readers of
escapes, bracket classes and counts look at no character beyond what they take. The exceptions are a
word boundary at the end of the text, which a brace behind it would name, and readings that stop only
because the text does.
-/
set_option autoImplicit false

namespace TextQuery.Regex

section Longer

variable {α β : Type} {bound longBound bound' longBound' : Nat} {more : List Char}

/-- The same value, with more text left behind it. -/
def Read.Longer (more : List Char) (short : Read α bound) (long : Read α longBound) : Prop :=
  long.value = short.value ∧ long.rest = short.rest ++ more

/-- If the first reader succeeds then so does the second, with the same value and more text left. -/
def Longer (more : List Char) (short? : Option (Read α bound)) (long? : Option (Read α longBound)) :
    Prop :=
  ∀ short, short? = some short → ∃ long, long? = some long ∧ short.Longer more long

theorem longer_none {long? : Option (Read α longBound)} :
    Longer more (none : Option (Read α bound)) long? := by
  intro short found
  contradiction

theorem longer_some {short : Read α bound} {long : Read α longBound} (longer : short.Longer more long) :
    Longer more (some short) (some long) := by
  intro read found
  obtain rfl := Option.some.inj found
  exact ⟨long, rfl, longer⟩

theorem Longer.map {short? : Option (Read α bound)} {long? : Option (Read α longBound)}
    (inner : Longer more short? long?) {g : Read α bound → Read β bound'}
    {h : Read α longBound → Read β longBound'}
    (keeps : ∀ short long, short.Longer more long → (g short).Longer more (h long)) :
    Longer more (short?.map g) (long?.map h) := by
  intro read found
  obtain ⟨short, success, rfl⟩ := Option.map_eq_some_iff.mp found
  obtain ⟨long, same, extended⟩ := inner short success
  exact ⟨h long, by rw [same, Option.map_some], keeps short long extended⟩

/-- Reading goes on alike behind the same value. -/
theorem longer_next {short : Read α bound} {long : Read α longBound} (same : short.Longer more long)
    (next? : α → (text : List Char) → Option (Read β text.length))
    (longer : Longer more (next? short.value short.rest) (next? short.value (short.rest ++ more))) :
    Longer more (next? short.value short.rest) (next? long.value long.rest) := by
  rw [same.1, same.2]
  exact longer

theorem longer_iff {short? : Option (Read α bound)} {long? : Option (Read α longBound)} :
    Longer more short? long? ↔
      ∀ value rest, Reads short? value rest → Reads long? value (rest ++ more) := by
  constructor
  · rintro longer _ _ ⟨short, found, rfl, rfl⟩
    exact longer short found
  · intro longer short found
    exact longer _ _ ⟨short, found, rfl, rfl⟩

theorem reads_some_iff {read : Read α bound} {value : α} {rest : List Char} :
    Reads (some read) value rest ↔ value = read.value ∧ rest = read.rest := by
  constructor
  · rintro ⟨other, found, rfl, rfl⟩
    obtain rfl := Option.some.inj found
    exact ⟨rfl, rfl⟩
  · rintro ⟨rfl, rfl⟩
    exact ⟨read, rfl, rfl, rfl⟩

theorem exists_reads_iff {read? : Option (Read α bound)} {read : Read α bound}
    (found : read? = some read) {P : α → List Char → Prop} :
    (∃ value rest, Reads read? value rest ∧ P value rest) ↔ P read.value read.rest := by
  simp only [found, reads_some_iff]
  constructor
  · rintro ⟨-, -, ⟨rfl, rfl⟩, holds⟩
    exact holds
  · intro holds
    exact ⟨_, _, ⟨rfl, rfl⟩, holds⟩

theorem not_reads_none {value : α} {rest : List Char} :
    ¬Reads (none : Option (Read α bound)) value rest := by
  rintro ⟨read, found, -⟩
  contradiction

theorem reads_none_iff {value : α} {rest : List Char} :
    Reads (none : Option (Read α bound)) value rest ↔ False :=
  iff_false_intro not_reads_none

end Longer

variable {more : List Char}

theorem readUntil?_append (close : Char) (text : List Char) :
    Longer more (readUntil? close text) (readUntil? close (text ++ more)) := by
  induction text with
  | nil => exact longer_none
  | cons c rest ih =>
    rw [List.cons_append, readUntil?, readUntil?]
    by_cases closes : c = close
    · rw [if_pos closes, if_pos closes]
      exact longer_some ⟨rfl, rfl⟩
    · rw [if_neg closes, if_neg closes]
      exact ih.map fun short long same => ⟨congrArg (c :: ·) same.1, same.2⟩

theorem readWhile_eq (test : Char → Bool) (text : List Char) :
    (readWhile test text).value = text.takeWhile test ∧
      (readWhile test text).rest = text.dropWhile test := by
  induction text with
  | nil => exact ⟨rfl, rfl⟩
  | cons c rest ih =>
    rw [readWhile, List.takeWhile_cons, List.dropWhile_cons]
    by_cases passes : test c = true
    · rw [if_pos passes, if_pos passes, if_pos passes]
      exact ⟨congrArg (c :: ·) ih.1, ih.2⟩
    · rw [if_neg passes, if_neg passes, if_neg passes]
      exact ⟨rfl, rfl⟩

/-- A run that stops before the end of the text. -/
theorem takeWhile_dropWhile_append (more : List Char) {test : Char → Bool} {text : List Char}
    (stops : text.dropWhile test ≠ []) :
    (text ++ more).takeWhile test = text.takeWhile test ∧
      (text ++ more).dropWhile test = text.dropWhile test ++ more := by
  have shorter : (text.takeWhile test).length ≠ text.length := by
    intro same
    have whole := (List.takeWhile_prefix test).eq_of_length same
    exact stops (List.dropWhile_eq_nil_iff.mpr (List.takeWhile_eq_self_iff.mp whole))
  constructor
  · rw [List.takeWhile_append, if_neg shorter]
  · rw [List.dropWhile_append, if_neg (by rwa [List.isEmpty_iff])]

theorem readWhile_append (more : List Char) {test : Char → Bool} {text : List Char}
    (stops : (readWhile test text).rest ≠ []) :
    (readWhile test text).Longer more (readWhile test (text ++ more)) := by
  obtain ⟨value, rest⟩ := readWhile_eq test text
  obtain ⟨longValue, longRest⟩ := readWhile_eq test (text ++ more)
  rw [rest] at stops
  obtain ⟨same, after⟩ := takeWhile_dropWhile_append more stops
  exact ⟨by rw [longValue, value, same], by rw [longRest, rest, after]⟩

/-! ## Escapes -/

/-- A reader of what stands between braces. -/
theorem longer_braced {α β : Type} (choose? : List Char → Option α) (make : α → β)
    {read? : (text : List Char) → Option (Read β (text.length + 1))}
    (read?_eq : ∀ text, read? text = match readUntil? '\x7d' text with
      | some read => (choose? read.value).map fun choice => (read.map fun _ => make choice).later
      | none => none)
    (text : List Char) : Longer more (read? text) (read? (text ++ more)) := by
  intro read found
  rw [read?_eq] at found ⊢
  split at found
  · rename_i short inner
    obtain ⟨long, same, value, left⟩ := readUntil?_append '\x7d' text short inner
    obtain ⟨choice, chosen, rfl⟩ := Option.map_eq_some_iff.mp found
    rw [same]
    refine ⟨(long.map fun _ => make choice).later, ?_, rfl, left⟩
    dsimp only
    rw [value, chosen, Option.map_some]
  · contradiction

theorem readHex?_append (count : Nat) (text : List Char) :
    Longer more (readHex? count text) (readHex? count (text ++ more)) := by
  cases text with
  | nil =>
    have refused : readHex? count [] = none := by simp [readHex?, hexChar?]
    rw [refused]
    exact longer_none
  | cons c rest =>
    by_cases brace : c = '\x7b'
    · subst brace
      exact longer_braced hexChar? Escape.char (fun _ => rfl) rest
    · have noBrace : ∀ text rest' : List Char, c :: text = '\x7b' :: rest' → False :=
        fun text rest' same => brace (List.cons.inj same).1
      rw [List.cons_append, readHex?.eq_2 _ _ (noBrace _), readHex?.eq_2 _ _ (noBrace _)]
      by_cases enough : count ≤ (c :: rest).length
      · have longEnough : count ≤ (c :: (rest ++ more)).length := by
          rw [← List.cons_append, List.length_append]
          omega
        rw [if_pos enough, if_pos longEnough]
        intro short success
        obtain ⟨d, found, rfl⟩ := Option.map_eq_some_iff.mp success
        have front : (c :: (rest ++ more)).take count = (c :: rest).take count :=
          List.take_append_of_le_length enough
        refine ⟨⟨.char d, (c :: (rest ++ more)).drop count, by simp⟩, ?_, rfl, ?_⟩
        · rw [front, found, Option.map_some]
        · exact List.drop_append_of_le_length enough
      · rw [if_neg enough]
        exact longer_none

theorem readProperty?_append (negate : Bool) (text : List Char) :
    Longer more (readProperty? negate text) (readProperty? negate (text ++ more)) := by
  cases text with
  | nil => exact longer_none
  | cons c rest =>
    by_cases escape : c = '\\'
    · subst escape
      exact longer_none
    by_cases brace : c = '\x7b'
    · subst brace
      exact longer_braced propertySet? (fun set => Escape.set (if negate then .negated set else set))
        (fun _ => rfl) rest
    · have other : ∀ rest, readProperty? negate (c :: rest) = (CharSet.named? [c]).map fun set =>
          ⟨.set (if negate then .negated set else set), rest, Nat.le_succ _⟩ := by
        intro rest
        rw [readProperty?.eq_def]
        split <;> simp_all
      rw [List.cons_append, other, other]
      intro short success
      obtain ⟨set, found, rfl⟩ := Option.map_eq_some_iff.mp success
      exact ⟨_, by rw [found, Option.map_some], rfl, rfl⟩

theorem readBoundary?_of_noBrace {text : List Char} (noBrace : text.head? ≠ some '\x7b') :
    readBoundary? text = some ⟨.anchor .wordBoundary, text, Nat.le_refl _⟩ := by
  rw [readBoundary?.eq_def]
  split
  · exact absurd rfl noBrace
  · rfl

theorem readBoundary?_of_unnamed {c : Char} {text : List Char} (unnamed : ¬isBoundaryName c = true) :
    readBoundary? ('\x7b' :: c :: text) =
      some ⟨.anchor .wordBoundary, '\x7b' :: c :: text, Nat.le_refl _⟩ := by
  rw [readBoundary?, List.head?_cons]
  dsimp only
  rw [if_neg unnamed]

/-- A boundary that is given by name. -/
theorem reads_readBoundary?_iff {c : Char} {text rest : List Char} (named : isBoundaryName c = true)
    {value : Escape} : Reads (readBoundary? ('\x7b' :: c :: text)) value rest ↔
      (readWhile isBoundaryName (c :: text)).rest = '\x7d' :: rest ∧ ∃ condition,
        boundary? (readWhile isBoundaryName (c :: text)).value = some condition ∧
          .anchor condition = value := by
  rw [readBoundary?, List.head?_cons]
  dsimp only
  rw [if_pos named]
  split
  · rename_i after _ ends _
    rw [ends]
    constructor
    · rintro ⟨read, found, rfl, rfl⟩
      obtain ⟨condition, chosen, rfl⟩ := Option.map_eq_some_iff.mp found
      exact ⟨rfl, condition, chosen, rfl⟩
    · rintro ⟨same, condition, chosen, rfl⟩
      obtain rfl := (List.cons.inj same).2
      rw [chosen]
      exact ⟨_, rfl, rfl, rfl⟩
  · rename_i other
    constructor
    · intro reads
      exact (not_reads_none reads).elim
    · rintro ⟨ends, -⟩
      exact (other rest (ends ▸ (readWhile _ _).le) ends (proof_irrel_heq _ _)).elim

theorem readBoundary?_append (noBrace : more.head? ≠ some '\x7b') (text : List Char) :
    Longer more (readBoundary? text) (readBoundary? (text ++ more)) := by
  cases text with
  | nil =>
    rw [List.nil_append, readBoundary?_of_noBrace noBrace]
    exact longer_some ⟨rfl, rfl⟩
  | cons c rest =>
    by_cases brace : c = '\x7b'
    · subst brace
      cases rest with
      | nil => exact longer_none
      | cons d rest =>
        by_cases named : isBoundaryName d = true
        · rw [List.cons_append, List.cons_append, longer_iff]
          intro value left reads
          obtain ⟨ends, condition, chosen, same⟩ := (reads_readBoundary?_iff named).mp reads
          obtain ⟨name, after⟩ := readWhile_append more (ends ▸ List.cons_ne_nil _ _)
          rw [List.cons_append] at name after
          refine (reads_readBoundary?_iff named).mpr ⟨?_, condition, ?_, same⟩
          · rw [after, ends, List.cons_append]
          · rw [name, chosen]
        · rw [List.cons_append, List.cons_append, readBoundary?_of_unnamed named,
            readBoundary?_of_unnamed named]
          exact longer_some ⟨rfl, rfl⟩
    · have other : ∀ rest, (c :: rest).head? ≠ some '\x7b' :=
        fun rest same => brace (Option.some.inj same)
      rw [List.cons_append, readBoundary?_of_noBrace (other _), readBoundary?_of_noBrace (other _)]
      exact longer_some ⟨rfl, rfl⟩

theorem readEscape?_append (noBrace : more.head? ≠ some '\x7b') (text : List Char) :
    Longer more (readEscape? text) (readEscape? (text ++ more)) := by
  cases text with
  | nil => exact longer_none
  | cons c rest =>
    have later : ∀ {α : Type} {short long : Nat} {short? : Option (Read α short)}
        {long? : Option (Read α long)}, Longer more short? long? →
          Longer more (short?.map (·.later)) (long?.map (·.later)) :=
      fun inner => inner.map fun short long same => same
    rw [List.cons_append, readEscape?.eq_def, readEscape?.eq_def]
    dsimp only
    split
    · exact later (readHex?_append 2 rest)
    · exact later (readHex?_append 4 rest)
    · exact later (readHex?_append 8 rest)
    · exact later (readProperty?_append false rest)
    · exact later (readProperty?_append true rest)
    case h_20 => exact later (readBoundary?_append noBrace rest)
    case h_24 =>
      split
      · exact longer_some ⟨rfl, rfl⟩
      · exact longer_none
    all_goals exact longer_some ⟨rfl, rfl⟩

/-! ## Bracket classes -/

theorem readHyphens_append {frame : ClassFrame} {text : List Char}
    (stops : (readHyphens frame text).rest ≠ []) :
    (readHyphens frame text).Longer more (readHyphens frame (text ++ more)) := by
  fun_induction readHyphens frame text with
  | case1 frame rest ih => exact ih stops
  | case2 frame text noHyphen =>
    obtain ⟨c, rest, rfl⟩ := List.exists_cons_of_ne_nil stops
    rw [List.cons_append, readHyphens.eq_2]
    · exact ⟨rfl, rfl⟩
    · rintro rest' same
      exact noHyphen _ (by rw [(List.cons.inj same).1])

theorem start_openClass_append (more : List Char) (frame : ClassFrame) {text : List Char}
    (stops : (openClass.start frame text).rest ≠ []) :
    (openClass.start frame text).Longer more (openClass.start frame (text ++ more)) := by
  cases text with
  | nil => exact absurd rfl stops
  | cons c rest =>
    by_cases closing : c = ']'
    · subst closing
      exact ⟨rfl, rfl⟩
    · have other : ∀ rest, openClass.start frame (c :: rest) = readHyphens frame (c :: rest) :=
        fun rest => openClass.start.eq_2 _ _ fun _ same => closing (List.cons.inj same).1
      rw [other] at stops
      rw [List.cons_append, other, other]
      exact readHyphens_append stops

theorem openClass_append (more : List Char) {text : List Char} (stops : (openClass text).rest ≠ []) :
    (openClass text).Longer more (openClass (text ++ more)) := by
  cases text with
  | nil => exact absurd rfl stops
  | cons c rest =>
    by_cases negates : c = '^'
    · subst negates
      exact start_openClass_append more ⟨true, none, .empty⟩ stops
    · have other : ∀ rest, openClass (c :: rest) = openClass.start ⟨false, none, .empty⟩ (c :: rest) :=
        fun rest => openClass.eq_2 _ fun _ same => negates (List.cons.inj same).1
      rw [other] at stops
      rw [List.cons_append, other, other]
      exact start_openClass_append more _ stops

theorem readHyphens_subset (frame : ClassFrame) (text : List Char) :
    (readHyphens frame text).rest ⊆ text := by
  fun_induction readHyphens frame text with
  | case1 frame rest ih => exact List.subset_cons_of_subset _ ih
  | case2 => exact List.Subset.refl _

theorem openClass_subset (text : List Char) : (openClass text).rest ⊆ text := by
  have start : ∀ (frame : ClassFrame) (text : List Char), (openClass.start frame text).rest ⊆ text := by
    intro frame text
    unfold openClass.start
    split
    · exact List.subset_cons_self _ _
    · exact readHyphens_subset _ _
  unfold openClass
  split
  · exact List.subset_cons_of_subset _ (start _ _)
  · exact start _ _

theorem isAlpha_of_asciiClass? {name : List Char} {chars : CharSet}
    (found : CharSet.asciiClass? (String.ofList name) = some chars) : ∀ c ∈ name, c.isAlpha = true := by
  unfold CharSet.asciiClass? at found
  split at found
  case h_15 => contradiction
  all_goals
    rename_i same
    obtain rfl := String.toList_ofList.symm.trans (congrArg String.toList same)
    exact List.all_eq_true.mp rfl

theorem ne_of_isAlpha {c d : Char} (letter : c.isAlpha = true) (other : d.isAlpha = false) : c ≠ d := by
  rintro rfl
  rw [letter] at other
  contradiction

theorem isClassChar_of_isAlpha {c : Char} (letter : c.isAlpha = true) : IsClassChar c := by
  intro member
  have other : ['\\', '[', ']', '&', '-', '~'].any Char.isAlpha = false := rfl
  exact List.any_eq_false.mp other c member letter

theorem reads_name_iff {text rest : List Char} {chars : CharSet} :
    Reads (readAsciiClass?.name text) chars rest ↔
      (readWhile (· ≠ ':') text).rest = ':' :: ']' :: rest ∧
        CharSet.asciiClass? (String.ofList (readWhile (· ≠ ':') text).value) = some chars := by
  rw [readAsciiClass?.name]
  split
  · rename_i after _ ends _
    rw [ends]
    constructor
    · rintro ⟨read, found, rfl, rfl⟩
      obtain ⟨set, chosen, rfl⟩ := Option.map_eq_some_iff.mp found
      exact ⟨rfl, chosen⟩
    · rintro ⟨same, chosen⟩
      obtain rfl := (List.cons.inj (List.cons.inj same).2).2
      rw [chosen]
      exact ⟨_, rfl, rfl, rfl⟩
  · rename_i other
    constructor
    · intro reads
      exact (not_reads_none reads).elim
    · rintro ⟨ends, -⟩
      exact (other rest (ends ▸ (readWhile _ _).le) ends (proof_irrel_heq _ _)).elim

/-- The name of an ASCII class up to its end. -/
theorem reads_name_iff_exists {text rest : List Char} {chars : CharSet} :
    Reads (readAsciiClass?.name text) chars rest ↔
      ∃ name, text = name ++ ':' :: ']' :: rest ∧ CharSet.asciiClass? (String.ofList name) = some chars := by
  obtain ⟨value, left⟩ := readWhile_eq (· ≠ ':') text
  rw [reads_name_iff, value, left]
  constructor
  · rintro ⟨ends, found⟩
    refine ⟨_, ?_, found⟩
    rw [← ends, List.takeWhile_append_dropWhile]
  · rintro ⟨name, rfl, found⟩
    have solid : ∀ c ∈ name, decide (c ≠ ':') = true := fun c member =>
      decide_eq_true (ne_of_isAlpha (isAlpha_of_asciiClass? found c member) (by decide))
    rw [List.takeWhile_append_of_pos solid, List.dropWhile_append_of_pos solid]
    refine ⟨rfl, ?_⟩
    rw [List.takeWhile_cons, if_neg (by decide), List.append_nil, found]

/-- What stands for an ASCII class in a class, between the bracket that opens it and the one that
closes it. -/
def SpellsAscii (inner : List Char) (chars : CharSet) : Prop :=
  ∃ name set, CharSet.asciiClass? (String.ofList name) = some set ∧
    (inner = ':' :: '^' :: (name ++ [':']) ∧ chars = .negated set ∨
      inner = ':' :: (name ++ [':']) ∧ chars = set)

theorem isClassChar_of_spellsAscii {inner : List Char} {chars : CharSet}
    (spells : SpellsAscii inner chars) : ∀ c ∈ inner, IsClassChar c := by
  obtain ⟨name, set, found, shape⟩ := spells
  have letters := isAlpha_of_asciiClass? found
  intro c member
  have letter : c = ':' ∨ c = '^' ∨ c ∈ name := by
    rcases shape with ⟨rfl, -⟩ | ⟨rfl, -⟩ <;> grind
  rcases letter with rfl | rfl | letter
  · decide
  · decide
  · exact isClassChar_of_isAlpha (letters c letter)

theorem reads_readAsciiClass?_iff {text rest : List Char} {chars : CharSet} :
    Reads (readAsciiClass? text) chars rest ↔
      ∃ inner, text = inner ++ ']' :: rest ∧ SpellsAscii inner chars := by
  constructor
  · rintro ⟨read, found, rfl, rfl⟩
    rw [readAsciiClass?.eq_def] at found
    split at found
    · rename_i tail
      obtain ⟨inner, named, rfl⟩ := Option.map_eq_some_iff.mp found
      obtain ⟨name, whole, known⟩ := reads_name_iff_exists.mp ⟨inner, named, rfl, rfl⟩
      refine ⟨':' :: '^' :: (name ++ [':']), ?_, name, _, known, Or.inl ⟨rfl, rfl⟩⟩
      exact (congrArg (':' :: '^' :: ·) whole).trans (by simp [Read.later, Read.widen, Read.map])
    · rename_i tail _
      obtain ⟨inner, named, rfl⟩ := Option.map_eq_some_iff.mp found
      obtain ⟨name, whole, known⟩ := reads_name_iff_exists.mp ⟨inner, named, rfl, rfl⟩
      refine ⟨':' :: (name ++ [':']), ?_, name, _, known, Or.inr ⟨rfl, rfl⟩⟩
      exact (congrArg (':' :: ·) whole).trans (by simp [Read.later, Read.widen])
    · contradiction
  · rintro ⟨inner, rfl, name, set, known, shape⟩
    have reads : Reads (readAsciiClass?.name (name ++ ':' :: ']' :: rest)) set rest :=
      reads_name_iff_exists.mpr ⟨name, rfl, known⟩
    obtain ⟨read, named, value, left⟩ := reads
    rcases shape with ⟨rfl, rfl⟩ | ⟨rfl, rfl⟩
    · have text_eq : ':' :: '^' :: (name ++ [':']) ++ ']' :: rest =
          ':' :: '^' :: (name ++ ':' :: ']' :: rest) := by simp
      rw [text_eq, readAsciiClass?, named]
      exact ⟨_, rfl, congrArg CharSet.negated value, left⟩
    · have text_eq : ':' :: (name ++ [':']) ++ ']' :: rest = ':' :: (name ++ ':' :: ']' :: rest) := by
        simp
      have noCaret : ∀ tail, name ++ ':' :: ']' :: rest = '^' :: tail → False := by
        intro tail same
        cases name with
        | nil => contradiction
        | cons c name =>
          obtain ⟨rfl, -⟩ := List.cons.inj same
          have letter := isAlpha_of_asciiClass? known '^' List.mem_cons_self
          contradiction
      rw [text_eq, readAsciiClass?.eq_2 _ noCaret, named]
      exact ⟨_, rfl, value, left⟩

theorem readAsciiClass?_append (more text : List Char) :
    Longer more (readAsciiClass? text) (readAsciiClass? (text ++ more)) := by
  rw [longer_iff]
  intro chars rest reads
  obtain ⟨inner, rfl, spells⟩ := reads_readAsciiClass?_iff.mp reads
  exact reads_readAsciiClass?_iff.mpr ⟨inner, List.append_assoc inner (']' :: rest) more, spells⟩

/-- What is an ASCII class only with more text behind it is a front of one. -/
theorem isClassChar_of_readAsciiClass?_append {text : List Char}
    (refused : readAsciiClass? text = none) (read : readAsciiClass? (text ++ more) ≠ none) :
    ∀ c ∈ text, IsClassChar c := by
  obtain ⟨read, found⟩ := Option.ne_none_iff_exists'.mp read
  obtain ⟨inner, shape, spells⟩ := reads_readAsciiClass?_iff.mp ⟨read, found, rfl, rfl⟩
  have plain := isClassChar_of_spellsAscii spells
  rcases List.append_eq_append_iff.mp shape with ⟨after, rfl, -⟩ | ⟨before, rfl, ends⟩
  · exact fun c member => plain c (List.mem_append_left _ member)
  · cases before with
    | nil => rwa [List.append_nil]
    | cons c before =>
      obtain ⟨rfl, -⟩ := List.cons.inj ends
      obtain ⟨short, same, -⟩ := reads_readAsciiClass?_iff.mpr ⟨inner, rfl, spells⟩
      rw [refused] at same
      contradiction

theorem readClassItem?_append (noBrace : more.head? ≠ some '\x7b') (text : List Char) :
    Longer more (readClassItem? text) (readClassItem? (text ++ more)) := by
  cases text with
  | nil => exact longer_none
  | cons c rest =>
    by_cases escape : c = '\\'
    · subst escape
      exact (readEscape?_append noBrace rest).map fun short long same => same
    · have other : ∀ rest, readClassItem? (c :: rest) = some ⟨.char c, rest, Nat.le_succ _⟩ :=
        fun rest => readClassItem?.eq_3 _ _ escape
      rw [List.cons_append, other, other]
      exact longer_some ⟨rfl, rfl⟩

/-- How an item goes on: it stands alone, or it begins an interval. -/
def EndsRange (first : Escape) (after : List Char) (chars : CharSet) (rest : List Char) : Prop :=
  match after with
  | [] => False
  | '-' :: ']' :: _ | '-' :: '-' :: _ => first.toSet? = some chars ∧ rest = after
  | '-' :: tail => ∃ last, Reads (readClassItem? tail) last rest ∧ intervalSet? first last = some chars
  | _ => first.toSet? = some chars ∧ rest = after

/-- A reading with a fact about it, of a value that may be missing. -/
theorem reads_map_val_iff {α : Type} {bound : Nat} {holds : Read α bound → Prop} {value? : Option α}
    {left : List Char} {le : left.length ≤ bound} (fact : ∀ value, holds ⟨value, left, le⟩) {value : α}
    {rest : List Char} :
    Reads ((value?.map fun value => (⟨⟨value, left, le⟩, fact value⟩ : { read // holds read })).map
      Subtype.val) value rest ↔ value? = some value ∧ rest = left := by
  cases value? with
  | none => simp [reads_none_iff]
  | some known => rw [Option.map_some, Option.map_some, reads_some_iff, Option.some_inj, eq_comm]

theorem reads_readClassRange?_iff {text rest : List Char} {chars : CharSet} :
    Reads ((readClassRange? text).map Subtype.val) chars rest ↔
      ∃ first after, Reads (readClassItem? text) first after ∧ EndsRange first after chars rest := by
  unfold readClassRange?
  split
  · rename_i refused
    rw [refused]
    simp only [Option.map_none, reads_none_iff, false_and, exists_false]
  · rename_i first found
    rw [exists_reads_iff found]
    dsimp only [Read.map]
    split
    · rename_i ends
      rw [ends]
      exact iff_of_false not_reads_none id
    · rename_i ends
      rw [reads_map_val_iff, ends]
      rfl
    · rename_i ends
      rw [reads_map_val_iff, ends]
      rfl
    · rename_i tail noClose noHyphen ends
      have goesOn : EndsRange first.value first.rest chars rest ↔
          ∃ last, Reads (readClassItem? tail) last rest ∧
            intervalSet? first.value last = some chars := by
        rw [ends, EndsRange.eq_4 _ _ _ _ noClose noHyphen]
      rw [goesOn]
      split
      · rename_i refused
        rw [refused]
        simp only [Option.map_none, reads_none_iff, false_and, exists_false]
      · rename_i last item
        rw [reads_map_val_iff, item]
        simp only [reads_some_iff]
        constructor
        · rintro ⟨known, rfl⟩
          exact ⟨_, ⟨rfl, rfl⟩, known⟩
        · rintro ⟨-, ⟨rfl, rfl⟩, known⟩
          exact ⟨known, rfl⟩
    · rename_i nonempty closes hyphens noHyphen
      rw [reads_map_val_iff, EndsRange.eq_5 _ _ _ _ nonempty closes hyphens noHyphen]

theorem EndsRange.append (noBrace : more.head? ≠ some '\x7b') {first : Escape}
    {after rest : List Char} {chars : CharSet} (ends : EndsRange first after chars rest) :
    EndsRange first (after ++ more) chars (rest ++ more) := by
  unfold EndsRange at ends
  split at ends
  · contradiction
  · obtain ⟨known, rfl⟩ := ends
    exact ⟨known, rfl⟩
  · obtain ⟨known, rfl⟩ := ends
    exact ⟨known, rfl⟩
  · rename_i tail noClose noHyphen
    obtain ⟨last, reads, known⟩ := ends
    have longer := longer_iff.mp (readClassItem?_append noBrace tail) _ _ reads
    cases tail with
    | nil => exact (not_reads_none reads).elim
    | cons c tail =>
      rw [List.cons_append, List.cons_append, EndsRange.eq_4]
      · exact ⟨last, longer, known⟩
      · intro _ same
        exact noClose tail (by rw [(List.cons.inj same).1])
      · intro _ same
        exact noHyphen tail (by rw [(List.cons.inj same).1])
  · rename_i nonempty _ _ noHyphen
    obtain ⟨known, rfl⟩ := ends
    obtain ⟨c, tail, rfl⟩ := List.exists_cons_of_ne_nil nonempty
    have noHyphen : c ≠ '-' := fun same => noHyphen tail (by rw [same])
    rw [List.cons_append, EndsRange.eq_5]
    · exact ⟨known, rfl⟩
    · exact List.cons_ne_nil _ _
    all_goals exact fun _ same => noHyphen (List.cons.inj same).1

theorem readClassRange?_append (noBrace : more.head? ≠ some '\x7b') (text : List Char) :
    Longer more ((readClassRange? text).map Subtype.val)
      ((readClassRange? (text ++ more)).map Subtype.val) := by
  rw [longer_iff]
  intro chars rest reads
  obtain ⟨first, after, item, ends⟩ := reads_readClassRange?_iff.mp reads
  have longer := longer_iff.mp (readClassItem?_append noBrace text) _ _ item
  exact reads_readClassRange?_iff.mpr ⟨first, after ++ more, longer, ends.append noBrace⟩

/-- An item is followed by something. -/
theorem one_lt_length_of_readClassRange? {text : List Char}
    {read : { read : Read CharSet text.length // read.rest.length < text.length }}
    (found : readClassRange? text = some read) : 1 < text.length := by
  have reads : Reads ((readClassRange? text).map Subtype.val) read.val.value read.val.rest :=
    ⟨read.val, by rw [found, Option.map_some], rfl, rfl⟩
  obtain ⟨-, -, ⟨first, item, rfl, rfl⟩, ends⟩ := reads_readClassRange?_iff.mp reads
  have followed : first.rest ≠ [] := by
    intro empty
    rw [empty] at ends
    exact ends
  have shorter := length_rest_readClassItem_lt item
  have positive := List.length_pos_iff.mpr followed
  omega

theorem readClass?_eq_none {text : List Char} (plain : ∀ c ∈ text, IsClassChar c)
    (outer : List ClassFrame) (frame : ClassFrame) : readClass? outer frame text = none := by
  induction text generalizing frame with
  | nil => rw [readClass?]
  | cons c rest ih =>
    obtain ⟨first, others⟩ := List.forall_mem_cons.mp plain
    cases rest with
    | nil =>
      have refused : readClassRange? [c] = none := by
        cases found : readClassRange? [c] with
        | none => rfl
        | some read => exact absurd (one_lt_length_of_readClassRange? found) (Nat.lt_irrefl 1)
      simp only [IsClassChar, List.mem_cons, List.not_mem_nil, or_false, not_or] at first
      rw [readClass?.eq_def]
      split <;> simp_all
    | cons d rest =>
      have noHyphen : (d :: rest).head? ≠ some '-' := by
        intro hyphen
        obtain rfl := Option.some.inj hyphen
        exact others '-' List.mem_cons_self (by decide)
      rw [readClass?_char first (List.cons_ne_nil d rest) noHyphen, ih others]
      rfl

theorem readClass?_append (noBrace : more.head? ≠ some '\x7b') (outer : List ClassFrame)
    (frame : ClassFrame) (text : List Char) :
    Longer more (readClass? outer frame text) (readClass? outer frame (text ++ more)) := by
  fun_induction readClass? outer frame text with
  | case1 => exact longer_none
  | case2 frame rest =>
    rw [List.cons_append, readClass?]
    exact longer_some ⟨rfl, rfl⟩
  | case3 frame rest around outer ih =>
    rw [List.cons_append, readClass?]
    exact ih.map fun short long same => same
  | case4 outer frame rest read found le ih =>
    obtain ⟨long, same, longer⟩ := readAsciiClass?_append more rest read found
    have inner := longer_next longer (fun chars rest => readClass? outer (frame.add chars) rest) ih
    rw [List.cons_append, readClass?.eq_4]
    split
    · rename_i other found'
      obtain rfl := Option.some.inj (same.symm.trans found')
      exact inner.map fun short long same => same
    · rename_i refused
      rw [same] at refused
      contradiction
  | case5 outer frame rest refused le ih =>
    -- More text may complete the name of an ASCII class, but only where nothing closes the class.
    by_cases ascii : readAsciiClass? (rest ++ more) = none
    · by_cases stops : (openClass rest).rest = []
      · have empty : readClass? (frame :: outer) (openClass rest).value (openClass rest).rest = none := by
          rw [stops, readClass?]
        rw [empty]
        exact longer_none
      · have inner := longer_next (openClass_append more stops) (readClass? (frame :: outer)) ih
        rw [List.cons_append, readClass?.eq_4]
        split
        · rename_i found
          rw [ascii] at found
          contradiction
        · exact inner.map fun short long same => same
    · have plain := isClassChar_of_readAsciiClass?_append refused ascii
      have nothing := readClass?_eq_none (fun c member => plain c (openClass_subset rest member))
        (frame :: outer) (openClass rest).value
      rw [nothing]
      exact longer_none
  | case6 outer frame rest ih | case7 outer frame rest ih | case8 outer frame rest ih =>
    rw [List.cons_append, List.cons_append, readClass?]
    exact ih.map fun short long same => same
  | case9 => exact longer_none
  | case10 outer frame text nonempty noClose noOpen noAnd noMinus noTilde read lt found ih =>
    have range : Reads ((readClassRange? text).map Subtype.val) read.value read.rest :=
      ⟨read, by rw [found, Option.map_some], rfl, rfl⟩
    obtain ⟨long, same, longer⟩ := longer_iff.mp (readClassRange?_append noBrace text) _ _ range
    have inner := longer_next longer (fun chars rest => readClass? outer (frame.add chars) rest) ih
    have two := one_lt_length_of_readClassRange? found
    obtain ⟨⟨other, lt'⟩, found', rfl⟩ := Option.map_eq_some_iff.mp same
    -- The first two characters decide how the text is read, and they stay.
    match text, two with
    | c :: d :: text, _ =>
      rw [readClass?.eq_8 outer frame (c :: d :: text ++ more), found']
      · exact inner.map fun short long same => same
      all_goals simp_all

theorem readBracket?_append (noBrace : more.head? ≠ some '\x7b') (text : List Char) :
    Longer more (readBracket? text) (readBracket? (text ++ more)) := by
  by_cases stops : (openClass text).rest = []
  · have empty : readClass? [] (openClass text).value (openClass text).rest = none := by
      rw [stops, readClass?]
    rw [readBracket?, empty]
    exact longer_none
  · have longer := longer_next (openClass_append more stops) (readClass? [])
      (readClass?_append noBrace _ _ _)
    exact longer.map fun short long same => same

/-! ## Repetition counts -/

/-- The value of decimal digits. -/
def decimal (digits : List Char) : Nat :=
  digits.foldl (fun value c => value * 10 + (c.toNat - 0x30)) 0

theorem reads_readCount?_iff {text rest : List Char} {count : Nat} :
    Reads (readCount? text) count rest ↔
      ∃ digits after, (text.dropWhile Unicode.isWhiteSpace).takeWhile Char.isDigit = digits ∧
        (text.dropWhile Unicode.isWhiteSpace).dropWhile Char.isDigit = after ∧
        after.dropWhile Unicode.isWhiteSpace = rest ∧ digits ≠ [] ∧ decimal digits = count ∧
        count ≤ 0xFFFFFFFF := by
  rw [readCount?]
  simp only [readWhile_eq]
  constructor
  · rintro ⟨read, found, rfl, rfl⟩
    split at found
    · rename_i valid
      obtain rfl := Option.some.inj found
      exact ⟨_, _, rfl, rfl, rfl, valid.1, rfl, valid.2⟩
    · contradiction
  · rintro ⟨-, -, rfl, rfl, rfl, nonempty, rfl, fits⟩
    rw [if_pos ⟨nonempty, fits⟩]
    exact ⟨_, rfl, rfl, rfl⟩

theorem ne_nil_of_dropWhile_ne_nil {test : Char → Bool} {text : List Char}
    (stops : text.dropWhile test ≠ []) : text ≠ [] := by
  rintro rfl
  exact stops rfl

theorem readCount?_append (more : List Char) {text rest : List Char} {count : Nat}
    (reads : Reads (readCount? text) count rest) (stops : rest ≠ []) :
    Reads (readCount? (text ++ more)) count (rest ++ more) := by
  rw [reads_readCount?_iff] at reads ⊢
  obtain ⟨-, -, rfl, rfl, rfl, nonempty, rfl, fits⟩ := reads
  have blankStops := ne_nil_of_dropWhile_ne_nil stops
  obtain ⟨-, blank⟩ := takeWhile_dropWhile_append more (ne_nil_of_dropWhile_ne_nil blankStops)
  obtain ⟨digits, after⟩ := takeWhile_dropWhile_append more blankStops
  obtain ⟨-, left⟩ := takeWhile_dropWhile_append more stops
  refine ⟨_, _, ?_, ?_, left, nonempty, rfl, fits⟩
  · rw [blank, digits]
  · rw [blank, after]

/-- How the bounds of a repetition go on behind the first. -/
def EndsBounds (min : Nat) (after : List Char) (bounds : Nat × Option Nat) (rest : List Char) : Prop :=
  match after with
  | '\x7d' :: tail => bounds = (min, some min) ∧ rest = tail
  | ',' :: '\x7d' :: tail => bounds = (min, none) ∧ rest = tail
  | ',' :: tail => ∃ max, Reads (readCount? tail) max ('\x7d' :: rest) ∧ min ≤ max ∧
    bounds = (min, some max)
  | _ => False

theorem reads_readBounds?_iff {text rest : List Char} {bounds : Nat × Option Nat} :
    Reads (readBounds? text) bounds rest ↔
      ∃ min after, Reads (readCount? text) min after ∧ EndsBounds min after bounds rest := by
  unfold readBounds?
  split
  · rename_i refused
    rw [refused]
    simp only [reads_none_iff, false_and, exists_false]
  · rename_i min found
    rw [exists_reads_iff found]
    split
    · rename_i tail _ ends _
      rw [ends]
      exact reads_some_iff
    · rename_i tail _ ends _
      rw [ends]
      exact reads_some_iff
    · rename_i tail _ noClose ends _
      have le := min.le
      rw [ends] at le
      have noClose : ∀ after, tail = '\x7d' :: after → False := fun after same =>
        noClose after (same ▸ le) (proof_irrel_heq _ _) same
      rw [ends, EndsBounds.eq_3 _ _ _ _ noClose]
      split
      · rename_i refused
        rw [refused]
        simp only [reads_none_iff, false_and, exists_false]
      · rename_i max upper
        rw [upper]
        simp only [reads_some_iff]
        split
        · rename_i after _ closed _
          rw [closed]
          split
          · rename_i order
            rw [reads_some_iff]
            constructor
            · rintro ⟨rfl, rfl⟩
              exact ⟨_, ⟨rfl, rfl⟩, order, rfl⟩
            · rintro ⟨-, ⟨rfl, same⟩, -, rfl⟩
              exact ⟨rfl, (List.cons.inj same).2⟩
          · rename_i disorder
            refine iff_of_false not_reads_none ?_
            rintro ⟨-, ⟨rfl, -⟩, order, -⟩
            exact disorder order
        · rename_i unclosed
          refine iff_of_false not_reads_none ?_
          rintro ⟨-, ⟨-, closed⟩, -⟩
          exact unclosed rest (closed ▸ max.le) closed.symm (proof_irrel_heq _ _)
    · rename_i closes both comma
      refine iff_of_false not_reads_none fun ends => ?_
      rw [EndsBounds.eq_4] at ends
      · exact ends
      · exact fun after same => closes after (same ▸ min.le) same (proof_irrel_heq _ _)
      · exact fun after same => both after (same ▸ min.le) same (proof_irrel_heq _ _)
      · exact fun after same => comma after (same ▸ min.le) same (proof_irrel_heq _ _)

theorem EndsBounds.append (more : List Char) {min : Nat} {after rest : List Char}
    {bounds : Nat × Option Nat} (ends : EndsBounds min after bounds rest) :
    EndsBounds min (after ++ more) bounds (rest ++ more) := by
  unfold EndsBounds at ends
  split at ends
  · obtain ⟨rfl, rfl⟩ := ends
    exact ⟨rfl, rfl⟩
  · obtain ⟨rfl, rfl⟩ := ends
    exact ⟨rfl, rfl⟩
  · rename_i tail noClose
    obtain ⟨max, upper, order, rfl⟩ := ends
    have longer := readCount?_append more upper (List.cons_ne_nil _ _)
    cases tail with
    | nil =>
      obtain ⟨-, -, rfl, -, -, nonempty, -⟩ := reads_readCount?_iff.mp upper
      exact absurd rfl nonempty
    | cons c tail =>
      rw [List.cons_append, List.cons_append, EndsBounds.eq_3]
      · exact ⟨max, longer, order, rfl⟩
      · intro _ same
        exact noClose tail (by rw [(List.cons.inj same).1])
  · contradiction

theorem readBounds?_append (text : List Char) :
    Longer more (readBounds? text) (readBounds? (text ++ more)) := by
  rw [longer_iff]
  intro bounds rest reads
  obtain ⟨min, after, count, ends⟩ := reads_readBounds?_iff.mp reads
  have stops : after ≠ [] := by
    rintro rfl
    exact ends
  exact reads_readBounds?_iff.mpr
    ⟨min, after ++ more, readCount?_append more count stops, ends.append more⟩

end TextQuery.Regex
