import TextQuery.Proofs.Regex.Parser
import TextQuery.Proofs.Regex.Spans
import TextQuery.Query.Pattern

/-!
# The expression of a term

The expression of a term without characters that mean something in expressions is a sequence of parts,
one for each character, between a space and the class of characters that may follow a word
(`parse?_expression`).
-/
set_option autoImplicit false

namespace TextQuery.Query

open Regex

/-! ## Parts -/

/-- The class of the characters in brackets. -/
def bracket (negated : Bool) (chars : List Char) : CharSet :=
  (ClassFrame.addAll ⟨negated, none, .empty⟩ chars).close

/-- The parts of the expression that a character of a term becomes. -/
def parts (c : Char) : List Regex :=
  if c = '.' then [.set (bracket false ['.'])]
  else if c = '+' then [.set (bracket false ['+'])]
  else if c = '?' then [.set .notLineFeed]
  else if c = '*' then [.repeat (.set (bracket true [' '])) 0 none]
  else if c = Mark.join then [Regex.char ' ']
  else if c = Mark.opening then [Regex.char '(']
  else if c = Mark.closing then [Regex.char ')']
  else if c = Mark.quote then []
  else [Regex.char c]

/-- The character passes through to the expression and has no meaning there. -/
def IsLiteral (c : Char) : Prop := c ∉ ['\\', '[', '(', ')', '|', '\x7b', '^', '$']

instance (c : Char) : Decidable (IsLiteral c) := inferInstanceAs (Decidable (c ∉ _))

/-- A level with more items. -/
def pushAll (level : Level) (items : List Regex) : Level := items.foldl Level.push level

theorem parseLevel?_single {c : Char} (plain : IsClassChar c) (noCaret : c ≠ '^')
    (outer : List Level) (level : Level) (rest : List Char) :
    parseLevel? outer level ('[' :: c :: ']' :: rest) =
      parseLevel? outer (level.push (.set (bracket false [c]))) rest :=
  parseLevel?_bracket (reads_readBracket? (List.forall_mem_singleton.mpr plain) noCaret rest)

theorem parseLevel?_noSpaces (outer : List Level) (level : Level) (rest : List Char) :
    parseLevel? outer level ('[' :: '^' :: ' ' :: ']' :: '*' :: rest) =
      parseLevel? outer (level.push (.repeat (.set (bracket true [' '])) 0 none)) rest := by
  have plain : ∀ d ∈ [' '], IsClassChar d := List.forall_mem_singleton.mpr (by decide)
  exact (parseLevel?_bracket (reads_readBracket?_negated plain ('*' :: rest))).trans
    (parseLevel?_star _ rest)

/-- Reading what a character becomes adds its parts to the level. -/
theorem parseLevel?_expandChar {c : Char} (literal : IsLiteral c) (outer : List Level) (level : Level)
    (rest : List Char) :
    parseLevel? outer level (expandChar c ++ rest) =
      parseLevel? outer (pushAll level (parts c)) rest := by
  have dot : "[.]".toList = ['[', '.', ']'] := by decide
  have plus : "[+]".toList = ['[', '+', ']'] := by decide
  have any : ".".toList = ['.'] := by decide
  have star : "[^ ]*".toList = ['[', '^', ' ', ']', '*'] := by decide
  have opening : "\\(".toList = ['\\', '('] := by decide
  have closing : "\\)".toList = ['\\', ')'] := by decide
  unfold expandChar parts
  rw [dot, plus, any, star, opening, closing]
  split
  · exact parseLevel?_single (by decide) (by decide) outer level rest
  split
  · exact parseLevel?_single (by decide) (by decide) outer level rest
  split
  · exact parseLevel?_any rest
  split
  · exact parseLevel?_noSpaces outer level rest
  split
  · exact parseLevel?_char (by decide) rest
  split
  · exact parseLevel?_paren (Or.inl rfl) rest
  split
  · exact parseLevel?_paren (Or.inr rfl) rest
  split
  · rfl
  · refine parseLevel?_char ?_ rest
    simp_all [IsLiteral, IsPlainChar]

theorem pushAll_append (level : Level) (first second : List Regex) :
    pushAll level (first ++ second) = pushAll (pushAll level first) second :=
  List.foldl_append

theorem parseLevel?_expandAll {term : List Char} (literal : ∀ c ∈ term, IsLiteral c)
    (outer : List Level) (level : Level) (rest : List Char) :
    parseLevel? outer level (term.flatMap expandChar ++ rest) =
      parseLevel? outer (pushAll level (term.flatMap parts)) rest := by
  induction term generalizing level with
  | nil => rfl
  | cons c term ih =>
    obtain ⟨first, others⟩ := List.forall_mem_cons.mp literal
    rw [List.flatMap_cons, List.append_assoc, parseLevel?_expandChar first, ih others,
      List.flatMap_cons, pushAll_append]

/-! ## The whole expression -/

/-- The class of characters that may follow a term. -/
def endClass : Regex := .set (bracket false ['?', '!', ',', '.', ' '])

/-- The sequence of the parts, before the end of the expression. -/
def sequence (items : List Regex) : Regex := items.foldr .seq endClass

theorem items_pushAll (level : Level) (items : List Regex) :
    (pushAll level items).items = items.reverse ++ level.items := by
  induction items generalizing level with
  | nil => rfl
  | cons item rest ih =>
    rw [List.reverse_cons, List.append_assoc]
    exact ih (level.push item)

theorem alternatives_pushAll (level : Level) (items : List Regex) :
    (pushAll level items).alternatives = level.alternatives := by
  induction items generalizing level with
  | nil => rfl
  | cons item rest ih => exact ih (level.push item)

theorem close_pushAll (items : List Regex) :
    ((pushAll .start items).push endClass).close = sequence items := by
  rw [Level.close, Level.push]
  dsimp only
  rw [alternatives_pushAll, Level.sequence]
  dsimp only
  rw [items_pushAll, List.foldl_append, List.foldl_reverse]
  rfl

/-- The class behind the term is the last item. -/
theorem parseLevel?_wordEnd (level : Level) :
    parseLevel? [] level wordEnd = some (level.push endClass).close := by
  have wordEnd_eq : wordEnd = ['[', '?', '!', ',', '.', ' ', ']'] := by decide
  have plain : ∀ d ∈ ['?', '!', ',', '.', ' '], IsClassChar d := by simp [IsClassChar]
  calc
    parseLevel? [] level wordEnd
    _ = parseLevel? [] (level.push endClass) [] := by
      rw [wordEnd_eq]
      exact parseLevel?_bracket (reads_readBracket? plain (by decide) [])
    _ = some (level.push endClass).close := by
      rw [parseLevel?.eq_def]
      rfl

/-- A term of literal characters has an expression, which is the sequence of its parts. -/
theorem parse?_expression {term : List Char} (literal : ∀ c ∈ term, IsLiteral c) :
    Regex.parse? (expression term) = some (sequence (Regex.char ' ' :: term.flatMap parts)) := by
  have level_eq : pushAll (Level.start.push (Regex.char ' ')) (term.flatMap parts) =
      pushAll .start (Regex.char ' ' :: term.flatMap parts) := rfl
  calc
    Regex.parse? (expression term)
    _ = parseLevel? [] (Level.start.push (Regex.char ' ')) (term.flatMap expandChar ++ wordEnd) :=
      parseLevel?_char (by decide) _
    _ = parseLevel? [] (pushAll .start (Regex.char ' ' :: term.flatMap parts)) wordEnd := by
      rw [parseLevel?_expandAll literal, level_eq]
    _ = some ((pushAll .start (Regex.char ' ' :: term.flatMap parts)).push endClass).close :=
      parseLevel?_wordEnd _
    _ = some (sequence (Regex.char ' ' :: term.flatMap parts)) := congrArg some (close_pushAll _)

/-- The pattern of a term of literal characters. -/
def Pattern.ofLiteral (term : List Char) (literal : ∀ c ∈ term, IsLiteral c) : Pattern :=
  ⟨term, sequence (Regex.char ' ' :: term.flatMap parts), parse?_expression literal⟩

theorem Pattern.ofTerm?_ofLiteral {term : List Char} (literal : ∀ c ∈ term, IsLiteral c) :
    ofTerm? term = some (ofLiteral term literal) := by
  have compiles := parse?_expression literal
  unfold ofTerm?
  split
  · rename_i regex compiled
    rw [compiles] at compiled
    obtain rfl := Option.some.inj compiled
    rfl
  · rename_i refused
    rw [compiles] at refused
    contradiction

/-! ## What the parts match -/

theorem contains_single {c d : Char} : (CharSet.single d).contains c = true ↔ c = d := by
  simp only [CharSet.single, CharSet.contains, Unicode.inRanges, Unicode.inRange, List.any_cons,
    List.any_nil, Bool.or_false, Bool.and_eq_true, decide_eq_true_eq]
  rw [← Char.toNat_inj]
  omega

theorem contains_addAll {frame : ClassFrame} {chars : List Char} {c : Char} :
    (frame.addAll chars).items.contains c = true ↔ c ∈ chars ∨ frame.items.contains c = true := by
  induction chars generalizing frame with
  | nil => simp [ClassFrame.addAll]
  | cons d rest ih =>
    have step : frame.addAll (d :: rest) = (frame.add (.single d)).addAll rest := rfl
    rw [step, ih, ClassFrame.add, CharSet.contains, Bool.or_eq_true, contains_single, List.mem_cons]
    exact ⟨fun h => by rcases h with h | h | h <;> simp [h],
      fun h => by rcases h with (h | h) | h <;> simp [h]⟩

theorem close_addAll (negated : Bool) (items : CharSet) (chars : List Char) :
    (ClassFrame.addAll ⟨negated, none, items⟩ chars).close =
      if negated then .negated (ClassFrame.addAll ⟨negated, none, items⟩ chars).items
      else (ClassFrame.addAll ⟨negated, none, items⟩ chars).items := by
  induction chars generalizing items with
  | nil => rfl
  | cons d rest ih => exact ih _

theorem contains_bracket {chars : List Char} {c : Char} :
    (bracket false chars).contains c = true ↔ c ∈ chars := by
  rw [bracket, close_addAll, if_neg Bool.false_ne_true, contains_addAll]
  simp [CharSet.empty, CharSet.contains, Unicode.inRanges]

theorem contains_bracket_negated {chars : List Char} {c : Char} :
    (bracket true chars).contains c = true ↔ c ∉ chars := by
  rw [bracket, close_addAll, if_pos rfl, CharSet.contains, Bool.not_eq_true', ← Bool.not_eq_true,
    contains_addAll]
  simp [CharSet.empty, CharSet.contains, Unicode.inRanges]

theorem mem_spans_char {text : Array Char} {c : Char} {start stop : Nat} :
    stop ∈ (spans text (Regex.char c)).ends start ↔ text[start]? = some c ∧ stop = start + 1 := by
  rw [Regex.char, mem_spans_set]
  constructor
  · rintro ⟨d, found, contained, rfl⟩
    rw [contains_single.mp contained] at found
    exact ⟨found, rfl⟩
  · rintro ⟨found, rfl⟩
    exact ⟨c, found, contains_single.mpr rfl, rfl⟩

end TextQuery.Query
