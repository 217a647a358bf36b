import TextQuery.Proofs.Query.Levels

/-!
# Groups that are left

A reference takes one group out of the table, and a group that closes puts one in. A query that is
parsed therefore holds no more references than groups that close in it, and none that its user wrote.
-/
set_option autoImplicit false

namespace TextQuery.Query

open Text (Word words unwords)

/-- The number of groups that have not been taken. -/
def live (groups : Groups) : Nat := groups.countP Option.isSome

theorem live_concat (groups : Groups) (condition : Condition) :
    live (groups ++ [some condition]) = live groups + 1 := by
  simp [live]

/-- So many groups of the table have been taken. -/
def Took (count : Nat) (groups left : Groups) : Prop :=
  left.length = groups.length ∧ live left + count = live groups

theorem took_set {groups : Groups} {number : Nat} {condition : Condition}
    (held : groups[number]? = some (some condition)) : Took 1 groups (groups.set number none) := by
  obtain ⟨inside, entry⟩ := List.getElem?_eq_some_iff.mp held
  have positive : 0 < live groups :=
    List.countP_pos_iff.mpr ⟨_, List.mem_of_getElem? held, rfl⟩
  refine ⟨List.length_set, ?_⟩
  rw [live, List.countP_set inside, entry]
  simp only [Option.isSome_some, Option.isSome_none, if_true, Bool.false_eq_true, if_false]
  exact Nat.sub_add_cancel positive

/-! ## What one level takes -/

section Level

variable {groups left : Groups}

theorem took_parseOperand {words : List Word} {condition : Condition}
    (run : parseOperand groups words = .ok (condition, left)) :
    Took (references words).length groups left := by
  obtain ⟨word, number, rfl, reference, held, rfl⟩ | ⟨noReference, -, rfl⟩ := parseOperand_ok run
  · simpa [references, reference] using took_set held
  · rw [references, List.filterMap_eq_nil_iff.mpr noReference]
    exact ⟨rfl, rfl⟩

theorem took_parseOperands {operands : List (List Word)} {conditions : List Condition}
    (run : parseOperands groups operands = .ok (conditions, left)) :
    Took (operands.flatMap references).length groups left := by
  induction operands generalizing groups conditions with
  | nil =>
    obtain ⟨-, rfl⟩ := Prod.mk.inj (Except.ok.inj run)
    exact ⟨rfl, rfl⟩
  | cons operand rest ih =>
    obtain ⟨condition, others, between, rfl, first, later⟩ := parseOperands_cons_ok run
    obtain ⟨lengthFirst, liveFirst⟩ := took_parseOperand first
    obtain ⟨lengthRest, liveRest⟩ := ih later
    refine ⟨lengthRest.trans lengthFirst, ?_⟩
    rw [List.flatMap_cons, List.length_append]
    omega

/-- A level takes as many groups as it has references. -/
theorem took_parseWords {words : List Word} {condition : Condition}
    (run : parseWords groups words = .ok (condition, left)) :
    Took (references words).length groups left := by
  rcases parseWords_cases run with
    ⟨-, alone⟩ | ⟨isSeparator, conditions, spares, -, operands, -⟩
  · exact took_parseOperand alone
  · rw [← flatMap_references_splitAtWords isSeparator spares]
    exact took_parseOperands operands

end Level

/-! ## What a whole query takes -/

/-- Text in which a group may still be open, but none closes, and whose blanks are spaces. -/
def Plain (text : List Char) : Prop :=
  ∀ c ∈ text, c ≠ ')' ∧ (Unicode.isWhiteSpace c = true → c = ' ')

/-- The runs of a text without parentheses are its words. -/
theorem runs_eq_words {text : List Char} (plain : Plain text) (flat : '(' ∉ text) :
    runs text = words text := by
  refine Text.splitWords_congr fun c member => ?_
  have unopened : c ≠ '(' := fun same => flat (same ▸ member)
  obtain ⟨unclosed, spaces⟩ := plain c member
  by_cases space : c = ' '
  · rw [space]
    decide
  · rw [Bool.eq_false_iff.mpr fun blank => space (spaces blank)]
    simp [isDelimiter, space, unopened, unclosed]

theorem runs_append_cons {c : Char} (delimiter : isDelimiter c = true) (left right : List Char) :
    runs (left ++ c :: right) = runs left ++ runs right :=
  Text.splitWords_append_cons delimiter left right

/-- The word that a delimiter ends passes, and so do those behind the delimiter. -/
theorem passed_of_runs {test : Word → Prop} {word : List Char} {c : Char} {rest : List Char}
    (solid : ∀ d ∈ word, isDelimiter d = false) (delimiter : isDelimiter c = true)
    (passed : ∀ run ∈ runs (word.reverse ++ c :: rest), test run) :
    (word ≠ [] → test word.reverse) ∧ ∀ run ∈ runs rest, test run := by
  have solidReverse : ∀ d ∈ word.reverse, isDelimiter d = false := fun d member =>
    solid d (List.mem_reverse.mp member)
  rw [runs, Text.splitWords_run_cons solidReverse delimiter] at passed
  refine ⟨fun nonempty => passed _ (List.mem_append_left _ ?_), fun run member =>
    passed run (List.mem_append_right _ member)⟩
  rw [if_neg (by simpa using nonempty)]
  exact List.mem_singleton_self _

/-- A group in a text, whose references are those of its words. -/
theorem references_runs_group {inside : List Char} (plain : Plain inside) (flat : '(' ∉ inside)
    (left right : List Char) :
    references (runs (left ++ '(' :: inside ++ ')' :: right)) =
      references (runs left) ++ references (words inside) ++ references (runs right) := by
  rw [runs_append_cons (by decide), runs_append_cons (by decide), runs_eq_words plain flat,
    references_append, references_append]

/-- The reference that takes the place of a group. -/
theorem references_runs_referenceText {number : Nat} (fits : number ≤ maxCount)
    (left right : List Char) :
    references (runs (left ++ referenceText number ++ right)) =
      references (runs left) ++ number :: references (runs right) := by
  have shape : left ++ referenceText number ++ right =
      left ++ ' ' :: (referenceWord number ++ ' ' :: right) := by
    simp [referenceText_eq]
  have single : runs (referenceWord number) = [referenceWord number] :=
    Text.splitWords_eq_singleton (List.cons_ne_nil _ _) fun _ member => (of_mem_referenceWord member).2
  rw [shape, runs_append_cons (by decide), runs_append_cons (by decide), single,
    List.singleton_append, references_append, references_cons, groupNumber?_referenceWord fits]
  rfl

theorem plain_referenceText (number : Nat) : Plain (referenceText number) := by
  intro c member
  rw [referenceText_eq] at member
  rcases List.mem_cons.mp member with rfl | member
  · decide
  rcases List.mem_append.mp member with inWord | last
  · obtain ⟨notBlank, noDelimiter⟩ := of_mem_referenceWord inWord
    refine ⟨?_, fun blank => ?_⟩
    · rintro rfl
      contradiction
    · rw [notBlank] at blank
      contradiction
  · rw [List.mem_singleton.mp last]
    decide

theorem Plain.reverse {text : List Char} (plain : Plain text) : Plain text.reverse :=
  fun c member => plain c (List.mem_reverse.mp member)

/-- A text that is parsed holds no more references than there are groups for them. -/
theorem length_references_of_parsesTo {groups : Groups} {read rest : List Char} {condition : Condition}
    (parses : ParsesTo condition groups read rest) (plain : Plain read)
    (blanks : ∀ c ∈ rest, Unicode.isWhiteSpace c = true → c = ' ')
    (fits : groups.length + rest.count ')' ≤ maxCount) :
    (references (runs (read.reverse ++ rest))).length ≤ live groups := by
  induction parses with
  | level flat run =>
    rw [List.append_nil, runs_eq_words plain.reverse (by simpa using flat)]
    exact (took_parseWords run).2 ▸ Nat.le_add_left _ _
  | @group groups left inside outside rest inner flat run _ ih =>
    obtain ⟨sameLength, taken⟩ := took_parseWords run
    have plainInside : Plain inside.reverse :=
      Plain.reverse fun c member => plain c (List.mem_append_left _ member)
    have plainNext : Plain ((referenceText left.length).reverse ++ outside) := by
      intro c member
      rcases List.mem_append.mp member with new | old
      · exact (plain_referenceText _).reverse c new
      · exact plain c (List.mem_append_right _ (List.mem_cons_of_mem _ old))
    rw [List.count_cons_self] at fits
    have later := ih plainNext (fun d member => blanks d (List.mem_cons_of_mem _ member)) (by
      rw [List.length_append, List.length_singleton]
      omega)
    -- The reference of the group takes the place of those inside it.
    have before : (inside ++ '(' :: outside).reverse ++ ')' :: rest =
        outside.reverse ++ '(' :: inside.reverse ++ ')' :: rest := by
      simp
    rw [List.reverse_append, List.reverse_reverse, references_runs_referenceText (by omega),
      live_concat, List.length_append, List.length_cons] at later
    rw [before, references_runs_group plainInside (by simpa using flat), List.length_append,
      List.length_append]
    omega
  | @letter groups read rest c unclosed _ ih =>
    obtain ⟨blank, blanksRest⟩ := List.forall_mem_cons.mp blanks
    have later := ih (List.forall_mem_cons.mpr ⟨⟨unclosed, blank⟩, plain⟩) blanksRest
      (by simpa [List.count_cons_of_ne unclosed] using fits)
    simpa using later

/-- A query in which the user has written a reference has no condition. -/
theorem parse_written_reference {query : String}
    (few : (normalize query.toList).count ')' ≤ maxCount) {word : Word}
    (member : word ∈ runs (normalize query.toList)) (reference : (groupNumber? word).isSome = true) :
    ∃ error, parse query = .error error := by
  cases run : parse query with
  | error error => exact ⟨error, rfl⟩
  | ok condition =>
    exfalso
    have bound := length_references_of_parsesTo (parsesTo_of_parse run)
      (fun _ member => absurd member List.not_mem_nil)
      (fun c member => eq_space_of_mem_normalize member) (by simpa using few)
    have absent : references (runs (normalize query.toList)) = [] := by
      simpa [live] using bound
    obtain ⟨number, found⟩ := Option.isSome_iff_exists.mp reference
    have present : number ∈ references (runs (normalize query.toList)) :=
      List.mem_filterMap.mpr ⟨word, member, found⟩
    rw [absent] at present
    exact List.not_mem_nil present

end TextQuery.Query
