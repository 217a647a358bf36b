import TextQuery.Proofs.Query.Rereading

/-!
# Printing and parsing again

The printed text of a parsed query gives the same condition, printed the same way, exactly if every term is
settled: it shows something, and normalizing what it shows changes nothing (`parse_toString_iff`). A word
that is printed without quotes is read back as its term unless it is spelled like a reference
(`parse_render_word`).
-/
set_option autoImplicit false

namespace TextQuery.Query

/-! ## Parsing what was printed -/

theorem toOption_mapError {α β γ : Type} (f : α → β) (result : Except α γ) :
    (result.mapError f).toOption = result.toOption := by
  cases result <;> rfl

theorem eq_ok_of_toOption {α β : Type} {result : Except α β} {value : β}
    (found : result.toOption = some value) : result = .ok value := by
  cases result with
  | error error => contradiction
  | ok other => exact congrArg Except.ok (Option.some.inj found)

theorem toOption_parse_of_readsAs {text : List Char} {closings : Nat} {found : Option (List Piece)}
    (reads : ReadsAs text closings found) (fits : closings ≤ maxCount) :
    (parse (String.ofList text)).toOption = found.bind fun pieces => (readLevel pieces).toOption := by
  have normalized : normalize (String.ofList text).toList = prepared (text ++ []) := by
    rw [String.toList_ofList, List.append_nil, normalize_eq_prepared reads.starts reads.ends]
  have few : (normalize (String.ofList text).toList).count ')' ≤ maxCount := by
    rw [normalized, reads.count .nil]
    exact fits
  have bare : Bare (normalize (String.ofList text).toList) := by
    rw [normalized]
    exact reads.bare .nil bare_nil
  rw [← toOption_mapError QueryError.fault, parse_agrees few bare, normalized, readQuery,
    reads.reads [] [] .nil]
  cases found with
  | none => rfl
  | some pieces =>
    have nothing : prepared [] = [] := rfl
    have ended : (endWord (pieces.reverse ++ []) []).reverse = pieces := by simp [endWord]
    rw [Option.bind_some, Option.bind_some, nothing, readFrom.eq_def]
    dsimp only
    rw [ended]

/-- A text has at least as many characters as groups close in it. -/
theorem ReadsAs.closings_le {text : List Char} {closings : Nat} {found : Option (List Piece)}
    (reads : ReadsAs text closings found) : closings ≤ text.length := by
  calc
    closings = (prepared (text ++ [])).count ')' := (reads.count .nil).symm
    _ = (normalize text).count ')' := by
      rw [List.append_nil, normalize_eq_prepared reads.starts reads.ends]
    _ ≤ text.length := count_normalize_le text

/-- Every operator but the outermost is printed between parentheses. -/
theorem Condition.Legible.operatorCount_le {condition : Condition} (legible : condition.Legible) :
    condition.operatorCount ≤ condition.toString.length + 1 := by
  cases legible with
  | leaf => exact Nat.zero_le _
  | joined joins each =>
    have reads := joins.readsAs_render fun operand member => (each operand member).returns
    have closings := reads.closings_le
    have length : condition.toString.length = condition.render.length := String.length_ofList
    rw [joins.operatorCount_eq, length]
    exact Nat.succ_le_succ closings

/-- A query with a condition holds no references, and reading it gives the condition. -/
theorem readQuery_of_parse {query : String} {condition : Condition} (fits : query.length ≤ maxCount)
    (run : parse query = .ok condition) :
    Bare (normalize query.toList) ∧ readQuery (normalize query.toList) = .ok condition := by
  have few : (normalize query.toList).count ')' ≤ maxCount :=
    Nat.le_trans (count_normalize_le query.toList) fits
  have bare : Bare (normalize query.toList) := by
    intro word member
    cases reference : groupNumber? word with
    | none => rfl
    | some number =>
      obtain ⟨error, refused⟩ := parse_written_reference few member (by rw [reference]; rfl)
      rw [run] at refused
      cases refused
  have read := parse_agrees few bare
  rw [run] at read
  exact ⟨bare, read.symm⟩

theorem sound_of_mem_referenceWord {number : Nat} {c : Char} (member : c ∈ referenceWord number) :
    Sound c := by
  rcases colon_or_isDigit_of_mem_referenceWord member with rfl | digit
  · exact ⟨by decide, by decide, by decide, by decide⟩
  · obtain ⟨inert, solid, inside, noQuote⟩ := of_isDigit digit
    exact ⟨solid, inside, straightQuote_of_even (Unicode.isOdd_of_isInert inert), noQuote⟩

/-- The terms of a parsed query are legible. -/
theorem legible_of_parse {query : String} {condition : Condition} (run : parse query = .ok condition) :
    condition.Legible := by
  refine parse_induction_words (fun words condition nonempty bare passing term => ?_)
    (fun conditions condition joins each => .joined joins each)
    (fun number c => sound_of_mem_referenceWord)
    (fun c member _ inside => sound_of_mem_normalize member inside) run
  obtain ⟨pattern, compiled, rfl⟩ := parseTerm_ok term
  exact .leaf (Pattern.legible_of_sound nonempty (fun word member => (passing word member).1)
    (fun word member => (passing word member).2) bare compiled)

/-- The operators of a parsed query are counts, but for the outermost. -/
theorem operatorCount_le_of_parse {query : String} {condition : Condition}
    (fits : query.length ≤ maxCount) (run : parse query = .ok condition) :
    condition.operatorCount ≤ maxCount + 1 := by
  have few := operatorCount_readQuery (readQuery_of_parse fits run).2
  have short := count_normalize_le query.toList
  have length : query.toList.length = query.length := rfl
  omega

/-- What is read back when a condition of legible terms is printed. -/
theorem Condition.Legible.toOption_parse {condition : Condition} (legible : condition.Legible)
    (few : condition.operatorCount ≤ maxCount + 1) :
    (parse condition.toString).toOption = condition.reread? := by
  cases legible with
  | leaf legible =>
    rw [← toOption_readLevel_pieces legible]
    exact toOption_parse_of_readsAs (readsAs_term legible) (Nat.zero_le _)
  | joined joins each =>
    have returns := fun operand member => (each operand member).returns
    rw [joins.operatorCount_eq] at few
    rw [← joins.bind_readLevel returns]
    exact toOption_parse_of_readsAs (joins.readsAs_render returns) (Nat.le_of_succ_le_succ few)

/-- Printing and parsing again reads every term again and keeps all else. -/
theorem toOption_parse_toString {query : String} {condition : Condition}
    (fits : query.length ≤ maxCount) (run : parse query = .ok condition) :
    (parse condition.toString).toOption = condition.reread? := by
  exact (legible_of_parse run).toOption_parse (operatorCount_le_of_parse fits run)

/-! ## Equal conditions -/

namespace Condition

theorem patternsOf_eq (operands : List Condition) : patternsOf operands = operands.flatMap patterns := by
  induction operands with
  | nil => rfl
  | cons operand rest ih => rw [patternsOf, ih, List.flatMap_cons]

end Condition

namespace Joins

variable {conditions : List Condition} {condition : Condition}

theorem patterns_eq (joins : Joins conditions condition) :
    condition.patterns = conditions.flatMap Condition.patterns := by
  cases joins with
  | or | and => exact Condition.patternsOf_eq conditions
  | not included excluded => simp [Condition.patterns]
  | near left right fits => simp [Condition.patterns]

/-- As many other operands can be joined in the same way. -/
theorem exists_rejoin? (joins : Joins conditions condition) {others : List Condition}
    (sameLength : others.length = conditions.length) :
    ∃ again, condition.rejoin? others = some again ∧ Joins others again ∧
      again.separator = condition.separator ∧
        ((again == condition) = true ↔ Condition.beqAll others conditions = true) := by
  cases joins with
  | or two => exact ⟨.or others, rfl, .or (sameLength ▸ two), rfl, Iff.rfl⟩
  | and two => exact ⟨.and others, rfl, .and (sameLength ▸ two), rfl, Iff.rfl⟩
  | not included excluded =>
    obtain ⟨first, second, rfl⟩ := List.length_eq_two.mp sameLength
    refine ⟨.not first second, rfl, .not first second, rfl, ?_⟩
    simp [Condition.beqAll, BEq.beq, Condition.beq]
  | @near left right distance fits =>
    obtain ⟨first, second, rfl⟩ := List.length_eq_two.mp sameLength
    refine ⟨.near first second distance, rfl, .near first second fits, rfl, ?_⟩
    simp [Condition.beqAll, BEq.beq, Condition.beq]

end Joins

/-! ## Settled terms -/

theorem exists_of_forall₂ {α β : Type} {r : α → β → Prop} {s : β → α → Prop} {xs : List α} {ys : List β}
    (first : List.Forall₂ r xs ys) (second : List.Forall₂ s ys xs) :
    ∀ x ∈ xs, ∃ y, r x y ∧ s y x := by
  induction first with
  | nil => exact fun _ member => absurd member List.not_mem_nil
  | cons head tail ih =>
    cases second with
    | cons headBack tailBack =>
      exact List.forall_mem_cons.mpr ⟨⟨_, head, headBack⟩, ih tailBack⟩

theorem exists_mapM? {α β : Type} {f : α → Option β} {s : β → α → Prop} {xs : List α}
    (each : ∀ x ∈ xs, ∃ y, f x = some y ∧ s y x) :
    ∃ ys, xs.mapM f = some ys ∧ List.Forall₂ s ys xs := by
  induction xs with
  | nil => exact ⟨[], rfl, .nil⟩
  | cons x rest ih =>
    obtain ⟨⟨y, found, related⟩, others⟩ := List.forall_mem_cons.mp each
    obtain ⟨ys, later, tail⟩ := ih others
    refine ⟨y :: ys, ?_, .cons related tail⟩
    rw [List.mapM_cons, found, later]
    rfl

theorem map_eq_map_of_forall₂ {α β γ : Type} {f : α → γ} {g : β → γ} {xs : List α} {ys : List β}
    (each : List.Forall₂ (fun x y => f x = g y) xs ys) : xs.map f = ys.map g := by
  induction each with
  | nil => rfl
  | cons head tail ih => rw [List.map_cons, List.map_cons, head, ih]

namespace Condition.Legible

theorem settled_of_reread? {condition again : Condition} (legible : condition.Legible)
    (read : condition.reread? = some again) (same : (again == condition) = true) :
    ∀ pattern ∈ condition.patterns, pattern.Settled := by
  induction legible generalizing again with
  | @leaf pattern legible =>
    intro other member
    obtain rfl := List.mem_singleton.mp member
    obtain ⟨term, readTerm, rfl⟩ := Option.map_eq_some_iff.mp read
    exact Pattern.settled_of_reread? legible readTerm same
  | @joined conditions condition joins each ih =>
    rw [joins.reread?_eq] at read
    obtain ⟨others, readOperands, rejoined⟩ := Option.bind_eq_some_iff.mp read
    have matched := forall₂_of_mapM? readOperands
    obtain ⟨result, made, -, -, equal⟩ := joins.exists_rejoin? matched.length_eq.symm
    obtain rfl := Option.some.inj (made.symm.trans rejoined)
    have operands := beqAll_iff.mp (equal.mp same)
    rw [joins.patterns_eq]
    intro pattern member
    obtain ⟨operand, inConditions, inOperand⟩ := List.mem_flatMap.mp member
    obtain ⟨back, readBack, sameBack⟩ := exists_of_forall₂ matched operands operand inConditions
    exact ih operand inConditions readBack sameBack pattern inOperand

theorem exists_reread?_of_settled {condition : Condition} (legible : condition.Legible)
    (settled : ∀ pattern ∈ condition.patterns, pattern.Settled) :
    ∃ again, condition.reread? = some again ∧ (again == condition) = true ∧
      again.render = condition.render ∧
        again.enclose again.render = condition.enclose condition.render := by
  induction legible with
  | @leaf pattern legible =>
    obtain ⟨again, read, same, text⟩ :=
      Pattern.reread?_of_settled legible (settled pattern List.mem_cons_self)
    exact ⟨.leaf again, by rw [reread?, read]; rfl, same, text, text⟩
  | @joined conditions condition joins each ih =>
    rw [joins.patterns_eq] at settled
    obtain ⟨others, readOperands, related⟩ := exists_mapM? fun operand member =>
      ih operand member fun pattern inOperand =>
        settled pattern (List.mem_flatMap.mpr ⟨operand, member, inOperand⟩)
    obtain ⟨again, made, joinsAgain, sameWord, equal⟩ := joins.exists_rejoin? related.length_eq
    have same : (again == condition) = true :=
      equal.mpr (beqAll_iff.mpr (related.imp fun _ _ both => both.1))
    have text : again.render = condition.render := by
      rw [joins.render_eq, joinsAgain.render_eq, sameWord,
        map_eq_map_of_forall₂ (related.imp fun _ _ both => both.2.2)]
    refine ⟨again, ?_, same, text, ?_⟩
    · rw [joins.reread?_eq, readOperands, Option.bind_some, made]
    · rw [joins.enclose_eq, joinsAgain.enclose_eq, text]

end Condition.Legible

/-- The printed text of a parsed query is parsed to an equal condition that prints the same text, exactly if
every term of the query is settled. -/
theorem parse_toString_iff {query : String} {condition : Condition} (fits : query.length ≤ maxCount)
    (run : parse query = .ok condition) :
    (∃ again, parse condition.toString = .ok again ∧ (again == condition) = true ∧
        again.toString = condition.toString) ↔
      ∀ pattern ∈ condition.patterns, pattern.Settled := by
  have legible := legible_of_parse run
  have reparse := toOption_parse_toString fits run
  constructor
  · rintro ⟨again, read, same, -⟩
    rw [read] at reparse
    exact legible.settled_of_reread? reparse.symm same
  · intro settled
    obtain ⟨again, read, same, text, -⟩ := legible.exists_reread?_of_settled settled
    refine ⟨again, ?_, same, congrArg String.ofList text⟩
    rw [read] at reparse
    cases result : parse condition.toString with
    | error error =>
      rw [result] at reparse
      contradiction
    | ok found =>
      rw [result] at reparse
      rw [Option.some.inj reparse]

/-- A query with a group, a phrase and a wildcard comes back. -/
theorem parse_toString_iff_sample :
    ∃ condition, parse "(a OR \"B  c\") NEAR/3 d*" = .ok condition ∧
      ∃ again, parse condition.toString = .ok again ∧ (again == condition) = true ∧
        again.toString = condition.toString := by
  have parses : (parse "(a OR \"B  c\") NEAR/3 d*").toOption.any
      (fun condition => condition.patterns.all fun pattern => decide pattern.Settled) = true := by
    decide +kernel
  cases run : parse "(a OR \"B  c\") NEAR/3 d*" with
  | error error =>
    simp [run, Except.toOption] at parses
  | ok condition =>
    rw [run] at parses
    have settled : ∀ pattern ∈ condition.patterns, pattern.Settled := by
      simpa [Except.toOption] using parses
    exact ⟨condition, rfl, (parse_toString_iff (by decide) run).mpr settled⟩

/-- A space at the end of a phrase and the space behind the phrase are printed side by side, and only one of
them is read back. -/
theorem parse_toString_collapsed :
    ∃ condition, parse "\"a \" b" = .ok condition ∧
      ∀ again, parse condition.toString = .ok again → (again == condition) = false := by
  have differs : (parse "\"a \" b").toOption.any (fun condition =>
      (parse condition.toString).toOption.all fun again => !(again == condition)) = true := by
    decide +kernel
  cases run : parse "\"a \" b" with
  | error error =>
    simp [run, Except.toOption] at differs
  | ok condition =>
    rw [run] at differs
    refine ⟨condition, rfl, fun again read => ?_⟩
    simpa [Except.toOption, read] using differs

/-! ## Words without quotes -/

/-- One word without quotes and parentheses, which normalizing and lower-casing leave as it is. -/
structure SettledWord (term : List Char) : Prop where
  nonempty : term ≠ []
  solid : ∀ c ∈ term, Unicode.isWhiteSpace c = false
  plain : ∀ c ∈ term, c ≠ '"' ∧ c ≠ '(' ∧ c ≠ ')'
  cleaned : Text.clean term = term
  lowered : Unicode.lower term = term

theorem settledWord_iff {term : List Char} : SettledWord term ↔ (term ≠ [] ∧
    term.all (fun c => !Unicode.isWhiteSpace c && c != '"' && c != '(' && c != ')') = true) ∧
      Text.clean term = term ∧ Unicode.lower term = term := by
  rw [List.all_eq_true]
  constructor
  · rintro ⟨nonempty, solid, plain, cleaned, lowered⟩
    refine ⟨⟨nonempty, fun c member => ?_⟩, cleaned, lowered⟩
    simp [solid c member, plain c member]
  · rintro ⟨⟨nonempty, each⟩, cleaned, lowered⟩
    simp only [Bool.and_eq_true, Bool.not_eq_true', bne_iff_ne, and_assoc] at each
    exact ⟨nonempty, fun c member => (each c member).1, fun c member => (each c member).2, cleaned, lowered⟩

instance (term : List Char) : Decidable (SettledWord term) := decidable_of_iff' _ settledWord_iff

theorem SettledWord.normalize_eq {term : List Char} (word : SettledWord term) : normalize term = term := by
  have noQuote : '"' ∉ term := fun member => (word.plain _ member).1 rfl
  have shielded := shieldQuotes_append noQuote []
  rw [List.append_nil] at shielded
  rw [normalize, Text.words_eq_singleton word.nonempty word.solid, Text.unwords, word.cleaned, shielded]
  exact List.append_nil term

/-- What a word that is printed without quotes is read back as. -/
theorem parse_render_word {term : List Char} {pattern : Pattern} (word : SettledWord term)
    (compiled : Pattern.ofTerm? term = some pattern) (unquoted : '"' ∉ pattern.render) :
    (groupNumber? term = none → parse (String.ofList pattern.render) = .ok (.leaf pattern)) ∧
      ∀ number, groupNumber? term = some number →
        parse (String.ofList pattern.render) = .error (.unknownGroup term) := by
  have same := Pattern.ofTerm?_term compiled
  have bare : pattern.needsQuotes = false := by
    refine Bool.eq_false_iff.mpr fun quoted => unquoted ?_
    rw [Pattern.render, if_pos quoted]
    exact List.mem_cons_self
  have inside : ∀ c ∈ pattern.term, c ≠ '(' ∧ c ≠ ')' := fun c member =>
    (word.plain c (same ▸ member)).2
  obtain ⟨shown, solid, noNear, noKeyword⟩ := Pattern.unquoted_of_needsQuotes inside bare
  have printed : pattern.render = term := by
    rw [Pattern.render, bare, if_neg Bool.false_ne_true, shown, same]
  rw [shown, same] at solid noNear noKeyword
  have run : parse (String.ofList pattern.render) = (parseOperand [] [term]).map Prod.fst := by
    rw [parse, String.toList_ofList, printed, parseChars, word.normalize_eq,
      parseNormalized_word word.nonempty solid word.solid noKeyword noNear]
  have lowered : Unicode.lower (Text.unwords [term]) = term := word.lowered
  constructor
  · intro noReference
    rw [run, parseOperand_word [] noReference, parseTerm, lowered, compiled]
    rfl
  · intro number reference
    rw [run, parseOperand, reference?, reference]
    rfl

/-- A word with a letter beyond ASCII and a wildcard comes back. -/
theorem parse_render_word_sample : ∃ pattern, Pattern.ofTerm? "caf\u00E9*".toList = some pattern ∧
    parse (String.ofList pattern.render) = .ok (.leaf pattern) := by
  have word : SettledWord "caf\u00E9*".toList := by decide +kernel
  have bare : (Pattern.ofTerm? "caf\u00E9*".toList).any (fun pattern => decide ('"' ∉ pattern.render)) = true := by
    decide +kernel
  obtain ⟨pattern, compiled, unquoted⟩ := (Option.any_eq_true _ _).mp bare
  exact ⟨pattern, compiled, (parse_render_word word compiled (of_decide_eq_true unquoted)).1 (by decide)⟩

/-- A reference that someone writes is printed without quotes, and it is not read back. -/
theorem parse_render_reference : ∃ pattern, Pattern.ofTerm? ":0:".toList = some pattern ∧
    '"' ∉ pattern.render ∧ SettledWord ":0:".toList ∧
      ":0:".toList.any Unicode.isReserved = false ∧
      ∀ condition, parse (String.ofList pattern.render) ≠ .ok condition := by
  have word : SettledWord ":0:".toList := by decide +kernel
  have refused : (Pattern.ofTerm? ":0:".toList).any (fun pattern => decide ('"' ∉ pattern.render) &&
      (parse (String.ofList pattern.render)).toOption.isNone) = true := by
    decide +kernel
  obtain ⟨pattern, compiled, refused⟩ := (Option.any_eq_true _ _).mp refused
  obtain ⟨unquoted, noCondition⟩ := (Bool.and_eq_true _ _).mp refused
  refine ⟨pattern, compiled, of_decide_eq_true unquoted, word, by decide, fun condition run => ?_⟩
  rw [run] at noCondition
  contradiction

end TextQuery.Query
