import TextQuery.Proofs.Query.Extent
import TextQuery.Proofs.Text.Spaced
import TextQuery.Report.Evaluation

/-!
# The words of a verdict

The verdict of a query is a match exactly if its condition covers a word, whether or not there is such a
word in the text. The words that are reported are those that are covered and that there are. In a text with
words none is left out if every match keeps the spaces of its term, and some is left if every match keeps
one (`Evaluation.matched_of_run`).
-/
set_option autoImplicit false

namespace TextQuery

open Query (Condition Pattern IsLiteral Divided bareExpression)
open Text (Normal Word spaced)

theorem Verdict.isMatch_ofBool (holds : Bool) : (Verdict.ofBool holds).isMatch = holds := by
  cases holds <;> rfl

/-- A record with words ends with a space, and has as many spaces before that one as it has words. -/
theorem Text.exists_body {text : String} (some : (Normal.ofString text).toWords ≠ []) :
    ∃ body, (Normal.ofString text).chars.toArray.toList = body ++ [' '] ∧
      body.count ' ' = (Normal.ofString text).toWords.length := by
  obtain ⟨-, solid, -⟩ := toWords_ofString text
  have shape := chars_ofString text
  rw [orBlank, if_neg some] at shape
  have ends : spaced (Normal.ofString text).toWords =
      unwords (Normal.ofString text).toWords ++ [' '] := flatMap_append_space some
  rw [ends, ← List.cons_append] at shape
  refine ⟨_, shape, ?_⟩
  have spaces := count_spaced solid
  rw [ends, List.count_append, List.count_singleton_self] at spaces
  rw [List.count_cons_self]
  exact spaces

namespace Evaluation

/-! ## Reported words -/

section Reported

variable {words : List Word} {positions : List Nat} {index : Nat} {word : String}

theorem map_fst_wordsAt :
    (wordsAt words positions).map Prod.fst = positions.filter (· < words.length) := by
  induction positions with
  | nil => rfl
  | cons position rest ih =>
    unfold wordsAt at ih ⊢
    by_cases inText : position < words.length
    · simp [inText, ih]
    · simp [inText, ih]

theorem word_of_mem_wordsAt (member : (index, word) ∈ wordsAt words positions) :
    ∃ inText : index < words.length, word = String.ofList words[index] := by
  obtain ⟨position, -, found⟩ := List.mem_filterMap.mp member
  obtain ⟨chars, inText, entry⟩ := Option.map_eq_some_iff.mp found
  obtain ⟨rfl, rfl⟩ := Prod.mk.inj entry
  obtain ⟨bound, rfl⟩ := List.getElem?_eq_some_iff.mp inText
  exact ⟨bound, rfl⟩

end Reported

/-! ## Runs -/

theorem run_eq_ok {query text : String} {evaluation : Evaluation}
    (run : Evaluation.run query text = .ok evaluation) :
    ∃ condition, Query.parse query = .ok condition ∧ evaluation = ofCondition query text condition := by
  unfold Evaluation.run at run
  cases parsed : Query.parse query with
  | error error =>
    rw [parsed] at run
    contradiction
  | ok condition =>
    rw [parsed] at run
    exact ⟨condition, rfl, (Except.ok.inj run).symm⟩

section Parsed

variable {query : String} {condition : Condition} (parsed : Query.parse query = .ok condition) (text : String)

include parsed

theorem isMatch_iff : (ofCondition query text condition).verdict.isMatch = true ↔
    ∃ index, index ∈ condition.wordIndices (Normal.ofString text).chars.toArray := by
  have two := Condition.wide_of_parse parsed
  have filled : ∀ operands, Condition.Part (.and operands) condition → operands ≠ [] := by
    intro operands inside empty
    have atLeast := two operands (Or.inr inside)
    rw [empty] at atLeast
    contradiction
  rw [ofCondition, Verdict.isMatch_ofBool]
  exact Condition.holdsIn_iff condition filled

/-- A query that does not match covers no words, so nothing depends on the verdict. -/
theorem matched_eq : (ofCondition query text condition).matched =
    wordsAt (Normal.ofString text).toWords
      (condition.wordIndices (Normal.ofString text).chars.toArray).toList := by
  by_cases isMatch : (ofCondition query text condition).verdict.isMatch = true
  · exact if_pos isMatch
  · have none : (condition.wordIndices (Normal.ofString text).chars.toArray).toList = [] := by
      refine List.eq_nil_iff_forall_not_mem.mpr fun index covered => ?_
      exact isMatch ((isMatch_iff parsed text).mpr ⟨index, covered⟩)
    rw [none]
    exact if_neg isMatch

/-- No covered word is left out if every match keeps the spaces of its term. -/
theorem positions_of_keeps (some : (Normal.ofString text).toWords ≠ [])
    (keeps : ∀ pattern ∈ condition.patterns,
      pattern.Keeps pattern.wordCount (Normal.ofString text).chars.toArray) :
    (ofCondition query text condition).matched.map Prod.fst =
      (condition.wordIndices (Normal.ofString text).chars.toArray).toList := by
  obtain ⟨body, shape, spaces⟩ := Text.exists_body some
  have below : ∀ index ∈ condition.wordIndices (Normal.ofString text).chars.toArray,
      index < (Normal.ofString text).toWords.length := by
    refine (Query.kept_below _).wordIndices (Condition.unresolved_of_parse parsed) ?_
    intro pattern member index covered
    rw [← spaces]
    exact (keeps pattern member).index_lt shape (Query.IndexSet.mem_ofList.mp covered)
  rw [matched_eq parsed, map_fst_wordsAt, List.filter_eq_self]
  intro index covered
  exact decide_eq_true (below index covered)

/-- A match leaves a word, the last one if no other, if every match keeps a space. -/
theorem matched_ne_nil_of_keeps (some : (Normal.ofString text).toWords ≠ [])
    (keeps : ∀ pattern ∈ condition.patterns, pattern.Keeps 1 (Normal.ofString text).chars.toArray)
    (isMatch : (ofCondition query text condition).verdict.isMatch = true) :
    (ofCondition query text condition).matched ≠ [] := by
  obtain ⟨body, shape, spaces⟩ := Text.exists_body some
  have positive : 0 < (Normal.ofString text).toWords.length := List.length_pos_of_ne_nil some
  have through : ∀ index ∈ condition.wordIndices (Normal.ofString text).chars.toArray,
      body.count ' ' - 1 < index →
        body.count ' ' - 1 ∈ condition.wordIndices (Normal.ofString text).chars.toArray := by
    refine (Query.kept_through _).wordIndices (Condition.unresolved_of_parse parsed) ?_
    intro pattern member index covered beyond
    rw [Query.IndexSet.mem_ofList] at covered ⊢
    exact (keeps pattern member).mem_last shape covered (by omega)
  obtain ⟨index, covered⟩ := (isMatch_iff parsed text).mp isMatch
  obtain ⟨kept, inside, inText⟩ : ∃ kept ∈ condition.wordIndices (Normal.ofString text).chars.toArray,
      kept < (Normal.ofString text).toWords.length := by
    by_cases beyond : body.count ' ' - 1 < index
    · exact ⟨_, through index covered beyond, by omega⟩
    · exact ⟨index, covered, by omega⟩
  have reported : kept ∈ (ofCondition query text condition).matched.map Prod.fst := by
    rw [matched_eq parsed, map_fst_wordsAt]
    exact List.mem_filter.mpr ⟨inside, decide_eq_true inText⟩
  intro none
  rw [none] at reported
  exact List.not_mem_nil reported

end Parsed

/-- What is reported of a query on a text. -/
theorem matched_of_run {query text : String} {evaluation : Evaluation}
    (run : Evaluation.run query text = .ok evaluation) :
    ∃ condition words chars, Query.parse query = .ok condition ∧
      words = (Normal.ofString text).toWords ∧ chars = (Normal.ofString text).chars.toArray ∧
      (evaluation.verdict.isMatch = true ↔ ∃ index, index ∈ condition.wordIndices chars) ∧
      evaluation.matched.map Prod.fst =
        (condition.wordIndices chars).toList.filter (· < words.length) ∧
      (evaluation.matched.map Prod.fst).Pairwise (· < ·) ∧
      (∀ index word, (index, word) ∈ evaluation.matched →
        ∃ inText : index < words.length, word = String.ofList words[index]) ∧
      (evaluation.matched ≠ [] → evaluation.verdict.isMatch = true) ∧
      (words ≠ [] → (∀ pattern ∈ condition.patterns, pattern.Keeps 1 chars) →
        evaluation.verdict.isMatch = true → evaluation.matched ≠ []) ∧
      (words ≠ [] → (∀ pattern ∈ condition.patterns, pattern.Keeps pattern.wordCount chars) →
        evaluation.matched.map Prod.fst = (condition.wordIndices chars).toList) ∧
      ∀ pattern ∈ condition.patterns,
        ((∀ c ∈ pattern.term, IsLiteral c) → pattern.Keeps pattern.wordCount chars) ∧
        ∀ inner, Regex.parse? (bareExpression pattern.term) = some inner →
          ¬Divided pattern.term → pattern.Keeps 1 chars := by
  obtain ⟨condition, parsed, rfl⟩ := run_eq_ok run
  have matched := matched_eq parsed text
  refine ⟨condition, _, _, parsed, rfl, rfl, isMatch_iff parsed text, ?_, ?_, ?_, ?_, ?_, ?_, ?_⟩
  · rw [matched, map_fst_wordsAt]
  · rw [matched, map_fst_wordsAt]
    exact (Query.IndexSet.ascending _).filter _
  · intro index word member
    rw [matched] at member
    exact word_of_mem_wordsAt member
  · intro left
    by_contra noMatch
    exact left (if_neg noMatch)
  · exact matched_ne_nil_of_keeps parsed text
  · exact positions_of_keeps parsed text
  · intro pattern member
    refine ⟨fun literal => Pattern.keeps_of_literal literal _, fun inner standsAlone undivided => ?_⟩
    exact Pattern.keeps_one_of_undivided standsAlone undivided _

theorem exists_run (query text : String) (holds : Condition → Evaluation → Bool)
    (checked : (Query.parse query).toOption.any
      (fun condition => holds condition (ofCondition query text condition)) = true) :
    ∃ condition evaluation, Query.parse query = .ok condition ∧
      Evaluation.run query text = .ok evaluation ∧ holds condition evaluation = true := by
  obtain ⟨condition, found, checked⟩ := (Option.any_eq_true _ _).mp checked
  have parsed := Query.eq_ok_of_toOption found
  refine ⟨condition, _, parsed, ?_, checked⟩
  rw [Evaluation.run, parsed]
  rfl

theorem matched_of_run_sample : ∃ condition evaluation,
    Query.parse "new lens* OR colou?r" = .ok condition ∧
      Evaluation.run "new lens* OR colou?r" "A new lens, colour" = .ok evaluation ∧
      evaluation.matched.map Prod.fst =
        (condition.wordIndices (Normal.ofString "A new lens, colour").chars.toArray).toList := by
  obtain ⟨condition, evaluation, parsed, run, literal⟩ :=
    exists_run "new lens* OR colou?r" "A new lens, colour"
      (fun condition _ => condition.patterns.all fun pattern => pattern.term.all (IsLiteral ·))
      (by decide +kernel)
  simp only [List.all_eq_true, decide_eq_true_eq] at literal
  obtain ⟨same, _, _, parsedSame, rfl, rfl, -, -, -, -, -, -, complete, keeps⟩ := matched_of_run run
  obtain rfl := Except.ok.inj (parsed.symm.trans parsedSame)
  refine ⟨condition, evaluation, parsed, run, complete (by decide +kernel) ?_⟩
  intro pattern member
  exact (keeps pattern member).1 (literal pattern member)

theorem exists_unreported {query text : String}
    (checked : (Query.parse query).toOption.any (fun condition =>
      condition.patterns.all (fun pattern => !pattern.matchesIn #[]) &&
        decide ((ofCondition query text condition).verdict = .matched ∧
          (ofCondition query text condition).matched = [])) = true) :
    ∃ condition evaluation, Query.parse query = .ok condition ∧
      Evaluation.run query text = .ok evaluation ∧
      (∀ pattern ∈ condition.patterns, pattern.matchesIn #[] = false) ∧
      evaluation.verdict.isMatch = true ∧ evaluation.matched = [] := by
  obtain ⟨condition, evaluation, parsed, run, holds⟩ := exists_run query text (fun condition evaluation =>
    condition.patterns.all (fun pattern => !pattern.matchesIn #[]) &&
      decide (evaluation.verdict = .matched ∧ evaluation.matched = [])) checked
  simp only [Bool.and_eq_true, List.all_eq_true, Bool.not_eq_true', decide_eq_true_eq] at holds
  exact ⟨condition, evaluation, parsed, run, holds.1, congrArg Verdict.isMatch holds.2.1, holds.2.2⟩

/-- A record without words has none to report, a match may begin in the last word, and a term may ask for
a space that its match does without. -/
theorem matched_left_out :
    (∃ condition evaluation, Query.parse "*" = .ok condition ∧ Evaluation.run "*" "" = .ok evaluation ∧
      (∀ pattern ∈ condition.patterns, pattern.matchesIn #[] = false) ∧
      evaluation.verdict.isMatch = true ∧ evaluation.matched = []) ∧
    (∃ condition evaluation, Query.parse "a|b" = .ok condition ∧
      Evaluation.run "a|b" "xb" = .ok evaluation ∧
      (∀ pattern ∈ condition.patterns, pattern.matchesIn #[] = false) ∧
      evaluation.verdict.isMatch = true ∧ evaluation.matched = []) ∧
    ∃ condition evaluation, Query.parse "\"x[ y]\"" = .ok condition ∧
      Evaluation.run "\"x[ y]\"" "xy" = .ok evaluation ∧
      (∀ pattern ∈ condition.patterns, pattern.matchesIn #[] = false) ∧
      1 ∈ condition.wordIndices (Normal.ofString "xy").chars.toArray ∧
        evaluation.matched = [(0, "xy")] := by
  refine ⟨exists_unreported (by decide +kernel), exists_unreported (by decide +kernel), ?_⟩
  obtain ⟨condition, evaluation, parsed, run, holds⟩ :=
    exists_run "\"x[ y]\"" "xy" (fun condition evaluation =>
      condition.patterns.all (fun pattern => !pattern.matchesIn #[]) &&
        decide (1 ∈ (condition.wordIndices (Normal.ofString "xy").chars.toArray).toList ∧
          evaluation.matched = [(0, "xy")])) (by decide +kernel)
  simp only [Bool.and_eq_true, List.all_eq_true, Bool.not_eq_true', decide_eq_true_eq] at holds
  exact ⟨condition, evaluation, parsed, run, holds.1, holds.2.1, holds.2.2⟩

end Evaluation

end TextQuery
