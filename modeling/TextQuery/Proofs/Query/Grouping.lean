import TextQuery.Proofs.Query.Roundtrip

/-!
# Queries inside queries

A query in parentheses is read inside another query as it is read alone, if its double quotes come in pairs
(`readsAs_group`). So queries in parentheses can be joined by any operator, and the whole stands for what the
operator makes of their conditions (`parse_joined`).
-/
set_option autoImplicit false

namespace TextQuery.Query

open Text (Word words unwords clean squeeze)
open Unicode (isWhiteSpace)

/-! ## Pairs of quotes -/

/-- A double quote, straight or curly. -/
def isDoubleQuote (c : Char) : Bool := c = '"' || c = '\u201C' || c = '\u201D'

/-- The double quotes come in pairs. -/
def Paired (text : List Char) : Prop := text.countP isDoubleQuote % 2 = 0

instance (text : List Char) : Decidable (Paired text) :=
  inferInstanceAs (Decidable (text.countP isDoubleQuote % 2 = 0))

theorem straightQuote_eq_quote_iff (c : Char) : Text.straightQuote c = '"' ↔ isDoubleQuote c = true := by
  rw [isDoubleQuote, Bool.or_eq_true, Bool.or_eq_true, decide_eq_true_eq, decide_eq_true_eq,
    decide_eq_true_eq, or_assoc]
  unfold Text.straightQuote
  split
  · decide
  · decide
  · decide
  · decide
  · rename_i left right _ _
    exact ⟨Or.inl, fun quote => quote.elim id fun curly => (curly.elim left right).elim⟩

theorem count_quote_clean (text : List Char) : (clean text).count '"' = text.countP isDoubleQuote := by
  rw [clean, count_nfc (by decide), List.count, List.countP_map]
  refine List.countP_congr fun c _ => ?_
  rw [Function.comp_apply, beq_iff_eq, straightQuote_eq_quote_iff]

theorem isDoubleQuote_of_blank (c : Char) (blank : isWhiteSpace c = true) : isDoubleQuote c = false := by
  cases quote : isDoubleQuote c with
  | false => rfl
  | true =>
    simp only [isDoubleQuote, Bool.or_eq_true, decide_eq_true_eq, or_assoc] at quote
    rcases quote with rfl | rfl | rfl <;> contradiction

namespace QuoteState

/-- Where the reading stands after one more character. -/
def next : QuoteState → Char → QuoteState
  | outside, c => if c = '"' then opened else outside
  | opened, c | inside, c => if c = '"' then outside else inside

/-- The quotes that wait for their end. -/
def pending : QuoteState → Nat
  | outside => 0
  | opened | inside => 1

/-- After an even number of quotes the reading is outside of them. -/
theorem foldl_next_eq_outside_iff (state : QuoteState) (text : List Char) :
    text.foldl next state = outside ↔ (text.count '"' + state.pending) % 2 = 0 := by
  induction text generalizing state with
  | nil => cases state <;> simp [pending]
  | cons c rest ih =>
    rw [List.foldl_cons, ih]
    by_cases quote : c = '"'
    · rw [quote, List.count_cons_self]
      cases state <;> simp only [next, pending, if_true] <;> omega
    · rw [List.count_cons_of_ne quote]
      cases state <;> simp only [next, pending, if_neg quote]

end QuoteState

theorem shieldFrom_append (state : QuoteState) (left right : List Char) :
    shieldFrom state (left ++ right) =
      shieldFrom state left ++ shieldFrom (left.foldl QuoteState.next state) right := by
  induction left generalizing state with
  | nil => cases state <;> rfl
  | cons c rest ih =>
    by_cases quote : c = '"'
    · cases state <;> simp [shieldFrom, QuoteState.next, quote, ih]
    · cases state <;> simp [shieldFrom, QuoteState.next, quote, ih]

/-- Behind pairs of quotes the reading starts anew. -/
theorem shieldQuotes_append_of_paired {text : List Char} (paired : Paired text) (rest : List Char) :
    shieldQuotes (clean text ++ rest) = shieldQuotes (clean text) ++ shieldQuotes rest := by
  -- Cleaning straightens the quotes and makes no new ones, so their number stays even.
  have outside : (clean text).foldl QuoteState.next .outside = .outside := by
    rw [QuoteState.foldl_next_eq_outside_iff, count_quote_clean]
    exact paired
  rw [shieldQuotes, shieldFrom_append, outside]
  rfl

theorem paired_squeeze {text : List Char} (paired : Paired text) : Paired (squeeze text) := by
  rw [Paired, Text.countP_squeeze isDoubleQuote_of_blank]
  exact paired

theorem prepared_append_closing {text : List Char} (paired : Paired text) (rest : List Char) :
    prepared (text ++ ')' :: rest) = prepared text ++ ')' :: prepared rest := by
  rw [prepared, Text.squeeze_append_cons (by decide), Text.clean_append_cons (by decide) (by decide),
    shieldQuotes_append_of_paired (paired_squeeze paired)]
  rfl

theorem clean_spaces_append (count : Nat) (text : List Char) :
    clean (List.replicate count ' ' ++ text) = List.replicate count ' ' ++ clean text := by
  induction count with
  | zero => rfl
  | succ count ih =>
    rw [List.replicate_succ, List.cons_append, clean_cons (by decide) (by decide), ih]
    rfl

theorem clean_append_spaces (text : List Char) (count : Nat) :
    clean (text ++ List.replicate count ' ') = clean text ++ List.replicate count ' ' := by
  cases count with
  | zero => rw [List.replicate_zero, List.append_nil, List.append_nil]
  | succ count =>
    have spaces := clean_spaces_append count []
    rw [List.append_nil] at spaces
    rw [List.replicate_succ, Text.clean_append_cons (by decide) (by decide), spaces]
    exact congrArg (clean text ++ ' ' :: ·) (List.append_nil _)

theorem quote_not_mem_spaces (count : Nat) : '"' ∉ List.replicate count ' ' := by
  intro member
  have space := List.eq_of_mem_replicate member
  contradiction

theorem shieldQuotes_spaces (count : Nat) :
    shieldQuotes (List.replicate count ' ') = List.replicate count ' ' := by
  have alone := shieldQuotes_append (quote_not_mem_spaces count) []
  rw [List.append_nil] at alone
  exact alone.trans (List.append_nil _)

/-- Blanks at the ends leave nothing but spaces. -/
theorem exists_prepared_eq {text : List Char} (paired : Paired text) : ∃ before after,
    prepared text = List.replicate before ' ' ++ (normalize text ++ List.replicate after ' ') := by
  obtain ⟨before, after, shape⟩ : ∃ before after, squeeze text =
      List.replicate before ' ' ++ (unwords (words text) ++ List.replicate after ' ') := by
    obtain ⟨after, shape⟩ := Text.exists_squeeze_eq text
    by_cases blank : text.head?.any isWhiteSpace = true
    · exact ⟨1, after, by rw [shape, if_pos blank]; rfl⟩
    · exact ⟨0, after, by rw [shape, if_neg blank]; rfl⟩
  have pairedWords : Paired (unwords (words text)) := by
    have spaces : ∀ count, (List.replicate count ' ').countP isDoubleQuote = 0 := fun count =>
      List.countP_eq_zero.mpr fun c member => by rw [List.eq_of_mem_replicate member]; decide
    have same := paired_squeeze paired
    rwa [Paired, shape, List.countP_append, List.countP_append, spaces, spaces, Nat.zero_add,
      Nat.add_zero] at same
  refine ⟨before, after, ?_⟩
  rw [prepared, shape, clean_spaces_append, clean_append_spaces,
    shieldQuotes_append (quote_not_mem_spaces before), shieldQuotes_append_of_paired pairedWords,
    shieldQuotes_spaces]
  rfl

/-! ## A query as a group -/

section Spaces

variable (outer : List (List Piece)) (level : List Piece) (word rest : List Char) (count : Nat)

theorem readFrom_spaces :
    readFrom outer level [] (List.replicate count ' ' ++ rest) = readFrom outer level [] rest := by
  induction count with
  | zero => rfl
  | succ count ih =>
    rw [List.replicate_succ, List.cons_append, readFrom_space]
    exact ih

theorem readFrom_spaces_closing (around : List Piece) :
    readFrom (around :: outer) level word (List.replicate count ' ' ++ ')' :: rest) =
      readFrom (around :: outer) level word (')' :: rest) := by
  cases count with
  | zero => rfl
  | succ count =>
    rw [List.replicate_succ, List.cons_append, readFrom_space, readFrom_spaces, readFrom_closing,
      readFrom_closing]
    rfl

end Spaces

/-- What can be read to its end is read in the same way above other levels. The end of the group takes the
place of the end of the query. -/
theorem readFrom_enclosed {outer outermost : List (List Piece)} {level around : List Piece}
    {word text rest : List Char} {condition : Condition} (count : Nat)
    (read : readFrom outer level word text = .ok condition) :
    readFrom (outer ++ around :: outermost) level word
        (text ++ (List.replicate count ' ' ++ ')' :: rest)) =
      readFrom outermost (.group condition :: around) [] rest := by
  -- The levels that are open grow and shrink with the groups of the text, so all of them are general.
  induction text generalizing outer level word with
  | nil =>
    cases outer with
    | nil =>
      have whole : readLevel (endWord level word).reverse = .ok condition := by
        rwa [readFrom.eq_def] at read
      rw [List.nil_append, List.nil_append, readFrom_spaces_closing, readFrom_closing, whole]
    | cons => contradiction
  | cons c more ih =>
    rw [List.cons_append]
    by_cases delimiter : isDelimiter c = true
    · simp only [isDelimiter, Bool.or_eq_true, decide_eq_true_eq, or_assoc] at delimiter
      rcases delimiter with rfl | rfl | rfl
      · rw [readFrom_space] at read ⊢
        exact ih read
      · rw [readFrom_opening] at read ⊢
        exact ih read
      · cases outer with
        | nil => contradiction
        | cons inner outer =>
          rw [readFrom_closing] at read
          rw [List.cons_append, readFrom_closing]
          cases closed : readLevel (endWord level word).reverse with
          | error fault =>
            rw [closed] at read
            contradiction
          | ok group =>
            rw [closed] at read
            exact ih read
    · have solid := Bool.eq_false_iff.mpr delimiter
      rw [readFrom_letter _ _ _ _ solid] at read ⊢
      exact ih read

theorem bare_spaces (count : Nat) {rest : List Char} (bare : Bare rest) :
    Bare (List.replicate count ' ' ++ rest) := by
  induction count with
  | zero => exact bare
  | succ count ih => exact bare_cons (by decide) ih

theorem bare_append_spaces_closing (count : Nat) {left right : List Char} (bareLeft : Bare left)
    (bareRight : Bare right) : Bare (left ++ (List.replicate count ' ' ++ ')' :: right)) := by
  have behind : Bare (')' :: right) := bare_cons (by decide) bareRight
  cases count with
  | zero => exact bare_append_cons (by decide) bareLeft bareRight
  | succ count => exact bare_append_cons (by decide) bareLeft (bare_spaces count behind)

/-- A query in parentheses is one group, whatever stands around it. -/
theorem readsAs_group {text : List Char} {condition : Condition} (paired : Paired text)
    (bare : Bare (normalize text)) (read : readQuery (normalize text) = .ok condition) :
    ReadsAs ('(' :: text ++ [')']) ((normalize text).count ')' + 1) (some [.group condition]) := by
  obtain ⟨before, after, shape⟩ := exists_prepared_eq paired
  have cut : ∀ rest, prepared ('(' :: text ++ [')'] ++ rest) = '(' :: (List.replicate before ' ' ++
      (normalize text ++ (List.replicate after ' ' ++ ')' :: prepared rest))) := by
    intro rest
    have whole : '(' :: text ++ [')'] ++ rest = '(' :: (text ++ ')' :: rest) := by simp
    rw [whole, prepared_parenthesis (Or.inl rfl), prepared_append_closing paired, shape]
    simp only [List.append_assoc]
  -- What follows need not be closed: the parenthesis at the end keeps it apart.
  refine ⟨by simp, rfl, ?_, fun {rest} _ => ?_, fun {rest} _ bareRest => ?_,
    fun {rest} outer level _ => ?_⟩
  · rw [List.getLast?_concat]
    rfl
  · have noSpaces : ∀ count, (List.replicate count ' ').count ')' = 0 := fun count =>
      List.count_eq_zero.mpr fun member => absurd (List.eq_of_mem_replicate member) (by decide)
    rw [cut, List.count_cons_of_ne (by decide), List.count_append, List.count_append, List.count_append,
      noSpaces, noSpaces, List.count_cons_self]
    omega
  · rw [cut]
    exact bare_cons (by decide) (bare_spaces before (bare_append_spaces_closing after bare bareRest))
  · rw [cut, readFrom_opening, readFrom_spaces]
    exact congrArg Except.toOption (readFrom_enclosed after read)

/-! ## Queries that are joined -/

/-- A query that stands for a condition and has its double quotes in pairs. -/
structure Subquery (query : String) (condition : Condition) : Prop where
  paired : Paired query.toList
  parses : parse query = .ok condition

def grouped (query : String) : String := "(" ++ query ++ ")"

/-- Queries in parentheses with a word between neighbours. -/
def joinedBy (word : String) (queries : List String) : String :=
  (" " ++ word ++ " ").intercalate (queries.map grouped)

theorem toList_grouped (query : String) : (grouped query).toList = '(' :: query.toList ++ [')'] := by
  simp [grouped]

theorem toList_joinedBy (word : String) (queries : List String) : (joinedBy word queries).toList =
    (' ' :: word.toList ++ [' ']).intercalate (queries.map fun query => '(' :: query.toList ++ [')']) := by
  have groups : (queries.map grouped).map String.toList =
      queries.map fun query => '(' :: query.toList ++ [')'] := by
    rw [List.map_map]
    exact List.map_congr_left fun query _ => toList_grouped query
  rw [joinedBy, String.toList_intercalate, groups]
  simp

theorem length_le_length_intercalate {α : Type} {separator : List α} {lists : List (List α)}
    {list : List α} (member : list ∈ lists) : list.length ≤ (separator.intercalate lists).length := by
  induction lists with
  | nil => contradiction
  | cons first rest ih =>
    by_cases last : rest = []
    · have whole : separator.intercalate (first :: rest) = list := by
        rw [last, List.mem_singleton] at member
        rw [last, List.intercalate_singleton, member]
      exact Nat.le_of_eq (congrArg List.length whole.symm)
    · rw [List.intercalate_cons_of_ne_nil last, List.length_append, List.length_append]
      rcases List.mem_cons.mp member with rfl | later
      · omega
      · have shorter := ih later
        omega

theorem Subquery.readsAs {query : String} {condition : Condition} (subquery : Subquery query condition)
    (fits : query.length ≤ maxCount) :
    ReadsAs ('(' :: query.toList ++ [')']) ((normalize query.toList).count ')' + 1)
      ((parse query).toOption.map fun condition => [.group condition]) := by
  obtain ⟨bare, read⟩ := readQuery_of_parse fits subquery.parses
  rw [subquery.parses]
  exact readsAs_group subquery.paired bare read

theorem parse_of_readsAs {text : String} {closings : Nat} {pieces : List Piece} {condition : Condition}
    (reads : ReadsAs text.toList closings (some pieces)) (fits : text.length ≤ maxCount)
    (level : (readLevel pieces).toOption = some condition) : parse text = .ok condition := by
  have found := toOption_parse_of_readsAs reads (Nat.le_trans reads.closings_le fits)
  rw [String.ofList_toList, Option.bind_some, level] at found
  exact eq_ok_of_toOption found

theorem parse_grouped {query : String} {condition : Condition} (subquery : Subquery query condition)
    (fits : (grouped query).length ≤ maxCount) : parse (grouped query) = .ok condition := by
  have length : (grouped query).length = query.length + 2 := by
    rw [← String.length_toList, toList_grouped, ← String.length_toList]
    simp
  have reads := subquery.readsAs (by omega)
  rw [← toList_grouped, subquery.parses] at reads
  exact parse_of_readsAs reads fits rfl

theorem Joins.rejoin?_self {conditions : List Condition} {condition : Condition}
    (joins : Joins conditions condition) : condition.rejoin? conditions = some condition := by
  cases joins <;> rfl

/-- A level of groups between separators. -/
theorem Joins.readLevel_groups {conditions : List Condition} {condition : Condition}
    (joins : Joins conditions condition) :
    (readLevel ([.word condition.separator].intercalate
      (conditions.map fun operand => [Piece.group operand]))).toOption = some condition := by
  have plain : ∀ operand ∈ conditions.map (fun operand => [Piece.group operand]),
      ∀ piece ∈ operand, piece.IsPlain := by
    intro operand member piece inOperand
    obtain ⟨condition, -, rfl⟩ := List.mem_map.mp member
    rw [List.mem_singleton.mp inOperand]
    exact isPlain_group condition
  have operands : (conditions.map fun operand => [Piece.group operand]).mapM operand? =
      some conditions :=
    mapM?_of_forall₂ (List.forall₂_map_left_iff.mpr (List.forall₂_same.mpr fun _ _ => rfl))
  rw [joins.readLevel_intercalate (List.length_map _) plain, operands, Option.bind_some,
    joins.rejoin?_self]

/-- Every query is a group of its own. -/
theorem readsAs_joinedBy {queries : List String} {conditions : List Condition}
    (subqueries : List.Forall₂ Subquery queries conditions) (nonempty : queries ≠ []) {word : String}
    (separator : ReadsAs word.toList 0 (some [.word word.toList]))
    (fits : (joinedBy word queries).length ≤ maxCount) :
    ∃ closings, ReadsAs (joinedBy word queries).toList closings (some
      ([.word word.toList].intercalate (conditions.map fun condition => [.group condition]))) := by
  have parsed : ∀ query ∈ queries, ∃ condition, Subquery query condition :=
    forall_of_forall₂ (subqueries.flip.imp fun condition _ subquery => ⟨condition, subquery⟩)
  have each : ∀ query ∈ queries, ReadsAs ('(' :: query.toList ++ [')'])
      ((normalize query.toList).count ')' + 1)
      ((parse query).toOption.map fun condition => [.group condition]) := by
    intro query member
    obtain ⟨condition, subquery⟩ := parsed query member
    have inside : '(' :: query.toList ++ [')'] ∈ queries.map fun query => '(' :: query.toList ++ [')'] :=
      List.mem_map_of_mem member
    have shorter : ('(' :: query.toList ++ [')']).length ≤ (joinedBy word queries).length := by
      rw [← String.length_toList, toList_joinedBy]
      exact length_le_length_intercalate inside
    rw [List.length_append, List.length_cons, String.length_toList] at shorter
    -- Each query is shorter than the whole, so the numbers of its own groups are counts.
    exact subquery.readsAs (by omega)
  have groups : queries.mapM (fun query =>
      (parse query).toOption.map fun condition => [Piece.group condition]) =
        some (conditions.map fun condition => [.group condition]) := by
    refine mapM?_of_forall₂ (List.forall₂_map_right_iff.mpr (subqueries.imp ?_))
    intro query condition subquery
    rw [subquery.parses]
    rfl
  have reads := readsAs_intercalate separator nonempty each
  rw [groups, ← toList_joinedBy] at reads
  exact ⟨_, reads⟩

/-- Queries in parentheses that are joined by an operator are its operands. -/
theorem parse_joinedBy {queries : List String} {conditions : List Condition} {condition : Condition}
    (joins : Joins conditions condition) (subqueries : List.Forall₂ Subquery queries conditions)
    {word : String} (spelled : word.toList = condition.separator)
    (fits : (joinedBy word queries).length ≤ maxCount) :
    parse (joinedBy word queries) = .ok condition := by
  have nonempty : queries ≠ [] := by
    rintro rfl
    cases subqueries
    cases joins <;> contradiction
  have separator := joins.readsAs_separator
  rw [← spelled] at separator
  obtain ⟨closings, reads⟩ := readsAs_joinedBy subqueries nonempty separator fits
  refine parse_of_readsAs reads fits ?_
  rw [spelled]
  exact joins.readLevel_groups

/-- A query in parentheses keeps its condition, alone and as an operand of each operator, in every text whose
length is a count. -/
theorem parse_subqueries :
    (∀ queries conditions, 2 ≤ queries.length → List.Forall₂ Subquery queries conditions →
      (joinedBy "OR" queries).length ≤ maxCount →
        parse (joinedBy "OR" queries) = .ok (.or conditions)) ∧
    (∀ queries conditions, 2 ≤ queries.length → List.Forall₂ Subquery queries conditions →
      (joinedBy "AND" queries).length ≤ maxCount →
        parse (joinedBy "AND" queries) = .ok (.and conditions)) ∧
    (∀ left right first second, Subquery left first → Subquery right second →
      (joinedBy "NOT" [left, right]).length ≤ maxCount →
        parse (joinedBy "NOT" [left, right]) = .ok (.not first second)) ∧
    (∀ left right first second, Subquery left first → Subquery right second →
      ∀ distance ≤ maxCount, (joinedBy ("NEAR/" ++ toString distance) [left, right]).length ≤ maxCount →
        parse (joinedBy ("NEAR/" ++ toString distance) [left, right]) =
          .ok (.near first second distance)) ∧
    (∀ query condition, Subquery query condition → (grouped query).length ≤ maxCount →
        parse (grouped query) = .ok condition) := by
  refine ⟨?_, ?_, ?_, ?_, fun _ _ => parse_grouped⟩
  · intro queries conditions two subqueries
    rw [subqueries.length_eq] at two
    exact parse_joinedBy (.or two) subqueries rfl
  · intro queries conditions two subqueries
    rw [subqueries.length_eq] at two
    exact parse_joinedBy (.and two) subqueries rfl
  · intro left right first second isFirst isSecond
    exact parse_joinedBy (.not first second) (.cons isFirst (.cons isSecond .nil)) rfl
  · intro left right first second isFirst isSecond distance within
    exact parse_joinedBy (.near first second within) (.cons isFirst (.cons isSecond .nil))
      (toList_nearWord distance)

/-- Quotes, parentheses and operators inside the parts, and blanks at their ends. -/
theorem parse_subqueries_sample : ∃ first second,
    parse "\u201Ca (b\u201D OR c" = .ok first ∧ parse " (d NOT e) NEAR/2 f* " = .ok second ∧
    parse "(\u201Ca (b\u201D OR c) OR ( (d NOT e) NEAR/2 f* )" = .ok (.or [first, second]) ∧
    parse "(\u201Ca (b\u201D OR c) AND ( (d NOT e) NEAR/2 f* )" = .ok (.and [first, second]) ∧
    parse "(\u201Ca (b\u201D OR c) NOT ( (d NOT e) NEAR/2 f* )" = .ok (.not first second) ∧
    parse "(\u201Ca (b\u201D OR c) NEAR/18446744073709551615 ( (d NOT e) NEAR/2 f* )" =
      .ok (.near first second maxCount) ∧
    parse "( (d NOT e) NEAR/2 f* )" = .ok second := by
  have exists_of_parses : ∀ query, Paired query.toList → (parse query).toOption.isSome = true →
      ∃ condition, Subquery query condition := by
    intro query paired parses
    obtain ⟨condition, found⟩ := Option.isSome_iff_exists.mp parses
    exact ⟨condition, paired, eq_ok_of_toOption found⟩
  obtain ⟨first, isFirst⟩ :=
    exists_of_parses "\u201Ca (b\u201D OR c" (by decide +kernel) (by decide +kernel)
  obtain ⟨second, isSecond⟩ :=
    exists_of_parses " (d NOT e) NEAR/2 f* " (by decide +kernel) (by decide +kernel)
  have written : ∀ {text composed : String} {condition : Condition}, composed = text →
      parse composed = .ok condition → parse text = .ok condition := by
    rintro text _ condition rfl run
    exact run
  have both := List.Forall₂.cons isFirst (.cons isSecond .nil)
  obtain ⟨or, and, not, near, alone⟩ := parse_subqueries
  refine ⟨first, second, isFirst.parses, isSecond.parses, ?_, ?_, ?_, ?_, ?_⟩
  · exact written (by decide +kernel) (or [_, _] _ (Nat.le_refl 2) both (by decide +kernel))
  · exact written (by decide +kernel) (and [_, _] _ (Nat.le_refl 2) both (by decide +kernel))
  · exact written (by decide +kernel) (not _ _ _ _ isFirst isSecond (by decide +kernel))
  · exact written (by decide +kernel)
      (near _ _ _ _ isFirst isSecond maxCount (Nat.le_refl _) (by decide +kernel))
  · exact written (by decide +kernel) (alone _ _ isSecond (by decide +kernel))

end TextQuery.Query
