import TextQuery.Proofs.Query.Equality
import TextQuery.Proofs.Query.Spelling

/-!
# Terms that are read back

The printed form of a term is normalized when it is read again. It gives an equal pattern exactly if what
the term shows is not empty and normalizing changes nothing in it (`Pattern.reread?_beq_iff`).
-/
set_option autoImplicit false

namespace TextQuery.Query

open Text (Word words unwords clean squeeze straightQuote)
open Unicode (isWhiteSpace isReserved isInert isLowerForm lower)

/-! ## Expressions of shown text -/

/-- What a shown character becomes in the expression. -/
def expandShown (c : Char) : List Char := expandChar (shieldChar c)

theorem expandShown_of_isInert {c : Char} (inert : isInert c = true) :
    expandShown c ≠ [] ∧ (∀ d ∈ expandShown c, isInert d = true) ∧
      (expandShown c).count ' ' = [c].count ' ' + [c].count '*' := by
  have checked : Unicode.passes (fun c => !(expandShown c).isEmpty && (expandShown c).all isInert &&
      (expandShown c).count ' ' == [c].count ' ' + [c].count '*') Unicode.inert = true := by
    decide
  have known := Unicode.of_passes checked inert
  simp only [Bool.and_eq_true, Bool.not_eq_true', List.isEmpty_eq_false_iff, List.all_eq_true,
    beq_iff_eq] at known
  exact ⟨known.1.1, known.1.2, known.2⟩

theorem expandShown_of_not_isInert {c : Char} (letter : isInert c = false) (noMark : isReserved c = false) :
    expandShown c = [c] := by
  have other : ∀ d, isInert d = true ∨ isReserved d = true → c ≠ d := by
    rintro d special rfl
    rw [letter, noMark] at special
    simp at special
  have solid : isDelimiter c = false := by
    simp [isDelimiter, other ' ' (by decide), other '(' (by decide), other ')' (by decide)]
  rw [expandShown, shieldChar_of_not_delimiter solid, expandChar]
  rw [if_neg (other _ (by decide)), if_neg (other _ (by decide)), if_neg (other _ (by decide)),
    if_neg (other _ (by decide)), if_neg (other _ (by decide)), if_neg (other _ (by decide)),
    if_neg (other _ (by decide)), if_neg (other _ (by decide))]

theorem count_flatMap_expandShown {text : List Char} (noMark : ∀ c ∈ text, isReserved c = false) :
    (text.flatMap expandShown).count ' ' = text.count ' ' + text.count '*' := by
  induction text with
  | nil => rfl
  | cons c rest ih =>
    obtain ⟨first, others⟩ := List.forall_mem_cons.mp noMark
    have head : (expandShown c).count ' ' = [c].count ' ' + [c].count '*' := by
      by_cases inert : isInert c = true
      · exact (expandShown_of_isInert inert).2.2
      · have letter := Bool.eq_false_iff.mpr inert
        have star : '*' ≠ c := by
          rintro rfl
          contradiction
        have noStar : [c].count '*' = 0 := List.count_eq_zero.mpr (by simpa using star)
        rw [expandShown_of_not_isInert letter first, noStar, Nat.add_zero]
    have later := ih others
    have split : c :: rest = [c] ++ rest := rfl
    rw [List.flatMap_cons, List.count_append, head, later, split, List.count_append, List.count_append]
    omega

/-- The expression of a character starts with an inert character exactly if the character is inert. -/
theorem exists_head_expandShown {c : Char} (noMark : isReserved c = false) :
    ∃ first more, expandShown c = first :: more ∧ isInert first = isInert c := by
  by_cases inert : isInert c = true
  · obtain ⟨nonempty, inertParts, -⟩ := expandShown_of_isInert inert
    obtain ⟨first, more, shape⟩ := List.exists_cons_of_ne_nil nonempty
    exact ⟨first, more, shape, (inertParts first (by simp [shape])).trans inert.symm⟩
  · exact ⟨c, [], expandShown_of_not_isInert (Bool.eq_false_iff.mpr inert) noMark, rfl⟩

/-- Texts with the same inert characters are equal if their expressions are. -/
theorem eq_of_flatMap_expandShown {left right : List Char}
    (noMarkLeft : ∀ c ∈ left, isReserved c = false) (noMarkRight : ∀ c ∈ right, isReserved c = false)
    (inertParts : left.filter isInert = right.filter isInert)
    (same : left.flatMap expandShown = right.flatMap expandShown) : left = right := by
  induction left generalizing right with
  | nil =>
    cases right with
    | nil => rfl
    | cons d more =>
      obtain ⟨_, _, shape, -⟩ := exists_head_expandShown (noMarkRight d List.mem_cons_self)
      simp [shape] at same
  | cons c rest ih =>
    obtain ⟨noMark, noMarkRest⟩ := List.forall_mem_cons.mp noMarkLeft
    obtain ⟨first, tail, shape, kind⟩ := exists_head_expandShown noMark
    cases right with
    | nil => simp [shape] at same
    | cons d more =>
      obtain ⟨noMarkHead, noMarkMore⟩ := List.forall_mem_cons.mp noMarkRight
      obtain ⟨firstRight, tailRight, shapeRight, kindRight⟩ := exists_head_expandShown noMarkHead
      rw [List.flatMap_cons, List.flatMap_cons] at same
      have heads : first = firstRight := by
        have starts := congrArg List.head? same
        rw [shape, shapeRight] at starts
        exact Option.some.inj starts
      rw [heads, kindRight] at kind
      have equal : c = d ∧ rest.filter isInert = more.filter isInert := by
        by_cases inert : isInert c = true
        · rw [List.filter_cons_of_pos inert, List.filter_cons_of_pos (kind.trans inert)] at inertParts
          exact List.cons.inj inertParts
        · have letter := Bool.eq_false_iff.mpr inert
          have letterRight := kind.trans letter
          rw [List.filter_cons_of_neg inert, List.filter_cons_of_neg (by simp [letterRight])]
            at inertParts
          rw [expandShown_of_not_isInert letter noMark] at same
          rw [expandShown_of_not_isInert letterRight noMarkHead] at same
          exact ⟨(List.cons.inj same).1, inertParts⟩
      obtain ⟨rfl, inertRest⟩ := equal
      rw [ih noMarkRest noMarkMore inertRest (List.append_cancel_left same)]

theorem isInert_of_isDelimiter {c : Char} (delimiter : isDelimiter c = true) : isInert c = true := by
  simp only [isDelimiter, Bool.or_eq_true, decide_eq_true_eq] at delimiter
  rcases delimiter with (rfl | rfl) | rfl <;> decide

/-! ## Normalizing shown text -/

section Shown

variable {text : List Char} (visible : ∀ c ∈ text, Visible c)

include visible

theorem visible_squeeze : ∀ c ∈ squeeze text, Visible c := by
  intro c member
  rcases Text.mem_squeeze member with rfl | inText
  · exact ⟨by decide, by decide, by decide, fun _ => rfl, by decide⟩
  · exact visible c inText

theorem noMark_lower_clean : ∀ c ∈ lower (clean text), isReserved c = false := by
  intro c member
  refine Bool.eq_false_iff.mpr fun reserved => ?_
  have inClean := Unicode.mem_of_breaking_of_mem_lower member (Unicode.breaking_of_isReserved reserved)
  rw [clean, map_straightQuote_eq visible] at inClean
  have noMark := (visible c (Unicode.mem_of_isReserved_of_mem_nfc inClean reserved)).noMark
  rw [reserved] at noMark
  contradiction

theorem filter_isInert_lower_clean : (lower (clean text)).filter isInert = text.filter isInert := by
  rw [Unicode.filter_isInert_lower, filter_isInert_clean visible]

theorem count_lower_clean {c : Char} (inert : isInert c = true) :
    (lower (clean text)).count c = text.count c := by
  rw [← List.count_filter inert, filter_isInert_lower_clean visible, List.count_filter inert]

/-- If the expression stays, the text stays: its spaces can be counted in the expression. -/
theorem normal_of_flatMap_expandShown
    (same : (lower (clean (squeeze text))).flatMap expandShown = text.flatMap expandShown) :
    lower (clean (squeeze text)) = text := by
  have visibleSqueezed := visible_squeeze visible
  have noMark := noMark_lower_clean visibleSqueezed
  have noMarkText : ∀ c ∈ text, isReserved c = false := fun c member => (visible c member).noMark
  have spaces : (squeeze text).count ' ' = text.count ' ' := by
    have counts := congrArg (List.count ' ') same
    rw [count_flatMap_expandShown noMark, count_flatMap_expandShown noMarkText,
      count_lower_clean visibleSqueezed (by decide), count_lower_clean visibleSqueezed (by decide),
      @Text.count_squeeze '*' (by decide)] at counts
    omega
  have squeezed : squeeze text = text := by
    rcases Text.squeeze_eq_self_or_count_lt fun c member => (visible c member).blank with kept | fewer
    · exact kept
    · omega
  rw [squeezed] at same noMark ⊢
  exact eq_of_flatMap_expandShown noMark noMarkText (filter_isInert_lower_clean visible) same

end Shown

/-! ## Printed terms -/

namespace Pattern

/-- The word that the printed term is for the parser. -/
def marked (pattern : Pattern) : Word :=
  if pattern.needsQuotes then Mark.quote :: (clean (squeeze pattern.shown)).map shieldChar
  else clean pattern.shown

/-- What the printed term is read as. Quotes with nothing between them leave no word. -/
def reread? (pattern : Pattern) : Option Pattern :=
  if pattern.shown = [] then none else ofTerm? (lower pattern.marked)

/-- What the term shows is not empty, and normalizing it changes nothing. -/
structure Settled (pattern : Pattern) : Prop where
  nonempty : pattern.shown ≠ []
  normal : lower (clean (squeeze pattern.shown)) = pattern.shown

instance (pattern : Pattern) : Decidable pattern.Settled :=
  decidable_of_iff (pattern.shown ≠ [] ∧ lower (clean (squeeze pattern.shown)) = pattern.shown)
    ⟨fun both => ⟨both.1, both.2⟩, fun settled => ⟨settled.nonempty, settled.normal⟩⟩

theorem restore_of_noMark {c : Char} (noMark : isReserved c = false) : Mark.restore c = [c] := by
  have other : ∀ d, isReserved d = true → c ≠ d := by
    rintro d reserved rfl
    rw [noMark] at reserved
    contradiction
  rw [Mark.restore, if_neg (other _ (by decide)), if_neg (other _ (by decide)),
    if_neg (other _ (by decide)), if_neg (other _ (by decide))]

theorem restore_shieldChar {c : Char} (noMark : isReserved c = false) :
    Mark.restore (shieldChar c) = [c] := by
  rcases shieldChar_cases c with ⟨space, mark⟩ | ⟨opening, mark⟩ | ⟨closing, mark⟩ | ⟨_, unchanged⟩
  · rw [mark, space]
    decide
  · rw [mark, opening]
    decide
  · rw [mark, closing]
    decide
  · rw [unchanged]
    exact restore_of_noMark noMark

theorem solid_shown {pattern : Pattern} (legible : pattern.Legible) (bare : pattern.needsQuotes = false) :
    ∀ c ∈ pattern.shown, isWhiteSpace c = false := by
  intro c member
  refine Bool.eq_false_iff.mpr fun blank => ?_
  have solid := (unquoted_of_needsQuotes legible.inside bare).inside c member
  rw [(legible.visible c member).blank blank] at solid
  contradiction

theorem squeeze_shown {pattern : Pattern} (legible : pattern.Legible) (bare : pattern.needsQuotes = false) :
    squeeze pattern.shown = pattern.shown :=
  Text.squeeze_of_solid (solid_shown legible bare)

/-- What the word shows that the printed term is for the parser. -/
theorem restore_marked {pattern : Pattern} (legible : pattern.Legible) :
    (lower pattern.marked).flatMap Mark.restore = lower (clean (squeeze pattern.shown)) := by
  have noMark := noMark_lower_clean (visible_squeeze legible.visible)
  unfold marked
  split
  · have kept : ∀ c ∈ lower (clean (squeeze pattern.shown)), Mark.restore (shieldChar c) = [c] :=
      fun c member => restore_shieldChar (noMark c member)
    rw [lower_quoted, List.flatMap_cons, List.flatMap_map, List.flatMap_congr kept,
      List.flatMap_singleton']
    rfl
  · rename_i bare
    have solid := squeeze_shown legible (Bool.eq_false_iff.mpr bare)
    rw [solid] at noMark ⊢
    rw [List.flatMap_congr fun c member => restore_of_noMark (noMark c member),
      List.flatMap_singleton']

/-! ## The word of a printed term -/

section Marked

variable {pattern : Pattern} (legible : pattern.Legible)

include legible

theorem solid_marked : ∀ c ∈ pattern.marked, isDelimiter c = false := by
  intro c member
  unfold marked at member
  split at member
  · rcases List.mem_cons.mp member with rfl | shielded
    · decide
    · obtain ⟨d, -, rfl⟩ := List.mem_map.mp shielded
      exact isDelimiter_shieldChar d
  · rename_i bare
    have unquoted := unquoted_of_needsQuotes legible.inside (Bool.eq_false_iff.mpr bare)
    refine Bool.eq_false_iff.mpr fun delimiter => ?_
    have inShown := mem_of_isInert_of_mem_clean legible.visible member
      (isInert_of_isDelimiter delimiter)
    rw [unquoted.inside c inShown] at delimiter
    contradiction

theorem inside_lower_marked : ∀ c ∈ lower pattern.marked, c ≠ '(' ∧ c ≠ ')' := by
  intro c member
  have solid : isDelimiter c = false := by
    refine Bool.eq_false_iff.mpr fun delimiter => ?_
    have inMarked := Unicode.mem_of_breaking_of_mem_lower member (breaking_of_isDelimiter delimiter)
    rw [solid_marked legible c inMarked] at delimiter
    contradiction
  constructor <;> rintro rfl <;> contradiction

theorem groupNumber?_marked : groupNumber? pattern.marked = none := by
  unfold marked
  split
  · exact groupNumber?_cons_eq_none (by decide) _
  · rename_i bare
    exact groupNumber?_clean legible.visible (legible.bare (Bool.eq_false_iff.mpr bare)).2

theorem isKeyword_marked {operator : Operator} (other : operator ≠ .near) :
    isKeyword operator pattern.marked = false := by
  unfold marked
  split
  · exact isKeyword_cons_eq_false (by decide) _ operator
  · rename_i bare
    have unquoted := unquoted_of_needsQuotes legible.inside (Bool.eq_false_iff.mpr bare)
    refine Bool.eq_false_iff.mpr fun keyword => ?_
    have known := isKeyword_of_isKeyword_clean legible.visible keyword
    rw [unquoted.keyword operator other] at known
    contradiction

theorem isNear_marked : isNear pattern.marked = false := by
  unfold marked
  split
  · exact isNear_cons_eq_false (by decide) _
  · rename_i bare
    have unquoted := unquoted_of_needsQuotes legible.inside (Bool.eq_false_iff.mpr bare)
    refine Bool.eq_false_iff.mpr fun near => ?_
    have known := isNear_of_isNear_clean legible.visible near
    rw [unquoted.near] at known
    contradiction

end Marked

theorem marked_ne_nil {pattern : Pattern} (nonempty : pattern.shown ≠ []) : pattern.marked ≠ [] := by
  unfold marked
  split
  · exact List.cons_ne_nil _ _
  · exact Text.clean_ne_nil nonempty

/-! ## Reading back -/

/-- A term that is read back in the same expression was settled. -/
theorem settled_of_reread? {pattern again : Pattern} (legible : pattern.Legible)
    (read : pattern.reread? = some again) (same : (again == pattern) = true) : pattern.Settled := by
  unfold reread? at read
  split at read
  · contradiction
  rename_i nonempty
  have term := ofTerm?_term read
  have inside := inside_lower_marked legible
  rw [← term] at inside
  have sources := beq_iff.mp same
  have shows : again.shown = lower (clean (squeeze pattern.shown)) := by
    rw [shown, term, restore_marked legible]
  rw [source_eq inside, source_eq legible.inside, shows] at sources
  exact ⟨nonempty, normal_of_flatMap_expandShown legible.visible
    (List.append_cancel_right (List.cons.inj sources).2)⟩

theorem ofTerm?_of_expression {term : List Char} {pattern : Pattern}
    (same : expression term = pattern.source) : ∃ again, ofTerm? term = some again := by
  have compiled : Regex.parse? (expression term) = some pattern.regex := by
    rw [same]
    exact pattern.compiled
  unfold ofTerm?
  split
  · exact ⟨_, rfl⟩
  · rename_i refused
    rw [compiled] at refused
    contradiction

theorem render_congr {left right : Pattern} (same : left.term = right.term) :
    left.render = right.render := by
  rw [render, render, needsQuotes, needsQuotes, wordCount, wordCount, shown, shown, same]

/-- A settled term is read back in the same expression, and it prints the same again. -/
theorem reread?_of_settled {pattern : Pattern} (legible : pattern.Legible) (settled : pattern.Settled) :
    ∃ again, pattern.reread? = some again ∧ (again == pattern) = true ∧
      again.render = pattern.render := by
  have restored := restore_marked legible
  rw [settled.normal] at restored
  have same : expression (lower pattern.marked) = pattern.source := by
    rw [expression, flatMap_expandChar (inside_lower_marked legible), restored, source_eq legible.inside]
  obtain ⟨again, compiled⟩ := ofTerm?_of_expression same
  have term := ofTerm?_term compiled
  have sources : again.source = pattern.source := by rw [source, term, same]
  have shows : again.shown = pattern.shown := by rw [shown, term, restored]
  refine ⟨again, ?_, beq_iff.mpr sources, ?_⟩
  · rw [reread?, if_neg settled.nonempty, compiled]
  · by_cases quoted : pattern.needsQuotes = true
    · have mark : Mark.quote ∈ again.term := by
        rw [term, marked, if_pos quoted, lower_quoted]
        exact List.mem_cons_self
      have quotedAgain : again.needsQuotes = true := by
        have found : again.term.any (fun c =>
            c = Mark.opening || c = Mark.closing || c = Mark.quote) = true :=
          List.any_eq_true.mpr ⟨Mark.quote, mark, by decide⟩
        simp [needsQuotes, found]
      rw [render, render, if_pos quoted, if_pos quotedAgain, shows]
    · have bare := Bool.eq_false_iff.mpr quoted
      refine render_congr ?_
      have unquoted := unquoted_of_needsQuotes legible.inside bare
      have normal := settled.normal
      rw [squeeze_shown legible bare] at normal
      rw [term, marked, if_neg quoted, normal, unquoted.shown]

end Pattern

end TextQuery.Query
