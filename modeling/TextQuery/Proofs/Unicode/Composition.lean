import TextQuery.Proofs.Text.Words
import TextQuery.Proofs.Unicode.Range
import TextQuery.Unicode.NormalForm
import TextQuery.Unicode.Property

/-!
# Composition around characters that stand alone

White space, the inert characters, which are the ASCII characters with no part in any canonical pair,
the first private-use characters and curly quotes are never composed with a neighbour, and no mark moves
across them. So the composed form of a
text is made piece by piece between them (`nfc_append_cons`), and composition neither makes nor takes an
inert character (`filter_isInert_nfc`).
-/
set_option autoImplicit false
set_option maxRecDepth 10000

namespace TextQuery.Unicode

/-- The ASCII characters that neither compose nor arise from a decomposition. Left out are the letters,
the signs that a stroke can be put through, and two marks that are the canonical form of another. -/
def inert : List CodeRange := [(0x00, 0x3A), (0x3F, 0x40), (0x5B, 0x5F), (0x7B, 0x7F)]

def isInert (c : Char) : Bool := inRanges inert c

/-- The first four private-use characters. -/
def reserved : List CodeRange := [(0xE000, 0xE003)]

def isReserved (c : Char) : Bool := inRanges reserved c

/-- Quotation marks in typographic forms. -/
def curlyQuotes : List CodeRange := [(0x2018, 0x201D)]

/-- Inert characters, white space, reserved characters and curly quotes. -/
def standingAlone : List CodeRange := inert ++ Property.whiteSpace ++ reserved ++ curlyQuotes

def standsAlone (c : Char) : Bool := inRanges standingAlone c

theorem standsAlone_eq (c : Char) :
    standsAlone c = (isInert c || isWhiteSpace c || isReserved c || inRanges curlyQuotes c) := by
  rw [standsAlone, standingAlone, inRanges_append, inRanges_append, inRanges_append]
  rfl

theorem standsAlone_of_isInert {c : Char} (isInert : isInert c = true) : standsAlone c = true := by
  simp [standsAlone_eq, isInert]

theorem standsAlone_of_isWhiteSpace {c : Char} (blank : isWhiteSpace c = true) :
    standsAlone c = true := by
  simp [standsAlone_eq, blank]

theorem standsAlone_of_isReserved {c : Char} (isReserved : isReserved c = true) :
    standsAlone c = true := by
  simp [standsAlone_eq, isReserved]

theorem toNat_lt_of_isInert {c : Char} (isInert : isInert c = true) : c.toNat < 0x80 := by
  simp only [Unicode.isInert, inRanges, inert, inRange, List.any_cons, List.any_nil, Bool.or_false,
    Bool.or_eq_true, Bool.and_eq_true, decide_eq_true_eq] at isInert
  omega

/-! ## What the tables say -/

theorem toNat_ofNat {code : Nat} (valid : code.isValidChar) : (Char.ofNat code).toNat = code := by
  rw [Char.ofNat, dif_pos valid]
  rfl

/-- Blocks that hold all characters of the tables, most of them in the first two, and none that stands
alone. -/
def joining : List CodeRange := [
  (0xA1, 0x167F), (0x3001, 0xD7FF), (0x1681, 0x1FFF), (0xE004, 0x10FFFF), (0x2060, 0x2FFF),
  (0x41, 0x5A), (0x61, 0x7A), (0x60, 0x60), (0x3B, 0x3E)]

/-- Some joining block holds all code points from `first` to `last`. -/
def isJoining (first last : Nat) : Bool :=
  joining.any fun block => Nat.ble block.1 first && Nat.ble last block.2

theorem apart_of_isJoining {first last : Nat} (joins : isJoining first last = true) :
    (∀ code, first ≤ code → code ≤ last → code.isValidChar) ∧
      ∀ c : Char, first ≤ c.toNat → c.toNat ≤ last → standsAlone c = false := by
  simp only [isJoining, joining, List.any_cons, List.any_nil, Bool.or_false, Bool.or_eq_true,
    Bool.and_eq_true, Nat.ble_eq] at joins
  constructor
  · intro code low high
    unfold Nat.isValidChar
    omega
  · intro c low high
    simp only [standsAlone, inRanges, standingAlone, inert, Property.whiteSpace, reserved, curlyQuotes,
      List.cons_append, List.nil_append, List.any_cons, List.any_nil, Bool.or_false, inRange,
      Bool.or_eq_false_iff, Bool.and_eq_false_iff, decide_eq_false_iff_not]
    omega

theorem standsAlone_ofNat {code : Nat} (joins : isJoining code code = true) :
    standsAlone (Char.ofNat code) = false := by
  obtain ⟨valid, apart⟩ := apart_of_isJoining joins
  have same := toNat_ofNat (valid code (Nat.le_refl _) (Nat.le_refl _))
  exact apart _ (by omega) (by omega)

theorem standsAlone_eq_false {c : Char} (joins : isJoining c.toNat c.toNat = true) :
    standsAlone c = false :=
  (apart_of_isJoining joins).2 c (Nat.le_refl _) (Nat.le_refl _)

theorem canonicalPairs_joining : canonicalPairs.all (fun pair =>
    isJoining pair.1 pair.1 && isJoining pair.2.1 pair.2.1 && isJoining pair.2.2 pair.2.2) = true := by
  decide

theorem oneWayDecompositions_joining : oneWayDecompositions.all (fun entry =>
    Nat.beq entry.1 0x2000 || Nat.beq entry.1 0x2001 ||
      entry.2.all fun code => isJoining code code) = true := by
  decide

theorem ideographDuplicates_joining : ideographDuplicates.all (fun entry =>
    entry.2.all fun code => isJoining code code) = true := by
  decide

theorem combiningClasses_joining :
    combiningClasses.all (fun entry => isJoining entry.1.1 entry.1.2) = true := by
  decide

theorem isJoining_of_mem_canonicalPairs {first second composite : Nat}
    (member : (first, second, composite) ∈ canonicalPairs) :
    isJoining first first = true ∧ isJoining second second = true ∧
      isJoining composite composite = true := by
  have checked := List.all_eq_true.mp canonicalPairs_joining _ member
  simpa [and_assoc] using checked

/-- The blocks of Hangul letters and syllables. -/
def isHangulCode (code : Nat) : Prop :=
  0x1100 ≤ code ∧ code < 0x11FF ∨ 0xAC00 ≤ code ∧ code < 0xD7A4

theorem isJoining_of_isHangulCode {code : Nat} (hangul : isHangulCode code) :
    isJoining code code = true := by
  unfold isHangulCode at hangul
  simp only [isJoining, joining, List.any_cons, List.any_nil, Bool.or_false, Bool.or_eq_true,
    Bool.and_eq_true, Nat.ble_eq]
  omega

theorem isHangulCode_of_compose? {first second code : Nat}
    (composed : Hangul.compose? first second = some code) :
    isHangulCode first ∧ isHangulCode second ∧ isHangulCode code := by
  unfold Hangul.compose? at composed
  split at composed
  · rename_i bounds
    obtain rfl := Option.some.inj composed
    simp only [Hangul.firstLeading, Hangul.leadingCount, Hangul.firstVowel, Hangul.vowelCount,
      Hangul.firstSyllable, Hangul.trailingCount] at bounds ⊢
    unfold isHangulCode
    omega
  · split at composed
    · rename_i bounds
      obtain rfl := Option.some.inj composed
      simp only [Hangul.vowelCount, Hangul.leadingCount, Hangul.firstSyllable, Hangul.trailingCount,
        Hangul.syllableCount, Hangul.noTrailing] at bounds ⊢
      unfold isHangulCode
      omega
    · contradiction

/-! ## Characters that stand alone -/

theorem combiningClass_eq_zero {c : Char} (alone : standsAlone c = true) : combiningClass c = 0 := by
  unfold combiningClass
  split
  · rename_i entry found
    have inEntry : inRange entry.1 c = true := by simpa using List.find?_some found
    have joins := List.all_eq_true.mp combiningClasses_joining _ (List.mem_of_find?_eq_some found)
    simp only [inRange, Bool.and_eq_true, decide_eq_true_eq] at inEntry
    rw [(apart_of_isJoining joins).2 c inEntry.1 inEntry.2] at alone
    contradiction
  · rfl

theorem composePair?_joining {first second composite : Char}
    (composed : composePair? first second = some composite) :
    standsAlone first = false ∧ standsAlone second = false ∧ standsAlone composite = false := by
  unfold composePair? at composed
  split at composed
  · contradiction
  · split at composed
    · rename_i code hangul
      obtain rfl : Char.ofNat code = composite := by simpa using composed
      obtain ⟨firstHangul, secondHangul, codeHangul⟩ := isHangulCode_of_compose? hangul
      exact ⟨standsAlone_eq_false (isJoining_of_isHangulCode firstHangul),
        standsAlone_eq_false (isJoining_of_isHangulCode secondHangul),
        standsAlone_ofNat (isJoining_of_isHangulCode codeHangul)⟩
    · obtain ⟨⟨firstCode, secondCode, code⟩, found, rfl⟩ := Option.map_eq_some_iff.mp composed
      have member := List.mem_of_find?_eq_some found
      have same : (firstCode == first.toNat && secondCode == second.toNat) = true := by
        simpa using List.find?_some found
      simp only [Bool.and_eq_true, beq_iff_eq] at same
      obtain ⟨firstJoins, secondJoins, compositeJoins⟩ := isJoining_of_mem_canonicalPairs member
      rw [same.1] at firstJoins
      rw [same.2] at secondJoins
      exact ⟨standsAlone_eq_false firstJoins, standsAlone_eq_false secondJoins,
        standsAlone_ofNat compositeJoins⟩

theorem composePair?_left_eq_none {c : Char} (alone : standsAlone c = true) (d : Char) :
    composePair? c d = none := by
  cases composed : composePair? c d with
  | none => rfl
  | some composite =>
    have joins := (composePair?_joining composed).1
    rw [alone] at joins
    contradiction

theorem composePair?_right_eq_none {c : Char} (alone : standsAlone c = true) (d : Char) :
    composePair? d c = none := by
  cases composed : composePair? d c with
  | none => rfl
  | some composite =>
    have joins := (composePair?_joining composed).2.1
    rw [alone] at joins
    contradiction

/-! ## Decomposition -/

theorem mem_expandPairs {depth code part : Nat} (member : part ∈ expandPairs depth code) :
    part = code ∨ isJoining part part = true := by
  induction depth generalizing code with
  | zero => exact Or.inl (by simpa [expandPairs] using member)
  | succ depth ih =>
    rw [expandPairs] at member
    split at member
    · rename_i first second composite found
      obtain ⟨firstJoins, secondJoins, _⟩ :=
        isJoining_of_mem_canonicalPairs (List.mem_of_find?_eq_some found)
      rcases List.mem_append.mp member with inFirst | isSecond
      · rcases ih inFirst with rfl | joins
        · exact Or.inr firstJoins
        · exact Or.inr joins
      · rw [List.mem_singleton.mp isSecond]
        exact Or.inr secondJoins
    · exact Or.inl (by simpa using member)

theorem mem_oneWayDecomposition? {code part : Nat} {parts : List Nat}
    (found : oneWayDecomposition? code = some parts) (member : part ∈ parts)
    (first : code ≠ 0x2000) (second : code ≠ 0x2001) : isJoining part part = true := by
  unfold oneWayDecomposition? at found
  split at found
  · rename_i key entryParts entry
    obtain rfl := Option.some.inj found
    have same : key = code := by simpa using List.find?_some entry
    have checked := List.all_eq_true.mp oneWayDecompositions_joining _
      (List.mem_of_find?_eq_some entry)
    simp only [Bool.or_eq_true, Nat.beq_eq, List.all_eq_true] at checked
    rcases checked with (isFirst | isSecond) | joins
    · exact absurd (same.symm.trans isFirst) first
    · exact absurd (same.symm.trans isSecond) second
    · exact joins part member
  · split at found
    · rename_i start run entry
      obtain ⟨original, inRun, rfl⟩ := Option.map_eq_some_iff.mp found
      rw [List.mem_singleton.mp member]
      have checked := List.all_eq_true.mp ideographDuplicates_joining _
        (List.mem_of_find?_eq_some entry)
      exact List.all_eq_true.mp checked _ (List.mem_of_getElem? inRun)
    · contradiction

theorem isHangulCode_of_mem_decompose? {code part : Nat} {parts : List Nat}
    (found : Hangul.decompose? code = some parts) (member : part ∈ parts) : isHangulCode part := by
  unfold Hangul.decompose? at found
  split at found
  · rename_i bounds
    obtain rfl := Option.some.inj found
    unfold Hangul.syllableCount Hangul.leadingCount at bounds
    have isPart : part = Hangul.firstLeading +
          (code - Hangul.firstSyllable) / (Hangul.vowelCount * Hangul.trailingCount) ∨
        part = Hangul.firstVowel + (code - Hangul.firstSyllable) %
          (Hangul.vowelCount * Hangul.trailingCount) / Hangul.trailingCount ∨
        part = Hangul.noTrailing + (code - Hangul.firstSyllable) % Hangul.trailingCount := by
      split at member
      · simp only [List.mem_cons, List.not_mem_nil, or_false] at member
        exact member.imp_right Or.inl
      · simpa only [List.mem_cons, List.not_mem_nil, or_false] using member
    unfold Hangul.firstSyllable Hangul.vowelCount Hangul.trailingCount at *
    unfold Hangul.firstLeading Hangul.firstVowel Hangul.noTrailing at isPart
    unfold isHangulCode
    omega
  · contradiction

/-- Two kinds of white space are duplicates of two others. -/
theorem decomposition_enQuad : decomposition '\u2000' = ['\u2002'] := by decide

theorem decomposition_emQuad : decomposition '\u2001' = ['\u2003'] := by decide

/-- What a decomposition holds is the character itself or does not stand alone, apart from the two
duplicates of white space. -/
theorem mem_decomposition {c part : Char} (member : part ∈ decomposition c) (enQuad : c ≠ '\u2000')
    (emQuad : c ≠ '\u2001') : part = c ∨ standsAlone part = false := by
  unfold decomposition at member
  split at member
  · exact Or.inl (List.mem_singleton.mp member)
  · obtain ⟨code, inParts, rfl⟩ := List.mem_map.mp member
    cases hangul : Hangul.decompose? c.toNat with
    | some parts =>
      have inHangul : code ∈ parts := by simpa [hangul] using inParts
      exact Or.inr (standsAlone_ofNat
        (isJoining_of_isHangulCode (isHangulCode_of_mem_decompose? hangul inHangul)))
    | none =>
      cases oneWay : oneWayDecomposition? c.toNat with
      | some parts =>
        have inOneWay : code ∈ parts := by simpa [hangul, oneWay] using inParts
        exact Or.inr (standsAlone_ofNat (mem_oneWayDecomposition? oneWay inOneWay
          (fun same => enQuad (Char.toNat_inj.mp same)) fun same => emQuad (Char.toNat_inj.mp same)))
      | none =>
        have inPairs : code ∈ expandPairs 3 c.toNat := by simpa [hangul, oneWay] using inParts
        rcases mem_expandPairs inPairs with rfl | joins
        · exact Or.inl (Char.ofNat_toNat c)
        · exact Or.inr (standsAlone_ofNat joins)

theorem decomposition_of_isInert {c : Char} (isInert : isInert c = true) : decomposition c = [c] := by
  have low := toNat_lt_of_isInert isInert
  rw [decomposition, if_pos (by omega)]

theorem eq_of_mem_decomposition {c part : Char} (alone : standsAlone part = true)
    (enSpace : part ≠ '\u2002') (emSpace : part ≠ '\u2003') (member : part ∈ decomposition c) :
    part = c := by
  by_cases enQuad : c = '\u2000'
  · rw [enQuad, decomposition_enQuad, List.mem_singleton] at member
    contradiction
  · by_cases emQuad : c = '\u2001'
    · rw [emQuad, decomposition_emQuad, List.mem_singleton] at member
      contradiction
    · rcases mem_decomposition member enQuad emQuad with same | joins
      · exact same
      · rw [alone] at joins
        contradiction

theorem eq_of_isInert_of_mem_decomposition {c part : Char} (isInert : isInert part = true)
    (member : part ∈ decomposition c) : part = c := by
  refine eq_of_mem_decomposition (standsAlone_of_isInert isInert) ?_ ?_ member
  · rintro rfl
    exact absurd isInert (by decide)
  · rintro rfl
    exact absurd isInert (by decide)

theorem isWhiteSpace_of_mem_decomposition {c part : Char} (blank : isWhiteSpace part = true)
    (member : part ∈ decomposition c) : isWhiteSpace c = true := by
  by_cases enQuad : c = '\u2000'
  · rw [enQuad]
    decide
  · by_cases emQuad : c = '\u2001'
    · rw [emQuad]
      decide
    · rcases mem_decomposition member enQuad emQuad with same | joins
      · rw [← same, blank]
      · rw [standsAlone_of_isWhiteSpace blank] at joins
        contradiction

/-! ## The composed form between characters that stand alone -/

theorem insertMark_append_cons {c : Char} (starter : combiningClass c = 0) (d : Char)
    (left right : List Char) : insertMark d (left ++ c :: right) = insertMark d left ++ c :: right := by
  induction left with
  | nil => simp [insertMark, starter]
  | cons e rest ih =>
    simp only [List.cons_append, insertMark, ih]
    split <;> rfl

theorem insertMark_of_starter {c : Char} (starter : combiningClass c = 0) (text : List Char) :
    insertMark c text = c :: text := by
  cases text <;> simp [insertMark, starter]

/-- No mark moves across a starter. -/
theorem sortMarks_append_cons {c : Char} (starter : combiningClass c = 0) (left right : List Char) :
    sortMarks (left ++ c :: right) = sortMarks left ++ c :: sortMarks right := by
  induction left with
  | nil => exact insertMark_of_starter starter _
  | cons d rest ih =>
    rw [List.cons_append, sortMarks, ih, insertMark_append_cons starter]
    rfl

theorem composeAfter_of_standsAlone {c : Char} (alone : standsAlone c = true) (marks rest : List Char) :
    composeAfter c marks rest = c :: (marks.reverse ++ compose rest) := by
  induction rest generalizing marks with
  | nil => simp [composeAfter, compose]
  | cons d rest ih =>
    rw [composeAfter, composePair?_left_eq_none alone, ite_self, compose]
    by_cases starter : combiningClass d = 0
    · simp [starter]
    · simp [starter, ih]

theorem composeAfter_append_cons {c : Char} (alone : standsAlone c = true) (base : Char)
    (marks left right : List Char) :
    composeAfter base marks (left ++ c :: right) =
      composeAfter base marks left ++ c :: compose right := by
  induction left generalizing base marks with
  | nil =>
    simp [composeAfter, composePair?_right_eq_none alone, combiningClass_eq_zero alone,
      composeAfter_of_standsAlone alone]
  | cons d rest ih =>
    rw [List.cons_append, composeAfter, composeAfter]
    split
    · exact ih _ _
    · split
      · rw [ih]
        simp
      · exact ih _ _

theorem compose_append_cons {c : Char} (alone : standsAlone c = true) (left right : List Char) :
    compose (left ++ c :: right) = compose left ++ c :: compose right := by
  induction left with
  | nil =>
    simp [compose, combiningClass_eq_zero alone, composeAfter_of_standsAlone alone]
  | cons d rest ih =>
    rw [List.cons_append, compose, compose, ih]
    split
    · exact composeAfter_append_cons alone d [] rest right
    · rfl

/-- The composed form is made piece by piece between characters that stand alone. -/
theorem nfc_append_cons {b c : Char} (single : decomposition b = [c]) (alone : standsAlone c = true)
    (left right : List Char) : nfc (left ++ b :: right) = nfc left ++ c :: nfc right := by
  unfold nfc
  rw [List.flatMap_append, List.flatMap_cons, single, List.singleton_append,
    sortMarks_append_cons (combiningClass_eq_zero alone), compose_append_cons alone]

theorem nfc_append_cons_of_isInert {c : Char} (isInert : isInert c = true) (left right : List Char) :
    nfc (left ++ c :: right) = nfc left ++ c :: nfc right :=
  nfc_append_cons (decomposition_of_isInert isInert) (standsAlone_of_isInert isInert) left right

/-! ## Characters of the composed form -/

theorem mem_insertMark {c d : Char} {text : List Char} (member : c ∈ insertMark d text) :
    c = d ∨ c ∈ text := by
  induction text with
  | nil => exact Or.inl (by simpa [insertMark] using member)
  | cons e rest ih =>
    rw [insertMark] at member
    split at member
    · rcases List.mem_cons.mp member with rfl | later
      · exact Or.inr List.mem_cons_self
      · exact (ih later).imp_right (List.mem_cons_of_mem _)
    · exact List.mem_cons.mp member

theorem mem_sortMarks {c : Char} {text : List Char} (member : c ∈ sortMarks text) : c ∈ text := by
  induction text with
  | nil => exact member
  | cons d rest ih =>
    rcases mem_insertMark member with rfl | inRest
    · exact List.mem_cons_self
    · exact List.mem_cons_of_mem _ (ih inRest)

section Preserved

variable {property : Char → Prop}
  (preserved : ∀ first second composite, property first → property second →
    composePair? first second = some composite → property composite)

include preserved

theorem forall_mem_composeAfter (base : Char) {marks text : List Char} (ofBase : property base)
    (ofMarks : ∀ c ∈ marks, property c) (ofText : ∀ c ∈ text, property c) :
    ∀ c ∈ composeAfter base marks text, property c := by
  induction text generalizing base marks with
  | nil =>
    intro c member
    rw [composeAfter, List.mem_cons, List.mem_reverse] at member
    rcases member with rfl | inMarks
    · exact ofBase
    · exact ofMarks c inMarks
  | cons d rest ih =>
    obtain ⟨first, others⟩ := List.forall_mem_cons.mp ofText
    rw [composeAfter]
    split
    · rename_i composite composed
      have pair : composePair? base d = some composite := by
        by_cases blocked : isBlocked marks d = true <;> simp_all
      exact ih composite (preserved _ _ _ ofBase first pair) ofMarks others
    · split
      · intro c member
        rw [List.mem_cons, List.mem_append, List.mem_reverse] at member
        rcases member with rfl | inMarks | later
        · exact ofBase
        · exact ofMarks c inMarks
        · exact ih d first (fun _ inNil => absurd inNil List.not_mem_nil) others c later
      · exact ih base ofBase (List.forall_mem_cons.mpr ⟨first, ofMarks⟩) others

theorem forall_mem_compose {text : List Char} (ofText : ∀ c ∈ text, property c) :
    ∀ c ∈ compose text, property c := by
  induction text with
  | nil => exact ofText
  | cons d rest ih =>
    obtain ⟨first, others⟩ := List.forall_mem_cons.mp ofText
    rw [compose]
    split
    · exact forall_mem_composeAfter preserved d first (fun _ inNil => absurd inNil List.not_mem_nil) others
    · exact List.forall_mem_cons.mpr ⟨first, ih others⟩

end Preserved

theorem mem_compose {c : Char} {text : List Char} (member : c ∈ compose text) :
    c ∈ text ∨ ∃ a b, composePair? a b = some c := by
  have preserved : ∀ first second composite, (first ∈ text ∨ ∃ a b, composePair? a b = some first) →
      (second ∈ text ∨ ∃ a b, composePair? a b = some second) →
      composePair? first second = some composite →
      composite ∈ text ∨ ∃ a b, composePair? a b = some composite :=
    fun first second _ _ _ composed => Or.inr ⟨first, second, composed⟩
  exact forall_mem_compose preserved (fun _ => Or.inl) c member

/-- A character of the composed form that stands alone comes from a decomposition. -/
theorem exists_of_mem_nfc {c : Char} {text : List Char} (member : c ∈ nfc text)
    (alone : standsAlone c = true) : ∃ a ∈ text, c ∈ decomposition a := by
  rcases mem_compose member with inSorted | ⟨a, b, made⟩
  · exact List.mem_flatMap.mp (mem_sortMarks inSorted)
  · rw [(composePair?_joining made).2.2] at alone
    contradiction

/-- Apart from two kinds of white space, a character that stands alone comes from the text itself. -/
theorem mem_of_mem_nfc {c : Char} {text : List Char} (member : c ∈ nfc text)
    (alone : standsAlone c = true) (enSpace : c ≠ '\u2002') (emSpace : c ≠ '\u2003') : c ∈ text := by
  obtain ⟨a, inText, inParts⟩ := exists_of_mem_nfc member alone
  rw [eq_of_mem_decomposition alone enSpace emSpace inParts]
  exact inText

theorem mem_of_isInert_of_mem_nfc {c : Char} {text : List Char} (member : c ∈ nfc text)
    (isInert : isInert c = true) : c ∈ text := by
  obtain ⟨a, inText, inParts⟩ := exists_of_mem_nfc member (standsAlone_of_isInert isInert)
  rw [eq_of_isInert_of_mem_decomposition isInert inParts]
  exact inText

/-- Composition keeps the inert characters of a text and their order. -/
theorem filter_isInert_nfc (text : List Char) : (nfc text).filter isInert = text.filter isInert := by
  have filter_run (word : List Char) (solid : ∀ c ∈ word, isInert c = false) :
      word.filter isInert = [] ∧ (nfc word).filter isInert = [] := by
    constructor
    · exact List.filter_eq_nil_iff.mpr fun c member => by simp [solid c member]
    · refine List.filter_eq_nil_iff.mpr fun c member inert => ?_
      have notInert := solid c (mem_of_isInert_of_mem_nfc member inert)
      rw [inert] at notInert
      contradiction
  induction text using Text.run_induction isInert with
  | run word solid => rw [(filter_run word solid).1, (filter_run word solid).2]
  | cut word b rest solid inert ih =>
    rw [nfc_append_cons_of_isInert inert, List.filter_append, List.filter_append,
      (filter_run word solid).1, (filter_run word solid).2, List.filter_cons_of_pos inert,
      List.filter_cons_of_pos inert, ih]

/-! ## Words of the composed form -/

theorem expandPairs_ne_nil (depth code : Nat) : expandPairs depth code ≠ [] := by
  cases depth with
  | zero => exact List.cons_ne_nil _ _
  | succ depth =>
    rw [expandPairs]
    split
    · simp
    · simp

theorem oneWayDecompositions_nonempty :
    oneWayDecompositions.all (fun entry => !entry.2.isEmpty) = true := by
  decide

theorem decompose?_ne_nil {code : Nat} {parts : List Nat}
    (found : Hangul.decompose? code = some parts) : parts ≠ [] := by
  unfold Hangul.decompose? at found
  split at found
  · obtain rfl := Option.some.inj found
    split <;> exact List.cons_ne_nil _ _
  · contradiction

theorem oneWayDecomposition?_ne_nil {code : Nat} {parts : List Nat}
    (found : oneWayDecomposition? code = some parts) : parts ≠ [] := by
  unfold oneWayDecomposition? at found
  split at found
  · rename_i entry
    obtain rfl := Option.some.inj found
    have checked := List.all_eq_true.mp oneWayDecompositions_nonempty _
      (List.mem_of_find?_eq_some entry)
    simpa using checked
  · split at found
    · obtain ⟨original, -, rfl⟩ := Option.map_eq_some_iff.mp found
      exact List.cons_ne_nil _ _
    · contradiction

theorem decomposition_ne_nil (c : Char) : decomposition c ≠ [] := by
  unfold decomposition
  split
  · exact List.cons_ne_nil _ _
  · rw [ne_eq, List.map_eq_nil_iff]
    cases hangul : Hangul.decompose? c.toNat with
    | some parts => exact decompose?_ne_nil hangul
    | none =>
      cases oneWay : oneWayDecomposition? c.toNat with
      | some parts => exact oneWayDecomposition?_ne_nil oneWay
      | none => exact expandPairs_ne_nil _ _

theorem insertMark_ne_nil (c : Char) (text : List Char) : insertMark c text ≠ [] := by
  cases text with
  | nil => exact List.cons_ne_nil _ _
  | cons d rest =>
    rw [insertMark]
    split <;> exact List.cons_ne_nil _ _

theorem composeAfter_ne_nil (base : Char) (marks text : List Char) :
    composeAfter base marks text ≠ [] := by
  induction text generalizing base marks with
  | nil => exact List.cons_ne_nil _ _
  | cons c rest ih =>
    rw [composeAfter]
    split
    · exact ih _ _
    · split
      · exact List.cons_ne_nil _ _
      · exact ih _ _

theorem nfc_ne_nil {text : List Char} (nonempty : text ≠ []) : nfc text ≠ [] := by
  have decomposed : text.flatMap decomposition ≠ [] := by
    obtain ⟨c, rest, rfl⟩ := List.exists_cons_of_ne_nil nonempty
    rw [List.flatMap_cons]
    exact List.append_ne_nil_of_left_ne_nil (decomposition_ne_nil c) _
  have sorted : sortMarks (text.flatMap decomposition) ≠ [] := by
    obtain ⟨c, rest, shape⟩ := List.exists_cons_of_ne_nil decomposed
    rw [shape]
    exact insertMark_ne_nil _ _
  obtain ⟨c, rest, shape⟩ := List.exists_cons_of_ne_nil sorted
  rw [nfc, shape, compose]
  split
  · exact composeAfter_ne_nil _ _ _
  · exact List.cons_ne_nil _ _

/-- A blank decomposes into a blank. -/
theorem decomposition_of_isWhiteSpace {b : Char} (blank : isWhiteSpace b = true) :
    ∃ c, decomposition b = [c] ∧ isWhiteSpace c = true := by
  have passed : passes (fun b => (decomposition b).length == 1 && (decomposition b).all isWhiteSpace)
      Property.whiteSpace = true := by
    decide
  have checked := of_passes passed blank
  simp only [Bool.and_eq_true, beq_iff_eq, List.length_eq_one_iff] at checked
  obtain ⟨⟨c, single⟩, blanks⟩ := checked
  rw [single] at blanks
  exact ⟨c, single, by simpa using blanks⟩

theorem isWhiteSpace_of_mem_nfc {text : List Char} {c : Char} (member : c ∈ nfc text)
    (blank : isWhiteSpace c = true) : ∃ b ∈ text, isWhiteSpace b = true := by
  obtain ⟨b, inText, inParts⟩ := exists_of_mem_nfc member (standsAlone_of_isWhiteSpace blank)
  exact ⟨b, inText, isWhiteSpace_of_mem_decomposition blank inParts⟩

/-- The composed form is made word by word. -/
theorem words_nfc (text : List Char) : Text.words (nfc text) = (Text.words text).map nfc := by
  refine Text.splitWords_comm rfl (fun word nonempty solid => ?_) (fun left b right blank => ?_) text
  · refine ⟨nfc_ne_nil nonempty, fun c member => Bool.eq_false_iff.mpr fun blank => ?_⟩
    obtain ⟨b, inWord, blankSource⟩ := isWhiteSpace_of_mem_nfc member blank
    rw [solid b inWord] at blankSource
    contradiction
  · obtain ⟨c, single, blankPart⟩ := decomposition_of_isWhiteSpace blank
    exact ⟨c, blankPart, nfc_append_cons single (standsAlone_of_isWhiteSpace blankPart) left right⟩

/-! ## Reserved characters -/

theorem mem_of_isReserved_of_mem_nfc {c : Char} {text : List Char} (member : c ∈ nfc text)
    (isReserved : isReserved c = true) : c ∈ text := by
  refine mem_of_mem_nfc member (standsAlone_of_isReserved isReserved) ?_ ?_
  · rintro rfl
    exact absurd isReserved (by decide)
  · rintro rfl
    exact absurd isReserved (by decide)

end TextQuery.Unicode
