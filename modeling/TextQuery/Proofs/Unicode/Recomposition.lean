import Mathlib.Data.List.Chain
import TextQuery.Proofs.Unicode.Composition

/-!
# Composing again

A composed text is its own composed form (`nfc_nfc`). Decomposing it and sorting its marks gives back the
sorted text that it was composed from, because a composite decomposes into its two parts
(`decomposition_of_composePair?`) and a mark that was composed can move back over the marks of lower class
that it was taken across.
-/
set_option autoImplicit false
set_option maxRecDepth 10000

namespace TextQuery.Unicode

/-! ## Sorted marks -/

/-- Marks of different classes may be inserted in any order. -/
theorem insertMark_comm {c d : Char} (positive : 0 < combiningClass c)
    (less : combiningClass c < combiningClass d) (text : List Char) :
    insertMark c (insertMark d text) = insertMark d (insertMark c text) := by
  induction text with
  | nil =>
    simp only [insertMark]
    rw [if_neg (by omega), if_pos ⟨positive, less⟩]
  | cons e rest ih =>
    by_cases overBoth : 0 < combiningClass e ∧ combiningClass e < combiningClass c
    · have overSecond : 0 < combiningClass e ∧ combiningClass e < combiningClass d := by omega
      simp only [insertMark, if_pos overBoth, if_pos overSecond, ih]
    · by_cases overSecond : 0 < combiningClass e ∧ combiningClass e < combiningClass d
      · simp only [insertMark, if_neg overBoth, if_pos overSecond, if_pos (And.intro positive less)]
      · have notOver : ¬(0 < combiningClass d ∧ combiningClass d < combiningClass c) := by omega
        simp only [insertMark, if_neg overBoth, if_neg overSecond, if_pos (And.intro positive less),
          if_neg notOver]

theorem sortMarks_append_congr (left : List Char) {right other : List Char}
    (same : sortMarks right = sortMarks other) : sortMarks (left ++ right) = sortMarks (left ++ other) := by
  induction left with
  | nil => exact same
  | cons c rest ih => rw [List.cons_append, List.cons_append, sortMarks, sortMarks, ih]

/-- Sorting takes a mark across marks of lower class. -/
theorem sortMarks_cons_append {c : Char} {marks : List Char}
    (lower : ∀ mark ∈ marks, 0 < combiningClass mark ∧ combiningClass mark < combiningClass c)
    (rest : List Char) : sortMarks (c :: (marks ++ rest)) = sortMarks (marks ++ c :: rest) := by
  induction marks with
  | nil => rfl
  | cons mark marks ih =>
    obtain ⟨⟨positive, less⟩, others⟩ := List.forall_mem_cons.mp lower
    have later := ih others
    rw [sortMarks] at later
    rw [List.cons_append, List.cons_append, sortMarks, sortMarks, ← insertMark_comm positive less, later,
      sortMarks]

/-- The classes do not fall, from a class on, up to the next starter. -/
def Ascends : Nat → List Char → Prop
  | _, [] => True
  | bound, c :: rest =>
    (combiningClass c = 0 ∨ bound ≤ combiningClass c) ∧ Ascends (combiningClass c) rest

theorem ascends_insertMark {bound : Nat} {c : Char} {text : List Char} (ascends : Ascends bound text)
    (above : combiningClass c = 0 ∨ bound ≤ combiningClass c) : Ascends bound (insertMark c text) := by
  induction text generalizing bound with
  | nil => exact ⟨above, trivial⟩
  | cons d rest ih =>
    obtain ⟨first, others⟩ := ascends
    rw [insertMark]
    split
    · rename_i passed
      exact ⟨first, ih others (Or.inr (Nat.le_of_lt passed.2))⟩
    · refine ⟨above, ?_, others⟩
      omega

theorem ascends_sortMarks (text : List Char) : Ascends 0 (sortMarks text) := by
  induction text with
  | nil => trivial
  | cons c rest ih => exact ascends_insertMark ih (Or.inr (Nat.zero_le _))

theorem sortMarks_of_ascends {bound : Nat} {text : List Char} (ascends : Ascends bound text) :
    sortMarks text = text := by
  induction text generalizing bound with
  | nil => rfl
  | cons c rest ih =>
    rw [sortMarks, ih ascends.2]
    cases rest with
    | nil => rfl
    | cons d more =>
      obtain ⟨-, above, -⟩ := ascends
      rw [insertMark, if_neg]
      omega

/-! ## What decomposes -/

/-- Characters whose decomposition is never undone. -/
def oneWayCodes : List Nat :=
  oneWayDecompositions.map Prod.fst ++
    ideographDuplicates.flatMap fun entry => List.range' entry.1 entry.2.length

def composites : List Nat := canonicalPairs.map fun pair => pair.2.2

/-- The character decomposes, if at all, by the canonical pairs. -/
def isPlainCode (code : Nat) : Bool :=
  !(codeMask oneWayCodes).testBit code && (Nat.blt code 0xAC00 || Nat.ble 0xD7A4 code)

/-- The character does not decompose. -/
def isWholeCode (code : Nat) : Bool := isPlainCode code && !(codeMask composites).testBit code

theorem find?_isComposite_eq_none {code : Nat} (whole : isWholeCode code = true) :
    canonicalPairs.find? (fun pair => pair.2.2 == code) = none := by
  rw [List.find?_eq_none]
  intro pair member same
  have present : code ∈ composites := List.mem_map.mpr ⟨pair, member, beq_iff_eq.mp same⟩
  rw [isWholeCode, testBit_codeMask, decide_eq_true present, Bool.not_true, Bool.and_false] at whole
  contradiction

theorem oneWayDecomposition?_eq_none {code : Nat} (plain : isPlainCode code = true) :
    oneWayDecomposition? code = none := by
  have absent : code ∉ oneWayCodes := by
    intro present
    rw [isPlainCode, testBit_codeMask, decide_eq_true present, Bool.not_true, Bool.false_and] at plain
    contradiction
  rw [oneWayCodes, List.mem_append, not_or] at absent
  have noEntry : oneWayDecompositions.find? (fun entry => entry.1 == code) = none := by
    rw [List.find?_eq_none]
    intro entry member same
    exact absent.1 (List.mem_map.mpr ⟨entry, member, beq_iff_eq.mp same⟩)
  rw [oneWayDecomposition?, noEntry]
  dsimp only
  split
  · rename_i found
    have inRun := List.find?_some found
    simp only [Bool.and_eq_true, decide_eq_true_eq] at inRun
    have member := List.mem_of_find?_eq_some found
    exact absurd (List.mem_flatMap.mpr ⟨_, member, List.mem_range'_1.mpr inRun⟩) absent.2
  · rfl

theorem decompose?_eq_none {code : Nat} (plain : isPlainCode code = true) :
    Hangul.decompose? code = none := by
  simp only [isPlainCode, Bool.and_eq_true, Bool.or_eq_true, Nat.blt_eq, Nat.ble_eq] at plain
  rw [Hangul.decompose?, if_neg]
  unfold Hangul.firstSyllable Hangul.syllableCount Hangul.leadingCount Hangul.vowelCount Hangul.trailingCount
  omega

/-- The composites are in ascending order, and none stands in the first block. -/
theorem composites_ascending : (0xBF :: composites).Pairwise (· < ·) :=
  List.isChain_iff_pairwise.mp (by decide +kernel)

theorem expandPairs_of_find?_eq_none {code : Nat}
    (none : canonicalPairs.find? (fun pair => pair.2.2 == code) = none) (depth : Nat) :
    expandPairs depth code = [code] := by
  cases depth with
  | zero => rfl
  | succ depth => rw [expandPairs, none]

theorem decomposition_of_isPlainCode {c : Char} (plain : isPlainCode c.toNat = true) :
    decomposition c = (expandPairs 3 c.toNat).map Char.ofNat := by
  rw [decomposition]
  split
  · rename_i low
    have none : canonicalPairs.find? (fun pair => pair.2.2 == c.toNat) = none := by
      rw [List.find?_eq_none]
      intro pair member same
      have high := (List.pairwise_cons.mp composites_ascending).1 pair.2.2 (List.mem_map_of_mem member)
      rw [beq_iff_eq] at same
      omega
    rw [expandPairs_of_find?_eq_none none, List.map_singleton, Char.ofNat_toNat]
  · rw [decompose?_eq_none plain, oneWayDecomposition?_eq_none plain]
    rfl

theorem decomposition_of_isWholeCode {c : Char} (whole : isWholeCode c.toNat = true) :
    decomposition c = [c] := by
  have plain : isPlainCode c.toNat = true := by
    rw [isWholeCode, Bool.and_eq_true] at whole
    exact whole.1
  rw [decomposition_of_isPlainCode plain, expandPairs_of_find?_eq_none (find?_isComposite_eq_none whole),
    List.map_singleton, Char.ofNat_toNat]

/-! ## Parts -/

/-- Undoing more pairs on the left edge changes nothing, and what is left does not decompose. -/
def Settles (depth code : Nat) : Prop :=
  (∀ more, expandPairs (depth + more) code = expandPairs depth code) ∧
    ∀ part ∈ expandPairs depth code, isWholeCode part = true

theorem settles_of_isWholeCode {code : Nat} (whole : isWholeCode code = true) : Settles 0 code := by
  have alone := expandPairs_of_find?_eq_none (find?_isComposite_eq_none whole)
  refine ⟨fun more => by rw [alone, alone], fun part member => ?_⟩
  rw [alone, List.mem_singleton] at member
  rwa [member]

theorem Settles.succ {depth code : Nat} (settles : Settles depth code) : Settles (depth + 1) code := by
  obtain ⟨same, whole⟩ := settles
  have next := same 1
  refine ⟨fun more => ?_, ?_⟩
  · rw [next, Nat.add_assoc, same]
  · rw [next]
    exact whole

/-- No character is composed of two pairs. -/
theorem find?_isComposite {pair : Nat × Nat × Nat} (member : pair ∈ canonicalPairs) :
    canonicalPairs.find? (fun other => other.2.2 == pair.2.2) = some pair := by
  have distinct : canonicalPairs.Pairwise fun first second => first.2.2 < second.2.2 :=
    List.pairwise_map.mp (List.pairwise_cons.mp composites_ascending).2
  obtain ⟨before, after, shape⟩ := List.append_of_mem member
  rw [shape, List.pairwise_append] at distinct
  refine List.find?_eq_some_iff_append.mpr ⟨beq_self_eq_true _, before, after, shape, ?_⟩
  intro other earlier
  have less := distinct.2.2 other earlier pair List.mem_cons_self
  simpa using Nat.ne_of_lt less

theorem expandPairs_composite {pair : Nat × Nat × Nat} (member : pair ∈ canonicalPairs) (depth : Nat) :
    expandPairs (depth + 1) pair.2.2 = expandPairs depth pair.1 ++ [pair.2.1] := by
  rw [expandPairs, find?_isComposite member]

theorem Settles.composite {pair : Nat × Nat × Nat} (member : pair ∈ canonicalPairs)
    (second : isWholeCode pair.2.1 = true) {depth : Nat} (first : Settles depth pair.1) :
    Settles (depth + 1) pair.2.2 := by
  obtain ⟨same, whole⟩ := first
  refine ⟨fun more => ?_, fun part inParts => ?_⟩
  · rw [Nat.add_right_comm, expandPairs_composite member, expandPairs_composite member, same]
  · rw [expandPairs_composite member, List.mem_append, List.mem_singleton] at inParts
    rcases inParts with inFirst | rfl
    · exact whole part inFirst
    · exact second

/-- The pairs whose first character does not decompose. -/
def innermost : List (Nat × Nat × Nat) := canonicalPairs.filter fun pair => isWholeCode pair.1

/-- The pairs around the innermost. -/
def middle : List (Nat × Nat × Nat) :=
  canonicalPairs.filter fun pair => (codeMask (innermost.map fun inner => inner.2.2)).testBit pair.1

/-- Of the parts that the tables name only the first of a pair decomposes. -/
theorem tables_whole :
    canonicalPairs.all (fun pair =>
      isPlainCode pair.1 && isWholeCode pair.2.1 && isPlainCode pair.2.2) = true ∧
    oneWayDecompositions.all (fun entry => entry.2.all isWholeCode) = true ∧
    ideographDuplicates.all (fun entry => entry.2.all isWholeCode) = true := by
  decide +kernel

/-- No pair is nested deeper than three. -/
theorem canonicalPairs_nested : canonicalPairs.all (fun pair =>
    isWholeCode pair.1 || (codeMask (innermost.map fun inner => inner.2.2)).testBit pair.1 ||
      (codeMask (middle.map fun inner => inner.2.2)).testBit pair.1) = true := by
  decide +kernel

theorem plain_of_mem_canonicalPairs {pair : Nat × Nat × Nat} (member : pair ∈ canonicalPairs) :
    isPlainCode pair.1 = true ∧ isWholeCode pair.2.1 = true ∧ isPlainCode pair.2.2 = true := by
  have checked := List.all_eq_true.mp tables_whole.1 pair member
  simpa only [Bool.and_eq_true, and_assoc] using checked

theorem Settles.of_testBit {pairs : List (Nat × Nat × Nat)} {depth code : Nat}
    (settled : ∀ pair ∈ pairs, Settles depth pair.2.2)
    (present : (codeMask (pairs.map fun pair => pair.2.2)).testBit code = true) : Settles depth code := by
  rw [testBit_codeMask, decide_eq_true_eq] at present
  obtain ⟨pair, member, rfl⟩ := List.mem_map.mp present
  exact settled pair member

theorem settles_of_mem_canonicalPairs {pair : Nat × Nat × Nat} (member : pair ∈ canonicalPairs) :
    Settles 2 pair.1 := by
  have inner : ∀ pair ∈ innermost, Settles 1 pair.2.2 := by
    intro pair found
    obtain ⟨inTable, first⟩ := List.mem_filter.mp found
    exact (settles_of_isWholeCode first).composite inTable (plain_of_mem_canonicalPairs inTable).2.1
  have outer : ∀ pair ∈ middle, Settles 2 pair.2.2 := by
    intro pair found
    obtain ⟨inTable, first⟩ := List.mem_filter.mp found
    exact (Settles.of_testBit inner first).composite inTable (plain_of_mem_canonicalPairs inTable).2.1
  have depth := List.all_eq_true.mp canonicalPairs_nested pair member
  rw [Bool.or_eq_true, Bool.or_eq_true, or_assoc] at depth
  rcases depth with whole | inInner | inOuter
  · exact (settles_of_isWholeCode whole).succ.succ
  · exact (Settles.of_testBit inner inInner).succ
  · exact Settles.of_testBit outer inOuter

theorem toNat_of_mem_canonicalPairs {pair : Nat × Nat × Nat} (member : pair ∈ canonicalPairs) :
    (Char.ofNat pair.1).toNat = pair.1 ∧ (Char.ofNat pair.2.1).toNat = pair.2.1 ∧
      (Char.ofNat pair.2.2).toNat = pair.2.2 := by
  have valid : ∀ code, isJoining code code = true → (Char.ofNat code).toNat = code := fun code joins =>
    toNat_ofNat ((apart_of_isJoining joins).1 code (Nat.le_refl _) (Nat.le_refl _))
  obtain ⟨first, second, composite⟩ := isJoining_of_mem_canonicalPairs member
  exact ⟨valid _ first, valid _ second, valid _ composite⟩

/-- A composite of the table decomposes into its parts. -/
theorem decomposition_composite {pair : Nat × Nat × Nat} (member : pair ∈ canonicalPairs) :
    decomposition (Char.ofNat pair.2.2) = decomposition (Char.ofNat pair.1) ++ [Char.ofNat pair.2.1] := by
  obtain ⟨first, -, composite⟩ := plain_of_mem_canonicalPairs member
  obtain ⟨firstCode, -, compositeCode⟩ := toNat_of_mem_canonicalPairs member
  rw [← firstCode] at first
  rw [← compositeCode] at composite
  rw [decomposition_of_isPlainCode composite, decomposition_of_isPlainCode first, compositeCode, firstCode,
    expandPairs_composite member, List.map_append, (settles_of_mem_canonicalPairs member).1 1]
  rfl

/-! ## Hangul -/

/-- The code lies outside of the blocks for letters and syllables of Hangul. -/
def isApartCode (code : Nat) : Bool :=
  Nat.blt code 0x1100 || Nat.ble 0x1200 code && Nat.blt code 0xAC00 || Nat.ble 0xD7A4 code

theorem not_mem_of_apart {codes : List Nat} (apart : codes.all isApartCode = true) {code : Nat}
    (hangul : 0x1100 ≤ code ∧ code < 0x1200 ∨ 0xAC00 ≤ code ∧ code < 0xD7A4) : code ∉ codes := by
  intro member
  have outside := List.all_eq_true.mp apart code member
  simp only [isApartCode, Bool.or_eq_true, Bool.and_eq_true, Nat.blt_eq, Nat.ble_eq] at outside
  omega

theorem tables_apart : oneWayCodes.all isApartCode = true ∧ composites.all isApartCode = true := by
  decide +kernel

/-- The letters of Hangul do not decompose. -/
theorem isWholeCode_letter {code : Nat} (low : 0x1100 ≤ code) (high : code < 0x1200) :
    isWholeCode code = true := by
  have hangul : 0x1100 ≤ code ∧ code < 0x1200 ∨ 0xAC00 ≤ code ∧ code < 0xD7A4 := Or.inl ⟨low, high⟩
  have below : Nat.blt code 0xAC00 = true := by
    rw [Nat.blt_eq]
    omega
  rw [isWholeCode, isPlainCode, testBit_codeMask, testBit_codeMask,
    decide_eq_false (not_mem_of_apart tables_apart.1 hangul),
    decide_eq_false (not_mem_of_apart tables_apart.2 hangul), below]
  rfl

theorem decomposition_letter {c : Char} (low : 0x1100 ≤ c.toNat) (high : c.toNat < 0x1200) :
    decomposition c = [c] :=
  decomposition_of_isWholeCode (isWholeCode_letter low high)

/-- A syllable has the parts that its place in the block tells. -/
theorem decompose?_syllable {leading vowel trailing : Nat} (leadingBound : leading < 19)
    (vowelBound : vowel < 21) (trailingBound : trailing < 28) :
    Hangul.decompose? (0xAC00 + (leading * 21 + vowel) * 28 + trailing) =
      some ([0x1100 + leading, 0x1161 + vowel] ++ if trailing = 0 then [] else [0x11A7 + trailing]) := by
  unfold Hangul.decompose? Hangul.syllableCount Hangul.firstLeading Hangul.leadingCount Hangul.firstVowel
    Hangul.vowelCount Hangul.firstSyllable Hangul.trailingCount Hangul.noTrailing
  obtain ⟨position, place⟩ : ∃ position, position = (leading * 21 + vowel) * 28 + trailing := ⟨_, rfl⟩
  have first : position / (21 * 28) = leading := by omega
  have second : position % (21 * 28) / 28 = vowel := by omega
  have third : position % 28 = trailing := by omega
  have inBlock : 0xAC00 ≤ 0xAC00 + position ∧ 0xAC00 + position < 0xAC00 + 19 * 21 * 28 := by omega
  rw [Nat.add_assoc, ← place, if_pos inBlock, Nat.add_sub_cancel_left]
  dsimp only
  rw [first, second, third]
  split <;> rfl

/-- What composes to a syllable is a leading consonant and a vowel, or a syllable of these two and a trailing
consonant. -/
theorem compose?_cases {first second code : Nat} (composed : Hangul.compose? first second = some code) :
    ∃ leading < 19, ∃ vowel < 21,
      (first = 0x1100 + leading ∧ second = 0x1161 + vowel ∧
        code = 0xAC00 + (leading * 21 + vowel) * 28) ∨
      ∃ trailing < 28, 0 < trailing ∧ first = 0xAC00 + (leading * 21 + vowel) * 28 ∧
        second = 0x11A7 + trailing ∧ code = 0xAC00 + (leading * 21 + vowel) * 28 + trailing := by
  unfold Hangul.compose? Hangul.firstLeading Hangul.leadingCount Hangul.firstVowel Hangul.vowelCount
    Hangul.firstSyllable Hangul.trailingCount Hangul.noTrailing Hangul.syllableCount at composed
  split at composed
  · obtain rfl := Option.some.inj composed
    exact ⟨first - 0x1100, by omega, second - 0x1161, by omega, Or.inl (by omega)⟩
  · split at composed
    · rename_i bounds
      unfold Hangul.leadingCount Hangul.vowelCount Hangul.trailingCount at bounds
      obtain rfl := Option.some.inj composed
      obtain ⟨block, place⟩ : ∃ block, block = (first - 0xAC00) / 28 := ⟨_, rfl⟩
      exact ⟨block / 21, by omega, block % 21, by omega,
        Or.inr ⟨second - 0x11A7, by omega, by omega, by omega, by omega, by omega⟩⟩
    · contradiction
theorem decomposition_of_decompose? {c : Char} {parts : List Nat}
    (found : Hangul.decompose? c.toNat = some parts) : decomposition c = parts.map Char.ofNat := by
  have high : ¬c.toNat < 0xC0 := by
    unfold Hangul.decompose? Hangul.firstSyllable at found
    split at found
    · omega
    · contradiction
  rw [decomposition, if_neg high, found]
  rfl

/-- A composite decomposes into the parts of its first character and its second. -/
theorem decomposition_of_composePair? {first second composite : Char}
    (composed : composePair? first second = some composite) :
    decomposition composite = decomposition first ++ [second] := by
  unfold composePair? at composed
  split at composed
  · contradiction
  · split at composed
    · rename_i code hangul
      obtain rfl : Char.ofNat code = composite := by simpa using composed
      have joins := isJoining_of_isHangulCode (isHangulCode_of_compose? hangul).2.2
      have same := toNat_ofNat ((apart_of_isJoining joins).1 code (Nat.le_refl _) (Nat.le_refl _))
      obtain ⟨leading, leadingBound, vowel, vowelBound, letters | syllable⟩ := compose?_cases hangul
      · obtain ⟨firstCode, secondCode, place⟩ := letters
        have found := decompose?_syllable leadingBound vowelBound (show 0 < 28 by decide)
        rw [Nat.add_zero, ← place, ← same, ← firstCode, ← secondCode] at found
        rw [decomposition_of_decompose? found, decomposition_letter (by omega) (by omega)]
        simp
      · obtain ⟨trailing, trailingBound, positive, firstCode, secondCode, place⟩ := syllable
        have found := decompose?_syllable leadingBound vowelBound trailingBound
        have foundFirst := decompose?_syllable leadingBound vowelBound (show 0 < 28 by decide)
        rw [← place, ← same, if_neg (by omega), ← secondCode] at found
        rw [Nat.add_zero, ← firstCode] at foundFirst
        rw [decomposition_of_decompose? found, decomposition_of_decompose? foundFirst]
        simp
    · obtain ⟨pair, found, rfl⟩ := Option.map_eq_some_iff.mp composed
      have same : (pair.1 == first.toNat && pair.2.1 == second.toNat) = true := by
        simpa using List.find?_some found
      rw [Bool.and_eq_true, beq_iff_eq, beq_iff_eq] at same
      rw [decomposition_composite (List.mem_of_find?_eq_some found), same.1, same.2, Char.ofNat_toNat,
        Char.ofNat_toNat]

/-! ## Full decompositions -/

theorem isWholeCode_of_mem_oneWayDecomposition? {code part : Nat} {parts : List Nat}
    (found : oneWayDecomposition? code = some parts) (member : part ∈ parts) : isWholeCode part = true := by
  unfold oneWayDecomposition? at found
  split at found
  · rename_i entry
    obtain rfl := Option.some.inj found
    have checked := List.all_eq_true.mp tables_whole.2.1 _ (List.mem_of_find?_eq_some entry)
    exact List.all_eq_true.mp checked part member
  · split at found
    · rename_i entry
      obtain ⟨original, inRun, rfl⟩ := Option.map_eq_some_iff.mp found
      rw [List.mem_singleton.mp member]
      have checked := List.all_eq_true.mp tables_whole.2.2 _ (List.mem_of_find?_eq_some entry)
      exact List.all_eq_true.mp checked _ (List.mem_of_getElem? inRun)
    · contradiction

theorem decomposition_ofNat_of_isWholeCode {code : Nat} (whole : isWholeCode code = true) :
    decomposition (Char.ofNat code) = [Char.ofNat code] := by
  by_cases valid : code.isValidChar
  · refine decomposition_of_isWholeCode ?_
    rwa [toNat_ofNat valid]
  · rw [Char.ofNat, dif_neg valid]
    rfl

theorem isWholeCode_of_mem_decompose? {code part : Nat} {parts : List Nat}
    (found : Hangul.decompose? code = some parts) (member : part ∈ parts) : isWholeCode part = true := by
  obtain ⟨leading, leadingBound, vowel, vowelBound, trailing, trailingBound, place⟩ :
      ∃ leading < 19, ∃ vowel < 21, ∃ trailing < 28,
        code = 0xAC00 + (leading * 21 + vowel) * 28 + trailing := by
    unfold Hangul.decompose? Hangul.firstSyllable Hangul.syllableCount Hangul.leadingCount
      Hangul.vowelCount Hangul.trailingCount at found
    split at found
    · obtain ⟨block, blockPlace⟩ : ∃ block, block = (code - 0xAC00) / 28 := ⟨_, rfl⟩
      exact ⟨block / 21, by omega, block % 21, by omega, (code - 0xAC00) % 28, by omega, by omega⟩
    · contradiction
  rw [place, decompose?_syllable leadingBound vowelBound trailingBound] at found
  obtain rfl := Option.some.inj found
  have letter : part = 0x1100 + leading ∨ part = 0x1161 + vowel ∨ part = 0x11A7 + trailing := by
    simp only [List.mem_append, List.mem_cons, List.not_mem_nil, or_false] at member
    rcases member with (isLeading | isVowel) | inRest
    · exact Or.inl isLeading
    · exact Or.inr (Or.inl isVowel)
    · split at inRest
      · contradiction
      · exact Or.inr (Or.inr (List.mem_singleton.mp inRest))
  exact isWholeCode_letter (by omega) (by omega)

/-- What a decomposition holds does not decompose any further. -/
theorem decomposition_of_mem_decomposition {c part : Char} (member : part ∈ decomposition c) :
    decomposition part = [part] := by
  by_cases low : c.toNat < 0xC0
  · have alone : decomposition c = [c] := by rw [decomposition, if_pos low]
    rw [alone, List.mem_singleton] at member
    rw [member, alone]
  · rw [decomposition, if_neg low] at member
    obtain ⟨code, inParts, rfl⟩ := List.mem_map.mp member
    cases hangul : Hangul.decompose? c.toNat with
    | some parts =>
      rw [hangul] at inParts
      exact decomposition_ofNat_of_isWholeCode (isWholeCode_of_mem_decompose? hangul inParts)
    | none =>
      cases oneWay : oneWayDecomposition? c.toNat with
      | some parts =>
        rw [hangul, oneWay] at inParts
        exact decomposition_ofNat_of_isWholeCode (isWholeCode_of_mem_oneWayDecomposition? oneWay inParts)
      | none =>
        rw [hangul, oneWay] at inParts
        have expanded : code ∈ expandPairs 3 c.toNat := inParts
        cases entry : canonicalPairs.find? fun pair => pair.2.2 == c.toNat with
        | none =>
          have alone := expandPairs_of_find?_eq_none entry 3
          rw [alone, List.mem_singleton] at expanded
          rw [expanded, Char.ofNat_toNat, decomposition, if_neg low, hangul, oneWay]
          simp [alone, Char.ofNat_toNat]
        | some pair =>
          have inTable := List.mem_of_find?_eq_some entry
          have same : pair.2.2 = c.toNat := by simpa using List.find?_some entry
          have settles := (settles_of_mem_canonicalPairs inTable).composite inTable
            (plain_of_mem_canonicalPairs inTable).2.1
          rw [← same] at expanded
          exact decomposition_ofNat_of_isWholeCode (settles.2 code expanded)

/-! ## The composed form -/

/-- The marks that wait behind a base, the nearest first, are of no higher class than the nearest, which is of
no higher class than the bound. -/
structure Waiting (marks : List Char) (bound : Nat) : Prop where
  positive : ∀ mark ∈ marks, 0 < combiningClass mark
  nearest : ∀ near ∈ marks.head?, ∀ mark ∈ marks, combiningClass mark ≤ combiningClass near
  bounded : ∀ mark ∈ marks, combiningClass mark ≤ bound

theorem waiting_nil (bound : Nat) : Waiting [] bound where
  positive := fun _ member => absurd member List.not_mem_nil
  nearest := fun _ _ _ member => absurd member List.not_mem_nil
  bounded := fun _ member => absurd member List.not_mem_nil

theorem Waiting.cons {marks : List Char} {bound : Nat} {c : Char} (waiting : Waiting marks bound)
    (mark : 0 < combiningClass c) (above : bound ≤ combiningClass c) :
    Waiting (c :: marks) (combiningClass c) := by
  have below : ∀ mark ∈ c :: marks, combiningClass mark ≤ combiningClass c := by
    refine List.forall_mem_cons.mpr ⟨Nat.le_refl _, fun mark member => ?_⟩
    exact Nat.le_trans (waiting.bounded mark member) above
  refine ⟨List.forall_mem_cons.mpr ⟨mark, waiting.positive⟩, ?_, below⟩
  intro near first
  obtain rfl := Option.some.inj first
  exact below

/-- A mark that is not cut off is of higher class than all that wait. -/
theorem Waiting.less {marks : List Char} {bound : Nat} {c : Char} (waiting : Waiting marks bound)
    (free : isBlocked marks c = false) : ∀ mark ∈ marks,
      0 < combiningClass mark ∧ combiningClass mark < combiningClass c := by
  intro mark member
  refine ⟨waiting.positive mark member, ?_⟩
  cases marks with
  | nil => contradiction
  | cons near rest =>
    rw [isBlocked, decide_eq_false_iff_not] at free
    have highest := waiting.nearest near rfl mark member
    omega

theorem flatMap_decomposition {text : List Char} (whole : ∀ c ∈ text, decomposition c = [c]) :
    text.flatMap decomposition = text := by
  induction text with
  | nil => rfl
  | cons c rest ih =>
    obtain ⟨first, others⟩ := List.forall_mem_cons.mp whole
    rw [List.flatMap_cons, first, ih others, List.singleton_append]

/-- Decomposing what was composed gives back the text, up to the order of marks that sorting settles. -/
theorem sortMarks_composeAfter (base : Char) {marks text : List Char} {bound : Nat}
    (wholeMarks : ∀ c ∈ marks, decomposition c = [c]) (whole : ∀ c ∈ text, decomposition c = [c])
    (waiting : Waiting marks bound) (ascends : Ascends bound text) :
    sortMarks ((composeAfter base marks text).flatMap decomposition) =
      sortMarks (decomposition base ++ (marks.reverse ++ text)) := by
  induction text generalizing base marks bound with
  | nil =>
    have reversed : ∀ c ∈ marks.reverse, decomposition c = [c] := fun c member =>
      wholeMarks c (List.mem_reverse.mp member)
    rw [composeAfter, List.flatMap_cons, flatMap_decomposition reversed, List.append_nil]
  | cons c rest ih =>
    obtain ⟨first, others⟩ := List.forall_mem_cons.mp whole
    obtain ⟨above, later⟩ := ascends
    rw [composeAfter]
    split
    · rename_i composite composed
      have free : isBlocked marks c = false := by
        by_cases blocked : isBlocked marks c = true
        · rw [if_pos blocked] at composed
          contradiction
        · exact Bool.eq_false_iff.mpr blocked
      rw [free, if_neg Bool.false_ne_true] at composed
      have less := waiting.less free
      have waits : Waiting marks (combiningClass c) :=
        ⟨waiting.positive, waiting.nearest, fun mark member => Nat.le_of_lt (less mark member).2⟩
      rw [ih composite wholeMarks others waits later, decomposition_of_composePair? composed, List.append_assoc]
      refine sortMarks_append_congr _ (sortMarks_cons_append (fun mark member => ?_) rest)
      exact less mark (List.mem_reverse.mp member)
    · split
      · rename_i starter
        have reversed : ∀ c ∈ marks.reverse, decomposition c = [c] := fun c member =>
          wholeMarks c (List.mem_reverse.mp member)
        have behind := ih c (fun _ member => absurd member List.not_mem_nil) others
          (waiting_nil _) later
        rw [first] at behind
        rw [List.flatMap_cons, List.flatMap_append, flatMap_decomposition reversed]
        exact sortMarks_append_congr _ (sortMarks_append_congr _ behind)
      · rename_i mark
        have waits := waiting.cons (by omega) (above.resolve_left mark)
        rw [ih base (List.forall_mem_cons.mpr ⟨first, wholeMarks⟩) others waits later, List.reverse_cons,
          List.append_assoc, List.singleton_append]

theorem sortMarks_compose {text : List Char} {bound : Nat} (whole : ∀ c ∈ text, decomposition c = [c])
    (ascends : Ascends bound text) :
    sortMarks ((compose text).flatMap decomposition) = sortMarks text := by
  induction text generalizing bound with
  | nil => rfl
  | cons c rest ih =>
    obtain ⟨first, others⟩ := List.forall_mem_cons.mp whole
    rw [compose]
    split
    · have behind := sortMarks_composeAfter c (fun _ member => absurd member List.not_mem_nil)
        others (waiting_nil _) ascends.2
      rw [behind, first]
      rfl
    · rw [List.flatMap_cons, first, List.singleton_append, sortMarks, ih others ascends.2, sortMarks]

/-- A composed text is its own composed form. -/
theorem nfc_nfc (text : List Char) : nfc (nfc text) = nfc text := by
  have whole : ∀ c ∈ sortMarks (text.flatMap decomposition), decomposition c = [c] := by
    intro c member
    obtain ⟨a, -, inParts⟩ := List.mem_flatMap.mp (mem_sortMarks member)
    exact decomposition_of_mem_decomposition inParts
  have ascends := ascends_sortMarks (text.flatMap decomposition)
  rw [nfc, nfc, sortMarks_compose whole ascends, sortMarks_of_ascends ascends]

end TextQuery.Unicode
