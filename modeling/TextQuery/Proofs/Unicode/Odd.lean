import TextQuery.Proofs.Unicode.Composition

/-!
# Odd characters

Odd are all characters but the ASCII letters and the inert characters. Composition does not change a text
without odd characters (`nfc_of_even`), and it does not make one of a text with odd characters
(`even_of_even_nfc`), unless the text holds the Kelvin sign, which stands for an ASCII letter.
-/
set_option autoImplicit false
set_option maxRecDepth 10000

namespace TextQuery.Unicode

def odd : List CodeRange := [(0x3B, 0x3E), (0x60, 0x60), (0x80, 0x10FFFF)]

def isOdd (c : Char) : Bool := inRanges odd c

theorem isOdd_iff {c : Char} :
    isOdd c = true ↔ 0x3B ≤ c.toNat ∧ c.toNat ≤ 0x3E ∨ c.toNat = 0x60 ∨ 0x80 ≤ c.toNat := by
  have bound : c.toNat ≤ 0x10FFFF := by
    have valid := c.valid
    unfold UInt32.isValidChar Nat.isValidChar at valid
    have same : c.toNat = c.val.toNat := rfl
    omega
  simp only [isOdd, inRanges, odd, inRange, List.any_cons, List.any_nil, Bool.or_false,
    Bool.or_eq_true, Bool.and_eq_true, decide_eq_true_eq]
  omega

theorem toNat_lt_of_even {c : Char} (even : isOdd c = false) : c.toNat < 0x80 := by
  rcases Nat.lt_or_ge c.toNat 0x80 with low | high
  · exact low
  · rw [isOdd_iff.mpr (Or.inr (Or.inr high))] at even
    contradiction

theorem isOdd_of_isInert {c : Char} (inert : isInert c = true) : isOdd c = false :=
  inRanges_eq_false (show apart odd Unicode.inert = true by decide) inert

/-! ## Texts of ASCII characters -/

theorem combiningClasses_high :
    combiningClasses.all (fun entry => Nat.ble 0x80 entry.1.1) = true := by
  decide

theorem combiningClass_ascii {c : Char} (low : c.toNat < 0x80) : combiningClass c = 0 := by
  unfold combiningClass
  split
  · rename_i entry found
    have inEntry : inRange entry.1 c = true := by simpa using List.find?_some found
    have high := List.all_eq_true.mp combiningClasses_high _ (List.mem_of_find?_eq_some found)
    simp only [inRange, Bool.and_eq_true, decide_eq_true_eq] at inEntry
    rw [Nat.ble_eq] at high
    omega
  · rfl

theorem composePair?_ascii {c : Char} (low : c.toNat < 0x80) (base : Char) :
    composePair? base c = none := by
  rw [composePair?, if_pos (by omega)]

theorem nfc_ascii {text : List Char} (ascii : ∀ c ∈ text, c.toNat < 0x80) : nfc text = text := by
  have decomposed : text.flatMap decomposition = text := by
    induction text with
    | nil => rfl
    | cons c rest ih =>
      obtain ⟨low, others⟩ := List.forall_mem_cons.mp ascii
      rw [List.flatMap_cons, ih others, decomposition, if_pos (by omega)]
      rfl
  have sorted : sortMarks text = text := by
    clear decomposed
    induction text with
    | nil => rfl
    | cons c rest ih =>
      obtain ⟨low, others⟩ := List.forall_mem_cons.mp ascii
      rw [sortMarks, ih others, insertMark_of_starter (combiningClass_ascii low)]
  have after : ∀ (rest : List Char) (base : Char), (∀ c ∈ rest, c.toNat < 0x80) →
      composeAfter base [] rest = base :: rest := by
    intro rest
    induction rest with
    | nil =>
      intro base _
      rfl
    | cons c rest ih =>
      intro base asciiRest
      obtain ⟨low, others⟩ := List.forall_mem_cons.mp asciiRest
      rw [composeAfter, composePair?_ascii low, ite_self, if_pos (combiningClass_ascii low),
        ih c others]
      rfl
  rw [nfc, decomposed, sorted]
  cases text with
  | nil => rfl
  | cons c rest =>
    obtain ⟨low, others⟩ := List.forall_mem_cons.mp ascii
    rw [compose, if_pos (combiningClass_ascii low), after rest c others]

theorem nfc_of_even {text : List Char} (even : ∀ c ∈ text, isOdd c = false) : nfc text = text :=
  nfc_ascii fun c member => toNat_lt_of_even (even c member)

/-! ## Odd characters stay -/

def isOddCode (code : Nat) : Bool :=
  Nat.beq code 0x3B || Nat.beq code 0x60 || Nat.ble 0x80 code && Nat.blt code 0xD800 ||
    Nat.ble 0xE000 code && Nat.ble code 0x10FFFF

theorem isOdd_ofNat {code : Nat} (oddCode : isOddCode code = true) :
    isOdd (Char.ofNat code) = true := by
  simp only [isOddCode, Bool.or_eq_true, Bool.and_eq_true, Nat.beq_eq, Nat.ble_eq, Nat.blt_eq]
    at oddCode
  have valid : code.isValidChar := by
    unfold Nat.isValidChar
    omega
  rw [isOdd_iff, toNat_ofNat valid]
  omega

theorem canonicalPairs_odd : canonicalPairs.all (fun pair =>
    isOddCode pair.2.1 && isOddCode pair.2.2) = true := by
  decide

theorem oneWayDecompositions_odd : oneWayDecompositions.all (fun entry =>
    Nat.beq entry.1 0x212A || entry.2.any isOddCode) = true := by
  decide

theorem ideographDuplicates_odd : ideographDuplicates.all (fun entry =>
    entry.2.all isOddCode) = true := by
  decide

theorem isOddCode_of_isHangulCode {code : Nat} (hangul : isHangulCode code) :
    isOddCode code = true := by
  unfold isHangulCode at hangul
  simp only [isOddCode, Bool.or_eq_true, Bool.and_eq_true, Nat.beq_eq, Nat.ble_eq, Nat.blt_eq]
  omega

theorem exists_odd_oneWayDecomposition? {code : Nat} {parts : List Nat}
    (found : oneWayDecomposition? code = some parts) (kelvin : code ≠ 0x212A) :
    ∃ part ∈ parts, isOddCode part = true := by
  unfold oneWayDecomposition? at found
  split at found
  · rename_i key entryParts entry
    obtain rfl := Option.some.inj found
    have same : key = code := by simpa using List.find?_some entry
    have checked := List.all_eq_true.mp oneWayDecompositions_odd _ (List.mem_of_find?_eq_some entry)
    simp only [Bool.or_eq_true, Nat.beq_eq, List.any_eq_true] at checked
    exact checked.resolve_left fun isKelvin => kelvin (same.symm.trans isKelvin)
  · split at found
    · rename_i start run entry
      obtain ⟨original, inRun, rfl⟩ := Option.map_eq_some_iff.mp found
      have checked := List.all_eq_true.mp ideographDuplicates_odd _ (List.mem_of_find?_eq_some entry)
      exact ⟨original, List.mem_singleton_self _,
        List.all_eq_true.mp checked _ (List.mem_of_getElem? inRun)⟩
    · contradiction

theorem exists_odd_expandPairs {depth code : Nat} (oddCode : isOddCode code = true) :
    ∃ part ∈ expandPairs depth code, isOddCode part = true := by
  cases depth with
  | zero => exact ⟨code, List.mem_singleton_self _, oddCode⟩
  | succ depth =>
    rw [expandPairs]
    split
    · rename_i first second composite found
      have checked := List.all_eq_true.mp canonicalPairs_odd _ (List.mem_of_find?_eq_some found)
      rw [Bool.and_eq_true] at checked
      exact ⟨second, List.mem_append_right _ (List.mem_singleton_self _), checked.1⟩
    · exact ⟨code, List.mem_singleton_self _, oddCode⟩

theorem exists_odd_decomposition {c : Char} (isOddChar : isOdd c = true) (kelvin : c ≠ '\u212A') :
    ∃ part ∈ decomposition c, isOdd part = true := by
  unfold decomposition
  split
  · exact ⟨c, List.mem_singleton_self _, isOddChar⟩
  · rename_i high
    have oddParts : ∀ parts : List Nat, (∃ part ∈ parts, isOddCode part = true) →
        ∃ part ∈ parts.map Char.ofNat, isOdd part = true := by
      rintro parts ⟨part, member, oddPart⟩
      exact ⟨Char.ofNat part, List.mem_map_of_mem member, isOdd_ofNat oddPart⟩
    refine oddParts _ ?_
    cases hangul : Hangul.decompose? c.toNat with
    | some parts =>
      obtain ⟨part, member⟩ := List.exists_mem_of_ne_nil _ (decompose?_ne_nil hangul)
      exact ⟨part, member, isOddCode_of_isHangulCode (isHangulCode_of_mem_decompose? hangul member)⟩
    | none =>
      cases oneWay : oneWayDecomposition? c.toNat with
      | some parts =>
        exact exists_odd_oneWayDecomposition? oneWay fun same => kelvin (Char.toNat_inj.mp same)
      | none =>
        refine exists_odd_expandPairs ?_
        have bound := c.valid
        have same : c.toNat = c.val.toNat := rfl
        unfold UInt32.isValidChar Nat.isValidChar at bound
        simp only [isOddCode, Bool.or_eq_true, Bool.and_eq_true, Nat.beq_eq, Nat.ble_eq, Nat.blt_eq]
        omega

theorem isOdd_of_composePair? {first second composite : Char}
    (composed : composePair? first second = some composite) : isOdd composite = true := by
  unfold composePair? at composed
  split at composed
  · contradiction
  · split at composed
    · rename_i code hangul
      obtain rfl : Char.ofNat code = composite := by simpa using composed
      exact isOdd_ofNat (isOddCode_of_isHangulCode (isHangulCode_of_compose? hangul).2.2)
    · obtain ⟨pair, found, rfl⟩ := Option.map_eq_some_iff.mp composed
      have checked := List.all_eq_true.mp canonicalPairs_odd _ (List.mem_of_find?_eq_some found)
      rw [Bool.and_eq_true] at checked
      exact isOdd_ofNat checked.2

theorem mem_insertMark_of_mem {c d : Char} {text : List Char} (member : c = d ∨ c ∈ text) :
    c ∈ insertMark d text := by
  induction text with
  | nil => simpa [insertMark] using member
  | cons e rest ih =>
    rw [insertMark]
    split
    · rcases member with rfl | member
      · exact List.mem_cons_of_mem _ (ih (Or.inl rfl))
      · rcases List.mem_cons.mp member with rfl | later
        · exact List.mem_cons_self
        · exact List.mem_cons_of_mem _ (ih (Or.inr later))
    · exact List.mem_cons.mpr member

theorem mem_sortMarks_of_mem {c : Char} {text : List Char} (member : c ∈ text) :
    c ∈ sortMarks text := by
  induction text with
  | nil => contradiction
  | cons d rest ih =>
    rw [sortMarks]
    exact mem_insertMark_of_mem ((List.mem_cons.mp member).imp_right ih)

theorem exists_odd_composeAfter {base : Char} {marks text : List Char}
    (present : isOdd base = true ∨ (∃ c ∈ marks, isOdd c = true) ∨ ∃ c ∈ text, isOdd c = true) :
    ∃ c ∈ composeAfter base marks text, isOdd c = true := by
  induction text generalizing base marks with
  | nil =>
    rw [composeAfter]
    rcases present with inBase | ⟨c, inMarks, oddMark⟩ | ⟨c, inNil, -⟩
    · exact ⟨base, List.mem_cons_self, inBase⟩
    · exact ⟨c, List.mem_cons_of_mem _ (List.mem_reverse.mpr inMarks), oddMark⟩
    · contradiction
  | cons d rest ih =>
    rw [composeAfter]
    split
    · rename_i composite composed
      refine ih (Or.inl ?_)
      by_cases blocked : isBlocked marks d = true
      · simp [blocked] at composed
      · rw [if_neg blocked] at composed
        exact isOdd_of_composePair? composed
    · split
      · rcases present with inBase | ⟨c, inMarks, oddMark⟩ | ⟨c, inText, oddText⟩
        · exact ⟨base, List.mem_cons_self, inBase⟩
        · exact ⟨c, by simp [inMarks], oddMark⟩
        · have later : ∃ c ∈ composeAfter d [] rest, isOdd c = true := by
            rcases List.mem_cons.mp inText with rfl | inRest
            · exact ih (Or.inl oddText)
            · exact ih (Or.inr (Or.inr ⟨c, inRest, oddText⟩))
          obtain ⟨e, member, oddChar⟩ := later
          exact ⟨e, by simp [member], oddChar⟩
      · refine ih ?_
        rcases present with inBase | ⟨c, inMarks, oddMark⟩ | ⟨c, inText, oddText⟩
        · exact Or.inl inBase
        · exact Or.inr (Or.inl ⟨c, List.mem_cons_of_mem _ inMarks, oddMark⟩)
        · rcases List.mem_cons.mp inText with rfl | inRest
          · exact Or.inr (Or.inl ⟨c, List.mem_cons_self, oddText⟩)
          · exact Or.inr (Or.inr ⟨c, inRest, oddText⟩)

theorem exists_odd_compose {text : List Char} (present : ∃ c ∈ text, isOdd c = true) :
    ∃ c ∈ compose text, isOdd c = true := by
  induction text with
  | nil => exact present
  | cons d rest ih =>
    obtain ⟨c, member, oddChar⟩ := present
    rw [compose]
    split
    · rcases List.mem_cons.mp member with rfl | inRest
      · exact exists_odd_composeAfter (Or.inl oddChar)
      · exact exists_odd_composeAfter (Or.inr (Or.inr ⟨c, inRest, oddChar⟩))
    · rcases List.mem_cons.mp member with rfl | inRest
      · exact ⟨c, List.mem_cons_self, oddChar⟩
      · obtain ⟨e, inTail, oddTail⟩ := ih ⟨c, inRest, oddChar⟩
        exact ⟨e, List.mem_cons_of_mem _ inTail, oddTail⟩

/-- Without the Kelvin sign, an odd character leaves an odd character in the composed form. -/
theorem even_of_even_nfc {text : List Char} (kelvin : '\u212A' ∉ text)
    (even : ∀ c ∈ nfc text, isOdd c = false) : ∀ c ∈ text, isOdd c = false := by
  intro c member
  refine Bool.eq_false_iff.mpr fun oddChar => ?_
  have noKelvin : c ≠ '\u212A' := by
    rintro rfl
    exact kelvin member
  obtain ⟨part, inParts, oddPart⟩ := exists_odd_decomposition oddChar noKelvin
  have inDecomposed : part ∈ text.flatMap decomposition := List.mem_flatMap.mpr ⟨c, member, inParts⟩
  obtain ⟨d, inNfc, oddResult⟩ := exists_odd_compose ⟨part, mem_sortMarks_of_mem inDecomposed, oddPart⟩
  rw [even d inNfc] at oddResult
  contradiction

/-- If the composed form is even, it is the text itself. -/
theorem nfc_eq_self_of_even {text : List Char} (kelvin : '\u212A' ∉ text)
    (even : ∀ c ∈ nfc text, isOdd c = false) : nfc text = text :=
  nfc_of_even (even_of_even_nfc kelvin even)

end TextQuery.Unicode
