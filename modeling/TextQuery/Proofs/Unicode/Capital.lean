import TextQuery.Proofs.Unicode.Lowercase
import TextQuery.Proofs.Unicode.Recomposition

/-!
# Texts without capitals

Lower-casing leaves no capitals and changes nothing but capitals (`lower_eq_self_iff`). A composite is a
capital if one of its parts is, and only then, so the composed form of a text without capitals has none
either (`isCapital_of_mem_nfc`).
-/
set_option autoImplicit false
set_option maxRecDepth 10000

namespace TextQuery.Unicode

/-! ## Capitals -/

def LowercaseRun.codes (run : LowercaseRun) : List Nat :=
  (List.range' run.first (run.last + 1 - run.first)).filter fun code =>
    Nat.beq ((code - run.first) % run.step) 0

/-- The capitals of the runs, and the dotted capital I. -/
def capitalMask : List LowercaseRun → Nat
  | [] => codeMask [0x130]
  | run :: runs => codeMask run.codes ||| capitalMask runs

/-- The character has another lower-case form. -/
def isCapitalCode (code : Nat) : Bool := (capitalMask lowercaseRuns).testBit code

def isCapital (c : Char) : Bool := isCapitalCode c.toNat

theorem testBit_capitalMask (runs : List LowercaseRun) (code : Nat) :
    (capitalMask runs).testBit code = true ↔ code = 0x130 ∨ ∃ run ∈ runs, code ∈ run.codes := by
  induction runs with
  | nil => simp [capitalMask, testBit_codeMask]
  | cons run runs ih =>
    rw [capitalMask, Nat.testBit_or, Bool.or_eq_true, ih, testBit_codeMask, decide_eq_true_eq, or_left_comm,
      List.exists_mem_cons_iff]

theorem isCapitalCode_iff {code : Nat} :
    isCapitalCode code = true ↔ code = 0x130 ∨ ∃ run ∈ lowercaseRuns, code ∈ run.codes :=
  testBit_capitalMask lowercaseRuns code

/-- The capitals of a run are those that the search for a run finds it for. -/
theorem LowercaseRun.mem_codes_iff {run : LowercaseRun} {code : Nat} : code ∈ run.codes ↔
    (run.first ≤ code && code ≤ run.last && (code - run.first) % run.step == 0) = true := by
  rw [codes, List.mem_filter, List.mem_range'_1, Nat.beq_eq, Bool.and_eq_true, Bool.and_eq_true,
    decide_eq_true_eq, decide_eq_true_eq, beq_iff_eq]
  omega

/-! ## Lower case -/

theorem capitals_ascii : ∀ code < 0x80, isCapitalCode (Char.ofNat code).toLower.toNat = false ∧
    (isCapitalCode code = false → (Char.ofNat code).toLower = Char.ofNat code) := by
  decide +kernel

theorem lowercaseRuns_uncapital : lowercaseRuns.all (fun run => run.codes.all fun code =>
    !isCapitalCode (run.lower + (code - run.first))) = true := by
  decide +kernel

/-- The characters that lower-casing writes by rules of their own are no capitals. -/
theorem isCapital_special : (isCapital 'Σ' = true ∧ isCapital '\u212A' = true) ∧
    (isCapital 'i' = false ∧ isCapital '\u0307' = false) ∧
    (isCapital 'ς' = false ∧ isCapital 'σ' = false) ∧ isCapital '\u0000' = false := by
  decide +kernel

theorem lowerChar_of_uncapital {c : Char} (uncapital : isCapital c = false) : lowerChar c = [c] := by
  have noRun : lowercaseRuns.find? (fun run =>
      run.first ≤ c.toNat && c.toNat ≤ run.last && (c.toNat - run.first) % run.step == 0) = none := by
    rw [List.find?_eq_none]
    intro run member found
    have capital : isCapitalCode c.toNat = true :=
      isCapitalCode_iff.mpr (Or.inr ⟨run, member, LowercaseRun.mem_codes_iff.mpr found⟩)
    rw [isCapital, capital] at uncapital
    contradiction
  have noDot : c ≠ 'İ' := by
    rintro rfl
    have capital : isCapitalCode 'İ'.toNat = true := isCapitalCode_iff.mpr (Or.inl rfl)
    rw [isCapital, capital] at uncapital
    contradiction
  rw [lowerChar]
  split
  · rename_i ascii
    have same := (capitals_ascii c.toNat ascii).2 uncapital
    rw [Char.ofNat_toNat] at same
    rw [same]
  · dsimp only
    rw [noRun]

theorem isCapital_of_mem_lowerChar {c d : Char} (member : c ∈ lowerChar d) : isCapital c = false := by
  unfold lowerChar at member
  split at member
  · rename_i ascii
    have checked := (capitals_ascii d.toNat ascii).1
    rw [Char.ofNat_toNat] at checked
    rw [List.mem_singleton.mp member]
    exact checked
  · split at member
    · obtain ⟨-, ⟨letter, dot⟩, -⟩ := isCapital_special
      simp only [List.mem_cons, List.not_mem_nil, or_false] at member
      rcases member with rfl | rfl
      · exact letter
      · exact dot
    · rename_i noDot
      dsimp only at member
      split at member
      · rename_i run found
        have inList := List.mem_of_find?_eq_some found
        have bounds := List.find?_some found
        have inRun : d.toNat ∈ run.codes := LowercaseRun.mem_codes_iff.mpr bounds
        simp only [Bool.and_eq_true, decide_eq_true_eq] at bounds
        have checked := List.all_eq_true.mp (List.all_eq_true.mp lowercaseRuns_uncapital run inList) _ inRun
        rw [List.mem_singleton.mp member, isCapital, toNat_ofNat (exists_block_of_run inList (by omega)).1]
        simpa using checked
      · rename_i none
        rw [List.mem_singleton.mp member]
        refine Bool.eq_false_iff.mpr fun capital => ?_
        rcases isCapitalCode_iff.mp capital with dotted | ⟨run, inList, inRun⟩
        · exact noDot (Char.toNat_inj.mp dotted)
        · exact List.find?_eq_none.mp none run inList (LowercaseRun.mem_codes_iff.mp inRun)

/-- Lower-casing leaves no capitals. -/
theorem isCapital_of_mem_lower {c : Char} {text : List Char} (member : c ∈ lower text) :
    isCapital c = false := by
  obtain ⟨-, -, ⟨final, inside⟩, -⟩ := isCapital_special
  rcases exists_of_mem_lower member with rfl | rfl | ⟨d, -, inForm⟩
  · exact final
  · exact inside
  · exact isCapital_of_mem_lowerChar inForm

/-- The Kelvin sign is never in lower case. -/
theorem kelvin_not_mem_lower (text : List Char) : '\u212A' ∉ lower text := by
  intro member
  have capital := isCapital_special.1.2
  rw [isCapital_of_mem_lower member] at capital
  contradiction

/-- A text is in lower case if and only if it has no capitals. -/
theorem lower_eq_self_iff {text : List Char} :
    lower text = text ↔ ∀ c ∈ text, isCapital c = false := by
  refine ⟨fun same c member => ?_, fun uncapital => ?_⟩
  · rw [← same] at member
    exact isCapital_of_mem_lower member
  · refine lower_of_unchanged fun c member => ⟨?_, lowerChar_of_uncapital (uncapital c member)⟩
    rintro rfl
    have capital := uncapital _ member
    rw [isCapital_special.1.1] at capital
    contradiction

/-! ## Composition -/

/-- A composite is a capital if and only if one of its parts is, and only capitals stand for capitals. -/
theorem tables_capital :
    canonicalPairs.all (fun pair =>
      (isCapitalCode pair.1 || isCapitalCode pair.2.1) == isCapitalCode pair.2.2) = true ∧
    oneWayDecompositions.all (fun entry =>
      isCapitalCode entry.1 || entry.2.all fun part => !isCapitalCode part) = true ∧
    ideographDuplicates.all (fun entry => entry.2.all fun part => !isCapitalCode part) = true := by
  decide +kernel

theorem capitals_apart : lowercaseRuns.all (fun run => run.codes.all isApartCode) = true := by
  decide +kernel

theorem isCapitalCode_of_isHangulCode {code : Nat} (hangul : isHangulCode code) :
    isCapitalCode code = false := by
  unfold isHangulCode at hangul
  refine Bool.eq_false_iff.mpr fun capital => ?_
  rcases isCapitalCode_iff.mp capital with rfl | ⟨run, inList, inRun⟩
  · omega
  · exact not_mem_of_apart (List.all_eq_true.mp capitals_apart run inList) (by omega) inRun

theorem isCapitalCode_of_mem_canonicalPairs {pair : Nat × Nat × Nat} (member : pair ∈ canonicalPairs) :
    isCapitalCode pair.2.2 = (isCapitalCode pair.1 || isCapitalCode pair.2.1) := by
  have checked := List.all_eq_true.mp tables_capital.1 pair member
  exact (beq_iff_eq.mp checked).symm

theorem isCapitalCode_of_mem_expandPairs {depth code part : Nat} (uncapital : isCapitalCode code = false)
    (member : part ∈ expandPairs depth code) : isCapitalCode part = false := by
  induction depth generalizing code with
  | zero =>
    rw [expandPairs, List.mem_singleton] at member
    rwa [member]
  | succ depth ih =>
    rw [expandPairs] at member
    split at member
    · rename_i first second composite found
      have same : composite = code := by simpa using List.find?_some found
      have parts := isCapitalCode_of_mem_canonicalPairs (List.mem_of_find?_eq_some found)
      rw [same, uncapital] at parts
      obtain ⟨firstPart, secondPart⟩ := Bool.or_eq_false_iff.mp parts.symm
      rcases List.mem_append.mp member with inFirst | isSecond
      · exact ih firstPart inFirst
      · rw [List.mem_singleton.mp isSecond]
        exact secondPart
    · rw [List.mem_singleton.mp member]
      exact uncapital

theorem isCapitalCode_of_mem_oneWayDecomposition? {code part : Nat} {parts : List Nat}
    (uncapital : isCapitalCode code = false) (found : oneWayDecomposition? code = some parts)
    (member : part ∈ parts) : isCapitalCode part = false := by
  unfold oneWayDecomposition? at found
  split at found
  · rename_i key entryParts entry
    obtain rfl := Option.some.inj found
    have same : key = code := by simpa using List.find?_some entry
    have checked := List.all_eq_true.mp tables_capital.2.1 _ (List.mem_of_find?_eq_some entry)
    rw [same, uncapital, Bool.false_or] at checked
    simpa using List.all_eq_true.mp checked part member
  · split at found
    · rename_i entry
      obtain ⟨original, inRun, rfl⟩ := Option.map_eq_some_iff.mp found
      rw [List.mem_singleton.mp member]
      have checked := List.all_eq_true.mp tables_capital.2.2 _ (List.mem_of_find?_eq_some entry)
      simpa using List.all_eq_true.mp checked _ (List.mem_of_getElem? inRun)
    · contradiction

theorem isCapital_ofNat {code : Nat} (uncapital : isCapitalCode code = false) :
    isCapital (Char.ofNat code) = false := by
  by_cases valid : code.isValidChar
  · rw [isCapital, toNat_ofNat valid, uncapital]
  · rw [Char.ofNat, dif_neg valid]
    exact isCapital_special.2.2.2

theorem isCapital_of_mem_decomposition {c part : Char} (uncapital : isCapital c = false)
    (member : part ∈ decomposition c) : isCapital part = false := by
  unfold decomposition at member
  split at member
  · rw [List.mem_singleton.mp member]
    exact uncapital
  · obtain ⟨code, inParts, rfl⟩ := List.mem_map.mp member
    refine isCapital_ofNat ?_
    cases hangul : Hangul.decompose? c.toNat with
    | some parts =>
      rw [hangul] at inParts
      exact isCapitalCode_of_isHangulCode (isHangulCode_of_mem_decompose? hangul inParts)
    | none =>
      cases oneWay : oneWayDecomposition? c.toNat with
      | some parts =>
        rw [hangul, oneWay] at inParts
        exact isCapitalCode_of_mem_oneWayDecomposition? uncapital oneWay inParts
      | none =>
        rw [hangul, oneWay] at inParts
        exact isCapitalCode_of_mem_expandPairs uncapital inParts

theorem isCapital_of_composePair? {first second composite : Char} (uncapitalFirst : isCapital first = false)
    (uncapitalSecond : isCapital second = false) (composed : composePair? first second = some composite) :
    isCapital composite = false := by
  unfold composePair? at composed
  split at composed
  · contradiction
  · split at composed
    · rename_i code hangul
      obtain rfl : Char.ofNat code = composite := by simpa using composed
      exact isCapital_ofNat (isCapitalCode_of_isHangulCode (isHangulCode_of_compose? hangul).2.2)
    · obtain ⟨pair, found, rfl⟩ := Option.map_eq_some_iff.mp composed
      have same : (pair.1 == first.toNat && pair.2.1 == second.toNat) = true := by
        simpa using List.find?_some found
      rw [Bool.and_eq_true, beq_iff_eq, beq_iff_eq] at same
      refine isCapital_ofNat ?_
      rw [isCapitalCode_of_mem_canonicalPairs (List.mem_of_find?_eq_some found), same.1, same.2,
        Bool.or_eq_false_iff]
      exact ⟨uncapitalFirst, uncapitalSecond⟩

/-- Composition makes no capitals. -/
theorem isCapital_of_mem_nfc {text : List Char} (uncapital : ∀ c ∈ text, isCapital c = false) :
    ∀ c ∈ nfc text, isCapital c = false := by
  refine forall_mem_compose (fun _ _ _ => isCapital_of_composePair?) fun c member => ?_
  obtain ⟨a, inText, inParts⟩ := List.mem_flatMap.mp (mem_sortMarks member)
  exact isCapital_of_mem_decomposition (uncapital a inText) inParts

end TextQuery.Unicode
