import TextQuery.Proofs.Query.Partners

/-!
# Conditions rearranged

How the verdict of a condition depends on the order of its operands and on its distances. The order of the
operands of OR and AND never matters. That of NEAR does not where only its verdict is asked for, and there a
larger distance never makes the verdict worse. Where the words of a NEAR are measured by another, both depend on
the partners that its words have in the text. Main statements: `holdsIn_of_reordered`, `holdsIn_of_widened`.
-/
set_option autoImplicit false

namespace TextQuery.Query

namespace Condition

variable {text : Array Char}

/-! ## Operands matched with operands -/

section Matched

variable {relation other : Condition → Condition → Prop} {before middle after : List Condition}
  {P Q : Condition → Prop}

/-- Each operand on the one side has its match on the other. -/
structure Matched (relation : Condition → Condition → Prop) (before after : List Condition) : Prop where
  forth : ∀ x ∈ before, ∃ y ∈ after, relation x y
  back : ∀ y ∈ after, ∃ x ∈ before, relation x y

theorem Matched.turn (matched : Matched relation before after)
    (turns : ∀ x y, relation x y → other y x) : Matched other after before where
  forth := fun y member => (matched.back y member).imp fun x found => ⟨found.1, turns x y found.2⟩
  back := fun x member => (matched.forth x member).imp fun y found => ⟨found.1, turns x y found.2⟩

theorem Matched.mono (matched : Matched relation before after)
    (implies : ∀ x y, relation x y → other x y) : Matched other before after where
  forth := fun x member => (matched.forth x member).imp fun y found => ⟨found.1, implies x y found.2⟩
  back := fun y member => (matched.back y member).imp fun x found => ⟨found.1, implies x y found.2⟩

theorem Matched.exists_mem (matched : Matched relation before after)
    (implies : ∀ x y, relation x y → P x → Q y) (found : ∃ x ∈ before, P x) : ∃ y ∈ after, Q y := by
  obtain ⟨x, member, holds⟩ := found
  obtain ⟨y, matching, related⟩ := matched.forth x member
  exact ⟨y, matching, implies x y related holds⟩

theorem Matched.forall_mem (matched : Matched relation before after)
    (implies : ∀ x y, relation x y → P x → Q y) (all : ∀ x ∈ before, P x) : ∀ y ∈ after, Q y := by
  intro y member
  obtain ⟨x, matching, related⟩ := matched.back y member
  exact implies x y related (all x matching)

/-- Operands that are related one by one, and then put in any order. -/
theorem matched_of_zip (same : before.length = middle.length)
    (each : ∀ x y, (x, y) ∈ before.zip middle → relation x y) (order : middle.Perm after) :
    Matched relation before after := by
  have paired : List.Forall₂ relation before middle :=
    List.forall₂_iff_zip.mpr ⟨same, fun member => each _ _ member⟩
  have matched : Matched relation before middle := by
    clear same each order
    induction paired with
    | nil => exact ⟨by simp, by simp⟩
    | cons related _ ih =>
      constructor
      · rintro x (_ | ⟨_, later⟩)
        · exact ⟨_, List.mem_cons_self, related⟩
        · obtain ⟨y, member, found⟩ := ih.forth x later
          exact ⟨y, List.mem_cons_of_mem _ member, found⟩
      · rintro y (_ | ⟨_, later⟩)
        · exact ⟨_, List.mem_cons_self, related⟩
        · obtain ⟨x, member, found⟩ := ih.back y later
          exact ⟨x, List.mem_cons_of_mem _ member, found⟩
  constructor
  · intro x member
    obtain ⟨y, inMiddle, related⟩ := matched.forth x member
    exact ⟨y, order.mem_iff.mp inMiddle, related⟩
  · intro y member
    exact matched.back y (order.mem_iff.mpr member)

end Matched

/-! ## What is asked of a condition -/

/-- Its verdict alone, or the words it covers as well. An operand of NEAR is asked for its words, the excluded
side of NOT for its verdict, and every other operand for what the whole is asked for. -/
inductive Use
  | verdict
  | words

variable {use : Use} {left left' right right' : Condition} {before after : List Condition}

/-- What the first condition answers the second answers too: it holds if the first does, and where words are
asked for it covers the words of the first. -/
structure Below (text : Array Char) (use : Use) (first second : Condition) : Prop where
  holds : first.holdsIn text = true → second.holdsIn text = true
  covers : use = .words → ∀ index ∈ first.wordIndices text, index ∈ second.wordIndices text

namespace Below

theorem refl (use : Use) (condition : Condition) : Below text use condition condition :=
  ⟨id, fun _ _ => id⟩

theorem or (matched : Matched (Below text use) before after) : Below text use (.or before) (.or after) where
  holds := by
    rw [holdsIn, holdsIn, someHolds_iff, someHolds_iff]
    exact matched.exists_mem fun _ _ below => below.holds
  covers := by
    intro asked index
    rw [wordIndices, wordIndices, mem_someIndices, mem_someIndices]
    exact matched.exists_mem fun _ _ below => below.covers asked index

theorem and (matched : Matched (Below text use) before after) : Below text use (.and before) (.and after) where
  holds := by
    rw [holdsIn, holdsIn, allHold_iff, allHold_iff]
    exact matched.forall_mem fun _ _ below => below.holds
  covers := by
    intro asked index
    rw [mem_wordIndices_and, mem_wordIndices_and]
    rintro ⟨all, found⟩
    exact ⟨matched.forall_mem (fun _ _ below => Exists.imp fun _ => below.covers asked _) all,
      matched.exists_mem (fun _ _ below => below.covers asked index) found⟩

/-- The excluded side counts the other way round. -/
theorem not (included : Below text use left left') (excluded : Below text .verdict right' right) :
    Below text use (.not left right) (.not left' right') where
  holds := by
    rw [holdsIn, holdsIn, Bool.and_eq_true, Bool.and_eq_true, Bool.not_eq_true', Bool.not_eq_true']
    rintro ⟨holds, never⟩
    refine ⟨included.holds holds, Bool.eq_false_iff.mpr fun still => ?_⟩
    rw [excluded.holds still] at never
    contradiction
  covers := by
    intro asked index covered
    rw [wordIndices] at covered ⊢
    split at covered
    · simp at covered
    · rename_i never
      rw [if_neg fun still => never (excluded.holds still)]
      exact included.covers asked index covered

theorem near {distance farther : Nat} (order : distance ≤ farther) (first : Below text .words left left')
    (second : Below text .words right right')
    (keeps : use = .words → KeepsPartners distance farther (left.wordIndices text) (right.wordIndices text)
      (right'.wordIndices text)) :
    Below text use (.near left right distance) (.near left' right' farther) where
  holds := by
    rw [holdsIn, holdsIn]
    exact nearPairExists_mono order (first.covers rfl) (second.covers rfl)
  covers := by
    intro asked index
    rw [wordIndices, wordIndices]
    exact nearSpan_mono order (first.covers rfl) (second.covers rfl) (keeps asked)

end Below

/-- Both conditions give the same answer. -/
structure Agree (text : Array Char) (use : Use) (first second : Condition) : Prop where
  forth : Below text use first second
  back : Below text use second first

namespace Agree

variable {first second : Condition}

theorem holdsIn_eq (agree : Agree text use first second) : first.holdsIn text = second.holdsIn text :=
  Bool.eq_iff_iff.mpr ⟨agree.forth.holds, agree.back.holds⟩

theorem wordIndices_eq (agree : Agree text .words first second) :
    first.wordIndices text = second.wordIndices text :=
  IndexSet.eq_of_mem_iff fun index => ⟨agree.forth.covers rfl index, agree.back.covers rfl index⟩

theorem of_eq (verdict : first.holdsIn text = second.holdsIn text)
    (words : use = .words → first.wordIndices text = second.wordIndices text) :
    Agree text use first second :=
  ⟨⟨verdict ▸ id, fun asked _ => words asked ▸ id⟩, ⟨verdict ▸ id, fun asked _ => words asked ▸ id⟩⟩

theorem matched_forth (matched : Matched (Agree text use) before after) :
    Matched (Below text use) before after :=
  matched.mono fun _ _ agree => agree.forth

theorem matched_back (matched : Matched (Agree text use) before after) :
    Matched (Below text use) after before :=
  matched.turn fun _ _ agree => agree.back

end Agree

/-! ## Operands in another order -/

/-- The condition with operands in another order: those of OR and AND in any, those of NEAR turned if only the
verdict of the NEAR is asked for, or if no word on either of its sides that has a partner after it has a second
one in the text. -/
inductive Reordered (text : Array Char) : Use → Condition → Condition → Prop
  | leaf (use : Use) (pattern : Pattern) : Reordered text use (.leaf pattern) (.leaf pattern)
  | resolved (use : Use) (indices : IndexSet) : Reordered text use (.resolved indices) (.resolved indices)
  | or {use : Use} {before middle after : List Condition} (same : before.length = middle.length)
      (each : ∀ x y, (x, y) ∈ before.zip middle → Reordered text use x y) (order : middle.Perm after) :
      Reordered text use (.or before) (.or after)
  | and {use : Use} {before middle after : List Condition} (same : before.length = middle.length)
      (each : ∀ x y, (x, y) ∈ before.zip middle → Reordered text use x y) (order : middle.Perm after) :
      Reordered text use (.and before) (.and after)
  | not {use : Use} {left left' right right' : Condition} (included : Reordered text use left left')
      (excluded : Reordered text .verdict right right') :
      Reordered text use (.not left right) (.not left' right')
  | near {use : Use} {left left' right right' : Condition} (distance : Nat)
      (first : Reordered text .words left left') (second : Reordered text .words right right') :
      Reordered text use (.near left right distance) (.near left' right' distance)
  | turned {use : Use} {left left' right right' : Condition} (distance : Nat)
      (first : Reordered text .words left left') (second : Reordered text .words right right')
      (sole : use = .words →
        SolePartners distance (left.wordIndices text) (right.wordIndices text) ∧
          SolePartners distance (right.wordIndices text) (left.wordIndices text)) :
      Reordered text use (.near left right distance) (.near right' left' distance)

theorem Reordered.agree {first second : Condition} (reordered : Reordered text use first second) :
    Agree text use first second := by
  induction reordered with
  | leaf use pattern => exact ⟨.refl use _, .refl use _⟩
  | resolved use indices => exact ⟨.refl use _, .refl use _⟩
  | or same _ order each =>
    have matched := matched_of_zip same each order
    exact ⟨.or (Agree.matched_forth matched), .or (Agree.matched_back matched)⟩
  | and same _ order each =>
    have matched := matched_of_zip same each order
    exact ⟨.and (Agree.matched_forth matched), .and (Agree.matched_back matched)⟩
  | not _ _ included excluded =>
    exact ⟨.not included.forth excluded.back, .not included.back excluded.forth⟩
  | near distance _ _ first second =>
    apply Agree.of_eq
    · rw [holdsIn, holdsIn, first.wordIndices_eq, second.wordIndices_eq]
    · intro _
      rw [wordIndices, wordIndices, first.wordIndices_eq, second.wordIndices_eq]
  | turned distance _ _ sole first second =>
    apply Agree.of_eq
    · rw [holdsIn, holdsIn, first.wordIndices_eq, second.wordIndices_eq, nearPairExists_comm]
    · intro asked
      obtain ⟨leftSole, rightSole⟩ := sole asked
      rw [wordIndices, wordIndices, nearSpan_comm leftSole rightSole, first.wordIndices_eq,
        second.wordIndices_eq]

/-- The order of operands does not matter for the verdict. -/
theorem holdsIn_of_reordered (text : Array Char) (first second : Condition)
    (reordered : Reordered text .verdict first second) : second.holdsIn text = first.holdsIn text :=
  reordered.agree.holdsIn_eq.symm

/-! The words b and x, which are near each other, and a word y behind them. -/

def leafB : Condition := .leaf (.ofLiteral ['b'] (by simp [IsLiteral]))
def leafX : Condition := .leaf (.ofLiteral ['x'] (by simp [IsLiteral]))
def leafY : Condition := .leaf (.ofLiteral ['y'] (by simp [IsLiteral]))
def threeWords : Array Char := (Text.Normal.ofString "x a b y").chars.toArray

theorem wordIndices_leafB : leafB.wordIndices threeWords = .ofList [2] := by decide +kernel

theorem wordIndices_leafX : leafX.wordIndices threeWords = .ofList [0] := by decide +kernel

/-- A proximity and a group inside a proximity, and the outer proximity itself. -/
theorem holdsIn_of_reordered_sample :
    Reordered threeWords .verdict (.near (.near leafB leafX 5) (.or [leafX, leafY]) 0)
        (.near (.or [leafY, leafX]) (.near leafX leafB 5) 0) ∧
      (near (.or [leafY, leafX]) (.near leafX leafB 5) 0).holdsIn threeWords =
        (near (.near leafB leafX 5) (.or [leafX, leafY]) 0).holdsIn threeWords := by
  have inner : Reordered threeWords .words (.near leafB leafX 5) (.near leafX leafB 5) := by
    refine .turned 5 (.leaf _ _) (.leaf _ _) fun _ => ?_
    rw [wordIndices_leafB, wordIndices_leafX]
    simp [SolePartners]
  have group : Reordered threeWords .words (.or [leafX, leafY]) (.or [leafY, leafX]) := by
    refine .or rfl (fun p q paired => ?_) (.swap leafY leafX [])
    obtain ⟨rfl, rfl⟩ | ⟨rfl, rfl⟩ : p = leafX ∧ q = leafX ∨ p = leafY ∧ q = leafY := by
      simpa using paired
    · exact .leaf _ _
    · exact .leaf _ _
  have reordered : Reordered threeWords .verdict (.near (.near leafB leafX 5) (.or [leafX, leafY]) 0)
      (.near (.or [leafY, leafX]) (.near leafX leafB 5) 0) := .turned 0 inner group nofun
  exact ⟨reordered, holdsIn_of_reordered _ _ _ reordered⟩

/-- Within another proximity the order does matter: of two words x near the word b only the first counts,
while both words x have the partner b. -/
theorem turned_near_within_near : ∃ b x y : Pattern,
    Pattern.ofTerm? ['b'] = some b ∧ Pattern.ofTerm? ['x'] = some x ∧ Pattern.ofTerm? ['y'] = some y ∧
      (near (.near (.leaf b) (.leaf x) 5) (.leaf y) 0).holds (.ofString "x a b c x y") = false ∧
      (near (.near (.leaf x) (.leaf b) 5) (.leaf y) 0).holds (.ofString "x a b c x y") = true := by
  refine ⟨_, _, _, Pattern.ofTerm?_ofLiteral (by simp [IsLiteral]), Pattern.ofTerm?_ofLiteral (by simp [IsLiteral]),
    Pattern.ofTerm?_ofLiteral (by simp [IsLiteral]), ?_, ?_⟩
  · decide +kernel
  · decide +kernel

/-! ## Larger distances -/

/-- The condition with larger distances. Where the words of a NEAR are asked for, each word on its left side
whose first partner stands after it must keep that partner in the text. -/
inductive Widened (text : Array Char) : Use → Condition → Condition → Prop
  | same (use : Use) (condition : Condition) : Widened text use condition condition
  | or {use : Use} {before after : List Condition} (same : before.length = after.length)
      (each : ∀ x y, (x, y) ∈ before.zip after → Widened text use x y) :
      Widened text use (.or before) (.or after)
  | and {use : Use} {before after : List Condition} (same : before.length = after.length)
      (each : ∀ x y, (x, y) ∈ before.zip after → Widened text use x y) :
      Widened text use (.and before) (.and after)
  | not {use : Use} {left left' : Condition} (included : Widened text use left left') (excluded : Condition) :
      Widened text use (.not left excluded) (.not left' excluded)
  | near {use : Use} {left left' right right' : Condition} {distance farther : Nat}
      (order : distance ≤ farther) (first : Widened text .words left left')
      (second : Widened text .words right right')
      (keeps : use = .words → KeepsPartners distance farther (left.wordIndices text)
        (right.wordIndices text) (right'.wordIndices text)) :
      Widened text use (.near left right distance) (.near left' right' farther)

theorem Widened.isBelow {first second : Condition} (widened : Widened text use first second) :
    Below text use first second := by
  induction widened with
  | same use condition => exact .refl use condition
  | or same _ each => exact .or (matched_of_zip same each (.refl _))
  | and same _ each => exact .and (matched_of_zip same each (.refl _))
  | not _ excluded included => exact .not included (.refl .verdict excluded)
  | near order _ _ keeps first second => exact .near order first second keeps

/-- Larger distances do not make a condition fail that holds. -/
theorem holdsIn_of_widened (text : Array Char) (first second : Condition)
    (widened : Widened text .verdict first second) (holds : first.holdsIn text = true) :
    second.holdsIn text = true :=
  widened.isBelow.holds holds

/-- The distance of a proximity inside another, and that of the other. -/
theorem holdsIn_of_widened_sample :
    Widened threeWords .verdict (.near (.near leafX leafB 1) leafY 0) (.near (.near leafX leafB 4) leafY 3) ∧
      (near (.near leafX leafB 1) leafY 0).holdsIn threeWords = true ∧
      (near (.near leafX leafB 4) leafY 3).holdsIn threeWords = true := by
  have holds : (near (.near leafX leafB 1) leafY 0).holdsIn threeWords = true := by decide +kernel
  have inner : Widened threeWords .words (.near leafX leafB 1) (.near leafX leafB 4) := by
    refine .near (by decide) (.same _ _) (.same _ _) fun _ => ?_
    rw [wordIndices_leafB, wordIndices_leafX]
    intro i member j found _
    obtain rfl : i = 0 := by simpa using member
    have first : firstPartner? 1 (.ofList [2]) 0 = some 2 := by decide
    rw [first] at found
    rw [← found]
    decide
  have widened : Widened threeWords .verdict (.near (.near leafX leafB 1) leafY 0)
      (.near (.near leafX leafB 4) leafY 3) := .near (by decide) inner (.same _ _) nofun
  exact ⟨widened, holds, holdsIn_of_widened _ _ _ widened holds⟩

/-- A larger distance inside a proximity brings the earlier word x, and the later one no longer counts. -/
theorem widened_near_within_near : ∃ b x y : Pattern,
    Pattern.ofTerm? ['b'] = some b ∧ Pattern.ofTerm? ['x'] = some x ∧ Pattern.ofTerm? ['y'] = some y ∧
      (near (.near (.leaf b) (.leaf x) 0) (.leaf y) 0).holds (.ofString "x a a b x y") = true ∧
      (near (.near (.leaf b) (.leaf x) 2) (.leaf y) 0).holds (.ofString "x a a b x y") = false := by
  refine ⟨_, _, _, Pattern.ofTerm?_ofLiteral (by simp [IsLiteral]), Pattern.ofTerm?_ofLiteral (by simp [IsLiteral]),
    Pattern.ofTerm?_ofLiteral (by simp [IsLiteral]), ?_, ?_⟩
  · decide +kernel
  · decide +kernel

end Condition

end TextQuery.Query
