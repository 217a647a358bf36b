import TextQuery.Proofs.Query.Occurrence
import TextQuery.Proofs.Query.Roundtrip

/-!
# Proximity

Two words with a proximity word between them hold of a record exactly if it shows the one and the other
with at most as many words between them (`holds_nearQuery`). The order of the two does not matter, and a
larger distance allows what a smaller one does.
-/
set_option autoImplicit false

namespace TextQuery.Query

open Text (Word)

/-! ## Distances -/

/-- Between positions that are counts, the largest count is never too small a bound. -/
theorem within_iff {distance i j : Nat} (left : i < maxCount) (right : j < maxCount) :
    within distance i j = true ↔ ((i : Int) - j).natAbs ≤ distance + 1 := by
  rw [within, decide_eq_true_eq]
  omega

theorem within_comm (distance i j : Nat) : within distance i j = within distance j i := by
  rw [within, within, Nat.add_comm]

theorem within_mono {distance farther i j : Nat} (order : distance ≤ farther)
    (near : within distance i j = true) : within farther i j = true := by
  rw [within, decide_eq_true_eq] at near ⊢
  omega

theorem nearPairExists_eq_true_iff {distance : Nat} {left right : IndexSet} :
    nearPairExists distance left right = true ↔
      ∃ i ∈ left, ∃ j ∈ right, within distance i j = true := by
  simp only [nearPairExists, List.any_eq_true, IndexSet.mem_toList]

/-! ## Words of letters and digits -/

/-- A word of ASCII letters and digits that is no keyword. -/
structure PlainWord (word : Word) : Prop where
  filled : word ≠ []
  alphanumeric : word.all Char.isAlphanum = true
  free : ∀ operator, isKeyword operator word = false

/-- What makes such a character plain in a query and, in lower case, in a term. -/
structure Alphanumeric (c : Char) : Prop where
  even : Unicode.isOdd c = false
  solid : Unicode.isWhiteSpace c = false
  inside : isDelimiter c = false
  unquoted : c ≠ '"'
  noSlash : c ≠ '/'
  noColon : c ≠ ':'
  plain : c.toLower ∉ special

theorem alphanumeric_of_isAlphanum {c : Char} (alphanumeric : c.isAlphanum = true) : Alphanumeric c := by
  obtain ⟨even, solid, inside, unquoted, noSlash, noColon, plain⟩ :=
    Unicode.of_codes_below (P := fun c => c.isAlphanum = true → Unicode.isOdd c = false ∧
      Unicode.isWhiteSpace c = false ∧ isDelimiter c = false ∧ c ≠ '"' ∧ c ≠ '/' ∧ c ≠ ':' ∧
        c.toLower ∉ special) (by decide) (Unicode.toNat_lt_of_isAlphanum alphanumeric) alphanumeric
  exact ⟨even, solid, inside, unquoted, noSlash, noColon, plain⟩

namespace PlainWord

variable {word : Word} (plain : PlainWord word)

include plain

theorem isAlphanum_of_mem {c : Char} (member : c ∈ word) : c.isAlphanum = true :=
  List.all_eq_true.mp plain.alphanumeric c member

theorem alphanumeric_of_mem {c : Char} (member : c ∈ word) : Alphanumeric c :=
  alphanumeric_of_isAlphanum (plain.isAlphanum_of_mem member)

theorem lower_eq : Unicode.lower word = word.map Char.toLower := by
  refine Unicode.lower_ascii fun c member => ?_
  have low := Unicode.toNat_lt_of_isAlphanum (plain.isAlphanum_of_mem member)
  omega

theorem readsAs : ReadsAs word 0 (some [.word word]) := by
  refine readsAs_separator (fun c member => (plain.alphanumeric_of_mem member).even)
    (fun c member => ?_) plain.filled ?_
  · have known := plain.alphanumeric_of_mem member
    exact ⟨known.solid, known.inside, known.unquoted⟩
  · obtain ⟨c, rest, rfl⟩ := List.exists_cons_of_ne_nil plain.filled
    exact groupNumber?_cons_eq_none (plain.alphanumeric_of_mem List.mem_cons_self).noColon rest

/-- It is no proximity word, which is the keyword or goes on with a slash. -/
theorem isNear_eq_false : isNear word = false := by
  have free := plain.free .near
  have whole := List.take_append_drop 4 word
  rw [isNear, nearTail?]
  split
  · rename_i same
    split
    · rename_i ended
      rw [ended, List.append_nil] at whole
      rw [whole, ← isKeyword, free] at same
      contradiction
    · rename_i rest slash
      have member : '/' ∈ word := List.mem_of_mem_drop (slash ▸ List.mem_cons_self)
      exact absurd rfl (plain.alphanumeric_of_mem member).noSlash
    · rfl
  · rfl

theorem isPlain : (Piece.word word).IsPlain :=
  ⟨plain.isNear_eq_false, fun operator _ => plain.free operator⟩

/-- Its leaf covers the words that show it in lower case. -/
theorem exists_pattern : ∃ pattern, operand? [.word word] = some (.leaf pattern) ∧
    ∀ (raw : String) (k : Nat), k ∈ pattern.wordIndices (Text.Normal.ofString raw).chars.toArray ↔
      ∃ shown, (Text.Normal.ofString raw).toWords[k]? = some shown ∧
        Shows (word.map Char.toLower) shown := by
  have clear : ∀ c ∈ word.map Char.toLower, c ∉ special := by
    intro c member
    obtain ⟨d, inWord, rfl⟩ := List.mem_map.mp member
    exact (plain.alphanumeric_of_mem inWord).plain
  have filled : word.map Char.toLower ≠ [] := mt List.map_eq_nil_iff.mp plain.filled
  obtain ⟨pattern, compiled, covers⟩ := wordIndices_word filled clear
  refine ⟨pattern, ?_, covers⟩
  rw [operand?, if_neg (List.cons_ne_nil _ _), toOption_readOperand_word, plain.lower_eq, compiled]
  rfl

end PlainWord

/-! ## Queries of two words -/

/-- Two words with a proximity word between them. -/
def nearQuery (left : String) (distance : Nat) (right : String) : String :=
  left ++ " NEAR/" ++ toString distance ++ " " ++ right

theorem toList_nearQuery (left : String) (distance : Nat) (right : String) :
    (nearQuery left distance right).toList =
      left.toList ++ ' ' :: (Condition.nearWord distance ++ ' ' :: right.toList) := by
  simp [nearQuery, Condition.nearWord, digitsOf]

theorem parse_nearQuery {left right : String} (isLeft : PlainWord left.toList)
    (isRight : PlainWord right.toList) {distance : Nat} (fits : distance ≤ maxCount)
    {first second : Condition} (leftLeaf : operand? [.word left.toList] = some first)
    (rightLeaf : operand? [.word right.toList] = some second) :
    parse (nearQuery left distance right) = .ok (.near first second distance) := by
  have reads := isLeft.readsAs.joined ((readsAs_nearWord distance).joined isRight.readsAs)
  rw [← toList_nearQuery] at reads
  have found := toOption_parse_of_readsAs reads (Nat.zero_le _)
  rw [String.ofList_toList] at found
  have plain : ∀ operand ∈ [[Piece.word left.toList], [Piece.word right.toList]],
      ∀ piece ∈ operand, piece.IsPlain := by
    simpa using ⟨isLeft.isPlain, isRight.isPlain⟩
  have level := (Joins.near first second fits).readLevel_intercalate (Eq.refl 2) plain
  have operands : [[Piece.word left.toList], [Piece.word right.toList]].mapM operand? =
      some [first, second] := by
    rw [List.mapM_cons, List.mapM_cons, List.mapM_nil, leftLeaf, rightLeaf]
    rfl
  rw [operands] at level
  exact eq_ok_of_toOption (found.trans level)

theorem holds_near_leaves {left right : Pattern} {distance : Nat} {text : Text.Normal} :
    (Condition.near (.leaf left) (.leaf right) distance).holds text = true ↔
      ∃ i ∈ left.wordIndices text.chars.toArray, ∃ j ∈ right.wordIndices text.chars.toArray,
        within distance i j = true := by
  have verdict : (Condition.near (.leaf left) (.leaf right) distance).holds text =
      nearPairExists distance (.ofList (left.wordIndices text.chars.toArray))
        (.ofList (right.wordIndices text.chars.toArray)) := rfl
  rw [verdict, nearPairExists_eq_true_iff]
  simp only [IndexSet.mem_ofList]

/-- The positions of words in a record are counts if its length is one. -/
theorem position_lt {raw : String} (fits : raw.length ≤ maxCount) {k : Nat} {word : Word}
    (found : (Text.Normal.ofString raw).toWords[k]? = some word) : k < maxCount := by
  have inside := (List.getElem?_eq_some_iff.mp found).1
  have words := Text.length_toWords_ofString raw
  have few := Text.length_splitWords_le Unicode.isWhiteSpace raw.toList
  rw [String.length_toList] at few
  rw [words, Text.words] at inside
  omega

/-- Two plain words with a proximity word between them are a query, which holds of a record exactly if it
shows both with at most so many words between them. The order of the two does not matter, and the query
with a larger distance holds as well. -/
theorem holds_nearQuery (left right : String) (isLeft : PlainWord left.toList)
    (isRight : PlainWord right.toList) (distance : Nat) (fits : distance ≤ maxCount) :
    ∃ condition, parse (nearQuery left distance right) = .ok condition ∧
      (∀ raw : String, raw.length ≤ maxCount →
        (condition.holds (Text.Normal.ofString raw) = true ↔
          ∃ (p q : Nat) (first second : Word),
            (Text.Normal.ofString raw).toWords[p]? = some first ∧
            Shows (left.toList.map Char.toLower) first ∧
            (Text.Normal.ofString raw).toWords[q]? = some second ∧
            Shows (right.toList.map Char.toLower) second ∧
            ((p : Int) - q).natAbs ≤ distance + 1)) ∧
      (∃ swapped, parse (nearQuery right distance left) = .ok swapped ∧
        ∀ text, swapped.holds text = condition.holds text) ∧
      ∀ farther, distance ≤ farther → farther ≤ maxCount →
        ∃ wider, parse (nearQuery left farther right) = .ok wider ∧
          ∀ text, condition.holds text = true → wider.holds text = true := by
  obtain ⟨first, leftLeaf, leftWords⟩ := isLeft.exists_pattern
  obtain ⟨second, rightLeaf, rightWords⟩ := isRight.exists_pattern
  refine ⟨_, parse_nearQuery isLeft isRight fits leftLeaf rightLeaf, ?_,
    ⟨_, parse_nearQuery isRight isLeft fits rightLeaf leftLeaf, ?_⟩, ?_⟩
  · intro raw counted
    rw [holds_near_leaves]
    constructor
    · rintro ⟨p, inLeft, q, inRight, near⟩
      obtain ⟨shown, atLeft, shows⟩ := (leftWords raw p).mp inLeft
      obtain ⟨other, atRight, showsOther⟩ := (rightWords raw q).mp inRight
      have close := (within_iff (position_lt counted atLeft) (position_lt counted atRight)).mp near
      exact ⟨p, q, shown, other, atLeft, shows, atRight, showsOther, close⟩
    · rintro ⟨p, q, shown, other, atLeft, shows, atRight, showsOther, close⟩
      have near := (within_iff (position_lt counted atLeft) (position_lt counted atRight)).mpr close
      exact ⟨p, (leftWords raw p).mpr ⟨shown, atLeft, shows⟩, q,
        (rightWords raw q).mpr ⟨other, atRight, showsOther⟩, near⟩
  · intro text
    rw [Bool.eq_iff_iff, holds_near_leaves, holds_near_leaves]
    constructor
    · rintro ⟨i, inRight, j, inLeft, near⟩
      exact ⟨j, inLeft, i, inRight, within_comm distance i j ▸ near⟩
    · rintro ⟨i, inLeft, j, inRight, near⟩
      exact ⟨j, inRight, i, inLeft, within_comm distance i j ▸ near⟩
  · intro farther order bound
    refine ⟨_, parse_nearQuery isLeft isRight bound leftLeaf rightLeaf, ?_⟩
    intro text holds
    rw [holds_near_leaves] at holds ⊢
    obtain ⟨i, inLeft, j, inRight, near⟩ := holds
    exact ⟨i, inLeft, j, inRight, within_mono order near⟩

/-- The largest distance, a keyword that is part of a word, and marks behind the words. -/
theorem holds_nearQuery_sample : PlainWord "Or2".toList ∧ PlainWord "b".toList ∧
    maxCount ≤ maxCount ∧ ∃ condition, parse "Or2 NEAR/18446744073709551615 b" = .ok condition ∧
      condition.holds (Text.Normal.ofString "B, x or2!") = true := by
  have isLeft : PlainWord "Or2".toList :=
    ⟨by simp, rfl, fun operator => by cases operator <;> rfl⟩
  have isRight : PlainWord "b".toList :=
    ⟨by simp, rfl, fun operator => by cases operator <;> rfl⟩
  refine ⟨isLeft, isRight, Nat.le_refl _, ?_⟩
  obtain ⟨condition, parsed, verdict, -⟩ :=
    holds_nearQuery "Or2" "b" isLeft isRight maxCount (Nat.le_refl _)
  have spelled : nearQuery "Or2" maxCount "b" = "Or2 NEAR/18446744073709551615 b" := by decide +kernel
  rw [spelled] at parsed
  refine ⟨condition, parsed, (verdict "B, x or2!" (by decide)).mpr ?_⟩
  exact ⟨2, 0, "or2!".toList, "b,".toList, by decide +kernel, Or.inr ⟨'!', by decide, [], rfl⟩,
    by decide +kernel, Or.inr ⟨',', by decide, [], rfl⟩, by decide⟩

end TextQuery.Query
