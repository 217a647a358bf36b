import TextQuery.Proofs.Query.Extent
import TextQuery.Proofs.Text.Offsets

/-!
# The search in bytes

The search for the matches of a term goes through the bytes of a text. It carries the offset up to which
spaces have been counted, their number, and the offset at which the next match may start, which may lie in the
match before. Main statement: if no match is empty, the search ends without leaving the text, and it covers
the words of the matches it takes (`wordIndices_search`). What carries it is that the three numbers belong to
positions of the text (`At`).
-/
set_option autoImplicit false

namespace TextQuery.Query

/-- Where a search stands, with the words that it has covered. Spaces have been counted before `scanned`. -/
structure SearchState where
  scanned : Nat
  spaces : Nat
  start : Nat
  indices : List Nat

def SearchState.initial : SearchState := ⟨0, 0, 0, []⟩

/-- A match that the search takes: where it starts, and where the search goes on. -/
structure Hit where
  first : Nat
  restart : Nat

inductive Round
  | exhausted
  | taken (hit : Hit) (next : SearchState)

namespace Pattern

/-- The first match that starts at an offset or later, if the offset is one at which a match could start. -/
def findAt? (pattern : Pattern) (text : List Char) (start : Nat) : Option (Option (Nat × Nat)) :=
  (Bytes.position? text start).map fun position =>
    ((pattern.regex.spans text.toArray).firstFrom position).map fun (first, last) =>
      (Bytes.offset text first, Bytes.offset text last)

/-- One round of the search, if all of its offsets are those of characters and all slices in range. -/
def round? (pattern : Pattern) (text : List Char) (state : SearchState) : Option Round :=
  let bytes := Bytes.ofChars text
  (pattern.findAt? text state.start).bind fun
    | none => some .exhausted
    | some (first, last) =>
      (Bytes.slice? bytes state.scanned first).bind fun between =>
        (if 0 < last then bytes[last - 1]? else none).map fun lastByte =>
          let spaces := state.spaces + between.count Bytes.space
          let restart := if lastByte = Bytes.space ∧ first < last - 1 then last - 1 else last
          .taken ⟨first, restart⟩
            ⟨first, spaces, restart, state.indices ++ List.range' spaces pattern.wordCount⟩

/-- A whole search: the matches that are taken, and the words that are covered in the end. -/
inductive Searches (pattern : Pattern) (text : List Char) : SearchState → List Hit → List Nat → Prop
  | exhausted {state : SearchState} (round : pattern.round? text state = some .exhausted) :
      Searches pattern text state [] state.indices
  | ended {state next : SearchState} {hit : Hit}
      (round : pattern.round? text state = some (.taken hit next))
      (atEnd : (Bytes.ofChars text).length ≤ next.start) :
      Searches pattern text state [hit] next.indices
  | resumed {state next : SearchState} {hit : Hit} {hits : List Hit} {indices : List Nat}
      (round : pattern.round? text state = some (.taken hit next))
      (inside : next.start < (Bytes.ofChars text).length)
      (later : Searches pattern text next hits indices) :
      Searches pattern text state (hit :: hits) indices

/-- A search can go in one way only. -/
theorem Searches.unique {pattern : Pattern} {text : List Char} {state : SearchState}
    {hits others : List Hit} {indices covered : List Nat} (first : pattern.Searches text state hits indices)
    (second : pattern.Searches text state others covered) : others = hits ∧ covered = indices := by
  induction first generalizing others covered with
  | exhausted round =>
    cases second with
    | exhausted => exact ⟨rfl, rfl⟩
    | ended other | resumed other => cases round.symm.trans other
  | ended round atEnd =>
    cases second with
    | exhausted other => cases round.symm.trans other
    | ended other =>
      cases round.symm.trans other
      exact ⟨rfl, rfl⟩
    | resumed other inside =>
      cases round.symm.trans other
      omega
  | resumed round inside later ih =>
    cases second with
    | exhausted other => cases round.symm.trans other
    | ended other atEnd =>
      cases round.symm.trans other
      omega
    | resumed other _ rest =>
      cases round.symm.trans other
      obtain ⟨rfl, rfl⟩ := ih rest
      exact ⟨rfl, rfl⟩

end Pattern

/-- The words that a match covers: as many as the term has, from the one on that the spaces before the match
count. -/
def Hit.words (pattern : Pattern) (text : List Char) (hit : Hit) : List Nat :=
  List.range' (((Bytes.ofChars text).take hit.first).count Bytes.space) pattern.wordCount

/-! ## Offsets of a match -/

section Match

variable {text : List Char} {first last : Nat}

theorem count_take_offset (text : List Char) (position : Nat) :
    ((Bytes.ofChars text).take (Bytes.offset text position)).count Bytes.space =
      spacesBefore text.toArray position := by
  rw [Bytes.take_offset, Bytes.count_space_ofChars]
  rfl

/-- A match between two positions. -/
def Hit.between (text : List Char) (first last : Nat) : Hit :=
  ⟨Bytes.offset text first, Bytes.offset text (resumeAt text.toArray first last)⟩

theorem words_between (pattern : Pattern) (text : List Char) (first last : Nat) :
    Hit.words pattern text (Hit.between text first last) =
      List.range' (spacesBefore text.toArray first) pattern.wordCount :=
  congrArg (List.range' · pattern.wordCount) (count_take_offset text first)

theorem lt_resumeAt (text : Array Char) (order : first < last) :
    first < resumeAt text first last ∧ resumeAt text first last ≤ last := by
  unfold resumeAt
  split <;> omega

/-- The search goes on at the byte of the position at which it goes on: a space is one byte. -/
theorem offset_resumeAt (order : first < last) (inside : last ≤ text.length) {lastByte : UInt8}
    (isLast : (Bytes.ofChars text)[Bytes.offset text last - 1]? = some lastByte) :
    Bytes.offset text (resumeAt text.toArray first last) =
      if lastByte = Bytes.space ∧ Bytes.offset text first < Bytes.offset text last - 1 then
        Bytes.offset text last - 1
      else Bytes.offset text last := by
  obtain ⟨before, rfl⟩ : ∃ before, last = before + 1 := Nat.exists_eq_succ_of_ne_zero (by omega)
  have here : text[before]? = some text[before] := List.getElem?_eq_getElem (by omega)
  have isSpace := Bytes.getElem?_offset_succ here
  rw [isLast, Option.some_inj] at isSpace
  have sameSpace : text.toArray[before]? = some ' ' ↔ lastByte = Bytes.space := by
    rw [List.getElem?_toArray, here, Option.some_inj, isSpace]
  simp only [resumeAt, Nat.add_sub_cancel, sameSpace]
  by_cases space : lastByte = Bytes.space
  · have size : (' ' : Char).utf8Size = 1 := rfl
    have step := Bytes.offset_succ here
    rw [isSpace.mp space, size] at step
    have between : Bytes.offset text first < Bytes.offset text before ↔ first < before := by
      constructor
      · intro less
        refine Nat.lt_of_not_le fun beyond => ?_
        have other := Bytes.offset_le text beyond
        omega
      · intro less
        exact Bytes.offset_lt less (by omega)
    simp only [step, Nat.add_sub_cancel, between]
    split
    · rfl
    · exact step
  · rw [if_neg fun both => space both.1, if_neg fun both => space both.1]

end Match

/-! ## One round -/

/-- The numbers of a state belong to positions: those of `counted` and `start`, and the spaces before
`counted`. -/
structure At (text : List Char) (counted start : Nat) (state : SearchState) : Prop where
  scanned : state.scanned = Bytes.offset text counted
  spaces : state.spaces = spacesBefore text.toArray counted
  starts : state.start = Bytes.offset text start
  behind : counted ≤ start
  inside : start ≤ text.length

namespace At

variable {pattern : Pattern} {text : List Char} {counted start : Nat} {state : SearchState}
  (here : At text counted start state)

include here

theorem findAt?_eq : pattern.findAt? text state.start =
    some (((pattern.regex.spans text.toArray).firstFrom start).map fun (first, last) =>
      (Bytes.offset text first, Bytes.offset text last)) := by
  rw [Pattern.findAt?, here.starts, Bytes.position?_offset here.inside]
  rfl

theorem round?_exhausted (none : (pattern.regex.spans text.toArray).firstFrom start = none) :
    pattern.round? text state = some .exhausted := by
  rw [Pattern.round?, here.findAt?_eq, none]
  rfl

variable (filled : ∀ position, position ∉ (pattern.regex.spans text.toArray).ends position)

include filled

/-- A match leads to a state whose numbers belong to positions again. -/
theorem round?_taken {first last : Nat}
    (found : (pattern.regex.spans text.toArray).firstFrom start = some (first, last)) :
    start ≤ first ∧ first < resumeAt text.toArray first last ∧ ∃ next,
      pattern.round? text state = some (.taken (Hit.between text first last) next) ∧
      At text first (resumeAt text.toArray first last) next ∧
      next.indices = state.indices ++ Hit.words pattern text (Hit.between text first last) := by
  obtain ⟨behind, isMatch⟩ := Regex.Spans.mem_of_firstFrom found
  have bounds := (Regex.within_spans text.toArray pattern.regex).2 first last isMatch
  have order : first < last := by
    refine Nat.lt_of_le_of_ne bounds.1 ?_
    rintro rfl
    exact filled first isMatch
  have inside : last ≤ text.length := bounds.2
  have scanned : counted ≤ first := Nat.le_trans here.behind behind
  have resumed := lt_resumeAt text.toArray order
  have nonempty := Bytes.offset_lt order inside
  obtain ⟨lastByte, isLast⟩ : ∃ byte, (Bytes.ofChars text)[Bytes.offset text last - 1]? = some byte := by
    have bound := Bytes.offset_le_length text last
    exact ⟨_, List.getElem?_eq_getElem (by omega)⟩
  have spaces : state.spaces + ((text.take first).drop counted).count ' ' =
      spacesBefore text.toArray first := by
    have sum := count_take_add_spacesBetween text.toArray scanned
    rw [spacesBetween_eq, ← List.drop_take] at sum
    rw [here.spaces]
    exact sum
  have slice := Bytes.slice?_offset text scanned
  refine ⟨behind, resumed.1, ⟨Bytes.offset text first, spacesBefore text.toArray first,
    Bytes.offset text (resumeAt text.toArray first last), _⟩, ?_,
    ⟨rfl, rfl, rfl, Nat.le_of_lt resumed.1, Nat.le_trans resumed.2 inside⟩, rfl⟩
  rw [Pattern.round?, here.findAt?_eq, found, words_between, Hit.between,
    offset_resumeAt order inside isLast]
  simp only [Option.bind_some, Option.map_some, here.scanned, slice, isLast, Bytes.count_space_ofChars,
    spaces, if_pos (Nat.zero_lt_of_lt nonempty)]

end At

/-! ## The whole search -/

/-- Matches that are taken from a position on: each starts behind the one before, and the search goes on where
a character begins or the text ends. -/
structure Ascending (text : List Char) (start : Nat) (hits : List Hit) : Prop where
  increasing : (hits.map Hit.first).Pairwise (· < ·)
  behind : ∀ hit ∈ hits, Bytes.offset text start ≤ hit.first
  restarts : ∀ hit ∈ hits, ∃ position ≤ text.length, hit.restart = Bytes.offset text position

namespace Ascending

variable {text : List Char} {start first last : Nat} {hits : List Hit}

theorem nil (text : List Char) (start : Nat) : Ascending text start [] :=
  ⟨.nil, by simp, by simp⟩

theorem cons (behind : start ≤ first) (advance : first < resumeAt text.toArray first last)
    (inside : resumeAt text.toArray first last ≤ text.length)
    (later : Ascending text (resumeAt text.toArray first last) hits) :
    Ascending text start (Hit.between text first last :: hits) := by
  have reached := Bytes.offset_le text behind
  have ahead := Bytes.offset_lt advance inside
  refine ⟨List.pairwise_cons.mpr ⟨?_, later.increasing⟩, List.forall_mem_cons.mpr ⟨reached, ?_⟩,
    List.forall_mem_cons.mpr ⟨⟨_, inside, rfl⟩, later.restarts⟩⟩
  · intro start member
    obtain ⟨hit, inHits, rfl⟩ := List.mem_map.mp member
    exact Nat.lt_of_lt_of_le ahead (later.behind hit inHits)
  · intro hit inHits
    exact Nat.le_trans (Nat.le_trans reached (Nat.le_of_lt ahead)) (later.behind hit inHits)

end Ascending

/-- From a state of positions on, the search ends and covers the words of the matches it takes. -/
theorem At.searches {pattern : Pattern} {text : List Char} {counted start : Nat} {state : SearchState}
    (here : At text counted start state)
    (filled : ∀ position, position ∉ (pattern.regex.spans text.toArray).ends position) : ∃ hits,
    pattern.Searches text state hits (state.indices ++ hits.flatMap (Hit.words pattern text)) ∧
    hits.flatMap (Hit.words pattern text) = coveredFrom (pattern.regex.spans text.toArray) text.toArray
      pattern.wordCount counted (spacesBefore text.toArray counted) start ∧
    Ascending text start hits := by
  -- The search goes on at a later position, so the length of the rest decreases.
  induction rest : text.length - start using Nat.strongRecOn generalizing counted start state with
  | ind rest ih =>
    subst rest
    cases found : (pattern.regex.spans text.toArray).firstFrom start with
    | none =>
      have search := Pattern.Searches.exhausted (here.round?_exhausted found)
      refine ⟨[], ?_, ?_, .nil text start⟩
      · simpa using search
      · rw [coveredFrom, found]
        rfl
    | some result =>
      obtain ⟨first, last⟩ := result
      obtain ⟨behind, advance, next, round, there, indices⟩ := here.round?_taken filled found
      rw [coveredFrom_of_firstFrom here.behind found, ← words_between pattern text first last]
      by_cases reachesEnd : text.length ≤ resumeAt text.toArray first last
      · have atEnd : (Bytes.ofChars text).length ≤ next.start := by
          rw [there.starts, ← Bytes.offset_length]
          exact Bytes.offset_le text reachesEnd
        have search := Pattern.Searches.ended round atEnd
        refine ⟨[Hit.between text first last], ?_, ?_, .cons behind advance there.inside (.nil text _)⟩
        · rwa [List.flatMap_singleton, ← indices]
        · rw [List.flatMap_singleton, if_neg fun both => Nat.not_lt_of_le reachesEnd both.2, List.append_nil]
      · have inside := Nat.lt_of_not_le reachesEnd
        have more : next.start < (Bytes.ofChars text).length := by
          rw [there.starts, ← Bytes.offset_length]
          exact Bytes.offset_lt inside (Nat.le_refl _)
        obtain ⟨hits, later, words, ascending⟩ := ih _ (by omega) there rfl
        have search := Pattern.Searches.resumed round more later
        refine ⟨Hit.between text first last :: hits, ?_, ?_, .cons behind advance there.inside ascending⟩
        · rwa [List.flatMap_cons, ← List.append_assoc, ← indices]
        · rw [List.flatMap_cons, words, if_pos ⟨Nat.lt_of_le_of_lt behind advance, inside⟩]

/-! ## Main statement -/

/-- If no match is empty, the search ends in the one way it can go, with all offsets at characters or at the
end of the text and all slices in range. The matches that it takes start later and later, and the words of the
pattern are those that they cover, one match after another. -/
theorem wordIndices_search (pattern : Pattern) (text : List Char)
    (filled : ∀ position, position ∉ (pattern.regex.spans text.toArray).ends position) :
    ∃ hits, pattern.Searches text .initial hits (pattern.wordIndices text.toArray) ∧
      (∀ others indices, pattern.Searches text .initial others indices →
        others = hits ∧ indices = pattern.wordIndices text.toArray) ∧
      (hits.map Hit.first).Pairwise (· < ·) ∧
      (∀ hit ∈ hits, ∃ position ≤ text.length, hit.restart = Bytes.offset text position) ∧
      pattern.wordIndices text.toArray = hits.flatMap (Hit.words pattern text) := by
  have start : At text 0 0 .initial := ⟨rfl, rfl, rfl, Nat.le_refl 0, Nat.zero_le _⟩
  obtain ⟨hits, search, words, ascending⟩ := start.searches filled
  have covered : pattern.wordIndices text.toArray = hits.flatMap (Hit.words pattern text) := words.symm
  have search : pattern.Searches text .initial hits (pattern.wordIndices text.toArray) := by
    rw [covered]
    exact search
  exact ⟨hits, search, fun others indices other => search.unique other, ascending.increasing,
    ascending.restarts, covered⟩

/-- A term without special characters matches nothing empty. -/
theorem not_mem_ends_of_literal {pattern : Pattern} (literal : ∀ c ∈ pattern.term, IsLiteral c)
    (text : Array Char) (position : Nat) : position ∉ (pattern.regex.spans text).ends position := by
  intro member
  obtain ⟨middle, c, rest, -, -, -, stop⟩ := (Pattern.mem_spans literal).mp member
  omega

/-- The space between two words of two bytes each belongs to both matches. -/
theorem wordIndices_search_sample : ∃ pattern hits, Pattern.ofTerm? "\u00E9".toList = some pattern ∧
    pattern.Searches " \u00E9 \u00E9 ".toList .initial hits [0, 1] ∧
    (hits.map Hit.first).Pairwise (· < ·) ∧
    [0, 1] = hits.flatMap (Hit.words pattern " \u00E9 \u00E9 ".toList) := by
  have compiles : (Pattern.ofTerm? "\u00E9".toList).any (fun pattern =>
      decide (pattern.wordIndices " \u00E9 \u00E9 ".toList.toArray = [0, 1])) = true := by
    decide +kernel
  obtain ⟨pattern, compiled, same⟩ := (Option.any_eq_true _ _).mp compiles
  have literal : ∀ c ∈ pattern.term, IsLiteral c := by
    rw [Pattern.ofTerm?_term compiled]
    simp [IsLiteral]
  obtain ⟨hits, search, -, increasing, -, words⟩ := wordIndices_search pattern " \u00E9 \u00E9 ".toList
    (not_mem_ends_of_literal literal _)
  rw [of_decide_eq_true same] at search words
  exact ⟨pattern, hits, compiled, search, increasing, words⟩

end TextQuery.Query
