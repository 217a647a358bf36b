import TextQuery.Proofs.Regex.Extension
import TextQuery.Proofs.Regex.Spans

/-!
# Expressions inside longer texts

A text that is an expression on its own is read alike behind other items and in front of more text: the
items before it become part of its first alternative, and what follows goes on with its last one
(`parseLevel?_graft`).
-/
set_option autoImplicit false

namespace TextQuery.Regex

/-- The second level is the first with other items before those that it began with. They belong to the
first alternative, which may be complete. -/
inductive Grafted (base : List Regex) : Level → Level → Prop
  | whole (items : List Regex) : Grafted base ⟨[], items⟩ ⟨[], items ++ base⟩
  | divided (first later items : List Regex) :
    Grafted base ⟨later ++ [(⟨[], first⟩ : Level).sequence], items⟩
      ⟨later ++ [(⟨[], first ++ base⟩ : Level).sequence], items⟩

/-- The levels from the innermost one on, the outermost of which has other items before its own. -/
inductive GraftedAll (base : List Regex) : List Level → List Level → Prop
  | outermost {level grafted : Level} (graft : Grafted base level grafted) :
    GraftedAll base [level] [grafted]
  | inner (level : Level) {outer grafted : List Level} (graft : GraftedAll base outer grafted) :
    GraftedAll base (level :: outer) (level :: grafted)

variable {base : List Regex}

theorem Grafted.push {level grafted : Level} (graft : Grafted base level grafted) (item : Regex) :
    Grafted base (level.push item) (grafted.push item) := by
  cases graft with
  | whole items => exact .whole (item :: items)
  | divided first later items => exact .divided first later (item :: items)

theorem Grafted.split {level grafted : Level} (graft : Grafted base level grafted) :
    Grafted base level.split grafted.split := by
  cases graft with
  | whole items => exact .divided items [] []
  | divided first later items => exact .divided first (_ :: later) []

/-- What is repeated is the latest item, whatever stands before the items. -/
theorem repeatLast?_append {alternatives items : List Regex} {next : Level} {min : Nat} {max : Option Nat}
    (repeats : (⟨alternatives, items⟩ : Level).repeatLast? min max = some next) :
    ∃ after, next = ⟨alternatives, after⟩ ∧ ∀ others before : List Regex,
      (⟨others, items ++ before⟩ : Level).repeatLast? min max = some ⟨others, after ++ before⟩ := by
  cases items with
  | nil => contradiction
  | cons last items =>
    simp only [Level.repeatLast?] at repeats
    split at repeats
    · rename_i light
      obtain rfl := Option.some.inj repeats
      exact ⟨_, rfl, fun others before => if_pos light⟩
    · contradiction

theorem Grafted.repeatLast? {level grafted next : Level} (graft : Grafted base level grafted) {min : Nat}
    {max : Option Nat} (repeats : level.repeatLast? min max = some next) :
    ∃ graftedNext, grafted.repeatLast? min max = some graftedNext ∧ Grafted base next graftedNext := by
  cases graft with
  | whole items =>
    obtain ⟨after, rfl, grown⟩ := repeatLast?_append repeats
    exact ⟨_, grown [] base, .whole after⟩
  | divided first later items =>
    obtain ⟨after, rfl, grown⟩ := repeatLast?_append repeats
    have same := grown (later ++ [(⟨[], first ++ base⟩ : Level).sequence]) []
    rw [List.append_nil, List.append_nil] at same
    exact ⟨_, same, .divided first later after⟩

theorem GraftedAll.push {level grafted : Level} {outer graftedOuter : List Level}
    (graft : GraftedAll base (level :: outer) (grafted :: graftedOuter)) (item : Regex) :
    GraftedAll base (level.push item :: outer) (grafted.push item :: graftedOuter) := by
  cases graft with
  | outermost graft => exact .outermost (graft.push item)
  | inner _ graft => exact .inner _ graft

theorem GraftedAll.split {level grafted : Level} {outer graftedOuter : List Level}
    (graft : GraftedAll base (level :: outer) (grafted :: graftedOuter)) :
    GraftedAll base (level.split :: outer) (grafted.split :: graftedOuter) := by
  cases graft with
  | outermost graft => exact .outermost graft.split
  | inner _ graft => exact .inner _ graft

theorem GraftedAll.repeatLast? {level grafted next : Level} {outer graftedOuter : List Level}
    (graft : GraftedAll base (level :: outer) (grafted :: graftedOuter)) {min : Nat} {max : Option Nat}
    (repeats : level.repeatLast? min max = some next) :
    ∃ graftedNext, grafted.repeatLast? min max = some graftedNext ∧
      GraftedAll base (next :: outer) (graftedNext :: graftedOuter) := by
  cases graft with
  | outermost graft =>
    obtain ⟨graftedNext, same, kept⟩ := graft.repeatLast? repeats
    exact ⟨graftedNext, same, .outermost kept⟩
  | inner _ graft => exact ⟨next, repeats, .inner _ graft⟩

/-! ## Reading -/

/-- The text is read to the end of an expression. What follows the text goes on with the last level of the
expression, which has other items before its own. -/
def Continues (base : List Regex) (regex : Regex) (outer : List Level) (level : Level)
    (text : List Char) : Prop :=
  ∃ last grafted, Grafted base last grafted ∧ last.close = regex ∧
    ∀ more : List Char, more.head? ≠ some '\x7b' →
      parseLevel? outer level (text ++ more) = parseLevel? [] grafted more

theorem Continues.of_step {regex : Regex} {outer nextOuter : List Level} {level next : Level}
    {text rest : List Char} (after : Continues base regex nextOuter next rest)
    (step : ∀ more : List Char, more.head? ≠ some '\x7b' →
      parseLevel? outer level (text ++ more) = parseLevel? nextOuter next (rest ++ more)) :
    Continues base regex outer level text := by
  obtain ⟨last, grafted, graft, closes, goesOn⟩ := after
  exact ⟨last, grafted, graft, closes, fun more noBrace =>
    (step more noBrace).trans (goesOn more noBrace)⟩

/-- A text that is read to the end of an expression is read alike behind other items and in front of more
text. -/
theorem parseLevel?_graft {outer : List Level} {level : Level} {text : List Char} {regex : Regex}
    (reads : parseLevel? outer level text = some regex) {graftedOuter : List Level} {grafted : Level}
    (graft : GraftedAll base (level :: outer) (grafted :: graftedOuter)) :
    Continues base regex graftedOuter grafted text := by
  fun_induction parseLevel? outer level text generalizing graftedOuter grafted with
  | case1 outer level empty =>
    cases graft with
    | outermost graft =>
      exact ⟨level, grafted, graft, Option.some.inj reads, fun more _ => rfl⟩
    | inner _ graft =>
      cases graft <;> contradiction
  | case3 outer level rest ih =>
    refine (ih reads (.inner .start graft)).of_step fun more _ => ?_
    rw [List.cons_append, parseLevel?]
  | case5 level rest around outer ih =>
    cases graft with
    | inner _ graft =>
      cases graftedOuter with
      | nil => cases graft
      | cons graftedAround graftedOuter =>
        refine (ih reads (graft.push level.close)).of_step fun more _ => ?_
        rw [List.cons_append, parseLevel?]
  | case6 outer level rest ih =>
    refine (ih reads graft.split).of_step fun more _ => ?_
    rw [List.cons_append, parseLevel?]
  | case8 outer level rest read found le ih =>
    refine (ih reads (graft.push _)).of_step fun more noBrace => ?_
    exact parseLevel?_bracket (readBracket?_append noBrace rest read found)
  | case10 outer level rest next repeats ih | case12 outer level rest next repeats ih
  | case14 outer level rest next repeats ih =>
    obtain ⟨graftedNext, same, nextGraft⟩ := graft.repeatLast? repeats
    refine (ih reads nextGraft).of_step fun more _ => ?_
    rw [List.cons_append, parseLevel?.eq_def]
    simp only [same]
  | case17 outer level rest read found next repeats le ih =>
    obtain ⟨graftedNext, same, nextGraft⟩ := graft.repeatLast? repeats
    refine (ih reads nextGraft).of_step fun more _ => ?_
    exact parseLevel?_bounds (readBounds?_append rest read found) same
  | case19 outer level rest read found le ih =>
    refine (ih reads (graft.push _)).of_step fun more noBrace => ?_
    exact parseLevel?_escape (readEscape?_append noBrace rest read found)
  | case20 outer level rest ih | case21 outer level rest ih | case22 outer level rest ih =>
    refine (ih reads (graft.push _)).of_step fun more _ => ?_
    rw [List.cons_append, parseLevel?]
  | case23 =>
    rename_i ih
    refine (ih reads (graft.push _)).of_step fun more _ => ?_
    rw [List.cons_append, parseLevel?.eq_def]
    simp_all
  | _ => contradiction

/-! ## What the items of a level match -/

section Matches

variable {text : Array Char} {start stop : Nat}

/-- The items match one behind the other. -/
def Chain (text : Array Char) : List Regex → Nat → Nat → Prop
  | [], start, stop => stop = start
  | item :: rest, start, stop =>
    ∃ between ∈ (spans text item).ends start, Chain text rest between stop

theorem chain_append {first rest : List Regex} : Chain text (first ++ rest) start stop ↔
    ∃ between, Chain text first start between ∧ Chain text rest between stop := by
  induction first generalizing start with
  | nil => simp [Chain]
  | cons item first ih =>
    simp only [List.cons_append, Chain, ih]
    constructor
    · rintro ⟨next, member, between, before, after⟩
      exact ⟨between, ⟨next, member, before⟩, after⟩
    · rintro ⟨between, ⟨next, member, before⟩, after⟩
      exact ⟨next, member, between, before, after⟩

theorem Chain.le_size {items : List Regex} (chain : Chain text items start stop)
    (le : start ≤ text.size) : stop ≤ text.size := by
  induction items generalizing start with
  | nil =>
    obtain rfl : stop = start := chain
    exact le
  | cons item rest ih =>
    obtain ⟨between, member, after⟩ := chain
    exact ih after ((within_spans text item).2 start between member).2

theorem mem_spans_foldr {items : List Regex} {tail : Regex} :
    stop ∈ (spans text (items.foldr .seq tail)).ends start ↔
      Chain text (items ++ [tail]) start stop := by
  induction items generalizing start with
  | nil => simp [Chain]
  | cons item rest ih => simp only [List.foldr_cons, mem_spans_seq, ih, List.cons_append, Chain]

theorem mem_spans_sequence {level : Level} : stop ∈ (spans text level.sequence).ends start ↔
    start ≤ text.size ∧ Chain text level.items.reverse start stop := by
  obtain ⟨alternatives, items⟩ := level
  cases items with
  | nil => exact mem_spans_empty.trans and_comm
  | cons last before =>
    have inOrder : (⟨alternatives, last :: before⟩ : Level).sequence =
        before.reverse.foldr .seq last := by
      rw [List.foldr_reverse, Level.sequence]
    rw [inOrder, List.reverse_cons, ← mem_spans_foldr]
    refine ⟨fun member => ⟨(within_spans text _).le_length member, member⟩, fun both => both.2⟩

/-- Items behind others. -/
theorem mem_spans_sequence_append {alternatives later before : List Regex} :
    stop ∈ (spans text (⟨alternatives, later ++ before⟩ : Level).sequence).ends start ↔
      ∃ between ∈ (spans text (⟨alternatives, before⟩ : Level).sequence).ends start,
        stop ∈ (spans text (⟨alternatives, later⟩ : Level).sequence).ends between := by
  simp only [mem_spans_sequence, List.reverse_append, chain_append]
  constructor
  · rintro ⟨le, between, first, rest⟩
    exact ⟨between, ⟨le, first⟩, first.le_size le, rest⟩
  · rintro ⟨between, ⟨le, first⟩, -, rest⟩
    exact ⟨le, between, first, rest⟩

theorem mem_spans_close {level : Level} : stop ∈ (spans text level.close).ends start ↔
    (∃ part ∈ level.alternatives, stop ∈ (spans text part).ends start) ∨
      stop ∈ (spans text level.sequence).ends start := by
  have folded : ∀ (parts : List Regex) (last : Regex),
      stop ∈ (spans text (parts.foldl (fun rest part => .alt part rest) last)).ends start ↔
        (∃ part ∈ parts, stop ∈ (spans text part).ends start) ∨
          stop ∈ (spans text last).ends start := by
    intro parts
    induction parts with
    | nil => simp
    | cons part parts ih =>
      intro last
      rw [List.foldl_cons, ih, mem_spans_alt]
      simp only [List.mem_cons, exists_eq_or_imp, or_assoc, or_left_comm]
  exact folded level.alternatives level.sequence

end Matches

end TextQuery.Regex
