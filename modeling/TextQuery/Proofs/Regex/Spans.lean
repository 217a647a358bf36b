import TextQuery.Regex.Spans

/-!
# What matches where

Which ends each part of an expression has at a position, constructor by constructor. The order of the
ends, by which a match is chosen, is of no account here.
-/
set_option autoImplicit false

namespace TextQuery.Regex

namespace Spans

theorem ends_of_lt {spans : Spans} {start : Nat} (inside : start < spans.size) :
    spans.ends start = spans[start] := by
  rw [ends, Array.getD_eq_getD_getElem?, Array.getElem?_eq_getElem inside, Option.getD_some]

theorem ends_of_le {spans : Spans} {start : Nat} (beyond : spans.size ≤ start) :
    spans.ends start = [] := by
  rw [ends, Array.getD_eq_getD_getElem?, Array.getElem?_eq_none beyond, Option.getD_none]

theorem firstFrom_eq_none_iff {spans : Spans} {start : Nat} :
    spans.firstFrom start = none ↔ ∀ position, start ≤ position → spans.ends position = [] := by
  fun_induction firstFrom spans start with
  | case1 start inside stop rest found =>
    refine ⟨fun never => absurd never (by simp), fun empty => ?_⟩
    rw [empty start (Nat.le_refl start)] at found
    contradiction
  | case2 start inside found ih =>
    rw [ih]
    constructor
    · intro later position atLeast
      rcases Nat.eq_or_lt_of_le atLeast with rfl | after
      · exact found
      · exact later position after
    · intro all position after
      exact all position (Nat.le_of_succ_le after)
  | case3 start outside =>
    refine ⟨fun _ position atLeast => ?_, fun _ => rfl⟩
    exact ends_of_le (Nat.le_trans (Nat.le_of_not_lt outside) atLeast)

theorem any_iff {spans : Spans} :
    (spans.any fun ends => !ends.isEmpty) = true ↔ ∃ start, spans.ends start ≠ [] := by
  rw [Array.any_eq_true]
  constructor
  · rintro ⟨start, inside, found⟩
    refine ⟨start, ?_⟩
    rw [ends_of_lt inside]
    simpa using found
  · rintro ⟨start, found⟩
    by_cases inside : start < spans.size
    · refine ⟨start, inside, ?_⟩
      rw [ends_of_lt inside] at found
      simpa using found
    · exact absurd (ends_of_le (Nat.le_of_not_lt inside)) found

theorem ends_tabulate {length start : Nat} {f : Nat → List Nat} (inside : start ≤ length) :
    (tabulate length f).ends start = f start := by
  have bound : start < (tabulate length f).size := by
    rw [tabulate, Array.size_ofFn]
    omega
  rw [ends_of_lt bound]
  exact Array.getElem_ofFn bound

theorem size_tabulate (length : Nat) (f : Nat → List Nat) : (tabulate length f).size = length + 1 :=
  Array.size_ofFn

theorem mem_prefer {first second : List Nat} {stop : Nat} :
    stop ∈ prefer first second ↔ stop ∈ first ∨ stop ∈ second := by
  rw [prefer, List.mem_append, List.mem_filter]
  by_cases member : stop ∈ first <;> simp [member]

theorem mem_andThen {next : Nat → List Nat} {stops : List Nat} {stop : Nat} :
    stop ∈ andThen next stops ↔ ∃ between ∈ stops, stop ∈ next between := by
  induction stops with
  | nil => simp [andThen]
  | cons first rest ih =>
    rw [andThen, mem_prefer, ih]
    simp only [List.mem_cons, exists_eq_or_imp]

theorem ends_seq {first second : Spans} {start : Nat} :
    (seq first second).ends start = andThen second.ends (first.ends start) := by
  by_cases inside : start < first.size
  · have bound : start < (seq first second).size := by rwa [seq, Array.size_map]
    rw [ends_of_lt inside, ends_of_lt bound]
    exact Array.getElem_map ..
  · have beyond := Nat.le_of_not_lt inside
    rw [ends_of_le beyond, ends_of_le (by rwa [seq, Array.size_map])]
    rfl

theorem mem_ends_alt {first second : Spans} (same : first.size = second.size) {start stop : Nat} :
    stop ∈ (alt first second).ends start ↔ stop ∈ first.ends start ∨ stop ∈ second.ends start := by
  have size : (alt first second).size = first.size := by
    rw [alt, Array.size_zipWith, ← same, Nat.min_self]
  by_cases inside : start < first.size
  · rw [ends_of_lt (by omega : start < (alt first second).size), ends_of_lt inside,
      ends_of_lt (same ▸ inside), ← mem_prefer]
    simp only [alt, Array.getElem_zipWith]
  · rw [ends_of_le (by omega), ends_of_le (by omega), ends_of_le (by omega)]
    simp

/-! ## Repetition -/

theorem loopTail_eq_drop {length : Nat} {step : Spans} {count total : Nat} (le : count ≤ total) :
    loopTail length step count = (loopTail length step total).drop (total - count) := by
  induction total with
  | zero =>
    obtain rfl := Nat.le_zero.mp le
    rfl
  | succ total ih =>
    rcases Nat.eq_or_lt_of_le le with rfl | less
    · rw [Nat.sub_self, List.drop_zero]
    · have below := Nat.le_of_lt_succ less
      rw [ih below, Nat.succ_sub below, loopTail, List.drop_succ_cons]

/-- Another round has to advance. -/
theorem ends_loop {length : Nat} {step : Spans} {start : Nat} (inside : start ≤ length) :
    (loop length step).ends start =
      prefer (andThen (fun stop => if start < stop then (loop length step).ends stop else [])
        (step.ends start)) [start] := by
  have ends_eq : ∀ position, (loop length step).ends position =
      ((loopTail length step (length + 1))[position]?).getD [] := fun position => by
    rw [ends, loop, Array.getD_eq_getD_getElem?, List.getElem?_toArray]
  have later : ∀ offset, (loopTail length step (length - start))[offset]? =
      (loopTail length step (length + 1))[start + 1 + offset]? := fun offset => by
    rw [loopTail_eq_drop (by omega : length - start ≤ length + 1), List.getElem?_drop]
    congr 1
    omega
  have here : (loopTail length step (length + 1))[start]? =
      (loopTail length step (length - start + 1))[0]? := by
    rw [loopTail_eq_drop (by omega : length - start + 1 ≤ length + 1), List.getElem?_drop]
    congr 1
    omega
  rw [ends_eq, here, loopTail, List.getElem?_cons_zero, Option.getD_some, Nat.sub_sub_self inside]
  congr 2
  funext stop
  split
  · rename_i advances
    rw [ends_eq, later]
    congr 2
    omega
  · rfl

theorem mem_ends_loop {length : Nat} {step : Spans} {start stop : Nat} (inside : start ≤ length) :
    stop ∈ (loop length step).ends start ↔
      stop = start ∨ ∃ between ∈ step.ends start, start < between ∧
        stop ∈ (loop length step).ends between := by
  rw [ends_loop inside, mem_prefer, mem_andThen, List.mem_singleton, or_comm]
  refine or_congr_right (exists_congr fun between => and_congr_right fun _ => ?_)
  by_cases advances : start < between <;> simp [advances]

theorem mem_ends_plus {length : Nat} {step : Spans} {start stop : Nat} (inside : start ≤ length) :
    stop ∈ (plus length step).ends start ↔
      ∃ between ∈ step.ends start,
        if between = start then stop = start else stop ∈ (loop length step).ends between := by
  rw [plus, ends_tabulate inside, mem_andThen]
  refine exists_congr fun between => and_congr_right fun _ => ?_
  by_cases stays : between = start <;> simp [stays]

/-- Any number of times. -/
theorem mem_ends_repeated {length : Nat} {step : Spans} {start stop : Nat} (inside : start ≤ length) :
    stop ∈ (repeated length step 0 none).ends start ↔
      stop ∈ (plus length step).ends start ∨ stop = start := by
  have same : (plus length step).size = (here length).size := by
    rw [plus, here, size_tabulate, size_tabulate]
  rw [repeated, mem_ends_alt same, here, ends_tabulate inside, List.mem_singleton]

/-! ## Bounds -/

theorem lt_size_of_mem {spans : Spans} {start stop : Nat} (member : stop ∈ spans.ends start) :
    start < spans.size := by
  by_cases inside : start < spans.size
  · exact inside
  · rw [ends_of_le (Nat.le_of_not_lt inside)] at member
    contradiction

theorem mem_of_firstFrom {spans : Spans} {start first last : Nat}
    (found : spans.firstFrom start = some (first, last)) : start ≤ first ∧ last ∈ spans.ends first := by
  fun_induction firstFrom spans start with
  | case1 start inside stop rest here =>
    obtain ⟨rfl, rfl⟩ := Prod.mk.inj (Option.some.inj found)
    exact ⟨Nat.le_refl _, here ▸ List.mem_cons_self⟩
  | case2 start inside none ih =>
    obtain ⟨after, member⟩ := ih found
    exact ⟨Nat.le_of_succ_le after, member⟩
  | case3 => contradiction

/-- Every match ends at its start or later, inside the text. -/
def Within (length : Nat) (spans : Spans) : Prop :=
  spans.size = length + 1 ∧ ∀ start, ∀ stop ∈ spans.ends start, start ≤ stop ∧ stop ≤ length

section Within

variable {length : Nat} {first second step : Spans}

theorem Within.le_length {spans : Spans} (within : Within length spans) {start stop : Nat}
    (member : stop ∈ spans.ends start) : start ≤ length := by
  have inside := lt_size_of_mem member
  rw [within.1] at inside
  exact Nat.le_of_lt_succ inside

theorem within_tabulate {f : Nat → List Nat}
    (bounds : ∀ start ≤ length, ∀ stop ∈ f start, start ≤ stop ∧ stop ≤ length) :
    Within length (tabulate length f) := by
  refine ⟨size_tabulate _ _, fun start stop member => ?_⟩
  have inside := lt_size_of_mem member
  rw [size_tabulate] at inside
  have le := Nat.le_of_lt_succ inside
  rw [ends_tabulate le] at member
  exact bounds start le stop member

theorem within_here : Within length (here length) :=
  within_tabulate fun start le stop member => by
    obtain rfl := List.mem_singleton.mp member
    exact ⟨Nat.le_refl _, le⟩

theorem Within.seq (before : Within length first) (after : Within length second) :
    Within length (first.seq second) := by
  refine ⟨by rw [Spans.seq, Array.size_map, before.1], fun start stop member => ?_⟩
  rw [ends_seq, mem_andThen] at member
  obtain ⟨between, early, late⟩ := member
  have lower := (before.2 start between early).1
  have upper := after.2 between stop late
  exact ⟨Nat.le_trans lower upper.1, upper.2⟩

theorem Within.alt (left : Within length first) (right : Within length second) :
    Within length (first.alt second) := by
  have same : first.size = second.size := left.1.trans right.1.symm
  refine ⟨by rw [Spans.alt, Array.size_zipWith, ← same, Nat.min_self, left.1],
    fun start stop member => ?_⟩
  rcases (mem_ends_alt same).mp member with member | member
  · exact left.2 start stop member
  · exact right.2 start stop member

theorem Within.times (within : Within length step) {done : Spans} (before : Within length done)
    (count : Nat) : Within length (times step count done) := by
  induction count generalizing done with
  | zero => exact before
  | succ count ih => exact ih (before.seq within)

theorem Within.upTo (within : Within length step) (count : Nat) :
    Within length (upTo length step count) := by
  induction count with
  | zero => exact within_here
  | succ count ih =>
    refine within_tabulate fun start le stop member => ?_
    rcases mem_prefer.mp member with again | here
    · obtain ⟨between, early, late⟩ := mem_andThen.mp again
      have lower := (within.2 start between early).1
      have upper := ih.2 between stop late
      exact ⟨Nat.le_trans lower upper.1, upper.2⟩
    · obtain rfl := List.mem_singleton.mp here
      exact ⟨Nat.le_refl _, le⟩

theorem Within.of_mem_loop (within : Within length step) {start stop : Nat} (le : start ≤ length)
    (member : stop ∈ (loop length step).ends start) : start ≤ stop ∧ stop ≤ length := by
  induction remaining : length - start using Nat.strongRecOn generalizing start with
  | ind remaining ih =>
    rcases (mem_ends_loop le).mp member with rfl | ⟨between, early, advances, late⟩
    · exact ⟨Nat.le_refl _, le⟩
    · have bound := (within.2 start between early).2
      have upper := ih (length - between) (by omega) bound late rfl
      omega

theorem Within.plus (within : Within length step) : Within length (plus length step) := by
  refine within_tabulate fun start le stop member => ?_
  obtain ⟨between, early, late⟩ := mem_andThen.mp member
  split at late
  · obtain rfl := List.mem_singleton.mp late
    exact ⟨Nat.le_refl _, le⟩
  · have bound := within.2 start between early
    have upper := within.of_mem_loop bound.2 late
    omega

theorem Within.repeated (within : Within length step) (min : Nat) (max : Option Nat) :
    Within length (repeated length step min max) := by
  cases max with
  | some max => exact (within.times within_here min).seq (within.upTo (max - min))
  | none =>
    cases min with
    | zero => exact within.plus.alt within_here
    | succ more => exact (within.times within_here more).seq within.plus

end Within

end Spans

theorem within_spans (text : Array Char) (regex : Regex) :
    Spans.Within text.size (spans text regex) := by
  induction regex with
  | empty => exact Spans.within_here
  | set chars =>
    refine Spans.within_tabulate fun start _ stop member => ?_
    obtain ⟨accepted, here⟩ := List.mem_ite_nil_right.mp member
    obtain rfl := List.mem_singleton.mp here
    cases found : text[start]? with
    | none =>
      rw [found] at accepted
      contradiction
    | some c => exact ⟨Nat.le_succ _, (Array.getElem?_eq_some_iff.mp found).1⟩
  | anchor condition =>
    refine Spans.within_tabulate fun start le stop member => ?_
    obtain rfl := List.mem_singleton.mp (List.mem_ite_nil_right.mp member).2
    exact ⟨Nat.le_refl _, le⟩
  | seq first second before after => exact before.seq after
  | alt first second left right => exact left.alt right
  | «repeat» inner min max within => exact within.repeated min max

/-- There is a match if some position has one. -/
theorem matchesIn_iff {regex : Regex} {text : Array Char} :
    regex.matchesIn text = true ↔ ∃ start stop, stop ∈ (regex.spans text).ends start := by
  rw [matchesIn, Spans.any_iff]
  refine exists_congr fun start => ⟨List.exists_mem_of_ne_nil _, ?_⟩
  rintro ⟨stop, member⟩
  exact List.ne_nil_of_mem member

section Parts

variable {text : Array Char} {start stop : Nat}

theorem mem_spans_set {chars : CharSet} :
    stop ∈ (spans text (.set chars)).ends start ↔
      ∃ c, text[start]? = some c ∧ chars.contains c = true ∧ stop = start + 1 := by
  rw [spans]
  by_cases inside : start ≤ text.size
  · rw [Spans.ends_tabulate inside]
    cases found : text[start]? with
    | none => simp
    | some c => by_cases contained : chars.contains c = true <;> simp [contained]
  · rw [Spans.ends_of_le (by rw [Spans.size_tabulate]; omega), Array.getElem?_eq_none (by omega)]
    simp

theorem mem_spans_empty : stop ∈ (spans text .empty).ends start ↔ stop = start ∧ start ≤ text.size := by
  rw [spans, Spans.here]
  by_cases inside : start ≤ text.size
  · simp [Spans.ends_tabulate inside, inside]
  · rw [Spans.ends_of_le (by rw [Spans.size_tabulate]; omega)]
    simp [inside]

theorem mem_spans_alt {first second : Regex} : stop ∈ (spans text (.alt first second)).ends start ↔
    stop ∈ (spans text first).ends start ∨ stop ∈ (spans text second).ends start := by
  rw [spans, Spans.mem_ends_alt ((within_spans text first).1.trans (within_spans text second).1.symm)]

theorem mem_spans_seq {first second : Regex} :
    stop ∈ (spans text (.seq first second)).ends start ↔
      ∃ between ∈ (spans text first).ends start, stop ∈ (spans text second).ends between := by
  rw [spans, Spans.ends_seq, Spans.mem_andThen]

/-- All characters from one position to another are in the set. -/
def Run (chars : CharSet) (text : Array Char) (start stop : Nat) : Prop :=
  start ≤ stop ∧
    ∀ position, start ≤ position → position < stop →
      ∃ c, text[position]? = some c ∧ chars.contains c = true

theorem run_iff {chars : CharSet} : Run chars text start stop ↔ stop = start ∨
    (∃ c, text[start]? = some c ∧ chars.contains c = true) ∧ Run chars text (start + 1) stop := by
  constructor
  · rintro ⟨order, all⟩
    rcases Nat.eq_or_lt_of_le order with same | advances
    · exact Or.inl same.symm
    · exact Or.inr ⟨all start (Nat.le_refl _) advances, advances,
        fun position after before => all position (Nat.le_of_succ_le after) before⟩
  · rintro (same | ⟨first, order, all⟩)
    · refine ⟨Nat.le_of_eq same.symm, fun position after before => ?_⟩
      omega
    · refine ⟨Nat.le_of_succ_le order, fun position after before => ?_⟩
      rcases Nat.eq_or_lt_of_le after with rfl | later
      · exact first
      · exact all position later before

theorem mem_loop_set {chars : CharSet} (inside : start ≤ text.size) :
    stop ∈ (Spans.loop text.size (spans text (.set chars))).ends start ↔
      Run chars text start stop := by
  induction remaining : text.size - start generalizing start with
  | zero =>
    have beyond : text[start]? = none := Array.getElem?_eq_none (by omega)
    rw [Spans.mem_ends_loop inside, run_iff]
    simp [mem_spans_set, beyond]
  | succ remaining ih =>
    rw [Spans.mem_ends_loop inside, run_iff]
    refine or_congr_right ⟨?_, ?_⟩
    · rintro ⟨between, first, -, later⟩
      obtain ⟨c, found, contained, rfl⟩ := mem_spans_set.mp first
      exact ⟨⟨c, found, contained⟩, (ih (by omega) (by omega)).mp later⟩
    · rintro ⟨⟨c, found, contained⟩, later⟩
      exact ⟨start + 1, mem_spans_set.mpr ⟨c, found, contained, rfl⟩, Nat.lt_succ_self _,
        (ih (by omega) (by omega)).mpr later⟩

/-- A repeated set takes any run of its characters. -/
theorem mem_spans_star {chars : CharSet} (inside : start ≤ text.size) :
    stop ∈ (spans text (.repeat (.set chars) 0 none)).ends start ↔ Run chars text start stop := by
  rw [spans, Spans.mem_ends_repeated inside, Spans.mem_ends_plus inside, run_iff, or_comm]
  refine or_congr_right ⟨?_, ?_⟩
  · rintro ⟨between, first, later⟩
    obtain ⟨c, found, contained, rfl⟩ := mem_spans_set.mp first
    have bound := (Array.getElem?_eq_some_iff.mp found).1
    rw [if_neg (Nat.succ_ne_self start), mem_loop_set bound] at later
    exact ⟨⟨c, found, contained⟩, later⟩
  · rintro ⟨⟨c, found, contained⟩, later⟩
    have bound := (Array.getElem?_eq_some_iff.mp found).1
    refine ⟨start + 1, mem_spans_set.mpr ⟨c, found, contained, rfl⟩, ?_⟩
    rw [if_neg (Nat.succ_ne_self start), mem_loop_set bound]
    exact later

end Parts

end TextQuery.Regex
