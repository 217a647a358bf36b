import TextQuery.Regex.Basic

/-!
# Matching

`Regex.spans` lists, for every position of a text, where the matches that start there may end. The
ends of a position stand in the order of preference: an earlier alternative before a later one, more
repetitions before fewer. So the match of an expression at a position is the head of its list, and
the leftmost match of a text is found at the first position whose list is not empty.

Each part of an expression is matched once at every position, and no list holds an end twice, so
the work is bounded by a polynomial in the length of the text whatever the expression.
-/
set_option autoImplicit false

namespace TextQuery.Regex

/-- For each position from zero to the length of the text, the ends of the matches that start
there, the preferred end first. -/
abbrev Spans := Array (List Nat)

namespace Spans

/-- The ends of the matches that start at a position; none beyond the text. -/
def ends (spans : Spans) (start : Nat) : List Nat := spans.getD start []

/-- The table of a function on the positions of a text of the given length. -/
def tabulate (length : Nat) (f : Nat → List Nat) : Spans :=
  Array.ofFn fun start : Fin (length + 1) => f start

/-- The ends of a first choice, then those of a second choice that are new. -/
def prefer (first second : List Nat) : List Nat :=
  first ++ second.filter fun stop => !first.contains stop

/-- The ends of a continuation from each of several positions, in their order. -/
def andThen (next : Nat → List Nat) : List Nat → List Nat
  | [] => []
  | stop :: rest => prefer (next stop) (andThen next rest)

/-- The match that takes nothing. -/
def here (length : Nat) : Spans := tabulate length fun start => [start]

def seq (first second : Spans) : Spans := first.map (andThen second.ends)

def alt (first second : Spans) : Spans := Array.zipWith prefer first second

/-- Exactly `count` times after what `done` has matched. -/
def times (step : Spans) : Nat → Spans → Spans
  | 0, done => done
  | count + 1, done => times step count (seq done step)

/-- At most `count` times, as often as possible. -/
def upTo (length : Nat) (step : Spans) : Nat → Spans
  | 0 => here length
  | count + 1 =>
    let fewer := upTo length step count
    tabulate length fun start => prefer (andThen fewer.ends (step.ends start)) [start]

/-- The ends of repeating a step that has to advance, for the last `count` positions of the text:
the list starts with the entry of position `length + 1 - count`. -/
def loopTail (length : Nat) (step : Spans) : Nat → List (List Nat)
  | 0 => []
  | count + 1 =>
    let later := loopTail length step count
    let start := length - count
    let again (stop : Nat) : List Nat :=
      if start < stop then (later[stop - start - 1]?).getD [] else []
    prefer (andThen again (step.ends start)) [start] :: later

/-- Any number of times, every time advancing. -/
def loop (length : Nat) (step : Spans) : Spans :=
  (loopTail length step (length + 1)).toArray

/-- At least once; a first time that does not advance is the only one. -/
def plus (length : Nat) (step : Spans) : Spans :=
  let more := loop length step
  tabulate length fun start =>
    andThen (fun stop => if stop = start then [start] else more.ends stop) (step.ends start)

/-- From `min` to `max` times, or without limit. -/
def repeated (length : Nat) (step : Spans) (min : Nat) : Option Nat → Spans
  | some max => seq (times step min (here length)) (upTo length step (max - min))
  | none =>
    match min with
    | 0 => alt (plus length step) (here length)
    | more + 1 => seq (times step more (here length)) (plus length step)

/-- The first match that starts at `start` or later: its start and its preferred end. -/
def firstFrom (spans : Spans) (start : Nat) : Option (Nat × Nat) :=
  if start < spans.size then
    match spans.ends start with
    | stop :: _ => some (start, stop)
    | [] => firstFrom spans (start + 1)
  else none
termination_by spans.size - start

end Spans

def spans (text : Array Char) : Regex → Spans
  | .empty => .here text.size
  | .set chars => .tabulate text.size fun start =>
    if (text[start]?).any chars.contains then [start + 1] else []
  | .anchor condition => .tabulate text.size fun start =>
    let before := if start = 0 then none else text[start - 1]?
    if condition.holds before text[start]? then [start] else []
  | .seq first second => (spans text first).seq (spans text second)
  | .alt first second => (spans text first).alt (spans text second)
  | .repeat inner min max => (spans text inner).repeated text.size min max

def matchesIn (regex : Regex) (text : Array Char) : Bool :=
  (spans text regex).any fun ends => !ends.isEmpty

end TextQuery.Regex
