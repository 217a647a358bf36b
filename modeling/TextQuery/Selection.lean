import TextQuery.Count
import TextQuery.QuerySet

/-!
# Selecting records in chunks

A batch of records is cut into chunks that workers may check independently. The rows come back in the
order of the records, whatever the chunks. Products of counts stop at the largest count.
-/
set_option autoImplicit false

namespace TextQuery

structure SelectionOptions where
  /-- The number of workers, if it is not to be derived from the processors. -/
  workers : Option Nat
  /-- What the number of processors is divided by to give the number of workers. -/
  cpuDivideCount : Nat
  /-- The length of chunks once there are more records than the workers take in one chunk each. -/
  chunkLen : Nat
deriving DecidableEq

namespace SelectionOptions

/-- The options that hold where nothing else is said. -/
def default : SelectionOptions := ⟨none, 2, 100⟩

/-- The fewest workers that are derived from the processors. -/
def minWorkers : Nat := 2

/-- The number of workers on a machine with `cpus` processors. -/
def workerCount (options : SelectionOptions) (cpus : Nat) : Nat :=
  match options.workers with
  | some workers => max workers 1
  | none => max (cpus / max options.cpuDivideCount 1) minWorkers

/-- The sum, unless it is too large for a count. -/
def sum? (left right : Nat) : Option Nat :=
  if left + right ≤ maxCount then some (left + right) else none

/-- The number of parts of `size` that `total` takes, the last part counted even if it is not full. There are
no parts of no size. -/
def partCount? (total size : Nat) : Option Nat :=
  if size = 0 then none
  else if total % size = 0 then some (total / size)
  else sum? (total / size) 1

/-- The length of the chunks for `total` records, unless it cannot be computed: fixed for large batches,
otherwise such that the workers share the records evenly. -/
def chunkLenFor? (options : SelectionOptions) (total workers : Nat) : Option Nat :=
  let chunkLen := max options.chunkLen 1
  if min (chunkLen * workers) maxCount < total then some chunkLen
  else (partCount? total (max workers 1)).map (max · 1)

/-- The length of the chunks. It can be computed for every number of records. -/
def chunkLenFor (options : SelectionOptions) (total workers : Nat) : Nat :=
  (options.chunkLenFor? total workers).getD 1

end SelectionOptions

/-- Cuts a list into pieces of the given length; the last may be shorter. -/
def chunks {α : Type} (size : Nat) (list : List α) : List (List α) :=
  if list.isEmpty ∨ size = 0 then []
  else list.take size :: chunks size (list.drop size)
termination_by list.length
decreasing_by
  rename_i h
  have nonempty : list ≠ [] := fun e => h (.inl (by simp [e]))
  have := List.length_pos_iff.2 nonempty
  simp only [List.length_drop]
  omega

/-- Checks every text, chunk by chunk; one row for each text, in order. -/
def QuerySet.select (set : QuerySet) (options : SelectionOptions) (workers : Nat)
    (texts : List String) : List CheckRow :=
  (chunks (options.chunkLenFor texts.length workers) texts).flatMap fun chunk => chunk.map set.check

end TextQuery
