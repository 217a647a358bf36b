import TextQuery.Proofs.Files.Backup
import TextQuery.Proofs.Files.Change

/-!
# Stages of a rotation

A rotation removes the oldest backups one by one, moves the others up by one, the last first, and copies the
file. What is there in between follows from which backups were removed and which were moved (`moveSource`), and
nothing is changed but backups (`Rearranged`). On any machine a rotation that fails has stopped at one of these
stages (`Stopped`), and one that ends well went through all of them (`Rotated`).
-/
set_option autoImplicit false

namespace TextQuery.Files

variable {before tree after : FileTree} {path : Path} {place : Location} {content : Bytes}
  {index limit : Nat} {cause : FileError}

/-- The backup that stands under a number once those from `limit` to before `gone` are removed. -/
def removalSource (limit gone index : Nat) : Option Nat :=
  if limit ≤ index ∧ index < gone then none else some index

/-- The backup that stands under a number once besides those behind `kept`, up to `last`, are moved up by one. -/
def moveSource (limit gone last kept index : Nat) : Option Nat :=
  if kept + 1 < index ∧ index ≤ last + 1 then some (index - 1)
  else if index = kept + 1 ∧ kept < last then none
  else removalSource limit gone index

/-- Under each number stands the backup that the numbers say, with everything below it, and what is no backup
is as it was. -/
structure Rearranged (before after : FileTree) (path : Path) (source : Nat → Option Nat) : Prop where
  backups : ∀ index rest, after.get? (path.backupPlace index ++ rest) =
    (source index).bind fun number => before.get? (path.backupPlace number ++ rest)
  others : ∀ place, (∀ index, ¬ path.backupPlace index <+: place) → after.get? place = before.get? place

namespace Rearranged

variable {source : Nat → Option Nat}

theorem refl (tree : FileTree) (path : Path) : Rearranged tree tree path some := ⟨fun _ _ => rfl, fun _ _ => rfl⟩

theorem get?_backup (moved : Rearranged before after path source) (index : Nat) :
    after.get? (path.backupPlace index) =
      (source index).bind fun number => before.get? (path.backupPlace number) := by
  simpa using moved.backups index []

theorem get?_location (moved : Rearranged before after path source) :
    after.get? path.location = before.get? path.location :=
  moved.others _ path.backupPlace_not_prefix_location

theorem erase (moved : Rearranged before tree path source) (gone : Nat) :
    Rearranged before (tree.erase (path.backupPlace gone)) path
      fun index => if index = gone then none else source index where
  backups := by
    intro index rest
    rw [tree.get?_erase (path.isGiven_backupPlace gone)]
    by_cases same : index = gone
    · rw [if_pos same, same, if_pos (List.prefix_append _ _)]
      rfl
    · rw [if_neg same, if_neg fun inside => same (Path.prefix_backupPlace_append inside).symm,
        moved.backups]
  others := by
    intro place beside
    rw [tree.get?_erase (path.isGiven_backupPlace gone), if_neg (beside gone), moved.others place beside]

theorem move (moved : Rearranged before tree path source) {number target : Nat} (differs : number ≠ target) :
    Rearranged before (tree.move (path.backupPlace number) (path.backupPlace target)) path
      fun index => if index = target then source number else if index = number then none else source index where
  backups := by
    intro index rest
    have apart : ¬ path.backupPlace number <+: path.backupPlace target := Path.backupPlace_apart differs
    have beside : ¬ path.backupPlace target <+: path.backupPlace number := Path.backupPlace_apart (Ne.symm differs)
    by_cases atTarget : index = target
    · rw [if_pos atTarget, atTarget, tree.get?_move_target (path.isGiven_backupPlace number)
        (path.isGiven_backupPlace target) beside apart, moved.backups]
    · rw [if_neg atTarget]
      by_cases atSource : index = number
      · rw [if_pos atSource, atSource, tree.get?_move_source (path.isGiven_backupPlace number) beside apart]
        rfl
      · rw [if_neg atSource, tree.get?_move_of_apart
          (fun inside => atSource (Path.prefix_backupPlace_append inside).symm)
          (fun inside => atTarget (Path.prefix_backupPlace_append inside).symm), moved.backups]
  others := by
    intro place beside
    rw [tree.get?_move_of_apart (beside number) (beside target), moved.others place beside]

end Rearranged

/-! ## Stages -/

/-- The number of backups that a rotation moves. -/
def movedCount (tree : FileTree) (path : Path) (limit : Nat) : Nat := min (tree.backupCount path) (limit - 1)

/-- The backups from `limit` to before `gone` are removed. -/
def Removed (before after : FileTree) (path : Path) (limit gone : Nat) : Prop :=
  Rearranged before after path (removalSource limit gone)

/-- The oldest backups are removed, and those behind `kept` are moved up. -/
def Shifted (before after : FileTree) (path : Path) (limit kept : Nat) : Prop :=
  Rearranged before after path
    (moveSource limit (before.backupCount path + 1) (movedCount before path limit) kept)

theorem Removed.start (tree : FileTree) (path : Path) (limit : Nat) : Removed tree tree path limit limit := by
  have nothing : removalSource limit limit = some := by
    funext index
    rw [removalSource, if_neg (by omega)]
  rw [Removed, nothing]
  exact .refl tree path

theorem Removed.erase {gone : Nat} (removed : Removed before tree path limit gone) (wanted : limit ≤ gone) :
    Removed before (tree.erase (path.backupPlace gone)) path limit (gone + 1) := by
  have next : removalSource limit (gone + 1) =
      fun index => if index = gone then none else removalSource limit gone index := by
    funext index
    rw [removalSource, removalSource]
    split_ifs <;> first | rfl | omega
  rw [Removed, next]
  exact Rearranged.erase removed gone

/-- When nothing more is to be removed, nothing is moved yet. -/
theorem Removed.shifted {gone : Nat} (removed : Removed before tree path limit gone)
    (all : gone = max limit (before.backupCount path + 1)) :
    Shifted before tree path limit (movedCount before path limit) := by
  have unmoved : moveSource limit (before.backupCount path + 1) (movedCount before path limit)
      (movedCount before path limit) = removalSource limit gone := by
    funext index
    rw [moveSource, if_neg (by omega), if_neg (by omega), removalSource, removalSource]
    split_ifs <;> first | rfl | omega
  rw [Shifted, unmoved]
  exact removed

theorem Shifted.move {kept : Nat} (shifted : Shifted before tree path limit (kept + 1))
    (counted : kept + 1 ≤ movedCount before path limit) :
    Shifted before (tree.move (path.backupPlace (kept + 1)) (path.backupPlace (kept + 2))) path limit kept := by
  have below : kept + 1 < limit := by
    rw [movedCount] at counted
    omega
  have next : moveSource limit (before.backupCount path + 1) (movedCount before path limit) kept = fun index =>
      if index = kept + 2 then
        moveSource limit (before.backupCount path + 1) (movedCount before path limit) (kept + 1) (kept + 1)
      else if index = kept + 1 then none
      else moveSource limit (before.backupCount path + 1) (movedCount before path limit) (kept + 1) index := by
    have unmoved : moveSource limit (before.backupCount path + 1) (movedCount before path limit) (kept + 1)
        (kept + 1) = some (kept + 1) := by
      rw [moveSource, if_neg (by omega), if_neg (by omega), removalSource, if_neg (by omega)]
    funext index
    rw [unmoved, moveSource, moveSource]
    split_ifs <;> first | rfl | omega | exact congrArg some (by omega)
  rw [Shifted, next]
  exact Rearranged.move shifted (by omega)

/-! ## Operations on backups -/

namespace Machine

open Change

variable {machine : Machine}

theorem perform_remove_backup (run : machine.perform (.remove (path.backup index)) tree = .ok () after) :
    after = tree.erase (path.backupPlace index) :=
  FileTree.remove_eq_ok (perform_ok run)

theorem perform_rename_backup {target : Nat} (differs : index ≠ target)
    (run : machine.perform (.rename (path.backup index) (path.backup target)) tree = .ok () after) :
    after = tree.move (path.backupPlace index) (path.backupPlace target) := by
  have elsewhere : path.backupPlace target ≠ path.backupPlace index := fun same =>
    differs (Path.backupPlace_prefix_inj (by rw [same]))
  exact FileTree.rename_eq_ok elsewhere (perform_ok run)

theorem perform_copy_error (target : Path) (run : machine.perform (.copy path target) tree = .error cause after) :
    after = tree ∨ ∃ content count, tree.get? path.location = some (.file content) ∧
      after = tree.put target.location (.file (content.take count)) := by
  cases read : tree.read path with
  | error error =>
    refine .inl (perform_error_of_target?_none ?_ run)
    rw [FileTree.target?, read]
    rfl
  | ok content =>
    have written : tree.target? (.copy path target) = some (target, content) := by
      rw [FileTree.target?, read]
      rfl
    rcases perform_error_of_target? written run with same | ⟨count, same⟩
    · exact .inl same
    · exact .inr ⟨content, count, FileTree.get?_of_read read, same⟩

/-! ## Rotations -/

/-- Removal takes one backup after another away, and where it stops the next one could not be removed. -/
theorem removeFrom_stages (machine : Machine) {first : Nat} (removed : Removed before tree path limit first)
    (wanted : limit ≤ first) (count : Nat) :
    (∀ after, (List.range' first count).forM (fun index => machine.perform (.remove (path.backup index))) tree =
        .ok () after → Removed before after path limit (first + count)) ∧
      ∀ cause after, (List.range' first count).forM
          (fun index => machine.perform (.remove (path.backup index))) tree = .error cause after →
        ∃ gone, first ≤ gone ∧ gone < first + count ∧ Removed before after path limit gone ∧
          machine.perform (.remove (path.backup gone)) after = .error cause after := by
  induction count generalizing first tree with
  | zero =>
    constructor
    · intro after run
      cases run
      exact removed
    · intro cause after run
      cases run
  | succ count ih =>
    rw [List.range'_succ]
    constructor
    · intro after run
      obtain ⟨_, middle, start, rest⟩ := bind_ok run
      obtain rfl := perform_remove_backup start
      have later := (ih (removed.erase wanted) (by omega)).1 after rest
      rwa [Nat.add_right_comm] at later
    · intro cause after run
      rcases bind_error run with stopped | ⟨_, middle, start, rest⟩
      · obtain rfl := perform_error_of_target?_none rfl stopped
        exact ⟨first, le_rfl, by omega, removed, stopped⟩
      · obtain rfl := perform_remove_backup start
        obtain ⟨gone, low, high, later, stopped⟩ := (ih (removed.erase wanted) (by omega)).2 cause after rest
        exact ⟨gone, by omega, by omega, later, stopped⟩

/-- Moving goes down from the last backup, and where it stops the next one could not be moved. -/
theorem shiftBackups_stages (machine : Machine) {kept : Nat} (shifted : Shifted before tree path limit kept)
    (counted : kept ≤ movedCount before path limit) :
    (∀ after, machine.shiftBackups path kept tree = .ok () after → Shifted before after path limit 0) ∧
      ∀ cause after, machine.shiftBackups path kept tree = .error cause after →
        ∃ number, 0 < number ∧ number ≤ kept ∧ Shifted before after path limit number ∧
          machine.perform (.rename (path.backup number) (path.backup (number + 1))) after =
            .error cause after := by
  induction kept generalizing tree with
  | zero =>
    constructor
    · intro after run
      cases run
      exact shifted
    · intro cause after run
      cases run
  | succ kept ih =>
    rw [shiftBackups]
    constructor
    · intro after run
      obtain ⟨_, middle, start, rest⟩ := bind_ok run
      obtain rfl := perform_rename_backup (by omega) start
      exact (ih (shifted.move counted) (by omega)).1 after rest
    · intro cause after run
      rcases bind_error run with stopped | ⟨_, middle, start, rest⟩
      · obtain rfl := perform_error_of_target?_none rfl stopped
        exact ⟨kept + 1, by omega, le_rfl, shifted, stopped⟩
      · obtain rfl := perform_rename_backup (by omega) start
        obtain ⟨number, positive, below, later, stopped⟩ :=
          (ih (shifted.move counted) (by omega)).2 cause after rest
        exact ⟨number, positive, by omega, later, stopped⟩

end Machine

/-- A rotation that is wanted and has something to do. -/
def Due (tree : FileTree) (path : Path) (limit : Nat) : Prop := 0 < limit ∧ tree.contains path = true

/-- What a rotation leaves that stopped: the operation that failed is the next after those that were done. -/
inductive Stopped (machine : Machine) (before : FileTree) (path : Path) (limit : Nat) :
    FileError → FileTree → Prop
  | removing {gone : Nat} {cause : FileError} {after : FileTree} (wanted : limit ≤ gone)
      (counted : gone ≤ before.backupCount path) (removed : Removed before after path limit gone)
      (refused : machine.perform (.remove (path.backup gone)) after = .error cause after) :
      Stopped machine before path limit cause after
  | moving {kept : Nat} {cause : FileError} {after : FileTree} (positive : 0 < kept)
      (counted : kept ≤ movedCount before path limit) (shifted : Shifted before after path limit kept)
      (refused : machine.perform (.rename (path.backup kept) (path.backup (kept + 1))) after =
        .error cause after) :
      Stopped machine before path limit cause after
  | copying {cause : FileError} {shifted after : FileTree} (all : Shifted before shifted path limit 0)
      (refused : machine.perform (.copy path (path.backup 1)) shifted = .error cause after)
      (left : after = shifted ∨ ∃ content count, before.get? path.location = some (.file content) ∧
        after = shifted.put (path.backupPlace 1) (.file (content.take count))) :
      Stopped machine before path limit cause after

/-- What a rotation leaves that ended well. -/
inductive Rotated (before : FileTree) (path : Path) (limit : Nat) : FileTree → Prop
  | idle (nothing : ¬ Due before path limit) : Rotated before path limit before
  | done {content : Bytes} {shifted : FileTree} (due : Due before path limit)
      (file : before.get? path.location = some (.file content)) (all : Shifted before shifted path limit 0) :
      Rotated before path limit (shifted.put (path.backupPlace 1) (.file content))

namespace Machine

open Change

variable {machine : Machine}

theorem rotateBackups_of_not_due (machine : Machine) (nothing : ¬ Due before path limit) :
    machine.rotateBackups path limit before = .ok () before := by
  rw [rotateBackups, get_bind]
  split
  · rename_i due
    exact absurd due nothing
  · rfl

theorem rotateBackups_of_due (machine : Machine) (due : Due before path limit) :
    machine.rotateBackups path limit before =
      (do
        machine.removeBackups path limit (before.backupCount path)
        machine.shiftBackups path (movedCount before path limit)
        machine.perform (.copy path (path.backup 1)) : Change FileError Unit) before := by
  rw [rotateBackups, get_bind]
  split
  · rfl
  · rename_i nothing
    exact absurd due nothing

/-- A rotation on any machine goes through its stages up to the end or to the first operation that fails. -/
theorem rotateBackups_stages (machine : Machine) (before : FileTree) (path : Path) (limit : Nat) :
    (∀ after, machine.rotateBackups path limit before = .ok () after → Rotated before path limit after) ∧
      ∀ cause after, machine.rotateBackups path limit before = .error cause after →
        Due before path limit ∧ Stopped machine before path limit cause after := by
  by_cases due : Due before path limit
  · rw [rotateBackups_of_due machine due]
    obtain ⟨removal, removalStops⟩ := machine.removeFrom_stages (Removed.start before path limit) le_rfl
      (before.backupCount path + 1 - limit)
    constructor
    · intro after run
      obtain ⟨_, removed, first, run⟩ := bind_ok run
      obtain ⟨_, shifted, second, run⟩ := bind_ok run
      have all := (machine.shiftBackups_stages ((removal removed first).shifted (by omega)) le_rfl).1 shifted second
      obtain ⟨content, file, rfl⟩ := FileTree.copy_eq_ok (perform_ok run)
      exact .done due (all.get?_location.symm.trans file) all
    · intro cause after run
      refine ⟨due, ?_⟩
      rcases bind_error run with stopped | ⟨_, removed, first, run⟩
      · obtain ⟨gone, low, high, state, refused⟩ := removalStops cause after stopped
        exact .removing low (by omega) state refused
      · have shift := machine.shiftBackups_stages ((removal removed first).shifted (by omega)) le_rfl
        rcases bind_error run with stopped | ⟨_, shifted, second, run⟩
        · obtain ⟨kept, positive, counted, state, refused⟩ := shift.2 cause after stopped
          exact .moving positive counted state refused
        · have all := shift.1 shifted second
          refine .copying all run ?_
          rcases perform_copy_error (path.backup 1) run with same | ⟨content, count, file, same⟩
          · exact .inl same
          · exact .inr ⟨content, count, all.get?_location.symm.trans file, same⟩
  · rw [rotateBackups_of_not_due machine due]
    constructor
    · intro after run
      cases run
      exact .idle due
    · intro cause after run
      cases run

/-! ## Rotations that end well -/

theorem refines_shiftBackups (machine : Machine) (path : Path) (count : Nat) :
    (machine.shiftBackups path count).Refines (reliable.shiftBackups path count) := by
  induction count with
  | zero => exact .refl _
  | succ count ih => exact (machine.refines_perform _).bind fun _ => ih

theorem refines_rotateBackups (machine : Machine) (path : Path) (limit : Nat) :
    (machine.rotateBackups path limit).Refines (reliable.rotateBackups path limit) := by
  refine (Refines.refl get).bind fun tree => ?_
  split
  · exact (Refines.forM (fun _ => machine.refines_perform _) _).bind fun _ =>
      (machine.refines_shiftBackups path _).bind fun _ => machine.refines_perform _
  · exact .refl _

end Machine

end TextQuery.Files
