import TextQuery.Files.Change

/-!
# Numbered backups

The backups of a file stand beside it, under its path with a number: the newest is number one. Rotation
shifts them up by one, drops those beyond the limit, and copies the file to number one.
-/
set_option autoImplicit false

namespace TextQuery.Files

namespace Path

def backup (path : Path) (index : Nat) : Path := ⟨path.chars ++ '.' :: (Nat.repr index).toList⟩

end Path

/-- The number of backups of a path that are there without a gap. -/
def FileTree.backupCount (tree : FileTree) (path : Path) : Nat :=
  ((List.range tree.entries.length).takeWhile fun index =>
    tree.contains (path.backup (index + 1))).length

namespace Machine

variable (machine : Machine)

/-- Removes the backups from number `first` to number `last`. -/
def removeBackups (path : Path) (first last : Nat) : Change FileError Unit :=
  (List.range' first (last + 1 - first)).forM fun index => machine.perform (.remove (path.backup index))

/-- Moves the backups up by one, starting with number `count`. -/
def shiftBackups (path : Path) : (count : Nat) → Change FileError Unit
  | 0 => pure ()
  | count + 1 => do
    machine.perform (.rename (path.backup (count + 1)) (path.backup (count + 2)))
    shiftBackups path count

/-- Makes the file the first of at most `limit` backups. Nothing happens if there is no file, or if no
backups are wanted. -/
def rotateBackups (path : Path) (limit : Nat) : Change FileError Unit := do
  let tree ← get
  if 0 < limit ∧ tree.contains path then
    let count := tree.backupCount path
    machine.removeBackups path limit count
    machine.shiftBackups path (min count (limit - 1))
    machine.perform (.copy path (path.backup 1))

end Machine

/-- A rotation on a machine that does not fail. -/
def Change.rotateBackups (path : Path) (limit : Nat) : Change FileError Unit :=
  Machine.reliable.rotateBackups path limit

end TextQuery.Files
