import TextQuery.Files.Tree

/-!
# The first file of a directory
-/
set_option autoImplicit false

namespace TextQuery.Files

/-- Order of names by their characters, as the bytes of the names are ordered. -/
def nameLe : Name → Name → Bool
  | [], _ => true
  | _ :: _, [] => false
  | a :: as, b :: bs => a < b || (a = b && nameLe as bs)

/-- A file that a listing may leave out: its name starts with a dot. -/
def isHidden (name : Name) : Bool := name.head? = some '.'

/-- The first file in a directory by name. Hidden files and directories do not count. -/
def FileTree.firstFile? (tree : FileTree) (dir : Path) : Except FileError (Option Path) := do
  let names ← tree.list dir
  let paths := (names.mergeSort nameLe).filter fun name => !isHidden name
  return (paths.map fun name => dir.join ⟨name⟩).find? fun path => (tree.read path).toOption.isSome

end TextQuery.Files
