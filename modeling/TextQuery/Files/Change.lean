import TextQuery.Files.Machine

/-!
# Changes of file trees

A change is a sequence of operations on a tree that ends with the first error; what was done before the
error stays done.
-/
set_option autoImplicit false

namespace TextQuery.Files

/-- Work on a tree that ends in a value or an error, and either way with a tree. -/
abbrev Change (ε α : Type) := EStateM ε FileTree α

namespace Change

/-- The same work with another type of errors. -/
def mapError {ε ε' α : Type} (f : ε → ε') (change : Change ε α) : Change ε' α := fun tree =>
  match change tree with
  | .ok value changed => .ok value changed
  | .error error changed => .error (f error) changed

end Change

namespace Machine

variable (machine : Machine)

/-- A single operation. The tree decides first whether it can be done, and then the machine. -/
def perform (operation : Operation) : Change FileError Unit := fun tree =>
  match tree.perform operation with
  | .error cause => .error cause tree
  | .ok changed =>
    match machine.failure? operation tree with
    | none => .ok () changed
    | some failure => .error (.other failure.message) (tree.interrupt operation failure.written)

/-- What making a directory comes to if a directory may be there already. -/
def allowDirectory (start : Location) (parts : List Name) (error : FileError) :
    Change FileError Unit := fun tree =>
  match tree.walk start parts with
  | .ok place => if tree.get? place = some .directory then .ok () tree else .error error tree
  | .error _ => .error error tree

/-- Makes a directory in one that is there, unless it is there as well. -/
def ensureDirectory (start : Location) (parts : List Name) : Change FileError Unit :=
  tryCatch (machine.perform (.makeDirectory start parts)) (allowDirectory start parts)

/-- Makes the directory at the end of some names, which are given from the last to the first, and if it
has nowhere to stand the directories above it before. -/
def createDirectories (start : Location) : List Name → Change FileError Unit
  | [] => pure ()
  | name :: above => fun tree =>
    let parts := (name :: above).reverse
    match machine.perform (.makeDirectory start parts) tree with
    | .ok _ changed => .ok () changed
    | .error .notFound unchanged =>
      (do
        createDirectories start above
        machine.ensureDirectory start parts) unchanged
    | .error error unchanged => allowDirectory start parts error unchanged

/-- Makes the directory that the file of a path is to stand in. -/
def createParent (path : Path) : Change FileError Unit :=
  machine.createDirectories (.startOf path) path.names.reverse.tail

end Machine

namespace Change

/-! ## Changes on a machine that does not fail -/

def remove (path : Path) : Change FileError Unit := Machine.reliable.perform (.remove path)

def write (path : Path) (content : Bytes) : Change FileError Unit :=
  Machine.reliable.perform (.write path content)

def createDirectories (start : Location) (names : List Name) : Change FileError Unit :=
  Machine.reliable.createDirectories start names

def createParent (path : Path) : Change FileError Unit := Machine.reliable.createParent path

end Change

end TextQuery.Files
