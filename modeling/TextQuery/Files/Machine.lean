import TextQuery.Files.Tree

/-!
# Machines

A tree says what an operation on files comes to where the machine carries it out. The machine may refuse
any operation: rights are missing, a device is full or broken, there are too many threads. An operation
that is refused does nothing, except that a file that was being written may be cut off.
-/
set_option autoImplicit false

namespace TextQuery.Files

/-- What a machine is asked to do. -/
inductive Operation
  | openDirectory (path : Path)
  | listDirectory (path : Path)
  /-- Files may be opened and read again; `turn` counts how often. -/
  | openFile (path : Path) (turn : Nat)
  | readFile (path : Path) (turn : Nat)
  | makeDirectory (start : Location) (parts : List Name)
  | remove (path : Path)
  | rename (source target : Path)
  | copy (source target : Path)
  /-- Opens a file to write it anew, and writes it. -/
  | write (path : Path) (content : Bytes)
  /-- Has a file that was written reach the device. -/
  | flush (path : Path) (content : Bytes)
  | startWorkers (count : Nat)

/-- How an operation failed. -/
structure Failure where
  message : String
  /-- The number of bytes in the file that was being written, if it was opened. -/
  written : Option Nat

structure Machine where
  /-- How the machine fails to do what the tree would let it do. -/
  failure? : Operation → FileTree → Option Failure

namespace Machine

/-- The machine that does everything it is asked to. -/
def reliable : Machine := ⟨fun _ _ => none⟩

/-- What comes of an operation that does not change the tree. -/
def allows (machine : Machine) (operation : Operation) (tree : FileTree) : Except FileError Unit :=
  match machine.failure? operation tree with
  | none => .ok ()
  | some failure => .error (.other failure.message)

end Machine

namespace FileTree

/-- What an operation makes of a tree. -/
def perform (tree : FileTree) : Operation → Except FileError FileTree
  | .makeDirectory start parts => tree.makeDirectory start parts
  | .remove path => tree.remove path
  | .rename source target => tree.rename source target
  | .copy source target => tree.copy source target
  | .write path content => tree.write path content
  | .openDirectory _ | .listDirectory _ | .openFile .. | .readFile .. | .flush .. | .startWorkers _ =>
    .ok tree

/-- The file that an operation writes, and what it is to hold. -/
def target? (tree : FileTree) : Operation → Option (Path × Bytes)
  | .copy source target => (tree.read source).toOption.map fun content => (target, content)
  | .write path content | .flush path content => some (path, content)
  | _ => none

/-- What an operation leaves that failed. A file that was opened holds the bytes that were written. -/
def interrupt (tree : FileTree) (operation : Operation) (written : Option Nat) : FileTree :=
  match tree.target? operation with
  | none => tree
  | some (path, content) =>
    match written with
    | none => tree
    | some count => (tree.write path (content.take count)).toOption.getD tree

end FileTree

end TextQuery.Files
