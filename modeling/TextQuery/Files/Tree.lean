import TextQuery.Bytes
import TextQuery.Files.Error
import TextQuery.Files.Path

/-!
# File trees

A tree says which files and directories there are and what the files hold. Looking something up
follows the parts of a path from the working directory or from the root: each step leads out of a
directory, so a missing one and a file in the middle of a path are errors of their own. An operation
that fails leaves the tree as it was.
-/
set_option autoImplicit false

namespace TextQuery.Files

/-- A place in the tree: the names that lead to it from the working directory, or from the root, which
is then named first. Places above the working directory are named by `..`. -/
abbrev Location := List Name

namespace Location

def workingDirectory : Location := []

def root : Location := [['/']]

def parent (place : Location) : Location :=
  if place = root then root
  else if place.all (· = ['.', '.']) then place ++ [['.', '.']]
  else place.dropLast

/-- The place that a part of a path leads to. -/
def enter (place : Location) (part : Name) : Location :=
  if part = ['.'] then place
  else if part = ['.', '.'] then place.parent
  else place ++ [part]

/-- The directories that every tree has: the working directory, those above it, and the root. -/
def isGiven (place : Location) : Bool :=
  place = root ∨ place.all (· = ['.', '.'])

/-- Where a path sets out from. -/
def startOf (path : Path) : Location := if path.isAbsolute then root else workingDirectory

end Location

inductive Entry
  | file (content : Bytes)
  | directory
deriving DecidableEq

structure FileTree where
  /-- What there is besides the given directories, each place named once. -/
  entries : List (Location × Entry)

namespace FileTree

def empty : FileTree := ⟨[]⟩

def get? (tree : FileTree) (place : Location) : Option Entry :=
  if place.isGiven then some .directory else tree.entries.lookup place

/-- Takes away a place with everything below it. -/
def erase (tree : FileTree) (place : Location) : FileTree :=
  ⟨tree.entries.filter fun (here, _) => !place.isPrefixOf here⟩

/-- Puts a file or directory at a place, instead of what was there. -/
def put (tree : FileTree) (place : Location) (entry : Entry) : FileTree :=
  ⟨tree.entries.filter (·.1 ≠ place) ++ [(place, entry)]⟩

/-- Moves a place with everything below it, instead of what was at the target. -/
def move (tree : FileTree) (source target : Location) : FileTree :=
  ⟨(tree.erase target).entries.map fun (place, entry) =>
    (if source.isPrefixOf place then target ++ place.drop source.length else place, entry)⟩

/-! ## Following paths -/

/-- One step of a path. Only a directory can be left. -/
def step (tree : FileTree) (place : Location) (part : Name) : Except FileError Location :=
  match tree.get? place with
  | none => .error .notFound
  | some (.file _) => .error .notADirectory
  | some .directory => .ok (place.enter part)

/-- Where parts of a path lead; there need be nothing at the end. -/
def walk (tree : FileTree) (place : Location) (parts : List Name) : Except FileError Location :=
  parts.foldlM tree.step place

/-- Where a path leads. The empty path leads nowhere. -/
def locate (tree : FileTree) (path : Path) : Except FileError Location :=
  if path.isEmpty then .error .notFound else tree.walk (.startOf path) path.parts

/-- What a path leads to, and its place. -/
def find (tree : FileTree) (path : Path) : Except FileError (Location × Entry) := do
  let place ← tree.locate path
  match tree.get? place with
  | none => .error .notFound
  | some (.file content) =>
    if path.endsInSlash then .error .notADirectory else .ok (place, .file content)
  | some .directory => .ok (place, .directory)

def contains (tree : FileTree) (path : Path) : Bool := (tree.find path).toOption.isSome

def isDirectory (tree : FileTree) (path : Path) : Bool :=
  match tree.find path with
  | .ok (_, .directory) => true
  | _ => false

/-! ## Reading -/

def read (tree : FileTree) (path : Path) : Except FileError Bytes := do
  match ← tree.find path with
  | (_, .file content) => .ok content
  | (_, .directory) => .error .isADirectory

def readText (tree : FileTree) (path : Path) : Except FileError String := do
  match (← tree.read path).toString? with
  | some text => .ok text
  | none => .error .notText

def namesIn (tree : FileTree) (place : Location) : List Name :=
  tree.entries.filterMap fun (here, _) =>
    if here.length = place.length + 1 ∧ place.isPrefixOf here then here.getLast? else none

/-- The names in the directory that a path leads to. -/
def list (tree : FileTree) (path : Path) : Except FileError (List Name) := do
  match ← tree.find path with
  | (place, .directory) => .ok (tree.namesIn place)
  | (_, .file _) => .error .notADirectory

/-! ## Changing -/

/-- Writes a file, instead of the file that was there. -/
def write (tree : FileTree) (path : Path) (content : Bytes) : Except FileError FileTree := do
  let place ← tree.locate path
  if path.endsInSlash then .error .isADirectory
  else
    match tree.get? place with
    | some .directory => .error .isADirectory
    | _ => .ok (tree.put place (.file content))

def remove (tree : FileTree) (path : Path) : Except FileError FileTree := do
  match ← tree.find path with
  | (_, .directory) => .error .isADirectory
  | (place, .file _) => .ok (tree.erase place)

/-- Nothing is below the place. -/
def isBare (tree : FileTree) (place : Location) : Bool :=
  tree.entries.all fun (here, _) => here = place || !place.isPrefixOf here

/-- Moves a file, also onto another file, or a directory, also onto an empty one. -/
def rename (tree : FileTree) (source target : Path) : Except FileError FileTree := do
  let (place, entry) ← tree.find source
  let goal ← tree.locate target
  if goal = place then return tree
  else
    match entry, tree.get? goal with
    | .file _, some .directory => .error .isADirectory
    | .directory, some (.file _) => .error .notADirectory
    | .directory, some .directory =>
      if tree.isBare goal then .ok (tree.move place goal) else .error .notEmpty
    | _, _ => .ok (tree.move place goal)

def copy (tree : FileTree) (source target : Path) : Except FileError FileTree := do
  match ← tree.find source with
  | (_, .file content) => tree.write target content
  | (_, .directory) => .error .notAFile

/-- Makes the directory at the end of some parts, in a directory that exists. -/
def makeDirectory (tree : FileTree) (start : Location) (parts : List Name) :
    Except FileError FileTree := do
  let place ← tree.walk start parts
  match tree.get? place with
  | some _ => .error .alreadyExists
  | none => .ok (tree.put place .directory)

end FileTree

end TextQuery.Files
