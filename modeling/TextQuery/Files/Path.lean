import TextQuery.Text.Words

/-!
# Paths

A path is text in which slashes separate names. It is kept as it was given, and joined paths are shown
as they were joined; repeated slashes, a slash at the end and the name `.` make no difference to the
names of a path.
-/
set_option autoImplicit false

namespace TextQuery.Files

abbrev Name := List Char

structure Path where
  chars : List Char
deriving DecidableEq

namespace Path

def ofString (text : String) : Path := ⟨text.toList⟩

def toString (path : Path) : String := String.ofList path.chars

def isEmpty (path : Path) : Bool := path.chars.isEmpty

def isAbsolute (path : Path) : Bool := path.chars.head? = some '/'

/-- The path ends in a slash, and so can only be the path of a directory. -/
def endsInSlash (path : Path) : Bool := path.chars.getLast? = some '/'

/-- The parts between the slashes, from left to right. -/
def parts (path : Path) : List Name := Text.splitWords (· = '/') path.chars

/-- The parts that lead somewhere. -/
def names (path : Path) : List Name := path.parts.filter (· ≠ ['.'])

/-- The name of the file that the path leads to; a path that ends in `..` has none. -/
def fileName? (path : Path) : Option Name :=
  match path.names.getLast? with
  | some name => if name = ['.', '.'] then none else some name
  | none => none

/-- A name up to its last dot, and what follows the dot. A dot at the start of the name does not
count. -/
def splitName (name : Name) : Name × Option Name :=
  let extension := (name.reverse.takeWhile (· ≠ '.')).reverse
  let stem := (name.reverse.dropWhile (· ≠ '.')).reverse.dropLast
  if stem.isEmpty then (name, none) else (stem, some extension)

/-- The name of the file without its extension. -/
def stem (path : Path) : Name :=
  match path.fileName? with
  | some name => (splitName name).1
  | none => []

def extension? (path : Path) : Option Name :=
  path.fileName?.bind fun name => (splitName name).2

/-- The path that leads from the end of the first to where the second leads; an absolute path starts
anew. -/
def join (dir path : Path) : Path :=
  if path.isAbsolute ∨ dir.isEmpty then path
  else if dir.endsInSlash then ⟨dir.chars ++ path.chars⟩
  else ⟨dir.chars ++ '/' :: path.chars⟩

def joinName (dir : Path) (name : String) : Path := dir.join (ofString name)

end Path

end TextQuery.Files
