import TextQuery.Files.Path

/-!
# Delimiters

What separates the fields of a delimited file: a tab in files with one of three extensions, otherwise a
comma. The other bytes that mean something between fields are the same in every file.
-/
set_option autoImplicit false

namespace TextQuery.Delimited

inductive Delimiter
  | comma
  | tab
deriving DecidableEq

namespace Delimiter

def byte : Delimiter → UInt8
  | comma => 0x2C
  | tab => 0x09

/-- The extensions of tab-separated files, in lower case. -/
def tabExtensions : List Files.Name :=
  [['t', 'x', 't'], ['t', 's', 'v'], ['r', 'a', 'w', 'd', 'a', 't', 'a']]

/-- The delimiter of the file that a path leads to. ASCII letters in the extension may be in upper or
lower case. -/
def ofPath (path : Files.Path) : Delimiter :=
  match path.extension? with
  | some extension => if extension.map Char.toLower ∈ tabExtensions then tab else comma
  | none => comma

end Delimiter

/-- The byte around a quoted field. -/
def quoteByte : UInt8 := 0x22

def newline : UInt8 := 0x0A

def carriageReturn : UInt8 := 0x0D

/-- A byte that ends a record. -/
def isTerminator (byte : UInt8) : Bool := byte = newline ∨ byte = carriageReturn

end TextQuery.Delimited
