/-!
# Errors of file access
-/
set_option autoImplicit false

namespace TextQuery.Files

inductive FileError
  | notFound
  | alreadyExists
  | notADirectory
  | isADirectory
  /-- What is to be copied is not a file. -/
  | notAFile
  /-- A directory that is to be replaced is not empty. -/
  | notEmpty
  /-- The bytes of the file are not text. -/
  | notText
  /-- The machine refuses, for reasons of its own. -/
  | other (message : String)
deriving DecidableEq

namespace FileError

def message : FileError → String
  | notFound => "No such file or directory (os error 2)"
  | alreadyExists => "File exists (os error 17)"
  | notADirectory => "Not a directory (os error 20)"
  | isADirectory => "Is a directory (os error 21)"
  | notAFile => "the source path is neither a regular file nor a symlink to a regular file"
  | notEmpty => "Directory not empty (os error 39)"
  | notText => "stream did not contain valid UTF-8"
  | other message => message

end FileError

end TextQuery.Files
