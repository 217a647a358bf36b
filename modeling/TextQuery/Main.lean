import TextQuery.Program

/-!
# The program on a machine

The files that a run may look at are read into a tree, the run is computed, and what it changed in the
tree is carried out on the machine.
-/
set_option autoImplicit false

namespace TextQuery.Main

open Command (CheckRequest)
open CommandLine (Invocation)
open Files (Entry FileTree Location Path)

/-! ## Reading -/

/-- The path under which the machine knows a place. -/
def pathOf (place : Location) : String :=
  let join (names : List Files.Name) := "/".intercalate (names.map String.ofList)
  match place with
  | [] => "."
  | first :: names => if first = ['/'] then "/" ++ join names else join place

/-- The result of an action that may fail. -/
def attempt {α : Type} (action : IO α) : IO (Option α) := do
  try return some (← action) catch _ => return none

def listDirectory (path : String) : IO (List String) := do
  let entries ← ((← IO.currentDir) / path).readDir
  return entries.toList.map (·.fileName)

/-- Adds what is at a place, and for a directory what is in it if `deep` is set. -/
partial def loadPlace (deep : Bool) (tree : FileTree) (place : Location) : IO FileTree := do
  match ← attempt (listDirectory (pathOf place)) with
  | some names =>
    let tree := if place.isGiven then tree else tree.put place .directory
    if deep then
      names.foldlM (fun tree name => loadPlace true tree (place ++ [name.toList])) tree
    else return tree
  | none =>
    match ← attempt (IO.FS.readBinFile (pathOf place)) with
    | some content => return tree.put place (.file content.toList)
    | none => return tree

/-- Adds the places along a path. -/
def loadPath (deep : Bool) (tree : FileTree) (path : Path) : IO FileTree := do
  let (tree, place) ← path.parts.foldlM (fun (tree, place) part => do
    return (← loadPlace false tree place, Location.enter place part)) (tree, Location.startOf path)
  loadPlace deep tree place

/-- Adds the backups of a path. -/
partial def loadBackups (tree : FileTree) (path : Path) (index : Nat) : IO FileTree := do
  let tree ← loadPath true tree (path.backup index)
  if tree.contains (path.backup index) then loadBackups tree path (index + 1) else return tree

/-- Adds what a check reads and writes. -/
def loadCheck (config : Config) (request : CheckRequest) (tree : FileTree) : IO FileTree := do
  let tree ← request.names.foldlM (fun tree name =>
    loadPath false tree (Command.queryPath config.paths.queryDir name)) tree
  let tree ← match request.input with
    | some input => loadPath false tree input
    | none => loadPath true tree config.paths.inputDir
  let input := request.input <|> (Command.firstInput tree config.paths.inputDir).toOption
  let output := request.output <|> input.map (Command.resultPath config.paths.resultsDir)
  match output with
  | some output => loadBackups (← loadPath true tree output) output 1
  | none => return tree

def load (invocation : Invocation) (environment : Environment) : IO FileTree := do
  match environment.configPath with
  | .error _ => return .empty
  | .ok path =>
    let tree ← loadPath false .empty path
    match invocation.request, Config.load tree path with
    | .check request, .ok config => loadCheck config request tree
    | _, _ => return tree

/-! ## Writing -/

/-- Removes what is no longer there, the innermost places first. -/
def removeMissing (before after : FileTree) : IO Unit := do
  let gone := before.entries.filter fun (place, entry) => after.get? place != some entry
  for (place, entry) in gone.mergeSort fun a b => b.1.length ≤ a.1.length do
    match entry with
    | .file _ => if (after.get? place).isNone then IO.FS.removeFile (pathOf place)
    | .directory => IO.FS.removeDir (pathOf place)

/-- Writes what is new, the outermost places first. -/
def writeChanged (before after : FileTree) : IO Unit := do
  let new := after.entries.filter fun (place, entry) => before.get? place != some entry
  for (place, entry) in new.mergeSort fun a b => a.1.length ≤ b.1.length do
    match entry with
    | .file content => IO.FS.writeBinFile (pathOf place) ⟨content.toArray⟩
    | .directory => IO.FS.createDir (pathOf place)

/-! ## Running -/

/-- The number of processors that the machine lists. -/
def countProcessors : IO Nat := do
  match ← attempt (IO.FS.lines "/proc/cpuinfo") with
  | some lines => return (lines.filter (·.startsWith "processor")).size
  | none => return 1

def readEnvironment : IO Environment := do
  let names := ["POSTSIFT_CONFIG", "XDG_CONFIG_HOME", "HOME", "NO_COLOR"]
  let bindings ← names.filterMapM fun name => do
    return (← IO.getEnv name).map fun value => (name, value)
  return ⟨bindings, ← countProcessors, none⟩

end TextQuery.Main

open TextQuery in
def main (arguments : List String) : IO UInt32 := do
  let environment ← Main.readEnvironment
  let before ← match CommandLine.Invocation.parse arguments with
    | .ok invocation => Main.load invocation environment
    | .error _ => pure Files.FileTree.empty
  let (outcome, after) := Program.run arguments environment before
  Main.removeMissing before after
  Main.writeChanged before after
  IO.print outcome.output
  IO.eprint outcome.errors
  return UInt32.ofNat outcome.status
