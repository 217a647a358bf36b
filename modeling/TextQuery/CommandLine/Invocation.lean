import TextQuery.CommandLine.Matches
import TextQuery.Command.Check

/-!
# Requests of the command line
-/
set_option autoImplicit false

namespace TextQuery.CommandLine

open Command (CheckRequest)
open Files (Path)

/-- What the configuration command shows. -/
inductive ConfigView
  | settings
  | path
deriving DecidableEq

inductive Request
  /-- No command was given. -/
  | overview
  | check (request : CheckRequest)
  | parse (query : String)
  | eval (query text : String)
  | config (view : Option ConfigView)
  | completions (shell : Shell)
deriving DecidableEq

structure Invocation where
  verbose : Bool
  quiet : Bool
  json : Bool
  noColor : Bool
  request : Request
deriving DecidableEq

namespace Matches

/-- The values of a setting, in the order in which they were given. -/
def valuesOf (matched : Matches) (setting : Setting) : List String :=
  (matched.settings.filter (·.1 = setting)).map Prod.snd

/-- The names of queries: those given on their own, then the columns, which commas separate. White space
around a name does not count, and names without characters are left out. -/
def names (matched : Matches) : List String :=
  let columns := (matched.valuesOf .columns).flatMap fun value => value.splitOn ","
  ((matched.places ++ columns).map fun name => String.ofList (Text.trim name.toList)).filter
    fun name => !name.isEmpty

def checkRequest (matched : Matches) : CheckRequest where
  names := matched.names
  input := (matched.valuesOf .input).head?.map Path.ofString
  output := (matched.valuesOf .output).head?.map Path.ofString
  workers := (matched.valuesOf .workers).head?.bind workers?
  keepText := .keepText ∈ matched.switches

/-- The request that a level makes with what was given there. -/
def request (matched : Matches) : Level → Request
  | .top => .overview
  | .check => .check matched.checkRequest
  | .parse => .parse (matched.places.getD 0 "")
  | .eval => .eval (matched.places.getD 0 "") (matched.places.getD 1 "")
  | .config => .config none
  | .configShow => .config (some .settings)
  | .configPath => .config (some .path)
  | .completions => .completions (((matched.places.head?).bind Shell.ofName?).getD .bash)

end Matches

/-- The invocation that the arguments of the program describe. -/
def Invocation.parse (arguments : List String) : Except Halt Invocation := do
  let (level, matched) ← readArguments arguments
  return {
    verbose := .verbose ∈ matched.switches
    quiet := .quiet ∈ matched.switches
    json := .json ∈ matched.switches
    noColor := .noColor ∈ matched.switches
    request := matched.request level }

end TextQuery.CommandLine
