import TextQuery.CommandLine.Help
import TextQuery.CommandLine.Invocation
import TextQuery.Report.Configuration
import TextQuery.Report.Evaluation
import TextQuery.Report.Outline

/-!
# The program

A run of the program as a function of its arguments, its environment and the files. It ends with a
status, what it prints, and the files as it leaves them.
-/
set_option autoImplicit false

namespace TextQuery

open Command (CommandError ConfigError)
open CommandLine (ConfigView Halt Invocation Request)
open Files (Change FileTree Path)

structure Environment where
  /-- The variables that are set. -/
  bindings : List (String × String)
  /-- The number of processors. -/
  cpus : Nat
  /-- The home directory of the account, for want of a variable that names it. -/
  accountHome : Option Path

/-- What a run of the program comes to. -/
structure Outcome where
  status : Nat
  output : String
  errors : String
deriving DecidableEq

namespace Environment

def get? (environment : Environment) (name : String) : Option String :=
  environment.bindings.lookup name

def home? (environment : Environment) : Option Path :=
  match environment.get? "HOME" with
  | some home => if home.isEmpty then environment.accountHome else some (.ofString home)
  | none => environment.accountHome

/-- The path of the configuration: the one that is set, or the usual one in the directory for
configurations, or in the home directory. -/
def configPath (environment : Environment) : Except ConfigError Path :=
  match environment.get? "POSTSIFT_CONFIG", environment.get? "XDG_CONFIG_HOME",
      environment.home? with
  | some path, _, _ => .ok (.ofString path)
  | none, some dir, _ => .ok (((Path.ofString dir).joinName "postsift").joinName "config.toml")
  | none, none, some home =>
    .ok (((home.joinName ".config").joinName "postsift").joinName "config.toml")
  | none, none, none => .error .noLocation

end Environment

namespace Program

/-- The configuration together with the path at which it was looked for. -/
def loadConfig (environment : Environment) (tree : FileTree) : Except CommandError (Config × Path) :=
  match environment.configPath with
  | .error error => .error (.config error)
  | .ok path =>
    match Config.load tree path with
    | .error error => .error (.config error)
    | .ok config => .ok (config, path)

/-- JSON on a line of its own if it is wanted, otherwise text unless the program is to be quiet. -/
def present (invocation : Invocation) (json text : String) : String :=
  if invocation.json then json ++ "\n" else if invocation.quiet then "" else text

/-- Carries out a request. The value is what is printed. -/
def perform (invocation : Invocation) (environment : Environment) : Change CommandError String := do
  let tree ← get
  let colors := !invocation.noColor && (environment.get? "NO_COLOR").isNone
  match invocation.request with
  | .overview => return if invocation.quiet then "" else CommandLine.overviewText
  | .completions shell => return CommandLine.completionScript shell
  | .parse query =>
    match Query.parse query with
    | .error error => throw (.query error)
    | .ok condition =>
      return present invocation (Report.queryJson query condition)
        (Report.treeText condition invocation.verbose colors)
  | .eval query text =>
    match Evaluation.run query text with
    | .error error => throw (.query error)
    | .ok evaluation =>
      return present invocation (Report.evaluationJson evaluation)
        (Report.evaluationText evaluation invocation.verbose colors)
  | .check request =>
    match loadConfig environment tree with
    | .error error => throw error
    | .ok (config, _) =>
      let summary ← Command.check config request environment.cpus
      return present invocation (Report.summaryJson summary) (Report.summaryTable summary colors)
  | .config (some .path) =>
    match environment.configPath with
    | .error error => throw (.config error)
    | .ok path =>
      return if invocation.json then Report.locationJson none path (tree.contains path) ++ "\n"
        else path.toString ++ "\n"
  | .config _ =>
    match loadConfig environment tree with
    | .error error => throw error
    | .ok (config, path) =>
      let there := tree.contains path
      return present invocation (Report.locationJson (some config) path there)
        (Report.configText config path there colors environment.cpus)

def errorText (invocation : Invocation) (error : CommandError) : String :=
  if invocation.json then
    (Json.object [("error", .object [
      ("code", .string error.code), ("message", .string error.message)])]).render ++ "\n"
  else "Error: " ++ error.message ++ "\n"

/-- The status after arguments that are not understood. -/
def usageStatus : Nat := 2

def run (arguments : List String) (environment : Environment) (tree : FileTree) : Outcome × FileTree :=
  match Invocation.parse arguments with
  | .error .help => (⟨0, CommandLine.helpText, ""⟩, tree)
  | .error (.version path) => (⟨0, CommandLine.versionText path, ""⟩, tree)
  | .error (.usage error) => (⟨usageStatus, "", "error: " ++ error.message ++ "\n"⟩, tree)
  | .ok invocation =>
    match perform invocation environment tree with
    | .ok output changed => (⟨0, output, ""⟩, changed)
    | .error error changed => (⟨error.status, "", errorText invocation error⟩, changed)

end Program

end TextQuery
