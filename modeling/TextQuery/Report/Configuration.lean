import TextQuery.Config
import TextQuery.Json
import TextQuery.Report.Style

/-!
# Reports on the configuration

The configuration with the path of its file, as text and as JSON. Members of the JSON stand in
alphabetical order.
-/
set_option autoImplicit false

namespace TextQuery.Report

open Files (Path)

def configJson (config : Config) : Json :=
  .object [
    ("paths", .object [
      ("input_dir", .string config.paths.inputDir.toString),
      ("query_dir", .string config.paths.queryDir.toString),
      ("results_dir", .string config.paths.resultsDir.toString)]),
    ("run", .object ([
      ("backup_count", .number config.run.backupCount),
      ("chunk_len", .number config.run.chunkLen),
      ("cpu_divide_count", .number config.run.cpuDivideCount),
      ("keep_text", .bool config.run.keepText)] ++
      (config.run.workers.map fun workers => ("workers", Json.number workers)).toList)),
    ("version", .number config.version)]

/-- The path of the configuration as JSON, together with the configuration if it is given. -/
def locationJson (config : Option Config) (path : Path) (there : Bool) : String :=
  (Json.object ((config.map fun config => ("config", configJson config)).toList ++ [
    ("exists", .bool there),
    ("path", .string path.toString)])).render

def settingLine (name value : String) : String := "  " ++ name ++ ": " ++ value ++ "\n"

/-- The number of workers, or on a machine with `cpus` processors the number that is derived. -/
def workersText (config : Config) (cpus : Nat) : String :=
  match config.run.workers with
  | some workers => toString workers
  | none => "auto (" ++ toString ((config.run.selectionOptions none).workerCount cpus) ++ ")"

def configText (config : Config) (path : Path) (there colors : Bool) (cpus : Nat) : String :=
  let header := "Configuration"
  (if colors then Style.bold.apply (Style.green.apply header) else header) ++ "\n\n" ++
  "File: " ++ path.toString ++ "\n" ++
  (if there then "" else "(No config file exists. Showing defaults.)\n") ++
  "\n[paths]\n" ++
  settingLine "query_dir" config.paths.queryDir.toString ++
  settingLine "input_dir" config.paths.inputDir.toString ++
  settingLine "results_dir" config.paths.resultsDir.toString ++
  "\n[run]\n" ++
  settingLine "cpu_divide_count" (toString config.run.cpuDivideCount) ++
  settingLine "workers" (workersText config cpus) ++
  settingLine "chunk_len" (toString config.run.chunkLen) ++
  settingLine "backup_count" (toString config.run.backupCount) ++
  settingLine "keep_text" (toString config.run.keepText)

end TextQuery.Report
