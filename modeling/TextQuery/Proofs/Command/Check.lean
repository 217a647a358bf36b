import TextQuery.Command.Check
import TextQuery.Proofs.Command.ResultTable
import TextQuery.Proofs.QuerySet
import TextQuery.Proofs.Selection

/-!
# What a check writes

A check reads its queries and its input, and everything it writes and reports follows from what it read
(`Outcome`): one row for each record with the answer of each query on that record alone. Nothing depends on
how the records are shared among workers (`outcome_of_check`).
-/
set_option autoImplicit false

namespace TextQuery.Command

open Delimited
open Files (Change FileTree Machine Path bind_eq_ok)
open Query (Condition)

variable {config : Config} {request : CheckRequest} {cpus : Nat} {tree after : FileTree}
  {machine : Machine} {dir : Path} {names : List String} {set : QuerySet}

/-! ## Queries -/

/-- The query of a name is in its file and parses to the condition. -/
def Asks (tree : FileTree) (dir : Path) (name : String) (condition : Condition) : Prop :=
  ∃ query, readQuery .reliable tree dir name = .ok query ∧ Query.parse query = .ok condition

/-- What is read on any machine is read on one that does not fail. -/
theorem readQuery_reliable {name query : String} (read : readQuery machine tree dir name = .ok query) :
    readQuery .reliable tree dir name = .ok query := by
  rw [readQuery] at read
  split at read
  · rename_i text found
    have found := seqRight_eq_ok found
    rw [readQuery, found]
    exact read
  · contradiction

theorem readQueries_reliable {seen : List String} {queries : List (String × String)}
    (run : readQueries machine tree dir seen names = .ok queries) :
    readQueries .reliable tree dir seen names = .ok queries := by
  induction names generalizing seen queries with
  | nil => exact run
  | cons name rest ih =>
    rw [readQueries] at run ⊢
    split at run
    · contradiction
    · rename_i fresh
      obtain ⟨query, read, run⟩ := bind_eq_ok.mp run
      obtain ⟨others, later, run⟩ := bind_eq_ok.mp run
      rw [if_neg fresh, readQuery_reliable read, ← run]
      exact bind_eq_ok.mpr ⟨query, rfl, bind_eq_ok.mpr ⟨others, ih later, rfl⟩⟩

theorem readQueries_ok {seen : List String} {queries : List (String × String)}
    (run : readQueries .reliable tree dir seen names = .ok queries) :
    List.Forall₂ (fun name query => query.1 = name ∧ readQuery .reliable tree dir name = .ok query.2)
      names queries := by
  induction names generalizing seen queries with
  | nil =>
    obtain rfl := Except.ok.inj run
    exact .nil
  | cons name rest ih =>
    rw [readQueries] at run
    split at run
    · contradiction
    · obtain ⟨query, read, run⟩ := bind_eq_ok.mp run
      obtain ⟨others, later, run⟩ := bind_eq_ok.mp run
      obtain rfl := Except.ok.inj run
      exact .cons ⟨rfl, read⟩ (ih later)

theorem asks_of_parsedAs {queries : List (String × String)} {entries : List (String × Condition)}
    (read : List.Forall₂ (fun name query => query.1 = name ∧ readQuery .reliable tree dir name = .ok query.2)
      names queries) (parsed : List.Forall₂ QuerySet.ParsedAs queries entries) :
    entries.map Prod.fst = names ∧ List.Forall₂ (Asks tree dir) names (entries.map Prod.snd) := by
  induction read generalizing entries with
  | nil =>
    cases parsed
    exact ⟨rfl, .nil⟩
  | cons first _ ih =>
    cases parsed with
    | cons same others =>
      obtain ⟨sameNames, asks⟩ := ih others
      obtain ⟨rfl, found⟩ := first
      refine ⟨?_, .cons ⟨_, found, same.2⟩ asks⟩
      rw [List.map_cons, same.1, sameNames]

theorem loadQueries_reliable (run : loadQueries machine tree dir names = .ok set) :
    loadQueries .reliable tree dir names = .ok set := by
  rw [loadQueries] at run ⊢
  split at run
  · contradiction
  · rename_i filled
    obtain ⟨queries, read, run⟩ := bind_eq_ok.mp run
    rw [if_neg filled, readQueries_reliable read]
    exact run

theorem loadQueries_ok (run : loadQueries .reliable tree dir names = .ok set) :
    names ≠ [] ∧ set.names = names ∧
      List.Forall₂ (Asks tree dir) names (set.entries.map Prod.snd) := by
  rw [loadQueries] at run
  split at run
  · contradiction
  · rename_i filled
    obtain ⟨queries, read, run⟩ := bind_eq_ok.mp run
    split at run
    · rename_i parsed
      obtain rfl := Except.ok.inj run
      obtain ⟨same, asks⟩ := asks_of_parsedAs (readQueries_ok read) (QuerySet.parseAll_ok parsed)
      exact ⟨fun empty => filled (by rw [empty]; rfl), same, asks⟩
    · contradiction

/-! ## Classification -/

/-- The input that was asked for, or the first file of the input directory. -/
def chosenInputOn (machine : Machine) (config : Config) (request : CheckRequest) (tree : FileTree) :
    Except CommandError Path :=
  match request.input with
  | some path => .ok path
  | none => firstInputOn machine tree config.paths.inputDir

def chosenInput (config : Config) (request : CheckRequest) (tree : FileTree) : Except CommandError Path :=
  chosenInputOn .reliable config request tree

theorem firstInput_of_firstInputOn {input : Path} (found : firstInputOn machine tree dir = .ok input) :
    firstInput tree dir = .ok input := by
  rw [firstInputOn] at found
  split at found
  · contradiction
  · rename_i file listed
    obtain ⟨_, -, found⟩ := bind_eq_ok.mp found
    rw [firstInput, firstInputOn, show tree.firstFile? dir = .ok file from seqRight_eq_ok listed]
    exact found

theorem chosenInput_of_chosenInputOn {input : Path} (chosen : chosenInputOn machine config request tree = .ok input) :
    chosenInput config request tree = .ok input := by
  rw [chosenInputOn] at chosen
  rw [chosenInput, chosenInputOn]
  cases asked : request.input with
  | some path =>
    rw [asked] at chosen
    exact chosen
  | none =>
    rw [asked] at chosen
    exact firstInput_of_firstInputOn chosen

/-- The output that was asked for, or the result file that goes with the input. -/
def chosenOutput (config : Config) (request : CheckRequest) (input : Path) : Path :=
  request.output.getD (resultPath config.paths.resultsDir input)

/-- What a check reads. -/
structure Reads (config : Config) (request : CheckRequest) (tree : FileTree) (set : QuerySet)
    (input : Path) (file : RecordFile) (records : List Record) : Prop where
  loaded : loadQueries .reliable tree config.paths.queryDir request.names = .ok set
  chosen : chosenInput config request tree = .ok input
  opened : RecordFile.openAt tree input = .ok file
  read : file.records 0 = .ok records

/-- What is to be written after that. -/
def classified (config : Config) (request : CheckRequest) (cpus : Nat) (set : QuerySet) (input : Path)
    (file : RecordFile) (records : List Record) : Classification where
  input := input
  output := chosenOutput config request input
  workers := (config.run.selectionOptions request.workers).workerCount cpus
  layout := ⟨file.textHeader, file.fieldHeaders, set.names, request.keepText || config.run.keepText⟩
  records := records
  rows := records.map fun record => set.check record.text

theorem classify_eq (machine : Machine) (config : Config) (request : CheckRequest) (cpus : Nat)
    (tree : FileTree) :
    classify machine config request cpus tree = (do
      let set ← loadQueries machine tree config.paths.queryDir request.names
      let input ← chosenInputOn machine config request tree
      let file ← RecordFile.openOn machine tree input
      let records ← file.recordsOn machine tree 0
      let workers := (config.run.selectionOptions request.workers).workerCount cpus
      (machine.allows (.startWorkers workers) tree).mapError .access
      return classified config request cpus set input file records) := by
  simp only [classify, chosenInputOn, classified, QuerySet.select_eq_map, List.map_map]
  cases request.input with
  | none => rfl
  | some path => rfl

theorem reads_of_classify {classification : Classification}
    (run : classify machine config request cpus tree = .ok classification) :
    ∃ set input file records, Reads config request tree set input file records ∧
      classification = classified config request cpus set input file records := by
  rw [classify_eq] at run
  obtain ⟨set, loaded, run⟩ := bind_eq_ok.mp run
  obtain ⟨input, chosen, run⟩ := bind_eq_ok.mp run
  obtain ⟨file, opened, run⟩ := bind_eq_ok.mp run
  obtain ⟨records, read, run⟩ := bind_eq_ok.mp run
  obtain ⟨_, -, run⟩ := bind_eq_ok.mp run
  exact ⟨set, input, file, records,
    ⟨loadQueries_reliable loaded, chosenInput_of_chosenInputOn chosen, RecordFile.openAt_of_openOn opened,
      RecordFile.records_of_recordsOn read⟩, (Except.ok.inj run).symm⟩

theorem Reads.classify {input : Path} {file : RecordFile} {records : List Record}
    (reads : Reads config request tree set input file records) (cpus : Nat) :
    Command.classify .reliable config request cpus tree =
      .ok (classified config request cpus set input file records) := by
  rw [classify_eq, reads.loaded, bind_eq_ok]
  refine ⟨set, rfl, bind_eq_ok.mpr ⟨input, reads.chosen, bind_eq_ok.mpr ⟨file, reads.opened, ?_⟩⟩⟩
  rw [RecordFile.recordsOn_of_openAt reads.opened, reads.read]
  rfl

/-! ## Runs -/

theorem checkOn_of_refused (cpus : Nat) {error : CommandError}
    (refused : classify machine config request cpus tree = .error error) :
    checkOn machine config request cpus tree = .error error tree := by
  rw [checkOn, Change.get_bind, refused]
  rfl

theorem checkOn_of_classified {classification : Classification}
    (classified : classify machine config request cpus tree = .ok classification) :
    checkOn machine config request cpus tree =
      (do
        writeResultsOn machine classification.output classification.table config.run.backupCount
        return classification.summary : Change CommandError Summary) tree := by
  rw [checkOn, Change.get_bind, classified]

theorem checkOn_ok {summary : Summary} (run : checkOn machine config request cpus tree = .ok summary after) :
    ∃ classification, classify machine config request cpus tree = .ok classification ∧
      writeResultsOn machine classification.output classification.table config.run.backupCount tree =
        .ok () after ∧
      summary = classification.summary := by
  cases classified : classify machine config request cpus tree with
  | error error =>
    rw [checkOn_of_refused cpus classified] at run
    contradiction
  | ok classification =>
    rw [checkOn_of_classified classified] at run
    obtain ⟨_, written, wrote, run⟩ := Change.bind_ok run
    cases run
    exact ⟨classification, rfl, wrote, rfl⟩

/-- The letter with which a condition answers on a text. -/
def answer (condition : Condition) (text : String) : String :=
  if condition.holds (Text.Normal.ofString text) then "Y" else "N"

/-- The row of a record: its text if texts are kept, its fields, and the answers on its text. -/
def resultRow (keepText : Bool) (conditions : List Condition) (record : Record) : List String :=
  (if keepText then [record.text] else []) ++ record.fields ++
    conditions.map fun condition => answer condition record.text

theorem verdicts_check (set : QuerySet) (text : String) :
    (set.check text).verdicts =
      (set.entries.map Prod.snd).map fun condition => .ofBool (condition.holds (.ofString text)) := by
  simp [QuerySet.check, QuerySet.checkNormal, CheckRow.verdicts]

theorem letter_ofBool (condition : Condition) (text : String) :
    (Verdict.ofBool (condition.holds (.ofString text))).letter.toString = answer condition text := by
  rw [answer]
  cases condition.holds (.ofString text) <;> decide

theorem row_check (layout : ResultLayout) (record : Record) (set : QuerySet) :
    layout.row record (set.check record.text) =
      resultRow layout.keepText (set.entries.map Prod.snd) record := by
  rw [ResultLayout.row, resultRow, verdicts_check, List.map_map]
  congr 1
  exact List.map_congr_left fun condition _ => letter_ofBool condition record.text

theorem table_classified (config : Config) (request : CheckRequest) (cpus : Nat) (set : QuerySet)
    (input : Path) (file : RecordFile) (records : List Record) :
    (classified config request cpus set input file records).table =
      (classified config request cpus set input file records).layout.header ::
        records.map (resultRow (request.keepText || config.run.keepText) (set.entries.map Prod.snd)) := by
  rw [Classification.table, ResultLayout.table, classified]
  dsimp only
  rw [List.zipWith_map_right, List.zipWith_self]
  congr 1
  exact List.map_congr_left fun record _ => row_check _ record set

theorem hits_check (set : QuerySet) (records : List Record) (place : Nat) (condition : Condition)
    (found : (set.entries.map Prod.snd)[place]? = some condition) :
    Classification.hits (records.map fun record => set.check record.text) place =
      (records.map fun record => answer condition record.text).count "Y" := by
  rw [Classification.hits, List.countP_map, List.count_eq_countP, List.countP_map]
  apply List.countP_congr
  intro record _
  have verdict : (set.check record.text).verdicts[place]? =
      some (.ofBool (condition.holds (.ofString record.text))) := by
    rw [verdicts_check, List.getElem?_map, found]
    rfl
  rw [Function.comp_apply, Function.comp_apply, verdict, answer]
  cases condition.holds (.ofString record.text) <;> decide

theorem queries_classified {input : Path} {file : RecordFile} {records : List Record}
    (config : Config) (request : CheckRequest) (cpus : Nat) (set : QuerySet) :
    (classified config request cpus set input file records).summary.queries =
      List.zipWith
        (fun name condition => ⟨name, (records.map fun record => answer condition record.text).count "Y"⟩)
        set.names (set.entries.map Prod.snd) := by
  apply List.ext_getElem?
  intro place
  rw [Classification.summary, classified]
  dsimp only
  rw [List.getElem?_mapIdx, List.getElem?_zipWith', QuerySet.names, List.getElem?_map, List.getElem?_map]
  cases found : set.entries[place]? with
  | none => rfl
  | some entry =>
    have hits := hits_check set records place entry.2 (by rw [List.getElem?_map, found]; rfl)
    simp only [Option.map_some, Option.bind_some, hits]

/-! ## Outcomes -/

/-- Whether the rows of results repeat the texts. -/
def keepsText (config : Config) (request : CheckRequest) : Bool :=
  request.keepText || config.run.keepText

def resultHeader (config : Config) (request : CheckRequest) (file : RecordFile) : List String :=
  (if keepsText config request then [file.textHeader] else []) ++ file.fieldHeaders ++ request.names

/-- The file of a path holds the table, in its bytes and as it is read. -/
structure HoldsTable (tree : FileTree) (path : Path) (table : List (List String)) : Prop where
  bytes : tree.read path = .ok (encodeTable (.ofPath path) table)
  cells : cellsOf? (.ofPath path) (encodeTable (.ofPath path) table) = some table

/-- What a check that ended well comes to: the queries ask by the conditions, the records are those of the
input, the output holds a row for each of them, and the summary counts the rows and their letters. -/
structure Outcome (config : Config) (request : CheckRequest) (tree after : FileTree) (summary : Summary)
    (conditions : List Condition) (input : Path) (file : RecordFile) (records : List Record) : Prop where
  asks : List.Forall₂ (Asks tree config.paths.queryDir) request.names conditions
  chosen : chosenInput config request tree = .ok input
  opened : RecordFile.openAt tree input = .ok file
  read : file.records 0 = .ok records
  holds : HoldsTable after (chosenOutput config request input)
    (resultHeader config request file :: records.map (resultRow (keepsText config request) conditions))
  paths : summary.input = input.toString ∧
    summary.output = (chosenOutput config request input).toString
  rows : summary.rows = records.length
  queries : summary.queries = List.zipWith
    (fun name condition => ⟨name, (records.map fun record => answer condition record.text).count "Y"⟩)
    request.names conditions

variable {input : Path} {file : RecordFile} {records : List Record}

theorem holdsTable_of_writeResults {path : Path} {table : List (List String)} {backups : Nat}
    (nonempty : ∀ row ∈ table, row ≠ []) (run : writeResults path table backups tree = .ok () after) :
    HoldsTable after path table := by
  obtain ⟨place, found⟩ := find_of_writeResultsOn run
  exact ⟨Files.FileTree.read_of_find found, cellsOf?_encodeTable _ nonempty⟩

theorem Reads.asked (reads : Reads config request tree set input file records) :
    set.entries.map Prod.snd ≠ [] := by
  obtain ⟨named, -, asks⟩ := loadQueries_ok reads.loaded
  intro empty
  rw [empty, List.forall₂_nil_right_iff] at asks
  exact named asks

theorem Reads.outcome (reads : Reads config request tree set input file records)
    (wrote : writeResults (chosenOutput config request input)
      (classified config request cpus set input file records).table config.run.backupCount tree =
        .ok () after) :
    Outcome config request tree after (classified config request cpus set input file records).summary
      (set.entries.map Prod.snd) input file records := by
  obtain ⟨named, names, asks⟩ := loadQueries_ok reads.loaded
  have header : (classified config request cpus set input file records).layout.header =
      resultHeader config request file := by
    rw [classified, ResultLayout.header, resultHeader, names]
    rfl
  have nonempty : ∀ row ∈ resultHeader config request file ::
      records.map (resultRow (keepsText config request) (set.entries.map Prod.snd)), row ≠ [] := by
    refine List.forall_mem_cons.mpr ⟨by simp [resultHeader, named], ?_⟩
    intro row member
    obtain ⟨record, -, rfl⟩ := List.mem_map.mp member
    simp [resultRow, List.map_eq_nil_iff.not.mp reads.asked]
  rw [table_classified, header] at wrote
  refine ⟨asks, reads.chosen, reads.opened, reads.read, holdsTable_of_writeResults nonempty wrote,
    ⟨rfl, rfl⟩, ?_, ?_⟩
  · simp [Classification.summary, classified]
  · rw [queries_classified, names]

theorem Reads.check (reads : Reads config request tree set input file records)
    (wrote : writeResults (chosenOutput config request input)
      (classified config request cpus set input file records).table config.run.backupCount tree =
        .ok () after) :
    Command.check config request cpus tree =
      .ok (classified config request cpus set input file records).summary after := by
  rw [Command.check, checkOn_of_classified (reads.classify cpus)]
  exact Change.bind_of_ok wrote

/-- What ended well on any machine was read and written as on one that does not fail. -/
theorem exists_reads_of_checkOn {summary : Summary}
    (run : checkOn machine config request cpus tree = .ok summary after) :
    ∃ set input file records, Reads config request tree set input file records ∧
      writeResults (chosenOutput config request input)
        (classified config request cpus set input file records).table config.run.backupCount tree =
          .ok () after ∧
      summary = (classified config request cpus set input file records).summary := by
  obtain ⟨classification, classifies, wrote, rfl⟩ := checkOn_ok run
  obtain ⟨set, input, file, records, reads, rfl⟩ := reads_of_classify classifies
  exact ⟨set, input, file, records, reads, refines_writeResultsOn machine _ _ _ tree () after wrote, rfl⟩

/-- A check that ends well, whatever the machine, has written one row for each record of its input, in order, with
the answers of its queries in the order of their names, and it reports these rows and their letters. How the
records were shared among workers makes no difference to what is written and counted. -/
theorem outcome_of_check {summary : Summary}
    (run : checkOn machine config request cpus tree = .ok summary after) :
    (∃ conditions input file records,
      Outcome config request tree after summary conditions input file records) ∧
      ∀ (workers requestWorkers : Option Nat) (chunkLen cpuDivideCount otherCpus : Nat), ∃ pool,
        check { config with run := { config.run with workers, chunkLen, cpuDivideCount } }
          { request with workers := requestWorkers } otherCpus tree =
            .ok { summary with workers := pool } after := by
  obtain ⟨set, input, file, records, reads, wrote, rfl⟩ := exists_reads_of_checkOn run
  refine ⟨⟨_, input, file, records, reads.outcome wrote⟩, ?_⟩
  intro workers requestWorkers chunkLen cpuDivideCount otherCpus
  have same : Reads { config with run := { config.run with workers, chunkLen, cpuDivideCount } }
      { request with workers := requestWorkers } tree set input file records :=
    ⟨reads.loaded, reads.chosen, reads.opened, reads.read⟩
  exact ⟨_, same.check wrote⟩

/-- Two queries, and an input in which the first record has a field less than the header. -/
def sampleTree : FileTree := ⟨[
  (["queries".toList], .directory),
  (["queries".toList, "lens.txt".toList], .file (Bytes.ofString "lens*\n")),
  (["queries".toList, "old.txt".toList], .file (Bytes.ofString "old")),
  (["posts.csv".toList], .file (Bytes.ofString "text,id\nlens\nold lens,1\n"))]⟩

def sampleRequest : CheckRequest :=
  ⟨["lens", "old"], some (.ofString "posts.csv"), some (.ofString "out.csv"), some 2, false⟩

theorem exists_check_sample :
    ∃ summary after, check .default sampleRequest 1 sampleTree = .ok summary after :=
  Change.exists_of_succeeded (by decide +kernel)

theorem outcome_of_check_sample :
    ∃ summary after, check .default sampleRequest 1 sampleTree = .ok summary after ∧
      (∃ conditions input file records,
        Outcome .default sampleRequest sampleTree after summary conditions input file records) ∧
      ∃ pool, check { Config.default with run := { RunSettings.default with chunkLen := 1 } }
        { sampleRequest with workers := some 3 } 1 sampleTree = .ok { summary with workers := pool } after := by
  obtain ⟨summary, after, run⟩ := exists_check_sample
  obtain ⟨outcome, others⟩ := outcome_of_check run
  exact ⟨summary, after, run, outcome, others none (some 3) 1 2 1⟩

end TextQuery.Command
