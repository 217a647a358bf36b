import TextQuery.Proofs.Command.Check

/-!
# Columns of results

The header of a result file is as wide as the header of the input and the names of the queries, a row as
wide as its record and the letters. So the letters of a record stand under the names of their queries if
the record has as many fields as the header, and never if it has fewer (`lettersUnderNames_iff`).
-/
set_option autoImplicit false

namespace TextQuery.Command

open Files (FileTree Machine Path)
open Query (Condition)

variable {config : Config} {request : CheckRequest} {cpus : Nat} {machine : Machine}
  {tree after : FileTree} {file : RecordFile} {record : Record} {conditions : List Condition}

/-- The place of the first query name in the header of the results. -/
def firstNameColumn (config : Config) (request : CheckRequest) (file : RecordFile) : Nat :=
  (if keepsText config request then 1 else 0) + file.fieldHeaders.length

/-- In the row of a record, the cell under the name of each query is the letter of that query. -/
def LettersUnderNames (config : Config) (request : CheckRequest) (file : RecordFile)
    (conditions : List Condition) (record : Record) : Prop :=
  ∀ place condition, conditions[place]? = some condition →
    (resultRow (keepsText config request) conditions record)[firstNameColumn config request file + place]? =
      some (answer condition record.text)

/-- The fields fill the columns before the letters, and those that go beyond happen to repeat the letters
from their first on. -/
def Fits (width : Nat) (letters fields : List String) : Prop :=
  width ≤ fields.length ∧ letters <+: fields.drop width ++ letters

instance (width : Nat) (letters fields : List String) : Decidable (Fits width letters fields) :=
  inferInstanceAs (Decidable (_ ∧ _))

theorem fits_of_length_eq {width : Nat} {letters fields : List String} (same : fields.length = width) :
    Fits width letters fields := by
  refine ⟨Nat.le_of_eq same.symm, ?_⟩
  rw [List.drop_of_length_le (Nat.le_of_eq same), List.nil_append]

theorem getElem?_append_add {α : Type} (front rest : List α) (place : Nat) :
    (front ++ rest)[front.length + place]? = rest[place]? := by
  rw [List.getElem?_append_right (Nat.le_add_right _ _), Nat.add_sub_cancel_left]

theorem length_keptText (keepText : Bool) (text : String) :
    (if keepText then 1 else 0) = (if keepText then [text] else []).length := by
  cases keepText <;> rfl

theorem getElem?_resultHeader (config : Config) (request : CheckRequest) (file : RecordFile) (place : Nat) :
    (resultHeader config request file)[firstNameColumn config request file + place]? =
      request.names[place]? := by
  rw [resultHeader, firstNameColumn, length_keptText _ file.textHeader, List.append_assoc, Nat.add_assoc,
    getElem?_append_add, getElem?_append_add]

theorem getElem?_resultRow (config : Config) (request : CheckRequest) (file : RecordFile)
    (conditions : List Condition) (record : Record) (place : Nat) :
    (resultRow (keepsText config request) conditions record)[firstNameColumn config request file + place]? =
      ((record.fields ++ conditions.map fun condition => answer condition record.text).drop
        file.fieldHeaders.length)[place]? := by
  rw [resultRow, firstNameColumn, length_keptText _ record.text, List.append_assoc, Nat.add_assoc,
    getElem?_append_add, List.getElem?_drop]

theorem lettersUnderNames_iff_starts : LettersUnderNames config request file conditions record ↔
    (conditions.map fun condition => answer condition record.text) <+:
      (record.fields ++ conditions.map fun condition => answer condition record.text).drop
        file.fieldHeaders.length := by
  rw [List.prefix_iff_getElem?]
  constructor
  · intro under place inside
    rw [List.length_map] at inside
    rw [← getElem?_resultRow config request, List.getElem_map]
    exact under place conditions[place] (List.getElem?_eq_getElem inside)
  · intro starts place condition found
    obtain ⟨inside, rfl⟩ := List.getElem?_eq_some_iff.mp found
    rw [getElem?_resultRow, starts place (by rwa [List.length_map]), List.getElem_map]

theorem lettersUnderNames_iff (asked : conditions ≠ []) :
    LettersUnderNames config request file conditions record ↔
      Fits file.fieldHeaders.length (conditions.map fun condition => answer condition record.text)
        record.fields := by
  rw [lettersUnderNames_iff_starts, Fits]
  by_cases wide : file.fieldHeaders.length ≤ record.fields.length
  · rw [List.drop_append_of_le_length wide]
    simp [wide]
  · constructor
    · intro starts
      -- with a field too few there is no cell for the last letter
      have short := starts.length_le
      have some_letter := List.length_pos_iff.mpr asked
      simp only [List.length_drop, List.length_append, List.length_map] at short
      omega
    · intro fits
      exact absurd fits.1 wide

/-- After a check that ends well the header of the output names the queries from some column on. The letters
of a record stand under these names if it has as many fields as the header of the input; in general, exactly
if its fields fit in front of them. -/
theorem letters_in_columns_iff {summary : Summary}
    (run : checkOn machine config request cpus tree = .ok summary after) :
    ∃ conditions input file records,
      Outcome config request tree after summary conditions input file records ∧
      (∀ place, (resultHeader config request file)[firstNameColumn config request file + place]? =
        request.names[place]?) ∧
      ∀ record ∈ records,
        (record.fields.length = file.fieldHeaders.length →
          LettersUnderNames config request file conditions record) ∧
        (LettersUnderNames config request file conditions record ↔
          Fits file.fieldHeaders.length (conditions.map fun condition => answer condition record.text)
            record.fields) := by
  obtain ⟨set, input, file, records, reads, wrote, rfl⟩ := exists_reads_of_checkOn run
  refine ⟨_, input, file, records, reads.outcome wrote, getElem?_resultHeader config request file, ?_⟩
  intro record _
  refine ⟨fun same => ?_, lettersUnderNames_iff reads.asked⟩
  exact (lettersUnderNames_iff reads.asked).mpr (fits_of_length_eq same)

theorem letters_in_columns_iff_sample :
    ∃ summary after, check .default sampleRequest 1 sampleTree = .ok summary after ∧
      ∃ conditions input file records,
        Outcome .default sampleRequest sampleTree after summary conditions input file records ∧
        (∀ place, (resultHeader .default sampleRequest file)[
          firstNameColumn .default sampleRequest file + place]? = sampleRequest.names[place]?) ∧
        ∀ record ∈ records,
          (record.fields.length = file.fieldHeaders.length →
            LettersUnderNames .default sampleRequest file conditions record) ∧
          (LettersUnderNames .default sampleRequest file conditions record ↔
            Fits file.fieldHeaders.length (conditions.map fun condition => answer condition record.text)
              record.fields) := by
  obtain ⟨summary, after, run⟩ := exists_check_sample
  exact ⟨summary, after, run, letters_in_columns_iff run⟩

/-- The first record of the sample has no field in front of its letters, where the header has one. -/
theorem letters_beside_names :
    ∃ summary after conditions input file records,
      check .default sampleRequest 1 sampleTree = .ok summary after ∧
      Outcome .default sampleRequest sampleTree after summary conditions input file records ∧
      ∃ record ∈ records, ¬ LettersUnderNames .default sampleRequest file conditions record := by
  obtain ⟨summary, after, run⟩ := exists_check_sample
  obtain ⟨set, input, file, records, reads, wrote, rfl⟩ := exists_reads_of_checkOn run
  have outcome := reads.outcome wrote
  obtain rfl : input = .ofString "posts.csv" := (Except.ok.inj reads.chosen).symm
  have input_records : (RecordFile.openAt sampleTree (.ofString "posts.csv")).toOption.any (fun file =>
      file.fieldHeaders.length = 1 ∧ (file.records 0).toOption = some [⟨"lens", []⟩, ⟨"old lens", ["1"]⟩]) =
        true := by
    decide +kernel
  rw [reads.opened] at input_records
  obtain ⟨width, found⟩ : file.fieldHeaders.length = 1 ∧
      (file.records 0).toOption = some [⟨"lens", []⟩, ⟨"old lens", ["1"]⟩] :=
    of_decide_eq_true input_records
  rw [reads.read] at found
  refine ⟨_, after, _, _, file, records, run, outcome, ⟨"lens", []⟩, ?_, ?_⟩
  · rw [Option.some.inj found]
    exact List.mem_cons_self
  · rw [lettersUnderNames_iff reads.asked, width]
    exact fun fits => absurd fits.1 (by decide)

end TextQuery.Command
