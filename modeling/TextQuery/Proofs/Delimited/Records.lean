import TextQuery.Delimited.Writer

/-!
# Reading what was written

Reading undoes writing: written records are read one by one, each with its fields as they were
(`fields_readRecords`). A record without fields has no written form of its own, so records are taken to
have at least one.
-/
set_option autoImplicit false

namespace TextQuery.Delimited

variable {delimiter : Delimiter} {field rest unread : Bytes} {others : List Field}

/-! ## Fields -/

theorem readFields_delimiter {state : FieldState} (outside : state ≠ .quoted) (rest : Bytes) :
    readFields delimiter state (delimiter.byte :: rest) =
      (readFields delimiter .atStart rest).prependField := by
  have noQuote : delimiter.byte ≠ quoteByte := by cases delimiter <;> decide
  cases state with
  | quoted => contradiction
  | atStart | unquoted | afterQuote => simp [readFields, noQuote]

theorem readFields_newline {state : FieldState} (outside : state ≠ .quoted) (rest : Bytes) :
    readFields delimiter state (newline :: rest) = ⟨[[]], rest⟩ := by
  have noQuote : newline ≠ quoteByte := by decide
  have noDelimiter : newline ≠ delimiter.byte := by cases delimiter <;> decide
  have ends : isTerminator newline = true := by decide
  cases state with
  | quoted => contradiction
  | atStart | unquoted | afterQuote => simp [readFields, noQuote, noDelimiter, ends]

/-- The bytes end the field they follow, unless they stand in quotes; `others` are the fields behind it. -/
def EndsField (delimiter : Delimiter) (bytes : Bytes) (others : List Field) (unread : Bytes) : Prop :=
  ∀ state, state ≠ .quoted → readFields delimiter state bytes = ⟨[] :: others, unread⟩

theorem readFields_opening (bytes : Bytes) :
    readFields delimiter .atStart (quoteByte :: bytes) = readFields delimiter .quoted bytes := by
  simp [readFields]

theorem readFields_unquoted (plain : needsQuotes delimiter field = false)
    (ends : EndsField delimiter rest others unread) :
    readFields delimiter .unquoted (field ++ rest) = ⟨field :: others, unread⟩ := by
  induction field with
  | nil => exact ends .unquoted (by decide)
  | cons byte field ih =>
    simp only [needsQuotes, List.any_cons, Bool.or_eq_false_iff, decide_eq_false_iff_not, not_or] at plain
    obtain ⟨⟨noDelimiter, noQuote, continues⟩, plain⟩ := plain
    simp [readFields, noDelimiter, noQuote, continues, ih plain, ReadRecord.prepend]

theorem readFields_doubleQuotes (field : Field) (ends : EndsField delimiter rest others unread) :
    readFields delimiter .quoted (doubleQuotes field ++ quoteByte :: rest) =
      ⟨field :: others, unread⟩ := by
  induction field with
  | nil =>
    simp only [doubleQuotes, List.flatMap_nil, List.nil_append, readFields, if_true]
    exact ends .afterQuote (by decide)
  | cons byte field ih =>
    rw [doubleQuotes] at ih
    by_cases quote : byte = quoteByte
    · subst quote
      simp [doubleQuotes, readFields, ih, ReadRecord.prepend]
    · simp [doubleQuotes, quote, readFields, ih, ReadRecord.prepend]

theorem readFields_writeField (field : Field) (ends : EndsField delimiter rest others unread) :
    readFields delimiter .atStart (writeField delimiter field ++ rest) = ⟨field :: others, unread⟩ := by
  rw [writeField]
  by_cases quotes : needsQuotes delimiter field = true
  · rw [if_pos quotes, List.cons_append, List.cons_append, readFields_opening, List.append_assoc]
    exact readFields_doubleQuotes field ends
  · rw [if_neg quotes]
    cases field with
    | nil => exact ends .atStart (by decide)
    | cons byte field =>
      -- after its first byte the field is read as any unquoted field
      have begins : readFields delimiter .atStart (byte :: field ++ rest) =
          readFields delimiter .unquoted (byte :: field ++ rest) := by
        simp only [needsQuotes, List.any_cons] at quotes
        have noQuote : byte ≠ quoteByte := by
          rintro rfl
          simp at quotes
        simp [readFields, noQuote]
      rw [begins]
      exact readFields_unquoted (Bool.eq_false_iff.mpr quotes) ends

theorem writeFields_cons (field : Field) (nonempty : others ≠ []) :
    writeFields delimiter (field :: others) =
      writeField delimiter field ++ delimiter.byte :: writeFields delimiter others := by
  cases others with
  | nil => contradiction
  | cons next others => rfl

theorem readFields_writeFields {fields : List Field} (nonempty : fields ≠ []) (rest : Bytes) :
    readFields delimiter .atStart (writeFields delimiter fields ++ newline :: rest) = ⟨fields, rest⟩ := by
  induction fields with
  | nil => contradiction
  | cons field others ih =>
    cases others with
    | nil => exact readFields_writeField field fun _ outside => readFields_newline outside rest
    | cons next others =>
      rw [writeFields_cons field (List.cons_ne_nil _ _), List.append_assoc, List.cons_append]
      apply readFields_writeField field
      intro state outside
      rw [readFields_delimiter outside, ih (List.cons_ne_nil _ _), ReadRecord.prependField]

/-! ## Records -/

theorem eq_of_writeFields_eq_nil {fields : List Field} (nonempty : fields ≠ [])
    (blank : writeFields delimiter fields = []) : fields = [[]] := by
  cases fields with
  | nil => contradiction
  | cons field others =>
    cases others with
    | nil =>
      rw [writeFields, writeField] at blank
      split at blank
      · contradiction
      · rw [blank]
    | cons next others =>
      rw [writeFields_cons field (List.cons_ne_nil _ _)] at blank
      simp at blank

theorem not_isTerminator_of_writeFields {fields : List Field} {byte : UInt8} {more : Bytes}
    (starts : writeFields delimiter fields = byte :: more) : isTerminator byte = false := by
  have quoteStays : isTerminator quoteByte = false := by decide
  have delimiterStays : isTerminator delimiter.byte = false := by cases delimiter <;> decide
  have fieldStays : ∀ (field : Field) (rest : Bytes), writeField delimiter field ++ rest = byte :: more →
      isTerminator byte = false ∨ rest = byte :: more := by
    intro field rest starts
    rw [writeField] at starts
    split at starts
    · cases starts
      exact Or.inl quoteStays
    · rename_i plain
      cases field with
      | nil => exact Or.inr starts
      | cons first field =>
        obtain ⟨rfl, -⟩ := List.cons.inj starts
        simp only [needsQuotes, List.any_cons, Bool.or_eq_true, decide_eq_true_eq, not_or] at plain
        exact Or.inl (Bool.eq_false_iff.mpr plain.1.2.2)
  cases fields with
  | nil => contradiction
  | cons field others =>
    cases others with
    | nil =>
      rw [writeFields] at starts
      rcases fieldStays field [] (by rw [List.append_nil, starts]) with stays | absent
      · exact stays
      · contradiction
    | cons next others =>
      rw [writeFields_cons field (List.cons_ne_nil _ _)] at starts
      rcases fieldStays field _ starts with stays | next
      · exact stays
      · cases next
        exact delimiterStays

theorem readRecord?_cons {byte : UInt8} (stays : isTerminator byte = false) (more : Bytes) :
    readRecord? delimiter (byte :: more) = some (readFields delimiter .atStart (byte :: more)) := by
  simp [readRecord?, stays]

theorem readRecord?_writeRecord {fields : List Field} (nonempty : fields ≠ []) (rest : Bytes) :
    readRecord? delimiter (writeRecord delimiter fields ++ rest) = some ⟨fields, rest⟩ := by
  have read := @readFields_writeFields delimiter fields nonempty rest
  unfold writeRecord
  cases line : writeFields delimiter fields with
  | nil =>
    have ends : EndsField delimiter (newline :: rest) [] rest :=
      fun _ outside => readFields_newline outside rest
    rw [eq_of_writeFields_eq_nil nonempty line]
    dsimp only [List.cons_append, List.nil_append]
    rw [readRecord?_cons (by decide), readFields_opening]
    exact congrArg some (readFields_doubleQuotes [] ends)
  | cons byte more =>
    rw [line, List.cons_append] at read
    rw [List.append_assoc, List.singleton_append, List.cons_append,
      readRecord?_cons (not_isTerminator_of_writeFields line), read]

theorem readRecords_of_none {bytes : Bytes} (blank : readRecord? delimiter bytes = none) :
    readRecords delimiter bytes = [] := by
  rw [readRecords]
  split
  · rfl
  · simp_all

theorem readRecords_of_some {bytes : Bytes} {record : ReadRecord}
    (read : readRecord? delimiter bytes = some record) :
    readRecords delimiter bytes = record :: readRecords delimiter record.unread := by
  rw [readRecords]
  split
  · simp_all
  · simp_all

/-- Reading written records gives their fields. -/
theorem fields_readRecords {records : List (List Field)} (nonempty : ∀ fields ∈ records, fields ≠ []) :
    (readRecords delimiter (writeRecords delimiter records)).map ReadRecord.fields = records := by
  induction records with
  | nil =>
    rw [readRecords_of_none]
    · rfl
    · rfl
  | cons fields records ih =>
    obtain ⟨filled, nonempty⟩ := List.forall_mem_cons.mp nonempty
    rw [writeRecords, List.flatMap_cons, readRecords_of_some (readRecord?_writeRecord filled _)]
    exact congrArg (List.cons fields) (ih nonempty)

end TextQuery.Delimited
