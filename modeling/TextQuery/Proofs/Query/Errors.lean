import TextQuery.Query.Parser

/-!
# Errors of the parser

An error of the parser says that the query breaks the grammar or names a term of it that has no pattern. The test
for errors of the first kind is false for the second kind only, and then the pattern is missing
(`isInvalidQuery_of_parse`).
-/
set_option autoImplicit false

namespace TextQuery.Query

open Text (Word)

/-- What blames a term does so because the term has no pattern. -/
def Founded (error : QueryError) : Prop :=
  error.isInvalidQuery = false → ∃ term, error = .malformedTerm term ∧ Pattern.ofTerm? term = none

variable {groups : Groups} {error : QueryError}

theorem founded_of_isInvalidQuery (invalid : error.isInvalidQuery = true) : Founded error := by
  intro valid
  rw [invalid] at valid
  contradiction

theorem founded_of_parseTerm {words : List Word} (run : parseTerm words = .error error) : Founded error := by
  rw [parseTerm] at run
  split at run
  · contradiction
  · rename_i missing
    cases run
    exact fun _ => ⟨_, rfl, missing⟩

theorem founded_of_parseOperand {words : List Word} (run : parseOperand groups words = .error error) :
    Founded error := by
  rw [parseOperand] at run
  split at run
  · split at run
    · contradiction
    · cases run
      exact founded_of_isInvalidQuery rfl
  · split at run
    · cases run
      exact founded_of_isInvalidQuery rfl
    · split at run
      · contradiction
      · rename_i refused
        cases run
        exact founded_of_parseTerm refused

theorem founded_of_parseOperands {operands : List (List Word)}
    (run : parseOperands groups operands = .error error) : Founded error := by
  induction operands generalizing groups with
  | nil => contradiction
  | cons operand rest ih =>
    rw [parseOperands] at run
    split at run
    · rename_i refused
      cases run
      exact founded_of_parseOperand refused
    · split at run
      · rename_i refused
        cases run
        exact ih refused
      · contradiction

theorem founded_of_splitOperands {operator : Operator} {isSeparator : Word → Bool} {words : List Word}
    (run : splitOperands operator isSeparator words = .error error) : Founded error := by
  rw [splitOperands] at run
  split at run
  · cases run
    exact founded_of_isInvalidQuery rfl
  · contradiction

theorem founded_of_parseSplit {operator : Operator} {words : List Word}
    (run : parseSplit groups operator words = .error error) : Founded error := by
  rw [parseSplit] at run
  split at run
  · rename_i refused
    cases run
    exact founded_of_splitOperands refused
  · exact founded_of_parseOperands run

theorem founded_of_nearDistances {words : List Word} (run : nearDistances words = .error error) :
    Founded error := by
  induction words with
  | nil => contradiction
  | cons word rest ih =>
    rw [nearDistances] at run
    split at run
    · cases run
      exact founded_of_isInvalidQuery rfl
    · split at run
      · rename_i refused
        cases run
        exact ih refused
      · contradiction

theorem founded_of_parseNear {words : List Word} (run : parseNear groups words = .error error) :
    Founded error := by
  rw [parseNear] at run
  split at run
  · rename_i refused
    cases run
    exact founded_of_nearDistances refused
  · split at run
    · rename_i refused
      cases run
      exact founded_of_splitOperands refused
    · split at run
      · split at run
        · contradiction
        · cases run
          exact founded_of_isInvalidQuery rfl
        · rename_i refused
          cases run
          exact founded_of_parseOperands refused
      · cases run
        exact founded_of_isInvalidQuery rfl

theorem founded_of_parseWords {words : List Word} (run : parseWords groups words = .error error) :
    Founded error := by
  rw [parseWords] at run
  split at run
  · cases run
    exact founded_of_isInvalidQuery rfl
  · split at run
    · split at run
      · contradiction
      · rename_i refused
        cases run
        exact founded_of_parseSplit refused
    · split at run
      · split at run
        · contradiction
        · rename_i refused
          cases run
          exact founded_of_parseSplit refused
      · split at run
        · split at run
          · contradiction
          · cases run
            exact founded_of_isInvalidQuery rfl
          · rename_i refused
            cases run
            exact founded_of_parseSplit refused
        · split at run
          · exact founded_of_parseNear run
          · exact founded_of_parseOperand run

theorem founded_of_parseFrom {read rest : List Char} (run : parseFrom groups read rest = .error error) :
    Founded error := by
  induction rest generalizing groups read with
  | nil =>
    rw [parseFrom] at run
    split at run
    · cases run
      exact founded_of_isInvalidQuery rfl
    · cases level : parseLevel groups read.reverse with
      | ok result =>
        rw [level] at run
        contradiction
      | error cause =>
        rw [level] at run
        cases run
        exact founded_of_parseWords level
  | cons c rest ih =>
    rw [parseFrom] at run
    split at run
    · split at run
      · cases run
        exact founded_of_isInvalidQuery rfl
      · split at run
        · rename_i refused
          cases run
          exact founded_of_parseWords refused
        · exact ih run
    · exact ih run

/-- An error that a query is refused with is no error of the grammar exactly if it names a term without a
pattern. -/
theorem isInvalidQuery_of_parse {query : String} (run : parse query = .error error) :
    error.isInvalidQuery = false ↔ ∃ term, error = .malformedTerm term ∧ Pattern.ofTerm? term = none := by
  constructor
  · rw [parse, parseChars, parseNormalized] at run
    split at run
    · cases run
      exact founded_of_isInvalidQuery rfl
    · exact founded_of_parseFrom run
  · rintro ⟨term, rfl, -⟩
    rfl

end TextQuery.Query
