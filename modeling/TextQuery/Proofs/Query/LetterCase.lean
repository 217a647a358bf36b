import TextQuery.Proofs.Query.Levels
import TextQuery.Proofs.Query.Phrase
import TextQuery.Query.Evaluation

/-!
# Letter case

Operators are recognized and terms are lower-cased without regard to the case in which their letters are written.
So a query of ASCII characters gives the same condition in either case, or the same error up to the case of
the words that it names, and a record of ASCII characters gives the same answers (`parse_ignoring_case`).

Each step of the parser is followed on a text and on the same text in small letters.
-/
set_option autoImplicit false

namespace TextQuery.Query

open Text (Word words unwords clean)
open Unicode (eq_of_toLower)

/-- The text with its ASCII letters in lower case. -/
def foldCase (text : List Char) : List Char := text.map Char.toLower

@[simp] theorem foldCase_nil : foldCase [] = [] := rfl

@[simp] theorem foldCase_cons (c : Char) (text : List Char) :
    foldCase (c :: text) = c.toLower :: foldCase text := rfl

@[simp] theorem foldCase_append (left right : List Char) :
    foldCase (left ++ right) = foldCase left ++ foldCase right := List.map_append

/-- The error with the words of the query that it names in lower case. A malformed term is so already. -/
def QueryError.foldCase : QueryError → QueryError
  | missingNearDistance token => .missingNearDistance (Query.foldCase token)
  | unknownGroup token => .unknownGroup (Query.foldCase token)
  | error => error

theorem toLower_toLower (c : Char) : c.toLower.toLower = c.toLower :=
  eq_of_toLower (by decide) c

theorem toLower_eq_iff {d : Char} (other : Unicode.inRanges Unicode.asciiLetters d = false) (c : Char) :
    c.toLower = d ↔ c = d := by
  have small : d.toLower = d := by
    rcases Unicode.toLower_cases d with same | ⟨letter, -⟩
    · exact same
    · rw [other] at letter
      contradiction
  constructor
  · rintro rfl
    rcases Unicode.toLower_cases c with same | ⟨-, letter⟩
    · exact same.symm
    · rw [other] at letter
      contradiction
  · rintro rfl
    exact small

/-! ## Normalizing -/

theorem words_foldCase (text : List Char) : words (foldCase text) = (words text).map foldCase :=
  Text.words_map (eq_of_toLower (by decide)) text

theorem unwords_map_foldCase (words : List Word) : unwords (words.map foldCase) = foldCase (unwords words) :=
  (Text.unwords_comm rfl (fun left right => foldCase_append left (' ' :: right)) words).symm

theorem shieldChar_toLower (c : Char) : shieldChar c.toLower = (shieldChar c).toLower := by
  have solid := eq_of_toLower (f := isDelimiter) (by decide) c
  rcases shieldChar_cases c with ⟨rfl, -⟩ | ⟨rfl, -⟩ | ⟨rfl, -⟩ | ⟨⟨space, opening, closing⟩, same⟩
  · decide
  · decide
  · decide
  · have noDelimiter : isDelimiter c = false := by simp [isDelimiter, space, opening, closing]
    rw [same, shieldChar_of_not_delimiter (solid.trans noDelimiter)]

theorem shieldFrom_foldCase (state : QuoteState) (text : List Char) :
    shieldFrom state (foldCase text) = foldCase (shieldFrom state text) := by
  have mark : Mark.quote.toLower = Mark.quote := by decide
  induction text generalizing state with
  | nil => cases state <;> rfl
  | cons c rest ih =>
    have quote := toLower_eq_iff (d := '"') (by decide) c
    cases state with
    | outside =>
      rw [foldCase_cons, shieldFrom, shieldFrom]
      by_cases isQuote : c = '"'
      · rw [if_pos (quote.mpr isQuote), if_pos isQuote, ih]
      · rw [if_neg (mt quote.mp isQuote), if_neg isQuote, ih, foldCase_cons]
    | opened =>
      rw [foldCase_cons, shieldFrom, shieldFrom]
      by_cases isQuote : c = '"'
      · rw [if_pos (quote.mpr isQuote), if_pos isQuote, ih]
      · rw [if_neg (mt quote.mp isQuote), if_neg isQuote, ih, foldCase_cons, foldCase_cons,
          shieldChar_toLower, mark]
    | inside =>
      rw [foldCase_cons, shieldFrom, shieldFrom]
      by_cases isQuote : c = '"'
      · rw [if_pos (quote.mpr isQuote), if_pos isQuote, ih]
      · rw [if_neg (mt quote.mp isQuote), if_neg isQuote, ih, foldCase_cons, shieldChar_toLower]

def IsAscii (text : List Char) : Prop := ∀ c ∈ text, c.toNat < 0x80

instance (text : List Char) : Decidable (IsAscii text) :=
  List.decidableBAll (fun c : Char => c.toNat < 0x80) text

theorem IsAscii.foldCase {text : List Char} (ascii : IsAscii text) : IsAscii (foldCase text) := by
  intro c member
  obtain ⟨d, inText, rfl⟩ := List.mem_map.mp member
  exact Unicode.of_codes_below (P := fun c => c.toLower.toNat < 0x80) (by decide) (ascii d inText)

theorem IsAscii.collapsed {raw : List Char} (ascii : IsAscii raw) : IsAscii (unwords (words raw)) := by
  intro c member
  rcases Text.mem_unwords member with rfl | ⟨word, inWords, inWord⟩
  · decide
  · exact ascii c ((Text.of_mem_splitWords inWords).2.2 c inWord)

theorem normalize_foldCase {raw : List Char} (ascii : IsAscii raw) :
    normalize (foldCase raw) = foldCase (normalize raw) := by
  have collapsed : unwords (words (foldCase raw)) = foldCase (unwords (words raw)) := by
    rw [words_foldCase, unwords_map_foldCase]
  rw [normalize, normalize, collapsed, Text.clean_ascii ascii.collapsed.foldCase,
    Text.clean_ascii ascii.collapsed]
  exact shieldFrom_foldCase .outside _

/-! ## Keywords and numbers -/

theorem sameIgnoringCase_foldCase (left right : List Char) :
    sameIgnoringCase (foldCase left) right = sameIgnoringCase left right := by
  have twice : (foldCase left).map Char.toLower = left.map Char.toLower := by
    rw [foldCase, List.map_map]
    exact List.map_congr_left fun c _ => toLower_toLower c
  rw [sameIgnoringCase, sameIgnoringCase, twice]

theorem isKeyword_foldCase (operator : Operator) (word : List Char) :
    isKeyword operator (foldCase word) = isKeyword operator word :=
  sameIgnoringCase_foldCase word _

theorem nearTail?_foldCase (word : List Char) :
    nearTail? (foldCase word) = (nearTail? word).map foldCase := by
  have start : (foldCase word).take 4 = foldCase (word.take 4) := List.map_take.symm
  have rest : (foldCase word).drop 4 = foldCase (word.drop 4) := List.map_drop.symm
  rw [nearTail?, nearTail?, start, rest, sameIgnoringCase_foldCase]
  split
  · cases word.drop 4 with
    | nil => rfl
    | cons c rest =>
      have slash := toLower_eq_iff (d := '/') (by decide) c
      by_cases isSlash : c = '/'
      · subst isSlash
        rfl
      · have other := mt slash.mp isSlash
        simp [isSlash, other]
  · rfl

theorem isNear_foldCase (word : List Char) : isNear (foldCase word) = isNear word := by
  rw [isNear, isNear, nearTail?_foldCase, Option.isSome_map]

theorem toLower_of_isDigit {c : Char} (digit : c.isDigit = true) : c.toLower = c := by
  have alphanumeric : (c.isAlpha || c.isDigit) = true := by rw [digit, Bool.or_true]
  exact Unicode.of_codes_below (P := fun c => c.isDigit = true → c.toLower = c) (by decide)
    (Unicode.toNat_lt_of_isAlphanum alphanumeric) digit

theorem foldCase_of_digits {digits : List Char} (each : ∀ c ∈ digits, c.isDigit = true) :
    foldCase digits = digits :=
  (List.map_congr_left fun c member => toLower_of_isDigit (each c member)).trans (List.map_id digits)

theorem readNumber?_foldCase (digits : List Char) : readNumber? (foldCase digits) = readNumber? digits := by
  have digit := eq_of_toLower (f := Char.isDigit) (by decide)
  have allDigits : (foldCase digits).all Char.isDigit = digits.all Char.isDigit := by
    rw [foldCase, List.all_map]
    exact congrArg digits.all (funext digit)
  by_cases each : digits.all Char.isDigit = true
  · rw [foldCase_of_digits (List.all_eq_true.mp each)]
  · rw [readNumber?, readNumber?, allDigits, if_neg (by simp [each]), if_neg (by simp [each])]

theorem nearDistance?_foldCase (word : List Char) :
    nearDistance? (foldCase word) = nearDistance? word := by
  rw [nearDistance?, nearDistance?, nearTail?_foldCase]
  cases nearTail? word with
  | none => rfl
  | some tail =>
    cases tail with
    | nil => rfl
    | cons c digits =>
      have slash := toLower_eq_iff (d := '/') (by decide) c
      by_cases isSlash : c = '/'
      · subst isSlash
        exact readNumber?_foldCase digits
      · have other := mt slash.mp isSlash
        simp [isSlash, other]

theorem groupNumber?_foldCase (word : List Char) : groupNumber? (foldCase word) = groupNumber? word := by
  cases word with
  | nil => rfl
  | cons c rest =>
    have colon (d : Char) := toLower_eq_iff (d := ':') (by decide) d
    by_cases isColon : c = ':'
    · subst isColon
      have last : (foldCase rest).getLast? = some ':' ↔ rest.getLast? = some ':' := by
        rw [foldCase, List.getLast?_map, Option.map_eq_some_iff]
        simp [colon]
      have inner : (foldCase rest).dropLast = foldCase rest.dropLast := List.map_dropLast.symm
      show (if (foldCase rest).getLast? = some ':' then readNumber? (foldCase rest).dropLast else none) = _
      rw [inner, readNumber?_foldCase]
      simp only [last]
      rfl
    · rw [foldCase_cons, groupNumber?_cons_eq_none (mt (colon c).mp isColon), groupNumber?_cons_eq_none isColon]

/-! ## Levels -/

section Levels

variable (groups : Groups) (words : List Word)

theorem splitAtWords_foldCase {isSeparator : Word → Bool}
    (same : ∀ word, isSeparator (foldCase word) = isSeparator word) :
    splitAtWords isSeparator (words.map foldCase) =
      (splitAtWords isSeparator words).map (List.map foldCase) := by
  induction words with
  | nil => rfl
  | cons word rest ih =>
    rw [List.map_cons, splitAtWords_cons, splitAtWords_cons, same, ih]
    split
    · rfl
    · cases splitAtWords isSeparator rest <;> rfl

theorem splitOperands_foldCase {isSeparator : Word → Bool}
    (same : ∀ word, isSeparator (foldCase word) = isSeparator word) (operator : Operator) :
    splitOperands operator isSeparator (words.map foldCase) =
      (splitOperands operator isSeparator words).map (List.map (List.map foldCase)) := by
  have empty : ((splitAtWords isSeparator words).map (List.map foldCase)).any List.isEmpty =
      (splitAtWords isSeparator words).any List.isEmpty := by
    rw [List.any_map]
    exact congrArg (List.any _) (funext fun operand => List.isEmpty_map)
  rw [splitOperands, splitOperands, splitAtWords_foldCase words same]
  rw [empty]
  split <;> rfl

theorem parseTerm_foldCase : parseTerm (words.map foldCase) = parseTerm words := by
  have same : Unicode.lower (unwords (words.map foldCase)) = Unicode.lower (unwords words) := by
    rw [unwords_map_foldCase]
    exact Unicode.lower_map_toLower _
  rw [parseTerm, parseTerm, same]

theorem foldCase_of_parseTerm {error : QueryError} (run : parseTerm words = .error error) :
    error.foldCase = error := by
  unfold parseTerm at run
  dsimp only at run
  split at run
  · contradiction
  · obtain rfl := Except.error.inj run
    rfl

theorem reference?_foldCase : reference? (words.map foldCase) = reference? words := by
  match words with
  | [] | _ :: _ :: _ => rfl
  | [word] => exact groupNumber?_foldCase word

theorem any_foldCase (test : Word → Bool) (same : ∀ word, test (foldCase word) = test word) :
    (words.map foldCase).any test = words.any test := by
  rw [List.any_map]
  exact congrArg words.any (funext same)

theorem parseOperand_foldCase :
    parseOperand groups (words.map foldCase) =
      (parseOperand groups words).mapError QueryError.foldCase := by
  have mentions := any_foldCase words (fun word => (groupNumber? word).isSome) fun word => by
    rw [groupNumber?_foldCase]
  rw [parseOperand, parseOperand, reference?_foldCase, mentions, unwords_map_foldCase,
    parseTerm_foldCase]
  split
  · split <;> rfl
  · split
    · rfl
    · cases parsed : parseTerm words with
      | ok condition => rfl
      | error error => exact congrArg Except.error (foldCase_of_parseTerm words parsed).symm

theorem parseOperands_foldCase (operands : List (List Word)) :
    parseOperands groups (operands.map (List.map foldCase)) =
      (parseOperands groups operands).mapError QueryError.foldCase := by
  induction operands generalizing groups with
  | nil => rfl
  | cons operand rest ih =>
    rw [List.map_cons, parseOperands, parseOperands, parseOperand_foldCase]
    cases parseOperand groups operand with
    | error error => rfl
    | ok result =>
      dsimp only [Except.mapError]
      rw [ih]
      cases parseOperands result.2 rest <;> rfl

theorem parseSplit_foldCase (operator : Operator) :
    parseSplit groups operator (words.map foldCase) =
      (parseSplit groups operator words).mapError QueryError.foldCase := by
  rw [parseSplit, parseSplit, splitOperands_foldCase words (isKeyword_foldCase operator)]
  cases cut : splitOperands operator (isKeyword operator) words with
  | error error =>
    obtain rfl := splitOperands_error cut
    rfl
  | ok operands => exact parseOperands_foldCase groups operands

theorem nearDistances_foldCase :
    nearDistances (words.map foldCase) = (nearDistances words).mapError QueryError.foldCase := by
  induction words with
  | nil => rfl
  | cons word rest ih =>
    rw [List.map_cons, nearDistances, nearDistances, nearDistance?_foldCase, ih]
    cases nearDistance? word with
    | none => rfl
    | some distance => cases nearDistances rest <;> rfl

theorem parseNear_foldCase :
    parseNear groups (words.map foldCase) =
      (parseNear groups words).mapError QueryError.foldCase := by
  have nears : (words.map foldCase).filter isNear = (words.filter isNear).map foldCase := by
    rw [List.filter_map]
    exact congrArg (fun test => (words.filter test).map foldCase) (funext isNear_foldCase)
  rw [parseNear, parseNear, nears, nearDistances_foldCase, splitOperands_foldCase words isNear_foldCase]
  cases nearDistances (words.filter isNear) with
  | error error => rfl
  | ok distances =>
    cases cut : splitOperands .near isNear words with
    | error error =>
      obtain rfl := splitOperands_error cut
      rfl
    | ok operands =>
      dsimp only [Except.mapError, Except.map]
      rw [List.length_map, parseOperands_foldCase]
      split
      · cases parseOperands groups operands with
        | error error => rfl
        | ok result =>
          obtain ⟨conditions, left⟩ := result
          rcases conditions with _ | ⟨first, _ | ⟨second, _ | ⟨third, more⟩⟩⟩ <;> rfl
      · rfl

theorem parseWords_foldCase :
    parseWords groups (words.map foldCase) =
      (parseWords groups words).mapError QueryError.foldCase := by
  have keyword (operator : Operator) := any_foldCase words _ (isKeyword_foldCase operator)
  rw [parseWords, parseWords, List.isEmpty_map, keyword .or, keyword .and, keyword .not,
    any_foldCase words _ isNear_foldCase, parseSplit_foldCase, parseSplit_foldCase, parseSplit_foldCase,
    parseNear_foldCase, parseOperand_foldCase]
  split
  · rfl
  split
  · cases parseSplit groups .or words <;> rfl
  split
  · cases parseSplit groups .and words <;> rfl
  split
  · cases parseSplit groups .not words with
    | error error => rfl
    | ok result =>
      obtain ⟨conditions, left⟩ := result
      rcases conditions with _ | ⟨included, _ | ⟨excluded, _ | ⟨third, more⟩⟩⟩ <;> rfl
  split <;> rfl

end Levels

/-! ## Queries -/

theorem cut?_foldCase (mark : Char) (other : Unicode.inRanges Unicode.asciiLetters mark = false)
    (text : List Char) :
    cut? mark (foldCase text) =
      (cut? mark text).map fun (before, after) => (foldCase before, foldCase after) := by
  induction text with
  | nil => rfl
  | cons c rest ih =>
    have isMark := toLower_eq_iff other c
    rw [foldCase_cons, cut?, cut?, ih]
    by_cases same : c = mark
    · rw [if_pos (isMark.mpr same), if_pos same]
      rfl
    · rw [if_neg (mt isMark.mp same), if_neg same, Option.map_map, Option.map_map]
      rfl

theorem byteLength_foldCase (text : List Char) : byteLength (foldCase text) = byteLength text := by
  induction text with
  | nil => rfl
  | cons c rest ih =>
    have size := eq_of_toLower (f := Char.utf8Size) (by decide) c
    show c.toLower.utf8Size + byteLength (foldCase rest) = c.utf8Size + byteLength rest
    rw [size, ih]

theorem referenceText_foldCase (number : Nat) :
    foldCase (referenceText number) = referenceText number := by
  have digits : foldCase (Nat.toDigits 10 number) = Nat.toDigits 10 number :=
    foldCase_of_digits fun c member => Nat.isDigit_of_mem_toDigits (by decide) (by decide) member
  rw [referenceText, foldCase_append, foldCase_append, digits]
  rfl

theorem parseLevel_foldCase (groups : Groups) (text : List Char) :
    parseLevel groups (foldCase text) = (parseLevel groups text).mapError QueryError.foldCase := by
  rw [parseLevel, words_foldCase, parseWords_foldCase]
  rfl

theorem parseFrom_foldCase (groups : Groups) (read rest : List Char) :
    parseFrom groups (foldCase read) (foldCase rest) =
      (parseFrom groups read rest).mapError QueryError.foldCase := by
  have reversed (text : List Char) : (foldCase text).reverse = foldCase text.reverse :=
    List.map_reverse.symm
  have opening := cut?_foldCase '(' (by decide)
  induction rest generalizing groups read with
  | nil =>
    rw [foldCase_nil, parseFrom, parseFrom, reversed, opening, parseLevel_foldCase]
    cases cut? '(' read.reverse with
    | none => cases parseLevel groups read.reverse <;> rfl
    | some parts =>
      exact congrArg (fun position => Except.error (QueryError.unbalancedParenthesis position))
        (byteLength_foldCase parts.1)
  | cons c rest ih =>
    have closing := toLower_eq_iff (d := ')') (by decide) c
    rw [foldCase_cons, parseFrom, parseFrom]
    by_cases isClosing : c = ')'
    · rw [if_pos (closing.mpr isClosing), if_pos isClosing, opening]
      cases cut? '(' read with
      | none =>
        exact congrArg (fun position => Except.error (QueryError.unbalancedParenthesis position))
          (byteLength_foldCase read)
      | some parts =>
        obtain ⟨inside, outside⟩ := parts
        dsimp only [Option.map_some]
        rw [reversed, parseLevel_foldCase]
        cases parseLevel groups inside.reverse with
        | error error => rfl
        | ok result =>
          obtain ⟨condition, left⟩ := result
          have replaced := ih (left ++ [some condition]) ((referenceText left.length).reverse ++ outside)
          rw [foldCase_append, ← reversed, referenceText_foldCase] at replaced
          exact replaced
    · rw [if_neg (mt closing.mp isClosing), if_neg isClosing]
      exact ih groups (c :: read)

theorem parseChars_foldCase {raw : List Char} (ascii : IsAscii raw) :
    parseChars (foldCase raw) = (parseChars raw).mapError QueryError.foldCase := by
  rw [parseChars, parseChars, parseNormalized, parseNormalized, normalize_foldCase ascii]
  have empty : (foldCase (normalize raw)).isEmpty = (normalize raw).isEmpty := List.isEmpty_map
  rw [empty]
  split
  · rfl
  · exact parseFrom_foldCase [] [] (normalize raw)

/-! ## Main statement -/

theorem foldCase_eq_of_sameIgnoringCase {left right : List Char}
    (same : sameIgnoringCase left right = true) : foldCase left = foldCase right :=
  eq_of_beq same

theorem of_mapError_eq {α ε : Type} {f : ε → ε} {first second : Except ε α}
    (same : first.mapError f = second.mapError f) :
    (∃ value, first = .ok value ∧ second = .ok value) ∨
      ∃ error other, first = .error error ∧ second = .error other ∧ f error = f other := by
  match first, second with
  | .ok value, .ok other => exact .inl ⟨value, rfl, congrArg Except.ok (Except.ok.inj same).symm⟩
  | .error error, .error other => exact .inr ⟨error, other, rfl, rfl, Except.error.inj same⟩
  | .ok _, .error _ | .error _, .ok _ => cases same

theorem ofChars_foldCase {raw : List Char} (ascii : IsAscii raw) :
    Text.Normal.ofChars (foldCase raw) = Text.Normal.ofChars raw := by
  have lowered : Unicode.lower (foldCase raw) = Unicode.lower raw := Unicode.lower_map_toLower raw
  rw [Text.Normal.ofChars, Text.Normal.ofChars, Text.clean_ascii ascii.foldCase, Text.clean_ascii ascii,
    lowered]

variable {left right : String} (asciiLeft : IsAscii left.toList) (asciiRight : IsAscii right.toList)
  (same : sameIgnoringCase left.toList right.toList = true)

include asciiLeft asciiRight same

theorem mapError_parse_eq :
    (parse left).mapError QueryError.foldCase = (parse right).mapError QueryError.foldCase := by
  rw [parse, parse, ← parseChars_foldCase asciiLeft, ← parseChars_foldCase asciiRight,
    foldCase_eq_of_sameIgnoringCase same]

theorem ofString_eq : Text.Normal.ofString left = Text.Normal.ofString right := by
  rw [Text.Normal.ofString, Text.Normal.ofString, ← ofChars_foldCase asciiLeft,
    ← ofChars_foldCase asciiRight, foldCase_eq_of_sameIgnoringCase same]

omit asciiLeft asciiRight same

/-- ASCII queries that differ only in letter case give the same condition, or errors of one kind that
name the same words up to letter case. A condition answers alike on ASCII records that differ only in
letter case. -/
theorem parse_ignoring_case :
    (∀ left right : String, IsAscii left.toList → IsAscii right.toList →
      sameIgnoringCase left.toList right.toList = true →
      (∃ condition, parse left = .ok condition ∧ parse right = .ok condition) ∨
      ∃ first second, parse left = .error first ∧ parse right = .error second ∧
        first.foldCase = second.foldCase) ∧
    ∀ (query : String) (condition : Condition), parse query = .ok condition →
      ∀ left right : String, IsAscii left.toList → IsAscii right.toList →
        sameIgnoringCase left.toList right.toList = true →
        condition.holds (.ofString left) = condition.holds (.ofString right) ∧
        condition.wordIndices (Text.Normal.ofString left).chars.toArray =
          condition.wordIndices (Text.Normal.ofString right).chars.toArray := by
  refine ⟨fun left right asciiLeft asciiRight same => ?_,
    fun _ condition _ left right asciiLeft asciiRight same => ?_⟩
  · exact of_mapError_eq (mapError_parse_eq asciiLeft asciiRight same)
  · rw [ofString_eq asciiLeft asciiRight same]
    exact ⟨rfl, rfl⟩

/-- Keywords, a distance and a phrase that are written in two ways. -/
theorem parse_ignoring_case_sample :
    ∃ condition, parse "(A or B) Near/3 \"C d\"" = .ok condition ∧
      parse "(a OR b) NEAR/3 \"c D\"" = .ok condition ∧
      condition.holds (.ofString "b, c d!") = true ∧ condition.holds (.ofString "B, C D!") = true := by
  have parses : (parse "(A or B) Near/3 \"C d\"").toOption.any
      (fun condition => condition.holds (.ofString "b, c d!")) = true := by
    decide +kernel
  rcases parse_ignoring_case.1 "(A or B) Near/3 \"C d\"" "(a OR b) NEAR/3 \"c D\"" (by decide) (by decide)
    (by decide) with ⟨condition, left, right⟩ | ⟨error, -, failed, -⟩
  · have holds : condition.holds (.ofString "b, c d!") = true := by
      simpa [left, Except.toOption] using parses
    have same := (parse_ignoring_case.2 _ condition left "b, c d!" "B, C D!" (by decide) (by decide)
      (by decide)).1
    exact ⟨condition, left, right, holds, same.symm.trans holds⟩
  · simp [failed, Except.toOption] at parses

end TextQuery.Query
