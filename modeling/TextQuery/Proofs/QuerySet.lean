import Mathlib.Data.List.Forall2
import Mathlib.Data.List.Induction
import Mathlib.Data.List.Nodup
import TextQuery.QuerySet

/-!
# Sets of parsed queries

A set that was parsed holds, under each name and in the order of the names, what the query of that name
parses to. Whatever is done with a set, its names stay distinct, so a name always stands for one query
(`queries_of_run`).
-/
set_option autoImplicit false

namespace TextQuery

open Query (Condition)

namespace QuerySet

/-! ## Looking up names -/

theorem get?_eq_none_iff {set : QuerySet} {name : String} : set.get? name = none ↔ name ∉ set.names := by
  rw [get?, Option.map_eq_none_iff, List.find?_eq_none, names, List.mem_map]
  constructor
  · rintro absent ⟨entry, member, same⟩
    exact absent entry member (decide_eq_true same)
  · intro absent entry member same
    exact absent ⟨entry, member, of_decide_eq_true same⟩

theorem get?_cons (entry : String × Condition) (rest : List (String × Condition)) (name : String) :
    get? ⟨entry :: rest⟩ name = if entry.1 = name then some entry.2 else get? ⟨rest⟩ name := by
  by_cases same : entry.1 = name
  · simp [get?, same]
  · simp [get?, same]

/-- Where names do not repeat, the entries of a set are what can be looked up. -/
theorem get?_eq_some_iff {set : QuerySet} (distinct : set.names.Nodup) {name : String}
    {condition : Condition} : set.get? name = some condition ↔ (name, condition) ∈ set.entries := by
  obtain ⟨entries⟩ := set
  induction entries with
  | nil => simp [get?]
  | cons entry rest ih =>
    obtain ⟨absent, others⟩ := List.nodup_cons.mp distinct
    rw [get?_cons, List.mem_cons]
    by_cases same : entry.1 = name
    · have noLater : (name, condition) ∉ rest := fun member =>
        absent (List.mem_map.mpr ⟨_, member, same.symm⟩)
      rw [if_pos same, Option.some_inj, or_iff_left noLater, Prod.ext_iff]
      exact ⟨fun found => ⟨same.symm, found.symm⟩, fun found => found.2.symm⟩
    · have other : (name, condition) ≠ entry := by
        rintro rfl
        exact same rfl
      rw [if_neg same, ih others, or_iff_right other]

theorem names_concat (entries : List (String × Condition)) (entry : String × Condition) :
    names ⟨entries ++ [entry]⟩ = names ⟨entries⟩ ++ [entry.1] :=
  List.map_append

theorem nodup_concat {names : List String} {name : String} (distinct : names.Nodup)
    (fresh : name ∉ names) : (names ++ [name]).Nodup :=
  List.nodup_append_comm.mp (List.nodup_cons.mpr ⟨fresh, distinct⟩)

/-! ## Parsing -/

/-- The entry is what a named query parses to. -/
def ParsedAs (query : String × String) (entry : String × Condition) : Prop :=
  entry.1 = query.1 ∧ Query.parse query.2 = .ok entry.2

/-- No name repeats, and every query parses. -/
def Parsable (queries : List (String × String)) : Prop :=
  (queries.map Prod.fst).Nodup ∧ ∀ query ∈ queries, (Query.parse query.2).isOk = true

instance (queries : List (String × String)) : Decidable (Parsable queries) :=
  inferInstanceAs (Decidable ((queries.map Prod.fst).Nodup ∧ _))

/-- What is wrong with a query when the names are taken. A name is looked at before its query. -/
inductive Fault (names : List String) (query : String × String) : QuerySetError → Prop
  | repeated (taken : query.1 ∈ names) : Fault names query (.duplicateName query.1)
  | malformed {cause : Query.QueryError} (fresh : query.1 ∉ names)
      (refused : Query.parse query.2 = .error cause) : Fault names query (.malformed query.1 cause)

section Step

variable {set : QuerySet} {query : String × String} (rest : List (String × String))

theorem parseOnto_of_fault {error : QuerySetError} (fault : Fault set.names query error) :
    set.parseOnto (query :: rest) = .error error := by
  rw [parseOnto]
  cases fault with
  | repeated taken =>
    cases found : set.get? query.1 with
    | none => exact absurd taken (get?_eq_none_iff.mp found)
    | some condition => rfl
  | malformed fresh refused => rw [get?_eq_none_iff.mpr fresh, refused]

theorem parseOnto_of_parsed (fresh : query.1 ∉ set.names) {condition : Condition}
    (parsed : Query.parse query.2 = .ok condition) :
    set.parseOnto (query :: rest) = parseOnto ⟨set.entries ++ [(query.1, condition)]⟩ rest := by
  rw [parseOnto, get?_eq_none_iff.mpr fresh, parsed]

theorem fault_or_parsed (names : List String) (query : String × String) :
    (∃ error, Fault names query error) ∨
      query.1 ∉ names ∧ ∃ condition, Query.parse query.2 = .ok condition := by
  by_cases taken : query.1 ∈ names
  · exact Or.inl ⟨_, .repeated taken⟩
  · cases parsed : Query.parse query.2 with
    | error cause => exact Or.inl ⟨_, .malformed taken parsed⟩
    | ok condition => exact Or.inr ⟨taken, condition, rfl⟩

end Step

theorem parseOnto_ok {set result : QuerySet} {queries : List (String × String)}
    (run : set.parseOnto queries = .ok result) :
    ∃ added, result.entries = set.entries ++ added ∧ List.Forall₂ ParsedAs queries added := by
  induction queries generalizing set with
  | nil =>
    obtain rfl := Except.ok.inj run
    exact ⟨[], by simp, .nil⟩
  | cons query rest ih =>
    rcases fault_or_parsed set.names query with ⟨error, fault⟩ | ⟨fresh, condition, parsed⟩
    · rw [parseOnto_of_fault rest fault] at run
      contradiction
    · rw [parseOnto_of_parsed rest fresh parsed] at run
      obtain ⟨added, entries, others⟩ := ih run
      exact ⟨(query.1, condition) :: added, by simpa using entries, .cons ⟨rfl, parsed⟩ others⟩

theorem parseAll_ok {queries : List (String × String)} {set : QuerySet}
    (run : parseAll queries = .ok set) : List.Forall₂ ParsedAs queries set.entries := by
  obtain ⟨added, entries, parsed⟩ := parseOnto_ok run
  rw [entries]
  exact parsed

/-- Parsing stops at the first query that is at fault. -/
theorem exists_fault_of_error {set : QuerySet} {queries : List (String × String)} {error : QuerySetError}
    (distinct : set.names.Nodup) (run : set.parseOnto queries = .error error) :
    ∃ before query after, queries = before ++ query :: after ∧
      (set.names ++ before.map Prod.fst).Nodup ∧
        (∀ earlier ∈ before, (Query.parse earlier.2).isOk = true) ∧
          Fault (set.names ++ before.map Prod.fst) query error := by
  -- The set grows by the queries that were parsed, so the names before a query are those of the set.
  induction queries generalizing set with
  | nil => contradiction
  | cons query rest ih =>
    rcases fault_or_parsed set.names query with ⟨found, fault⟩ | ⟨fresh, condition, parsed⟩
    · rw [parseOnto_of_fault rest fault] at run
      obtain rfl := Except.error.inj run
      exact ⟨[], query, rest, rfl, by simpa using distinct, by simp, by simpa using fault⟩
    · rw [parseOnto_of_parsed rest fresh parsed] at run
      have more := names_concat set.entries (query.1, condition)
      obtain ⟨before, first, after, shape, distinctBefore, parses, fault⟩ :=
        ih (more ▸ nodup_concat distinct fresh) run
      rw [more, List.append_assoc] at distinctBefore fault
      refine ⟨query :: before, first, after, by rw [shape]; rfl, distinctBefore, ?_, fault⟩
      exact List.forall_mem_cons.mpr ⟨by rw [parsed]; rfl, parses⟩

/-- Queries without a fault are parsed. -/
theorem exists_of_parsable {set : QuerySet} {queries : List (String × String)}
    (distinct : (set.names ++ queries.map Prod.fst).Nodup)
    (parses : ∀ query ∈ queries, (Query.parse query.2).isOk = true) (rest : List (String × String)) :
    ∃ next : QuerySet, set.parseOnto (queries ++ rest) = next.parseOnto rest ∧
      next.names = set.names ++ queries.map Prod.fst := by
  induction queries generalizing set with
  | nil => exact ⟨set, rfl, by simp⟩
  | cons query more ih =>
    obtain ⟨first, others⟩ := List.forall_mem_cons.mp parses
    rcases fault_or_parsed set.names query with ⟨error, fault⟩ | ⟨fresh, condition, parsed⟩
    · cases fault with
      | repeated taken =>
        exact absurd rfl ((List.nodup_append.mp distinct).2.2 _ taken _ List.mem_cons_self)
      | malformed fresh refused =>
        rw [refused] at first
        contradiction
    · have added := names_concat set.entries (query.1, condition)
      have distinctMore : (names ⟨set.entries ++ [(query.1, condition)]⟩ ++ more.map Prod.fst).Nodup := by
        rw [added, List.append_assoc]
        exact distinct
      obtain ⟨next, run, nextNames⟩ := ih distinctMore others
      refine ⟨next, ?_, ?_⟩
      · rw [List.cons_append, parseOnto_of_parsed _ fresh parsed, run]
      · rw [nextNames, added, List.append_assoc]
        rfl

theorem nodup_of_parseOnto {set result : QuerySet} {queries : List (String × String)}
    (distinct : set.names.Nodup) (run : set.parseOnto queries = .ok result) : result.names.Nodup := by
  induction queries generalizing set with
  | nil =>
    obtain rfl := Except.ok.inj run
    exact distinct
  | cons query rest ih =>
    rcases fault_or_parsed set.names query with ⟨error, fault⟩ | ⟨fresh, condition, parsed⟩
    · rw [parseOnto_of_fault rest fault] at run
      contradiction
    · rw [parseOnto_of_parsed rest fresh parsed] at run
      refine ih ?_ run
      rw [names_concat]
      exact nodup_concat distinct fresh

theorem nodup_names_empty : empty.names.Nodup := List.nodup_nil

section ParsedAs

variable {queries : List (String × String)} {entries : List (String × Condition)}
  (parsed : List.Forall₂ ParsedAs queries entries)

include parsed

theorem map_fst_of_parsedAs : entries.map Prod.fst = queries.map Prod.fst := by
  induction parsed with
  | nil => rfl
  | cons head _ ih => rw [List.map_cons, List.map_cons, ih, head.1]

theorem exists_entry_of_parsedAs : ∀ query ∈ queries, ∃ condition,
    Query.parse query.2 = .ok condition ∧ (query.1, condition) ∈ entries := by
  induction parsed with
  | nil => exact fun _ member => absurd member List.not_mem_nil
  | @cons query entry _ rest head _ ih =>
    obtain ⟨name, condition⟩ := entry
    obtain ⟨rfl, parsed⟩ := head
    refine List.forall_mem_cons.mpr ⟨⟨condition, parsed, List.mem_cons_self⟩, ?_⟩
    intro other member
    obtain ⟨found, parsedOther, inRest⟩ := ih other member
    exact ⟨found, parsedOther, List.mem_cons_of_mem _ inRest⟩

end ParsedAs

section ParseAll

variable {queries : List (String × String)}

theorem names_of_parseAll {set : QuerySet} (run : parseAll queries = .ok set) :
    set.names = queries.map Prod.fst :=
  map_fst_of_parsedAs (parseAll_ok run)

/-- What is looked up under the name of a query is what the query parses to. -/
theorem get?_of_parseAll {set : QuerySet} (run : parseAll queries = .ok set) :
    ∀ query ∈ queries, ∃ condition, Query.parse query.2 = .ok condition ∧
      set.get? query.1 = some condition := by
  intro query member
  obtain ⟨condition, parsed, inEntries⟩ := exists_entry_of_parsedAs (parseAll_ok run) query member
  exact ⟨condition, parsed, (get?_eq_some_iff (nodup_of_parseOnto nodup_names_empty run)).mpr inEntries⟩

theorem exists_parseAll_iff : (∃ set, parseAll queries = .ok set) ↔ Parsable queries := by
  constructor
  · rintro ⟨set, run⟩
    refine ⟨?_, fun query member => ?_⟩
    · rw [← names_of_parseAll run]
      exact nodup_of_parseOnto nodup_names_empty run
    · obtain ⟨condition, parsed, -⟩ := get?_of_parseAll run query member
      rw [parsed]
      rfl
  · rintro ⟨distinct, parses⟩
    obtain ⟨next, run, -⟩ := @exists_of_parsable empty _ distinct parses []
    rw [List.append_nil] at run
    exact ⟨next, run⟩

/-- The error is that of the first query at fault. -/
theorem parseAll_eq_error_iff {error : QuerySetError} : parseAll queries = .error error ↔
    ∃ before query after, queries = before ++ query :: after ∧ Parsable before ∧
      Fault (before.map Prod.fst) query error := by
  constructor
  · intro run
    obtain ⟨before, query, after, shape, distinct, parses, fault⟩ :=
      exists_fault_of_error nodup_names_empty run
    exact ⟨before, query, after, shape, ⟨distinct, parses⟩, fault⟩
  · rintro ⟨before, query, after, rfl, ⟨distinct, parses⟩, fault⟩
    obtain ⟨next, run, names⟩ := @exists_of_parsable empty _ distinct parses (query :: after)
    rw [parseAll, run]
    refine parseOnto_of_fault after ?_
    rw [names]
    exact fault

/-- Parsing fails exactly if some name repeats or some query does not parse. -/
theorem exists_error_iff : (∃ error, parseAll queries = .error error) ↔
    ∃ before query after, queries = before ++ query :: after ∧
      (query.1 ∈ before.map Prod.fst ∨ ∃ cause, Query.parse query.2 = .error cause) := by
  constructor
  · rintro ⟨error, run⟩
    obtain ⟨before, query, after, shape, -, fault⟩ := parseAll_eq_error_iff.mp run
    refine ⟨before, query, after, shape, ?_⟩
    cases fault with
    | repeated taken => exact Or.inl taken
    | malformed fresh refused => exact Or.inr ⟨_, refused⟩
  · rintro ⟨before, query, after, rfl, wrong⟩
    cases run : parseAll (before ++ query :: after) with
    | error error => exact ⟨error, rfl⟩
    | ok set =>
      obtain ⟨distinct, parses⟩ := exists_parseAll_iff.mp ⟨set, run⟩
      rcases wrong with taken | ⟨cause, refused⟩
      · rw [List.map_append, List.map_cons] at distinct
        exact absurd rfl ((List.nodup_append.mp distinct).2.2 _ taken _ List.mem_cons_self)
      · have parsed := parses query (by simp)
        rw [refused] at parsed
        contradiction

end ParseAll

/-! ## Operations -/

/-- What is done with a set: its queries are replaced by those of a list, or one is added. -/
inductive Operation
  | parseAll (queries : List (String × String))
  | push (name : String) (condition : Condition)

/-- Carries out an operation. A list that is refused has nothing to take the place of the set. -/
def perform : Operation → Change Unit
  | .parseAll queries => fun set =>
    match QuerySet.parseAll queries with
    | .ok parsed => .ok () parsed
    | .error error => .error error set
  | .push name condition => Change.push name condition

/-- The set that an operation leaves, whether or not it fails. -/
def step (set : QuerySet) (operation : Operation) : QuerySet :=
  match perform operation set with
  | .ok _ left => left
  | .error _ left => left

/-- An operation that fails leaves the set as it was. -/
theorem perform_error {set left : QuerySet} {operation : Operation} {error : QuerySetError}
    (failed : perform operation set = .error error left) : left = set := by
  cases operation with
  | parseAll queries =>
    rw [perform] at failed
    split at failed
    · contradiction
    · cases failed
      rfl
  | push name condition =>
    rw [perform, Change.push] at failed
    split at failed
    · cases failed
      rfl
    · contradiction

/-- The set after some operations on the empty set. -/
def run (operations : List Operation) : QuerySet := operations.foldl step empty

/-- The names after an operation, in the order in which they came in. -/
def namesAfter (names : List String) : Operation → List String
  | .parseAll queries => if Parsable queries then queries.map Prod.fst else names
  | .push name _ => if name ∈ names then names else names ++ [name]

theorem names_step (set : QuerySet) (operation : Operation) :
    (set.step operation).names = namesAfter set.names operation := by
  cases operation with
  | parseAll queries =>
    rw [step, perform, namesAfter]
    cases run : QuerySet.parseAll queries with
    | ok next => rw [if_pos (exists_parseAll_iff.mp ⟨next, run⟩), names_of_parseAll run]
    | error error =>
      have refused : ¬ Parsable queries := by
        intro parsable
        obtain ⟨next, parsed⟩ := exists_parseAll_iff.mpr parsable
        rw [run] at parsed
        contradiction
      rw [if_neg refused]
  | push name condition =>
    rw [step, perform, Change.push, namesAfter]
    cases found : set.get? name with
    | some taken =>
      have member : name ∈ set.names := by
        by_contra fresh
        rw [get?_eq_none_iff.mpr fresh] at found
        contradiction
      rw [if_pos member]
    | none => rw [if_neg (get?_eq_none_iff.mp found), names_concat]

theorem nodup_namesAfter {names : List String} (distinct : names.Nodup) (operation : Operation) :
    (namesAfter names operation).Nodup := by
  cases operation with
  | parseAll queries =>
    rw [namesAfter]
    split
    · rename_i parsable
      exact parsable.1
    · exact distinct
  | push name condition =>
    rw [namesAfter]
    split
    · exact distinct
    · rename_i fresh
      exact nodup_concat distinct fresh

theorem names_run (operations : List Operation) :
    (run operations).names.Nodup ∧ (run operations).names = operations.foldl namesAfter [] := by
  induction operations using List.reverseRecOn with
  | nil => exact ⟨nodup_names_empty, rfl⟩
  | append_singleton operations operation ih =>
    obtain ⟨distinct, names⟩ := ih
    rw [run, List.foldl_concat, List.foldl_concat, ← run, names_step]
    exact ⟨nodup_namesAfter distinct operation, by rw [names]⟩

/-! ## Rows -/

theorem names_check (set : QuerySet) (text : String) :
    (set.check text).entries.map Prod.fst = set.names := by
  rw [check, checkNormal, List.map_map]
  rfl

/-- The verdict of a name is that of what can be looked up under it. -/
theorem get?_check (set : QuerySet) (text name : String) : (set.check text).get? name =
    (set.get? name).map fun condition => .ofBool (condition.holds (.ofString text)) := by
  rw [check, checkNormal, CheckRow.get?, List.find?_map, get?, Option.map_map, Option.map_map]
  rfl

/-- Names are distinct and in the order in which they came in, whatever was done with the set. Lists with a
fault are refused for the first, all others are parsed name by name. A row has the verdict of each query by
itself under its name. -/
theorem queries_of_run (operations : List Operation) :
    ((run operations).names.Nodup ∧ (run operations).names = operations.foldl namesAfter []) ∧
    (∀ operation error left, perform operation (run operations) = .error error left →
      left = run operations ∧ run (operations ++ [operation]) = run operations) ∧
    (∀ queries,
      ((∃ error, parseAll queries = .error error) ↔
        ∃ before query after, queries = before ++ query :: after ∧
          (query.1 ∈ before.map Prod.fst ∨ ∃ cause, Query.parse query.2 = .error cause)) ∧
      (∀ error, parseAll queries = .error error ↔
        ∃ before query after, queries = before ++ query :: after ∧ Parsable before ∧
          Fault (before.map Prod.fst) query error) ∧
      ∀ set, parseAll queries = .ok set → ∀ query ∈ queries, ∃ condition,
        Query.parse query.2 = .ok condition ∧ set.get? query.1 = some condition) ∧
    ∀ text, ((run operations).check text).entries.map Prod.fst = (run operations).names ∧
      ∀ name, ((run operations).check text).get? name = ((run operations).get? name).map
          (fun condition => .ofBool (condition.holds (.ofString text))) ∧
        ∀ others, (run others).get? name = (run operations).get? name →
          ((run others).check text).get? name = ((run operations).check text).get? name := by
  refine ⟨names_run operations, fun operation error left failed => ?_, fun queries => ?_,
    fun text => ⟨names_check _ text, fun name => ⟨get?_check _ text name, fun others same => ?_⟩⟩⟩
  · obtain rfl := perform_error failed
    exact ⟨rfl, by rw [run, List.foldl_concat, ← run, step, failed]⟩
  · exact ⟨exists_error_iff, fun error => parseAll_eq_error_iff, fun set => get?_of_parseAll⟩
  · rw [get?_check, get?_check, same]

/-- A name that is taken, a list with two faults, and a verdict. -/
theorem queries_of_run_sample :
    (run [.parseAll [("a", "x"), ("b", "y*")], .push "a" (.or []), .push "c" (.or [])]).names =
      ["a", "b", "c"] ∧
    parseAll [("a", "x"), ("a", "("), ("b", ")")] = .error (.duplicateName "a") ∧
    ((run [.parseAll [("a", "x"), ("b", "y*")], .push "a" (.or []), .push "c" (.or [])]).check
      "Yes").get? "b" = some .matched := by
  obtain ⟨⟨-, names⟩, -, parsing, rows⟩ := queries_of_run
    [.parseAll [("a", "x"), ("b", "y*")], .push "a" (.or []), .push "c" (.or [])]
  refine ⟨names.trans (by decide +kernel), ((parsing _).2.1 _).mpr ?_, ?_⟩
  · exact ⟨[("a", "x")], ("a", "("), [("b", ")")], rfl, by decide +kernel,
      .repeated (by decide)⟩
  · rw [((rows "Yes").2 "b").1]
    decide +kernel

end QuerySet

end TextQuery
