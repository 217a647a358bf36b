import Mathlib.Data.List.Nodup
import TextQuery.Files.Backup
import TextQuery.Proofs.Files.Tree

/-!
# Places of backups

The backups of a path stand side by side in one directory, under names of their own, whatever the path is. So no
backup is at or below another, and the file itself is at or below none of them (`backupPlace_apart`,
`backupPlace_not_prefix_location`). They are counted up to the first that is missing (`contains_backup`,
`contains_backup_succ`).
-/
set_option autoImplicit false

namespace TextQuery.Files

variable {tree after : FileTree} {path : Path} {place dir : Location} {name : Name} {content : Bytes}
  {index : Nat}

/-! ## Names -/

/-- What the path of a backup adds to the path of the file. -/
def backupSuffix (index : Nat) : Name := '.' :: (Nat.repr index).toList

/-- Where the backup of a file stands. -/
def slot (dir : Location) (name : Name) (index : Nat) : Location := dir ++ [name ++ backupSuffix index]

theorem ne_slash_of_mem_backupSuffix : ∀ c ∈ backupSuffix index, c ≠ '/' := by
  intro c member
  rcases List.mem_cons.mp member with rfl | member
  · decide
  · rw [Nat.toList_repr] at member
    have digit := Nat.isDigit_of_mem_toDigits (by decide) (by decide) member
    rintro rfl
    contradiction

theorem backupSuffix_inj {first second : Nat} (same : backupSuffix first = backupSuffix second) :
    first = second := by
  have digits := (List.cons.inj same).2
  rw [Nat.toList_repr, Nat.toList_repr] at digits
  have value := congrArg (Nat.ofDigitChars 10 · 0) digits
  rwa [Nat.ofDigitChars_toDigits (by decide) (by decide),
    Nat.ofDigitChars_toDigits (by decide) (by decide)] at value

/-- The name of a backup ends in a digit, so it is not one of the names that lead nowhere or up. -/
theorem append_backupSuffix_ne (name : Name) (index : Nat) {other : Name} (dotted : ∀ c ∈ other, c = '.') :
    name ++ backupSuffix index ≠ other := by
  intro same
  obtain ⟨digit, rest, digits⟩ := List.exists_cons_of_ne_nil (show (Nat.repr index).toList ≠ [] by simp)
  have member : digit ∈ (Nat.repr index).toList := digits ▸ List.mem_cons_self
  have dot : digit = '.' :=
    dotted digit (same ▸ List.mem_append_right _ (List.mem_cons_of_mem _ member))
  rw [Nat.toList_repr] at member
  have isDigit := Nat.isDigit_of_mem_toDigits (by decide) (by decide) member
  rw [dot] at isDigit
  contradiction

theorem enter_append_backupSuffix (dir : Location) (name : Name) (index : Nat) :
    dir.enter (name ++ backupSuffix index) = slot dir name index := by
  rw [Location.enter, if_neg (append_backupSuffix_ne name index (by simp)),
    if_neg (append_backupSuffix_ne name index (by simp)), slot]

theorem concat_prefix_inj {first second : Name} (inside : dir ++ [first] <+: dir ++ [second]) :
    first = second := by
  have single := (List.prefix_append_right_inj dir).mp inside
  simpa using single

theorem slot_prefix_inj {first second : Nat} (inside : slot dir name first <+: slot dir name second) :
    first = second :=
  backupSuffix_inj (List.append_cancel_left (concat_prefix_inj inside))

theorem isGiven_slot (dir : Location) (name : Name) (index : Nat) : (slot dir name index).isGiven = false := by
  rw [Location.isGiven, decide_eq_false_iff_not, not_or]
  constructor
  · intro atRoot
    have last := (List.append_eq_singleton_iff.mp (atRoot.trans rfl : dir ++ _ = [['/']]))
    rcases last with ⟨-, single⟩ | ⟨-, nothing⟩
    · have slash : '.' ∈ ['/'] := by
        rw [← List.singleton_inj.mp single]
        exact List.mem_append_right _ List.mem_cons_self
      exact absurd slash (by decide)
    · exact absurd nothing (List.cons_ne_nil _ _)
  · intro above
    rw [slot, List.all_append, Bool.and_eq_true, List.all_cons, Bool.and_eq_true] at above
    exact append_backupSuffix_ne name index (by simp) (of_decide_eq_true above.2.1)

theorem slot_not_prefix_of_length_le {other : Location} (short : other.length ≤ dir.length) :
    ¬ slot dir name index <+: other := by
  intro inside
  have long := inside.length_le
  rw [slot, List.length_append, List.length_singleton] at long
  omega

/-- Nothing that a single name leads to from a directory is below a backup in that directory. -/
theorem slot_not_prefix_enter (dir : Location) (name : Name) (index : Nat) :
    ¬ slot dir name index <+: dir.enter name := by
  rw [Location.enter]
  split
  · exact slot_not_prefix_of_length_le le_rfl
  · split
    · rw [Location.parent]
      split
      · rename_i atRoot
        exact slot_not_prefix_of_length_le (by rw [atRoot])
      · split
        · exact fun inside => append_backupSuffix_ne name index (by simp) (concat_prefix_inj inside)
        · exact slot_not_prefix_of_length_le (List.dropLast_prefix dir).length_le
    · intro inside
      have longer := congrArg List.length (concat_prefix_inj inside)
      rw [List.length_append, backupSuffix, List.length_cons] at longer
      omega

/-! ## Places -/

namespace Path

/-- The place of a backup. -/
def backupPlace (path : Path) (index : Nat) : Location := (path.backup index).location

theorem startOf_backup (path : Path) (index : Nat) : Location.startOf (path.backup index) = .startOf path := by
  cases path with
  | mk chars =>
    cases chars with
    | nil => rfl
    | cons c rest => rfl

/-- The path of a backup has the parts of the path, and what it adds belongs to the last one. A path that is
empty or ends in a slash has no last one. -/
theorem exists_parts (path : Path) : ∃ above name,
    (path.parts = above ++ [name] ∨ (path.isEmpty ∨ path.endsInSlash) ∧ path.parts = above ∧ name = []) ∧
      ∀ index, (path.backup index).parts = above ++ [name ++ backupSuffix index] := by
  have solid : ∀ index, ∀ c ∈ backupSuffix index, decide (c = '/') = false := fun index c member =>
    decide_eq_false (ne_slash_of_mem_backupSuffix c member)
  have alone : ∀ index, Text.splitWords (· = '/') (backupSuffix index) = [backupSuffix index] := fun index =>
    Text.splitWords_eq_singleton (List.cons_ne_nil _ _) (solid index)
  have chars : ∀ index, (path.backup index).chars = path.chars ++ backupSuffix index := fun _ => rfl
  by_cases empty : path.chars = []
  · refine ⟨[], [], .inr ⟨.inl (by simp [isEmpty, empty]), by rw [parts, empty]; rfl, rfl⟩, fun index => ?_⟩
    rw [parts, chars, empty]
    exact alone index
  · by_cases slash : path.endsInSlash = true
    · obtain ⟨front, split⟩ := List.getLast?_eq_some_iff.mp (of_decide_eq_true slash)
      have isBlank : decide ('/' = '/') = true := rfl
      refine ⟨path.parts, [], .inr ⟨.inr slash, rfl, rfl⟩, fun index => ?_⟩
      rw [parts, parts, chars, split, List.append_assoc, List.singleton_append,
        Text.splitWords_append_cons isBlank, alone, Text.splitWords_append_cons isBlank]
      simp
    · have ends : ∀ c, path.chars.getLast? = some c → decide (c = '/') = false := by
        intro c last
        simpa [endsInSlash, last] using slash
      obtain ⟨above, name, -, split⟩ := Text.exists_last_word empty ends
      refine ⟨above, name, .inl ?_, fun index => ?_⟩
      · rw [parts, ← List.append_nil path.chars, split [] (by simp), List.append_nil]
      · rw [parts, chars, split _ (solid index)]

theorem exists_slot (path : Path) : ∃ dir name, (∀ index, path.backupPlace index = slot dir name index) ∧
    ∀ index, ¬ slot dir name index <+: path.location := by
  obtain ⟨above, name, whole, backups⟩ := path.exists_parts
  refine ⟨above.foldl Location.enter (.startOf path), name, fun index => ?_, fun index => ?_⟩
  · rw [backupPlace, location, backups, startOf_backup, List.foldl_concat, enter_append_backupSuffix]
  · rcases whole with named | ⟨-, unnamed, -⟩
    · rw [location, named, List.foldl_concat]
      exact slot_not_prefix_enter _ name index
    · rw [location, unnamed]
      exact slot_not_prefix_of_length_le le_rfl

/-- No backup is at or below another. -/
theorem backupPlace_prefix_inj {first second : Nat}
    (inside : path.backupPlace first <+: path.backupPlace second) : first = second := by
  obtain ⟨dir, name, slots, -⟩ := path.exists_slot
  rw [slots, slots] at inside
  exact slot_prefix_inj inside

theorem backupPlace_apart {first second : Nat} (differs : first ≠ second) :
    ¬ path.backupPlace first <+: path.backupPlace second :=
  fun inside => differs (backupPlace_prefix_inj inside)

theorem isGiven_backupPlace (path : Path) (index : Nat) : (path.backupPlace index).isGiven = false := by
  obtain ⟨dir, name, slots, -⟩ := path.exists_slot
  rw [slots, isGiven_slot]

/-- Backups are as deep as each other, so what is below one is not below another. -/
theorem prefix_backupPlace_append {first second : Nat} {rest : Location}
    (inside : path.backupPlace first <+: path.backupPlace second ++ rest) : first = second := by
  rcases List.prefix_or_prefix_of_prefix inside (List.prefix_append _ rest) with above | below
  · exact backupPlace_prefix_inj above
  · exact (backupPlace_prefix_inj below).symm

/-- What a path leads to is not below one of its backups. -/
theorem backupPlace_not_prefix_location (path : Path) (index : Nat) :
    ¬ path.backupPlace index <+: path.location := by
  obtain ⟨dir, name, slots, apart⟩ := path.exists_slot
  rw [slots]
  exact apart index

end Path

theorem endsInSlash_backup (path : Path) (index : Nat) : (path.backup index).endsInSlash = false := by
  have filled : backupSuffix index ≠ [] := List.cons_ne_nil _ _
  have last : (path.backup index).chars.getLast? = some ((backupSuffix index).getLast filled) := by
    show (path.chars ++ backupSuffix index).getLast? = _
    rw [List.getLast?_append, List.getLast?_eq_some_getLast filled, Option.some_or]
  rw [Path.endsInSlash, last]
  simpa using ne_slash_of_mem_backupSuffix _ (List.getLast_mem filled)

/-! ## Files and their backups -/

namespace FileTree

/-- The path leads to its place, and so do the paths of its backups. -/
structure Locates (tree : FileTree) (path : Path) : Prop where
  file : tree.locate path = .ok path.location
  backup : ∀ index, tree.locate (path.backup index) = .ok (path.backupPlace index)

/-- The path leads to a file, beside which its backups have their places. -/
structure Holds (tree : FileTree) (path : Path) (content : Bytes) : Prop extends Locates tree path where
  noSlash : path.endsInSlash = false
  content : tree.get? path.location = some (.file content)

/-- A path that leads to a file names it last. -/
theorem holds_of_find (found : tree.find path = .ok (place, .file content)) : tree.Holds path content := by
  obtain ⟨located, file, noSlash⟩ := find_eq_ok_file found
  obtain rfl := locate_eq_ok located
  have filled : path.isEmpty = false := by
    rw [locate] at located
    split at located
    · contradiction
    · exact Bool.eq_false_iff.mpr (by assumption)
  obtain ⟨above, name, named | ⟨unnamed, -⟩, backups⟩ := path.exists_parts
  · have walked : tree.walk (.startOf path) (above ++ [name]) = .ok path.location := by
      rwa [locate, filled, named] at located
    obtain ⟨dir, reached, directory, -⟩ := walk_concat_eq_ok walked
    refine ⟨⟨located, fun index => ?_⟩, noSlash, file⟩
    have beside : tree.locate (path.backup index) = .ok (dir.enter (name ++ backupSuffix index)) := by
      have more : (path.backup index).isEmpty = false := by simp [Path.isEmpty, Path.backup]
      rw [locate, more, backups, Path.startOf_backup, walk_concat reached directory]
      rfl
    rw [beside, locate_eq_ok beside, Path.backupPlace]
  · simp [filled, noSlash] at unnamed

theorem Locates.keeps (locates : tree.Locates path) (keeps : tree.Keeps after) : after.Locates path where
  file := keeps.locate locates.file
  backup := fun index => keeps.locate (locates.backup index)

theorem Locates.find_backup (locates : tree.Locates path) {entry : Entry}
    (there : tree.get? (path.backupPlace index) = some entry) :
    tree.find (path.backup index) = .ok (path.backupPlace index, entry) := by
  rw [find, locates.backup]
  cases entry <;> simp [bind, Except.bind, there, endsInSlash_backup]

theorem Locates.find_backup_of_none (locates : tree.Locates path)
    (absent : tree.get? (path.backupPlace index) = none) : tree.find (path.backup index) = .error .notFound := by
  rw [find, locates.backup]
  simp [bind, Except.bind, absent]

theorem Locates.contains_backup_iff (locates : tree.Locates path) :
    tree.contains (path.backup index) = true ↔ ∃ entry, tree.get? (path.backupPlace index) = some entry := by
  rw [contains]
  cases there : tree.get? (path.backupPlace index) with
  | none => simp [locates.find_backup_of_none there, Except.toOption]
  | some entry => simp [locates.find_backup there, Except.toOption]

theorem Locates.isDirectory_backup_iff (locates : tree.Locates path) :
    tree.isDirectory (path.backup index) = true ↔ tree.get? (path.backupPlace index) = some .directory := by
  rw [isDirectory]
  cases there : tree.get? (path.backupPlace index) with
  | none => simp [locates.find_backup_of_none there]
  | some entry => cases entry <;> simp [locates.find_backup there]

theorem Locates.read_backup (locates : tree.Locates path)
    (file : tree.get? (path.backupPlace index) = some (.file content)) :
    tree.read (path.backup index) = .ok content :=
  read_of_find (locates.find_backup file)

theorem Holds.find (holds : tree.Holds path content) : tree.find path = .ok (path.location, .file content) :=
  find_of_file holds.file holds.content holds.noSlash

/-! ## Counting backups -/

theorem backupCount_eq_findIdx (tree : FileTree) (path : Path) :
    tree.backupCount path =
      (List.range tree.entries.length).findIdx fun index => !tree.contains (path.backup (index + 1)) := by
  rw [backupCount, List.takeWhile_eq_take_findIdx_not, List.length_take]
  exact min_eq_left List.findIdx_le_length

theorem contains_backup (tree : FileTree) (path : Path) (positive : 0 < index)
    (counted : index ≤ tree.backupCount path) : tree.contains (path.backup index) = true := by
  obtain ⟨before, rfl⟩ := Nat.exists_eq_add_of_lt positive
  rw [backupCount_eq_findIdx, Nat.zero_add] at counted
  have there := List.not_of_lt_findIdx (Nat.lt_of_succ_le counted)
  simpa using there

theorem mem_entries {entry : Entry} (there : tree.get? place = some entry) (free : place.isGiven = false) :
    (place, entry) ∈ tree.entries := by
  rw [get?_of_free tree free, List.lookup_eq_some_iff] at there
  obtain ⟨before, behind, entries, -⟩ := there
  rw [entries]
  exact List.mem_append_right _ List.mem_cons_self

/-- Backups are different entries, so no more of them are there than entries. -/
theorem le_length_entries {count : Nat}
    (there : ∀ index, index < count → tree.contains (path.backup (index + 1)) = true) :
    count ≤ tree.entries.length := by
  have distinct : ((List.range count).map fun index => path.backupPlace (index + 1)).Nodup := by
    apply List.Nodup.map_on _ List.nodup_range
    intro first _ second _ same
    exact Nat.succ.inj (Path.backupPlace_prefix_inj (by rw [same]))
  have listed : ((List.range count).map fun index => path.backupPlace (index + 1)) ⊆
      tree.entries.map Prod.fst := by
    intro place member
    obtain ⟨index, below, rfl⟩ := List.mem_map.mp member
    obtain ⟨entry, found⟩ := exists_of_contains (there index (List.mem_range.mp below))
    exact List.mem_map_of_mem (mem_entries (find_eq_ok found).2 (path.isGiven_backupPlace _))
  have enough := distinct.length_le_of_subset listed
  rwa [List.length_map, List.length_range, List.length_map] at enough

/-- Behind the last backup that counts there is none. -/
theorem contains_backup_succ (tree : FileTree) (path : Path) :
    tree.contains (path.backup (tree.backupCount path + 1)) = false := by
  by_contra another
  have there : ∀ index, index < tree.backupCount path + 1 →
      tree.contains (path.backup (index + 1)) = true := by
    intro index counted
    rcases Nat.lt_succ_iff_lt_or_eq.mp counted with below | rfl
    · exact tree.contains_backup path (Nat.succ_pos index) below
    · exact Bool.of_not_eq_false another
  have inRange : (tree.backupCount path) < (List.range tree.entries.length).length := by
    rw [List.length_range]
    exact le_length_entries there
  rw [backupCount_eq_findIdx] at inRange another
  have absent := List.findIdx_getElem (w := inRange)
  simp only [List.getElem_range, Bool.not_eq_eq_eq_not, Bool.not_true] at absent
  exact another absent

end FileTree

end TextQuery.Files
