import Mathlib.Data.List.Infix
import TextQuery.Files.Tree
import TextQuery.Proofs.Text.Words

/-!
# Changed file trees

What each change does to what is found at a place, and which paths still lead where they led. A path is
followed through directories that stand in directories, so a change that keeps these keeps every path.
-/
set_option autoImplicit false

namespace TextQuery.Files

/-! ## Look-ups in lists of pairs -/

section Lookup

variable {α β : Type} [BEq α] [LawfulBEq α] {key : α}

theorem lookup_cons_of_ne {pair : α × β} (differs : key ≠ pair.1) (rest : List (α × β)) :
    (pair :: rest).lookup key = rest.lookup key := by
  rw [List.lookup_cons, beq_eq_false_iff_ne.mpr differs]

theorem lookup_filter {keep : α × β → Bool} (kept : ∀ value, keep (key, value) = true)
    (pairs : List (α × β)) : (pairs.filter keep).lookup key = pairs.lookup key := by
  induction pairs with
  | nil => rfl
  | cons pair rest ih =>
    by_cases same : key = pair.1
    · subst same
      rw [List.filter_cons_of_pos (kept pair.2), List.lookup_cons_self, List.lookup_cons_self]
    · rw [lookup_cons_of_ne same]
      by_cases stays : keep pair = true
      · rw [List.filter_cons_of_pos stays, lookup_cons_of_ne same, ih]
      · rw [List.filter_cons_of_neg stays, ih]

theorem lookup_map {source : α} {rename : α → α} {pairs : List (α × β)}
    (only : ∀ pair ∈ pairs, rename pair.1 = key ↔ pair.1 = source) :
    (pairs.map fun pair => (rename pair.1, pair.2)).lookup key = pairs.lookup source := by
  induction pairs with
  | nil => rfl
  | cons pair rest ih =>
    obtain ⟨first, others⟩ := List.forall_mem_cons.mp only
    rw [List.map_cons]
    by_cases same : pair.1 = source
    · rw [← same, ← first.mpr same, List.lookup_cons_self, List.lookup_cons_self]
    · have renamed : key ≠ rename pair.1 := fun equal => same (first.mp equal.symm)
      rw [lookup_cons_of_ne renamed, lookup_cons_of_ne (Ne.symm same), ih others]

end Lookup

/-- Two steps end well if both do. -/
theorem bind_eq_ok {ε α β : Type} {first : Except ε α} {next : α → Except ε β} {value : β} :
    (first >>= next) = .ok value ↔ ∃ found, first = .ok found ∧ next found = .ok value := by
  cases first with
  | error error => simp [bind, Except.bind]
  | ok found => simp [bind, Except.bind]

/-- The place that a path leads to if it leads anywhere. -/
def Path.location (path : Path) : Location := path.parts.foldl Location.enter (.startOf path)

namespace FileTree

variable {tree after : FileTree} {place other dir : Location}

/-! ## What is at a place -/

theorem get?_of_isGiven (tree : FileTree) (given : place.isGiven = true) :
    tree.get? place = some .directory := by
  rw [get?, if_pos given]

theorem isGiven_eq_false (found : tree.get? place ≠ some .directory) :
    place.isGiven = false :=
  Bool.eq_false_iff.mpr fun given => found (tree.get?_of_isGiven given)

theorem isGiven_append (free : place.isGiven = false) (rest : List Name) :
    Location.isGiven (place ++ rest) = false := by
  rw [Location.isGiven, decide_eq_false_iff_not, not_or] at free ⊢
  obtain ⟨notRoot, named⟩ := free
  refine ⟨fun atRoot => ?_, fun above => ?_⟩
  · cases place with
    | nil => exact named rfl
    | cons name place =>
      obtain ⟨rfl, nothing⟩ := List.cons.inj (show name :: (place ++ rest) = [['/']] from atRoot)
      exact notRoot (by rw [(List.append_eq_nil_iff.mp nothing).1, Location.root])
  · rw [List.all_append, Bool.and_eq_true] at above
    exact named above.1

theorem get?_of_free (tree : FileTree) (free : place.isGiven = false) :
    tree.get? place = tree.entries.lookup place := by
  rw [get?, if_neg (by simp [free])]

theorem not_prefix_of_mem_erase {pair : Location × Entry} (member : pair ∈ (tree.erase place).entries) :
    ¬ place <+: pair.1 := by
  have outside : place.isPrefixOf pair.1 = false := by
    simpa [erase] using (List.mem_filter.mp member).2
  exact fun inside => by simp [List.isPrefixOf_iff_prefix.mpr inside] at outside

theorem lookup_erase (tree : FileTree) (away : ¬ place <+: other) :
    (tree.erase place).entries.lookup other = tree.entries.lookup other := by
  have outside : place.isPrefixOf other = false :=
    Bool.eq_false_iff.mpr (mt List.isPrefixOf_iff_prefix.mp away)
  exact lookup_filter (by simp [outside]) tree.entries

/-- Nothing stays at or below what is taken away. -/
theorem get?_erase (tree : FileTree) (free : place.isGiven = false) :
    (tree.erase place).get? other = if place <+: other then none else tree.get? other := by
  by_cases below : place <+: other
  · obtain ⟨rest, rfl⟩ := below
    rw [if_pos (List.prefix_append _ _), get?_of_free _ (isGiven_append free rest),
      List.lookup_eq_none_iff]
    intro pair member
    rw [bne_iff_ne]
    exact fun same => not_prefix_of_mem_erase member ⟨rest, same⟩
  · rw [if_neg below, get?, get?, lookup_erase tree below]

theorem get?_put (tree : FileTree) (free : place.isGiven = false) (entry : Entry) :
    (tree.put place entry).get? other = if other = place then some entry else tree.get? other := by
  by_cases same : other = place
  · subst same
    have absent : (tree.entries.filter (·.1 ≠ other)).lookup other = none := by
      rw [List.lookup_eq_none_iff]
      intro pair member
      have differs : pair.1 ≠ other := by simpa using (List.mem_filter.mp member).2
      simpa using Ne.symm differs
    rw [if_pos rfl, get?_of_free _ free, put, List.lookup_append, absent, Option.none_or,
      List.lookup_cons_self]
  · have kept : (tree.entries.filter (·.1 ≠ place)).lookup other = tree.entries.lookup other :=
      lookup_filter (by simp [same]) tree.entries
    rw [if_neg same, get?, get?, put, List.lookup_append, kept, lookup_cons_of_ne same, List.lookup_nil,
      Option.or_none]

/-- Where something at a place is after a move. -/
def relocate (source target place : Location) : Location :=
  if source.isPrefixOf place then target ++ place.drop source.length else place

theorem entries_move (tree : FileTree) (source target : Location) :
    (tree.move source target).entries =
      (tree.erase target).entries.map fun pair => (relocate source target pair.1, pair.2) :=
  rfl

theorem relocate_append (source target rest : Location) :
    relocate source target (source ++ rest) = target ++ rest := by
  rw [relocate, if_pos (List.isPrefixOf_iff_prefix.mpr (List.prefix_append _ _)), List.drop_left]

theorem relocate_of_apart {source target : Location} (outside : ¬ source <+: place) :
    relocate source target place = place := by
  rw [relocate, if_neg (mt List.isPrefixOf_iff_prefix.mp outside)]

/-- A move does not touch what is neither at or below its source nor at or below its target. -/
theorem get?_move_of_apart {source target : Location} (tree : FileTree)
    (awayFromSource : ¬ source <+: place) (awayFromTarget : ¬ target <+: place) :
    (tree.move source target).get? place = tree.get? place := by
  have moved : (tree.move source target).entries.lookup place =
      (tree.erase target).entries.lookup place := by
    rw [entries_move]
    apply lookup_map
    intro pair _
    by_cases inside : source <+: pair.1
    · obtain ⟨below, here⟩ := inside
      rw [← here, relocate_append]
      constructor
      · exact fun same => absurd ⟨below, same⟩ awayFromTarget
      · exact fun same => absurd ⟨below, same⟩ awayFromSource
    · rw [relocate_of_apart inside]
  rw [get?, get?, moved, lookup_erase tree awayFromTarget]

/-- What is moved is found at the target. -/
theorem get?_move_target {source target : Location} (tree : FileTree) (freeSource : source.isGiven = false)
    (freeTarget : target.isGiven = false) (apart : ¬ target <+: source) (beside : ¬ source <+: target)
    (rest : Location) : (tree.move source target).get? (target ++ rest) = tree.get? (source ++ rest) := by
  have moved : (tree.move source target).entries.lookup (target ++ rest) =
      (tree.erase target).entries.lookup (source ++ rest) := by
    rw [entries_move]
    apply lookup_map
    intro pair member
    by_cases inside : source <+: pair.1
    · obtain ⟨below, here⟩ := inside
      rw [← here, relocate_append, List.append_cancel_left_eq, List.append_cancel_left_eq]
    · rw [relocate_of_apart inside]
      constructor
      · exact fun same => absurd ⟨rest, same.symm⟩ (not_prefix_of_mem_erase member)
      · exact fun same => absurd ⟨rest, same.symm⟩ inside
  have away : ¬ target <+: source ++ rest := fun inside =>
    (List.prefix_or_prefix_of_prefix inside (List.prefix_append source rest)).elim apart beside
  rw [get?_of_free _ (isGiven_append freeTarget rest), get?_of_free _ (isGiven_append freeSource rest), moved,
    lookup_erase tree away]

/-- Nothing stays where something was moved from. -/
theorem get?_move_source {source target : Location} (tree : FileTree) (free : source.isGiven = false)
    (apart : ¬ target <+: source) (beside : ¬ source <+: target) (rest : Location) :
    (tree.move source target).get? (source ++ rest) = none := by
  rw [get?_of_free _ (isGiven_append free rest), List.lookup_eq_none_iff, entries_move]
  intro moved member
  obtain ⟨pair, -, rfl⟩ := List.mem_map.mp member
  rw [bne_iff_ne]
  intro same
  by_cases inside : source <+: pair.1
  · obtain ⟨below, here⟩ := inside
    rw [← here, relocate_append] at same
    exact (List.prefix_or_prefix_of_prefix ⟨below, same.symm⟩ (List.prefix_append source rest)).elim apart
      beside
  · rw [relocate_of_apart inside] at same
    exact inside ⟨rest, same⟩

/-! ## Following paths -/

/-- Everything above the place is a directory. -/
def Anchored (tree : FileTree) (place : Location) : Prop :=
  ∀ above, above <+: place → above ≠ place → tree.get? above = some .directory

/-- The place and everything above it are directories. -/
def Reaches (tree : FileTree) (place : Location) : Prop :=
  ∀ above, above <+: place → tree.get? above = some .directory

/-- Directories that can be reached stay directories. -/
def Keeps (before after : FileTree) : Prop :=
  ∀ place, before.Reaches place → after.get? place = some .directory

theorem Reaches.mono (reaches : tree.Reaches place) (above : other <+: place) : tree.Reaches other :=
  fun further inside => reaches further (inside.trans above)

theorem Reaches.directory (reaches : tree.Reaches place) : tree.get? place = some .directory :=
  reaches place List.prefix_rfl

theorem Anchored.reaches (anchored : tree.Anchored place) (directory : tree.get? place = some .directory) :
    tree.Reaches place := by
  intro above inside
  by_cases same : above = place
  · rw [same, directory]
  · exact anchored above inside same

theorem Reaches.anchored (reaches : tree.Reaches place) : tree.Anchored place :=
  fun above inside _ => reaches above inside

theorem Reaches.anchored_append (reaches : tree.Reaches place) (name : Name) :
    tree.Anchored (place ++ [name]) := by
  intro above inside differs
  rcases List.prefix_concat_iff.mp inside with same | inside
  · exact absurd same differs
  · exact reaches above inside

theorem Reaches.anchored_enter (reaches : tree.Reaches place) (part : Name) :
    tree.Anchored (place.enter part) := by
  rw [Location.enter]
  split
  · exact reaches.anchored
  · split
    · rw [Location.parent]
      split
      · rename_i atRoot
        exact atRoot ▸ reaches.anchored
      · split
        · exact reaches.anchored_append _
        · exact (reaches.mono (List.dropLast_prefix place)).anchored
    · exact reaches.anchored_append part

theorem anchored_startOf (tree : FileTree) (path : Path) : tree.Anchored (.startOf path) := by
  intro above inside differs
  have nothing : above = [] := by
    rw [Location.startOf] at inside differs
    split at inside
    · rename_i absolute
      rw [if_pos absolute] at differs
      rcases List.prefix_concat_iff.mp (show above <+: [] ++ [['/']] from inside) with same | inside
      · exact absurd same differs
      · exact List.prefix_nil.mp inside
    · exact List.prefix_nil.mp inside
  exact tree.get?_of_isGiven (by rw [nothing]; rfl)

theorem step_eq_ok {part : Name} (walked : tree.step place part = .ok other) :
    tree.get? place = some .directory ∧ other = place.enter part := by
  rw [step] at walked
  split at walked
  · contradiction
  · contradiction
  · rename_i directory
    exact ⟨directory, (Except.ok.inj walked).symm⟩

theorem step_of_directory (directory : tree.get? place = some .directory) (part : Name) :
    tree.step place part = .ok (place.enter part) := by
  rw [step, directory]

theorem walk_cons (tree : FileTree) (place : Location) (part : Name) (parts : List Name) :
    tree.walk place (part :: parts) = tree.step place part >>= fun next => tree.walk next parts := by
  rw [walk, List.foldlM_cons]
  rfl

theorem walk_cons_eq_ok {part : Name} {parts : List Name} (walked : tree.walk place (part :: parts) = .ok other) :
    tree.get? place = some .directory ∧ tree.walk (place.enter part) parts = .ok other := by
  rw [walk_cons] at walked
  obtain ⟨next, first, walked⟩ := bind_eq_ok.mp walked
  obtain ⟨directory, rfl⟩ := step_eq_ok first
  exact ⟨directory, walked⟩

theorem Anchored.walk {parts : List Name} (anchored : tree.Anchored place)
    (walked : tree.walk place parts = .ok other) : tree.Anchored other := by
  induction parts generalizing place with
  | nil =>
    obtain rfl := Except.ok.inj walked
    exact anchored
  | cons part parts ih =>
    obtain ⟨directory, walked⟩ := walk_cons_eq_ok walked
    exact ih ((anchored.reaches directory).anchored_enter part) walked

/-- A path leads to the same place as long as the directories are kept. -/
theorem Keeps.walk {parts : List Name} (keeps : tree.Keeps after) (anchored : tree.Anchored place)
    (walked : tree.walk place parts = .ok other) : after.walk place parts = .ok other := by
  induction parts generalizing place with
  | nil => exact walked
  | cons part parts ih =>
    obtain ⟨directory, walked⟩ := walk_cons_eq_ok walked
    have reaches := anchored.reaches directory
    rw [walk_cons, step_of_directory (keeps place reaches)]
    exact ih (reaches.anchored_enter part) walked

theorem Keeps.reaches (keeps : tree.Keeps after) (reaches : tree.Reaches place) : after.Reaches place :=
  fun above inside => keeps above (reaches.mono inside)

theorem walk_append (tree : FileTree) (place : Location) (parts more : List Name) :
    tree.walk place (parts ++ more) = tree.walk place parts >>= fun next => tree.walk next more := by
  rw [walk, List.foldlM_append]
  rfl

theorem walk_concat_eq_ok {part : Name} {parts : List Name}
    (walked : tree.walk place (parts ++ [part]) = .ok other) :
    ∃ dir, tree.walk place parts = .ok dir ∧ tree.get? dir = some .directory ∧ other = dir.enter part := by
  rw [walk_append] at walked
  obtain ⟨dir, front, walked⟩ := bind_eq_ok.mp walked
  obtain ⟨directory, last⟩ := walk_cons_eq_ok walked
  exact ⟨dir, front, directory, (Except.ok.inj last).symm⟩

theorem walk_concat {parts : List Name} (walked : tree.walk place parts = .ok dir)
    (directory : tree.get? dir = some .directory) (part : Name) :
    tree.walk place (parts ++ [part]) = .ok (dir.enter part) := by
  rw [walk_append, walked]
  show tree.walk dir [part] = _
  rw [walk_cons, step_of_directory directory]
  rfl

theorem Keeps.locate {path : Path} (keeps : tree.Keeps after) (located : tree.locate path = .ok place) :
    after.locate path = .ok place := by
  rw [FileTree.locate] at located ⊢
  split at located
  · contradiction
  · rename_i filled
    rw [if_neg filled]
    exact keeps.walk (tree.anchored_startOf path) located

/-- A path that leads somewhere leads to the place that its parts name. -/
theorem walk_eq_ok {parts : List Name} (walked : tree.walk place parts = .ok other) :
    other = parts.foldl Location.enter place := by
  induction parts generalizing place with
  | nil => exact (Except.ok.inj walked).symm
  | cons part parts ih => exact ih (walk_cons_eq_ok walked).2

theorem locate_eq_ok {path : Path} (located : tree.locate path = .ok place) : place = path.location := by
  rw [locate] at located
  split at located
  · contradiction
  · exact walk_eq_ok located

theorem find_eq_ok {path : Path} {entry : Entry} (found : tree.find path = .ok (place, entry)) :
    tree.locate path = .ok place ∧ tree.get? place = some entry := by
  rw [find] at found
  obtain ⟨here, located, found⟩ := bind_eq_ok.mp found
  split at found
  · contradiction
  · rename_i file
    split at found <;> cases found
    exact ⟨located, file⟩
  · rename_i directory
    cases found
    exact ⟨located, directory⟩

theorem get?_of_find {path : Path} {entry : Entry} (found : tree.find path = .ok (place, entry)) :
    place = path.location ∧ tree.get? path.location = some entry := by
  obtain ⟨located, there⟩ := find_eq_ok found
  obtain rfl := locate_eq_ok located
  exact ⟨rfl, there⟩

theorem exists_of_contains {path : Path} (there : tree.contains path = true) :
    ∃ entry, tree.find path = .ok (path.location, entry) := by
  cases found : tree.find path with
  | error error => simp [contains, found, Except.toOption] at there
  | ok target =>
    obtain ⟨place, entry⟩ := target
    obtain ⟨rfl, -⟩ := get?_of_find found
    exact ⟨entry, rfl⟩

theorem anchored_of_locate {path : Path} (located : tree.locate path = .ok place) : tree.Anchored place := by
  rw [locate] at located
  split at located
  · contradiction
  · exact (tree.anchored_startOf path).walk located

theorem find_congr {path : Path} (first : tree.locate path = .ok place) (second : after.locate path = .ok place)
    (same : after.get? place = tree.get? place) : after.find path = tree.find path := by
  rw [find, find, first, second]
  simp only [bind, Except.bind, same]

/-! ## Changes that keep directories -/

theorem Reaches.not_below (reaches : tree.Reaches place) (noDirectory : tree.get? other ≠ some .directory) :
    ¬ other <+: place :=
  fun below => noDirectory (reaches other below)

theorem keeps_put (noDirectory : tree.get? place ≠ some .directory) (entry : Entry) :
    tree.Keeps (tree.put place entry) := by
  intro reached reaches
  have differs : reached ≠ place := fun same => noDirectory (same ▸ reaches.directory)
  rw [get?_put tree (isGiven_eq_false noDirectory), if_neg differs, reaches.directory]

/-! ## Finding and writing -/

variable {path : Path} {content : Bytes}

theorem find_eq_ok_file (found : tree.find path = .ok (place, .file content)) :
    tree.locate path = .ok place ∧ tree.get? place = some (.file content) ∧ path.endsInSlash = false := by
  rw [find] at found
  obtain ⟨here, located, found⟩ := bind_eq_ok.mp found
  split at found
  · contradiction
  · split at found
    · contradiction
    · rename_i file slash
      cases found
      exact ⟨located, file, Bool.eq_false_iff.mpr slash⟩
  · cases found

theorem find_of_file (located : tree.locate path = .ok place) (file : tree.get? place = some (.file content))
    (noSlash : path.endsInSlash = false) : tree.find path = .ok (place, .file content) := by
  rw [find, located]
  simp [bind, Except.bind, file, noSlash]

theorem write_eq_ok (written : tree.write path content = .ok after) :
    ∃ place, tree.locate path = .ok place ∧ path.endsInSlash = false ∧
      tree.get? place ≠ some .directory ∧ after = tree.put place (.file content) := by
  rw [write] at written
  obtain ⟨here, located, written⟩ := bind_eq_ok.mp written
  split at written
  · contradiction
  · rename_i slash
    split at written
    · contradiction
    · rename_i noDirectory
      exact ⟨here, located, Bool.eq_false_iff.mpr slash, noDirectory, (Except.ok.inj written).symm⟩

theorem eq_put_of_write (written : tree.write path content = .ok after) :
    after = tree.put path.location (.file content) := by
  obtain ⟨place, located, -, -, rfl⟩ := write_eq_ok written
  rw [locate_eq_ok located]

theorem write_of_located (located : tree.locate path = .ok place)
    (noDirectory : tree.get? place ≠ some .directory) (noSlash : path.endsInSlash = false) :
    tree.write path content = .ok (tree.put place (.file content)) := by
  rw [write, located]
  simp only [bind, Except.bind, noSlash, Bool.false_eq_true, if_false]

/-- What was written is found. -/
theorem find_of_write (written : tree.write path content = .ok after) :
    ∃ place, after.find path = .ok (place, .file content) := by
  obtain ⟨place, located, noSlash, noDirectory, rfl⟩ := write_eq_ok written
  refine ⟨place, find_of_file ((keeps_put noDirectory _).locate located) ?_ noSlash⟩
  rw [get?_put tree (isGiven_eq_false noDirectory), if_pos rfl]

theorem get?_of_read (read : tree.read path = .ok content) :
    tree.get? path.location = some (.file content) := by
  rw [FileTree.read] at read
  obtain ⟨⟨place, entry⟩, found, read⟩ := bind_eq_ok.mp read
  cases entry with
  | directory => contradiction
  | file bytes => rw [(get?_of_find found).2, Except.ok.inj read]

theorem read_of_find (found : tree.find path = .ok (place, .file content)) :
    tree.read path = .ok content := by
  rw [read, found]
  rfl

/-! ## Operations that end well -/

theorem remove_eq_ok (removed : tree.remove path = .ok after) : after = tree.erase path.location := by
  rw [remove] at removed
  obtain ⟨⟨place, entry⟩, found, removed⟩ := bind_eq_ok.mp removed
  obtain ⟨rfl, -⟩ := get?_of_find found
  cases entry with
  | directory => contradiction
  | file content => exact (Except.ok.inj removed).symm

theorem rename_eq_ok {target : Path} (differs : target.location ≠ path.location)
    (renamed : tree.rename path target = .ok after) : after = tree.move path.location target.location := by
  rw [rename] at renamed
  obtain ⟨⟨place, entry⟩, found, renamed⟩ := bind_eq_ok.mp renamed
  obtain ⟨rfl, -⟩ := get?_of_find found
  obtain ⟨goal, located, renamed⟩ := bind_eq_ok.mp renamed
  obtain rfl := locate_eq_ok located
  rw [if_neg differs] at renamed
  split at renamed
  · contradiction
  · contradiction
  · split at renamed
    · exact (Except.ok.inj renamed).symm
    · contradiction
  · exact (Except.ok.inj renamed).symm

theorem copy_eq_ok {target : Path} (copied : tree.copy path target = .ok after) :
    ∃ content, tree.get? path.location = some (.file content) ∧
      after = tree.put target.location (.file content) := by
  rw [copy] at copied
  obtain ⟨⟨place, entry⟩, found, copied⟩ := bind_eq_ok.mp copied
  cases entry with
  | directory => contradiction
  | file content => exact ⟨content, (get?_of_find found).2, eq_put_of_write copied⟩

end FileTree

end TextQuery.Files
