import TextQuery.Proofs.Files.Stages

/-!
# Contents after a rotation

If the backups of a file are files, a rotation can be done, and every path but theirs leads to what it led to.
It puts the content of the file in front of the contents of its backups and keeps as many of them as are wanted
(`contents_of_rotateBackups`).
-/
set_option autoImplicit false

namespace TextQuery.Files

variable {before tree after : FileTree} {path other : Path} {place : Location} {entry : Entry} {content : Bytes}
  {index limit kept : Nat}

/-! ## What a rotation leaves alone -/

/-- Nothing differs but what is at or below the backups with these numbers. -/
def AgreeBeside (before after : FileTree) (path : Path) (touched : Nat → Prop) : Prop :=
  ∀ place, (∀ index, touched index → ¬ path.backupPlace index <+: place) → after.get? place = before.get? place

/-- The numbers of the backups that a rotation has to do with. -/
def Concerned (before : FileTree) (path : Path) (limit index : Nat) : Prop :=
  0 < index ∧ index ≤ max (before.backupCount path) (min (before.backupCount path + 1) limit)

theorem Rearranged.beside {source : Nat → Option Nat} {touched : Nat → Prop}
    (moved : Rearranged before after path source)
    (untouched : ∀ index, ¬ touched index → source index = some index) : AgreeBeside before after path touched := by
  intro place beside
  by_cases inside : ∃ index, path.backupPlace index <+: place
  · obtain ⟨index, rest, rfl⟩ := inside
    rw [moved.backups, untouched index fun touches => beside index touches (List.prefix_append _ _)]
    rfl
  · exact moved.others place (not_exists.mp inside)

theorem Removed.beside (removed : Removed before after path limit index) (wanted : 0 < limit)
    (counted : index ≤ before.backupCount path + 1) :
    AgreeBeside before after path (Concerned before path limit) := by
  apply Rearranged.beside removed
  intro number untouched
  rw [Concerned] at untouched
  rw [removalSource, if_neg (by omega)]

theorem Shifted.beside (shifted : Shifted before after path limit kept) (wanted : 0 < limit) :
    AgreeBeside before after path (Concerned before path limit) := by
  apply Rearranged.beside shifted
  intro number untouched
  rw [Concerned] at untouched
  rw [moveSource, movedCount, if_neg (by omega), if_neg (by omega), removalSource, if_neg (by omega)]

namespace AgreeBeside

variable {touched : Nat → Prop}

theorem symm (agree : AgreeBeside before after path touched) : AgreeBeside after before path touched :=
  fun place beside => (agree place beside).symm

theorem put (agree : AgreeBeside before after path touched) (touches : touched index) (entry : Entry) :
    AgreeBeside before (after.put (path.backupPlace index) entry) path touched := by
  intro place beside
  have elsewhere : place ≠ path.backupPlace index := fun same => beside index touches (same ▸ List.prefix_rfl)
  rw [after.get?_put (path.isGiven_backupPlace index), if_neg elsewhere, agree place beside]

/-- Nothing can be reached through a backup that is not a directory. -/
theorem keeps (agree : AgreeBeside before after path touched)
    (noDirectories : ∀ index, touched index → before.get? (path.backupPlace index) ≠ some .directory) :
    before.Keeps after := by
  intro place reaches
  rw [agree place fun index touches => reaches.not_below (noDirectories index touches), reaches.directory]

/-- A path that leads elsewhere still leads there. -/
theorem find (agree : AgreeBeside before after path touched)
    (noDirectories : ∀ index, touched index → before.get? (path.backupPlace index) ≠ some .directory)
    (elsewhere : ∀ index, touched index → path.backupPlace index ≠ place)
    (found : before.find other = .ok (place, entry)) : after.find other = .ok (place, entry) := by
  obtain ⟨located, -⟩ := FileTree.find_eq_ok found
  have anchored := FileTree.anchored_of_locate located
  have beside : ∀ index, touched index → ¬ path.backupPlace index <+: place := fun index touches inside =>
    noDirectories index touches (anchored _ inside (elsewhere index touches))
  rw [FileTree.find_congr located ((agree.keeps noDirectories).locate located) (agree place beside), found]

end AgreeBeside

/-! ## What the stages hold -/

theorem Removed.get?_backup_of_le (removed : Removed before after path limit index) (number : Nat)
    (later : index ≤ number) : after.get? (path.backupPlace number) = before.get? (path.backupPlace number) := by
  rw [Rearranged.get?_backup removed, removalSource, if_neg (by omega)]
  rfl

/-- The backup that is to be moved next is where it was. -/
theorem Shifted.get?_backup_kept (shifted : Shifted before after path limit kept)
    (counted : kept ≤ movedCount before path limit) (positive : 0 < kept) :
    after.get? (path.backupPlace kept) = before.get? (path.backupPlace kept) := by
  rw [movedCount] at counted
  rw [Rearranged.get?_backup shifted, moveSource, if_neg (by omega), if_neg (by omega), removalSource,
    if_neg (by omega)]
  rfl

/-- The place behind it is free. -/
theorem Shifted.get?_backup_next (shifted : Shifted before after path limit kept)
    (counted : kept ≤ movedCount before path limit) (wanted : 0 < limit)
    (behind : before.get? (path.backupPlace (before.backupCount path + 1)) = none) :
    after.get? (path.backupPlace (kept + 1)) = none := by
  rw [movedCount] at counted
  rw [Rearranged.get?_backup shifted, moveSource, movedCount, if_neg (by omega)]
  by_cases vacated : kept < min (before.backupCount path) (limit - 1)
  · rw [if_pos ⟨rfl, vacated⟩]
    rfl
  · rw [if_neg (by omega), removalSource]
    split
    · rfl
    · have last : kept = before.backupCount path := by omega
      rw [last]
      exact behind

theorem Shifted.get?_backup_succ (shifted : Shifted before after path limit 0) (positive : 0 < index)
    (below : index < limit) (counted : index ≤ before.backupCount path) :
    after.get? (path.backupPlace (index + 1)) = before.get? (path.backupPlace index) := by
  rw [Rearranged.get?_backup shifted, moveSource, movedCount, if_pos (by omega)]
  rfl

theorem Shifted.get?_backup_beyond (shifted : Shifted before after path limit 0) (beyond : limit < index)
    (counted : index ≤ before.backupCount path) : after.get? (path.backupPlace index) = none := by
  rw [Rearranged.get?_backup shifted, moveSource, movedCount, if_neg (by omega), if_neg (by omega),
    removalSource, if_pos (by omega)]
  rfl

/-! ## Files that can be rotated -/

/-- The path leads to a file, and the backups that count are files. -/
structure FileTree.Backed (tree : FileTree) (path : Path) (content : Bytes) : Prop
    extends FileTree.Holds tree path content where
  files : ∀ index, 0 < index → index ≤ tree.backupCount path →
    ∃ older, tree.get? (path.backupPlace index) = some (.file older)

namespace FileTree

theorem Backed.behind (backed : tree.Backed path content) :
    tree.get? (path.backupPlace (tree.backupCount path + 1)) = none := by
  cases there : tree.get? (path.backupPlace (tree.backupCount path + 1)) with
  | none => rfl
  | some entry =>
    have another := backed.contains_backup_iff.mpr ⟨entry, there⟩
    rw [tree.contains_backup_succ path] at another
    contradiction

theorem Backed.ne_directory (backed : tree.Backed path content) (concerned : Concerned tree path limit index) :
    tree.get? (path.backupPlace index) ≠ some .directory := by
  obtain ⟨positive, bounded⟩ := concerned
  by_cases counted : index ≤ tree.backupCount path
  · obtain ⟨older, file⟩ := backed.files index positive counted
    simp [file]
  · have last : index = tree.backupCount path + 1 := by omega
    simp [last, backed.behind]

theorem Backed.locates (backed : tree.Backed path content)
    (agree : AgreeBeside tree after path (Concerned tree path limit)) : after.Locates path :=
  backed.toLocates.keeps (agree.keeps fun _ => backed.ne_directory)

/-- On a machine that does not fail no operation of a rotation fails. -/
theorem Backed.not_stopped {cause : FileError} (backed : tree.Backed path content) (wanted : 0 < limit) :
    ¬ Stopped .reliable tree path limit cause after := by
  intro stopped
  cases stopped with
  | @removing gone _ _ low counted removed refused =>
    have locates := backed.locates (removed.beside wanted (by omega))
    obtain ⟨older, file⟩ := backed.files gone (by omega) counted
    have here : after.get? (path.backupPlace gone) = some (.file older) := by
      rw [removed.get?_backup_of_le gone le_rfl, file]
    have done : after.perform (.remove (path.backup gone)) = .ok (after.erase (path.backupPlace gone)) := by
      rw [perform, remove, locates.find_backup here]
      rfl
    rw [Machine.reliable_perform_of_ok done] at refused
    cases refused
  | @moving kept _ _ positive counted shifted refused =>
    have locates := backed.locates (shifted.beside wanted)
    obtain ⟨older, file⟩ := backed.files kept positive (Nat.le_trans counted (Nat.min_le_left _ _))
    have here : after.get? (path.backupPlace kept) = some (.file older) := by
      rw [shifted.get?_backup_kept counted positive, file]
    have next := shifted.get?_backup_next counted wanted backed.behind
    have elsewhere : path.backupPlace (kept + 1) ≠ path.backupPlace kept := fun same =>
      absurd (Path.backupPlace_prefix_inj (by rw [same])) (Nat.succ_ne_self kept)
    have done : after.perform (.rename (path.backup kept) (path.backup (kept + 1))) =
        .ok (after.move (path.backupPlace kept) (path.backupPlace (kept + 1))) := by
      rw [perform, rename, locates.find_backup here]
      simp only [bind, Except.bind, locates.backup, if_neg elsewhere, next]
    rw [Machine.reliable_perform_of_ok done] at refused
    cases refused
  | @copying _ shifted _ all refused _ =>
    have locates := backed.locates (all.beside wanted)
    have file : shifted.get? path.location = some (.file content) := by
      rw [Rearranged.get?_location all, backed.content]
    have free : shifted.get? (path.backupPlace 1) = none :=
      all.get?_backup_next (Nat.zero_le _) wanted backed.behind
    have done : shifted.perform (.copy path (path.backup 1)) =
        .ok (shifted.put (path.backupPlace 1) (.file content)) := by
      rw [perform, copy, find_of_file locates.file file backed.noSlash]
      exact write_of_located (locates.backup 1) (by simp [free]) (endsInSlash_backup path 1)
    rw [Machine.reliable_perform_of_ok done] at refused
    cases refused

theorem Holds.contains (holds : tree.Holds path content) : tree.contains path = true := by
  rw [FileTree.contains, holds.find]
  rfl

/-- A file whose backups are files can be rotated. -/
theorem Backed.exists_rotateBackups (backed : tree.Backed path content) (wanted : 0 < limit) :
    ∃ shifted, Shifted tree shifted path limit 0 ∧
      Change.rotateBackups path limit tree =
        .ok () (shifted.put (path.backupPlace 1) (.file content)) := by
  obtain ⟨ends, stops⟩ := Machine.reliable.rotateBackups_stages tree path limit
  rw [Change.rotateBackups]
  cases run : Machine.reliable.rotateBackups path limit tree with
  | error cause after => exact absurd (stops cause after run).2 (backed.not_stopped wanted)
  | ok _ after =>
    cases ends after run with
    | idle nothing => exact absurd ⟨wanted, backed.contains⟩ nothing
    | @done copied shifted _ file all =>
      rw [backed.content] at file
      cases file
      exact ⟨shifted, all, rfl⟩

/-- What is there and no directory is a file. -/
theorem exists_holds_of_contains (there : tree.contains path = true)
    (noDirectory : tree.isDirectory path = false) : ∃ content, tree.Holds path content := by
  obtain ⟨entry, found⟩ := exists_of_contains there
  cases entry with
  | directory => simp [isDirectory, found] at noDirectory
  | file content => exact ⟨content, holds_of_find found⟩

theorem Holds.backed (holds : tree.Holds path content)
    (noDirectories : ∀ index, 0 < index → tree.isDirectory (path.backup index) = false) :
    tree.Backed path content where
  toHolds := holds
  files := by
    intro index positive counted
    obtain ⟨entry, there⟩ := holds.contains_backup_iff.mp (tree.contains_backup path positive counted)
    cases entry with
    | file older => exact ⟨older, there⟩
    | directory => exact absurd (holds.isDirectory_backup_iff.mpr there) (by simp [noDirectories index positive])

/-- The contents of the backups that count. -/
theorem Backed.exists_contents (backed : tree.Backed path content) :
    ∃ older : List Bytes, older.length = tree.backupCount path ∧ ∀ index bytes, older[index]? = some bytes →
      tree.get? (path.backupPlace (index + 1)) = some (.file bytes) := by
  have each : ∀ index, index < tree.backupCount path →
      ∃ older, tree.get? (path.backupPlace (index + 1)) = some (.file older) :=
    fun index below => backed.files (index + 1) (Nat.succ_pos index) below
  choose older file using each
  refine ⟨List.ofFn fun index : Fin (tree.backupCount path) => older index index.isLt, List.length_ofFn, ?_⟩
  intro index bytes found
  obtain ⟨inside, rfl⟩ := List.getElem?_eq_some_iff.mp found
  rw [List.length_ofFn] at inside
  rw [List.getElem_ofFn]
  exact file index inside

end FileTree

namespace Change

variable {older : List Bytes} {shifted : FileTree}

theorem get?_put_backup (tree : FileTree) (path : Path) (entry : Entry) (index : Nat) :
    (tree.put (path.backupPlace 1) entry).get? (path.backupPlace index) =
      if index = 1 then some entry else tree.get? (path.backupPlace index) := by
  rw [tree.get?_put (path.isGiven_backupPlace 1)]
  by_cases first : index = 1
  · rw [if_pos (by rw [first]), if_pos first]
  · rw [if_neg fun same => first (Path.backupPlace_prefix_inj (by rw [same])), if_neg first]

/-- The newest contents, as many as are wanted, are those of the backups. -/
theorem get?_rotated_succ (all : Shifted tree shifted path limit 0) (counted : older.length = tree.backupCount path)
    (contents : ∀ index bytes, older[index]? = some bytes →
      tree.get? (path.backupPlace (index + 1)) = some (.file bytes))
    (index : Nat) (bytes : Bytes) (listed : ((content :: older).take limit)[index]? = some bytes) :
    (shifted.put (path.backupPlace 1) (.file content)).get? (path.backupPlace (index + 1)) =
      some (.file bytes) := by
  obtain ⟨below, listed⟩ := Option.ite_none_right_eq_some.mp (List.getElem?_take ▸ listed)
  rw [get?_put_backup]
  cases index with
  | zero =>
    obtain rfl := Option.some.inj listed
    exact if_pos rfl
  | succ index =>
    rw [List.getElem?_cons_succ] at listed
    have inside := (List.getElem?_eq_some_iff.mp listed).1
    rw [if_neg (by omega), all.get?_backup_succ (Nat.succ_pos index) below (by omega)]
    exact contents index bytes listed

/-- No backup that the rotation has to do with is a directory afterwards. -/
theorem get?_rotated_ne_directory (all : Shifted tree shifted path limit 0) (wanted : 0 < limit)
    (counted : older.length = tree.backupCount path)
    (contents : ∀ index bytes, older[index]? = some bytes →
      tree.get? (path.backupPlace (index + 1)) = some (.file bytes))
    (index : Nat) (concerned : Concerned tree path limit index) :
    (shifted.put (path.backupPlace 1) (.file content)).get? (path.backupPlace index) ≠ some .directory := by
  obtain ⟨positive, bounded⟩ := concerned
  by_cases kept : index ≤ min (older.length + 1) limit
  · obtain ⟨index, rfl⟩ := Nat.exists_eq_add_one_of_ne_zero (Nat.ne_of_gt positive)
    have inside : index < ((content :: older).take limit).length := by
      rw [List.length_take, List.length_cons]
      omega
    rw [get?_rotated_succ all counted contents index _ (List.getElem?_eq_getElem inside)]
    simp
  · rw [get?_put_backup, if_neg (by omega), all.get?_backup_beyond (by omega) (by omega)]
    simp

/-- Rotation of a file whose backups are files. With no limit or without the file nothing happens. Otherwise
the file stays, its content and those of the backups that are there without a gap are the contents of the
backups afterwards, as many as are wanted, what is beyond is gone, and all other paths lead where they led. -/
theorem contents_of_rotateBackups (tree : FileTree) (path : Path) (limit : Nat)
    (noDirectory : tree.isDirectory path = false)
    (noDirectories : ∀ index, 0 < index → tree.isDirectory (path.backup index) = false) :
    (limit = 0 ∨ tree.contains path = false → rotateBackups path limit tree = .ok () tree) ∧
    (0 < limit → tree.contains path = true → ∃ content older after,
      tree.read path = .ok content ∧
      (∀ index bytes, older[index]? = some bytes → tree.read (path.backup (index + 1)) = .ok bytes) ∧
      tree.contains (path.backup (older.length + 1)) = false ∧
      rotateBackups path limit tree = .ok () after ∧
      after.read path = .ok content ∧
      (∀ index bytes, ((content :: older).take limit)[index]? = some bytes →
        after.read (path.backup (index + 1)) = .ok bytes) ∧
      (∀ index, min (older.length + 1) limit < index → index ≤ older.length →
        after.contains (path.backup index) = false) ∧
      ∀ other place entry,
        (∀ index, 0 < index → index ≤ max older.length (min (older.length + 1) limit) →
          tree.locate (path.backup index) ≠ .ok place) →
        (after.find other = .ok (place, entry) ↔ tree.find other = .ok (place, entry))) := by
  constructor
  · intro idle
    refine Machine.rotateBackups_of_not_due .reliable ?_
    rintro ⟨wanted, there⟩
    rcases idle with rfl | missing
    · contradiction
    · rw [missing] at there
      contradiction
  · intro wanted there
    obtain ⟨content, holds⟩ := FileTree.exists_holds_of_contains there noDirectory
    have backed := holds.backed noDirectories
    obtain ⟨older, counted, contents⟩ := backed.exists_contents
    obtain ⟨shifted, all, run⟩ := backed.exists_rotateBackups wanted
    have concerned : Concerned tree path limit 1 := ⟨Nat.one_pos, by omega⟩
    have agree := (all.beside wanted).put concerned (.file content)
    have kept := backed.locates agree
    have file : (shifted.put (path.backupPlace 1) (.file content)).get? path.location = some (.file content) := by
      rw [agree _ fun index _ => path.backupPlace_not_prefix_location index, holds.content]
    refine ⟨content, older, _, FileTree.read_of_find holds.find, ?_, ?_, run, ?_, ?_, ?_, ?_⟩
    · exact fun index bytes listed => holds.read_backup (contents index bytes listed)
    · rw [counted, tree.contains_backup_succ path]
    · exact FileTree.read_of_find (FileTree.find_of_file kept.file file holds.noSlash)
    · exact fun index bytes listed =>
        kept.read_backup (get?_rotated_succ all counted contents index bytes listed)
    · intro index beyond inside
      refine Bool.eq_false_iff.mpr fun there => ?_
      obtain ⟨entry, there⟩ := kept.contains_backup_iff.mp there
      rw [get?_put_backup, if_neg (by omega), all.get?_backup_beyond (by omega) (by omega)] at there
      contradiction
    · intro other place entry elsewhere
      have apart : ∀ index, Concerned tree path limit index → path.backupPlace index ≠ place :=
        fun index concerned same =>
          elsewhere index concerned.1 (counted ▸ concerned.2) (same ▸ holds.backup index)
      exact ⟨agree.symm.find (get?_rotated_ne_directory all wanted counted contents) apart,
        agree.find (fun index => backed.ne_directory) apart⟩

/-! More backups than are wanted, and one more behind a gap. -/

def backedTree : FileTree := ⟨[
  (["out.csv".toList], .file (Bytes.ofString "fourth")),
  (["out.csv.1".toList], .file (Bytes.ofString "third")),
  (["out.csv.2".toList], .file (Bytes.ofString "second")),
  (["out.csv.4".toList], .file (Bytes.ofString "first"))]⟩

theorem isDirectory_backup_backedTree (index : Nat) :
    backedTree.isDirectory ((Path.ofString "out.csv").backup index) = false := by
  have found : backedTree.find (.ofString "out.csv") =
      .ok (["out.csv".toList], .file (Bytes.ofString "fourth")) := by decide +kernel
  refine Bool.eq_false_iff.mpr fun isDirectory => ?_
  have directory := (FileTree.holds_of_find found).isDirectory_backup_iff.mp isDirectory
  have member := FileTree.mem_entries directory (Path.isGiven_backupPlace _ index)
  simp [backedTree] at member

/-- Of three versions two are kept, and what stands behind a gap stays. -/
theorem contents_of_rotateBackups_gap :
    backedTree.isDirectory (.ofString "out.csv") = false ∧
    (∀ index, 0 < index → backedTree.isDirectory ((Path.ofString "out.csv").backup index) = false) ∧
    0 < 2 ∧ backedTree.contains (.ofString "out.csv") = true ∧
    ∃ after, rotateBackups (.ofString "out.csv") 2 backedTree = .ok () after ∧
      after.read ((Path.ofString "out.csv").backup 2) = .ok (Bytes.ofString "third") ∧
      after.find ((Path.ofString "out.csv").backup 4) =
        .ok (["out.csv.4".toList], .file (Bytes.ofString "first")) := by
  have file : backedTree.isDirectory (.ofString "out.csv") = false := by decide +kernel
  have there : backedTree.contains (.ofString "out.csv") = true := by decide +kernel
  have files := fun index (_ : 0 < index) => isDirectory_backup_backedTree index
  obtain ⟨content, older, after, -, held, behind, run, -, contents, -, others⟩ :=
    (contents_of_rotateBackups backedTree (.ofString "out.csv") 2 file files).2 (by decide) there
  refine ⟨file, files, by decide, there, after, run, ?_, ?_⟩
  · cases older with
    | nil => exact absurd behind (by decide +kernel)
    | cons newest rest =>
      have first : backedTree.read ((Path.ofString "out.csv").backup 1) = .ok (Bytes.ofString "third") := by
        decide +kernel
      rw [Except.ok.inj (first.symm.trans (held 0 newest rfl))]
      exact contents 1 newest rfl
  · have few : older.length ≤ 2 := by
      by_contra more
      have listed := List.getElem?_eq_getElem (show 2 < older.length by omega)
      have missing : (backedTree.read ((Path.ofString "out.csv").backup 3)).toOption = none := by
        decide +kernel
      rw [held 2 _ listed] at missing
      exact Option.some_ne_none _ missing
    refine (others ((Path.ofString "out.csv").backup 4) _ _ fun index positive bounded => ?_).mpr ?_
    · obtain rfl | rfl : index = 1 ∨ index = 2 := by omega
      · decide +kernel
      · decide +kernel
    · decide +kernel

end Change

end TextQuery.Files
