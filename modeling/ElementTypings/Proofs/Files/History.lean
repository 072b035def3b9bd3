import ElementTypings.Proofs.Files.Parents
import ElementTypings.Proofs.Files.Writing
import ElementTypings.Proofs.Outcome

/-!
# Writing after any history

Files are written, directories are created and files are deleted in any order (`FileStep`). All this
keeps a tree connected: whatever is in it lies in a directory of the tree (`FileTree.Connected`).
After any history, writing an artifact does what it answers (`Artifact.Does`): it leaves everything
alone where the text was there already, stores the text in one file and changes no other, or fails
and changes no file (`write_after_history`).
-/

namespace ElementTypings

namespace FileTree

variable {tree later : FileTree} {place : Place} {path : String}

/-- The bytes of a path are those of the file that it leads to. -/
theorem bytes?_eq_some_iff {content : ByteArray} :
    tree.bytes? path = some content ↔ tree.find? path = some (.file content) := by
  unfold bytes?
  cases tree.find? path with
  | none => simp
  | some entry => cases entry <;> simp

theorem read_of_isDirectory (directory : tree.isDirectory path) : tree.read path = .unreadable := by
  obtain ⟨place, located, there⟩ := exists_of_isDirectory directory
  have found : tree.find? path = some .directory :=
    Option.bind_eq_some_iff.mpr ⟨place, located, there⟩
  rw [read, found]

theorem read_of_garbled {content : ByteArray} (held : tree.bytes? path = some content)
    (garbled : String.fromUTF8? content = none) : tree.read path = .unreadable := by
  rw [read, bytes?_eq_some_iff.mp held]
  simp only [garbled]

/-! ### Connected trees -/

/-- Whatever is in the tree lies in a directory of the tree. -/
def Connected (tree : FileTree) : Prop :=
  ∀ place entry, tree.at? place = some entry → tree.at? place.dropLast = some .directory

/-- The tree with nothing but the root, and a place to start from. -/
def bare (workingPlace : Place) : FileTree :=
  ⟨[], workingPlace⟩

theorem connected_bare {workingPlace : Place} : (bare workingPlace).Connected := by
  intro place entry present
  by_cases root : place = []
  · rw [root]
    rfl
  · rw [at?, if_neg root] at present
    cases present

/-- A step stays where it is, goes up to the parent or down to a name. -/
theorem step_cases {piece : List Char} {next : Place}
    (stepped : tree.step place piece = some next) :
    next = place ∨ next = place.dropLast ∨ ∃ name, next = place ++ [name] := by
  unfold step at stepped
  split at stepped
  · split at stepped
    · exact Or.inl (Option.some.inj stepped).symm
    · split at stepped
      · exact Or.inr (Or.inl (Option.some.inj stepped).symm)
      · dsimp only at stepped
        split at stepped
        · cases stepped
        · exact Or.inr (Or.inr ⟨_, (Option.some.inj stepped).symm⟩)
  · cases stepped

namespace Connected

/-- A step leads into a directory, or to a place in one. -/
theorem dropLast_of_step (connected : tree.Connected) {piece : List Char} {next : Place}
    (stepped : tree.step place piece = some next) :
    tree.at? next.dropLast = some .directory := by
  have here : tree.at? place = some .directory := at?_of_step stepped
  have above : tree.at? place.dropLast = some .directory := connected place .directory here
  rcases step_cases stepped with rfl | rfl | ⟨name, rfl⟩
  · exact above
  · exact connected place.dropLast .directory above
  · rw [List.dropLast_concat]
    exact here

/-- In a connected tree the place that a path leads to lies in a directory. -/
theorem dropLast_of_locate (connected : tree.Connected) (located : tree.locate path = some place) :
    tree.at? place.dropLast = some .directory := by
  unfold locate at located
  split at located
  · cases located
  · obtain ⟨earlier, last, cut⟩ : ∃ earlier last, HostPath.pieces path = earlier ++ [last] :=
      ⟨_, _, (List.dropLast_concat_getLast (Text.splitOn_ne_nil '/' path.toList)).symm⟩
    rw [cut, List.foldlM_append, Option.bind_eq_bind, Option.bind_eq_some_iff] at located
    obtain ⟨middle, -, stepped⟩ := located
    rw [List.foldlM_cons, Option.bind_eq_bind, Option.bind_eq_some_iff] at stepped
    obtain ⟨next, stepped, same⟩ := stepped
    cases same
    exact connected.dropLast_of_step stepped

/-- Putting an entry into a directory keeps the tree connected, as long as no directory is
replaced. -/
theorem put (connected : tree.Connected) (parent : tree.at? place.dropLast = some .directory)
    (free : tree.at? place ≠ some .directory) (entry : FileEntry) :
    (tree.put place entry).Connected := by
  -- A directory of the old tree is not at the place, so it is still there.
  have stays {other : Place} (directory : tree.at? other = some .directory) :
      (tree.put place entry).at? other = some .directory := by
    have different : other ≠ place := by
      rintro rfl
      exact free directory
    rw [at?_put_of_ne _ different, directory]
  intro other found present
  by_cases same : other = place
  · rw [same]
    exact stays parent
  · rw [at?_put_of_ne _ same] at present
    exact stays (connected other found present)

/-- Taking an entry away keeps the tree connected, as long as it is no directory. -/
theorem drop (connected : tree.Connected) (free : tree.at? place ≠ some .directory) :
    (tree.drop place).Connected := by
  intro other found present
  have different : other ≠ place := by
    rintro rfl
    rw [at?_drop_self (ne_root_of_at? free)] at present
    cases present
  rw [at?_drop_of_ne different] at present
  have above := connected other found present
  have apart : other.dropLast ≠ place := by
    rintro same
    exact free (same ▸ above)
  rw [at?_drop_of_ne apart, above]

/-- A directory is created in a directory. -/
theorem makeDirectory (connected : tree.Connected) (made : tree.makeDirectory path = some later) :
    later.Connected := by
  unfold FileTree.makeDirectory at made
  split at made
  · cases made
  · next place located =>
    split at made
    · cases made
    · next absent =>
      cases made
      exact connected.put (connected.dropLast_of_locate located) (by rw [absent]; nofun) _

/-- So are those above it, one after another. -/
theorem createDirectories (connected : tree.Connected) (path : String) :
    (tree.createDirectories path).2.Connected :=
  createDirectories_keeps (fun _ _ _ _ kept made => kept.makeDirectory made) connected

/-- A file is written into a directory. -/
theorem writeBytes (connected : tree.Connected) {content : ByteArray}
    (written : tree.writeBytes path content = some later) : later.Connected := by
  obtain ⟨place, located, free, rfl⟩ := exists_place_of_writeBytes written
  exact connected.put (connected.dropLast_of_locate located) free _

/-- Only a file is removed. -/
theorem remove (connected : tree.Connected) (removed : tree.remove path = some later) :
    later.Connected := by
  unfold FileTree.remove at removed
  split at removed
  · cases removed
  · next place located =>
    split at removed
    · next content file =>
      cases removed
      exact connected.drop (by rw [file]; nofun)
    · cases removed

end Connected

end FileTree

/-- Writing an artifact keeps a tree connected, whether it succeeds or not. -/
theorem Artifact.Proceeds.connected {artifact : Artifact} {tree after : FileTree}
    {answer : Except WriteFailure WriteOutcome} (proceeds : artifact.Proceeds tree answer after)
    (connected : tree.Connected) : after.Connected := by
  have opening : (openFor tree artifact.path).2.Connected := by
    cases parent : HostPath.parent artifact.path with
    | none =>
        rw [openFor, parent]
        exact connected
    | some directory =>
        rw [openFor_of_parent parent]
        exact connected.createDirectories directory
  cases proceeds with
  | unreadable read => exact connected
  | found read => exact connected
  | noDirectory stale parent blocked =>
      rw [blocked] at opening
      exact opening
  | unwritable stale opened refused =>
      rw [opened] at opening
      exact opening
  | stored stale opened written =>
      rw [opened] at opening
      exact opening.writeBytes written

/-! ### Histories -/

/-- A step that may change the files. -/
inductive FileStep where
  /-- Writes an artifact. -/
  | write (artifact : Artifact)
  /-- Gives a file any bytes. -/
  | putBytes (path : String) (content : ByteArray)
  /-- Creates a directory in a directory. -/
  | makeDirectory (path : String)
  /-- Creates a directory and those above it. -/
  | createDirectories (path : String)
  /-- Deletes a file. -/
  | remove (path : String)

namespace FileTree

/-- The tree after a step; a step that fails may still have created directories. -/
def perform (tree : FileTree) : FileStep → FileTree
  | .write artifact => ((artifact.write : StateM FileTree _).run tree).2
  | .putBytes path content => (tree.writeBytes path content).getD tree
  | .makeDirectory path => (tree.makeDirectory path).getD tree
  | .createDirectories path => (tree.createDirectories path).2
  | .remove path => (tree.remove path).getD tree

/-- The tree after some steps. -/
def performAll (tree : FileTree) (steps : List FileStep) : FileTree :=
  steps.foldl perform tree

variable {tree : FileTree}

/-- An operation that may fail leaves the tree connected when it leaves it as it was. -/
theorem Connected.getD (connected : tree.Connected) {outcome : Option FileTree}
    (succeeds : ∀ later, outcome = some later → later.Connected) :
    (outcome.getD tree).Connected := by
  cases outcome with
  | none => exact connected
  | some later => exact succeeds later rfl

/-- **Every step keeps the tree connected**, whatever it does and whether it succeeds or not. -/
theorem Connected.perform (connected : tree.Connected) (step : FileStep) :
    (tree.perform step).Connected := by
  cases step with
  | write artifact => exact (Artifact.proceeds rfl).connected connected
  | putBytes path content => exact connected.getD fun _ => connected.writeBytes
  | makeDirectory path => exact connected.getD fun _ => connected.makeDirectory
  | createDirectories path => exact connected.createDirectories path
  | remove path => exact connected.getD fun _ => connected.remove

/-- So does every history of steps. -/
theorem Connected.performAll (connected : tree.Connected) (steps : List FileStep) :
    (tree.performAll steps).Connected := by
  induction steps generalizing tree with
  | nil => exact connected
  | cons step later ih => exact ih (connected.perform step)

end FileTree

/-! ### The next write -/

namespace Artifact

variable {artifact : Artifact} {before after : FileTree}
  {answer : Except WriteFailure WriteOutcome}

/-- What writing an artifact has done when it answers so: found the text and left all files and
directories alone; stored the text that was not at the path, below directories that are all there
now, and changed no other file; or failed and changed no file. Where the text is stored it may have
been before only if the path led nowhere, because it goes through a directory that was missing and
out of it again. -/
def Does (artifact : Artifact) (before after : FileTree) :
    Except WriteFailure WriteOutcome → Prop
  | .ok .unchanged =>
    before.bytes? artifact.path = some artifact.content.toUTF8 ∧ after = before
  | .ok .written =>
    before.bytes? artifact.path ≠ some artifact.content.toUTF8 ∧
      after.bytes? artifact.path = some artifact.content.toUTF8 ∧
      (∀ above, HostPath.IsAbove above artifact.path → above ≠ "" → after.isDirectory above) ∧
      ∃ place, after.locate artifact.path = some place ∧
        (before.fileAt? place = some artifact.content.toUTF8 →
          before.locate artifact.path = none) ∧
        ∀ other, other ≠ place → after.fileAt? other = before.fileAt? other
  | .error _ => ∀ place, after.fileAt? place = before.fileAt? place

/-- Writing does what it answers. -/
theorem does (ran : (artifact.write : StateM FileTree _).run before = (answer, after)) :
    artifact.Does before after answer := by
  have wrote := Artifact.wrote ran
  cases proceeds ran with
  | unreadable read => exact wrote.fileAt?_of_error
  | found read => exact ⟨FileTree.bytes?_eq_some_iff.mpr (FileTree.find?_of_read read), rfl⟩
  | noDirectory stale parent blocked => exact wrote.fileAt?_of_error
  | unwritable stale opened refused => exact wrote.fileAt?_of_error
  | stored stale opened written =>
      have absent : before.bytes? artifact.path ≠ some artifact.content.toUTF8 := fun present =>
        stale (FileTree.read_of_find? (FileTree.bytes?_eq_some_iff.mp present))
      obtain ⟨place, located, held, others⟩ := wrote.exists_place
      refine ⟨absent, ?_, fun above higher named => ?_, place, located, fun present => ?_, others⟩
      · exact FileTree.bytes?_eq_some_iff.mpr
          (Option.bind_eq_some_iff.mpr ⟨place, located, held⟩)
      · exact FileTree.isDirectory_of_isAbove located higher named
      · cases earlier : before.locate artifact.path with
        | none => rfl
        | some reached =>
            -- The path leads where it did, so the text was at the path.
            obtain rfl := Option.some.inj ((wrote.locate earlier).symm.trans located)
            have file := FileTree.fileAt?_eq_some_iff.mp present
            exact absurd (FileTree.bytes?_eq_some_iff.mpr
              (Option.bind_eq_some_iff.mpr ⟨reached, earlier, file⟩)) absent

/-- What is written, or found written, is found by the next write. -/
theorem run_write_again {outcome : WriteOutcome}
    (ran : (artifact.write : StateM FileTree _).run before = (.ok outcome, after)) :
    (artifact.write : StateM FileTree _).run after = (.ok .unchanged, after) := by
  obtain ⟨place, located, held, -⟩ := (Artifact.wrote ran).exists_place
  exact run_write_of_found (Option.bind_eq_some_iff.mpr ⟨place, located, held⟩)

/-- No artifact is written below a file. -/
theorem exists_failure_of_file_above
    (ran : (artifact.write : StateM FileTree _).run before = (answer, after)) {above : String}
    {content : ByteArray} (higher : HostPath.IsAbove above artifact.path)
    (held : before.bytes? above = some content) : ∃ failure, answer = .error failure := by
  cases answer with
  | error failure => exact ⟨failure, rfl⟩
  | ok outcome =>
      have wrote := Artifact.wrote ran
      obtain ⟨stored, reached, text, others⟩ := wrote.exists_place
      obtain ⟨place, located, file⟩ :=
        Option.bind_eq_some_iff.mp (FileTree.bytes?_eq_some_iff.mp held)
      have named : above ≠ "" := by
        rintro rfl
        cases located
      obtain ⟨_, still, directory⟩ := FileTree.exists_of_isDirectory
        (FileTree.isDirectory_of_isAbove reached higher named)
      -- The path above leads to a directory now, where the file was and no other can be.
      obtain rfl := Option.some.inj ((wrote.locate located).symm.trans still)
      have different : place ≠ stored := by
        rintro rfl
        rw [text] at directory
        cases directory
      have same := others place different
      rw [FileTree.fileAt?, FileTree.fileAt?, directory, file] at same
      cases same

/-- What holds of an artifact that was written, of the trees before and after and of the answer. -/
structure WriteEffect (artifact : Artifact) (before after : FileTree)
    (answer : Except WriteFailure WriteOutcome) : Prop where
  /-- What was done is what was answered. -/
  does : artifact.Does before after answer
  /-- A directory, or bytes that are no text, are left alone. -/
  refuses_unreadable : before.isDirectory artifact.path ∨
    (∃ content, before.bytes? artifact.path = some content ∧ String.fromUTF8? content = none) →
      answer = .error (.unreadable artifact.path) ∧ after = before
  /-- There is no writing below a file. -/
  refuses_below_file : ∀ above content, HostPath.IsAbove above artifact.path →
    before.bytes? above = some content → ∃ failure, answer = .error failure
  /-- After a success, writing the same once more changes nothing. -/
  finds_again : ∀ outcome, answer = .ok outcome →
    (artifact.write : StateM FileTree _).run after = (.ok .unchanged, after)

/-- Writing an artifact has the effect that its answer tells. -/
theorem writeEffect (ran : (artifact.write : StateM FileTree _).run before = (answer, after)) :
    artifact.WriteEffect before after answer where
  does := does ran
  refuses_unreadable present := by
    have read : before.read artifact.path = .unreadable := by
      rcases present with directory | ⟨content, held, garbled⟩
      · exact FileTree.read_of_isDirectory directory
      · exact FileTree.read_of_garbled held garbled
    cases ran.symm.trans (run_write_of_unreadable read)
    exact ⟨rfl, rfl⟩
  refuses_below_file above content higher held := exists_failure_of_file_above ran higher held
  finds_again outcome succeeded := by
    subst succeeded
    exact run_write_again ran

end Artifact

/-- **A write after any history.** Whatever has been done to the files, the next write does what it
answers, fails where a directory or bytes that are no text are at the path and where a file is above
it, and is repeated without a change if it succeeds; a connected tree stays connected all along. -/
theorem write_after_history (start : FileTree) (steps : List FileStep) (artifact : Artifact)
    {answer : Except WriteFailure WriteOutcome} {after : FileTree}
    (ran : (artifact.write : StateM FileTree _).run (start.performAll steps) = (answer, after)) :
    (start.Connected → (start.performAll steps).Connected ∧ after.Connected) ∧
      artifact.WriteEffect (start.performAll steps) after answer := by
  refine ⟨fun connected => ?_, Artifact.writeEffect ran⟩
  have reached := connected.performAll steps
  exact ⟨reached, (Artifact.proceeds ran).connected reached⟩

/-- Files that came and went, one of them with bytes that are no text. -/
def mixedHistory : List FileStep :=
  [.createDirectories "a", .putBytes "a/b" ⟨#[255]⟩, .makeDirectory "a/c", .write ⟨"c/x", "old"⟩,
    .remove "c/x", .write ⟨"c/y", "kept"⟩]

/-- An artifact whose path leads through a directory and out of it again. -/
def sideArtifact : Artifact :=
  ⟨"a/../c/x", "new"⟩

/-- The artifact is stored where another one was deleted, and found there afterwards. -/
theorem write_after_history_of_mixed :
    ∃ after, (sideArtifact.write : StateM FileTree _).run
        ((FileTree.bare []).performAll mixedHistory) = (.ok .written, after) ∧
      after.Connected ∧
      sideArtifact.WriteEffect ((FileTree.bare []).performAll mixedHistory) after
        (.ok .written) := by
  have answered : ((sideArtifact.write : StateM FileTree _).run
      ((FileTree.bare []).performAll mixedHistory)).1 = .ok .written :=
    eq_ok_of_toOption (by decide +kernel)
  obtain ⟨after, ran⟩ : ∃ after, (sideArtifact.write : StateM FileTree _).run
      ((FileTree.bare []).performAll mixedHistory) = (.ok .written, after) :=
    ⟨_, Prod.ext answered rfl⟩
  obtain ⟨connected, effect⟩ := write_after_history (FileTree.bare []) mixedHistory sideArtifact ran
  exact ⟨after, ran, (connected FileTree.connected_bare).2, effect⟩

end ElementTypings
