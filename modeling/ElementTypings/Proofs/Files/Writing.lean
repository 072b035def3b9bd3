import ElementTypings.Files.Access
import ElementTypings.Proofs.Files.Growth

/-!
# What writing an artifact does to the files

Writing an artifact takes one of five courses (`Artifact.Proceeds`), and ends in one of three ways
(`Artifact.Wrote`): the file holds the text already and the tree stays as it is; directories were
created where they were missing, and then the file got the text; or nothing was written, and at most
directories were created. In the first two cases the path of the artifact leads to a file that holds
the text (`Artifact.Wrote.exists_place`).
-/

namespace ElementTypings

namespace FileTree

/-! ### The operations of the commands on a tree -/

/-- A program that is run goes on where its first step ends. -/
theorem run_bind_eq {First Second : Type} {program : StateM FileTree First}
    {next : First → StateM FileTree Second} {tree after : FileTree} {value : First}
    (ran : program.run tree = (value, after)) :
    (program >>= next).run tree = (next value).run after := by
  rw [StateT.run_bind, ran]
  rfl

theorem run_workingDirectory (tree : FileTree) :
    (FileAccess.workingDirectory : StateM FileTree String).run tree =
      (pathOf tree.workingPlace, tree) :=
  rfl

theorem run_read (tree : FileTree) (path : String) :
    (FileAccess.read path : StateM FileTree Reading).run tree = (tree.read path, tree) :=
  rfl

/-- Directories are created as the tree creates them. -/
theorem run_createDirectories (tree : FileTree) (path : String) :
    (FileAccess.createDirectories path : StateM FileTree Bool).run tree =
      tree.createDirectories path :=
  rfl

/-- A file is written as the tree writes it, and a failing write changes nothing. -/
theorem run_write (tree : FileTree) (path content : String) :
    (FileAccess.write path content : StateM FileTree Bool).run tree =
      match tree.writeBytes path content.toUTF8 with
      | some after => (true, after)
      | none => (false, tree) :=
  rfl

/-- Bytes are stored at a place where there is no directory. -/
theorem exists_place_of_writeBytes {tree later : FileTree} {path : String} {content : ByteArray}
    (written : tree.writeBytes path content = some later) :
    ∃ place, tree.locate path = some place ∧ tree.at? place ≠ some .directory ∧
      later = tree.put place (.file content) := by
  unfold writeBytes at written
  split at written
  · cases written
  · next place located =>
    split at written
    · cases written
    · next free =>
      cases written
      exact ⟨place, located, free, rfl⟩

/-! ### Texts in files -/

/-- The bytes of a text are read as the text. -/
theorem fromUTF8?_toUTF8 (text : String) : String.fromUTF8? text.toUTF8 = some text := by
  unfold String.fromUTF8?
  exact dif_pos text.isValidUTF8

/-- A file that reads as a text holds the bytes of the text. -/
theorem find?_of_read {tree : FileTree} {path content : String}
    (read : tree.read path = .text content) : tree.find? path = some (.file content.toUTF8) := by
  unfold FileTree.read at read
  split at read
  · cases read
  · cases read
  · next bytes found =>
    split at read
    · next text decoded =>
      cases read
      obtain ⟨valid, rfl⟩ : ∃ valid : bytes.IsValidUTF8, String.fromUTF8 bytes valid = content := by
        unfold String.fromUTF8? at decoded
        split at decoded
        · next valid => exact ⟨valid, Option.some.inj decoded⟩
        · cases decoded
      rw [found]
      rfl
    · cases read

/-- A file that holds the bytes of a text reads as the text. -/
theorem read_of_find? {tree : FileTree} {path content : String}
    (found : tree.find? path = some (.file content.toUTF8)) : tree.read path = .text content := by
  unfold FileTree.read
  rw [found]
  simp only [fromUTF8?_toUTF8]

end FileTree

namespace Artifact

open FileTree

/-- A place at which a directory may be created for a file with this path. -/
def MayHold (path : String) (place : Place) : Prop :=
  ∃ directory, HostPath.parent path = some directory ∧
    ∃ above ∈ ancestry (directory.length + 1) directory, LeadsTo above place

/-- How writing an artifact ends: with an answer, and with a tree. -/
inductive Wrote (artifact : Artifact) (tree : FileTree) :
    Except WriteFailure WriteOutcome → FileTree → Prop
  /-- The file held the text. -/
  | found (held : tree.find? artifact.path = some (.file artifact.content.toUTF8)) :
      Wrote artifact tree (.ok .unchanged) tree
  /-- The file got the text, after directories were created. -/
  | stored {grown : FileTree} {place : Place} (grows : Grows (MayHold artifact.path) tree grown)
      (located : grown.locate artifact.path = some place)
      (free : grown.at? place ≠ some .directory) :
      Wrote artifact tree (.ok .written) (grown.put place (.file artifact.content.toUTF8))
  /-- Nothing was written. -/
  | refused {failure : WriteFailure} {grown : FileTree}
      (grows : Grows (MayHold artifact.path) tree grown) :
      Wrote artifact tree (.error failure) grown

variable {artifact : Artifact} {tree : FileTree}

/-- The tree in which the directory of a path is created, and whether it is there; a path without a
step has none. -/
def openFor (tree : FileTree) (path : String) : Bool × FileTree :=
  match HostPath.parent path with
  | none => (true, tree)
  | some directory => tree.createDirectories directory

/-- For a file in a directory, that directory is created. -/
theorem openFor_of_parent {path directory : String}
    (parent : HostPath.parent path = some directory) (tree : FileTree) :
    openFor tree path = tree.createDirectories directory := by
  rw [openFor, parent]

/-- Making way for a file adds directories above it, and nothing else. -/
theorem grows_openFor (tree : FileTree) (path : String) :
    Grows (MayHold path) tree (openFor tree path).2 := by
  cases parent : HostPath.parent path with
  | none =>
      rw [openFor, parent]
      exact Grows.refl _ tree
  | some directory =>
      rw [openFor_of_parent parent]
      exact (grows_createDirectories tree directory).mono fun place above =>
        ⟨directory, parent, above⟩

/-- How writing an artifact proceeds: from what is read over the directories that are created to the
bytes that are stored, as far as it gets. -/
inductive Proceeds (artifact : Artifact) (tree : FileTree) :
    Except WriteFailure WriteOutcome → FileTree → Prop
  | unreadable (read : tree.read artifact.path = .unreadable) :
      Proceeds artifact tree (.error (.unreadable artifact.path)) tree
  | found (read : tree.read artifact.path = .text artifact.content) :
      Proceeds artifact tree (.ok .unchanged) tree
  | noDirectory {directory : String} {grown : FileTree}
      (stale : tree.read artifact.path ≠ .text artifact.content)
      (parent : HostPath.parent artifact.path = some directory)
      (blocked : openFor tree artifact.path = (false, grown)) :
      Proceeds artifact tree (.error (.noDirectory directory)) grown
  | unwritable {grown : FileTree} (stale : tree.read artifact.path ≠ .text artifact.content)
      (opened : openFor tree artifact.path = (true, grown))
      (refused : grown.writeBytes artifact.path artifact.content.toUTF8 = none) :
      Proceeds artifact tree (.error (.unwritable artifact.path)) grown
  | stored {grown after : FileTree} (stale : tree.read artifact.path ≠ .text artifact.content)
      (opened : openFor tree artifact.path = (true, grown))
      (written : grown.writeBytes artifact.path artifact.content.toUTF8 = some after) :
      Proceeds artifact tree (.ok .written) after

/-- The last step of writing, in the tree with the directories that were created. -/
private theorem proceeds_finish {grown : FileTree}
    (stale : tree.read artifact.path ≠ .text artifact.content)
    (opened : openFor tree artifact.path = (true, grown))
    {answer : Except WriteFailure WriteOutcome} {after : FileTree}
    (ran : (persist.finish artifact : StateM FileTree _).run grown = (answer, after)) :
    artifact.Proceeds tree answer after := by
  have step := run_write grown artifact.path artifact.content
  cases written : grown.writeBytes artifact.path artifact.content.toUTF8 with
  | none =>
      rw [written] at step
      rw [persist.finish, run_bind_eq step] at ran
      cases ran
      exact .unwritable stale opened written
  | some stored =>
      rw [written] at step
      rw [persist.finish, run_bind_eq step] at ran
      cases ran
      exact .stored stale opened written

/-- Writing whatever the file holds takes the courses in which the file does not hold the text. -/
private theorem proceeds_persist (stale : tree.read artifact.path ≠ .text artifact.content)
    {answer : Except WriteFailure WriteOutcome} {after : FileTree}
    (ran : (artifact.persist : StateM FileTree _).run tree = (answer, after)) :
    artifact.Proceeds tree answer after := by
  unfold persist at ran
  cases parent : HostPath.parent artifact.path with
  | none =>
      rw [parent] at ran
      exact proceeds_finish stale (by rw [openFor, parent]) ran
  | some directory =>
      rw [parent] at ran
      rcases made : tree.createDirectories directory with ⟨ready, grown⟩
      rw [run_bind_eq ((run_createDirectories tree directory).trans made)] at ran
      cases ready with
      | false =>
          cases ran
          exact .noDirectory stale parent ((openFor_of_parent parent tree).trans made)
      | true => exact proceeds_finish stale ((openFor_of_parent parent tree).trans made) ran

/-- Writing an artifact takes one of the five courses. -/
theorem proceeds {answer : Except WriteFailure WriteOutcome} {after : FileTree}
    (ran : (artifact.write : StateM FileTree _).run tree = (answer, after)) :
    artifact.Proceeds tree answer after := by
  rw [write, run_bind_eq (run_read tree artifact.path)] at ran
  cases held : tree.read artifact.path with
  | absent =>
      rw [held] at ran
      exact proceeds_persist (by rw [held]; nofun) ran
  | unreadable =>
      rw [held] at ran
      cases ran
      exact .unreadable held
  | text current =>
      simp only [held] at ran
      by_cases same : current = artifact.content
      · rw [if_pos same] at ran
        cases ran
        exact .found (same ▸ held)
      · rw [if_neg same] at ran
        exact proceeds_persist (by rw [held]; exact same ∘ Reading.text.inj) ran

/-- Writing an artifact finds its text, stores it, or writes nothing. -/
theorem wrote {answer : Except WriteFailure WriteOutcome} {after : FileTree}
    (ran : (artifact.write : StateM FileTree _).run tree = (answer, after)) :
    artifact.Wrote tree answer after := by
  have grows := grows_openFor tree artifact.path
  cases proceeds ran with
  | unreadable read => exact .refused (Grows.refl _ tree)
  | found read => exact .found (find?_of_read read)
  | noDirectory stale parent blocked =>
      rw [blocked] at grows
      exact .refused grows
  | unwritable stale opened refused =>
      rw [opened] at grows
      exact .refused grows
  | stored stale opened written =>
      rw [opened] at grows
      obtain ⟨place, located, free, rfl⟩ := exists_place_of_writeBytes written
      exact .stored grows located free

/-- An artifact that is there already is found. -/
theorem run_write_of_found
    (found : tree.find? artifact.path = some (.file artifact.content.toUTF8)) :
    (artifact.write : StateM FileTree _).run tree = (.ok .unchanged, tree) := by
  rw [write, run_bind_eq (run_read tree artifact.path), read_of_find? found]
  exact congrArg (fun program => StateT.run program tree) (if_pos rfl)

/-- Nothing is written where something stands that is no text. -/
theorem run_write_of_unreadable (read : tree.read artifact.path = .unreadable) :
    (artifact.write : StateM FileTree _).run tree = (.error (.unreadable artifact.path), tree) := by
  rw [write, run_bind_eq (run_read tree artifact.path), read]
  rfl

namespace Wrote

variable {answer : Except WriteFailure WriteOutcome} {after : FileTree}

/-- Every directory stays, whatever the answer. -/
theorem directories (wrote : artifact.Wrote tree answer after) (place : Place)
    (directory : tree.at? place = some .directory) : after.at? place = some .directory := by
  cases wrote with
  | found held => exact directory
  | @stored grown reached grows located free =>
      have still := grows.directories place directory
      have different : place ≠ reached := by
        rintro rfl
        exact free still
      rw [at?_put_of_ne _ different, still]
  | refused grows => exact grows.directories place directory

/-- Writing does not move the working directory. -/
theorem working (wrote : artifact.Wrote tree answer after) :
    after.workingPlace = tree.workingPlace := by
  cases wrote with
  | found held => rfl
  | stored grows located free => exact grows.working
  | refused grows => exact grows.working

/-- A path that leads somewhere leads there still. -/
theorem locate (wrote : artifact.Wrote tree answer after) {path : String} {place : Place}
    (located : tree.locate path = some place) : after.locate path = some place :=
  locate_mono wrote.directories wrote.working located

/-- Whatever is refused, no file changes. -/
theorem fileAt?_of_error {failure : WriteFailure}
    (wrote : artifact.Wrote tree (.error failure) after) (place : Place) :
    after.fileAt? place = tree.fileAt? place := by
  cases wrote with
  | refused grows => exact grows.fileAt?_eq place

/-- Where writing succeeds the artifact is in the tree. -/
theorem exists_place {outcome : WriteOutcome} (wrote : artifact.Wrote tree (.ok outcome) after) :
    ∃ place, after.locate artifact.path = some place ∧
      after.at? place = some (.file artifact.content.toUTF8) ∧
      ∀ other, other ≠ place → after.fileAt? other = tree.fileAt? other := by
  cases wrote with
  | found held =>
      obtain ⟨place, located, present⟩ := Option.bind_eq_some_iff.mp held
      exact ⟨place, located, present, fun _ _ => rfl⟩
  | @stored grown place grows located free =>
      have below := ne_root_of_at? free
      have passable (passed : Place) (directory : grown.at? passed = some .directory) :
          (grown.put place (.file artifact.content.toUTF8)).at? passed = some .directory := by
        have different : passed ≠ place := by
          rintro rfl
          exact free directory
        rw [at?_put_of_ne _ different, directory]
      refine ⟨place, ?_, at?_put_self _ below, fun other different => ?_⟩
      · exact locate_mono passable rfl located
      · rw [fileAt?_congr (at?_put_of_ne _ different), grows.fileAt?_eq]

end Wrote

end Artifact

end ElementTypings
