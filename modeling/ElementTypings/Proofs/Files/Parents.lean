import Mathlib.Logic.Relation
import ElementTypings.Proofs.Files.Growth

/-!
# The directories on the way to a file

The parent of a path is a part of its text that ends before a slash, or the root, or nothing at all
for a path of a single step (`HostPath.parent_cases`). A path that leads somewhere passes through
the directory that its parent leads to, and so through those that the paths above it lead to
(`FileTree.isDirectory_of_isAbove`).
-/

namespace ElementTypings

namespace HostPath

/-- What is left of a path up to its last step is an end of its parts. -/
theorem upToStep_isSuffix (parts : List (List Char)) : upToStep parts <:+ parts := by
  induction parts with
  | nil => exact List.suffix_refl []
  | cons piece earlier ih =>
      unfold upToStep
      split
      · exact List.suffix_refl _
      · exact ih.trans (List.suffix_cons piece earlier)

/-- The path above a path, if it is not empty, is the root or ends where a slash stands in the
path. -/
theorem parent_cases {path above : String} (parent : HostPath.parent path = some above) :
    above = "" ∨ above = "/" ∨ ∃ later, path = above ++ String.ofList ('/' :: later) := by
  unfold HostPath.parent at parent
  split at parent
  · cases parent
  · next piece earlier last =>
    split at parent
    · split at parent
      · exact Or.inr (Or.inl (Option.some.inj parent).symm)
      · exact Or.inl (Option.some.inj parent).symm
    · next some =>
      obtain ⟨skipped, whole⟩ := upToStep_isSuffix (pieces path).reverse
      obtain ⟨between, rest⟩ := upToStep_isSuffix earlier
      -- Read forwards, the path is the steps of the parent, then what was skipped around the last
      -- step.
      have cut : pieces path = (upToStep earlier).reverse ++
          (skipped ++ piece :: between).reverse := by
        rw [last, ← rest] at whole
        rw [← List.reverse_append, List.append_assoc, List.cons_append, whole,
          List.reverse_reverse]
      have text : path.toList = List.intercalate ['/'] (pieces path) :=
        (Text.intercalate_splitOn '/' path.toList).symm
      rw [cut, Text.intercalate_append '/' (by simpa using some) (by simp)] at text
      refine Or.inr (Or.inr ⟨List.intercalate ['/'] (skipped ++ piece :: between).reverse, ?_⟩)
      rw [← Option.some.inj parent, ofPieces, ← String.ofList_append, ← text, String.ofList_toList]

theorem parent_empty : parent "" = none := by
  decide +kernel

/-- A path lies above another one if it is its parent, or the parent of a path that lies above. -/
def IsAbove (above path : String) : Prop :=
  Relation.TransGen (fun lower upper => parent lower = some upper) path above

end HostPath

namespace FileTree

variable {tree : FileTree} {place : Place} {path above : String}

/-- A path that leads to a directory is the path of a directory. -/
theorem isDirectory_of_at? (located : tree.locate path = some place)
    (directory : tree.at? place = some .directory) : tree.isDirectory path := by
  rw [isDirectory, find?, located, Option.bind_some, directory]

/-- The path of a directory leads to one. -/
theorem exists_of_isDirectory (directory : tree.isDirectory path) :
    ∃ place, tree.locate path = some place ∧ tree.at? place = some .directory := by
  unfold isDirectory at directory
  split at directory
  · next found => exact Option.bind_eq_some_iff.mp found
  · cases directory

/-- A step needs a directory to start from. -/
theorem at?_of_step {piece : List Char} {next : Place}
    (stepped : tree.step place piece = some next) :
    tree.at? place = some .directory := by
  unfold step at stepped
  split at stepped
  · assumption
  · cases stepped

theorem isDirectory_root (tree : FileTree) : tree.isDirectory "/" := by
  have pieces : HostPath.pieces "/" = [[], []] := by decide
  have located : tree.locate "/" = some [] := by
    rw [locate, if_neg (by decide), pieces]
    rfl
  exact isDirectory_of_at? located rfl

/-- What a path leads to up to a slash is a directory, if the path leads anywhere. -/
theorem isDirectory_of_append {later : List Char} (named : above ≠ "")
    (located : tree.locate (above ++ String.ofList ('/' :: later)) = some place) :
    tree.isDirectory above := by
  have pieces : HostPath.pieces (above ++ String.ofList ('/' :: later)) =
      HostPath.pieces above ++ Text.splitOn '/' later := by
    rw [HostPath.pieces, String.toList_append, String.toList_ofList, Text.splitOn_append_cons]
    rfl
  have rooted : HostPath.isAbsolute (above ++ String.ofList ('/' :: later)) =
      HostPath.isAbsolute above := by
    cases text : above.toList with
    | nil => exact absurd (String.toList_eq_nil_iff.mp text) named
    | cons first rest => simp [HostPath.isAbsolute, text]
  unfold locate at located
  split at located
  · cases located
  · next valid =>
    rw [pieces, rooted, List.foldlM_append, Option.bind_eq_bind, Option.bind_eq_some_iff] at located
    obtain ⟨middle, reached, onward⟩ := located
    have there : tree.locate above = some middle := by
      rw [locate, if_neg ?_, reached]
      simp only [not_or, String.utf8ByteSize_append, String.toList_append, List.mem_append] at valid
      exact not_or.mpr ⟨named, not_or.mpr ⟨by omega, valid.2.2.1⟩⟩
    refine isDirectory_of_at? there ?_
    cases rest : Text.splitOn '/' later with
    | nil => exact absurd rest (Text.splitOn_ne_nil '/' later)
    | cons piece others =>
        rw [rest, List.foldlM_cons, Option.bind_eq_bind, Option.bind_eq_some_iff] at onward
        obtain ⟨next, stepped, -⟩ := onward
        exact at?_of_step stepped

/-- A path that leads somewhere passes through the directory that its parent leads to. -/
theorem isDirectory_of_parent (located : tree.locate path = some place)
    (parent : HostPath.parent path = some above) (named : above ≠ "") :
    tree.isDirectory above := by
  rcases HostPath.parent_cases parent with empty | rfl | ⟨later, rfl⟩
  · exact absurd empty named
  · exact tree.isDirectory_root
  · exact isDirectory_of_append named located

/-- A path that leads somewhere passes through the directories that the paths above it lead to. -/
theorem isDirectory_of_isAbove (located : tree.locate path = some place)
    (higher : HostPath.IsAbove above path) (named : above ≠ "") : tree.isDirectory above := by
  induction higher with
  | single parent => exact isDirectory_of_parent located parent named
  | @tail lower upper _ parent ih =>
      have lowerNamed : lower ≠ "" := by
        rintro rfl
        rw [HostPath.parent_empty] at parent
        cases parent
      obtain ⟨between, there, -⟩ := exists_of_isDirectory (ih lowerNamed)
      exact isDirectory_of_parent there parent named

end FileTree

end ElementTypings
