import ElementTypings.Proofs.Files.Writing
import ElementTypings.Proofs.Path.Host

/-!
# Where directories are created

A path of names leads to the place of these names in every tree in which it leads anywhere
(`FileTree.locate_rooted`). The directories that are created for a file of such a path are therefore
those above the file, and no others (`Artifact.isPrefix_of_mayHold`). Writing the file changes a
tree at its place and on the way to it, and nowhere else (`FileTree.Gains`), so that other files
read as before.
-/

namespace ElementTypings

open LexicalPath (IsName)
open HostPath (rooted)

namespace FileTree

variable {tree : FileTree} {place : Place} {names : List Segment}

/-- A name leads one step down. -/
theorem step_of_isName {name : Segment} (named : IsName name) {start : Place}
    (stepped : tree.step start name = some place) : place = start ++ [String.ofList name] := by
  have here : name ≠ ['.'] := named.ne_here
  have up : name ≠ ['.', '.'] := named.ne_up
  unfold step at stepped
  split at stepped
  · rw [if_neg (not_or.mpr ⟨named.ne_nil, here⟩), if_neg up] at stepped
    dsimp only at stepped
    split at stepped
    · cases stepped
    · exact (Option.some.inj stepped).symm
  · cases stepped

/-- Names lead down step by step. -/
theorem foldlM_step_of_isName (named : ∀ name ∈ names, IsName name) {start : Place}
    (reached : names.foldlM tree.step start = some place) :
    place = start ++ names.map String.ofList := by
  induction names generalizing start with
  | nil =>
      cases reached
      simp
  | cons name later ih =>
      rw [List.foldlM_cons, Option.bind_eq_bind, Option.bind_eq_some_iff] at reached
      obtain ⟨next, stepped, reached⟩ := reached
      rw [ih (fun other listed => named other (List.mem_cons_of_mem _ listed)) reached,
        step_of_isName (named name List.mem_cons_self) stepped]
      simp

/-- An empty name leads nowhere else. -/
theorem step_nil (start next : Place) (stepped : tree.step start [] = some next) :
    next = start := by
  unfold step at stepped
  split at stepped
  · exact (Option.some.inj stepped).symm
  · cases stepped

/-- A path of names leads to the place of the names. -/
theorem locate_rooted (named : ∀ name ∈ names, IsName name)
    (located : tree.locate (rooted names) = some place) : place = names.map String.ofList := by
  unfold locate at located
  split at located
  · cases located
  · rw [if_pos (HostPath.isAbsolute_rooted names)] at located
    by_cases none : names = []
    · subst none
      exact (Option.some.inj located).symm
    · rw [HostPath.pieces_rooted named none, List.foldlM_cons, Option.bind_eq_bind,
        Option.bind_eq_some_iff] at located
      obtain ⟨start, stepped, reached⟩ := located
      rw [foldlM_step_of_isName named reached, step_nil _ _ stepped, List.nil_append]

/-- A name leads to the place below the working directory. -/
theorem locate_name {name : String} (named : IsName name.toList)
    (short : name.utf8ByteSize ≤ longestName) (clean : '\x00' ∉ name.toList)
    (working : tree.at? tree.workingPlace = some .directory) :
    tree.locate name = some (tree.workingPlace ++ [name]) := by
  have some : name ≠ "" := by
    rintro rfl
    exact named.ne_nil rfl
  have here : name.toList ≠ ['.'] := named.ne_here
  have up : name.toList ≠ ['.', '.'] := named.ne_up
  have relative : HostPath.isAbsolute name = false := by
    cases text : name.toList with
    | nil => exact absurd text named.ne_nil
    | cons first later =>
        have other : first ≠ '/' := by
          rintro rfl
          exact named.no_slash (text ▸ List.mem_cons_self)
        simp [HostPath.isAbsolute, text, other]
  have valid : ¬ (name = "" ∨ longestPath < name.utf8ByteSize ∨ '\x00' ∈ name.toList) := by
    have longer : longestName ≤ longestPath := by decide
    simp only [some, clean, or_false, false_or]
    omega
  have stepped : tree.step tree.workingPlace name.toList = tree.workingPlace ++ [name] := by
    rw [step, working]
    dsimp only
    rw [if_neg (not_or.mpr ⟨named.ne_nil, here⟩), if_neg up, String.ofList_toList,
      if_neg (not_lt.mpr short)]
  rw [locate, if_neg valid, relative, HostPath.pieces, Text.splitOn_of_not_mem named.no_slash,
    List.foldlM_cons, if_neg Bool.false_ne_true, stepped]
  rfl

/-- A path of names has no slash to spare at its end. -/
theorem trimSlashes_rooted (named : ∀ name ∈ names, IsName name) (some : names ≠ []) :
    trimSlashes (rooted names) = rooted names := by
  obtain ⟨earlier, last, rfl⟩ : ∃ earlier last, names = earlier ++ [last] :=
    ⟨_, _, (List.dropLast_concat_getLast some).symm⟩
  have name : IsName last := named last (by simp)
  obtain ⟨start, char, ends⟩ : ∃ start char, last = start ++ [char] :=
    ⟨_, _, (List.dropLast_concat_getLast name.ne_nil).symm⟩
  have other : char ≠ '/' := by
    rintro rfl
    exact name.no_slash (by simp [ends])
  obtain ⟨before, text⟩ : ∃ before, (rooted (earlier ++ [last])).toList = before ++ [char] := by
    rw [rooted, String.toList_ofList]
    by_cases none : earlier = []
    · exact ⟨'/' :: start, by simp [none, ends]⟩
    · rw [Text.intercalate_append_singleton '/' none, ends]
      exact ⟨'/' :: (List.intercalate ['/'] earlier ++ '/' :: start), by simp⟩
  have kept : (before ++ [char]).reverse.dropWhile (· == '/') = (before ++ [char]).reverse := by
    rw [List.reverse_append, List.reverse_singleton, List.singleton_append,
      List.dropWhile_cons_of_neg (by simpa using other)]
  rw [trimSlashes, text, kept, List.reverse_reverse, ← text, String.ofList_toList]

/-- A path of names leads to the place of these names, in whatever tree. -/
theorem eq_of_leadsTo (named : ∀ name ∈ names, IsName name) (leads : LeadsTo (rooted names) place) :
    place = names.map String.ofList := by
  obtain ⟨tree, located⟩ := leads
  by_cases none : names = []
  · subst none
    have nowhere : tree.locate (trimSlashes (rooted [])) = Option.none := by
      rw [show trimSlashes (rooted []) = "" by decide +kernel]
      rfl
    rw [nowhere] at located
    cases located
  · rw [trimSlashes_rooted named none] at located
    exact locate_rooted named located

/-- The paths above a path of names are those of the first names. -/
theorem exists_prefix_of_mem_ancestry (named : ∀ name ∈ names, IsName name) {count : Nat}
    {path : String} (listed : path ∈ ancestry count (rooted names)) :
    ∃ above, path = rooted above ∧ above <+: names := by
  induction count generalizing names with
  | zero => cases listed
  | succ count ih =>
      rcases List.mem_cons.mp listed with rfl | higher
      · exact ⟨names, rfl, List.prefix_refl names⟩
      · rcases List.eq_nil_or_concat names with rfl | ⟨earlier, last, rfl⟩
        · rw [HostPath.parent_rooted_nil] at higher
          cases higher
        · rw [List.concat_eq_append] at named higher
          rw [HostPath.parent_rooted_concat named] at higher
          obtain ⟨above, same, starts⟩ := ih
            (fun name member => named name (List.mem_append_left _ member)) higher
          rw [List.concat_eq_append]
          exact ⟨above, same, starts.trans (List.prefix_append _ _)⟩

end FileTree

/-- The directories that are created for a file of a path of names lie above the file. -/
theorem Artifact.isPrefix_of_mayHold {names : List Segment} {last : Segment} {place : Place}
    (named : ∀ name ∈ names ++ [last], IsName name)
    (created : MayHold (rooted (names ++ [last])) place) :
    place <+: names.map String.ofList := by
  obtain ⟨directory, parent, path, listed, leads⟩ := created
  rw [HostPath.parent_rooted_concat named] at parent
  cases parent
  have directories : ∀ name ∈ names, IsName name := fun name member =>
    named name (List.mem_append_left _ member)
  obtain ⟨above, rfl, starts⟩ := FileTree.exists_prefix_of_mem_ancestry directories listed
  rw [FileTree.eq_of_leadsTo (fun name member => directories name (starts.subset member)) leads]
  exact starts.map String.ofList

namespace FileTree

/-- The tree has got a file at a place, and directories above it; all else is as it was. -/
structure Gains (place : Place) (tree later : FileTree) : Prop where
  kept : ∀ other entry, other ≠ place → tree.at? other = some entry →
    later.at? other = some entry
  absent : ∀ other, ¬ other <+: place → tree.at? other = none → later.at? other = none
  directories : ∀ other, tree.at? other = some .directory → later.at? other = some .directory
  working : later.workingPlace = tree.workingPlace

namespace Gains

variable {later : FileTree} {path content : String}

/-- A path that leads somewhere leads there afterwards as well. -/
theorem locate (gains : Gains place tree later) {other : Place}
    (located : tree.locate path = some other) : later.locate path = some other :=
  locate_mono gains.directories gains.working located

/-- A text that stands elsewhere can still be read. -/
theorem read_of_text (gains : Gains place tree later) (elsewhere : tree.locate path ≠ some place)
    (read : tree.read path = .text content) : later.read path = .text content := by
  apply read_of_find?
  obtain ⟨other, located, found⟩ := Option.bind_eq_some_iff.mp (find?_of_read read)
  refine Option.bind_eq_some_iff.mpr ⟨other, gains.locate located, ?_⟩
  apply gains.kept other _ _ found
  rintro rfl
  exact elsewhere located

/-- Where there was nothing there is nothing, save on the way to the new file. -/
theorem read_of_absent (gains : Gains place tree later) {other : Place}
    (located : tree.locate path = some other) (apart : ¬ other <+: place)
    (read : tree.read path = .absent) : later.read path = .absent := by
  have nothing : tree.at? other = none := by
    cases found : tree.at? other with
    | none => rfl
    | some entry =>
        have present : tree.find? path = some entry := by
          rw [find?, located]
          exact found
        unfold FileTree.read at read
        rw [present] at read
        cases entry with
        | directory => cases read
        | file bytes =>
            dsimp only at read
            split at read <;> cases read
  have still : later.find? path = none := by
    rw [find?, gains.locate located]
    exact gains.absent other apart nothing
  unfold FileTree.read
  rw [still]

end Gains

end FileTree

/-- Where an artifact is written the tree gains its file. -/
theorem Artifact.Wrote.gains {artifact : Artifact} {tree after : FileTree} {place : Place}
    {names : List Segment} {last : Segment} (named : ∀ name ∈ names ++ [last], IsName name)
    (path : artifact.path = rooted (names ++ [last])) {outcome : WriteOutcome}
    (wrote : artifact.Wrote tree (.ok outcome) after)
    (located : after.locate artifact.path = some place) : FileTree.Gains place tree after := by
  have there : place = (names ++ [last]).map String.ofList :=
    FileTree.locate_rooted named (path ▸ located)
  cases wrote with
  | found held =>
      exact ⟨fun _ _ _ present => present, fun _ _ absent => absent, fun _ present => present, rfl⟩
  | @stored grown reached grows leads free =>
      obtain rfl : reached = place := by
        rw [there]
        exact FileTree.locate_rooted named (path ▸ leads)
      have kept (other : Place) (entry : FileEntry) (different : other ≠ reached)
          (present : tree.at? other = some entry) :
          (grown.put reached (.file artifact.content.toUTF8)).at? other = some entry := by
        rw [FileTree.at?_put_of_ne _ different]
        exact grows.kept other entry present
      refine ⟨kept, fun other apart nothing => ?_, fun other present => ?_, grows.working⟩
      · have different : other ≠ reached := by
          rintro rfl
          exact apart (List.prefix_refl other)
        rw [FileTree.at?_put_of_ne _ different]
        apply grows.at?_eq_none nothing
        intro created
        apply apart
        rw [there, List.map_append]
        exact (isPrefix_of_mayHold named (path ▸ created)).trans (List.prefix_append _ _)
      · refine kept other .directory ?_ present
        rintro rfl
        exact free (grows.directories other present)

end ElementTypings
