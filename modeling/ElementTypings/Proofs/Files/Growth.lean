import ElementTypings.Files.Tree

/-!
# How a tree of files changes

Two things happen to a tree while a command writes: missing directories are created, and one file
gets a text. Where the first happens, every entry stays and nothing but directories is added
(`FileTree.Grows`); creating a directory with those above it is a growth, whether it succeeds or not
(`FileTree.grows_createDirectories`). A path that leads somewhere leads there as well once there
are more directories (`FileTree.locate_mono`).
-/

namespace ElementTypings.FileTree

variable {tree middle later : FileTree} {place other : Place} {path : String}

/-- The bytes of the file at a place. -/
def fileAt? (tree : FileTree) (place : Place) : Option ByteArray :=
  match tree.at? place with
  | some (.file content) => some content
  | _ => none

/-- The bytes at a place are those of the file that is there. -/
theorem fileAt?_eq_some_iff {content : ByteArray} :
    tree.fileAt? place = some content ↔ tree.at? place = some (.file content) := by
  unfold fileAt?
  cases tree.at? place with
  | none => simp
  | some entry => cases entry <;> simp

/-- Trees with the same entry at a place have the same bytes there. -/
theorem fileAt?_congr (same : later.at? place = tree.at? place) :
    later.fileAt? place = tree.fileAt? place := by
  unfold fileAt?
  rw [same]

/-! ### One entry -/

/-- Leaving out the entries of one place does not change what is found at another one. -/
private theorem lookup_filter_ne (entries : List (Place × FileEntry)) (different : other ≠ place) :
    (entries.filter fun entry => entry.1 ≠ place).lookup other = entries.lookup other := by
  induction entries with
  | nil => rfl
  | cons entry rest ih =>
      obtain ⟨found, content⟩ := entry
      by_cases same : found = place
      · have apart : (other == found) = false := beq_eq_false_iff_ne.mpr (same ▸ different)
        rw [List.filter_cons_of_neg (by simpa using same), ih, List.lookup_cons, apart]
      · rw [List.filter_cons_of_pos (by simpa using same), List.lookup_cons, List.lookup_cons, ih]

theorem at?_put_self (entry : FileEntry) (below : place ≠ []) :
    (tree.put place entry).at? place = some entry := by
  simp [at?, put, below]

theorem at?_put_of_ne (entry : FileEntry) (different : other ≠ place) :
    (tree.put place entry).at? other = tree.at? other := by
  have apart : (other == place) = false := beq_eq_false_iff_ne.mpr different
  simp only [at?, put, List.lookup_cons, apart]
  rw [lookup_filter_ne tree.entries different]

/-- What is taken from one place is missing at no other. -/
theorem at?_drop_of_ne (different : other ≠ place) :
    (tree.drop place).at? other = tree.at? other := by
  rw [at?, at?, drop, lookup_filter_ne tree.entries different]

theorem at?_drop_self (below : place ≠ []) : (tree.drop place).at? place = none := by
  rw [at?, if_neg below, drop, List.lookup_eq_none_iff]
  intro entry kept
  have different : entry.1 ≠ place := by simpa using (List.mem_filter.mp kept).2
  exact bne_iff_ne.mpr (Ne.symm different)

/-- The root of all files is a directory, so a place without one is below it. -/
theorem ne_root_of_at? (absent : tree.at? place ≠ some .directory) : place ≠ [] := by
  rintro rfl
  exact absent rfl

/-! ### Following a path -/

/-- A step that can be taken can still be taken when there are more directories. -/
theorem step_mono (directories : ∀ place, tree.at? place = some .directory →
      later.at? place = some .directory) {piece : List Char}
    (reached : tree.step place piece = some other) : later.step place piece = some other := by
  unfold step at reached ⊢
  split at reached
  · next present =>
    rw [directories place present]
    exact reached
  · cases reached

/-- So can a walk of several steps. -/
theorem foldlM_step_mono (directories : ∀ place, tree.at? place = some .directory →
      later.at? place = some .directory) {pieces : List (List Char)}
    (reached : pieces.foldlM tree.step place = some other) :
    pieces.foldlM later.step place = some other := by
  induction pieces generalizing place with
  | nil => exact reached
  | cons piece rest ih =>
      rw [List.foldlM_cons, Option.bind_eq_bind, Option.bind_eq_some_iff] at reached ⊢
      obtain ⟨next, stepped, reached⟩ := reached
      exact ⟨next, step_mono directories stepped, ih reached⟩

/-- A path leads to the same place in a tree that has all the directories. -/
theorem locate_mono (directories : ∀ place, tree.at? place = some .directory →
      later.at? place = some .directory) (working : later.workingPlace = tree.workingPlace)
    (located : tree.locate path = some place) : later.locate path = some place := by
  unfold locate at located ⊢
  split at located
  · cases located
  · next valid =>
    rw [if_neg valid, working]
    exact foldlM_step_mono directories located

/-! ### Growth -/

/-- The tree has all entries it had, and beside them only directories, at places that fulfil a
condition. -/
structure Grows (allowed : Place → Prop) (tree later : FileTree) : Prop where
  kept : ∀ place entry, tree.at? place = some entry → later.at? place = some entry
  created : ∀ place, tree.at? place = none →
    later.at? place = none ∨ later.at? place = some .directory ∧ allowed place
  working : later.workingPlace = tree.workingPlace

namespace Grows

variable {allowed : Place → Prop}

theorem refl (allowed : Place → Prop) (tree : FileTree) : Grows allowed tree tree :=
  ⟨fun _ _ present => present, fun _ absent => Or.inl absent, rfl⟩

theorem trans (first : Grows allowed tree middle) (second : Grows allowed middle later) :
    Grows allowed tree later where
  kept place entry present := second.kept place entry (first.kept place entry present)
  created place absent := by
    rcases first.created place absent with still | ⟨directory, permitted⟩
    · exact second.created place still
    · exact Or.inr ⟨second.kept place .directory directory, permitted⟩
  working := second.working.trans first.working

/-- Directories stay directories. -/
theorem directories (grows : Grows allowed tree later) (place : Place)
    (present : tree.at? place = some .directory) : later.at? place = some .directory :=
  grows.kept place .directory present

/-- Growth changes no file. -/
theorem fileAt?_eq (grows : Grows allowed tree later) (place : Place) :
    later.fileAt? place = tree.fileAt? place := by
  unfold fileAt?
  cases present : tree.at? place with
  | some entry => rw [grows.kept place entry present]
  | none =>
      rcases grows.created place present with absent | ⟨directory, -⟩
      · rw [absent]
      · rw [directory]

/-- Nothing is created where no directory may be. -/
theorem at?_eq_none (grows : Grows allowed tree later) (absent : tree.at? place = none)
    (forbidden : ¬ allowed place) : later.at? place = none := by
  rcases grows.created place absent with still | ⟨-, permitted⟩
  · exact still
  · exact absurd permitted forbidden

end Grows

/-! ### Creating directories -/

/-- Some tree leads the path, without the slashes at its end, to the place. -/
def LeadsTo (path : String) (place : Place) : Prop :=
  ∃ tree : FileTree, tree.locate (trimSlashes path) = some place

/-- Creating a directory adds it at the place that its path leads to, and nothing else. -/
theorem grows_makeDirectory (made : tree.makeDirectory path = some later) :
    Grows (LeadsTo path) tree later := by
  unfold makeDirectory at made
  split at made
  · cases made
  · next place located =>
    split at made
    · cases made
    · next absent =>
      have below : place ≠ [] := ne_root_of_at? (by rw [absent]; nofun)
      cases made
      refine ⟨fun other entry present => ?_, fun other missing => ?_, rfl⟩
      · have different : other ≠ place := by
          rintro rfl
          rw [absent] at present
          cases present
        rw [at?_put_of_ne _ different, present]
      · by_cases same : other = place
        · subst same
          exact Or.inr ⟨at?_put_self _ below, tree, located⟩
        · rw [at?_put_of_ne _ same]
          exact Or.inl missing

/-- A growth stays one when more places are allowed. -/
theorem Grows.mono {allowed permitted : Place → Prop} (grows : Grows allowed tree later)
    (weaker : ∀ place, allowed place → permitted place) : Grows permitted tree later where
  kept := grows.kept
  created place absent := (grows.created place absent).imp_right fun made =>
    ⟨made.1, weaker place made.2⟩
  working := grows.working

/-- What creating one directory keeps, creating directories from the lowest up keeps as well,
whether it succeeds or not. -/
theorem createAlong_keeps {kept : FileTree → Prop} {paths : List String}
    (step : ∀ path ∈ paths, ∀ tree later : FileTree, kept tree →
      tree.makeDirectory path = some later → kept later) (start : kept tree) :
    kept (tree.createAlong paths).2 := by
  induction paths generalizing tree with
  | nil => exact start
  | cons path above ih =>
      have here {tree : FileTree} (start : kept tree) : kept (tree.ensureDirectory path).2 := by
        unfold ensureDirectory
        split
        · next made => exact step path List.mem_cons_self _ _ start made
        · exact start
      have higher {tree : FileTree} (start : kept tree) : kept (tree.createAlong above).2 :=
        ih (fun other listed => step other (List.mem_cons_of_mem _ listed)) start
      unfold createAlong
      split
      · exact start
      · have first := here start
        split
        · next made =>
          rw [made] at first
          exact first
        · next middle failed =>
          rw [failed] at first
          have second := higher first
          split
          · next stuck =>
            rw [stuck] at second
            exact second
          · next upper opened =>
            rw [opened] at second
            exact here second

/-- Creating a directory with those above it keeps what every single creation keeps. -/
theorem createDirectories_keeps {kept : FileTree → Prop}
    (step : ∀ above ∈ ancestry (path.length + 1) path, ∀ tree later : FileTree, kept tree →
      tree.makeDirectory above = some later → kept later) (start : kept tree) :
    kept (tree.createDirectories path).2 := by
  unfold createDirectories
  split
  · exact start
  · exact createAlong_keeps step start

/-- Creating a directory and those above it adds directories at the places of their paths and
changes no file, even where it fails. -/
theorem grows_createDirectories (tree : FileTree) (path : String) :
    Grows (fun place => ∃ above ∈ ancestry (path.length + 1) path, LeadsTo above place) tree
      (tree.createDirectories path).2 := by
  refine createDirectories_keeps (fun above listed _ _ grows made => ?_) (Grows.refl _ tree)
  exact grows.trans ((grows_makeDirectory made).mono fun place leads => ⟨above, listed, leads⟩)

end ElementTypings.FileTree
