import ElementTypings.Proofs.Path.Following
import ElementTypings.Proofs.Path.Place

/-!
# The tree of absolute paths

An absolute text begins with a root, and its segments lead from there to a place, one after another
(`LexicalPath.LeadsTo`). Texts that lead to one place have one normal form, and texts that lead to
different places have different ones (`LexicalPath.LeadsTo.normal_eq_iff`).

Joining goes on from the place of the base (`LexicalPath.LeadsTo.join`). So paths that are joined
one after another may be joined at once, and the directory of a path is the path joined with two
dots: absolute paths are the nodes of a tree (`LexicalPath.absolute_paths_form_tree`).
-/

namespace ElementTypings.LexicalPath

/-! ### Roots and places -/

/-- A text begins with a root, and the rest stands below it. Both separators will do, and the letter
of a drive counts in lower case. -/
inductive BeginsWith : List Char → PathRoot → List Char → Prop
  | slash {separator : Char} {below : List Char} (separates : separator = '/' ∨ separator = '\\') :
      BeginsWith (separator :: below) .slash below
  | drive {letter separator : Char} {below : List Char} (alpha : letter.isAlpha)
      (separates : separator = '/' ∨ separator = '\\') :
      BeginsWith (letter :: ':' :: separator :: below) (.drive letter.toLower) below

/-- A path leads to the place that the segments below its root reach, from left to right. -/
def LeadsTo (path : String) (root : PathRoot) (names : List Segment) : Prop :=
  ∃ below, BeginsWith path.toList root below ∧ names = (segmentsOf below).foldl stepTo []

theorem slashes_cons_of_separates {separator : Char}
    (separates : separator = '/' ∨ separator = '\\') (below : List Char) :
    slashes (separator :: below) = '/' :: slashes below := by
  rcases separates with rfl | rfl
  · rfl
  · rfl

/-- The root that a path begins with is the one that is split off. -/
theorem BeginsWith.split {path below : List Char} {root : PathRoot}
    (begins : BeginsWith path root below) :
    PathRoot.split (slashes path) = (root, slashes below) := by
  cases begins with
  | slash separates =>
      rw [slashes_cons_of_separates separates]
      rfl
  | @drive letter separator below alpha separates =>
      have kept : letter ≠ '\\' := by
        rintro rfl
        cases alpha
      have slashed : slashes (letter :: ':' :: separator :: below) =
          letter :: ':' :: slashes (separator :: below) := by
        rw [slashes, List.map_cons, if_neg kept]
        rfl
      rw [slashed, slashes_cons_of_separates separates, split_drive alpha]

theorem BeginsWith.isAbsolute {path below : List Char} {root : PathRoot}
    (begins : BeginsWith path root below) : root.isAbsolute := by
  cases begins with
  | slash _ => rfl
  | drive _ _ => rfl

/-- A path that begins with a root is absolute. -/
theorem isAbsolute_of_beginsWith {path : String} {root : PathRoot} {below : List Char}
    (begins : BeginsWith path.toList root below) : isAbsolute path := by
  rw [isAbsolute, isAbsoluteText, begins.split]
  exact begins.isAbsolute

/-- Only the separators become slashes. -/
private theorem separates_of_slashed {char : Char}
    (slashed : (if char = '\\' then '/' else char) = '/') : char = '/' ∨ char = '\\' := by
  split at slashed
  · next same => exact .inr same
  · exact .inl slashed

/-- An absolute text begins with a root. -/
theorem exists_beginsWith {path : List Char} (absolute : isAbsoluteText path) :
    ∃ root below, BeginsWith path root below := by
  have rooted : (PathRoot.split (slashes path)).1.isAbsolute := absolute
  unfold PathRoot.split at rooted
  split at rooted
  · next read =>
    obtain ⟨separator, below, rfl, slashed, -⟩ := List.map_eq_cons_iff.mp read
    exact ⟨_, below, .slash (separates_of_slashed slashed)⟩
  · next letter rest _ read =>
    split at rooted
    · next alpha =>
      obtain ⟨first, others, rfl, slashed, read⟩ := List.map_eq_cons_iff.mp read
      obtain ⟨colon, others, rfl, same, read⟩ := List.map_eq_cons_iff.mp read
      obtain ⟨separator, below, rfl, separates, -⟩ := List.map_eq_cons_iff.mp read
      have letter_eq : first = letter := by
        split at slashed
        · subst slashed
          cases alpha
        · exact slashed
      have colon_eq : colon = ':' := by
        split at same
        · cases same
        · exact same
      subst letter_eq colon_eq
      exact ⟨_, below, .drive alpha (separates_of_slashed separates)⟩
    · cases rooted
  · cases rooted

/-- A path leads to the place that reading it gives. -/
theorem leadsTo_iff {path : String} {root : PathRoot} {names : List Segment} :
    LeadsTo path root names ↔
      isAbsolute path ∧ ofText path.toList = { root, segments := names } := by
  have followed {below : List Char} (begins : BeginsWith path.toList root below)
      (absolute : isAbsolute path) : ofText path.toList =
        { root, segments := (segmentsOf below).foldl stepTo [] } := by
    have segments := segments_ofText absolute
    rw [begins.split, walk_eq_foldl List.not_mem_nil] at segments
    have rooted : (ofText path.toList).root = root := congrArg Prod.fst begins.split
    rw [segmentsOf, ← segments, ← rooted]
  constructor
  · rintro ⟨below, begins, rfl⟩
    have absolute := isAbsolute_of_beginsWith begins
    exact ⟨absolute, followed begins absolute⟩
  · rintro ⟨absolute, read⟩
    obtain ⟨root', below, begins⟩ := exists_beginsWith absolute
    have rooted : (ofText path.toList).root = root' := congrArg Prod.fst begins.split
    rw [read] at rooted
    subst rooted
    have same := (followed begins absolute).symm.trans read
    exact ⟨below, begins, (congrArg LexicalPath.segments same).symm⟩

namespace LeadsTo

variable {path base : String} {root : PathRoot} {names : List Segment}

theorem isNormal (leads : LeadsTo path root names) :
    ({ root, segments := names } : LexicalPath).IsNormal := by
  obtain ⟨absolute, read⟩ := leadsTo_iff.mp leads
  exact read ▸ isNormal_ofText absolute

/-- The normal form of a path is the text of its place. -/
theorem normal_eq (leads : LeadsTo path root names) :
    LexicalPath.join "" path = String.ofList (root.text ++ List.intercalate ['/'] names) := by
  rw [join_empty, normalize, (leadsTo_iff.mp leads).2, leads.isNormal.text_eq]

/-- Paths have one normal form exactly if they lead to one place. -/
theorem normal_eq_iff {other : String} {root' : PathRoot} {names' : List Segment}
    (leads : LeadsTo path root names) (leads' : LeadsTo other root' names') :
    LexicalPath.join "" path = LexicalPath.join "" other ↔ root = root' ∧ names = names' := by
  constructor
  · intro same
    rw [leads.normal_eq, leads'.normal_eq, ← leads.isNormal.text_eq, ← leads'.isNormal.text_eq,
      String.ofList_inj] at same
    have read := congrArg ofText same
    rw [leads.isNormal.ofText_text, leads'.isNormal.ofText_text] at read
    cases read
    exact ⟨rfl, rfl⟩
  · rintro ⟨rfl, rfl⟩
    rw [leads.normal_eq, leads'.normal_eq]

/-- A normal path leads to itself. -/
theorem of_isNormal {place : LexicalPath} (normal : place.IsNormal) :
    LeadsTo (String.ofList place.text) place.root place.segments := by
  rw [leadsTo_iff, isAbsolute, String.toList_ofList]
  exact ⟨normal.isAbsoluteText_text, normal.ofText_text⟩

/-- What is joined to a path is followed from its place. -/
theorem join_eq (leads : LeadsTo base root names) (way : String) :
    LexicalPath.join base way = String.ofList (LexicalPath.text
      { root, segments := (segmentsOf way.toList).foldl stepTo names }) := by
  obtain ⟨absolute, read⟩ := leadsTo_iff.mp leads
  rw [LexicalPath.join_eq absolute, rootOf, read, walk_eq_foldl leads.isNormal.up_not_mem,
    segmentsOf]

/-- A joined path leads from the place of its base to another one below the same root. -/
theorem join (leads : LeadsTo base root names) (way : String) :
    LeadsTo (LexicalPath.join base way) root ((segmentsOf way.toList).foldl stepTo names) := by
  obtain ⟨absolute, read⟩ := leadsTo_iff.mp leads
  have below := isNormal_ofText (isAbsoluteText_append absolute ('/' :: way.toList))
  rw [ofText_append_slash absolute, read, walk_eq_foldl leads.isNormal.up_not_mem] at below
  rw [leads.join_eq]
  exact of_isNormal below

/-- Paths that are joined one after another are followed as one path. -/
theorem join_join (leads : LeadsTo base root names) (first second : String) :
    LexicalPath.join (LexicalPath.join base first) second =
      LexicalPath.join base (first ++ "/" ++ second) := by
  have segments : segmentsOf (first ++ "/" ++ second).toList =
      segmentsOf first.toList ++ segmentsOf second.toList := by
    have slashed : slashes (first ++ "/" ++ second).toList =
        slashes first.toList ++ '/' :: slashes second.toList := by
      simp [slashes]
    rw [segmentsOf, slashed, Text.splitOn_append_cons, segmentsOf, segmentsOf]
  rw [(leads.join first).join_eq, leads.join_eq, segments, List.foldl_append]

/-- The directory is one step up. -/
theorem directory_eq (leads : LeadsTo path root names) :
    directory path = LexicalPath.join path ".." := by
  have climbed : (segmentsOf "..".toList).foldl stepTo names = names.dropLast := by rfl
  rw [directory, normalize, (leadsTo_iff.mp leads).2, leads.isNormal.directoryText_text,
    leads.join_eq, climbed]

end LeadsTo

/-! ### The tree -/

/-- What makes an absolute path, which leads to the given place, a node of a tree. -/
structure IsNode (base : String) (root : PathRoot) (names : List Segment) : Prop where
  /-- Paths that are joined one after another may be joined at once. -/
  join_join : ∀ first second, join (join base first) second = join base (first ++ "/" ++ second)
  isAbsolute_join : ∀ way, isAbsolute (join base way)
  /-- A joined path leads on from the place of its base, below the same root. -/
  leadsTo_join : ∀ way, LeadsTo (join base way) root ((segmentsOf way.toList).foldl stepTo names)
  /-- A joined path is written as the root and names: no segment is empty, a dot or two dots. -/
  text_join : ∀ way, ∃ below, (∀ name ∈ below, IsName name) ∧
    (join base way).toList = root.text ++ List.intercalate ['/'] below
  backslash_not_mem_join : ∀ way, '\\' ∉ (join base way).toList
  /-- Paths have one normal form exactly if they lead to one place. -/
  normal_eq_iff : ∀ other root' names', LeadsTo other root' names' →
    (join "" base = join "" other ↔ root = root' ∧ names = names')
  /-- The directory is one step up. -/
  directory_eq : directory base = join base ".."

/-- Where a path leads, its tree has a node. -/
theorem LeadsTo.isNode {base : String} {root : PathRoot} {names : List Segment}
    (leads : LeadsTo base root names) : IsNode base root names where
  join_join := leads.join_join
  isAbsolute_join way := (leadsTo_iff.mp (leads.join way)).1
  leadsTo_join := leads.join
  text_join way := by
    refine ⟨_, (leads.join way).isNormal.names, ?_⟩
    rw [leads.join_eq, String.toList_ofList, (leads.join way).isNormal.text_eq]
  backslash_not_mem_join way := by
    rw [leads.join_eq, String.toList_ofList]
    exact (leads.join way).isNormal.backslash_not_mem_text
  normal_eq_iff _ _ _ leads' := leads.normal_eq_iff leads'
  directory_eq := leads.directory_eq

/-- **Absolute paths form a tree.** A path is absolute exactly if it begins with a root, from which
its segments lead to a place. Joining goes on from there and stays below the root, in a form without
backslashes and without segments that are empty, a dot or two dots; paths that are joined one after
another may be joined at once. Absolute paths have one normal form exactly if they lead to one
place, and the directory of a path is the path joined with two dots. -/
theorem absolute_paths_form_tree (base : String) :
    (isAbsolute base ↔ ∃ root names, LeadsTo base root names) ∧
      ∀ root names, LeadsTo base root names → IsNode base root names := by
  refine ⟨⟨fun absolute => ?_, ?_⟩, fun _ _ leads => leads.isNode⟩
  · exact ⟨_, _, leadsTo_iff.mpr ⟨absolute, rfl⟩⟩
  · rintro ⟨_, _, leads⟩
    exact (leadsTo_iff.mp leads).1

/-- A path on a drive that climbs past the root, and another spelling of its place. -/
theorem absolute_paths_form_tree_of_drive :
    LeadsTo "C:\\app/..\\..//src\\." (.drive 'c') ["src".toList] ∧
      join (join "C:\\app/..\\..//src\\." "..\\ui/") "./x.tsx" = "c:/ui/x.tsx" ∧
      join "" "C:\\app/..\\..//src\\." = join "" "c:/src" ∧
      directory "C:\\app/..\\..//src\\." = "c:/" := by
  have leads : LeadsTo "C:\\app/..\\..//src\\." (.drive 'c') ["src".toList] :=
    ⟨"app/..\\..//src\\.".toList, .drive (by decide) (.inr rfl), by decide +kernel⟩
  have other : LeadsTo "c:/src" (.drive 'c') ["src".toList] :=
    ⟨"src".toList, .drive (by decide) (.inl rfl), by decide +kernel⟩
  have node := (absolute_paths_form_tree "C:\\app/..\\..//src\\.").2 _ _ leads
  refine ⟨leads, ?_, (node.normal_eq_iff _ _ _ other).mpr ⟨rfl, rfl⟩, ?_⟩
  · rw [node.join_join]
    decide +kernel
  · rw [node.directory_eq]
    decide +kernel

end ElementTypings.LexicalPath
