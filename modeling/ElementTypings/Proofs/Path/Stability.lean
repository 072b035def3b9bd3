import ElementTypings.Proofs.Path.Below

/-!
# Stable normal forms

Reading a relative path gives steps up and names below them (`LexicalPath.isSettled_ofText`). The
text of such a path is read as the path itself (`LexicalPath.IsSettled.ofText_text`), unless its
segments begin as a drive does, with a letter and a colon and a name below: that text is absolute
(`LexicalPath.isAbsoluteText_of_hidesDrive`). So a path agrees with its normal form and with its
directory on where it starts, and the normal form is its own, exactly if no drive comes to the front
of a relative path when the path is brought into normal form
(`LexicalPath.normal_form_stable_iff`).
-/

namespace ElementTypings.LexicalPath

/-- Where the path starts. -/
def rootOf (path : String) : PathRoot :=
  (ofText path.toList).root

theorem rootOf_ofList (text : List Char) : rootOf (String.ofList text) = (ofText text).root := by
  rw [rootOf, String.toList_ofList]

theorem isAbsolute_eq (path : String) : isAbsolute path = (rootOf path).isAbsolute := rfl

theorem join_empty (path : String) : join "" path = String.ofList (normalize path.toList) :=
  if_pos rfl

/-- Whether the path is relative and its segments begin as a drive does. -/
def hidesDrive (path : LexicalPath) : Bool :=
  match path.root, path.segments with
  | .relative, [letter, ':'] :: _ :: _ => letter.isAlpha
  | _, _ => false

/-- A relative path hides a drive exactly if a letter and a colon come first of two segments or
more. -/
theorem hidesDrive_of_relative {path : LexicalPath} (relative : path.root = .relative) :
    path.hidesDrive ↔ ∃ letter next later, Char.isAlpha letter ∧
      path.segments = [letter, ':'] :: next :: later := by
  unfold hidesDrive
  rw [relative]
  split
  · next letter next later _ segments =>
    constructor
    · exact fun alpha => ⟨letter, next, later, alpha, segments⟩
    · rintro ⟨letter', next', later', alpha, same⟩
      rw [segments] at same
      obtain ⟨rfl, -⟩ : letter = letter' ∧ _ := by simpa using same
      exact alpha
  · next other =>
    refine iff_of_false Bool.false_ne_true ?_
    rintro ⟨letter, next, later, -, segments⟩
    exact other letter next later rfl segments

/-- An absolute path hides no drive: its root comes first. -/
theorem hidesDrive_of_isAbsolute {path : LexicalPath} (absolute : path.root.isAbsolute) :
    path.hidesDrive = false := by
  unfold hidesDrive
  split
  · next relative _ =>
    rw [relative] at absolute
    cases absolute
  · rfl

/-! ### Walks without a root -/

/-- The segments of a relative path that was read, from the last to the first: names below steps
up. -/
def Settles (walked : List Segment) : Prop :=
  ∃ names count, walked = names ++ List.replicate count up ∧ ∀ name ∈ names, IsName name

/-- Going up from above the start goes one further up. -/
theorem enter_up_replicate (count : Nat) :
    enter false (List.replicate count up) up = List.replicate (count + 1) up := by
  cases count with
  | zero => rfl
  | succ count => rfl

/-- A step without a root leaves names below steps up. -/
theorem settles_enter {walked : List Segment} {segment : Segment} (settles : Settles walked)
    (no_slash : '/' ∉ segment) (no_backslash : '\\' ∉ segment) :
    Settles (enter false walked segment) := by
  obtain ⟨names, count, rfl, named⟩ := settles
  by_cases climbs : segment = up
  · subst climbs
    cases names with
    | nil => exact ⟨[], count + 1, enter_up_replicate count, List.forall_mem_nil _⟩
    | cons last earlier =>
        have left : last ≠ up := (named last List.mem_cons_self).ne_up
        have entered : enter false (last :: earlier ++ List.replicate count up) up =
            earlier ++ List.replicate count up := by
          simp [enter, left, show up ≠ [] by decide, show up ≠ here by decide]
        exact ⟨earlier, count, entered, fun name member =>
          named name (List.mem_cons_of_mem _ member)⟩
  · by_cases stays : segment = [] ∨ segment = here
    · refine ⟨names, count, ?_, named⟩
      unfold enter
      rw [if_pos stays]
    · rw [not_or] at stays
      have name : IsName segment := ⟨stays.1, stays.2, climbs, no_slash, no_backslash⟩
      rw [enter_of_isName name]
      exact ⟨segment :: names, count, rfl, List.forall_mem_cons.mpr ⟨name, named⟩⟩

/-- Walking clean segments keeps the form: up first, names after it. -/
theorem settles_walk {segments walked : List Segment}
    (clean : ∀ segment ∈ segments, '/' ∉ segment ∧ '\\' ∉ segment) (settles : Settles walked) :
    Settles (segments.foldl (enter false) walked) := by
  induction segments generalizing walked with
  | nil => exact settles
  | cons segment later ih =>
      have first := clean segment List.mem_cons_self
      exact ih (fun other member => clean other (List.mem_cons_of_mem _ member))
        (settles_enter settles first.1 first.2)

/-- Going up several times from above the start adds up. -/
theorem walk_replicate_up_of_relative (walked count : Nat) :
    (List.replicate count up).foldl (enter false) (List.replicate walked up) =
      List.replicate (walked + count) up := by
  induction count generalizing walked with
  | zero => rfl
  | succ count ih =>
      rw [List.replicate_succ, List.foldl_cons, enter_up_replicate, ih]
      congr 1
      omega

/-- Segments that a walk without a root left are walked again as they are. -/
theorem walk_of_settles {segments : List Segment} (settles : Settles segments.reverse) :
    segments.foldl (enter false) [] = segments.reverse := by
  obtain ⟨names, count, reversed, named⟩ := settles
  have whole : segments = List.replicate count up ++ names.reverse := by
    rw [← List.reverse_reverse segments, reversed, List.reverse_append, List.reverse_replicate]
  have climbed := walk_replicate_up_of_relative 0 count
  rw [List.replicate_zero, Nat.zero_add] at climbed
  rw [reversed, whole, List.foldl_append, climbed,
    walk_of_isName _ fun name member => named name (List.mem_reverse.mp member),
    List.reverse_reverse]

/-! ### Relative paths -/

/-- What reading a relative path gives. -/
structure IsSettled (path : LexicalPath) : Prop where
  relative : path.root = .relative
  settles : Settles path.segments.reverse

/-- A relative path is read as steps up and names below them. -/
theorem isSettled_ofText {path : List Char} (relative : ¬ isAbsoluteText path) :
    (ofText path).IsSettled := by
  have rootless : (PathRoot.split (slashes path)).1.isAbsolute = false :=
    (Bool.not_eq_true _).mp relative
  have clean : ∀ segment ∈ Text.splitOn '/' (PathRoot.split (slashes path)).2,
      '/' ∉ segment ∧ '\\' ∉ segment := by
    intro segment listed
    refine ⟨Text.not_mem_of_mem_splitOn listed, fun member => ?_⟩
    exact backslash_not_mem_slashes path (mem_of_mem_split (Text.mem_of_mem_splitOn listed member))
  refine ⟨bne_eq_false_iff_eq.mp rootless, ?_⟩
  simp only [ofText, rootless, List.reverse_reverse]
  exact settles_walk clean ⟨[], 0, rfl, List.forall_mem_nil _⟩

/-- A letter, a colon and a slash are read as a drive. -/
theorem split_drive {letter : Char} (alpha : letter.isAlpha) (rest : List Char) :
    PathRoot.split (letter :: ':' :: '/' :: rest) = (.drive letter.toLower, rest) := by
  unfold PathRoot.split
  split
  · next same =>
    cases same
    cases alpha
  · next same =>
    cases same
    exact if_pos alpha
  · next unread => exact (unread letter rest rfl).elim

/-- Segments are read as a relative path unless they begin as a drive does. -/
theorem split_intercalate {segments : List Segment}
    (clean : ∀ segment ∈ segments, segment ≠ [] ∧ '/' ∉ segment)
    (plain : ∀ letter next later, segments = [letter, ':'] :: next :: later → ¬ letter.isAlpha) :
    PathRoot.split (List.intercalate ['/'] segments) =
      (.relative, List.intercalate ['/'] segments) := by
  by_cases none : segments = []
  · rw [none]
    rfl
  have pieces := Text.splitOn_intercalate none fun segment listed => (clean segment listed).2
  generalize List.intercalate ['/'] segments = text at pieces ⊢
  unfold PathRoot.split
  split
  · next rest =>
    rw [Text.splitOn, if_pos rfl] at pieces
    exact absurd rfl (clean [] (pieces ▸ List.mem_cons_self)).1
  · next letter rest _ =>
    split
    · next alpha =>
      have other : '/' ≠ letter := by
        rintro rfl
        cases alpha
      have drive : '/' ∉ [letter, ':'] := by simp [other]
      have split := Text.splitOn_append_cons '/' [letter, ':'] rest
      obtain ⟨next, later, below⟩ := List.exists_cons_of_ne_nil (Text.splitOn_ne_nil '/' rest)
      rw [Text.splitOn_of_not_mem drive, below] at split
      exact absurd alpha (plain letter next later (pieces.symm.trans split))
    · rfl
  · rfl

/-- The text of a relative path that hides a drive is absolute. -/
theorem isAbsoluteText_of_hidesDrive {path : LexicalPath} (relative : path.root = .relative)
    (hides : path.hidesDrive) : isAbsoluteText path.text := by
  obtain ⟨letter, next, later, alpha, segments⟩ := (hidesDrive_of_relative relative).mp hides
  have other : letter ≠ '\\' := by
    rintro rfl
    cases alpha
  have text : path.text = letter :: ':' :: '/' :: List.intercalate ['/'] (next :: later) := by
    unfold text
    rw [relative, segments, if_neg (by simp), List.intercalate_cons_cons]
    rfl
  have slashed : slashes path.text =
      letter :: ':' :: '/' :: slashes (List.intercalate ['/'] (next :: later)) := by
    rw [text, slashes, List.map_cons, if_neg other]
    rfl
  rw [isAbsoluteText, slashed, split_drive alpha]
  rfl

namespace IsSettled

variable {path : LexicalPath}

/-- A segment of a settled path goes up or is a name. -/
theorem isUpOrName (settled : path.IsSettled) {segment : Segment}
    (listed : segment ∈ path.segments) : segment = up ∨ IsName segment := by
  obtain ⟨names, count, reversed, named⟩ := settled.settles
  rw [← List.mem_reverse, reversed, List.mem_append] at listed
  rcases listed with name | climbs
  · exact .inr (named segment name)
  · exact .inl (List.eq_of_mem_replicate climbs)

/-- A segment of a settled path is not empty and holds no separator. -/
theorem clean (settled : path.IsSettled) {segment : Segment} (listed : segment ∈ path.segments) :
    segment ≠ [] ∧ '/' ∉ segment ∧ '\\' ∉ segment := by
  rcases settled.isUpOrName listed with rfl | name
  · exact ⟨nofun, by decide, by decide⟩
  · exact ⟨name.ne_nil, name.no_slash, name.no_backslash⟩

/-- What looks like a drive at the start of a settled path that hides none is no letter. -/
theorem not_isAlpha (settled : path.IsSettled) (plain : path.hidesDrive = false) (letter : Char)
    (next : Segment) (later : List Segment)
    (segments : path.segments = [letter, ':'] :: next :: later) : ¬ letter.isAlpha := by
  intro alpha
  have hides := (hidesDrive_of_relative settled.relative).mpr ⟨letter, next, later, alpha, segments⟩
  rw [plain] at hides
  exact Bool.false_ne_true hides

/-- A settled path is written as its segments between slashes. -/
theorem text_of_ne_nil (settled : path.IsSettled) (some : path.segments ≠ []) :
    path.text = List.intercalate ['/'] path.segments := by
  unfold text
  rw [if_neg fun both => some both.2, settled.relative]
  rfl

theorem text_of_nil (settled : path.IsSettled) (none : path.segments = []) : path.text = here :=
  if_pos ⟨settled.relative, none⟩

/-- The text of a settled path that hides no drive has no root. -/
theorem split_text (settled : path.IsSettled) (plain : path.hidesDrive = false) :
    PathRoot.split path.text = (.relative, path.text) := by
  by_cases none : path.segments = []
  · rw [settled.text_of_nil none]
    rfl
  · rw [settled.text_of_ne_nil none]
    refine split_intercalate (fun segment listed => ?_) (settled.not_isAlpha plain)
    exact ⟨(settled.clean listed).1, (settled.clean listed).2.1⟩

theorem backslash_not_mem_text (settled : path.IsSettled) : '\\' ∉ path.text := by
  by_cases none : path.segments = []
  · rw [settled.text_of_nil none]
    decide
  · rw [settled.text_of_ne_nil none]
    exact backslash_not_mem_intercalate fun segment listed => (settled.clean listed).2.2

/-- The text of a relative path is read as the path unless it hides a drive. -/
theorem ofText_text (settled : path.IsSettled) (plain : path.hidesDrive = false) :
    ofText path.text = path := by
  have read : PathRoot.split (slashes path.text) = (.relative, path.text) := by
    rw [slashes_of_not_mem settled.backslash_not_mem_text, settled.split_text plain]
  have walked : (Text.splitOn '/' path.text).foldl (enter false) [] = path.segments.reverse := by
    by_cases none : path.segments = []
    · rw [settled.text_of_nil none, none]
      rfl
    · rw [settled.text_of_ne_nil none,
        Text.splitOn_intercalate none fun segment listed => (settled.clean listed).2.1,
        walk_of_settles settled.settles]
  unfold ofText
  rw [read]
  change LexicalPath.mk .relative ((Text.splitOn '/' path.text).foldl (enter false) []).reverse = _
  rw [walked, List.reverse_reverse, ← settled.relative]

theorem dropLast (settled : path.IsSettled) :
    ({ path with segments := path.segments.dropLast } : LexicalPath).IsSettled := by
  refine ⟨settled.relative, ?_⟩
  obtain ⟨names, count, reversed, named⟩ := settled.settles
  change Settles path.segments.dropLast.reverse
  rw [← List.tail_reverse, reversed]
  cases names with
  | nil => exact ⟨[], count - 1, List.tail_replicate, nofun⟩
  | cons last earlier =>
      exact ⟨earlier, count, rfl, fun name member => named name (List.mem_cons_of_mem _ member)⟩

theorem hidesDrive_dropLast (settled : path.IsSettled) (plain : path.hidesDrive = false) :
    ({ path with segments := path.segments.dropLast } : LexicalPath).hidesDrive = false := by
  refine (Bool.not_eq_true _).mp fun hides => ?_
  obtain ⟨letter, next, later, alpha, segments⟩ :=
    (hidesDrive_of_relative settled.dropLast.relative).mp hides
  obtain ⟨more, whole⟩ := List.dropLast_prefix path.segments
  change path.segments.dropLast = _ at segments
  rw [segments] at whole
  exact settled.not_isAlpha plain letter next (later ++ more) whole.symm alpha

/-- The directory of a relative path lacks the last segment. -/
theorem directoryText_text (settled : path.IsSettled) (plain : path.hidesDrive = false) :
    directoryText path.text = { path with segments := path.segments.dropLast }.text := by
  have alone {last : Segment} (absent : '/' ∉ last) : directoryText last = here := by
    have whole : last.reverse.takeWhile (· ≠ '/') = last.reverse := by
      refine List.takeWhile_eq_self_iff.mpr fun char member => ?_
      rw [decide_eq_true_iff]
      rintro rfl
      exact absent (List.mem_reverse.mp member)
    simp only [directoryText, whole, List.length_reverse, ↓reduceIte]
  rcases List.eq_nil_or_concat path.segments with none | ⟨earlier, last, segments⟩
  · rw [settled.text_of_nil none, settled.dropLast.text_of_nil (by simp [none])]
    exact alone (by decide)
  have absent : '/' ∉ last := (settled.clean (by simp [segments])).2.1
  by_cases first : earlier = []
  · rw [settled.dropLast.text_of_nil (by simp [segments, first]),
      settled.text_of_ne_nil (by simp [segments]), segments, first]
    exact alone (by simpa using absent)
  · have text : path.text = List.intercalate ['/'] earlier ++ '/' :: last := by
      rw [settled.text_of_ne_nil (by simp [segments]), segments, List.concat_eq_append,
        Text.intercalate_append_singleton '/' first]
    have before : ({ path with segments := path.segments.dropLast } : LexicalPath).text =
        List.intercalate ['/'] earlier := by
      rw [settled.dropLast.text_of_ne_nil (by simpa [segments] using first), segments]
      simp
    have relative := settled.split_text plain
    rw [text] at relative
    rw [before, text, directoryText_append absent, relative]
    simp [PathRoot.text]

end IsSettled

/-! ### Stability -/

/-- What the normal form of a path tells of the path. -/
structure IsStable (path : String) : Prop where
  normal : join "" (join "" path) = join "" path
  isAbsolute_normal : isAbsolute (join "" path) = isAbsolute path
  /-- The directory of a path starts where the path starts. -/
  rootOf_directory : rootOf (directory path) = rootOf path
  /-- A path that is resolved against the directory is absolute, or the directory's own path is. -/
  resolves : ∀ way, (∃ place, resolve (directory path) way = .ok place) ↔
    isAbsolute way ∨ isAbsolute path
  /-- It starts where it says itself, or where the directory's own path starts. -/
  rootOf_resolved : ∀ way place, resolve (directory path) way = .ok place →
    rootOf place = if isAbsolute way then rootOf way else rootOf path

/-- What is resolved starts where the path starts if that is absolute, or else where the base
starts. -/
theorem rootOf_of_resolve {base path place : String} (resolved : resolve base path = .ok place) :
    rootOf place = if isAbsolute path then rootOf path else rootOf base := by
  unfold resolve at resolved
  split at resolved
  · next absolute =>
    cases resolved
    rw [if_pos absolute, rootOf_ofList, normalize, (isNormal_ofText absolute).ofText_text, rootOf]
  · next relative =>
    split at resolved
    · next absolute =>
      cases resolved
      have below := isNormal_ofText (isAbsoluteText_append absolute ('/' :: path.toList))
      rw [if_neg relative, rootOf_ofList, normalize, below.ofText_text,
        ofText_append_slash absolute, rootOf]
    · cases resolved

/-- A path is resolved exactly if it or its base is absolute. -/
theorem exists_resolve_iff (base path : String) :
    (∃ place, resolve base path = .ok place) ↔ isAbsolute path ∨ isAbsolute base := by
  unfold resolve
  by_cases absolute : isAbsolute path
  · simp [absolute]
  · by_cases rooted : isAbsolute base <;> simp [absolute, rooted]

/-- A path whose normal form and whose directory are read as they should be is stable. -/
private theorem isStable_of_reads {path : String}
    (normal : ofText (ofText path.toList).text = ofText path.toList)
    (directed : rootOf (directory path) = rootOf path) : IsStable path where
  normal := by
    rw [join_empty path, join_empty, String.toList_ofList, normalize, normalize, normal]
  isAbsolute_normal := by
    rw [isAbsolute_eq, isAbsolute_eq, join_empty, rootOf_ofList, normalize, normal, rootOf]
  rootOf_directory := directed
  resolves way := by
    rw [exists_resolve_iff, isAbsolute_eq (directory path), directed, ← isAbsolute_eq]
  rootOf_resolved way place resolved := by
    rw [rootOf_of_resolve resolved, directed]

/-- **When normal forms are stable.** The normal form of a path is its own normal form, is absolute
exactly if the path is, and the path's directory starts where the path starts, as does what is
resolved against that directory, exactly if no drive appears in front: the segments of the path, if
it is relative, do not begin with a letter and a colon and a name below. -/
theorem normal_form_stable_iff (path : String) :
    IsStable path ↔ (ofText path.toList).hidesDrive = false := by
  by_cases absolute : isAbsolute path
  · have form := isNormal_ofText absolute
    have directed : rootOf (directory path) = rootOf path := by
      rw [directory, rootOf_ofList, normalize, form.directoryText_text, form.dropLast.ofText_text,
        rootOf]
    exact iff_of_true (isStable_of_reads form.ofText_text directed)
      (hidesDrive_of_isAbsolute form.absolute)
  · have form := isSettled_ofText absolute
    constructor
    · intro stable
      refine (Bool.not_eq_true _).mp fun hides => absolute ?_
      rw [← stable.isAbsolute_normal, join_empty, isAbsolute, String.toList_ofList]
      exact isAbsoluteText_of_hidesDrive form.relative hides
    · intro plain
      refine isStable_of_reads (form.ofText_text plain) ?_
      rw [directory, rootOf_ofList, normalize, form.directoryText_text plain,
        form.dropLast.ofText_text (form.hidesDrive_dropLast plain), rootOf]

/-- **A drive appears.** A relative path gets an absolute normal form, which is not its own normal
form, and an absolute directory. -/
theorem drive_appears_in_front :
    isAbsolute "./C:/x.tsx" = false ∧ join "" "./C:/x.tsx" = "C:/x.tsx" ∧
      isAbsolute "C:/x.tsx" = true ∧ join "" "C:/x.tsx" = "c:/x.tsx" ∧
      directory "./C:/x.tsx" = "C:/" ∧ ¬ IsStable "./C:/x.tsx" := by
  refine ⟨by decide +kernel, by decide +kernel, by decide +kernel, by decide +kernel,
    by decide +kernel, fun stable => ?_⟩
  have absolute := stable.isAbsolute_normal
  revert absolute
  decide +kernel

end ElementTypings.LexicalPath
