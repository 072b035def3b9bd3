import ElementTypings.Path.Lexical
import ElementTypings.Text.Classes
import Mathlib.Data.List.TakeWhile

/-!
# Normal forms of absolute paths

Reading an absolute path gives a root and names (`LexicalPath.isNormal_ofText`): no segment of it is
empty, a dot or two dots. Such a path is read back from its text
(`LexicalPath.IsNormal.ofText_text`), so an absolute path has one normal form. The segments of the
normal form are the names, behind the drive if there is one (`LexicalPath.IsNormal.steps_text`).

The directory of an absolute path begins with the root of the path
(`LexicalPath.isAbsolute_directory`), so it is absolute as well. A relative path leads from there to
a path in normal form (`LexicalPath.resolve_of_dot`).
-/

namespace ElementTypings

namespace PathRoot

/-- The letter of a drive, as a path that was read has it. -/
def Lawful : PathRoot → Prop
  | drive letter => letter.isAlpha ∧ letter.toLower = letter
  | _ => True

/-- The lower case of an ASCII letter is a letter, and its own lower case. -/
private theorem isAlpha_toLower {letter : Char} (alpha : letter.isAlpha) :
    letter.toLower.isAlpha ∧ letter.toLower.toLower = letter.toLower := by
  have letters : ∀ code < 128, (Char.ofNat code).isAlpha →
      (Char.ofNat code).toLower.isAlpha ∧
        (Char.ofNat code).toLower.toLower = (Char.ofNat code).toLower := by decide
  have small : letter.toNat < 128 := by
    have range := Text.toNat_of_isAlpha alpha
    omega
  have holds := letters letter.toNat small
  rw [Char.ofNat_toNat] at holds
  exact holds alpha

/-- The root that is split off a path is a lawful one. -/
theorem lawful_split (path : List Char) : (split path).1.Lawful := by
  unfold split
  split
  · trivial
  · split
    · next alpha => exact isAlpha_toLower alpha
    · trivial
  · trivial

/-- An absolute root is read off any text that begins with it. -/
theorem split_text_append {root : PathRoot} (lawful : root.Lawful) (absolute : root.isAbsolute)
    (rest : List Char) : split (root.text ++ rest) = (root, rest) := by
  cases root with
  | relative => cases absolute
  | slash => rfl
  | drive letter =>
      obtain ⟨alpha, lower⟩ := lawful
      have other : letter ≠ '/' := by
        rintro rfl
        cases alpha
      change split (letter :: ':' :: '/' :: rest) = _
      unfold split
      split
      · next same => exact (other (List.cons.inj same).1).elim
      · next same =>
        obtain ⟨rfl, rfl⟩ : letter = _ ∧ rest = _ := by simpa using same
        rw [if_pos alpha, lower]
      · next unread => exact (unread letter rest rfl).elim

/-- What follows an absolute path does not change how its root is read. -/
theorem split_append {path : List Char} (absolute : (split path).1.isAbsolute)
    (rest : List Char) : split (path ++ rest) = ((split path).1, (split path).2 ++ rest) := by
  unfold split at absolute ⊢
  split at absolute
  · rfl
  · next letter below _ =>
    split at absolute
    · next alpha => simp [alpha]
    · cases absolute
  · cases absolute

theorem backslash_not_mem_text {root : PathRoot} (lawful : root.Lawful) : '\\' ∉ root.text := by
  cases root with
  | relative => simp [text]
  | slash => simp [text]
  | drive letter =>
      intro member
      have same : letter = '\\' := by simpa [text, eq_comm] using member
      subst same
      obtain ⟨alpha, -⟩ := lawful
      cases alpha

theorem exists_text_eq_append_slash {root : PathRoot} (absolute : root.isAbsolute) :
    ∃ stem, root.text = stem ++ ['/'] := by
  cases root with
  | relative => cases absolute
  | slash => exact ⟨[], rfl⟩
  | drive letter => exact ⟨[letter, ':'], rfl⟩

/-- The segments that a root adds to those of a normal form: the drive, if there is one. -/
def steps : PathRoot → List Segment
  | drive letter => [[letter, ':']]
  | _ => []

end PathRoot

namespace LexicalPath

/-! ### Separators -/

theorem slashes_append (first second : List Char) :
    slashes (first ++ second) = slashes first ++ slashes second :=
  List.map_append

theorem slashes_of_not_mem {path : List Char} (absent : '\\' ∉ path) : slashes path = path := by
  have kept : ∀ char ∈ path, (if char = '\\' then '/' else char) = char := by
    intro char member
    rw [if_neg]
    rintro rfl
    exact absent member
  exact (List.map_congr_left kept).trans (List.map_id path)

theorem backslash_not_mem_slashes (path : List Char) : '\\' ∉ slashes path := by
  intro member
  obtain ⟨char, -, same⟩ := List.mem_map.mp member
  split at same
  · cases same
  · next other => exact other same

theorem backslash_not_mem_intercalate {pieces : List Segment}
    (clean : ∀ piece ∈ pieces, '\\' ∉ piece) : '\\' ∉ List.intercalate ['/'] pieces := by
  intro member
  rcases Text.mem_intercalate member with impossible | ⟨piece, listed, inside⟩
  · cases impossible
  · exact clean piece listed inside

/-- A text that begins with an absolute root is absolute. -/
theorem isAbsoluteText_text_append {root : PathRoot} (lawful : root.Lawful)
    (absolute : root.isAbsolute) (rest : List Char) : isAbsoluteText (root.text ++ rest) := by
  unfold isAbsoluteText
  rw [slashes_append, slashes_of_not_mem (PathRoot.backslash_not_mem_text lawful),
    PathRoot.split_text_append lawful absolute]
  exact absolute

/-- What follows an absolute path does not make it a relative one. -/
theorem isAbsoluteText_append {base : List Char} (absolute : isAbsoluteText base)
    (rest : List Char) : isAbsoluteText (base ++ rest) := by
  unfold isAbsoluteText at absolute ⊢
  rw [slashes_append, PathRoot.split_append absolute]
  exact absolute

/-- A path that begins with a dot is not absolute. -/
theorem not_isAbsolute_of_dot {path : String} (dot : path.toList.head? = some '.') :
    ¬ isAbsolute path := by
  obtain ⟨rest, text⟩ := List.head?_eq_some_iff.mp dot
  have read : (PathRoot.split ('.' :: slashes rest)).1 = .relative := by
    unfold PathRoot.split
    split
    · next same => cases same
    · next same =>
      obtain ⟨rfl, -⟩ := List.cons.inj same
      rfl
    · rfl
  have slashed : slashes path.toList = '.' :: slashes rest := by
    rw [text]
    rfl
  rw [isAbsolute, isAbsoluteText, slashed, read]
  exact Bool.false_ne_true

/-! ### Walks below a root -/

/-- A segment that stays in a walk: it leads one step down. -/
structure IsName (segment : Segment) : Prop where
  ne_nil : segment ≠ []
  ne_here : segment ≠ here
  ne_up : segment ≠ up
  no_slash : '/' ∉ segment
  no_backslash : '\\' ∉ segment

/-- A name is entered below what was walked. -/
theorem enter_of_isName {absolute : Bool} {walked : List Segment} {segment : Segment}
    (name : IsName segment) : enter absolute walked segment = segment :: walked := by
  unfold enter
  rw [if_neg (not_or.mpr ⟨name.ne_nil, name.ne_here⟩), if_neg name.ne_up]

/-- A step below a root leaves names only. -/
theorem isName_of_mem_enter {walked : List Segment} {segment : Segment}
    (names : ∀ name ∈ walked, IsName name) (no_slash : '/' ∉ segment)
    (no_backslash : '\\' ∉ segment) : ∀ name ∈ enter true walked segment, IsName name := by
  unfold enter
  split
  · exact names
  · next moves =>
    rw [not_or] at moves
    split
    · cases walked with
      | nil =>
          intro name impossible
          cases impossible
      | cons last earlier =>
          have stays : last ≠ up := (names last List.mem_cons_self).ne_up
          simp only [stays, ↓reduceIte]
          exact fun name member => names name (List.mem_cons_of_mem _ member)
    · next down =>
      intro name member
      rcases List.mem_cons.mp member with rfl | old
      · exact ⟨moves.1, moves.2, down, no_slash, no_backslash⟩
      · exact names name old

/-- Walking clean segments from an absolute root leaves names only. -/
theorem isName_of_mem_walk {segments walked : List Segment}
    (clean : ∀ segment ∈ segments, '/' ∉ segment ∧ '\\' ∉ segment)
    (names : ∀ name ∈ walked, IsName name) :
    ∀ name ∈ segments.foldl (enter true) walked, IsName name := by
  induction segments generalizing walked with
  | nil => exact names
  | cons segment later ih =>
      have first := clean segment List.mem_cons_self
      apply ih
      · exact fun other member => clean other (List.mem_cons_of_mem _ member)
      · exact isName_of_mem_enter names first.1 first.2

/-- Names are walked as they stand. -/
theorem walk_of_isName {absolute : Bool} {segments : List Segment} (walked : List Segment)
    (names : ∀ segment ∈ segments, IsName segment) :
    segments.foldl (enter absolute) walked = segments.reverse ++ walked := by
  induction segments generalizing walked with
  | nil => rfl
  | cons segment later ih =>
      have first := names segment List.mem_cons_self
      rw [List.foldl_cons, enter_of_isName first,
        ih _ fun other member => names other (List.mem_cons_of_mem _ member)]
      simp

/-! ### Slashes -/

/-- Segments that are joined by slashes are split again. -/
theorem steps_intercalate {segments : List Segment}
    (clean : ∀ segment ∈ segments, segment ≠ [] ∧ '/' ∉ segment) :
    steps (List.intercalate ['/'] segments) = segments := by
  unfold steps
  cases segments with
  | nil => rfl
  | cons first later =>
      rw [Text.splitOn_intercalate (List.cons_ne_nil _ _) fun segment listed =>
        (clean segment listed).2]
      exact List.filter_eq_self.mpr fun segment listed => by simpa using (clean segment listed).1

/-- What stands before the last slash is the directory, unless it is shorter than the root. -/
theorem directoryText_append {before last : List Char} (absent : '/' ∉ last) :
    directoryText (before ++ '/' :: last) =
      (before ++ '/' :: last).take
        (max (PathRoot.split (before ++ '/' :: last)).1.text.length before.length) := by
  have name : (before ++ '/' :: last).reverse.takeWhile (· ≠ '/') = last.reverse := by
    rw [List.reverse_append, List.reverse_cons, List.append_assoc, List.takeWhile_append_of_pos]
    · simp
    · intro char member
      rw [decide_eq_true_iff]
      rintro rfl
      exact absent (List.mem_reverse.mp member)
  unfold directoryText
  simp only [name, List.length_append, List.length_reverse, List.length_cons]
  rw [if_neg (by omega)]
  congr 2
  omega

/-! ### Normal paths -/

/-- What reading an absolute path gives. -/
structure IsNormal (path : LexicalPath) : Prop where
  lawful : path.root.Lawful
  absolute : path.root.isAbsolute
  names : ∀ segment ∈ path.segments, IsName segment

/-- What stands below the root of a path stands in the path. -/
theorem mem_of_mem_split {path : List Char} {char : Char}
    (member : char ∈ (PathRoot.split path).2) : char ∈ path := by
  unfold PathRoot.split at member
  split at member
  · exact List.mem_cons_of_mem _ member
  · split at member
    · exact List.mem_cons_of_mem _ (List.mem_cons_of_mem _ (List.mem_cons_of_mem _ member))
    · exact member
  · exact member

/-- An absolute path is read as a root and names. -/
theorem isNormal_ofText {path : List Char} (absolute : isAbsoluteText path) :
    (ofText path).IsNormal := by
  have clean : ∀ segment ∈ Text.splitOn '/' (PathRoot.split (slashes path)).2,
      '/' ∉ segment ∧ '\\' ∉ segment := by
    intro segment listed
    refine ⟨Text.not_mem_of_mem_splitOn listed, fun member => ?_⟩
    exact backslash_not_mem_slashes path (mem_of_mem_split (Text.mem_of_mem_splitOn listed member))
  refine ⟨PathRoot.lawful_split _, absolute, ?_⟩
  intro segment member
  have walked : segment ∈ (Text.splitOn '/' (PathRoot.split (slashes path)).2).foldl
      (enter (PathRoot.split (slashes path)).1.isAbsolute) [] := List.mem_reverse.mp member
  rw [show (PathRoot.split (slashes path)).1.isAbsolute = true from absolute] at walked
  exact isName_of_mem_walk clean (fun name impossible => (List.not_mem_nil impossible).elim) segment
    walked

namespace IsNormal

variable {path : LexicalPath}

/-- A normal path is written as its root and its segments between slashes. -/
theorem text_eq (normal : path.IsNormal) :
    path.text = path.root.text ++ List.intercalate ['/'] path.segments := by
  unfold text
  rw [if_neg]
  rintro ⟨relative, -⟩
  have absolute := normal.absolute
  rw [relative] at absolute
  cases absolute

theorem isAbsoluteText_text (normal : path.IsNormal) : isAbsoluteText path.text := by
  rw [normal.text_eq]
  exact isAbsoluteText_text_append normal.lawful normal.absolute _

theorem backslash_not_mem_text (normal : path.IsNormal) : '\\' ∉ path.text := by
  rw [normal.text_eq, List.mem_append, not_or]
  exact ⟨PathRoot.backslash_not_mem_text normal.lawful,
    backslash_not_mem_intercalate fun name listed => (normal.names name listed).no_backslash⟩

/-- A normal path is read back from its text. -/
theorem ofText_text (normal : path.IsNormal) : ofText path.text = path := by
  have read : PathRoot.split (slashes path.text) =
      (path.root, List.intercalate ['/'] path.segments) := by
    rw [slashes_of_not_mem normal.backslash_not_mem_text, normal.text_eq]
    exact PathRoot.split_text_append normal.lawful normal.absolute _
  have walked : (Text.splitOn '/' (List.intercalate ['/'] path.segments)).foldl
      (enter path.root.isAbsolute) [] = path.segments.reverse := by
    by_cases none : path.segments = []
    · rw [none]
      rfl
    · rw [Text.splitOn_intercalate none fun name listed => (normal.names name listed).no_slash,
        walk_of_isName [] normal.names, List.append_nil]
  unfold ofText
  rw [read]
  simp only [walked, List.reverse_reverse]

/-- A normal path is the only one with its text. -/
theorem normalize_text (normal : path.IsNormal) : normalize path.text = path.text := by
  rw [normalize, normal.ofText_text]

/-- The steps to a normal path are those of its root and then its segments. -/
theorem steps_text (normal : path.IsNormal) :
    steps path.text = path.root.steps ++ path.segments := by
  have names := steps_intercalate fun segment listed =>
    ⟨(normal.names segment listed).ne_nil, (normal.names segment listed).no_slash⟩
  rw [normal.text_eq]
  cases rooted : path.root with
  | relative =>
      have absolute := normal.absolute
      rw [rooted] at absolute
      cases absolute
  | slash => simpa [PathRoot.text, PathRoot.steps, steps, Text.splitOn] using names
  | drive letter =>
      have lawful := normal.lawful
      rw [rooted] at lawful
      have other : letter ≠ '/' := by
        rintro rfl
        cases lawful.1
      have drive : '/' ∉ [letter, ':'] := by simp [Ne.symm other]
      have split : Text.splitOn '/' ([letter, ':'] ++
          '/' :: List.intercalate ['/'] path.segments) =
          [letter, ':'] :: Text.splitOn '/' (List.intercalate ['/'] path.segments) := by
        rw [Text.splitOn_append_cons, Text.splitOn_of_not_mem drive]
        rfl
      change steps ([letter, ':'] ++ '/' :: List.intercalate ['/'] path.segments) = _
      unfold steps at names ⊢
      rw [split, List.filter_cons, if_pos (by simp), names]
      rfl

theorem dropLast (normal : path.IsNormal) :
    ({ path with segments := path.segments.dropLast } : LexicalPath).IsNormal :=
  ⟨normal.lawful, normal.absolute, fun segment listed =>
    normal.names segment ((List.dropLast_sublist _).subset listed)⟩

/-- The directory of a normal path lacks the last name. -/
theorem directoryText_text (normal : path.IsNormal) :
    directoryText path.text = { path with segments := path.segments.dropLast }.text := by
  obtain ⟨stem, ends⟩ := PathRoot.exists_text_eq_append_slash normal.absolute
  have root : (PathRoot.split path.text).1 = path.root := by
    rw [normal.text_eq, PathRoot.split_text_append normal.lawful normal.absolute]
  rw [normal.dropLast.text_eq]
  rcases List.eq_nil_or_concat path.segments with none | ⟨earlier, last, names⟩
  · have text : path.text = stem ++ '/' :: [] := by
      rw [normal.text_eq, none, ends]
      simp
    rw [text, directoryText_append List.not_mem_nil, ← text, root, text, none, ends]
    simp [List.take_length_add_append]
  · have absent : '/' ∉ last := (normal.names last (by simp [names])).no_slash
    by_cases first : earlier = []
    · have text : path.text = stem ++ '/' :: last := by
        rw [normal.text_eq, names, first, ends]
        simp
      rw [text, directoryText_append absent, ← text, root, text, names, first, ends]
      simp [List.take_length_add_append]
    · have text : path.text =
          (path.root.text ++ List.intercalate ['/'] earlier) ++ '/' :: last := by
        rw [normal.text_eq, names, List.concat_eq_append,
          Text.intercalate_append_singleton '/' first, List.append_assoc]
      have longer : path.root.text.length ≤
          (path.root.text ++ List.intercalate ['/'] earlier).length := by simp
      rw [text, directoryText_append absent, ← text, root, text, names, max_eq_right longer,
        List.take_left, List.concat_eq_append, List.dropLast_concat]

end IsNormal

/-- The directory of an absolute path is absolute. -/
theorem isAbsolute_directory {path : String} (absolute : isAbsolute path) :
    isAbsolute (directory path) := by
  have normal := isNormal_ofText absolute
  unfold isAbsolute directory
  rw [String.toList_ofList, normalize, normal.directoryText_text]
  exact normal.dropLast.isAbsoluteText_text

/-- A relative path leads to an absolute file in normal form. -/
theorem resolve_of_dot {base path file : String} (dot : path.toList.head? = some '.')
    (led : resolve base path = .ok file) :
    isAbsolute file ∧ normalize file.toList = file.toList := by
  unfold resolve at led
  rw [if_neg (not_isAbsolute_of_dot dot)] at led
  split at led
  · next absolute =>
    have normal := isNormal_ofText (isAbsoluteText_append absolute ('/' :: path.toList))
    cases led
    unfold isAbsolute
    rw [String.toList_ofList, normalize, normal.normalize_text]
    exact ⟨normal.isAbsoluteText_text, rfl⟩
  · cases led

end LexicalPath

end ElementTypings
