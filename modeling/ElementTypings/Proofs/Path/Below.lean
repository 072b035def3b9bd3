import ElementTypings.Proofs.Path.NormalForm

/-!
# Paths below a directory

What follows the slash behind an absolute path is walked from where that path led
(`LexicalPath.ofText_append_slash`), so a text below a directory can be read without the spelling
of the directory. A name that is joined to a directory stands last in the normal form, and the
directory of the result is the normal form of the one that it was joined to
(`LexicalPath.directory_join`).
-/

namespace ElementTypings

namespace LexicalPath

/-- The segments that a walk from some segments reaches. -/
def walk (start : List Segment) (segments : List Segment) : List Segment :=
  (segments.foldl (enter true) start.reverse).reverse

theorem walk_append (start first second : List Segment) :
    walk start (first ++ second) = walk (walk start first) second := by
  unfold walk
  rw [List.foldl_append, List.reverse_reverse]

/-- Names are walked one below the other. -/
theorem walk_names (start : List Segment) {names : List Segment}
    (named : ∀ name ∈ names, IsName name) : walk start names = start ++ names := by
  unfold walk
  rw [walk_of_isName start.reverse named, List.reverse_append, List.reverse_reverse,
    List.reverse_reverse]

theorem walk_here (start later : List Segment) : walk start (here :: later) = walk start later := by
  simp [walk, enter]

/-- Every step up leaves a name. -/
theorem walk_replicate_up {start : List Segment} (named : ∀ name ∈ start, IsName name)
    (count : Nat) :
    walk start (List.replicate count up) = start.take (start.length - count) := by
  induction count generalizing start with
  | zero => simp [walk]
  | succ count ih =>
      have first : walk start [up] = start.dropLast := by
        rcases List.eq_nil_or_concat start with rfl | ⟨earlier, last, rfl⟩
        · rfl
        · have stays : last ≠ up := (named last (by simp)).ne_up
          simp [walk, enter, stays, show up ≠ [] from nofun, show up ≠ here by decide]
      have left : ∀ name ∈ start.dropLast, IsName name := fun name listed =>
        named name ((List.dropLast_sublist _).subset listed)
      rw [List.replicate_succ, ← List.singleton_append, walk_append, first, ih left,
        List.dropLast_eq_take, List.take_take, List.length_take]
      congr 1
      omega

/-- An absolute path is the walk of its pieces from the root. -/
theorem segments_ofText {path : List Char} (absolute : isAbsoluteText path) :
    (ofText path).segments = walk [] (Text.splitOn '/' (PathRoot.split (slashes path)).2) := by
  have rooted : (PathRoot.split (slashes path)).1.isAbsolute = true := absolute
  simp only [ofText, walk, rooted, List.reverse_nil]

/-- What stands below an absolute path is walked from where that path led. -/
theorem ofText_append_slash {base : List Char} (absolute : isAbsoluteText base)
    (rest : List Char) :
    ofText (base ++ '/' :: rest) =
      { root := (ofText base).root
        segments := walk (ofText base).segments (Text.splitOn '/' (slashes rest)) } := by
  have slashed : slashes (base ++ '/' :: rest) = slashes base ++ '/' :: slashes rest := by
    rw [slashes_append]
    rfl
  have read := PathRoot.split_append absolute ('/' :: slashes rest)
  have segments : (ofText (base ++ '/' :: rest)).segments =
      walk (ofText base).segments (Text.splitOn '/' (slashes rest)) := by
    rw [segments_ofText (isAbsoluteText_append absolute _), segments_ofText absolute, slashed,
      read, Text.splitOn_append_cons, walk_append]
  rw [← segments]
  unfold ofText
  rw [slashed, read]

/-- The text of a root and pieces below it is read as the walk of these pieces. -/
theorem ofText_text_append {root : PathRoot} (lawful : root.Lawful) (absolute : root.isAbsolute)
    {pieces : List Segment} (some : pieces ≠ [])
    (clean : ∀ piece ∈ pieces, '/' ∉ piece ∧ '\\' ∉ piece) :
    ofText (root.text ++ List.intercalate ['/'] pieces) = { root, segments := walk [] pieces } := by
  have joined : '\\' ∉ List.intercalate ['/'] pieces :=
    backslash_not_mem_intercalate fun piece listed => (clean piece listed).2
  have read : PathRoot.split (slashes (root.text ++ List.intercalate ['/'] pieces)) =
      (root, List.intercalate ['/'] pieces) := by
    rw [slashes_append, slashes_of_not_mem (PathRoot.backslash_not_mem_text lawful),
      slashes_of_not_mem joined, PathRoot.split_text_append lawful absolute]
  have split := Text.splitOn_intercalate some fun piece listed => (clean piece listed).1
  simp only [ofText, walk, read, split, absolute, List.reverse_nil]

theorem ne_empty_of_isAbsolute {path : String} (absolute : isAbsolute path) : path ≠ "" := by
  rintro rfl
  cases absolute

/-- A name below a directory is the last of the names. -/
theorem ofText_join {base name : String} (absolute : isAbsolute base)
    (named : IsName name.toList) :
    ofText (base.toList ++ '/' :: name.toList) =
      { root := (ofText base.toList).root
        segments := (ofText base.toList).segments ++ [name.toList] } := by
  rw [ofText_append_slash absolute, slashes_of_not_mem named.no_backslash,
    Text.splitOn_of_not_mem named.no_slash, walk_names]
  simpa using named

/-- The directory of a name that was joined to a directory is that directory. -/
theorem directory_join {base name : String} (absolute : isAbsolute base)
    (named : IsName name.toList) :
    directory (join base name) = String.ofList (normalize base.toList) := by
  have normal := isNormal_ofText absolute
  have below : (ofText (base.toList ++ '/' :: name.toList)).IsNormal :=
    isNormal_ofText (isAbsoluteText_append absolute _)
  unfold directory join
  rw [if_neg (ne_empty_of_isAbsolute absolute), String.toList_ofList, normalize, normalize,
    below.ofText_text, below.directoryText_text, ofText_join absolute named, List.dropLast_concat]
  rfl

end LexicalPath

end ElementTypings
