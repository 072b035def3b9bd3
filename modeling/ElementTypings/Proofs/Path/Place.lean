import ElementTypings.Proofs.Path.Below

/-!
# Places beside a file

A relative path that stands in a file is followed from the directory of the file. `placeBeside` does
so one segment at a time, in the order in which they are written: a name leads one step down, and
two dots lead back from the last name, or nowhere at the root. Reading the path from the directory's
normal form leads to the same place (`LexicalPath.resolve_directory`).
-/

namespace ElementTypings.LexicalPath

/-- The segments of a path, empty ones included. -/
def segmentsOf (path : List Char) : List Segment :=
  Text.splitOn '/' (slashes path)

/-- The place one segment further, below a root. -/
def stepTo (place : List Segment) (segment : Segment) : List Segment :=
  if segment = [] ∨ segment = here then place
  else if segment = up then place.dropLast
  else place ++ [segment]

/-- The place that a path leads to from the directory of a file, both followed segment by
segment. -/
def placeBeside (file path : String) : LexicalPath :=
  let (root, below) := PathRoot.split (slashes file.toList)
  let place := (Text.splitOn '/' below).foldl stepTo []
  { root, segments := (segmentsOf path.toList).foldl stepTo place.dropLast }

/-- A place is written as its root and its segments, joined by slashes. -/
def fullText (place : LexicalPath) : String :=
  String.ofList (place.root.text ++ List.intercalate ['/'] place.segments)

/-- A step from a place that never goes up leads to one that never does. -/
private theorem up_not_mem_stepTo {place : List Segment} (named : up ∉ place) (segment : Segment) :
    up ∉ stepTo place segment := by
  unfold stepTo
  split
  · exact named
  · split
    · exact fun member => named ((List.dropLast_sublist place).subset member)
    · next other => simpa [named] using Ne.symm other

theorem walk_singleton {place : List Segment} (named : up ∉ place) (segment : Segment) :
    walk place [segment] = stepTo place segment := by
  unfold walk stepTo
  rw [List.foldl_cons, List.foldl_nil]
  unfold enter
  split
  · exact List.reverse_reverse place
  · split
    · rcases List.eq_nil_or_concat place with rfl | ⟨earlier, last, rfl⟩
      · rfl
      · have left : last ≠ up := by
          rintro rfl
          exact named (by simp)
        simp [left]
    · rw [List.reverse_cons, List.reverse_reverse]

/-- Below a root, a walk goes segment by segment. -/
theorem walk_eq_foldl {place : List Segment} (named : up ∉ place) (segments : List Segment) :
    walk place segments = segments.foldl stepTo place := by
  induction segments generalizing place with
  | nil => exact List.reverse_reverse place
  | cons segment later ih =>
      rw [← List.singleton_append, walk_append, walk_singleton named,
        ih (up_not_mem_stepTo named segment), List.singleton_append, List.foldl_cons]

/-- A normal path never goes up. -/
theorem IsNormal.up_not_mem {path : LexicalPath} (normal : path.IsNormal) : up ∉ path.segments :=
  fun member => (normal.names up member).ne_up rfl

/-- A relative path that is resolved against the directory of a file leads to the place beside the
file. -/
theorem resolve_directory {file path : String} (absolute : isAbsolute file)
    (dot : path.toList.head? = some '.') :
    resolve (directory file) path = .ok (placeBeside file path).fullText := by
  have normal := isNormal_ofText absolute
  have based : isAbsolute (directory file) := isAbsolute_directory absolute
  have read : ofText (directory file).toList =
      { ofText file.toList with segments := (ofText file.toList).segments.dropLast } := by
    rw [directory, String.toList_ofList, normalize, normal.directoryText_text,
      normal.dropLast.ofText_text]
  have followed : (ofText file.toList).segments =
      (Text.splitOn '/' (PathRoot.split (slashes file.toList)).2).foldl stepTo [] := by
    rw [segments_ofText absolute, walk_eq_foldl List.not_mem_nil]
  have place : ofText ((directory file).toList ++ '/' :: path.toList) = placeBeside file path := by
    rw [ofText_append_slash based, read, walk_eq_foldl normal.dropLast.up_not_mem, followed]
    rfl
  have reached := isNormal_ofText (isAbsoluteText_append based ('/' :: path.toList))
  rw [place] at reached
  rw [resolve, if_neg (not_isAbsolute_of_dot dot), if_pos based, normalize, place, fullText,
    reached.text_eq]

end ElementTypings.LexicalPath
