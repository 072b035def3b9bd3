import ElementTypings.Path.Host
import ElementTypings.Proofs.Path.Below

/-!
# Normal paths on the host

A normal path below the root of all files is read in the same way by the host: its parent lacks the
last name (`HostPath.parent_rooted_concat`). The paths that the commands work with are absolute on
the host, since the working directory is (`HostPath.isAbsolute_absolute`).
-/

namespace ElementTypings

open LexicalPath (IsName)

namespace HostPath

/-- The absolute path of some names. -/
def rooted (names : List Segment) : String :=
  String.ofList ('/' :: List.intercalate ['/'] names)

theorem isAbsolute_rooted (names : List Segment) : isAbsolute (rooted names) := by
  simp [isAbsolute, rooted]

section Names

variable {names earlier : List Segment} {last : Segment}

/-- A rooted path is split into its names, behind an empty first piece. -/
theorem pieces_rooted (named : ∀ name ∈ names, IsName name) (some : names ≠ []) :
    pieces (rooted names) = [] :: names := by
  rw [pieces, rooted, String.toList_ofList, Text.splitOn, if_pos rfl,
    Text.splitOn_intercalate some fun name listed => (named name listed).no_slash]

/-- A name is a step wherever it stands. -/
theorem isStep_of_isName {piece : Segment} (first : Bool) (named : IsName piece) :
    isStep first piece := by
  have here : piece ≠ ['.'] := named.ne_here
  simp [isStep, named.ne_nil, here]

/-- The parent of a path of names lacks the last name. -/
theorem parent_rooted_concat (named : ∀ name ∈ earlier ++ [last], IsName name) :
    parent (rooted (earlier ++ [last])) = some (rooted earlier) := by
  have ends : isStep (earlier.reverse ++ [[]]).isEmpty last :=
    isStep_of_isName _ (named last (by simp))
  have backwards : (pieces (rooted (earlier ++ [last]))).reverse =
      last :: (earlier.reverse ++ [[]]) := by
    rw [pieces_rooted named (by simp)]
    simp
  rw [parent, backwards, upToStep, if_pos ends]
  rcases List.eq_nil_or_concat earlier with rfl | ⟨before, next, rfl⟩
  · simp [upToStep, isStep, isAbsolute_rooted]
    rfl
  · have below : isStep (before.reverse ++ [[]]).isEmpty next :=
      isStep_of_isName _ (named next (by simp))
    have turned : (before ++ [next]).reverse ++ [[]] = next :: (before.reverse ++ [[]]) := by simp
    have forwards : (next :: (before.reverse ++ [[]])).reverse = [] :: (before ++ [next]) := by simp
    simp only [List.concat_eq_append, turned, upToStep, if_pos below]
    rw [ofPieces, rooted, forwards, List.intercalate_cons_of_ne_nil (by simp)]
    rfl

theorem parent_rooted_nil : parent (rooted []) = none := by
  decide +kernel

end Names

/-! ### Absolute paths -/

/-- The host takes a path as absolute exactly if a slash comes first. -/
theorem isAbsolute_iff_exists {path : String} :
    isAbsolute path ↔ ∃ below, path.toList = '/' :: below := by
  rw [isAbsolute, beq_iff_eq, List.head?_eq_some_iff]

theorem isAbsolute_append {path : String} (absolute : isAbsolute path) (rest : String) :
    isAbsolute (path ++ rest) := by
  obtain ⟨below, text⟩ := isAbsolute_iff_exists.mp absolute
  rw [isAbsolute_iff_exists, String.toList_append, text]
  exact ⟨below ++ rest.toList, rfl⟩

/-- A path joined to an absolute base is absolute. -/
theorem isAbsolute_join {base : String} (absolute : isAbsolute base) (path : String) :
    isAbsolute (join base path) := by
  unfold join
  split
  · assumption
  · split
    · exact isAbsolute_append absolute path
    · rw [String.append_assoc]
      exact isAbsolute_append absolute _

/-- Made absolute from an absolute working directory, every path is absolute. -/
theorem isAbsolute_absolute {workingDirectory : String} (working : isAbsolute workingDirectory)
    (path : String) : isAbsolute (absolute workingDirectory path) := by
  have joined (steps : List (List Char)) (base : String) (based : isAbsolute base) :
      isAbsolute (steps.foldl (fun base step => join base (String.ofList step)) base) := by
    induction steps generalizing base with
    | nil => exact based
    | cons step later ih => exact ih _ (isAbsolute_join based _)
  unfold absolute
  lift_lets
  intro start reached
  have started : isAbsolute start := by
    change isAbsolute (ite _ _ _)
    split
    · exact working
    · split <;> decide
  have arrived : isAbsolute reached := joined (steps path) start started
  split
  · exact isAbsolute_join arrived _
  · exact arrived

end HostPath

namespace LexicalPath

/-- A path that is absolute on the host lies below the root of all files. -/
theorem root_ofText_of_isAbsolute {path : String} (absolute : HostPath.isAbsolute path) :
    (ofText path.toList).root = .slash := by
  obtain ⟨rest, text⟩ := HostPath.isAbsolute_iff_exists.mp absolute
  rw [text]
  rfl

/-- A path that is absolute on the host is absolute as a text. -/
theorem isAbsolute_of_host {path : String} (absolute : HostPath.isAbsolute path) :
    isAbsolute path := by
  change (ofText path.toList).root.isAbsolute
  rw [root_ofText_of_isAbsolute absolute]
  rfl

/-- A name that is joined to a path of the host leads to that name below the names of the path. -/
theorem exists_names_join {base name : String} (absolute : HostPath.isAbsolute base)
    (named : IsName name.toList) :
    ∃ names, join base name = HostPath.rooted (names ++ [name.toList]) ∧
      ∀ other ∈ names ++ [name.toList], IsName other := by
  have root := root_ofText_of_isAbsolute absolute
  have lexical : isAbsolute base := isAbsolute_of_host absolute
  have normal := isNormal_ofText lexical
  have joined := ofText_join lexical named
  have below : (ofText (base.toList ++ '/' :: name.toList)).IsNormal :=
    isNormal_ofText (isAbsoluteText_append lexical _)
  refine ⟨(ofText base.toList).segments, ?_, ?_⟩
  · rw [join, if_neg (ne_empty_of_isAbsolute lexical), normalize, below.text_eq, joined, root]
    rfl
  · have names := below.names
    rw [joined] at names
    exact names

end LexicalPath

end ElementTypings
