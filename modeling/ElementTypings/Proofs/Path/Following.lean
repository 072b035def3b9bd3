import ElementTypings.Proofs.Outcome
import ElementTypings.Proofs.Path.Route
import ElementTypings.Proofs.Path.Stability

/-!
# Following the way to a path

The way from a directory to a path goes up to what they share and down from there, so walking it
from the directory reaches the path (`LexicalPath.walk_route`). A joined path stays on the root of
its base (`LexicalPath.rootOf_join`), whereas the way to a path on another root has the drives among
its steps. So the way leads to the path exactly if directory and path have one root
(`LexicalPath.relative_leads_back_iff`).
-/

namespace ElementTypings.LexicalPath

/-! ### Walking a way -/

/-- A route goes up, or down through names of its target. -/
theorem mem_route {source target : List Segment} {segment : Segment}
    (listed : segment ∈ route source target) : segment = up ∨ segment ∈ target := by
  rcases List.mem_append.mp listed with climbs | down
  · exact .inl (List.eq_of_mem_replicate climbs)
  · exact .inr (List.mem_of_mem_drop down)

/-- Walked from where it starts, the way leads to its target. -/
theorem walk_route {source target : List Segment} (sources : ∀ name ∈ source, IsName name)
    (targets : ∀ name ∈ target, IsName name) : walk source (route source target) = target := by
  have climbed : source.length - (source.length - commonLength source target) =
      commonLength source target := by
    have := commonLength_le source target
    omega
  calc walk source (route source target)
      = walk (source.take (commonLength source target))
          (target.drop (commonLength source target)) := by
        rw [route, walk_append, walk_replicate_up sources, climbed]
    _ = source.take (commonLength source target) ++ target.drop (commonLength source target) :=
        walk_names _ fun name listed => targets name (List.mem_of_mem_drop listed)
    _ = target := by
        rw [← take_commonLength, List.take_append_drop]

/-- Pieces are walked as they are when they were joined by slashes. -/
theorem walk_splitOn_intercalate (start : List Segment) {pieces : List Segment}
    (clean : ∀ piece ∈ pieces, '/' ∉ piece ∧ '\\' ∉ piece) :
    walk start (Text.splitOn '/' (slashes (List.intercalate ['/'] pieces))) =
      walk start pieces := by
  rw [slashes_of_not_mem (backslash_not_mem_intercalate fun piece listed => (clean piece listed).2)]
  by_cases none : pieces = []
  · subst none
    simp [Text.splitOn, walk, enter]
  · rw [Text.splitOn_intercalate none fun piece listed => (clean piece listed).1]

/-! ### Joined paths -/

/-- What is joined to an absolute path is walked from where that path leads. -/
theorem join_eq {base : String} (absolute : isAbsolute base) (path : String) :
    join base path = String.ofList (LexicalPath.text
      { root := rootOf base
        segments := walk (ofText base.toList).segments
          (Text.splitOn '/' (slashes path.toList)) }) := by
  rw [join, if_neg (ne_empty_of_isAbsolute absolute), normalize, ofText_append_slash absolute,
    rootOf]

/-- A joined path stays on the root of its base. -/
theorem rootOf_join {base : String} (absolute : isAbsolute base) (path : String) :
    rootOf (join base path) = rootOf base := by
  have below := isNormal_ofText (isAbsoluteText_append absolute ('/' :: path.toList))
  rw [join, if_neg (ne_empty_of_isAbsolute absolute), rootOf_ofList, normalize, below.ofText_text,
    ofText_append_slash absolute, rootOf]

/-- Nothing is joined to an absolute path: the path is brought into normal form. -/
theorem join_empty_of_isAbsolute {path : String} (absolute : isAbsolute path) :
    join path "" = String.ofList (ofText path.toList).text := by
  have stayed : walk (ofText path.toList).segments (Text.splitOn '/' (slashes [])) =
      (ofText path.toList).segments := by
    simp [slashes, Text.splitOn, walk, enter]
  rw [join_eq absolute, String.toList_empty, stayed, rootOf]

/-- There is a way exactly between absolute paths. -/
theorem exists_relative_iff (source target : String) :
    (∃ way, relative source target = .ok way) ↔ isAbsolute source ∧ isAbsolute target := by
  constructor
  · rintro ⟨way, led⟩
    obtain ⟨rooted, absolute, -⟩ := relative_eq_ok_iff.mp led
    exact ⟨rooted, absolute⟩
  · rintro ⟨rooted, absolute⟩
    exact ⟨_, relative_eq_ok_iff.mpr ⟨rooted, absolute, rfl⟩⟩

/-- On one root, the way leads to its target. -/
theorem join_relative {source target way : String} (led : relative source target = .ok way)
    (sameRoot : rootOf source = rootOf target) : join source way = join target "" := by
  obtain ⟨rooted, absolute, text⟩ := relative_eq_ok_iff.mp led
  have base := isNormal_ofText rooted
  have goal := isNormal_ofText absolute
  have clean : ∀ piece ∈ route (ofText source.toList).segments (ofText target.toList).segments,
      '/' ∉ piece ∧ '\\' ∉ piece := by
    intro piece listed
    rcases mem_route listed with rfl | name
    · exact ⟨by decide, by decide⟩
    · exact ⟨(goal.names piece name).no_slash, (goal.names piece name).no_backslash⟩
  -- The drive that both sides share drops out of the way.
  have way_eq : way.toList = List.intercalate ['/']
      (route (ofText source.toList).segments (ofText target.toList).segments) := by
    have roots : (ofText source.toList).root = (ofText target.toList).root := sameRoot
    rw [text, String.toList_ofList, normalize, base.steps_text, normalize, goal.steps_text, roots,
      route_append_left]
  rw [join_eq rooted, join_empty_of_isAbsolute absolute, way_eq, walk_splitOn_intercalate _ clean,
    walk_route base.names goal.names, sameRoot, rootOf]

/-- **When a way leads to its target.** There is a way between absolute paths, and it stays on the
root of the path that it starts from. Joined to that path it gives the normal form of the other one
exactly if both have one root. -/
theorem relative_leads_back_iff (source target : String) :
    ((∃ way, relative source target = .ok way) ↔ isAbsolute source ∧ isAbsolute target) ∧
      ∀ way, relative source target = .ok way →
        rootOf (join source way) = rootOf source ∧
          (join source way = join target "" ↔ rootOf source = rootOf target) := by
  refine ⟨exists_relative_iff source target, fun way led => ?_⟩
  obtain ⟨rooted, absolute⟩ := (exists_relative_iff source target).mp ⟨way, led⟩
  refine ⟨rootOf_join rooted way, fun same => ?_, join_relative led⟩
  rw [← rootOf_join rooted way, same, rootOf_join absolute]

/-- A directory and a file on one drive, spelled in two ways. -/
theorem relative_leads_back_iff_of_drive :
    relative "C:\\app\\src\\.\\ui\\" "c:/app//lib/../x.tsx" = .ok "../../x.tsx" ∧
      join "C:\\app\\src\\.\\ui\\" "../../x.tsx" = join "c:/app//lib/../x.tsx" "" := by
  have led : relative "C:\\app\\src\\.\\ui\\" "c:/app//lib/../x.tsx" = .ok "../../x.tsx" :=
    eq_ok_of_toOption (by decide +kernel)
  obtain ⟨-, back⟩ := relative_leads_back_iff "C:\\app\\src\\.\\ui\\" "c:/app//lib/../x.tsx"
  exact ⟨led, (back _ led).2.mpr (by decide +kernel)⟩

/-- **A way that leads astray.** A way from a directory to a path on a drive is found, but it stays
on the root of the directory. -/
theorem way_leads_astray :
    relative "/app" "C:/lib/x.ts" = .ok "../c:/lib/x.ts" ∧
      join "/app" "../c:/lib/x.ts" = "/c:/lib/x.ts" ∧ join "C:/lib/x.ts" "" = "c:/lib/x.ts" ∧
      join "/app" "../c:/lib/x.ts" ≠ join "C:/lib/x.ts" "" := by
  refine ⟨eq_ok_of_toOption (by decide +kernel), by decide +kernel, by decide +kernel, ?_⟩
  decide +kernel

end ElementTypings.LexicalPath
