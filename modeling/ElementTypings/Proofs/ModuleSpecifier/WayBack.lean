import ElementTypings.Generation.Generate
import ElementTypings.Proofs.ModuleSpecifier.Sources
import ElementTypings.Proofs.Path.Below

/-!
# The way from a document to its modules

A document is written in the source root and imports a file by a relative specifier. Whoever reads
the document follows the specifier from the document's directory, which is the normal form of the
source root, and arrives at the file without its extension
(`ModuleSpecifier.resolve_ofFile`). What remains of a file name that is nothing but dots and an
extension is followed as well: `...ts` leads to the parent directory on both ways.
-/

namespace ElementTypings.ModuleSpecifier

open LexicalPath

/-- The dot in front of a way that goes down is a step that stays. -/
theorem walk_written (start : List Segment) (way : String) :
    walk start (Text.splitOn '/' (written way).toList) =
      walk start (Text.splitOn '/' way.toList) := by
  unfold written
  split
  · rfl
  · rw [String.toList_append]
    change walk start (here :: Text.splitOn '/' way.toList) = _
    exact walk_here start _

/-- Writing a way adds no backslash. -/
theorem backslash_not_mem_written {way : String} (absent : '\\' ∉ way.toList) :
    '\\' ∉ (written way).toList := by
  unfold written
  split
  · exact absent
  · rw [String.toList_append, List.mem_append, not_or]
    exact ⟨by decide, absent⟩

/-- A written way starts at a place or above it. -/
theorem starts_written (way : String) :
    "./".toList <+: (written way).toList ∨ "../".toList <+: (written way).toList := by
  unfold written
  split
  · next climbs => exact Or.inr (List.isPrefixOf_iff_prefix.mp climbs)
  · refine Or.inl ?_
    rw [String.toList_append]
    exact List.prefix_append _ _

/-- The pieces of a file without its extension hold no separator. -/
theorem clean_of_mem_stemLast {path : LexicalPath} (normal : path.IsNormal) :
    ∀ piece ∈ stemLast path.segments, '/' ∉ piece ∧ '\\' ∉ piece := by
  intro piece listed
  rcases mem_stemLast listed with old | ⟨last, ends, rfl⟩
  · have name := normal.names piece old
    exact ⟨name.no_slash, name.no_backslash⟩
  · have name := normal.names last (List.mem_of_getLast? ends)
    have kept := (stem_isPrefix last).subset
    exact ⟨fun member => name.no_slash (kept member), fun member => name.no_backslash (kept member)⟩

section Segments

variable {source target : List Segment}

/-- A way to somewhere leads somewhere without the extension too. -/
theorem stemLast_ne_nil (some : target ≠ []) : stemLast target ≠ [] := by
  intro none
  apply some
  apply List.eq_nil_of_length_eq_zero
  rw [← length_stemLast, none, List.length_nil]

/-- Walked from the directory that it starts at, the route to a file outside of the directory leads
to the file without its extension. -/
theorem walk_route (sources : ∀ name ∈ source, IsName name) (targets : ∀ name ∈ target, IsName name)
    (outside : ¬ target <+: source) :
    walk source (stemLast (route source target)) = walk [] (stemLast target) := by
  have below : target.drop (commonLength source target) ≠ [] := by
    rw [Ne, List.drop_eq_nil_iff]
    exact Nat.not_le_of_lt (commonLength_lt outside)
  have shared : source.take (commonLength source target) <+: source := List.take_prefix _ source
  have climbed : source.length - (source.length - commonLength source target) =
      commonLength source target := by
    have := commonLength_le source target
    omega
  have whole : stemLast target = target.take (commonLength source target) ++
      (stemLast target).drop (commonLength source target) := by
    rw [drop_stemLast, ← stemLast_append below, List.take_append_drop]
  calc walk source (stemLast (route source target))
      = walk (source.take (commonLength source target))
          ((stemLast target).drop (commonLength source target)) := by
        rw [stemLast_route, walk_append, walk_replicate_up sources, climbed]
    _ = walk (walk [] (target.take (commonLength source target)))
          ((stemLast target).drop (commonLength source target)) := by
        rw [walk_names [] fun name listed => targets name (List.mem_of_mem_take listed),
          List.nil_append, take_commonLength]
    _ = walk [] (stemLast target) := by
        rw [← walk_append, ← whole]

/-- The route to a file without its extension, cut at its slashes, gives the steps back. -/
theorem splitOn_route (outside : ¬ target <+: source)
    (clean : ∀ piece ∈ stemLast target, '/' ∉ piece ∧ '\\' ∉ piece) :
    Text.splitOn '/' (List.intercalate ['/'] (stemLast (route source target))) =
        stemLast (route source target) ∧
      '\\' ∉ List.intercalate ['/'] (stemLast (route source target)) := by
  have pieces : ∀ piece ∈ stemLast (route source target), '/' ∉ piece ∧ '\\' ∉ piece :=
    forall_mem_stemLast_route ⟨by decide, by decide⟩ clean
  have some : stemLast (route source target) ≠ [] := by
    apply stemLast_ne_nil
    intro none
    have length := congrArg List.length none
    have longer := commonLength_lt outside
    simp only [route, List.length_append, List.length_drop, List.length_nil] at length
    omega
  exact ⟨Text.splitOn_intercalate some fun piece listed => (pieces piece listed).1,
    LexicalPath.backslash_not_mem_intercalate fun piece listed => (pieces piece listed).2⟩

end Segments

/-- The name of a document is a name in its directory. -/
theorem isName_documentName : IsName Generation.documentName.toList where
  ne_nil := by decide
  ne_here := by decide
  ne_up := by decide
  no_slash := by decide
  no_backslash := by decide

/-- **A specifier leads back to its file.** The specifier of an absolute file that lies on the root
of the source root, and that is neither the source root nor above it, is relative; followed from the
directory of the document it leads to the normal form of the file without its extension. -/
theorem resolve_ofFile {sourceRoot file : String} (rooted : isAbsolute sourceRoot)
    (absolute : isAbsolute file)
    (sameRoot : (ofText sourceRoot.toList).root = (ofText file.toList).root)
    (outside : ¬ (ofText file.toList).segments <+: (ofText sourceRoot.toList).segments) :
    ∃ specifier, ofFile sourceRoot file = .ok specifier ∧
      ("./".toList <+: specifier.toList ∨ "../".toList <+: specifier.toList) ∧
      resolve (directory (join sourceRoot Generation.documentName)) specifier =
        .ok (String.ofList (normalize
          (stripExtension (String.ofList (normalize file.toList))).toList)) := by
  have base := isNormal_ofText rooted
  have target := isNormal_ofText absolute
  have clean := clean_of_mem_stemLast target
  have some : (ofText file.toList).segments ≠ [] := by
    intro none
    rw [none] at outside
    exact outside (List.nil_prefix)
  obtain ⟨split, plain⟩ := splitOn_route outside clean
  -- The specifier is the route between the segments; the drive that both sides share drops out.
  refine ⟨_, ofFile_eq_ok_iff.mpr ⟨rooted, absolute, rfl⟩, starts_written _, ?_⟩
  rw [LexicalPath.normalize, base.steps_text, LexicalPath.normalize, target.steps_text, sameRoot,
    route_append_left]
  generalize way : String.ofList (List.intercalate ['/'] (stemLast
    (route (ofText sourceRoot.toList).segments (ofText file.toList).segments))) = route'
  have text : route'.toList = List.intercalate ['/'] (stemLast
      (route (ofText sourceRoot.toList).segments (ofText file.toList).segments)) := by
    rw [← way, String.toList_ofList]
  -- Both sides are read as a walk.
  have followed : ofText ((ofText sourceRoot.toList).text ++ '/' :: (written route').toList) =
      { root := (ofText file.toList).root
        segments := walk [] (stemLast (ofText file.toList).segments) } := by
    rw [ofText_append_slash base.isAbsoluteText_text, base.ofText_text,
      slashes_of_not_mem (backslash_not_mem_written (text ▸ plain)), walk_written, text, split,
      walk_route base.names target.names outside, sameRoot]
  have reached : ofText (stem (ofText file.toList).text) =
      { root := (ofText file.toList).root
        segments := walk [] (stemLast (ofText file.toList).segments) } := by
    rw [stem_text target]
    exact ofText_text_append target.lawful target.absolute (stemLast_ne_nil some) clean
  have relative : ¬ isAbsolute (written route') := not_isAbsolute_of_dot (head?_written _)
  have start : isAbsolute (String.ofList (LexicalPath.normalize sourceRoot.toList)) := by
    rw [isAbsolute, String.toList_ofList]
    exact base.isAbsoluteText_text
  rw [directory_join rooted isName_documentName, resolve, if_neg relative, if_pos start,
    String.toList_ofList, stripExtension_eq, String.toList_ofList, String.toList_ofList,
    LexicalPath.normalize, LexicalPath.normalize, LexicalPath.normalize, followed, reached]

/-- A directory and a file on one drive, spelled in two ways: the file name leaves a step up when
its extension is dropped, and the specifier leads where that step leads. -/
theorem resolve_ofFile_on_drive :
    ofFile "C:\\App\\src\\.\\ui\\" "c:/App//lib/../src/shared/...ts" = .ok "../shared/.." ∧
      resolve (directory (join "C:\\App\\src\\.\\ui\\" Generation.documentName)) "../shared/.." =
        .ok "c:/App/src" := by
  have located : ofFile "C:\\App\\src\\.\\ui\\" "c:/App//lib/../src/shared/...ts" =
      .ok "../shared/.." := eq_ok_of_toOption (by decide +kernel)
  obtain ⟨specifier, found, -, back⟩ := @resolve_ofFile
    "C:\\App\\src\\.\\ui\\" "c:/App//lib/../src/shared/...ts"
    (by decide +kernel) (by decide +kernel) (by decide +kernel) (by decide +kernel)
  have file : String.ofList (LexicalPath.normalize (stripExtension (String.ofList
      (LexicalPath.normalize "c:/App//lib/../src/shared/...ts".toList))).toList) =
      "c:/App/src" := by decide +kernel
  obtain rfl : "../shared/.." = specifier := Except.ok.inj (located.symm.trans found)
  exact ⟨located, back.trans (congrArg Except.ok file)⟩

end ElementTypings.ModuleSpecifier
