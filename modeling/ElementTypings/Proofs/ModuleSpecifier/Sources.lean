import ElementTypings.Proofs.ModuleSpecifier.Agreement
import ElementTypings.Proofs.Outcome

/-!
# Sources, the files they name and their specifiers

An absolute source names a file of the project by a path; spellings of one file have the same normal
form but for the extension (`ModuleSpecifier.fileOf`). The specifier of a source is the route from
the source root to the normal form, without the extension. It begins with a dot
(`ModuleSpecifier.head?_ofFile`); that of a package is the name of the package. Two sources have one
specifier exactly if they are the same, or absolute paths to which the routes cannot be told apart
(`ModuleSpecifier.module_eq_iff`). These name one file, unless a name is nothing but dots and an
extension (`ModuleSpecifier.Indistinct.fileOf_eq`).

A source is canonical if it is the spelling that the file has in its normal form, without the
extension. A file has one canonical source, so canonical sources have different specifiers
(`ModuleSpecifier.Indistinct.eq_of_isCanonical`). A path in normal form gives a canonical source
when its extension is dropped (`ModuleSpecifier.isCanonical_stripExtension`).
-/

namespace ElementTypings.ModuleSpecifier

open LexicalPath

/-! ### Specifiers of files -/

/-- A way from the source root as a specifier writes it. -/
def written (way : String) : String :=
  if "../".toList.isPrefixOf way.toList then way else "./" ++ way

theorem head?_written (way : String) : (written way).toList.head? = some '.' := by
  unfold written
  split
  · next climbs =>
    obtain ⟨rest, text⟩ := List.isPrefixOf_iff_prefix.mp climbs
    rw [← text]
    rfl
  · rw [String.toList_append]
    rfl

/-- Ways that are written the same are the same. -/
theorem written_injective {first second : String} (same : written first = written second) :
    first = second := by
  have apart : ∀ way other : String, "../".toList.isPrefixOf way.toList → way ≠ "./" ++ other := by
    intro way other climbs same
    obtain ⟨rest, text⟩ := List.isPrefixOf_iff_prefix.mp climbs
    rw [same, String.toList_append] at text
    exact absurd (List.cons.inj (List.cons.inj text).2).1 (by decide)
  unfold written at same
  split at same
  · next climbs =>
    split at same
    · exact same
    · exact (apart _ _ climbs same).elim
  · split at same
    · next climbs => exact (apart _ _ climbs same.symm).elim
    · exact (String.append_right_inj _).mp same

theorem ofFile_eq (sourceRoot file : String) :
    ofFile sourceRoot file =
      (relative sourceRoot file).map fun way => written (stripExtension way) := by
  unfold ofFile
  cases relative sourceRoot file with
  | error cause => rfl
  | ok way =>
      change (if _ then pure _ else pure _) = Except.ok (written _)
      unfold written
      split
      · rfl
      · rfl

/-- The specifier of an absolute file is the route to its normal form, without the extension. -/
theorem ofFile_eq_ok_iff {sourceRoot file module : String} :
    ofFile sourceRoot file = .ok module ↔
      isAbsolute sourceRoot ∧ isAbsolute file ∧
        written (String.ofList (List.intercalate ['/'] (stemLast
          (route (steps (normalize sourceRoot.toList)) (steps (normalize file.toList)))))) =
            module := by
  rw [ofFile_eq, map_eq_ok_iff]
  constructor
  · rintro ⟨way, led, specified⟩
    obtain ⟨rooted, absolute, text⟩ := relative_eq_ok_iff.mp led
    rw [text, stripExtension_eq, String.toList_ofList, stem_intercalate] at specified
    exact ⟨rooted, absolute, specified⟩
  · rintro ⟨rooted, absolute, specified⟩
    refine ⟨_, relative_eq_ok_iff.mpr ⟨rooted, absolute, rfl⟩, ?_⟩
    rw [stripExtension_eq, String.toList_ofList, stem_intercalate]
    exact specified

/-- The specifier of a file starts with a dot. -/
theorem head?_ofFile {sourceRoot file module : String}
    (located : ofFile sourceRoot file = .ok module) : module.toList.head? = some '.' := by
  obtain ⟨-, -, specified⟩ := ofFile_eq_ok_iff.mp located
  rw [← specified]
  exact head?_written _

/-! ### The file of a source -/

/-- The normal form of an absolute source, without the extension. -/
def fileOf (source : String) : List Char :=
  stem (normalize source.toList)

/-- What remains of the last name of a path without its extension is a name. -/
def HasOrdinaryName (path : String) : Prop :=
  ∀ name ∈ (ofText path.toList).segments.getLast?, IsName (stem name)

/-- The letter of a drive can be told from a separator and from a step up. -/
private theorem clean_of_mem_root_steps {root : PathRoot} (lawful : root.Lawful) :
    ∀ segment ∈ root.steps, segment ≠ [] ∧ '/' ∉ segment ∧ segment ≠ up := by
  intro segment listed
  cases root with
  | relative => cases listed
  | slash => cases listed
  | drive letter =>
      obtain rfl := List.mem_singleton.mp listed
      have other : letter ≠ '/' := by
        rintro rfl
        cases lawful.1
      refine ⟨List.cons_ne_nil _ _, by simp [Ne.symm other], fun same => ?_⟩
      exact absurd (List.cons.inj (List.cons.inj same).2).1 (by decide)

/-- The steps to a normal path can be told from their text, and from steps up. -/
private theorem clean_of_isNormal {path : LexicalPath} (normal : path.IsNormal) :
    ∀ segment ∈ path.root.steps ++ path.segments,
      segment ≠ [] ∧ '/' ∉ segment ∧ segment ≠ up := by
  intro segment listed
  rcases List.mem_append.mp listed with drive | name
  · exact clean_of_mem_root_steps normal.lawful segment drive
  · have named := normal.names segment name
    exact ⟨named.ne_nil, named.no_slash, named.ne_up⟩

section Source

variable {source : String}

/-- The steps to an absolute source can be told from their text, and from steps up. -/
theorem clean_of_mem_steps (absolute : isAbsolute source) :
    ∀ segment ∈ steps (normalize source.toList), segment ≠ [] ∧ '/' ∉ segment ∧ segment ≠ up := by
  have normal := isNormal_ofText absolute
  rw [LexicalPath.normalize, normal.steps_text]
  exact clean_of_isNormal normal

/-- So can those to a file with an ordinary name, when it has lost its extension. -/
theorem clean_of_mem_stemLast_steps (absolute : isAbsolute source)
    (ordinary : HasOrdinaryName source) :
    ∀ segment ∈ stemLast (steps (normalize source.toList)),
      segment ≠ [] ∧ '/' ∉ segment ∧ segment ≠ up := by
  have normal := isNormal_ofText absolute
  rw [LexicalPath.normalize, normal.steps_text, stemLast_steps]
  exact clean_of_isNormal (isNormal_stemLast normal ordinary)

/-- The file of an absolute source is its normalized path without the extension. -/
theorem fileOf_eq (absolute : isAbsolute source) :
    fileOf source = (ofText source.toList).root.text ++
      List.intercalate ['/'] (stemLast (ofText source.toList).segments) :=
  stem_text (isNormal_ofText absolute)

/-- The steps to the file of a source with an ordinary name. -/
theorem steps_fileOf (absolute : isAbsolute source) (ordinary : HasOrdinaryName source) :
    steps (fileOf source) = stemLast (steps (normalize source.toList)) := by
  have normal := isNormal_ofText absolute
  have stripped := isNormal_stemLast normal ordinary
  rw [fileOf_eq absolute, LexicalPath.normalize, normal.steps_text, stemLast_steps,
    ← stripped.steps_text, stripped.text_eq]

end Source

/-- A drive is told from the names below it, but not from a name that looks like a drive. -/
private theorem steps_append_injective {root root' : PathRoot} {segments segments' : List Segment}
    (absolute : root.isAbsolute) (absolute' : root'.isAbsolute)
    (drives : root = .slash ↔ root' = .slash)
    (same : root.steps ++ segments = root'.steps ++ segments') :
    root = root' ∧ segments = segments' := by
  cases root with
  | relative => cases absolute
  | slash =>
      obtain rfl := drives.mp rfl
      exact ⟨rfl, same⟩
  | drive letter =>
      cases root' with
      | relative => cases absolute'
      | slash => cases drives.mpr rfl
      | drive letter' =>
          obtain ⟨first, rest⟩ := List.cons.inj same
          rw [(List.cons.inj first).1]
          exact ⟨rfl, rest⟩

/-! ### Sources that share a specifier -/

/-- The sources are absolute paths, and the routes to them from the source root cannot be told
apart. -/
structure Indistinct (sourceRoot first second : String) : Prop where
  absolute : isAbsolute first
  absolute' : isAbsolute second
  alike : Alike (steps (normalize sourceRoot.toList)) (steps (normalize first.toList))
    (steps (normalize second.toList))

section Pair

variable {sourceRoot first second module module' : String}

/-- The specifier of a file begins with a dot, and that of another source does not. -/
private theorem module_ne (absolute : isAbsolute first) (other : ¬ isAbsolute second)
    (located : ofSource sourceRoot first = .ok module)
    (located' : ofSource sourceRoot second = .ok module')
    (named : second.toList.head? ≠ some '.') : module ≠ module' := by
  rw [ofSource, if_pos absolute] at located
  rw [ofSource, if_neg other, Except.ok.injEq] at located'
  subst located'
  intro same
  apply named
  rw [← same]
  exact head?_ofFile located

/-- **Sources that share a specifier.** Sources that do not begin with a dot have one specifier
exactly if they are the same, or absolute paths that cannot be told apart. -/
theorem module_eq_iff (located : ofSource sourceRoot first = .ok module)
    (located' : ofSource sourceRoot second = .ok module') (named : first.toList.head? ≠ some '.')
    (named' : second.toList.head? ≠ some '.') :
    module = module' ↔ first = second ∨ Indistinct sourceRoot first second := by
  by_cases absolute : isAbsolute first
  · by_cases absolute' : isAbsolute second
    · rw [ofSource, if_pos absolute] at located
      rw [ofSource, if_pos absolute'] at located'
      have routes : ∀ base, _ ↔ Alike base _ _ := fun base =>
        intercalate_stemLast_route_eq_iff
          (fun segment listed => (clean_of_mem_steps absolute segment listed).2)
          (fun segment listed => (clean_of_mem_steps absolute' segment listed).2)
      rw [← (ofFile_eq_ok_iff.mp located).2.2, ← (ofFile_eq_ok_iff.mp located').2.2]
      constructor
      · intro same
        have ways := String.ofList_injective (written_injective same)
        exact Or.inr ⟨absolute, absolute', (routes _).mp ways⟩
      · rintro (rfl | indistinct)
        · rfl
        · rw [(routes _).mpr indistinct.alike]
    · apply iff_of_false (module_ne absolute absolute' located located' named')
      rintro (rfl | indistinct)
      · exact absolute' absolute
      · exact absolute' indistinct.absolute'
  · by_cases absolute' : isAbsolute second
    · apply iff_of_false (module_ne absolute' absolute located' located named).symm
      rintro (rfl | indistinct)
      · exact absolute absolute'
      · exact absolute indistinct.absolute
    · -- Each is its own specifier.
      rw [ofSource, if_neg absolute, Except.ok.injEq] at located
      rw [ofSource, if_neg absolute', Except.ok.injEq] at located'
      subst located located'
      exact ⟨Or.inl, fun either => either.resolve_right fun indistinct =>
        absolute indistinct.absolute⟩

/-- Sources whose files can be compared: their names are ordinary, and both lie on a drive or
neither. -/
structure Comparable (first second : String) : Prop where
  ordinary : HasOrdinaryName first
  ordinary' : HasOrdinaryName second
  drives : (ofText first.toList).root = .slash ↔ (ofText second.toList).root = .slash

/-- Nothing is mistaken for a step where every segment can be told from one. -/
theorem Alike.stemLast_eq {base first second : List Segment} (alike : Alike base first second)
    (clean : ∀ segment ∈ stemLast first, segment ≠ [] ∧ segment ≠ up)
    (clean' : ∀ segment ∈ stemLast second, segment ≠ [] ∧ segment ≠ up) :
    stemLast first = stemLast second := by
  have told : ∀ {directory target}, (∀ segment ∈ stemLast target, segment ≠ [] ∧ segment ≠ up) →
      ¬ Nameless base directory target := by
    intro directory target clean reads
    cases reads with
    | blank _ left => exact (clean [] (by simp [left])).1 rfl
    | up _ _ left => exact (clean LexicalPath.up (by simp [left])).2 rfl
  cases alike with
  | same equal => rw [equal]
  | extension _ _ equal => exact equal
  | nameless reads => exact (told clean' reads).elim
  | nameless' reads => exact (told clean reads).elim

/-- **One specifier, one file.** Sources that cannot be told apart name the same file, if they can
be compared. -/
theorem Indistinct.fileOf_eq (indistinct : Indistinct sourceRoot first second)
    (comparable : Comparable first second) : fileOf first = fileOf second := by
  obtain ⟨absolute, absolute', alike⟩ := indistinct
  have clean := clean_of_mem_stemLast_steps absolute comparable.ordinary
  have clean' := clean_of_mem_stemLast_steps absolute' comparable.ordinary'
  have targets := alike.stemLast_eq
    (fun segment listed => ⟨(clean segment listed).1, (clean segment listed).2.2⟩)
    (fun segment listed => ⟨(clean' segment listed).1, (clean' segment listed).2.2⟩)
  rw [LexicalPath.normalize, (isNormal_ofText absolute).steps_text, LexicalPath.normalize,
    (isNormal_ofText absolute').steps_text, stemLast_steps, stemLast_steps] at targets
  obtain ⟨root, segments⟩ := steps_append_injective (isNormal_ofText absolute).absolute
    (isNormal_ofText absolute').absolute comparable.drives targets
  rw [ModuleSpecifier.fileOf_eq absolute, ModuleSpecifier.fileOf_eq absolute', root, segments]

/-- The source is neither the source root nor a directory around it. -/
def Outside (sourceRoot source : String) : Prop :=
  ¬ steps (normalize source.toList) <+: steps (normalize sourceRoot.toList)

/-- Spellings of one file cannot be told apart, if neither is a directory around the source root. -/
theorem indistinct_of_fileOf_eq (absolute : isAbsolute first) (absolute' : isAbsolute second)
    (comparable : Comparable first second) (outside : Outside sourceRoot first)
    (outside' : Outside sourceRoot second)
    (same : fileOf first = fileOf second) : Indistinct sourceRoot first second := by
  refine ⟨absolute, absolute', .extension outside outside' ?_⟩
  rw [← steps_fileOf absolute comparable.ordinary, same,
    steps_fileOf absolute' comparable.ordinary']

end Pair

/-! ### Canonical sources -/

/-- An absolute path in normal form that has no extension of a TypeScript file. -/
structure IsCanonical (source : String) : Prop where
  absolute : isAbsolute source
  normal : normalize source.toList = source.toList
  stripped : stripExtension source = source

namespace IsCanonical

variable {source : String}

theorem stem_toList (canonical : IsCanonical source) : stem source.toList = source.toList := by
  have stripped := canonical.stripped
  rw [stripExtension_eq] at stripped
  rw [← String.toList_ofList (l := stem source.toList), stripped]

/-- A canonical source is the file it names. -/
theorem fileOf_eq (canonical : IsCanonical source) : fileOf source = source.toList := by
  rw [fileOf, canonical.normal, canonical.stem_toList]

/-- A canonical source ends in an ordinary name. -/
theorem hasOrdinaryName (canonical : IsCanonical source) : HasOrdinaryName source := by
  have normal := isNormal_ofText canonical.absolute
  have text : (ofText source.toList).text = source.toList := canonical.normal
  have stripped : stem (ofText source.toList).text = (ofText source.toList).text := by
    rw [text, canonical.stem_toList]
  intro name ends
  rw [stem_last normal stripped ends]
  exact normal.names name (List.mem_of_getLast? ends)

end IsCanonical

/-- Canonical sources that cannot be told apart are the same. -/
theorem Indistinct.eq_of_isCanonical {sourceRoot first second : String}
    (indistinct : Indistinct sourceRoot first second) (canonical : IsCanonical first)
    (canonical' : IsCanonical second)
    (drives : (ofText first.toList).root = .slash ↔ (ofText second.toList).root = .slash) :
    first = second := by
  have files := indistinct.fileOf_eq
    ⟨canonical.hasOrdinaryName, canonical'.hasOrdinaryName, drives⟩
  rw [canonical.fileOf_eq, canonical'.fileOf_eq] at files
  exact String.toList_injective files

/-- The text of a normal path is canonical if it has no extension. -/
theorem isCanonical_ofList_text {path : LexicalPath} (normal : path.IsNormal)
    (stripped : stem path.text = path.text) : IsCanonical (String.ofList path.text) := by
  refine ⟨?_, ?_, ?_⟩
  · rw [isAbsolute, String.toList_ofList]
    exact normal.isAbsoluteText_text
  · rw [String.toList_ofList, normal.normalize_text]
  · rw [stripExtension_eq, String.toList_ofList, stripped]

/-- A path in normal form gives a canonical source, if its name has one extension at most. -/
theorem isCanonical_stripExtension {file : String} (absolute : isAbsolute file)
    (normal : normalize file.toList = file.toList) (ordinary : HasOrdinaryName file)
    (single : stripExtension (stripExtension file) = stripExtension file) :
    IsCanonical (stripExtension file) := by
  have read := isNormal_ofText absolute
  have text : (ofText file.toList).text = file.toList := normal
  have stripped := isNormal_stemLast read ordinary
  have written : stripExtension file = String.ofList
      ({ ofText file.toList with segments := stemLast (ofText file.toList).segments } :
        LexicalPath).text := by
    rw [stripExtension_eq, stripped.text_eq, ← stem_text read, text]
  rw [written]
  apply isCanonical_ofList_text stripped
  rw [written, stripExtension_eq, String.toList_ofList] at single
  exact String.ofList_injective single

end ElementTypings.ModuleSpecifier
