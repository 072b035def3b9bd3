import ElementTypings.Proofs.Json.Listing
import ElementTypings.Proofs.Outcome
import ElementTypings.Proofs.Registry.DistinctTags
import ElementTypings.Proofs.Registry.Scans

/-!
# Repeated tags

A document lists scans, one for each entry of its object. The registry that it holds has the files
in the order in which they are listed first, each with its last scan (`Registry.ofJson_eq_ok_iff`,
`Registry.keys_ofScans`).

The registry is refused exactly if two files have components with one tag. The refusal names the
first file that repeats a tag, and the only file before it that has the tag
(`Registry.repeated_tags_detected`).
-/

namespace ElementTypings.Registry

/-! ### Scans of a document -/

/-- The scans that a document lists, in order, those that a later one replaces included. -/
def scansOf (document : String) : Except Json.Failure (List (String × Option Component)) :=
  Json.read (Json.Reader.listing (Json.Reader.optional componentRecord.read)) document

theorem files_ofScans (scans : List (String × Option Component)) :
    (ofScans scans).files = OrderedMap.ofList scans := by
  have general (registry : Registry) :
      (scans.foldl (fun registry scan => registry.insert scan.1 scan.2) registry).files =
        scans.foldl (fun map scan => map.insert scan.1 scan.2) registry.files := by
    induction scans generalizing registry with
    | nil => rfl
    | cons scan later ih => exact ih (registry.insert scan.1 scan.2)
  exact general empty

/-- The files of a registry are listed in the order in which they were scanned first. -/
theorem keys_ofScans (scans : List (String × Option Component)) :
    (ofScans scans).files.keys = (scans.map Prod.fst).eraseDups := by
  rw [files_ofScans, OrderedMap.keys_ofList]

/-- A document holds the registry of the scans that it lists. -/
theorem ofJson_eq_ok_iff {document : String} {registry : Registry} :
    ofJson document = .ok registry ↔ ∃ scans, scansOf document = .ok scans ∧
      ofScans scans = registry := by
  rw [ofJson, Json.Reader.map_eq_map_listing, Json.read_map, map_eq_ok_iff]
  constructor
  · rintro ⟨files, found, rfl⟩
    obtain ⟨scans, listed, rfl⟩ := map_eq_ok_iff.mp found
    refine ⟨scans, listed, ?_⟩
    rw [← files_ofScans]
  · rintro ⟨scans, listed, rfl⟩
    refine ⟨_, map_eq_ok_iff.mpr ⟨scans, listed, rfl⟩, ?_⟩
    rw [← files_ofScans]

/-- The tag of the component that the last scan of a file found. -/
def lastTag? (scans : List (String × Option Component)) (file : String) : Option String :=
  (lastFound? scans file).map Component.tagName

/-- The last tag of a file is that of the component which the registry keeps for it. -/
theorem lastTag?_eq_some_iff {scans : List (String × Option Component)} {file tag : String} :
    lastTag? scans file = some tag ↔
      ∃ component, (file, component) ∈ (ofScans scans).present ∧ component.tagName = tag := by
  unfold lastTag?
  simp only [Option.map_eq_some_iff, mem_present_iff, component?_ofScans]

/-! ### The first repetition -/

/-- The first of some files, in order, that repeats a tag of an earlier one, and that earlier
file. -/
structure IsFirstRepetition (tag? : String → Option String) (files : List String)
    (duplicate : DuplicateTag) : Prop where
  /-- The second file has the tag, and the first one is the only file before it that does. -/
  second : tag? duplicate.second = some duplicate.tag
  split : ∃ earlier later, files = earlier ++ duplicate.second :: later ∧
    (∀ file, file ∈ earlier ∧ tag? file = some duplicate.tag ↔ file = duplicate.first) ∧
    -- No file before the second one repeats a tag.
    ∀ file ∈ earlier, ∀ other ∈ earlier, ∀ tag, tag? file = some tag → tag? other = some tag →
      file = other

/-- What is reported is the first entry whose tag was seen, with the file that it was seen in. -/
theorem exists_split_of_duplicateAmong {seen : List (String × String)}
    {entries : List (String × Component)} {duplicate : DuplicateTag}
    (repeated : duplicateAmong seen entries = some duplicate) :
    ∃ earlier component later, entries = earlier ++ (duplicate.second, component) :: later ∧
      component.tagName = duplicate.tag ∧ duplicateAmong seen earlier = none ∧
      ((earlier.map fun entry => (entry.2.tagName, entry.1)).reverse ++ seen).lookup
        duplicate.tag = some duplicate.first := by
  induction entries generalizing seen with
  | nil => cases repeated
  | cons entry rest ih =>
      obtain ⟨file, component⟩ := entry
      rw [duplicateAmong] at repeated
      cases found : seen.lookup component.tagName with
      | some first =>
          rw [found] at repeated
          cases repeated
          exact ⟨[], component, rest, rfl, rfl, rfl, found⟩
      | none =>
          rw [found] at repeated
          obtain ⟨earlier, second, later, rfl, tagged, fresh, first⟩ := ih repeated
          refine ⟨(file, component) :: earlier, second, later, rfl, tagged, ?_, ?_⟩
          · rw [duplicateAmong, found]
            exact fresh
          · rw [List.map_cons, List.reverse_cons, List.append_assoc]
            exact first

/-- A split of the found elements is a split of the list at the one that was found. -/
private theorem exists_split_of_filterMap {First Second : Type} {shown : First → Option Second}
    {list : List First} {earlier later : List Second} {found : Second}
    (split : list.filterMap shown = earlier ++ found :: later) :
    ∃ before entry after, list = before ++ entry :: after ∧ before.filterMap shown = earlier ∧
      shown entry = some found := by
  obtain ⟨before, rest, rfl, early, split⟩ := List.filterMap_eq_append_iff.mp split
  obtain ⟨skipped, entry, after, rfl, absent, same, -⟩ := List.filterMap_eq_cons_iff.mp split
  refine ⟨before ++ skipped, entry, after, (List.append_assoc _ _ _).symm, ?_, same⟩
  rw [List.filterMap_append, early, List.filterMap_eq_nil_iff.mpr absent, List.append_nil]

theorem mem_found_iff {entries : List (String × Option Component)} {file : String}
    {component : Component} :
    (file, component) ∈ entries.filterMap (fun entry => entry.2.map fun found => (entry.1, found)) ↔
      (file, some component) ∈ entries := by
  rw [List.mem_filterMap]
  constructor
  · rintro ⟨⟨_, found⟩, member, pair⟩
    obtain ⟨_, rfl, same⟩ := Option.map_eq_some_iff.mp pair
    cases same
    exact member
  · exact fun member => ⟨_, member, rfl⟩

/-- A file among those listed first has a tag exactly if a component with the tag is listed there
for it. -/
theorem lastTag?_before_iff {scans before after : List (String × Option Component)}
    (listed : (ofScans scans).files.entries = before ++ after) {file tag : String} :
    file ∈ before.map Prod.fst ∧ lastTag? scans file = some tag ↔
      ∃ component, (file, some component) ∈ before ∧ component.tagName = tag := by
  rw [lastTag?_eq_some_iff]
  constructor
  · rintro ⟨inside, component, present, same⟩
    have member := mem_found_iff.mp present
    have distinct := (ofScans scans).files.keys_nodup
    rw [listed, List.map_append, List.nodup_append] at distinct
    rw [listed, List.mem_append] at member
    refine ⟨component, member.resolve_right fun behind => ?_, same⟩
    exact distinct.2.2 _ inside _ (List.mem_map_of_mem behind) rfl
  · rintro ⟨component, inside, same⟩
    refine ⟨List.mem_map_of_mem inside, component, mem_found_iff.mpr ?_, same⟩
    rw [listed]
    exact List.mem_append_left _ inside

/-- A registry reports the first repetition among its files. -/
theorem isFirstRepetition_of_duplicateTag? {scans : List (String × Option Component)}
    {duplicate : DuplicateTag} (repeated : (ofScans scans).duplicateTag? = some duplicate) :
    IsFirstRepetition (lastTag? scans) (scans.map Prod.fst).eraseDups duplicate := by
  obtain ⟨earlier, component, later, split, tagged, fresh, first⟩ :=
    exists_split_of_duplicateAmong repeated
  obtain ⟨distinct, -⟩ := duplicateAmong_eq_none_iff.mp fresh
  have present : (duplicate.second, component) ∈ (ofScans scans).present := by
    rw [split]
    exact List.mem_append_right _ List.mem_cons_self
  obtain ⟨before, ⟨second, found⟩, after, listed, shown, same⟩ := exists_split_of_filterMap split
  obtain ⟨held, rfl, pair⟩ := Option.map_eq_some_iff.mp same
  cases pair
  have files : (scans.map Prod.fst).eraseDups =
      before.map Prod.fst ++ duplicate.second :: after.map Prod.fst := by
    rw [← keys_ofScans, OrderedMap.keys, listed, List.map_append, List.map_cons]
  have tag?_iff {file tag : String} : file ∈ before.map Prod.fst ∧ lastTag? scans file = some tag ↔
      ∃ component, (file, component) ∈ earlier ∧ component.tagName = tag := by
    rw [lastTag?_before_iff listed, ← shown]
    simp only [mem_found_iff]
  have unique : ∀ file ∈ before.map Prod.fst, ∀ other ∈ before.map Prod.fst, ∀ tag,
      lastTag? scans file = some tag → lastTag? scans other = some tag → file = other := by
    intro file inside other inside' tag same same'
    obtain ⟨left, member, rfl⟩ := tag?_iff.mp ⟨inside, same⟩
    obtain ⟨right, member', equal⟩ := tag?_iff.mp ⟨inside', same'⟩
    exact congrArg Prod.fst (List.inj_on_of_nodup_map distinct member member' equal.symm)
  have firstTag : duplicate.first ∈ before.map Prod.fst ∧
      lastTag? scans duplicate.first = some duplicate.tag := by
    rw [List.append_nil] at first
    have member := List.mem_reverse.mp (OrderedMap.mem_of_lookup first)
    obtain ⟨⟨file, component⟩, inside, pair⟩ := List.mem_map.mp member
    obtain ⟨same, rfl⟩ := Prod.mk.inj pair
    exact tag?_iff.mpr ⟨component, inside, same⟩
  refine ⟨lastTag?_eq_some_iff.mpr ⟨_, present, tagged⟩, _, _, files, fun file => ?_, unique⟩
  constructor
  · rintro ⟨inside, same⟩
    exact unique file inside _ firstTag.1 _ same firstTag.2
  · rintro rfl
    exact firstTag

/-! ### Refusals -/

/-- A source fails by a duplicate exactly if it is a registry that has one. -/
theorem ofSource_eq_duplicateTag_iff {source : SourceText} {duplicate : DuplicateTag} :
    ofSource source = .error (.duplicateTag source duplicate) ↔
      ∃ registry, ofJson source.content = .ok registry ∧
        registry.duplicateTag? = some duplicate := by
  unfold ofSource
  cases ofJson source.content with
  | error failure => simp
  | ok found =>
      cases repeated : found.duplicateTag? with
      | none => simp [repeated]
      | some other => simp [repeated]

/-- Tags are distinct exactly if no two files have one tag. -/
theorem nodup_tags_ofScans_iff {scans : List (String × Option Component)} :
    (ofScans scans).tags.Nodup ↔ ∀ file other tag, lastTag? scans file = some tag →
      lastTag? scans other = some tag → file = other := by
  rw [← duplicateTag?_eq_none_iff, duplicateTag?, duplicateAmong_eq_none_iff]
  refine (and_iff_left fun entry listed => rfl).trans ?_
  simp only [lastTag?_eq_some_iff]
  constructor
  · rintro distinct file other tag ⟨component, listed, same⟩ ⟨component', listed', rfl⟩
    exact congrArg Prod.fst (List.inj_on_of_nodup_map distinct listed listed' same)
  · intro unique
    refine (List.nodup_map_iff_inj_on (nodup_files_present _).of_map).mpr ?_
    rintro ⟨file, component⟩ listed ⟨other, component'⟩ listed' same
    obtain rfl := unique file other _ ⟨component, listed, rfl⟩ ⟨component', listed', same.symm⟩
    have found := (mem_present_iff.mp listed).symm.trans (mem_present_iff.mp listed')
    rw [Option.some.inj found]

/-- **Repeated tags are detected.** A document that lists scans is refused for a repeated tag
exactly if two different files have one tag, where the last scan of a file counts and a file without
a component has no tag. Then the first repetition is reported, in the order in which the files are
listed first. What is accepted is the registry of the scans, and its tags are distinct. -/
theorem repeated_tags_detected {source : SourceText} {scans : List (String × Option Component)}
    (listed : scansOf source.content = .ok scans) :
    ((∃ duplicate, ofSource source = .error (.duplicateTag source duplicate)) ↔
        ∃ file other tag, file ≠ other ∧ lastTag? scans file = some tag ∧
          lastTag? scans other = some tag) ∧
      (∀ duplicate, ofSource source = .error (.duplicateTag source duplicate) →
        IsFirstRepetition (lastTag? scans) (scans.map Prod.fst).eraseDups duplicate) ∧
      ∀ registry, ofSource source = .ok registry →
        registry = ofScans scans ∧ registry.tags.Nodup := by
  have read {registry : Registry} : ofJson source.content = .ok registry ↔
      registry = ofScans scans := by
    rw [ofJson_eq_ok_iff, listed]
    constructor
    · rintro ⟨scans', same, rfl⟩
      cases same
      rfl
    · rintro rfl
      exact ⟨scans, rfl, rfl⟩
  have refused {duplicate : DuplicateTag} :
      ofSource source = .error (.duplicateTag source duplicate) ↔
        (ofScans scans).duplicateTag? = some duplicate := by
    rw [ofSource_eq_duplicateTag_iff]
    simp only [read, exists_eq_left]
  refine ⟨?_, ?_, ?_⟩
  · simp only [refused, ← Option.isSome_iff_exists, Option.isSome_iff_ne_none, ne_eq,
      duplicateTag?_eq_none_iff, nodup_tags_ofScans_iff]
    push Not
    constructor
    · rintro ⟨file, other, tag, same, same', different⟩
      exact ⟨file, other, tag, different, same, same'⟩
    · rintro ⟨file, other, tag, different, same, same'⟩
      exact ⟨file, other, tag, same, same', different⟩
  · exact fun duplicate repeated => isFirstRepetition_of_duplicateTag? (refused.mp repeated)
  · intro registry accepted
    obtain ⟨held, distinct⟩ := ofSource_eq_ok_iff.mp accepted
    exact ⟨read.mp held, distinct⟩

/-- A component as it is written by the scans below. -/
def plainComponent (className : String) : Component :=
  { tagName := "x-el", className, members := ∅, sourcePath := "/app" }

/-- A scan in which a component goes and another one comes. -/
def repeatedScan : SourceText :=
  { name := "scan.json"
    content := "\x7b\"a\":[\"x-el\",\"A\",\x7b\x7d,\"/app\"],\"b\":null," ++
      "\"c\":[\"x-el\",\"C\",\x7b\x7d,\"/app\"],\"a\":null," ++
      "\"b\":[\"x-el\",\"B\",\x7b\x7d,\"/app\"]\x7d" }

/-- The file that is listed third repeats the tag of the second one, which is written behind it. -/
theorem repeated_tags_detected_of_replaced :
    scansOf repeatedScan.content =
        .ok [("a", some (plainComponent "A")), ("b", none), ("c", some (plainComponent "C")),
          ("a", none), ("b", some (plainComponent "B"))] ∧
      ∃ duplicate, ofSource repeatedScan = .error (.duplicateTag repeatedScan duplicate) ∧
        IsFirstRepetition
          (lastTag? [("a", some (plainComponent "A")), ("b", none),
            ("c", some (plainComponent "C")), ("a", none), ("b", some (plainComponent "B"))])
          ["a", "b", "c"] duplicate := by
  have listed : scansOf repeatedScan.content =
      .ok [("a", some (plainComponent "A")), ("b", none), ("c", some (plainComponent "C")),
        ("a", none), ("b", some (plainComponent "B"))] :=
    eq_ok_of_toOption (by decide +kernel)
  obtain ⟨repeats, first, -⟩ := repeated_tags_detected listed
  obtain ⟨duplicate, refused⟩ := repeats.mpr ⟨"b", "c", "x-el", by decide, by decide, by decide⟩
  exact ⟨listed, duplicate, refused, first duplicate refused⟩

end ElementTypings.Registry
