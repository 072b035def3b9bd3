import ElementTypings.Proofs.Generation.ReferenceIntegrity
import ElementTypings.Proofs.Registry.DistinctTags
import ElementTypings.Proofs.Registry.Scans
import ElementTypings.Proofs.TagName.PascalCase
import ElementTypings.Registry.Writing

/-!
# The names that components declare

A component declares three names: the alias of its class, the interface of its element and the
interface of its attributes. All of them are made from the Pascal case of its tag, so two components
differ in all three or in none (`Generation.Run.namesApart_iff`).

A registry that is read from a file has distinct tags, but distinct tags can have the same Pascal
case. The declared names are distinct exactly if the tags differ in their spelling, and they are if
every word of every tag begins with a letter (`element_names_distinct_iff`). A word that begins with
a digit is enough to make two components declare the same names (`element_names_shared_by_tags`).
-/

namespace ElementTypings

namespace ComponentBlock

/-- The blocks share none of the names that they declare. -/
structure NamesApart (first second : ComponentBlock) : Prop where
  classAlias : first.classAlias ≠ second.classAlias
  elementInterface : first.elementInterface ≠ second.elementInterface
  attributesInterface : first.attributesInterface ≠ second.attributesInterface

/-- The import of a class binds its alias and nothing else. -/
@[simp]
theorem boundNames_classImport (block : ComponentBlock) :
    block.classImport.boundNames = [block.classAlias] := by
  unfold classImport ImportStatement.boundNames
  rw [List.map_singleton, ImportSpecifier.boundName_binding]

end ComponentBlock

namespace Generation

/-- The alias of a class is the Pascal case of the tag. -/
theorem BlockOf.classAlias_eq {sourceRoot : String} {final : ImportScope} {component : Component}
    {block : ComponentBlock} (made : BlockOf sourceRoot final component block) :
    block.classAlias = TagName.pascalCase component.tagName := by
  obtain ⟨-, -, -, synthesized⟩ := made
  obtain ⟨attributes, -, same⟩ := bind_eq_ok_iff.mp synthesized
  cases same
  rfl

/-- The interfaces are named after the class alias. -/
theorem BlockOf.interfaces_eq {sourceRoot : String} {final : ImportScope} {component : Component}
    {block : ComponentBlock} (made : BlockOf sourceRoot final component block) :
    block.elementInterface = "HTML" ++ block.classAlias ++ "Element" ∧
      block.attributesInterface = block.classAlias ++ "Attributes" := by
  obtain ⟨-, -, -, synthesized⟩ := made
  obtain ⟨attributes, -, same⟩ := bind_eq_ok_iff.mp synthesized
  cases same
  exact ⟨rfl, rfl⟩

namespace Run

variable {config : BuildConfig} {registry : Registry}

/-- Two components differ in all names that they declare or in none. -/
theorem namesApart_iff (run : Run config registry) {first second : ComponentBlock}
    (listed : first ∈ run.blocks) (listed' : second ∈ run.blocks) :
    first.NamesApart second ↔ first.classAlias ≠ second.classAlias := by
  constructor
  · exact fun apart => apart.classAlias
  · intro different
    obtain ⟨_, -, made⟩ := exists_of_forall₂ run.blocksOf.flip listed
    obtain ⟨_, -, made'⟩ := exists_of_forall₂ run.blocksOf.flip listed'
    obtain ⟨element, attributes⟩ := made.interfaces_eq
    obtain ⟨element', attributes'⟩ := made'.interfaces_eq
    refine ⟨different, ?_, ?_⟩
    · intro same
      rw [element, element', String.append_left_inj, String.append_right_inj] at same
      exact different same
    · intro same
      rw [attributes, attributes', String.append_left_inj] at same
      exact different same

/-- The names that the class imports of the document bind. -/
def classNames (run : Run config registry) : List String :=
  run.blocks.flatMap fun block => block.classImport.boundNames

/-- Different components have different names throughout, and no class import binds a name that
another one binds. -/
structure NamesDistinct (run : Run config registry) : Prop where
  apart : run.blocks.Pairwise ComponentBlock.NamesApart
  classNames : run.classNames.Nodup

/-- The blocks have the tags of the components, in order. -/
theorem tagNames_eq (run : Run config registry) :
    run.blocks.map ComponentBlock.tagName = registry.tags :=
  map_eq_of_forall₂ run.blocksOf fun _ _ made => made.tagName_eq

/-- The aliases are the Pascal cases of the tags. -/
theorem classAliases_eq (run : Run config registry) :
    run.blocks.map ComponentBlock.classAlias = registry.tags.map TagName.pascalCase := by
  rw [Registry.tags, List.map_map]
  exact map_eq_of_forall₂ run.blocksOf fun _ _ made => made.classAlias_eq

/-- The class imports bind the aliases, one each. -/
theorem classNames_eq (run : Run config registry) :
    run.classNames = run.blocks.map ComponentBlock.classAlias := by
  unfold classNames
  simp only [ComponentBlock.boundNames_classImport]
  exact List.map_eq_flatMap.symm

/-- The declared names are distinct exactly if the Pascal cases of the tags are. -/
theorem namesDistinct_iff (run : Run config registry) :
    run.NamesDistinct ↔ (registry.tags.map TagName.pascalCase).Nodup := by
  rw [← run.classAliases_eq]
  have apart : run.blocks.Pairwise ComponentBlock.NamesApart ↔
      (run.blocks.map ComponentBlock.classAlias).Nodup := by
    rw [List.Nodup, List.pairwise_map]
    exact List.Pairwise.iff_of_mem fun listed listed' => run.namesApart_iff listed listed'
  constructor
  · exact fun distinct => apart.mp distinct.apart
  · exact fun distinct => ⟨apart.mpr distinct, run.classNames_eq ▸ distinct⟩

end Run

end Generation

namespace TagName

/-- Small tags have distinct Pascal cases exactly if they have distinct spellings. -/
theorem nodup_pascalCase_iff {tags : List String}
    (small : ∀ tag ∈ tags, ∀ char ∈ Text.lower tag.toList, Text.IsSmall char) :
    (tags.map pascalCase).Nodup ↔ (tags.map spelling).Nodup := by
  rw [List.Nodup, List.Nodup, List.pairwise_map, List.pairwise_map]
  apply List.Pairwise.iff_of_mem
  intro first second listed listed'
  exact not_congr (pascalCase_eq_iff (small first listed) (small second listed'))

/-- In ASCII every tag is small once it is in lower case. -/
theorem nodup_pascalCase_iff_of_ascii {tags : List String}
    (ascii : ∀ tag ∈ tags, ∀ char ∈ tag.toList, char.toNat < 128) :
    (tags.map pascalCase).Nodup ↔ (tags.map spelling).Nodup :=
  nodup_pascalCase_iff fun tag listed _ inside =>
    Text.isSmall_of_mem_lower (ascii tag listed) inside

/-- Distinct tags whose words begin with letters have distinct Pascal cases. -/
theorem nodup_pascalCase_of_isKebab {tags : List String} (kebab : ∀ tag ∈ tags, IsKebab tag)
    (distinct : tags.Nodup) : (tags.map pascalCase).Nodup := by
  apply distinct.map_on
  intro first listed second listed' same
  exact (kebab first listed).eq_of_pascalCase_eq (kebab second listed') same

end TagName

/-- **When declared names are distinct.** The components of a registry that was read from a file
have distinct tags. Their declared names are distinct exactly if the tags have distinct Pascal
cases, which for small tags, and so for all ASCII tags, means distinct spellings. Tags in lower case
whose words all begin with a letter have distinct names. -/
theorem element_names_distinct_iff {source : SourceText} {registry : Registry}
    {config : BuildConfig} {document : GeneratedDocument}
    (accepted : Registry.ofSource source = .ok registry)
    (generated : generate config registry = .ok document) :
    ∃ run : Generation.Run config registry, run.document = document ∧
      run.blocks.map ComponentBlock.tagName = registry.tags ∧ registry.tags.Nodup ∧
      (run.NamesDistinct ↔ (registry.tags.map TagName.pascalCase).Nodup) ∧
      ((∀ tag ∈ registry.tags, ∀ char ∈ Text.lower tag.toList, Text.IsSmall char) →
        (run.NamesDistinct ↔ (registry.tags.map TagName.spelling).Nodup)) ∧
      ((∀ tag ∈ registry.tags, ∀ char ∈ tag.toList, char.toNat < 128) →
        (run.NamesDistinct ↔ (registry.tags.map TagName.spelling).Nodup)) ∧
      ((∀ tag ∈ registry.tags, TagName.IsKebab tag) → run.NamesDistinct) := by
  obtain ⟨run, same⟩ := generate_eq_ok_iff.mp generated
  have distinct := (Registry.ofSource_eq_ok_iff.mp accepted).2
  refine ⟨run, same, run.tagNames_eq, distinct, run.namesDistinct_iff, ?_, ?_, ?_⟩
  · intro small
    rw [run.namesDistinct_iff, TagName.nodup_pascalCase_iff small]
  · intro ascii
    rw [run.namesDistinct_iff, TagName.nodup_pascalCase_iff_of_ascii ascii]
  · intro kebab
    exact run.namesDistinct_iff.mpr (TagName.nodup_pascalCase_of_isKebab kebab distinct)

namespace Generation

/-- The configuration of the project. -/
def tabConfig : BuildConfig :=
  { sourceRoot := "/app" }

/-- The registry of two components that have these tags and no members. -/
def tabRegistry (first second : String) : Registry :=
  (Registry.empty.insert "/app/a.tsx"
      (some
        { tagName := first
          className := "First"
          members := ∅
          sourcePath := "/app/a.tsx" })).insert
    "/app/b.tsx"
    (some
      { tagName := second
        className := "Second"
        members := ∅
        sourcePath := "/app/b.tsx" })

theorem ordered_tabRegistry (first second : String) :
    (tabRegistry first second).ordered = (tabRegistry first second).present.map Prod.snd := by
  have early : "/app/a.tsx" ≤ "/app/b.tsx" := by decide
  apply Registry.ordered_of_sorted
  change List.Pairwise _ [_, _]
  simp [early]

theorem tags_tabRegistry (first second : String) :
    (tabRegistry first second).tags = [first, second] := by
  rw [Registry.tags, ordered_tabRegistry]
  rfl

/-- The file that holds the registry. -/
def tabFile (first second : String) : SourceText :=
  { name := "components.json", content := (tabRegistry first second).json }

end Generation

/-- Tags that differ in a hyphen alone, behind which a letter stands. -/
theorem element_names_distinct_of_kebab :
    ∃ run : Generation.Run Generation.tabConfig (Generation.tabRegistry "x-tab1" "x-ta-b1"),
      run.blocks.map ComponentBlock.tagName = ["x-tab1", "x-ta-b1"] ∧ run.NamesDistinct := by
  have tags := Generation.tags_tabRegistry "x-tab1" "x-ta-b1"
  have accepted : Registry.ofSource (Generation.tabFile "x-tab1" "x-ta-b1") =
      .ok (Generation.tabRegistry "x-tab1" "x-ta-b1") := by
    refine Registry.ofSource_eq_ok_iff.mpr ⟨eq_ok_of_toOption (by decide +kernel), ?_⟩
    rw [tags]
    decide
  obtain ⟨document, generated⟩ : ∃ document, generate Generation.tabConfig
      (Generation.tabRegistry "x-tab1" "x-ta-b1") = .ok document := by
    rw [exists_document_iff]
    exact Generation.nonempty_run (Generation.ordered_tabRegistry _ _) (by decide +kernel)
  obtain ⟨run, -, tagNames, -, -, -, -, distinct⟩ := element_names_distinct_iff accepted generated
  rw [tags] at tagNames distinct
  have letters : ∀ tag ∈ ["x-tab1", "x-ta-b1"],
      tag.toList.all fun char => char.toNat < 128 ∧ char.toLower = char := by decide
  have words : ∀ tag ∈ ["x-tab1", "x-ta-b1"],
      ∀ word ∈ Text.splitOn '-' tag.toList, Text.StartsWithLetter word := by
    decide +kernel
  refine ⟨run, tagNames, distinct fun tag listed => ⟨fun char inside => ?_, words tag listed⟩⟩
  obtain ⟨ascii, lower⟩ := of_decide_eq_true (List.all_eq_true.mp (letters tag listed) char inside)
  exact Text.isSmall_of_ascii ascii lower

/-- **Tags that share all names.** A file with the tags `x-tab-1` and `x-tab1` is accepted, and
generation succeeds, but both components declare the same names: each of two class imports binds
`XTab1`. -/
theorem element_names_shared_by_tags :
    Registry.ofSource (Generation.tabFile "x-tab-1" "x-tab1") =
        .ok (Generation.tabRegistry "x-tab-1" "x-tab1") ∧
      (∃ document, generate Generation.tabConfig (Generation.tabRegistry "x-tab-1" "x-tab1") =
        .ok document) ∧
      ∀ run : Generation.Run Generation.tabConfig (Generation.tabRegistry "x-tab-1" "x-tab1"),
        run.blocks.map ComponentBlock.tagName = ["x-tab-1", "x-tab1"] ∧
          run.classNames = ["XTab1", "XTab1"] ∧
          ∀ block ∈ run.blocks, block.elementInterface = "HTMLXTab1Element" ∧
            block.attributesInterface = "XTab1Attributes" := by
  have tags := Generation.tags_tabRegistry "x-tab-1" "x-tab1"
  refine ⟨?_, ?_, fun run => ?_⟩
  · refine Registry.ofSource_eq_ok_iff.mpr ⟨eq_ok_of_toOption (by decide +kernel), ?_⟩
    rw [tags]
    decide
  · rw [exists_document_iff]
    exact Generation.nonempty_run (Generation.ordered_tabRegistry _ _) (by decide +kernel)
  · have aliases : run.blocks.map ComponentBlock.classAlias = ["XTab1", "XTab1"] := by
      rw [run.classAliases_eq, tags]
      decide +kernel
    refine ⟨by rw [run.tagNames_eq, tags], by rw [run.classNames_eq, aliases], ?_⟩
    intro block listed
    have shown : block.classAlias ∈ run.blocks.map ComponentBlock.classAlias :=
      List.mem_map_of_mem listed
    have same : block.classAlias = "XTab1" := by simpa [aliases] using shown
    obtain ⟨_, -, made⟩ := exists_of_forall₂ run.blocksOf.flip listed
    obtain ⟨element, attributes⟩ := made.interfaces_eq
    rw [element, attributes, same]
    exact ⟨rfl, rfl⟩

end ElementTypings
