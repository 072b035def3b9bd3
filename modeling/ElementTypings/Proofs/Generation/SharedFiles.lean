import ElementTypings.Proofs.Generation.ImportModules
import ElementTypings.Proofs.Path.Place

/-!
# Files that several components refer to

A reference names a file by a relative path or as the component's own file. Its source is that
file's path without the extension, so references to one file have one source whatever their spelling
and wherever they stand, and references to different files have different sources
(`file_references_share_source_iff`). In a document that generation makes, one statement imports the
symbols of all references to a file.
-/

namespace ElementTypings

open LexicalPath (isAbsolute placeBeside)
open ModuleSpecifier (stripExtension)

namespace Resolution

/-- The file that a reference names. -/
inductive NamesFile (component : Component) (reference : TypeReference) : String → Prop
  /-- The component's own file, as its path is written. -/
  | ownFile (located : reference.location = .ownFile) :
      NamesFile component reference component.sourcePath
  /-- The place that a relative path leads to from the directory of the component's file. -/
  | relative {path : String} (located : reference.location = .module)
      (given : reference.path = some path) (dot : path.toList.head? = some '.')
      (absolute : isAbsolute component.sourcePath) :
      NamesFile component reference (placeBeside component.sourcePath path).fullText

variable {component : Component} {reference : TypeReference} {file : String}

/-- The source of a reference to a file is the path of the file without the extension. -/
theorem source?_of_namesFile (named : NamesFile component reference file) (member : String) :
    source? component member reference = .ok (some (stripExtension file)) := by
  unfold source?
  cases named with
  | ownFile located =>
      rw [located]
  | relative located given dot absolute =>
      rw [located, given]
      simp only [if_pos dot, LexicalPath.resolve_directory absolute dot]

/-- However a reference to a file spells its source, the source is that of the file. -/
theorem source_eq_of_namesFile (named : NamesFile component reference file) {source : String}
    (spelled : SpelledBy component reference source) : source = stripExtension file := by
  cases named with
  | ownFile located =>
      cases spelled with
      | ownFile _ stripped _ => exact stripped
      | relative other _ _ _ _ _ => simp [located] at other
      | verbatim other _ _ => simp [located] at other
  | relative located given dot absolute =>
      cases spelled with
      | ownFile other _ _ => simp [located] at other
      | relative _ given' _ led stripped _ =>
          obtain rfl := Option.some.inj (given.symm.trans given')
          rw [LexicalPath.resolve_directory absolute dot, Except.ok.injEq] at led
          rw [stripped, led]
      | verbatim _ given' other =>
          obtain rfl := Option.some.inj (given.symm.trans given')
          exact absurd dot other

/-- A reference that names a file is not ambient. -/
theorem NamesFile.location_ne (named : NamesFile component reference file) :
    reference.location ≠ .global := by
  cases named with
  | ownFile located => simp [located]
  | relative located _ _ _ => simp [located]

end Resolution

/-- A component of the registry mentions the type. -/
def Registry.Mentions (registry : Registry) (component : Component) (reference : TypeReference) :
    Prop :=
  component ∈ registry.ordered ∧ ∃ member, (member, reference) ∈ component.mentions

/-- The statement for the file of a reference that is mentioned lists the symbol. -/
theorem Generation.Run.importsFrom_of_namesFile {config : BuildConfig} {registry : Registry}
    (run : Generation.Run config registry) {component : Component} {reference : TypeReference}
    {file : String} (named : Resolution.NamesFile component reference file)
    (mentioned : registry.Mentions component reference) :
    ∃ statement, run.ImportsFrom (stripExtension file) statement ∧
      reference.name ∈ statement.specifiers.map ImportSpecifier.name := by
  obtain ⟨listed, member, mentioned⟩ := mentioned
  obtain ⟨source, statement, imported, spelled, specified⟩ :=
    run.importsFrom_of_mention listed mentioned named.location_ne
  rw [Resolution.source_eq_of_namesFile named spelled] at imported
  exact ⟨statement, imported, specified⟩

open Resolution (NamesFile source? source?_of_namesFile)

/-- **References to one file share a source.** The sources of references to files can be told, and
they are the same exactly if the files are, the extensions apart. If a document is made of
components with both references, and they have one source, then it has one statement for the source,
and the statement lists both symbols. -/
theorem file_references_share_source_iff {first second : Component}
    {reference reference' : TypeReference} {file file' : String}
    (named : NamesFile first reference file) (named' : NamesFile second reference' file') :
    (∀ member member', ∃ source source',
        source? first member reference = .ok (some source) ∧
        source? second member' reference' = .ok (some source') ∧
        (source = source' ↔ stripExtension file = stripExtension file')) ∧
      ∀ {config registry} (run : Generation.Run config registry),
        registry.Mentions first reference → registry.Mentions second reference' →
        stripExtension file = stripExtension file' →
        ∃ statement, run.ImportsFrom (stripExtension file) statement ∧
          (∀ other, run.ImportsFrom (stripExtension file) other → other = statement) ∧
          reference.name ∈ statement.specifiers.map ImportSpecifier.name ∧
          reference'.name ∈ statement.specifiers.map ImportSpecifier.name := by
  constructor
  · intro member member'
    exact ⟨_, _, source?_of_namesFile named member, source?_of_namesFile named' member', Iff.rfl⟩
  · intro config registry run mentioned mentioned' same
    obtain ⟨statement, imported, specified⟩ := run.importsFrom_of_namesFile named mentioned
    obtain ⟨statement', imported', specified'⟩ := run.importsFrom_of_namesFile named' mentioned'
    rw [← same] at imported'
    obtain rfl := run.statement_eq_of_importsFrom imported imported'
    exact ⟨statement, imported, fun other found => run.statement_eq_of_importsFrom found imported,
      specified, specified'⟩

namespace Generation

/-- A reference by a path that climbs past the root of a drive. -/
def climbingReference : TypeReference :=
  ⟨"User", .module, some ".\\..//../../../app/model/user.ts"⟩

def climbingComponent : Component :=
  importingComponent "user-view" "C:\\app\\view\\.\\page.tsx" [climbingReference]

/-- A reference to the component's own file. -/
def ownReference : TypeReference :=
  ⟨"Role", .ownFile, none⟩

def ownComponent : Component :=
  importingComponent "user-model" "c:/app/model/user.tsx" [ownReference]

/-- A project in which both references name one file. -/
def climbingRegistry : Registry :=
  (Registry.empty.insert "page" (some climbingComponent)).insert "user" (some ownComponent)

theorem ordered_climbingRegistry : climbingRegistry.ordered = [climbingComponent, ownComponent] :=
  Registry.ordered_of_sorted (by decide)

/-- The climbing path leads past the root of the drive and down to the file. -/
theorem namesFile_climbingReference :
    Resolution.NamesFile climbingComponent climbingReference "c:/app/model/user.ts" := by
  have place : (placeBeside "C:\\app\\view\\.\\page.tsx"
      ".\\..//../../../app/model/user.ts").fullText = "c:/app/model/user.ts" := by decide +kernel
  rw [← place]
  exact .relative rfl rfl (by decide) (by decide +kernel)

end Generation

open Generation (Run climbingComponent climbingReference climbingRegistry ownComponent ownReference)

/-- A path that climbs past the root and the component's own file share a source and a statement. -/
theorem file_references_share_source_iff_of_climbing :
    NamesFile climbingComponent climbingReference "c:/app/model/user.ts" ∧
      NamesFile ownComponent ownReference "c:/app/model/user.tsx" ∧
      ∃ (run : Run { sourceRoot := "c:/app" } climbingRegistry) (statement : ImportStatement),
        run.ImportsFrom "c:/app/model/user" statement ∧
          (∀ other, run.ImportsFrom "c:/app/model/user" other → other = statement) ∧
          "User" ∈ statement.specifiers.map ImportSpecifier.name ∧
          "Role" ∈ statement.specifiers.map ImportSpecifier.name := by
  have own : NamesFile ownComponent ownReference "c:/app/model/user.tsx" := .ownFile rfl
  obtain ⟨run⟩ : Nonempty (Run { sourceRoot := "c:/app" } climbingRegistry) :=
    Generation.nonempty_run Generation.ordered_climbingRegistry (by decide +kernel)
  have mentioned : climbingRegistry.Mentions climbingComponent climbingReference := by
    refine ⟨?_, "item", by decide +kernel⟩
    rw [Generation.ordered_climbingRegistry]
    exact List.mem_cons_self
  have mentioned' : climbingRegistry.Mentions ownComponent ownReference := by
    refine ⟨?_, "item", by decide +kernel⟩
    rw [Generation.ordered_climbingRegistry]
    exact List.mem_cons_of_mem _ List.mem_cons_self
  have source : stripExtension "c:/app/model/user.ts" = "c:/app/model/user" := by decide +kernel
  have source' : stripExtension "c:/app/model/user.tsx" = "c:/app/model/user" := by decide +kernel
  obtain ⟨-, shared⟩ := file_references_share_source_iff Generation.namesFile_climbingReference own
  obtain ⟨statement, written⟩ := shared run mentioned mentioned' (source.trans source'.symm)
  rw [source] at written
  exact ⟨Generation.namesFile_climbingReference, own, run, statement, written⟩

end ElementTypings
