import ElementTypings.Proofs.Command.Loading
import ElementTypings.Proofs.Files.Ancestry
import ElementTypings.Proofs.Generation.Run
import ElementTypings.Proofs.ModuleSpecifier.WayBack

/-!
# What commands do to the files

A command that does not write leaves the tree as it is. A generation either fails, and then every
file is as before, or stores its document in one file and leaves the others alone
(`Command.failed_or_stored`). A second generation reads what the first one read and finds the
document, unless the first one wrote what it had read, or put a directory where it had found no
configuration file (`Command.runOn_of_stored`).
-/

namespace ElementTypings.Command

open FileTree (pathOf Grows)

/-- A run of a program with the given manual on a tree of files. -/
def runOn (manual : Manual) (arguments : List String) (tree : FileTree) : RunOutcome × FileTree :=
  (run (m := StateM FileTree) manual arguments).run tree

/-- What a command that came to an end leaves behind. -/
def ended : Except CommandFailure String → RunOutcome
  | .ok text => { exitCode := 0, output := text }
  | .error failure =>
    { exitCode := 1, output := "", report := "Error: " ++ failure.message ++ "\n" }

variable (manual : Manual) {arguments : List String} {command : Command} {tree after : FileTree}
  {project : ProjectArguments}

/-- A run answers what its command answers, and leaves the files as the command does. -/
theorem runOn_eq (parsed : ofArguments arguments = .ok command)
    {answer : Except CommandFailure String}
    (ran : (output (m := StateM FileTree) manual command).run.run tree = (answer, after)) :
    runOn manual arguments tree = (ended answer, after) := by
  unfold runOn run
  rw [parsed]
  dsimp only
  rw [StateT.run_bind, ran]
  cases answer <;> rfl

/-! ### Commands that only read -/

/-- A command other than a generation that is to be written only reads. -/
theorem agree_output (quiet : ∀ project, command ≠ .generate project false) (tree : FileTree) :
    Agree (output manual command) tree tree := by
  have loading (project : ProjectArguments) : Agree (loadProject project) tree tree :=
    agree_loadProject rfl rfl fun _ _ _ => rfl
  cases command with
  | completions shell => exact Agree.settled _
  | check project =>
      refine Agree.bind ((loading project).bind fun _ _ => ?_) fun _ _ => Agree.settled _
      exact (Agree.settled _).adapt
  | generate project dryRun =>
      cases dryRun with
      | false => exact absurd rfl (quiet project)
      | true =>
          refine Agree.bind ((loading project).bind fun _ _ => ?_) fun _ _ => Agree.settled _
          exact (Agree.settled _).adapt.bind fun _ _ => Agree.settled _

/-! ### Generations that write -/

/-- The artifact that a generated document is. -/
def artifact (document : GeneratedDocument) : Artifact :=
  { path := document.path, content := document.content }

/-- The report on a document of which something became. -/
def reportOn (document : GeneratedDocument) (outcome : WriteOutcome) : GenerateReport :=
  { path := document.path, summary := document.summary, fate := .stored outcome }

/-- A project that is loaded and has a document. -/
structure Yields (project : ProjectArguments) (tree : FileTree) (config : BuildConfig)
    (registry : Registry) (document : GeneratedDocument) : Prop where
  loaded : ∃ file, Answers (loadProject project) tree (.ok (file, config, registry))
  generated : ElementTypings.generate config registry = .ok document

/-- Where a project has a document the command answers what writing the document answered, and
leaves the tree that writing left. -/
theorem run_output_of_yields {config : BuildConfig} {registry : Registry}
    {document : GeneratedDocument} (yields : Yields project tree config registry document)
    {answer : Except WriteFailure WriteOutcome}
    (wrote : ((artifact document).write : StateM FileTree _).run tree = (answer, after)) :
    (output (m := StateM FileTree) manual (.generate project false)).run.run tree =
      ((answer.mapError .writing).map fun outcome => (reportOn document outcome).text, after) := by
  obtain ⟨file, loaded⟩ := yields.loaded
  have generated : Answers (ExceptT.adapt .generation
      (settled (ElementTypings.generate config registry))) tree
      (.ok document : Except CommandFailure GeneratedDocument) := by
    rw [yields.generated]
    rfl
  have written : (ExceptT.adapt .writing (ExceptT.mk (artifact document).write) :
      ExceptT CommandFailure (StateM FileTree) WriteOutcome).run.run tree =
      (answer.mapError .writing, after) := run_adapt wrote
  have whole : (runGenerate project false : ExceptT _ (StateM FileTree) _).run.run tree =
      ((answer.mapError .writing).map (reportOn document), after) := by
    unfold runGenerate
    rw [loaded.bind_of_ok]
    dsimp only
    rw [generated.bind_of_ok, if_neg Bool.false_ne_true]
    cases answer with
    | error failure => exact run_bind_of_error written
    | ok outcome => exact run_bind_of_ok written
  unfold output
  cases answer with
  | error failure => exact run_bind_of_error whole
  | ok outcome => exact run_bind_of_ok whole

/-- A generation that is to be written loads the project and makes the document, or fails without
any change. -/
theorem exists_yields_or (tree : FileTree) (project : ProjectArguments) :
    (∃ config registry document, Yields project tree config registry document) ∨
      ∃ failure, Answers (output manual (.generate project false)) tree (.error failure) := by
  obtain ⟨answer, loaded⟩ := reads_loadProject tree project
  rcases answer with failure | ⟨file, config, registry⟩
  · exact Or.inr ⟨failure, loaded.bind_of_error.bind_of_error⟩
  · cases generated : ElementTypings.generate config registry with
    | ok document => exact Or.inl ⟨config, registry, document, ⟨file, loaded⟩, generated⟩
    | error failure =>
        have stopped : Answers (ExceptT.adapt .generation
            (settled (ElementTypings.generate config registry))) tree
            (.error (.generation failure) : Except CommandFailure GeneratedDocument) := by
          rw [generated]
          rfl
        refine Or.inr ⟨.generation failure, Answers.bind_of_error ?_⟩
        exact loaded.bind_of_ok.trans stopped.bind_of_error

/-- A generation that was written: the document of the loaded project stands in the file that is
called `components.d.ts` in the source root, and no other file changed. -/
structure Stored (project : ProjectArguments) (tree after : FileTree) (config : BuildConfig)
    (registry : Registry) (document : GeneratedDocument) (place : Place) : Prop where
  yields : Yields project tree config registry document
  path : document.path = LexicalPath.join config.sourceRoot Generation.documentName
  located : after.locate document.path = some place
  held : after.fileAt? place = some document.content.toUTF8
  others : ∀ other, other ≠ place → after.fileAt? other = tree.fileAt? other

variable {config : BuildConfig} {registry : Registry} {document : GeneratedDocument} {place : Place}

/-- A document goes to the source directory, under the fixed name. -/
theorem path_of_generated (generated : ElementTypings.generate config registry = .ok document) :
    document.path = LexicalPath.join config.sourceRoot Generation.documentName := by
  obtain ⟨run, rfl⟩ := generate_eq_ok_iff.mp generated
  rfl

/-- The path of the document of a project consists of names below the root of all files. -/
theorem exists_names_of_yields (yields : Yields project tree config registry document) :
    ∃ names, document.path = HostPath.rooted (names ++ [Generation.documentName.toList]) ∧
      ∀ name ∈ names ++ [Generation.documentName.toList], LexicalPath.IsName name := by
  obtain ⟨file, loaded⟩ := yields.loaded
  rw [path_of_generated yields.generated]
  exact LexicalPath.exists_names_join (of_loadConfig (of_loadProject loaded).1).1
    ModuleSpecifier.isName_documentName

/-- A generation either fails and changes no file, or stores the document of the project. -/
theorem failed_or_stored (parsed : ofArguments arguments = .ok (.generate project false))
    (tree : FileTree) :
    ((runOn manual arguments tree).1.exitCode = 1 ∧
      ∀ place, (runOn manual arguments tree).2.fileAt? place = tree.fileAt? place) ∨
    ((runOn manual arguments tree).1.exitCode = 0 ∧
      ∃ config registry document place,
        Stored project tree (runOn manual arguments tree).2 config registry document place ∧
        FileTree.Gains place tree (runOn manual arguments tree).2) := by
  rcases exists_yields_or manual tree project with
    ⟨config, registry, document, yields⟩ | ⟨_, answered⟩
  · rcases written : ((artifact document).write : StateM FileTree _).run tree with ⟨answer, after⟩
    have ran := runOn_eq manual parsed (run_output_of_yields manual yields written)
    have wrote := Artifact.wrote written
    rw [ran]
    cases answer with
    | error failure => exact Or.inl ⟨rfl, wrote.fileAt?_of_error⟩
    | ok outcome =>
        obtain ⟨place, located, present, others⟩ := wrote.exists_place
        obtain ⟨names, path, named⟩ := exists_names_of_yields yields
        have held : after.fileAt? place = some document.content.toUTF8 := by
          rw [FileTree.fileAt?, present]
          rfl
        exact Or.inr ⟨rfl, config, registry, document, place,
          ⟨yields, path_of_generated yields.generated, located, held, others⟩,
          wrote.gains named path located⟩
  · rw [runOn_eq manual parsed answered]
    exact Or.inl ⟨rfl, fun _ => rfl⟩

/-- The name of the configuration file is a single name. -/
theorem isName_fileName : LexicalPath.IsName BuildConfig.fileName.toList where
  no_slash := by decide
  no_backslash := by decide
  ne_nil := by decide
  ne_here := by decide
  ne_up := by decide

/-- A run on the tree that a generation left finds the document, unless what the first run read is
at the place of the document or above it. -/
theorem runOn_of_stored (parsed : ofArguments arguments = .ok (.generate project false))
    (stored : Stored project tree after config registry document place)
    (gains : FileTree.Gains place tree after)
    (working : tree.at? tree.workingPlace = some .directory)
    (registryApart : tree.locate config.registry ≠ some place)
    (configApart : ∀ held, tree.locate project.config = some held → ¬ held <+: place) :
    runOn manual arguments after =
      ({ exitCode := 0, output := (reportOn document .unchanged).text }, after) := by
  obtain ⟨file, loaded⟩ := stored.yields.loaded
  obtain ⟨configured, content, registryRead⟩ := of_loadProject loaded
  have registrySame : after.read config.registry = tree.read config.registry := by
    rw [registryRead]
    exact gains.read_of_text registryApart registryRead
  have configSame : after.read project.config = tree.read project.config := by
    rcases (of_loadConfig configured).2 with ⟨usual, absent⟩ | ⟨text, read⟩
    · have located : tree.locate project.config =
          some (tree.workingPlace ++ [BuildConfig.fileName]) := by
        rw [usual]
        exact FileTree.locate_name isName_fileName (by decide) (by decide) working
      rw [absent]
      exact gains.read_of_absent located (configApart _ located) absent
    · rw [read]
      refine gains.read_of_text (fun located => ?_) read
      exact configApart place located (List.prefix_refl place)
  have agree : Agree (loadProject project) tree after := by
    refine agree_loadProject gains.working configSame fun other found loadedOther => ?_
    cases loadedOther.unique configured
    exact registrySame
  have again : Yields project after config registry document :=
    ⟨⟨file, agree.answers loaded⟩, stored.yields.generated⟩
  have found : after.find? document.path = some (.file document.content.toUTF8) :=
    Option.bind_eq_some_iff.mpr
      ⟨place, stored.located, FileTree.fileAt?_eq_some_iff.mp stored.held⟩
  have unchanged : ((artifact document).write : StateM FileTree _).run after =
      (.ok .unchanged, after) := Artifact.run_write_of_found found
  exact runOn_eq manual parsed (run_output_of_yields manual again unchanged)

/-- **Effects on the files.** A command that is no generation to be written leaves the
tree as it is. A generation that fails leaves every file as it is. A generation that succeeds stores
the document of the project and touches no other file, and when it is run again at once it finds the
document and changes nothing, provided that neither the registry nor the configuration file is at
the place of the document and that the document does not lie below the place of the latter. -/
theorem file_effects (parsed : ofArguments arguments = .ok command) (tree : FileTree) :
    ((∀ project, command ≠ .generate project false) → (runOn manual arguments tree).2 = tree) ∧
    ∀ project, command = .generate project false →
      ((runOn manual arguments tree).1.exitCode ≠ 0 →
        ∀ place, (runOn manual arguments tree).2.fileAt? place = tree.fileAt? place) ∧
      ((runOn manual arguments tree).1.exitCode = 0 →
        ∃ config registry document place,
          Stored project tree (runOn manual arguments tree).2 config registry document place ∧
          (tree.at? tree.workingPlace = some .directory →
            tree.locate config.registry ≠ some place →
            (∀ held, tree.locate project.config = some held → ¬ held <+: place) →
            runOn manual arguments (runOn manual arguments tree).2 =
              ({ exitCode := 0, output := (reportOn document .unchanged).text },
                (runOn manual arguments tree).2))) := by
  refine ⟨fun quiet => ?_, ?_⟩
  · obtain ⟨answer, ran, -⟩ := agree_output manual quiet tree
    rw [runOn_eq manual parsed ran]
  · rintro project rfl
    rcases failed_or_stored manual parsed tree with ⟨failed, same⟩ | ⟨succeeded, wrote⟩
    · rw [failed]
      exact ⟨fun _ => same, nofun⟩
    · rw [succeeded]
      refine ⟨fun impossible => absurd rfl impossible, fun _ => ?_⟩
      obtain ⟨config, registry, document, place, stored, gains⟩ := wrote
      exact ⟨config, registry, document, place, stored, runOn_of_stored manual parsed stored gains⟩

/-! ### A project without a configuration file -/

/-- The manual of a program that says nothing about its command line. -/
def blankManual : Manual :=
  { help := ""
    usage := fun _ => ""
    completion := fun _ => "" }

/-- A project whose registry has no components, and which has no configuration file. -/
def plainProject : FileTree :=
  { entries :=
      [(["work"], .directory), (["work", "app"], .directory),
        (["work", "app", "components.json"], .file "{}".toUTF8)]
    workingPlace := ["work", "app"] }

/-- The options that a tree gives a project, and the place of its document, are those that were
stored. -/
theorem Stored.eq_of_loads (stored : Stored project tree after config registry document place)
    (options : BuildConfig) (there : Place)
    (loads : ((loadProject (m := StateM FileTree) project).run.run tree).1.toOption.map
      (fun loaded => loaded.2.1) = some options)
    (leads : after.locate (LexicalPath.join options.sourceRoot Generation.documentName) =
      some there) : config = options ∧ place = there := by
  obtain ⟨file, loaded⟩ := stored.yields.loaded
  have ran : (loadProject (m := StateM FileTree) project).run.run tree =
    (.ok (file, config, registry), tree) := loaded
  rw [ran] at loads
  obtain rfl : config = options := Option.some.inj loads
  have located := stored.located
  rw [stored.path, leads] at located
  exact ⟨rfl, (Option.some.inj located).symm⟩

/-- The second generation of the project finds its document. -/
theorem plainProject_generated_again :
    ∃ config registry document place,
      Stored { config := "tagtype.toml", overrides := {} } plainProject
        (runOn blankManual ["generate"] plainProject).2 config registry document place ∧
      runOn blankManual ["generate"] (runOn blankManual ["generate"] plainProject).2 =
        ({ exitCode := 0, output := (reportOn document .unchanged).text },
          (runOn blankManual ["generate"] plainProject).2) := by
  have parsed : ofArguments ["generate"] = .ok (.generate
      { config := "tagtype.toml", overrides := {} } false) := by
    rfl
  obtain ⟨config, registry, document, place, stored, again⟩ :=
    ((file_effects blankManual parsed plainProject).2 _ rfl).2 (by decide +kernel)
  obtain ⟨rfl, rfl⟩ := stored.eq_of_loads
    { sourceRoot := "/work/app/src", registry := "/work/app/components.json" }
    ["work", "app", "src", "components.d.ts"] (by decide +kernel) (by decide +kernel)
  have located : plainProject.locate "tagtype.toml" = some ["work", "app", "tagtype.toml"] := by
    decide +kernel
  refine ⟨_, registry, document, _, stored, again (by decide) (by decide +kernel) ?_⟩
  intro held leads
  cases located.symm.trans leads
  decide

/-- A generation whose document lies below the path of the missing configuration file puts a
directory there, so that the configuration cannot be read any more: a second run fails. The document
is neither the registry nor the configuration file. -/
theorem plainProject_fails_again :
    ∃ config registry document place,
      Stored { config := "tagtype.toml", overrides := { sourceRoot := some "tagtype.toml" } }
        plainProject (runOn blankManual ["generate", "--src-dir", "tagtype.toml"] plainProject).2
        config registry document place ∧
      (runOn blankManual ["generate", "--src-dir", "tagtype.toml"] plainProject).1.exitCode = 0 ∧
      plainProject.at? plainProject.workingPlace = some .directory ∧
      plainProject.locate config.registry ≠ some place ∧
      plainProject.locate "tagtype.toml" ≠ some place ∧
      (runOn blankManual ["generate", "--src-dir", "tagtype.toml"]
        (runOn blankManual ["generate", "--src-dir", "tagtype.toml"]
          plainProject).2).1.exitCode = 1 := by
  have parsed : ofArguments ["generate", "--src-dir", "tagtype.toml"] = .ok (.generate
      { config := "tagtype.toml", overrides := { sourceRoot := some "tagtype.toml" } } false) := by
    decide +kernel
  rcases failed_or_stored blankManual parsed plainProject with ⟨failed, -⟩ | ⟨succeeded, wrote⟩
  · exact absurd failed (by decide +kernel)
  · obtain ⟨config, registry, document, place, stored, -⟩ := wrote
    obtain ⟨rfl, rfl⟩ := stored.eq_of_loads
      { sourceRoot := "/work/app/tagtype.toml", registry := "/work/app/components.json" }
      ["work", "app", "tagtype.toml", "components.d.ts"] (by decide +kernel) (by decide +kernel)
    exact ⟨_, registry, document, _, stored, succeeded, by decide, by decide +kernel,
      by decide +kernel, by decide +kernel⟩

end ElementTypings.Command
