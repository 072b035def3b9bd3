import ElementTypings.Command.Run
import ElementTypings.Proofs.BuildConfig.Anchoring
import ElementTypings.Proofs.Files.Reading

/-!
# What commands read

Loading a project only reads: the working directory, the configuration file and the registry file,
and nothing else (`Command.agree_loadProject`). Where it succeeds these files were read, or there is
no configuration file and it has the usual name, and the source root of the project is absolute
(`Command.of_loadConfig`, `Command.of_loadProject`).
-/

namespace ElementTypings

variable {Failure : Type} {tree later : FileTree}

namespace Command

open FileTree (pathOf)

theorem agree_source {path : String} (same : later.read path = tree.read path) :
    Agree (SourceText.load path : ExceptT InputFailure (StateM FileTree) SourceText) tree
      later := by
  unfold SourceText.load
  refine Agree.bind (Agree.lift (FileTree.run_read tree _) ?_) fun found _ => ?_
  · exact congrArg (·, later) same
  · cases found <;> exact Agree.settled _

theorem agree_registry {path : String} (same : later.read path = tree.read path) :
    Agree (Registry.load path : ExceptT InputFailure (StateM FileTree) Registry) tree later :=
  (agree_source same).bind fun _ _ => Agree.settled _

/-- The directory that a path names, seen from the working directory of the tree. -/
theorem run_absoluteDirectory (tree : FileTree) (directory : String) :
    (absoluteDirectory directory : StateM FileTree String).run tree =
      (HostPath.absolute (pathOf tree.workingPlace) (if directory = "" then "." else directory),
        tree) :=
  rfl

/-- Making a directory absolute asks for the working place alone. -/
theorem agree_absoluteDirectory (working : later.workingPlace = tree.workingPlace)
    (directory : String) :
    Agree (liftM (absoluteDirectory directory : StateM FileTree String) :
      ExceptT Failure (StateM FileTree) String) tree later := by
  refine Agree.lift (run_absoluteDirectory tree directory) ?_
  rw [run_absoluteDirectory, working]

theorem agree_configFile {path : String} (working : later.workingPlace = tree.workingPlace)
    (same : later.read path = tree.read path) :
    Agree (ConfigFile.load path : ExceptT InputFailure (StateM FileTree) ConfigFile) tree later :=
  (agree_source same).bind fun _ _ => (Agree.settled _).bind fun _ _ =>
    (agree_absoluteDirectory working _).bind fun _ _ => Agree.settled _

/-- The defaults of a directory are found without reading a file. -/
theorem run_defaultsIn (tree : FileTree) (directory : String) :
    (ConfigFile.defaultsIn directory : StateM FileTree ConfigFile).run tree =
      ({ path := HostPath.join directory BuildConfig.fileName
         content := ""
         config := ({} : BuildConfig).anchored (HostPath.absolute (pathOf tree.workingPlace)
           (if directory = "" then "." else directory)) }, tree) :=
  rfl

/-- The defaults of a directory depend on the working place alone. -/
theorem agree_defaultsIn (working : later.workingPlace = tree.workingPlace) (directory : String) :
    Agree (liftM (ConfigFile.defaultsIn directory : StateM FileTree ConfigFile) :
      ExceptT Failure (StateM FileTree) ConfigFile) tree later := by
  refine Agree.lift (run_defaultsIn tree directory) ?_
  rw [run_defaultsIn, working]

/-- Where two trees have the working directory and the configuration file in common, so they have
the configuration. -/
theorem agree_loadConfig {project : ProjectArguments}
    (working : later.workingPlace = tree.workingPlace)
    (same : later.read project.config = tree.read project.config) :
    Agree (loadConfig project : ExceptT InputFailure (StateM FileTree) _) tree later := by
  have finish (file : ConfigFile) :
      Agree (do
          let start ← liftM (FileAccess.workingDirectory : StateM FileTree String)
          pure (file, project.overrides.apply start file.config) :
        ExceptT InputFailure (StateM FileTree) _) tree later := by
    refine Agree.bind (Agree.lift (FileTree.run_workingDirectory tree) ?_) fun _ _ =>
      Agree.settled _
    rw [FileTree.run_workingDirectory, working]
  unfold loadConfig
  refine Agree.bind (Agree.lift (FileTree.run_read tree _) ?_) fun found _ => ?_
  · exact congrArg (·, later) same
  · dsimp only
    split
    · exact (agree_defaultsIn working ".").bind fun file _ => finish file
    · exact (agree_configFile working same).bind fun file _ => finish file

/-- Loading a project reads the working directory, the configuration file and the registry file that
the configuration names. -/
theorem agree_loadProject {project : ProjectArguments}
    (working : later.workingPlace = tree.workingPlace)
    (same : later.read project.config = tree.read project.config)
    (registry : ∀ file config, Answers (loadConfig project) tree (.ok (file, config)) →
      later.read config.registry = tree.read config.registry) :
    Agree (loadProject project : ExceptT CommandFailure (StateM FileTree) _) tree later := by
  refine Agree.adapt ((agree_loadConfig working same).bind fun loaded found => ?_)
  exact (agree_registry (registry loaded.1 loaded.2 found)).bind fun _ _ => Agree.settled _

/-- Loading a project changes nothing. -/
theorem reads_loadProject (tree : FileTree) (project : ProjectArguments) :
    ∃ answer, Answers (loadProject project) tree answer := by
  have reads : Agree (loadProject project) tree tree := agree_loadProject rfl rfl fun _ _ _ => rfl
  obtain ⟨answer, here, -⟩ := reads
  exact ⟨answer, here⟩

/-! ### What was read -/

/-- A source that was loaded is the text of its file. -/
theorem read_of_source {path : String} {source : SourceText}
    (loaded : Answers (SourceText.load path) tree (.ok source)) :
    tree.read path = .text source.content := by
  unfold SourceText.load at loaded
  obtain ⟨found, read, chosen⟩ :=
    Answers.of_bind (Answers.lift (FileTree.run_read tree _)) loaded
  cases Answers.unique read (Answers.lift (FileTree.run_read tree _))
  cases held : tree.read path with
  | text content =>
      rw [held] at chosen
      cases chosen
      rfl
  | absent =>
      rw [held] at chosen
      cases chosen
  | unreadable =>
      rw [held] at chosen
      cases chosen

theorem isAbsolute_pathOf (place : Place) : HostPath.isAbsolute (pathOf place) := by
  simp [HostPath.isAbsolute, pathOf]

/-- What a configuration file gives has an absolute source root. -/
theorem of_configFile {path : String} {file : ConfigFile}
    (loaded : Answers (ConfigFile.load path) tree (.ok file)) :
    HostPath.isAbsolute file.config.sourceRoot ∧ ∃ content, tree.read path = .text content := by
  have reads : Agree (SourceText.load path) tree tree := agree_source rfl
  obtain ⟨source, read, loaded⟩ := reads.of_bind loaded
  obtain ⟨config, -, loaded⟩ := Answers.of_bind rfl loaded
  obtain ⟨base, based, loaded⟩ := (agree_absoluteDirectory rfl _).of_bind loaded
  obtain rfl := Except.ok.inj (based.unique (Answers.lift (run_absoluteDirectory tree _)))
  obtain rfl := Answers.of_pure loaded
  have working := isAbsolute_pathOf tree.workingPlace
  exact ⟨BuildConfig.isAbsolute_sourceRoot_anchored (HostPath.isAbsolute_absolute working _) _,
    source.content, read_of_source read⟩

/-- A project has an absolute source root. Its configuration file was read, or there is none and it
has the usual name. -/
theorem of_loadConfig {project : ProjectArguments} {file : ConfigFile} {config : BuildConfig}
    (loaded : Answers (loadConfig project) tree (.ok (file, config))) :
    HostPath.isAbsolute config.sourceRoot ∧
      (project.config = BuildConfig.fileName ∧ tree.read project.config = .absent ∨
        ∃ content, tree.read project.config = .text content) := by
  have working := isAbsolute_pathOf tree.workingPlace
  have finish {found : ConfigFile}
      (ended : Answers (do
          let start ← liftM (FileAccess.workingDirectory : StateM FileTree String)
          pure (found, project.overrides.apply start found.config)) tree
        (.ok (file, config) : Except InputFailure _)) :
      config = project.overrides.apply (pathOf tree.workingPlace) found.config := by
    obtain ⟨start, started, ended⟩ :=
      Answers.of_bind (Answers.lift (FileTree.run_workingDirectory tree)) ended
    obtain rfl := Except.ok.inj
      (started.unique (Answers.lift (FileTree.run_workingDirectory tree)))
    exact (congrArg Prod.snd (Answers.of_pure ended)).symm
  unfold loadConfig at loaded
  obtain ⟨found, read, loaded⟩ :=
    Answers.of_bind (Answers.lift (FileTree.run_read tree _)) loaded
  cases read.unique (Answers.lift (FileTree.run_read tree _))
  dsimp only at loaded
  split at loaded
  · next usual =>
    obtain ⟨found, default, ended⟩ := (agree_defaultsIn rfl ".").of_bind loaded
    have found := congrArg ConfigFile.config
      (Except.ok.inj (default.unique (Answers.lift (run_defaultsIn tree "."))))
    rw [finish ended, found]
    have based := HostPath.isAbsolute_absolute working (if "." = "" then "." else ".")
    have rooted := BuildConfig.isAbsolute_sourceRoot_anchored based {}
    exact ⟨BuildConfig.isAbsolute_sourceRoot_apply working rooted, Or.inl usual⟩
  · have reads : Agree (ConfigFile.load project.config) tree tree := agree_configFile rfl rfl
    obtain ⟨found, opened, ended⟩ := reads.of_bind loaded
    obtain ⟨rooted, read⟩ := of_configFile opened
    rw [finish ended]
    exact ⟨BuildConfig.isAbsolute_sourceRoot_apply working rooted, Or.inr read⟩

/-- A project that is loaded has its configuration, and its registry was read. -/
theorem of_loadProject {project : ProjectArguments} {file : ConfigFile} {config : BuildConfig}
    {registry : Registry}
    (loaded : Answers (loadProject project) tree (.ok (file, config, registry))) :
    Answers (loadConfig project) tree (.ok (file, config)) ∧
      ∃ content, tree.read config.registry = .text content := by
  have reads : Agree (loadConfig project) tree tree := agree_loadConfig rfl rfl
  have whole := Agree.of_adapt (reads.bind fun _ _ =>
    (agree_registry rfl).bind fun _ _ => Agree.settled _) loaded
  obtain ⟨⟨_, _⟩, configured, rest⟩ := reads.of_bind whole
  obtain ⟨_, found, ended⟩ := (agree_registry rfl).of_bind rest
  cases ended
  obtain ⟨source, read, -⟩ := (agree_source rfl).of_bind found
  exact ⟨configured, source.content, read_of_source read⟩

end Command

end ElementTypings
