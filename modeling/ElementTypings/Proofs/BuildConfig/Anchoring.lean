import ElementTypings.BuildConfig
import ElementTypings.Path.Lexical
import ElementTypings.Proofs.Path.Host
import ElementTypings.Proofs.Path.Tree

/-!
# Anchored configurations

The paths of a configuration are anchored as paths of the host, whose only root is the slash, and
compared with the paths of components as texts, in which a backslash and a drive begin an absolute
path as well (`LexicalPath.isAbsolute_iff`). An anchored path is absolute for both, so that
anchoring it again changes nothing (`BuildConfig.anchored_anchored`). The two agree on which source
roots are to be kept exactly if the source root begins neither with a backslash nor with a drive
(`BuildConfig.anchoring_agrees_iff`): such a path is kept by no anchoring
(`BuildConfig.drive_source_root_moved`).
-/

namespace ElementTypings

namespace HostPath

/-- A path that begins with a backslash or with a drive. -/
def IsForeign (path : String) : Prop :=
  (∃ below, path.toList = '\\' :: below) ∨
    ∃ letter separator below, Char.isAlpha letter ∧ (separator = '/' ∨ separator = '\\') ∧
      path.toList = letter :: ':' :: separator :: below

/-- The host takes a foreign path for a relative one. -/
theorem not_isAbsolute_of_isForeign {path : String} (foreign : IsForeign path) :
    ¬ isAbsolute path := by
  rw [isAbsolute_iff_exists]
  rintro ⟨rest, slash⟩
  rcases foreign with ⟨below, backslash⟩ | ⟨letter, separator, below, alpha, -, drive⟩
  · cases slash.symm.trans backslash
  · obtain ⟨rfl, -⟩ := List.cons.inj (slash.symm.trans drive)
    cases alpha

end HostPath

namespace LexicalPath

/-- A path is absolute as a text if it is absolute on the host or foreign. -/
theorem isAbsolute_iff {path : String} :
    isAbsolute path ↔ HostPath.isAbsolute path ∨ HostPath.IsForeign path := by
  constructor
  · intro absolute
    obtain ⟨root, below, begins⟩ := exists_beginsWith absolute
    rw [HostPath.isAbsolute_iff_exists, HostPath.IsForeign]
    generalize path.toList = text at begins
    cases begins with
    | slash separates =>
        rcases separates with rfl | rfl
        · exact .inl ⟨below, rfl⟩
        · exact .inr (.inl ⟨below, rfl⟩)
    | drive alpha separates => exact .inr (.inr ⟨_, _, below, alpha, separates, rfl⟩)
  · rintro (absolute | ⟨below, backslash⟩ | ⟨_, _, below, alpha, separates, drive⟩)
    · exact isAbsolute_of_host absolute
    · apply isAbsolute_of_beginsWith
      rw [backslash]
      exact .slash (.inr rfl)
    · apply isAbsolute_of_beginsWith
      rw [drive]
      exact .drive alpha separates

/-- The way from a path of the host leads to its target exactly if that lies below the slash. -/
theorem way_leads_iff_of_host {source target : String} (host : HostPath.isAbsolute source)
    (absolute : isAbsolute target) :
    ∃ way, relative source target = .ok way ∧
      (join source way = join target "" ↔ rootOf target = .slash) := by
  have rooted : rootOf source = .slash := root_ofText_of_isAbsolute host
  have lexical : isAbsolute source := isAbsolute_of_host host
  obtain ⟨way, led⟩ := (exists_relative_iff source target).mpr ⟨lexical, absolute⟩
  refine ⟨way, led, fun same => ?_, fun below => join_relative led (rooted.trans below.symm)⟩
  rw [← rootOf_join absolute "", ← same, rootOf_join lexical, rooted]

/-- What anchoring is to make of a path: one that is absolute stays as it is, and any other becomes
absolute. -/
def Anchors (path anchored : String) : Prop :=
  if isAbsolute path then anchored = path else isAbsolute anchored

end LexicalPath

namespace BuildConfig

variable {base : String}

/-! ### One path -/

/-- What is absolute to the host stays as it is. -/
theorem anchoredPath_of_isAbsolute {path : String} (absolute : HostPath.isAbsolute path) :
    anchoredPath base path = path :=
  if_pos absolute

/-- A path is anchored as it is joined to the base. -/
theorem anchoredPath_eq_join (base path : String) :
    anchoredPath base path = HostPath.join base path := by
  unfold anchoredPath
  split
  · next absolute => rw [HostPath.join, if_pos absolute]
  · rfl

/-- Below an absolute base every path becomes absolute. -/
theorem isAbsolute_anchoredPath (based : HostPath.isAbsolute base) (path : String) :
    HostPath.isAbsolute (anchoredPath base path) := by
  rw [anchoredPath_eq_join]
  exact HostPath.isAbsolute_join based path

/-- Only what the host takes for absolute is kept. -/
theorem anchoredPath_eq_self_iff (based : HostPath.isAbsolute base) (path : String) :
    anchoredPath base path = path ↔ HostPath.isAbsolute path :=
  ⟨fun kept => kept ▸ isAbsolute_anchoredPath based path, anchoredPath_of_isAbsolute⟩

/-- Anchoring does what it is to do, unless the path is foreign. -/
theorem anchors_anchoredPath_iff (based : HostPath.isAbsolute base) (path : String) :
    LexicalPath.Anchors path (anchoredPath base path) ↔ ¬ HostPath.IsForeign path := by
  unfold LexicalPath.Anchors
  split
  · next absolute =>
    rw [anchoredPath_eq_self_iff based]
    constructor
    · exact fun host foreign => HostPath.not_isAbsolute_of_isForeign foreign host
    · exact (LexicalPath.isAbsolute_iff.mp absolute).resolve_right
  · next relative =>
    refine iff_of_true ?_ fun foreign => relative (LexicalPath.isAbsolute_iff.mpr (.inr foreign))
    exact LexicalPath.isAbsolute_of_host (isAbsolute_anchoredPath based path)

/-! ### Configurations -/

theorem isAbsolute_sourceRoot_anchored (based : HostPath.isAbsolute base) (config : BuildConfig) :
    HostPath.isAbsolute (config.anchored base).sourceRoot :=
  isAbsolute_anchoredPath based config.sourceRoot

/-- An anchored configuration stays as it is, whatever it is anchored at. -/
theorem anchored_anchored (based : HostPath.isAbsolute base) (config : BuildConfig)
    (other : String) : (config.anchored base).anchored other = config.anchored base := by
  have kept (path : String) :
      anchoredPath other (anchoredPath base path) = anchoredPath base path :=
    anchoredPath_of_isAbsolute (isAbsolute_anchoredPath based path)
  simp only [anchored, kept]

/-- An overriding source root is anchored at the working directory. -/
theorem sourceRoot_apply {overrides : ConfigOverrides} {path : String}
    (given : overrides.sourceRoot = some path) (workingDirectory : String) (config : BuildConfig) :
    (overrides.apply workingDirectory config).sourceRoot = anchoredPath workingDirectory path := by
  have some : overrides.isEmpty = false := by simp [ConfigOverrides.isEmpty, given]
  rw [ConfigOverrides.apply, some, anchoredPath_eq_join]
  simp only [given, Bool.false_eq_true, ↓reduceIte, Option.map_some, Option.getD_some]

theorem isAbsolute_sourceRoot_apply {overrides : ConfigOverrides} {workingDirectory : String}
    {config : BuildConfig} (working : HostPath.isAbsolute workingDirectory)
    (configured : HostPath.isAbsolute config.sourceRoot) :
    HostPath.isAbsolute (overrides.apply workingDirectory config).sourceRoot := by
  cases given : overrides.sourceRoot with
  | some path =>
      rw [sourceRoot_apply given]
      exact isAbsolute_anchoredPath working path
  | none =>
      unfold ConfigOverrides.apply
      split
      · exact configured
      · rw [given]
        exact configured

/-- The source root that a configuration has at a base, and how it compares with component paths. -/
structure AnchoredAt (config : BuildConfig) (base : String) : Prop where
  /-- The source root is kept or made absolute as it is to be, unless it is foreign. -/
  anchors_iff : LexicalPath.Anchors config.sourceRoot (config.anchored base).sourceRoot ↔
    ¬ HostPath.IsForeign config.sourceRoot
  isAbsolute_sourceRoot : LexicalPath.isAbsolute (config.anchored base).sourceRoot
  anchored_anchored : ∀ other, (config.anchored base).anchored other = config.anchored base
  /-- With the base as working directory, an overriding source root fares as a configured one. -/
  apply_eq : ∀ (overrides : ConfigOverrides) path, overrides.sourceRoot = some path →
    (overrides.apply base config).sourceRoot =
      ({ config with sourceRoot := path }.anchored base).sourceRoot
  /-- The way from the source root to a component leads there unless the component is on a drive. -/
  way_leads_iff : ∀ component, LexicalPath.isAbsolute component →
    ∃ way, LexicalPath.relative (config.anchored base).sourceRoot component = .ok way ∧
      (LexicalPath.join (config.anchored base).sourceRoot way = LexicalPath.join component "" ↔
        LexicalPath.rootOf component = .slash)

/-- **When anchoring agrees with reading.** As a text, a path is absolute if the host takes it for
absolute or it begins with a backslash or a drive. At an absolute base, a source root is kept if it
is absolute as a text and made absolute otherwise, exactly if it is not one of the latter; whatever
it is, it becomes absolute, and anchoring it again changes nothing. An overriding source root is
treated in the same way. An anchored source root lies below the slash, so the way from there leads
to a component exactly if that does not lie on a drive. -/
theorem anchoring_agrees_iff (config : BuildConfig) {base : String}
    (based : HostPath.isAbsolute base) :
    (∀ path, LexicalPath.isAbsolute path ↔
        HostPath.isAbsolute path ∨ HostPath.IsForeign path) ∧
      config.AnchoredAt base where
  left _ := LexicalPath.isAbsolute_iff
  right :=
    { anchors_iff := anchors_anchoredPath_iff based config.sourceRoot
      isAbsolute_sourceRoot :=
        LexicalPath.isAbsolute_of_host (isAbsolute_sourceRoot_anchored based config)
      anchored_anchored := anchored_anchored based config
      apply_eq := fun _ _ given => sourceRoot_apply given base config
      way_leads_iff := fun _ =>
        LexicalPath.way_leads_iff_of_host (isAbsolute_sourceRoot_anchored based config) }

/-- A letter and a colon alone are no drive: what begins with them is a relative path. -/
theorem anchoring_agrees_iff_of_letter :
    let config : BuildConfig := { sourceRoot := "C:src\\ui" }
    HostPath.isAbsolute "/project" ∧
      (config.anchored "/project").sourceRoot = "/project/C:src\\ui" ∧
      LexicalPath.Anchors "C:src\\ui" "/project/C:src\\ui" ∧
      (config.anchored "/project").anchored "/" = config.anchored "/project" ∧
      (({ sourceRoot := some "D:lib" } : ConfigOverrides).apply "/project" config).sourceRoot =
        "/project/D:lib" := by
  intro config
  have based : HostPath.isAbsolute "/project" := by decide
  obtain ⟨absolute, anchored⟩ := anchoring_agrees_iff config based
  have place : (config.anchored "/project").sourceRoot = "/project/C:src\\ui" := by decide +kernel
  have relative : ¬ LexicalPath.isAbsolute "C:src\\ui" := by decide +kernel
  have native : ¬ HostPath.IsForeign "C:src\\ui" := fun foreign =>
    relative ((absolute _).mpr (.inr foreign))
  refine ⟨based, place, place ▸ anchored.anchors_iff.mpr native, anchored.anchored_anchored "/", ?_⟩
  rw [anchored.apply_eq _ _ rfl]
  decide +kernel

/-- **A source root on a drive is moved.** It is absolute, and the module of a component below it
has a short specifier; anchored, it is another directory, and the specifier leaves the project. -/
theorem drive_source_root_moved :
    LexicalPath.isAbsolute "C:/app/src" ∧
      (({ sourceRoot := "C:/app/src" } : BuildConfig).anchored "/project").sourceRoot =
        "/project/C:/app/src" ∧
      (({ sourceRoot := some "C:/app/src" } : ConfigOverrides).apply "/project" {}).sourceRoot =
        "/project/C:/app/src" ∧
      ModuleSpecifier.ofFile "C:/app/src" "C:\\app\\src\\ui\\x.tsx" = .ok "./ui/x" ∧
      ModuleSpecifier.ofFile "/project/C:/app/src" "C:\\app\\src\\ui\\x.tsx" =
        .ok "../../../../c:/app/src/ui/x" := by
  refine ⟨by decide +kernel, by decide +kernel, by decide +kernel, ?_, ?_⟩
  · exact eq_ok_of_toOption (by decide +kernel)
  · exact eq_ok_of_toOption (by decide +kernel)

end BuildConfig

end ElementTypings
