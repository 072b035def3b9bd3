import ElementTypings.Path.Host

/-!
# Build configuration

Where the sources of a project are, which collections of components it builds on, and where its
registry of components is. Paths in a configuration file are relative to the directory of that
file, and paths on a command line to the working directory; both are made absolute at once.
-/

namespace ElementTypings

/-- The options of a project. -/
structure BuildConfig where
  /-- The directory that the generated document stands in and imports from. -/
  sourceRoot : String := "src"
  /-- Collections of components, each imported for its effect. -/
  collections : List String := []
  /-- The file with the registry of components. -/
  registry : String := "components.json"
deriving DecidableEq, Repr

namespace BuildConfig

/-- The name of the configuration file of a project. -/
def fileName : String := "tagtype.toml"

/-- The path seen from a base directory, unless it is absolute on the host. -/
def anchoredPath (base path : String) : String :=
  if HostPath.isAbsolute path then path else HostPath.join base path

/-- The configuration with its paths seen from a base directory. -/
def anchored (config : BuildConfig) (base : String) : BuildConfig :=
  { config with
    sourceRoot := anchoredPath base config.sourceRoot
    registry := anchoredPath base config.registry }

end BuildConfig

/-- Options of a command line, which take the place of configured ones. -/
structure ConfigOverrides where
  sourceRoot : Option String := none
  registry : Option String := none
  /-- Collections to import in place of the configured ones, if there are any. -/
  collections : List String := []
deriving DecidableEq, Repr

namespace ConfigOverrides

/-- Whether nothing is overridden. -/
def isEmpty (overrides : ConfigOverrides) : Bool :=
  overrides.sourceRoot.isNone && overrides.registry.isNone && overrides.collections.isEmpty

/-- The configuration under the overrides; their paths are seen from the working directory. -/
def apply (overrides : ConfigOverrides) (workingDirectory : String) (config : BuildConfig) :
    BuildConfig :=
  if overrides.isEmpty then config
  else
    { sourceRoot :=
        (overrides.sourceRoot.map (HostPath.join workingDirectory)).getD config.sourceRoot
      registry := (overrides.registry.map (HostPath.join workingDirectory)).getD config.registry
      collections :=
        if overrides.collections.isEmpty then config.collections else overrides.collections }

end ConfigOverrides

end ElementTypings
