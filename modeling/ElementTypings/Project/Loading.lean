import ElementTypings.Files.Access
import ElementTypings.Project.InputFailure

/-!
# Loading a project

The configuration and the registry of a project, read from their files. The paths of a configuration
are relative to the directory of its file; a project without a configuration file has the default
options, relative to a directory.
-/

namespace ElementTypings

/-- A configuration with the file that it comes from. -/
structure ConfigFile where
  path : String
  /-- The text of the file, which is empty where there is none. -/
  content : String
  config : BuildConfig
deriving DecidableEq, Repr

variable {m : Type → Type} [Monad m]

/-- An outcome for which no file is needed. -/
def settled {Failure Value : Type} (outcome : Except Failure Value) : ExceptT Failure m Value :=
  ExceptT.mk (pure outcome)

variable [FileAccess m]

/-- The text of a file. -/
def SourceText.load (path : String) : ExceptT InputFailure m SourceText := do
  match ← (FileAccess.read path : m Reading) with
  | .text content => return { name := path, content }
  | _ => throw (.unreadable path)

/-- The absolute path of a directory; the empty path is the working directory. -/
def absoluteDirectory (directory : String) : m String := do
  let start ← FileAccess.workingDirectory
  pure (HostPath.absolute start (if directory = "" then "." else directory))

namespace ConfigFile

/-- Reads a configuration file. -/
def load (path : String) : ExceptT InputFailure m ConfigFile := do
  let source ← SourceText.load path
  let config ← settled (BuildConfig.ofSource source)
  let base ← (absoluteDirectory ((HostPath.parent path).getD "") : m String)
  pure { path, content := source.content, config := config.anchored base }

/-- The default configuration of a directory. -/
def defaultsIn (directory : String) : m ConfigFile := do
  let base ← absoluteDirectory directory
  pure
    { path := HostPath.join directory BuildConfig.fileName
      content := ""
      config := ({} : BuildConfig).anchored base }

end ConfigFile

/-- Reads a registry file. -/
def Registry.load (path : String) : ExceptT InputFailure m Registry := do
  let source ← SourceText.load path
  settled (Registry.ofSource source)

end ElementTypings
