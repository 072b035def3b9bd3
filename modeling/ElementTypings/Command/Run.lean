import ElementTypings.Command.Arguments
import ElementTypings.Project.Loading
import ElementTypings.Report

/-!
# Running commands

A command loads the project, does its work, and prints one report. A failure prints nothing on the
standard output and writes no file: everything that can fail before the document is written is done
before it. What the program says about its own command line is given by a manual.
-/

namespace ElementTypings

/-- Why a command failed. -/
inductive CommandFailure where
  | input (failure : InputFailure)
  | generation (failure : GenerationFailure)
  | writing (failure : WriteFailure)

namespace CommandFailure

/-- The message that reports the failure. -/
def message : CommandFailure → String
  | input failure => ": ".intercalate (failure.message :: failure.cause?.toList)
  | generation failure => GenerateReport.failureMessage failure
  | writing failure => "Failed to write declarations: " ++ failure.message

end CommandFailure

/-- The texts that a program prints about its own command line. -/
structure Manual where
  /-- What is printed for help. -/
  help : String
  /-- What is reported of arguments that name no command. -/
  usage : List String → String
  /-- A script that makes a shell complete the arguments. -/
  completion : Shell → String

/-- What a run of the program leaves behind, its files aside. -/
structure RunOutcome where
  exitCode : Nat
  /-- What was printed on the standard output. -/
  output : String
  /-- What was reported as an error. -/
  report : String := ""
deriving DecidableEq, Repr

namespace Command

variable {m : Type → Type} [Monad m] [FileAccess m]

/-- The configuration of a project with the command line's overrides, and the file it comes from. A
project without a configuration file under the usual name has the default configuration. -/
def loadConfig (project : ProjectArguments) :
    ExceptT InputFailure m (ConfigFile × BuildConfig) := do
  let usual := project.config = BuildConfig.fileName
  let missing := (← (FileAccess.read project.config : m Reading)) = .absent
  let file ←
    if usual ∧ missing then (ConfigFile.defaultsIn "." : m ConfigFile)
    else ConfigFile.load project.config
  let start ← (FileAccess.workingDirectory : m String)
  pure (file, project.overrides.apply start file.config)

/-- The project of a command: its configuration file, its options and its registry. -/
def loadProject (project : ProjectArguments) :
    ExceptT CommandFailure m (ConfigFile × BuildConfig × Registry) :=
  ExceptT.adapt .input do
    let (file, config) ← loadConfig project
    let registry ← Registry.load config.registry
    pure (file, config, registry)

/-- Generates the document of a project, and writes it unless it is only to be shown. -/
def runGenerate (project : ProjectArguments) (dryRun : Bool) :
    ExceptT CommandFailure m GenerateReport := do
  let (_, config, registry) ← loadProject project
  let document ← ExceptT.adapt .generation (settled (ElementTypings.generate config registry))
  if dryRun then pure (GenerateReport.ofPreview document)
  else
    let artifact : Artifact := { path := document.path, content := document.content }
    let outcome ← ExceptT.adapt .writing (ExceptT.mk artifact.write)
    pure { path := document.path, summary := document.summary, fate := .stored outcome }

/-- Checks a project. -/
def runCheck (project : ProjectArguments) : ExceptT CommandFailure m CheckReport := do
  let (file, config, registry) ← loadProject project
  ExceptT.adapt .generation (settled (CheckReport.ofProject file.path config registry))

/-- What a command prints. -/
def output (manual : Manual) : Command → ExceptT CommandFailure m String
  | .generate project dryRun => do return (← runGenerate project dryRun).text
  | .check project => do return (← runCheck project).text
  | .completions shell => pure (manual.completion shell)

/-- What the program prints for its version. -/
def versionText : String := "tagtype 0.3.0\n"

/-- Runs the program with the given arguments. -/
def run (manual : Manual) (arguments : List String) : m RunOutcome := do
  match Command.ofArguments arguments with
  | .error .usage => return { exitCode := 2, output := "", report := manual.usage arguments }
  | .error .help => return { exitCode := 0, output := manual.help }
  | .error .version => return { exitCode := 0, output := versionText }
  | .ok command =>
    match ← (output manual command).run with
    | .ok text => return { exitCode := 0, output := text }
    | .error failure =>
      return { exitCode := 1, output := "", report := "Error: " ++ failure.message ++ "\n" }

end Command

end ElementTypings
