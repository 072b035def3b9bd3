import ElementTypings.Command.Run

/-!
# The program

Runs a command on the files of the host.
-/

namespace ElementTypings

/-- The files of the host. A file that cannot be opened because there is none is absent; any other
that cannot be read as text is unreadable. -/
instance : FileAccess IO where
  workingDirectory := do return toString (← IO.currentDir)
  read path := do
    match ← (IO.FS.readBinFile path).toBaseIO with
    | .ok bytes =>
      match String.fromUTF8? bytes with
      | some text => return .text text
      | none => return .unreadable
    | .error (.noFileOrDirectory ..) => return .absent
    | .error _ => return .unreadable
  createDirectories path := do
    if path = "" then return true
    match ← (IO.FS.createDirAll path).toBaseIO with
    | .ok _ => return true
    | .error _ => return false
  write path content := do
    match ← (IO.FS.writeFile path content).toBaseIO with
    | .ok _ => return true
    | .error _ => return false

end ElementTypings

namespace ElementTypings.Manual

/-- The names of the commands. -/
def names : String := "generate check completions"

/-- The manual of this program. -/
def standard : Manual :=
  { help := overview
    usage := fun _ => overview
    completion
      | .bash => "complete -W '" ++ names ++ "' tagtype\n"
      | .elvish =>
        "set edit:completion:arg-completer[tagtype] = \x7b|@words| put " ++ names ++ " \x7d\n"
      | .fish => "complete -c tagtype -f -n __fish_use_subcommand -a '" ++ names ++ "'\n"
      | .powershell =>
        "Register-ArgumentCompleter -Native -CommandName tagtype -ScriptBlock \x7b '" ++
          names ++ "' -split ' ' \x7d\n"
      | .zsh => "#compdef tagtype\n_arguments '1:command:(" ++ names ++ ")'\n" }
where
  overview : String :=
    "Generate TypeScript declarations for custom element components\n\n" ++
      "Usage: tagtype [OPTIONS] <COMMAND>\n\n" ++
      "Commands:\n" ++
      "  generate     Generate components.d.ts from the component registry\n" ++
      "  check        Validate configuration and registry without writing anything\n" ++
      "  completions  Generate shell completions\n"

end ElementTypings.Manual

/-- Runs the program with the arguments of the command line. -/
def main (arguments : List String) : IO UInt32 := do
  let outcome ← ElementTypings.Command.run (m := IO) .standard arguments
  IO.print outcome.output
  IO.eprint outcome.report
  return outcome.exitCode.toUInt32
