import ElementTypings.BuildConfig

/-!
# Command lines

A command line names a command, after switches that all commands share and before its own. A switch
is written out behind two hyphens or as one letter behind one; letters may stand together, and a
value may be joined to its switch or follow it. The words are taken from left to right, and the
first that does not fit, or that asks for help or for the version, decides.
-/

namespace ElementTypings

/-- A shell for which completions can be printed. -/
inductive Shell where
  | bash
  | elvish
  | fish
  | powershell
  | zsh
deriving DecidableEq, Repr

namespace Shell

/-- Every shell. -/
def all : List Shell := [bash, elvish, fish, powershell, zsh]

/-- The word for a shell. -/
def word : Shell → String
  | bash => "bash"
  | elvish => "elvish"
  | fish => "fish"
  | powershell => "powershell"
  | zsh => "zsh"

/-- The shell that a word names. -/
def ofWord? (word : String) : Option Shell :=
  all.find? fun shell => shell.word == word

end Shell

/-- The project that a command works on. -/
structure ProjectArguments where
  /-- The configuration file. -/
  config : String
  overrides : ConfigOverrides
deriving DecidableEq, Repr

/-- A command with its arguments. -/
inductive Command where
  /-- Generates the document and writes it, or only shows it. -/
  | generate (project : ProjectArguments) (dryRun : Bool)
  /-- Checks the project. -/
  | check (project : ProjectArguments)
  /-- Prints completions for a shell. -/
  | completions (shell : Shell)
deriving DecidableEq, Repr

/-- Why a command line names no command to run. -/
inductive CommandStop where
  /-- The line is none of those described. -/
  | usage
  /-- The line asks for help. -/
  | help
  /-- The line asks for the version. -/
  | version
deriving DecidableEq, Repr

namespace CommandLine

/-- A switch. -/
inductive Switch where
  | config
  | registry
  | sourceRoot
  | collection
  | dryRun
  | verbose
  | help
  | version
deriving DecidableEq, Repr

namespace Switch

/-- The switch written out. -/
def name : Switch → String
  | config => "config"
  | registry => "registry"
  | sourceRoot => "src-dir"
  | collection => "collection"
  | dryRun => "dry-run"
  | verbose => "verbose"
  | help => "help"
  | version => "version"

/-- The letter of a switch that has one. -/
def letter? : Switch → Option Char
  | config => some 'c'
  | registry => some 'r'
  | verbose => some 'v'
  | help => some 'h'
  | version => some 'V'
  | _ => none

/-- Whether a value belongs to the switch. -/
def hasValue : Switch → Bool
  | config | registry | sourceRoot | collection => true
  | _ => false

end Switch

/-- The part of a command line that is being read: before the command, or behind its name. -/
inductive Part where
  | shared
  | generate
  | check
  | completions
deriving DecidableEq, Repr

namespace Part

/-- The switches that are known in a part. -/
def switches : Part → List Switch
  | shared => [.verbose, .help, .version]
  | generate => [.config, .registry, .sourceRoot, .collection, .dryRun, .verbose, .help]
  | check => [.config, .registry, .sourceRoot, .collection, .verbose, .help]
  | completions => [.verbose, .help]

/-- The part behind the name of a command. -/
def ofName? : String → Option Part
  | "generate" => some generate
  | "check" => some check
  | "completions" => some completions
  | _ => none

end Part

/-- What has been read of a command line. -/
structure Draft where
  part : Part := .shared
  config : Option String := none
  registry : Option String := none
  sourceRoot : Option String := none
  collections : List String := []
  dryRun : Bool := false
  shell : Option Shell := none

/-- The outcome of reading a word. -/
abbrev Step := Except CommandStop

namespace Draft

/-- The value of a switch that may be given once. -/
def once (known : Option String) (value : String) : Step (Option String) :=
  match known with
  | none => .ok (some value)
  | some _ => .error .usage

/-- Takes a switch without a value. -/
def flag (draft : Draft) : Switch → Step Draft
  | .verbose => .ok draft
  | .help => .error .help
  | .version => .error .version
  | .dryRun => if draft.dryRun then .error .usage else .ok { draft with dryRun := true }
  | _ => .error .usage

/-- Takes a switch with its value; the configuration file needs a name. -/
def valued (draft : Draft) (value : String) : Switch → Step Draft
  | .config => do
    if value = "" then throw .usage
    return { draft with config := ← once draft.config value }
  | .registry => do return { draft with registry := ← once draft.registry value }
  | .sourceRoot => do return { draft with sourceRoot := ← once draft.sourceRoot value }
  | .collection => .ok { draft with collections := draft.collections ++ [value] }
  | _ => .error .usage

/-- Takes a word that belongs to no switch: the name of the command, or the shell. -/
def word (draft : Draft) (text : String) : Step Draft :=
  match draft.part with
  | .shared =>
    match Part.ofName? text with
    | some part => .ok { draft with part }
    | none => .error .usage
  | .completions =>
    match draft.shell, Shell.ofWord? text with
    | none, some shell => .ok { draft with shell := some shell }
    | _, _ => .error .usage
  | _ => .error .usage

/-- The project of a command. -/
def project (draft : Draft) : ProjectArguments :=
  { config := draft.config.getD BuildConfig.fileName
    overrides :=
      { sourceRoot := draft.sourceRoot
        registry := draft.registry
        collections := draft.collections } }

/-- The command that has been read. -/
def finish (draft : Draft) : Step Command :=
  match draft.part, draft.shell with
  | .generate, _ => .ok (.generate draft.project draft.dryRun)
  | .check, _ => .ok (.check draft.project)
  | .completions, some shell => .ok (.completions shell)
  | _, _ => .error .usage

/-- The known switch of a name. -/
def named? (draft : Draft) (name : String) : Option Switch :=
  draft.part.switches.find? fun switch => switch.name == name

/-- The known switch of a letter. -/
def lettered? (draft : Draft) (letter : Char) : Option Switch :=
  draft.part.switches.find? fun switch => switch.letter? == some letter

/-- Takes letters that stand together. The answer is a draft, and the switch whose value is to
follow, if the last letter is one. -/
def letters (draft : Draft) : List Char → Step (Draft × Option Switch)
  | [] => .ok (draft, none)
  | letter :: later =>
    match draft.lettered? letter with
    | none => .error .usage
    | some switch =>
      if switch.hasValue then
        match later with
        | [] => .ok (draft, some switch)
        | '=' :: value => do return (← draft.valued (String.ofList value) switch, none)
        | value => do return (← draft.valued (String.ofList value) switch, none)
      else do letters (← draft.flag switch) later

/-- Takes a switch that is written out; its value may be joined to it. -/
def writtenOut (draft : Draft) (text : List Char) : Step (Draft × Option Switch) :=
  let name := String.ofList (text.takeWhile (· ≠ '='))
  match draft.named? name, text.dropWhile (· ≠ '=') with
  | none, _ => .error .usage
  | some switch, [] =>
    if switch.hasValue then .ok (draft, some switch)
    else do return (← draft.flag switch, none)
  | some switch, _ :: value =>
    if switch.hasValue then do return (← draft.valued (String.ofList value) switch, none)
    else .error .usage

end Draft

/-- Reads the words of a command line. `awaited` is the switch whose value is the next word, which
then must not look like a switch; behind the word `--` no word is a switch. -/
def read (draft : Draft) (awaited : Option Switch) (onlyWords : Bool) :
    List String → Step Command
  | [] => if awaited.isSome then .error .usage else draft.finish
  | text :: later =>
    if onlyWords then
      if draft.part = .shared then .error .usage
      else do read (← draft.word text) none true later
    else
      match awaited, text.toList with
      | some _, '-' :: _ :: _ => .error .usage
      | some switch, _ => do read (← draft.valued text switch) none false later
      | none, ['-', '-'] => read draft none true later
      | none, '-' :: '-' :: name => do
        let (draft, awaited) ← draft.writtenOut name
        read draft awaited false later
      | none, '-' :: first :: letters => do
        let (draft, awaited) ← draft.letters (first :: letters)
        read draft awaited false later
      | none, _ =>
        if draft.part = .shared ∧ text = "help" then
          match later with
          | [] => .error .help
          | [name] =>
            if name = "help" ∨ (Part.ofName? name).isSome then .error .help else .error .usage
          | _ => .error .usage
        else do read (← draft.word text) none false later

end CommandLine

/-- The command of a command line. -/
def Command.ofArguments (arguments : List String) : Except CommandStop Command :=
  CommandLine.read {} none false arguments

end ElementTypings
