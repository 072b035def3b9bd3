import ElementTypings.BuildConfig
import ElementTypings.Decimal.Shortest
import ElementTypings.Text.Quoted
import ElementTypings.Toml.Reader

/-!
# Reading a build configuration

A configuration is a TOML document with at most one table, `build`, whose options may all be left
out. Keys are checked in the order of their names, and the first that is not known, or whose value
does not fit, is reported. The options may be listed in an array in place of the table.
-/

namespace ElementTypings

/-- Why a document is no configuration. -/
inductive ConfigFault where
  /-- The document is no TOML. -/
  | syntaxFault (fault : Toml.Fault)
  /-- A table has a key that is not one of those known. -/
  | unknownField (found : String) (known : List String)
  /-- A value of another type was expected. -/
  | invalidType (found expected : String)

namespace ConfigFault

/-- The alternatives among some words. -/
def alternatives : List String → String
  | [] => "there are no fields"
  | [only] => "expected `" ++ only ++ "`"
  | [first, second] => "expected `" ++ first ++ "` or `" ++ second ++ "`"
  | words => "expected one of " ++ ", ".intercalate (words.map fun word => "`" ++ word ++ "`")

/-- The message that reports the fault. -/
def message : ConfigFault → String
  | syntaxFault fault => fault.message
  | unknownField found known => "unknown field `" ++ found ++ "`, " ++ alternatives known
  | invalidType found expected => "invalid type: " ++ found ++ ", expected " ++ expected

end ConfigFault

/-- A fault of a configuration and the range of bytes that shows it. -/
structure ConfigFailure where
  fault : ConfigFault
  span : Toml.Span

namespace BuildConfig

open Toml (Located Span)

/-- A double as the message shows it: the shortest decimal, a tie going upwards, and always without
an exponent. -/
def floatText (value : Float) : String :=
  if value.isNaN then "NaN"
  else if value.isInf then if value < 0.0 then "-inf" else "inf"
  else
    let decimal := Decimal.ofFloat .upwards value
    Decimal.sign decimal.negative ++ (decimal.magnitude.map Decimal.positional).getD "0.0"

/-- A value as a message names it. -/
def describe : Toml.Value → String
  | .string text => "string " ++ Text.quoted text
  | .integer value => "integer `" ++ toString value ++ "`"
  | .float value => "floating point `" ++ floatText value ++ "`"
  | .boolean value => "boolean `" ++ (if value then "true" else "false") ++ "`"
  | .date => "map"
  | .array _ => "sequence"
  | .table .. => "map"
  | .tables _ => "sequence"

/-- Refuses a value of another type. -/
def refuse {Item : Type} (value : Located Toml.Value) (expected : String) :
    Except ConfigFailure Item :=
  .error { fault := .invalidType (describe value.item) expected, span := value.span }

/-- The text of a string. -/
def readString (expected : String) (value : Located Toml.Value) : Except ConfigFailure String :=
  match value.item with
  | .string text => .ok text
  | _ => refuse value expected

/-- A path. -/
def readPath : Located Toml.Value → Except ConfigFailure String :=
  readString "a UTF-8 path string"

/-- A list of strings. -/
def readStrings (value : Located Toml.Value) : Except ConfigFailure (List String) :=
  match value.item with
  | .array items | .tables items => items.mapM (readString "a string")
  | _ => refuse value "a sequence"

/-- The options of a configuration in the order of their declaration, each with the way to read its
value. -/
def options :
    List (String × (BuildConfig → Located Toml.Value → Except ConfigFailure BuildConfig)) :=
  [("src_dir", fun config value => do return { config with sourceRoot := ← readPath value }),
    ("collections", fun config value => do
      return { config with collections := ← readStrings value }),
    ("registry", fun config value => do return { config with registry := ← readPath value })]

/-- The names of the options. -/
def optionNames : List String :=
  options.map Prod.fst

/-- The entries of a table in the order of their keys. -/
def sortedEntries (table : Toml.Table) : Toml.Table :=
  List.mergeSort table fun left right => decide (left.1.item ≤ right.1.item)

/-- The configuration in which one option has been read. -/
def readOption (config : BuildConfig) (entry : Located String × Located Toml.Value) :
    Except ConfigFailure BuildConfig :=
  match options.lookup entry.1.item with
  | some read => read config entry.2
  | none =>
    .error { fault := .unknownField entry.1.item optionNames, span := entry.1.span }

/-- The key that a date has where a table is expected. -/
def dateKey : String := "$__toml_private_datetime"

/-- The configuration of the `build` table. -/
def readBuild (value : Located Toml.Value) : Except ConfigFailure BuildConfig :=
  match value.item with
  | .table _ entries => (sortedEntries entries).foldlM readOption {}
  | .array items | .tables items =>
    (options.zip items).foldlM (fun config (option, item) => option.2 config item) {}
  | .date => .error { fault := .unknownField dateKey optionNames, span := value.span }
  | _ => refuse value "struct BuildConfig"

/-- The configuration that an entry of the document gives; only `build` gives one, and a document
has one such entry at most. -/
def readSection (_ : BuildConfig) (entry : Located String × Located Toml.Value) :
    Except ConfigFailure BuildConfig :=
  if entry.1.item = "build" then readBuild entry.2
  else .error { fault := .unknownField entry.1.item ["build"], span := entry.1.span }

/-- The configuration of a document. -/
def ofToml (document : String) : Except ConfigFailure BuildConfig :=
  match Toml.read document with
  | .error failure => .error { fault := .syntaxFault failure.fault, span := failure.span }
  | .ok table => (sortedEntries table).foldlM readSection {}

end BuildConfig

end ElementTypings
