import ElementTypings.Files.Access
import ElementTypings.Generation.Generate

/-!
# Reports

The reports of all commands share the spelling of their lines. A check generates the document in
memory and reports what the project holds. A generation reports where the document belongs and the
numbers of the run; a preview shows the document in place of writing it.
-/

namespace ElementTypings

namespace Report

/-- The heading of a section. -/
def heading (title : String) : String :=
  title ++ ":"

/-- A value under its name. -/
def value (name content : String) : String :=
  name ++ ": " ++ content

/-- A value under its name, indented. -/
def detail (name content : String) : String :=
  "  " ++ name ++ ": " ++ content

/-- An item of a list. -/
def item (content : String) : String :=
  "  - " ++ content

/-- A message of success. -/
def success (content : String) : String :=
  "✓ " ++ content

/-- A line that sets parts of a report apart. -/
def divider (title : String) : String :=
  "── " ++ title ++ " ──"

/-- The ending of a noun that counts so many things. -/
def plural (count : Nat) : String :=
  if count = 1 then "" else "s"

/-- The text of some lines, each of them ended. -/
def text (lines : List String) : String :=
  String.join (lines.map (· ++ "\n"))

end Report

/-! ### The report of a check -/

/-- What a check found. -/
structure CheckReport where
  /-- The configuration file, which need not exist. -/
  configPath : String
  registryPath : String
  outputPath : String
  /-- The number of scanned files. -/
  fileCount : Nat
  /-- The tags of the components, in the order of the document. -/
  tags : List String
  collections : List String
  importGroups : Nat
deriving DecidableEq, Repr

namespace CheckReport

/-- The report of checking a registry under a configuration. -/
def ofProject (configPath : String) (config : BuildConfig) (registry : Registry) :
    Except GenerationFailure CheckReport := do
  let document ← generate config registry
  pure
    { configPath
      registryPath := config.registry
      outputPath := document.path
      fileCount := registry.size
      tags := registry.ordered.map Component.tagName
      collections := config.collections
      importGroups := document.summary.importGroups }

/-- A section that lists some items, behind a blank line; there is none without items. -/
def listing (title : String) (items : List String) : List String :=
  if items.isEmpty then []
  else
    ["", Report.heading (title ++ " (" ++ toString items.length ++ ")")] ++
      items.map Report.item

/-- The lines of the report. -/
def lines (report : CheckReport) : List String :=
  [Report.success (report.registryPath ++ " is valid"),
    "",
    Report.detail "config" report.configPath,
    Report.detail "output" report.outputPath,
    Report.detail "files"
      (toString report.fileCount ++ " scanned, " ++ toString report.tags.length ++
        " with component" ++ Report.plural report.tags.length),
    Report.detail "import sources" (toString report.importGroups)] ++
    listing "Collections" report.collections ++
    listing "Components" (report.tags.map fun tag => "<" ++ tag ++ ">")

/-- What the report prints. -/
def text (report : CheckReport) : String :=
  Report.text report.lines

end CheckReport

/-! ### The report of a generation -/

/-- What became of a generated document. -/
inductive DocumentFate where
  /-- It was written, or found written. -/
  | stored (outcome : WriteOutcome)
  /-- It is only shown. -/
  | preview (content : String)
deriving DecidableEq, Repr

/-- What a generation did. -/
structure GenerateReport where
  path : String
  summary : GenerationSummary
  fate : DocumentFate
deriving DecidableEq, Repr

namespace GenerateReport

/-- The report that shows a document. -/
def ofPreview (document : GeneratedDocument) : GenerateReport :=
  { path := document.path, summary := document.summary, fate := .preview document.content }

/-- The lines on the numbers of a run. -/
def summaryLines (summary : GenerationSummary) : List String :=
  [Report.detail "components" (toString summary.components),
    Report.detail "collections" (toString summary.collections),
    Report.detail "imports"
      (toString summary.bindings ++ " from " ++ toString summary.importGroups ++ " source" ++
        Report.plural summary.importGroups)] ++
    if summary.renamed = 0 then [] else [Report.detail "renamed" (toString summary.renamed)]

/-- The word for what writing did. -/
def outcomeWord : WriteOutcome → String
  | .written => "Generated"
  | .unchanged => "Unchanged"

/-- The lines of the report. -/
def lines (report : GenerateReport) : List String :=
  (match report.fate with
    | .stored outcome => [Report.value (outcomeWord outcome) report.path, ""]
    | .preview content =>
      [Report.divider report.path, content, Report.divider "Summary"]) ++
    summaryLines report.summary

/-- What the report prints. -/
def text (report : GenerateReport) : String :=
  Report.text report.lines

/-- The message that reports a failed generation: what was tried, and the causes. -/
def failureMessage (failure : GenerationFailure) : String :=
  ": ".intercalate ("Failed to generate declarations" :: failure.chain)

end GenerateReport

end ElementTypings
