import ElementTypings.BuildConfig
import ElementTypings.BuildConfig.Reading
import ElementTypings.Command.Arguments
import ElementTypings.Command.Run
import ElementTypings.Component
import ElementTypings.Decimal.Shortest
import ElementTypings.Declaration.Document
import ElementTypings.Declaration.Syntax
import ElementTypings.Files.Access
import ElementTypings.Files.Tree
import ElementTypings.Generation.ComponentBlock
import ElementTypings.Generation.Failure
import ElementTypings.Generation.Generate
import ElementTypings.Generation.Resolution
import ElementTypings.ImportScope
import ElementTypings.Json.Fault
import ElementTypings.Json.Number
import ElementTypings.Json.Reader
import ElementTypings.Json.Skip
import ElementTypings.Json.StringLiteral
import ElementTypings.Json.Typed
import ElementTypings.Layout
import ElementTypings.Main
import ElementTypings.OrderedMap
import ElementTypings.Path.Host
import ElementTypings.Path.Lexical
import ElementTypings.Project.InputFailure
import ElementTypings.Project.Loading
import ElementTypings.Proofs.BuildConfig.Anchoring
import ElementTypings.Proofs.Command.Effects
import ElementTypings.Proofs.Command.Loading
import ElementTypings.Proofs.Declaration.Literals
import ElementTypings.Proofs.Declaration.Sections
import ElementTypings.Proofs.Declaration.StringLiteral
import ElementTypings.Proofs.Files.Ancestry
import ElementTypings.Proofs.Files.Growth
import ElementTypings.Proofs.Files.History
import ElementTypings.Proofs.Files.Parents
import ElementTypings.Proofs.Files.Reading
import ElementTypings.Proofs.Files.Writing
import ElementTypings.Proofs.Generation.AmbientNames
import ElementTypings.Proofs.Generation.CollisionFreedom
import ElementTypings.Proofs.Generation.Contents
import ElementTypings.Proofs.Generation.ElementNames
import ElementTypings.Proofs.Generation.Faults
import ElementTypings.Proofs.Generation.Growth
import ElementTypings.Proofs.Generation.ImportModules
import ElementTypings.Proofs.Generation.ImportOrder
import ElementTypings.Proofs.Generation.Independence
import ElementTypings.Proofs.Generation.PartialResolution
import ElementTypings.Proofs.Generation.ReferenceIntegrity
import ElementTypings.Proofs.Generation.Resolution
import ElementTypings.Proofs.Generation.Run
import ElementTypings.Proofs.Generation.SharedFiles
import ElementTypings.Proofs.Generation.Summary
import ElementTypings.Proofs.ImportScope.FirstUse
import ElementTypings.Proofs.ImportScope.FreeName
import ElementTypings.Proofs.ImportScope.History
import ElementTypings.Proofs.ImportScope.Reservation
import ElementTypings.Proofs.ImportScope.SuffixSearch
import ElementTypings.Proofs.Json.Containers
import ElementTypings.Proofs.Json.Gives
import ElementTypings.Proofs.Json.Listing
import ElementTypings.Proofs.Json.Literals
import ElementTypings.Proofs.Json.Marking
import ElementTypings.Proofs.Json.Places
import ElementTypings.Proofs.Json.Reads
import ElementTypings.Proofs.Layout.Writing
import ElementTypings.Proofs.ModuleSpecifier.Agreement
import ElementTypings.Proofs.ModuleSpecifier.Extension
import ElementTypings.Proofs.ModuleSpecifier.Sources
import ElementTypings.Proofs.ModuleSpecifier.WayBack
import ElementTypings.Proofs.OrderedMap.Lookup
import ElementTypings.Proofs.Outcome
import ElementTypings.Proofs.Path.Below
import ElementTypings.Proofs.Path.Following
import ElementTypings.Proofs.Path.Host
import ElementTypings.Proofs.Path.NormalForm
import ElementTypings.Proofs.Path.Place
import ElementTypings.Proofs.Path.Route
import ElementTypings.Proofs.Path.Stability
import ElementTypings.Proofs.Path.Tree
import ElementTypings.Proofs.Registry.DistinctTags
import ElementTypings.Proofs.Registry.RepeatedTags
import ElementTypings.Proofs.Registry.RoundTrip
import ElementTypings.Proofs.Registry.Scans
import ElementTypings.Proofs.Registry.TagLiterals
import ElementTypings.Proofs.Registry.Written
import ElementTypings.Proofs.TagName.PascalCase
import ElementTypings.Proofs.Text.Casing
import ElementTypings.Proofs.Text.Position
import ElementTypings.Proofs.Text.Search
import ElementTypings.Proofs.TypeText.Expression
import ElementTypings.Proofs.TypeText.ExpressionScan
import ElementTypings.Proofs.TypeText.Inverse
import ElementTypings.Proofs.TypeText.Lookahead
import ElementTypings.Proofs.TypeText.MemberNames
import ElementTypings.Proofs.TypeText.Opacity
import ElementTypings.Proofs.TypeText.Pieces
import ElementTypings.Proofs.TypeText.Renaming
import ElementTypings.Proofs.TypeText.Scanning
import ElementTypings.Proofs.TypeText.Spread
import ElementTypings.Proofs.TypeText.Substitution
import ElementTypings.Proofs.TypeText.Tokenization
import ElementTypings.Proofs.TypeText.WholeWords
import ElementTypings.Registry
import ElementTypings.Registry.Reading
import ElementTypings.Registry.Writing
import ElementTypings.Report
import ElementTypings.Text.CaseTables
import ElementTypings.Text.Casing
import ElementTypings.Text.Classes
import ElementTypings.Text.Offset
import ElementTypings.Text.Quoted
import ElementTypings.Text.Split
import ElementTypings.Toml.Reader
import ElementTypings.Toml.Scalar
import ElementTypings.Toml.Structure
import ElementTypings.Toml.Value
import ElementTypings.TypeText.Lexeme
import ElementTypings.TypeText.Renaming
