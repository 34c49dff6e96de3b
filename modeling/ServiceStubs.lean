import ServiceStubs.Code.Description
import ServiceStubs.Code.Expression
import ServiceStubs.Code.Layout
import ServiceStubs.Code.Literal
import ServiceStubs.CommandLine
import ServiceStubs.Config
import ServiceStubs.Declaration
import ServiceStubs.Descriptor
import ServiceStubs.Double
import ServiceStubs.Failure
import ServiceStubs.FileTree
import ServiceStubs.Generate
import ServiceStubs.Main
import ServiceStubs.Model
import ServiceStubs.Name
import ServiceStubs.Notice
import ServiceStubs.Path
import ServiceStubs.Path.Reference
import ServiceStubs.Pattern
import ServiceStubs.Program
import ServiceStubs.Proofs.Code.Literal
import ServiceStubs.Proofs.Code.LongLiteral
import ServiceStubs.Proofs.Code.WrittenLiteral
import ServiceStubs.Proofs.CommandLine
import ServiceStubs.Proofs.Descriptor
import ServiceStubs.Proofs.Descriptor.Flattening
import ServiceStubs.Proofs.FileTree.Growth
import ServiceStubs.Proofs.FileTree.Lookup
import ServiceStubs.Proofs.FileTree.Order
import ServiceStubs.Proofs.Generate.Action
import ServiceStubs.Proofs.Generate.Effects
import ServiceStubs.Proofs.Generate.Embedding
import ServiceStubs.Proofs.Generate.Modelling
import ServiceStubs.Proofs.Generate.Order
import ServiceStubs.Proofs.Generate.WellFormed
import ServiceStubs.Proofs.Model.Files
import ServiceStubs.Proofs.Model.Folding
import ServiceStubs.Proofs.Model.Routing
import ServiceStubs.Proofs.Name
import ServiceStubs.Proofs.Name.Attribute
import ServiceStubs.Proofs.Name.Canonical
import ServiceStubs.Proofs.Name.Identifier
import ServiceStubs.Proofs.Name.Words
import ServiceStubs.Proofs.Path.Containment
import ServiceStubs.Proofs.Path.Directory
import ServiceStubs.Proofs.Path.Place
import ServiceStubs.Proofs.Path.Reference
import ServiceStubs.Proofs.Path.Respelling
import ServiceStubs.Proofs.Pattern.Expansion
import ServiceStubs.Proofs.Pattern.Matching
import ServiceStubs.Proofs.Pattern.Meaning
import ServiceStubs.Proofs.Schema.Order
import ServiceStubs.Proofs.Sources.Collection
import ServiceStubs.Proofs.Sources.Finding
import ServiceStubs.Proofs.Sources.FirstWays
import ServiceStubs.Proofs.Sources.Order
import ServiceStubs.Proofs.Sources.Recursion
import ServiceStubs.Proofs.Sources.References
import ServiceStubs.Proofs.StubModule.Attributes
import ServiceStubs.Proofs.StubModule.Calls
import ServiceStubs.Proofs.StubModule.Classes
import ServiceStubs.Proofs.StubModule.Faithful
import ServiceStubs.Proofs.StubModule.Lines
import ServiceStubs.Proofs.StubModule.Quoting
import ServiceStubs.Proofs.Text.Newline
import ServiceStubs.Proofs.Text.Quoted
import ServiceStubs.Proofs.Text.Split
import ServiceStubs.Proofs.Text.Upper
import ServiceStubs.Proofs.Text.Utf8
import ServiceStubs.Schema.Block
import ServiceStubs.Schema.Catalog
import ServiceStubs.Schema.Context
import ServiceStubs.Schema.Features
import ServiceStubs.Schema.Grammar
import ServiceStubs.Schema.Include
import ServiceStubs.Schema.Library
import ServiceStubs.Schema.Naming
import ServiceStubs.Schema.Options
import ServiceStubs.Schema.Record
import ServiceStubs.Schema.Rules
import ServiceStubs.Schema.Rules.Declared
import ServiceStubs.Schema.Rules.Field
import ServiceStubs.Schema.Rules.Number
import ServiceStubs.Schema.Symbol
import ServiceStubs.Schema.Token
import ServiceStubs.Schema.Tree
import ServiceStubs.Schema.WellKnown
import ServiceStubs.Schema.WellKnown.Builder
import ServiceStubs.Schema.WellKnown.Description
import ServiceStubs.Signature
import ServiceStubs.Sources
import ServiceStubs.StubModule
import ServiceStubs.StubModule.Layout
import ServiceStubs.Text.CharacterName
import ServiceStubs.Text.CharacterName.Table
import ServiceStubs.Text.Digit
import ServiceStubs.Text.Encoding
import ServiceStubs.Text.Newline
import ServiceStubs.Text.Printable
import ServiceStubs.Text.Quoted
import ServiceStubs.Text.Split
import ServiceStubs.Text.Upper
import ServiceStubs.Text.Utf8
import ServiceStubs.Text.Width
import ServiceStubs.Value
