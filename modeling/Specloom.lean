import Specloom.Name
import Specloom.Route.Basic
import Specloom.Route.Pattern
import Specloom.Text.Digest
import Specloom.Text.Quoted
import Specloom.Text.Utf8
import Specloom.Text.Decimal
import Specloom.Text.Shown
import Specloom.Json.Tree
import Specloom.Json.Decode
import Specloom.Document.Datatype
import Specloom.Datatype.GoType
import Specloom.Datatype.TsType
import Specloom.Datatype.Flatten
import Specloom.Document.Types
import Specloom.Document.Events
import Specloom.Document.Commands
import Specloom.Document.UiRoutes
import Specloom.Regex.Folding
import Specloom.Regex.Category
import Specloom.Regex.Script
import Specloom.Regex.Property
import Specloom.Regex.Parser
import Specloom.Regex.CharSet
import Specloom.Regex.Pattern
import Specloom.Regex.Match
import Specloom.Text.Blank
import Specloom.Template.Parser
import Specloom.Enum
import Specloom.Module.Basic
import Specloom.Error
import Specloom.Datatype.Texts
import Specloom.Command.Widget
import Specloom.FileTree.Publish
import Specloom.Config
import Specloom.Module.Load
import Specloom.Context.Module
import Specloom.Run
import Specloom.Proofs.Route.RoundTrip
import Specloom.Proofs.Text.Utf8
import Specloom.Proofs.Context.Shape
import Specloom.Proofs.Datatype.Mentions
import Specloom.Proofs.Module.Loaded
import Specloom.Proofs.Module.References
import Specloom.Proofs.Output.Rendered
import Specloom.Proofs.Output.Run
import Specloom.Proofs.Command.GoValidation
import Specloom.Proofs.Context.Imports
import Specloom.Proofs.Module.Extension
import Specloom.Proofs.FileTree.Publish
import Specloom.Proofs.Output.Published
import Specloom.Proofs.Route.Table
import Specloom.Proofs.Path.Grammar
import Specloom.Proofs.Datatype.Within
import Specloom.Proofs.Path.GoUrl
import Specloom.Proofs.Template.Parts
import Specloom.Proofs.Context.Needs
import Specloom.Proofs.Output.Imports
import Specloom.Proofs.Text.Reader
import Specloom.Proofs.Datatype.Forms
import Specloom.Regex.Capture
import Specloom.Proofs.Route.Decomposition
import Specloom.Proofs.Route.Matcher
import Specloom.Proofs.FileTree.Settled
import Specloom.Proofs.Output.Rerun
import Specloom.Proofs.FileTree.Place
import Specloom.Proofs.Output.Places
import Specloom.Proofs.Output.GoDeclared
import Specloom.Proofs.Output.GoNames
import Specloom.Proofs.Datatype.Flatten
import Specloom.Proofs.Route.Request
import Specloom.Proofs.Command.Payload
import Specloom.Proofs.Datatype.OfDocument
import Specloom.Proofs.Json.Tokens
import Specloom.Proofs.Document.Datatype
import Specloom.Proofs.Path.UrlForms
import Specloom.Proofs.Route.Literal
import Specloom.Proofs.Text.Quoted
import Specloom.Proofs.Route.Spelling
import Specloom.Proofs.Context.CommandImports
import Specloom.Proofs.Module.Names
import Specloom.Proofs.Context.FieldNames
import Specloom.Proofs.Context.SelfImports
import Specloom.Proofs.Output.LocalImports
import Specloom.Proofs.Text.Case
import Specloom.Proofs.Context.EventParams
import Specloom.Proofs.Context.EndpointParams
import Specloom.Proofs.Enum.Digest
import Specloom.Proofs.Output.Comments
import Specloom.Proofs.Path.Tokenisation
import Specloom.Proofs.Module.TypeNames
