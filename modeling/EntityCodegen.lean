import EntityCodegen.Command.Arguments
import EntityCodegen.Command.Run
import EntityCodegen.Definition.Component
import EntityCodegen.Definition.Enumeration
import EntityCodegen.Definition.Line
import EntityCodegen.Definition.Schema
import EntityCodegen.Event
import EntityCodegen.Files.Access
import EntityCodegen.Files.Tree
import EntityCodegen.Main
import EntityCodegen.Model.Component
import EntityCodegen.Model.Json
import EntityCodegen.Model.Schema
import EntityCodegen.Output.Code
import EntityCodegen.Output.Component
import EntityCodegen.Output.Enums
import EntityCodegen.Output.Files
import EntityCodegen.Output.Filters
import EntityCodegen.Project.Error
import EntityCodegen.Project.Generation
import EntityCodegen.Project.Settings
import EntityCodegen.Project.Writing
import EntityCodegen.Text.Blank
import EntityCodegen.Text.Quoted
import EntityCodegen.Toml.Item
import EntityCodegen.Toml.Reader
import EntityCodegen.Toml.Scalar
import EntityCodegen.Toml.Text
import EntityCodegen.Traced
import EntityCodegen.Proofs.Command.Agreement
import EntityCodegen.Proofs.Command.Changes
import EntityCodegen.Proofs.Command.Fixpoint
import EntityCodegen.Proofs.Command.Repairing
import EntityCodegen.Proofs.Command.Running
import EntityCodegen.Proofs.Command.Strictness
import EntityCodegen.Proofs.Component.Accesses
import EntityCodegen.Proofs.Component.Consistency
import EntityCodegen.Proofs.Component.Declared
import EntityCodegen.Proofs.Component.Delimiters
import EntityCodegen.Proofs.Component.DisplayName
import EntityCodegen.Proofs.Component.Encoding
import EntityCodegen.Proofs.Component.Linking
import EntityCodegen.Proofs.Component.Reading
import EntityCodegen.Proofs.Component.Refusal
import EntityCodegen.Proofs.Component.Relinking
import EntityCodegen.Proofs.Component.RoundTrip
import EntityCodegen.Proofs.Component.Step
import EntityCodegen.Proofs.Component.Warnings
import EntityCodegen.Proofs.Enumeration.Grammar
import EntityCodegen.Proofs.Enumeration.Lines
import EntityCodegen.Proofs.Enumeration.Lookups
import EntityCodegen.Proofs.Enumeration.Printing
import EntityCodegen.Proofs.Enumeration.Progression
import EntityCodegen.Proofs.Enumeration.Reading
import EntityCodegen.Proofs.Files.Making
import EntityCodegen.Proofs.Files.Parents
import EntityCodegen.Proofs.Files.Ways
import EntityCodegen.Proofs.Output.Enums
import EntityCodegen.Proofs.Output.FileSet
import EntityCodegen.Proofs.Output.Filters
import EntityCodegen.Proofs.Output.Independence
import EntityCodegen.Proofs.Output.Literals
import EntityCodegen.Proofs.Output.Members
import EntityCodegen.Proofs.Output.Sources
import EntityCodegen.Proofs.Output.Switches
import EntityCodegen.Proofs.Project.Batches
import EntityCodegen.Proofs.Project.Comparing
import EntityCodegen.Proofs.Project.Definitions
import EntityCodegen.Proofs.Project.Repairing
import EntityCodegen.Proofs.Project.Selections
import EntityCodegen.Proofs.Result
import EntityCodegen.Proofs.Schema.Addition
import EntityCodegen.Proofs.Schema.Layout
import EntityCodegen.Proofs.Schema.Order
import EntityCodegen.Proofs.Schema.Reading
import EntityCodegen.Proofs.Schema.Refusal
import EntityCodegen.Proofs.Schema.Strictness
import EntityCodegen.Proofs.Schema.Warnings
import EntityCodegen.Proofs.Schema.WireIds
import EntityCodegen.Proofs.Text.Layout
import EntityCodegen.Proofs.Text.Lines
import EntityCodegen.Proofs.Text.Tokens
