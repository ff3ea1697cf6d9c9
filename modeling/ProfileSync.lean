import ProfileSync.Check.Compare
import ProfileSync.Check.Logged
import ProfileSync.Check.Mismatch
import ProfileSync.Check.Selection
import ProfileSync.Check.Validation
import ProfileSync.Command.Argument
import ProfileSync.Command.Request
import ProfileSync.Command.Run
import ProfileSync.Command.Usage
import ProfileSync.Config
import ProfileSync.Declared
import ProfileSync.Failure
import ProfileSync.Files.Basic
import ProfileSync.Files.Edit
import ProfileSync.Files.Fault
import ProfileSync.Log
import ProfileSync.Main
import ProfileSync.Paths
import ProfileSync.Pattern.Basic
import ProfileSync.Pattern.CharClass
import ProfileSync.Pattern.Property
import ProfileSync.Pattern.Reading
import ProfileSync.Profile.Basic
import ProfileSync.Profile.Cursor
import ProfileSync.Profile.Reading
import ProfileSync.Shape
import ProfileSync.Source.File
import ProfileSync.Source.Grammar.Attribute
import ProfileSync.Source.Grammar.Basic
import ProfileSync.Source.Grammar.Bound
import ProfileSync.Source.Grammar.Expression
import ProfileSync.Source.Grammar.Item
import ProfileSync.Source.Grammar.Path
import ProfileSync.Source.Grammar.Pattern
import ProfileSync.Source.Grammar.Type
import ProfileSync.Source.Identifier
import ProfileSync.Source.Lexeme
import ProfileSync.Source.Token
import ProfileSync.Source.Tree
import ProfileSync.Text.Binary64
import ProfileSync.Text.Blank
import ProfileSync.Text.CharSet
import ProfileSync.Text.Digits
import ProfileSync.Text.Quoted
import ProfileSync.Text.Shown
import ProfileSync.Text.Terminal
import ProfileSync.Text.Unicode.Age
import ProfileSync.Text.Unicode.Break
import ProfileSync.Text.Unicode.CaseFolding
import ProfileSync.Text.Unicode.Category
import ProfileSync.Text.Unicode.Lowercase
import ProfileSync.Text.Unicode.Property
import ProfileSync.Text.Unicode.Script
import ProfileSync.Text.Unicode.ScriptExtension
import ProfileSync.Text.Unicode.Table
import ProfileSync.Toml.Document
import ProfileSync.Toml.Scalar
import ProfileSync.Toml.Value
import ProfileSync.Yaml.Cursor
import ProfileSync.Yaml.Document
import ProfileSync.Yaml.Node
import ProfileSync.Yaml.Scalar
import ProfileSync.Yaml.Token
import ProfileSync.Yaml.Value
import ProfileSync.Proofs.Declared
import ProfileSync.Proofs.Changes
import ProfileSync.Proofs.Cursor
import ProfileSync.Proofs.Flattening
import ProfileSync.Proofs.Truncation
import ProfileSync.Proofs.Comparison
import ProfileSync.Proofs.Satisfaction
import ProfileSync.Proofs.Regrouping
import ProfileSync.Proofs.Mirror
import ProfileSync.Proofs.Files
import ProfileSync.Proofs.Orderings
import ProfileSync.Proofs.Walk
import ProfileSync.Proofs.Frame
import ProfileSync.Proofs.Directory
import ProfileSync.Proofs.Messages
import ProfileSync.Proofs.FirstFailure
import ProfileSync.Proofs.Verdict
import ProfileSync.Proofs.LookUp
import ProfileSync.Proofs.Sources
import ProfileSync.Proofs.Grammar
import ProfileSync.Proofs.Items
import ProfileSync.Proofs.Places
import ProfileSync.Proofs.Edit
import ProfileSync.Proofs.Spelling
import ProfileSync.Proofs.Verbosity
import ProfileSync.Proofs.Naming
import ProfileSync.Proofs.Content
import ProfileSync.Proofs.Entries
import ProfileSync.Proofs.Repetition
import ProfileSync.Proofs.Rewriting
import ProfileSync.Proofs.Repair
import ProfileSync.Proofs.Narrowing
import ProfileSync.Proofs.Arguments
import ProfileSync.Proofs.Stages
import ProfileSync.Proofs.Targets
import ProfileSync.Proofs.Requests
import ProfileSync.Proofs.Kinds
import ProfileSync.Proofs.Sameness
import ProfileSync.Proofs.Matching
import ProfileSync.Proofs.Recognition
import ProfileSync.Proofs.Lines
import ProfileSync.Proofs.Heads
import ProfileSync.Proofs.Meeting
import ProfileSync.Proofs.Orderly
import ProfileSync.Proofs.LineOrder
import ProfileSync.Proofs.Quotation
import ProfileSync.Proofs.Reports
