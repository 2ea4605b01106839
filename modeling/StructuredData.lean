import StructuredData.Archive
import StructuredData.Batch
import StructuredData.Check.Basic
import StructuredData.Check.Content
import StructuredData.Check.Datatypes
import StructuredData.Check.Keywords
import StructuredData.Check.Requirements
import StructuredData.Check.TypeSpecific
import StructuredData.Collector
import StructuredData.CommandLine.Arguments
import StructuredData.CommandLine.Footprint
import StructuredData.CommandLine.Options
import StructuredData.CommandLine.Session
import StructuredData.Document
import StructuredData.Failure
import StructuredData.Files.Filing
import StructuredData.Files.Path
import StructuredData.Files.Pieces
import StructuredData.Files.Reading
import StructuredData.Files.Tree
import StructuredData.Finding
import StructuredData.Format
import StructuredData.Json.Reader
import StructuredData.Json.Token
import StructuredData.Json.Value
import StructuredData.Json.Writer
import StructuredData.KnownType
import StructuredData.Log
import StructuredData.Main
import StructuredData.Moment
import StructuredData.Number.Basic
import StructuredData.Number.Binary64
import StructuredData.Number.Reading
import StructuredData.Number.Shortest
import StructuredData.Page.Relations
import StructuredData.Page.Report
import StructuredData.Pool
import StructuredData.Report.Console
import StructuredData.Report.Html
import StructuredData.Report.Markdown
import StructuredData.Report.Rendering
import StructuredData.Requirement.Basic
import StructuredData.Requirement.File
import StructuredData.Requirement.Reader
import StructuredData.Requirement.Table
import StructuredData.RunName
import StructuredData.Service
import StructuredData.Submission
import StructuredData.Text.Basic
import StructuredData.Text.Blank
import StructuredData.Text.Casing
import StructuredData.Text.Digit
import StructuredData.Text.Lowercase
import StructuredData.Text.Pattern
import StructuredData.Text.Printable
import StructuredData.Text.Quoted
import StructuredData.Text.Utf8
import StructuredData.Thresholds.Basic
import StructuredData.Thresholds.File
import StructuredData.Thresholds.Reading
import StructuredData.Validator
import StructuredData.Validator.Trace
import StructuredData.Verdict
import StructuredData.Yaml.Cursor
import StructuredData.Yaml.Data
import StructuredData.Yaml.Kind
import StructuredData.Yaml.Lexeme
import StructuredData.Yaml.Merge
import StructuredData.Yaml.Node
import StructuredData.Yaml.Object
import StructuredData.Yaml.Reading
import StructuredData.Yaml.Scalar
import StructuredData.Yaml.Source
import StructuredData.Yaml.Token
import StructuredData.Proofs.Outcome
import StructuredData.Proofs.Pool
import StructuredData.Proofs.Check.Rating
import StructuredData.Proofs.Check.Requirements
import StructuredData.Proofs.Json.Nesting
import StructuredData.Proofs.Validator.Totality
import StructuredData.Proofs.Check.Errors
import StructuredData.Proofs.Json.Member
import StructuredData.Proofs.Validator.Conformance
import StructuredData.Proofs.Validator.Validity
import StructuredData.Proofs.CommandLine.Session
import StructuredData.Proofs.Page.Aggregation
import StructuredData.Proofs.CommandLine.PageVerdict
import StructuredData.Proofs.Files.JsonFiles
import StructuredData.Proofs.CommandLine.Loading
import StructuredData.Proofs.Json.DistinctNames
import StructuredData.Proofs.Json.Reordering
import StructuredData.Proofs.Validator.MemberOrder
import StructuredData.Proofs.Page.DocumentOrder
import StructuredData.Proofs.Validator.DeclaredLabel
import StructuredData.Proofs.Check.Permissive
import StructuredData.Proofs.CommandLine.ExitCode
import StructuredData.Proofs.Page.PassedOver
import StructuredData.Proofs.CommandLine.StandardOutput
import StructuredData.Proofs.Archive.Runs
import StructuredData.Proofs.Archive.Contents
import StructuredData.Proofs.Thresholds.Saving
import StructuredData.Proofs.Thresholds.Loaders
import StructuredData.Proofs.Report.Markup
import StructuredData.Proofs.CommandLine.Rejection
import StructuredData.Proofs.Validator.Workers
import StructuredData.Proofs.Service.Binding
import StructuredData.Proofs.Format.Strict
import StructuredData.Proofs.Batch.Inline
import StructuredData.Proofs.Format.Addresses
import StructuredData.Proofs.Format.Numbers
import StructuredData.Proofs.Check.Elements
import StructuredData.Proofs.Page.Backing
import StructuredData.Proofs.Requirement.Entries
import StructuredData.Proofs.Requirement.WellFormed
import StructuredData.Proofs.Requirement.Keeping
import StructuredData.Proofs.Check.Names
import StructuredData.Proofs.Text.Blanks
import StructuredData.Proofs.Validator.UnknownMember
import StructuredData.Proofs.Files.Pieces
import StructuredData.Proofs.Requirement.Loading
import StructuredData.Proofs.Text.Words
import StructuredData.Proofs.Check.Stuffing
import StructuredData.Proofs.Page.Advice
import StructuredData.Proofs.Archive.SafeNames
import StructuredData.Proofs.Validator.Collecting
import StructuredData.Proofs.Collector
import StructuredData.Proofs.Text.Parts
import StructuredData.Proofs.Json.DottedPath
import StructuredData.Proofs.Archive.DocumentFiles
