import Provisioning.Command
import Provisioning.Decimal
import Provisioning.ExitStatus
import Provisioning.Failure
import Provisioning.FileTree
import Provisioning.Handover
import Provisioning.Host
import Provisioning.Layout
import Provisioning.Layout.Change
import Provisioning.Layout.Decode
import Provisioning.Layout.Load
import Provisioning.Layout.Validation
import Provisioning.Log
import Provisioning.Log.Filter
import Provisioning.Log.Line
import Provisioning.Log.Pattern
import Provisioning.Main
import Provisioning.Options
import Provisioning.Options.Help
import Provisioning.Path
import Provisioning.Plan
import Provisioning.Process
import Provisioning.Program
import Provisioning.ProjectId
import Provisioning.Proofs.Except
import Provisioning.Proofs.Failure
import Provisioning.Proofs.Files.Resolution
import Provisioning.Proofs.Layout.Decoding
import Provisioning.Proofs.Layout.Overlay
import Provisioning.Proofs.Layout.Overrides
import Provisioning.Proofs.Layout.Texts
import Provisioning.Proofs.Layout.Validity
import Provisioning.Proofs.Layout.Violations
import Provisioning.Proofs.Options.Grammar
import Provisioning.Proofs.Options.LeftToRight
import Provisioning.Proofs.Plan.Dependencies
import Provisioning.Proofs.Plan.NulFree
import Provisioning.Proofs.Plan.Resources
import Provisioning.Proofs.Plan.Shown
import Provisioning.Proofs.Plan.Steps
import Provisioning.Proofs.Plan.ViewQuery
import Provisioning.Proofs.Program.ExitCode
import Provisioning.Proofs.Program.Notices
import Provisioning.Proofs.Program.Passing
import Provisioning.Proofs.Program.Preparation
import Provisioning.Proofs.Program.Printed
import Provisioning.Proofs.Program.Refusal
import Provisioning.Proofs.Program.SchemaDirectory
import Provisioning.Proofs.Program.ToolCheck
import Provisioning.Proofs.Program.ToolLookup
import Provisioning.Proofs.ProjectId
import Provisioning.Proofs.Run.Cleanups
import Provisioning.Proofs.Run.Completion
import Provisioning.Proofs.Run.Finished
import Provisioning.Proofs.Run.History
import Provisioning.Proofs.Run.Logging
import Provisioning.Proofs.Run.Preview
import Provisioning.Proofs.Run.Stopping
import Provisioning.Proofs.Shell.Bare
import Provisioning.Proofs.Shell.ReadBack
import Provisioning.Proofs.Shell.Reading
import Provisioning.Proofs.Text.Quoted
import Provisioning.Proofs.Text.Utf8
import Provisioning.Proofs.Toml.Building
import Provisioning.Proofs.Toml.Grammar
import Provisioning.Proofs.Toml.Lines
import Provisioning.Proofs.Toml.Listing
import Provisioning.Proofs.Toml.Order
import Provisioning.Proofs.Toml.Prefix
import Provisioning.Proofs.Toml.Sections
import Provisioning.Proofs.Toml.Simple
import Provisioning.Proofs.Toml.Sorted
import Provisioning.Proofs.Toml.Spelling
import Provisioning.Proofs.Toml.Writing
import Provisioning.Query
import Provisioning.Rehearsal
import Provisioning.Report
import Provisioning.Run
import Provisioning.SearchPath
import Provisioning.Session
import Provisioning.Shell.Quote
import Provisioning.SystemError
import Provisioning.Text.Alphanumeric
import Provisioning.Text.Blank
import Provisioning.Text.Printable
import Provisioning.Text.Quoted
import Provisioning.Text.Terminal
import Provisioning.Text.Utf8
import Provisioning.Toml.Blank
import Provisioning.Toml.DateTime
import Provisioning.Toml.Document
import Provisioning.Toml.Key
import Provisioning.Toml.Number
import Provisioning.Toml.Quotation
import Provisioning.Toml.Table
import Provisioning.Toml.Value
import Provisioning.Tool
