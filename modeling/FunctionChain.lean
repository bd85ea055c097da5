import FunctionChain.Archive.JobRecord
import FunctionChain.Archive.Reading
import FunctionChain.Archive.Store
import FunctionChain.Association
import FunctionChain.Build.Cache
import FunctionChain.Build.Database
import FunctionChain.Build.Journal
import FunctionChain.Build.Launch
import FunctionChain.Build.Machine
import FunctionChain.Build.Run
import FunctionChain.Build.Stage
import FunctionChain.Build.Toolchain
import FunctionChain.Build.Workspace
import FunctionChain.Command.Arguments
import FunctionChain.Command.Catalog
import FunctionChain.Command.Completion
import FunctionChain.Command.Configuration
import FunctionChain.Command.Exit
import FunctionChain.Command.Flag
import FunctionChain.Command.Help
import FunctionChain.Command.Inspect
import FunctionChain.Command.Library
import FunctionChain.Command.Run
import FunctionChain.Command.Session
import FunctionChain.Command.Standard
import FunctionChain.Command.Work
import FunctionChain.Digest.Sha256
import FunctionChain.Document.Call
import FunctionChain.Document.Load
import FunctionChain.Document.Overflow
import FunctionChain.Document.Wire
import FunctionChain.Failure.Error
import FunctionChain.Failure.Record
import FunctionChain.Files.Action
import FunctionChain.Files.Fault
import FunctionChain.Files.Path
import FunctionChain.Files.Tree
import FunctionChain.Job.Local
import FunctionChain.Job.Result
import FunctionChain.Job.Service
import FunctionChain.Json.Decode
import FunctionChain.Json.Scan
import FunctionChain.Json.Unquoted
import FunctionChain.Json.Written
import FunctionChain.Log.Entry
import FunctionChain.Log.Level
import FunctionChain.Main
import FunctionChain.Metrics.Basic
import FunctionChain.Program.Source
import FunctionChain.Proofs.Archive.Codec
import FunctionChain.Proofs.Archive.Confined
import FunctionChain.Proofs.Archive.Finished
import FunctionChain.Proofs.Archive.History
import FunctionChain.Proofs.Archive.Listing
import FunctionChain.Proofs.Archive.Rejected
import FunctionChain.Proofs.Archive.RoundTrip
import FunctionChain.Proofs.Archive.Saving
import FunctionChain.Proofs.Archive.Strict
import FunctionChain.Proofs.Build.Absolute
import FunctionChain.Proofs.Build.CacheFiles
import FunctionChain.Proofs.Build.CacheKey
import FunctionChain.Proofs.Build.CacheTransparency
import FunctionChain.Proofs.Build.Duties
import FunctionChain.Proofs.Build.Effects
import FunctionChain.Proofs.Build.Failures
import FunctionChain.Proofs.Build.Interchange
import FunctionChain.Proofs.Build.Leftovers
import FunctionChain.Proofs.Build.Noninterference
import FunctionChain.Proofs.Build.TraceLanguage
import FunctionChain.Proofs.Command.Ending
import FunctionChain.Proofs.Command.RunEnvironment
import FunctionChain.Proofs.Document.Language
import FunctionChain.Proofs.Document.Layers
import FunctionChain.Proofs.Document.Meaning
import FunctionChain.Proofs.Document.Reading
import FunctionChain.Proofs.Document.RoundTrip
import FunctionChain.Proofs.Document.Tree
import FunctionChain.Proofs.Failure.Classify
import FunctionChain.Proofs.Failure.Priority
import FunctionChain.Proofs.Failure.Search
import FunctionChain.Proofs.Failure.Sound
import FunctionChain.Proofs.Failure.Validity
import FunctionChain.Proofs.Files.Changes
import FunctionChain.Proofs.Files.Directory
import FunctionChain.Proofs.Files.Onward
import FunctionChain.Proofs.Files.Path
import FunctionChain.Proofs.Files.Region
import FunctionChain.Proofs.Files.Shelf
import FunctionChain.Proofs.Files.Tree
import FunctionChain.Proofs.Files.Writing
import FunctionChain.Proofs.Job.Archived
import FunctionChain.Proofs.Job.Calls
import FunctionChain.Proofs.Job.Consistency
import FunctionChain.Proofs.Job.Endings
import FunctionChain.Proofs.Job.Leftovers
import FunctionChain.Proofs.Job.Rearchived
import FunctionChain.Proofs.Job.Sequential
import FunctionChain.Proofs.Job.Slots
import FunctionChain.Proofs.Job.Verdicts
import FunctionChain.Proofs.Json.Completeness
import FunctionChain.Proofs.Json.Grammar
import FunctionChain.Proofs.Json.Soundness
import FunctionChain.Proofs.Json.Written
import FunctionChain.Proofs.Program.Rendering
import FunctionChain.Proofs.Reference.Numeral
import FunctionChain.Proofs.Reference.Resolved
import FunctionChain.Proofs.Reference.Strict
import FunctionChain.Proofs.Text.Cutting
import FunctionChain.Proofs.Text.Decimal
import FunctionChain.Proofs.Text.Utf8
import FunctionChain.Proofs.Time.Calendar
import FunctionChain.Proofs.Time.Timestamp
import FunctionChain.Proofs.Trace.Canonical
import FunctionChain.Proofs.Trace.Recording
import FunctionChain.Reference.Environment
import FunctionChain.Reference.Resolve
import FunctionChain.Reference.Token
import FunctionChain.Script.Arithmetic
import FunctionChain.Script.Builtin
import FunctionChain.Script.Condition
import FunctionChain.Script.Editing
import FunctionChain.Script.Expression
import FunctionChain.Script.Fields
import FunctionChain.Script.Filter
import FunctionChain.Script.Flaw
import FunctionChain.Script.Format
import FunctionChain.Script.Fraction
import FunctionChain.Script.Gather
import FunctionChain.Script.Numeral
import FunctionChain.Script.Order
import FunctionChain.Script.Parse
import FunctionChain.Script.Pattern
import FunctionChain.Script.Regex
import FunctionChain.Script.Run
import FunctionChain.Script.Signal
import FunctionChain.Script.State
import FunctionChain.Script.Stream
import FunctionChain.Script.Syntax
import FunctionChain.Script.System
import FunctionChain.Script.Utility
import FunctionChain.Server.Address
import FunctionChain.Server.Handle
import FunctionChain.Server.Host
import FunctionChain.Server.Message
import FunctionChain.Server.Route
import FunctionChain.Settings.Character
import FunctionChain.Settings.EnvFile
import FunctionChain.Settings.File
import FunctionChain.Settings.Hcl.Document
import FunctionChain.Settings.Hcl.Lexer
import FunctionChain.Settings.Hcl.Node
import FunctionChain.Settings.Hcl.Token
import FunctionChain.Settings.IniFile
import FunctionChain.Settings.Inspect
import FunctionChain.Settings.JsonFile
import FunctionChain.Settings.PropertiesFile
import FunctionChain.Settings.Toml.Document
import FunctionChain.Settings.Toml.Lexer
import FunctionChain.Settings.Toml.Token
import FunctionChain.Settings.Toml.Tree
import FunctionChain.Settings.Value
import FunctionChain.Settings.Yaml.Document
import FunctionChain.Settings.Yaml.Lexer
import FunctionChain.Settings.Yaml.Meaning
import FunctionChain.Settings.Yaml.Node
import FunctionChain.Settings.Yaml.Problem
import FunctionChain.Settings.Yaml.Scalar
import FunctionChain.Settings.Yaml.Source
import FunctionChain.Settings.Yaml.Stream
import FunctionChain.Settings.Yaml.Tag
import FunctionChain.Settings.Yaml.Token
import FunctionChain.Text.Base64
import FunctionChain.Text.Blank
import FunctionChain.Text.Bytes
import FunctionChain.Text.Columns
import FunctionChain.Text.Csv
import FunctionChain.Text.Decimal
import FunctionChain.Text.Double
import FunctionChain.Text.EditDistance
import FunctionChain.Text.Integer
import FunctionChain.Text.Letter
import FunctionChain.Text.LetterCase
import FunctionChain.Text.Printable
import FunctionChain.Text.Quoted
import FunctionChain.Text.Utf8
import FunctionChain.Time.Calendar
import FunctionChain.Time.Duration
import FunctionChain.Time.Relative
import FunctionChain.Time.Timestamp
import FunctionChain.Trace.Basic
import FunctionChain.Trace.Recorder
