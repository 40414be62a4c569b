import WorkDepot.Bytes
import WorkDepot.CommandLine.Arguments
import WorkDepot.CommandLine.Command
import WorkDepot.CommandLine.Report
import WorkDepot.CommandLine.Result
import WorkDepot.CommandLine.Run
import WorkDepot.Config.File
import WorkDepot.Config.Load
import WorkDepot.Config.Settings
import WorkDepot.Depot
import WorkDepot.Digest.Algorithm
import WorkDepot.Digest.Blake3
import WorkDepot.Digest.Sha2
import WorkDepot.Event
import WorkDepot.FileSystem.Basic
import WorkDepot.FileSystem.Fault
import WorkDepot.FileSystem.Operations
import WorkDepot.Helper
import WorkDepot.Json.Choice
import WorkDepot.Json.Object
import WorkDepot.Json.Quoted
import WorkDepot.Log.Filter
import WorkDepot.Main
import WorkDepot.Metrics.Counters
import WorkDepot.Metrics.Registries
import WorkDepot.Path
import WorkDepot.Placement.Hashed
import WorkDepot.Placement.Oracle
import WorkDepot.Proofs.CommandLine.Agreement
import WorkDepot.Proofs.CommandLine.ExitCode
import WorkDepot.Proofs.CommandLine.Perform
import WorkDepot.Proofs.CommandLine.Printed
import WorkDepot.Proofs.CommandLine.Project
import WorkDepot.Proofs.Config.Blank
import WorkDepot.Proofs.Config.Digests
import WorkDepot.Proofs.Config.Growth
import WorkDepot.Proofs.Config.Mode
import WorkDepot.Proofs.Config.Overlay
import WorkDepot.Proofs.Config.Usable
import WorkDepot.Proofs.Digest.Fingerprint
import WorkDepot.Proofs.FileSystem.Directories
import WorkDepot.Proofs.FileSystem.Making
import WorkDepot.Proofs.FileSystem.Named
import WorkDepot.Proofs.FileSystem.Nodes
import WorkDepot.Proofs.FileSystem.Places
import WorkDepot.Proofs.FileSystem.Walk
import WorkDepot.Proofs.FileSystem.Ways
import WorkDepot.Proofs.Helper.Outcome
import WorkDepot.Proofs.Helper.Script
import WorkDepot.Proofs.Json.Object
import WorkDepot.Proofs.Metrics.Conservation
import WorkDepot.Proofs.Metrics.Counts
import WorkDepot.Proofs.Metrics.Exposition
import WorkDepot.Proofs.Metrics.Histories
import WorkDepot.Proofs.Metrics.Ledger
import WorkDepot.Proofs.Metrics.Registries
import WorkDepot.Proofs.Path
import WorkDepot.Proofs.Placement.Answer
import WorkDepot.Proofs.Placement.Download
import WorkDepot.Proofs.Placement.Hashed
import WorkDepot.Proofs.Placement.Lookup
import WorkDepot.Proofs.Placement.Program
import WorkDepot.Proofs.Placement.Relative
import WorkDepot.Proofs.Session
import WorkDepot.Proofs.Staging.Advances
import WorkDepot.Proofs.Staging.Atomicity
import WorkDepot.Proofs.Staging.Bindings
import WorkDepot.Proofs.Staging.Confinement
import WorkDepot.Proofs.Staging.Faults
import WorkDepot.Proofs.Staging.Interleaving
import WorkDepot.Proofs.Staging.Names
import WorkDepot.Proofs.Staging.Order
import WorkDepot.Proofs.Staging.Placement
import WorkDepot.Proofs.Staging.Rivals
import WorkDepot.Proofs.Staging.Stage
import WorkDepot.Proofs.Staging.Steps
import WorkDepot.Proofs.Staging.Verdict
import WorkDepot.Proofs.Staging.WriteOnce
import WorkDepot.Proofs.Submission.Course
import WorkDepot.Proofs.Submission.Handover
import WorkDepot.Proofs.Submission.IdLine
import WorkDepot.Proofs.Submission.Lines
import WorkDepot.Proofs.Submission.Naming
import WorkDepot.Proofs.Submission.Perform
import WorkDepot.Proofs.Submission.Refusal
import WorkDepot.Proofs.Submission.Report
import WorkDepot.Proofs.Submission.Resubmission
import WorkDepot.Proofs.Submission.Written
import WorkDepot.Proofs.Text.Cut
import WorkDepot.Proofs.Text.Hexadecimal
import WorkDepot.Proofs.Text.Number
import WorkDepot.Proofs.Text.Order
import WorkDepot.Proofs.Text.Trim
import WorkDepot.Proofs.Text.Utf8
import WorkDepot.Staging.Place
import WorkDepot.Staging.Stage
import WorkDepot.Submission.IdLine
import WorkDepot.Submission.Kind
import WorkDepot.Submission.Request
import WorkDepot.Submission.Submit
import WorkDepot.Submission.Tool
import WorkDepot.Text.Alphanumeric
import WorkDepot.Text.Basic
import WorkDepot.Text.GraphemeExtend
import WorkDepot.Text.Number
import WorkDepot.Text.Printable
import WorkDepot.Text.Quoted
import WorkDepot.Text.Utf8
import WorkDepot.Yaml.Cursor
import WorkDepot.Yaml.Mapping
import WorkDepot.Yaml.Scalar
import WorkDepot.Yaml.Token
