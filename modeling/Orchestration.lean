import Orchestration.CommandLine.Invocation
import Orchestration.CommandLine.Options
import Orchestration.CommandLine.Report
import Orchestration.CommandLine.Run
import Orchestration.Decode.Fault
import Orchestration.Decode.Source
import Orchestration.Disk.Basic
import Orchestration.Disk.Fault
import Orchestration.Disk.Path
import Orchestration.Document
import Orchestration.Engine.Alias
import Orchestration.Engine.Launch
import Orchestration.Engine.Reference
import Orchestration.Engine.Resolver
import Orchestration.Engine.Session
import Orchestration.Json.Literal
import Orchestration.Json.Print
import Orchestration.Json.Source
import Orchestration.Json.Text
import Orchestration.Json.Value
import Orchestration.KeyMap
import Orchestration.Main
import Orchestration.Number.Double
import Orchestration.Number.Shortest
import Orchestration.Project.Build
import Orchestration.Project.Config
import Orchestration.Project.Create
import Orchestration.Project.Delete
import Orchestration.Project.Engines
import Orchestration.Project.Error
import Orchestration.Project.Load
import Orchestration.Project.Serve
import Orchestration.Project.Stage
import Orchestration.Project.Teardown
import Orchestration.Project.TestId
import Orchestration.Project.World
import Orchestration.Rpc.Client
import Orchestration.Rpc.Error
import Orchestration.Rpc.Message
import Orchestration.Rpc.Server
import Orchestration.Shell.Format
import Orchestration.Shell.Job
import Orchestration.Shell.Machine
import Orchestration.Shell.Pattern
import Orchestration.Shell.Run
import Orchestration.Shell.Script
import Orchestration.Shell.Utility
import Orchestration.Shell.Word
import Orchestration.Store.Error
import Orchestration.Store.File
import Orchestration.Store.Memory
import Orchestration.Store.Operation
import Orchestration.Store.Record
import Orchestration.Text.Blank
import Orchestration.Text.Printable
import Orchestration.Text.Quoted
import Orchestration.Text.Raw
import Orchestration.Text.Split
import Orchestration.Timestamp
import Orchestration.Yaml.Cursor
import Orchestration.Yaml.Layout
import Orchestration.Yaml.Node
import Orchestration.Yaml.Property
import Orchestration.Yaml.Resolve
import Orchestration.Yaml.Scalar
import Orchestration.Yaml.Source
import Orchestration.Yaml.Tag
import Orchestration.Yaml.Token
import Orchestration.Yaml.Value
import Orchestration.Proofs.Conversation
import Orchestration.Proofs.StoreView
import Orchestration.Proofs.Scripted
import Orchestration.Proofs.Teardown
import Orchestration.Proofs.Replies
import Orchestration.Proofs.Creation
import Orchestration.Proofs.Paths
import Orchestration.Proofs.Walks
import Orchestration.Proofs.Files
import Orchestration.Proofs.FileView
import Orchestration.Proofs.Atomicity
import Orchestration.Proofs.Identifiers
import Orchestration.Proofs.Runs
import Orchestration.Proofs.RunHistories
import Orchestration.Proofs.Mirroring
import Orchestration.Proofs.Packages
import Orchestration.Proofs.Digits
import Orchestration.Proofs.Instants
import Orchestration.Proofs.Literals
import Orchestration.Proofs.Spelling
import Orchestration.Proofs.Bytes
import Orchestration.Proofs.Fields
import Orchestration.Proofs.Records
import Orchestration.Proofs.StoreSession
import Orchestration.Proofs.Removal
import Orchestration.Proofs.FileRecording
import Orchestration.Proofs.Deletion
import Orchestration.Proofs.Rollback
import Orchestration.Proofs.FieldOrder
import Orchestration.Proofs.Values
import Orchestration.Proofs.Lines
import Orchestration.Proofs.Frames
import Orchestration.Proofs.Waiting
import Orchestration.Proofs.Sessions
import Orchestration.Proofs.Insertions
import Orchestration.Proofs.Serving
import Orchestration.Proofs.Agreement
import Orchestration.Proofs.Failures
import Orchestration.Proofs.Histories
import Orchestration.Proofs.StoreGuarantees
import Orchestration.Proofs.StoreLogs
import Orchestration.Proofs.Frame
import Orchestration.Proofs.Standing
import Orchestration.Proofs.BrokenLines
import Orchestration.Proofs.Building
import Orchestration.Proofs.ProjectBuilds
import Orchestration.Proofs.Transcripts
import Orchestration.Proofs.RemoteWork
import Orchestration.Proofs.References
import Orchestration.Proofs.Validation
import Orchestration.Proofs.Resolution
import Orchestration.Proofs.Directories
import Orchestration.Proofs.Commuting
import Orchestration.Proofs.ArtifactData
import Orchestration.Proofs.Releasing
import Orchestration.Proofs.Discarding
import Orchestration.Proofs.Declarations
import Orchestration.Proofs.Places
import Orchestration.Proofs.Installing
import Orchestration.Proofs.NonObjects
import Orchestration.Proofs.Merging
import Orchestration.Proofs.Namesakes
import Orchestration.Proofs.Referring
import Orchestration.Proofs.ProjectStore
