import SymbolIndex.Batch
import SymbolIndex.CommandLine.Run
import SymbolIndex.CommandLine.Usage
import SymbolIndex.Digest.Sha256
import SymbolIndex.Fault.Basic
import SymbolIndex.Fault.Breakdown
import SymbolIndex.Fault.Io
import SymbolIndex.Host
import SymbolIndex.Index.Basic
import SymbolIndex.Index.Options
import SymbolIndex.Json.Basic
import SymbolIndex.Json.Fault
import SymbolIndex.Json.Printer
import SymbolIndex.Json.Reader
import SymbolIndex.Main
import SymbolIndex.Number.Basic
import SymbolIndex.Number.Binary64
import SymbolIndex.Number.Shortest
import SymbolIndex.Outline.Basic
import SymbolIndex.Outline.Heritage
import SymbolIndex.Parser.Basic
import SymbolIndex.Parser.Command
import SymbolIndex.Parser.Fault
import SymbolIndex.Parser.Memo
import SymbolIndex.Record.Decode
import SymbolIndex.Record.Message
import SymbolIndex.Record.Summary
import SymbolIndex.Scope.Basic
import SymbolIndex.Scope.History
import SymbolIndex.Scope.Import
import SymbolIndex.Service
import SymbolIndex.Settings.Basic
import SymbolIndex.Settings.Layers
import SymbolIndex.Settings.OfToml
import SymbolIndex.Shell.Act
import SymbolIndex.Shell.Arithmetic
import SymbolIndex.Shell.Builtin.Limits
import SymbolIndex.Shell.Builtin.Options
import SymbolIndex.Shell.Builtin.Places
import SymbolIndex.Shell.Builtin.Signals
import SymbolIndex.Shell.Builtin.Variables
import SymbolIndex.Shell.Children
import SymbolIndex.Shell.Condition
import SymbolIndex.Shell.Execution
import SymbolIndex.Shell.Expansion
import SymbolIndex.Shell.Format
import SymbolIndex.Shell.Grammar
import SymbolIndex.Shell.Host
import SymbolIndex.Shell.Language
import SymbolIndex.Shell.Pattern
import SymbolIndex.Shell.Pipe
import SymbolIndex.Shell.Process
import SymbolIndex.Shell.Reader
import SymbolIndex.Shell.Real
import SymbolIndex.Shell.Run
import SymbolIndex.Shell.Scheduler
import SymbolIndex.Shell.Signal
import SymbolIndex.Shell.Standard
import SymbolIndex.Shell.System
import SymbolIndex.Shell.Tool.Basic
import SymbolIndex.Shell.Tool.Copy
import SymbolIndex.Shell.Tool.Files
import SymbolIndex.Shell.Tool.Letters
import SymbolIndex.Shell.Tool.Lines
import SymbolIndex.Shell.Tool.Texts
import SymbolIndex.Shell.Words
import SymbolIndex.Sink
import SymbolIndex.Sorted.Set
import SymbolIndex.Sorted.Table
import SymbolIndex.Store.Basic
import SymbolIndex.Store.Path
import SymbolIndex.Store.Sources
import SymbolIndex.Text.Blank
import SymbolIndex.Text.CodePoints
import SymbolIndex.Text.Hex
import SymbolIndex.Text.LetterCase
import SymbolIndex.Text.Octets
import SymbolIndex.Text.Quoted
import SymbolIndex.Text.Utf8
import SymbolIndex.Toml.Document
import SymbolIndex.Toml.Scalar
import SymbolIndex.Tree.Kind
import SymbolIndex.Tree.Name
import SymbolIndex.Tree.Node
import SymbolIndex.Walk.Basic
import SymbolIndex.Walk.Trace
import SymbolIndex.Proofs.Json.Sorted
import SymbolIndex.Proofs.Scope.Nesting
import SymbolIndex.Proofs.Scope.Opened
import SymbolIndex.Proofs.Walk.Run
import SymbolIndex.Proofs.Walk.Offers
import SymbolIndex.Proofs.Outline.Spine
import SymbolIndex.Proofs.Outline.Run
import SymbolIndex.Proofs.Outline.Declarations
import SymbolIndex.Proofs.Index.Bindings
import SymbolIndex.Proofs.Index.Imports
import SymbolIndex.Proofs.Index.Supertypes
import SymbolIndex.Proofs.Index.Depth
import SymbolIndex.Proofs.Scope.Lifetime
import SymbolIndex.Proofs.Index.Independence
import SymbolIndex.Proofs.Index.Migration
import SymbolIndex.Proofs.Index.Reordering
import SymbolIndex.Proofs.Text.Utf8
import SymbolIndex.Proofs.Index.Consistency
import SymbolIndex.Proofs.Parser.Sharing
import SymbolIndex.Proofs.Batch.Schedules
import SymbolIndex.Proofs.Service.Framing
import SymbolIndex.Proofs.Json.Arranged
import SymbolIndex.Proofs.Record.Decoding
import SymbolIndex.Proofs.Record.RoundTrip
import SymbolIndex.Proofs.Index.PrintedTree
import SymbolIndex.Proofs.Outline.Visits
import SymbolIndex.Proofs.Walk.Frame
import SymbolIndex.Proofs.Outline.Unwinding
import SymbolIndex.Proofs.Outline.Resolution
import SymbolIndex.Proofs.Parser.Recency
import SymbolIndex.Proofs.Json.Nesting
import SymbolIndex.Proofs.Text.Blank
import SymbolIndex.Proofs.Settings.Layers
import SymbolIndex.Proofs.Store.Path
import SymbolIndex.Proofs.Store.Tree
import SymbolIndex.Proofs.Store.Sources
import SymbolIndex.Proofs.Batch.Agreement
import SymbolIndex.Proofs.Store.OneFile
import SymbolIndex.Proofs.CommandLine.OutputFile
import SymbolIndex.Proofs.Tree.Leaves
import SymbolIndex.Proofs.Index.DottedNames
