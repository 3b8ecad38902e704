import SqlReplay.CommandLine.Answer
import SqlReplay.CommandLine.Arguments
import SqlReplay.CommandLine.Ended
import SqlReplay.CommandLine.Footprint
import SqlReplay.CommandLine.Invocation
import SqlReplay.CommandLine.Options
import SqlReplay.CommandLine.Perform
import SqlReplay.CommandLine.Place
import SqlReplay.CommandLine.Problem
import SqlReplay.CommandLine.Style
import SqlReplay.CommandLine.Usage
import SqlReplay.Config.Basic
import SqlReplay.Config.Check
import SqlReplay.Config.Document
import SqlReplay.Config.Load
import SqlReplay.Document.Basic
import SqlReplay.Document.Json
import SqlReplay.Document.JsonReader
import SqlReplay.Document.Toml.Lexeme
import SqlReplay.Document.Toml.Printer
import SqlReplay.Document.Toml.Reader
import SqlReplay.Document.Toml.Tree
import SqlReplay.Error
import SqlReplay.Event.Event
import SqlReplay.Event.Journal
import SqlReplay.Event.Moment
import SqlReplay.Hash.Fnv
import SqlReplay.Log.ReplayLog
import SqlReplay.Main
import SqlReplay.Proofs.CommandLine.ExitCodes
import SqlReplay.Proofs.CommandLine.Failures
import SqlReplay.Proofs.CommandLine.Hidden
import SqlReplay.Proofs.CommandLine.Logged
import SqlReplay.Proofs.CommandLine.Rejected
import SqlReplay.Proofs.CommandLine.Rewording
import SqlReplay.Proofs.CommandLine.Shown
import SqlReplay.Proofs.Config.Canonical
import SqlReplay.Proofs.Config.FileForm
import SqlReplay.Proofs.Config.Fingerprint
import SqlReplay.Proofs.Config.HugeNumbers
import SqlReplay.Proofs.Config.Layers
import SqlReplay.Proofs.Config.Loading
import SqlReplay.Proofs.Config.Normal
import SqlReplay.Proofs.Config.Overridden
import SqlReplay.Proofs.Config.Questions
import SqlReplay.Proofs.Config.Records
import SqlReplay.Proofs.Config.Settling
import SqlReplay.Proofs.Config.Written
import SqlReplay.Proofs.Document.JsonRoundTrip
import SqlReplay.Proofs.Document.TomlNumbers
import SqlReplay.Proofs.Document.TomlRoundTrip
import SqlReplay.Proofs.Document.TomlText
import SqlReplay.Proofs.Document.TomlTree
import SqlReplay.Proofs.Error
import SqlReplay.Proofs.Event.Accounting
import SqlReplay.Proofs.Event.EntryLines
import SqlReplay.Proofs.Event.Rewording
import SqlReplay.Proofs.Event.Touching
import SqlReplay.Proofs.Event.Undisturbed
import SqlReplay.Proofs.Event.WholeLines
import SqlReplay.Proofs.Except
import SqlReplay.Proofs.Hash.Fnv
import SqlReplay.Proofs.LineEdges
import SqlReplay.Proofs.Log.Copy
import SqlReplay.Proofs.Log.Extraction
import SqlReplay.Proofs.Log.OpeningLine
import SqlReplay.Proofs.Random.Scaling
import SqlReplay.Proofs.Replay.Bystander
import SqlReplay.Proofs.Replay.Copies
import SqlReplay.Proofs.Replay.DatabaseFiles
import SqlReplay.Proofs.Replay.DatabasesApart
import SqlReplay.Proofs.Replay.Failing
import SqlReplay.Proofs.Replay.FaultIsolation
import SqlReplay.Proofs.Replay.Forgetting
import SqlReplay.Proofs.Replay.Holdings
import SqlReplay.Proofs.Replay.Likeness
import SqlReplay.Proofs.Replay.LineByLine
import SqlReplay.Proofs.Replay.NothingToRun
import SqlReplay.Proofs.Replay.OneStatement
import SqlReplay.Proofs.Replay.Recorded
import SqlReplay.Proofs.Replay.Releasing
import SqlReplay.Proofs.Replay.Resetting
import SqlReplay.Proofs.Replay.Rewording
import SqlReplay.Proofs.Replay.Selection
import SqlReplay.Proofs.Replay.Simulation
import SqlReplay.Proofs.Replay.StartOver
import SqlReplay.Proofs.Replay.Started
import SqlReplay.Proofs.Replay.Texts
import SqlReplay.Proofs.Replay.Trace
import SqlReplay.Proofs.Replay.Transactions
import SqlReplay.Proofs.Replay.Uses
import SqlReplay.Proofs.Replay.WriteAhead
import SqlReplay.Proofs.Sql.Acting
import SqlReplay.Proofs.Sql.Alone
import SqlReplay.Proofs.Sql.AloneEngine
import SqlReplay.Proofs.Sql.AloneLikeness
import SqlReplay.Proofs.Sql.AloneLine
import SqlReplay.Proofs.Sql.AloneStep
import SqlReplay.Proofs.Sql.Closing
import SqlReplay.Proofs.Sql.Deeds
import SqlReplay.Proofs.Sql.Holding
import SqlReplay.Proofs.Sql.Lexemes
import SqlReplay.Proofs.Sql.Names
import SqlReplay.Proofs.Sql.Placed
import SqlReplay.Proofs.Sql.PlacedSession
import SqlReplay.Proofs.Sql.PlacedStatements
import SqlReplay.Proofs.Sql.Rewording
import SqlReplay.Proofs.Sql.Site
import SqlReplay.Proofs.Sql.Solo
import SqlReplay.Proofs.Sql.Staying
import SqlReplay.Proofs.Sql.Stretches
import SqlReplay.Proofs.Sql.Texts
import SqlReplay.Proofs.Sql.Tracks
import SqlReplay.Proofs.Sql.Vacancy
import SqlReplay.Proofs.Sql.Words
import SqlReplay.Proofs.Storage.Appending
import SqlReplay.Proofs.Storage.Beside
import SqlReplay.Proofs.Storage.Directory
import SqlReplay.Proofs.Storage.Frame
import SqlReplay.Proofs.Storage.Leaving
import SqlReplay.Proofs.Storage.Making
import SqlReplay.Proofs.Storage.Prepared
import SqlReplay.Proofs.Storage.Rewording
import SqlReplay.Proofs.Storage.Sound
import SqlReplay.Proofs.Storage.Sparing
import SqlReplay.Proofs.Storage.Tree
import SqlReplay.Proofs.Storage.Writing
import SqlReplay.Proofs.Text.Cuts
import SqlReplay.Proofs.Text.Hexadecimal
import SqlReplay.Proofs.Text.LetterCase
import SqlReplay.Proofs.Text.Numeral
import SqlReplay.Proofs.Text.Utf8
import SqlReplay.Proofs.Weights.CatalogNames
import SqlReplay.Proofs.Weights.Failing
import SqlReplay.Proofs.Weights.Generating
import SqlReplay.Proofs.Weights.Grammar
import SqlReplay.Proofs.Weights.Heaviest
import SqlReplay.Proofs.Weights.Lookup
import SqlReplay.Proofs.Weights.Pairing
import SqlReplay.Proofs.Weights.Persisting
import SqlReplay.Proofs.Weights.Proportion
import SqlReplay.Proofs.Weights.Publication
import SqlReplay.Proofs.Weights.Rewording
import SqlReplay.Proofs.Weights.RoundTrip
import SqlReplay.Proofs.Weights.Uniformity
import SqlReplay.Random.ChaCha
import SqlReplay.Random.Uniform
import SqlReplay.Random.WordSource
import SqlReplay.Replay.Configured
import SqlReplay.Replay.Connection
import SqlReplay.Replay.Engine
import SqlReplay.Replay.FileTarget
import SqlReplay.Replay.Report
import SqlReplay.Replay.Run
import SqlReplay.Replay.Scripted
import SqlReplay.Replay.Target
import SqlReplay.Sql.Database
import SqlReplay.Sql.Error
import SqlReplay.Sql.Image
import SqlReplay.Sql.Operation
import SqlReplay.Sql.Reader
import SqlReplay.Sql.Real
import SqlReplay.Sql.Session
import SqlReplay.Sql.Statement
import SqlReplay.Sql.Token
import SqlReplay.Sql.Value
import SqlReplay.Storage.Buffered
import SqlReplay.Storage.Disk
import SqlReplay.Storage.Fault
import SqlReplay.Storage.Path
import SqlReplay.Text.Blank
import SqlReplay.Text.CaseTable
import SqlReplay.Text.Hexadecimal
import SqlReplay.Text.Hidden
import SqlReplay.Text.Lines
import SqlReplay.Text.Natural
import SqlReplay.Text.Quoted
import SqlReplay.Text.Split
import SqlReplay.Text.Uppercase
import SqlReplay.Text.Utf8
import SqlReplay.Weights.Catalog
import SqlReplay.Weights.Generation
import SqlReplay.Weights.Range
import SqlReplay.Weights.Record
import SqlReplay.Weights.Sampler
import SqlReplay.Weights.ServerOptions
import SqlReplay.Weights.Store
import SqlReplay.Weights.Table
