import CodeGraph.Address
import CodeGraph.Answer
import CodeGraph.Coercion
import CodeGraph.Config
import CodeGraph.Digest.Sha256
import CodeGraph.Disk.Basic
import CodeGraph.Disk.Lock
import CodeGraph.Edge
import CodeGraph.Entity
import CodeGraph.Fault
import CodeGraph.FilePath
import CodeGraph.Interface.Command
import CodeGraph.Interface.Flags
import CodeGraph.Interface.Http
import CodeGraph.Interface.Tool
import CodeGraph.Json.Canonical
import CodeGraph.Json.Reader
import CodeGraph.Json.Shown
import CodeGraph.Json.Value
import CodeGraph.Json.Writer
import CodeGraph.Main
import CodeGraph.Manager
import CodeGraph.Metadata
import CodeGraph.NameOrder
import CodeGraph.Number.Binary64
import CodeGraph.Number.Decimal
import CodeGraph.Number.Numeral
import CodeGraph.Order
import CodeGraph.Order.Arrange
import CodeGraph.Order.Boundary
import CodeGraph.Order.Merge
import CodeGraph.Proofs.BuilderHistory
import CodeGraph.Proofs.Closure
import CodeGraph.Proofs.Commit
import CodeGraph.Proofs.Digits
import CodeGraph.Proofs.HistoryCommit
import CodeGraph.Proofs.KeyRoundTrip
import CodeGraph.Proofs.KeyText
import CodeGraph.Proofs.Parts
import CodeGraph.Proofs.Serving
import CodeGraph.Proofs.Sorting
import CodeGraph.Proofs.Staging
import CodeGraph.Proofs.TableRows
import CodeGraph.Record.Batch
import CodeGraph.Record.Conversion
import CodeGraph.Record.Feed
import CodeGraph.Record.File
import CodeGraph.Report.BlastRadius
import CodeGraph.Report.Clusters
import CodeGraph.Report.ContextSelection
import CodeGraph.Report.Coupling
import CodeGraph.Report.Cycles
import CodeGraph.Report.Hotspots
import CodeGraph.Report.Match
import CodeGraph.Report.Neighbors
import CodeGraph.Report.Overview
import CodeGraph.Report.Search
import CodeGraph.Request.Argument
import CodeGraph.Request.Envelope
import CodeGraph.Request.Query
import CodeGraph.Service
import CodeGraph.Snapshot.Basic
import CodeGraph.Snapshot.Builder
import CodeGraph.Snapshot.Content
import CodeGraph.Snapshot.Restore
import CodeGraph.Storage.Basic
import CodeGraph.Storage.SnapshotFile
import CodeGraph.Table
import CodeGraph.Text.Blank
import CodeGraph.Text.Lowercase
import CodeGraph.Text.Lowercase.Table
import CodeGraph.Text.Printable
import CodeGraph.Text.Similarity
import CodeGraph.Text.Split
import CodeGraph.Text.Utf8
import CodeGraph.Vocabulary.EntityKind
import CodeGraph.Vocabulary.Language
import CodeGraph.Walk
import CodeGraph.Proofs.AtomText
import CodeGraph.Proofs.ConvertedItems
import CodeGraph.Proofs.Delivered
import CodeGraph.Proofs.DiskFrame
import CodeGraph.Proofs.DiskMaking
import CodeGraph.Proofs.Durability
import CodeGraph.Proofs.Refinement
import CodeGraph.Proofs.BlastDistance
import CodeGraph.Proofs.CycleExact
import CodeGraph.Proofs.RecordSet
import CodeGraph.Proofs.KeyGrammar
import CodeGraph.Proofs.AddressIdentity
import CodeGraph.Proofs.ExactAdjacency
import CodeGraph.Proofs.ContentBytes
import CodeGraph.Proofs.DirectoriesAbove
import CodeGraph.Proofs.StorageFaults
import CodeGraph.Proofs.SourcePaths
import CodeGraph.Proofs.AnsweredQueries
import CodeGraph.Proofs.IndexCommand
import CodeGraph.Proofs.NumberNumerals
import CodeGraph.Proofs.RecordLayouts
import CodeGraph.Proofs.ArgumentForms
import CodeGraph.Proofs.InterfacesAlike
import CodeGraph.Proofs.ReconciledReports
import CodeGraph.Proofs.AddedWords
import CodeGraph.Proofs.WrittenSnapshot
import CodeGraph.Proofs.RestagedEntities
import CodeGraph.Proofs.ContextCandidates
import CodeGraph.Proofs.ContextBudget
import CodeGraph.Proofs.ExactClusters
import CodeGraph.Proofs.CountedPairs
import CodeGraph.Proofs.CoupledFiles
import CodeGraph.Proofs.MatchedRuns
import CodeGraph.Proofs.NameMatch
import CodeGraph.Proofs.SearchHits
import CodeGraph.Proofs.SettledPath
import CodeGraph.Proofs.PartFaults
import CodeGraph.Proofs.RecordShape
import CodeGraph.Proofs.CoherentEntities
import CodeGraph.Proofs.FilledBatches
import CodeGraph.Proofs.BrokenBuilds
import CodeGraph.Proofs.ReportedRecords
import CodeGraph.Proofs.InnerPath
