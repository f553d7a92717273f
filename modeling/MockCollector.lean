import MockCollector.Cli.Session
import MockCollector.Main
import MockCollector.Message.Baggage
import MockCollector.Collector.Rest
import MockCollector.Server.Basic
import MockCollector.Store.Criteria
import MockCollector.Stream.Frame
import MockCollector.Proofs.Wire.Rows
import MockCollector.Proofs.Wire.Scalars
import MockCollector.Proofs.Wire.Fields
import MockCollector.Proofs.Wire.Spelling
import MockCollector.Message.Types
import MockCollector.Proofs.Message.RoundTrip
import MockCollector.Proofs.Stream.Reading
import MockCollector.Proofs.Stream.RoundTrip
import MockCollector.Proofs.Pipeline.Coupling
import MockCollector.Proofs.Pipeline.Runs
import MockCollector.Proofs.Pipeline.Quiescence
import MockCollector.Proofs.Collector.Runs
import MockCollector.Proofs.Stream.Items
import MockCollector.Proofs.Collector.Soundness
import MockCollector.Proofs.Collector.Steps
import MockCollector.Proofs.Collector.Rest
import MockCollector.Proofs.Collector.Streams
import MockCollector.Proofs.Stream.Grammar
import MockCollector.Proofs.Stream.Whole
import MockCollector.Proofs.Collector.Faults
import MockCollector.Proofs.Collector.Chronicles
import MockCollector.Proofs.Collector.Storage
import MockCollector.Proofs.Collector.Interleavings
import MockCollector.Proofs.Collector.Outcomes
import MockCollector.Proofs.Collector.Drain
import MockCollector.Proofs.Collector.Succession
import MockCollector.Proofs.Collector.Moves
import MockCollector.Proofs.Server.RunOut
import MockCollector.Proofs.Server.Fates
import MockCollector.Proofs.Server.Accounts
import MockCollector.Proofs.Stream.Chunking
import MockCollector.Proofs.Stream.Sequencing
import MockCollector.Proofs.Stream.Resynchronisation
import MockCollector.Proofs.Stream.Truncation
import MockCollector.Proofs.Collector.Interference
import MockCollector.Proofs.Message.Merging
import MockCollector.Proofs.Wire.Complete
import MockCollector.Proofs.Wire.Exactness
import MockCollector.Proofs.Wire.Gathering
import MockCollector.Proofs.Message.Exactness
import MockCollector.Proofs.Message.Order
import MockCollector.Proofs.Stream.Failures
import MockCollector.Proofs.Collector.Snapshots
import MockCollector.Proofs.Number.Numeral
import MockCollector.Proofs.Request.Fixed
import MockCollector.Proofs.Collector.Fixed
import MockCollector.Proofs.Number.Rounding
import MockCollector.Proofs.Number.Double
import MockCollector.Proofs.Store.Equality
import MockCollector.Proofs.Store.Criteria
import MockCollector.Proofs.Store.TagSets
import MockCollector.Proofs.Stream.Embedding
import MockCollector.Proofs.Wire.Prefixes
import MockCollector.Proofs.Message.Truncation
import MockCollector.Proofs.Store.Lines
import MockCollector.Proofs.Collector.Pacing
import MockCollector.Proofs.Request.Transfer
import MockCollector.Proofs.Server.Launches
import MockCollector.Proofs.Server.Waiting
import MockCollector.Proofs.Stream.Numbers
