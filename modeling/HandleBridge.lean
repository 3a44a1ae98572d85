import HandleBridge.Text.Utf8
import HandleBridge.Schema.View
import HandleBridge.Schema.Sample
import HandleBridge.Boundary.Call
import HandleBridge.Heap.Respond
import HandleBridge.Foreign.Adapter
import HandleBridge.Toml.Reader
import HandleBridge.Toml.Document
import HandleBridge.Config
import HandleBridge.Schema.Document
import HandleBridge.Proxy.Sequence
import HandleBridge.Foreign.Library
import HandleBridge.Session.Perform
import HandleBridge.Session.World
import HandleBridge.Proxy.Basic
import HandleBridge.Main
import HandleBridge.Proofs.ArenaState
import HandleBridge.Proofs.HeapEntries
import HandleBridge.Proofs.BuiltPackages
import HandleBridge.Proofs.Lives
import HandleBridge.Proofs.Evolution
import HandleBridge.Proofs.Chronicle
import HandleBridge.Proofs.Lifetimes
import HandleBridge.Proofs.Generations
import HandleBridge.Proofs.Ownership
import HandleBridge.Proofs.Construction
import HandleBridge.Proofs.Outcomes
import HandleBridge.Proofs.Copying
import HandleBridge.Proofs.Contents
import HandleBridge.Proofs.Frames
import HandleBridge.Proofs.Sequences
import HandleBridge.Proofs.AccessHistory
import HandleBridge.Proofs.Hierarchies
import HandleBridge.Proofs.WellDefined
import HandleBridge.Proofs.FeatureTables
import HandleBridge.Proofs.Subtyping
import HandleBridge.Proofs.DefinitionOrder
import HandleBridge.Proofs.Invariants
import HandleBridge.Proofs.Shapes
import HandleBridge.Proofs.Typing
import HandleBridge.Proofs.Failures
import HandleBridge.Proofs.PlainCode
import HandleBridge.Proofs.Titles
import HandleBridge.Proofs.SessionTitles
import HandleBridge.Proofs.Courses
import HandleBridge.Proofs.Transcripts
import HandleBridge.Proofs.RelayedErrors
import HandleBridge.Proofs.OwnedEntries
import HandleBridge.Proofs.SingleOwner
import HandleBridge.Proofs.RoundTrips
import HandleBridge.Proofs.HeapErrors
import HandleBridge.Proofs.CommonErrors
import HandleBridge.Proofs.Matching
import HandleBridge.Proofs.ForeignCalls
import HandleBridge.Proofs.SameSessions
import HandleBridge.Proofs.StaleNames
import HandleBridge.Proofs.KnownClasses
import HandleBridge.Proofs.TypeFailures
import HandleBridge.Proofs.CarefulCode
import HandleBridge.Proofs.NullCrossings
import HandleBridge.Proofs.ReturnedText
import HandleBridge.Proofs.Inquiries
import HandleBridge.Proofs.HeapWork
import HandleBridge.Proofs.InformedProxies
import HandleBridge.Proofs.Validation
import HandleBridge.Proofs.Renaming
import HandleBridge.Proofs.TwinHeaps
import HandleBridge.Proofs.TwinCalls
import HandleBridge.Proofs.SlotReuse
import HandleBridge.Proofs.RangeFailures
import HandleBridge.Proofs.Announcements
import HandleBridge.Proofs.Readings
import HandleBridge.Proofs.FaithfulCopies
import HandleBridge.Proofs.Destruction
import HandleBridge.Proofs.Capacity
import HandleBridge.Proofs.BulkOperations
import HandleBridge.Proofs.NamedAccess
import HandleBridge.Proofs.ListReadings
import HandleBridge.Proofs.MadeProxies
import HandleBridge.Proofs.CaughtEarly
import HandleBridge.Proofs.CachedTypes
import HandleBridge.Proofs.SchemaDocuments
import HandleBridge.Proofs.WellFormedText
import HandleBridge.Proofs.RawValues
import HandleBridge.Proofs.TakenFields
import HandleBridge.Proofs.Numerals
import HandleBridge.Proofs.WrittenLines
import HandleBridge.Proofs.WrittenConfigs
import HandleBridge.Proofs.WrittenDefaults
