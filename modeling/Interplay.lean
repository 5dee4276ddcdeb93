import Interplay.Action
import Interplay.Action.Reader
import Interplay.Collection
import Interplay.Component
import Interplay.Component.Reader
import Interplay.Cycle.Detector
import Interplay.Cycle.PackageGraph
import Interplay.Cycle.PackageGraph.Reader
import Interplay.Cycle.Stack
import Interplay.Decimal.Binary
import Interplay.Decimal.Shortest
import Interplay.Document
import Interplay.Evaluate.Evaluator
import Interplay.Evaluate.Machine
import Interplay.Evaluate.Path
import Interplay.Evaluate.Reader
import Interplay.Evaluate.Routine
import Interplay.Evaluate.Stock
import Interplay.Execute.Deferred
import Interplay.Execute.Executor
import Interplay.Execute.Plan
import Interplay.Execute.Reader
import Interplay.Execute.Stock
import Interplay.Execute.World
import Interplay.Fault
import Interplay.Fault.Report
import Interplay.Formula
import Interplay.Formula.Reader
import Interplay.Journal
import Interplay.Json.Reader
import Interplay.Json.Writer
import Interplay.Keyed
import Interplay.Limits
import Interplay.Limits.Reader
import Interplay.Memo
import Interplay.Metrics
import Interplay.Metrics.Report
import Interplay.Number
import Interplay.Outline.Action
import Interplay.Outline.Component
import Interplay.Outline.Walk
import Interplay.Proofs.Cycle.Dependency
import Interplay.Proofs.Cycle.Guarding
import Interplay.Proofs.Cycle.Loading
import Interplay.Proofs.Cycle.Occurrences
import Interplay.Proofs.Cycle.Raising
import Interplay.Proofs.Cycle.Stack
import Interplay.Proofs.Cycle.Workflow
import Interplay.Proofs.Decimal.Numeral
import Interplay.Proofs.Decimal.Rounding
import Interplay.Proofs.Evaluate.Ceilings
import Interplay.Proofs.Evaluate.Companion
import Interplay.Proofs.Evaluate.Custody
import Interplay.Proofs.Evaluate.Data
import Interplay.Proofs.Evaluate.Denotation
import Interplay.Proofs.Evaluate.Depth
import Interplay.Proofs.Evaluate.Faithful
import Interplay.Proofs.Evaluate.Ground
import Interplay.Proofs.Evaluate.Listing
import Interplay.Proofs.Evaluate.Lockstep
import Interplay.Proofs.Evaluate.Lookups
import Interplay.Proofs.Evaluate.Meaning
import Interplay.Proofs.Evaluate.Memoization
import Interplay.Proofs.Evaluate.Nesting
import Interplay.Proofs.Evaluate.Paths
import Interplay.Proofs.Evaluate.Raising
import Interplay.Proofs.Evaluate.Recall
import Interplay.Proofs.Evaluate.Reentry
import Interplay.Proofs.Evaluate.Roots
import Interplay.Proofs.Evaluate.Stretch
import Interplay.Proofs.Evaluate.Tracking
import Interplay.Proofs.Evaluate.Watch
import Interplay.Proofs.Execute.Accounts
import Interplay.Proofs.Execute.Alongside
import Interplay.Proofs.Execute.Beforehand
import Interplay.Proofs.Execute.Bookkeeping
import Interplay.Proofs.Execute.Caching
import Interplay.Proofs.Execute.Cascade
import Interplay.Proofs.Execute.Ceilings
import Interplay.Proofs.Execute.Cleanup
import Interplay.Proofs.Execute.Company
import Interplay.Proofs.Execute.Conduct
import Interplay.Proofs.Execute.Counting
import Interplay.Proofs.Execute.Diagnostics
import Interplay.Proofs.Execute.Faults
import Interplay.Proofs.Execute.Footprint
import Interplay.Proofs.Execute.Frame
import Interplay.Proofs.Execute.Interleaving
import Interplay.Proofs.Execute.Ledger
import Interplay.Proofs.Execute.Lockstep
import Interplay.Proofs.Execute.Manners
import Interplay.Proofs.Execute.Nesting
import Interplay.Proofs.Execute.Notification
import Interplay.Proofs.Execute.Recursion
import Interplay.Proofs.Execute.Registration
import Interplay.Proofs.Execute.Requests
import Interplay.Proofs.Execute.ShortCircuit
import Interplay.Proofs.Execute.Siblings
import Interplay.Proofs.Execute.Storing
import Interplay.Proofs.Execute.Tallies
import Interplay.Proofs.Execute.Termination
import Interplay.Proofs.Execute.Tracking
import Interplay.Proofs.Execute.Transparency
import Interplay.Proofs.Limits.Scoping
import Interplay.Proofs.Metrics.Measured
import Interplay.Proofs.Metrics.Outcomes
import Interplay.Proofs.Metrics.Sums
import Interplay.Proofs.Metrics.Timing
import Interplay.Proofs.References.Search
import Interplay.Proofs.References.SubComponents
import Interplay.Proofs.Registry.History
import Interplay.Proofs.Registry.Lookup
import Interplay.Proofs.Run.Attempts
import Interplay.Proofs.Run.Consulting
import Interplay.Proofs.Run.Lockstep
import Interplay.Proofs.Run.Mirroring
import Interplay.Proofs.Run.Recounting
import Interplay.Proofs.Run.Safety
import Interplay.Proofs.Run.Settling
import Interplay.Proofs.Run.Tracking
import Interplay.Proofs.Signal.Careers
import Interplay.Proofs.Signal.Chronicle
import Interplay.Proofs.Signal.Custody
import Interplay.Proofs.Signal.Deduplication
import Interplay.Proofs.Signal.Destruction
import Interplay.Proofs.Signal.Dues
import Interplay.Proofs.Signal.Felling
import Interplay.Proofs.Signal.Lifetime
import Interplay.Proofs.Signal.Lineage
import Interplay.Proofs.Signal.Lockstep
import Interplay.Proofs.Signal.Notices
import Interplay.Proofs.Signal.Observation
import Interplay.Proofs.Signal.Offers
import Interplay.Proofs.Signal.Proceeding
import Interplay.Proofs.Signal.Propagation
import Interplay.Proofs.Signal.Recounting
import Interplay.Proofs.Signal.Rewriting
import Interplay.Proofs.Signal.Rounds
import Interplay.Proofs.Signal.Serving
import Interplay.Proofs.Signal.Tracking
import Interplay.Proofs.Signal.Upkeep
import Interplay.Proofs.Sorting.Permutation
import Interplay.Proofs.Text.Quoted
import Interplay.Proofs.Traversal.Addresses
import Interplay.Proofs.Traversal.Bareness
import Interplay.Proofs.Traversal.Bodies
import Interplay.Proofs.Traversal.Coverage
import Interplay.Proofs.Traversal.Document
import Interplay.Proofs.Traversal.Obstruction
import Interplay.Proofs.Traversal.Origin
import Interplay.Proofs.Traversal.Place
import Interplay.Proofs.Traversal.Reading
import Interplay.Proofs.Traversal.Sites
import Interplay.Proofs.Traversal.Visits
import Interplay.Proofs.Value.Content
import Interplay.Proofs.Value.Fingerprint
import Interplay.Proofs.Value.Likeness
import Interplay.Proofs.Value.Mention
import Interplay.Proofs.Value.Quotation
import Interplay.Proofs.Value.Reordering
import Interplay.Proofs.Value.Whole
import Interplay.References
import Interplay.References.Reader
import Interplay.Registry
import Interplay.Registry.Reader
import Interplay.Run
import Interplay.Scope
import Interplay.Session
import Interplay.Session.Actions
import Interplay.Session.Cycles
import Interplay.Session.Errors
import Interplay.Session.Formulas
import Interplay.Session.Limits
import Interplay.Session.Members
import Interplay.Session.Metrics
import Interplay.Session.Registry
import Interplay.Session.Signals
import Interplay.Session.Stores
import Interplay.Signal.Bench
import Interplay.Signal.Reader
import Interplay.Signal.Script
import Interplay.Signal.Store
import Interplay.Sink
import Interplay.Sorting
import Interplay.Sorting.Merge
import Interplay.Sorting.Runs
import Interplay.Text.Printable
import Interplay.Text.Quoted
import Interplay.Trail
import Interplay.Traversal.Actions
import Interplay.Traversal.Formulas
import Interplay.Value
import Interplay.Value.Display
import Interplay.Value.Entries
import Interplay.Value.Fields
import Interplay.Value.Fingerprint
import Interplay.Value.Key
import Interplay.Value.Order
