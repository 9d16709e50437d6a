import HistoryMetrics.Document
import HistoryMetrics.Python.Outline
import HistoryMetrics.Text.Checksum
import HistoryMetrics.Action
import HistoryMetrics.Command.Basic
import HistoryMetrics.Document.Reader
import HistoryMetrics.Git.Script
import HistoryMetrics.Proofs.Action.Moves
import HistoryMetrics.Proofs.Session.Closing
import HistoryMetrics.Proofs.Session.Steady
import HistoryMetrics.Proofs.Session.Operation
import HistoryMetrics.Proofs.Mining.Helpers
import HistoryMetrics.Proofs.Session.StateMachine
import HistoryMetrics.Proofs.Mining.Analysis
import HistoryMetrics.Proofs.Mining.Call
import HistoryMetrics.Proofs.Mining.Work
import HistoryMetrics.Proofs.Mining.History
import HistoryMetrics.Proofs.Mining.Accounting
import HistoryMetrics.Proofs.Mining.Containment
import HistoryMetrics.Proofs.Metric.Closure
import HistoryMetrics.Proofs.Metric.Order
import HistoryMetrics.Proofs.Metric.Resolution
import HistoryMetrics.Proofs.Mining.Passes
import HistoryMetrics.Proofs.Mining.Types
import HistoryMetrics.Proofs.Python.Items
import HistoryMetrics.Proofs.Python.Conversion
import HistoryMetrics.Proofs.Python.Complexity
import HistoryMetrics.Proofs.Number.Rounding
import HistoryMetrics.Proofs.Metric.Reference
import HistoryMetrics.Proofs.Metric.Values
import HistoryMetrics.Proofs.Metric.Builtins
import HistoryMetrics.Proofs.Metric.Computation
import HistoryMetrics.Proofs.Smell.Rules
import HistoryMetrics.Proofs.Smell.Verdicts
import HistoryMetrics.Proofs.Repository.Status
import HistoryMetrics.Proofs.Action.Returns
import HistoryMetrics.Proofs.Number.Comparison
import HistoryMetrics.Proofs.Git.Run
import HistoryMetrics.Proofs.Repository.Patch
import HistoryMetrics.Proofs.Repository.Changes
import HistoryMetrics.Proofs.Time.Iso
import HistoryMetrics.Proofs.Repository.Log
import HistoryMetrics.Proofs.Git.Events
import HistoryMetrics.Proofs.Mining.FailFast
import HistoryMetrics.Proofs.Action.Agree
import HistoryMetrics.Proofs.Repository.Blind
import HistoryMetrics.Proofs.Session.Blind
import HistoryMetrics.Proofs.Session.Beside
import HistoryMetrics.Proofs.Session.Parallel
import HistoryMetrics.Proofs.Smell.Measured
import HistoryMetrics.Proofs.Number.Order
import HistoryMetrics.Proofs.Number.Halving
import HistoryMetrics.Proofs.Smell.Completion
import HistoryMetrics.Proofs.Smell.Raising
import HistoryMetrics.Proofs.Smell.FewerFindings
import HistoryMetrics.Proofs.Mining.Twins
import HistoryMetrics.Proofs.Mining.Interference
import HistoryMetrics.Proofs.Action.Contract
import HistoryMetrics.Proofs.Repository.Commands
import HistoryMetrics.Proofs.Session.CommandLines
import HistoryMetrics.Proofs.Session.Walks
import HistoryMetrics.Proofs.Session.Visits
import HistoryMetrics.Proofs.Session.Options
import HistoryMetrics.Proofs.Disk.Placement
import HistoryMetrics.Proofs.Text.Document
import HistoryMetrics.Proofs.Mining.LineFile
import HistoryMetrics.Proofs.Toml.Storable
import HistoryMetrics.Proofs.Setting.Merging
import HistoryMetrics.Proofs.Setting.Settled
import HistoryMetrics.Proofs.Setting.Precedence
import HistoryMetrics.Proofs.Setting.Outcome
import HistoryMetrics.Proofs.Session.Setbacks
import HistoryMetrics.Proofs.Session.Listings
import HistoryMetrics.Proofs.Session.Lookups
import HistoryMetrics.Proofs.Repository.Comparison
import HistoryMetrics.Proofs.Mining.Namesakes
import HistoryMetrics.Proofs.Mining.Entries
import HistoryMetrics.Proofs.Session.WholeWalks
import HistoryMetrics.Proofs.Mining.HistoryOnly
import HistoryMetrics.Proofs.Text.Sorted
import HistoryMetrics.Proofs.Repository.Selection
import HistoryMetrics.Proofs.Python.Levels
import HistoryMetrics.Proofs.Python.Variables
import HistoryMetrics.Proofs.Python.Parts
import HistoryMetrics.Proofs.Python.Captures
import HistoryMetrics.Proofs.Python.Parameters
import HistoryMetrics.Proofs.Python.Spellings
import HistoryMetrics.Proofs.Python.Fields
import HistoryMetrics.Proofs.Disk.Path
import HistoryMetrics.Proofs.Disk.SameBut
import HistoryMetrics.Proofs.Python.Files
import HistoryMetrics.Proofs.Git.Scripted
import HistoryMetrics.Proofs.Mining.Writing
import HistoryMetrics.Proofs.Command.Output
import HistoryMetrics.Proofs.Surroundings
import HistoryMetrics.Proofs.Log.Hierarchy
import HistoryMetrics.Proofs.Log.Handlers
import HistoryMetrics.Proofs.Python.Enclosing
import HistoryMetrics.Proofs.Metric.Nesting
import HistoryMetrics.Proofs.Repository.Sections
