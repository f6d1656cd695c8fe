import PartitionedRollout.Command.FileTree
import PartitionedRollout.Main
import PartitionedRollout.Proofs.Rollout.Run
import PartitionedRollout.Rehearsal.RunPlan
import PartitionedRollout.Store.Operation
import PartitionedRollout.Proofs.Rollout.Protocol
import PartitionedRollout.Proofs.Json.RoundTrip
import PartitionedRollout.Proofs.Rollout.Order
import PartitionedRollout.Proofs.Workload.RoundTrip
import PartitionedRollout.Proofs.Store.Entry
import PartitionedRollout.Proofs.Store.Calls
import PartitionedRollout.Proofs.Store.Version
import PartitionedRollout.Proofs.Rollout.Interleaving
import PartitionedRollout.Proofs.Rollout.Merge
import PartitionedRollout.Proofs.Rollout.Handler
import PartitionedRollout.Proofs.Rollout.Template
import PartitionedRollout.Proofs.Text.ByteOrder
import PartitionedRollout.Proofs.Store.Catalog
import PartitionedRollout.Proofs.Store.Bookkeeping
import PartitionedRollout.Proofs.Rollout.BlastRadius
import PartitionedRollout.Proofs.Rollout.Fleet
import PartitionedRollout.Proofs.Rollout.Convergence
import PartitionedRollout.Proofs.Rollout.Stops
import PartitionedRollout.Proofs.Rollout.Errands
import PartitionedRollout.Proofs.Rollout.Watchful
import PartitionedRollout.Proofs.Rollout.Interruption
import PartitionedRollout.Proofs.Rollout.CutShort
import PartitionedRollout.Proofs.Rollout.Rehearsal
import PartitionedRollout.Proofs.Rollout.WindDown
import PartitionedRollout.Proofs.Rollout.FinalSpec
import PartitionedRollout.Proofs.Rollout.Budget
import PartitionedRollout.Proofs.Rollout.SkipSleep
import PartitionedRollout.Proofs.Rollout.Polling
import PartitionedRollout.Proofs.Rollout.PollBudget
import PartitionedRollout.Proofs.TimeSpan.Scaling
import PartitionedRollout.Proofs.Health.History
import PartitionedRollout.Proofs.Store.Isolation
import PartitionedRollout.Proofs.Workload.Faithful
import PartitionedRollout.Proofs.Toml.Strings
import PartitionedRollout.Proofs.Toml.Statements
import PartitionedRollout.Proofs.Toml.Sections
import PartitionedRollout.Proofs.Config.RoundTrip
import PartitionedRollout.Proofs.Text.Trim
import PartitionedRollout.Proofs.TimeSpan.Grammar
import PartitionedRollout.Proofs.Health.Waits
import PartitionedRollout.Proofs.Workload.Entries
import PartitionedRollout.Proofs.Health.Checkpoint
import PartitionedRollout.Proofs.Health.Readiness
import PartitionedRollout.Proofs.Config.Coverage
import PartitionedRollout.Proofs.Rollout.Admission
import PartitionedRollout.Proofs.Workload.Recorded
import PartitionedRollout.Proofs.Command.Stores
import PartitionedRollout.Proofs.Command.Report
import PartitionedRollout.Proofs.Json.Layout
import PartitionedRollout.Proofs.Json.Records
import PartitionedRollout.Proofs.Json.Forms
import PartitionedRollout.Proofs.Workload.Tolerance
import PartitionedRollout.Proofs.Command.Backup
import PartitionedRollout.Proofs.Rollout.Wrapping
