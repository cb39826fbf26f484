import ExhaustionGuard.Host.Replay
import ExhaustionGuard.Log.Filter
import ExhaustionGuard.Proofs.Action.HeapDump
import ExhaustionGuard.Proofs.Action.MemoryPools
import ExhaustionGuard.Proofs.Agent.Lifetime
import ExhaustionGuard.Proofs.Controller.Runs
import ExhaustionGuard.Proofs.DumpPath.Escaping
import ExhaustionGuard.Proofs.Heap.Epochs
import ExhaustionGuard.Proofs.Heap.FirstFailure
import ExhaustionGuard.Proofs.Heap.Meetings
import ExhaustionGuard.Proofs.Heap.Naming
import ExhaustionGuard.Proofs.Heap.Requests
import ExhaustionGuard.Proofs.Heap.Succession
import ExhaustionGuard.Proofs.Heap.Table
import ExhaustionGuard.Proofs.Heap.TagFrame
import ExhaustionGuard.Proofs.Jvm.BeanReport
import ExhaustionGuard.Proofs.Jvm.Buffers
import ExhaustionGuard.Proofs.Jvm.FileNames
import ExhaustionGuard.Proofs.Jvm.HeapAgreement
import ExhaustionGuard.Proofs.Jvm.PoolListing
import ExhaustionGuard.Proofs.Jvm.References
import ExhaustionGuard.Proofs.Jvm.VisitorPanic
import ExhaustionGuard.Proofs.MemoryReport.Hints
import ExhaustionGuard.Proofs.Options.Writing
import ExhaustionGuard.Proofs.Pipeline.Flushing
import ExhaustionGuard.Proofs.Pipeline.StandDown
import ExhaustionGuard.Proofs.Pipeline.Truncation
import ExhaustionGuard.Proofs.Window.Slots
import ExhaustionGuard.Proofs.Window.Thresholds
