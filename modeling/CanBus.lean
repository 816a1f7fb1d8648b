import CanBus.Bench.Command
import CanBus.Config.File
import CanBus.Socket.Pipe
import CanBus.Proofs.Calls
import CanBus.Proofs.Upkeep
import CanBus.Proofs.Closing
import CanBus.Proofs.Handles
import CanBus.Proofs.Construction
import CanBus.Proofs.Conservation
import CanBus.Proofs.Encoding
import CanBus.Proofs.Sending
import CanBus.Proofs.Transfer
import CanBus.Proofs.Ledger
import CanBus.Proofs.Ownership
import CanBus.Proofs.Acceptance
import CanBus.Proofs.Codec
import CanBus.Proofs.Losses
import CanBus.Proofs.Readiness
import CanBus.Proofs.Outgoing
import CanBus.Proofs.Wire
import CanBus.Proofs.Config.Formats
import CanBus.Proofs.Retries
import CanBus.Proofs.Inertness
import CanBus.Proofs.Independence
import CanBus.Proofs.Accounting
import CanBus.Proofs.Batching
import CanBus.Proofs.FilterView
import CanBus.Proofs.Digest
import CanBus.Proofs.EventLog
import CanBus.Proofs.Watching
import CanBus.Proofs.Reporting
import CanBus.Proofs.Dispatch
import CanBus.Proofs.PendingCount
import CanBus.Proofs.PipeRecords
import CanBus.Proofs.Timing
import CanBus.Proofs.Identifiers
import CanBus.Proofs.Injection
import CanBus.Proofs.Text.Quoted
