import JaDesktop.Bridge.ApprovalBarrier
import JaDesktop.Bridge.DetachedWorker
import JaDesktop.Bridge.ExitRace
import JaDesktop.Bridge.Generations
import JaDesktop.Bridge.RecoveryGate
import JaDesktop.Connection.LifecycleResults
import JaDesktop.GitRead.PointerSafety
import JaDesktop.GitRead.StatusRoundTrip
import JaDesktop.Host.Clock
import JaDesktop.Host.CrashBudget
import JaDesktop.Host.ReadFrame
import JaDesktop.Host.ReadySafety
import JaDesktop.Host.ServerRequestsOnce
import JaDesktop.Host.SupervisorOwnership
import JaDesktop.Host.WriterProgress
import JaDesktop.Host.WriterWake
import JaDesktop.Interop.ErrorResponse
import JaDesktop.Interop.Negotiation
import JaDesktop.Interop.Payload
import JaDesktop.Interop.ReplayServers
import JaDesktop.Interop.TurnEvents
import JaDesktop.Interop.TurnInput
import JaDesktop.Persistence.AgentState
import JaDesktop.Persistence.HistoryStatus
import JaDesktop.Persistence.Migrations
import JaDesktop.Persistence.SingleWriterSafety
import JaDesktop.Preview.SessionAtomic
import JaDesktop.Profiles.Fingerprint
import JaDesktop.Prompt.Compilation
import JaDesktop.Settings.Transactions
import JaDesktop.Sidecar.ApplyPatch
import JaDesktop.Sidecar.ByteCounts
import JaDesktop.Sidecar.CancellationToken
import JaDesktop.Sidecar.EventLives
import JaDesktop.Sidecar.HandshakeLifecycle
import JaDesktop.Sidecar.ItemState
import JaDesktop.Sidecar.PendingRequestsKept
import JaDesktop.Sidecar.SessionLanesSafety
import JaDesktop.Skills.Selection
import JaDesktop.Terminal.QueueCalls
import JaDesktop.Terminal.SessionQuota
import JaDesktop.Ui.TimelineFilter
import JaDesktop.Ui.TimelineOwnership
import JaDesktop.Ui.TimelineStore
import JaDesktop.Ui.TimelineText
import JaDesktop.WorkspaceRead.ChangeReplay
