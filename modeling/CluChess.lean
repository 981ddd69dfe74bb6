import CluChess.AnsweringMachine
import CluChess.KeyedTable
import CluChess.ProcessPool
import CluChess.GameDomain
import CluChess.GameClock
import CluChess.RepositoryPorts
import CluChess.Persistence
import CluChess.TransactionService
import CluChess.GuestSessionRepository
import CluChess.GameRepository
import CluChess.GameplayRepository
import CluChess.GameLifecycleRepository
import CluChess.GameChange
import CluChess.RepositoryTransactions
import CluChess.RepositoryOperations
import CluChess.RepositoryMachine
import CluChess.DurableGame
import CluChess.DurableDatabase
import CluChess.ClockAgreement
import CluChess.GameDeadlines
import CluChess.TerminalOutcome
import CluChess.MoveSubmission
import CluChess.ConcurrentAllocation
import CluChess.GraceMarks
import CluChess.ExpiringStore
import CluChess.Presence
import CluChess.MatchmakingScripts
import CluChess.QueueExclusivity
import CluChess.Connectivity
import CluChess.MatchmakingService
import CluChess.ActiveGameKeys
import CluChess.MatchedGuests
import CluChess.Rejections
import CluChess.ChessJsEngine
import CluChess.MoveHistory
import CluChess.ClockCasts
import CluChess.ConstraintChecks
import CluChess.ClockAccounting
import CluChess.GameStateMachine
import CluChess.LifecycleRefinement
import CluChess.GameRoom
import CluChess.CommittedWrites
import CluChess.SingleStart
import CluChess.VersionedGame
import CluChess.DurableSessions
import CluChess.SessionService
import CluChess.SessionIdempotency
import CluChess.GuestReset
import CluChess.FreedGuests
import CluChess.ScriptRetries
import CluChess.MatchOrder
import CluChess.MatchRollback
import CluChess.WireProtocol
import CluChess.SendableOutcomes
import CluChess.Adjudication
import CluChess.IntegerRange
import CluChess.KeysetPages
import CluChess.RevocationRebuild
import CluChess.SnapshotCache
import CluChess.DriftReconciliation
import CluChess.CoherentConnections
import CluChess.TerminalRecord
import CluChess.LongGame
import CluChess.GraceAdjudication
import CluChess.AcknowledgedMoves
import CluChess.FlagFall
import CluChess.UuidText
import CluChess.JsonSchema
import CluChess.StoredAcknowledgements
import CluChess.SnapshotRecovery
import CluChess.Base64Url
import CluChess.JsonText
import CluChess.JwtToken
import CluChess.AnnouncedExpiry
import CluChess.RevocationLifetime
import CluChess.DeadlineTimers
import CluChess.QueuePlace
import CluChess.RealtimeCommands
import CluChess.UuidCase
import CluChess.MemberLeases
import CluChess.ConnectionRegistry
import CluChess.FixedWindows
import CluChess.RateLimits
import CluChess.PresenceCounts
import CluChess.ApplicationLifecycle
import CluChess.HttpMetrics
import CluChess.CommandTasks
import CluChess.GameFeed
import CluChess.MovesHeard
import CluChess.LockOrder
import CluChess.AllocationProgress
import CluChess.GuestNames
import CluChess.NameReservations
import CluChess.ShownGames
import CluChess.JsonCodec
import CluChess.RealtimeErrors
import CluChess.ClientEnvelopes
import CluChess.RefusalMessages
import CluChess.FailureAcks
import CluChess.PacketGateway
import CluChess.AnsweredPackets
import CluChess.MatchAnnouncements
import CluChess.SessionCleanup
