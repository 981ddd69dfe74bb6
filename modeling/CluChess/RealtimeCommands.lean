import CluChess.AnsweringMachine
import CluChess.ChessJsEngine
import CluChess.DeadlineTimers
import CluChess.MatchmakingScripts
import CluChess.SnapshotRecovery
import CluChess.UuidText

/-! `realtime.gateway.ts` and `matchmaking-realtime.service.ts`: the commands of the clients, from
the envelope to the acknowledgement. The identifiers of an envelope are the texts that the client
has sent. PostgreSQL reads a text as the UUID that it denotes; the rooms of Socket.IO, the timers
of the games and the keys of Redis are named by texts. -/
namespace CluChess

/-! ### Envelopes -/

inductive ClientCommand
  | queueJoin (mode : MatchMode)
  | queueLeave (mode : MatchMode)
  | gameReady (gameId : String) (gameVersion : ℕ)
  | moveSubmit (clientMoveId gameId : String) (gameVersion : ℕ) (move : MoveInput)
  | gameResign (gameId : String) (gameVersion : ℕ)
  | gameSync (gameId : Option String) (gameVersion : Option ℕ)
  | heartbeatPing (lastKnownGameVersion : Option ℕ)
  deriving DecidableEq, Repr

structure ClientEventEnvelope where
  correlationId : Option String
  eventId : String
  timestamp : ℕ
  command : ClientCommand
  deriving DecidableEq, Repr

inductive ClientEventName
  | queueJoin | queueLeave | gameReady | moveSubmit | gameResign | gameSync | heartbeatPing
  deriving DecidableEq, Repr

def ClientCommand.eventName : ClientCommand → ClientEventName
  | .queueJoin _ => .queueJoin
  | .queueLeave _ => .queueLeave
  | .gameReady _ _ => .gameReady
  | .moveSubmit _ _ _ _ => .moveSubmit
  | .gameResign _ _ => .gameResign
  | .gameSync _ _ => .gameSync
  | .heartbeatPing _ => .heartbeatPing

def clientCommandSchema : ClientCommand → Bool
  | .queueJoin _ | .queueLeave _ => true
  | .gameReady gameId gameVersion | .gameResign gameId gameVersion =>
    isUuidV4Text gameId && isNonnegativeInt gameVersion
  | .moveSubmit clientMoveId gameId gameVersion move =>
    isUuidV4Text clientMoveId && isUuidV4Text gameId && isNonnegativeInt gameVersion &&
      isSquare move.source && isSquare move.target
  | .gameSync gameId gameVersion =>
    gameId.all isUuidV4Text && gameVersion.all fun version : ℕ => isNonnegativeInt version
  | .heartbeatPing gameVersion => gameVersion.all fun version : ℕ => isNonnegativeInt version

def clientEnvelopeSchema (envelope : ClientEventEnvelope) : Bool :=
  envelope.correlationId.all isUuidV4Text && isUuidV4Text envelope.eventId &&
    isNonnegativeInt envelope.timestamp && clientCommandSchema envelope.command

/-! ### The server -/

abbrev SocketId := String

abbrev ServerInstance := ℕ

/-- What the `BroadcastService` of an instance has to send with: no server before `bind` and after
`unbind`, and its own sockets alone while the connection of the adapter is not ready. -/
inductive Fanout
  | unbound | degraded | ready
  deriving DecidableEq, Repr

/-- The instance that each socket is connected to, and what each instance has to send with. -/
structure Instances where
  of : SocketId → ServerInstance
  fanout : ServerInstance → Fanout

/-- A broadcast of the instance reaches the socket, if it is in the room. -/
def Instances.reaches (instances : Instances) (sender : ServerInstance) (socket : SocketId) :
    Bool :=
  match instances.fanout sender with
  | .unbound => false
  | .degraded => decide (instances.of socket = sender)
  | .ready => true

structure SocketIdentity where
  guestSessionId : GuestSessionId
  identity : Identity
  expiresAt : Millis
  deriving DecidableEq, Repr

def gameRoom (gameId : String) : String := "game:" ++ gameId

def guestRoom (guestSessionId : GuestSessionId) : String := "guest:" ++ uuidText guestSessionId

structure ArmedTimer where
  generation : ℕ
  delay : Millis
  deriving DecidableEq, Repr

/-- The database, the texts of `clientMoveId` in the stored acknowledgements, the keys of Redis,
and what the instances keep: the timers of the games, the rooms of the sockets, the rooms that are
to be left, and the instances themselves. The type `σ` is for what the other services keep. -/
structure Server (σ : Type) where
  db : Db
  moveTexts : GameId × EventId → Option String
  redis : Redis
  snapshots : String → Option SnapshotEntry
  graces : GameId × GuestSessionId → Option Millis
  generations : String → Option ℕ
  timers : String → Option ArmedTimer
  rooms : SocketId → String → Bool
  cleanups : String → Bool
  instances : Instances
  rest : σ

/-- What becomes of a statement that is sent to PostgreSQL. One that fails may be applied. -/
inductive DatabaseDelivery
  | answered
  | failed (kind : DatabaseErrorKind) (applied : Bool)
  deriving DecidableEq, Repr

structure FinalizeCalls where
  finalize : RedisDelivery
  repairCommitted : RedisDelivery

/-- The calls of `attemptMatch`, and what it draws. -/
structure MatchCalls where
  matchId : MatchId
  gameId : GameId
  firstGuestIsWhite : Bool
  tryMatch : RedisDelivery
  allocate : DatabaseDelivery
  finalize : FinalizeCalls
  existing : DatabaseDelivery
  a : DatabaseDelivery
  b : DatabaseDelivery
  recovered : FinalizeCalls
  rollback : RedisDelivery

structure ServiceCalls where
  ready : Bool
  consume : RedisDelivery
  presence : RedisDelivery
  connections : RedisDelivery
  eligibility : DatabaseDelivery
  enqueue : RedisDelivery
  leave : RedisDelivery
  attempt : MatchCalls

/-- The clocks and the random identifiers that one command reads, whether Redis answers the game
services, and the calls to the others. -/
structure Moment where
  now : Millis
  transactionAt : Micros
  startAt : Micros
  snapshotAt : Micros
  correlationId : String
  requestEventId : String
  redisAvailable : Bool
  stamps : Stamps
  calls : ServiceCalls

/-- A message that has been sent, with the sockets that receive it, its `clientMoveId`, and the
instance that has sent it with what it had. -/
structure Emission where
  received : SocketId → Bool
  event : ServerEventEnvelope
  clientMoveId : Option String
  sender : ServerInstance
  fanout : Fanout

inductive MatchmakingFailureCode
  | alreadyInGame | dependencyUnavailable | matchAllocationConflict | notPresent
  | reservationMismatch
  deriving DecidableEq, Repr

structure MatchmakingError where
  code : MatchmakingFailureCode
  message : String
  retryable : Bool
  deriving DecidableEq, Repr

/-- Why a command has failed, before the services and `RealtimeErrorMapperService` map it. -/
inductive RealtimeFailure
  | invalidPayload
  | rateLimited (retryAfterMs : ℕ)
  | serviceUnavailable (retryAfterMs : Option ℕ)
  | matchmaking (error : MatchmakingError)
  | repository (error : RepositoryError)
  | schema (error : SchemaError)
  deriving DecidableEq, Repr

inductive RealtimeCommandResult
  | sessionReady (identity : SocketIdentity)
  | queueJoined (mode : MatchMode) (position : Option ℕ) (since : Millis)
  | queueLeft (mode : MatchMode)
  | gameSnapshot (gameVersion : ℕ) (payload : RecoveredPayload)
  | moveAccepted (gameVersion : ℕ) (payload : WirePayload)
  | gameEnded (gameVersion : ℕ) (payload : WirePayload)
  | heartbeatPong (presenceExpiresInMs : ℕ) (serverTime : Millis)
  deriving DecidableEq, Repr

structure Handled (σ : Type) where
  result : Except RealtimeFailure RealtimeCommandResult
  emissions : List Emission
  server : Server σ

/-- The services that are given no identifier of an envelope: the limits of the rates, presence and
the connections, and the queue. -/
structure Services (σ : Type) where
  consume : ClientEventName → GuestSessionId → Moment → σ → Except RealtimeFailure Unit × σ
  refresh : SocketIdentity → SocketId → Moment → Redis × σ → Redis × σ
  heartbeat : SocketIdentity → SocketId → Moment → Server σ → Handled σ
  joinQueue : SocketIdentity → MatchMode → Moment → Server σ → Handled σ
  leaveQueue : SocketIdentity → MatchMode → Moment → Server σ → Handled σ

namespace Server

variable {σ : Type}

/-- What is done in Redis; the failures are caught. -/
def inRedis (s : Server σ) (moment : Moment) (work : Server σ → Server σ) : Server σ :=
  if moment.redisAvailable then work s else s

def joinRoom (s : Server σ) (socket : SocketId) (room : String) : Server σ :=
  { s with rooms := Function.update s.rooms socket (Function.update (s.rooms socket) room true) }

/-! ### The timers of the games -/

def nextGeneration (s : Server σ) (gameId : String) : Server σ :=
  { s with
    generations :=
      Function.update s.generations gameId (some ((s.generations gameId).getD 0 + 1))
    timers := Function.update s.timers gameId none }

def cancel (s : Server σ) (gameId : String) : Server σ := s.nextGeneration gameId

def scheduleGame (s : Server σ) (gameId : String) (now : Millis) : Server σ :=
  let s := s.nextGeneration gameId
  match s.db.findDeadline (uuidOf gameId) with
  | none => s
  | some state =>
    let timer : ArmedTimer :=
      ⟨(s.generations gameId).getD 0,min maxTimerDelayMs (max 0 (state.deadline - now))⟩
    { s with timers := Function.update s.timers gameId (some timer) }

/-! ### `game-ephemeral-state.service.ts` -/

def delSnapshot (s : Server σ) (gameId : String) : Server σ :=
  { s with snapshots := Function.update s.snapshots gameId none }

def setGrace (s : Server σ) (gameId : GameId) (guestSessionId : GuestSessionId)
    (deadline : Option Millis) : Server σ :=
  { s with graces := Function.update s.graces (gameId,guestSessionId) deadline }

variable (config : AppConfig)

def clearActiveGame (s : Server σ) (guestSessionId : GuestSessionId) (expectedGameId : GameId) :
    Server σ :=
  { s with redis := (s.redis.clearActiveGame config guestSessionId expectedGameId).2 }

def restoreActiveGame (s : Server σ) (gameId : GameId) (guestSessionId : GuestSessionId) :
    Server σ :=
  let redis := s.redis.setActiveGame guestSessionId gameId
  { s with redis := redis.setState guestSessionId .inGame config.matchStateTtlMs }

def readSnapshot (s : Server σ) (gameId : String) (guestSessionId : GuestSessionId)
    (moment : Moment) : Option CachedGameSnapshot := do
  guard moment.redisAvailable
  let entry ← s.snapshots gameId
  let payload ← entry.payloads.lookup guestSessionId
  some ⟨entry.gameVersion,payload⟩

/-- The grace key of a player, as the snapshot has it. -/
def restoreGrace (s : Server σ) (gameId : GameId) (player : GamePlayerRecord) (now : Millis) :
    Server σ :=
  s.setGrace gameId player.guestSessionId
    (player.reconnectGraceEndsAt.filter fun graceEndsAt => decide (now < graceEndsAt))

def restoreSnapshot (s : Server σ) (snapshot : NamedSnapshot) (now : Millis) : Server σ :=
  match snapshotEntry snapshot with
  | none => s
  | some entry =>
    let game := snapshot.allocation.game
    let players := [snapshot.allocation.players.1,snapshot.allocation.players.2]
    let s := { s with snapshots := Function.update s.snapshots (uuidText game.id) (some entry) }
    let s := if game.status.terminal then s else
      players.foldl (fun s player => s.restoreActiveGame config game.id player.guestSessionId) s
    let s := players.foldl (fun s player => s.restoreGrace game.id player now) s
    if game.status.terminal then
      players.foldl (fun s player => s.clearActiveGame config player.guestSessionId game.id) s
    else s

def afterStart (s : Server σ) (gameId : String) (moment : Moment) : Server σ :=
  s.inRedis moment fun s => s.delSnapshot gameId

def afterTerminal (s : Server σ) (gameId : GameId) (guests : GuestSessionId × GuestSessionId)
    (moment : Moment) : Server σ :=
  s.inRedis moment fun s =>
    let s := [guests.1,guests.2].foldl (fun s guest =>
      { s.setGrace gameId guest none with redis := s.redis.delGuard guest })
      (s.delSnapshot (uuidText gameId))
    [guests.1,guests.2].foldl (fun s guest => s.clearActiveGame config guest gameId) s

def afterMove (s : Server σ) (submission : MoveSubmission) (moment : Moment) : Server σ :=
  if submission.ended.isSome then
    s.afterTerminal config submission.accepted.gameId submission.guestSessionIds moment
  else s.inRedis moment fun s => s.delSnapshot (uuidText submission.accepted.gameId)

/-! ### Deliveries -/

/-- `BroadcastService.emit`; the texts of the identifiers of moves are as `moveText` gives them. -/
def emit (s : Server σ) (sender : ServerInstance) (moveText : EventId → String) (room : String)
    (event : ServerEventEnvelope) : Emission where
  received socket := s.rooms socket room && s.instances.reaches sender socket
  event := event
  clientMoveId := event.draft.clientMoveId.map moveText
  sender := sender
  fanout := s.instances.fanout sender

def deliver (s : Server σ) (sender : ServerInstance) (moveText : EventId → String) :
    Delivery → List Emission × Server σ
  | .toGame gameId event => ([s.emit sender moveText (gameRoom (uuidText gameId)) event],s)
  | .toGuest guestSessionId event => ([s.emit sender moveText (guestRoom guestSessionId) event],s)
  | .cancelDeadline gameId => ([],s.cancel (uuidText gameId))
  | .scheduleRoomCleanup gameId =>
    ([],{ s with cleanups := Function.update s.cleanups (uuidText gameId) true })

def deliverAll (sender : ServerInstance) (moveText : EventId → String) (s : Server σ) :
    List Delivery → List Emission × Server σ
  | [] => ([],s)
  | delivery :: deliveries =>
    let first := s.deliver sender moveText delivery
    let rest := deliverAll sender moveText first.2 deliveries
    (first.1 ++ rest.1,rest.2)

/-- Messages that an instance builds and sends one after the other, up to the first that cannot be
built. -/
def publish (sender : ServerInstance) (moveText : EventId → String) (s : Server σ) :
    List (Except SchemaError (List Delivery)) → Except SchemaError Unit × List Emission × Server σ
  | [] => (.ok (),[],s)
  | .error e :: _ => (.error e,[],s)
  | .ok deliveries :: messages =>
    let first := s.deliverAll sender moveText deliveries
    let rest := publish sender moveText first.2 messages
    (rest.1,first.1 ++ rest.2.1,rest.2.2)

/-! ### The commands -/

def failed (s : Server σ) (failure : RealtimeFailure) : Handled σ := ⟨.error failure,[],s⟩

/-- The part of `GameRoomService.ready` that starts the game once both players are ready. -/
def startIfReady (s : Server σ) (allocation : GameAllocation) (gameId : String) (moment : Moment) :
    Except RepositoryError (Option StartedGame) × Server σ :=
  if allocation.game.status = .ready then
    let answer := s.db.startIfReady (uuidOf gameId) moment.startAt
    let s := { s with db := answer.2 }
    match answer.1 with
    | .error e => (.error e,s)
    | .ok result =>
      if result.started then
        match ReadyCall.startedGame result.allocation.game with
        | .error e => (.error (.service e),s)
        | .ok started => (.ok (some started),s.afterStart gameId moment)
      else (.ok none,s)
  else (.ok none,s)

def ready (s : Server σ) (gameId : String) (guestSessionId : GuestSessionId)
    (expectedVersion : ℕ) (moment : Moment) :
    Except RepositoryError (NamedSnapshot × Option StartedGame) × Server σ :=
  let answer := s.db.markReady ⟨expectedVersion,uuidOf gameId,guestSessionId,moment.now⟩
  let s := { s with db := answer.2 }
  match answer.1 with
  | .error e => (.error e,s)
  | .ok allocation =>
    let starting := s.startIfReady allocation gameId moment
    match starting.1 with
    | .error e => (.error e,starting.2)
    | .ok started =>
      match starting.2.db.namedSnapshot (uuidOf gameId) guestSessionId moment.snapshotAt with
      | .error e => (.error e,starting.2)
      | .ok snapshot => (.ok (snapshot,started),starting.2.scheduleGame gameId moment.now)

def readyGame (s : Server σ) (socket : SocketId) (guestSessionId : GuestSessionId)
    (gameId : String) (gameVersion : ℕ) (moment : Moment) : Handled σ :=
  match s.db.authorize (uuidOf gameId) guestSessionId with
  | .error e => s.failed (.repository (.service e))
  | .ok _ =>
    let s := s.joinRoom socket (gameRoom gameId)
    let readied := s.ready gameId guestSessionId gameVersion moment
    match readied.1 with
    | .error e => readied.2.failed (.repository e)
    | .ok (snapshot,started) =>
      let messages := started.toList.map fun started =>
        publishStarted started moment.stamps.started
      let published := readied.2.publish (s.instances.of socket) uuidText messages
      match published.1,presentNamed snapshot guestSessionId with
      | .error e,_ => ⟨.error (.schema e),published.2.1,published.2.2⟩
      | .ok _,none => ⟨.error (.repository (.database .unknown)),published.2.1,published.2.2⟩
      | .ok _,some payload =>
        ⟨.ok (.gameSnapshot snapshot.allocation.game.version payload),published.2.1,published.2.2⟩

/-- `GameRecoveryService.snapshot`, the key of the snapshot named by the text. -/
def recoverSnapshot (s : Server σ) (gameId : String) (guestSessionId : GuestSessionId)
    (moment : Moment) : Except RepositoryError RecoveredGameSnapshot × Server σ :=
  let cached := s.readSnapshot gameId guestSessionId moment
  match s.db.cachedSnapshot cached (uuidOf gameId) guestSessionId with
  | .error e => (.error e,s)
  | .ok (some recovered) => (.ok recovered,s)
  | .ok none =>
    match s.db.namedSnapshot (uuidOf gameId) guestSessionId moment.snapshotAt with
    | .error e => (.error e,s)
    | .ok snapshot =>
      match presentNamed snapshot guestSessionId with
      | none => (.error (.database .unknown),s)
      | some payload =>
        (.ok ⟨uuidOf gameId,snapshot.allocation.game.version,payload⟩,
          s.inRedis moment fun s => s.restoreSnapshot config snapshot moment.now)

def syncGame (s : Server σ) (socket : SocketId) (guestSessionId : GuestSessionId)
    (gameId : String) (moment : Moment) : Handled σ :=
  let recovered := s.recoverSnapshot config gameId guestSessionId moment
  match recovered.1 with
  | .error e => recovered.2.failed (.repository e)
  | .ok snapshot =>
    let s := recovered.2.joinRoom socket (gameRoom gameId)
    ⟨.ok (.gameSnapshot snapshot.gameVersion snapshot.payload),[],
      s.scheduleGame gameId moment.now⟩

def activeGameId (s : Server σ) (guestSessionId : GuestSessionId) (moment : Moment) :
    Option GameId × Server σ :=
  match (s.db.getGuestMatchEligibility guestSessionId moment.now).activeGameId with
  | some gameId =>
    (some gameId,s.inRedis moment fun s => s.restoreActiveGame config gameId guestSessionId)
  | none =>
    (none,s.inRedis moment fun s =>
      (s.redis.activeGames guestSessionId).elim s (s.clearActiveGame config guestSessionId))

/-- `game.sync` without a game: the snapshot of the active game, if there is one. -/
def syncActiveGame (s : Server σ) (socket : SocketId) (identity : SocketIdentity)
    (moment : Moment) : Handled σ :=
  match s.db.assignedGame identity.guestSessionId with
  | none => ⟨.ok (.sessionReady identity),[],s⟩
  | some _ =>
    let active := s.activeGameId config identity.guestSessionId moment
    match active.1 with
    | none => active.2.failed (.repository (.service
        (gameServiceError .gameNotFound "The guest has no active game." false)))
    | some gameId =>
      active.2.syncGame config socket identity.guestSessionId (uuidText gameId) moment

variable (chess : ChessEngine)

/-- The text of `clientMoveId` in the acknowledgement that is stored with a new move. -/
def storeMoveText (s : Server σ) (submission : MoveSubmission) (clientMoveId : String) :
    Server σ :=
  if submission.duplicate then s
  else
    let key := (submission.accepted.gameId,submission.accepted.clientMoveId)
    { s with moveTexts := Function.update s.moveTexts key (some clientMoveId) }

def submissionMessages (submission : MoveSubmission) (stamps : Stamps) :
    List (Except SchemaError (List Delivery)) :=
  if submission.duplicate then []
  else
    (submission.started.toList.map fun started => publishStarted started stamps.started) ++
      [publishAccepted submission.accepted stamps.accepted] ++
      submission.ended.toList.map fun ended =>
        CluChess.gameEnded ⟨false,ended,submission.guestSessionIds⟩ stamps.ended

/-- `submitMove` of the repository, with the read after a unique violation. -/
def submitOrRecover (db : Db) (input : SubmitMove) (observation : Micros) :
    Except RepositoryError MoveSubmission × Db :=
  match db.submitMove chess input observation with
  | (.error (.database .unique),db) => (db.recoverMove input,db)
  | answer => answer

/-- What `GameMoveService.submit` does once the move is in the database. -/
def afterSubmission (s : Server σ) (submission : MoveSubmission) (moment : Moment) : Server σ :=
  let s := s.afterMove config submission moment
  if submission.ended.isSome then s.cancel (uuidText submission.accepted.gameId)
  else s.scheduleGame (uuidText submission.accepted.gameId) moment.now

def submitMove (s : Server σ) (socket : SocketId) (guestSessionId : GuestSessionId)
    (clientMoveId gameId : String) (gameVersion : ℕ) (move : MoveInput) (moment : Moment) :
    Handled σ :=
  let answer := submitOrRecover chess s.db
    ⟨uuidOf clientMoveId,gameVersion,uuidOf gameId,guestSessionId,move⟩ moment.transactionAt
  let s := { s with db := answer.2 }
  match answer.1 with
  | .error e => s.failed (.repository e)
  | .ok submission =>
    let s := (s.storeMoveText submission clientMoveId).afterSubmission config submission moment
    let published := s.publish (s.instances.of socket) (fun _ => clientMoveId)
      (submissionMessages submission moment.stamps)
    match published.1 with
    | .error e => ⟨.error (.schema e),published.2.1,published.2.2⟩
    | .ok _ =>
      ⟨.ok (.moveAccepted submission.accepted.gameVersion (acceptedPayload submission.accepted)),
        published.2.1,published.2.2⟩

def resignOrRecover (db : Db) (input : ResignGame) (observation : Micros) :
    Except RepositoryError TerminalSubmission × Db :=
  match db.resign input observation with
  | (.error (.database .unique),db) => (db.recoverResignation input,db)
  | answer => answer

def resignGame (s : Server σ) (socket : SocketId) (guestSessionId : GuestSessionId)
    (eventId gameId : String) (gameVersion : ℕ) (moment : Moment) : Handled σ :=
  let answer := resignOrRecover s.db ⟨uuidOf eventId,gameVersion,uuidOf gameId,guestSessionId⟩
    moment.transactionAt
  let s := { s with db := answer.2 }
  match answer.1 with
  | .error e => s.failed (.repository e)
  | .ok submission =>
    let s := s.afterTerminal config submission.ended.gameId submission.guestSessionIds moment
    let published := s.publish (s.instances.of socket) uuidText
      [completeTerminal submission moment.stamps.ended]
    match published.1 with
    | .error e => ⟨.error (.schema e),published.2.1,published.2.2⟩
    | .ok _ =>
      ⟨.ok (.gameEnded submission.ended.gameVersion (endedPayload submission.ended)),
        published.2.1,published.2.2⟩

/-! ### The gateway -/

variable (services : Services σ)

def executeEvent (s : Server σ) (socket : SocketId) (identity : SocketIdentity)
    (envelope : ClientEventEnvelope) (moment : Moment) : Handled σ :=
  let guestSessionId := identity.guestSessionId
  match envelope.command with
  | .heartbeatPing _ => services.heartbeat identity socket moment s
  | .queueJoin mode => services.joinQueue identity mode moment s
  | .queueLeave mode => services.leaveQueue identity mode moment s
  | .gameReady gameId gameVersion => s.readyGame socket guestSessionId gameId gameVersion moment
  | .gameSync gameId _ =>
    let refreshed := services.refresh identity socket moment (s.redis,s.rest)
    let s := { s with redis := refreshed.1, rest := refreshed.2 }
    match gameId with
    | some gameId => s.syncGame config socket guestSessionId gameId moment
    | none => s.syncActiveGame config socket identity moment
  | .moveSubmit clientMoveId gameId gameVersion move =>
    s.submitMove config chess socket guestSessionId clientMoveId gameId gameVersion move moment
  | .gameResign gameId gameVersion =>
    s.resignGame config socket guestSessionId envelope.eventId gameId gameVersion moment

end Server

def RealtimeCommandResult.schema : RealtimeCommandResult → Bool
  | .sessionReady identity => isUuidV4 identity.guestSessionId && identitySchema identity.identity
  | .queueJoined _ position since =>
    position.all (fun position : ℕ => isNonnegativeInt position && decide (0 < position)) &&
      isNonnegativeInt since
  | .queueLeft _ => true
  | .gameSnapshot gameVersion payload =>
    isNonnegativeInt gameVersion && gameSnapshotPayloadSchema payload
  | .moveAccepted gameVersion payload | .gameEnded gameVersion payload =>
    isNonnegativeInt gameVersion && payload.schema
  | .heartbeatPong presenceExpiresInMs serverTime =>
    isNonnegativeInt presenceExpiresInMs && decide (0 < presenceExpiresInMs) &&
      isNonnegativeInt serverTime

structure Ack where
  requestEventId : String
  correlationId : String
  outcome : Except RealtimeFailure RealtimeCommandResult

structure Reply where
  ack : Option Ack
  emissions : List Emission

/-- The `correlationId` of a command, in lower case, or the one that is made up for it. -/
def ClientEventEnvelope.correlation (envelope : ClientEventEnvelope) (moment : Moment) : String :=
  match envelope.correlationId with
  | some id => if isUuidV4Text id then id.toLower else moment.correlationId
  | none => moment.correlationId

/-- The identifier that a failure echoes, in lower case. -/
def ClientEventEnvelope.requestEventId (envelope : ClientEventEnvelope) (moment : Moment) :
    String :=
  if isUuidV4Text envelope.eventId then envelope.eventId.toLower else moment.requestEventId

/-- The acknowledgement of a result. A success echoes the `eventId` as it was sent. -/
def acknowledge (envelope : ClientEventEnvelope) (moment : Moment)
    (result : Except RealtimeFailure RealtimeCommandResult) : Ack :=
  let correlationId := envelope.correlation moment
  match result with
  | .error failure => ⟨envelope.requestEventId moment,correlationId,.error failure⟩
  | .ok result =>
    if result.schema then ⟨envelope.eventId,correlationId,.ok result⟩
    else ⟨envelope.requestEventId moment,correlationId,.error (.schema .zodError)⟩

section Gateway

variable {σ : Type} (config : AppConfig) (chess : ChessEngine) (services : Services σ)

def Server.handleIncoming (s : Server σ) (socket : SocketId) (identity : SocketIdentity)
    (envelope : ClientEventEnvelope) (moment : Moment) : Reply × Server σ :=
  if clientEnvelopeSchema envelope = false then
    (⟨some (acknowledge envelope moment (.error .invalidPayload)),[]⟩,s)
  else
    let consumed := services.consume envelope.command.eventName identity.guestSessionId moment
      s.rest
    let s := { s with rest := consumed.2 }
    match consumed.1 with
    | .error failure => (⟨some (acknowledge envelope moment (.error failure)),[]⟩,s)
    | .ok _ =>
      let handled := s.executeEvent config chess services socket identity envelope moment
      (⟨some (acknowledge envelope moment handled.result),handled.emissions⟩,handled.server)

/-- A command of a client, or anything else that the server does: its jobs, its timers, the
sockets that come and go, the keys that expire. -/
inductive ServerInput (σ : Type)
  | command (socket : SocketId) (identity : SocketIdentity) (envelope : ClientEventEnvelope)
      (moment : Moment)
  | other (act : Server σ → List Emission × Server σ)

def realtime : Machine (Server σ) (ServerInput σ) Reply where
  step s
    | .command socket identity envelope moment =>
      s.handleIncoming config chess services socket identity envelope moment
    | .other act => (⟨none,(act s).1⟩,(act s).2)

end Gateway

end CluChess
