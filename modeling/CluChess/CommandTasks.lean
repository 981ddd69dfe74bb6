import CluChess.AcknowledgedMoves
import CluChess.ActiveGameKeys
import CluChess.RealtimeCommands
import CluChess.SendableOutcomes

/-! The commands of the games at their `await`s (`matchmaking-realtime.service.ts`,
`game-room.service.ts`, `game-move.service.ts`, `game-recovery.service.ts`). A handler is a task
whose steps interleave with those of any other handler, with the transactions of the jobs and with
sockets that come and go. `game.ready` enters the room of the game before it reads the snapshot,
`game.sync` after; a move is announced some time after it is committed. A message reaches the
sockets of its room in the step that sends it: those of every instance, unless the adapter of the
sender is not ready. -/
namespace CluChess

/-- The server, the broadcasts, and what the sockets have received, oldest first: the broadcasts
that reach them and the acknowledged results. `reads` is what the handler of a `game.ready` has
read of the moves. -/
structure CommandState (σ : Type) where
  server : Server σ
  sent : List Emission
  inbox : SocketId → List ServerEventEnvelope
  answers : SocketId → List (ClientCommand × RealtimeCommandResult)
  reads : SocketId → List (String × List MoveRow)

inductive CommandTask
  | submitted (socket : SocketId) (clientMoveId gameId : String) (gameVersion : ℕ)
      (move : MoveInput) (moment : Moment) (submission : MoveSubmission)
  | joined (socket : SocketId) (gameId : String) (gameVersion : ℕ) (moment : Moment)
  | readied (socket : SocketId) (gameId : String) (gameVersion : ℕ) (moment : Moment)
      (allocation : GameAllocation)
  | started (socket : SocketId) (gameId : String) (gameVersion : ℕ) (moment : Moment)
      (started : Option StartedGame)
  | viewed (socket : SocketId) (gameId : String) (gameVersion : ℕ) (moment : Moment)
      (snapshot : NamedSnapshot) (started : Option StartedGame)
  | syncing (socket : SocketId) (command : ClientCommand) (gameId : String) (moment : Moment)
  | recovered (socket : SocketId) (command : ClientCommand) (gameId : String) (moment : Moment)
      (snapshot : RecoveredGameSnapshot)
  | terminated (sender : ServerInstance) (stamp : Stamp) (submission : TerminalSubmission)

/-- The instance that runs a handler: that of its socket, or any for a job. -/
def CommandTask.sender (instances : Instances) : CommandTask → ServerInstance
  | .submitted socket _ _ _ _ _ _ | .joined socket _ _ _ | .readied socket _ _ _ _
  | .started socket _ _ _ _ | .viewed socket _ _ _ _ _ | .syncing socket _ _ _
  | .recovered socket _ _ _ _ => instances.of socket
  | .terminated sender _ _ => sender

structure Moment.Valid (moment : Moment) : Prop where
  transactionAt : Micros.isInstant moment.transactionAt
  startAt : Micros.isInstant moment.startAt
  stamps : moment.stamps.Valid

namespace CommandState

variable {σ : Type}

def withServer (s : CommandState σ) (server : Server σ) : CommandState σ :=
  { s with server := server }

def receive (s : CommandState σ) (emissions : List Emission) : CommandState σ :=
  { s with
    sent := s.sent ++ emissions
    inbox := fun socket => s.inbox socket ++
      (emissions.filter fun emission => emission.received socket).map Emission.event }

def answer (s : CommandState σ) (socket : SocketId) (command : ClientCommand)
    (result : RealtimeCommandResult) : CommandState σ :=
  { s with
    answers := Function.update s.answers socket (s.answers socket ++ [(command,result)]) }

/-- The moves of a game are read for a socket. -/
def read (s : CommandState σ) (socket : SocketId) (gameId : String) : CommandState σ :=
  { s with
    reads := Function.update s.reads socket
      (s.reads socket ++ [(gameId,s.server.db.movesOf (uuidOf gameId))]) }

/-- The messages are sent, and the command is acknowledged if all of them could be built. -/
def publish (s : CommandState σ) (sender : ServerInstance) (moveText : EventId → String)
    (messages : List (Except SchemaError (List Delivery)))
    (ack : Option (SocketId × ClientCommand × RealtimeCommandResult)) : CommandState σ :=
  let published := s.server.publish sender moveText messages
  let sent := (s.withServer published.2.2).receive published.2.1
  match published.1,ack with
  | .ok _,some (socket,command,result) => sent.answer socket command result
  | _,_ => sent

end CommandState

/-- The end of a game that a transaction other than a move has committed. -/
def Answer.terminalSubmission : Answer → Option TerminalSubmission
  | .resignation (.ok submission) => some submission
  | .terminal (.ok submission) => submission
  | _ => none

section Tasks

variable {σ : Type} (config : AppConfig) (chess : ChessEngine) (guestOf : SocketId → GuestSessionId)
  (stays : SocketId → String → Prop)

/-- The next step of a handler. Whatever fails ends it. -/
inductive CommandTask.Step : CommandTask → CommandState σ → CommandState σ →
    Multiset CommandTask → Prop
  | published {s : CommandState σ} {socket : SocketId} {clientMoveId gameId : String}
      {gameVersion : ℕ} {move : MoveInput} {moment : Moment} {submission : MoveSubmission} :
      Step (.submitted socket clientMoveId gameId gameVersion move moment submission) s
        ((s.withServer (s.server.afterSubmission config submission moment)).publish
          (s.server.instances.of socket) (fun _ => clientMoveId)
          (Server.submissionMessages submission moment.stamps)
          (some (socket,.moveSubmit clientMoveId gameId gameVersion move,
            .moveAccepted submission.accepted.gameVersion (acceptedPayload submission.accepted))))
        0
  | markReady {s : CommandState σ} {socket : SocketId} {gameId : String} {gameVersion : ℕ}
      {moment : Moment} {result : Except RepositoryError GameAllocation} {db : Db}
      (h : s.server.db.markReady ⟨gameVersion,uuidOf gameId,guestOf socket,moment.now⟩ =
        (result,db)) :
      Step (.joined socket gameId gameVersion moment) s (s.withServer { s.server with db := db })
        (result.toOption.toList.map (.readied socket gameId gameVersion moment) :
          List CommandTask)
  | startIfReady {s : CommandState σ} {socket : SocketId} {gameId : String} {gameVersion : ℕ}
      {moment : Moment} {allocation : GameAllocation}
      {result : Except RepositoryError (Option StartedGame)} {server : Server σ}
      (h : s.server.startIfReady allocation gameId moment = (result,server)) :
      Step (.readied socket gameId gameVersion moment allocation) s (s.withServer server)
        (result.toOption.toList.map (.started socket gameId gameVersion moment) :
          List CommandTask)
  | snapshot {s : CommandState σ} {socket : SocketId} {gameId : String} {gameVersion : ℕ}
      {moment : Moment} {started : Option StartedGame} {snapshot : NamedSnapshot}
      (h : s.server.db.namedSnapshot (uuidOf gameId) (guestOf socket) moment.snapshotAt =
        .ok snapshot) :
      Step (.started socket gameId gameVersion moment started) s (s.read socket gameId)
        {.viewed socket gameId gameVersion moment snapshot started}
  | snapshotFailed {s : CommandState σ} {socket : SocketId} {gameId : String} {gameVersion : ℕ}
      {moment : Moment} {started : Option StartedGame} {e : RepositoryError}
      (h : s.server.db.namedSnapshot (uuidOf gameId) (guestOf socket) moment.snapshotAt =
        .error e) :
      Step (.started socket gameId gameVersion moment started) s s 0
  | presented {s : CommandState σ} {socket : SocketId} {gameId : String} {gameVersion : ℕ}
      {moment : Moment} {started : Option StartedGame} {snapshot : NamedSnapshot} :
      Step (.viewed socket gameId gameVersion moment snapshot started) s
        ((s.withServer (s.server.scheduleGame gameId moment.now)).publish
          (s.server.instances.of socket) uuidText
          (started.toList.map fun started => publishStarted started moment.stamps.started)
          ((presentNamed snapshot (guestOf socket)).map fun payload =>
            (socket,.gameReady gameId gameVersion,
              .gameSnapshot snapshot.allocation.game.version payload)))
        0
  | recoverSnapshot {s : CommandState σ} {socket : SocketId} {command : ClientCommand}
      {gameId : String} {moment : Moment} {result : Except RepositoryError RecoveredGameSnapshot}
      {server : Server σ}
      (h : s.server.recoverSnapshot config gameId (guestOf socket) moment = (result,server)) :
      Step (.syncing socket command gameId moment) s (s.withServer server)
        (result.toOption.toList.map (.recovered socket command gameId moment) : List CommandTask)
  | entered {s : CommandState σ} {socket : SocketId} {command : ClientCommand} {gameId : String}
      {moment : Moment} {snapshot : RecoveredGameSnapshot} :
      Step (.recovered socket command gameId moment snapshot) s
        ((s.withServer ((s.server.joinRoom socket (gameRoom gameId)).scheduleGame gameId
          moment.now)).answer socket command
            (.gameSnapshot snapshot.gameVersion snapshot.payload))
        0
  | ended {s : CommandState σ} {sender : ServerInstance} {stamp : Stamp}
      {submission : TerminalSubmission} :
      Step (.terminated sender stamp submission) s
        (s.publish sender uuidText [completeTerminal submission stamp] none) 0

/-- A command comes in and its handler runs up to its first `await`; a job or a request of an
instance commits a transaction; a socket enters the room of its guest, or leaves a room it need not
stay in; and the keys of Redis, the timers and what the instances have to send with change. The
snapshot that a new connection is sent goes the way of a `game.sync`. -/
inductive CommandEvent : CommandState σ → CommandState σ → Multiset CommandTask → Prop
  | submitMove {s : CommandState σ} {socket : SocketId} {clientMoveId gameId : String}
      {gameVersion : ℕ} {move : MoveInput} {moment : Moment}
      {result : Except RepositoryError MoveSubmission} {db : Db}
      (hs : clientCommandSchema (.moveSubmit clientMoveId gameId gameVersion move) = true)
      (hm : moment.Valid)
      (h : Server.submitOrRecover chess s.server.db
        ⟨uuidOf clientMoveId,gameVersion,uuidOf gameId,guestOf socket,move⟩ moment.transactionAt =
          (result,db)) :
      CommandEvent s (s.withServer { s.server with db := db })
        (result.toOption.toList.map
          (.submitted socket clientMoveId gameId gameVersion move moment) : List CommandTask)
  | readyGame {s : CommandState σ} {socket : SocketId} {gameId : String} {gameVersion : ℕ}
      {moment : Moment} {allocation : GameAllocation}
      (hs : clientCommandSchema (.gameReady gameId gameVersion) = true) (hm : moment.Valid)
      (h : s.server.db.authorize (uuidOf gameId) (guestOf socket) = .ok allocation) :
      CommandEvent s (s.withServer (s.server.joinRoom socket (gameRoom gameId)))
        {.joined socket gameId gameVersion moment}
  | syncGame {s : CommandState σ} {socket : SocketId} {gameId : String}
      {gameVersion : Option ℕ} {moment : Moment}
      (hs : clientCommandSchema (.gameSync (some gameId) gameVersion) = true) :
      CommandEvent s s {.syncing socket (.gameSync (some gameId) gameVersion) gameId moment}
  | syncActiveGame {s : CommandState σ} {socket : SocketId} {gameId : GameId}
      {gameVersion : Option ℕ} {moment : Moment} {server : Server σ}
      (h : s.server.activeGameId config (guestOf socket) moment = (some gameId,server)) :
      CommandEvent s (s.withServer server)
        {.syncing socket (.gameSync none gameVersion) (uuidText gameId) moment}
  | operation {s : CommandState σ} {op : Operation} {sender : ServerInstance} {stamp : Stamp}
      (hn : op.submitted = none) (hop : op.Served chess) (hs : stamp.Valid) :
      CommandEvent s (s.withServer { s.server with db := (execute chess s.server.db op).2 })
        ((execute chess s.server.db op).1.terminalSubmission.toList.map
          (.terminated sender stamp) : List CommandTask)
  | connect {s : CommandState σ} {socket : SocketId} :
      CommandEvent s (s.withServer (s.server.joinRoom socket (guestRoom (guestOf socket)))) 0
  | leave {s : CommandState σ} {socket : SocketId} {room : String} (h : ¬ stays socket room) :
      CommandEvent s (s.withServer { s.server with
        rooms := Function.update s.server.rooms socket
          (Function.update (s.server.rooms socket) room false) }) 0
  | elsewhere {s : CommandState σ} {server : Server σ} (hdb : server.db = s.server.db)
      (hrooms : server.rooms = s.server.rooms)
      (hof : server.instances.of = s.server.instances.of) : CommandEvent s (s.withServer server) 0

def commands : System (CommandState σ) CommandTask where
  env := CommandEvent config chess guestOf stays
  step := CommandTask.Step config guestOf

end Tasks

/-! ### What the services leave alone -/

/-- The database, the rooms and the instances are the same, and what the other services keep. -/
structure Server.Alike {σ : Type} (s s' : Server σ) : Prop where
  db : s'.db = s.db
  rooms : s'.rooms = s.rooms
  instances : s'.instances = s.instances
  rest : s'.rest = s.rest

namespace Server

variable {σ : Type} {config : AppConfig} {s s' s'' : Server σ} {moment : Moment}

theorem Alike.refl (s : Server σ) : Alike s s := ⟨rfl,rfl,rfl,rfl⟩

theorem Alike.trans (h : Alike s s') (h' : Alike s' s'') : Alike s s'' :=
  ⟨h'.db.trans h.db,h'.rooms.trans h.rooms,h'.instances.trans h.instances,h'.rest.trans h.rest⟩

theorem alike_foldl {α : Type} {f : Server σ → α → Server σ} (hf : ∀ s a, Alike s (f s a))
    (s : Server σ) (l : List α) : Alike s (l.foldl f s) := by
  induction l generalizing s with
  | nil => exact .refl s
  | cons a l ih => exact (hf s a).trans (ih _)

theorem alike_inRedis {work : Server σ → Server σ} (h : ∀ s, Alike s (work s)) (s : Server σ) :
    Alike s (s.inRedis moment work) := by
  unfold inRedis
  split_ifs
  · exact h s
  · exact .refl s

theorem alike_scheduleGame (s : Server σ) (gameId : String) (now : Millis) :
    Alike s (s.scheduleGame gameId now) := by
  unfold scheduleGame
  simp only
  split <;> exact ⟨rfl,rfl,rfl,rfl⟩

theorem alike_cancel (s : Server σ) (gameId : String) : Alike s (s.cancel gameId) := ⟨rfl,rfl,rfl,rfl⟩

theorem alike_delSnapshot (s : Server σ) (gameId : String) : Alike s (s.delSnapshot gameId) :=
  ⟨rfl,rfl,rfl,rfl⟩

theorem alike_clearActiveGame (s : Server σ) (guest : GuestSessionId) (gameId : GameId) :
    Alike s (s.clearActiveGame config guest gameId) := ⟨rfl,rfl,rfl,rfl⟩

theorem alike_restoreActiveGame (s : Server σ) (gameId : GameId) (guest : GuestSessionId) :
    Alike s (s.restoreActiveGame config gameId guest) := ⟨rfl,rfl,rfl,rfl⟩

theorem alike_restoreGrace (s : Server σ) (gameId : GameId) (player : GamePlayerRecord)
    (now : Millis) : Alike s (s.restoreGrace gameId player now) := ⟨rfl,rfl,rfl,rfl⟩

theorem alike_afterTerminal (s : Server σ) (gameId : GameId)
    (guests : GuestSessionId × GuestSessionId) :
    Alike s (s.afterTerminal config gameId guests moment) := by
  unfold afterTerminal
  refine alike_inRedis (fun s => ?_) s
  have hkeys : ∀ (s : Server σ) (guest : GuestSessionId),
      Alike s { s.setGrace gameId guest none with redis := s.redis.delGuard guest } :=
    fun _ _ => ⟨rfl,rfl,rfl,rfl⟩
  exact (alike_delSnapshot s _).trans ((alike_foldl hkeys _ _).trans
    (alike_foldl (fun s guest => alike_clearActiveGame s guest gameId) _ _))

theorem alike_afterSubmission (s : Server σ) (submission : MoveSubmission) :
    Alike s (s.afterSubmission config submission moment) := by
  have hafter : Alike s (s.afterMove config submission moment) := by
    unfold afterMove
    split_ifs
    · exact alike_afterTerminal s _ _
    · exact alike_inRedis (fun s => alike_delSnapshot s _) s
  unfold afterSubmission
  simp only
  split_ifs
  · exact hafter.trans (alike_cancel _ _)
  · exact hafter.trans (alike_scheduleGame _ _ _)

theorem alike_restoreSnapshot (s : Server σ) (snapshot : NamedSnapshot) (now : Millis) :
    Alike s (s.restoreSnapshot config snapshot now) := by
  have hgrace : ∀ (s : Server σ) (player : GamePlayerRecord),
      Alike s (s.restoreGrace snapshot.allocation.game.id player now) :=
    fun s player => alike_restoreGrace s _ player now
  have hactive : ∀ (s : Server σ) (player : GamePlayerRecord), Alike s
      (s.restoreActiveGame config snapshot.allocation.game.id player.guestSessionId) :=
    fun s player => alike_restoreActiveGame s _ _
  have hclear : ∀ (s : Server σ) (player : GamePlayerRecord), Alike s
      (s.clearActiveGame config player.guestSessionId snapshot.allocation.game.id) :=
    fun s player => alike_clearActiveGame s _ _
  unfold restoreSnapshot
  cases snapshotEntry snapshot with
  | none => exact .refl s
  | some entry =>
    have hentry : Alike s { s with
        snapshots := Function.update s.snapshots (uuidText snapshot.allocation.game.id)
          (some entry) } := ⟨rfl,rfl,rfl,rfl⟩
    simp only
    split_ifs
    · exact (hentry.trans (alike_foldl hgrace _ _)).trans (alike_foldl hclear _ _)
    · exact (hentry.trans (alike_foldl hactive _ _)).trans (alike_foldl hgrace _ _)

theorem alike_recoverSnapshot {gameId : String} {guest : GuestSessionId}
    {result : Except RepositoryError RecoveredGameSnapshot}
    (h : s.recoverSnapshot config gameId guest moment = (result,s')) : Alike s s' := by
  have hs' : (s.recoverSnapshot config gameId guest moment).2 = s' := congrArg Prod.snd h
  rw [← hs']
  unfold recoverSnapshot
  simp only
  split
  · exact .refl s
  · exact .refl s
  · split
    · exact .refl s
    · split
      · exact .refl s
      · exact alike_inRedis (fun s => alike_restoreSnapshot s _ _) s

theorem alike_activeGameId {guest : GuestSessionId} {active : Option GameId}
    (h : s.activeGameId config guest moment = (active,s')) : Alike s s' := by
  have hclear : ∀ s : Server σ,
      Alike s ((s.redis.activeGames guest).elim s (s.clearActiveGame config guest)) := by
    intro s
    cases s.redis.activeGames guest with
    | none => exact .refl s
    | some gameId => exact alike_clearActiveGame s _ _
  have hs' : (s.activeGameId config guest moment).2 = s' := congrArg Prod.snd h
  rw [← hs']
  unfold activeGameId
  split
  · exact alike_inRedis (fun s => alike_restoreActiveGame s _ _) s
  · exact alike_inRedis hclear s

section Deliveries

variable (sender : ServerInstance) (moveText : EventId → String)

theorem alike_deliver (s : Server σ) (delivery : Delivery) :
    Alike s (s.deliver sender moveText delivery).2 := by
  cases delivery with
  | toGame gameId event => exact .refl s
  | toGuest guestSessionId event => exact .refl s
  | cancelDeadline gameId => exact alike_cancel s _
  | scheduleRoomCleanup gameId =>
    unfold deliver
    exact ⟨rfl,rfl,rfl,rfl⟩

theorem alike_deliverAll (s : Server σ) (deliveries : List Delivery) :
    Alike s (s.deliverAll sender moveText deliveries).2 := by
  induction deliveries generalizing s with
  | nil => exact .refl s
  | cons delivery deliveries ih => exact (alike_deliver sender moveText s delivery).trans (ih _)

theorem alike_publish (s : Server σ) (messages : List (Except SchemaError (List Delivery))) :
    Alike s (s.publish sender moveText messages).2.2 := by
  induction messages generalizing s with
  | nil => exact .refl s
  | cons message messages ih =>
    cases message with
    | error e => exact .refl s
    | ok deliveries => exact (alike_deliverAll sender moveText s deliveries).trans (ih _)

end Deliveries

theorem startIfReady_db (chess : ChessEngine) {allocation : GameAllocation} {gameId : String}
    {result : Except RepositoryError (Option StartedGame)}
    (h : s.startIfReady allocation gameId moment = (result,s')) :
    Alike { s with db := s'.db } s' ∧ (s'.db = s.db ∨
      s'.db = (execute chess s.db (.startIfReady (uuidOf gameId) moment.startAt)).2) := by
  unfold startIfReady at h
  split_ifs at h
  · simp only at h
    split at h
    · cases h
      exact ⟨⟨rfl,rfl,rfl,rfl⟩,Or.inr rfl⟩
    · split_ifs at h
      · split at h
        · cases h
          exact ⟨⟨rfl,rfl,rfl,rfl⟩,Or.inr rfl⟩
        · obtain ⟨_,rfl⟩ := Prod.mk.inj h
          have hstart : Alike { s with db := (s.db.startIfReady (uuidOf gameId) moment.startAt).2 }
              (afterStart { s with db := (s.db.startIfReady (uuidOf gameId) moment.startAt).2 }
                gameId moment) := alike_inRedis (fun s => alike_delSnapshot s _) _
          exact ⟨⟨rfl,hstart.rooms,hstart.instances,hstart.rest⟩,Or.inr hstart.db⟩
      · cases h
        exact ⟨⟨rfl,rfl,rfl,rfl⟩,Or.inr rfl⟩
  · cases h
    exact ⟨⟨rfl,rfl,rfl,rfl⟩,Or.inl rfl⟩

end Server

end CluChess
