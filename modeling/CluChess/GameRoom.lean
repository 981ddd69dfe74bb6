import CluChess.ClockAgreement
import CluChess.RepositoryMachine

/-! `game-room.service.ts`: the snapshot of a game, and a player's report of readiness, which is
two transactions and a read that interleave with everything else. What the service does in Redis
and with its timers cannot fail and changes no row. -/
namespace CluChess

/-- `GameSnapshotRecord`; the moves are the rows in the order of their plies. -/
structure GameSnapshotRecord where
  allocation : GameAllocation
  moves : List MoveRow
  observedAt : Date
  deriving DecidableEq, Repr

structure GameSnapshotView where
  snapshot : GameSnapshotRecord
  clocks : ClockView
  deriving DecidableEq, Repr

structure ReadyGameResult where
  snapshot : GameSnapshotView
  started : Option StartedGame
  deriving DecidableEq, Repr

namespace Db

def mapSnapshot (game : PersistedGame) (observedAt : Date) :
    Except GameServiceError GameSnapshotRecord :=
  (mapAllocation game).map (⟨·,game.moves,observedAt⟩)

def findSnapshot (db : Db) (gameId : GameId) (observation : Micros) :
    Except GameServiceError (Option GameSnapshotRecord) :=
  match db.games.find gameId with
  | none => .ok none
  | some game => (mapSnapshot game (.valid (truncatedToMillis observation))).map some

/-- The clock that `snapshot` passes to `clockViewAt`. -/
def snapshotClock (game : GameRecord) : GameClock :=
  let running := if game.status = .inProgress ∨ game.status = .reconnecting then
    some game.turnColor else none
  { blackMs := game.blackClockMs
    incrementMs := game.incrementMs
    running := running
    turnStartedAt := if running = none then none else game.turnStartedAt.map .valid
    whiteMs := game.whiteClockMs }

def snapshot (db : Db) (gameId : GameId) (guestSessionId : GuestSessionId)
    (observation : Micros) : Except GameServiceError GameSnapshotView := do
  match ← db.findSnapshot gameId observation with
  | none => .error (gameServiceError .gameNotFound "The requested game does not exist." false)
  | some snapshot =>
    if guestSessionId ∉ snapshot.allocation.guests then
      .error (gameServiceError .notAPlayer
        "The authenticated guest is not a member of this game." false)
    else
      match clockViewAt (snapshotClock snapshot.allocation.game) snapshot.observedAt with
      | .error _ => .error (gameServiceError .gameStateCorrupt
          "The persisted game clock is inconsistent." false)
      | .ok clocks => .ok ⟨snapshot,clocks⟩

end Db

/-- The statement that a call of `ready` runs next, or what the call has returned. -/
inductive ReadyPhase
  | markReady
  | startIfReady
  | snapshot (started : Option StartedGame)
  | returned (result : Except RepositoryError ReadyGameResult)

def ReadyPhase.isReturned : ReadyPhase → Bool
  | .returned _ => true
  | _ => false

def ReadyPhase.isOk : ReadyPhase → Bool
  | .returned (.ok _) => true
  | _ => false

structure ReadyCall where
  input : MarkGameReady
  phase : ReadyPhase

namespace ReadyCall

def startedGame (game : GameRecord) : Except GameServiceError StartedGame :=
  match game.startedAt with
  | none => .error (gameServiceError .gameStateCorrupt
      "A started game has no authoritative start time." false)
  | some startedAt => .ok {
      clocks := ⟨game.blackClockMs,startedAt,some .w,game.whiteClockMs⟩
      gameId := game.id
      gameVersion := game.version
      initialFen := game.initialFen }

def afterMarkReady : Except RepositoryError GameAllocation → ReadyPhase
  | .error e => .returned (.error e)
  | .ok allocation => if allocation.game.status = .ready then .startIfReady else .snapshot none

def afterStartIfReady : Except RepositoryError StartGameResult → ReadyPhase
  | .error e => .returned (.error e)
  | .ok result =>
    if result.started then
      match startedGame result.allocation.game with
      | .error e => .returned (.error (.service e))
      | .ok started => .snapshot (some started)
    else .snapshot none

def advance (db : Db) (call : ReadyCall) (observation : Micros) : ReadyPhase × Db :=
  match call.phase with
  | .markReady => Prod.map afterMarkReady id (db.markReady call.input)
  | .startIfReady =>
    Prod.map afterStartIfReady id (db.startIfReady call.input.gameId observation)
  | .snapshot started =>
    (.returned (((db.snapshot call.input.gameId call.input.guestSessionId observation).map
      (⟨·,started⟩)).mapError .service),db)
  | .returned result => (.returned result,db)

end ReadyCall

structure GameRoom where
  db : Db
  calls : List ReadyCall

/-- A choice of the scheduler: a new call, the next transaction of a call or its failure, or any
operation of the repositories. -/
inductive RoomEvent
  | call (input : MarkGameReady)
  | advance (index : ℕ) (observation : Micros)
  | abort (index : ℕ) (kind : DatabaseErrorKind)
  | execute (operation : Operation)

namespace GameRoom

inductive Reply
  | ready (input : MarkGameReady) (result : Except RepositoryError ReadyGameResult)
  | operation (operation : Operation) (answer : Answer)

/-- The call of a player has been refused. A transaction that fails is no refusal. -/
def Reply.refuses (id : GameId) : Reply → Prop
  | .ready input (.error (.service _)) => input.gameId = id
  | _ => False

/-- A result that is not a duplicate has `started` set. -/
def Reply.started (id : GameId) : Reply → Option StartedGame
  | .ready input (.ok r) => if input.gameId = id then r.started else none
  | .operation _ (.move (.ok s)) =>
    if s.duplicate = false ∧ s.accepted.gameId = id then s.started else none
  | _ => none

def replyOf (input : MarkGameReady) : ReadyPhase → Option Reply
  | .returned result => some (.ready input result)
  | _ => none

def pending (room : GameRoom) (index : ℕ) : Option ReadyCall :=
  room.calls[index]?.filter fun call => !call.phase.isReturned

def goOn (room : GameRoom) (index : ℕ) (input : MarkGameReady) (phase : ReadyPhase) (db : Db) :
    Option Reply × GameRoom :=
  (replyOf input phase,⟨db,room.calls.set index ⟨input,phase⟩⟩)

def step (chess : ChessEngine) (room : GameRoom) : RoomEvent → Option Reply × GameRoom
  | .call input => (none,{ room with calls := room.calls ++ [⟨input,.markReady⟩] })
  | .advance index observation =>
    match room.pending index with
    | none => (none,room)
    | some call =>
      let (phase,db) := call.advance room.db observation
      room.goOn index call.input phase db
  | .abort index kind =>
    match room.pending index with
    | none => (none,room)
    | some call => room.goOn index call.input (.returned (.error (.database kind))) room.db
  | .execute operation =>
    let (answer,db) := execute chess room.db operation
    (some (.operation operation answer),{ room with db := db })

end GameRoom

def gameRooms (chess : ChessEngine) : Machine GameRoom RoomEvent (Option GameRoom.Reply) :=
  ⟨GameRoom.step chess⟩

section Lemmas

variable {chess : ChessEngine} {db db' : Db} {g : PersistedGame}

theorem advance_execute (chess : ChessEngine) {call : ReadyCall} {observation : Micros}
    {phase : ReadyPhase} (h : call.advance db observation = (phase,db')) :
    db' = db ∨ ∃ op, db' = (execute chess db op).2 := by
  unfold ReadyCall.advance at h
  cases hp : call.phase with
  | markReady =>
    simp only [hp] at h
    exact Or.inr ⟨.markReady call.input,(congrArg Prod.snd h).symm⟩
  | startIfReady =>
    simp only [hp] at h
    exact Or.inr ⟨.startIfReady call.input.gameId observation,(congrArg Prod.snd h).symm⟩
  | snapshot started =>
    simp only [hp] at h
    exact Or.inl (congrArg Prod.snd h).symm
  | returned result =>
    simp only [hp] at h
    exact Or.inl (congrArg Prod.snd h).symm

theorem pending_eq {room : GameRoom} {index : ℕ} {call : ReadyCall}
    (h : room.pending index = some call) :
    room.calls[index]? = some call ∧ call.phase.isReturned = false := by
  unfold GameRoom.pending at h
  obtain ⟨hc,hp⟩ := Option.filter_eq_some_iff.mp h
  exact ⟨hc,by simpa using hp⟩

/-- The mapped clock is the stored one. -/
theorem snapshotClock_mapGame (g : PersistedGame) :
    Db.snapshotClock (mapGame g) = storedClock g := by
  unfold Db.snapshotClock storedClock
  cases hs : g.status <;> simp [mapGame,hs,GameStatus.started]

end Lemmas

end CluChess
