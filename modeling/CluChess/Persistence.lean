import CluChess.KeyedTable
import CluChess.RepositoryPorts
import Mathlib.Data.List.Sort

/-! PostgreSQL as the repositories use it: the rows of the migration with their integer
ranges and `CHECK` constraints, the deferred allocation trigger, and the row operations.
A row operation that a constraint refuses aborts the transaction, which then leaves no
trace; `transaction` is that rule. -/
namespace CluChess

inductive DatabaseErrorKind
  | constraint | retryable | unavailable | unique | unknown
  deriving DecidableEq, Repr

/-- What a repository call throws. -/
inductive RepositoryError
  | database (kind : DatabaseErrorKind)
  | service (error : GameServiceError)
  deriving DecidableEq, Repr

structure GuestSession where
  id : GuestSessionId
  displayName : String
  avatarKey : String
  currentJti : Option Uuid
  issuedAt : Millis
  expiresAt : Millis
  revokedAt : Option Millis
  deriving DecidableEq, Repr

structure GamePlayer where
  slot : ℕ
  guestSessionId : GuestSessionId
  color : PlayerColor
  joinedAt : Option Millis
  connectedAt : Option Millis
  disconnectedAt : Option Millis
  reconnectGraceEndsAt : Option Millis
  deriving DecidableEq, Repr

structure MoveRow where
  ply : ℕ
  clientMoveId : EventId
  guestSessionId : GuestSessionId
  color : PlayerColor
  san : String
  uci : String
  fenBefore : String
  fenAfter : String
  serverReceivedAt : Millis
  deriving DecidableEq, Repr

inductive CommandType
  | move | resign
  deriving DecidableEq, Repr

/-- The two shapes of `game_commands.response`. JSONB keeps strings, integers, booleans,
`null` and arrays, so the stored document is the record that was written. -/
inductive CommandResponse
  | move (accepted : AcceptedMove) (ended : Option EndedGame)
      (guestSessionIds : GuestSessionId × GuestSessionId) (started : Option StartedGame)
  | terminal (ended : EndedGame) (guestSessionIds : GuestSessionId × GuestSessionId)
  deriving DecidableEq, Repr

structure GameCommand where
  eventId : EventId
  guestSessionId : GuestSessionId
  commandType : CommandType
  resultVersion : ℕ
  response : CommandResponse
  deriving DecidableEq, Repr

/-- A row of `games` with the rows of `game_players` (by slot), `moves` (by ply) and
`game_commands` that reference it. -/
structure PersistedGame where
  id : GameId
  matchId : MatchId
  mode : GameMode
  status : GameStatus
  initialFen : String
  currentFen : String
  turnColor : PlayerColor
  pgn : String
  version : ℕ
  result : Option String
  termination : Option String
  timeInitialMs : ℤ
  incrementMs : ℤ
  whiteClockMs : ℤ
  blackClockMs : ℤ
  turnStartedAt : Option Millis
  joinDeadlineAt : Option Millis
  reconnectDeadlineAt : Option Millis
  startedAt : Option Millis
  endedAt : Option Millis
  players : List GamePlayer
  moves : List MoveRow
  commands : List GameCommand
  deriving DecidableEq, Repr

structure ActiveGameAssignment where
  guestSessionId : GuestSessionId
  gameId : GameId
  deriving DecidableEq, Repr

inductive SessionCommandType
  | create | renew | reset
  deriving DecidableEq, Repr

structure IssuedSessionClaims where
  jti : Uuid
  issuedAt : Millis
  expiresAt : Millis
  deriving DecidableEq, Repr

/-- A row of `session_commands`; its three claim columns are set together. -/
structure SessionCommand where
  idempotencyHash : String
  commandType : SessionCommandType
  guestSessionId : GuestSessionId
  issuedClaims : Option IssuedSessionClaims
  deriving DecidableEq, Repr

structure Db where
  guestSessions : Table GuestSession.id
  sessionCommands : Table SessionCommand.idempotencyHash
  games : Table PersistedGame.id
  assignments : Table ActiveGameAssignment.guestSessionId

def fitsInteger (n : ℤ) : Prop := -2147483648 ≤ n ∧ n ≤ 2147483647

instance (n : ℤ) : Decidable (fitsInteger n) := inferInstanceAs (Decidable (_ ∧ _))

def resultCodes : List String := ["1-0","0-1","1/2-1/2","*"]

def terminationCodes : List String :=
  ["CHECKMATE","RESIGNATION","TIMEOUT","STALEMATE","INSUFFICIENT_MATERIAL",
    "THREEFOLD_REPETITION","FIFTY_MOVE_RULE","AGREEMENT","ABANDONMENT","JOIN_TIMEOUT","SYSTEM"]

namespace PersistedGame

def integersFit (g : PersistedGame) : Prop :=
  fitsInteger g.version ∧ fitsInteger g.timeInitialMs ∧ fitsInteger g.incrementMs ∧
    fitsInteger g.whiteClockMs ∧ fitsInteger g.blackClockMs

/-- `games_time_initial_ms_check` to `games_black_clock_ms_check`. -/
def clockChecks (g : PersistedGame) : Prop :=
  0 < g.timeInitialMs ∧ 0 ≤ g.incrementMs ∧ 0 ≤ g.whiteClockMs ∧ 0 ≤ g.blackClockMs

def codeChecks (g : PersistedGame) : Prop :=
  (∀ r ∈ g.result, r ∈ resultCodes) ∧ (∀ t ∈ g.termination, t ∈ terminationCodes)

def terminalStateCheck (g : PersistedGame) : Prop :=
  if g.status.terminal then
    g.result.isSome ∧ g.termination.isSome ∧ g.endedAt.isSome
  else g.result = none ∧ g.termination = none ∧ g.endedAt = none

def turnClockStateCheck (g : PersistedGame) : Prop :=
  if g.status.started then g.turnStartedAt.isSome ∧ g.startedAt.isSome
  else g.turnStartedAt = none

def endedAfterStartedCheck (g : PersistedGame) : Prop :=
  ∀ ended ∈ g.endedAt, ∀ started ∈ g.startedAt, started ≤ ended

def rowChecks (g : PersistedGame) : Prop :=
  g.clockChecks ∧ g.codeChecks ∧ g.terminalStateCheck ∧ g.turnClockStateCheck ∧
    g.endedAfterStartedCheck

instance (g : PersistedGame) : Decidable g.integersFit := by
  unfold integersFit; infer_instance
instance (g : PersistedGame) : Decidable g.rowChecks := by
  unfold rowChecks clockChecks codeChecks terminalStateCheck turnClockStateCheck
    endedAfterStartedCheck
  infer_instance

/-- `UPDATE game_players … WHERE id = …`; the slot identifies a player of the game. -/
def mapPlayer (g : PersistedGame) (slot : ℕ) (data : GamePlayer → GamePlayer) : PersistedGame :=
  { g with players := g.players.map fun p => if p.slot = slot then data p else p }

def mapPlayers (g : PersistedGame) (data : GamePlayer → GamePlayer) : PersistedGame :=
  { g with players := g.players.map data }

def playerFor (g : PersistedGame) (guestSessionId : GuestSessionId) : Option GamePlayer :=
  g.players.find? fun p => p.guestSessionId = guestSessionId

def addMove (g : PersistedGame) (row : MoveRow) : PersistedGame :=
  { g with moves := g.moves.orderedInsert (fun a b => a.ply ≤ b.ply) row }

def addCommand (g : PersistedGame) (row : GameCommand) : PersistedGame :=
  { g with commands := g.commands ++ [row] }

def command (g : PersistedGame) (eventId : EventId) : Option GameCommand :=
  g.commands.find? fun c => c.eventId = eventId

end PersistedGame

/-- `game_players_disconnect_state_check`. -/
def GamePlayer.disconnectStateCheck (p : GamePlayer) : Prop :=
  (p.disconnectedAt = none ∧ p.reconnectGraceEndsAt = none) ∨
    (p.disconnectedAt.isSome ∧ p.reconnectGraceEndsAt.isSome ∧
      ∀ d ∈ p.disconnectedAt, ∀ e ∈ p.reconnectGraceEndsAt, d ≤ e)

instance (p : GamePlayer) : Decidable p.disconnectStateCheck := by
  unfold GamePlayer.disconnectStateCheck; infer_instance

/-- `guest_sessions_expires_after_issued_check` and
`guest_sessions_revoked_after_issued_check`. -/
def GuestSession.rowChecks (g : GuestSession) : Prop :=
  g.issuedAt < g.expiresAt ∧ ∀ revoked ∈ g.revokedAt, g.issuedAt ≤ revoked

instance (g : GuestSession) : Decidable g.rowChecks := by
  unfold GuestSession.rowChecks; infer_instance

namespace Db

def gameByMatchId (db : Db) (matchId : MatchId) : Option PersistedGame :=
  db.games.rows.find? fun g => g.matchId = matchId

def replaceGame (db : Db) (g : PersistedGame) : Db := { db with games := db.games.put g }

/-- Write a row of `games`: an integer out of range or a failed `CHECK` aborts. -/
def writeGame (db : Db) (g : PersistedGame) : Except DatabaseErrorKind Db :=
  if ¬ g.integersFit then .error .unknown
  else if ¬ g.rowChecks then .error .constraint
  else .ok (db.replaceGame g)

/-- `game.updateMany` on the row with this id and version, and the number of rows updated. -/
def updateGameMany (db : Db) (id : GameId) (version : ℕ)
    (data : PersistedGame → PersistedGame) : Except DatabaseErrorKind (ℕ × Db) :=
  match db.games.find id with
  | none => .ok (0,db)
  | some g => if g.version = version then (db.writeGame (data g)).map (1,·) else .ok (0,db)

/-- `TransactionService.updateGameAtVersion`: the new version, or nothing. -/
def updateGameAtVersion (db : Db) (id : GameId) (expectedVersion : ℕ)
    (data : PersistedGame → PersistedGame) : Except DatabaseErrorKind (Option ℕ × Db) := do
  let (count,db) ← db.updateGameMany id expectedVersion
    fun g => { data g with version := g.version + 1 }
  .ok (if count = 1 then some (expectedVersion + 1) else none,db)

def writePlayers (db : Db) (g : PersistedGame) : Except DatabaseErrorKind Db :=
  if ∀ p ∈ g.players, p.disconnectStateCheck then .ok (db.replaceGame g) else .error .constraint

def updatePlayer (db : Db) (id : GameId) (slot : ℕ) (data : GamePlayer → GamePlayer) :
    Except DatabaseErrorKind Db :=
  match db.games.find id with
  | none => .ok db
  | some g => db.writePlayers (g.mapPlayer slot data)

def updatePlayers (db : Db) (id : GameId) (data : GamePlayer → GamePlayer) :
    Except DatabaseErrorKind Db :=
  match db.games.find id with
  | none => .ok db
  | some g => db.writePlayers (g.mapPlayers data)

/-- `move.create`: `(game_id, client_move_id)` and `(game_id, ply)` are unique. -/
def createMove (db : Db) (id : GameId) (row : MoveRow) : Except DatabaseErrorKind Db :=
  match db.games.find id with
  | none => .error .constraint
  | some g =>
    if g.moves.any fun m => m.clientMoveId = row.clientMoveId ∨ m.ply = row.ply then
      .error .unique
    else if row.ply = 0 then .error .constraint
    else .ok (db.replaceGame (g.addMove row))

/-- `gameCommand.create`: `(game_id, event_id)` is unique. -/
def createGameCommand (db : Db) (id : GameId) (row : GameCommand) :
    Except DatabaseErrorKind Db :=
  match db.games.find id with
  | none => .error .constraint
  | some g =>
    if (g.command row.eventId).isSome then .error .unique
    else .ok (db.replaceGame (g.addCommand row))

/-- Insert the assignment rows of a new game; the guest is the primary key. -/
def createAssignments (assignments : Table ActiveGameAssignment.guestSessionId) (id : GameId) :
    List GuestSessionId → Except DatabaseErrorKind (Table ActiveGameAssignment.guestSessionId)
  | [] => .ok assignments
  | guest :: guests =>
    match assignments.insert ⟨guest,id⟩ with
    | none => .error .unique
    | some assignments => createAssignments assignments id guests

/-- `game.create` with its players and assignments: `id` and `match_id` are unique and the
guest sessions must exist. -/
def createGame (db : Db) (g : PersistedGame) (guests : List GuestSessionId) :
    Except DatabaseErrorKind Db :=
  if ∃ guest ∈ guests, db.guestSessions.find guest = none then .error .unknown
  else if ¬ g.integersFit then .error .unknown
  else if ¬ g.rowChecks then .error .constraint
  else if (db.gameByMatchId g.matchId).isSome then .error .unique
  else
    match db.games.insert g with
    | none => .error .unique
    | some games =>
      (createAssignments db.assignments g.id guests).map fun assignments =>
        { db with games := games, assignments := assignments }

def deleteAssignments (db : Db) (id : GameId) : Db :=
  { db with assignments := db.assignments.deleteWhere fun a => a.gameId = id }

def assignedGame (db : Db) (guestSessionId : GuestSessionId) : Option GameId :=
  (db.assignments.find guestSessionId).map ActiveGameAssignment.gameId

def assignmentsOf (db : Db) (id : GameId) : List ActiveGameAssignment :=
  db.assignments.rows.filter fun a => a.gameId = id

def allocationInvariants (db : Db) (id : GameId) : Prop :=
  match db.games.find id with
  | none => True
  | some g =>
    g.players.length = 2 ∧
      if g.status.terminal then (db.assignmentsOf id).length = 0
      else (db.assignmentsOf id).length = 2 ∧
        ((db.assignmentsOf id).filter fun a =>
          (g.playerFor a.guestSessionId).isSome).length = 2

instance (db : Db) (id : GameId) : Decidable (db.allocationInvariants id) := by
  unfold allocationInvariants; cases db.games.find id <;> infer_instance

/-- The deferred trigger runs when the transaction commits. -/
def commit {α : Type} (id : GameId) (a : α) (db : Db) : Except DatabaseErrorKind (α × Db) :=
  if db.allocationInvariants id then .ok (a,db) else .error .constraint

/-- `TransactionService.run`: a transaction that throws is rolled back. -/
def transaction {α : Type} (db : Db) (work : Except DatabaseErrorKind (α × Db)) :
    Except DatabaseErrorKind α × Db :=
  match work with
  | .error kind => (.error kind,db)
  | .ok (a,db') => (.ok a,db')

/-- What a repository method makes of the result of its transaction. -/
def answered {α β : Type} (r : Except DatabaseErrorKind α × Db)
    (answer : α → Except GameServiceError β) : Except RepositoryError β × Db :=
  match r.1 with
  | .error kind => (.error (.database kind),r.2)
  | .ok a => ((answer a).mapError .service,r.2)

section Lemmas

/-! What a row operation that succeeded has done. -/

variable {db db' : Db} {g : PersistedGame} {id : GameId}

@[simp] theorem replaceGame_assignments : (db.replaceGame g).assignments = db.assignments := rfl
@[simp] theorem replaceGame_guestSessions :
    (db.replaceGame g).guestSessions = db.guestSessions := rfl
@[simp] theorem deleteAssignments_games : (db.deleteAssignments id).games = db.games := rfl

theorem find_replaceGame (h : db.games.find g.id ≠ none) (k : GameId) :
    (db.replaceGame g).games.find k = if k = g.id then some g else db.games.find k := by
  obtain ⟨r,hr⟩ := Option.ne_none_iff_exists'.mp h
  unfold replaceGame
  rw [Table.find_put]
  split
  · rename_i hk
    rw [hk,hr]
    rfl
  · rfl

theorem replaceGame_replaceGame (db : Db) {g g' : PersistedGame} (h : g.id = g'.id) :
    (db.replaceGame g).replaceGame g' = db.replaceGame g' := by
  simp only [replaceGame,Table.put_put db.games h]

theorem writeGame_ok (h : db.writeGame g = .ok db') :
    g.integersFit ∧ g.rowChecks ∧ db' = db.replaceGame g := by
  unfold writeGame at h
  split_ifs at h with hi hc
  exact ⟨hi,hc,(Except.ok.inj h).symm⟩

theorem updateGameMany_ok (hg : db.games.find id = some g) {data : PersistedGame → PersistedGame}
    {count : ℕ} (h : db.updateGameMany id g.version data = .ok (count,db')) :
    count = 1 ∧ (data g).integersFit ∧ (data g).rowChecks ∧ db' = db.replaceGame (data g) := by
  simp only [updateGameMany,hg,if_pos] at h
  obtain ⟨db₁,hw,he⟩ := map_eq_ok.mp h
  cases he
  exact ⟨rfl,writeGame_ok hw⟩

theorem updateGameAtVersion_ok (hg : db.games.find id = some g)
    {data : PersistedGame → PersistedGame} {version : Option ℕ}
    (h : db.updateGameAtVersion id g.version data = .ok (version,db')) :
    version = some (g.version + 1) ∧
      ({ data g with version := g.version + 1 } : PersistedGame).integersFit ∧
      ({ data g with version := g.version + 1 } : PersistedGame).rowChecks ∧
      db' = db.replaceGame { data g with version := g.version + 1 } := by
  obtain ⟨⟨count,db₁⟩,hu,he⟩ := bind_eq_ok.mp h
  obtain ⟨rfl,hi,hc,rfl⟩ := updateGameMany_ok hg hu
  cases he
  exact ⟨rfl,hi,hc,rfl⟩

theorem writePlayers_ok (h : db.writePlayers g = .ok db') :
    (∀ p ∈ g.players, p.disconnectStateCheck) ∧ db' = db.replaceGame g := by
  unfold writePlayers at h
  split_ifs at h with hc
  exact ⟨hc,(Except.ok.inj h).symm⟩

theorem updatePlayer_ok (hg : db.games.find id = some g) {slot : ℕ}
    {data : GamePlayer → GamePlayer} (h : db.updatePlayer id slot data = .ok db') :
    (∀ p ∈ (g.mapPlayer slot data).players, p.disconnectStateCheck) ∧
      db' = db.replaceGame (g.mapPlayer slot data) := by
  simp only [updatePlayer,hg] at h
  exact writePlayers_ok h

theorem updatePlayers_ok (hg : db.games.find id = some g) {data : GamePlayer → GamePlayer}
    (h : db.updatePlayers id data = .ok db') :
    (∀ p ∈ (g.mapPlayers data).players, p.disconnectStateCheck) ∧
      db' = db.replaceGame (g.mapPlayers data) := by
  simp only [updatePlayers,hg] at h
  exact writePlayers_ok h

theorem createMove_ok (hg : db.games.find id = some g) {row : MoveRow}
    (h : db.createMove id row = .ok db') :
    (∀ m ∈ g.moves, m.clientMoveId ≠ row.clientMoveId ∧ m.ply ≠ row.ply) ∧ 0 < row.ply ∧
      db' = db.replaceGame (g.addMove row) := by
  simp only [createMove,hg] at h
  split_ifs at h with hu hp
  refine ⟨?_,by omega,(Except.ok.inj h).symm⟩
  intro m hm
  simp only [List.any_eq_true,decide_eq_true_eq,not_exists,not_and,not_or] at hu
  exact hu m hm

theorem createGameCommand_ok (hg : db.games.find id = some g) {row : GameCommand}
    (h : db.createGameCommand id row = .ok db') :
    g.command row.eventId = none ∧ db' = db.replaceGame (g.addCommand row) := by
  simp only [createGameCommand,hg] at h
  split_ifs at h with hc
  exact ⟨by simpa using hc,(Except.ok.inj h).symm⟩

/-- A transaction leaves the database of a successful `work`, or leaves it alone. -/
theorem transaction_cases {α : Type} (db : Db) (work : Except DatabaseErrorKind (α × Db)) :
    (∃ kind, db.transaction work = (.error kind,db)) ∨
      ∃ a db', work = .ok (a,db') ∧ db.transaction work = (.ok a,db') := by
  cases work with
  | error kind => exact Or.inl ⟨kind,rfl⟩
  | ok r => exact Or.inr ⟨r.1,r.2,rfl,rfl⟩

theorem answered_ok {α β : Type} (a : α) (db : Db) (answer : α → Except GameServiceError β) :
    answered (.ok a,db) answer = ((answer a).mapError .service,db) := rfl

theorem commit_ok {α : Type} {a b : α} (h : commit id a db = .ok (b,db')) :
    db.allocationInvariants id ∧ b = a ∧ db' = db := by
  unfold commit at h
  split_ifs at h with hc
  cases h
  exact ⟨hc,rfl,rfl⟩

end Lemmas

end Db
end CluChess
