import CluChess.TransactionService

/-! `prisma-game.repository.ts`: allocation of a matched game, readiness and start, and the
mapping of a stored row to the record that the services see. -/
namespace CluChess

structure GameRecord where
  blackClockMs : ℤ
  currentFen : String
  endedAt : Option Millis
  id : GameId
  incrementMs : ℤ
  initialFen : String
  joinDeadlineAt : Option Millis
  matchId : MatchId
  mode : GameMode
  pgn : String
  result : Option GameResult
  startedAt : Option Millis
  status : GameStatus
  termination : Option GameTermination
  timeInitialMs : ℤ
  turnColor : PlayerColor
  turnStartedAt : Option Millis
  version : ℕ
  whiteClockMs : ℤ
  deriving DecidableEq, Repr

structure GamePlayerRecord where
  color : PlayerColor
  connectedAt : Option Millis
  disconnectedAt : Option Millis
  gameId : GameId
  guestSessionId : GuestSessionId
  joinedAt : Option Millis
  reconnectGraceEndsAt : Option Millis
  slot : ℕ
  deriving DecidableEq, Repr

structure GameAllocation where
  game : GameRecord
  players : GamePlayerRecord × GamePlayerRecord
  deriving DecidableEq, Repr

structure GuestMatchEligibility where
  activeGameId : Option GameId
  eligible : Bool
  deriving DecidableEq, Repr

structure StartGameResult where
  allocation : GameAllocation
  started : Bool
  deriving DecidableEq, Repr

def persistedResult : GameResult → String
  | .blackWin => "0-1"
  | .draw => "1/2-1/2"
  | .void => "*"
  | .whiteWin => "1-0"

def persistedTermination : GameTermination → String
  | .abandonment => "ABANDONMENT"
  | .checkmate => "CHECKMATE"
  | .doubleAbandon => "SYSTEM"
  | .fiftyMove => "FIFTY_MOVE_RULE"
  | .insufficientMaterial => "INSUFFICIENT_MATERIAL"
  | .noShow => "JOIN_TIMEOUT"
  | .resignation => "RESIGNATION"
  | .stalemate => "STALEMATE"
  | .threefoldRepetition => "THREEFOLD_REPETITION"
  | .timeout => "TIMEOUT"

def domainResult : String → Option GameResult
  | "*" => some .void
  | "0-1" => some .blackWin
  | "1-0" => some .whiteWin
  | "1/2-1/2" => some .draw
  | _ => none

def domainTermination : String → Option GameTermination
  | "ABANDONMENT" => some .abandonment
  | "CHECKMATE" => some .checkmate
  | "FIFTY_MOVE_RULE" => some .fiftyMove
  | "INSUFFICIENT_MATERIAL" => some .insufficientMaterial
  | "JOIN_TIMEOUT" => some .noShow
  | "RESIGNATION" => some .resignation
  | "STALEMATE" => some .stalemate
  | "SYSTEM" => some .doubleAbandon
  | "THREEFOLD_REPETITION" => some .threefoldRepetition
  | "TIMEOUT" => some .timeout
  | _ => none

/-- A `GameServiceError` with the default response type. -/
def gameServiceError (code : GameServiceErrorCode) (message : String) (retryable : Bool)
    (authoritativeVersion : Option ℕ := none) : GameServiceError :=
  ⟨code,message,retryable,authoritativeVersion,.serverError⟩

def mapGame (game : PersistedGame) : GameRecord where
  blackClockMs := game.blackClockMs
  currentFen := game.currentFen
  endedAt := game.endedAt
  id := game.id
  incrementMs := game.incrementMs
  initialFen := game.initialFen
  joinDeadlineAt := game.joinDeadlineAt
  matchId := game.matchId
  mode := game.mode
  pgn := game.pgn
  result := game.result.bind domainResult
  startedAt := game.startedAt
  status := game.status
  termination := game.termination.bind domainTermination
  timeInitialMs := game.timeInitialMs
  turnColor := game.turnColor
  turnStartedAt := game.turnStartedAt
  version := game.version
  whiteClockMs := game.whiteClockMs

def mapPlayer (gameId : GameId) (player : GamePlayer) :
    Except GameServiceError GamePlayerRecord :=
  if player.slot ≠ 0 ∧ player.slot ≠ 1 then
    .error (gameServiceError .allocationMismatch "A durable player slot is malformed." false)
  else
    .ok {
      color := player.color
      connectedAt := player.connectedAt
      disconnectedAt := player.disconnectedAt
      gameId := gameId
      guestSessionId := player.guestSessionId
      joinedAt := player.joinedAt
      reconnectGraceEndsAt := player.reconnectGraceEndsAt
      slot := player.slot }

def mapAllocation (game : PersistedGame) : Except GameServiceError GameAllocation := do
  match ← game.players.mapM (mapPlayer game.id) with
  | [white,black] => .ok ⟨mapGame game,(white,black)⟩
  | _ => .error (gameServiceError .allocationMismatch
      "A durable game does not contain exactly two players." false)

/-- The guests of a game, and of its allocation. -/
def PersistedGame.guests (g : PersistedGame) : List GuestSessionId :=
  g.players.map GamePlayer.guestSessionId

def GameAllocation.guests (a : GameAllocation) : List GuestSessionId :=
  [a.players.1.guestSessionId,a.players.2.guestSessionId]

section Mapping

theorem mapPlayer_ok {gameId : GameId} {p : GamePlayer} {r : GamePlayerRecord}
    (h : mapPlayer gameId p = .ok r) : r = ⟨p.color,p.connectedAt,p.disconnectedAt,gameId,
      p.guestSessionId,p.joinedAt,p.reconnectGraceEndsAt,p.slot⟩ := by
  unfold mapPlayer at h
  split_ifs at h
  exact (Except.ok.inj h).symm

/-- What a record has of its player, the records have of their players. -/
theorem mapPlayers_map {α : Type} {f : GamePlayerRecord → α} {f' : GamePlayer → α}
    {gameId : GameId} (hf : ∀ p r, mapPlayer gameId p = .ok r → f r = f' p)
    {rows : List GamePlayer} {players : List GamePlayerRecord}
    (h : rows.mapM (mapPlayer gameId) = .ok players) : players.map f = rows.map f' := by
  induction rows generalizing players with
  | nil =>
    cases h
    rfl
  | cons p rows ih =>
    rw [List.mapM_cons] at h
    obtain ⟨r,hr,h⟩ := bind_eq_ok.mp h
    obtain ⟨rest,hrest,h⟩ := bind_eq_ok.mp h
    cases h
    rw [List.map_cons,List.map_cons,hf p r hr,ih hrest]

/-- The record of a game has its row and its players in their order. -/
theorem mapAllocation_eq {g : PersistedGame} {a : GameAllocation} (h : mapAllocation g = .ok a) :
    a.game = mapGame g ∧
      g.players.mapM (mapPlayer g.id) = .ok [a.players.1,a.players.2] := by
  obtain ⟨players,hp,h⟩ := bind_eq_ok.mp h
  match players with
  | [] => cases h
  | [_] => cases h
  | _ :: _ :: _ :: _ => cases h
  | [white,black] =>
    cases h
    exact ⟨rfl,hp⟩

theorem mapAllocation_ok {g : PersistedGame} {a : GameAllocation} (h : mapAllocation g = .ok a) :
    a.game.id = g.id ∧ a.guests = g.guests := by
  obtain ⟨hgame,hplayers⟩ := mapAllocation_eq h
  exact ⟨congrArg GameRecord.id hgame,
    mapPlayers_map (fun _ _ hr => congrArg GamePlayerRecord.guestSessionId (mapPlayer_ok hr))
      hplayers⟩

end Mapping

inductive AllocationTransactionResult
  | allocated (allocation : PersistedGame)
  | conflict
  | ineligible
  | mismatch
  deriving DecidableEq, Repr

def matchesReservation (game : PersistedGame) (input : AllocateGame) : Bool :=
  let expectedPlayers :=
    [input.whiteGuestSessionId,input.blackGuestSessionId].insertionSort (· ≤ ·)
  let actualPlayers := (game.players.map GamePlayer.guestSessionId).insertionSort (· ≤ ·)
  decide (game.id = input.gameId) && decide (game.mode = input.mode) &&
    decide (actualPlayers.length = 2) &&
    actualPlayers.zipIdx.all fun (guestSessionId,index) =>
      expectedPlayers[index]? = some guestSessionId

/-- The row, the players and the clocks of a new game. -/
def newGameRow (input : AllocateGame) : PersistedGame where
  id := input.gameId
  matchId := input.matchId
  mode := input.mode
  status := .waitingForPlayers
  initialFen := input.initialFen
  currentFen := input.initialFen
  turnColor := .w
  pgn := input.pgn
  version := 0
  result := none
  termination := none
  timeInitialMs := input.timeInitialMs
  incrementMs := input.timeIncrementMs
  whiteClockMs := input.timeInitialMs
  blackClockMs := input.timeInitialMs
  turnStartedAt := none
  joinDeadlineAt := some input.joinDeadlineAt
  reconnectDeadlineAt := none
  startedAt := none
  endedAt := none
  players := [⟨0,input.whiteGuestSessionId,.w,none,none,none,none⟩,
    ⟨1,input.blackGuestSessionId,.b,none,none,none,none⟩]
  moves := []
  commands := []

namespace Db

/-- `guestSession.count` of the eligible guests among `guestIds`. -/
def eligibleGuests (db : Db) (guestIds : List GuestSessionId) (observedAt : Millis) : ℕ :=
  db.guestSessions.rows.countP fun g =>
    decide (observedAt < g.expiresAt) && decide (g.id ∈ guestIds) && decide (g.revokedAt = none)

/-- `activeGameAssignment.findFirst` of the guests. -/
def findAssignment (db : Db) (guestIds : List GuestSessionId) : Option ActiveGameAssignment :=
  db.assignments.rows.find? fun a => a.guestSessionId ∈ guestIds

/-- `game.create`, the last statement of an allocation, and the commit. -/
def createAllocation (db : Db) (input : AllocateGame) :
    Except DatabaseErrorKind (AllocationTransactionResult × Db) := do
  let game := newGameRow input
  let db ← db.createGame game
    ([input.whiteGuestSessionId,input.blackGuestSessionId].insertionSort (· ≤ ·))
  commit input.gameId (.allocated game) db

def allocateInTransaction (db : Db) (input : AllocateGame) :
    Except DatabaseErrorKind (AllocationTransactionResult × Db) :=
  let guestIds := [input.whiteGuestSessionId,input.blackGuestSessionId]
  match db.gameByMatchId input.matchId with
  | some existing =>
    .ok (if matchesReservation existing input then .allocated existing else .mismatch,db)
  | none =>
    if db.eligibleGuests guestIds input.observedAt ≠ 2 then .ok (.ineligible,db)
    else if (db.findAssignment guestIds).isSome then .ok (.conflict,db)
    else db.createAllocation input

def allocationAnswer : AllocationTransactionResult → Except GameServiceError GameAllocation
  | .allocated allocation => mapAllocation allocation
  | .conflict => .error (gameServiceError .guestAlreadyInGame
      "A reserved guest already has a durable active game." false)
  | .ineligible => .error (gameServiceError .guestNotEligible
      "A reserved guest session is no longer eligible." false)
  | .mismatch => .error (gameServiceError .allocationMismatch
      "The durable match allocation does not match its reservation." false)

def allocate (db : Db) (input : AllocateGame) : Except RepositoryError GameAllocation × Db :=
  if input.whiteGuestSessionId = input.blackGuestSessionId then
    (.error (.service (gameServiceError .allocationMismatch
      "A game requires two distinct guests." false)),db)
  else answered (db.transaction (db.allocateInTransaction input)) allocationAnswer

def findById (db : Db) (gameId : GameId) : Except GameServiceError (Option GameAllocation) :=
  match db.games.find gameId with
  | none => .ok none
  | some game => (mapAllocation game).map some

def findByMatchId (db : Db) (matchId : MatchId) :
    Except GameServiceError (Option GameAllocation) :=
  match db.gameByMatchId matchId with
  | none => .ok none
  | some game => (mapAllocation game).map some

def getGuestMatchEligibility (db : Db) (guestSessionId : GuestSessionId) (observedAt : Millis) :
    GuestMatchEligibility where
  activeGameId := (db.guestSessions.find guestSessionId).bind fun g => db.assignedGame g.id
  eligible := (db.guestSessions.find guestSessionId).any fun g =>
    decide (g.revokedAt = none) && decide (observedAt < g.expiresAt)

end Db

inductive ReadyTransactionResult
  | ready (allocation : PersistedGame)
  | missing
  | notPlayer
  | stale (version : ℕ)
  | unavailable
  deriving DecidableEq, Repr

inductive StartTransactionResult
  | found (allocation : PersistedGame) (started : Bool)
  | missing
  | stale (version : ℕ)
  deriving DecidableEq, Repr

/-- The statuses in which a player who has joined may report ready again. -/
def GameStatus.joined : GameStatus → Bool
  | .ready | .inProgress | .reconnecting => true
  | _ => false

/-- The player row of a guest who reports ready. -/
def GamePlayer.join (observedAt : Millis) (p : GamePlayer) : GamePlayer :=
  { p with connectedAt := some observedAt, joinedAt := some (p.joinedAt.getD observedAt) }

/-- `gamePlayer.count` of the players that have joined. -/
def PersistedGame.joinedPlayers (g : PersistedGame) : ℕ :=
  g.players.countP fun p => p.joinedAt.isSome

namespace Db

/-- `game.findUnique` after the writes, the last statement of the two transactions below. -/
def readyAllocation (db : Db) (gameId : GameId) : ReadyTransactionResult :=
  match db.games.find gameId with
  | none => .missing
  | some game => .ready game

def markReadyInTransaction (db : Db) (input : MarkGameReady) :
    Except DatabaseErrorKind (ReadyTransactionResult × Db) :=
  match db.games.find input.gameId with
  | none => .ok (.missing,db)
  | some game =>
    match game.playerFor input.guestSessionId with
    | none => .ok (.notPlayer,db)
    | some player =>
      let idempotent := player.joinedAt.isSome && game.status.joined
      if input.expectedVersion ≠ game.version ∧ idempotent = false then
        .ok (.stale game.version,db)
      else if game.status ≠ .waitingForPlayers ∧ game.status.joined = false then
        .ok (.unavailable,db)
      else do
        let db ← db.updatePlayer input.gameId player.slot (GamePlayer.join input.observedAt)
        let joinedPlayers := ((db.games.find input.gameId).map PersistedGame.joinedPlayers).getD 0
        if game.status = .waitingForPlayers ∧ joinedPlayers = 2 then do
          let (version,db) ← db.updateGameAtVersion game.id game.version
            fun g => { g with status := .ready }
          match version with
          | none => commit input.gameId (.stale game.version) db
          | some _ => commit input.gameId (db.readyAllocation input.gameId) db
        else commit input.gameId (db.readyAllocation input.gameId) db

def readyAnswer : ReadyTransactionResult → Except GameServiceError GameAllocation
  | .ready allocation => mapAllocation allocation
  | .missing => .error (gameServiceError .gameNotFound "The requested game does not exist." false)
  | .notPlayer => .error (gameServiceError .notAPlayer
      "The authenticated guest is not a member of this game." false)
  | .stale version => .error (gameServiceError .staleGameVersion
      "The game version is stale." true (some version))
  | .unavailable => .error (gameServiceError .gameUnavailable
      "The game is not waiting for player readiness." false)

def markReady (db : Db) (input : MarkGameReady) : Except RepositoryError GameAllocation × Db :=
  answered (db.transaction (db.markReadyInTransaction input)) readyAnswer

def startIfReadyInTransaction (db : Db) (gameId : GameId) (observation : Micros) :
    Except DatabaseErrorKind (StartTransactionResult × Db) := do
  match ← db.lockGameClock gameId observation with
  | none => .ok (.missing,db)
  | some locked =>
    if locked.status = .ready then do
      let (version,db) ← db.updateGameAtVersion gameId locked.version fun g =>
        { g with
          startedAt := some locked.observedAt
          status := .inProgress
          turnStartedAt := some locked.observedAt }
      match version,db.games.find gameId with
      | none,_ => .ok (.stale locked.version,db)
      | some _,none => .ok (.missing,db)
      | some _,some allocation => commit gameId (.found allocation true) db
    else
      match db.games.find gameId with
      | none => .ok (.missing,db)
      | some allocation => .ok (.found allocation false,db)

def startAnswer : StartTransactionResult → Except GameServiceError StartGameResult
  | .found allocation started => (mapAllocation allocation).map (⟨·,started⟩)
  | .missing => .error (gameServiceError .gameNotFound "The requested game does not exist." false)
  | .stale version => .error (gameServiceError .staleGameVersion
      "The game version changed while starting." true (some version))

def startIfReady (db : Db) (gameId : GameId) (observation : Micros) :
    Except RepositoryError StartGameResult × Db :=
  answered (db.transaction (db.startIfReadyInTransaction gameId observation)) startAnswer

end Db
end CluChess
