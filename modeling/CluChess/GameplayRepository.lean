import CluChess.GameRepository

/-! `prisma-gameplay.repository.ts`: submission of a move under the row lock of its game,
with the stored acknowledgement that a retry replays. -/
namespace CluChess

/-! ### The schema of a stored acknowledgement -/

/-- `z.uuidv4()`: the value of a text of 32 digits whose version nibble is 4 and whose variant
bits are 10. -/
def isUuidV4 (id : Uuid) : Bool :=
  decide (id < 2^128) && decide (id/2^76 % 16 = 4) && decide (id/2^62 % 4 = 2)

def isNonnegativeInt (n : ℤ) : Bool := isSafeInteger n && decide (0 ≤ n)

def isNonempty (s : String) : Bool := decide (s ≠ "")

def isFile (c : Char) : Bool := c ∈ ['a','b','c','d','e','f','g','h']

def isRank (c : Char) : Bool := c ∈ ['1','2','3','4','5','6','7','8']

def isUci (s : String) : Bool :=
  match s.toList with
  | [a,b,c,d] => isFile a && isRank b && isFile c && isRank d
  | [a,b,c,d,e] => isFile a && isRank b && isFile c && isRank d && decide (e ∈ ['b','n','q','r'])
  | _ => false

def gameplayClockSchema (c : GameplayClock) : Bool :=
  isNonnegativeInt c.blackMs && isNonnegativeInt c.observedAt && isNonnegativeInt c.whiteMs

def acceptedMoveSchema (a : AcceptedMove) : Bool :=
  isUuidV4 a.clientMoveId && gameplayClockSchema a.clocks && isNonempty a.fenAfter &&
    isUuidV4 a.gameId && isNonnegativeInt a.gameVersion && isNonnegativeInt a.ply &&
    decide (0 < a.ply) && isNonempty a.san && isUci a.uci

def startedGameSchema (s : StartedGame) : Bool :=
  gameplayClockSchema s.clocks && isUuidV4 s.gameId && isNonnegativeInt s.gameVersion &&
    isNonempty s.initialFen

def endedGameSchema (e : EndedGame) : Bool :=
  gameplayClockSchema e.clocks && isNonempty e.finalFen && isUuidV4 e.gameId &&
    isNonnegativeInt e.gameVersion

def guestTupleSchema (guests : GuestSessionId × GuestSessionId) : Bool :=
  isUuidV4 guests.1 && isUuidV4 guests.2

/-- `persistedSubmissionSchema`: the stored submission, without its duplicate flag. -/
def persistedSubmissionSchema : CommandResponse → Option MoveSubmission
  | .move accepted ended guestSessionIds started =>
    if acceptedMoveSchema accepted && ended.all endedGameSchema &&
        guestTupleSchema guestSessionIds && started.all startedGameSchema then
      some ⟨accepted,true,ended,guestSessionIds,started⟩
    else none
  | .terminal _ _ => none

def persistedSubmission (submission : MoveSubmission) : CommandResponse :=
  .move submission.accepted submission.ended submission.guestSessionIds submission.started

/-! ### Submission -/

structure Rejection where
  authoritativeVersion : Option ℕ
  code : GameServiceErrorCode
  message : String
  retryable : Bool
  deriving DecidableEq, Repr

inductive MoveTransactionResult
  | accepted (submission : MoveSubmission)
  | rejected (rejection : Rejection)
  | staleWrite (version : ℕ)
  deriving DecidableEq, Repr

def rejected (code : GameServiceErrorCode) (message : String) (retryable : Bool)
    (authoritativeVersion : Option ℕ := none) : Rejection :=
  ⟨authoritativeVersion,code,message,retryable⟩

def moveError (r : Rejection) : GameServiceError :=
  ⟨r.code,r.message,r.retryable,r.authoritativeVersion,.moveRejected⟩

/-- `replayResult`: the stored acknowledgement of a command, for the caller that made it. -/
def replayResult (command : GameCommand) (input : SubmitMove) : MoveTransactionResult :=
  if command.commandType ≠ .move ∨ command.guestSessionId ≠ input.guestSessionId then
    .rejected (rejected .idempotencyKeyReused
      "The move identifier was already used for a different command." false)
  else
    match persistedSubmissionSchema command.response with
    | none => .rejected (rejected .gameStateCorrupt
        "The stored move acknowledgement is invalid." false)
    | some submission => .accepted submission

def hasContiguousHistory (game : PersistedGame) : Bool :=
  game.moves.zipIdx.all fun (move,index) => decide (move.ply = index + 1)

/-- `baseClock`: before the start nothing runs. -/
def baseClock (game : PersistedGame) (color : PlayerColor) : GameClock where
  blackMs := game.blackClockMs
  incrementMs := game.incrementMs
  running := if game.status = .ready then none else some color
  turnStartedAt := if game.status = .ready then none else game.turnStartedAt.map .valid
  whiteMs := game.whiteClockMs

/-- The clock that a move runs against; the first move starts the clock of a ready game. -/
def runningClock (game : PersistedGame) (color : PlayerColor) (observedAt : Millis) :
    Except GameDomainError GameClock :=
  if game.status = .ready then resumeClock (baseClock game color) .w (.valid observedAt)
  else .ok (baseClock game color)

def admission (game : PersistedGame) (color : PlayerColor) (observedAt : Millis) :
    Except GameDomainError ClockAdmission := do
  let clock ← runningClock game color observedAt
  admitMoveOnClock clock color (.valid observedAt)

def evaluate (chess : ChessEngine) (game : PersistedGame) (move : MoveInput) :
    Except ChessEngineError MoveEvaluation :=
  chess.evaluateMove {
    expectedCurrentFen := game.currentFen
    history := game.moves.map MoveRow.uci
    initialFen := game.initialFen
    move := move }

/-- The checks between the replay lookup and the writes: the clock and the evaluation of a
move that is admitted, or the rejection. -/
def admitMove (chess : ChessEngine) (game : PersistedGame) (player : GamePlayer)
    (input : SubmitMove) (observedAt : Millis) : Except Rejection (GameClock × MoveEvaluation) :=
  let version := some game.version
  if game.status.terminal then
    .error (rejected .gameAlreadyEnded "The game has already ended." false version)
  else if game.status ≠ .inProgress ∧ game.status ≠ .ready then
    .error (rejected .gameUnavailable "The game is not accepting moves." false version)
  else if game.turnColor ≠ player.color then
    .error (rejected .notYourTurn "It is not this player’s turn." false version)
  else if input.expectedVersion ≠ game.version then
    .error (rejected .staleGameVersion "The game version is stale." true version)
  else if hasContiguousHistory game = false then
    .error (rejected .gameStateCorrupt "The persisted move history is not contiguous." false version)
  else
    match admission game player.color observedAt with
    | .error _ =>
      .error (rejected .gameStateCorrupt "The persisted game clock is inconsistent." false version)
    | .ok (.flagFall _ _ _) =>
      .error (rejected .clockExpired "The move arrived after the player’s clock expired." false
        version)
    | .ok (.accepted clock _) =>
      match evaluate chess game input.move with
      | .error e =>
        if e.code = .illegalMove then .error (rejected .illegalMove e.message false version)
        else .error (rejected .gameStateCorrupt "The persisted chess state could not be replayed."
          false version)
      | .ok evaluation =>
        if evaluation.applied.color ≠ player.color then
          .error (rejected .gameStateCorrupt
            "The chess engine turn does not match the persisted game turn." false version)
        else .ok (clock,evaluation)

/-- `deriveTerminalOutcome` of the position after the move, if it ends the game. -/
def terminalOutcome : GameOver → Except GameDomainError (Option TerminalOutcome)
  | .ongoing => .ok none
  | .over reason winner => (deriveTerminalOutcome (.board reason winner)).map some

structure AdmittedMove where
  game : PersistedGame
  player : GamePlayer
  input : SubmitMove
  observedAt : Millis
  clock : GameClock
  evaluation : MoveEvaluation
  terminal : Option TerminalOutcome

namespace AdmittedMove

def startedVersion (m : AdmittedMove) : ℕ :=
  if m.game.status = .ready then m.game.version + 1 else m.game.version

def resultVersion (m : AdmittedMove) : ℕ := m.startedVersion + 1

def nextTurn (m : AdmittedMove) : PlayerColor := oppositeColor m.player.color

def clocks (m : AdmittedMove) : GameplayClock where
  blackMs := m.clock.blackMs
  observedAt := m.observedAt
  running := if m.terminal = none then some m.nextTurn else none
  whiteMs := m.clock.whiteMs

def accepted (m : AdmittedMove) : AcceptedMove where
  check := m.evaluation.applied.check
  clientMoveId := m.input.clientMoveId
  clocks := m.clocks
  fenAfter := m.evaluation.applied.fenAfter
  gameId := m.game.id
  gameVersion := m.resultVersion
  ply := m.evaluation.applied.plyNumber
  san := m.evaluation.applied.san
  turn := m.nextTurn
  uci := m.evaluation.applied.uci

def started (m : AdmittedMove) : Option StartedGame :=
  if m.game.status = .ready then
    some {
      clocks := ⟨m.game.blackClockMs,m.observedAt,some .w,m.game.whiteClockMs⟩
      gameId := m.game.id
      gameVersion := m.startedVersion
      initialFen := m.game.initialFen }
  else none

def ended (m : AdmittedMove) : Option EndedGame :=
  m.terminal.map fun terminal => {
    clocks := m.clocks
    finalFen := m.evaluation.applied.fenAfter
    gameId := m.game.id
    gameVersion := m.resultVersion
    pgn := m.evaluation.pgn
    result := terminal.result
    termination := terminal.termination }

def submission (m : AdmittedMove) (guests : GuestSessionId × GuestSessionId) :
    MoveSubmission where
  accepted := m.accepted
  duplicate := false
  ended := m.ended
  guestSessionIds := guests
  started := m.started

/-- The data of `game.updateMany`. -/
def updateRow (m : AdmittedMove) (g : PersistedGame) : PersistedGame :=
  { g with
    blackClockMs := m.clock.blackMs
    currentFen := m.evaluation.applied.fenAfter
    endedAt := if m.terminal = none then g.endedAt else some m.observedAt
    result := (m.terminal.map fun t => persistedResult t.result).or g.result
    termination := (m.terminal.map fun t => persistedTermination t.termination).or g.termination
    pgn := m.evaluation.pgn
    startedAt := if m.game.status = .ready then some m.observedAt else g.startedAt
    status := match m.terminal with
      | none => if m.game.status = .ready then .inProgress else m.game.status
      | some t => t.status.toGameStatus
    turnColor := m.nextTurn
    turnStartedAt := if m.terminal = none then some m.observedAt else none
    version := g.version + if m.game.status = .ready then 2 else 1
    whiteClockMs := m.clock.whiteMs }

def moveRow (m : AdmittedMove) : MoveRow where
  ply := m.evaluation.applied.plyNumber
  clientMoveId := m.input.clientMoveId
  guestSessionId := m.input.guestSessionId
  color := m.player.color
  san := m.evaluation.applied.san
  uci := m.evaluation.applied.uci
  fenBefore := m.evaluation.applied.fenBefore
  fenAfter := m.evaluation.applied.fenAfter
  serverReceivedAt := m.observedAt

def command (m : AdmittedMove) (guests : GuestSessionId × GuestSessionId) : GameCommand where
  eventId := m.input.clientMoveId
  guestSessionId := m.input.guestSessionId
  commandType := .move
  resultVersion := m.resultVersion
  response := persistedSubmission (m.submission guests)

end AdmittedMove

def guestPair (game : PersistedGame) : Option (GuestSessionId × GuestSessionId) :=
  match game.players with
  | [first,second] => some (first.guestSessionId,second.guestSessionId)
  | _ => none

theorem guestPair_of_players {game : PersistedGame} {p q : GamePlayer}
    (h : game.players = [p,q]) : guestPair game = some (p.guestSessionId,q.guestSessionId) := by
  unfold guestPair
  rw [h]

namespace Db

def commitMove (db : Db) (m : AdmittedMove) :
    Except DatabaseErrorKind (MoveTransactionResult × Db) :=
  match guestPair m.game with
  | none => .ok (.rejected (rejected .gameStateCorrupt
      "The game does not contain exactly two players." false (some m.game.version)),db)
  | some guests => do
    let (count,db) ← db.updateGameMany m.game.id m.game.version m.updateRow
    if count ≠ 1 then .ok (.staleWrite m.game.version,db)
    else do
      let db ← db.createMove m.game.id m.moveRow
      let db := if m.terminal = none then db else db.deleteAssignments m.game.id
      let db ← db.createGameCommand m.game.id (m.command guests)
      commit m.game.id (.accepted (m.submission guests)) db

def submitInTransaction (chess : ChessEngine) (db : Db) (input : SubmitMove)
    (observation : Micros) : Except DatabaseErrorKind (MoveTransactionResult × Db) := do
  match ← db.lockGameClock input.gameId observation,db.games.find input.gameId with
  | none,_ | some _,none => .ok (.rejected (rejected .gameNotFound
      "The requested game does not exist." false),db)
  | some locked,some game =>
    match game.playerFor input.guestSessionId with
    | none => .ok (.rejected (rejected .notAPlayer
        "The authenticated guest is not a member of this game." false (some game.version)),db)
    | some player =>
      match game.command input.clientMoveId with
      | some replay => .ok (replayResult replay input,db)
      | none =>
        match admitMove chess game player input locked.observedAt with
        | .error rejection => .ok (.rejected rejection,db)
        | .ok (clock,evaluation) =>
          match terminalOutcome evaluation.gameOver with
          | .error _ => .error .unknown
          | .ok terminal =>
            db.commitMove ⟨game,player,input,locked.observedAt,clock,evaluation,terminal⟩

def moveAnswer : MoveTransactionResult → Except GameServiceError MoveSubmission
  | .accepted submission => .ok submission
  | .staleWrite version => .error (moveError (rejected .staleGameVersion
      "The game changed before the move could be committed." true (some version)))
  | .rejected rejection => .error (moveError rejection)

def findReplay (db : Db) (input : SubmitMove) :
    Except GameServiceError (Option MoveSubmission) :=
  match (db.games.find input.gameId).bind fun g => g.command input.clientMoveId with
  | none => .ok none
  | some command => (moveAnswer (replayResult command input)).map some

/-- The transaction of `submitMove`. A unique violation leads to `recoverMove`. -/
def submitMove (chess : ChessEngine) (db : Db) (input : SubmitMove) (observation : Micros) :
    Except RepositoryError MoveSubmission × Db :=
  answered (db.transaction (db.submitInTransaction chess input observation)) moveAnswer

/-- How `submitMove` ends after a unique violation: `findReplay` reads what is committed by
then, and without a command the violation is thrown. -/
def recoverMove (db : Db) (input : SubmitMove) : Except RepositoryError MoveSubmission :=
  match db.findReplay input with
  | .error e => .error (.service e)
  | .ok none => .error (.database .unique)
  | .ok (some submission) => .ok submission

end Db
end CluChess
