import CluChess.GameplayRepository

/-! `prisma-game-lifecycle.repository.ts`: the transactions that end a game, the reconnect
grace of a player, and the reads of the deadline machinery. The assignment that a
transaction reads before it waits for the row lock is a parameter of the transaction. -/
namespace CluChess

/-- `storedTerminalSchema`; the clock of a finished game is not running. -/
def storedTerminalSchema : CommandResponse → Option TerminalSubmission
  | .terminal ended guestSessionIds =>
    if endedGameSchema ended && decide (ended.clocks.running = none) &&
        guestTupleSchema guestSessionIds then
      some ⟨true,ended,guestSessionIds⟩
    else none
  | .move _ _ _ _ => none

inductive ResignTransactionResult
  | accepted (submission : TerminalSubmission)
  | rejected (rejection : Rejection)
  deriving DecidableEq, Repr

def replayResignation (command : GameCommand) (input : ResignGame) : ResignTransactionResult :=
  if command.commandType ≠ .resign ∨ command.guestSessionId ≠ input.guestSessionId then
    .rejected (rejected .idempotencyKeyReused
      "The event identifier was already used for a different command." false)
  else
    match storedTerminalSchema command.response with
    | none => .rejected (rejected .idempotencyKeyReused
        "The stored resignation acknowledgement is invalid." false)
    | some submission => .accepted submission

def earliest (values : List Millis) : Option Millis :=
  values.foldl (fun earliest value =>
    match earliest with
    | none => some value
    | some e => if value < e then some value else some e) none

def terminalClock (locked : LockedGameClock) : GameplayClock where
  blackMs := locked.blackClockMs
  observedAt := locked.observedAt
  running := none
  whiteMs := locked.whiteClockMs

/-- The data of the `game.updateMany` of `finalizeTerminal`. -/
def PersistedGame.finalized (g : PersistedGame) (locked : LockedGameClock)
    (outcome : TerminalOutcome) : PersistedGame :=
  { g with
    blackClockMs := locked.blackClockMs
    endedAt := some locked.observedAt
    reconnectDeadlineAt := none
    result := some (persistedResult outcome.result)
    status := outcome.status.toGameStatus
    termination := some (persistedTermination outcome.termination)
    turnStartedAt := none
    version := g.version + 1
    whiteClockMs := locked.whiteClockMs }

def GamePlayer.clearGrace (p : GamePlayer) : GamePlayer :=
  { p with disconnectedAt := none, reconnectGraceEndsAt := none }

def terminalSubmission (game : PersistedGame) (locked : LockedGameClock)
    (outcome : TerminalOutcome) (guests : GuestSessionId × GuestSessionId) :
    TerminalSubmission where
  duplicate := false
  ended := {
    clocks := terminalClock locked
    finalFen := game.currentFen
    gameId := game.id
    gameVersion := game.version + 1
    pgn := game.pgn
    result := outcome.result
    termination := outcome.termination }
  guestSessionIds := guests

def resignCommand (input : ResignGame) (submission : TerminalSubmission) : GameCommand where
  commandType := .resign
  eventId := input.eventId
  guestSessionId := input.guestSessionId
  response := .terminal submission.ended submission.guestSessionIds
  resultVersion := submission.ended.gameVersion

/-- The deadlines of the players other than the one in `slot`. -/
def PersistedGame.otherDeadlines (g : PersistedGame) (slot : ℕ) : List Millis :=
  (g.players.filter fun p => p.slot ≠ slot).filterMap GamePlayer.reconnectGraceEndsAt

def GamePlayer.disconnect (observedAt graceDeadline : Millis) (p : GamePlayer) : GamePlayer :=
  { p with
    connectedAt := none
    disconnectedAt := some observedAt
    reconnectGraceEndsAt := some graceDeadline }

/-- The connection of a player who waits for the game is forgotten. -/
def GamePlayer.leave (p : GamePlayer) : GamePlayer := { p with connectedAt := none }

def GamePlayer.reconnect (observedAt : Millis) (p : GamePlayer) : GamePlayer :=
  { p with connectedAt := some observedAt, disconnectedAt := none, reconnectGraceEndsAt := none }

def PersistedGame.paused (g : PersistedGame) (deadline : Option Millis) : PersistedGame :=
  { g with reconnectDeadlineAt := deadline, status := .reconnecting, version := g.version + 1 }

def PersistedGame.resumed (g : PersistedGame) (remainingDeadlines : List Millis) :
    PersistedGame :=
  { g with
    reconnectDeadlineAt := earliest remainingDeadlines
    status := if remainingDeadlines = [] then .inProgress else .reconnecting
    version := g.version + 1 }

namespace Db

/-- `finalizeTerminal`. Without exactly two players it throws. -/
def finalizeTerminal (db : Db) (game : PersistedGame) (locked : LockedGameClock)
    (outcome : TerminalOutcome) : Except DatabaseErrorKind (Option TerminalSubmission × Db) :=
  match guestPair game with
  | none => .error .unknown
  | some guestSessionIds => do
    let (count,db) ← db.updateGameMany game.id game.version fun g => g.finalized locked outcome
    if count ≠ 1 then .ok (none,db)
    else do
      let db ← db.updatePlayers game.id GamePlayer.clearGrace
      .ok (some (terminalSubmission game locked outcome guestSessionIds),
        db.deleteAssignments game.id)

/-- A terminal outcome that is derived inside the transaction, applied and committed. -/
def terminate (db : Db) (game : PersistedGame) (locked : LockedGameClock)
    (event : TerminalEvent) : Except DatabaseErrorKind (Option TerminalSubmission × Db) :=
  match deriveTerminalOutcome event with
  | .error _ => .error .unknown
  | .ok outcome => do
    let (submission,db) ← db.finalizeTerminal game locked outcome
    commit game.id submission db

def resignInTransaction (db : Db) (input : ResignGame) (observation : Micros) :
    Except DatabaseErrorKind (ResignTransactionResult × Db) := do
  match ← db.lockGameClock input.gameId observation,db.games.find input.gameId with
  | none,_ | some _,none => .ok (.rejected (rejected .gameNotFound
      "The requested game does not exist." false),db)
  | some locked,some game =>
    match game.playerFor input.guestSessionId with
    | none => .ok (.rejected (rejected .notAPlayer
        "The authenticated guest is not a member of this game." false (some game.version)),db)
    | some player =>
      match game.command input.eventId with
      | some replay => .ok (replayResignation replay input,db)
      | none =>
        if game.status ≠ .inProgress ∧ game.status ≠ .reconnecting then
          .ok (.rejected (rejected .gameAlreadyEnded
            "The game is no longer accepting resignation." false (some game.version)),db)
        else if input.expectedVersion ≠ game.version then
          .ok (.rejected (rejected .staleGameVersion "The game version is stale." true
            (some game.version)),db)
        else
          match deriveTerminalOutcome (.resignation player.color) with
          | .error _ => .error .unknown
          | .ok outcome => do
            let (submission,db) ← db.finalizeTerminal game locked outcome
            match submission with
            | none => .ok (.rejected (rejected .staleGameVersion
                "The game changed while the resignation was being applied." true
                (some (game.version + 1))),db)
            | some submission => do
              let db ← db.createGameCommand input.gameId (resignCommand input submission)
              commit input.gameId (.accepted submission) db

def resignAnswer : ResignTransactionResult → Except GameServiceError TerminalSubmission
  | .accepted submission => .ok submission
  | .rejected r => .error (gameServiceError r.code r.message r.retryable r.authoritativeVersion)

def resign (db : Db) (input : ResignGame) (observation : Micros) :
    Except RepositoryError TerminalSubmission × Db :=
  answered (db.transaction (db.resignInTransaction input observation)) resignAnswer

/-- `findResignReplay`, the read after a unique violation. -/
def findResignReplay (db : Db) (input : ResignGame) :
    Except GameServiceError (Option TerminalSubmission) :=
  match (db.games.find input.gameId).bind fun g => g.command input.eventId with
  | none => .ok none
  | some command => (resignAnswer (replayResignation command input)).map some

/-- How `resign` ends after a unique violation. -/
def recoverResignation (db : Db) (input : ResignGame) :
    Except RepositoryError TerminalSubmission :=
  match db.findResignReplay input with
  | .error e => .error (.service e)
  | .ok none => .error (.database .unique)
  | .ok (some submission) => .ok submission

def resettable : List GameStatus := [.inProgress,.ready,.reconnecting,.waitingForPlayers]

def terminateForResetInTransaction (db : Db) (guestSessionId : GuestSessionId)
    (assignment : Option GameId) (observation : Micros) :
    Except DatabaseErrorKind (Option TerminalSubmission × Db) :=
  match assignment with
  | none => .ok (none,db)
  | some gameId => do
    match ← db.lockGameClock gameId observation,db.games.find gameId with
    | none,_ | some _,none => .ok (none,db)
    | some locked,some game =>
      if game.status ∉ resettable then .ok (none,db)
      else
        match game.playerFor guestSessionId with
        | none => .ok (none,db)
        | some player => db.terminate game locked (.abandonment [player.color])

def terminateForReset (db : Db) (guestSessionId : GuestSessionId) (assignment : Option GameId)
    (observation : Micros) : Except RepositoryError (Option TerminalSubmission) × Db :=
  answered (db.transaction
    (db.terminateForResetInTransaction guestSessionId assignment observation)) .ok

/-- The writes of `markDisconnected` for a player of a started game. -/
def startGrace (db : Db) (game : PersistedGame) (player : GamePlayer)
    (observedAt graceDeadline : Millis) :
    Except DatabaseErrorKind (Option PlayerDisconnected × Db) := do
  let reconnectDeadlineAt := earliest (graceDeadline :: game.otherDeadlines player.slot)
  let db ← db.updatePlayer game.id player.slot (GamePlayer.disconnect observedAt graceDeadline)
  let (count,db) ← db.updateGameMany game.id game.version fun g => g.paused reconnectDeadlineAt
  if count ≠ 1 then commit game.id none db
  else commit game.id (some ⟨player.color,game.id,game.version + 1,graceDeadline⟩) db

def markDisconnectedInTransaction (db : Db) (guestSessionId : GuestSessionId)
    (assignment : Option GameId) (graceMs : ℤ) (observation : Micros) :
    Except DatabaseErrorKind (Option PlayerDisconnected × Db) :=
  match assignment with
  | none => .ok (none,db)
  | some gameId => do
    match ← db.lockGameClock gameId observation,db.games.find gameId with
    | none,_ | some _,none => .ok (none,db)
    | some locked,some game =>
      match game.playerFor guestSessionId with
      | none => .ok (none,db)
      | some player =>
        if game.status ≠ .inProgress ∧ game.status ≠ .reconnecting then
          if game.status = .waitingForPlayers then do
            let db ← db.updatePlayer game.id player.slot GamePlayer.leave
            commit game.id none db
          else .ok (none,db)
        else if player.disconnectedAt ≠ none then .ok (none,db)
        else db.startGrace game player locked.observedAt (locked.observedAt + graceMs)

def markDisconnected (db : Db) (guestSessionId : GuestSessionId) (assignment : Option GameId)
    (graceMs : ℤ) (observation : Micros) :
    Except RepositoryError (Option PlayerDisconnected) × Db :=
  answered (db.transaction
    (db.markDisconnectedInTransaction guestSessionId assignment graceMs observation)) .ok

def endGrace (db : Db) (game : PersistedGame) (player : GamePlayer) (observedAt : Millis) :
    Except DatabaseErrorKind (Option PlayerReconnected × Db) := do
  let db ← db.updatePlayer game.id player.slot (GamePlayer.reconnect observedAt)
  let remainingDeadlines := game.otherDeadlines player.slot
  let (count,db) ← db.updateGameMany game.id game.version fun g => g.resumed remainingDeadlines
  if count ≠ 1 then commit game.id none db
  else commit game.id (some ⟨player.color,game.id,game.version + 1⟩) db

def markReconnectedInTransaction (db : Db) (guestSessionId : GuestSessionId)
    (assignment : Option GameId) (observation : Micros) :
    Except DatabaseErrorKind (Option PlayerReconnected × Db) :=
  match assignment with
  | none => .ok (none,db)
  | some gameId => do
    match ← db.lockGameClock gameId observation,db.games.find gameId with
    | none,_ | some _,none => .ok (none,db)
    | some locked,some game =>
      if game.status ≠ .reconnecting then .ok (none,db)
      else
        match game.playerFor guestSessionId with
        | none => .ok (none,db)
        | some player =>
          if player.disconnectedAt = none then .ok (none,db)
          else db.endGrace game player locked.observedAt

def markReconnected (db : Db) (guestSessionId : GuestSessionId) (assignment : Option GameId)
    (observation : Micros) : Except RepositoryError (Option PlayerReconnected) × Db :=
  answered (db.transaction
    (db.markReconnectedInTransaction guestSessionId assignment observation)) .ok

/-- The lock of a game and its row, for the adjudications: `event` is the event of the
game if it is due. -/
def adjudicate (db : Db) (gameId : GameId) (observation : Micros)
    (event : LockedGameClock → PersistedGame → Option TerminalEvent) :
    Except DatabaseErrorKind (Option TerminalSubmission × Db) := do
  match ← db.lockGameClock gameId observation,db.games.find gameId with
  | none,_ | some _,none => .ok (none,db)
  | some locked,some game =>
    match event locked game with
    | none => .ok (none,db)
    | some event => db.terminate game locked event

def timeoutEvent (locked : LockedGameClock) (_game : PersistedGame) : Option TerminalEvent :=
  if locked.status ≠ .inProgress ∧ locked.status ≠ .reconnecting then none
  else
    let remaining := if locked.turnColor = .w then locked.whiteClockMs else locked.blackClockMs
    if remaining > 0 then none else some (.timeout locked.turnColor)

def noShowEvent (locked : LockedGameClock) (game : PersistedGame) : Option TerminalEvent :=
  if locked.status ≠ .waitingForPlayers then none
  else
    match game.joinDeadlineAt with
    | none => none
    | some joinDeadlineAt =>
      if joinDeadlineAt > locked.observedAt then none
      else
        let joined := (game.players.filter fun p => p.joinedAt.isSome).map GamePlayer.color
        some (.noShow joined)

/-- The absent players are all disconnected and the grace of one of them has passed. -/
def abandonmentEvent (absentGuestSessionIds : List GuestSessionId) (locked : LockedGameClock)
    (game : PersistedGame) : Option TerminalEvent :=
  if locked.status ≠ .reconnecting then none
  else
    let absentPlayers := game.players.filter fun p => p.guestSessionId ∈ absentGuestSessionIds
    if absentPlayers = [] ∨
        (absentPlayers.any fun p => p.disconnectedAt = none ∨ p.reconnectGraceEndsAt = none) ∨
        ¬ absentPlayers.any fun p => p.reconnectGraceEndsAt.any fun e => e ≤ locked.observedAt then
      none
    else some (.abandonment (absentPlayers.map GamePlayer.color))

def adjudicateTimeout (db : Db) (gameId : GameId) (observation : Micros) :
    Except RepositoryError (Option TerminalSubmission) × Db :=
  answered (db.transaction (db.adjudicate gameId observation timeoutEvent)) .ok

def adjudicateNoShow (db : Db) (gameId : GameId) (observation : Micros) :
    Except RepositoryError (Option TerminalSubmission) × Db :=
  answered (db.transaction (db.adjudicate gameId observation noShowEvent)) .ok

def adjudicateAbandonment (db : Db) (gameId : GameId)
    (absentGuestSessionIds : List GuestSessionId) (observation : Micros) :
    Except RepositoryError (Option TerminalSubmission) × Db :=
  answered (db.transaction
    (db.adjudicate gameId observation (abandonmentEvent absentGuestSessionIds))) .ok

end Db

namespace PersistedGame

/-- The deadlines that `findDeadline` collects. -/
def deadlineCandidates (g : PersistedGame) : List Millis :=
  (if g.status = .waitingForPlayers then g.joinDeadlineAt.toList else []) ++
  (if g.status.started then
    g.turnStartedAt.toList.map fun turnStartedAt =>
      turnStartedAt + if g.turnColor = .w then g.whiteClockMs else g.blackClockMs
  else []) ++
  (if g.status = .reconnecting then g.players.filterMap GamePlayer.reconnectGraceEndsAt else [])

/-- The `WHERE` of `findDueGameIds`, at an instant with microseconds. -/
def due (g : PersistedGame) (now : Micros) : Bool :=
  (decide (g.status = .waitingForPlayers) && g.joinDeadlineAt.any fun d => d*1000 ≤ now) ||
  (g.status.started && g.turnStartedAt.any fun t =>
    (t + if g.turnColor = .w then g.whiteClockMs else g.blackClockMs)*1000 ≤ now) ||
  (decide (g.status = .reconnecting) && g.players.any fun p =>
    p.reconnectGraceEndsAt.any fun d => d*1000 ≤ now)

end PersistedGame

namespace Db

def findDeadline (db : Db) (gameId : GameId) : Option DeadlineState :=
  match db.games.find gameId with
  | none => none
  | some game => (earliest game.deadlineCandidates).map (⟨·,gameId⟩)

def findDueGameIds (db : Db) (limit : ℕ) (now : Micros) : List GameId :=
  (((db.games.rows.filter fun g => g.due now).map PersistedGame.id).insertionSort
    (· ≤ ·)).take limit

/-- The games that `findSchedulableGameIds` selects from. -/
def schedulable (g : PersistedGame) : Bool :=
  g.status ∈ [GameStatus.waitingForPlayers,.inProgress,.reconnecting]

end Db
end CluChess
