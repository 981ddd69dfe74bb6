import CluChess.GuestSessionRepository
import CluChess.RepositoryTransactions

/-! The operations of the repositories. What a transaction read before its lock (the
observation, an assignment, a recorded command) comes with the operation and is arbitrary.
Once for all operations the module says what each commits and how it then answers. -/
namespace CluChess

inductive Operation
  | session (operation : SessionOperation)
  | allocate (input : AllocateGame)
  | markReady (input : MarkGameReady)
  | startIfReady (gameId : GameId) (observation : Micros)
  | submitMove (input : SubmitMove) (observation : Micros)
  | recoverMove (input : SubmitMove)
  | resign (input : ResignGame) (observation : Micros)
  | recoverResignation (input : ResignGame)
  | terminateForReset (guestSessionId : GuestSessionId) (assignment : Option GameId)
      (observation : Micros)
  | markDisconnected (guestSessionId : GuestSessionId) (assignment : Option GameId)
      (graceMs : ℤ) (observation : Micros)
  | markReconnected (guestSessionId : GuestSessionId) (assignment : Option GameId)
      (observation : Micros)
  | adjudicateTimeout (gameId : GameId) (observation : Micros)
  | adjudicateNoShow (gameId : GameId) (observation : Micros)
  | adjudicateAbandonment (gameId : GameId) (absentGuestSessionIds : List GuestSessionId)
      (observation : Micros)

inductive Answer
  | session (answer : SessionAnswer)
  | allocation (result : Except RepositoryError GameAllocation)
  | start (result : Except RepositoryError StartGameResult)
  | move (result : Except RepositoryError MoveSubmission)
  | resignation (result : Except RepositoryError TerminalSubmission)
  | terminal (result : Except RepositoryError (Option TerminalSubmission))
  | disconnected (result : Except RepositoryError (Option PlayerDisconnected))
  | reconnected (result : Except RepositoryError (Option PlayerReconnected))

def execute (chess : ChessEngine) (db : Db) : Operation → Answer × Db
  | .session operation => Prod.map .session id (db.executeSession operation)
  | .allocate input => Prod.map .allocation id (db.allocate input)
  | .markReady input => Prod.map .allocation id (db.markReady input)
  | .startIfReady gameId observation => Prod.map .start id (db.startIfReady gameId observation)
  | .submitMove input observation => Prod.map .move id (db.submitMove chess input observation)
  | .recoverMove input => (.move (db.recoverMove input),db)
  | .resign input observation => Prod.map .resignation id (db.resign input observation)
  | .recoverResignation input => (.resignation (db.recoverResignation input),db)
  | .terminateForReset guest assignment observation =>
    Prod.map .terminal id (db.terminateForReset guest assignment observation)
  | .markDisconnected guest assignment graceMs observation =>
    Prod.map .disconnected id (db.markDisconnected guest assignment graceMs observation)
  | .markReconnected guest assignment observation =>
    Prod.map .reconnected id (db.markReconnected guest assignment observation)
  | .adjudicateTimeout gameId observation =>
    Prod.map .terminal id (db.adjudicateTimeout gameId observation)
  | .adjudicateNoShow gameId observation =>
    Prod.map .terminal id (db.adjudicateNoShow gameId observation)
  | .adjudicateAbandonment gameId absent observation =>
    Prod.map .terminal id (db.adjudicateAbandonment gameId absent observation)

variable {chess : ChessEngine} {db : Db}

def Operation.isGrace : Operation → Bool
  | .markDisconnected _ _ _ _ | .markReconnected _ _ _ => true
  | _ => false

/-- The answer is the first announcement of the end of the game: a terminal submission or a
move submission with `ended` set, and neither a duplicate. -/
def Answer.endsGame (id : GameId) : Answer → Prop
  | .move (.ok s) => s.duplicate = false ∧ s.ended ≠ none ∧ s.accepted.gameId = id
  | .resignation (.ok s) => s.duplicate = false ∧ s.ended.gameId = id
  | .terminal (.ok (some s)) => s.duplicate = false ∧ s.ended.gameId = id
  | _ => False

theorem Db.answered_cases {α β : Type} {work : Except DatabaseErrorKind (α × Db)}
    {answer : α → Except GameServiceError β} {b : β}
    (h : (Db.answered (db.transaction work) answer).1 = .ok b) :
    ∃ a db', work = .ok (a,db') ∧ answer a = .ok b ∧
      (Db.answered (db.transaction work) answer).2 = db' := by
  rcases Db.transaction_cases db work with ⟨kind,ht⟩ | ⟨a,db',hw,ht⟩
  · rw [ht] at h
    cases h
  · rw [ht] at h ⊢
    refine ⟨a,db',hw,?_,rfl⟩
    simp only [Db.answered_ok] at h
    cases ha : answer a with
    | error e =>
      rw [ha] at h
      cases h
    | ok b' =>
      rw [ha] at h
      cases h
      rfl

theorem replayResult_duplicate {c : GameCommand} {input : SubmitMove} {s : MoveSubmission}
    (h : replayResult c input = .accepted s) : s.duplicate = true := by
  unfold replayResult at h
  split_ifs at h
  cases hr : c.response with
  | terminal _ _ => simp [hr,persistedSubmissionSchema] at h
  | move accepted ended guests started =>
    simp only [hr,persistedSubmissionSchema] at h
    split_ifs at h
    · cases h
      rfl

theorem replayResignation_duplicate {c : GameCommand} {input : ResignGame}
    {s : TerminalSubmission} (h : replayResignation c input = .accepted s) :
    s.duplicate = true := by
  unfold replayResignation at h
  split_ifs at h
  cases hr : c.response with
  | move _ _ _ _ => simp [hr,storedTerminalSchema] at h
  | terminal ended guests =>
    simp only [hr,storedTerminalSchema] at h
    split_ifs at h
    · cases h
      rfl

theorem moveAnswer_ok {r : MoveTransactionResult} {s : MoveSubmission}
    (h : Db.moveAnswer r = .ok s) : r = .accepted s := by
  cases r with
  | accepted submission => rw [Except.ok.inj h]
  | rejected rejection => cases h
  | staleWrite version => cases h

theorem recoverMove_duplicate {input : SubmitMove} {s : MoveSubmission}
    (h : db.recoverMove input = .ok s) : s.duplicate = true := by
  unfold Db.recoverMove Db.findReplay at h
  cases hc : (db.games.find input.gameId).bind fun g => g.command input.clientMoveId with
  | none => simp [hc] at h
  | some c =>
    simp only [hc] at h
    cases hr : Db.moveAnswer (replayResult c input) with
    | error e => simp [hr,Except.map] at h
    | ok s' =>
      simp only [hr,Except.map] at h
      cases h
      exact replayResult_duplicate (moveAnswer_ok hr)

/-- The game whose row the operation may write. -/
def Operation.gameId : Operation → Option GameId
  | .markReady input => some input.gameId
  | .startIfReady gameId _ | .adjudicateTimeout gameId _ | .adjudicateNoShow gameId _
  | .adjudicateAbandonment gameId _ _ => some gameId
  | .submitMove input _ => some input.gameId
  | .resign input _ => some input.gameId
  | .terminateForReset _ assignment _ | .markDisconnected _ assignment _ _
  | .markReconnected _ assignment _ => assignment
  | _ => none

/-- The event that an adjudication finds due in the row it has locked. -/
def Operation.adjudication (g : PersistedGame) : Operation → Option (Micros × TerminalEvent)
  | .adjudicateTimeout _ observation =>
    (Db.timeoutEvent (g.locked observation) g).map (observation,·)
  | .adjudicateNoShow _ observation =>
    (Db.noShowEvent (g.locked observation) g).map (observation,·)
  | .adjudicateAbandonment _ absent observation =>
    (Db.abandonmentEvent absent (g.locked observation) g).map (observation,·)
  | _ => none

def allocationResult (g : PersistedGame) : Except RepositoryError GameAllocation :=
  (mapAllocation g).mapError .service

def startResult (g : PersistedGame) (started : Bool) : Except RepositoryError StartGameResult :=
  ((mapAllocation g).map (⟨·,started⟩)).mapError .service

theorem allocationResult_ok {g : PersistedGame} {a : GameAllocation}
    (h : allocationResult g = .ok a) : mapAllocation g = .ok a := by
  unfold allocationResult at h
  cases ha : mapAllocation g with
  | error e =>
    rw [ha] at h
    cases h
  | ok a' =>
    rw [ha] at h
    exact congrArg Except.ok (Except.ok.inj h)

theorem startResult_ok {g : PersistedGame} {started : Bool} {r : StartGameResult}
    (h : startResult g started = .ok r) :
    mapAllocation g = .ok r.allocation ∧ r.started = started := by
  unfold startResult at h
  cases ha : mapAllocation g with
  | error e =>
    rw [ha] at h
    cases h
  | ok a =>
    rw [ha] at h
    cases h
    exact ⟨rfl,rfl⟩

/-- What an operation that writes the row of a game makes of it, and how it answers. -/
inductive Writes (chess : ChessEngine) (g : PersistedGame) :
    Operation → Answer → PersistedGame → Prop
  | join {input : MarkGameReady} {player : GamePlayer}
      (hp : g.playerFor input.guestSessionId = some player) :
      Writes chess g (.markReady input)
        (.allocation (allocationResult (g.mapPlayer player.slot (GamePlayer.join input.observedAt))))
        (g.mapPlayer player.slot (GamePlayer.join input.observedAt))
  | ready {input : MarkGameReady} {player : GamePlayer}
      (hp : g.playerFor input.guestSessionId = some player) (hs : g.status = .waitingForPlayers) :
      Writes chess g (.markReady input) (.allocation (allocationResult
          (g.mapPlayer player.slot (GamePlayer.join input.observedAt)).readied))
        (g.mapPlayer player.slot (GamePlayer.join input.observedAt)).readied
  | startIfReady {gameId : GameId} {observation : Micros} (hs : g.status = .ready) :
      Writes chess g (.startIfReady gameId observation)
        (.start (startResult (g.start (truncatedToMillis observation)) true))
        (g.start (truncatedToMillis observation))
  | submitMove {m : AdmittedMove} {guests : GuestSessionId × GuestSessionId} {observation : Micros}
      (hg : m.game = g) (hid : m.input.gameId = g.id)
      (ho : m.observedAt = truncatedToMillis observation) (hm : m.Admitted chess guests) :
      Writes chess g (.submitMove m.input observation) (.move (.ok (m.submission guests)))
        (m.row guests)
  | resign {input : ResignGame} {player : GamePlayer} {observation : Micros}
      {outcome : TerminalOutcome} {guests : GuestSessionId × GuestSessionId}
      (hplayer : g.playerFor input.guestSessionId = some player)
      (hs : g.status = .inProgress ∨ g.status = .reconnecting)
      (ho : deriveTerminalOutcome (.resignation player.color) = .ok outcome)
      (hp : guestPair g = some guests) :
      Writes chess g (.resign input observation)
        (.resignation (.ok (terminalSubmission g (g.locked observation) outcome guests)))
        ((g.ended observation outcome).addCommand (resignCommand input
          (terminalSubmission g (g.locked observation) outcome guests)))
  | reset {guest : GuestSessionId} {gameId : GameId} {player : GamePlayer} {observation : Micros}
      {outcome : TerminalOutcome} {guests : GuestSessionId × GuestSessionId}
      (hplayer : g.playerFor guest = some player)
      (ho : deriveTerminalOutcome (.abandonment [player.color]) = .ok outcome)
      (hp : guestPair g = some guests) :
      Writes chess g (.terminateForReset guest (some gameId) observation)
        (.terminal (.ok (some (terminalSubmission g (g.locked observation) outcome guests))))
        (g.ended observation outcome)
  | adjudicate {op : Operation} {observation : Micros} {event : TerminalEvent}
      {outcome : TerminalOutcome} {guests : GuestSessionId × GuestSessionId}
      (he : op.adjudication g = some (observation,event))
      (ho : deriveTerminalOutcome event = .ok outcome) (hp : guestPair g = some guests) :
      Writes chess g op
        (.terminal (.ok (some (terminalSubmission g (g.locked observation) outcome guests))))
        (g.ended observation outcome)
  | leave {guest : GuestSessionId} {gameId : GameId} {player : GamePlayer} {graceMs : ℤ}
      {observation : Micros} (hp : g.playerFor guest = some player)
      (hs : g.status = .waitingForPlayers) :
      Writes chess g (.markDisconnected guest (some gameId) graceMs observation)
        (.disconnected (.ok none)) (g.mapPlayer player.slot GamePlayer.leave)
  | disconnect {guest : GuestSessionId} {player : GamePlayer} {graceMs : ℤ}
      {observation : Micros} (hp : g.playerFor guest = some player)
      (hs : g.status.started = true) :
      Writes chess g (.markDisconnected guest (some g.id) graceMs observation)
        (.disconnected (.ok (some ⟨player.color,g.id,g.version + 1,
          truncatedToMillis observation + graceMs⟩)))
        ((g.mapPlayer player.slot (GamePlayer.disconnect (truncatedToMillis observation)
          (truncatedToMillis observation + graceMs))).paused
            (earliest ((truncatedToMillis observation + graceMs) :: g.otherDeadlines player.slot)))
  | reconnect {guest : GuestSessionId} {player : GamePlayer} {observation : Micros}
      (hp : g.playerFor guest = some player) (hs : g.status = .reconnecting) :
      Writes chess g (.markReconnected guest (some g.id) observation)
        (.reconnected (.ok (some ⟨player.color,g.id,g.version + 1⟩)))
        ((g.mapPlayer player.slot (GamePlayer.reconnect (truncatedToMillis observation))).resumed
          (g.otherDeadlines player.slot))

/-- The operation has been refused: it has thrown, or answered `null`. -/
def Answer.rejected : Answer → Prop
  | .allocation (.error _) | .start (.error _) | .move (.error _) | .resignation (.error _)
  | .terminal (.error _) | .terminal (.ok none) | .disconnected (.error _)
  | .disconnected (.ok none) | .reconnected (.error _) | .reconnected (.ok none) => True
  | _ => False

/-- How an operation answers that writes no row of a game. -/
inductive Reads (db : Db) : Operation → Answer → Prop
  | rejected {op : Operation} {answer : Answer} (h : answer.rejected) : Reads db op answer
  | allocated {input : AllocateGame} {g : PersistedGame}
      (hg : db.gameByMatchId input.matchId = some g) :
      Reads db (.allocate input) (.allocation (allocationResult g))
  | found {gameId : GameId} {observation : Micros} {g : PersistedGame}
      (hg : db.games.find gameId = some g) (hs : g.status ≠ .ready) :
      Reads db (.startIfReady gameId observation) (.start (startResult g false))
  | move {op : Operation} {input : SubmitMove} {g : PersistedGame} {c : GameCommand}
      {s : MoveSubmission}
      (hop : op = .recoverMove input ∨ ∃ observation, op = .submitMove input observation)
      (hg : db.games.find input.gameId = some g) (hc : g.command input.clientMoveId = some c)
      (hr : replayResult c input = .accepted s) : Reads db op (.move (.ok s))
  | resignation {op : Operation} {input : ResignGame} {g : PersistedGame} {c : GameCommand}
      {s : TerminalSubmission}
      (hop : op = .recoverResignation input ∨ ∃ observation, op = .resign input observation)
      (hg : db.games.find input.gameId = some g) (hc : g.command input.eventId = some c)
      (hr : replayResignation c input = .accepted s) : Reads db op (.resignation (.ok s))

/-- What an operation commits and how it answers. -/
inductive Outcome (chess : ChessEngine) (db : Db) (op : Operation) (answer : Answer) : Db → Prop
  | session {operation : SessionOperation} {db' : Db} (hop : op = .session operation)
      (hanswer : answer = .session (db.executeSession operation).1)
      (h : db' = (db.executeSession operation).2) : Outcome chess db op answer db'
  | kept {db' : Db} (h : db' = db) (hr : Reads db op answer) : Outcome chess db op answer db'
  | allocated {input : AllocateGame} {db' : Db} (hop : op = .allocate input)
      (hd : input.whiteGuestSessionId ≠ input.blackGuestSessionId)
      (h : db.Allocated input db')
      (hanswer : answer = .allocation (allocationResult (newGameRow input))) :
      Outcome chess db op answer db'
  | wrote {id : GameId} {g g' : PersistedGame} {db' : Db} (hid : op.gameId = some id)
      (hw : db.Wrote chess id g g' db') (hr : Writes chess g op answer g') :
      Outcome chess db op answer db'

theorem Outcome.frame_session {operation : SessionOperation} {db' : Db}
    (h : db' = (db.executeSession operation).2) :
    db'.games = db.games ∧ db'.assignments = db.assignments := h ▸ db.executeSession_frame operation

section Answers

variable {id : GameId} {op : Operation} {answer : Answer} {g g' : PersistedGame}

theorem Answer.rejected.not_endsGame (h : answer.rejected) : ¬ answer.endsGame id := by
  unfold Answer.rejected at h
  unfold Answer.endsGame
  split at h <;> simp_all

theorem Reads.not_endsGame (h : Reads db op answer) : ¬ answer.endsGame id := by
  cases h with
  | rejected h => exact h.not_endsGame
  | move _ _ _ hr =>
    intro he
    have hd := replayResult_duplicate hr
    rw [he.1] at hd
    cases hd
  | resignation _ _ _ hr =>
    intro he
    have hd := replayResignation_duplicate hr
    rw [he.1] at hd
    cases hd
  | _ => exact fun h => h

theorem Writes.grace (h : Writes chess g op answer g') (hop : op.isGrace = true) :
    g'.status.terminal = false := by
  cases h with
  | leave _ hs => simp [PersistedGame.mapPlayer,hs,GameStatus.terminal]
  | disconnect _ _ => rfl
  | reconnect _ _ =>
    simp only [PersistedGame.resumed]
    split_ifs <;> rfl
  | @adjudicate op _ _ _ _ he _ _ =>
    cases op with
    | markDisconnected => cases he
    | markReconnected => cases he
    | _ => cases hop
  | _ => cases hop

end Answers

theorem transaction_keeps {P : Db → Prop} {α β : Type}
    {work : Except DatabaseErrorKind (α × Db)} {answer : α → Except GameServiceError β}
    (hdb : P db) (h : ∀ r db', work = .ok (r,db') → P db') :
    P (Db.answered (db.transaction work) answer).2 := by
  rcases Db.transaction_cases db work with ⟨kind,ht⟩ | ⟨r,db',hw,ht⟩
  · rw [ht]
    exact hdb
  · rw [ht]
    exact h r db' hw

/-- A transaction that fails is rolled back and answers with an error. -/
theorem Outcome.of_transaction {α β : Type} {op : Operation}
    {work : Except DatabaseErrorKind (α × Db)} {answer : α → Except GameServiceError β}
    {reply : Except RepositoryError β → Answer} (herror : ∀ e, (reply (.error e)).rejected)
    (h : ∀ r db', work = .ok (r,db') →
      Outcome chess db op (reply ((answer r).mapError .service)) db') :
    Outcome chess db op (Prod.map reply id (Db.answered (db.transaction work) answer)).1
      (Prod.map reply id (Db.answered (db.transaction work) answer)).2 := by
  rcases Db.transaction_cases db work with ⟨kind,ht⟩ | ⟨r,db',hw,ht⟩
  · rw [ht]
    exact .kept rfl (.rejected (herror _))
  · rw [ht]
    exact h r db' hw

theorem Outcome.of_rejected {op : Operation} {answer : Answer} (h : answer.rejected) :
    Outcome chess db op answer db := .kept rfl (.rejected h)

theorem adjudicate_outcome {op : Operation} {id : GameId} {observation : Micros}
    {event : LockedGameClock → PersistedGame → Option TerminalEvent}
    (hid : op.gameId = some id)
    (hop : ∀ g, op.adjudication g = (event (g.locked observation) g).map (observation,·))
    (hevent : ∀ g e, event (g.locked observation) g = some e → g.status.terminal = false) :
    Outcome chess db op
      (.terminal (Db.answered (db.transaction (db.adjudicate id observation event)) .ok).1)
      (Db.answered (db.transaction (db.adjudicate id observation event)) .ok).2 := by
  refine Outcome.of_transaction (fun _ => trivial) fun r db' h => ?_
  rcases adjudicate_ok chess hevent h with ⟨rfl,rfl⟩ | ⟨g,e,outcome,guests,he,ho,hp,hw,rfl⟩
  · exact .of_rejected trivial
  · exact .wrote hid hw (.adjudicate (by rw [hop,he]; rfl) ho hp)

theorem startAnswer_rejected {r : StartTransactionResult} (h : ∀ a b, r ≠ .found a b) :
    (Answer.start ((Db.startAnswer r).mapError .service)).rejected := by
  cases r with
  | found a b => exact absurd rfl (h a b)
  | missing => trivial
  | stale version => trivial

theorem readyAnswer_rejected {r : ReadyTransactionResult} (h : ∀ a, r ≠ .ready a) :
    (Answer.allocation ((Db.readyAnswer r).mapError .service)).rejected := by
  cases r with
  | ready a => exact absurd rfl (h a)
  | _ => trivial

theorem replay_outcome {op : Operation} {input : SubmitMove} {g : PersistedGame} {c : GameCommand}
    (hop : op = .recoverMove input ∨ ∃ observation, op = .submitMove input observation)
    (hg : db.games.find input.gameId = some g) (hc : g.command input.clientMoveId = some c) :
    Outcome chess db op
      (.move ((Db.moveAnswer (replayResult c input)).mapError .service)) db := by
  cases hr : replayResult c input with
  | accepted s => exact .kept rfl (.move hop hg hc hr)
  | rejected rejection => exact .of_rejected trivial
  | staleWrite version => exact .of_rejected trivial

theorem resignReplay_outcome {op : Operation} {input : ResignGame} {g : PersistedGame}
    {c : GameCommand}
    (hop : op = .recoverResignation input ∨ ∃ observation, op = .resign input observation)
    (hg : db.games.find input.gameId = some g) (hc : g.command input.eventId = some c) :
    Outcome chess db op
      (.resignation ((Db.resignAnswer (replayResignation c input)).mapError .service)) db := by
  cases hr : replayResignation c input with
  | accepted s => exact .kept rfl (.resignation hop hg hc hr)
  | rejected rejection => exact .of_rejected trivial

theorem Db.recoverMove_of_command {input : SubmitMove} {g : PersistedGame} {c : GameCommand}
    (hg : db.games.find input.gameId = some g) (hc : g.command input.clientMoveId = some c) :
    db.recoverMove input = (Db.moveAnswer (replayResult c input)).mapError .service := by
  unfold recoverMove findReplay
  simp only [hg,Option.bind_some,hc]
  cases Db.moveAnswer (replayResult c input) <;> rfl

theorem Db.recoverResignation_of_command {input : ResignGame} {g : PersistedGame}
    {c : GameCommand} (hg : db.games.find input.gameId = some g)
    (hc : g.command input.eventId = some c) : db.recoverResignation input =
      (Db.resignAnswer (replayResignation c input)).mapError .service := by
  unfold recoverResignation findResignReplay
  simp only [hg,Option.bind_some,hc]
  cases Db.resignAnswer (replayResignation c input) <;> rfl

theorem recoverMove_outcome (input : SubmitMove) :
    Outcome chess db (.recoverMove input) (.move (db.recoverMove input)) db := by
  cases hc : (db.games.find input.gameId).bind fun g => g.command input.clientMoveId with
  | none =>
    unfold Db.recoverMove Db.findReplay
    rw [hc]
    exact .of_rejected trivial
  | some c =>
    obtain ⟨g,hg,hc⟩ := Option.bind_eq_some_iff.mp hc
    rw [Db.recoverMove_of_command hg hc]
    exact replay_outcome (Or.inl rfl) hg hc

theorem recoverResignation_outcome (input : ResignGame) :
    Outcome chess db (.recoverResignation input) (.resignation (db.recoverResignation input))
      db := by
  cases hc : (db.games.find input.gameId).bind fun g => g.command input.eventId with
  | none =>
    unfold Db.recoverResignation Db.findResignReplay
    rw [hc]
    exact .of_rejected trivial
  | some c =>
    obtain ⟨g,hg,hc⟩ := Option.bind_eq_some_iff.mp hc
    rw [Db.recoverResignation_of_command hg hc]
    exact resignReplay_outcome (Or.inl rfl) hg hc

/-- What each operation commits and how it answers. -/
theorem execute_outcome (chess : ChessEngine) (db : Db) (op : Operation) :
    Outcome chess db op (execute chess db op).1 (execute chess db op).2 := by
  cases op with
  | session operation => exact .session rfl rfl rfl
  | allocate input =>
    simp only [execute,Db.allocate]
    split_ifs with hd
    · exact .of_rejected trivial
    · refine Outcome.of_transaction (fun _ => trivial) fun r db' h => ?_
      rcases allocateInTransaction_ok h with ⟨g,hg,rfl,hr⟩ | ⟨rfl,rfl | rfl⟩ | ⟨ha,rfl⟩
      · split_ifs at hr <;> subst hr
        · exact .kept rfl (.allocated hg)
        · exact .of_rejected trivial
      · exact .of_rejected trivial
      · exact .of_rejected trivial
      · exact .allocated rfl hd ha rfl
  | markReady input =>
    refine Outcome.of_transaction (fun _ => trivial) fun r db' h => ?_
    rcases markReadyInTransaction_ok chess h with ⟨rfl,hr⟩ | ⟨g,_,player,hw,rfl,hp,rfl | ⟨hs,rfl⟩⟩
    · exact .of_rejected (readyAnswer_rejected hr)
    · exact .wrote rfl hw (.join hp)
    · exact .wrote rfl hw (.ready hp hs)
  | startIfReady gameId observation =>
    refine Outcome.of_transaction (fun _ => trivial) fun r db' h => ?_
    rcases startIfReadyInTransaction_ok chess h with
      ⟨rfl,hr⟩ | ⟨g,rfl,hg,hs,rfl⟩ | ⟨g,hs,hw,rfl⟩
    · exact .of_rejected (startAnswer_rejected hr)
    · exact .kept rfl (.found hg hs)
    · exact .wrote rfl hw (.startIfReady hs)
  | submitMove input observation =>
    refine Outcome.of_transaction (fun _ => trivial) fun r db' h => ?_
    rcases submitInTransaction_ok h with ⟨rfl,_,rfl⟩ | ⟨g,c,hg,hc,rfl,rfl⟩ |
      ⟨m,guests,rfl,ho,hm,hw,rfl⟩
    · exact .of_rejected trivial
    · exact replay_outcome (Or.inr ⟨observation,rfl⟩) hg hc
    · exact .wrote rfl hw (.submitMove rfl (Table.find_key hw.found).symm ho hm)
  | recoverMove input => exact recoverMove_outcome input
  | resign input observation =>
    refine Outcome.of_transaction (fun _ => trivial) fun r db' h => ?_
    rcases resignInTransaction_ok chess h with ⟨rfl,_,rfl⟩ | ⟨g,c,hg,hc,rfl,rfl⟩ |
      ⟨g,player,outcome,guests,hp,_,hplayer,hs,ho,hw,rfl⟩
    · exact .of_rejected trivial
    · exact resignReplay_outcome (Or.inr ⟨observation,rfl⟩) hg hc
    · exact .wrote rfl hw (.resign hplayer hs ho hp)
  | recoverResignation input => exact recoverResignation_outcome input
  | terminateForReset guest assignment observation =>
    refine Outcome.of_transaction (fun _ => trivial) fun r db' h => ?_
    rcases terminateForResetInTransaction_ok chess h with
      ⟨rfl,rfl,_⟩ | ⟨id,g,player,outcome,guests,rfl,hplayer,ho,hp,hw,rfl⟩
    · exact .of_rejected trivial
    · exact .wrote rfl hw (.reset hplayer ho hp)
  | markDisconnected guest assignment graceMs observation =>
    refine Outcome.of_transaction (fun _ => trivial) fun r db' h => ?_
    rcases markDisconnectedInTransaction_ok chess h with
      ⟨rfl,rfl,_⟩ | ⟨id,g,player,rfl,hp,hwaiting,rfl,hw⟩ | ⟨id,g,player,rfl,hp,hstarted,rfl,hw⟩
    · exact .of_rejected trivial
    · exact .wrote rfl hw (.leave hp hwaiting)
    · obtain rfl := Table.find_key hw.found
      exact .wrote rfl hw (.disconnect hp hstarted)
  | markReconnected guest assignment observation =>
    refine Outcome.of_transaction (fun _ => trivial) fun r db' h => ?_
    rcases markReconnectedInTransaction_ok chess h with
      ⟨rfl,rfl,_⟩ | ⟨id,g,player,rfl,hp,hstatus,rfl,hw⟩
    · exact .of_rejected trivial
    · obtain rfl := Table.find_key hw.found
      exact .wrote rfl hw (.reconnect hp hstatus)
  | adjudicateTimeout gameId observation =>
    exact adjudicate_outcome rfl (fun _ => rfl) fun g e he =>
      GameStatus.not_terminal_of_started (timeoutEvent_not_terminal he)
  | adjudicateNoShow gameId observation =>
    exact adjudicate_outcome rfl (fun _ => rfl) fun g e he => by
      rw [noShowEvent_waiting he]
      rfl
  | adjudicateAbandonment gameId absent observation =>
    exact adjudicate_outcome rfl (fun _ => rfl) fun g e he => by
      rw [abandonmentEvent_reconnecting he]
      rfl

end CluChess
