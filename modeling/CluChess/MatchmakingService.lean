import CluChess.ConcurrentAllocation
import CluChess.ProcessPool
import CluChess.QueueExclusivity

/-! `matchmaking.service.ts` and the writes of `game-ephemeral-state.service.ts` under the keys
of matchmaking. Each statement that reaches PostgreSQL or Redis is one step of a task, and the
tasks interleave freely with each other, with the transactions of the games and with the
commands of the guests. -/
namespace CluChess

/-- `GameAllocationService.allocate`: what it asks of the repository. -/
def allocationInput (chess : ChessEngine) (config : AppConfig) (reservation : MatchReservation)
    (observedAt : Millis) (firstGuestIsWhite : Bool) : Except ChessEngineError AllocateGame := do
  let initial ← chess.newGame
  .ok {
    blackGuestSessionId := if firstGuestIsWhite then reservation.b else reservation.a
    gameId := reservation.gameId
    initialFen := initial.fen
    joinDeadlineAt := observedAt + config.joinDeadlineMs
    matchId := reservation.matchId
    mode := .blitz
    observedAt := observedAt
    pgn := initial.pgn
    timeIncrementMs := config.timeIncrementMs
    timeInitialMs := config.timeInitialMs
    whiteGuestSessionId := if firstGuestIsWhite then reservation.a else reservation.b }

structure MatchmakingEffects where
  allocations : List GameAllocation
  removed : List RemovedQueueGuest
  requeued : List RequeuedGuest

def GameAllocation.matchesReservation (allocation : GameAllocation)
    (reservation : MatchReservation) : Bool :=
  let expected := [reservation.a,reservation.b].insertionSort (· ≤ ·)
  let actual := allocation.guests.insertionSort (· ≤ ·)
  decide (allocation.game.id = reservation.gameId) &&
    decide (allocation.game.matchId = reservation.matchId) && decide (actual.length = 2) &&
    actual.zipIdx.all fun (guestSessionId,index) => expected[index]? = some guestSessionId

theorem GameAllocation.matchesReservation_ok {allocation : GameAllocation}
    {reservation : MatchReservation} (h : allocation.matchesReservation reservation = true) :
    allocation.game.id = reservation.gameId ∧
      [reservation.a,reservation.b].Perm allocation.guests := by
  simp only [matchesReservation,Bool.and_eq_true,decide_eq_true_eq] at h
  obtain ⟨⟨⟨hid,_⟩,hlen⟩,hall⟩ := h
  exact ⟨hid,perm_of_zipIdx_all rfl hlen hall⟩

theorem allocationInput_ok {chess : ChessEngine} {config : AppConfig}
    {reservation : MatchReservation} {observedAt : Millis} {firstGuestIsWhite : Bool}
    {input : AllocateGame}
    (h : allocationInput chess config reservation observedAt firstGuestIsWhite = .ok input) :
    input.gameId = reservation.gameId ∧ input.matchId = reservation.matchId ∧
      (AllocateCall.guestIds input).Perm [reservation.a,reservation.b] := by
  obtain ⟨initial,_,h⟩ := bind_eq_ok.mp h
  cases h
  refine ⟨rfl,rfl,?_⟩
  cases firstGuestIsWhite with
  | false => exact List.Perm.swap _ _ _
  | true => exact List.Perm.refl _

structure RecoveryReads where
  existing : Option (Option GameAllocation)
  a : Option GuestMatchEligibility
  b : Option GuestMatchEligibility

def RecoveryReads.unread : RecoveryReads := ⟨none,none,none⟩

/-- A command of a pipeline. Other clients may come between two of them. -/
inductive KeyCommand
  | setActiveGame (guest : GuestSessionId) (gameId : GameId)
  | setInGame (guest : GuestSessionId)
  | delGuard (guest : GuestSessionId)

def KeyCommand.run (config : AppConfig) (r : Redis) : KeyCommand → Redis
  | .setActiveGame guest gameId => r.setActiveGame guest gameId
  | .setInGame guest => r.setState guest .inGame config.matchStateTtlMs
  | .delGuard guest => r.delGuard guest

/-- A method between two of its statements. `recovering` marks the second `finalizeCommitted` of
`processReservation`, whose errors are not caught again. -/
inductive ServiceTask
  | allocate (reservation : MatchReservation) (observedAt : Millis)
  | finalize (reservation : MatchReservation) (observedAt : Millis) (allocation : GameAllocation)
      (recovering : Bool)
  | repair (reservation : MatchReservation) (observedAt : Millis) (allocation : GameAllocation)
      (recovering : Bool)
  | recover (reservation : MatchReservation) (observedAt : Millis) (reads : RecoveryReads)
  | rollback (reservation : MatchReservation) (observedAt : Millis) (durable : DurableGuests)
  | processed (reservation : MatchReservation) (effects : MatchmakingEffects)
  | repairActive (active : List GameAllocation)
  | pipeline (gameId : GameId) (commands : List KeyCommand) (cleared : List GuestSessionId)
  | clearActiveGame (guest : GuestSessionId) (gameId : GameId)

namespace ServiceTask

/-- An error inside `finalizeCommitted` leads to the recovery once. -/
def thrown (reservation : MatchReservation) (observedAt : Millis) :
    Bool → Multiset ServiceTask
  | true => 0
  | false => {.recover reservation observedAt .unread}

def recovered (reservation : MatchReservation) (observedAt : Millis)
    (existing : Option GameAllocation) (durable : DurableGuests) : ServiceTask :=
  match existing with
  | some allocation =>
    if allocation.matchesReservation reservation then
      .finalize reservation observedAt allocation true
    else .rollback reservation observedAt durable
  | none => .rollback reservation observedAt durable

def repairAllocation (config : AppConfig) (r : Redis) (allocation : GameAllocation) :
    Except MatchmakingErrorCode Bool × Redis :=
  r.repairCommitted config allocation.game.id allocation.players.1.guestSessionId
    allocation.players.2.guestSessionId

/-- The steps of the tasks. A statement that fails may have taken effect all the same. -/
inductive Step (chess : ChessEngine) (config : AppConfig) : ServiceTask → Stores → Stores →
    Multiset ServiceTask → Prop
  | allocated {s : Stores} {reservation : MatchReservation} {observedAt : Millis}
      {firstGuestIsWhite : Bool} {input : AllocateGame} {allocation : GameAllocation} {db : Db}
      (hi : allocationInput chess config reservation observedAt firstGuestIsWhite = .ok input)
      (h : s.db.allocate input = (.ok allocation,db)) :
      Step chess config (.allocate reservation observedAt) s { s with db := db }
        {.finalize reservation observedAt allocation false}
  | allocateFailed {s : Stores} {reservation : MatchReservation} {observedAt : Millis} {db : Db}
      (h : db = s.db ∨ ∃ firstGuestIsWhite input,
        allocationInput chess config reservation observedAt firstGuestIsWhite = .ok input ∧
          db = (s.db.allocate input).2) :
      Step chess config (.allocate reservation observedAt) s { s with db := db }
        {.recover reservation observedAt .unread}
  | finalized {s : Stores} {reservation : MatchReservation} {observedAt : Millis}
      {allocation : GameAllocation} {recovering duplicate : Bool} {redis : Redis}
      (h : s.redis.finalize config reservation = (.ok duplicate,redis)) :
      Step chess config (.finalize reservation observedAt allocation recovering) s
        { s with redis := redis } {.processed reservation ⟨[allocation],[],[]⟩}
  | finalizeMismatch {s : Stores} {reservation : MatchReservation} {observedAt : Millis}
      {allocation : GameAllocation} {recovering : Bool} {redis : Redis}
      (h : s.redis.finalize config reservation = (.error .reservationMismatch,redis)) :
      Step chess config (.finalize reservation observedAt allocation recovering) s
        { s with redis := redis } {.repair reservation observedAt allocation recovering}
  | finalizeUnavailable {s : Stores} {reservation : MatchReservation} {observedAt : Millis}
      {allocation : GameAllocation} {recovering : Bool} {redis : Redis}
      (h : redis = s.redis ∨ redis = (s.redis.finalize config reservation).2) :
      Step chess config (.finalize reservation observedAt allocation recovering) s
        { s with redis := redis } {.processed reservation ⟨[allocation],[],[]⟩}
  | repaired {s : Stores} {reservation : MatchReservation} {observedAt : Millis}
      {allocation : GameAllocation} {recovering changed : Bool} {redis : Redis}
      (h : repairAllocation config s.redis allocation = (.ok changed,redis)) :
      Step chess config (.repair reservation observedAt allocation recovering) s
        { s with redis := redis } {.processed reservation ⟨[allocation],[],[]⟩}
  | repairFailed {s : Stores} {reservation : MatchReservation} {observedAt : Millis}
      {allocation : GameAllocation} {recovering : Bool} {redis : Redis}
      (h : redis = s.redis ∨ redis = (repairAllocation config s.redis allocation).2) :
      Step chess config (.repair reservation observedAt allocation recovering) s
        { s with redis := redis } (thrown reservation observedAt recovering)
  | readExisting {s : Stores} {reservation : MatchReservation} {observedAt : Millis}
      {reads : RecoveryReads} {existing : Option GameAllocation} (hr : reads.existing = none)
      (h : s.db.findByMatchId reservation.matchId = .ok existing) :
      Step chess config (.recover reservation observedAt reads) s s
        {.recover reservation observedAt { reads with existing := some existing }}
  | readA {s : Stores} {reservation : MatchReservation} {observedAt : Millis}
      {reads : RecoveryReads} (hr : reads.a = none) :
      Step chess config (.recover reservation observedAt reads) s s
        {.recover reservation observedAt { reads with
          a := some (s.db.getGuestMatchEligibility reservation.a observedAt) }}
  | readB {s : Stores} {reservation : MatchReservation} {observedAt : Millis}
      {reads : RecoveryReads} (hr : reads.b = none) :
      Step chess config (.recover reservation observedAt reads) s s
        {.recover reservation observedAt { reads with
          b := some (s.db.getGuestMatchEligibility reservation.b observedAt) }}
  | readFailed {s : Stores} {reservation : MatchReservation} {observedAt : Millis}
      {reads : RecoveryReads} :
      Step chess config (.recover reservation observedAt reads) s s 0
  | recovered {s : Stores} {reservation : MatchReservation} {observedAt : Millis}
      {existing : Option GameAllocation} {durable : DurableGuests} :
      Step chess config (.recover reservation observedAt
        ⟨some existing,some durable.a,some durable.b⟩) s s
        {ServiceTask.recovered reservation observedAt existing durable}
  | rolledBack {s : Stores} {reservation : MatchReservation} {observedAt : Millis}
      {durable : DurableGuests} {requeued : List RequeuedGuest} {redis : Redis}
      (h : s.redis.rollback config reservation durable observedAt = (.ok requeued,redis)) :
      Step chess config (.rollback reservation observedAt durable) s { s with redis := redis }
        {.processed reservation ⟨[],[],requeued⟩}
  | rollbackFailed {s : Stores} {reservation : MatchReservation} {observedAt : Millis}
      {durable : DurableGuests} {redis : Redis}
      (h : redis = s.redis ∨ redis = (s.redis.rollback config reservation durable observedAt).2) :
      Step chess config (.rollback reservation observedAt durable) s { s with redis := redis } 0
  | delivered {s : Stores} {reservation : MatchReservation} {effects : MatchmakingEffects} :
      Step chess config (.processed reservation effects) s s 0
  | reconciled {s : Stores} : Step chess config (.repairActive []) s s 0
  | repairedActive {s : Stores} {allocation : GameAllocation} {active : List GameAllocation}
      {changed : Bool} {redis : Redis}
      (h : repairAllocation config s.redis allocation = (.ok changed,redis)) :
      Step chess config (.repairActive (allocation :: active)) s { s with redis := redis }
        {.repairActive active}
  | repairActiveFailed {s : Stores} {allocation : GameAllocation} {active : List GameAllocation}
      {redis : Redis}
      (h : redis = s.redis ∨ redis = (repairAllocation config s.redis allocation).2) :
      Step chess config (.repairActive (allocation :: active)) s { s with redis := redis } 0
  | command {s : Stores} {gameId : GameId} {command : KeyCommand} {commands : List KeyCommand}
      {cleared : List GuestSessionId} :
      Step chess config (.pipeline gameId (command :: commands) cleared) s
        { s with redis := command.run config s.redis } {.pipeline gameId commands cleared}
  | pipelined {s : Stores} {gameId : GameId} {cleared : List GuestSessionId} :
      Step chess config (.pipeline gameId [] cleared) s s
        (cleared.map fun guest => .clearActiveGame guest gameId : List ServiceTask)
  | cleared {s : Stores} {guest : GuestSessionId} {gameId : GameId} :
      Step chess config (.clearActiveGame guest gameId) s
        { s with redis := (s.redis.clearActiveGame config guest gameId).2 } 0

end ServiceTask

def Answer.terminalGuests : Answer → Option (GameId × GuestSessionId × GuestSessionId)
  | .move (.ok s) => s.ended.map fun _ => (s.accepted.gameId,s.guestSessionIds)
  | .resignation (.ok s) => some (s.ended.gameId,s.guestSessionIds)
  | .terminal (.ok (some s)) => some (s.ended.gameId,s.guestSessionIds)
  | _ => none

/-- `GameEphemeralStateService.afterTerminal`. -/
def afterTerminal (answer : Answer) : Multiset ServiceTask :=
  match answer.terminalGuests with
  | none => 0
  | some (gameId,a,b) => {.pipeline gameId [.delGuard a,.delGuard b] [a,b]}

def restoreSnapshot (g : PersistedGame) : ServiceTask :=
  if g.status.terminal then .pipeline g.id [] g.guests
  else .pipeline g.id
    (g.guests.flatMap fun guest => [.setActiveGame guest g.id,.setInGame guest]) []

def RedisOperation.ofGuests : RedisOperation → Bool
  | .enqueue _ _ _ | .leave _ | .sweep _ _ _ | .refresh _ _ _ | .remove _ _ _ | .elapse _ => true
  | _ => false

/-- What starts the tasks, and what happens besides. -/
inductive ServiceEvent (chess : ChessEngine) (config : AppConfig) : Stores → Stores →
    Multiset ServiceTask → Prop
  | operation {s : Stores} {op : Operation} :
      ServiceEvent chess config s { s with db := (execute chess s.db op).2 }
        (afterTerminal (execute chess s.db op).1)
  | command {s : Stores} {op : RedisOperation} (h : op.ofGuests = true) :
      ServiceEvent chess config s { s with redis := s.redis.execute config op } 0
  | attemptMatch {s : Stores} {mode : MatchMode} {matchId : MatchId} {gameId : GameId}
      {now : Millis} {maxScan : ℕ} {attempt : MatchAttempt} {redis : Redis}
      (h : s.redis.tryMatch config mode matchId gameId now maxScan = (.ok attempt,redis)) :
      ServiceEvent chess config s { s with redis := redis }
        (attempt.reservation.toList.map fun reservation => .allocate reservation now :
          List ServiceTask)
  | listReservations {s : Stores} {matchId : MatchId} {reservation : MatchReservation}
      {now : Millis} (h : s.redis.reservation matchId = some reservation) :
      ServiceEvent chess config s s {.allocate reservation now}
  | listActive {s : Stores} {active : List GameAllocation}
      (h : ∀ allocation ∈ active, ∃ g, s.db.games.find g.id = some g ∧
        g.status.terminal = false ∧ mapAllocation g = .ok allocation) :
      ServiceEvent chess config s s {.repairActive active}
  | readSnapshot {s : Stores} {g : PersistedGame} (h : s.db.games.find g.id = some g) :
      ServiceEvent chess config s s {restoreSnapshot g}

def matchmaking (chess : ChessEngine) (config : AppConfig) : System Stores ServiceTask where
  env := ServiceEvent chess config
  step := ServiceTask.Step chess config

end CluChess
