import CluChess.FailureAcks
import CluChess.FallibleActions
import CluChess.MatchAnnouncements
import CluChess.MatchRollback
import CluChess.RateLimits

/-! The services behind the commands of the clients: `realtime-rate-limit.service.ts`,
`presence.service.ts`, `connection-registry.service.ts` and the commands of the queue, from
`matchmaking-realtime.service.ts` over `matchmaking.service.ts` to the scripts. Every call may fail,
also when it has taken effect. The gauge of the queue, whose errors are caught, is left out. -/
namespace CluChess

/-- What the configuration and the handshakes give to the services, in the bounds of the schema. -/
structure ServiceEnvironment where
  rates : RateLimitEnvironment
  registry : ConnectionRegistryService
  sha256 : String → String
  drainSocketGraceMs : ℕ
  jobBatchSize : ℕ
  addressHash : SocketId → AddressHash
  socketMember : SocketId → SocketMember
  windowMs_safe : ∀ scope : RealtimeScope,
    isNonnegativeInt (RealtimeRateLimitService.policies rates scope).windowMs = true
  drainSocketGraceMs_retry : isRetryAfter drainSocketGraceMs

/-- The counters of the limiters, the registry of the connections, and the messages about the queue
and the matches that were sent. -/
structure ServiceStores where
  rates : RateLimitStore
  connections : ConnectionStore
  notices : List Notice

/-! ### Calls -/

/-- A call of Redis, which throws the error of its service unless it is answered. -/
def redisCall {σ α : Type} (delivery : RedisDelivery) (unavailable : RealtimeFailure)
    (work : σ → Except RealtimeFailure α × σ) : Action σ RealtimeFailure α :=
  Action.of fun s =>
    match delivery with
    | .answered => work s
    | .replyLost => (.error unavailable,(work s).2)
    | .unreached => (.error unavailable,s)

def databaseCall {α : Type} (delivery : DatabaseDelivery)
    (work : Db → Except RepositoryError α × Db) : Action Db RealtimeFailure α :=
  Action.of fun db =>
    match delivery with
    | .answered => ((work db).1.mapError .repository,(work db).2)
    | .failed kind applied =>
      (.error (.repository (.database kind)),if applied then (work db).2 else db)

def databaseRead {α : Type} (delivery : DatabaseDelivery)
    (work : Db → Except GameServiceError α) : Action Db RealtimeFailure α :=
  databaseCall delivery fun db => ((work db).mapError .service,db)

/-! ### The errors of matchmaking -/

def MatchmakingErrorCode.error : MatchmakingErrorCode → MatchmakingError
  | .alreadyInGame =>
    ⟨.alreadyInGame,"The guest already has an active or reserved game.",false⟩
  | .dependencyUnavailable =>
    ⟨.dependencyUnavailable,"Matchmaking Redis state is temporarily unavailable.",true⟩
  | .reservationMismatch =>
    ⟨.reservationMismatch,
      "The match reservation no longer matches its expected owner or members.",false⟩

def durableActiveGame : MatchmakingError :=
  ⟨.alreadyInGame,"The guest already has a durable active game.",false⟩

def notEligible : MatchmakingError :=
  ⟨.alreadyInGame,"The guest session is no longer eligible for matchmaking.",false⟩

def notPresent : MatchmakingError :=
  ⟨.notPresent,"A live guest connection is required for matchmaking.",true⟩

def RateLimitError.failure (error : RateLimitError) : RealtimeFailure :=
  match error.code with
  | .rateLimited => .rateLimited (error.retryAfterMs.getD 1).toNat
  | .serviceUnavailable => .serviceUnavailable none

/-! ### The responses of the scripts -/

/-- `z.uuid()`: of the versions 1 to 8 and the variant with bits 10, or nil, or the greatest. -/
def isUuid (id : Uuid) : Bool :=
  decide (id = 0) || decide (id = 2^128 - 1) ||
    (decide (id < 2^128) && decide (1 ≤ id/2^76 % 16) && decide (id/2^76 % 16 ≤ 8) &&
      decide (id/2^62 % 4 = 2))

def enqueueResponseSchema (response : QueueJoin) : Bool :=
  isNonnegativeInt response.position && decide (0 < response.position) &&
    isNonnegativeInt response.since

def reservationSchema (reservation : MatchReservation) : Bool :=
  isUuid reservation.a && isNonnegativeInt reservation.aScore && isUuid reservation.b &&
    isNonnegativeInt reservation.bScore && isNonnegativeInt reservation.createdAt &&
      isUuidV4 reservation.gameId && isUuidV4 reservation.matchId

def matchResponseSchema (response : MatchAttempt) : Bool :=
  (response.discarded.all fun removed => isUuid removed.guestSessionId) &&
    response.reservation.all reservationSchema

def rollbackResponseSchema (response : List RequeuedGuest) : Bool :=
  response.all fun requeued => isUuid requeued.guestSessionId && isNonnegativeInt requeued.since

/-- `MatchmakingScriptService.enqueue`, with the reply that it parses. -/
def Redis.requestPlace (config : AppConfig) (r : Redis) (guest : GuestSessionId) (mode : MatchMode)
    (now : Millis) : Except MatchmakingErrorCode QueueJoin × Redis :=
  ((r.enqueue config guest mode now).1.map fun queue =>
      { queue with since := throughJson queue.since },
    (r.enqueue config guest mode now).2)

def executeScript {α : Type} (delivery : RedisDelivery) (schema : α → Bool)
    (script : Redis → Except MatchmakingErrorCode α × Redis) : Action Redis RealtimeFailure α :=
  redisCall delivery (.matchmaking MatchmakingErrorCode.dependencyUnavailable.error) fun r =>
    (match (script r).1 with
      | .error code => .error (.matchmaking code.error)
      | .ok response =>
        if schema response then .ok response
        else .error (.matchmaking MatchmakingErrorCode.dependencyUnavailable.error),
      (script r).2)

/-! ### The services -/

abbrev ServiceAction := Action (Server ServiceStores) RealtimeFailure

def inRedis {α : Type} : Action Redis RealtimeFailure α → ServiceAction α :=
  Action.within Server.redis fun redis s => { s with redis := redis }

def inDatabase {α : Type} : Action Db RealtimeFailure α → ServiceAction α :=
  Action.within Server.db fun db s => { s with db := db }

def inConnections {α : Type} : Action ConnectionStore RealtimeFailure α → ServiceAction α :=
  Action.within (fun s => s.rest.connections) fun connections s =>
    { s with rest := { s.rest with connections := connections } }

section Limits

variable (environment : ServiceEnvironment) (config : AppConfig)

/-- `RealtimeRateLimitService.consume`, by the clock of Redis. -/
def consumeRate (eventName : ClientEventName) (guestSessionId : GuestSessionId)
    (moment : Moment) : Action RateLimitStore RealtimeFailure Unit :=
  Action.of fun rates =>
    let answer := (rateLimits environment.rates environment.sha256).step rates
      ⟨.realtime eventName (uuidText guestSessionId),rates.clock,moment.calls.consume⟩
    (answer.1.mapError RateLimitError.failure,answer.2)

def refreshPresence (guestSessionId : GuestSessionId) (socket : SocketId) (moment : Moment) :
    Action Redis RealtimeFailure Unit :=
  redisCall moment.calls.presence (.serviceUnavailable none) fun r =>
    (.ok (),(r.refresh config guestSessionId (environment.socketMember socket) moment.now).2)

def readPresence (guestSessionId : GuestSessionId) (moment : Moment) :
    Action Redis RealtimeFailure Bool :=
  redisCall moment.calls.presence (.serviceUnavailable none) fun r =>
    (.ok (r.isPresent guestSessionId moment.now).1,(r.isPresent guestSessionId moment.now).2)

def refreshConnection (socket : SocketId) (moment : Moment) :
    Action ConnectionStore RealtimeFailure Unit :=
  Action.of fun connections =>
    let answer := (connectionRegistry environment.registry).step connections
      ⟨.refresh,environment.addressHash socket,environment.socketMember socket,moment.now,
        moment.calls.connections⟩
    (answer.1.mapError fun _ => .serviceUnavailable none,answer.2)

/-- The command `heartbeat.ping`. -/
def heartbeat (identity : SocketIdentity) (socket : SocketId) (moment : Moment) :
    ServiceAction RealtimeCommandResult := do
  let _ ← Action.both
    (inRedis (refreshPresence environment config identity.guestSessionId socket moment))
    (inConnections (refreshConnection environment socket moment))
  return .heartbeatPong config.presenceTtlMs moment.now

end Limits

namespace MatchmakingService

variable (config : AppConfig) (chess : ChessEngine)

def readEligibility (delivery : DatabaseDelivery) (guestSessionId : GuestSessionId)
    (observedAt : Millis) : Action Db RealtimeFailure GuestMatchEligibility :=
  databaseRead delivery fun db => .ok (db.getGuestMatchEligibility guestSessionId observedAt)

def allocateGame (reservation : MatchReservation) (moment : Moment) :
    Action Db RealtimeFailure GameAllocation :=
  let calls := moment.calls.attempt
  match allocationInput chess config reservation moment.now calls.firstGuestIsWhite with
  | .error _ => throw (.repository (.database .unknown))
  | .ok input => databaseCall calls.allocate fun db => db.allocate input

def finalizeCommitted (calls : FinalizeCalls) (reservation : MatchReservation)
    (allocation : GameAllocation) : Action Redis RealtimeFailure Unit :=
  tryCatch (do
    let _ ← executeScript calls.finalize (fun _ => true) fun r => r.finalize config reservation)
  fun error =>
    match error with
    | .matchmaking ⟨.reservationMismatch,_,_⟩ => do
      let _ ← executeScript calls.repairCommitted (fun _ => true) fun r =>
        ServiceTask.repairAllocation config r allocation
    | .matchmaking ⟨.dependencyUnavailable,_,_⟩ => pure ()
    | error => throw error

def readRecovery (reservation : MatchReservation) (moment : Moment) :
    Action Db RealtimeFailure (Option GameAllocation × DurableGuests) := do
  let calls := moment.calls.attempt
  let existing ← databaseRead calls.existing fun db => db.findByMatchId reservation.matchId
  let a ← readEligibility calls.a reservation.a moment.now
  let b ← readEligibility calls.b reservation.b moment.now
  return (existing,⟨a,b⟩)

def recoverAfterAllocationFailure (reservation : MatchReservation) (moment : Moment) :
    ServiceAction (Option MatchmakingEffects) := do
  let calls := moment.calls.attempt
  let reads ← tryCatch (do return some (← inDatabase (readRecovery reservation moment)))
    fun _ => pure none
  match reads with
  | none => return none
  | some (existing,durable) =>
    match existing.filter fun existing => existing.matchesReservation reservation with
    | some existing =>
      inRedis (finalizeCommitted config calls.recovered reservation existing)
      return some ⟨[existing],[],[]⟩
    | none =>
      let requeued ← inRedis (executeScript calls.rollback rollbackResponseSchema fun r =>
        r.rollback config reservation durable moment.now)
      return some ⟨[],[],requeued⟩

def processReservation (reservation : MatchReservation) (moment : Moment) :
    ServiceAction MatchmakingEffects :=
  tryCatch (do
    let allocation ← inDatabase (allocateGame config chess reservation moment)
    inRedis (finalizeCommitted config moment.calls.attempt.finalize reservation allocation)
    return ⟨[allocation],[],[]⟩)
  fun error => do
    match ← recoverAfterAllocationFailure config reservation moment with
    | some effects => return effects
    | none => throw error

variable (jobBatchSize : ℕ)

/-- `attemptMatch`, with `effectsFromAttempt`. -/
def attemptMatch (mode : MatchMode) (moment : Moment) : ServiceAction MatchmakingEffects := do
  let calls := moment.calls.attempt
  let attempt ← inRedis (executeScript calls.tryMatch matchResponseSchema fun r =>
    r.requestMatch config mode moment.now calls.matchId calls.gameId jobBatchSize)
  match attempt.reservation with
  | none => return ⟨[],attempt.discarded,[]⟩
  | some reservation =>
    let result ← processReservation config chess reservation moment
    return { result with removed := attempt.discarded ++ result.removed }

def join (guestSessionId : GuestSessionId) (mode : MatchMode) (moment : Moment) :
    ServiceAction (MatchmakingEffects × QueueJoin) := do
  let (eligibility,present) ← Action.both
    (inDatabase (readEligibility moment.calls.eligibility guestSessionId moment.now))
    (inRedis (readPresence guestSessionId moment))
  if eligibility.activeGameId.isSome then throw (.matchmaking durableActiveGame)
  else if eligibility.eligible = false then throw (.matchmaking notEligible)
  else if present = false then throw (.matchmaking notPresent)
  else
    let queue ← inRedis (executeScript moment.calls.enqueue enqueueResponseSchema fun r =>
      r.requestPlace config guestSessionId mode moment.now)
    let effects ← attemptMatch config chess jobBatchSize mode moment
    return (effects,queue)

def leave (guestSessionId : GuestSessionId) (moment : Moment) :
    Action Redis RealtimeFailure Bool :=
  executeScript moment.calls.leave (fun _ => true) fun r =>
    (.ok (r.leave config guestSessionId).1,(r.leave config guestSessionId).2)

end MatchmakingService

namespace MatchmakingRealtimeService

variable (environment : ServiceEnvironment) (config : AppConfig) (chess : ChessEngine)

/-- The messages to a guest, if they can be built. -/
def sendNotices : Option (List Notice) → ServiceAction Unit
  | none => throw (.repository (.database .unknown))
  | some notices => modify fun s =>
    { s with rest := { s.rest with notices := s.rest.notices ++ notices } }

def publishAllocation (moment : Moment) (allocation : GameAllocation) : ServiceAction Unit := do
  let cards := (← get).db.identity
  sendNotices (publishMatchFound cards allocation allocation.players.1 allocation.players.2)
  sendNotices (publishMatchFound cards allocation allocation.players.2 allocation.players.1)
  modify fun s => s.scheduleGame (uuidText allocation.game.id) moment.now

def publishJoinEffects (moment : Moment) (effects : MatchmakingEffects) : ServiceAction Unit := do
  Action.each (fun removed => sendNotices ((createNotice removed.guestSessionId
    (.queueLeft removed.reason.exit)).map ([·]))) effects.removed
  Action.each (fun requeued => sendNotices ((createNotice requeued.guestSessionId
    (.queueJoined requeued.since)).map ([·]))) effects.requeued
  Action.each (publishAllocation moment) effects.allocations

def joinQueue (identity : SocketIdentity) (mode : MatchMode) (moment : Moment) :
    ServiceAction RealtimeCommandResult := do
  if moment.calls.ready = false then
    throw (.serviceUnavailable (some environment.drainSocketGraceMs))
  else
    let (effects,queue) ← MatchmakingService.join config chess environment.jobBatchSize
      identity.guestSessionId mode moment
    publishJoinEffects moment effects
    return .queueJoined mode (some queue.position) queue.since

def leaveQueue (identity : SocketIdentity) (mode : MatchMode) (moment : Moment) :
    ServiceAction RealtimeCommandResult := do
  let _ ← inRedis (MatchmakingService.leave config identity.guestSessionId moment)
  sendNotices ((createNotice identity.guestSessionId (.queueLeft .requested)).map ([·]))
  return .queueLeft mode

end MatchmakingRealtimeService

/-! ### The services of the gateway -/

/-- A command that emits nothing to the sockets of a game. -/
def Action.handled {σ : Type} (a : Action (Server σ) RealtimeFailure RealtimeCommandResult)
    (s : Server σ) : Handled σ :=
  ⟨(a.exec s).1,[],(a.exec s).2⟩

variable (environment : ServiceEnvironment) (config : AppConfig) (chess : ChessEngine)

/-- The services that the commands are given. In `game.sync` the refreshes may fail. -/
def commandServices : Services ServiceStores where
  consume eventName guestSessionId moment stores :=
    let answer := (consumeRate environment eventName guestSessionId moment).exec stores.rates
    (answer.1,{ stores with rates := answer.2 })
  refresh identity socket moment stores :=
    (((refreshPresence environment config identity.guestSessionId socket moment).exec stores.1).2,
      { stores.2 with connections :=
          ((refreshConnection environment socket moment).exec stores.2.connections).2 })
  heartbeat identity socket moment s :=
    (heartbeat environment config identity socket moment).handled s
  joinQueue identity mode moment s :=
    (MatchmakingRealtimeService.joinQueue environment config chess identity mode moment).handled s
  leaveQueue identity mode moment s :=
    (MatchmakingRealtimeService.leaveQueue config identity mode moment).handled s

/-! ### The tasks of matchmaking

The action that processes a reservation takes the steps of its tasks. -/

def Server.stores {σ : Type} (s : Server σ) : Stores := ⟨s.db,s.redis⟩

/-- What is left of the task of an action. -/
def tasksAfter {α : Type} (answered : α → Multiset ServiceTask) (failed : Multiset ServiceTask) :
    Except RealtimeFailure α → Multiset ServiceTask
  | .ok x => answered x
  | .error _ => failed

/-- What comes of a script: its response, the error it answers, or the failure of its call. -/
theorem executeScript_cases {α : Type} {delivery : RedisDelivery} {schema : α → Bool}
    {script : Redis → Except MatchmakingErrorCode α × Redis} {r r' : Redis}
    {answer : Except RealtimeFailure α}
    (h : (executeScript delivery schema script).exec r = (answer,r')) :
    (∃ x, script r = (.ok x,r') ∧ answer = .ok x) ∨
    (∃ code, script r = (.error code,r') ∧ answer = .error (.matchmaking code.error)) ∨
    (r' = r ∨ r' = (script r).2) ∧
      answer = .error (.matchmaking MatchmakingErrorCode.dependencyUnavailable.error) := by
  cases delivery with
  | answered =>
    cases hscript : script r with
    | mk response after =>
      simp only [executeScript,redisCall,Action.exec,Action.of,hscript] at h
      cases response with
      | error code =>
        cases h
        exact Or.inr (Or.inl ⟨code,rfl,rfl⟩)
      | ok x =>
        simp only at h
        split_ifs at h
        · cases h
          exact Or.inl ⟨x,rfl,rfl⟩
        · cases h
          exact Or.inr (Or.inr ⟨Or.inr rfl,rfl⟩)
  | replyLost =>
    cases h
    exact Or.inr (Or.inr ⟨Or.inr rfl,rfl⟩)
  | unreached =>
    cases h
    exact Or.inr (Or.inr ⟨Or.inl rfl,rfl⟩)

theorem Redis.finalize_error {config : AppConfig} {r r' : Redis} {reservation : MatchReservation}
    {code : MatchmakingErrorCode}
    (h : r.finalize config reservation = (.error code,r')) : code = .reservationMismatch := by
  unfold Redis.finalize at h
  split at h
  · split_ifs at h
    · cases h
    · cases h
      rfl
  · split_ifs at h
    · cases h
    · cases h
      rfl

namespace MatchmakingService

variable {config : AppConfig} {chess : ChessEngine} {moment : Moment}
  {reservation : MatchReservation} {allocation : GameAllocation} {stores : Stores}
  {c : Stores × Multiset ServiceTask} {s s' : Server ServiceStores}

theorem allocateGame_step (stores : Stores) {answer : Except RealtimeFailure GameAllocation}
    {db : Db}
    (h : (allocateGame config chess reservation moment).exec stores.db = (answer,db)) :
    ServiceTask.Step chess config (.allocate reservation moment.now) stores
      { stores with db := db } (tasksAfter
        (fun allocation => {.finalize reservation moment.now allocation false})
        {.recover reservation moment.now .unread} answer) := by
  unfold allocateGame at h
  dsimp only at h
  split at h
  · cases h
    exact .allocateFailed (Or.inl rfl)
  · rename_i input hinput
    cases hdelivery : moment.calls.attempt.allocate with
    | answered =>
      rw [hdelivery] at h
      cases hwork : stores.db.allocate input with
      | mk response after =>
        simp only [databaseCall,Action.exec,Action.of,hwork] at h
        cases response with
        | ok allocation =>
          cases h
          exact .allocated hinput hwork
        | error e =>
          cases h
          exact .allocateFailed (Or.inr ⟨_,input,hinput,by rw [hwork]⟩)
    | failed kind applied =>
      rw [hdelivery] at h
      cases applied with
      | true =>
        cases h
        exact .allocateFailed (Or.inr ⟨_,input,hinput,rfl⟩)
      | false =>
        cases h
        exact .allocateFailed (Or.inl rfl)

theorem finalizeCommitted_run {calls : FinalizeCalls} {answer : Except RealtimeFailure Unit}
    {redis : Redis} {observedAt : Millis} {recovering : Bool}
    (hrun : (matchmaking chess config).Run System.anyTime c
      (stores,{.finalize reservation observedAt allocation recovering}))
    (h : (finalizeCommitted config calls reservation allocation).exec stores.redis =
      (answer,redis)) :
    (matchmaking chess config).Run System.anyTime c ({ stores with redis := redis },
      tasksAfter (fun _ => {.processed reservation ⟨[allocation],[],[]⟩})
        (ServiceTask.thrown reservation observedAt recovering) answer) := by
  unfold finalizeCommitted at h
  rw [Action.exec_catch,Action.exec_bind] at h
  cases hfinalize : (executeScript calls.finalize (fun _ => true) fun r =>
      r.finalize config reservation).exec stores.redis with
  | mk finalized after =>
    rw [hfinalize] at h
    rcases executeScript_cases hfinalize with ⟨duplicate,hscript,rfl⟩ | ⟨code,hscript,rfl⟩ |
      ⟨hafter,rfl⟩
    · cases h
      exact hrun.alone (.finalized hscript) trivial
    · obtain rfl := Redis.finalize_error hscript
      have hmismatch := hrun.alone (.finalizeMismatch hscript) trivial
      cases hrepair : (executeScript calls.repairCommitted (fun _ => true) fun r =>
          ServiceTask.repairAllocation config r allocation).exec after with
      | mk repaired after' =>
        simp only [MatchmakingErrorCode.error,Action.exec_bind,hrepair] at h
        rcases executeScript_cases hrepair with ⟨changed,hscript,rfl⟩ | ⟨code,hscript,rfl⟩ |
          ⟨hafter,rfl⟩
        · cases h
          exact hmismatch.alone (.repaired hscript) trivial
        · cases h
          exact hmismatch.alone (.repairFailed (Or.inr (by rw [hscript]))) trivial
        · cases h
          exact hmismatch.alone (.repairFailed hafter) trivial
    · cases h
      exact hrun.alone (.finalizeUnavailable hafter) trivial

theorem databaseRead_eq {α : Type} {delivery : DatabaseDelivery}
    {work : Db → Except GameServiceError α} {db db' : Db} {answer : Except RealtimeFailure α}
    (h : (databaseRead delivery work).exec db = (answer,db')) :
    db' = db ∧ ∀ x, answer = .ok x → work db = .ok x := by
  cases delivery with
  | answered =>
    cases hwork : work db with
    | ok x =>
      simp only [databaseRead,databaseCall,Action.exec,Action.of,hwork] at h
      cases h
      exact ⟨rfl,fun y hy => by cases hy; rfl⟩
    | error e =>
      simp only [databaseRead,databaseCall,Action.exec,Action.of,hwork] at h
      cases h
      exact ⟨rfl,fun y hy => (by cases hy)⟩
  | failed kind applied =>
    cases h
    exact ⟨by simp,fun y hy => (by cases hy)⟩

theorem readRecovery_eq {db db' : Db}
    {answer : Except RealtimeFailure (Option GameAllocation × DurableGuests)}
    (h : (readRecovery reservation moment).exec db = (answer,db')) :
    db' = db ∧ ∀ existing durable, answer = .ok (existing,durable) →
      db.findByMatchId reservation.matchId = .ok existing ∧
        durable = ⟨db.getGuestMatchEligibility reservation.a moment.now,
          db.getGuestMatchEligibility reservation.b moment.now⟩ := by
  have hread : ∀ {α : Type} (delivery : DatabaseDelivery) (work : Db → Except GameServiceError α),
      Action.Keeps (· = db) (fun _ => True) (databaseRead delivery work) := by
    intro α delivery work db₁ hdb
    exact ⟨(databaseRead_eq rfl).1.trans hdb,fun _ _ => trivial⟩
  have hkept : Action.Keeps (· = db) (fun _ => True) (readRecovery reservation moment) :=
    (hread _ _).bind fun _ => (hread _ _).bind fun _ => (hread _ _).bind fun _ =>
      Action.keeps_pure _
  refine ⟨?_,fun existing durable hanswer => ?_⟩
  · have hend := (hkept db rfl).1
    rw [h] at hend
    exact hend
  · subst hanswer
    obtain ⟨x,db₁,hx,h⟩ := Action.exec_bind_ok h
    obtain ⟨hdb₁,hexisting⟩ := databaseRead_eq hx
    rw [hdb₁] at h
    obtain ⟨a,db₂,ha,h⟩ := Action.exec_bind_ok h
    obtain ⟨hdb₂,hfirst⟩ := databaseRead_eq ha
    rw [hdb₂] at h
    obtain ⟨b,db₃,hb,h⟩ := Action.exec_bind_ok h
    obtain ⟨_,hsecond⟩ := databaseRead_eq hb
    have hfirst := Except.ok.inj (hfirst a rfl)
    have hsecond := Except.ok.inj (hsecond b rfl)
    obtain ⟨hfound,_⟩ := Prod.mk.inj h
    obtain ⟨hsame,hdurable⟩ := Prod.mk.inj (Except.ok.inj hfound)
    rw [← hsame,← hdurable,hfirst,hsecond]
    exact ⟨hexisting x rfl,rfl⟩

theorem inRedis_exec {α : Type} {a : Action Redis RealtimeFailure α} {s : Server ServiceStores}
    {answer : Except RealtimeFailure α} {redis : Redis} (h : a.exec s.redis = (answer,redis)) :
    (inRedis a).exec s = (answer,{ s with redis := redis }) := by
  change ((a.exec s.redis).1,_) = _
  rw [h]

theorem inDatabase_exec {α : Type} {a : Action Db RealtimeFailure α} {s : Server ServiceStores}
    {answer : Except RealtimeFailure α} {db : Db} (h : a.exec s.db = (answer,db)) :
    (inDatabase a).exec s = (answer,{ s with db := db }) := by
  change ((a.exec s.db).1,_) = _
  rw [h]

theorem recovered_eq (observedAt : Millis) (existing : Option GameAllocation)
    (durable : DurableGuests) : ServiceTask.recovered reservation observedAt existing durable =
      match existing.filter fun existing => existing.matchesReservation reservation with
      | some existing => .finalize reservation observedAt existing true
      | none => .rollback reservation observedAt durable := by
  cases existing with
  | none => rfl
  | some existing =>
    unfold ServiceTask.recovered
    by_cases hmatches : existing.matchesReservation reservation = true
    · simp [Option.filter,hmatches]
    · simp [Option.filter,hmatches]

theorem rollback_run {delivery : RedisDelivery} {durable : DurableGuests}
    {answer : Except RealtimeFailure (List RequeuedGuest)} {redis : Redis}
    (hrun : (matchmaking chess config).Run System.anyTime c
      (s.stores,{.rollback reservation moment.now durable}))
    (h : (executeScript delivery rollbackResponseSchema fun r =>
      r.rollback config reservation durable moment.now).exec s.redis = (answer,redis)) :
    (matchmaking chess config).Run System.anyTime c
      ({ s.stores with redis := redis },
        tasksAfter (fun requeued => {.processed reservation ⟨[],[],requeued⟩}) 0 answer) := by
  rcases executeScript_cases h with ⟨requeued,hscript,rfl⟩ | ⟨code,hscript,rfl⟩ | ⟨hafter,rfl⟩
  · exact hrun.alone (.rolledBack hscript) trivial
  · exact hrun.alone (.rollbackFailed (Or.inr (congrArg Prod.snd hscript).symm)) trivial
  · exact hrun.alone (.rollbackFailed hafter) trivial

theorem readRecovery_run {existing : Option GameAllocation} {durable : DurableGuests} {db : Db}
    (hrun : (matchmaking chess config).Run System.anyTime c
      (s.stores,{.recover reservation moment.now .unread}))
    (h : (readRecovery reservation moment).exec s.db = (.ok (existing,durable),db)) :
    (matchmaking chess config).Run System.anyTime c (s.stores,
      {.recover reservation moment.now ⟨some existing,some durable.a,some durable.b⟩}) := by
  obtain ⟨hexisting,hdurable⟩ := (readRecovery_eq h).2 existing durable rfl
  have hexisting := hrun.alone (.readExisting rfl hexisting) trivial
  rw [hdurable]
  exact (hexisting.alone (.readA rfl) trivial).alone (.readB rfl) trivial

theorem recover_run {answer : Except RealtimeFailure (Option MatchmakingEffects)}
    (hrun : (matchmaking chess config).Run System.anyTime c
      (s.stores,{.recover reservation moment.now .unread}))
    (h : (recoverAfterAllocationFailure config reservation moment).exec s = (answer,s')) :
    (matchmaking chess config).Run System.anyTime c
      (s'.stores,tasksAfter
        (fun recovered => recovered.elim 0 fun effects => {.processed reservation effects}) 0
          answer) := by
  unfold recoverAfterAllocationFailure at h
  rw [Action.exec_bind,Action.exec_catch,Action.exec_bind] at h
  cases hreads : (readRecovery reservation moment).exec s.db with
  | mk reads db =>
    have hexec := inDatabase_exec hreads
    rw [(readRecovery_eq hreads).1] at hexec
    rw [hexec] at h
    cases reads with
    | error e =>
      cases h
      exact hrun.alone .readFailed trivial
    | ok reads =>
      obtain ⟨existing,durable⟩ := reads
      have hrecovered := (readRecovery_run hrun hreads).alone .recovered trivial
      have hreturn : (pure (some (existing,durable)) : ServiceAction _).exec s =
          (.ok (some (existing,durable)),s) := rfl
      rw [recovered_eq] at hrecovered
      simp only [hreturn] at h
      cases hmatches : existing.filter fun existing =>
          existing.matchesReservation reservation with
      | some existing =>
        simp only [hmatches] at h hrecovered
        cases hfinalize : (finalizeCommitted config moment.calls.attempt.recovered reservation
            existing).exec s.redis with
        | mk finalized redis =>
          have hfinalized := finalizeCommitted_run hrecovered hfinalize
          rw [Action.exec_bind,inRedis_exec hfinalize] at h
          cases finalized with
          | ok _ =>
            cases h
            exact hfinalized
          | error e =>
            cases h
            exact hfinalized
      | none =>
        simp only [hmatches] at h hrecovered
        cases hrollback : (executeScript moment.calls.attempt.rollback rollbackResponseSchema
            fun r => r.rollback config reservation durable moment.now).exec s.redis with
        | mk requeued redis =>
          have hrolled := rollback_run hrecovered hrollback
          rw [Action.exec_bind,inRedis_exec hrollback] at h
          cases requeued with
          | ok requeued =>
            cases h
            exact hrolled
          | error e =>
            cases h
            exact hrolled

/-- How `processReservation` goes on once its first attempt has failed. -/
theorem recover_or_throw_run {e : RealtimeFailure}
    {answer : Except RealtimeFailure MatchmakingEffects}
    (hrun : (matchmaking chess config).Run System.anyTime c
      (s.stores,{.recover reservation moment.now .unread}))
    (h : (do
      match ← recoverAfterAllocationFailure config reservation moment with
      | some effects => return effects
      | none => throw e : ServiceAction MatchmakingEffects).exec s = (answer,s')) :
    (matchmaking chess config).Run System.anyTime c
      (s'.stores,tasksAfter (fun effects => {.processed reservation effects}) 0 answer) := by
  cases hrecovered : (recoverAfterAllocationFailure config reservation moment).exec s with
  | mk recovered after =>
    have hrecover := recover_run hrun hrecovered
    rw [Action.exec_bind,hrecovered] at h
    cases recovered with
    | error e =>
      cases h
      exact hrecover
    | ok effects =>
      cases effects with
      | none =>
        cases h
        exact hrecover
      | some effects =>
        cases h
        exact hrecover

/-- A reservation is processed by the steps of its tasks, whatever becomes of the calls. -/
theorem processReservation_run (chess : ChessEngine) (config : AppConfig)
    (reservation : MatchReservation) (moment : Moment) {s s' : Server ServiceStores}
    {answer : Except RealtimeFailure MatchmakingEffects}
    (h : (processReservation config chess reservation moment).exec s = (answer,s')) :
    (matchmaking chess config).Run System.anyTime (s.stores,{.allocate reservation moment.now})
      (s'.stores,tasksAfter (fun effects => {.processed reservation effects}) 0 answer) := by
  have hstart : (matchmaking chess config).Run System.anyTime
      (s.stores,{.allocate reservation moment.now}) (s.stores,{.allocate reservation moment.now}) :=
    .refl
  unfold processReservation at h
  rw [Action.exec_catch,Action.exec_bind] at h
  cases hallocate : (allocateGame config chess reservation moment).exec s.db with
  | mk allocated db =>
    have hallocated := hstart.alone (allocateGame_step s.stores hallocate) trivial
    rw [inDatabase_exec hallocate] at h
    cases allocated with
    | error e => exact recover_or_throw_run (s := { s with db := db }) hallocated h
    | ok allocation =>
      cases hfinalize : (finalizeCommitted config moment.calls.attempt.finalize reservation
          allocation).exec s.redis with
      | mk finalized redis =>
        have hfinalized := finalizeCommitted_run hallocated hfinalize
        have hexec := inRedis_exec (s := { s with db := db }) hfinalize
        dsimp only at h
        rw [Action.exec_bind,hexec] at h
        cases finalized with
        | error e =>
          exact recover_or_throw_run (s := { s with db := db, redis := redis }) hfinalized h
        | ok _ =>
          cases h
          exact hfinalized

end MatchmakingService

end CluChess
