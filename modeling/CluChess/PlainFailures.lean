import CluChess.CommandServices
import CluChess.GameFeed

/-! The failures of the commands, of the game services and of those behind the limiter, presence
and the queue: each can be told to the client, and none takes the rows out of the constraints of the
database. -/
namespace CluChess

/-! ### The failures of the commands -/

/-- The rows meet the constraints of the database, and so does what the services hold. -/
structure Server.Checked {σ : Type} (holds : σ → Prop) (s : Server σ) : Prop where
  rows : s.db.RowsChecked
  rest : holds s.rest

/-- What a handler keeps, whatever becomes of it: a failure can be told to the client. -/
structure Handled.Plain {σ : Type} (holds : σ → Prop) (handled : Handled σ) : Prop where
  failure : ∀ failure, handled.result = .error failure → failure.Plain
  checked : handled.server.Checked holds

/-- What the services keep. -/
structure Services.Plain {σ : Type} (services : Services σ) (holds : σ → Prop) : Prop where
  consume : ∀ name guest moment rest, holds rest →
    holds (services.consume name guest moment rest).2 ∧ ∀ failure,
      (services.consume name guest moment rest).1 = .error failure → failure.Plain
  refresh : ∀ identity socket moment redis rest, holds rest →
    holds (services.refresh identity socket moment (redis,rest)).2
  heartbeat : ∀ identity socket moment s, s.Checked holds →
    (services.heartbeat identity socket moment s).Plain holds
  joinQueue : ∀ identity mode moment s, s.Checked holds →
    (services.joinQueue identity mode moment s).Plain holds
  leaveQueue : ∀ identity mode moment s, s.Checked holds →
    (services.leaveQueue identity mode moment s).Plain holds

theorem Db.RowsChecked.fits {db : Db} (h : db.RowsChecked) : db.Fits :=
  fun id g hg => (h id g hg).1

theorem Db.RowsChecked.execute (chess : ChessEngine) {db : Db} (h : db.RowsChecked)
    (op : Operation) : (CluChess.execute chess db op).2.RowsChecked :=
  (execute_change chess db op).rowsChecked h

theorem PlainErrors.failure {α : Type} {answer : Except RepositoryError α} (h : PlainErrors answer)
    {e : RepositoryError} (he : answer = .error e) : (RealtimeFailure.repository e).Plain := by
  cases e with
  | service e => exact h e he
  | database kind => trivial

theorem startedGame_plain {game : GameRecord} {e : GameServiceError}
    (h : ReadyCall.startedGame game = .error e) : e.Plain := by
  unfold ReadyCall.startedGame at h
  cases hstart : game.startedAt with
  | none =>
    rw [hstart] at h
    cases h
    exact gameServiceError_plain (by decide) (by simp)
  | some startedAt =>
    rw [hstart] at h
    cases h

namespace Server

variable {σ : Type} {s : Server σ} {config : AppConfig} {failure : RealtimeFailure}
  {socket : SocketId} {guest : GuestSessionId} {gameId : String} {moment : Moment}
  {holds : σ → Prop}

theorem serverStart_plain {allocation : GameAllocation} :
    PlainErrors (s.startIfReady allocation gameId moment).1 := by
  intro e h
  unfold Server.startIfReady at h
  split_ifs at h
  cases hstart : (s.db.startIfReady (uuidOf gameId) moment.startAt).1 with
  | error e' =>
    simp only [hstart] at h
    cases h
    exact startIfReady_plain _ _ e hstart
  | ok result =>
    simp only [hstart] at h
    split_ifs at h
    cases hgame : ReadyCall.startedGame result.allocation.game with
    | error e' =>
      simp only [hgame] at h
      cases h
      exact startedGame_plain hgame
    | ok started =>
      simp only [hgame] at h
      cases h

theorem ready_plain (hfits : s.db.Fits) (version : ℕ) :
    PlainErrors (s.ready gameId guest version moment).1 := by
  intro e h
  unfold ready at h
  cases hmark : (s.db.markReady ⟨version,uuidOf gameId,guest,moment.now⟩).1 with
  | error e' =>
    simp only [hmark] at h
    cases h
    exact markReady_plain hfits _ e hmark
  | ok allocation =>
    simp only [hmark] at h
    generalize hs : ({ s with db := _ } : Server σ) = s' at h
    cases hstart : (s'.startIfReady allocation gameId moment).1 with
    | error e' =>
      simp only [hstart] at h
      cases h
      exact serverStart_plain e hstart
    | ok started =>
      simp only [hstart] at h
      cases hnamed : (s'.startIfReady allocation gameId moment).2.db.namedSnapshot (uuidOf gameId)
          guest moment.snapshotAt with
      | error e' =>
        simp only [hnamed] at h
        cases h
        exact namedSnapshot_plain _ _ _ e hnamed
      | ok snapshot =>
        simp only [hnamed] at h
        cases h

theorem Checked.fits (h : s.Checked holds) : s.db.Fits := h.rows.fits

theorem Alike.checked {s' : Server σ} (h : Alike s s') (hs : s.Checked holds) :
    s'.Checked holds where
  rows := by
    rw [h.db]
    exact hs.rows
  rest := by
    rw [h.rest]
    exact hs.rest

theorem Checked.withDb (hs : s.Checked holds) {db : Db} (hrows : db.RowsChecked) :
    Checked holds { s with db := db } := ⟨hrows,hs.rest⟩

theorem startIfReady_checked (chess : ChessEngine) (hs : s.Checked holds)
    (allocation : GameAllocation) (gameId : String) (moment : Moment) :
    (s.startIfReady allocation gameId moment).2.Checked holds := by
  obtain ⟨halike,hdb⟩ := startIfReady_db chess (rfl : s.startIfReady allocation gameId moment =
    (_,_))
  refine halike.checked (hs.withDb ?_)
  rcases hdb with h | h
  · rw [h]
    exact hs.rows
  · rw [h]
    exact hs.rows.execute chess _

theorem ready_checked (chess : ChessEngine) (hs : s.Checked holds) (gameId : String)
    (guest : GuestSessionId) (version : ℕ) (moment : Moment) :
    (s.ready gameId guest version moment).2.Checked holds := by
  have hmarked : Checked holds
      { s with db := (s.db.markReady ⟨version,uuidOf gameId,guest,moment.now⟩).2 } :=
    hs.withDb (hs.rows.execute chess (.markReady ⟨version,uuidOf gameId,guest,moment.now⟩))
  unfold ready
  simp only
  split
  · exact hmarked
  · rename_i allocation _
    have hstarted := startIfReady_checked chess hmarked allocation gameId moment
    split
    · exact hstarted
    · split
      · exact hstarted
      · exact (alike_scheduleGame _ _ _).checked hstarted

theorem failed_plain (hs : s.Checked holds) (h : failure.Plain) :
    (s.failed failure).Plain holds where
  failure _ hfailure := by
    cases hfailure
    exact h
  checked := hs

theorem succeeded_plain (hs : s.Checked holds) (result : RealtimeCommandResult)
    (emissions : List Emission) : (⟨.ok result,emissions,s⟩ : Handled σ).Plain holds :=
  ⟨fun _ h => (by cases h),hs⟩

theorem unschemed_plain (hs : s.Checked holds) (e : SchemaError) (emissions : List Emission) :
    (⟨.error (.schema e),emissions,s⟩ : Handled σ).Plain holds :=
  ⟨fun _ h => (by cases h; trivial),hs⟩

theorem readyGame_plain (chess : ChessEngine) (hs : s.Checked holds) {version : ℕ} :
    (s.readyGame socket guest gameId version moment).Plain holds := by
  have hjoined : (s.joinRoom socket (gameRoom gameId)).Checked holds := ⟨hs.rows,hs.rest⟩
  unfold readyGame
  split
  · rename_i e hauthorize
    exact failed_plain hs (authorize_plain hauthorize)
  · simp only
    have hready := ready_checked chess hjoined gameId guest version moment
    split
    · rename_i e hanswer
      exact failed_plain hready ((ready_plain hjoined.fits version).failure hanswer)
    · have hpublished := fun sender messages =>
        (alike_publish sender uuidText _ messages).checked hready
      split
      · exact unschemed_plain (hpublished _ _) _ _
      · exact ⟨fun _ h => (by cases h; trivial),hpublished _ _⟩
      · exact succeeded_plain (hpublished _ _) _ _

theorem recoverSnapshot_plain : PlainErrors (s.recoverSnapshot config gameId guest moment).1 := by
  intro e h
  unfold recoverSnapshot at h
  cases hcached : s.db.cachedSnapshot (s.readSnapshot gameId guest moment) (uuidOf gameId)
      guest with
  | error e' =>
    simp only [hcached] at h
    cases h
    exact cachedSnapshot_plain _ _ _ e hcached
  | ok cached =>
    simp only [hcached] at h
    cases cached with
    | some recovered => cases h
    | none =>
      simp only at h
      cases hnamed : s.db.namedSnapshot (uuidOf gameId) guest moment.snapshotAt with
      | error e' =>
        simp only [hnamed] at h
        cases h
        exact namedSnapshot_plain _ _ _ e hnamed
      | ok snapshot =>
        simp only [hnamed] at h
        split at h <;> cases h

theorem syncGame_plain (hs : s.Checked holds) :
    (s.syncGame config socket guest gameId moment).Plain holds := by
  have halike : Alike s (s.recoverSnapshot config gameId guest moment).2 :=
    alike_recoverSnapshot rfl
  have hs : (s.recoverSnapshot config gameId guest moment).2.Checked holds := halike.checked hs
  unfold syncGame
  simp only
  split
  · rename_i e hrecovered
    exact failed_plain hs (recoverSnapshot_plain.failure hrecovered)
  · have hjoined : ((s.recoverSnapshot config gameId guest moment).2.joinRoom socket
        (gameRoom gameId)).Checked holds := ⟨hs.rows,hs.rest⟩
    exact succeeded_plain ((alike_scheduleGame _ _ _).checked hjoined) _ _

theorem syncActiveGame_plain {identity : SocketIdentity} (hs : s.Checked holds) :
    (s.syncActiveGame config socket identity moment).Plain holds := by
  unfold syncActiveGame
  split
  · exact succeeded_plain hs _ _
  · have halike : Alike s (s.activeGameId config identity.guestSessionId moment).2 :=
      alike_activeGameId rfl
    have hs : (s.activeGameId config identity.guestSessionId moment).2.Checked holds :=
      halike.checked hs
    simp only
    split
    · exact failed_plain hs (gameServiceError_plain (by decide) (by simp))
    · exact syncGame_plain hs

/-- What is published once a transaction has been committed. -/
theorem published_plain {sender : ServerInstance} {moveText : EventId → String}
    {messages : List (Except SchemaError (List Delivery))} (hs : s.Checked holds)
    (result : RealtimeCommandResult) :
    (match (s.publish sender moveText messages).1 with
      | .error e => (⟨.error (.schema e),(s.publish sender moveText messages).2.1,
          (s.publish sender moveText messages).2.2⟩ : Handled σ)
      | .ok _ => ⟨.ok result,(s.publish sender moveText messages).2.1,
          (s.publish sender moveText messages).2.2⟩).Plain holds := by
  have hpublished := (alike_publish sender moveText s messages).checked hs
  split
  · exact unschemed_plain hpublished _ _
  · exact succeeded_plain hpublished _ _

theorem submitOrRecover_plain (chess : ChessJs) {db : Db} (hrows : db.RowsChecked)
    (input : SubmitMove) (observation : Micros) :
    PlainErrors (submitOrRecover chess.engine db input observation).1 ∧
      (submitOrRecover chess.engine db input observation).2.RowsChecked := by
  constructor
  · unfold submitOrRecover
    split
    · exact recoverMove_plain input
    · exact submitMove_plain hrows.fits input observation
  · have hdb : (submitOrRecover chess.engine db input observation).2 =
        (execute chess.engine db (.submitMove input observation)).2 :=
      (submitOrRecover_cases rfl).1
    rw [hdb]
    exact hrows.execute chess.engine (.submitMove input observation)

theorem submitMove_handled {chess : ChessJs} (hs : s.Checked holds) {clientMoveId : String}
    {version : ℕ} {move : MoveInput} :
    (s.submitMove config chess.engine socket guest clientMoveId gameId version move
      moment).Plain holds := by
  obtain ⟨hplain,hrows⟩ := submitOrRecover_plain chess hs.rows
    ⟨uuidOf clientMoveId,version,uuidOf gameId,guest,move⟩ moment.transactionAt
  have hs := hs.withDb hrows
  unfold submitMove
  simp only
  split
  · rename_i e he
    exact failed_plain hs (hplain.failure he)
  · have hstored : ∀ (s : Server σ) (submission : MoveSubmission) (text : String),
        Alike s (s.storeMoveText submission text) := by
      intro s submission text
      unfold storeMoveText
      split_ifs
      · exact .refl s
      · exact ⟨rfl,rfl,rfl,rfl⟩
    exact published_plain ((alike_afterSubmission _ _).checked ((hstored _ _ _).checked hs)) _

theorem resignOrRecover_plain (chess : ChessEngine) {db : Db} (hrows : db.RowsChecked)
    (input : ResignGame) (observation : Micros) :
    PlainErrors (resignOrRecover db input observation).1 ∧
      (resignOrRecover db input observation).2.RowsChecked := by
  have hresigned : (db.resign input observation).2.RowsChecked :=
    hrows.execute chess (.resign input observation)
  unfold resignOrRecover
  split
  · rename_i db' hunique
    rw [hunique] at hresigned
    exact ⟨recoverResignation_plain input,hresigned⟩
  · exact ⟨resign_plain hrows.fits input observation,hresigned⟩

theorem resignGame_handled (chess : ChessEngine) (hs : s.Checked holds) {eventId : String}
    {version : ℕ} :
    (s.resignGame config socket guest eventId gameId version moment).Plain holds := by
  obtain ⟨hplain,hrows⟩ := resignOrRecover_plain chess hs.rows
    ⟨uuidOf eventId,version,uuidOf gameId,guest⟩ moment.transactionAt
  have hs := hs.withDb hrows
  unfold resignGame
  simp only
  split
  · rename_i e he
    exact failed_plain hs (hplain.failure he)
  · exact published_plain ((alike_afterTerminal _ _ _).checked hs) _

/-- Whatever a command fails of can be told to the client. -/
theorem executeEvent_plain {chess : ChessJs} {services : Services σ}
    (hservices : services.Plain holds) (hs : s.Checked holds) (identity : SocketIdentity)
    (envelope : ClientEventEnvelope) :
    (s.executeEvent config chess.engine services socket identity envelope moment).Plain holds := by
  obtain ⟨correlationId,eventId,timestamp,command⟩ := envelope
  cases command with
  | heartbeatPing version => exact hservices.heartbeat _ _ _ _ hs
  | queueJoin mode => exact hservices.joinQueue _ _ _ _ hs
  | queueLeave mode => exact hservices.leaveQueue _ _ _ _ hs
  | gameReady gameId version => exact readyGame_plain chess.engine hs
  | gameSync gameId version =>
    have hrefreshed : Checked holds { s with
        redis := (services.refresh identity socket moment (s.redis,s.rest)).1
        rest := (services.refresh identity socket moment (s.redis,s.rest)).2 } :=
      ⟨hs.rows,hservices.refresh identity socket moment s.redis s.rest hs.rest⟩
    cases gameId with
    | some gameId => exact syncGame_plain hrefreshed
    | none => exact syncActiveGame_plain hrefreshed
  | moveSubmit clientMoveId gameId version move => exact submitMove_handled hs
  | gameResign gameId version => exact resignGame_handled chess.engine hs

end Server

/-! ### The failures of the services -/

/-- No counter has longer to live than the protocol can tell. -/
def RateLimitStore.Tellable (rates : RateLimitStore) : Prop :=
  rates.counters.EndsWithin rates.clock (2^53 - 1)

def ServiceStores.Tellable (stores : ServiceStores) : Prop := stores.rates.Tellable

/-- From a server in order the action ends in one, and fails of what can be told. -/
def Told {α : Type} (a : ServiceAction α) : Prop :=
  Action.Keeps (Server.Checked ServiceStores.Tellable) RealtimeFailure.Plain a

section Calls

variable {σ α : Type}

theorem keeps_redisCall {P : σ → Prop} {delivery : RedisDelivery} {unavailable : RealtimeFailure}
    {work : σ → Except RealtimeFailure α × σ} (hunavailable : unavailable.Plain)
    (hwork : Action.Keeps P RealtimeFailure.Plain (Action.of work)) :
    Action.Keeps P RealtimeFailure.Plain (redisCall delivery unavailable work) := by
  intro s hs
  have hthrown : ∀ e, (.error unavailable : Except RealtimeFailure α) = .error e → e.Plain := by
    intro e he
    cases he
    exact hunavailable
  cases delivery with
  | answered => exact hwork s hs
  | replyLost => exact ⟨(hwork s hs).1,hthrown⟩
  | unreached => exact ⟨hs,hthrown⟩

theorem keeps_databaseCall {delivery : DatabaseDelivery}
    {work : Db → Except RepositoryError α × Db} (hplain : ∀ db, PlainErrors (work db).1)
    (hrows : ∀ db, db.RowsChecked → (work db).2.RowsChecked) :
    Action.Keeps Db.RowsChecked RealtimeFailure.Plain (databaseCall delivery work) := by
  intro db hdb
  cases delivery with
  | answered =>
    refine ⟨hrows db hdb,fun e he => ?_⟩
    obtain ⟨error,hanswer,rfl⟩ := Action.mapError_eq_error he
    exact (hplain db).failure hanswer
  | failed kind applied =>
    constructor
    · cases applied with
      | true => exact hrows db hdb
      | false => exact hdb
    · intro e he
      cases he
      trivial

theorem keeps_databaseRead {delivery : DatabaseDelivery} {work : Db → Except GameServiceError α}
    (hplain : ∀ db e, work db = .error e → e.Plain) :
    Action.Keeps Db.RowsChecked RealtimeFailure.Plain (databaseRead delivery work) := by
  refine keeps_databaseCall (fun db e he => ?_) fun _ hdb => hdb
  obtain ⟨error,hanswer,herror⟩ := Action.mapError_eq_error he
  cases herror
  exact hplain db e hanswer

theorem matchmaking_plain {error : MatchmakingError} (h : error ∈ matchmakingErrors) :
    (RealtimeFailure.matchmaking error).Plain := h

theorem MatchmakingErrorCode.error_plain (code : MatchmakingErrorCode) :
    (RealtimeFailure.matchmaking code.error).Plain := by
  cases code <;> exact matchmaking_plain (by decide)

/-- A script fails of an error of matchmaking. -/
theorem keeps_executeScript {delivery : RedisDelivery} {schema : α → Bool}
    {script : Redis → Except MatchmakingErrorCode α × Redis} :
    Action.Keeps (fun _ => True) RealtimeFailure.Plain (executeScript delivery schema script) := by
  refine keeps_redisCall (MatchmakingErrorCode.error_plain _) fun r _ => ⟨trivial,fun e he => ?_⟩
  simp only [Action.exec,Action.of] at he
  split at he
  · cases he
    exact MatchmakingErrorCode.error_plain _
  · split_ifs at he
    cases he
    exact MatchmakingErrorCode.error_plain _

theorem told_inRedis {a : Action Redis RealtimeFailure α}
    (ha : Action.Keeps (fun _ => True) RealtimeFailure.Plain a) : Told (inRedis a) :=
  ha.within (fun _ _ => trivial) fun _ _ hs _ => ⟨hs.rows,hs.rest⟩

theorem told_inDatabase {a : Action Db RealtimeFailure α}
    (ha : Action.Keeps Db.RowsChecked RealtimeFailure.Plain a) : Told (inDatabase a) :=
  ha.within (fun _ hs => hs.rows) fun _ _ hs hrows => ⟨hrows,hs.rest⟩

theorem told_inConnections {a : Action ConnectionStore RealtimeFailure α}
    (ha : Action.Keeps (fun _ => True) RealtimeFailure.Plain a) : Told (inConnections a) :=
  ha.within (fun _ _ => trivial) fun _ _ hs _ => ⟨hs.rows,hs.rest⟩

end Calls

section Limits

variable {environment : ServiceEnvironment} {config : AppConfig} {guest : GuestSessionId}
  {socket : SocketId} {moment : Moment}

/-- The time to wait that a limiter tells is one that the protocol can carry. -/
theorem checkCount_plain {policy : RateLimitPolicy} {message : String} {count : ℕ} {ttl : ℤ}
    {error : RateLimitError} (httl : ttl ≤ 2^53 - 1)
    (h : checkCount policy message (.ok ()) (some (count,ttl)) = .error error) :
    error.failure.Plain := by
  simp only [checkCount] at h
  split_ifs at h
  cases h
  have hlow : 1 ≤ max 1 ttl := le_max_left _ _
  have hhigh : max 1 ttl ≤ 2^53 - 1 := max_le (by decide) httl
  constructor
  · simp only [Option.getD_some,isNonnegativeInt,isSafeInteger,Bool.and_eq_true,decide_eq_true_eq]
    omega
  · simp only [Option.getD_some]
    omega

theorem keeps_consumeRate {eventName : ClientEventName} :
    Action.Keeps RateLimitStore.Tellable RealtimeFailure.Plain
      (consumeRate environment eventName guest moment) := by
  intro rates hrates
  have hwindow : ((RealtimeRateLimitService.policies environment.rates
      (RealtimeRateLimitService.scope eventName)).windowMs : ℤ) ≤ 2^53 - 1 := by
    have hsafe := environment.windowMs_safe (RealtimeRateLimitService.scope eventName)
    simp only [isNonnegativeInt,isSafeInteger,Bool.and_eq_true,decide_eq_true_eq] at hsafe
    omega
  refine ⟨RateLimitStore.next_endsWithin hrates le_rfl hwindow,fun e he => ?_⟩
  simp only [Action.exec,Action.of,consumeRate,rateLimits] at he
  cases hdelivery : moment.calls.consume with
  | answered =>
    rw [hdelivery] at he
    obtain ⟨error,hrefused,rfl⟩ := Action.mapError_eq_error he
    exact checkCount_plain ((hrates.countCall hwindow).pttl_le (by decide)) hrefused
  | replyLost =>
    rw [hdelivery] at he
    cases he
  | unreached =>
    rw [hdelivery] at he
    cases he

theorem heartbeat_told {identity : SocketIdentity} :
    Told (heartbeat environment config identity socket moment) := by
  have hpresence : Action.Keeps (fun _ => True) RealtimeFailure.Plain
      (refreshPresence environment config identity.guestSessionId socket moment) :=
    keeps_redisCall trivial fun _ _ => ⟨trivial,fun _ h => (by cases h)⟩
  have hconnection : Action.Keeps (fun _ => True) RealtimeFailure.Plain
      (refreshConnection environment socket moment) := by
    refine fun connections _ => ⟨trivial,fun e he => ?_⟩
    obtain ⟨_,_,rfl⟩ := Action.mapError_eq_error he
    trivial
  exact ((told_inRedis hpresence).both (told_inConnections hconnection)).bind fun _ =>
    Action.keeps_pure _

end Limits

namespace MatchmakingService

variable {config : AppConfig} {chess : ChessEngine} {guest : GuestSessionId} {moment : Moment}
  {reservation : MatchReservation}

theorem keeps_readEligibility {delivery : DatabaseDelivery} {observedAt : Millis} :
    Action.Keeps Db.RowsChecked RealtimeFailure.Plain
      (readEligibility delivery guest observedAt) :=
  keeps_databaseRead fun _ _ h => (by cases h)

theorem keeps_allocateGame (config : AppConfig) (chess : ChessEngine)
    (reservation : MatchReservation) (moment : Moment) :
    Action.Keeps Db.RowsChecked RealtimeFailure.Plain
      (allocateGame config chess reservation moment) := by
  unfold allocateGame
  dsimp only
  split
  · exact Action.keeps_throw trivial
  · exact keeps_databaseCall (fun _ => allocate_plain _) fun db hdb =>
      hdb.execute chess (.allocate _)

theorem keeps_finalizeCommitted (config : AppConfig) (calls : FinalizeCalls)
    (reservation : MatchReservation) (allocation : GameAllocation) :
    Action.Keeps (fun _ => True) RealtimeFailure.Plain
      (finalizeCommitted config calls reservation allocation) := by
  refine (keeps_executeScript.bind fun _ => Action.keeps_pure _).catch fun error herror => ?_
  split
  · exact keeps_executeScript.bind fun _ => Action.keeps_pure _
  · exact Action.keeps_pure _
  · exact Action.keeps_throw herror

theorem keeps_readRecovery (reservation : MatchReservation) (moment : Moment) :
    Action.Keeps Db.RowsChecked RealtimeFailure.Plain (readRecovery reservation moment) :=
  (keeps_databaseRead fun _ _ h => findByMatchId_plain h).bind fun _ =>
    keeps_readEligibility.bind fun _ => keeps_readEligibility.bind fun _ => Action.keeps_pure _

theorem recoverAfterAllocationFailure_told :
    Told (recoverAfterAllocationFailure config reservation moment) := by
  have hreads := (told_inDatabase (keeps_readRecovery reservation moment)).bind fun reads =>
    Action.keeps_pure (some reads)
  refine Action.Keeps.bind (hreads.catch fun _ _ => Action.keeps_pure _) fun reads => ?_
  split
  · exact Action.keeps_pure _
  · split
    · exact (told_inRedis (keeps_finalizeCommitted _ _ _ _)).bind fun _ => Action.keeps_pure _
    · exact (told_inRedis keeps_executeScript).bind fun _ => Action.keeps_pure _

theorem processReservation_told : Told (processReservation config chess reservation moment) := by
  have hallocated := (told_inDatabase (keeps_allocateGame config chess reservation moment)).bind
    fun allocation => (told_inRedis (keeps_finalizeCommitted config moment.calls.attempt.finalize
      reservation allocation)).bind fun _ =>
        Action.keeps_pure (⟨[allocation],[],[]⟩ : MatchmakingEffects)
  refine hallocated.catch fun error herror => ?_
  refine recoverAfterAllocationFailure_told.bind fun recovered => ?_
  cases recovered with
  | some effects => exact Action.keeps_pure _
  | none => exact Action.keeps_throw herror

theorem attemptMatch_told {jobBatchSize : ℕ} {mode : MatchMode} :
    Told (attemptMatch config chess jobBatchSize mode moment) := by
  refine (told_inRedis keeps_executeScript).bind fun attempt => ?_
  split
  · exact Action.keeps_pure _
  · exact processReservation_told.bind fun _ => Action.keeps_pure _

theorem join_told {jobBatchSize : ℕ} {mode : MatchMode} :
    Told (join config chess jobBatchSize guest mode moment) := by
  have hpresent : Action.Keeps (fun _ => True) RealtimeFailure.Plain
      (readPresence guest moment) :=
    keeps_redisCall trivial fun _ _ => ⟨trivial,fun _ h => (by cases h)⟩
  refine ((told_inDatabase keeps_readEligibility).both (told_inRedis hpresent)).bind
    fun ⟨eligibility,present⟩ => ?_
  dsimp only
  split_ifs
  · exact Action.keeps_throw (matchmaking_plain (by decide))
  · exact Action.keeps_throw (matchmaking_plain (by decide))
  · exact Action.keeps_throw (matchmaking_plain (by decide))
  · exact (told_inRedis keeps_executeScript).bind fun _ => attemptMatch_told.bind fun _ =>
      Action.keeps_pure _

end MatchmakingService

namespace MatchmakingRealtimeService

variable {environment : ServiceEnvironment} {config : AppConfig} {chess : ChessEngine}
  {identity : SocketIdentity} {mode : MatchMode} {moment : Moment}

theorem sendNotices_told {notices : Option (List Notice)} : Told (sendNotices notices) := by
  cases notices with
  | none => exact Action.keeps_throw trivial
  | some notices => exact Action.keeps_modify fun _ hs => ⟨hs.rows,hs.rest⟩

theorem publishAllocation_told {allocation : GameAllocation} :
    Told (publishAllocation moment allocation) :=
  Action.keeps_get.bind fun _ => sendNotices_told.bind fun _ => sendNotices_told.bind fun _ =>
    Action.keeps_modify fun _ hs => (Server.alike_scheduleGame _ _ _).checked hs

theorem publishJoinEffects_told {effects : MatchmakingEffects} :
    Told (publishJoinEffects moment effects) :=
  (Action.keeps_each (fun _ => sendNotices_told) _).bind fun _ =>
    (Action.keeps_each (fun _ => sendNotices_told) _).bind fun _ =>
      Action.keeps_each (fun _ => publishAllocation_told) _

theorem joinQueue_told : Told (joinQueue environment config chess identity mode moment) := by
  unfold joinQueue
  split_ifs
  · exact Action.keeps_throw environment.drainSocketGraceMs_retry
  · exact MatchmakingService.join_told.bind fun _ => publishJoinEffects_told.bind fun _ =>
      Action.keeps_pure _

theorem leaveQueue_told : Told (leaveQueue config identity mode moment) :=
  (told_inRedis keeps_executeScript).bind fun _ => sendNotices_told.bind fun _ =>
    Action.keeps_pure _

end MatchmakingRealtimeService

theorem Told.handled {a : ServiceAction RealtimeCommandResult} (ha : Told a)
    {s : Server ServiceStores} (hs : s.Checked ServiceStores.Tellable) :
    (a.handled s).Plain ServiceStores.Tellable :=
  ⟨(ha s hs).2,(ha s hs).1⟩

/-- The services of the gateway fail of what can be told. -/
theorem commandServices_plain (environment : ServiceEnvironment) (config : AppConfig)
    (chess : ChessEngine) :
    (commandServices environment config chess).Plain ServiceStores.Tellable where
  consume _ _ _ _ hrest := keeps_consumeRate _ hrest
  refresh _ _ _ _ _ hrest := hrest
  heartbeat _ _ _ _ hs := heartbeat_told.handled hs
  joinQueue _ _ _ _ hs := MatchmakingRealtimeService.joinQueue_told.handled hs
  leaveQueue _ _ _ _ hs := MatchmakingRealtimeService.leaveQueue_told.handled hs

end CluChess
