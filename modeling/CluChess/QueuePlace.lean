import CluChess.MatchRollback

/-! The place of a waiting guest. The settings of the environment, what the keys of a guest say who
joined the queue, and how long they say so while the guest keeps up the connection. -/
namespace CluChess

section Environment

structure AppEnvironment where
  config : AppConfig
  databaseTxTimeoutMs : ℕ
  drainSocketGraceMs : ℕ
  drainTimeoutMs : ℕ
  socketPingIntervalMs : ℕ
  deriving DecidableEq, Repr

structure ConfigIssue where
  message : String
  path : String
  deriving DecidableEq, Repr

/-- `duration(defaultValue, minimum)`: an integer from the minimum on. -/
def isDuration (value minimum : ℕ) : Prop := minimum ≤ value ∧ value ≤ 9007199254740991

def AppEnvironment.Shaped (environment : AppEnvironment) : Prop :=
  isDuration environment.config.timeIncrementMs 0 ∧
    ∀ value ∈ [environment.databaseTxTimeoutMs,environment.config.timeInitialMs,
      environment.config.joinDeadlineMs,environment.config.graceMs,
      environment.config.reservationTtlMs,environment.config.presenceTtlMs,
      environment.config.queueGuardTtlMs,environment.config.queueMaxWaitMs,
      environment.config.matchStateTtlMs,environment.drainTimeoutMs,
      environment.drainSocketGraceMs,environment.socketPingIntervalMs,
      environment.config.socketPingTimeoutMs], isDuration value 1

/-- The checks of `superRefine` that compare durations. -/
def AppEnvironment.superRefine (environment : AppEnvironment) : List ConfigIssue :=
  (if environment.config.presenceTtlMs ≤ environment.socketPingIntervalMs then
    [⟨"must exceed SOCKET_PING_INTERVAL_MS","PRESENCE_TTL_MS"⟩] else []) ++
  (if environment.config.queueGuardTtlMs ≤ environment.config.presenceTtlMs then
    [⟨"must exceed PRESENCE_TTL_MS","QUEUE_GUARD_TTL_MS"⟩] else []) ++
  (if environment.config.matchStateTtlMs ≤ environment.config.reservationTtlMs then
    [⟨"must exceed RESERVATION_TTL_MS","MATCH_STATE_TTL_MS"⟩] else []) ++
  (if environment.drainTimeoutMs ≤ environment.databaseTxTimeoutMs then
    [⟨"must exceed DATABASE_TX_TIMEOUT_MS","DRAIN_TIMEOUT_MS"⟩] else []) ++
  (if environment.drainTimeoutMs ≤ environment.drainSocketGraceMs then
    [⟨"must be less than DRAIN_TIMEOUT_MS","DRAIN_SOCKET_GRACE_MS"⟩] else []) ++
  (if environment.drainTimeoutMs ≤
      environment.databaseTxTimeoutMs + environment.drainSocketGraceMs + 100 then
    [⟨"must exceed DATABASE_TX_TIMEOUT_MS plus DRAIN_SOCKET_GRACE_MS and shutdown overhead",
      "DRAIN_TIMEOUT_MS"⟩] else [])

def AppEnvironment.Accepted (environment : AppEnvironment) : Prop :=
  environment.Shaped ∧ environment.superRefine = []

instance (value minimum : ℕ) : Decidable (isDuration value minimum) :=
  inferInstanceAs (Decidable (_ ∧ _))
instance (environment : AppEnvironment) : Decidable environment.Shaped :=
  inferInstanceAs (Decidable (_ ∧ _))
instance (environment : AppEnvironment) : Decidable environment.Accepted :=
  inferInstanceAs (Decidable (_ ∧ _))

/-- The relations between durations that an accepted environment has. -/
theorem AppEnvironment.superRefine_eq_nil {environment : AppEnvironment} :
    environment.superRefine = [] ↔
      environment.socketPingIntervalMs < environment.config.presenceTtlMs ∧
      environment.config.presenceTtlMs < environment.config.queueGuardTtlMs ∧
      environment.config.reservationTtlMs < environment.config.matchStateTtlMs ∧
      environment.databaseTxTimeoutMs < environment.drainTimeoutMs ∧
      environment.drainSocketGraceMs < environment.drainTimeoutMs ∧
      environment.databaseTxTimeoutMs + environment.drainSocketGraceMs + 100 <
        environment.drainTimeoutMs := by
  have hissue : ∀ (p : Prop) [Decidable p] (issue : ConfigIssue),
      (if p then [issue] else []) = [] ↔ ¬ p := by
    intro p _ issue
    by_cases hp : p <;> simp [hp]
  simp only [superRefine,List.append_eq_nil_iff,hissue,not_le,and_assoc]

def sampleEnvironment : AppEnvironment where
  config := sampleConfig
  databaseTxTimeoutMs := 3000
  drainSocketGraceMs := 500
  drainTimeoutMs := 15000
  socketPingIntervalMs := 25000

end Environment

namespace Redis

variable {config : AppConfig} {r r' : Redis} {guest other : GuestSessionId} {mode : MatchMode}

section Commands

/-! What a command on the keys of one guest leaves to the others. -/

theorem prune_sameAt (h : other ≠ guest) (now : Millis) : SameAt r (r.prune guest now) other :=
  ⟨rfl,rfl,rfl,rfl,rfl,presence_prune_of_ne h⟩

theorem setState_sameAt (h : other ≠ guest) (v : MatchState) (ttl : ℤ) :
    SameAt r (r.setState guest v ttl) other :=
  ⟨rfl,rfl,rfl,Keys.setPx_of_ne h ttl,rfl,rfl⟩

theorem setGuard_sameAt (h : other ≠ guest) (ttl : ℤ) :
    SameAt r (r.setGuard guest mode ttl) other :=
  ⟨rfl,rfl,Keys.setPx_of_ne h ttl,rfl,rfl,rfl⟩

theorem zadd_sameAt (h : other ≠ guest) (score : Millis) :
    SameAt r (r.zadd guest score) other :=
  ⟨rfl,SortedSet.score_add_of_ne h score,rfl,rfl,rfl,rfl⟩

theorem delActiveGame_sameAt (h : other ≠ guest) : SameAt r (r.delActiveGame guest) other :=
  ⟨rfl,rfl,rfl,rfl,Function.update_of_ne h ..,rfl⟩

variable (config) in
theorem setInGame_sameAt (h : other ≠ guest) (gameId : GameId) :
    SameAt r (r.setInGame config guest gameId) other :=
  ⟨rfl,rfl,rfl,Keys.setPx_of_ne h _,Function.update_of_ne h ..,rfl⟩

theorem expireGuard_sameAt (h : other ≠ guest) (ttl : ℤ) :
    SameAt r (r.expireGuard guest ttl) other :=
  ⟨rfl,rfl,Keys.pexpire_of_ne h ttl,rfl,rfl,rfl⟩

theorem putBack_sameAt (h : other ≠ guest) (score : Millis) :
    SameAt r (r.putBack config ⟨guest,score⟩) other :=
  (zadd_sameAt h score).trans (expireGuard_sameAt h _)

theorem reserve_sameAt {reservation : MatchReservation} (h : ¬ reservation.holds other) :
    SameAt r (r.reserve config reservation) other := by
  obtain ⟨ha,hb⟩ := not_or.mp h
  have hstates := (setState_sameAt (r := r) ha .reserved config.reservationTtlMs).trans
    (setState_sameAt hb .reserved config.reservationTtlMs)
  have hguards := (hstates.trans (delGuard_sameAt ha)).trans (delGuard_sameAt hb)
  exact hguards.trans ⟨rfl,rfl,rfl,rfl,rfl,rfl⟩

end Commands

section Scripts

/-! What a script on behalf of one guest leaves to the others. -/

theorem enqueue_sameAt (h : other ≠ guest) (now : Millis) :
    SameAt r (r.enqueue config guest mode now).2 other := by
  have hkeys : ∀ r : Redis, SameAt r ((r.setGuard guest mode config.queueGuardTtlMs).setState guest
      .queued config.matchStateTtlMs) other := fun r =>
    (setGuard_sameAt h _).trans (setState_sameAt h _ _)
  unfold enqueue
  split_ifs
  · exact .refl r other
  · cases r.queue.score guest with
    | some score => exact hkeys r
    | none => exact (zadd_sameAt h now).trans (hkeys _)

theorem leave_sameAt (h : other ≠ guest) : SameAt r (r.leave config guest).2 other :=
  ((zrem_sameAt h).trans (delGuard_sameAt h)).trans (idleIfQueued_sameAt config h)

theorem finalize_sameAt {reservation : MatchReservation} (h : ¬ reservation.holds other) :
    SameAt r (r.finalize config reservation).2 other := by
  obtain ⟨ha,hb⟩ := not_or.mp h
  unfold finalize
  cases r.reservation reservation.matchId with
  | none => simp only; split_ifs <;> exact .refl r other
  | some values =>
    simp only
    split_ifs
    · have hgames := (setInGame_sameAt config (r := r) ha reservation.gameId).trans
        (setInGame_sameAt config hb reservation.gameId)
      have hdeleted : SameAt r (((r.setInGame config reservation.a reservation.gameId).setInGame
          config reservation.b reservation.gameId).delReservation reservation.matchId) other :=
        hgames.trans ⟨rfl,rfl,rfl,rfl,rfl,rfl⟩
      exact (hdeleted.trans (delGuard_sameAt ha)).trans (delGuard_sameAt hb)
    · exact .refl r other

theorem restore_sameAt (h : other ≠ guest) (now score : Millis)
    (durable : GuestMatchEligibility) :
    SameAt r (r.restore config mode now guest score durable).2 other := by
  unfold restore
  cases durable.activeGameId with
  | some gameId =>
    exact ((zrem_sameAt h).trans (delGuard_sameAt h)).trans (setInGame_sameAt config h gameId)
  | none =>
    have hchecked : SameAt r (if durable.eligible then (r.delActiveGame guest).isPresent guest now
        else (false,r.delActiveGame guest)).2 other := by
      split_ifs
      · exact (delActiveGame_sameAt h).trans (prune_sameAt h now)
      · exact delActiveGame_sameAt h
    simp only
    generalize (if durable.eligible = true then (r.delActiveGame guest).isPresent guest now
      else (false,r.delActiveGame guest)) = checked at hchecked ⊢
    obtain ⟨present,r₁⟩ := checked
    cases present with
    | false =>
      exact hchecked.trans (((zrem_sameAt h).trans (delGuard_sameAt h)).trans
        (setState_sameAt h _ _))
    | true =>
      have hadded : SameAt r₁ (if (r₁.queue.score guest).all fun current => score < current then
          r₁.zadd guest score else r₁) other := by
        split_ifs
        · exact zadd_sameAt h score
        · exact .refl r₁ other
      exact hchecked.trans (hadded.trans ((setGuard_sameAt h _).trans (setState_sameAt h _ _)))

theorem rollback_sameAt {reservation : MatchReservation} (h : ¬ reservation.holds other)
    (durable : DurableGuests) (now : Millis) :
    SameAt r (r.rollback config reservation durable now).2 other := by
  obtain ⟨ha,hb⟩ := not_or.mp h
  unfold rollback
  cases r.reservation reservation.matchId with
  | none => simp only; split_ifs <;> exact .refl r other
  | some values =>
    simp only
    split_ifs
    · exact ((restore_sameAt ha now _ durable.a).trans (restore_sameAt hb now _ durable.b)).trans
        ⟨rfl,rfl,rfl,rfl,rfl,rfl⟩
    · exact .refl r other

theorem repairCommitted_sameAt {a b : GuestSessionId} (ha : other ≠ a) (hb : other ≠ b)
    (gameId : GameId) : SameAt r (r.repairCommitted config gameId a b).2 other := by
  unfold repairCommitted
  split_ifs
  · exact .refl r other
  · have hgames := (setInGame_sameAt config (r := r) ha gameId).trans
      (setInGame_sameAt config hb gameId)
    have hqueue := (hgames.trans (zrem_sameAt ha)).trans (zrem_sameAt hb)
    exact (hqueue.trans (delGuard_sameAt ha)).trans (delGuard_sameAt hb)

theorem clearActiveGame_sameAt (h : other ≠ guest) (expected : GameId) :
    SameAt r (r.clearActiveGame config guest expected).2 other := by
  unfold clearActiveGame
  split_ifs
  · exact (delActiveGame_sameAt h).trans (setState_sameAt h _ _)
  · exact setState_sameAt h _ _
  · exact .refl r other

theorem refresh_sameAt (h : other ≠ guest) (socket : SocketMember) (now : Millis) :
    SameAt r (r.refresh config guest socket now).2 other := by
  have hadded := (r.prune guest now).presence.updateSet_of_ne r.clock h
    fun s => s.add socket (now + config.presenceTtlMs)
  refine ⟨rfl,rfl,Keys.pexpire_of_ne h _,rfl,rfl,?_⟩
  exact ((Keys.pexpire_of_ne h _).trans hadded).trans (presence_prune_of_ne h)

theorem remove_sameAt (h : other ≠ guest) (socket : SocketMember) (now : Millis) :
    SameAt r (r.remove guest socket now).2 other := by
  have hremoved := (r.prune guest now).presence.updateSet_of_ne r.clock h fun s => s.remove socket
  exact ⟨rfl,rfl,rfl,rfl,rfl,hremoved.trans (presence_prune_of_ne h)⟩

end Scripts

section Waiting

variable {since expiry : Millis}

/-- The guest has a connection that expires at `expiry` or later, and the key lives as long. -/
def ConnectedUntil (r : Redis) (guest : GuestSessionId) (expiry : Millis) : Prop :=
  ∀ t, r.clock ≤ t → t < expiry →
    ∃ connection ∈ (r.presence.sortedSet t guest).rows, expiry ≤ connection.2

/-- What the keys say of a guest who joined the queue at `since` and whose last refresh expires at
`expiry`. Nothing renews the state. -/
structure Waiting (config : AppConfig) (mode : MatchMode) (guest : GuestSessionId)
    (since expiry : Millis) (r : Redis) : Prop where
  score : r.queue.score guest = some since
  state : r.states guest = some ⟨.queued,some (since + config.matchStateTtlMs)⟩
  guard : ∀ t, r.clock ≤ t → t < expiry → r.guards.get t guest = some mode
  activeGames : r.activeGames guest = none
  connected : r.ConnectedUntil guest expiry
  recent : expiry ≤ r.clock + config.presenceTtlMs

theorem ConnectedUntil.sameAt (h : r.ConnectedUntil guest expiry) (hs : SameAt r r' guest) :
    r'.ConnectedUntil guest expiry := by
  intro t ht hexpiry
  rw [Keys.sortedSet_congr hs.presence]
  exact h t (hs.clock ▸ ht) hexpiry

theorem ConnectedUntil.prune (h : r.ConnectedUntil guest expiry) (hlive : r.clock < expiry) :
    (r.prune guest r.clock).ConnectedUntil guest expiry := by
  intro t ht hexpiry
  obtain ⟨connection,hmem,hle⟩ := h t ht hexpiry
  have hpruned : (r.prune guest r.clock).presence.sortedSet t guest =
      (r.presence.sortedSet t guest).removeUpTo r.clock :=
    Keys.sortedSet_updateSet_later (fun s => s.removeUpTo r.clock) rfl ht r.presence guest
  have hkept : r.clock < connection.2 := hlive.trans_le hle
  rw [hpruned]
  exact ⟨connection,Table.mem_deleteWhere.mpr ⟨hmem,by simpa using hkept⟩,hle⟩

theorem connectedUntil_refresh (r : Redis) (guest : GuestSessionId) (socket : SocketMember) :
    (r.refresh config guest socket r.clock).2.ConnectedUntil guest
      (r.clock + config.presenceTtlMs) := by
  intro t ht hexpiry
  have hadded := (r.prune guest r.clock).presence.sortedSet_updateSet r.clock guest
    fun s => s.add socket (r.clock + config.presenceTtlMs)
  generalize hset : SortedSet.add ((r.prune guest r.clock).presence.sortedSet r.clock guest) socket
    (r.clock + config.presenceTtlMs) = set at hadded
  have hscore : set.score socket = some (r.clock + config.presenceTtlMs) := by
    rw [← hset,SortedSet.score_add,if_pos rfl]
  have hmem := SortedSet.score_eq_some.mp hscore
  have hget : ((r.prune guest r.clock).presence.updateSet r.clock guest
      fun s => s.add socket (r.clock + config.presenceTtlMs)).get r.clock guest = some set := by
    unfold Keys.sortedSet at hadded
    cases hget : ((r.prune guest r.clock).presence.updateSet r.clock guest
        fun s => s.add socket (r.clock + config.presenceTtlMs)).get r.clock guest with
    | none =>
      rw [hget] at hadded
      rw [← hadded] at hmem
      cases hmem
    | some s =>
      rw [hget] at hadded
      exact congrArg some hadded
  have hkey : t ≤ r.clock + ((config.presenceTtlMs + config.socketPingTimeoutMs : ℕ) : ℤ) := by
    have httl : r.clock + (config.presenceTtlMs : ℤ) ≤
        r.clock + ((config.presenceTtlMs + config.socketPingTimeoutMs : ℕ) : ℤ) :=
      Int.add_le_add_left (Int.ofNat_le.mpr (Nat.le_add_right _ _)) _
    exact hexpiry.le.trans httl
  have hlater : (r.refresh config guest socket r.clock).2.presence.sortedSet t guest = set :=
    congrArg (Option.getD · _) (Keys.get_pexpire hget hkey)
  rw [hlater]
  exact ⟨_,hmem,le_rfl⟩

theorem Waiting.sameAt (h : Waiting config mode guest since expiry r) (hs : SameAt r r' guest) :
    Waiting config mode guest since expiry r' where
  score := hs.score.trans h.score
  state := hs.states.trans h.state
  guard t ht hexpiry := by
    rw [Keys.get_congr hs.guards]
    exact h.guard t (hs.clock ▸ ht) hexpiry
  activeGames := hs.activeGames.trans h.activeGames
  connected := h.connected.sameAt hs
  recent := hs.clock.symm ▸ h.recent

theorem Waiting.elapse (h : Waiting config mode guest since expiry r) (ms : ℕ) :
    Waiting config mode guest since expiry { r with clock := r.clock + ms } := by
  have hle : r.clock ≤ r.clock + (ms : ℤ) := Int.le.intro ms rfl
  refine ⟨h.score,h.state,fun t ht => h.guard t (hle.trans ht),h.activeGames,
    fun t ht => h.connected t (hle.trans ht),?_⟩
  have hrecent := h.recent
  show expiry ≤ r.clock + (ms : ℤ) + config.presenceTtlMs
  have hadd : r.clock + (config.presenceTtlMs : ℤ) ≤ r.clock + (ms : ℤ) + config.presenceTtlMs :=
    Int.add_le_add_right hle _
  exact hrecent.trans hadd

theorem Waiting.prune (h : Waiting config mode guest since expiry r) (hlive : r.clock < expiry) :
    Waiting config mode guest since expiry (r.prune guest r.clock) :=
  ⟨h.score,h.state,h.guard,h.activeGames,h.connected.prune hlive,h.recent⟩

/-- A guard set now outlives a connection that is renewed now. -/
theorem presence_le_guard (hguard : config.presenceTtlMs ≤ config.queueGuardTtlMs)
    (clock : Millis) : clock + (config.presenceTtlMs : ℤ) ≤ clock + config.queueGuardTtlMs :=
  Int.add_le_add_left (Int.ofNat_le.mpr hguard) _

theorem Waiting.refresh (h : Waiting config mode guest since expiry r) (hlive : r.clock < expiry)
    (hguard : config.presenceTtlMs ≤ config.queueGuardTtlMs) (socket : SocketMember) :
    Waiting config mode guest since (r.clock + config.presenceTtlMs)
      (r.refresh config guest socket r.clock).2 where
  score := h.score
  state := h.state
  guard t ht hexpiry := by
    have httl := presence_le_guard hguard r.clock
    exact Keys.get_pexpire (h.guard r.clock le_rfl hlive) (hexpiry.le.trans httl)
  activeGames := h.activeGames
  connected := connectedUntil_refresh r guest socket
  recent := le_rfl

/-- A guest without a partner is put back as he was, with a new time to live of the guard. -/
theorem Waiting.putBack (h : Waiting config mode guest since expiry r) (hlive : r.clock < expiry)
    (hguard : config.presenceTtlMs ≤ config.queueGuardTtlMs)
    (hs : SameAt ((r.zrem guest).prune guest r.clock) r' guest) :
    Waiting config mode guest since expiry (r'.putBack config ⟨guest,since⟩) := by
  have hpruned := (h.prune hlive).connected
  have hclock : r'.clock = r.clock := hs.clock
  refine ⟨?_,hs.states.trans h.state,?_,hs.activeGames.trans h.activeGames,
    fun t ht hexpiry => ?_,?_⟩
  · show (r'.queue.add guest since).score guest = some since
    rw [SortedSet.score_add,if_pos rfl]
  · intro t ht hexpiry
    have hget : r'.guards.get r'.clock guest = some mode := by
      rw [Keys.get_congr hs.guards,hclock]
      exact h.guard r.clock le_rfl hlive
    refine Keys.get_pexpire hget ?_
    have httl := presence_le_guard hguard r.clock
    show t ≤ r'.clock + config.queueGuardTtlMs
    rw [hclock]
    exact hexpiry.le.trans (h.recent.trans httl)
  · have hset : (r'.putBack config ⟨guest,since⟩).presence.sortedSet t guest =
        (r.prune guest r.clock).presence.sortedSet t guest := Keys.sortedSet_congr hs.presence
    have ht' : r.clock ≤ t := hclock ▸ ht
    rw [hset]
    exact hpruned t ht' hexpiry
  · show expiry ≤ r'.clock + config.presenceTtlMs
    rw [hclock]
    exact h.recent

theorem Waiting.of_enqueue {position : ℕ} (hc : r.ConnectedUntil guest expiry)
    (hrecent : expiry ≤ r.clock + config.presenceTtlMs)
    (hguard : config.presenceTtlMs ≤ config.queueGuardTtlMs)
    (h : r.enqueue config guest mode r.clock = (.ok ⟨false,position,since⟩,r')) :
    r'.clock = r.clock ∧ since = r.clock ∧ Waiting config mode guest since expiry r' := by
  unfold enqueue at h
  split_ifs at h with hfree
  · cases h
  cases hscore : r.queue.score guest with
  | some score =>
    rw [hscore] at h
    cases h
  | none =>
    rw [hscore] at h
    obtain ⟨hanswer,rfl⟩ := Prod.mk.inj h
    obtain rfl : r.clock = since := congrArg QueueJoin.since (Except.ok.inj hanswer)
    have hactive : r.activeGames guest = none := by
      rw [not_or] at hfree
      exact Option.not_isSome_iff_eq_none.mp hfree.1
    refine ⟨rfl,rfl,?_,Keys.setPx_self _,fun t ht hexpiry => ?_,hactive,hc,hrecent⟩
    · show (r.queue.add guest r.clock).score guest = some r.clock
      rw [SortedSet.score_add,if_pos rfl]
    · have httl := presence_le_guard hguard r.clock
      exact Keys.get_setPx_later (hexpiry.le.trans (hrecent.trans httl))

theorem Waiting.state_iff (h : Waiting config mode guest since expiry r) :
    r.state guest = some .queued ↔ r.clock ≤ since + config.matchStateTtlMs := by
  constructor
  · intro hstate
    obtain ⟨e,he,hl,-⟩ := Keys.get_eq_some.mp hstate
    rw [h.state] at he
    cases he
    simpa [Entry.live] using hl
  · intro hle
    exact Keys.get_eq_some.mpr ⟨_,h.state,decide_eq_true hle,rfl⟩

/-- A connected guest can be matched until the wait or the time to live of the state is over. -/
theorem Waiting.eligible_iff (h : Waiting config mode guest since expiry r)
    (hlive : r.clock < expiry) : r.Eligible config mode r.clock (guest,since) ↔
      r.clock < since + config.queueMaxWaitMs ∧ r.clock ≤ since + config.matchStateTtlMs := by
  have hguard : r.guard guest = some mode := h.guard r.clock le_rfl hlive
  have hconnected : ∃ connection ∈ (r.members guest).rows, r.clock < connection.2 := by
    obtain ⟨connection,hmem,hle⟩ := h.connected r.clock le_rfl hlive
    exact ⟨connection,hmem,hlive.trans_le hle⟩
  have hwait : r.clock - (config.queueMaxWaitMs : ℤ) < since ↔
      r.clock < since + config.queueMaxWaitMs := Int.sub_lt_iff
  unfold Eligible
  simp only [hwait,hconnected,h.state_iff,hguard,h.activeGames,and_true,true_and]

/-- The check of an entry that can be matched prunes its connections and nothing else. -/
theorem examine_eligible {now : Millis} {entry : GuestSessionId × Millis}
    (h : r.Eligible config mode now entry) :
    r.examine config mode now entry.1 entry.2 = (none,r.prune entry.1 now) := by
  obtain ⟨htime,hconnected,hstate,hguard,hactive⟩ := h
  have hpresent : r.isPresent entry.1 now = (true,r.prune entry.1 now) :=
    Prod.ext ((isPresent_iff now entry.1).mpr hconnected) rfl
  have hstate' : (r.prune entry.1 now).state entry.1 = some .queued := hstate
  have hguard' : (r.prune entry.1 now).guard entry.1 = some mode := hguard
  have hactive' : (r.prune entry.1 now).activeGames entry.1 = none := hactive
  unfold examine
  rw [if_neg (not_le.mpr htime),hpresent]
  simp [hstate',hguard',hactive']

theorem Waiting.entry_eq (h : Waiting config mode guest since expiry r)
    {entry : GuestSessionId × Millis} (he : entry ∈ r.queue.range) (hguest : entry.1 = guest) :
    entry = (guest,since) := by
  have hscore := SortedSet.score_eq_some.mpr (SortedSet.mem_range.mp he)
  rw [hguest,h.score] at hscore
  exact Prod.ext hguest (Option.some.inj hscore).symm

theorem Waiting.not_reported (h : Waiting config mode guest since expiry r)
    (hgood : r.Eligible config mode r.clock (guest,since))
    {entries : List (GuestSessionId × Millis)} (hs : entries ⊆ r.queue.range) :
    guest ∉ (entries.filterMap (r.report config mode r.clock)).map
      RemovedQueueGuest.guestSessionId := by
  intro hreported
  obtain ⟨entry,hmem,hguest,hfailed⟩ := (mem_reported config mode r.clock).mp hreported
  rw [h.entry_eq (hs hmem) hguest] at hfailed
  exact hfailed hgood

theorem Waiting.tryMatch (h : Waiting config mode guest since expiry r)
    (hlive : r.clock < expiry) (hguard : config.presenceTtlMs ≤ config.queueGuardTtlMs)
    (hgood : r.Eligible config mode r.clock (guest,since)) {matchId : MatchId} {gameId : GameId}
    {maxScan : ℕ} (hfree : ∀ attempt reservation,
      (r.tryMatch config mode matchId gameId r.clock maxScan).1 = .ok attempt →
        attempt.reservation = some reservation → ¬ reservation.holds guest) :
    (∀ attempt, (r.tryMatch config mode matchId gameId r.clock maxScan).1 = .ok attempt →
      guest ∉ attempt.discarded.map RemovedQueueGuest.guestSessionId) ∧
    Waiting config mode guest since expiry
      (r.tryMatch config mode matchId gameId r.clock maxScan).2 := by
  by_cases hreservation : r.reservation matchId = none
  case neg =>
    have htaken : r.tryMatch config mode matchId gameId r.clock maxScan =
        (.error .reservationMismatch,r) := by
      rw [Redis.tryMatch,if_pos (Option.isSome_iff_ne_none.mpr hreservation)]
    rw [htaken]
    exact ⟨(fun _ hok => by cases hok),h⟩
  have heq := tryMatch_eq config mode r.clock maxScan gameId hreservation
  have hlocal := visit_local config mode r.clock
  have hunreported : guest ∉ ((r.scanned config mode r.clock maxScan).filterMap
      (r.report config mode r.clock)).map RemovedQueueGuest.guestSessionId :=
    h.not_reported hgood (scanned_subset config mode r.clock)
  have hfirst := mem_reported_scanned config mode r.clock guest maxScan (r := r)
  have hscanned := scanned_eligible config mode r.clock maxScan (r := r)
  have hinside : guest ∈ (r.scanned config mode r.clock maxScan).map Prod.fst →
      SameAt ((r.zrem guest).prune guest r.clock)
        ((r.scanned config mode r.clock maxScan).foldl (visit config mode r.clock) r) guest := by
    intro hmem
    obtain ⟨entry,he,hguest⟩ := List.mem_map.mp hmem
    obtain rfl := h.entry_eq (scanned_subset config mode r.clock he) hguest
    have hzrem : (r.zrem guest).Eligible config mode r.clock (guest,since) := hgood
    have hexamined := examine_eligible hzrem
    have hvisit : visit config mode r.clock r (guest,since) =
        (r.zrem guest).prune guest r.clock := by simp only [visit,hexamined,if_true]
    have hsame := hlocal.foldl_inside (r := r) (scanned_nodup config mode r.clock maxScan) he
    rwa [hvisit] at hsame
  have houtside : guest ∉ (r.scanned config mode r.clock maxScan).map Prod.fst →
      SameAt r ((r.scanned config mode r.clock maxScan).foldl (visit config mode r.clock) r)
        guest := hlocal.foldl_outside
  simp only at heq
  rw [heq] at hfree ⊢
  generalize (r.scanned config mode r.clock maxScan).foldl (visit config mode r.clock) r =
    popped at *
  rcases heligible : r.eligibleEntries config mode r.clock maxScan with _ | ⟨a,_ | ⟨b,rest⟩⟩
  case nil =>
    rw [heligible] at hfirst hscanned
    have hmem : guest ∉ (r.scanned config mode r.clock maxScan).map Prod.fst := fun hmem =>
      hunreported (hfirst.mpr ⟨hmem,by simp⟩)
    refine ⟨?_,h.sameAt (houtside hmem)⟩
    rintro attempt ⟨⟩
    exact hunreported
  case cons.nil =>
    rw [heligible] at hfirst hscanned
    refine ⟨by rintro attempt ⟨⟩; exact hunreported,?_⟩
    have hone : a ∈ List.take 2 [a] := List.mem_singleton_self a
    rw [← hscanned] at hone
    have ha : a ∈ r.scanned config mode r.clock maxScan := (List.mem_filter.mp hone).1
    by_cases hguest : a.1 = guest
    · obtain rfl := h.entry_eq (scanned_subset config mode r.clock ha) hguest
      exact h.putBack hlive hguard (hinside (List.mem_map_of_mem ha))
    · have hmem : guest ∉ (r.scanned config mode r.clock maxScan).map Prod.fst := fun hmem =>
        hunreported (hfirst.mpr ⟨hmem,by simpa using Ne.symm hguest⟩)
      exact h.sameAt ((houtside hmem).trans (putBack_sameAt (Ne.symm hguest) a.2))
  case cons.cons =>
    rw [heligible] at hfirst hfree
    have hholds := hfree _ _ rfl rfl
    refine ⟨by rintro attempt ⟨⟩; exact hunreported,?_⟩
    have hmem : guest ∉ (r.scanned config mode r.clock maxScan).map Prod.fst := by
      refine fun hmem => hunreported (hfirst.mpr ⟨hmem,?_⟩)
      simpa [MatchReservation.holds] using hholds
    exact h.sameAt ((houtside hmem).trans (reserve_sameAt hholds))

theorem Waiting.sweep (h : Waiting config mode guest since expiry r) (hlive : r.clock < expiry)
    (hgood : r.Eligible config mode r.clock (guest,since)) (batch : ℕ) :
    guest ∉ (r.sweep config mode r.clock batch).1.map RemovedQueueGuest.guestSessionId ∧
      Waiting config mode guest since expiry (r.sweep config mode r.clock batch).2 := by
  have hsubset : r.queue.range.take batch ⊆ r.queue.range := fun _ => List.mem_of_mem_take
  have hq : ∀ e ∈ r.queue.range.take batch, r.queue.score e.1 = some e.2 := fun e he =>
    SortedSet.score_eq_some.mpr (SortedSet.mem_range.mp (hsubset he))
  have hn : ((r.queue.range.take batch).map Prod.fst).Nodup :=
    ((List.take_sublist _ _).map Prod.fst).nodup (SortedSet.range_nodup r.queue)
  have hlocal := sweepVisit_local config mode r.clock
  rw [Redis.sweep,sweep_foldl config mode r.clock _ [] r hq hn,List.nil_append]
  refine ⟨h.not_reported hgood hsubset,?_⟩
  by_cases hmem : guest ∈ (r.queue.range.take batch).map Prod.fst
  · obtain ⟨entry,he,hguest⟩ := List.mem_map.mp hmem
    obtain rfl := h.entry_eq (hsubset he) hguest
    have hexamined := examine_eligible hgood
    have hvisit : sweepVisit config mode r.clock r (guest,since) = r.prune guest r.clock := by
      simp only [sweepVisit,sweepEntry,hexamined]
    have hsame := hlocal.foldl_inside (r := r) hn he
    rw [hvisit] at hsame
    exact (h.prune hlive).sameAt hsame
  · exact h.sameAt (hlocal.foldl_outside hmem)

end Waiting

section Clock

/-! No script moves the clock. -/

theorem enqueue_clock (now : Millis) : (r.enqueue config guest mode now).2.clock = r.clock := by
  unfold enqueue
  split_ifs
  · rfl
  · cases r.queue.score guest <;> rfl

theorem idleIfQueued_clock : (r.idleIfQueued config guest).clock = r.clock := by
  unfold idleIfQueued
  split_ifs <;> rfl

theorem leave_clock : (r.leave config guest).2.clock = r.clock :=
  idleIfQueued_clock (r := (r.zrem guest).delGuard guest)

theorem tryMatch_clock (matchId : MatchId) (gameId : GameId) (now : Millis) (maxScan : ℕ) :
    (r.tryMatch config mode matchId gameId now maxScan).2.clock = r.clock := by
  by_cases hfree : r.reservation matchId = none
  · have heq := tryMatch_eq config mode now maxScan gameId hfree
    have hvisited := (visited_foldl config mode now (r.scanned config mode now maxScan) r).clock
    simp only at heq
    rw [heq]
    cases r.eligibleEntries config mode now maxScan with
    | nil => exact hvisited
    | cons a rest => cases rest <;> exact hvisited
  · rw [tryMatch,if_pos (Option.isSome_iff_ne_none.mpr hfree)]

theorem finalize_clock (reservation : MatchReservation) :
    (r.finalize config reservation).2.clock = r.clock := by
  unfold finalize
  cases r.reservation reservation.matchId with
  | none => simp only; split_ifs <;> rfl
  | some values => simp only; split_ifs <;> simp

theorem restore_clock (now score : Millis) (durable : GuestMatchEligibility) :
    (r.restore config mode now guest score durable).2.clock = r.clock := by
  unfold restore
  cases durable.activeGameId with
  | some gameId => rfl
  | none =>
    have hchecked : (if durable.eligible then (r.delActiveGame guest).isPresent guest now
        else (false,r.delActiveGame guest)).2.clock = r.clock := by split_ifs <;> rfl
    simp only
    generalize (if durable.eligible = true then (r.delActiveGame guest).isPresent guest now
      else (false,r.delActiveGame guest)) = checked at hchecked ⊢
    obtain ⟨present,r₁⟩ := checked
    cases present with
    | false => exact hchecked
    | true =>
      rw [← hchecked]
      simp only [if_true,setState,setGuard]
      split_ifs <;> rfl

theorem rollback_clock (reservation : MatchReservation) (durable : DurableGuests) (now : Millis) :
    (r.rollback config reservation durable now).2.clock = r.clock := by
  unfold rollback
  cases r.reservation reservation.matchId with
  | none => simp only; split_ifs <;> rfl
  | some values =>
    simp only
    split_ifs
    · exact (restore_clock now _ durable.b).trans (restore_clock now _ durable.a)
    · rfl

theorem sweep_clock (now : Millis) (batch : ℕ) :
    (r.sweep config mode now batch).2.clock = r.clock := by
  unfold sweep
  generalize r.queue.range.take batch = entries
  generalize hacc : (([],r) : List RemovedQueueGuest × Redis) = acc
  have hstart : acc.2.clock = r.clock := by rw [← hacc]
  clear hacc
  induction entries generalizing acc with
  | nil => exact hstart
  | cons entry entries ih =>
    refine ih _ ?_
    rw [← hstart]
    have hkeys := examine_sameKeys config acc.2 mode now entry.1 entry.2
    unfold sweepEntry
    simp only
    generalize acc.2.examine config mode now entry.1 entry.2 = checked at hkeys ⊢
    obtain ⟨reason,r₁⟩ := checked
    cases reason with
    | none => exact hkeys.clock
    | some reason =>
      simp only
      split_ifs
      · exact idleIfQueued_clock.trans hkeys.clock
      · exact hkeys.clock

theorem clock_execute (op : RedisOperation) : r.clock ≤ (r.execute config op).clock := by
  cases op with
  | enqueue guest mode now => exact (enqueue_clock now).ge
  | leave guest => exact leave_clock.ge
  | tryMatch mode matchId gameId now maxScan => exact (tryMatch_clock matchId gameId now maxScan).ge
  | finalize reservation => exact (finalize_clock reservation).ge
  | rollback reservation durable now => exact (rollback_clock reservation durable now).ge
  | sweep mode now batch => exact (sweep_clock now batch).ge
  | repairCommitted gameId a b =>
    simp only [execute,repairCommitted]
    split_ifs <;> simp
  | clearActiveGame guest expected =>
    simp only [execute,clearActiveGame]
    split_ifs <;> exact le_rfl
  | refresh guest socket now => exact le_rfl
  | remove guest socket now => exact le_rfl
  | elapse ms => exact Int.le.intro ms rfl

end Clock

end Redis

section Steps

variable {config : AppConfig} {guest : GuestSessionId} {mode : MatchMode} {since expiry : Millis}
  {r : Redis} {op : RedisOperation}

/-- The operation is on behalf of the guest, and no refresh. -/
def RedisOperation.actsFor (guest : GuestSessionId) : RedisOperation → Prop
  | .enqueue other _ _ | .leave other | .clearActiveGame other _ | .remove other _ _ =>
    guest = other
  | .finalize reservation | .rollback reservation _ _ => reservation.holds guest
  | .repairCommitted _ a b => guest = a ∨ guest = b
  | .tryMatch .. | .sweep .. | .refresh .. | .elapse _ => False

def RedisOperation.now : RedisOperation → Option Millis
  | .enqueue _ _ now | .tryMatch _ _ _ now _ | .rollback _ _ now | .sweep _ now _
  | .refresh _ _ now | .remove _ _ now => some now
  | .leave _ | .finalize _ | .repairCommitted .. | .clearActiveGame .. | .elapse _ => none

/-- The operation reserves the guest for a match. -/
def RedisOperation.matches (config : AppConfig) (r : Redis) (guest : GuestSessionId) :
    RedisOperation → Prop
  | .tryMatch mode matchId gameId now maxScan => ∃ attempt reservation,
    (r.tryMatch config mode matchId gameId now maxScan).1 = .ok attempt ∧
      attempt.reservation = some reservation ∧ reservation.holds guest
  | _ => False

def RedisOperation.discards (config : AppConfig) (r : Redis) (guest : GuestSessionId) :
    RedisOperation → Prop
  | .tryMatch mode matchId gameId now maxScan => ∃ attempt,
    (r.tryMatch config mode matchId gameId now maxScan).1 = .ok attempt ∧
      guest ∈ attempt.discarded.map RemovedQueueGuest.guestSessionId
  | .sweep mode now batch =>
    guest ∈ (r.sweep config mode now batch).1.map RemovedQueueGuest.guestSessionId
  | _ => False

def RedisOperation.presenceUntil (config : AppConfig) (guest : GuestSessionId)
    (expiry : Millis) : RedisOperation → Millis
  | .refresh other _ now => if guest = other then now + config.presenceTtlMs else expiry
  | _ => expiry

/-- The guest does nothing but refresh its presence, each time before the previous entry expires,
and is not matched, and the clock of the application is that of Redis. -/
def Undisturbed (config : AppConfig) (guest : GuestSessionId) :
    Redis → Millis → List RedisOperation → Prop
  | _, _, [] => True
  | r, expiry, op :: ops =>
    r.clock < expiry ∧ (∀ now ∈ op.now, now = r.clock) ∧ ¬ op.actsFor guest ∧
      ¬ op.matches config r guest ∧
      Undisturbed config guest (r.execute config op) (op.presenceUntil config guest expiry) ops

/-- A step that may find the guest in the queue but can match it keeps its place. -/
theorem Redis.Waiting.execute (h : r.Waiting config mode guest since expiry)
    (hguard : config.presenceTtlMs ≤ config.queueGuardTtlMs) (hlive : r.clock < expiry)
    (hgood : r.Eligible config mode r.clock (guest,since)) (hnow : ∀ now ∈ op.now, now = r.clock)
    (hother : ¬ op.actsFor guest) (hfree : ¬ op.matches config r guest) :
    ¬ op.discards config r guest ∧ (r.execute config op).Waiting config mode guest since
      (op.presenceUntil config guest expiry) := by
  cases op with
  | enqueue other mode' now => exact ⟨nofun,h.sameAt (Redis.enqueue_sameAt hother now)⟩
  | leave other => exact ⟨nofun,h.sameAt (Redis.leave_sameAt hother)⟩
  | tryMatch mode' matchId gameId now maxScan =>
    obtain rfl : now = r.clock := hnow now rfl
    obtain rfl : mode' = mode := by cases mode'; cases mode; rfl
    have hunmatched : ∀ attempt reservation,
        (r.tryMatch config mode' matchId gameId r.clock maxScan).1 = .ok attempt →
          attempt.reservation = some reservation → ¬ reservation.holds guest :=
      fun attempt reservation hok hres hholds => hfree ⟨attempt,reservation,hok,hres,hholds⟩
    have hstep := h.tryMatch hlive hguard hgood hunmatched
    exact ⟨fun ⟨attempt,hok,hmem⟩ => hstep.1 attempt hok hmem,hstep.2⟩
  | finalize reservation => exact ⟨nofun,h.sameAt (Redis.finalize_sameAt hother)⟩
  | rollback reservation durable now =>
    exact ⟨nofun,h.sameAt (Redis.rollback_sameAt hother durable now)⟩
  | sweep mode' now batch =>
    obtain rfl : now = r.clock := hnow now rfl
    obtain rfl : mode' = mode := by cases mode'; cases mode; rfl
    exact h.sweep hlive hgood batch
  | repairCommitted gameId a b =>
    obtain ⟨ha,hb⟩ := not_or.mp hother
    exact ⟨nofun,h.sameAt (Redis.repairCommitted_sameAt ha hb gameId)⟩
  | clearActiveGame other expected =>
    exact ⟨nofun,h.sameAt (Redis.clearActiveGame_sameAt hother expected)⟩
  | refresh other socket now =>
    refine ⟨nofun,?_⟩
    by_cases hguest : guest = other
    · obtain rfl := hguest
      obtain rfl : now = r.clock := hnow now rfl
      have hrefreshed := h.refresh hlive hguard socket
      rwa [← if_pos (c := guest = guest) (t := r.clock + (config.presenceTtlMs : ℤ))
        (e := expiry) rfl] at hrefreshed
    · have hkept : (r.refresh config other socket now).2.Waiting config mode guest since expiry :=
        h.sameAt (Redis.refresh_sameAt hguest socket now)
      rwa [← if_neg (c := guest = other) (t := now + (config.presenceTtlMs : ℤ)) (e := expiry)
        hguest] at hkept
  | remove other socket now => exact ⟨nofun,h.sameAt (Redis.remove_sameAt hother socket now)⟩
  | elapse ms => exact ⟨nofun,h.elapse ms⟩

end Steps

section Runs

variable {config : AppConfig} {guest : GuestSessionId} {mode : MatchMode} {since expiry : Millis}
  {r r' joined : Redis} {op : RedisOperation}

/-- The guest connects, and later joins the queue at `since` with a presence that is good until
`expiry`. -/
def Joined (config : AppConfig) (guest : GuestSessionId) (mode : MatchMode)
    (since expiry : Millis) (joined : Redis) : Prop :=
  ∃ clock history socket before position,
    let r := (matchmakingKeys config).run (.initial clock) history
    let connected := (r.refresh config guest socket r.clock).2
    let waiting := (matchmakingKeys config).run connected before
    Undisturbed config guest connected (r.clock + config.presenceTtlMs) before ∧
      expiry = before.foldl (fun expiry op => op.presenceUntil config guest expiry)
        (r.clock + config.presenceTtlMs) ∧
      waiting.clock < expiry ∧
      waiting.enqueue config guest mode waiting.clock = (.ok ⟨false,position,since⟩,joined)

/-- Whoever joins the queue, keeps up the presence, does nothing else and is not matched keeps the
place, the state and the guard until the wait limit, and is not thrown out. -/
def KeepsPlace (config : AppConfig) : Prop :=
  ∀ guest mode since expiry joined operations, Joined config guest mode since expiry joined →
    Undisturbed config guest joined expiry operations →
    ∀ e ∈ (matchmakingKeys config).events joined operations,
      e.before.clock < since + config.queueMaxWaitMs →
      e.before.queue.score guest = some since ∧ e.before.state guest = some .queued ∧
        e.before.guard guest = some mode ∧ ¬ e.input.discards config e.before guest

namespace Redis

theorem ConnectedUntil.of_connections (h : r.ConnectedUntil guest expiry)
    (hclock : r'.clock = r.clock)
    (hs : ∀ t, r.clock ≤ t → SameConnections t (expiry - 1) r r' guest) :
    r'.ConnectedUntil guest expiry := by
  intro t ht hexpiry
  rw [hclock] at ht
  obtain ⟨connection,hmem,hle⟩ := h t ht hexpiry
  have hsame : SortedSet.removeUpTo _ _ = SortedSet.removeUpTo _ _ := hs t ht
  have hlate : expiry - 1 < connection.2 := Int.sub_one_lt_iff.mpr hle
  have hkept : connection ∈ ((r.presence.sortedSet t guest).removeUpTo (expiry - 1)).rows :=
    Table.mem_deleteWhere.mpr ⟨hmem,by simpa using hlate⟩
  rw [← hsame] at hkept
  exact ⟨connection,(Table.mem_deleteWhere.mp hkept).1,hle⟩

theorem sweep_connections {clock t : Millis} {now : Millis} (hclock : r.clock ≤ clock)
    (ht : now ≤ t) (batch : ℕ) :
    SameConnections clock t r (r.sweep config mode now batch).2 guest := by
  unfold sweep
  generalize r.queue.range.take batch = entries
  generalize hacc : (([],r) : List RemovedQueueGuest × Redis) = acc
  have hstart : acc.2.clock ≤ clock ∧ SameConnections clock t r acc.2 guest := by
    rw [← hacc]
    exact ⟨hclock,rfl⟩
  clear hacc
  induction entries generalizing acc with
  | nil => exact hstart.2
  | cons entry entries ih =>
    refine ih _ ?_
    have hkeys := examine_sameKeys config acc.2 mode now entry.1 entry.2
    have hexamined := examine_connections config mode now guest hstart.1 ht entry.1 entry.2
    have hsame : SameConnections clock t r _ guest := hexamined.trans hstart.2
    have hle := hkeys.clock.le.trans hstart.1
    unfold sweepEntry
    simp only
    generalize acc.2.examine config mode now entry.1 entry.2 = checked at hle hsame ⊢
    obtain ⟨reason,r₁⟩ := checked
    cases reason with
    | none => exact ⟨hle,hsame⟩
    | some reason =>
      simp only
      split_ifs
      · have hidle : (((r₁.zrem entry.1).delGuard entry.1).idleIfQueued config
            entry.1).presence = r₁.presence := by
          unfold idleIfQueued
          split_ifs <;> rfl
        refine ⟨idleIfQueued_clock.le.trans hle,?_⟩
        unfold SameConnections
        rw [hidle]
        exact hsame
      · exact ⟨hle,hsame⟩

theorem tryMatch_connections {clock t : Millis} {now : Millis} (hclock : r.clock ≤ clock)
    (ht : now ≤ t) (matchId : MatchId) (gameId : GameId) (maxScan : ℕ) :
    SameConnections clock t r (r.tryMatch config mode matchId gameId now maxScan).2 guest := by
  by_cases hfree : r.reservation matchId = none
  · have heq := tryMatch_eq config mode now maxScan gameId hfree
    have hvisited : SameConnections clock t r ((r.scanned config mode now maxScan).foldl
        (visit config mode now) r) guest := visits_connections config mode now hclock ht _
    simp only at heq
    rw [heq]
    cases r.eligibleEntries config mode now maxScan with
    | nil => exact hvisited
    | cons a rest => cases rest <;> exact hvisited
  · rw [tryMatch,if_pos (Option.isSome_iff_ne_none.mpr hfree)]
    rfl

theorem ConnectedUntil.execute (h : r.ConnectedUntil guest expiry)
    (hrecent : expiry ≤ r.clock + config.presenceTtlMs) (hlive : r.clock < expiry)
    (hnow : ∀ now ∈ op.now, now = r.clock) (hother : ¬ op.actsFor guest) :
    (r.execute config op).ConnectedUntil guest (op.presenceUntil config guest expiry) ∧
      op.presenceUntil config guest expiry ≤
        (r.execute config op).clock + config.presenceTtlMs := by
  have hlater : expiry ≤ (r.execute config op).clock + config.presenceTtlMs :=
    hrecent.trans (Int.add_le_add_right (clock_execute op) _)
  have hlast : r.clock ≤ expiry - 1 := Int.le_sub_one_iff.mpr hlive
  cases op with
  | enqueue other mode now => exact ⟨h.sameAt (enqueue_sameAt hother now),hlater⟩
  | leave other => exact ⟨h.sameAt (leave_sameAt hother),hlater⟩
  | tryMatch mode matchId gameId now maxScan =>
    obtain rfl : now = r.clock := hnow now rfl
    exact ⟨h.of_connections (tryMatch_clock matchId gameId _ maxScan) fun t ht =>
      tryMatch_connections ht hlast matchId gameId maxScan,hlater⟩
  | finalize reservation => exact ⟨h.sameAt (finalize_sameAt hother),hlater⟩
  | rollback reservation durable now =>
    exact ⟨h.sameAt (rollback_sameAt hother durable now),hlater⟩
  | sweep mode now batch =>
    obtain rfl : now = r.clock := hnow now rfl
    exact ⟨h.of_connections (sweep_clock _ batch) fun t ht => sweep_connections ht hlast batch,
      hlater⟩
  | repairCommitted gameId a b =>
    obtain ⟨ha,hb⟩ := not_or.mp hother
    exact ⟨h.sameAt (repairCommitted_sameAt ha hb gameId),hlater⟩
  | clearActiveGame other expected =>
    exact ⟨h.sameAt (clearActiveGame_sameAt hother expected),hlater⟩
  | refresh other socket now =>
    obtain rfl : now = r.clock := hnow now rfl
    by_cases hguest : guest = other
    · obtain rfl := hguest
      rw [RedisOperation.presenceUntil,if_pos rfl]
      exact ⟨connectedUntil_refresh r guest socket,le_rfl⟩
    · rw [RedisOperation.presenceUntil,if_neg hguest]
      exact ⟨h.sameAt (refresh_sameAt hguest socket r.clock),hlater⟩
  | remove other socket now => exact ⟨h.sameAt (remove_sameAt hother socket now),hlater⟩
  | elapse ms =>
    have hle : r.clock ≤ r.clock + (ms : ℤ) := Int.le.intro ms rfl
    exact ⟨fun t ht => h t (hle.trans ht),hlater⟩

theorem ConnectedUntil.run {operations : List RedisOperation} (h : r.ConnectedUntil guest expiry)
    (hrecent : expiry ≤ r.clock + config.presenceTtlMs)
    (hu : Undisturbed config guest r expiry operations) :
    ((matchmakingKeys config).run r operations).ConnectedUntil guest
        (operations.foldl (fun expiry op => op.presenceUntil config guest expiry) expiry) ∧
      operations.foldl (fun expiry op => op.presenceUntil config guest expiry) expiry ≤
        ((matchmakingKeys config).run r operations).clock + config.presenceTtlMs := by
  induction operations generalizing r expiry with
  | nil => exact ⟨h,hrecent⟩
  | cons op operations ih =>
    obtain ⟨hlive,hnow,hother,-,hrest⟩ := hu
    obtain ⟨hnext,hrecent'⟩ := h.execute hrecent hlive hnow hother
    exact ih hnext hrecent' hrest

theorem clock_le_before {operations : List RedisOperation} {e : Machine.Event Redis RedisOperation
    Unit} (he : e ∈ (matchmakingKeys config).events r operations) : r.clock ≤ e.before.clock := by
  have hstable : (matchmakingKeys config).Stable fun s => r.clock ≤ s.clock :=
    fun s op hs => hs.trans (clock_execute op)
  exact hstable.before le_rfl he

/-- While the guest waits it keeps its place, if the state outlives the wait. -/
theorem Waiting.run {operations : List RedisOperation}
    (h : r.Waiting config mode guest since expiry)
    (hguard : config.presenceTtlMs ≤ config.queueGuardTtlMs)
    (hstate : config.queueMaxWaitMs ≤ config.matchStateTtlMs + 1)
    (hu : Undisturbed config guest r expiry operations) :
    ∀ e ∈ (matchmakingKeys config).events r operations,
      e.before.clock < since + config.queueMaxWaitMs →
      e.before.queue.score guest = some since ∧ e.before.state guest = some .queued ∧
        e.before.guard guest = some mode ∧ ¬ e.input.discards config e.before guest := by
  induction operations generalizing r expiry with
  | nil => simp
  | cons op operations ih =>
    obtain ⟨hlive,hnow,hother,hfree,hrest⟩ := hu
    by_cases hwait : r.clock < since + config.queueMaxWaitMs
    · have hlasts : r.clock ≤ since + config.matchStateTtlMs := by
        have hlimit : since + (config.queueMaxWaitMs : ℤ) ≤ since + config.matchStateTtlMs + 1 := by
          rw [Int.add_assoc]
          exact Int.add_le_add_left (by exact_mod_cast hstate) _
        exact Int.lt_add_one_iff.mp (hwait.trans_le hlimit)
      have hgood := (h.eligible_iff hlive).mpr ⟨hwait,hlasts⟩
      obtain ⟨hkept,hnext⟩ := h.execute hguard hlive hgood hnow hother hfree
      intro e he hbefore
      rcases List.mem_cons.mp he with rfl | he
      · exact ⟨h.score,h.state_iff.mpr hlasts,h.guard r.clock le_rfl hlive,hkept⟩
      · exact ih hnext hrest e he hbefore
    · intro e he hbefore
      exact absurd ((clock_le_before he).trans_lt hbefore) hwait

end Redis

def heartbeats (guest : GuestSessionId) (socket : SocketMember) :
    Millis → ℕ → List RedisOperation
  | _, 0 => []
  | now, n + 1 =>
    .elapse 1 :: .refresh guest socket (now + 1) :: heartbeats guest socket (now + 1) n

theorem Redis.Waiting.heartbeats
    (h : r.Waiting config mode guest since (r.clock + config.presenceTtlMs))
    (hpresence : 2 ≤ config.presenceTtlMs) (hguard : config.presenceTtlMs ≤ config.queueGuardTtlMs)
    (socket : SocketMember) (n : ℕ) :
    let r' := (matchmakingKeys config).run r (heartbeats guest socket r.clock n)
    r'.clock = r.clock + n ∧
      r'.Waiting config mode guest since (r'.clock + config.presenceTtlMs) ∧
      ∀ operations, Undisturbed config guest r' (r'.clock + config.presenceTtlMs) operations →
        Undisturbed config guest r (r.clock + config.presenceTtlMs)
          (CluChess.heartbeats guest socket r.clock n ++ operations) := by
  induction n generalizing r with
  | zero => exact ⟨(Int.add_zero _).symm,h,fun _ hu => hu⟩
  | succ n ih =>
    have htwo : (2 : ℤ) ≤ config.presenceTtlMs := by exact_mod_cast hpresence
    have hlive : r.clock < r.clock + config.presenceTtlMs :=
      Int.lt_add_of_pos_right _ (by omega)
    have hlive' : r.clock + 1 < r.clock + config.presenceTtlMs :=
      Int.add_lt_add_left (by omega) _
    have hbeat := (h.elapse 1).refresh hlive' hguard socket
    obtain ⟨hclock,hwaiting,hrest⟩ := ih (r := (Redis.refresh config
      { r with clock := r.clock + (1 : ℕ) } guest socket (r.clock + (1 : ℕ))).2) hbeat
    refine ⟨hclock.trans ?_,hwaiting,fun operations hu => ?_⟩
    · show r.clock + 1 + (n : ℤ) = r.clock + ((n + 1 : ℕ) : ℤ)
      rw [Int.add_assoc,Int.add_comm 1]
      rfl
    · refine ⟨hlive,nofun,nofun,nofun,hlive',?_,nofun,nofun,?_⟩
      · rintro now ⟨⟩
        rfl
      · have hrefreshed := hrest operations hu
        rw [RedisOperation.presenceUntil,if_pos rfl]
        exact hrefreshed

theorem keepsPlace_of_le (hguard : config.presenceTtlMs ≤ config.queueGuardTtlMs)
    (hstate : config.queueMaxWaitMs ≤ config.matchStateTtlMs + 1) : KeepsPlace config := by
  intro guest mode since expiry joined operations hjoined hu
  obtain ⟨clock,history,socket,before,position,hbefore,rfl,hlive,hjoin⟩ := hjoined
  obtain ⟨hconnected,hrecent⟩ :=
    (Redis.connectedUntil_refresh _ guest socket).run le_rfl hbefore
  obtain ⟨-,-,hwaiting⟩ := Redis.Waiting.of_enqueue hconnected hrecent hguard hjoin
  exact hwaiting.run hguard hstate hu

/-- A guest who joins an empty queue and beats until the state has expired is swept. -/
theorem not_keepsPlace (hpresence : 2 ≤ config.presenceTtlMs)
    (hguard : config.presenceTtlMs ≤ config.queueGuardTtlMs)
    (hshort : config.matchStateTtlMs + 1 < config.queueMaxWaitMs) : ¬ KeepsPlace config := by
  intro hkeeps
  obtain ⟨connected,hconnected⟩ : ∃ connected, connected =
    ((Redis.initial 0).refresh config (sampleId 1) "a:1" 0).2 := ⟨_,rfl⟩
  obtain ⟨joined,hjoined⟩ : ∃ joined, joined =
    (connected.enqueue config (sampleId 1) .blitz connected.clock).2 := ⟨_,rfl⟩
  have hclock : connected.clock = 0 := by rw [hconnected]; rfl
  have hpositive : connected.clock < 0 + (config.presenceTtlMs : ℤ) := by
    rw [hclock]
    exact Int.lt_add_of_pos_right 0 (by omega)
  have henqueue : ∃ position, connected.enqueue config (sampleId 1) .blitz connected.clock =
      (.ok ⟨false,position,0⟩,joined) := by
    rw [hjoined,hconnected]
    exact ⟨_,rfl⟩
  obtain ⟨position,hjoin⟩ := henqueue
  have hjoins : Joined config (sampleId 1) .blitz 0 (0 + (config.presenceTtlMs : ℤ)) joined :=
    ⟨0,[],"a:1",[],position,trivial,rfl,hconnected ▸ hpositive,hconnected ▸ hjoin⟩
  have hsince : connected.ConnectedUntil (sampleId 1) (0 + (config.presenceTtlMs : ℤ)) := by
    rw [hconnected]
    exact Redis.connectedUntil_refresh (Redis.initial 0) (sampleId 1) "a:1"
  obtain ⟨hstart,-,hwaiting⟩ := Redis.Waiting.of_enqueue hsince (by rw [hclock]) hguard hjoin
  rw [hclock] at hstart
  rw [← hstart] at hwaiting hjoins
  obtain ⟨hbeats,hwaits,hrun⟩ := hwaiting.heartbeats hpresence hguard "a:1"
    (config.matchStateTtlMs + 1)
  generalize hr : (matchmakingKeys config).run joined
    (heartbeats (sampleId 1) "a:1" joined.clock (config.matchStateTtlMs + 1)) = r at *
  have hlive : r.clock < r.clock + (config.presenceTtlMs : ℤ) :=
    Int.lt_add_of_pos_right _ (by omega)
  -- the whole queue is swept at the first instant without the state
  have hsweep := hrun [.sweep .blitz r.clock r.queue.range.length]
    ⟨hlive,by rintro now ⟨⟩; rfl,nofun,nofun,trivial⟩
  have hevent := (matchmakingKeys config).event_mem_events joined
    (heartbeats (sampleId 1) "a:1" joined.clock (config.matchStateTtlMs + 1))
    (.sweep .blitz r.clock r.queue.range.length)
  rw [hr] at hevent
  have hlimit : r.clock < joined.clock + (config.queueMaxWaitMs : ℤ) := by
    rw [hbeats]
    exact Int.add_lt_add_left (by exact_mod_cast hshort) _
  refine (hkeeps _ _ _ _ _ _ hjoins hsweep _ hevent hlimit).2.2.2 ?_
  have hexpired : ¬ r.Eligible config .blitz r.clock (sampleId 1,joined.clock) := by
    rw [hwaits.eligible_iff hlive,not_and,not_le,hbeats]
    intro _
    exact Int.add_lt_add_left (by exact_mod_cast Nat.lt_succ_self _) _
  have hmember : (sampleId 1,joined.clock) ∈ r.queue.range.take r.queue.range.length := by
    rw [List.take_length]
    exact SortedSet.mem_range.mpr (SortedSet.score_eq_some.mp hwaits.score)
  rw [← Redis.rejection_eq_none,← Ne,Option.ne_none_iff_exists'] at hexpired
  obtain ⟨reason,hreason⟩ := hexpired
  have hswept := ((Redis.sweep_outcome config .blitz r.clock r _ hmember).1 reason).mpr hreason
  exact List.mem_map.mpr ⟨_,hswept,rfl⟩

end Runs

/-- A waiting guest keeps its place exactly if the state of the guest outlives the longest wait,
which nothing in the configuration ensures. -/
theorem queue_place_kept_iff (environment : AppEnvironment) (h : environment.Accepted) :
    KeepsPlace environment.config ↔
      environment.config.queueMaxWaitMs ≤ environment.config.matchStateTtlMs + 1 := by
  obtain ⟨hinterval,hguard,-⟩ := AppEnvironment.superRefine_eq_nil.mp h.2
  have hshaped : isDuration environment.socketPingIntervalMs 1 := h.1.2 _ (by simp)
  have hpresence : 2 ≤ environment.config.presenceTtlMs := by
    have hone := hshaped.1
    omega
  constructor
  · intro hkeeps
    by_contra hshort
    exact not_keepsPlace hpresence hguard.le (not_le.mp hshort) hkeeps
  · exact keepsPlace_of_le hguard.le

theorem queue_place_kept_default : KeepsPlace sampleEnvironment.config :=
  (queue_place_kept_iff sampleEnvironment (by decide)).mpr (by decide)

/-- The state lives longer than a reservation, and not as long as the wait. -/
def sampleShortState : AppEnvironment :=
  { sampleEnvironment with config := { sampleConfig with matchStateTtlMs := 40000 } }

/-- A guest who joins at 1000 and whose connection is good until 71000 is thrown out at 41001. -/
theorem queue_place_lost :
    sampleShortState.Accepted ∧ ¬ KeepsPlace sampleShortState.config := by
  refine ⟨by decide,fun hkeeps => ?_⟩
  have hjoined : Joined sampleShortState.config (sampleId 1) .blitz 1000 46000
      ((matchmakingKeys sampleShortState.config).run (.initial 1000)
        [.refresh (sampleId 1) "a:1" 1000,.enqueue (sampleId 1) .blitz 1000]) :=
    ⟨1000,[],"a:1",[],1,trivial,rfl,by decide,rfl⟩
  have hstale : (((matchmakingKeys sampleShortState.config).run (.initial 1000)
      [.refresh (sampleId 1) "a:1" 1000,.enqueue (sampleId 1) .blitz 1000,.elapse 25000,
        .refresh (sampleId 1) "a:1" 26000,.elapse 15001]).tryMatch sampleShortState.config .blitz
          (sampleId 20) (sampleId 10) 41001 10).1 = .ok ⟨[⟨sampleId 1,.stale⟩],none⟩ := by decide
  have hwaits : Undisturbed sampleShortState.config (sampleId 1)
      ((matchmakingKeys sampleShortState.config).run (.initial 1000)
        [.refresh (sampleId 1) "a:1" 1000,.enqueue (sampleId 1) .blitz 1000]) 46000
      ([.elapse 25000,.refresh (sampleId 1) "a:1" 26000,.elapse 15001] ++
        [.tryMatch .blitz (sampleId 20) (sampleId 10) 41001 10]) := by
    refine ⟨by decide,nofun,nofun,nofun,by decide,?_,nofun,nofun,by decide,nofun,nofun,nofun,
      by decide,?_,nofun,?_,trivial⟩
    · rintro now ⟨⟩
      rfl
    · rintro now ⟨⟩
      rfl
    · rintro ⟨attempt,reservation,hok,hreservation,-⟩
      obtain rfl := Except.ok.inj (hstale.symm.trans hok)
      cases hreservation
  have hplace := hkeeps _ _ _ _ _ _ hjoined hwaits _
    ((matchmakingKeys sampleShortState.config).event_mem_events _ _ _) (by decide)
  exact hplace.2.2.2 ⟨_,hstale,by simp⟩

end CluChess
