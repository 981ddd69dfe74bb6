import CluChess.MatchedGuests

/-! A script of matchmaking that is sent again after a lost reply. The second run finds what the
first has left and recognises it, so it succeeds and changes nothing. -/
namespace CluChess

namespace Keys

variable {κ α : Type*} [DecidableEq κ] {keys : Keys κ α} {k : κ}

theorem setPx_stored {clock ttl : ℤ} {v : α} (h : keys k = some ⟨v,some (clock + ttl)⟩) :
    keys.setPx clock k v ttl = keys :=
  Function.update_eq_self_iff.mpr h.symm

theorem del_absent (h : keys k = none) : keys.del k = keys := Function.update_eq_self_iff.mpr h.symm

end Keys

namespace Redis

variable (config : AppConfig) {r r' : Redis} {guest other : GuestSessionId}

theorem zrem_absent (h : r.queue.score guest = none) : r.zrem guest = r := by
  have hqueue : r.queue.remove guest = r.queue := SortedSet.rows_remove_of_none h
  simp only [zrem,hqueue]

theorem delGuard_absent (h : r.guards guest = none) : r.delGuard guest = r := by
  simp only [delGuard,Keys.del_absent h]

theorem leave_retry (r : Redis) (guest : GuestSessionId) :
    (r.leave config guest).2.leave config guest = (false,(r.leave config guest).2) := by
  have hleft : ∃ r₁, (r.leave config guest).2 = r₁ ∧ r₁.queue.score guest = none ∧
      r₁.guards guest = none ∧ r₁.state guest ≠ some .queued := by
    refine ⟨_,rfl,?_⟩
    unfold leave idleIfQueued
    simp only
    split_ifs with hqueued
    · have hidle : (((r.zrem guest).delGuard guest).setState guest .idle
          config.matchStateTtlMs).state guest = some .idle := state_setState_self _ _
      exact ⟨SortedSet.score_remove_self,Keys.del_self,by rw [hidle]; decide⟩
    · exact ⟨SortedSet.score_remove_self,Keys.del_self,hqueued⟩
  obtain ⟨r₁,hr₁,hscore,hguard,hstate⟩ := hleft
  rw [hr₁]
  unfold leave idleIfQueued
  simp only [hscore,Option.isSome_none,zrem_absent hscore,delGuard_absent hguard,hstate,if_false]

theorem finalize_retry {reservation : MatchReservation} {duplicate : Bool}
    (h : r.finalize config reservation = (.ok duplicate,r')) :
    r'.finalize config reservation = (.ok true,r') := by
  have hfinal : r'.reservation reservation.matchId = none ∧
      r'.activeGames reservation.a = some reservation.gameId ∧
      r'.activeGames reservation.b = some reservation.gameId := by
    unfold finalize at h
    cases hr : r.reservation reservation.matchId with
    | none =>
      simp only [hr] at h
      split_ifs at h with hactive
      · cases h
        exact ⟨hr,hactive⟩
      · cases h
    | some values =>
      simp only [hr] at h
      split_ifs at h
      · cases h
        refine ⟨Keys.get_del_self,?_,Function.update_self ..⟩
        by_cases hab : reservation.a = reservation.b
        · simp [hab]
        · simp [hab]
      · cases h
  obtain ⟨hgone,hactive⟩ := hfinal
  unfold finalize
  simp only [hgone,hactive,and_self,if_true]

section Repair

/-- The keys of a guest are those that `setInGame` sets. -/
structure HeldBy (r : Redis) (guest : GuestSessionId) (gameId : GameId) : Prop where
  state : r.states guest = some ⟨.inGame,some (r.clock + config.matchStateTtlMs)⟩
  activeGame : r.activeGames guest = some gameId

theorem setInGame_held {gameId : GameId} (h : HeldBy config r guest gameId) :
    r.setInGame config guest gameId = r := by
  have hactive : Function.update r.activeGames guest (some gameId) = r.activeGames :=
    Function.update_eq_self_iff.mpr h.activeGame.symm
  simp only [setInGame,setState,setActiveGame,Keys.setPx_stored h.state,hactive]

theorem HeldBy.of_setInGame (r : Redis) (guest : GuestSessionId) (gameId : GameId) :
    HeldBy config (r.setInGame config guest gameId) guest gameId :=
  ⟨Keys.setPx_self _,Function.update_self ..⟩

theorem HeldBy.setInGame {gameId : GameId} (h : HeldBy config r other gameId)
    (guest : GuestSessionId) : HeldBy config (r.setInGame config guest gameId) other gameId := by
  by_cases hg : other = guest
  · exact hg ▸ HeldBy.of_setInGame config r guest gameId
  · exact ⟨(Keys.setPx_of_ne hg _).trans h.state,(Function.update_of_ne hg ..).trans h.activeGame⟩

theorem HeldBy.inGame {gameId : GameId} (h : HeldBy config r guest gameId) :
    r.state guest = some .inGame := by
  have hlive : r.clock ≤ r.clock + config.matchStateTtlMs :=
    Int.le_add_of_nonneg_right (Int.natCast_nonneg _)
  exact Keys.get_eq_some.mpr ⟨_,h.state,decide_eq_true hlive,rfl⟩

theorem repairCommitted_retry {gameId : GameId} {a b : GuestSessionId} {changed : Bool}
    (h : r.repairCommitted config gameId a b = (.ok changed,r')) :
    r'.repairCommitted config gameId a b = (.ok false,r') := by
  unfold repairCommitted at h
  split_ifs at h
  · cases h
  obtain ⟨-,hr'⟩ := Prod.mk.inj h
  have hheld : HeldBy config r' a gameId ∧ HeldBy config r' b gameId := by
    have hb := HeldBy.of_setInGame config (r.setInGame config a gameId) b gameId
    have ha := (HeldBy.of_setInGame config r a gameId).setInGame config b
    rw [← hr']
    exact ⟨⟨ha.state,ha.activeGame⟩,⟨hb.state,hb.activeGame⟩⟩
  have hqueue : r'.queue.score a = none ∧ r'.queue.score b = none := by
    rw [← hr']
    simp only [delGuard,zrem,SortedSet.score_remove]
    exact ⟨by split_ifs <;> rfl,by simp⟩
  have hguard : r'.guards a = none ∧ r'.guards b = none := by
    rw [← hr']
    refine ⟨?_,Keys.del_self⟩
    by_cases hab : a = b
    · simp [hab]
    · simp [hab]
  obtain ⟨ha,hb⟩ := hheld
  unfold repairCommitted
  simp only [ha.activeGame,hb.activeGame,ha.inGame,hb.inGame,setInGame_held config ha,
    setInGame_held config hb,zrem_absent hqueue.1,zrem_absent hqueue.2,delGuard_absent hguard.1,
    delGuard_absent hguard.2]
  simp

end Repair

section Rollback

theorem guard_setGuard_self (mode : MatchMode) (ttl : ℕ) :
    (r.setGuard guest mode ttl).guard guest = some mode :=
  Keys.get_setPx_now (Int.natCast_nonneg ttl)

theorem isSettled_of_inGame {gameId : GameId} {mode : MatchMode}
    (ha : r.activeGames guest = some gameId) (hs : r.state guest = some .inGame) :
    r.isSettled mode guest (some gameId) = true := decide_eq_true ⟨ha,hs⟩

theorem isSettled_of_queued {mode : MatchMode} (hq : (r.queue.score guest).isSome = true)
    (hs : r.state guest = some .queued) (hg : r.guard guest = some mode) :
    r.isSettled mode guest none = true := decide_eq_true (Or.inl ⟨hq,hs,hg⟩)

theorem isSettled_of_idle {mode : MatchMode} (hq : r.queue.score guest = none)
    (ha : r.activeGames guest = none) (hs : r.state guest = some .idle) :
    r.isSettled mode guest none = true :=
  decide_eq_true (Or.inr ⟨hq,ha,by rw [hs]; decide⟩)

theorem isSettled_congr (h : SameGuest r r' guest) (hg : r'.guard guest = r.guard guest)
    (mode : MatchMode) (assignment : Option GameId) :
    r'.isSettled mode guest assignment = r.isSettled mode guest assignment := by
  unfold isSettled
  rw [h.queue,h.state,h.activeGames,hg]

/-- The restore of a guest leaves the guards of the others. -/
theorem guard_restore_of_ne (h : other ≠ guest) (mode : MatchMode) (now score : Millis)
    (durable : GuestMatchEligibility) :
    (r.restore config mode now guest score durable).2.guard other = r.guard other := by
  have hdel : ∀ r : Redis, (r.delGuard guest).guard other = r.guard other :=
    fun r => Keys.get_del_of_ne h
  cases hd : durable.activeGameId with
  | some gameId =>
    simp only [restore,hd]
    exact hdel r
  | none =>
    simp only [restore,hd]
    have hkept : (if durable.eligible then (r.delActiveGame guest).isPresent guest now
        else (false,r.delActiveGame guest)).2.guard other = r.guard other := by
      split_ifs <;> rfl
    generalize (if durable.eligible = true then (r.delActiveGame guest).isPresent guest now
      else (false,r.delActiveGame guest)) = checked at hkept ⊢
    obtain ⟨present,r₁⟩ := checked
    cases present with
    | false =>
      simp only [Bool.false_eq_true,if_false]
      exact (hdel r₁).trans hkept
    | true =>
      have hadded : (if (r₁.queue.score guest).all fun current => score < current then
          r₁.zadd guest score else r₁).guard other = r₁.guard other := by
        split_ifs <;> rfl
      exact ((Keys.get_setPx_of_ne h _).trans hadded).trans hkept

/-- A restored guest is settled: in the game that PostgreSQL names, in the queue, or idle. -/
theorem restore_settled (r : Redis) (mode : MatchMode) (now : Millis) (guest : GuestSessionId)
    (score : Millis) (durable : GuestMatchEligibility) :
    (r.restore config mode now guest score durable).2.isSettled mode guest
      durable.activeGameId = true := by
  cases hd : durable.activeGameId with
  | some gameId =>
    simp only [restore,hd]
    exact isSettled_of_inGame (Function.update_self ..)
      (state_setState_self .inGame config.matchStateTtlMs)
  | none =>
    simp only [restore,hd]
    have hactive : (if durable.eligible then (r.delActiveGame guest).isPresent guest now
        else (false,r.delActiveGame guest)).2.activeGames guest = none := by
      split_ifs <;> exact Function.update_self ..
    generalize (if durable.eligible = true then (r.delActiveGame guest).isPresent guest now
      else (false,r.delActiveGame guest)) = checked at hactive ⊢
    obtain ⟨present,r₁⟩ := checked
    cases present with
    | false =>
      simp only [Bool.false_eq_true,if_false]
      exact isSettled_of_idle SortedSet.score_remove_self hactive
        (state_setState_self .idle config.matchStateTtlMs)
    | true =>
      simp only [if_true]
      have hscore : ((if (r₁.queue.score guest).all fun current => score < current then
          r₁.zadd guest score else r₁).queue.score guest).isSome = true := by
        cases hs : r₁.queue.score guest with
        | none => simp [SortedSet.score_add]
        | some current => split_ifs <;> simp [SortedSet.score_add,hs]
      generalize (if (r₁.queue.score guest).all fun current => score < current then
        r₁.zadd guest score else r₁) = r₂ at hscore ⊢
      exact isSettled_of_queued hscore (state_setState_self .queued config.matchStateTtlMs)
        (guard_setGuard_self mode config.queueGuardTtlMs)

theorem rollback_retry {reservation : MatchReservation} (hab : reservation.a ≠ reservation.b)
    {durable : DurableGuests} {now : Millis} {requeued : List RequeuedGuest}
    (h : r.rollback config reservation durable now = (.ok requeued,r')) :
    r'.rollback config reservation durable now = (.ok [],r') := by
  have hfinal : r'.reservation reservation.matchId = none ∧
      r'.isSettled reservation.mode reservation.a durable.a.activeGameId = true ∧
      r'.isSettled reservation.mode reservation.b durable.b.activeGameId = true := by
    unfold rollback at h
    cases hr : r.reservation reservation.matchId with
    | none =>
      simp only [hr] at h
      split_ifs at h with hsettled
      · cases h
        exact ⟨hr,hsettled⟩
      · cases h
    | some values =>
      simp only [hr] at h
      split_ifs at h
      · obtain ⟨-,hr'⟩ := Prod.mk.inj h
        have ha := restore_settled config r reservation.mode now reservation.a
          reservation.aScore durable.a
        generalize (r.restore config reservation.mode now reservation.a reservation.aScore
          durable.a).2 = r₁ at ha hr'
        have hb := restore_settled config r₁ reservation.mode now reservation.b
          reservation.bScore durable.b
        have hkept : (r₁.restore config reservation.mode now reservation.b reservation.bScore
            durable.b).2.isSettled reservation.mode reservation.a durable.a.activeGameId = true :=
          (isSettled_congr (sameGuest_restore hab _ _ _ _)
            (guard_restore_of_ne config hab _ _ _ _) _ _).trans ha
        subst hr'
        exact ⟨Keys.get_del_self,hkept,hb⟩
      · cases h
  obtain ⟨hgone,ha,hb⟩ := hfinal
  unfold rollback
  simp only [hgone,ha,hb,and_self,if_true]

end Rollback

/-- A call of one of the four scripts that has succeeded is repeated at once. The second call
succeeds, says that there was nothing left to do and leaves every key as it is. -/
theorem script_retries_harmless (r r' : Redis) :
    (∀ reservation duplicate, reservation.a ≠ reservation.b →
      r.finalize config reservation = (.ok duplicate,r') →
      r'.finalize config reservation = (.ok true,r')) ∧
    (∀ reservation durable now requeued, reservation.a ≠ reservation.b →
      r.rollback config reservation durable now = (.ok requeued,r') →
      r'.rollback config reservation durable now = (.ok [],r')) ∧
    (∀ gameId a b changed, a ≠ b → r.repairCommitted config gameId a b = (.ok changed,r') →
      r'.repairCommitted config gameId a b = (.ok false,r')) ∧
    ∀ guest left, r.leave config guest = (left,r') → r'.leave config guest = (false,r') := by
  refine ⟨?_,?_,?_,?_⟩
  · intro reservation duplicate _ h
    exact finalize_retry config h
  · intro reservation durable now requeued hab h
    exact rollback_retry config hab h
  · intro gameId a b changed _ h
    exact repairCommitted_retry config h
  · intro guest left h
    have hretry := leave_retry config r guest
    rw [h] at hretry
    exact hretry

end Redis

/-- A finalized match, a match that is rolled back, a repaired pair and a guest who has left. -/
theorem script_retries_harmless_sample :
    sampleFinalized.redis.finalize sampleConfig sampleReservation =
      (.ok true,sampleFinalized.redis) ∧
    (sampleReserved.redis.rollback sampleConfig sampleReservation sampleEligible 3000).2.rollback
        sampleConfig sampleReservation sampleEligible 3000 =
      (.ok [],(sampleReserved.redis.rollback sampleConfig sampleReservation sampleEligible
        3000).2) ∧
    (sampleReserved.redis.repairCommitted sampleConfig (sampleId 10) (sampleId 1)
        (sampleId 2)).2.repairCommitted sampleConfig (sampleId 10) (sampleId 1) (sampleId 2) =
      (.ok false,(sampleReserved.redis.repairCommitted sampleConfig (sampleId 10) (sampleId 1)
        (sampleId 2)).2) ∧
    (sampleQueued.redis.leave sampleConfig (sampleId 1)).2.leave sampleConfig (sampleId 1) =
      (false,(sampleQueued.redis.leave sampleConfig (sampleId 1)).2) := by
  have hguests : sampleReservation.a ≠ sampleReservation.b := by decide
  refine ⟨?_,?_,?_,?_⟩
  · exact (Redis.script_retries_harmless sampleConfig sampleAllocated.redis _).1
      sampleReservation false hguests (Prod.ext (by decide) rfl)
  · exact (Redis.script_retries_harmless sampleConfig sampleReserved.redis _).2.1
      sampleReservation sampleEligible 3000 [⟨sampleId 1,1000⟩,⟨sampleId 2,2000⟩] hguests
      (Prod.ext (by decide) rfl)
  · exact (Redis.script_retries_harmless sampleConfig sampleReserved.redis _).2.2.1
      (sampleId 10) (sampleId 1) (sampleId 2) true hguests (Prod.ext (by decide) rfl)
  · exact (Redis.script_retries_harmless sampleConfig sampleQueued.redis _).2.2.2
      (sampleId 1) true (Prod.ext (by decide) rfl)
end CluChess
