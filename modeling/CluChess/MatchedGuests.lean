import CluChess.ActiveGameKeys

/-! The guests of a reservation. Whatever happens between the pop from the queue and the end of
`processReservation`, each of them is accounted for: in a game, back in the queue, out of the
way, or left as he is by a rollback that came after the reservation had expired. -/
namespace CluChess

namespace Redis

section Restore

variable {config : AppConfig} {r r' : Redis} {guest other : GuestSessionId}

theorem state_setState_self (v : MatchState) (ttl : ℕ) :
    (r.setState guest v ttl).state guest = some v := Keys.get_setPx_now (Int.natCast_nonneg ttl)

theorem state_setState_of_ne (h : other ≠ guest) (v : MatchState) (ttl : ℤ) :
    (r.setState guest v ttl).state other = r.state other := Keys.get_setPx_of_ne h ttl

/-- What the matchmaking of a guest depends on is the same. -/
structure SameGuest (r r' : Redis) (guest : GuestSessionId) : Prop where
  queue : r'.queue.score guest = r.queue.score guest
  state : r'.state guest = r.state guest
  activeGames : r'.activeGames guest = r.activeGames guest
  present : r'.Present guest ↔ r.Present guest

theorem SameGuest.trans {r'' : Redis} (h : SameGuest r r' guest) (h' : SameGuest r' r'' guest) :
    SameGuest r r'' guest :=
  ⟨h'.queue.trans h.queue,h'.state.trans h.state,h'.activeGames.trans h.activeGames,
    h'.present.trans h.present⟩

theorem not_present_of_isPresent {now : Millis} (h : (r.isPresent guest now).1 = false) :
    ¬ (r.isPresent guest now).2.Present guest := by
  have hcard : ¬ ((r.prune guest now).members guest).card > 0 := of_decide_eq_false h
  exact hcard

theorem sameGuest_isPresent (h : other ≠ guest) (now : Millis) :
    SameGuest r (r.isPresent guest now).2 other := by
  refine ⟨rfl,rfl,rfl,?_⟩
  have hmembers : (r.prune guest now).members other = r.members other := members_prune_of_ne h
  show 0 < ((r.prune guest now).members other).card ↔ 0 < (r.members other).card
  rw [hmembers]

inductive Restored (r' : Redis) (guest : GuestSessionId) (score : Millis)
    (durable : GuestMatchEligibility) (requeued : List RequeuedGuest) : Prop
  | assigned {gameId : GameId} (hd : durable.activeGameId = some gameId)
      (ha : r'.activeGames guest = some gameId) (hs : r'.state guest = some .inGame)
  | ineligible (hd : durable.eligible = false)
  | absent (hp : ¬ r'.Present guest)
  | requeued (hr : ⟨guest,score⟩ ∈ requeued) (hq : r'.queue.score guest ≠ none)
      (hs : r'.state guest = some .queued)

theorem restore_restored (config : AppConfig) (r : Redis) (mode : MatchMode) (now : Millis)
    (guest : GuestSessionId) (score : Millis) (durable : GuestMatchEligibility) :
    Restored (r.restore config mode now guest score durable).2
      guest score durable (r.restore config mode now guest score durable).1 := by
  cases hd : durable.activeGameId with
  | some gameId =>
    refine Restored.assigned hd ?_ ?_
    · simp [restore,hd]
    · simp only [restore,hd]
      exact state_setState_self .inGame config.matchStateTtlMs
  | none =>
    by_cases he : durable.eligible = true
    · cases hp : ((r.delActiveGame guest).isPresent guest now).1 with
      | false =>
        refine .absent ?_
        have habsent := not_present_of_isPresent hp
        simp only [restore,hd,he,if_true,hp,Bool.false_eq_true,if_false]
        exact habsent
      | true =>
        have hqueue : ∀ s : SortedSet GuestSessionId,
            (if (s.score guest).all fun current => score < current then s.add guest score
              else s).score guest ≠ none := by
          intro s
          split_ifs with hall
          · simp [SortedSet.score_add]
          · intro hnone
            simp [hnone] at hall
        refine .requeued ?_ ?_ ?_
        · simp only [restore,hd,he,if_true,hp]
          exact List.mem_singleton_self _
        · have hscore := hqueue ((r.delActiveGame guest).isPresent guest now).2.queue
          simp only [restore,hd,he,if_true,hp]
          split_ifs at hscore ⊢ <;> exact hscore
        · simp only [restore,hd,he,if_true,hp]
          exact state_setState_self .queued config.matchStateTtlMs
    · exact .ineligible (by simpa using he)

theorem sameGuest_restore (h : other ≠ guest) (mode : MatchMode) (now score : Millis)
    (durable : GuestMatchEligibility) :
    SameGuest r (r.restore config mode now guest score durable).2 other := by
  cases hd : durable.activeGameId with
  | some gameId =>
    refine ⟨?_,?_,?_,?_⟩
    · simp only [restore,hd]
      exact SortedSet.score_remove_of_ne h
    · simp only [restore,hd]
      exact state_setState_of_ne h .inGame config.matchStateTtlMs
    · simp only [restore,hd]
      exact Function.update_of_ne h _ _
    · simp only [restore,hd]
      exact Iff.rfl
  | none =>
    have hdel : SameGuest r (r.delActiveGame guest) other :=
      ⟨rfl,rfl,Function.update_of_ne h _ _,Iff.rfl⟩
    have hcheck := hdel.trans (sameGuest_isPresent h now)
    have hkept : SameGuest r (if durable.eligible then (r.delActiveGame guest).isPresent guest now
        else (false,r.delActiveGame guest)).2 other := by
      split_ifs
      · exact hcheck
      · exact hdel
    simp only [restore,hd]
    generalize (if durable.eligible = true then (r.delActiveGame guest).isPresent guest now
      else (false,r.delActiveGame guest)) = checked at hkept ⊢
    obtain ⟨present,r₁⟩ := checked
    refine hkept.trans ?_
    cases present with
    | false =>
      simp only [Bool.false_eq_true,if_false]
      exact ⟨SortedSet.score_remove_of_ne h,state_setState_of_ne h .idle config.matchStateTtlMs,rfl,
        Iff.rfl⟩
    | true =>
      have hadded : SameGuest r₁ (if (r₁.queue.score guest).all fun current => score < current then
          r₁.zadd guest score else r₁) other := by
        split_ifs
        · exact ⟨SortedSet.score_add_of_ne h score,rfl,rfl,Iff.rfl⟩
        · exact ⟨rfl,rfl,rfl,Iff.rfl⟩
      refine hadded.trans ?_
      exact ⟨rfl,state_setState_of_ne h .queued config.matchStateTtlMs,rfl,Iff.rfl⟩

theorem Restored.keep {score : Millis} {durable : GuestMatchEligibility}
    {requeued requeued' : List RequeuedGuest} (h : Restored r guest score durable requeued)
    (hk : SameGuest r r' guest) (hsub : requeued ⊆ requeued') :
    Restored r' guest score durable requeued' := by
  cases h with
  | assigned hd ha hs => exact .assigned hd (hk.activeGames.trans ha) (hk.state.trans hs)
  | ineligible hd => exact .ineligible hd
  | absent hp => exact .absent fun hp' => hp (hk.present.mp hp')
  | requeued hr hq hs => exact .requeued (hsub hr) (hk.queue ▸ hq) (hk.state.trans hs)

/-- How a rollback that succeeds has left a guest: as he was, because the reservation had gone
and the guest was settled, or restored to what PostgreSQL says of him. -/
theorem rollback_accounted {reservation : MatchReservation} {durable : DurableGuests}
    {now : Millis} {requeued : List RequeuedGuest}
    (h : r.rollback config reservation durable now = (.ok requeued,r')) :
    ∀ guest ∈ [reservation.a,reservation.b], ∃ eligibility score,
      ((guest = reservation.a ∧ eligibility = durable.a) ∨
        (guest = reservation.b ∧ eligibility = durable.b)) ∧
      ((r.reservation reservation.matchId = none ∧ r' = r ∧
          r.isSettled reservation.mode guest eligibility.activeGameId = true) ∨
        Restored r' guest score eligibility requeued) := by
  unfold rollback at h
  cases hr : r.reservation reservation.matchId with
  | none =>
    simp only [hr] at h
    split_ifs at h with hsettled
    · have hkept : r = r' := congrArg Prod.snd h
      intro guest hg
      simp only [List.mem_cons,List.not_mem_nil,or_false] at hg
      rcases hg with rfl | rfl
      · exact ⟨durable.a,0,Or.inl ⟨rfl,rfl⟩,Or.inl ⟨rfl,hkept.symm,hsettled.1⟩⟩
      · exact ⟨durable.b,0,Or.inr ⟨rfl,rfl⟩,Or.inl ⟨rfl,hkept.symm,hsettled.2⟩⟩
    · cases h
  | some values =>
    simp only [hr] at h
    split_ifs at h with howns
    · have hfirst := restore_restored config r reservation.mode now reservation.a reservation.aScore
        durable.a
      generalize restore config r reservation.mode now reservation.a reservation.aScore durable.a = a
        at h hfirst
      have hsecond := restore_restored config a.2 reservation.mode now reservation.b
        reservation.bScore durable.b
      have hframe : reservation.a ≠ reservation.b → SameGuest a.2
          (a.2.restore config reservation.mode now reservation.b reservation.bScore durable.b).2
          reservation.a := fun hne => sameGuest_restore hne _ _ _ _
      generalize restore config a.2 reservation.mode now reservation.b reservation.bScore durable.b =
        b at h hsecond hframe
      obtain ⟨hrequeued,hr'⟩ := Prod.mk.inj h
      cases hrequeued
      subst hr'
      have hdel : ∀ guest, SameGuest b.2 (b.2.delReservation reservation.matchId) guest :=
        fun _ => ⟨rfl,rfl,rfl,Iff.rfl⟩
      have hb := hsecond.keep (hdel reservation.b) (List.subset_append_right a.1 b.1)
      intro guest hg
      by_cases he : guest = reservation.b
      · subst he
        exact ⟨durable.b,_,Or.inr ⟨rfl,rfl⟩,Or.inr hb⟩
      · have ha : guest = reservation.a := by simpa [he] using hg
        subst ha
        exact ⟨durable.a,_,Or.inl ⟨rfl,rfl⟩,Or.inr
          (hfirst.keep ((hframe he).trans (hdel _)) (List.subset_append_left a.1 b.1))⟩
    · cases h

end Restore

end Redis

namespace ServiceTask

def observed : ServiceTask → Option Millis
  | .allocate _ observedAt | .finalize _ observedAt _ _ | .repair _ observedAt _ _
  | .recover _ observedAt _ | .rollback _ observedAt _ => some observedAt
  | _ => none

/-- The task has read what PostgreSQL says of the guest at the instant. -/
def HasRead (x : GuestSessionId × Millis × GuestMatchEligibility) : ServiceTask → Prop
  | .recover reservation observedAt reads => x.2.1 = observedAt ∧
    ((x.1 = reservation.a ∧ reads.a = some x.2.2) ∨
      (x.1 = reservation.b ∧ reads.b = some x.2.2))
  | .rollback reservation observedAt durable => x.2.1 = observedAt ∧
    ((x.1 = reservation.a ∧ durable.a = x.2.2) ∨ (x.1 = reservation.b ∧ durable.b = x.2.2))
  | _ => False

def Seated : ServiceTask → Prop
  | .finalize reservation _ allocation _ | .repair reservation _ allocation _ =>
    [reservation.a,reservation.b].Perm allocation.guests
  | _ => True

variable {chess : ChessEngine} {config : AppConfig} {s s' : Stores} {t : ServiceTask}
  {new : Multiset ServiceTask}

theorem hasRead_recovered {reservation : MatchReservation} {observedAt : Millis}
    {existing : Option GameAllocation} {durable : DurableGuests}
    {x : GuestSessionId × Millis × GuestMatchEligibility}
    (h : (ServiceTask.recovered reservation observedAt existing durable).HasRead x) :
    (recover reservation observedAt ⟨some existing,some durable.a,some durable.b⟩).HasRead x := by
  have hrollback : (ServiceTask.rollback reservation observedAt durable).HasRead x →
      (recover reservation observedAt ⟨some existing,some durable.a,some durable.b⟩).HasRead x :=
    fun hx => by simpa [HasRead] using hx
  unfold ServiceTask.recovered at h
  cases existing with
  | none => exact hrollback h
  | some allocation =>
    simp only at h
    split_ifs at h
    · exact absurd h id
    · exact hrollback h

theorem Step.hasRead (h : t.Step chess config s s' new)
    {x : GuestSessionId × Millis × GuestMatchEligibility} {t' : ServiceTask} (ht : t' ∈ new)
    (hx : t'.HasRead x) : t.HasRead x ∨ s.db.getGuestMatchEligibility x.1 x.2.1 = x.2.2 := by
  cases h with
  | readExisting _ _ =>
    rw [Multiset.mem_singleton.mp ht] at hx
    exact Or.inl hx
  | @readA _ reservation observedAt reads hr =>
    rw [Multiset.mem_singleton.mp ht] at hx
    obtain ⟨hat,hx | hx⟩ := hx
    · right
      rw [hx.1,hat]
      exact Option.some.inj hx.2
    · exact Or.inl ⟨hat,Or.inr hx⟩
  | @readB _ reservation observedAt reads hr =>
    rw [Multiset.mem_singleton.mp ht] at hx
    obtain ⟨hat,hx | hx⟩ := hx
    · exact Or.inl ⟨hat,Or.inl hx⟩
    · right
      rw [hx.1,hat]
      exact Option.some.inj hx.2
  | recovered =>
    rw [Multiset.mem_singleton.mp ht] at hx
    exact Or.inl (hasRead_recovered hx)
  | @repairFailed _ reservation observedAt allocation recovering _ h =>
    cases recovering with
    | true => exact absurd ht (Multiset.notMem_zero t')
    | false =>
      rw [Multiset.mem_singleton.mp ht] at hx
      obtain ⟨_,⟨_,hx⟩ | ⟨_,hx⟩⟩ := hx
      · cases hx
      · cases hx
  | allocateFailed _ =>
    rw [Multiset.mem_singleton.mp ht] at hx
    obtain ⟨_,⟨_,hx⟩ | ⟨_,hx⟩⟩ := hx
    · cases hx
    · cases hx
  | pipelined =>
    obtain ⟨guest,_,rfl⟩ := List.mem_map.mp (Multiset.mem_coe.mp ht)
    exact absurd hx id
  | allocated _ _ | finalized _ | finalizeMismatch _ | finalizeUnavailable _ | repaired _
  | rolledBack _ | repairedActive _ | command =>
    rw [Multiset.mem_singleton.mp ht] at hx
    exact absurd hx id
  | readFailed | rollbackFailed _ | delivered | reconciled | repairActiveFailed _ | cleared =>
    exact absurd ht (Multiset.notMem_zero t')

theorem Step.seated (h : t.Step chess config s s' new) (hs : s.db.Sound) (ht : t.Seated) :
    ∀ t' ∈ new, t'.Seated := by
  have hs' := h.change.sound hs
  intro t' ht'
  cases h with
  | @allocated _ reservation observedAt firstGuestIsWhite input allocation db hi h =>
    rw [Multiset.mem_singleton.mp ht']
    have hdb : (s.db.allocate input).2 = db := congrArg Prod.snd h
    obtain ⟨g,_,_,hguests,_,hmatch⟩ := allocate_answer (hdb ▸ hs') (congrArg Prod.fst h)
    have hperm := (allocationInput_ok hi).2.2
    exact hperm.symm.trans (hguests ▸ hmatch)
  | finalizeMismatch _ =>
    rw [Multiset.mem_singleton.mp ht']
    exact ht
  | @recovered _ reservation observedAt existing durable =>
    rw [Multiset.mem_singleton.mp ht']
    unfold ServiceTask.recovered
    cases existing with
    | none => trivial
    | some allocation =>
      simp only
      split_ifs with hm
      · exact (allocation.matchesReservation_ok hm).2
      · trivial
  | @repairFailed _ reservation observedAt allocation recovering _ h =>
    cases recovering with
    | true => exact absurd ht' (Multiset.notMem_zero t')
    | false =>
      rw [Multiset.mem_singleton.mp ht']
      trivial
  | pipelined =>
    obtain ⟨guest,_,rfl⟩ := List.mem_map.mp (Multiset.mem_coe.mp ht')
    trivial
  | allocateFailed _ | finalized _ | finalizeUnavailable _ | repaired _ | readExisting _ _
  | readA _ | readB _ | rolledBack _ | repairedActive _ | command =>
    rw [Multiset.mem_singleton.mp ht']
    trivial
  | readFailed | rollbackFailed _ | delivered | reconciled | repairActiveFailed _ | cleared =>
    exact absurd ht' (Multiset.notMem_zero t')

end ServiceTask

variable {chess : ChessEngine} {config : AppConfig} {s₀ s s' : Stores} {t : ServiceTask}
  {pool : Multiset ServiceTask} {reservation : MatchReservation} {effects : MatchmakingEffects}
  {guest : GuestSessionId}

theorem ServiceEvent.fresh {new : Multiset ServiceTask} (h : ServiceEvent chess config s s' new) :
    ∀ t ∈ new, t.Seated ∧ ∀ x, ¬ t.HasRead x := by
  intro t ht
  cases h with
  | @operation op =>
    unfold afterTerminal at ht
    split at ht
    · exact absurd ht (Multiset.notMem_zero t)
    · rw [Multiset.mem_singleton.mp ht]
      exact ⟨trivial,fun _ => id⟩
  | command _ => exact absurd ht (Multiset.notMem_zero t)
  | attemptMatch _ =>
    obtain ⟨reservation,_,rfl⟩ := List.mem_map.mp (Multiset.mem_coe.mp ht)
    exact ⟨trivial,fun _ => id⟩
  | readSnapshot _ =>
    rw [Multiset.mem_singleton.mp ht]
    unfold restoreSnapshot
    split_ifs <;> exact ⟨trivial,fun _ => id⟩
  | listReservations _ | listActive _ =>
    rw [Multiset.mem_singleton.mp ht]
    exact ⟨trivial,fun _ => id⟩

/-- The database was like this at some moment of the run. -/
def HeldDuring (chess : ChessEngine) (config : AppConfig) (c c' : Stores × Multiset ServiceTask)
    (P : Db → Prop) : Prop :=
  ∃ m, (matchmaking chess config).Run System.anyTime c m ∧
    (matchmaking chess config).Run System.anyTime m c' ∧ P m.1.db

/-- What has become of a guest when `processReservation` returns `effects` after the last step
of the task `t`, which was reached from `c₀` and found Redis as `r` and left it as `r'`. -/
inductive Accounted (chess : ChessEngine) (config : AppConfig) (c₀ c : Stores × Multiset ServiceTask)
    (t : ServiceTask) (r r' : Redis) (reservation : MatchReservation) (effects : MatchmakingEffects)
    (guest : GuestSessionId) : Prop
  | allocated {allocation : GameAllocation} (ha : allocation ∈ effects.allocations)
      (hg : guest ∈ allocation.guests)
  | requeued {since : Millis} (hr : ⟨guest,since⟩ ∈ effects.requeued)
      (hq : r'.queue.score guest ≠ none) (hs : r'.state guest = some .queued)
  | assigned {gameId : GameId}
      (hd : HeldDuring chess config c₀ c fun db => db.assignedGame guest = some gameId)
      (ha : r'.activeGames guest = some gameId) (hs : r'.state guest = some .inGame)
  | ineligible {observedAt : Millis} (ho : t.observed = some observedAt)
      (hd : HeldDuring chess config c₀ c fun db =>
        (db.getGuestMatchEligibility guest observedAt).eligible = false)
  | absent (hp : ¬ r'.Present guest)
  | settled (hr : r.reservation reservation.matchId = none)
      (hs : r'.isSettled reservation.mode guest none = true)

theorem GuestMatchEligibility.assigned {db : Db} {observedAt : Millis} {gameId : GameId}
    (h : (db.getGuestMatchEligibility guest observedAt).activeGameId = some gameId) :
    db.assignedGame guest = some gameId := by
  obtain ⟨g,hg,ha⟩ := Option.bind_eq_some_iff.mp h
  rwa [Table.find_key hg] at ha

/-- The last step of a recovery that has read what PostgreSQL says of the guests. -/
theorem rolledBack_accounted {c₀ c : Stores × Multiset ServiceTask} {observedAt : Millis}
    {durable : DurableGuests} {requeued : List RequeuedGuest} {r r' : Redis}
    (hread : ∀ x, (ServiceTask.rollback reservation observedAt durable).HasRead x →
      HeldDuring chess config c₀ c fun db => db.getGuestMatchEligibility x.1 x.2.1 = x.2.2)
    (h : r.rollback config reservation durable observedAt = (.ok requeued,r'))
    (hg : guest ∈ [reservation.a,reservation.b]) :
    Accounted chess config c₀ c (.rollback reservation observedAt durable) r r' reservation
      ⟨[],[],requeued⟩ guest := by
  obtain ⟨eligibility,score,hmem,hresult⟩ := Redis.rollback_accounted h guest hg
  have hseen : (ServiceTask.rollback reservation observedAt durable).HasRead
      (guest,observedAt,eligibility) :=
    ⟨rfl,hmem.imp (fun h => ⟨h.1,h.2.symm⟩) fun h => ⟨h.1,h.2.symm⟩⟩
  obtain ⟨m,hm,hm',hdb⟩ := hread _ hseen
  have hdb : m.1.db.getGuestMatchEligibility guest observedAt = eligibility := hdb
  have hassigned : ∀ gameId, eligibility.activeGameId = some gameId →
      HeldDuring chess config c₀ c fun db => db.assignedGame guest = some gameId :=
    fun gameId hd => ⟨m,hm,hm',GuestMatchEligibility.assigned (hdb ▸ hd)⟩
  rcases hresult with ⟨hgone,rfl,hsettled⟩ | hrestored
  · cases hd : eligibility.activeGameId with
    | some gameId =>
      have hkeys : r'.activeGames guest = some gameId ∧ r'.state guest = some .inGame := by
        simpa [Redis.isSettled,hd] using hsettled
      exact .assigned (hassigned gameId hd) hkeys.1 hkeys.2
    | none => exact .settled hgone (hd ▸ hsettled)
  · cases hrestored with
    | assigned hd ha hs => exact .assigned (hassigned _ hd) ha hs
    | ineligible hd =>
      exact .ineligible rfl ⟨m,hm,hm',(congrArg GuestMatchEligibility.eligible hdb).trans hd⟩
    | absent hp => exact .absent hp
    | requeued hr hq hs => exact .requeued hr hq hs

/-- The same tasks where nobody else acts and only time passes. -/
def undisturbed (chess : ChessEngine) (config : AppConfig) : System Stores ServiceTask where
  env s s' new := new = 0 ∧ ∃ ms, s' = { s with redis := s.redis.execute config (.elapse ms) }
  step := ServiceTask.Step chess config

section Sample

/-! Two guests in the queue, and their match. -/

def sampleQueued : Stores where
  db := sampleRun []
  redis := (matchmakingKeys sampleConfig).run (.initial 1000) (sampleMatched.take 4)

def sampleReserved : Stores :=
  { sampleQueued with
    redis := (sampleQueued.redis.tryMatch sampleConfig .blitz (sampleId 20) (sampleId 10) 3000
      10).2 }

def sampleInput : AllocateGame :=
  { sampleAllocation with joinDeadlineAt := 23000, observedAt := 3000 }

def sampleMatch : GameAllocation where
  game := mapGame (newGameRow sampleInput)
  players := (⟨.w,none,none,sampleId 10,sampleId 1,none,none,0⟩,
    ⟨.b,none,none,sampleId 10,sampleId 2,none,none,1⟩)

def sampleAllocated : Stores :=
  { sampleReserved with db := (sampleReserved.db.allocate sampleInput).2 }

def sampleFinalized : Stores :=
  { sampleAllocated with
    redis := (sampleAllocated.redis.finalize sampleConfig sampleReservation).2 }

def sampleExpired : Stores :=
  { sampleReserved with redis := sampleReserved.redis.execute sampleConfig (.elapse 31000) }

def sampleEligible : DurableGuests := ⟨⟨none,true⟩,⟨none,true⟩⟩

theorem sampleQueued_reachable : sampleQueued.db.Reachable sampleEngine :=
  ⟨sampleSessions,.empty,[],rfl⟩

theorem sampleQueued_matched :
    sampleQueued.redis.tryMatch sampleConfig .blitz (sampleId 20) (sampleId 10) 3000 10 =
      (.ok ⟨[],some sampleReservation⟩,sampleReserved.redis) := Prod.ext (by decide) rfl

end Sample

end CluChess
