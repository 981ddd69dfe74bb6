import CluChess.MatchmakingScripts
import CluChess.RepositoryMachine

/-! Who may be in the queue: the invariant of the matchmaking keys under every interleaving of
their scripts, with time passing and keys expiring. -/
namespace CluChess

def MatchReservation.holds (reservation : MatchReservation) (guest : GuestSessionId) : Prop :=
  guest = reservation.a ∨ guest = reservation.b

namespace Redis

/-- The guest is a member of a live reservation. -/
def reserved (r : Redis) (guest : GuestSessionId) : Prop :=
  ∃ matchId reservation, r.reservation matchId = some reservation ∧ reservation.holds guest

/-- No member of the queue is held by a reservation or a game, and nobody by two reservations. -/
structure Exclusive (r : Redis) : Prop where
  queue : ∀ guest, r.queue.score guest ≠ none → ¬ r.reserved guest ∧
    r.state guest ≠ some .reserved ∧ r.state guest ≠ some .inGame ∧ r.activeGames guest = none
  reservations : ∀ guest matchId matchId' reservation reservation',
    r.reservation matchId = some reservation → r.reservation matchId' = some reservation' →
    reservation.holds guest → reservation'.holds guest → matchId = matchId'

/-- What the keys of one guest say. A guest of a live reservation is kept out of the queue by a
state that expires with the reservation, or by an active game. -/
structure GuestSound (r : Redis) (guest : GuestSessionId) : Prop where
  queued : r.queue.score guest ≠ none → r.state guest ≠ some .reserved ∧
    r.state guest ≠ some .inGame ∧ r.activeGames guest = none
  held : ∀ matchId e, r.reservations.entry r.clock matchId = some e → e.value.holds guest →
    r.queue.score guest = none ∧ (r.activeGames guest ≠ none ∨
      ∃ s, r.states guest = some s ∧ s.value = .reserved ∧ s.expiresAt = e.expiresAt)

structure QueueSound (r : Redis) : Prop where
  guests : ∀ guest, r.GuestSound guest
  reservations : ∀ guest matchId matchId' reservation reservation',
    r.reservation matchId = some reservation → r.reservation matchId' = some reservation' →
    reservation.holds guest → reservation'.holds guest → matchId = matchId'

section Invariant

variable {r r' : Redis} {guest : GuestSessionId}

theorem reservation_eq_some {matchId : MatchId} {reservation : MatchReservation} :
    r.reservation matchId = some reservation ↔
      ∃ e, r.reservations.entry r.clock matchId = some e ∧ e.value = reservation :=
  Option.map_eq_some_iff

theorem QueueSound.exclusive (h : r.QueueSound) : r.Exclusive where
  queue guest hq := by
    refine ⟨?_,(h.guests guest).queued hq⟩
    rintro ⟨matchId,reservation,hr,hg⟩
    obtain ⟨e,he,rfl⟩ := reservation_eq_some.mp hr
    exact hq ((h.guests guest).held matchId e he hg).1
  reservations := h.reservations

/-- A guest of a live reservation has no place in the queue and cannot get one. -/
theorem GuestSound.of_reserved (h : r.GuestSound guest) (hr : r.reserved guest) :
    r.queue.score guest = none ∧ (r.activeGames guest ≠ none ∨ r.state guest = some .reserved) := by
  obtain ⟨matchId,reservation,hr,hg⟩ := hr
  obtain ⟨e,he,rfl⟩ := reservation_eq_some.mp hr
  obtain ⟨hq,hs⟩ := h.held matchId e he hg
  refine ⟨hq,hs.imp_right ?_⟩
  rintro ⟨s,hs,hv,ht⟩
  have hlive : s.live r.clock = true := by
    have hle := (Keys.entry_eq_some.mp he).2
    unfold Entry.live at *
    rw [ht]
    exact hle
  exact Keys.get_eq_some.mpr ⟨s,hs,hlive,hv⟩

theorem GuestSound.of_free (hf : ¬ r.reserved guest)
    (hq : r.queue.score guest ≠ none → r.state guest ≠ some .reserved ∧
      r.state guest ≠ some .inGame ∧ r.activeGames guest = none) : r.GuestSound guest where
  queued := hq
  held matchId e he hg :=
    absurd ⟨matchId,e.value,reservation_eq_some.mpr ⟨e,he,rfl⟩,hg⟩ hf

/-- The later state has the reservations of the earlier one, or fewer. -/
structure Later (r r' : Redis) : Prop where
  clock : r.clock ≤ r'.clock
  reservations : ∀ matchId e, r'.reservations matchId = some e → r.reservations matchId = some e

theorem Later.entry (h : Later r r') {matchId : MatchId} {e : Entry MatchReservation}
    (he : r'.reservations.entry r'.clock matchId = some e) :
    r.reservations.entry r.clock matchId = some e := by
  obtain ⟨hfound,hlive⟩ := Keys.entry_eq_some.mp he
  exact Keys.entry_eq_some.mpr ⟨h.reservations matchId e hfound,Entry.live_mono h.clock hlive⟩

theorem Later.reservation (h : Later r r') {matchId : MatchId} {reservation : MatchReservation}
    (hr : r'.reservation matchId = some reservation) :
    r.reservation matchId = some reservation := by
  obtain ⟨e,he,hv⟩ := reservation_eq_some.mp hr
  exact reservation_eq_some.mpr ⟨e,h.entry he,hv⟩

theorem Later.reserved (h : Later r r') (hr : r'.reserved guest) : r.reserved guest := by
  obtain ⟨matchId,reservation,hr,hg⟩ := hr
  exact ⟨matchId,reservation,h.reservation hr,hg⟩

/-- The keys of a guest that a script has not touched. -/
structure Untouched (r r' : Redis) (guest : GuestSessionId) : Prop where
  queue : r'.queue.score guest = r.queue.score guest
  states : r'.states guest = r.states guest
  activeGames : r'.activeGames guest = r.activeGames guest

theorem GuestSound.later (h : r.GuestSound guest) (hl : Later r r') (hu : Untouched r r' guest) :
    r'.GuestSound guest where
  queued hq := by
    obtain ⟨hres,hgame,hactive⟩ := h.queued (hu.queue ▸ hq)
    have hkeep : ∀ v, r'.state guest = some v → r.state guest = some v := by
      intro v hv
      have hv : r'.states.get r'.clock guest = some v := hv
      rw [Keys.get_congr hu.states] at hv
      exact Keys.get_mono hl.clock hv
    exact ⟨fun hv => hres (hkeep _ hv),fun hv => hgame (hkeep _ hv),hu.activeGames ▸ hactive⟩
  held matchId e he hg := by
    rw [hu.queue,hu.states,hu.activeGames]
    exact h.held matchId e (hl.entry he) hg

theorem QueueSound.later (h : r.QueueSound) (hl : Later r r')
    (hg : ∀ guest, r'.GuestSound guest) : r'.QueueSound where
  guests := hg
  reservations guest matchId matchId' reservation reservation' hr hr' :=
    h.reservations guest matchId matchId' reservation reservation' (hl.reservation hr)
      (hl.reservation hr')

/-- A script that touches one guest. -/
theorem QueueSound.touch (h : r.QueueSound) (guest : GuestSessionId) (hl : Later r r')
    (hguest : r'.GuestSound guest)
    (hother : ∀ other, other ≠ guest → Untouched r r' other) : r'.QueueSound := by
  refine h.later hl fun other => ?_
  by_cases ho : other = guest
  · exact ho ▸ hguest
  · exact (h.guests other).later hl (hother other ho)

end Invariant

section Commands

/-! What each command of a script keeps. -/

variable {r r' : Redis} {guest other : GuestSessionId} {ttl : ℤ}

theorem state_setState_ne {v w : MatchState} (h : w ≠ v) :
    (r.setState guest v ttl).state guest ≠ some w :=
  fun hs => h (Keys.get_setPx_self hs)

/-- The two states differ in nothing but the guards and the presence, which are not part of
the invariant. -/
structure SameKeys (r r' : Redis) : Prop where
  clock : r'.clock = r.clock
  queue : r'.queue = r.queue
  states : r'.states = r.states
  activeGames : r'.activeGames = r.activeGames
  reservations : r'.reservations = r.reservations

theorem SameKeys.later (h : SameKeys r r') : Later r r' :=
  ⟨h.clock ▸ le_rfl,fun _ _ he => h.reservations ▸ he⟩

theorem SameKeys.untouched (h : SameKeys r r') : Untouched r r' guest :=
  ⟨by rw [h.queue],by rw [h.states],by rw [h.activeGames]⟩

theorem SameKeys.state (h : SameKeys r r') : r'.state guest = r.state guest := by
  rw [Redis.state,Redis.state,h.states,h.clock]

theorem QueueSound.congr (h : r.QueueSound) (hk : SameKeys r r') : r'.QueueSound :=
  h.later hk.later fun guest => (h.guests guest).later hk.later hk.untouched

theorem QueueSound.delGuard (h : r.QueueSound) : (r.delGuard guest).QueueSound :=
  h.congr ⟨rfl,rfl,rfl,rfl,rfl⟩

theorem QueueSound.setGuard (h : r.QueueSound) {mode : MatchMode} :
    (r.setGuard guest mode ttl).QueueSound := h.congr ⟨rfl,rfl,rfl,rfl,rfl⟩

theorem QueueSound.expireGuard (h : r.QueueSound) : (r.expireGuard guest ttl).QueueSound :=
  h.congr ⟨rfl,rfl,rfl,rfl,rfl⟩

theorem QueueSound.zrem (h : r.QueueSound) : (r.zrem guest).QueueSound := by
  refine h.touch guest ⟨le_rfl,fun _ _ he => he⟩ ⟨fun hq => ?_,fun matchId e he hg => ?_⟩ ?_
  · exact absurd SortedSet.score_remove_self hq
  · exact ⟨SortedSet.score_remove_self,((h.guests guest).held matchId e he hg).2⟩
  · exact fun other ho => ⟨SortedSet.score_remove_of_ne ho,rfl,rfl⟩

theorem QueueSound.zadd (h : r.QueueSound) {score : Millis} (hf : ¬ r.reserved guest)
    (hs : r.state guest ≠ some .reserved) (hg : r.state guest ≠ some .inGame)
    (ha : r.activeGames guest = none) : (r.zadd guest score).QueueSound := by
  have hsound : (r.zadd guest score).GuestSound guest := .of_free hf fun _ => ⟨hs,hg,ha⟩
  exact h.touch guest ⟨le_rfl,fun _ _ he => he⟩ hsound fun other ho =>
    ⟨SortedSet.score_add_of_ne ho score,rfl,rfl⟩

theorem QueueSound.setState (h : r.QueueSound) {v : MatchState}
    (hq : r.queue.score guest ≠ none → v ≠ .reserved ∧ v ≠ .inGame)
    (hf : r.reserved guest → r.activeGames guest ≠ none) :
    (r.setState guest v ttl).QueueSound := by
  refine h.touch guest ⟨le_rfl,fun _ _ he => he⟩ ⟨fun hqueue => ?_,fun matchId e he hg => ?_⟩ ?_
  · obtain ⟨hv,hv'⟩ := hq hqueue
    exact ⟨state_setState_ne hv.symm,state_setState_ne hv'.symm,
      ((h.guests guest).queued hqueue).2.2⟩
  · have hreserved : r.reserved guest := ⟨matchId,e.value,reservation_eq_some.mpr ⟨e,he,rfl⟩,hg⟩
    exact ⟨((h.guests guest).of_reserved hreserved).1,Or.inl (hf hreserved)⟩
  · exact fun other ho => ⟨rfl,Keys.setPx_of_ne ho ttl,rfl⟩

theorem QueueSound.delState (h : r.QueueSound) (hf : ¬ r.reserved guest) :
    (r.delState guest).QueueSound := by
  refine h.touch guest ⟨le_rfl,fun _ _ he => he⟩ (.of_free hf fun hq => ?_) ?_
  · have hnone : (r.delState guest).state guest = none := Keys.get_del_self
    rw [hnone]
    exact ⟨by simp,by simp,((h.guests guest).queued hq).2.2⟩
  · exact fun other ho => ⟨rfl,Keys.del_of_ne ho,rfl⟩

theorem QueueSound.delActiveGame (h : r.QueueSound) (hf : ¬ r.reserved guest) :
    (r.delActiveGame guest).QueueSound := by
  refine h.touch guest ⟨le_rfl,fun _ _ he => he⟩ (.of_free hf fun hq => ?_) ?_
  · obtain ⟨hs,hg,_⟩ := (h.guests guest).queued hq
    exact ⟨hs,hg,Function.update_self ..⟩
  · exact fun other ho => ⟨rfl,rfl,Function.update_of_ne ho ..⟩

theorem QueueSound.setInGame (config : AppConfig) (h : r.QueueSound) (gameId : GameId)
    (hq : r.queue.score guest = none) : (r.setInGame config guest gameId).QueueSound := by
  refine h.touch guest ⟨le_rfl,fun _ _ he => he⟩ ⟨fun hne => absurd hq hne,?_⟩ ?_
  · intro matchId e he hg
    have hactive : (r.setInGame config guest gameId).activeGames guest = some gameId :=
      Function.update_self ..
    exact ⟨hq,Or.inl (by rw [hactive]; simp)⟩
  · exact fun other ho => ⟨rfl,Keys.setPx_of_ne ho _,Function.update_of_ne ho ..⟩

theorem later_delReservation (r : Redis) (matchId : MatchId) :
    Later r (r.delReservation matchId) := by
  refine ⟨le_rfl,fun m e he => ?_⟩
  have hne : m ≠ matchId := by
    rintro rfl
    simp at he
  simpa [hne] using he

theorem QueueSound.delReservation (h : r.QueueSound) (matchId : MatchId) :
    (r.delReservation matchId).QueueSound :=
  h.later (later_delReservation r matchId) fun guest =>
    (h.guests guest).later (later_delReservation r matchId) ⟨rfl,rfl,rfl⟩

/-- A guest is in no other reservation than the one deleted. -/
theorem QueueSound.not_reserved_delReservation (h : r.QueueSound) (guest : GuestSessionId)
    {reservation : MatchReservation} (hr : r.reservation reservation.matchId = some reservation)
    (hg : reservation.holds guest) : ¬ (r.delReservation reservation.matchId).reserved guest := by
  rintro ⟨matchId,reservation',hr',hg'⟩
  have hold := (later_delReservation r reservation.matchId).reservation hr'
  obtain rfl := h.reservations guest matchId reservation.matchId reservation' reservation hold hr
    hg' hg
  have hnone : (r.delReservation reservation.matchId).reservation reservation.matchId = none :=
    Keys.get_del_self
  rw [hnone] at hr'
  cases hr'

end Commands

section Scripts

/-! What each script keeps. -/

variable {r r' : Redis} {guest : GuestSessionId} (config : AppConfig)

theorem QueueSound.not_reserved (h : r.QueueSound) (ha : r.activeGames guest = none)
    (hs : r.state guest ≠ some .reserved) : ¬ r.reserved guest := by
  intro hr
  rcases ((h.guests guest).of_reserved hr).2 with hne | hres
  · exact hne ha
  · exact hs hres

theorem QueueSound.enqueue (h : r.QueueSound) (mode : MatchMode) (now : Millis) :
    (r.enqueue config guest mode now).2.QueueSound := by
  unfold Redis.enqueue
  split_ifs with hheld
  · exact h
  · obtain ⟨hactive,hres,hgame⟩ : r.activeGames guest = none ∧ r.state guest ≠ some .reserved ∧
        r.state guest ≠ some .inGame := by simpa [not_or] using hheld
    have hfree := h.not_reserved hactive hres
    have hqueued : (r.setState guest .queued config.matchStateTtlMs).QueueSound :=
      h.setState (fun _ => by decide) fun hr => absurd hr hfree
    cases hscore : r.queue.score guest with
    | some score => exact hqueued.setGuard
    | none =>
      have hadded : ((r.setState guest .queued config.matchStateTtlMs).zadd guest now).QueueSound :=
        hqueued.zadd hfree (state_setState_ne (by decide)) (state_setState_ne (by decide)) hactive
      exact hadded.setGuard

theorem QueueSound.idleIfQueued (h : r.QueueSound) : (r.idleIfQueued config guest).QueueSound := by
  unfold Redis.idleIfQueued
  split_ifs with hq
  · refine h.setState (fun _ => by decide) fun hr => ?_
    rcases ((h.guests guest).of_reserved hr).2 with hne | hres
    · exact hne
    · rw [hq] at hres
      cases hres
  · exact h

theorem QueueSound.leave (h : r.QueueSound) : (r.leave config guest).2.QueueSound :=
  h.zrem.delGuard.idleIfQueued config

theorem isPresent_sameKeys (r : Redis) (guest : GuestSessionId) (now : Millis) :
    SameKeys r (r.isPresent guest now).2 := ⟨rfl,rfl,rfl,rfl,rfl⟩

theorem examine_sameKeys (r : Redis) (mode : MatchMode) (now : Millis) (guest : GuestSessionId)
    (score : Millis) : SameKeys r (r.examine config mode now guest score).2 := by
  unfold examine
  split_ifs
  · exact ⟨rfl,rfl,rfl,rfl,rfl⟩
  · simp only
    split_ifs <;> exact isPresent_sameKeys r guest now

/-- A guest that passes the check is queued and in no game. -/
theorem examine_passed {mode : MatchMode} {now score : Millis}
    (h : (r.examine config mode now guest score).1 = none) :
    r.state guest = some .queued ∧ r.activeGames guest = none := by
  unfold examine at h
  split_ifs at h
  simp only at h
  split_ifs at h with _ hstale
  simp only [not_or,not_not,Bool.not_eq_true,Option.isSome_eq_false_iff,
    Option.isNone_iff_eq_none] at hstale
  exact ⟨hstale.1,hstale.2.2⟩

/-- A candidate that the loop has popped and holds. -/
structure Popped (r : Redis) (candidate : Candidate) : Prop where
  free : ¬ r.reserved candidate.guestSessionId
  popped : r.queue.score candidate.guestSessionId = none
  queued : r.state candidate.guestSessionId = some .queued
  idle : r.activeGames candidate.guestSessionId = none

theorem Popped.keep {candidate : Candidate} (h : r.Popped candidate)
    (hclock : r'.clock = r.clock) (hres : r'.reservations = r.reservations)
    (hu : Untouched r r' candidate.guestSessionId) : r'.Popped candidate where
  free hr := h.free (Later.reserved ⟨hclock ▸ le_rfl,fun _ _ he => hres ▸ he⟩ hr)
  popped := hu.queue.trans h.popped
  queued := by
    have hkeep : r'.state candidate.guestSessionId = r.state candidate.guestSessionId := by
      rw [Redis.state,Redis.state,hclock]
      exact Keys.get_congr hu.states
    exact hkeep.trans h.queued
  idle := hu.activeGames.trans h.idle

theorem QueueSound.discard (h : r.QueueSound) (hf : ¬ r.reserved guest) :
    (r.discard guest).QueueSound := by
  unfold Redis.discard
  simp only
  split_ifs
  · exact h.delGuard.delState hf
  · exact h.delGuard

theorem discard_frame (r : Redis) (guest : GuestSessionId) :
    (r.discard guest).clock = r.clock ∧ (r.discard guest).reservations = r.reservations ∧
      ∀ other, other ≠ guest → Untouched r (r.discard guest) other := by
  unfold discard
  simp only
  split_ifs
  · exact ⟨rfl,rfl,fun other ho => ⟨rfl,Keys.del_of_ne ho,rfl⟩⟩
  · exact ⟨rfl,rfl,fun other _ => ⟨rfl,rfl,rfl⟩⟩

/-- The loop keeps the invariant and holds distinct candidates. -/
theorem scan_sound (mode : MatchMode) (now : Millis) (maxScan : ℕ) (candidates : List Candidate)
    (discarded : List RemovedQueueGuest) (h : r.QueueSound)
    (hc : ∀ c ∈ candidates, r.Popped c)
    (hn : (candidates.map Candidate.guestSessionId).Nodup) :
    (scan config mode now maxScan r candidates discarded).2.2.QueueSound ∧
      (∀ c ∈ (scan config mode now maxScan r candidates discarded).1,
        (scan config mode now maxScan r candidates discarded).2.2.Popped c) ∧
      ((scan config mode now maxScan r candidates discarded).1.map
        Candidate.guestSessionId).Nodup := by
  induction maxScan generalizing r candidates discarded with
  | zero => exact ⟨h,hc,hn⟩
  | succ maxScan ih =>
    unfold scan
    split_ifs
    · exact ⟨h,hc,hn⟩
    · cases hpop : r.queue.popMin with
      | none => exact ⟨h,hc,hn⟩
      | some popped =>
        obtain ⟨⟨guest,score⟩,queue⟩ := popped
        obtain ⟨hscore,rfl⟩ := SortedSet.popMin_eq_some hpop
        have hqueued : r.queue.score guest ≠ none := by rw [hscore]; simp
        have hfree : ¬ r.reserved guest := (h.exclusive.queue guest hqueued).1
        have hne : ∀ c ∈ candidates, c.guestSessionId ≠ guest := by
          rintro c hmem rfl
          exact hqueued (hc c hmem).popped
        have hkeys := examine_sameKeys config (r.zrem guest) mode now guest score
        have hsound : (examine config (r.zrem guest) mode now guest score).2.QueueSound :=
          h.zrem.congr hkeys
        have hpopped : ∀ c ∈ candidates,
            (examine config (r.zrem guest) mode now guest score).2.Popped c := by
          intro c hmem
          refine (hc c hmem).keep hkeys.clock hkeys.reservations ?_
          refine ⟨?_,congrFun hkeys.states _,congrFun hkeys.activeGames _⟩
          rw [hkeys.queue]
          exact SortedSet.score_remove_of_ne (hne c hmem)
        have hfree' : ¬ (examine config (r.zrem guest) mode now guest score).2.reserved guest :=
          fun hr => hfree (hkeys.later.reserved hr)
        have hzrem : { r with queue := r.queue.remove guest } = r.zrem guest := rfl
        simp only [hzrem]
        cases hex : examine config (r.zrem guest) mode now guest score with
        | mk reason r₁ =>
          rw [hex] at hkeys hsound hpopped hfree'
          cases reason with
          | some reason =>
            obtain ⟨hclock,hres,hother⟩ := discard_frame r₁ guest
            exact ih _ _ (hsound.discard hfree')
              (fun c hmem => (hpopped c hmem).keep hclock hres (hother _ (hne c hmem))) hn
          | none =>
            have hpassed := examine_passed config (congrArg Prod.fst hex)
            have hnew : r₁.Popped ⟨guest,score⟩ := by
              refine ⟨hfree',?_,hkeys.state.trans hpassed.1,?_⟩
              · rw [hkeys.queue]
                exact SortedSet.score_remove_self
              · rw [hkeys.activeGames]
                exact hpassed.2
            refine ih _ _ hsound ?_ ?_
            · intro c hmem
              rcases List.mem_append.mp hmem with hmem | hmem
              · exact hpopped c hmem
              · rw [List.mem_singleton.mp hmem]
                exact hnew
            · rw [List.map_append,List.nodup_append]
              refine ⟨hn,by simp,?_⟩
              intro x hx y hy
              obtain ⟨c,hmem,rfl⟩ := List.mem_map.mp hx
              have hy : y = guest := by simpa using hy
              exact hy ▸ hne c hmem

theorem QueueSound.putBack (h : r.QueueSound) {candidate : Candidate} (hc : r.Popped candidate) :
    (r.putBack config candidate).QueueSound := by
  have hadded : (r.zadd candidate.guestSessionId candidate.score).QueueSound :=
    h.zadd hc.free (by rw [hc.queued]; decide) (by rw [hc.queued]; decide) hc.idle
  exact hadded.expireGuard

theorem putBack_all (h : r.QueueSound) (candidates : List Candidate)
    (hc : ∀ c ∈ candidates, r.Popped c)
    (hn : (candidates.map Candidate.guestSessionId).Nodup) :
    (candidates.foldl (putBack config) r).QueueSound := by
  induction candidates generalizing r with
  | nil => exact h
  | cons candidate candidates ih =>
    obtain ⟨hnew,hn⟩ := List.nodup_cons.mp hn
    refine ih (h.putBack config (hc candidate List.mem_cons_self)) (fun c hmem => ?_) hn
    have hne : c.guestSessionId ≠ candidate.guestSessionId := by
      intro he
      exact hnew (he ▸ List.mem_map_of_mem hmem)
    exact (hc c (List.mem_cons_of_mem _ hmem)).keep rfl rfl
      ⟨SortedSet.score_add_of_ne hne _,rfl,rfl⟩

theorem QueueSound.setReservation (h : r.QueueSound) {reservation : MatchReservation} {ttl : ℤ}
    (hfree : ∀ guest, reservation.holds guest → ¬ r.reserved guest)
    (hq : ∀ guest, reservation.holds guest → r.queue.score guest = none)
    (hs : ∀ guest, reservation.holds guest →
      r.states guest = some ⟨.reserved,some (r.clock + ttl)⟩) :
    (r.setReservation reservation ttl).QueueSound := by
  have hold : ∀ matchId, matchId ≠ reservation.matchId →
      (r.setReservation reservation ttl).reservations matchId = r.reservations matchId :=
    fun matchId hm => Keys.setPx_of_ne hm ttl
  have hread : ∀ matchId reservation', (r.setReservation reservation ttl).reservation matchId =
      some reservation' → (matchId = reservation.matchId ∧ reservation' = reservation) ∨
        r.reservation matchId = some reservation' := by
    intro matchId reservation' hr
    by_cases hm : matchId = reservation.matchId
    · subst hm
      exact Or.inl ⟨rfl,Keys.get_setPx_self hr⟩
    · exact Or.inr ((Keys.get_congr (hold matchId hm)).symm.trans hr)
  constructor
  · intro guest
    refine ⟨(h.guests guest).queued,fun matchId e he hg => ?_⟩
    obtain ⟨hfound,hlive⟩ := Keys.entry_eq_some.mp he
    by_cases hm : matchId = reservation.matchId
    · subst hm
      have hnew : (r.setReservation reservation ttl).reservations reservation.matchId =
          some ⟨reservation,some (r.clock + ttl)⟩ := Keys.setPx_self ttl
      rw [hnew] at hfound
      cases hfound
      exact ⟨hq guest hg,Or.inr ⟨_,hs guest hg,rfl,rfl⟩⟩
    · rw [hold matchId hm] at hfound
      exact (h.guests guest).held matchId e (Keys.entry_eq_some.mpr ⟨hfound,hlive⟩) hg
  · intro guest matchId matchId' reservation₁ reservation₂ hr hr' hg hg'
    rcases hread _ _ hr with ⟨rfl,rfl⟩ | hold₁
    · rcases hread _ _ hr' with ⟨rfl,_⟩ | hold₂
      · rfl
      · exact absurd ⟨_,_,hold₂,hg'⟩ (hfree guest hg)
    · rcases hread _ _ hr' with ⟨rfl,rfl⟩ | hold₂
      · exact absurd ⟨_,_,hold₁,hg⟩ (hfree guest hg')
      · exact h.reservations guest matchId matchId' _ _ hold₁ hold₂ hg hg'

theorem QueueSound.reserve (h : r.QueueSound) {reservation : MatchReservation}
    (hfree : ∀ guest, reservation.holds guest → ¬ r.reserved guest)
    (hq : ∀ guest, reservation.holds guest → r.queue.score guest = none) :
    (r.reserve config reservation).QueueSound := by
  have ha : (r.setState reservation.a .reserved config.reservationTtlMs).QueueSound :=
    h.setState (fun hne => absurd (hq _ (Or.inl rfl)) hne) fun hr =>
      absurd hr (hfree _ (Or.inl rfl))
  have hb : ((r.setState reservation.a .reserved config.reservationTtlMs).setState
      reservation.b .reserved config.reservationTtlMs).QueueSound :=
    ha.setState (fun hne => absurd (hq _ (Or.inr rfl)) hne) fun hr =>
      absurd hr (hfree _ (Or.inr rfl))
  refine (hb.delGuard.delGuard).setReservation hfree hq ?_
  rintro guest (rfl | rfl)
  · by_cases hab : reservation.a = reservation.b
    · simp [hab]
    · simp [hab]
  · simp

theorem QueueSound.tryMatch (h : r.QueueSound) (mode : MatchMode) (matchId : MatchId)
    (gameId : GameId) (now : Millis) (maxScan : ℕ) :
    (r.tryMatch config mode matchId gameId now maxScan).2.QueueSound := by
  unfold Redis.tryMatch
  split_ifs
  · exact h
  · obtain ⟨hsound,hpopped,hn⟩ :=
      scan_sound config mode now maxScan [] [] h (by simp) (by simp)
    cases hscan : scan config mode now maxScan r [] [] with
    | mk candidates rest =>
      obtain ⟨discarded,r₁⟩ := rest
      rw [hscan] at hsound hpopped hn
      match candidates with
      | [] => exact hsound
      | [a] => exact putBack_all config hsound [a] hpopped hn
      | a :: b :: others =>
        have hab : a.guestSessionId ≠ b.guestSessionId := by
          intro he
          simp [he] at hn
        have ha := hpopped a (by simp)
        have hb := hpopped b (by simp)
        simp only [hab,if_false]
        refine hsound.reserve config ?_ ?_
        · rintro guest (rfl | rfl)
          · exact ha.free
          · exact hb.free
        · rintro guest (rfl | rfl)
          · exact ha.popped
          · exact hb.popped

theorem owns_eq {values reservation : MatchReservation} (h : owns values reservation = true) :
    values.matchId = reservation.matchId ∧ values.a = reservation.a ∧
      values.b = reservation.b ∧ values.gameId = reservation.gameId := by
  simpa [owns,and_assoc] using h

theorem QueueSound.finalize (h : r.QueueSound) (reservation : MatchReservation) :
    (r.finalize config reservation).2.QueueSound := by
  unfold Redis.finalize
  cases hr : r.reservation reservation.matchId with
  | none =>
    simp only
    split_ifs <;> exact h
  | some values =>
    simp only
    split_ifs with howns
    · obtain ⟨_,ha,hb,_⟩ := owns_eq howns
      have hqueue : ∀ guest, values.holds guest → r.queue.score guest = none :=
        fun guest hg => ((h.guests guest).of_reserved ⟨_,values,hr,hg⟩).1
      have hina := h.setInGame config reservation.gameId
        (hqueue reservation.a (Or.inl ha.symm))
      have hinb := hina.setInGame config reservation.gameId
        (hqueue reservation.b (Or.inr hb.symm))
      exact (hinb.delReservation reservation.matchId).delGuard.delGuard
    · exact h

theorem QueueSound.repairCommitted (h : r.QueueSound) (gameId : GameId) (a b : GuestSessionId) :
    (r.repairCommitted config gameId a b).2.QueueSound := by
  unfold Redis.repairCommitted
  split_ifs
  · exact h
  · have hb : ((r.zrem a).zrem b).queue.score b = none := SortedSet.score_remove_self
    have ha : ((r.zrem a).zrem b).queue.score a = none := by
      simp only [Redis.zrem,SortedSet.score_remove]
      split_ifs <;> rfl
    have hina := (h.zrem.zrem).setInGame config gameId ha
    exact (hina.setInGame config gameId hb).delGuard.delGuard

/-- The presence check of `restore`, which an ineligible guest does not reach. -/
theorem presence_sameKeys (r : Redis) (guest : GuestSessionId) (now : Millis) (eligible : Bool) :
    SameKeys r (if eligible then r.isPresent guest now else (false,r)).2 := by
  split_ifs
  · exact isPresent_sameKeys r guest now
  · exact ⟨rfl,rfl,rfl,rfl,rfl⟩

/-- The guest whose place a rollback decides. -/
theorem QueueSound.restore (h : r.QueueSound) (hf : ¬ r.reserved guest) (mode : MatchMode)
    (now score : Millis) (durable : GuestMatchEligibility) :
    (r.restore config mode now guest score durable).2.QueueSound := by
  unfold Redis.restore
  cases durable.activeGameId with
  | some gameId => exact h.zrem.delGuard.setInGame config gameId SortedSet.score_remove_self
  | none =>
    have hkeys := presence_sameKeys (r.delActiveGame guest) guest now durable.eligible
    simp only
    cases hp : if durable.eligible then (r.delActiveGame guest).isPresent guest now
        else (false,r.delActiveGame guest) with
    | mk present r₁ =>
      rw [hp] at hkeys
      have hsound : r₁.QueueSound := (h.delActiveGame hf).congr hkeys
      have hfree : ¬ r₁.reserved guest := fun hr => hf (hkeys.later.reserved hr)
      have hactive : r₁.activeGames guest = none := by
        rw [hkeys.activeGames]
        exact Function.update_self ..
      have hqueued : (r₁.setState guest .queued config.matchStateTtlMs).QueueSound :=
        hsound.setState (fun _ => by decide) fun hr => absurd hr hfree
      simp only
      split_ifs
      · have hadded : ((r₁.setState guest .queued config.matchStateTtlMs).zadd guest
            score).QueueSound :=
          hqueued.zadd hfree (state_setState_ne (by decide)) (state_setState_ne (by decide)) hactive
        exact hadded.setGuard
      · exact hqueued.setGuard
      · exact (hsound.zrem.delGuard).setState (fun hne => absurd SortedSet.score_remove_self hne)
          fun hr => absurd hr hfree

/-- A restored guest leaves the reservations and the clock alone. -/
theorem restore_later (r : Redis) (mode : MatchMode) (now : Millis) (guest : GuestSessionId)
    (score : Millis) (durable : GuestMatchEligibility) :
    Later r (r.restore config mode now guest score durable).2 := by
  unfold Redis.restore
  cases durable.activeGameId with
  | some gameId => exact ⟨le_rfl,fun _ _ he => he⟩
  | none =>
    simp only
    split_ifs <;> exact ⟨le_rfl,fun _ _ he => he⟩

/-- A restore does not read the reservations, so it may as well run after their deletion. -/
theorem restore_delReservation (r : Redis) (matchId : MatchId) (mode : MatchMode) (now : Millis)
    (guest : GuestSessionId) (score : Millis) (durable : GuestMatchEligibility) :
    ((r.delReservation matchId).restore config mode now guest score durable).2 =
      (r.restore config mode now guest score durable).2.delReservation matchId := by
  unfold Redis.restore
  cases durable.activeGameId with
  | some gameId => rfl
  | none =>
    cases durable.eligible with
    | false => rfl
    | true =>
      simp only [if_true]
      cases hp : (r.delActiveGame guest).isPresent guest now with
      | mk present r₁ =>
        have hp' : ((r.delReservation matchId).delActiveGame guest).isPresent guest now =
            (present,r₁.delReservation matchId) := by
          rw [← (Prod.mk.inj hp).1,← (Prod.mk.inj hp).2]
          rfl
        rw [hp']
        cases present with
        | false => rfl
        | true =>
          have hqueue : (r₁.delReservation matchId).queue = r₁.queue := rfl
          simp only [if_true,hqueue]
          by_cases hs : ((r₁.queue.score guest).all fun current => decide (score < current)) = true
          · simp only [hs,if_true]
            rfl
          · simp only [hs,Bool.false_eq_true,if_false]
            rfl

theorem QueueSound.rollback (h : r.QueueSound) (reservation : MatchReservation)
    (durable : DurableGuests) (now : Millis) :
    (r.rollback config reservation durable now).2.QueueSound := by
  unfold Redis.rollback
  cases hr : r.reservation reservation.matchId with
  | none =>
    simp only
    split_ifs <;> exact h
  | some values =>
    simp only
    split_ifs with howns
    · obtain ⟨hm,ha,hb,_⟩ := owns_eq howns
      have hread : r.reservation values.matchId = some values := by rw [hm]; exact hr
      have hfreea := h.not_reserved_delReservation reservation.a hread (Or.inl ha.symm)
      have hfreeb := h.not_reserved_delReservation reservation.b hread (Or.inr hb.symm)
      rw [← restore_delReservation,← restore_delReservation]
      rw [hm] at hfreea hfreeb
      refine ((h.delReservation reservation.matchId).restore config hfreea _ _ _ _).restore config
        (fun hb => hfreeb ?_) _ _ _ _
      exact (restore_later config _ _ _ _ _ _).reserved hb
    · exact h

theorem QueueSound.sweepEntry (mode : MatchMode) (now : Millis)
    (acc : List RemovedQueueGuest × Redis) (entry : GuestSessionId × Millis)
    (h : acc.2.QueueSound) : (Redis.sweepEntry config mode now acc entry).2.QueueSound := by
  obtain ⟨removed,r⟩ := acc
  obtain ⟨guest,score⟩ := entry
  have hsound : (r.examine config mode now guest score).2.QueueSound :=
    QueueSound.congr h (examine_sameKeys config r mode now guest score)
  unfold Redis.sweepEntry
  cases hex : r.examine config mode now guest score with
  | mk reason r₁ =>
    rw [hex] at hsound
    simp only [hex]
    cases reason with
    | none => exact hsound
    | some reason =>
      simp only
      split_ifs
      · exact hsound.zrem.delGuard.idleIfQueued config
      · exact hsound

theorem QueueSound.sweep (h : r.QueueSound) (mode : MatchMode) (now : Millis) (batch : ℕ) :
    (r.sweep config mode now batch).2.QueueSound := by
  unfold Redis.sweep
  generalize r.queue.range.take batch = entries
  have hall : ∀ (entries : List (GuestSessionId × Millis)) (acc : List RemovedQueueGuest × Redis),
      acc.2.QueueSound → (entries.foldl (Redis.sweepEntry config mode now) acc).2.QueueSound := by
    intro entries
    induction entries with
    | nil => exact fun acc hacc => hacc
    | cons entry entries ih =>
      exact fun acc hacc => ih _ (QueueSound.sweepEntry config mode now acc entry hacc)
  exact hall entries ([],r) h

/-- The clear must not take a game away from a guest whom a live reservation still holds: the
state that it leaves admits the guest to the queue. -/
theorem QueueSound.clearActiveGame (h : r.QueueSound) {expected : GameId}
    (hc : ¬ (r.reserved guest ∧ r.activeGames guest = some expected)) :
    (r.clearActiveGame config guest expected).2.QueueSound := by
  unfold Redis.clearActiveGame
  split_ifs with hactive hstale
  · have hfree : ¬ r.reserved guest := fun hr => hc ⟨hr,hactive⟩
    exact (h.delActiveGame hfree).setState (fun _ => by decide) fun hr => absurd hr hfree
  · refine h.setState (fun _ => by decide) fun hr => ?_
    exact absurd hr (h.not_reserved hstale.1 (by rw [hstale.2]; decide))
  · exact h

end Scripts

end Redis

/-- The scripts on the matchmaking keys, the presence of the guests, and time. -/
inductive RedisOperation
  | enqueue (guest : GuestSessionId) (mode : MatchMode) (now : Millis)
  | leave (guest : GuestSessionId)
  | tryMatch (mode : MatchMode) (matchId : MatchId) (gameId : GameId) (now : Millis)
      (maxScan : ℕ)
  | finalize (reservation : MatchReservation)
  | rollback (reservation : MatchReservation) (durable : DurableGuests) (now : Millis)
  | sweep (mode : MatchMode) (now : Millis) (batch : ℕ)
  | repairCommitted (gameId : GameId) (a b : GuestSessionId)
  | clearActiveGame (guest : GuestSessionId) (expected : GameId)
  | refresh (guest : GuestSessionId) (socket : SocketMember) (now : Millis)
  | remove (guest : GuestSessionId) (socket : SocketMember) (now : Millis)
  | elapse (ms : ℕ)

def Redis.execute (config : AppConfig) (r : Redis) : RedisOperation → Redis
  | .enqueue guest mode now => (r.enqueue config guest mode now).2
  | .leave guest => (r.leave config guest).2
  | .tryMatch mode matchId gameId now maxScan =>
    (r.tryMatch config mode matchId gameId now maxScan).2
  | .finalize reservation => (r.finalize config reservation).2
  | .rollback reservation durable now => (r.rollback config reservation durable now).2
  | .sweep mode now batch => (r.sweep config mode now batch).2
  | .repairCommitted gameId a b => (r.repairCommitted config gameId a b).2
  | .clearActiveGame guest expected => (r.clearActiveGame config guest expected).2
  | .refresh guest socket now => (r.refresh config guest socket now).2
  | .remove guest socket now => (r.remove guest socket now).2
  | .elapse ms => { r with clock := r.clock + ms }

/-- Every interleaving of the scripts is a run of this machine. -/
def matchmakingKeys (config : AppConfig) : Machine Redis RedisOperation Unit :=
  ⟨fun r op => ((),r.execute config op)⟩

/-- The step is not a `clearActiveGame` that takes the active game from a guest who is in a
live reservation. -/
def RedisOperation.spares (r : Redis) : RedisOperation → Prop
  | .clearActiveGame guest expected => ¬ (r.reserved guest ∧ r.activeGames guest = some expected)
  | _ => True

theorem Redis.initial_sound (clock : Millis) : (Redis.initial clock).QueueSound where
  guests guest := ⟨fun hq => absurd rfl hq,fun _ _ he => by cases he⟩
  reservations _ _ _ _ _ hr := by cases hr

/-- A step that spares the reserved guests keeps the invariant. -/
theorem Redis.QueueSound.execute (config : AppConfig) {r : Redis} (h : r.QueueSound)
    (op : RedisOperation) (hs : op.spares r) : (r.execute config op).QueueSound := by
  cases op with
  | enqueue guest mode now => exact h.enqueue config mode now
  | leave guest => exact h.leave config
  | tryMatch mode matchId gameId now maxScan => exact h.tryMatch config mode matchId gameId now _
  | finalize reservation => exact h.finalize config reservation
  | rollback reservation durable now => exact h.rollback config reservation durable now
  | sweep mode now batch => exact h.sweep config mode now batch
  | repairCommitted gameId a b => exact h.repairCommitted config gameId a b
  | clearActiveGame guest expected => exact h.clearActiveGame config hs
  | refresh guest socket now => exact h.congr ⟨rfl,rfl,rfl,rfl,rfl⟩
  | remove guest socket now => exact h.congr ⟨rfl,rfl,rfl,rfl,rfl⟩
  | elapse ms =>
    have hle : r.clock ≤ r.clock + (ms : ℤ) := Int.le.intro ms rfl
    have hl : Redis.Later r { r with clock := r.clock + ms } := ⟨hle,fun _ _ he => he⟩
    exact h.later hl fun guest => (h.guests guest).later hl ⟨rfl,rfl,rfl⟩

/-- Queue exclusivity holds in every state of every run from the empty Redis in which no
`clearActiveGame` takes the active game from a guest who is in a live reservation. -/
theorem queue_exclusive (config : AppConfig) (clock : Millis) (operations : List RedisOperation)
    (h : ∀ e ∈ (matchmakingKeys config).events (.initial clock) operations,
      e.input.spares e.before) :
    ((matchmakingKeys config).run (.initial clock) operations).Exclusive := by
  refine Redis.QueueSound.exclusive ?_
  have hinit := Redis.initial_sound clock
  generalize Redis.initial clock = r at h hinit
  induction operations generalizing r with
  | nil => exact hinit
  | cons op operations ih =>
    have hstep := hinit.execute config op (h _ List.mem_cons_self)
    exact ih _ (fun e he => h e (List.mem_cons_of_mem _ he)) hstep

section Sample

/-! Two guests who are matched. -/

def sampleReservation : MatchReservation :=
  ⟨sampleId 1,1000,sampleId 2,2000,3000,sampleId 10,sampleId 20,.blitz⟩

/-- Two guests connect, join the queue and are reserved for each other. -/
def sampleMatched : List RedisOperation :=
  [.refresh (sampleId 1) "a:1" 1000,.refresh (sampleId 2) "a:2" 1000,
    .enqueue (sampleId 1) .blitz 1000,.enqueue (sampleId 2) .blitz 2000,
    .tryMatch .blitz (sampleId 20) (sampleId 10) 3000 10]

end Sample

/-- The match is finalized, the game ends, and its first guest queues again. -/
theorem queue_exclusive_sample : ((matchmakingKeys sampleConfig).run (.initial 1000)
    (sampleMatched ++ [.finalize sampleReservation,
      .clearActiveGame (sampleId 1) (sampleId 10),.enqueue (sampleId 1) .blitz 9000])).Exclusive := by
  refine queue_exclusive sampleConfig 1000 _ ?_
  have hreleased : ∀ matchId, ((matchmakingKeys sampleConfig).run (.initial 1000)
      (sampleMatched ++ [.finalize sampleReservation])).reservation matchId = none := by
    intro matchId
    have hfinal : ((matchmakingKeys sampleConfig).run (.initial 1000)
        (sampleMatched ++ [.finalize sampleReservation])).reservations =
        (Keys.empty.setPx 1000 (sampleId 20) sampleReservation 30000).del (sampleId 20) := rfl
    rw [Redis.reservation,hfinal]
    by_cases hm : matchId = sampleId 20
    · rw [hm,Keys.get_del_self]
    · rw [Keys.get_del_of_ne hm,Keys.get_setPx_of_ne hm]
      rfl
  intro e he
  simp only [sampleMatched,List.cons_append,List.nil_append,Machine.events_cons,
    Machine.events_nil,List.mem_cons,List.not_mem_nil,or_false] at he
  rcases he with rfl | rfl | rfl | rfl | rfl | rfl | rfl | rfl
  case inr.inr.inr.inr.inr.inr.inl =>
    rintro ⟨⟨matchId,reservation,hr,_⟩,_⟩
    exact Option.some_ne_none reservation (hr.symm.trans (hreleased matchId))
  all_goals trivial

/-- A repair for another game takes over the first guest of a live reservation. When that game
ends, its guest is idle again and joins the queue, although the reservation still lives. -/
theorem queue_member_reserved :
    ¬ ((matchmakingKeys sampleConfig).run (.initial 1000) (sampleMatched ++
      [.repairCommitted (sampleId 11) (sampleId 1) (sampleId 3),
        .clearActiveGame (sampleId 1) (sampleId 11),
        .enqueue (sampleId 1) .blitz 9000])).Exclusive := by
  intro h
  have hscore : ((matchmakingKeys sampleConfig).run (.initial 1000) (sampleMatched ++
      [.repairCommitted (sampleId 11) (sampleId 1) (sampleId 3),
        .clearActiveGame (sampleId 1) (sampleId 11),
        .enqueue (sampleId 1) .blitz 9000])).queue.score (sampleId 1) = some 9000 := by decide
  have hreservation : ((matchmakingKeys sampleConfig).run (.initial 1000) (sampleMatched ++
      [.repairCommitted (sampleId 11) (sampleId 1) (sampleId 3),
        .clearActiveGame (sampleId 1) (sampleId 11),
        .enqueue (sampleId 1) .blitz 9000])).reservation (sampleId 20) =
      some sampleReservation := by decide
  exact (h.queue (sampleId 1) (by rw [hscore]; simp)).1
    ⟨sampleId 20,sampleReservation,hreservation,Or.inl rfl⟩

end CluChess
