import CluChess.MatchOrder

/-! A match that is rolled back. The reservation goes to the caller as JSON and its scores come
back as arguments; what `rollback.lua` restores is compared with what `try-match.lua` found. -/
namespace CluChess

open Redis (owns)

section Numbers

/-- The unit of the last digit that `cjson` writes of a number, which has 14 digits. The fuel is
the most digits that a double can have. -/
def lastDigit : ℕ → ℕ → ℕ
  | 0, _ => 1
  | fuel + 1, n => if n < 10^14 then 1 else 10 * lastDigit fuel (n / 10)

/-- The nearest multiple of the unit, and the even one of two. -/
def roundTo (unit n : ℕ) : ℕ :=
  if 2 * (n % unit) < unit ∨ (2 * (n % unit) = unit ∧ n / unit % 2 = 0) then n / unit * unit
  else (n / unit + 1) * unit

/-- A whole number that has gone through `cjson.encode` and `JSON.parse`. -/
def throughJson (x : ℤ) : ℤ := x.sign * (roundTo (lastDigit 309 x.natAbs) x.natAbs : ℕ)

theorem roundTo_one (n : ℕ) : roundTo 1 n = n := by simp [roundTo,Nat.mod_one]

theorem throughJson_eq {x : ℤ} (h : x.natAbs < 10^14) : throughJson x = x := by
  have hunit : lastDigit 309 x.natAbs = 1 := if_pos h
  rw [throughJson,hunit,roundTo_one]
  exact Int.sign_mul_natAbs x

end Numbers

/-- `reservationSchema` on the reply of `try-match.lua`. -/
def readReservation (reservation : MatchReservation) : Option MatchReservation :=
  let read := { reservation with
    aScore := throughJson reservation.aScore
    bScore := throughJson reservation.bScore
    createdAt := throughJson reservation.createdAt }
  if [read.aScore,read.bScore,read.createdAt].all isNonnegativeInt then some read else none

theorem readReservation_eq_some {reservation read : MatchReservation}
    (h : readReservation reservation = some read) :
    owns reservation read = true ∧ read.mode = reservation.mode ∧
      read.aScore = throughJson reservation.aScore ∧
      read.bScore = throughJson reservation.bScore := by
  unfold readReservation at h
  simp only at h
  split_ifs at h
  cases h
  exact ⟨by simp [Redis.owns],rfl,rfl,rfl⟩

namespace Redis

variable (config : AppConfig) (mode : MatchMode) (now : Millis)

def requestMatch (r : Redis) (matchId : MatchId) (gameId : GameId) (maxScan : ℕ) :
    Except MatchmakingErrorCode MatchAttempt × Redis :=
  match r.tryMatch config mode matchId gameId now maxScan with
  | (.error code,r) => (.error code,r)
  | (.ok ⟨discarded,none⟩,r) => (.ok ⟨discarded,none⟩,r)
  | (.ok ⟨discarded,some reservation⟩,r) =>
    match readReservation reservation with
    | none => (.error .dependencyUnavailable,r)
    | some reservation => (.ok ⟨discarded,some reservation⟩,r)

section Restore

variable {r : Redis} {guest other : GuestSessionId} {score : Millis}

def earlier (current : Option Millis) (score : Millis) : Millis := current.elim score (min score)

def requeue (r : Redis) (guest : GuestSessionId) (score : Millis) : Redis :=
  { (r.prune guest now).delActiveGame guest with
    queue := if (r.queue.score guest).all fun current => score < current then
      r.queue.add guest score else r.queue
    guards := r.guards.setPx r.clock guest mode config.queueGuardTtlMs
    states := r.states.setPx r.clock guest .queued config.matchStateTtlMs }

theorem restore_present (h : (r.isPresent guest now).1 = true) (score : Millis) :
    r.restore config mode now guest score ⟨none,true⟩ =
      ([⟨guest,score⟩],r.requeue config mode now guest score) := by
  have hpresent : ((r.delActiveGame guest).isPresent guest now).1 = true := h
  have hchecked : ((r.delActiveGame guest).isPresent guest now).2 =
      (r.prune guest now).delActiveGame guest := rfl
  simp only [restore,if_true,hpresent,hchecked]
  refine Prod.ext rfl ?_
  show setState (setGuard _ guest mode _) guest .queued _ = _
  unfold requeue
  split_ifs with hearlier hearlier' hearlier'
  · rfl
  · exact absurd hearlier hearlier'
  · exact absurd hearlier' hearlier
  · rfl

theorem requeue_score : (r.requeue config mode now guest score).queue.score other =
    if other = guest then some (earlier (r.queue.score guest) score)
    else r.queue.score other := by
  unfold requeue earlier
  simp only
  cases hs : r.queue.score guest with
  | none => simp [SortedSet.score_add]
  | some current =>
    by_cases hlt : score < current
    · simp [hlt,SortedSet.score_add,min_eq_left hlt.le]
    · simp only [Option.all_some,hlt,decide_false,Bool.false_eq_true,if_false,Option.elim_some,
        min_eq_right (not_lt.mp hlt)]
      split_ifs with ho
      · rw [ho,hs]
      · rfl

theorem requeue_isPresent (h : other ≠ guest) :
    ((r.requeue config mode now guest score).isPresent other now).1 = (r.isPresent other now).1 := by
  have hmembers : (r.requeue config mode now guest score).members other = r.members other :=
    members_prune_of_ne h
  rw [Bool.eq_iff_iff,isPresent_iff,isPresent_iff,hmembers]

theorem rollback_present {reservation values : MatchReservation}
    (hab : reservation.a ≠ reservation.b)
    (hlive : r.reservation reservation.matchId = some values) (howns : owns values reservation)
    (ha : (r.isPresent reservation.a now).1 = true)
    (hb : (r.isPresent reservation.b now).1 = true) :
    r.rollback config reservation ⟨⟨none,true⟩,⟨none,true⟩⟩ now =
      (.ok [⟨reservation.a,reservation.aScore⟩,⟨reservation.b,reservation.bScore⟩],
        ((r.requeue config reservation.mode now reservation.a reservation.aScore).requeue config
          reservation.mode now reservation.b reservation.bScore).delReservation
          reservation.matchId) := by
  have hb' : ((r.requeue config reservation.mode now reservation.a
      reservation.aScore).isPresent reservation.b now).1 = true :=
    (requeue_isPresent config reservation.mode now hab.symm).trans hb
  unfold rollback
  simp only [hlive,howns,if_true,restore_present config reservation.mode now ha,
    restore_present config reservation.mode now hb',List.singleton_append]

end Restore

section Undone

variable {r r' r'' : Redis} {guest : GuestSessionId}

/-- The connections that have not expired at `t` are the same in both states, as they are seen
at the later clock. -/
def SameConnections (clock t : Millis) (r r' : Redis) (guest : GuestSessionId) : Prop :=
  SortedSet.removeUpTo (r'.presence.sortedSet clock guest) t =
    SortedSet.removeUpTo (r.presence.sortedSet clock guest) t

variable (guest) in
theorem sameConnections_prune {clock t : Millis} (hclock : r.clock ≤ clock) (ht : now ≤ t)
    (other : GuestSessionId) : SameConnections clock t r (r.prune other now) guest := by
  unfold SameConnections
  by_cases hg : guest = other
  · subst hg
    have hset : (r.prune guest now).presence.sortedSet clock guest =
        (r.presence.sortedSet clock guest).removeUpTo now :=
      Keys.sortedSet_updateSet_later (fun s => s.removeUpTo now) rfl hclock r.presence guest
    rw [hset,SortedSet.removeUpTo_removeUpTo,max_eq_right ht]
  · have hset : (r.prune other now).presence.sortedSet clock guest =
        r.presence.sortedSet clock guest := Keys.sortedSet_congr (presence_prune_of_ne hg)
    rw [hset]

variable (guest) in
theorem examine_connections {clock t : Millis} (hclock : r.clock ≤ clock) (ht : now ≤ t)
    (other : GuestSessionId) (score : Millis) :
    SameConnections clock t r (r.examine config mode now other score).2 guest := by
  have hpruned := sameConnections_prune now guest hclock ht other
  unfold examine
  split_ifs
  · rfl
  · simp only
    split_ifs <;> exact hpruned

variable (guest) in
theorem visit_connections {clock t : Millis} (hclock : r.clock ≤ clock) (ht : now ≤ t)
    (entry : GuestSessionId × Millis) :
    SameConnections clock t r (visit config mode now r entry) guest := by
  have hchecked := examine_connections config mode now guest (r := r.zrem entry.1)
    hclock ht entry.1 entry.2
  unfold visit discard
  simp only
  split_ifs <;> exact hchecked

theorem visits_connections {clock t : Millis} (hclock : r.clock ≤ clock) (ht : now ≤ t)
    (entries : List (GuestSessionId × Millis)) :
    SameConnections clock t r (entries.foldl (visit config mode now) r) guest := by
  induction entries generalizing r with
  | nil => rfl
  | cons entry entries ih =>
    have hfirst := visit_connections config mode now guest hclock ht entry
    have hvisited := (visit_visited config mode now entry (r := r)).clock
    have hrest := ih (r := visit config mode now r entry) (by rw [hvisited]; exact hclock)
    exact hrest.trans hfirst

/-- The state `r'` is `r` without the entries that were thrown away, with other times to live,
and without connections that have expired at `t`. -/
structure Undone (t : Millis) (discarded : List RemovedQueueGuest) (r r' : Redis) : Prop where
  queue : r'.queue.range = r.queue.range.filter fun e =>
    !decide (e.1 ∈ discarded.map RemovedQueueGuest.guestSessionId)
  states : ∀ guest, guest ∉ discarded.map RemovedQueueGuest.guestSessionId →
    (r'.states guest).map Entry.value = (r.states guest).map Entry.value
  guards : ∀ guest, guest ∉ discarded.map RemovedQueueGuest.guestSessionId →
    (r'.guards guest).map Entry.value = (r.guards guest).map Entry.value
  activeGames : r'.activeGames = r.activeGames
  reservations : ∀ matchId, r'.reservations.get r.clock matchId = r.reservation matchId
  connections : ∀ guest, SameConnections r'.clock t r r' guest

structure Requeued (r' : Redis) (guest : GuestSessionId) (score : Millis) : Prop where
  score : r'.queue.score guest = some score
  state : r'.state guest = some .queued
  guard : r'.guard guest = some mode

theorem requestMatch_ok {matchId : MatchId} {gameId : GameId} {maxScan : ℕ}
    {attempt : MatchAttempt} {read : MatchReservation}
    (h : r.requestMatch config mode now matchId gameId maxScan = (.ok attempt,r'))
    (hread : attempt.reservation = some read) :
    ∃ a b rest, r.eligibleEntries config mode now maxScan = a :: b :: rest ∧
      r.reservation matchId = none ∧
      attempt.discarded = (r.scanned config mode now maxScan).filterMap
        (r.report config mode now) ∧
      readReservation ⟨a.1,a.2,b.1,b.2,now,gameId,matchId,mode⟩ = some read ∧
      r' = ((r.scanned config mode now maxScan).foldl (visit config mode now) r).reserve config
        ⟨a.1,a.2,b.1,b.2,now,gameId,matchId,mode⟩ := by
  by_cases hfree : r.reservation matchId = none
  · have heq := tryMatch_eq config mode now maxScan gameId hfree
    simp only at heq
    unfold requestMatch at h
    rw [heq] at h
    match heligible : r.eligibleEntries config mode now maxScan with
    | [] =>
      rw [heligible] at h
      cases h
      cases hread
    | [a] =>
      rw [heligible] at h
      cases h
      cases hread
    | a :: b :: rest =>
      rw [heligible] at h
      simp only at h
      cases hparsed : readReservation ⟨a.1,a.2,b.1,b.2,now,gameId,matchId,mode⟩ with
      | none =>
        rw [hparsed] at h
        cases h
      | some reservation =>
        rw [hparsed] at h
        cases h
        cases hread
        exact ⟨a,b,rest,rfl,hfree,rfl,hparsed,rfl⟩
  · have htaken : (r.reservation matchId).isSome = true := Option.isSome_iff_ne_none.mpr hfree
    unfold requestMatch tryMatch at h
    rw [if_pos htaken] at h
    cases h

theorem stored_of_get {κ α : Type*} {keys : Keys κ α} {clock : ℤ} {k : κ} {v : α}
    (h : keys.get clock k = some v) : (keys k).map Entry.value = some v := by
  obtain ⟨e,he,_,rfl⟩ := Keys.get_eq_some.mp h
  rw [he]
  rfl

/-- The state after a scan that has found the pair. -/
structure PairPopped (r popped : Redis) (a b : GuestSessionId × Millis)
    (discarded : List RemovedQueueGuest) : Prop where
  visited : Visited r popped
  score : ∀ guest, popped.queue.score guest =
    if guest ∈ discarded.map RemovedQueueGuest.guestSessionId ∨ guest = a.1 ∨ guest = b.1 then none
    else r.queue.score guest
  kept : ∀ guest, guest ∉ discarded.map RemovedQueueGuest.guestSessionId →
    popped.states guest = r.states guest ∧ popped.guards guest = r.guards guest
  connections : ∀ clock t, r.clock ≤ clock → now ≤ t → ∀ guest,
    SameConnections clock t r popped guest
  pair : ∀ e ∈ [a,b], e ∈ r.queue.range ∧ r.Eligible config mode now e ∧
    e.1 ∉ discarded.map RemovedQueueGuest.guestSessionId

theorem pairPopped {maxScan : ℕ} {a b : GuestSessionId × Millis}
    {rest : List (GuestSessionId × Millis)}
    (h : r.eligibleEntries config mode now maxScan = a :: b :: rest) :
    PairPopped config mode now r
      ((r.scanned config mode now maxScan).foldl (visit config mode now) r) a b
      ((r.scanned config mode now maxScan).filterMap (r.report config mode now)) := by
  have hfirst := scanned_eligible config mode now maxScan (r := r)
  rw [h,List.take_succ_cons,List.take_succ_cons,List.take_zero] at hfirst
  have hpair : ∀ e ∈ [a,b], e ∈ r.scanned config mode now maxScan ∧
      r.Eligible config mode now e := by
    intro e he
    rw [← hfirst] at he
    obtain ⟨hmem,hgood⟩ := List.mem_filter.mp he
    exact ⟨hmem,of_decide_eq_true hgood⟩
  have hreported := fun guest => mem_reported_scanned config mode now guest maxScan (r := r)
  simp only [h,List.take_succ_cons,List.take_zero,List.map_cons,List.map_nil,List.mem_cons,
    List.not_mem_nil,or_false,not_or] at hreported
  refine ⟨visited_foldl config mode now _ r,fun guest => ?_,fun guest hg =>
    popped_keeps config mode now maxScan guest hg,fun clock t hclock ht guest =>
    visits_connections config mode now hclock ht _,fun e he => ?_⟩
  · rw [score_scanned]
    refine if_congr ?_ rfl rfl
    rw [hreported]
    constructor
    · intro hmem
      by_cases hab : guest = a.1 ∨ guest = b.1
      · exact Or.inr hab
      · exact Or.inl ⟨hmem,not_or.mp hab⟩
    · rintro (⟨hmem,_⟩ | rfl | rfl)
      · exact hmem
      · exact List.mem_map_of_mem (hpair a (by simp)).1
      · exact List.mem_map_of_mem (hpair b (by simp)).1
  · obtain ⟨hmem,hgood⟩ := hpair e he
    refine ⟨scanned_subset config mode now hmem,hgood,?_⟩
    rw [hreported]
    rintro ⟨_,hna,hnb⟩
    rcases List.mem_cons.mp he with rfl | he
    · exact hna rfl
    · exact hnb (congrArg Prod.fst (List.mem_singleton.mp he))

section Restored

variable {popped : Redis} {a b : GuestSessionId × Millis} {discarded : List RemovedQueueGuest}
  {matchId : MatchId} {reservation : MatchReservation}

def reservedAfter (popped : Redis) (reservation : MatchReservation) (elapsed : ℕ) : Redis :=
  { popped.reserve config reservation with
    clock := (popped.reserve config reservation).clock + elapsed }

def putBoth (now' : Millis) (r : Redis) (a b : GuestSessionId × Millis) (matchId : MatchId) :
    Redis :=
  ((r.requeue config mode now' a.1 a.2).requeue config mode now' b.1 b.2).delReservation matchId

variable (matchId) in
theorem putBoth_requeued (hab : a.1 ≠ b.1) (now' : Millis)
    (ha : r.queue.score a.1 = none) (hb : r.queue.score b.1 = none) :
    Requeued mode (putBoth config mode now' r a b matchId) a.1 a.2 ∧
      Requeued mode (putBoth config mode now' r a b matchId) b.1 b.2 := by
  have hscore : ∀ guest, (putBoth config mode now' r a b matchId).queue.score guest =
      ((r.requeue config mode now' a.1 a.2).requeue config mode now' b.1 b.2).queue.score guest :=
    fun _ => rfl
  refine ⟨⟨?_,?_,?_⟩,⟨?_,?_,?_⟩⟩
  · rw [hscore,requeue_score,if_neg hab,requeue_score,if_pos rfl,ha]
    rfl
  · exact (Keys.get_setPx_of_ne hab _).trans (Keys.get_setPx_now (Int.natCast_nonneg _))
  · exact (Keys.get_setPx_of_ne hab _).trans (Keys.get_setPx_now (Int.natCast_nonneg _))
  · rw [hscore,requeue_score,if_pos rfl,requeue_score,if_neg hab.symm,hb]
    rfl
  · exact Keys.get_setPx_now (Int.natCast_nonneg _)
  · exact Keys.get_setPx_now (Int.natCast_nonneg _)

theorem PairPopped.score_pair (h : PairPopped config mode now r popped a b discarded) :
    ∀ e ∈ [a,b], popped.queue.score e.1 = none := by
  intro e he
  rw [h.score,if_pos]
  rcases List.mem_cons.mp he with rfl | he
  · exact Or.inr (Or.inl rfl)
  · exact Or.inr (Or.inr (congrArg Prod.fst (List.mem_singleton.mp he)))

variable (reservation) in
theorem PairPopped.undone (h : PairPopped config mode now r popped a b discarded)
    (hab : a.1 ≠ b.1) (hfree : r.reservation reservation.matchId = none)
    (hra : reservation.a = a.1) (hrb : reservation.b = b.1) (elapsed : ℕ) (now' : Millis) :
    Undone (max now now') discarded r (putBoth config mode now'
      (reservedAfter config popped reservation elapsed) a b reservation.matchId) := by
  obtain ⟨hrangea,hgooda,hkepta⟩ := h.pair a (by simp)
  obtain ⟨hrangeb,hgoodb,hkeptb⟩ := h.pair b (by simp)
  have hscorea : r.queue.score a.1 = some a.2 :=
    SortedSet.score_eq_some.mpr (SortedSet.mem_range.mp hrangea)
  have hscoreb : r.queue.score b.1 = some b.2 :=
    SortedSet.score_eq_some.mpr (SortedSet.mem_range.mp hrangeb)
  have hvalue : ∀ guest, guest ≠ a.1 → guest ≠ b.1 →
      (putBoth config mode now' (reservedAfter config popped reservation elapsed) a b
          reservation.matchId).states guest = popped.states guest ∧
        (putBoth config mode now' (reservedAfter config popped reservation elapsed) a b
          reservation.matchId).guards guest = popped.guards guest := by
    intro guest hna hnb
    constructor
    · refine (Keys.setPx_of_ne hnb _).trans ((Keys.setPx_of_ne hna _).trans ?_)
      exact (Keys.setPx_of_ne (hrb ▸ hnb) _).trans (Keys.setPx_of_ne (hra ▸ hna) _)
    · refine (Keys.setPx_of_ne hnb _).trans ((Keys.setPx_of_ne hna _).trans ?_)
      exact (Keys.del_of_ne (hrb ▸ hnb)).trans (Keys.del_of_ne (hra ▸ hna))
  refine ⟨?_,fun guest hg => ?_,fun guest hg => ?_,?_,fun matchId => ?_,fun guest => ?_⟩
  · refine SortedSet.range_of_scores (s := r.queue)
      (p := fun guest => decide (guest ∈ discarded.map RemovedQueueGuest.guestSessionId))
      fun guest => ?_
    have hscore : (putBoth config mode now' (reservedAfter config popped reservation elapsed) a b
        reservation.matchId).queue.score guest =
        (((reservedAfter config popped reservation elapsed).requeue config mode now' a.1
          a.2).requeue config mode now' b.1 b.2).queue.score guest := rfl
    have hpopped : (reservedAfter config popped reservation elapsed).queue = popped.queue := rfl
    rw [hscore,requeue_score,requeue_score,requeue_score,hpopped,if_neg hab.symm,
      h.score_pair config mode now a (by simp),h.score_pair config mode now b (by simp),h.score]
    by_cases hb : guest = b.1
    · simp [hb,hkeptb,hscoreb,earlier]
    · by_cases ha : guest = a.1
      · simp [ha,hab,hkepta,hscorea,earlier]
      · simp [ha,hb]
  · by_cases hb : guest = b.1
    · rw [hb,stored_of_get hgoodb.2.2.1]
      simp [putBoth,requeue]
    · by_cases ha : guest = a.1
      · rw [ha,stored_of_get hgooda.2.2.1]
        simp [putBoth,requeue,hab]
      · rw [(hvalue guest ha hb).1,(h.kept guest hg).1]
  · by_cases hb : guest = b.1
    · rw [hb,stored_of_get hgoodb.2.2.2.1]
      simp [putBoth,requeue]
    · by_cases ha : guest = a.1
      · rw [ha,stored_of_get hgooda.2.2.2.1]
        simp [putBoth,requeue,hab]
      · rw [(hvalue guest ha hb).2,(h.kept guest hg).2]
  · have hactive : (putBoth config mode now' (reservedAfter config popped reservation elapsed) a b
        reservation.matchId).activeGames =
        Function.update (Function.update popped.activeGames a.1 none) b.1 none := rfl
    have hidlea : Function.update r.activeGames a.1 none = r.activeGames :=
      Function.update_eq_self_iff.mpr hgooda.2.2.2.2.symm
    have hidleb : Function.update r.activeGames b.1 none = r.activeGames :=
      Function.update_eq_self_iff.mpr hgoodb.2.2.2.2.symm
    rw [hactive,h.visited.activeGames,hidlea,hidleb]
  · by_cases hm : matchId = reservation.matchId
    · rw [hm,hfree]
      exact Keys.get_del_self
    · have hother : (putBoth config mode now' (reservedAfter config popped reservation elapsed) a b
          reservation.matchId).reservations matchId = r.reservations matchId := by
        rw [← h.visited.reservations]
        exact (Keys.del_of_ne hm).trans (Keys.setPx_of_ne hm _)
      exact Keys.get_congr hother
  · have hclock : (putBoth config mode now' (reservedAfter config popped reservation elapsed) a b
        reservation.matchId).clock = r.clock + elapsed := congrArg (· + (elapsed : ℤ)) h.visited.clock
    have hle : r.clock ≤ r.clock + (elapsed : ℤ) := Int.le_add_of_nonneg_right (Int.natCast_nonneg _)
    have hscan := h.connections (r.clock + elapsed) (max now now') hle (le_max_left _ _) guest
    have hafter : (reservedAfter config popped reservation elapsed).clock ≤ r.clock + elapsed :=
      le_of_eq hclock
    have hfirst := sameConnections_prune now' guest
      (r := reservedAfter config popped reservation elapsed) hafter (le_max_right now now') a.1
    have hsecond := sameConnections_prune now' guest
      (r := (reservedAfter config popped reservation elapsed).requeue config mode now' a.1 a.2)
      hafter (le_max_right now now') b.1
    rw [hclock]
    exact hsecond.trans (hfirst.trans hscan)

end Restored

end Undone

/-- A rollback with the reservation that `tryMatch` has answered. At once, with time passing but
nothing else happening, it undoes the match: both guests are back with their scores, and what
differs is the entries that were thrown away, the times to live and the connections that had
expired. If other things have happened and a guest has a place in the queue again, the earlier
of the two places is kept. The scores have at most the 14 digits that the reply can carry. -/
theorem rollback_undoes_match {r r' : Redis} {matchId : MatchId} {gameId : GameId} {maxScan : ℕ}
    {attempt : MatchAttempt} {read : MatchReservation}
    (h : r.requestMatch config mode now matchId gameId maxScan = (.ok attempt,r'))
    (hread : attempt.reservation = some read)
    (hscores : ∀ e ∈ r.queue.range, e.2.natAbs < 10^14) :
    ((read.a,read.aScore) ∈ r.queue.range ∧ (read.b,read.bScore) ∈ r.queue.range) ∧
    (∀ (elapsed : ℕ) now',
      Redis.reservation { r' with clock := r'.clock + elapsed } read.matchId ≠ none →
      (isPresent { r' with clock := r'.clock + elapsed } read.a now').1 = true →
      (isPresent { r' with clock := r'.clock + elapsed } read.b now').1 = true →
      ∃ r'', rollback config { r' with clock := r'.clock + elapsed } read
          ⟨⟨none,true⟩,⟨none,true⟩⟩ now' =
          (.ok [⟨read.a,read.aScore⟩,⟨read.b,read.bScore⟩],r'') ∧
        Requeued mode r'' read.a read.aScore ∧ Requeued mode r'' read.b read.bScore ∧
        r''.reservation read.matchId = none ∧ Undone (max now now') attempt.discarded r r'') ∧
    ∀ (later : Redis) now' values, later.reservation read.matchId = some values →
      owns values read = true → (later.isPresent read.a now').1 = true →
      (later.isPresent read.b now').1 = true →
      ∃ r'', later.rollback config read ⟨⟨none,true⟩,⟨none,true⟩⟩ now' =
          (.ok [⟨read.a,read.aScore⟩,⟨read.b,read.bScore⟩],r'') ∧
        r''.queue.score read.a = some (earlier (later.queue.score read.a) read.aScore) ∧
        r''.queue.score read.b = some (earlier (later.queue.score read.b) read.bScore) := by
  obtain ⟨a,b,rest,heligible,hfree,hdiscarded,hparsed,rfl⟩ :=
    requestMatch_ok config mode now h hread
  have hab := eligibleEntries_distinct config mode now heligible
  have hpopped := pairPopped config mode now heligible
  rw [← hdiscarded] at hpopped
  obtain ⟨howns,hmode,haScore,hbScore⟩ := readReservation_eq_some hparsed
  obtain ⟨hm,hra,hrb,_⟩ := owns_eq howns
  obtain ⟨hrangea,-,-⟩ := hpopped.pair a (by simp)
  obtain ⟨hrangeb,-,-⟩ := hpopped.pair b (by simp)
  rw [throughJson_eq (hscores a hrangea)] at haScore
  rw [throughJson_eq (hscores b hrangeb)] at hbScore
  dsimp only at hm hra hrb hmode haScore hbScore
  generalize (r.scanned config mode now maxScan).foldl (visit config mode now) r = popped
    at h hpopped ⊢
  have hdistinct : read.a ≠ read.b := by rw [← hra,← hrb]; exact hab
  refine ⟨⟨?_,?_⟩,fun elapsed now' hlive hpa hpb => ?_,fun later now' values hlive hvalues hpa
    hpb => ?_⟩
  · rw [← hra,haScore]
    exact hrangea
  · rw [← hrb,hbScore]
    exact hrangeb
  · have hreserved : Redis.reservation (reservedAfter config popped
        ⟨a.1,a.2,b.1,b.2,now,gameId,matchId,mode⟩ elapsed) read.matchId =
        some ⟨a.1,a.2,b.1,b.2,now,gameId,matchId,mode⟩ := by
      obtain ⟨values,hvalues⟩ := Option.ne_none_iff_exists'.mp hlive
      have hkept := hvalues
      rw [← hm] at hkept ⊢
      exact hkept.trans (congrArg some (Keys.get_setPx_self hkept))
    have hrun := rollback_present config now' hdistinct hreserved howns hpa hpb
    refine ⟨_,hrun,?_⟩
    have hback := putBoth_requeued config mode matchId hab now'
      (r := reservedAfter config popped ⟨a.1,a.2,b.1,b.2,now,gameId,matchId,mode⟩ elapsed)
      (hpopped.score_pair config mode now a (by simp))
      (hpopped.score_pair config mode now b (by simp))
    have hundone := hpopped.undone config mode now ⟨a.1,a.2,b.1,b.2,now,gameId,
      matchId,mode⟩ hab hfree rfl rfl elapsed now'
    rw [hmode,haScore,hbScore,← hra,← hrb,← hm]
    exact ⟨hback.1,hback.2,Keys.get_del_self,hundone⟩
  · refine ⟨_,rollback_present config now' hdistinct hlive hvalues hpa hpb,?_,?_⟩
    · show ((later.requeue config read.mode now' read.a read.aScore).requeue config read.mode
        now' read.b read.bScore).queue.score read.a = _
      rw [requeue_score,if_neg hdistinct,requeue_score,if_pos rfl]
    · show ((later.requeue config read.mode now' read.a read.aScore).requeue config read.mode
        now' read.b read.bScore).queue.score read.b = _
      rw [requeue_score,if_pos rfl,requeue_score,if_neg hdistinct.symm]

end Redis

section Sample

/-! Two guests of whom one has a connection that has expired, and two whose scores have 15
digits. -/

def sampleTabs : Redis :=
  (matchmakingKeys sampleConfig).run (.initial 1000)
    [.refresh (sampleId 1) "a:0" 1000,.refresh (sampleId 1) "a:1" 30000,
      .refresh (sampleId 2) "a:2" 30000,.enqueue (sampleId 1) .blitz 30000,
      .enqueue (sampleId 2) .blitz 31000]

def sampleFar : Redis :=
  (matchmakingKeys sampleConfig).run (.initial 100000000000000)
    [.refresh (sampleId 1) "a:1" 100000000000001,.refresh (sampleId 2) "a:2" 100000000000001,
      .enqueue (sampleId 1) .blitz 100000000000001,.enqueue (sampleId 2) .blitz 100000000000002]

end Sample

theorem rollback_undoes_match_sample : ∃ attempt r' read r'',
    sampleQueued.redis.requestMatch sampleConfig .blitz 3000 (sampleId 20) (sampleId 10) 10 =
      (.ok attempt,r') ∧ attempt.reservation = some read ∧
    Redis.rollback sampleConfig { r' with clock := r'.clock + (500 : ℕ) } read
      ⟨⟨none,true⟩,⟨none,true⟩⟩ 3500 = (.ok [⟨sampleId 1,1000⟩,⟨sampleId 2,2000⟩],r'') ∧
    Redis.Undone 3500 attempt.discarded sampleQueued.redis r'' := by
  have hmatch : sampleQueued.redis.requestMatch sampleConfig .blitz 3000 (sampleId 20)
      (sampleId 10) 10 = (.ok ⟨[],some sampleReservation⟩,sampleReserved.redis) :=
    Prod.ext (by decide) rfl
  obtain ⟨-,hback,-⟩ := Redis.rollback_undoes_match sampleConfig .blitz 3000 hmatch rfl (by decide)
  obtain ⟨r'',hrun,-,-,-,hundone⟩ := hback 500 3500 (by decide) (by decide) (by decide)
  exact ⟨_,_,_,r'',hmatch,rfl,hrun,hundone⟩

/-- A match and its rollback remove a connection that has expired, and they round a score of
15 digits. -/
theorem rollback_leaves_traces :
    (∃ attempt r' read r'', sampleTabs.requestMatch sampleConfig .blitz 50000 (sampleId 20)
        (sampleId 10) 10 = (.ok attempt,r') ∧ attempt.reservation = some read ∧
      r'.rollback sampleConfig read ⟨⟨none,true⟩,⟨none,true⟩⟩ 50000 =
        (.ok [⟨sampleId 1,30000⟩,⟨sampleId 2,31000⟩],r'') ∧
      attempt.discarded = [] ∧
      SortedSet.score (sampleTabs.members (sampleId 1)) "a:0" = some 46000 ∧
      SortedSet.score (r''.members (sampleId 1)) "a:0" = none) ∧
    ∃ attempt r' read r'', sampleFar.requestMatch sampleConfig .blitz 100000000000003
        (sampleId 20) (sampleId 10) 10 = (.ok attempt,r') ∧ attempt.reservation = some read ∧
      r'.rollback sampleConfig read ⟨⟨none,true⟩,⟨none,true⟩⟩ 100000000000003 =
        (.ok [⟨sampleId 1,100000000000000⟩,⟨sampleId 2,100000000000000⟩],r'') ∧
      sampleFar.queue.score (sampleId 1) = some 100000000000001 ∧
      r''.queue.score (sampleId 1) = some 100000000000000 := by
  constructor
  · exact ⟨_,_,⟨sampleId 1,30000,sampleId 2,31000,50000,sampleId 10,sampleId 20,.blitz⟩,_,
      Prod.ext (by decide) rfl,rfl,Prod.ext (by decide) rfl,rfl,by decide,by decide⟩
  · exact ⟨_,_,⟨sampleId 1,100000000000000,sampleId 2,100000000000000,100000000000000,sampleId 10,
      sampleId 20,.blitz⟩,_,Prod.ext (by decide) rfl,rfl,Prod.ext (by decide) rfl,by decide,
      by decide⟩

end CluChess
