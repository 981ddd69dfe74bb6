import CluChess.GameRepository
import CluChess.Presence

/-! The Lua scripts of matchmaking (`infrastructure/lua`) and the script that clears the
active-game key of a guest (`game-ephemeral-state.service.ts`). Redis runs each of them as one
step. The one mode has the one queue. -/
namespace CluChess

inductive MatchmakingErrorCode
  | alreadyInGame | dependencyUnavailable | reservationMismatch
  deriving DecidableEq, Repr

structure QueueJoin where
  duplicate : Bool
  position : ℕ
  since : Millis
  deriving DecidableEq, Repr

inductive RemovalReason
  | disconnected | stale | timeout
  deriving DecidableEq, Repr

structure RemovedQueueGuest where
  guestSessionId : GuestSessionId
  reason : RemovalReason
  deriving DecidableEq, Repr

structure MatchAttempt where
  discarded : List RemovedQueueGuest
  reservation : Option MatchReservation
  deriving DecidableEq, Repr

structure RequeuedGuest where
  guestSessionId : GuestSessionId
  since : Millis
  deriving DecidableEq, Repr

/-- What PostgreSQL says of the two guests of a reservation. -/
structure DurableGuests where
  a : GuestMatchEligibility
  b : GuestMatchEligibility
  deriving DecidableEq, Repr

/-- A guest that `try-match.lua` has popped and accepted. -/
structure Candidate where
  guestSessionId : GuestSessionId
  score : Millis
  deriving DecidableEq, Repr

namespace Redis

section Commands

/-! The commands that the scripts are made of. -/

@[simp] def setState (r : Redis) (guest : GuestSessionId) (state : MatchState) (ttl : ℤ) : Redis :=
  { r with states := r.states.setPx r.clock guest state ttl }

@[simp] def delState (r : Redis) (guest : GuestSessionId) : Redis :=
  { r with states := r.states.del guest }

@[simp] def setGuard (r : Redis) (guest : GuestSessionId) (mode : MatchMode) (ttl : ℤ) : Redis :=
  { r with guards := r.guards.setPx r.clock guest mode ttl }

@[simp] def delGuard (r : Redis) (guest : GuestSessionId) : Redis :=
  { r with guards := r.guards.del guest }

@[simp] def expireGuard (r : Redis) (guest : GuestSessionId) (ttl : ℤ) : Redis :=
  { r with guards := r.guards.pexpire r.clock guest ttl }

@[simp] def setActiveGame (r : Redis) (guest : GuestSessionId) (gameId : GameId) : Redis :=
  { r with activeGames := Function.update r.activeGames guest (some gameId) }

@[simp] def delActiveGame (r : Redis) (guest : GuestSessionId) : Redis :=
  { r with activeGames := Function.update r.activeGames guest none }

@[simp] def zadd (r : Redis) (guest : GuestSessionId) (score : Millis) : Redis :=
  { r with queue := r.queue.add guest score }

@[simp] def zrem (r : Redis) (guest : GuestSessionId) : Redis :=
  { r with queue := r.queue.remove guest }

@[simp] def setReservation (r : Redis) (reservation : MatchReservation) (ttl : ℤ) : Redis :=
  { r with reservations := r.reservations.setPx r.clock reservation.matchId reservation ttl }

@[simp] def delReservation (r : Redis) (matchId : MatchId) : Redis :=
  { r with reservations := r.reservations.del matchId }

def position (r : Redis) (guest : GuestSessionId) : ℕ := (r.queue.rank guest).getD 0 + 1

end Commands

variable (config : AppConfig)

def enqueue (r : Redis) (guest : GuestSessionId) (mode : MatchMode) (now : Millis) :
    Except MatchmakingErrorCode QueueJoin × Redis :=
  if (r.activeGames guest).isSome ∨ r.state guest = some .reserved ∨
      r.state guest = some .inGame then
    (.error .alreadyInGame,r)
  else
    match r.queue.score guest with
    | some score =>
      let r := r.setGuard guest mode config.queueGuardTtlMs
      let r := r.setState guest .queued config.matchStateTtlMs
      (.ok ⟨true,r.position guest,score⟩,r)
    | none =>
      let r := r.zadd guest now
      let r := r.setGuard guest mode config.queueGuardTtlMs
      let r := r.setState guest .queued config.matchStateTtlMs
      (.ok ⟨false,r.position guest,now⟩,r)

def idleIfQueued (r : Redis) (guest : GuestSessionId) : Redis :=
  if r.state guest = some .queued then r.setState guest .idle config.matchStateTtlMs else r

def leave (r : Redis) (guest : GuestSessionId) : Bool × Redis :=
  let removed := (r.queue.score guest).isSome
  let r := r.zrem guest
  let r := r.delGuard guest
  (removed,r.idleIfQueued config guest)

/-- The check of an entry of the queue that `try-match.lua` and `sweep.lua` share. -/
def examine (r : Redis) (mode : MatchMode) (now : Millis) (guest : GuestSessionId)
    (score : Millis) : Option RemovalReason × Redis :=
  if score ≤ now - config.queueMaxWaitMs then (some .timeout,r)
  else
    let (present,r) := r.isPresent guest now
    if present = false then (some .disconnected,r)
    else if r.state guest ≠ some .queued ∨ r.guard guest ≠ some mode ∨
        (r.activeGames guest).isSome then
      (some .stale,r)
    else (none,r)

def discard (r : Redis) (guest : GuestSessionId) : Redis :=
  let r := r.delGuard guest
  if r.state guest = some .queued then r.delState guest else r

/-- The loop of `try-match.lua` over at most `maxScan` entries. -/
def scan (mode : MatchMode) (now : Millis) : ℕ → Redis → List Candidate →
    List RemovedQueueGuest → List Candidate × List RemovedQueueGuest × Redis
  | 0, r, candidates, discarded => (candidates,discarded,r)
  | maxScan + 1, r, candidates, discarded =>
    if candidates.length = 2 then (candidates,discarded,r)
    else
      match r.queue.popMin with
      | none => (candidates,discarded,r)
      | some ((guest,score),queue) =>
        match examine config { r with queue := queue } mode now guest score with
        | (some reason,r) =>
          scan mode now maxScan (r.discard guest) candidates (discarded ++ [⟨guest,reason⟩])
        | (none,r) => scan mode now maxScan r (candidates ++ [⟨guest,score⟩]) discarded

/-- A candidate without a partner goes back to its place. -/
def putBack (r : Redis) (candidate : Candidate) : Redis :=
  let r := r.zadd candidate.guestSessionId candidate.score
  r.expireGuard candidate.guestSessionId config.queueGuardTtlMs

/-- The writes of `try-match.lua` for a pair. -/
def reserve (r : Redis) (reservation : MatchReservation) : Redis :=
  let r := r.setState reservation.a .reserved config.reservationTtlMs
  let r := r.setState reservation.b .reserved config.reservationTtlMs
  let r := (r.delGuard reservation.a).delGuard reservation.b
  r.setReservation reservation config.reservationTtlMs

def tryMatch (r : Redis) (mode : MatchMode) (matchId : MatchId) (gameId : GameId) (now : Millis)
    (maxScan : ℕ) : Except MatchmakingErrorCode MatchAttempt × Redis :=
  if (r.reservation matchId).isSome then (.error .reservationMismatch,r)
  else
    match scan config mode now maxScan r [] [] with
    | (a :: b :: _,discarded,r) =>
      if a.guestSessionId = b.guestSessionId then
        (.ok ⟨[],none⟩,r.zadd a.guestSessionId a.score)
      else
        let reservation : MatchReservation :=
          ⟨a.guestSessionId,a.score,b.guestSessionId,b.score,now,gameId,matchId,mode⟩
        (.ok ⟨discarded,some reservation⟩,r.reserve config reservation)
    | (candidates,discarded,r) =>
      (.ok ⟨discarded,none⟩,candidates.foldl (putBack config) r)

def owns (values reservation : MatchReservation) : Bool :=
  decide (values.matchId = reservation.matchId) && decide (values.a = reservation.a) &&
    decide (values.b = reservation.b) && decide (values.gameId = reservation.gameId)

@[simp] def setInGame (r : Redis) (guest : GuestSessionId) (gameId : GameId) : Redis :=
  (r.setState guest .inGame config.matchStateTtlMs).setActiveGame guest gameId

/-- `finalize.lua`; it answers whether it is a duplicate. -/
def finalize (r : Redis) (reservation : MatchReservation) :
    Except MatchmakingErrorCode Bool × Redis :=
  match r.reservation reservation.matchId with
  | none =>
    if r.activeGames reservation.a = some reservation.gameId ∧
        r.activeGames reservation.b = some reservation.gameId then
      (.ok true,r)
    else (.error .reservationMismatch,r)
  | some values =>
    if owns values reservation then
      let r := r.setInGame config reservation.a reservation.gameId
      let r := r.setInGame config reservation.b reservation.gameId
      let r := r.delReservation reservation.matchId
      (.ok false,(r.delGuard reservation.a).delGuard reservation.b)
    else (.error .reservationMismatch,r)

def isSettled (r : Redis) (mode : MatchMode) (guest : GuestSessionId)
    (assignment : Option GameId) : Bool :=
  match assignment with
  | some gameId => r.activeGames guest = some gameId ∧ r.state guest = some .inGame
  | none =>
    let queued := (r.queue.score guest).isSome ∧ r.state guest = some .queued ∧
      r.guard guest = some mode
    let idle := r.queue.score guest = none ∧ r.activeGames guest = none ∧
      r.state guest ≠ some .reserved
    queued ∨ idle

/-- `restore` of `rollback.lua`: the guest, if it is requeued, and the state. -/
def restore (r : Redis) (mode : MatchMode) (now : Millis) (guest : GuestSessionId)
    (score : Millis) (durable : GuestMatchEligibility) : List RequeuedGuest × Redis :=
  match durable.activeGameId with
  | some gameId =>
    let r := (r.zrem guest).delGuard guest
    ([],r.setInGame config guest gameId)
  | none =>
    let r := r.delActiveGame guest
    let (present,r) := if durable.eligible then r.isPresent guest now else (false,r)
    if present then
      let r := if (r.queue.score guest).all fun current => score < current then
        r.zadd guest score else r
      let r := r.setGuard guest mode config.queueGuardTtlMs
      ([⟨guest,score⟩],r.setState guest .queued config.matchStateTtlMs)
    else
      let r := (r.zrem guest).delGuard guest
      ([],r.setState guest .idle config.matchStateTtlMs)

/-- `rollback.lua`; it answers the guests that it has requeued. -/
def rollback (r : Redis) (reservation : MatchReservation) (durable : DurableGuests)
    (now : Millis) : Except MatchmakingErrorCode (List RequeuedGuest) × Redis :=
  match r.reservation reservation.matchId with
  | none =>
    if r.isSettled reservation.mode reservation.a durable.a.activeGameId ∧
        r.isSettled reservation.mode reservation.b durable.b.activeGameId then
      (.ok [],r)
    else (.error .reservationMismatch,r)
  | some values =>
    if owns values reservation then
      let (a,r) := r.restore config reservation.mode now reservation.a reservation.aScore durable.a
      let (b,r) := r.restore config reservation.mode now reservation.b reservation.bScore durable.b
      (.ok (a ++ b),r.delReservation reservation.matchId)
    else (.error .reservationMismatch,r)

def sweepEntry (mode : MatchMode) (now : Millis) (acc : List RemovedQueueGuest × Redis)
    (entry : GuestSessionId × Millis) : List RemovedQueueGuest × Redis :=
  let (removed,r) := acc
  let (guest,score) := entry
  match r.examine config mode now guest score with
  | (none,r) => (removed,r)
  | (some reason,r) =>
    if (r.queue.score guest).isSome then
      let r := (r.zrem guest).delGuard guest
      (removed ++ [⟨guest,reason⟩],r.idleIfQueued config guest)
    else (removed,r)

def sweep (r : Redis) (mode : MatchMode) (now : Millis) (batch : ℕ) :
    List RemovedQueueGuest × Redis :=
  (r.queue.range.take batch).foldl (sweepEntry config mode now) ([],r)

/-- `repair-committed.lua`; it answers whether it has changed anything. -/
def repairCommitted (r : Redis) (gameId : GameId) (a b : GuestSessionId) :
    Except MatchmakingErrorCode Bool × Redis :=
  if (r.activeGames a).any (· ≠ gameId) ∨ (r.activeGames b).any (· ≠ gameId) then
    (.error .reservationMismatch,r)
  else
    let changed := r.activeGames a ≠ some gameId ∨ r.activeGames b ≠ some gameId ∨
      r.state a ≠ some .inGame ∨ r.state b ≠ some .inGame
    let r := (r.setInGame config a gameId).setInGame config b gameId
    let r := (r.zrem a).zrem b
    (.ok (decide changed),(r.delGuard a).delGuard b)

/-- The script of `clearActiveGame`. -/
def clearActiveGame (r : Redis) (guest : GuestSessionId) (expected : GameId) : Bool × Redis :=
  if r.activeGames guest = some expected then
    (true,(r.delActiveGame guest).setState guest .idle config.matchStateTtlMs)
  else if r.activeGames guest = none ∧ r.state guest = some .inGame then
    (true,r.setState guest .idle config.matchStateTtlMs)
  else (false,r)

end Redis
end CluChess
