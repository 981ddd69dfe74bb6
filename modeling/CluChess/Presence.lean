import CluChess.ExpiringStore
import CluChess.Persistence

/-! The Redis working set of matchmaking and presence, and `presence.service.ts`. -/
namespace CluChess

structure AppConfig where
  graceMs : ℕ
  joinDeadlineMs : ℕ
  matchStateTtlMs : ℕ
  presenceTtlMs : ℕ
  queueGuardTtlMs : ℕ
  queueMaxWaitMs : ℕ
  reservationTtlMs : ℕ
  socketPingTimeoutMs : ℕ
  timeIncrementMs : ℕ
  timeInitialMs : ℕ
  deriving DecidableEq, Repr

/-- The durations of the default configuration. -/
def sampleConfig : AppConfig where
  graceMs := 30000
  joinDeadlineMs := 20000
  matchStateTtlMs := 3600000
  presenceTtlMs := 45000
  queueGuardTtlMs := 120000
  queueMaxWaitMs := 120000
  reservationTtlMs := 30000
  socketPingTimeoutMs := 20000
  timeIncrementMs := 2000
  timeInitialMs := 300000

inductive MatchMode
  | blitz
  deriving DecidableEq, Repr

inductive MatchState
  | idle | inGame | queued | reserved
  deriving DecidableEq, Repr

structure MatchReservation where
  a : GuestSessionId
  aScore : Millis
  b : GuestSessionId
  bScore : Millis
  createdAt : Millis
  gameId : GameId
  matchId : MatchId
  mode : MatchMode
  deriving DecidableEq, Repr

/-- The instance and the socket of a connection. -/
abbrev SocketMember := String

/-- The keys of Redis, and its clock. The active-game keys are set without an expiry. -/
structure Redis where
  clock : Millis
  queue : SortedSet GuestSessionId
  guards : Keys GuestSessionId MatchMode
  states : Keys GuestSessionId MatchState
  activeGames : GuestSessionId → Option GameId
  reservations : Keys MatchId MatchReservation
  presence : Keys GuestSessionId (SortedSet SocketMember)

/-- What becomes of a command that is sent to Redis. -/
inductive RedisDelivery
  | answered | replyLost | unreached
  deriving DecidableEq, Repr

namespace Redis

def initial (clock : Millis) : Redis where
  clock := clock
  queue := .empty
  guards := .empty
  states := .empty
  activeGames := fun _ => none
  reservations := .empty
  presence := .empty

def state (r : Redis) (guest : GuestSessionId) : Option MatchState := r.states.get r.clock guest

def guard (r : Redis) (guest : GuestSessionId) : Option MatchMode := r.guards.get r.clock guest

def reservation (r : Redis) (matchId : MatchId) : Option MatchReservation :=
  r.reservations.get r.clock matchId

def members (r : Redis) (guest : GuestSessionId) : SortedSet SocketMember :=
  r.presence.sortedSet r.clock guest

def prune (r : Redis) (guest : GuestSessionId) (now : Millis) : Redis :=
  { r with presence := r.presence.updateSet r.clock guest fun s => s.removeUpTo now }

/-- `PresenceService.refresh`, which `markConnected` is. -/
def refresh (config : AppConfig) (r : Redis) (guest : GuestSessionId) (socket : SocketMember)
    (now : Millis) : ℕ × Redis :=
  let r := r.prune guest now
  let added := r.presence.updateSet r.clock guest fun s =>
    s.add socket (now + config.presenceTtlMs)
  let keyTtlMs := config.presenceTtlMs + config.socketPingTimeoutMs
  let r := { r with presence := added.pexpire r.clock guest keyTtlMs }
  let r := { r with guards := r.guards.pexpire r.clock guest config.queueGuardTtlMs }
  ((r.members guest).card,r)

def remove (r : Redis) (guest : GuestSessionId) (socket : SocketMember) (now : Millis) :
    ℕ × Redis :=
  let r := r.prune guest now
  let removed := r.presence.updateSet r.clock guest fun s => s.remove socket
  let r := { r with presence := removed }
  ((r.members guest).card,r)

/-- `PresenceService.isPresent`, and `is_present` of the matchmaking scripts. -/
def isPresent (r : Redis) (guest : GuestSessionId) (now : Millis) : Bool × Redis :=
  let r := r.prune guest now
  (decide ((r.members guest).card > 0),r)

section Lemmas

variable {config : AppConfig} {r : Redis} {guest other : GuestSessionId} {socket : SocketMember}
  {now : Millis}

theorem members_prune : (r.prune guest now).members guest = (r.members guest).removeUpTo now :=
  r.presence.sortedSet_updateSet r.clock guest fun s => s.removeUpTo now

theorem presence_prune_of_ne (h : other ≠ guest) :
    (r.prune guest now).presence other = r.presence other :=
  r.presence.updateSet_of_ne r.clock h fun s => s.removeUpTo now

theorem members_prune_of_ne (h : other ≠ guest) :
    (r.prune guest now).members other = r.members other :=
  Keys.sortedSet_congr (presence_prune_of_ne h)

theorem members_refresh : (r.refresh config guest socket now).2.members guest =
    ((r.members guest).removeUpTo now).add socket (now + config.presenceTtlMs) := by
  have httl : (0 : ℤ) ≤ ((config.presenceTtlMs + config.socketPingTimeoutMs : ℕ) : ℤ) := by omega
  rw [← members_prune]
  exact (Keys.sortedSet_pexpire httl).trans ((r.prune guest now).presence.sortedSet_updateSet
    r.clock guest fun s => s.add socket (now + config.presenceTtlMs))

theorem members_refresh_of_ne (h : other ≠ guest) :
    (r.refresh config guest socket now).2.members other = r.members other := by
  have hadded : (r.refresh config guest socket now).2.presence other =
      (r.prune guest now).presence other :=
    (Keys.pexpire_of_ne h _).trans ((r.prune guest now).presence.updateSet_of_ne r.clock h
      fun s => s.add socket (now + config.presenceTtlMs))
  exact Keys.sortedSet_congr (hadded.trans (presence_prune_of_ne h))

theorem members_remove : (r.remove guest socket now).2.members guest =
    ((r.members guest).removeUpTo now).remove socket := by
  rw [← members_prune]
  exact (r.prune guest now).presence.sortedSet_updateSet r.clock guest fun s => s.remove socket

theorem members_remove_of_ne (h : other ≠ guest) :
    (r.remove guest socket now).2.members other = r.members other := by
  have hremoved : (r.remove guest socket now).2.presence other = (r.prune guest now).presence other :=
    (r.prune guest now).presence.updateSet_of_ne r.clock h fun s => s.remove socket
  exact Keys.sortedSet_congr (hremoved.trans (presence_prune_of_ne h))

theorem remove_count : (r.remove guest socket now).1 =
    ((r.remove guest socket now).2.members guest).card := rfl

/-- No connection of the guest has expired at this instant. -/
def Unexpired (r : Redis) (guest : GuestSessionId) (now : Millis) : Prop :=
  ∀ m ∈ (r.members guest).rows, now < m.2

def Present (r : Redis) (guest : GuestSessionId) : Prop := 0 < (r.members guest).card

instance : Decidable (r.Present guest) := inferInstanceAs (Decidable (_ < _))

theorem Present.refresh : (r.refresh config guest socket now).2.Present guest := by
  rw [Present,members_refresh]
  exact SortedSet.card_add_pos _

theorem present_refresh_of_ne (h : other ≠ guest) :
    (r.refresh config guest socket now).2.Present other ↔ r.Present other := by
  rw [Present,members_refresh_of_ne h,Present]

theorem present_remove_iff : (r.remove guest socket now).2.Present guest ↔
    (r.remove guest socket now).1 ≠ 0 := by
  rw [Present,remove_count]
  exact Nat.pos_iff_ne_zero

theorem present_remove_of_ne (h : other ≠ guest) :
    (r.remove guest socket now).2.Present other ↔ r.Present other := by
  rw [Present,members_remove_of_ne h,Present]

theorem Present.of_remove (hu : r.Unexpired guest now)
    (h : (r.remove guest socket now).2.Present guest) : r.Present guest := by
  rw [Present,members_remove,SortedSet.removeUpTo_of_lt hu] at h
  exact h.trans_le SortedSet.card_remove_le

end Lemmas

end Redis

/-- PostgreSQL and Redis. -/
structure Stores where
  db : Db
  redis : Redis

end CluChess
