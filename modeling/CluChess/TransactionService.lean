import CluChess.Persistence
import CluChess.GameClock

/-! `transaction.service.ts`: the row lock of a game together with the clocks that SQL
computes while it waits for the lock, and the order of the guest locks. -/
namespace CluChess

/-- `LockedGameClock`. The observation has been truncated to a `Date`. -/
structure LockedGameClock where
  blackClockMs : ℤ
  observedAt : Millis
  status : GameStatus
  turnColor : PlayerColor
  turnStartedAt : Option Millis
  version : ℕ
  whiteClockMs : ℤ
  deriving DecidableEq, Repr

def truncatedToMillis (observation : Micros) : Millis := observation / 1000

/-- `floor(extract(epoch FROM (observation - turn_started_at)) * 1000)`. The start of a
turn is stored in whole milliseconds. -/
def elapsedMs (observation : Micros) (turnStartedAt : Millis) : ℤ :=
  (observation - turnStartedAt*1000) / 1000

def asInteger (n : ℤ) : Except DatabaseErrorKind ℤ :=
  if fitsInteger n then .ok n else .error .unknown

def lockedClockMs (game : PersistedGame) (color : PlayerColor) (clockMs : ℤ)
    (observation : Micros) : Except DatabaseErrorKind ℤ :=
  match game.turnStartedAt with
  | none => .ok clockMs
  | some turnStartedAt =>
    if game.status.started ∧ game.turnColor = color then do
      let elapsed ← asInteger (elapsedMs observation turnStartedAt)
      let remaining ← asInteger (clockMs - elapsed)
      .ok (max 0 remaining)
    else .ok clockMs

namespace Db

/-- `lockGameClock`. The observation is taken before the lock is obtained, the row is read
under the lock. -/
def lockGameClock (db : Db) (gameId : GameId) (observation : Micros) :
    Except DatabaseErrorKind (Option LockedGameClock) :=
  match db.games.find gameId with
  | none => .ok none
  | some game => do
    let whiteClockMs ← lockedClockMs game .w game.whiteClockMs observation
    let blackClockMs ← lockedClockMs game .b game.blackClockMs observation
    .ok (some {
      blackClockMs := blackClockMs
      observedAt := truncatedToMillis observation
      status := game.status
      turnColor := game.turnColor
      turnStartedAt := game.turnStartedAt
      version := game.version
      whiteClockMs := whiteClockMs })

end Db

/-- `[...new Set(ids)].sort()`, the order in which `lockGuestSessions` locks the guests. -/
def sortedIds (ids : List GuestSessionId) : List GuestSessionId :=
  ids.dedup.insertionSort (· ≤ ·)

section Lemmas

def runningClockMs (game : PersistedGame) (color : PlayerColor) (clockMs : ℤ)
    (observation : Micros) : ℤ :=
  match game.turnStartedAt with
  | none => clockMs
  | some turnStartedAt =>
    if game.status.started ∧ game.turnColor = color then
      max 0 (clockMs - elapsedMs observation turnStartedAt)
    else clockMs

theorem asInteger_ok {n m : ℤ} (h : asInteger n = .ok m) : m = n := by
  unfold asInteger at h
  split_ifs at h
  exact (Except.ok.inj h).symm

theorem lockedClockMs_ok {game : PersistedGame} {color : PlayerColor} {clockMs r : ℤ}
    {observation : Micros} (h : lockedClockMs game color clockMs observation = .ok r) :
    r = runningClockMs game color clockMs observation := by
  unfold lockedClockMs at h
  unfold runningClockMs
  cases ht : game.turnStartedAt with
  | none =>
    simp only [ht] at h
    exact (Except.ok.inj h).symm
  | some t =>
    simp only [ht] at h
    split_ifs at h with hc
    · obtain ⟨e,he,h⟩ := bind_eq_ok.mp h
      obtain ⟨m,hm,h⟩ := bind_eq_ok.mp h
      simp only [if_pos hc]
      rw [← Except.ok.inj h,asInteger_ok hm,asInteger_ok he]
    · simp only [if_neg hc]
      exact (Except.ok.inj h).symm

theorem runningClockMs_nonneg {game : PersistedGame} {color : PlayerColor} {clockMs : ℤ}
    (h : 0 ≤ clockMs) (observation : Micros) :
    0 ≤ runningClockMs game color clockMs observation := by
  unfold runningClockMs
  split
  · exact h
  · split_ifs
    · exact le_max_left 0 _
    · exact h

def PersistedGame.locked (game : PersistedGame) (observation : Micros) : LockedGameClock where
  blackClockMs := runningClockMs game .b game.blackClockMs observation
  observedAt := truncatedToMillis observation
  status := game.status
  turnColor := game.turnColor
  turnStartedAt := game.turnStartedAt
  version := game.version
  whiteClockMs := runningClockMs game .w game.whiteClockMs observation

theorem lockGameClock_found {db : Db} {gameId : GameId} {observation : Micros}
    {game : PersistedGame} (hg : db.games.find gameId = some game)
    {r : Option LockedGameClock} (h : db.lockGameClock gameId observation = .ok r) :
    r = some (game.locked observation) := by
  simp only [Db.lockGameClock,hg] at h
  obtain ⟨w,hw,h⟩ := bind_eq_ok.mp h
  obtain ⟨b,hb,h⟩ := bind_eq_ok.mp h
  rw [← Except.ok.inj h,lockedClockMs_ok hw,lockedClockMs_ok hb]
  rfl

theorem lockGameClock_ok {db : Db} {gameId : GameId} {observation : Micros}
    {r : Option LockedGameClock} (h : db.lockGameClock gameId observation = .ok r) :
    (db.games.find gameId = none ∧ r = none) ∨
      ∃ game, db.games.find gameId = some game ∧ r = some (game.locked observation) := by
  cases hg : db.games.find gameId with
  | none =>
    simp only [Db.lockGameClock,hg] at h
    exact Or.inl ⟨rfl,(Except.ok.inj h).symm⟩
  | some game => exact Or.inr ⟨game,rfl,lockGameClock_found hg h⟩

end Lemmas

end CluChess
