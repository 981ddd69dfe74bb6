import CluChess.GameDomain
import Mathlib.Algebra.Ring.Nat

/-! The pure clock of a game (`game-clock.ts`). Times are the integers a JavaScript
`number` holds exactly; the code checks that every duration is one of them. -/
namespace CluChess

/-- A JavaScript `Date`; the time of an invalid date is `NaN`. -/
inductive Date
  | invalid
  | valid (time : Millis)
  deriving DecidableEq, Repr

/-- The largest distance from the epoch that a `Date` can hold. -/
def maxDateTime : ℕ := 8640000000000000

/-- `new Date(time)`. -/
def Date.ofTime (time : Millis) : Date := if time.natAbs ≤ maxDateTime then .valid time else .invalid

/-- `Number.isSafeInteger`. -/
def isSafeInteger (n : ℤ) : Bool := decide (n.natAbs ≤ 2^53 - 1)

structure GameClock where
  blackMs : ℤ
  incrementMs : ℤ
  running : Option PlayerColor
  turnStartedAt : Option Date
  whiteMs : ℤ
  deriving DecidableEq, Repr

structure ClockView where
  blackMs : ℤ
  observedAt : Date
  running : Option PlayerColor
  whiteMs : ℤ
  deriving DecidableEq, Repr

inductive ClockAdmission
  | accepted (clock : GameClock) (elapsedMs : ℤ)
  | flagFall (clock : GameClock) (elapsedMs : ℤ) (flagged : PlayerColor)
  deriving DecidableEq, Repr

inductive PauseClockResult
  | paused (clock : GameClock) (elapsedMs : ℤ)
  | flagFall (clock : GameClock) (elapsedMs : ℤ) (flagged : PlayerColor)
  deriving DecidableEq, Repr

def invalidClock (message : String) : GameDomainError := ⟨.invalidClockState,message⟩

def assertDuration (value : ℤ) (field : String) : Except GameDomainError Unit :=
  if !isSafeInteger value || value < 0 then
    .error (invalidClock (field ++ " must be a non-negative safe integer."))
  else .ok ()

def assertPositiveDuration (value : ℤ) (field : String) : Except GameDomainError Unit := do
  assertDuration value field
  if value = 0 then .error (invalidClock (field ++ " must be positive.")) else .ok ()

def assertTimestamp : Date → Except GameDomainError Millis
  | .invalid => .error (invalidClock "Clock timestamps must be valid dates.")
  | .valid time => .ok time

def assertClock (clock : GameClock) : Except GameDomainError Unit := do
  assertDuration clock.whiteMs "whiteMs"
  assertDuration clock.blackMs "blackMs"
  assertDuration clock.incrementMs "incrementMs"
  if clock.running.isSome != clock.turnStartedAt.isSome then
    .error (invalidClock "A clock must have both a running color and start time, or neither.")
  else
    match clock.turnStartedAt with
    | none => .ok ()
    | some startedAt => do
      let _ ← assertTimestamp startedAt
      .ok ()

def checkedAdd (left right : ℤ) : Except GameDomainError ℤ :=
  let result := left + right
  if isSafeInteger result then .ok result
  else .error (invalidClock "The calculated clock exceeds the safe integer range.")

def remainingFor (clock : GameClock) (color : PlayerColor) : ℤ :=
  if color = .w then clock.whiteMs else clock.blackMs

def withRemaining (clock : GameClock) (color : PlayerColor) (remainingMs : ℤ) : GameClock :=
  if color = .w then { clock with whiteMs := remainingMs }
  else { clock with blackMs := remainingMs }

def requireRunning (clock : GameClock) : Except GameDomainError PlayerColor := do
  assertClock clock
  match clock.running with
  | none => .error (invalidClock "The clock is not running.")
  | some running => .ok running

/-- Every caller has run `assertClock`, so the start time is a valid date here. -/
def elapsedAt (clock : GameClock) (observedAt : Date) : Except GameDomainError ℤ := do
  let observed ← assertTimestamp observedAt
  match clock.turnStartedAt with
  | none => .error (invalidClock "The clock has no running timestamp.")
  | some startedAt => do
    let started ← assertTimestamp startedAt
    .ok (max 0 (observed - started))

def createGameClock (initialMs incrementMs : ℤ) : Except GameDomainError GameClock := do
  assertPositiveDuration initialMs "initialMs"
  assertDuration incrementMs "incrementMs"
  .ok ⟨initialMs,incrementMs,none,none,initialMs⟩

def resumeClock (clock : GameClock) (running : PlayerColor) (startedAt : Date) :
    Except GameDomainError GameClock := do
  assertClock clock
  let started ← assertTimestamp startedAt
  if clock.running ≠ none ∨ clock.turnStartedAt ≠ none then
    .error (invalidClock "A running clock cannot be resumed.")
  else if remainingFor clock running = 0 then
    .error (invalidClock "A player with no remaining time cannot resume.")
  else
    .ok { clock with running := some running, turnStartedAt := some (.valid started) }

/-- The clock of `flagFallClock`: the flagged side has no time and nothing runs. -/
def flagFallClock (clock : GameClock) (flagged : PlayerColor) : GameClock :=
  { withRemaining clock flagged 0 with running := none, turnStartedAt := none }

def pauseClock (clock : GameClock) (observedAt : Date) :
    Except GameDomainError PauseClockResult := do
  let running ← requireRunning clock
  let elapsedMs ← elapsedAt clock observedAt
  let remaining := remainingFor clock running
  if elapsedMs ≥ remaining then
    .ok (.flagFall (flagFallClock clock running) elapsedMs running)
  else
    .ok (.paused { withRemaining clock running (remaining - elapsedMs) with
      running := none, turnStartedAt := none } elapsedMs)

def admitMoveOnClock (clock : GameClock) (mover : PlayerColor) (serverReceivedAt : Date) :
    Except GameDomainError ClockAdmission := do
  let running ← requireRunning clock
  if running ≠ mover then
    .error (invalidClock "The mover does not own the running clock.")
  else
    let elapsedMs ← elapsedAt clock serverReceivedAt
    let remaining := remainingFor clock mover
    if elapsedMs ≥ remaining then
      .ok (.flagFall (flagFallClock clock mover) elapsedMs mover)
    else
      let afterIncrement ← checkedAdd (remaining - elapsedMs) clock.incrementMs
      .ok (.accepted { withRemaining clock mover afterIncrement with
        running := some (oppositeColor mover), turnStartedAt := some serverReceivedAt } elapsedMs)

def checkFlagFall (clock : GameClock) (observedAt : Date) :
    Except GameDomainError ClockAdmission := do
  let running ← requireRunning clock
  let elapsedMs ← elapsedAt clock observedAt
  if elapsedMs ≥ remainingFor clock running then
    .ok (.flagFall (flagFallClock clock running) elapsedMs running)
  else
    .ok (.accepted clock elapsedMs)

def clockViewAt (clock : GameClock) (observedAt : Date) : Except GameDomainError ClockView := do
  assertClock clock
  let observed ← assertTimestamp observedAt
  match clock.running with
  | none => .ok ⟨clock.blackMs,.valid observed,none,clock.whiteMs⟩
  | some running => do
    let elapsedMs ← elapsedAt clock observedAt
    let remaining := max 0 (remainingFor clock running - elapsedMs)
    let viewed := withRemaining clock running remaining
    .ok ⟨viewed.blackMs,.valid observed,some running,viewed.whiteMs⟩

def clockDeadline (clock : GameClock) : Except GameDomainError (Option Date) := do
  assertClock clock
  match clock.running,clock.turnStartedAt with
  | some running,some startedAt => do
    let started ← assertTimestamp startedAt
    .ok (some (.ofTime (started + remainingFor clock running)))
  | _,_ => .ok none

section Lemmas

@[simp] theorem remainingFor_withRemaining (clock : GameClock) (color : PlayerColor) (r : ℤ) :
    remainingFor (withRemaining clock color r) color = r := by
  cases color <;> rfl

@[simp] theorem remainingFor_withRemaining_opposite (clock : GameClock) (color : PlayerColor)
    (r : ℤ) : remainingFor (withRemaining clock color r) (oppositeColor color) =
      remainingFor clock (oppositeColor color) := by
  cases color <;> rfl

theorem checkedAdd_ok {left right r : ℤ} (h : checkedAdd left right = .ok r) :
    r = left + right := by
  unfold checkedAdd at h
  simp only at h
  split_ifs at h
  exact (Except.ok.inj h).symm

theorem requireRunning_ok {clock : GameClock} {color : PlayerColor}
    (h : requireRunning clock = .ok color) : clock.running = some color := by
  obtain ⟨_,_,h⟩ := bind_eq_ok.mp h
  cases hr : clock.running with
  | none => simp [hr] at h
  | some c =>
    simp only [hr] at h
    rw [Except.ok.inj h]

theorem elapsedAt_ok {clock : GameClock} {observed : Millis} {elapsed : ℤ}
    (h : elapsedAt clock (.valid observed) = .ok elapsed) :
    ∃ started, clock.turnStartedAt = some (.valid started) ∧
      elapsed = max 0 (observed - started) := by
  obtain ⟨o,ho,h⟩ := bind_eq_ok.mp h
  cases ho
  cases ht : clock.turnStartedAt with
  | none => simp [ht] at h
  | some date =>
    simp only [ht] at h
    obtain ⟨started,hs,h⟩ := bind_eq_ok.mp h
    cases date with
    | invalid => cases hs
    | valid t =>
      cases hs
      exact ⟨started,rfl,(Except.ok.inj h).symm⟩

theorem resumeClock_ok {clock resumed : GameClock} {color : PlayerColor} {startedAt : Millis}
    (h : resumeClock clock color (.valid startedAt) = .ok resumed) :
    0 ≠ remainingFor clock color ∧ resumed =
      { clock with running := some color, turnStartedAt := some (.valid startedAt) } := by
  obtain ⟨_,_,h⟩ := bind_eq_ok.mp h
  obtain ⟨started,hs,h⟩ := bind_eq_ok.mp h
  cases hs
  split_ifs at h with h₁ h₂
  exact ⟨fun he => h₂ he.symm,(Except.ok.inj h).symm⟩

/-- An accepted move leaves the mover the time before the flag and the increment. -/
theorem admitMoveOnClock_accepted {clock after : GameClock} {mover : PlayerColor}
    {observed : Millis} {elapsed : ℤ}
    (h : admitMoveOnClock clock mover (.valid observed) = .ok (.accepted after elapsed)) :
    clock.running = some mover ∧
      (∃ started, clock.turnStartedAt = some (.valid started) ∧
        elapsed = max 0 (observed - started)) ∧
      elapsed < remainingFor clock mover ∧
      after = { withRemaining clock mover
          (remainingFor clock mover - elapsed + clock.incrementMs) with
        running := some (oppositeColor mover), turnStartedAt := some (.valid observed) } := by
  obtain ⟨running,hr,h⟩ := bind_eq_ok.mp h
  have hrunning := requireRunning_ok hr
  split_ifs at h with hne
  obtain rfl : running = mover := not_not.mp hne
  obtain ⟨e,he,h⟩ := bind_eq_ok.mp h
  simp only at h
  split_ifs at h with hflag
  · cases h
  · obtain ⟨a,ha,h⟩ := bind_eq_ok.mp h
    cases h
    rw [checkedAdd_ok ha]
    exact ⟨hrunning,elapsedAt_ok he,not_le.mp hflag,rfl⟩

end Lemmas

end CluChess
