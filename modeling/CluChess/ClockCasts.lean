import CluChess.RepositoryTransactions

/-! The casts of `lockGameClock` to `INTEGER`: the row lock is obtained exactly when they fit, and
the clocks that it reads can then be stored. -/
namespace CluChess

variable {db : Db} {g : PersistedGame} {observation : Micros}

def PersistedGame.turnClockMs (g : PersistedGame) : ℤ :=
  if g.turnColor = .w then g.whiteClockMs else g.blackClockMs

/-- The two casts to `INTEGER` that `lockGameClock` makes of a started game. -/
def PersistedGame.ClockCasts (g : PersistedGame) (observation : Micros) : Prop :=
  ∀ t ∈ g.turnStartedAt, g.status.started = true → fitsInteger (elapsedMs observation t) ∧
    fitsInteger (g.turnClockMs - elapsedMs observation t)

theorem asInteger_eq {n : ℤ} (h : fitsInteger n) : asInteger n = .ok n := if_pos h

theorem lockedClockMs_eq (h : g.ClockCasts observation) {color : PlayerColor} {clockMs : ℤ}
    (hclock : g.turnColor = color → g.turnClockMs = clockMs) :
    lockedClockMs g color clockMs observation =
      .ok (runningClockMs g color clockMs observation) := by
  unfold lockedClockMs runningClockMs
  cases ht : g.turnStartedAt with
  | none => rfl
  | some t =>
    simp only
    split_ifs with hc
    · obtain ⟨helapsed,hremaining⟩ := h t ht hc.1
      rw [hclock hc.2] at hremaining
      rw [asInteger_eq helapsed]
      show (asInteger (clockMs - elapsedMs observation t) >>= _) = _
      rw [asInteger_eq hremaining]
      rfl
    · rfl

theorem Db.lockGameClock_eq {id : GameId} (hg : db.games.find id = some g)
    (h : g.ClockCasts observation) :
    db.lockGameClock id observation = .ok (some (g.locked observation)) := by
  have hwhite : g.turnColor = .w → g.turnClockMs = g.whiteClockMs := fun hw => by
    simp [PersistedGame.turnClockMs,hw]
  have hblack : g.turnColor = .b → g.turnClockMs = g.blackClockMs := fun hb => by
    simp [PersistedGame.turnClockMs,hb]
  simp only [lockGameClock,hg]
  rw [lockedClockMs_eq h hwhite,lockedClockMs_eq h hblack]
  rfl

theorem lockedClockMs_error {t : Millis} (ht : g.turnStartedAt = some t)
    (hs : g.status.started = true) {clockMs : ℤ} (h : ¬ (fitsInteger (elapsedMs observation t) ∧
      fitsInteger (clockMs - elapsedMs observation t))) :
    lockedClockMs g g.turnColor clockMs observation = .error .unknown := by
  simp only [lockedClockMs,ht,hs,true_and,if_true]
  by_cases helapsed : fitsInteger (elapsedMs observation t)
  · have hremaining : ¬ fitsInteger (clockMs - elapsedMs observation t) := fun hr =>
      h ⟨helapsed,hr⟩
    rw [asInteger_eq helapsed]
    show (asInteger (clockMs - elapsedMs observation t) >>= _) = _
    rw [asInteger,if_neg hremaining]
    rfl
  · rw [asInteger,if_neg helapsed]
    rfl

theorem Db.lockGameClock_error {id : GameId} (hg : db.games.find id = some g)
    (h : ¬ g.ClockCasts observation) : db.lockGameClock id observation = .error .unknown := by
  obtain ⟨t,ht,hs,hcasts⟩ : ∃ t, g.turnStartedAt = some t ∧ g.status.started = true ∧
      ¬ (fitsInteger (elapsedMs observation t) ∧
        fitsInteger (g.turnClockMs - elapsedMs observation t)) := by
    simp only [PersistedGame.ClockCasts,Option.mem_def,not_forall] at h
    obtain ⟨t,ht,hs,hcasts⟩ := h
    exact ⟨t,ht,hs,hcasts⟩
  have herror := lockedClockMs_error ht hs hcasts
  simp only [lockGameClock,hg]
  cases hc : g.turnColor with
  | w =>
    simp only [hc,PersistedGame.turnClockMs,if_true] at herror
    rw [herror]
    rfl
  | b =>
    simp only [hc,PersistedGame.turnClockMs,reduceCtorEq,if_false] at herror
    have hwhite : lockedClockMs g .w g.whiteClockMs observation = .ok g.whiteClockMs := by
      simp [lockedClockMs,ht,hc]
    rw [hwhite]
    show (lockedClockMs g .b g.blackClockMs observation >>= _) = _
    rw [herror]
    rfl

/-- The lock of a row that exists fails exactly when one of its casts does. -/
theorem Db.lockGameClock_ok_iff {id : GameId} (hg : db.games.find id = some g) :
    (∃ locked, db.lockGameClock id observation = .ok locked) ↔ g.ClockCasts observation := by
  by_cases h : g.ClockCasts observation
  · exact ⟨fun _ => h,fun _ => ⟨_,lockGameClock_eq hg h⟩⟩
  · rw [lockGameClock_error hg h]
    exact ⟨nofun,fun hc => absurd hc h⟩

theorem runningClockMs_fits (h : g.ClockCasts observation) {color : PlayerColor} {clockMs : ℤ}
    (hclock : g.turnColor = color → g.turnClockMs = clockMs) (hf : fitsInteger clockMs) :
    fitsInteger (runningClockMs g color clockMs observation) := by
  unfold runningClockMs
  cases ht : g.turnStartedAt with
  | none => exact hf
  | some t =>
    simp only
    split_ifs with hc
    · have hremaining := (h t ht hc.1).2
      rw [hclock hc.2] at hremaining
      unfold fitsInteger at hremaining ⊢
      omega
    · exact hf

theorem PersistedGame.ended_integersFit (hi : g.integersFit) (h : g.ClockCasts observation)
    (hv : g.version < 2147483647) (outcome : TerminalOutcome) :
    (g.ended observation outcome).integersFit := by
  obtain ⟨_,htime,hinc,hw,hb⟩ := hi
  refine ⟨?_,htime,hinc,runningClockMs_fits h (fun hc => ?_) hw,
    runningClockMs_fits h (fun hc => ?_) hb⟩
  · show fitsInteger ((g.version + 1 : ℕ) : ℤ)
    unfold fitsInteger
    omega
  · simp [turnClockMs,hc]
  · simp [turnClockMs,hc]

end CluChess
