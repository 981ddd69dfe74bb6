import CluChess.GameClock
import Mathlib.Order.MinMax

/-! The flag of `game-clock.ts`. Five functions compute the elapsed time and its bound on their own;
on every clock that the module can produce they agree on the millisecond at which the flag falls. -/
namespace CluChess

structure GameClock.WellFormed (clock : GameClock) : Prop where
  white : 0 ≤ clock.whiteMs ∧ isSafeInteger clock.whiteMs = true
  black : 0 ≤ clock.blackMs ∧ isSafeInteger clock.blackMs = true
  increment : 0 ≤ clock.incrementMs ∧ isSafeInteger clock.incrementMs = true
  runs : (clock.running = none ∧ clock.turnStartedAt = none) ∨
    ∃ color started, clock.running = some color ∧ clock.turnStartedAt = some (.valid started)

def GameClock.BothPositive (clock : GameClock) : Prop := 0 < clock.whiteMs ∧ 0 < clock.blackMs

/-- The clocks that come from `createGameClock` by the other operations, at valid dates. The flag
says whether a pause on the way has reported the fall of the flag. -/
inductive Obtained : Bool → GameClock → Prop
  | created {clock : GameClock} {initialMs incrementMs : ℤ}
      (h : createGameClock initialMs incrementMs = .ok clock) : Obtained false clock
  | resumed {flagged : Bool} {clock clock' : GameClock} {color : PlayerColor} {t : Millis}
      (hc : Obtained flagged clock) (h : resumeClock clock color (.valid t) = .ok clock') :
      Obtained flagged clock'
  | paused {flagged : Bool} {clock clock' : GameClock} {t : Millis} {elapsedMs : ℤ}
      (hc : Obtained flagged clock)
      (h : pauseClock clock (.valid t) = .ok (.paused clock' elapsedMs)) :
      Obtained flagged clock'
  | flagFall {flagged : Bool} {clock clock' : GameClock} {t : Millis} {elapsedMs : ℤ}
      {color : PlayerColor} (hc : Obtained flagged clock)
      (h : pauseClock clock (.valid t) = .ok (.flagFall clock' elapsedMs color)) :
      Obtained true clock'
  | accepted {flagged : Bool} {clock clock' : GameClock} {mover : PlayerColor} {t : Millis}
      {elapsedMs : ℤ} (hc : Obtained flagged clock)
      (h : admitMoveOnClock clock mover (.valid t) = .ok (.accepted clock' elapsedMs)) :
      Obtained flagged clock'

def ClockView.remaining (view : ClockView) (color : PlayerColor) : ℤ :=
  if color = .w then view.whiteMs else view.blackMs

/-- At an instant, all functions agree on whether the flag of the running side has fallen. -/
structure FlagFallAgrees (clock : GameClock) (running : PlayerColor) (deadline t : Millis) :
    Prop where
  check : (∃ after elapsedMs, checkFlagFall clock (.valid t) =
    .ok (.flagFall after elapsedMs running)) ↔ deadline ≤ t
  pause : (∃ after elapsedMs, pauseClock clock (.valid t) =
    .ok (.flagFall after elapsedMs running)) ↔ deadline ≤ t
  admits : (∃ after elapsedMs, admitMoveOnClock clock running (.valid t) =
    .ok (.flagFall after elapsedMs running)) ↔ deadline ≤ t
  view : (∃ view, clockViewAt clock (.valid t) = .ok view ∧ view.remaining running = 0) ↔
    deadline ≤ t

section WellFormed

variable {clock clock' : GameClock}

theorem assertDuration_eq_ok {value : ℤ} {field : String} :
    assertDuration value field = .ok () ↔ 0 ≤ value ∧ isSafeInteger value = true := by
  unfold assertDuration
  by_cases hsafe : isSafeInteger value = true
  · by_cases hneg : value < 0
    · simp [hsafe,hneg]
    · simp [hsafe,hneg,not_lt.mp hneg]
  · simp [hsafe]

theorem assertClock_ok_iff : assertClock clock = .ok () ↔ clock.WellFormed := by
  constructor
  · intro h
    obtain ⟨_,hw,h⟩ := bind_eq_ok.mp h
    obtain ⟨_,hb,h⟩ := bind_eq_ok.mp h
    obtain ⟨_,hi,h⟩ := bind_eq_ok.mp h
    refine ⟨assertDuration_eq_ok.mp hw,assertDuration_eq_ok.mp hb,assertDuration_eq_ok.mp hi,?_⟩
    split_ifs at h with hsome
    cases hr : clock.running with
    | none =>
      cases ht : clock.turnStartedAt with
      | none => exact Or.inl ⟨rfl,rfl⟩
      | some date => simp [hr,ht] at hsome
    | some color =>
      cases ht : clock.turnStartedAt with
      | none => simp [hr,ht] at hsome
      | some date =>
        cases date with
        | invalid =>
          rw [ht] at h
          cases h
        | valid started => exact Or.inr ⟨color,started,rfl,rfl⟩
  · intro h
    unfold assertClock
    rw [assertDuration_eq_ok.mpr h.white,assertDuration_eq_ok.mpr h.black,
      assertDuration_eq_ok.mpr h.increment]
    rcases h.runs with ⟨hr,ht⟩ | ⟨color,started,hr,ht⟩ <;> rw [hr,ht] <;> rfl

theorem GameClock.WellFormed.remaining (h : clock.WellFormed) (color : PlayerColor) :
    0 ≤ remainingFor clock color ∧ isSafeInteger (remainingFor clock color) = true := by
  cases color with
  | w => exact h.white
  | b => exact h.black

theorem GameClock.WellFormed.withRemaining (h : clock.WellFormed) (color : PlayerColor) {r : ℤ}
    (hr : 0 ≤ r ∧ isSafeInteger r = true) {running : Option PlayerColor}
    {turnStartedAt : Option Date} (hruns : (running = none ∧ turnStartedAt = none) ∨
      ∃ color started, running = some color ∧ turnStartedAt = some (.valid started)) :
    { CluChess.withRemaining clock color r with
      running := running, turnStartedAt := turnStartedAt }.WellFormed := by
  cases color with
  | w => exact ⟨hr,h.black,h.increment,hruns⟩
  | b => exact ⟨h.white,hr,h.increment,hruns⟩

theorem isSafeInteger_of_le {r s : ℤ} (hr : 0 ≤ r) (hs : isSafeInteger s = true) (hle : r ≤ s) :
    isSafeInteger r = true := by
  unfold isSafeInteger at hs ⊢
  rw [decide_eq_true_eq] at hs ⊢
  omega

theorem GameClock.BothPositive.withRemaining (h : clock.BothPositive) (color : PlayerColor) {r : ℤ}
    (hr : 0 < r) (running : Option PlayerColor) (turnStartedAt : Option Date) :
    { CluChess.withRemaining clock color r with
      running := running, turnStartedAt := turnStartedAt }.BothPositive := by
  cases color with
  | w => exact ⟨hr,h.2⟩
  | b => exact ⟨h.1,hr⟩

theorem GameClock.BothPositive.remaining (h : clock.BothPositive) (color : PlayerColor) :
    0 < remainingFor clock color := by
  cases color with
  | w => exact h.1
  | b => exact h.2

end WellFormed

section Running

/-! What the functions compute on a well-formed clock that runs. -/

variable {clock : GameClock} {running : PlayerColor} {started t : Millis}

theorem requireRunning_eq (h : clock.WellFormed) (hr : clock.running = some running) :
    requireRunning clock = .ok running := by
  unfold requireRunning
  rw [assertClock_ok_iff.mpr h,hr]
  rfl

theorem elapsedAt_eq (ht : clock.turnStartedAt = some (.valid started)) :
    elapsedAt clock (.valid t) = .ok (max 0 (t - started)) := by
  unfold elapsedAt
  rw [ht]
  rfl

theorem pauseClock_eq (h : clock.WellFormed) (hr : clock.running = some running)
    (ht : clock.turnStartedAt = some (.valid started)) : pauseClock clock (.valid t) =
      if max 0 (t - started) ≥ remainingFor clock running then
        .ok (.flagFall (flagFallClock clock running) (max 0 (t - started)) running)
      else .ok (.paused { withRemaining clock running
          (remainingFor clock running - max 0 (t - started)) with
        running := none, turnStartedAt := none } (max 0 (t - started))) := by
  unfold pauseClock
  rw [requireRunning_eq h hr,elapsedAt_eq ht]
  rfl

theorem checkFlagFall_eq (h : clock.WellFormed) (hr : clock.running = some running)
    (ht : clock.turnStartedAt = some (.valid started)) : checkFlagFall clock (.valid t) =
      if max 0 (t - started) ≥ remainingFor clock running then
        .ok (.flagFall (flagFallClock clock running) (max 0 (t - started)) running)
      else .ok (.accepted clock (max 0 (t - started))) := by
  unfold checkFlagFall
  rw [requireRunning_eq h hr,elapsedAt_eq ht]
  rfl

theorem admitMoveOnClock_eq (h : clock.WellFormed) (hr : clock.running = some running)
    (ht : clock.turnStartedAt = some (.valid started)) :
    admitMoveOnClock clock running (.valid t) =
      if max 0 (t - started) ≥ remainingFor clock running then
        .ok (.flagFall (flagFallClock clock running) (max 0 (t - started)) running)
      else
        (checkedAdd (remainingFor clock running - max 0 (t - started)) clock.incrementMs).map
          fun afterIncrement => .accepted { withRemaining clock running afterIncrement with
            running := some (oppositeColor running), turnStartedAt := some (.valid t) }
            (max 0 (t - started)) := by
  unfold admitMoveOnClock
  rw [requireRunning_eq h hr,elapsedAt_eq ht]
  show (if running ≠ running then _ else _) = _
  rw [if_neg (not_not.mpr rfl)]
  show (if _ then _ else _) = _
  split_ifs
  · rfl
  · cases checkedAdd (remainingFor clock running - max 0 (t - started)) clock.incrementMs <;> rfl

theorem clockViewAt_eq (h : clock.WellFormed) (hr : clock.running = some running)
    (ht : clock.turnStartedAt = some (.valid started)) : ∃ view,
      clockViewAt clock (.valid t) = .ok view ∧
      view.remaining running = max 0 (remainingFor clock running - max 0 (t - started)) := by
  unfold clockViewAt
  rw [assertClock_ok_iff.mpr h,hr,elapsedAt_eq ht]
  cases running with
  | w => exact ⟨_,rfl,rfl⟩
  | b => exact ⟨_,rfl,rfl⟩

theorem elapsed_ge_iff {remaining started t : ℤ} (h : 0 < remaining ∨ started ≤ t) :
    max 0 (t - started) ≥ remaining ↔ started + remaining ≤ t := by
  omega

/-- All views of the flag agree on a well-formed clock, from the start of the turn on, and before
it when the running side has time left. -/
theorem flagFall_agrees (h : clock.WellFormed) (hr : clock.running = some running)
    (ht : clock.turnStartedAt = some (.valid started))
    (hpos : 0 < remainingFor clock running ∨ started ≤ t) :
    FlagFallAgrees clock running (started + remainingFor clock running) t := by
  have hiff := elapsed_ge_iff hpos
  constructor
  · rw [checkFlagFall_eq h hr ht]
    split_ifs with hflag
    · exact iff_of_true ⟨_,_,rfl⟩ (hiff.mp hflag)
    · exact iff_of_false nofun fun hle => hflag (hiff.mpr hle)
  · rw [pauseClock_eq h hr ht]
    split_ifs with hflag
    · exact iff_of_true ⟨_,_,rfl⟩ (hiff.mp hflag)
    · exact iff_of_false nofun fun hle => hflag (hiff.mpr hle)
  · rw [admitMoveOnClock_eq h hr ht]
    split_ifs with hflag
    · exact iff_of_true ⟨_,_,rfl⟩ (hiff.mp hflag)
    · refine iff_of_false ?_ fun hle => hflag (hiff.mpr hle)
      rintro ⟨after,elapsedMs,hadmitted⟩
      obtain ⟨_,_,hadmitted⟩ := map_eq_ok.mp hadmitted
      cases hadmitted
  · obtain ⟨view,hview,hremaining⟩ := clockViewAt_eq (t := t) h hr ht
    have hzero : view.remaining running = 0 ↔ started + remainingFor clock running ≤ t := by
      rw [hremaining,← hiff,max_eq_left_iff]
      exact ⟨Int.le_of_sub_nonpos,Int.sub_nonpos_of_le⟩
    rw [← hzero]
    constructor
    · rintro ⟨view',hview',hz⟩
      rw [hview] at hview'
      cases hview'
      exact hz
    · intro hz
      exact ⟨view,hview,hz⟩

end Running

section Obtained

variable {clock clock' : GameClock} {flagged : Bool}

theorem requireRunning_runs {running : PlayerColor} (h : requireRunning clock = .ok running) :
    clock.WellFormed ∧ clock.running = some running ∧
      ∃ started, clock.turnStartedAt = some (.valid started) := by
  have hrunning := requireRunning_ok h
  obtain ⟨_,hassert,_⟩ := bind_eq_ok.mp h
  have hwell := assertClock_ok_iff.mp hassert
  refine ⟨hwell,hrunning,?_⟩
  rcases hwell.runs with ⟨hr,_⟩ | ⟨_,started,_,ht⟩
  · rw [hrunning] at hr
    cases hr
  · exact ⟨started,ht⟩

theorem createGameClock_ok {initialMs incrementMs : ℤ}
    (h : createGameClock initialMs incrementMs = .ok clock) :
    clock.WellFormed ∧ clock.BothPositive := by
  obtain ⟨_,hinitial,h⟩ := bind_eq_ok.mp h
  obtain ⟨_,hincrement,h⟩ := bind_eq_ok.mp h
  obtain ⟨_,hduration,hpositive⟩ := bind_eq_ok.mp hinitial
  have hne : initialMs ≠ 0 := by
    intro hzero
    rw [if_pos hzero] at hpositive
    cases hpositive
  have htime := assertDuration_eq_ok.mp hduration
  have hpos : 0 < initialMs := lt_of_le_of_ne htime.1 (Ne.symm hne)
  cases h
  exact ⟨⟨htime,htime,assertDuration_eq_ok.mp hincrement,Or.inl ⟨rfl,rfl⟩⟩,hpos,hpos⟩

/-- A pause that does not report the fall of the flag leaves the running side some time. -/
theorem pauseClock_paused {t : Millis} {elapsedMs : ℤ}
    (h : pauseClock clock (.valid t) = .ok (.paused clock' elapsedMs)) :
    clock'.WellFormed ∧ (clock.BothPositive → clock'.BothPositive) := by
  obtain ⟨running,hrequire,_⟩ := bind_eq_ok.mp h
  obtain ⟨hwell,hr,started,ht⟩ := requireRunning_runs hrequire
  rw [pauseClock_eq hwell hr ht] at h
  by_cases hflag : max 0 (t - started) ≥ remainingFor clock running
  · rw [if_pos hflag] at h
    cases h
  rw [if_neg hflag] at h
  cases h
  have hlt := not_le.mp hflag
  have hleft : 0 < remainingFor clock running - max 0 (t - started) := Int.sub_pos_of_lt hlt
  have hle : remainingFor clock running - max 0 (t - started) ≤ remainingFor clock running :=
    Int.sub_le_self _ (le_max_left _ _)
  have hsafe := isSafeInteger_of_le hleft.le (hwell.remaining running).2 hle
  exact ⟨hwell.withRemaining running ⟨hleft.le,hsafe⟩ (Or.inl ⟨rfl,rfl⟩),
    fun hpos => hpos.withRemaining running hleft none none⟩

theorem pauseClock_flagFall {t : Millis} {elapsedMs : ℤ} {color : PlayerColor}
    (h : pauseClock clock (.valid t) = .ok (.flagFall clock' elapsedMs color)) :
    clock'.WellFormed := by
  obtain ⟨running,hrequire,_⟩ := bind_eq_ok.mp h
  obtain ⟨hwell,hr,started,ht⟩ := requireRunning_runs hrequire
  rw [pauseClock_eq hwell hr ht] at h
  by_cases hflag : max 0 (t - started) ≥ remainingFor clock running
  swap
  · rw [if_neg hflag] at h
    cases h
  rw [if_pos hflag] at h
  injection h with h
  injection h with hclock
  subst hclock
  exact hwell.withRemaining running ⟨le_refl 0,rfl⟩ (Or.inl ⟨rfl,rfl⟩)

theorem admitMoveOnClock_ok {mover : PlayerColor} {t : Millis} {elapsedMs : ℤ}
    (h : admitMoveOnClock clock mover (.valid t) = .ok (.accepted clock' elapsedMs)) :
    clock'.WellFormed ∧ (clock.BothPositive → clock'.BothPositive) := by
  obtain ⟨running,hrequire,_⟩ := bind_eq_ok.mp h
  obtain ⟨hrunning,_⟩ := admitMoveOnClock_accepted h
  obtain ⟨hwell,_,started,ht⟩ := requireRunning_runs hrequire
  rw [admitMoveOnClock_eq hwell hrunning ht] at h
  by_cases hflag : max 0 (t - started) ≥ remainingFor clock mover
  · rw [if_pos hflag] at h
    cases h
  rw [if_neg hflag] at h
  obtain ⟨afterIncrement,hadd,hafter⟩ := map_eq_ok.mp h
  cases hafter
  have hsum := checkedAdd_ok hadd
  have hsafe : isSafeInteger afterIncrement = true := by
    unfold checkedAdd at hadd
    simp only at hadd
    split_ifs at hadd with hs
    cases hadd
    exact hs
  have hleft : 0 < afterIncrement := by
    have hlt := Int.sub_pos_of_lt (not_le.mp hflag)
    have hincrement := hwell.increment.1
    omega
  exact ⟨hwell.withRemaining mover ⟨hleft.le,hsafe⟩ (Or.inr ⟨_,t,rfl,rfl⟩),
    fun hpos => hpos.withRemaining mover hleft _ _⟩

/-- Every clock that the operations produce is well formed, and both sides have time left as long
as no pause has reported the fall of a flag. -/
theorem Obtained.sound (h : Obtained flagged clock) :
    clock.WellFormed ∧ (flagged = false → clock.BothPositive) := by
  induction h with
  | created h =>
    obtain ⟨hwell,hpos⟩ := createGameClock_ok h
    exact ⟨hwell,fun _ => hpos⟩
  | @resumed flagged clock clock' color t _ h ih =>
    obtain ⟨hwell,hpos⟩ := ih
    obtain ⟨_,rfl⟩ := resumeClock_ok h
    exact ⟨⟨hwell.white,hwell.black,hwell.increment,Or.inr ⟨color,t,rfl,rfl⟩⟩,hpos⟩
  | paused _ h ih =>
    obtain ⟨hwell,hpos⟩ := pauseClock_paused h
    exact ⟨hwell,fun hf => hpos (ih.2 hf)⟩
  | flagFall _ h _ => exact ⟨pauseClock_flagFall h,nofun⟩
  | accepted _ h ih =>
    obtain ⟨hwell,hpos⟩ := admitMoveOnClock_ok h
    exact ⟨hwell,fun hf => hpos (ih.2 hf)⟩

end Obtained

theorem clockDeadline_eq {clock : GameClock} {deadline : Millis}
    (h : clockDeadline clock = .ok (some (.valid deadline))) : ∃ running started,
      clock.running = some running ∧ clock.turnStartedAt = some (.valid started) ∧
      deadline = started + remainingFor clock running := by
  obtain ⟨_,hassert,h⟩ := bind_eq_ok.mp h
  rcases (assertClock_ok_iff.mp hassert).runs with ⟨hr,ht⟩ | ⟨running,started,hr,ht⟩
  · simp [hr,ht] at h
  · refine ⟨running,started,hr,ht,?_⟩
    simp only [hr,ht] at h
    obtain ⟨started',hstarted,h⟩ := bind_eq_ok.mp h
    cases hstarted
    have hdate : Date.ofTime (started + remainingFor clock running) = .valid deadline := by
      injection h with h
      injection h
    unfold Date.ofTime at hdate
    split_ifs at hdate
    injection hdate with htime
    exact htime.symm

/-- On every clock that the operations produce, both times are non-negative, a side runs exactly
when its turn has a start, and all functions agree at every instant on the fall of the flag, as
long as no pause has reported one before. -/
theorem flag_fall_agreement {flagged : Bool} {clock : GameClock} (h : Obtained flagged clock) :
    0 ≤ clock.whiteMs ∧ 0 ≤ clock.blackMs ∧
    clock.running.isSome = clock.turnStartedAt.isSome ∧
    (flagged = false → ∀ running, clock.running = some running →
      0 < remainingFor clock running ∧
      ∀ deadline, clockDeadline clock = .ok (some (.valid deadline)) →
        ∀ t, FlagFallAgrees clock running deadline t) := by
  obtain ⟨hwell,hpos⟩ := h.sound
  refine ⟨hwell.white.1,hwell.black.1,?_,fun hf running hr => ?_⟩
  · rcases hwell.runs with ⟨hr,ht⟩ | ⟨_,_,hr,ht⟩ <;> rw [hr,ht] <;> rfl
  · have hleft := (hpos hf).remaining running
    refine ⟨hleft,fun deadline hd t => ?_⟩
    obtain ⟨running',started,hr',ht,rfl⟩ := clockDeadline_eq hd
    obtain rfl : running = running' := Option.some.inj (hr.symm.trans hr')
    exact flagFall_agrees hwell hr ht (Or.inl hleft)

section Sample

def sampleRunningClock : GameClock := ⟨1000,0,some .w,some (.valid 0),1000⟩

theorem sampleRunningClock_obtained : Obtained false sampleRunningClock := by
  have hcreated : createGameClock 1000 0 = .ok ⟨1000,0,none,none,1000⟩ := rfl
  have hresumed : resumeClock ⟨1000,0,none,none,1000⟩ .w (.valid 0) = .ok sampleRunningClock := rfl
  exact .resumed (.created hcreated) hresumed

/-- The flag of white falls, black resumes and moves, and white runs without any time. -/
def sampleFlaggedClock : GameClock := ⟨500,0,some .w,some (.valid 6500),0⟩

theorem sampleFlaggedClock_obtained : Obtained true sampleFlaggedClock := by
  have hfell : pauseClock sampleRunningClock (.valid 5000) =
      .ok (.flagFall ⟨1000,0,none,none,0⟩ 5000 .w) := rfl
  have hblack : resumeClock ⟨1000,0,none,none,0⟩ .b (.valid 6000) =
      .ok ⟨1000,0,some .b,some (.valid 6000),0⟩ := rfl
  have hmoved : admitMoveOnClock ⟨1000,0,some .b,some (.valid 6000),0⟩ .b (.valid 6500) =
      .ok (.accepted sampleFlaggedClock 500) := rfl
  exact .accepted (.resumed (.flagFall sampleRunningClock_obtained hfell) hblack) hmoved

end Sample

theorem flag_fall_agreement_sample : 0 < remainingFor sampleRunningClock .w ∧
    FlagFallAgrees sampleRunningClock .w 1000 999 ∧
    FlagFallAgrees sampleRunningClock .w 1000 1000 := by
  obtain ⟨hpos,hagrees⟩ :=
    (flag_fall_agreement sampleRunningClock_obtained).2.2.2 rfl .w rfl
  exact ⟨hpos,hagrees 1000 rfl 999,hagrees 1000 rfl 1000⟩

/-- After a pause that reported the fall of the flag, white runs with no time left, and the flag
is reported before the deadline. -/
theorem flagged_clock_disagrees : Obtained true sampleFlaggedClock ∧
    sampleFlaggedClock.running = some .w ∧ remainingFor sampleFlaggedClock .w = 0 ∧
    clockDeadline sampleFlaggedClock = .ok (some (.valid 6500)) ∧
    ¬ FlagFallAgrees sampleFlaggedClock .w 6500 6000 := by
  refine ⟨sampleFlaggedClock_obtained,rfl,rfl,rfl,fun hagrees => ?_⟩
  have hcheck : ∃ after elapsedMs, checkFlagFall sampleFlaggedClock (.valid 6000) =
      .ok (.flagFall after elapsedMs .w) := ⟨_,_,rfl⟩
  have hlate := hagrees.check.mp hcheck
  exact absurd hlate (by decide)

end CluChess
