import CluChess.RepositoryMachine

/-! The elapsed time of a turn is computed twice: by the SQL of `lockGameClock` and by
`clockViewAt`. The two agree on every observation that is not before the start of the turn. -/
namespace CluChess

/-- The stored clock of a row, as `GameRoomService.snapshot` passes it to `clockViewAt`. -/
def storedClock (g : PersistedGame) : GameClock where
  blackMs := g.blackClockMs
  incrementMs := g.incrementMs
  running := if g.status.started then some g.turnColor else none
  turnStartedAt := if g.status.started then g.turnStartedAt.map .valid else none
  whiteMs := g.whiteClockMs

/-- The locked clocks are those that `clockViewAt` shows at the truncated observation. -/
def ClocksAgree (g : PersistedGame) (observation : Micros) (locked : LockedGameClock) : Prop :=
  ∃ view, clockViewAt (storedClock g) (.valid (truncatedToMillis observation)) = .ok view ∧
    locked.whiteClockMs = view.whiteMs ∧ locked.blackClockMs = view.blackMs

def TerminalClocksBounded (db : Db) (g : PersistedGame) (locked : LockedGameClock) : Prop :=
  ∀ outcome submission db', db.finalizeTerminal g locked outcome = .ok (some submission,db') →
    (∀ g', db'.games.find g.id = some g' →
      g'.whiteClockMs ≤ g.whiteClockMs ∧ g'.blackClockMs ≤ g.blackClockMs) ∧
    submission.ended.clocks.whiteMs ≤ g.whiteClockMs ∧
    submission.ended.clocks.blackMs ≤ g.blackClockMs

variable {g : PersistedGame} {observation : Micros}

theorem elapsedMs_eq (observation : Micros) (t : Millis) :
    elapsedMs observation t = truncatedToMillis observation - t :=
  Int.sub_mul_ediv_right observation t (by decide)

theorem truncatedToMillis_le {t : Millis} :
    t ≤ truncatedToMillis observation ↔ t*1000 ≤ observation :=
  Int.le_ediv_iff_mul_le (by decide)

/-- Cutting the elapsed time off at zero makes no difference from the start of the turn on.
Before it the clock without the cut is the larger one. -/
theorem clamp_elapsed_iff {clock observed started : ℤ} (h : 0 ≤ clock) :
    max 0 (clock - (observed - started)) = max 0 (clock - max 0 (observed - started)) ↔
      started ≤ observed := by omega

theorem clamp_le {clock elapsed : ℤ} (h : 0 ≤ clock) (he : 0 ≤ elapsed) :
    max 0 (clock - elapsed) ≤ clock := by omega

theorem runningClockMs_started {t : Millis} (hs : g.status.started = true)
    (ht : g.turnStartedAt = some t) (color : PlayerColor) (clockMs : ℤ) :
    runningClockMs g color clockMs observation =
      if g.turnColor = color then max 0 (clockMs - (truncatedToMillis observation - t))
      else clockMs := by
  simp only [runningClockMs,ht,hs,true_and,elapsedMs_eq]

theorem isSafeInteger_of_fitsInteger {n : ℤ} (h : fitsInteger n) : isSafeInteger n = true := by
  obtain ⟨hl,hu⟩ := h
  simp only [isSafeInteger,decide_eq_true_eq]
  omega

theorem assertDuration_ok {n : ℤ} (field : String) (hf : fitsInteger n) (hn : 0 ≤ n) :
    assertDuration n field = .ok () := by
  simp [assertDuration,isSafeInteger_of_fitsInteger hf,not_lt.mpr hn]

theorem clockViewAt_started {t : Millis} (hi : g.integersFit) (hc : g.rowChecks)
    (hs : g.status.started = true) (ht : g.turnStartedAt = some t) (observed : Millis) :
    ∃ view, clockViewAt (storedClock g) (.valid observed) = .ok view ∧
      view.whiteMs = (if g.turnColor = .w then max 0 (g.whiteClockMs - max 0 (observed - t))
        else g.whiteClockMs) ∧
      view.blackMs = if g.turnColor = .b then max 0 (g.blackClockMs - max 0 (observed - t))
        else g.blackClockMs := by
  obtain ⟨_,_,hinc,hw,hb⟩ := hi
  obtain ⟨⟨_,hinc',hw',hb'⟩,_⟩ := hc
  have hclock : assertClock (storedClock g) = .ok () := by
    simp only [assertClock,storedClock,hs,ht,if_true,Option.map_some,
      assertDuration_ok "whiteMs" hw hw',assertDuration_ok "blackMs" hb hb',
      assertDuration_ok "incrementMs" hinc hinc']
    rfl
  have helapsed : elapsedAt (storedClock g) (.valid observed) = .ok (max 0 (observed - t)) := by
    simp only [elapsedAt,storedClock,hs,ht,if_true,Option.map_some]
    rfl
  have hrun : (storedClock g).running = some g.turnColor := by simp [storedClock,hs]
  unfold clockViewAt
  rw [hclock]
  simp only [hrun,helapsed]
  refine ⟨_,rfl,?_⟩
  cases hc : g.turnColor with
  | w => exact ⟨rfl,rfl⟩
  | b => exact ⟨rfl,rfl⟩

theorem finalizeTerminal_clocks {db db' : Db} {outcome : TerminalOutcome}
    {submission : TerminalSubmission} (hg : db.games.find g.id = some g)
    (h : db.finalizeTerminal g (g.locked observation) outcome = .ok (some submission,db')) :
    db'.games.find g.id = some (g.ended observation outcome) ∧
      submission.ended.clocks = terminalClock (g.locked observation) := by
  obtain ⟨guests,_,hr,_,rfl⟩ := finalizeTerminal_ok hg h
  cases hr
  have hne : db.games.find (g.ended observation outcome).id ≠ none := by
    rw [show (g.ended observation outcome).id = g.id from rfl,hg]
    simp
  refine ⟨?_,rfl⟩
  rw [find_settle hne]
  exact if_pos rfl

theorem terminalClocksBounded_of_le {db : Db} (hg : db.games.find g.id = some g)
    (hw : (g.locked observation).whiteClockMs ≤ g.whiteClockMs)
    (hb : (g.locked observation).blackClockMs ≤ g.blackClockMs) :
    TerminalClocksBounded db g (g.locked observation) := by
  intro outcome submission db' h
  obtain ⟨hfind,hclocks⟩ := finalizeTerminal_clocks hg h
  refine ⟨fun g' hg' => ?_,?_,?_⟩
  · rw [hfind] at hg'
    cases hg'
    exact ⟨hw,hb⟩
  · rw [hclocks]
    exact hw
  · rw [hclocks]
    exact hb

/-- For every row of the table that is being played and every observation that the lock
yields, the two clocks agree, and what is stored at the end stays bounded, exactly when the
observation is not before the start of the turn. -/
theorem locked_clock_agrees_iff {db : Db} {locked : LockedGameClock}
    (hg : db.games.find g.id = some g) (hi : g.integersFit) (hc : g.rowChecks)
    (hs : g.status.started = true)
    (hl : db.lockGameClock g.id observation = .ok (some locked)) :
    (ClocksAgree g observation locked ∧ TerminalClocksBounded db g locked) ↔
      ∀ t, g.turnStartedAt = some t → t*1000 ≤ observation := by
  obtain rfl : locked = g.locked observation := Option.some.inj (lockGameClock_found hg hl)
  obtain ⟨t,ht⟩ : ∃ t, g.turnStartedAt = some t := by
    have hturn := hc.2.2.2.1
    simp only [PersistedGame.turnClockStateCheck,hs,if_true] at hturn
    exact Option.isSome_iff_exists.mp hturn.1
  obtain ⟨view,hview,hvw,hvb⟩ :=
    clockViewAt_started hi hc hs ht (truncatedToMillis observation)
  have hw : (g.locked observation).whiteClockMs =
      if g.turnColor = .w then max 0 (g.whiteClockMs - (truncatedToMillis observation - t))
      else g.whiteClockMs := runningClockMs_started hs ht .w _
  have hb : (g.locked observation).blackClockMs =
      if g.turnColor = .b then max 0 (g.blackClockMs - (truncatedToMillis observation - t))
      else g.blackClockMs := runningClockMs_started hs ht .b _
  obtain ⟨_,_,hw0,hb0⟩ := hc.1
  have hcond : (∀ t', g.turnStartedAt = some t' → t'*1000 ≤ observation) ↔
      t ≤ truncatedToMillis observation := by
    rw [truncatedToMillis_le]
    exact ⟨fun h => h t ht,fun h t' ht' => Option.some.inj (ht.symm.trans ht') ▸ h⟩
  rw [hcond]
  constructor
  · rintro ⟨⟨view',hview',hw',hb'⟩,_⟩
    cases hview.symm.trans hview'
    cases hcolor : g.turnColor with
    | w =>
      simp only [hw,hvw,hcolor,if_true] at hw'
      exact (clamp_elapsed_iff hw0).mp hw'
    | b =>
      simp only [hb,hvb,hcolor,if_true] at hb'
      exact (clamp_elapsed_iff hb0).mp hb'
  · intro hle
    have hwhite := (clamp_elapsed_iff hw0).mpr hle
    have hblack := (clamp_elapsed_iff hb0).mpr hle
    refine ⟨⟨view,hview,by rw [hw,hvw,hwhite],by rw [hb,hvb,hblack]⟩,?_⟩
    have hpos : 0 ≤ truncatedToMillis observation - t := Int.sub_nonneg_of_le hle
    apply terminalClocksBounded_of_le hg
    · rw [hw]
      split_ifs
      · exact clamp_le hw0 hpos
      · exact le_refl _
    · rw [hb]
      split_ifs
      · exact clamp_le hb0 hpos
      · exact le_refl _

theorem locked_clock_agrees_iff_sample :
    (ClocksAgree (sampleGame sampleMoved) 9000000 ((sampleGame sampleMoved).locked 9000000) ∧
      TerminalClocksBounded (sampleRun sampleMoved) (sampleGame sampleMoved)
        ((sampleGame sampleMoved).locked 9000000)) ↔
      ∀ t, (sampleGame sampleMoved).turnStartedAt = some t → t*1000 ≤ 9000000 :=
  locked_clock_agrees_iff (by decide)
    (by decide) (by decide) (by decide) rfl

/-- White's move commits at eight seconds. A transaction that has observed six seconds and
then waits for the row lock reads two seconds more than Black's stored clock, and a
resignation that does so stores and reports them. -/
theorem locked_clock_before_turn :
    (sampleRun sampleMoved).games.find (sampleId 10) = some (sampleGame sampleMoved) ∧
      (sampleGame sampleMoved).status = .inProgress ∧
      (sampleRun sampleMoved).lockGameClock (sampleId 10) 6000000 =
        .ok (some ((sampleGame sampleMoved).locked 6000000)) ∧
      ¬ ClocksAgree (sampleGame sampleMoved) 6000000 ((sampleGame sampleMoved).locked 6000000) ∧
      ¬ TerminalClocksBounded (sampleRun sampleMoved) (sampleGame sampleMoved)
        ((sampleGame sampleMoved).locked 6000000) := by
  refine ⟨by decide,by decide,rfl,?_,?_⟩
  · rintro ⟨view,hview,_,hb⟩
    have hshown : clockViewAt (storedClock (sampleGame sampleMoved))
        (.valid (truncatedToMillis 6000000)) = .ok ⟨300000,.valid 6000,some .b,299000⟩ := by decide
    cases hshown.symm.trans hview
    exact absurd hb (by decide)
  · intro hbounded
    have hstored : ((sampleRun sampleMoved).finalizeTerminal (sampleGame sampleMoved)
        ((sampleGame sampleMoved).locked 6000000) ⟨.whiteWin,.completed,.resignation,some .w⟩).map
          (fun r => r.1.map fun s => s.ended.clocks.blackMs) = .ok (some 302000) := by decide
    obtain ⟨⟨_ | submission,db'⟩,hcommit,hms⟩ := map_eq_ok.mp hstored
    · cases hms
    · have hblack : submission.ended.clocks.blackMs = 302000 := Option.some.inj hms
      have h := (hbounded _ _ _ hcommit).2.2
      rw [hblack] at h
      exact absurd h (by decide)

end CluChess
