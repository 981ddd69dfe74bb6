import CluChess.GameDeadlines
import CluChess.SendableOutcomes
import CluChess.SingleStart

/-! `adjudicateGame` of `game-lifecycle.service.ts`: what it does with a game that the deadline
machinery finds due. The rule of a deadline exists three times, in the `WHERE` of `findDueGameIds`,
in the dates of `findDeadline` and in the clock that the adjudicator locks. -/
namespace CluChess

inductive LifecycleError
  | repository (error : RepositoryError)
  | schema (error : SchemaError)
  | players
  deriving DecidableEq, Repr

structure GraceState where
  dueGuestSessionIds : List GuestSessionId
  guestSessionIds : GuestSessionId × GuestSessionId
  deriving DecidableEq, Repr

/-- What `adjudicateGame` observes: the instants of its statements, the guests that the presence
store shows (nothing when it cannot be read), and the stamp of the announcement. -/
structure AdjudicationInput where
  noShowAt : Micros
  timeoutAt : Micros
  graceAt : Micros
  abandonmentAt : Micros
  present : Option (List GuestSessionId)
  stamp : Stamp
  deriving DecidableEq, Repr

def completed (submission : TerminalSubmission) (stamp : Stamp) :
    Except LifecycleError (Option TerminalSubmission) :=
  match completeTerminal submission stamp with
  | .ok _ => .ok (some submission)
  | .error e => .error (.schema e)

namespace Db

def findGraceState (db : Db) (gameId : GameId) (observation : Micros) :
    Except LifecycleError (Option GraceState) :=
  match db.games.find gameId with
  | none => .ok none
  | some game =>
    if game.status ≠ .reconnecting then .ok none
    else
      match guestPair game with
      | none => .error .players
      | some guestSessionIds =>
        let dueGuestSessionIds := (game.players.filter fun p =>
          p.reconnectGraceEndsAt.any fun e => e ≤ truncatedToMillis observation).map
            GamePlayer.guestSessionId
        if dueGuestSessionIds = [] then .ok none
        else .ok (some ⟨dueGuestSessionIds,guestSessionIds⟩)

/-- The part of `adjudicateGame` about a grace that has passed. -/
def adjudicateGrace (db : Db) (gameId : GameId) (input : AdjudicationInput) :
    Except LifecycleError (Option TerminalSubmission) × Db :=
  match db.findGraceState gameId input.graceAt,input.present with
  | .error e,_ => (.error e,db)
  | .ok none,_ | .ok (some _),none => (.ok none,db)
  | .ok (some grace),some present =>
    let absent := [grace.guestSessionIds.1,grace.guestSessionIds.2].filter (· ∉ present)
    if ¬ grace.dueGuestSessionIds.any (· ∈ absent) then (.ok none,db)
    else
      match db.adjudicateAbandonment gameId absent input.abandonmentAt with
      | (.error e,db) => (.error (.repository e),db)
      | (.ok none,db) => (.ok none,db)
      | (.ok (some abandonment),db) => (completed abandonment input.stamp,db)

def adjudicateGame (db : Db) (gameId : GameId) (input : AdjudicationInput) :
    Except LifecycleError (Option TerminalSubmission) × Db :=
  match db.adjudicateNoShow gameId input.noShowAt with
  | (.error e,db) => (.error (.repository e),db)
  | (.ok (some noShow),db) => (completed noShow input.stamp,db)
  | (.ok none,db) =>
    match db.adjudicateTimeout gameId input.timeoutAt with
    | (.error e,db) => (.error (.repository e),db)
    | (.ok (some timeout),db) => (completed timeout input.stamp,db)
    | (.ok none,db) => db.adjudicateGrace gameId input

end Db

/-! ### Due games -/

namespace PersistedGame

def JoinDue (g : PersistedGame) (now : Micros) : Prop :=
  g.status = .waitingForPlayers ∧ ∃ d ∈ g.joinDeadlineAt, d*1000 ≤ now

def ClockDue (g : PersistedGame) (now : Micros) : Prop :=
  g.status.started = true ∧ ∃ t ∈ g.turnStartedAt, (t + g.turnClockMs)*1000 ≤ now

structure TimeoutCommits (g : PersistedGame) (input : AdjudicationInput) : Prop where
  noShowAt : ∀ t ∈ g.turnStartedAt, elapsedMs input.noShowAt t ≤ 2147483647
  timeoutAt : ∀ t ∈ g.turnStartedAt, elapsedMs input.timeoutAt t ≤ 2147483647
  started : ∀ s ∈ g.startedAt, s ≤ truncatedToMillis input.timeoutAt
  version : g.version < 2147483647
  pgn : jsLength g.pgn ≤ maxPgnLength

end PersistedGame

structure AdjudicationInput.Served (input : AdjudicationInput) (now : Micros) : Prop where
  noShowAt : now ≤ input.noShowAt ∧ Micros.isInstant input.noShowAt
  timeoutAt : now ≤ input.timeoutAt ∧ Micros.isInstant input.timeoutAt
  stamp : input.stamp.Valid

def Db.EndsAs (db : Db) (gameId : GameId) (input : AdjudicationInput)
    (termination : GameTermination) : Prop :=
  ∃ submission db' g', db.adjudicateGame gameId input = (.ok (some submission),db') ∧
    submission.ended.gameId = gameId ∧ submission.ended.termination = termination ∧
    db'.games.find gameId = some g' ∧ g'.status.terminal = true ∧
    g'.termination = some (persistedTermination termination)

/-- The scheduler and the adjudicator agree on a game: they find the same games due, and a game
that is due by its join deadline or by its clock is ended. -/
structure Db.DeadlinesAgree (db : Db) (gameId : GameId) (g : PersistedGame) (now : Micros)
    (input : AdjudicationInput) : Prop where
  due : g.due now = true ↔ ∃ d, db.findDeadline gameId = some ⟨d,gameId⟩ ∧ d*1000 ≤ now
  join : g.JoinDue now → db.EndsAs gameId input .noShow
  clock : g.ClockDue now → db.EndsAs gameId input .timeout

structure PersistedGame.EndCommits (g : PersistedGame) (now : Micros)
    (input : AdjudicationInput) : Prop where
  join : g.JoinDue now → jsLength g.pgn ≤ maxPgnLength
  clock : g.ClockDue now → g.TimeoutCommits input

section Due

variable {g : PersistedGame} {now : Micros}

/-- The scheduler and the adjudicator find the same games due. -/
theorem due_iff_findDeadline {db : Db} {id : GameId} (hg : db.games.find id = some g) :
    g.due now = true ↔ ∃ d, db.findDeadline id = some ⟨d,id⟩ ∧ d*1000 ≤ now := by
  rw [due_iff]
  simp only [Db.findDeadline,hg]
  constructor
  · rintro ⟨d,hd,hle⟩
    have hne : earliest g.deadlineCandidates ≠ none := by
      rw [Ne,earliest_eq_none]
      exact List.ne_nil_of_mem hd
    obtain ⟨e,he⟩ := Option.ne_none_iff_exists'.mp hne
    have hmin := (earliest_eq_some.mp he).2 d hd
    have hpassed : e*1000 ≤ now := by
      have hmul : e*1000 ≤ d*1000 := Int.mul_le_mul_of_nonneg_right hmin (by decide)
      exact hmul.trans hle
    exact ⟨e,by simp [he],hpassed⟩
  · rintro ⟨d,hd,hle⟩
    obtain ⟨e,he,hde⟩ := Option.map_eq_some_iff.mp hd
    cases hde
    exact ⟨d,(earliest_eq_some.mp he).1,hle⟩

theorem PersistedGame.JoinDue.event (h : g.JoinDue now) {observation : Micros}
    (ho : now ≤ observation) : Db.noShowEvent (g.locked observation) g =
      some (.noShow ((g.players.filter fun p => p.joinedAt.isSome).map GamePlayer.color)) := by
  obtain ⟨hs,d,hd,hle⟩ := h
  have hpassed : d ≤ truncatedToMillis observation := truncatedToMillis_le.mpr (hle.trans ho)
  have hlocked : (g.locked observation).status = .waitingForPlayers := hs
  unfold Db.noShowEvent
  rw [if_neg (not_not.mpr hlocked)]
  simp only [Option.mem_def.mp hd]
  exact if_neg (not_lt.mpr hpassed)

theorem PersistedGame.ClockDue.event (h : g.ClockDue now) {observation : Micros}
    (ho : now ≤ observation) :
    Db.timeoutEvent (g.locked observation) g = some (.timeout g.turnColor) := by
  obtain ⟨hs,t,ht,hle⟩ := h
  have hpassed : t + g.turnClockMs ≤ truncatedToMillis observation :=
    truncatedToMillis_le.mpr (hle.trans ho)
  have hlocked : ¬ ((g.locked observation).status ≠ .inProgress ∧
      (g.locked observation).status ≠ .reconnecting) := by
    show ¬ (g.status ≠ .inProgress ∧ g.status ≠ .reconnecting)
    revert hs
    cases g.status <;> simp [GameStatus.started]
  have hremaining : (if (g.locked observation).turnColor = .w then
      (g.locked observation).whiteClockMs else (g.locked observation).blackClockMs) = 0 := by
    show (if g.turnColor = .w then runningClockMs g .w g.whiteClockMs observation
      else runningClockMs g .b g.blackClockMs observation) = 0
    rw [runningClockMs_started hs (Option.mem_def.mp ht),
      runningClockMs_started hs (Option.mem_def.mp ht)]
    unfold PersistedGame.turnClockMs at hpassed
    cases hc : g.turnColor with
    | w =>
      simp only [hc,if_true] at hpassed ⊢
      exact max_eq_left (Int.sub_nonpos_of_le (Int.le_sub_left_of_add_le hpassed))
    | b =>
      simp only [hc,reduceCtorEq,if_false,if_true] at hpassed ⊢
      exact max_eq_left (Int.sub_nonpos_of_le (Int.le_sub_left_of_add_le hpassed))
  unfold Db.timeoutEvent
  rw [if_neg hlocked]
  simp only [hremaining]
  rfl

end Due

section Ends

variable {chess : ChessJs} {db : Db} {g : PersistedGame} {id : GameId} {now : Micros}
  {input : AdjudicationInput}

theorem completed_endsAs_iff (rules : chess.Rules) (texts : chess.TextBounds)
    (h : db.ServedReachable chess.engine) (hg : db.games.find id = some g) {observation : Micros}
    (ho : Micros.isInstant observation) {outcome : TerminalOutcome}
    (hrow : (g.ended observation outcome).integersFit ∧ (g.ended observation outcome).rowChecks)
    {guests : GuestSessionId × GuestSessionId} (hstamp : input.stamp.Valid) (hrun : db.adjudicateGame id input =
      (completed (terminalSubmission g (g.locked observation) outcome guests) input.stamp,
        db.settle (g.ended observation outcome))) :
    db.EndsAs id input outcome.termination ↔ jsLength g.pgn ≤ maxPgnLength := by
  have hvalid : (terminalSubmission g (g.locked observation) outcome guests).ended.Valid :=
    terminalSubmission_valid rules (h.recorded rules id g hg) (h.bounded rules texts id g hg)
      ho rfl rfl rfl hrow
  have hiff := completeTerminal_ok_iff hstamp hvalid
  simp only [terminalSubmission,forall_const] at hiff
  have hid : g.id = id := Table.find_key hg
  have hfind := find_settle_ended hg observation outcome
  rw [← hiff]
  constructor
  · rintro ⟨submission,db',g',hended,_⟩
    rw [hrun] at hended
    unfold completed at hended
    split at hended
    · rename_i deliveries hd
      exact ⟨deliveries,hd⟩
    · cases hended
  · rintro ⟨deliveries,hd⟩
    refine ⟨terminalSubmission g (g.locked observation) outcome guests,_,_,?_,hid,rfl,hfind,
      ended_terminal g observation outcome,rfl⟩
    rw [hrun]
    unfold completed
    rw [show completeTerminal (terminalSubmission g (g.locked observation) outcome guests)
      input.stamp = .ok deliveries from hd]

theorem terminate_error (engine : ChessEngine) (hg : db.games.find id = some g)
    (hlive : g.status.terminal = false) (hrows : g.integersFit ∧ g.rowChecks)
    {observation : Micros} {event : TerminalEvent} {outcome : TerminalOutcome}
    (ho : deriveTerminalOutcome event = .ok outcome)
    (hended : ¬ ((g.ended observation outcome).integersFit ∧
      (g.ended observation outcome).rowChecks)) :
    ∃ kind, db.terminate g (g.locked observation) event = .error kind := by
  cases hrun : db.terminate g (g.locked observation) event with
  | error kind => exact ⟨kind,rfl⟩
  | ok r =>
    obtain ⟨outcome',guests,ho',_,hw,_⟩ := terminate_ok engine hg hlive hrun
    obtain rfl : outcome = outcome' := Except.ok.inj (ho.symm.trans ho')
    exact absurd (hw.checked hrows) hended

theorem joinDue_ends_iff (rules : chess.Rules) (texts : chess.TextBounds)
    (h : db.ServedReachable chess.engine) (hg : db.games.find id = some g) (hdue : g.JoinDue now)
    (hinput : input.Served now) : db.EndsAs id input .noShow ↔ jsLength g.pgn ≤ maxPgnLength := by
  have hrows := h.reachable.rowsChecked id g hg
  obtain ⟨hversion,hstarted⟩ := (h.reachable.prelude id g hg).waiting hdue.1
  have hcasts : g.ClockCasts input.noShowAt := by
    intro t ht hs
    rw [hdue.1] at hs
    cases hs
  have hlive : g.status.terminal = false := by
    rw [hdue.1]
    rfl
  obtain ⟨outcome,ho,htermination⟩ := waiting_noShow (h.reachable.sound.games id g hg) hdue.1
  have hi := PersistedGame.ended_integersFit hrows.1 hcasts (by rw [hversion]; decide) outcome
  have hr : (g.ended input.noShowAt outcome).rowChecks :=
    PersistedGame.rowChecks_finalized hrows.2 (by simp [hstarted]) outcome
  obtain ⟨guests,hrun⟩ := Db.adjudicate_commits chess.engine h.reachable.sound hg hlive hcasts
    (hdue.event hinput.noShowAt.1) ho hi hr
  have hgame : db.adjudicateGame id input =
      (completed (terminalSubmission g (g.locked input.noShowAt) outcome guests) input.stamp,
        db.settle (g.ended input.noShowAt outcome)) := by
    rw [Db.adjudicateGame,Db.adjudicateNoShow,hrun]
  rw [← htermination]
  exact completed_endsAs_iff rules texts h hg hinput.noShowAt.2 ⟨hi,hr⟩ hinput.stamp hgame

theorem clockDue_casts_iff (hdue : g.ClockDue now) (hi : g.integersFit) (hc : g.rowChecks)
    {observation : Micros} (ho : now ≤ observation) : g.ClockCasts observation ↔
      ∀ t ∈ g.turnStartedAt, elapsedMs observation t ≤ 2147483647 := by
  obtain ⟨hs,t,ht,hle⟩ := hdue
  have hclock : 0 ≤ g.turnClockMs ∧ fitsInteger g.turnClockMs := by
    unfold PersistedGame.turnClockMs
    split_ifs
    · exact ⟨hc.1.2.2.1,hi.2.2.2.1⟩
    · exact ⟨hc.1.2.2.2,hi.2.2.2.2⟩
  have hpassed : t + g.turnClockMs ≤ truncatedToMillis observation :=
    truncatedToMillis_le.mpr (hle.trans ho)
  have helapsed : g.turnClockMs ≤ elapsedMs observation t := by
    rw [elapsedMs_eq]
    exact Int.le_sub_left_of_add_le hpassed
  unfold fitsInteger at hclock
  constructor
  · intro h t' ht'
    exact (h t' ht' hs).1.2
  · intro h t' ht' _
    obtain rfl : t = t' := Option.some.inj ((Option.mem_def.mp ht).symm.trans ht')
    have hmost := h t ht
    unfold fitsInteger
    omega

/-- The row of a timeout passes the checks when its version can grow and it started before. -/
theorem ended_checks_iff (hi : g.integersFit) (hc : g.rowChecks) {observation : Micros}
    (hcasts : g.ClockCasts observation) (outcome : TerminalOutcome) :
    (g.ended observation outcome).integersFit ∧ (g.ended observation outcome).rowChecks ↔
      g.version < 2147483647 ∧ ∀ s ∈ g.startedAt, s ≤ truncatedToMillis observation := by
  constructor
  · rintro ⟨hfit,hrow⟩
    have hversion : fitsInteger ((g.version + 1 : ℕ) : ℤ) := hfit.1
    unfold fitsInteger at hversion
    refine ⟨by omega,fun s hs => ?_⟩
    exact hrow.2.2.2.2 _ rfl s hs
  · rintro ⟨hversion,hstarted⟩
    exact ⟨PersistedGame.ended_integersFit hi hcasts hversion outcome,
      PersistedGame.rowChecks_finalized hc hstarted outcome⟩

theorem clockDue_ends_iff (rules : chess.Rules) (texts : chess.TextBounds)
    (h : db.ServedReachable chess.engine) (hg : db.games.find id = some g) (hdue : g.ClockDue now)
    (hinput : input.Served now) : db.EndsAs id input .timeout ↔ g.TimeoutCommits input := by
  have hrows := h.reachable.rowsChecked id g hg
  have hfirst := clockDue_casts_iff hdue hrows.1 hrows.2 hinput.noShowAt.1
  have hsecond := clockDue_casts_iff hdue hrows.1 hrows.2 hinput.timeoutAt.1
  have hlive := GameStatus.not_terminal_of_started hdue.1
  -- the lock of the no-show statement comes first, although the game has started
  by_cases hcasts : g.ClockCasts input.noShowAt
  swap
  · refine iff_of_false ?_ fun hc => hcasts (hfirst.mpr hc.noShowAt)
    rintro ⟨submission,db',g',hrun,_⟩
    have hgame : db.adjudicateGame id input = (.error (.repository (.database .unknown)),db) := by
      rw [Db.adjudicateGame,Db.adjudicateNoShow,Db.adjudicate_error hg hcasts]
      rfl
    rw [hgame] at hrun
    cases hrun
  have hnone : Db.noShowEvent (g.locked input.noShowAt) g = none := by
    refine if_pos fun hw => ?_
    have hwaiting : g.status = .waitingForPlayers := hw
    have hstarted := hdue.1
    rw [hwaiting] at hstarted
    cases hstarted
  have hnoShow : db.adjudicateNoShow id input.noShowAt = (.ok none,db) := by
    rw [Db.adjudicateNoShow,Db.adjudicate_eq hg hcasts]
    simp only [hnone]
    rfl
  by_cases hcasts' : g.ClockCasts input.timeoutAt
  swap
  · refine iff_of_false ?_ fun hc => hcasts' (hsecond.mpr hc.timeoutAt)
    rintro ⟨submission,db',g',hrun,_⟩
    have hgame : db.adjudicateGame id input = (.error (.repository (.database .unknown)),db) := by
      rw [Db.adjudicateGame,hnoShow]
      simp only [Db.adjudicateTimeout,Db.adjudicate_error hg hcasts']
      rfl
    rw [hgame] at hrun
    cases hrun
  obtain ⟨outcome,ho,htermination⟩ : ∃ outcome,
      deriveTerminalOutcome (.timeout g.turnColor) = .ok outcome ∧
        outcome.termination = .timeout := ⟨_,rfl,rfl⟩
  have hchecks := ended_checks_iff hrows.1 hrows.2 hcasts' outcome
  by_cases hended : (g.ended input.timeoutAt outcome).integersFit ∧
      (g.ended input.timeoutAt outcome).rowChecks
  swap
  · refine iff_of_false ?_ fun hc => hended (hchecks.mpr ⟨hc.version,hc.started⟩)
    rintro ⟨submission,db',g',hrun,_⟩
    obtain ⟨kind,hterminate⟩ := terminate_error chess.engine hg hlive hrows ho hended
    have hgame : db.adjudicateGame id input = (.error (.repository (.database kind)),db) := by
      rw [Db.adjudicateGame,hnoShow]
      simp only [Db.adjudicateTimeout,Db.adjudicate_eq hg hcasts',
        hdue.event hinput.timeoutAt.1,hterminate]
      rfl
    rw [hgame] at hrun
    cases hrun
  obtain ⟨guests,hrun⟩ := Db.adjudicate_commits chess.engine h.reachable.sound hg hlive hcasts'
    (hdue.event hinput.timeoutAt.1) ho hended.1 hended.2
  have hgame : db.adjudicateGame id input =
      (completed (terminalSubmission g (g.locked input.timeoutAt) outcome guests) input.stamp,
        db.settle (g.ended input.timeoutAt outcome)) := by
    rw [Db.adjudicateGame,hnoShow]
    simp only [Db.adjudicateTimeout,hrun]
  rw [← htermination,
    completed_endsAs_iff rules texts h hg hinput.timeoutAt.2 hended hinput.stamp hgame]
  constructor
  · intro hpgn
    obtain ⟨hversion,hstarted⟩ := hchecks.mp hended
    exact ⟨hfirst.mp hcasts,hsecond.mp hcasts',hstarted,hversion,hpgn⟩
  · intro hc
    exact hc.pgn

end Ends

/-- The scheduler and the adjudicator agree on a game exactly when the end of a due game can be
committed and announced. -/
theorem deadlines_agree_iff {chess : ChessJs} (rules : chess.Rules) (texts : chess.TextBounds)
    {db : Db} (hdb : db.ServedReachable chess.engine) {gameId : GameId} {g : PersistedGame}
    (hg : db.games.find gameId = some g) {now : Micros} {input : AdjudicationInput}
    (hinput : input.Served now) :
    db.DeadlinesAgree gameId g now input ↔ g.EndCommits now input := by
  constructor
  · intro h
    refine ⟨fun hjoin => ?_,fun hclock => ?_⟩
    · exact (joinDue_ends_iff rules texts hdb hg hjoin hinput).mp (h.join hjoin)
    · exact (clockDue_ends_iff rules texts hdb hg hclock hinput).mp (h.clock hclock)
  · intro h
    refine ⟨due_iff_findDeadline hg,fun hjoin => ?_,fun hclock => ?_⟩
    · exact (joinDue_ends_iff rules texts hdb hg hjoin hinput).mpr (h.join hjoin)
    · exact (clockDue_ends_iff rules texts hdb hg hclock hinput).mpr (h.clock hclock)

section Sample

def sampleAdjudication (observation : Micros) : AdjudicationInput :=
  ⟨observation,observation,observation,observation,none,sampleStamp⟩

theorem sampleStart_reachable : (sampleDb sampleStart).ServedReachable sampleChess.engine :=
  ⟨sampleSessions,.empty,sampleStart,by decide,sampleStart_served,rfl⟩

def sampleStarted : PersistedGame :=
  ((sampleDb sampleStart).games.find (sampleId 10)).getD (newGameRow sampleAllocation)

theorem sampleStarted_found :
    (sampleDb sampleStart).games.find (sampleId 10) = some sampleStarted := rfl

end Sample

theorem deadlines_agree_sample : (sampleDb sampleStart).DeadlinesAgree (sampleId 10) sampleStarted
    305000000 (sampleAdjudication 305000000) := by
  have hserved : (sampleAdjudication 305000000).Served 305000000 :=
    ⟨⟨le_refl _,by decide,by decide⟩,⟨le_refl _,by decide,by decide⟩,sampleStamp_valid⟩
  refine (deadlines_agree_iff sampleChess_rules sampleChess_texts sampleStart_reachable
    sampleStarted_found hserved).mpr ⟨nofun,fun _ => ?_⟩
  exact ⟨by decide,by decide,by decide,by decide,by decide⟩

/-- The clock of the sample game ran out 2³¹ milliseconds ago: the row is due, and the adjudicator
throws at the first lock of the row. -/
theorem overdue_timeout_throws : ∃ now input, sampleStarted.ClockDue now ∧
    AdjudicationInput.Served input now ∧ sampleStarted.due now = true ∧
    (sampleDb sampleStart).adjudicateGame (sampleId 10) input =
      (.error (.repository (.database .unknown)),sampleDb sampleStart) ∧
    ¬ (sampleDb sampleStart).DeadlinesAgree (sampleId 10) sampleStarted now input := by
  have hserved : (sampleAdjudication 2147488648000).Served 2147488648000 :=
    ⟨⟨le_refl _,by decide,by decide⟩,⟨le_refl _,by decide,by decide⟩,sampleStamp_valid⟩
  have hdue : sampleStarted.ClockDue 2147488648000 := ⟨rfl,5000,rfl,by decide⟩
  refine ⟨2147488648000,sampleAdjudication 2147488648000,hdue,hserved,by decide,rfl,?_⟩
  intro hagree
  have hcommits := (clockDue_ends_iff sampleChess_rules sampleChess_texts sampleStart_reachable
    sampleStarted_found hdue hserved).mp (hagree.clock hdue)
  have helapsed := hcommits.noShowAt 5000 rfl
  exact absurd helapsed (by decide)

end CluChess
