import CluChess.ClockAgreement
import CluChess.DurableDatabase
import CluChess.GameStateMachine

/-! What the repositories commit, against the rules of the lifecycle. Nothing in the persistence
code calls `transitionGame`; the module says which of its changes that function would accept. -/
namespace CluChess

/-- The transitions that an operation on the row `g` stands for, if it commits a change of the
status or the version. A move of a ready game starts it first. -/
def Operation.transitions (g : PersistedGame) (terminal : Bool) : Operation → List GameTransition
  | .markReady _ => [.markPlayersReady]
  | .startIfReady _ _ => [.start]
  | .submitMove _ _ => (if g.status = .ready then [.start] else []) ++
      [if terminal then .acceptTerminalMove else .acceptMove]
  | .resign _ _ => [.resign]
  | .terminateForReset _ _ _ | .adjudicateAbandonment _ _ _ => [.abandon]
  | .adjudicateTimeout _ _ => [.timeout]
  | .adjudicateNoShow _ _ => [.expireNoShow]
  | .markDisconnected _ _ _ _ => [.playerDisconnected]
  | .markReconnected _ _ _ => [.playerReconnected]
  | _ => []

def StoredOutcome (outcome : Option TerminalOutcome) (g : PersistedGame) : Prop :=
  g.result = (outcome.map fun o => persistedResult o.result) ∧
    g.termination = outcome.map fun o => persistedTermination o.termination

instance (outcome : Option TerminalOutcome) (g : PersistedGame) :
    Decidable (StoredOutcome outcome g) := by
  unfold StoredOutcome; infer_instance

/-- The change of the row is one that `transitionGame` accepts. -/
def FollowsRules (op : Operation) (g g' : PersistedGame) : Prop :=
  ∃ outcome, StoredOutcome outcome g' ∧
    applyTransitions outcome g.status g.version (op.transitions g g'.status.terminal) =
      .ok (g'.status,(g'.version : ℤ))

/-- The two changes outside the rules. A session reset abandons a game that has not started, as
`ABANDON` does one that has. The first of two absent players to come back leaves the game in
`RECONNECTING`. -/
inductive OutsideRules (g g' : PersistedGame) : Operation → Prop
  | resetBeforeStart {guest : GuestSessionId} {assignment : Option GameId} {observation : Micros}
      {outcome : TerminalOutcome} (hs : g.status = .waitingForPlayers ∨ g.status = .ready)
      (hstored : StoredOutcome (some outcome) g')
      (hadmits : GameTransition.abandon.Admits (some outcome)) (hs' : g'.status = .abandoned)
      (hv : g'.version = g.version + 1) :
      OutsideRules g g' (.terminateForReset guest assignment observation)
  | otherAbsent {guest : GuestSessionId} {assignment : Option GameId} {observation : Micros}
      (hs : g.status = .reconnecting) (habsent : ∃ p ∈ g'.players, p.disconnectedAt.isSome)
      (hstored : StoredOutcome none g') (hs' : g'.status = .reconnecting)
      (hv : g'.version = g.version + 1) :
      OutsideRules g g' (.markReconnected guest assignment observation)

section Outcomes

/-! The outcomes that the operations derive are admitted by the rules. -/

variable {outcome : TerminalOutcome}

theorem winnerOutcome_admits {transition : GameTransition} {winner : PlayerColor}
    {status : TerminalStatus} {termination : GameTermination}
    (hs : (transitionRules transition).outcomeStatus = some status)
    (ht : termination ∈ validTerminations transition) :
    transition.Admits (some (winnerOutcome winner status termination)) := ⟨hs,ht⟩

theorem terminalOutcome_admits {gameOver : GameOver}
    (h : terminalOutcome gameOver = .ok (some outcome)) :
    GameTransition.acceptTerminalMove.Admits (some outcome) := by
  rcases gameOver with _ | ⟨reason,winner⟩
  · cases h
  · obtain ⟨o,ho,he⟩ := map_eq_ok.mp h
    cases he
    simp only [deriveTerminalOutcome,deriveBoardOutcome] at ho
    split_ifs at ho with hmate hdraw
    · cases winner with
      | none => cases ho
      | some winner =>
        cases ho
        rw [hmate]
        exact winnerOutcome_admits rfl (by decide)
    · cases ho
      cases reason with
      | checkmate => exact absurd rfl hmate
      | _ => exact ⟨rfl,by decide⟩

theorem abandonment_admits {absent : List PlayerColor}
    (h : deriveTerminalOutcome (.abandonment absent) = .ok outcome) :
    GameTransition.abandon.Admits (some outcome) := by
  simp only [deriveTerminalOutcome,deriveAbandonment] at h
  split_ifs at h
  · cases h
    exact ⟨rfl,by decide⟩
  · split at h
    · cases h
    · cases h
      exact winnerOutcome_admits rfl (by decide)

theorem noShow_admits {joined : List PlayerColor}
    (h : deriveTerminalOutcome (.noShow joined) = .ok outcome) :
    GameTransition.expireNoShow.Admits (some outcome) := by
  simp only [deriveTerminalOutcome,deriveNoShow] at h
  split_ifs at h
  · cases h
    exact ⟨rfl,by decide⟩
  · split at h
    · cases h
    · cases h
      exact winnerOutcome_admits rfl (by decide)

theorem resignation_admits {loser : PlayerColor}
    (h : deriveTerminalOutcome (.resignation loser) = .ok outcome) :
    GameTransition.resign.Admits (some outcome) := by
  cases h
  exact winnerOutcome_admits rfl (by decide)

theorem timeout_admits {loser : PlayerColor}
    (h : deriveTerminalOutcome (.timeout loser) = .ok outcome) :
    GameTransition.timeout.Admits (some outcome) := by
  cases h
  exact winnerOutcome_admits rfl (by decide)

theorem GameTransition.Admits.target {transition : GameTransition}
    (h : transition.Admits (some outcome)) :
    (transitionRules transition).target = outcome.status.toGameStatus := by
  obtain ⟨hstatus,_⟩ := h
  cases transition <;> cases hstatus' : outcome.status <;> simp_all [transitionRules,
    TerminalStatus.toGameStatus]

end Outcomes

section Refinement

variable {chess : ChessEngine} {db : Db} {g g' : PersistedGame} {op : Operation} {answer : Answer}

theorem applyTransitions_one {outcome : Option TerminalOutcome} {status status' : GameStatus}
    {transition : GameTransition} {version version' : ℕ}
    (hsource : status ∈ (transitionRules transition).sources) (houtcome : transition.Admits outcome)
    (htarget : (transitionRules transition).target = status')
    (hversion : version + (transitionRules transition).versionDelta = (version' : ℤ))
    (hfits : fitsInteger version') :
    applyTransitions outcome status version [transition] = .ok (status',(version' : ℤ)) := by
  have hsafe : isSafeInteger (version + (transitionRules transition).versionDelta) = true := by
    rw [hversion]
    exact isSafeInteger_of_fitsInteger hfits
  have hgame := transitionGame_ok hsource houtcome (Int.natCast_nonneg version) hsafe
  unfold applyTransitions
  simp only [if_true]
  rw [hgame,hversion,htarget]
  rfl

theorem storedOutcome_none (h : g.Sound) (hs : g.status.terminal = false) :
    StoredOutcome none g := by
  have hresult := h.result
  have htermination := h.termination
  rw [hs,Option.isSome_eq_false_iff,Option.isNone_iff_eq_none] at hresult htermination
  exact ⟨hresult,htermination⟩

theorem storedOutcome_ended (g : PersistedGame) (observation : Micros) (outcome : TerminalOutcome) :
    StoredOutcome (some outcome) (g.ended observation outcome) := ⟨rfl,rfl⟩

theorem followsRules_ended {observation : Micros} {outcome : TerminalOutcome}
    {transition : GameTransition} (htransitions : op.transitions g true = [transition])
    (hsource : g.status ∈ (transitionRules transition).sources)
    (hadmits : transition.Admits (some outcome))
    (hdelta : (transitionRules transition).versionDelta = 1)
    (hfits : fitsInteger (g.ended observation outcome).version) :
    FollowsRules op g (g.ended observation outcome) := by
  have hstatus : (g.ended observation outcome).status = outcome.status.toGameStatus := rfl
  have hversion : (g.ended observation outcome).version = g.version + 1 := rfl
  refine ⟨some outcome,storedOutcome_ended g observation outcome,?_⟩
  rw [ended_terminal,htransitions]
  refine applyTransitions_one hsource hadmits (hadmits.target.trans hstatus.symm) ?_ hfits
  rw [hdelta,hversion]
  omega

theorem followsRules_addCommand {c : GameCommand} (h : FollowsRules op g g') :
    FollowsRules op g (g'.addCommand c) := h

theorem applyTransitions_start {outcome : Option TerminalOutcome} {transition : GameTransition}
    {version : ℕ} (hfits : fitsInteger (version + 1 : ℕ)) :
    applyTransitions outcome .ready version [.start,transition] =
      applyTransitions outcome .inProgress (version + 1 : ℕ) [transition] := by
  have hsafe : isSafeInteger (version + (transitionRules .start).versionDelta) = true :=
    isSafeInteger_of_fitsInteger hfits
  have hgame : transitionGame ⟨none,.ready,.start,version⟩ = .ok ⟨none,.ready,version,.inProgress,
      version + 1⟩ := transitionGame_ok (by decide) rfl (Int.natCast_nonneg version) hsafe
  rw [applyTransitions]
  simp only [List.cons_ne_nil,if_false]
  rw [hgame]
  rfl

theorem followsRules_move {m : AdmittedMove} {guests : GuestSessionId × GuestSessionId}
    {observation : Micros} (hm : m.Admitted chess guests) (hs : (m.row guests).Sound)
    (hfits : fitsInteger (m.row guests).version) :
    FollowsRules (.submitMove m.input observation) m.game (m.row guests) := by
  have hstatus := (admitMove_ok hm.admitted).1
  obtain ⟨transition,htransition,hadmits,hsource,htarget,hdelta⟩ : ∃ transition,
      transition = (if (m.row guests).status.terminal then .acceptTerminalMove
        else GameTransition.acceptMove) ∧ transition.Admits m.terminal ∧
      .inProgress ∈ (transitionRules transition).sources ∧
      (transitionRules transition).target = (m.row guests).status ∧
      (transitionRules transition).versionDelta = 1 := by
    rw [AdmittedMove.row_status]
    cases ht : m.terminal with
    | none =>
      refine ⟨.acceptMove,?_,rfl,by decide,?_,rfl⟩
      · rcases hstatus with hi | hr
        · simp [hi,GameStatus.terminal]
        · simp [hr,GameStatus.terminal]
      · rcases hstatus with hi | hr
        · simp [hi,transitionRules]
        · simp [hr,transitionRules]
    | some outcome =>
      have hadmits := terminalOutcome_admits (hm.outcome.trans (congrArg Except.ok ht))
      exact ⟨.acceptTerminalMove,by simp,hadmits,by decide,hadmits.target,rfl⟩
  have hstored : StoredOutcome m.terminal (m.row guests) := by
    cases ht : m.terminal with
    | none =>
      refine storedOutcome_none hs ?_
      rw [AdmittedMove.row_status,ht]
      rcases hstatus with hi | hr
      · simp [hi,GameStatus.terminal]
      · simp [hr,GameStatus.terminal]
    | some outcome =>
      have hresult : (m.row guests).result = some (persistedResult outcome.result) := by
        show ((m.terminal.map fun t => persistedResult t.result).or m.game.result) = _
        rw [ht]
        rfl
      have htermination : (m.row guests).termination =
          some (persistedTermination outcome.termination) := by
        show ((m.terminal.map fun t => persistedTermination t.termination).or
          m.game.termination) = _
        rw [ht]
        rfl
      exact ⟨hresult,htermination⟩
  have hversion : (m.row guests).version =
      m.game.version + if m.game.status = .ready then 2 else 1 := rfl
  refine ⟨m.terminal,hstored,?_⟩
  unfold Operation.transitions
  rw [← htransition]
  rcases hstatus with hi | hr
  · have hne : m.game.status ≠ .ready := by
      rw [hi]
      decide
    rw [if_neg hne] at hversion ⊢
    rw [hi]
    refine applyTransitions_one hsource hadmits htarget ?_ hfits
    rw [hdelta,hversion]
    omega
  · rw [if_pos hr] at hversion ⊢
    have hfits' : fitsInteger (m.game.version + 1 : ℕ) := by
      obtain ⟨_,hupper⟩ := hfits
      refine ⟨by omega,?_⟩
      rw [hversion] at hupper
      omega
    rw [hr]
    refine (applyTransitions_start hfits').trans ?_
    refine applyTransitions_one hsource hadmits htarget ?_ hfits
    rw [hdelta,hversion]
    omega

theorem timeoutEvent_eq {locked : LockedGameClock} {e : TerminalEvent}
    (h : Db.timeoutEvent locked g = some e) : ∃ loser, e = .timeout loser := by
  unfold Db.timeoutEvent at h
  simp only at h
  generalize (if locked.turnColor = .w then locked.whiteClockMs else locked.blackClockMs) = r at h
  split_ifs at h
  cases h
  exact ⟨_,rfl⟩

theorem noShowEvent_eq {locked : LockedGameClock} {e : TerminalEvent}
    (h : Db.noShowEvent locked g = some e) : ∃ joined, e = .noShow joined := by
  unfold Db.noShowEvent at h
  split_ifs at h
  split at h
  · cases h
  · split_ifs at h
    cases h
    exact ⟨_,rfl⟩

theorem abandonmentEvent_eq {absent : List GuestSessionId} {locked : LockedGameClock}
    {e : TerminalEvent} (h : Db.abandonmentEvent absent locked g = some e) :
    ∃ colors, e = .abandonment colors := by
  unfold Db.abandonmentEvent at h
  simp only at h
  split_ifs at h
  cases h
  exact ⟨_,rfl⟩

/-- What an operation writes follows the rules, or is one of the two changes outside of them. -/
theorem Writes.followsRules (h : Writes chess g op answer g') (hg : g.Sound) (hg' : g'.Sound)
    (hlive : g.status.terminal = false) (hfits : fitsInteger g'.version)
    (hne : (g'.status,g'.version) ≠ (g.status,g.version)) :
    FollowsRules op g g' ∨ OutsideRules g g' op := by
  cases h with
  | join hp => exact absurd rfl hne
  | leave hp hs => exact absurd rfl hne
  | ready hp hs =>
    refine Or.inl ⟨none,storedOutcome_none hg' rfl,?_⟩
    refine applyTransitions_one ?_ rfl rfl rfl hfits
    rw [hs]
    decide
  | startIfReady hs =>
    refine Or.inl ⟨none,storedOutcome_none hg' rfl,?_⟩
    refine applyTransitions_one ?_ rfl rfl rfl hfits
    rw [hs]
    decide
  | submitMove he hid ho hm =>
    subst he
    exact Or.inl (followsRules_move hm hg' hfits)
  | resign hplayer hs ho hp =>
    refine Or.inl (followsRules_addCommand ?_)
    refine followsRules_ended rfl ?_ (resignation_admits ho) rfl hfits
    rcases hs with hs | hs <;> rw [hs] <;> decide
  | reset hplayer ho hp =>
    have hadmits := abandonment_admits ho
    cases hstatus : g.status with
    | inProgress =>
      exact Or.inl (followsRules_ended rfl (by rw [hstatus]; decide) hadmits rfl hfits)
    | reconnecting =>
      exact Or.inl (followsRules_ended rfl (by rw [hstatus]; decide) hadmits rfl hfits)
    | waitingForPlayers =>
      exact Or.inr (.resetBeforeStart (Or.inl hstatus) (storedOutcome_ended _ _ _) hadmits
        hadmits.target.symm rfl)
    | ready =>
      exact Or.inr (.resetBeforeStart (Or.inr hstatus) (storedOutcome_ended _ _ _) hadmits
        hadmits.target.symm rfl)
    | created => exact absurd hstatus hg.created
    | _ =>
      rw [hstatus] at hlive
      cases hlive
  | @adjudicate op observation event outcome guests he ho hp =>
    refine Or.inl ?_
    cases op with
    | adjudicateTimeout id obs =>
      obtain ⟨e,hevent,heq⟩ := Option.map_eq_some_iff.mp he
      cases heq
      have hstarted := timeoutEvent_not_terminal hevent
      obtain ⟨loser,rfl⟩ := timeoutEvent_eq hevent
      refine followsRules_ended rfl ?_ (timeout_admits ho) rfl hfits
      cases hstatus : g.status <;> simp_all [GameStatus.started,transitionRules]
    | adjudicateNoShow id obs =>
      obtain ⟨e,hevent,heq⟩ := Option.map_eq_some_iff.mp he
      cases heq
      have hwaiting := noShowEvent_waiting hevent
      obtain ⟨joined,rfl⟩ := noShowEvent_eq hevent
      exact followsRules_ended rfl (by rw [hwaiting]; decide) (noShow_admits ho) rfl hfits
    | adjudicateAbandonment id absent obs =>
      obtain ⟨e,hevent,heq⟩ := Option.map_eq_some_iff.mp he
      cases heq
      have hreconnecting := abandonmentEvent_reconnecting hevent
      obtain ⟨colors,rfl⟩ := abandonmentEvent_eq hevent
      exact followsRules_ended rfl (by rw [hreconnecting]; decide) (abandonment_admits ho) rfl hfits
    | _ => cases he
  | disconnect hp hs =>
    refine Or.inl ⟨none,storedOutcome_none hg' rfl,?_⟩
    refine applyTransitions_one ?_ rfl rfl rfl hfits
    cases hstatus : g.status <;> simp_all [GameStatus.started,transitionRules]
  | @reconnect guest player observation hp hs =>
    by_cases hother : g.otherDeadlines player.slot = []
    · have hstatus : ((g.mapPlayer player.slot (GamePlayer.reconnect
          (truncatedToMillis observation))).resumed (g.otherDeadlines player.slot)).status =
            .inProgress := if_pos hother
      refine Or.inl ⟨none,storedOutcome_none hg' (by rw [hstatus]; rfl),?_⟩
      exact applyTransitions_one (by rw [hs]; decide) rfl hstatus.symm rfl hfits
    · have hstatus : ((g.mapPlayer player.slot (GamePlayer.reconnect
          (truncatedToMillis observation))).resumed (g.otherDeadlines player.slot)).status =
            .reconnecting := if_neg hother
      exact Or.inr (.otherAbsent hs (hg'.grace.reconnecting.mp hstatus)
        (storedOutcome_none hg' (by rw [hstatus]; rfl)) hstatus rfl)

end Refinement

/-- The repositories follow the rules of the lifecycle. In every reachable database a change of the
status or the version of a game is one that `transitionGame` accepts for the transition of the
operation, with the outcome that is stored, or one of the two changes outside the rules. -/
theorem lifecycle_follows_rules {chess : ChessEngine} {db : Db} (h : db.Reachable chess)
    (op : Operation) {id : GameId} {g g' : PersistedGame} (hg : db.games.find id = some g)
    (hg' : (execute chess db op).2.games.find id = some g')
    (hne : (g'.status,g'.version) ≠ (g.status,g.version)) :
    FollowsRules op g g' ∨ OutsideRules g g' op := by
  have hafter : (execute chess db op).2.Reachable chess := h.run [op]
  rcases (execute_outcome chess db op).row hg hg' with rfl | ⟨hchange,_,hwrites⟩
  · exact absurd rfl hne
  · exact hwrites.followsRules (h.sound.games id g hg) (hafter.sound.games id g' hg')
      hchange.not_terminal (hafter.rowsChecked id g' hg').1.1 hne

theorem lifecycle_follows_rules_sample :
    FollowsRules (.submitMove sampleMove 8000000) (sampleGame sampleStart)
      (sampleGame sampleMoved) := by
  have hbefore : (sampleRun sampleStart).games.find (sampleId 10) =
      some (sampleGame sampleStart) := by decide
  have hafter : (execute sampleEngine (sampleRun sampleStart)
      (.submitMove sampleMove 8000000)).2.games.find (sampleId 10) =
        some (sampleGame sampleMoved) := by decide
  have hfollows := lifecycle_follows_rules (sampleRun_reachable sampleStart)
    (.submitMove sampleMove 8000000) hbefore hafter (by decide)
  rcases hfollows with hrules | houtside
  · exact hrules
  · cases houtside

section Outside

def sampleReadyReset : Operation :=
  .terminateForReset (sampleId 1) (some (sampleId 10)) 3000000

/-- Both players have left, and White comes back. -/
def sampleBothAway : List Operation :=
  sampleStart ++ [.markDisconnected (sampleId 1) (some (sampleId 10)) 30000 6000000,
    .markDisconnected (sampleId 2) (some (sampleId 10)) 30000 7000000]

def sampleComeback : Operation := .markReconnected (sampleId 1) (some (sampleId 10)) 8000000

end Outside

/-- A reset abandons a ready game, which `ABANDON` does not, and the first player to come back
leaves the game in `RECONNECTING`, which `PLAYER_RECONNECTED` does not. -/
theorem changes_outside_rules :
    ((sampleGame sampleJoins).status = .ready ∧
      (sampleGame (sampleJoins ++ [sampleReadyReset])).status = .abandoned ∧
      ¬ FollowsRules sampleReadyReset (sampleGame sampleJoins)
        (sampleGame (sampleJoins ++ [sampleReadyReset]))) ∧
    (sampleGame sampleBothAway).version ≠ (sampleGame (sampleBothAway ++ [sampleComeback])).version ∧
      (sampleGame (sampleBothAway ++ [sampleComeback])).status = .reconnecting ∧
      ¬ FollowsRules sampleComeback (sampleGame sampleBothAway)
        (sampleGame (sampleBothAway ++ [sampleComeback])) := by
  refine ⟨⟨by decide,by decide,?_⟩,by decide,by decide,?_⟩
  · rintro ⟨outcome,_,h⟩
    have hstatus : (sampleGame sampleJoins).status = .ready := by decide
    have hversion : (sampleGame sampleJoins).version = 1 := by decide
    rw [hstatus,hversion] at h
    cases h
  · rintro ⟨outcome,_,h⟩
    have hstatus : (sampleGame sampleBothAway).status = .reconnecting := by decide
    have hstatus' : (sampleGame (sampleBothAway ++ [sampleComeback])).status = .reconnecting := by
      decide
    have hversion : (sampleGame sampleBothAway).version = 4 := by decide
    rw [hstatus,hstatus',hversion] at h
    cases outcome with
    | none => cases h
    | some outcome => cases h

end CluChess
