import CluChess.GameClock

/-! The frozen rules of the game lifecycle (`game-state-machine.ts`). -/
namespace CluChess

inductive GameTransition
  | abandon | acceptMove | acceptTerminalMove | allocate | expireNoShow | markPlayersReady
  | playerDisconnected | playerReconnected | resign | start | timeout
  deriving DecidableEq, Repr

def GameTransition.text : GameTransition → String
  | .abandon => "ABANDON"
  | .acceptMove => "ACCEPT_MOVE"
  | .acceptTerminalMove => "ACCEPT_TERMINAL_MOVE"
  | .allocate => "ALLOCATE"
  | .expireNoShow => "EXPIRE_NO_SHOW"
  | .markPlayersReady => "MARK_PLAYERS_READY"
  | .playerDisconnected => "PLAYER_DISCONNECTED"
  | .playerReconnected => "PLAYER_RECONNECTED"
  | .resign => "RESIGN"
  | .start => "START"
  | .timeout => "TIMEOUT"

def GameStatus.text : GameStatus → String
  | .created => "CREATED"
  | .waitingForPlayers => "WAITING_FOR_PLAYERS"
  | .ready => "READY"
  | .inProgress => "IN_PROGRESS"
  | .reconnecting => "RECONNECTING"
  | .completed => "COMPLETED"
  | .abandoned => "ABANDONED"
  | .expired => "EXPIRED"

structure GameTransitionInput where
  outcome : Option TerminalOutcome
  status : GameStatus
  transition : GameTransition
  version : ℤ
  deriving DecidableEq, Repr

structure GameTransitionResult where
  outcome : Option TerminalOutcome
  previousStatus : GameStatus
  previousVersion : ℤ
  status : GameStatus
  version : ℤ
  deriving DecidableEq, Repr

structure TransitionRule where
  sources : List GameStatus
  outcomeStatus : Option TerminalStatus
  target : GameStatus
  versionDelta : ℤ

def transitionRules : GameTransition → TransitionRule
  | .abandon => ⟨[.inProgress,.reconnecting],some .abandoned,.abandoned,1⟩
  | .acceptMove => ⟨[.inProgress],none,.inProgress,1⟩
  | .acceptTerminalMove => ⟨[.inProgress],some .completed,.completed,1⟩
  | .allocate => ⟨[.created],none,.waitingForPlayers,0⟩
  | .expireNoShow => ⟨[.waitingForPlayers],some .expired,.expired,1⟩
  | .markPlayersReady => ⟨[.waitingForPlayers],none,.ready,1⟩
  | .playerDisconnected => ⟨[.inProgress,.reconnecting],none,.reconnecting,1⟩
  | .playerReconnected => ⟨[.reconnecting],none,.inProgress,1⟩
  | .resign => ⟨[.inProgress,.reconnecting],some .completed,.completed,1⟩
  | .start => ⟨[.ready],none,.inProgress,1⟩
  | .timeout => ⟨[.inProgress,.reconnecting],some .completed,.completed,1⟩

/-- The terminations that `validateOutcome` admits for a transition. -/
def validTerminations : GameTransition → List GameTermination
  | .acceptTerminalMove =>
    [.checkmate,.fiftyMove,.insufficientMaterial,.stalemate,.threefoldRepetition]
  | .resign => [.resignation]
  | .timeout => [.timeout]
  | .expireNoShow => [.noShow]
  | .abandon => [.abandonment,.doubleAbandon]
  | _ => []

def invalidGameState (message : String) : GameDomainError := ⟨.invalidGameState,message⟩

def validateOutcome (outcome : Option TerminalOutcome) (rule : TransitionRule)
    (transition : GameTransition) : Except GameDomainError Unit :=
  match rule.outcomeStatus,outcome with
  | none,none => .ok ()
  | none,some _ =>
    .error (invalidGameState (transition.text ++ " cannot carry a terminal outcome."))
  | some status,none => .error (invalidGameState
      (transition.text ++ " requires a " ++ status.toGameStatus.text ++ " terminal outcome."))
  | some status,some outcome =>
    if outcome.status ≠ status then .error (invalidGameState
      (transition.text ++ " requires a " ++ status.toGameStatus.text ++ " terminal outcome."))
    else if outcome.termination ∉ validTerminations transition then
      .error (invalidGameState (transition.text ++ " received an incompatible terminal outcome."))
    else .ok ()

def transitionGame (input : GameTransitionInput) : Except GameDomainError GameTransitionResult :=
  if !isSafeInteger input.version || input.version < 0 then
    .error (invalidGameState "A game version must be a non-negative safe integer.")
  else
    let rule := transitionRules input.transition
    if input.status ∉ rule.sources then
      .error ⟨.illegalGameTransition,
        input.transition.text ++ " is not allowed from " ++ input.status.text ++ "."⟩
    else do
      validateOutcome input.outcome rule input.transition
      let version := input.version + rule.versionDelta
      if !isSafeInteger version then .error (invalidGameState
        "The resulting game version is outside the safe integer range.")
      else .ok ⟨input.outcome,input.status,input.version,rule.target,version⟩

/-- Transitions one after the other; the outcome is that of the last one. -/
def applyTransitions (outcome : Option TerminalOutcome) :
    GameStatus → ℤ → List GameTransition → Except GameDomainError (GameStatus × ℤ)
  | status,version,[] => .ok (status,version)
  | status,version,transition :: transitions => do
    let result ← transitionGame {
      outcome := if transitions = [] then outcome else none
      status := status
      transition := transition
      version := version }
    applyTransitions outcome result.status result.version transitions

section Lemmas

/-- The outcome suits the transition. -/
def GameTransition.Admits (transition : GameTransition) : Option TerminalOutcome → Prop
  | none => (transitionRules transition).outcomeStatus = none
  | some outcome => (transitionRules transition).outcomeStatus = some outcome.status ∧
      outcome.termination ∈ validTerminations transition

theorem validateOutcome_ok_iff {transition : GameTransition} {outcome : Option TerminalOutcome} :
    validateOutcome outcome (transitionRules transition) transition = .ok () ↔
      transition.Admits outcome := by
  unfold validateOutcome GameTransition.Admits
  cases hrule : (transitionRules transition).outcomeStatus with
  | none => cases outcome <;> simp
  | some status =>
    cases outcome with
    | none => simp
    | some outcome =>
      simp only [Option.some.injEq]
      constructor
      · intro h
        split_ifs at h with hstatus hvalid
        exact ⟨(not_not.mp hstatus).symm,hvalid⟩
      · rintro ⟨hstatus,hvalid⟩
        rw [if_neg (not_not.mpr hstatus.symm),if_neg (not_not.mpr hvalid)]

theorem transitionGame_ok {outcome : Option TerminalOutcome} {status : GameStatus}
    {transition : GameTransition} {version : ℤ}
    (hsource : status ∈ (transitionRules transition).sources) (houtcome : transition.Admits outcome)
    (hversion : 0 ≤ version)
    (hnext : isSafeInteger (version + (transitionRules transition).versionDelta) = true) :
    transitionGame ⟨outcome,status,transition,version⟩ = .ok ⟨outcome,status,version,
      (transitionRules transition).target,
      version + (transitionRules transition).versionDelta⟩ := by
  have hdelta : 0 ≤ (transitionRules transition).versionDelta := by
    cases transition <;> decide
  have hsafe : isSafeInteger version = true := by
    unfold isSafeInteger at hnext ⊢
    rw [decide_eq_true_eq] at hnext ⊢
    omega
  have hvalid := validateOutcome_ok_iff.mpr houtcome
  unfold transitionGame
  simp only [hsafe,not_lt.mpr hversion,hsource,hnext,hvalid,Bool.not_true,decide_false,
    Bool.or_self,Bool.false_eq_true,if_false,not_true_eq_false]
  rfl

end Lemmas

end CluChess
