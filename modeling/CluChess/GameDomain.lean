import Mathlib.Data.Int.Order.Basic
import Mathlib.Data.List.Basic

/-! The words of the game domain (`game.types.ts`, `game.errors.ts`) and the frozen table
of terminal outcomes (`terminal-result.ts`). -/
namespace CluChess

/-- A UUID by its 128-bit value, so two spellings of one UUID are one identifier and the
order of the values is that of the lower-case spellings. -/
abbrev Uuid := ℕ
abbrev GuestSessionId := Uuid
abbrev GameId := Uuid
abbrev MatchId := Uuid
abbrev EventId := Uuid

/-- Milliseconds since the epoch, or a duration in milliseconds. -/
abbrev Millis := ℤ
/-- Microseconds since the epoch, the resolution of `clock_timestamp()`. -/
abbrev Micros := ℤ

inductive GameStatus
  | created | waitingForPlayers | ready | inProgress | reconnecting
  | completed | abandoned | expired
  deriving DecidableEq, Repr

inductive PlayerColor
  | b | w
  deriving DecidableEq, Repr

def oppositeColor : PlayerColor → PlayerColor
  | .w => .b
  | .b => .w

inductive GameResult
  | blackWin | draw | void | whiteWin
  deriving DecidableEq, Repr

inductive BoardTermination
  | checkmate | fiftyMove | insufficientMaterial | stalemate | threefoldRepetition
  deriving DecidableEq, Repr

inductive GameTermination
  | abandonment | checkmate | fiftyMove | insufficientMaterial | stalemate
  | threefoldRepetition | doubleAbandon | noShow | resignation | timeout
  deriving DecidableEq, Repr

/-- `BoardTermination` is a part of the union `GameTermination`. -/
def BoardTermination.toGameTermination : BoardTermination → GameTermination
  | .checkmate => .checkmate
  | .fiftyMove => .fiftyMove
  | .insufficientMaterial => .insufficientMaterial
  | .stalemate => .stalemate
  | .threefoldRepetition => .threefoldRepetition

inductive GameDomainErrorCode
  | illegalGameTransition | invalidClockState | invalidGameState | invalidTerminalEvent
  deriving DecidableEq, Repr

structure GameDomainError where
  code : GameDomainErrorCode
  message : String
  deriving DecidableEq, Repr

/-- The statuses a terminal outcome can carry. -/
inductive TerminalStatus
  | abandoned | completed | expired
  deriving DecidableEq, Repr

def TerminalStatus.toGameStatus : TerminalStatus → GameStatus
  | .abandoned => .abandoned
  | .completed => .completed
  | .expired => .expired

/-- The statuses that `isTerminalStatus` of the gameplay repository lists. -/
def GameStatus.terminal : GameStatus → Bool
  | .abandoned | .completed | .expired => true
  | _ => false

/-- The statuses in which a clock runs. -/
def GameStatus.started : GameStatus → Bool
  | .inProgress | .reconnecting => true
  | _ => false

@[simp] theorem TerminalStatus.toGameStatus_terminal (s : TerminalStatus) :
    s.toGameStatus.terminal = true := by cases s <;> rfl
@[simp] theorem TerminalStatus.toGameStatus_started (s : TerminalStatus) :
    s.toGameStatus.started = false := by cases s <;> rfl

theorem GameStatus.not_terminal_of_started {s : GameStatus} (h : s.started = true) :
    s.terminal = false := by cases s <;> simp_all [started,terminal]

structure TerminalOutcome where
  result : GameResult
  status : TerminalStatus
  termination : GameTermination
  winner : Option PlayerColor
  deriving DecidableEq, Repr

inductive TerminalEvent
  | board (reason : BoardTermination) (winner : Option PlayerColor)
  | resignation (loser : PlayerColor)
  | timeout (loser : PlayerColor)
  | abandonment (absent : List PlayerColor)
  | noShow (joined : List PlayerColor)
  deriving DecidableEq, Repr

def invalidTerminalEvent (message : String) : GameDomainError :=
  ⟨.invalidTerminalEvent,message⟩

def uniqueColors (colors : List PlayerColor) : List PlayerColor := colors.eraseDups

def winnerOutcome (winner : PlayerColor) (status : TerminalStatus)
    (termination : GameTermination) : TerminalOutcome where
  result := if winner = .w then .whiteWin else .blackWin
  status := status
  termination := termination
  winner := some winner

def drawTerminations : List BoardTermination :=
  [.fiftyMove,.insufficientMaterial,.stalemate,.threefoldRepetition]

def deriveAbandonment (absentInput : List PlayerColor) : Except GameDomainError TerminalOutcome :=
  let absent := uniqueColors absentInput
  if absent.length = 2 then
    .ok ⟨.void,.abandoned,.doubleAbandon,none⟩
  else
    match absent.head? with
    | none => .error (invalidTerminalEvent "Abandonment requires at least one absent player.")
    | some loser => .ok (winnerOutcome (oppositeColor loser) .abandoned .abandonment)

def deriveBoardOutcome (reason : BoardTermination) (winner : Option PlayerColor) :
    Except GameDomainError TerminalOutcome :=
  if reason = .checkmate then
    match winner with
    | none => .error (invalidTerminalEvent "Checkmate must identify the winning color.")
    | some winner => .ok (winnerOutcome winner .completed reason.toGameTermination)
  else if reason ∉ drawTerminations ∨ winner ≠ none then
    .error (invalidTerminalEvent "An automatic chess draw cannot identify a winner.")
  else
    .ok ⟨.draw,.completed,reason.toGameTermination,none⟩

def deriveNoShow (joinedInput : List PlayerColor) : Except GameDomainError TerminalOutcome :=
  let joined := uniqueColors joinedInput
  if joined.length = 0 then
    .ok ⟨.void,.expired,.noShow,none⟩
  else
    match if joined.length = 1 then joined.head? else none with
    | none => .error
        (invalidTerminalEvent "A no-show cannot be adjudicated after both players joined.")
    | some winner => .ok (winnerOutcome winner .expired .noShow)

def deriveTerminalOutcome : TerminalEvent → Except GameDomainError TerminalOutcome
  | .board reason winner => deriveBoardOutcome reason winner
  | .resignation loser => .ok (winnerOutcome (oppositeColor loser) .completed .resignation)
  | .timeout loser => .ok (winnerOutcome (oppositeColor loser) .completed .timeout)
  | .abandonment absent => deriveAbandonment absent
  | .noShow joined => deriveNoShow joined

section Except

theorem bind_eq_ok {ε α β : Type} {x : Except ε α} {f : α → Except ε β} {b : β} :
    (x >>= f) = .ok b ↔ ∃ a, x = .ok a ∧ f a = .ok b := by
  cases x with
  | error e =>
    constructor
    · intro h
      cases h
    · rintro ⟨_,h,_⟩
      cases h
  | ok a =>
    constructor
    · intro h
      exact ⟨a,rfl,h⟩
    · rintro ⟨_,h,hf⟩
      cases h
      exact hf

theorem map_eq_ok {ε α β : Type} {x : Except ε α} {f : α → β} {b : β} :
    x.map f = .ok b ↔ ∃ a, x = .ok a ∧ f a = b := by
  cases x <;> simp [Except.map]

end Except

/-- A one-element list of colours is already without repetition. -/
@[simp] theorem uniqueColors_singleton (c : PlayerColor) : uniqueColors [c] = [c] := by
  cases c <;> rfl

end CluChess
