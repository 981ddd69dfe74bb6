import CluChess.GameDomain

/-! The ports of the application layer: the chess engine, and the inputs and results of
the game repositories (`application/ports`). -/
namespace CluChess

inductive PromotionPiece
  | b | n | q | r
  deriving DecidableEq, Repr

structure MoveInput where
  source : String
  promotion : Option PromotionPiece
  target : String
  deriving DecidableEq, Repr

structure AppliedMove where
  capture : Bool
  check : Bool
  color : PlayerColor
  fenAfter : String
  fenBefore : String
  plyNumber : ℕ
  san : String
  uci : String
  deriving DecidableEq, Repr

inductive GameOver
  | ongoing
  | over (reason : BoardTermination) (winner : Option PlayerColor)
  deriving DecidableEq, Repr

structure EvaluateMoveInput where
  expectedCurrentFen : String
  history : List String
  initialFen : String
  move : MoveInput
  deriving DecidableEq, Repr

structure MoveEvaluation where
  applied : AppliedMove
  gameOver : GameOver
  pgn : String
  deriving DecidableEq, Repr

structure ReplayedPosition where
  fen : String
  gameOver : GameOver
  pgn : String
  plyCount : ℕ
  turn : PlayerColor
  deriving DecidableEq, Repr

inductive ChessEngineErrorCode
  | gameStateCorrupt | illegalMove | invalidInitialPosition
  deriving DecidableEq, Repr

structure ChessEngineError where
  code : ChessEngineErrorCode
  message : String
  deriving DecidableEq, Repr

/-- The `ChessEngine` port. The history is the list of the stored UCI strings. -/
structure ChessEngine where
  evaluateMove : EvaluateMoveInput → Except ChessEngineError MoveEvaluation
  newGame : Except ChessEngineError ReplayedPosition
  replay : String → List String → Except ChessEngineError ReplayedPosition

inductive GameMode
  | blitz
  deriving DecidableEq, Repr

structure AllocateGame where
  blackGuestSessionId : GuestSessionId
  gameId : GameId
  initialFen : String
  joinDeadlineAt : Millis
  matchId : MatchId
  mode : GameMode
  observedAt : Millis
  pgn : String
  timeIncrementMs : ℤ
  timeInitialMs : ℤ
  whiteGuestSessionId : GuestSessionId
  deriving DecidableEq, Repr

structure MarkGameReady where
  expectedVersion : ℕ
  gameId : GameId
  guestSessionId : GuestSessionId
  observedAt : Millis
  deriving DecidableEq, Repr

structure GameplayClock where
  blackMs : ℤ
  observedAt : Millis
  running : Option PlayerColor
  whiteMs : ℤ
  deriving DecidableEq, Repr

structure AcceptedMove where
  check : Bool
  clientMoveId : EventId
  clocks : GameplayClock
  fenAfter : String
  gameId : GameId
  gameVersion : ℕ
  ply : ℕ
  san : String
  turn : PlayerColor
  uci : String
  deriving DecidableEq, Repr

structure StartedGame where
  clocks : GameplayClock
  gameId : GameId
  gameVersion : ℕ
  initialFen : String
  deriving DecidableEq, Repr

structure EndedGame where
  clocks : GameplayClock
  finalFen : String
  gameId : GameId
  gameVersion : ℕ
  pgn : String
  result : GameResult
  termination : GameTermination
  deriving DecidableEq, Repr

structure MoveSubmission where
  accepted : AcceptedMove
  duplicate : Bool
  ended : Option EndedGame
  guestSessionIds : GuestSessionId × GuestSessionId
  started : Option StartedGame
  deriving DecidableEq, Repr

structure SubmitMove where
  clientMoveId : EventId
  expectedVersion : ℕ
  gameId : GameId
  guestSessionId : GuestSessionId
  move : MoveInput
  deriving DecidableEq, Repr

structure TerminalSubmission where
  duplicate : Bool
  ended : EndedGame
  guestSessionIds : GuestSessionId × GuestSessionId
  deriving DecidableEq, Repr

structure PlayerDisconnected where
  color : PlayerColor
  gameId : GameId
  gameVersion : ℕ
  graceDeadline : Millis
  deriving DecidableEq, Repr

structure PlayerReconnected where
  color : PlayerColor
  gameId : GameId
  gameVersion : ℕ
  deriving DecidableEq, Repr

structure ResignGame where
  eventId : EventId
  expectedVersion : ℕ
  gameId : GameId
  guestSessionId : GuestSessionId
  deriving DecidableEq, Repr

structure DeadlineState where
  deadline : Millis
  gameId : GameId
  deriving DecidableEq, Repr

inductive GameServiceErrorCode
  | allocationMismatch | clockExpired | dependencyUnavailable | gameAlreadyEnded
  | gameNotFound | gameStateCorrupt | gameUnavailable | guestAlreadyInGame
  | guestNotEligible | idempotencyKeyReused | illegalMove | notAPlayer | notYourTurn
  | staleGameVersion
  deriving DecidableEq, Repr

/-- The event type that carries the error to the client. -/
inductive ErrorResponseType
  | moveRejected | serverError
  deriving DecidableEq, Repr

structure GameServiceError where
  code : GameServiceErrorCode
  message : String
  retryable : Bool
  authoritativeVersion : Option ℕ
  responseType : ErrorResponseType
  deriving DecidableEq, Repr

end CluChess
