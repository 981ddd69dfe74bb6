import CluChess.RealtimeCommands

/-! `realtime.errors.ts` and `realtime-error-mapper.service.ts`: the errors of the commands, and
what a client is told of them. -/
namespace CluChess

inductive ProtocolErrorCode
  | unauthorized | invalidPayload | unsupportedProtocolVersion | unsupportedEvent
  | idempotencyKeyReused | alreadyQueued | alreadyInGame | gameNotFound | gameAlreadyEnded
  | notAPlayer | notYourTurn | illegalMove | staleGameVersion | clockExpired | rateLimited
  | serviceUnavailable | internalError
  deriving DecidableEq, Repr

structure RealtimeErrorOptions where
  authoritativeVersion : Option ℕ := none
  gameVersion : Option ℕ := none
  responseType : Option ErrorResponseType := none
  retryAfterMs : Option ℕ := none
  deriving DecidableEq, Repr

structure RealtimeError where
  code : ProtocolErrorCode
  message : String
  retryable : Bool
  options : RealtimeErrorOptions := {}
  deriving DecidableEq, Repr

/-- What a command may throw, by the class of the error. -/
inductive CommandError
  | realtime (error : RealtimeError)
  | realtimeRedisUnavailable
  | matchmaking (error : MatchmakingError)
  | gameService (error : GameServiceError)
  | database (kind : DatabaseErrorKind)
  | other
  deriving DecidableEq, Repr

structure ProtocolErrorPayload where
  authoritativeVersion : Option ℕ := none
  code : ProtocolErrorCode
  message : String
  retryAfterMs : Option ℕ := none
  retryable : Bool
  deriving DecidableEq, Repr

structure MappedRealtimeError where
  error : ProtocolErrorPayload
  gameVersion : Option ℕ := none
  responseType : ErrorResponseType
  deriving DecidableEq, Repr

def gameErrorCode : GameServiceErrorCode → ProtocolErrorCode
  | .clockExpired => .clockExpired
  | .gameAlreadyEnded => .gameAlreadyEnded
  | .gameNotFound => .gameNotFound
  | .idempotencyKeyReused => .idempotencyKeyReused
  | .illegalMove => .illegalMove
  | .notAPlayer => .notAPlayer
  | .notYourTurn => .notYourTurn
  | .staleGameVersion => .staleGameVersion
  | .guestAlreadyInGame => .alreadyInGame
  | _ => .serviceUnavailable

def temporarilyUnavailable : MappedRealtimeError where
  error := {
    code := .serviceUnavailable
    message := "Realtime service is temporarily unavailable"
    retryable := true }
  responseType := .serverError

def CommandError.map : CommandError → MappedRealtimeError
  | .realtime error => {
      error := {
        authoritativeVersion := error.options.authoritativeVersion
        code := error.code
        message := error.message
        retryAfterMs := error.options.retryAfterMs
        retryable := error.retryable }
      gameVersion := error.options.gameVersion
      responseType := error.options.responseType.getD .serverError }
  | .realtimeRedisUnavailable => temporarilyUnavailable
  | .matchmaking error => {
      error := {
        code := if error.code = .alreadyInGame then .alreadyInGame else .serviceUnavailable
        message := error.message
        retryable := error.retryable }
      responseType := .serverError }
  | .gameService error => {
      error := {
        authoritativeVersion := error.authoritativeVersion
        code := gameErrorCode error.code
        message := error.message
        retryable := error.retryable }
      gameVersion := error.authoritativeVersion
      responseType := error.responseType }
  | .database _ => temporarilyUnavailable
  | .other => {
      error := {
        code := .internalError
        message := "Realtime request could not be completed"
        retryable := true }
      responseType := .serverError }

/-! ### What the services throw -/

/-- The errors of `matchmaking.service.ts` and `matchmaking-script.service.ts`. -/
def matchmakingErrors : List MatchmakingError := [
  ⟨.alreadyInGame,"The guest already has a durable active game.",false⟩,
  ⟨.alreadyInGame,"The guest session is no longer eligible for matchmaking.",false⟩,
  ⟨.notPresent,"A live guest connection is required for matchmaking.",true⟩,
  ⟨.alreadyInGame,"The guest already has an active or reserved game.",false⟩,
  ⟨.reservationMismatch,"A Redis match reservation is malformed.",false⟩,
  ⟨.reservationMismatch,
    "The match reservation no longer matches its expected owner or members.",false⟩,
  ⟨.dependencyUnavailable,"Matchmaking Redis state is temporarily unavailable.",true⟩]

def rateLimitExceeded (retryAfterMs : ℕ) : RealtimeError where
  code := .rateLimited
  message := "Socket command rate limit exceeded"
  retryable := true
  options := { retryAfterMs := some retryAfterMs }

def serverDraining (retryAfterMs : ℕ) : RealtimeError where
  code := .serviceUnavailable
  message := "This server is draining; reconnect before joining the queue."
  retryable := true
  options := { retryAfterMs := some retryAfterMs }

def invalidPayload (message : String) : RealtimeError :=
  { code := .invalidPayload, message := message, retryable := false }

/-- What the services make of a `DatabaseError`. -/
def storeUnavailable (responseType : ErrorResponseType) : GameServiceError :=
  ⟨.dependencyUnavailable,"The authoritative game store is temporarily unavailable.",true,none,
    responseType⟩

/-- The type that `game-move.service.ts`, `game-lifecycle.service.ts` and
`game-recovery.service.ts` give to the failure of the database; the other commands leave it as it
is. -/
def ClientCommand.storeFailure : ClientCommand → Option ErrorResponseType
  | .moveSubmit _ _ _ _ => some .moveRejected
  | .gameResign _ _ | .gameSync _ _ => some .serverError
  | _ => none

/-- The error with which the failure of a command reaches the gateway. A database error of unknown
kind stands for any other error too. -/
inductive Thrown (command : ClientCommand) : RealtimeFailure → CommandError → Prop
  | invalidPayload :
      Thrown command .invalidPayload (.realtime (invalidPayload "Socket event payload is invalid"))
  | rateLimited (retryAfterMs : ℕ) :
      Thrown command (.rateLimited retryAfterMs) (.realtime (rateLimitExceeded retryAfterMs))
  | draining (retryAfterMs : ℕ) :
      Thrown command (.serviceUnavailable (some retryAfterMs))
        (.realtime (serverDraining retryAfterMs))
  | redis : Thrown command (.serviceUnavailable none) .realtimeRedisUnavailable
  | matchmaking (error : MatchmakingError) :
      Thrown command (.matchmaking error) (.matchmaking error)
  | refused (error : GameServiceError) :
      Thrown command (.repository (.service error)) (.gameService error)
  | store {responseType : ErrorResponseType} (kind : DatabaseErrorKind)
      (h : command.storeFailure = some responseType) :
      Thrown command (.repository (.database kind)) (.gameService (storeUnavailable responseType))
  | database (kind : DatabaseErrorKind) (h : command.storeFailure = none) :
      Thrown command (.repository (.database kind)) (.database kind)
  | unknown : Thrown command (.repository (.database .unknown)) .other
  | schema (error : SchemaError) : Thrown command (.schema error) .other

end CluChess
