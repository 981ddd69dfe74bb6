import CluChess.ClientEnvelopes
import CluChess.RefusalMessages

/-! The failed acknowledgements and the errors of `protocol.schemas.ts`, and the failures that can
be told in them. -/
namespace CluChess

open Json ProtocolSchemas

/-! ### Acknowledgements -/

namespace ProtocolSchemas

def errorCodeText : ProtocolErrorCode → String
  | .unauthorized => "UNAUTHORIZED"
  | .invalidPayload => "INVALID_PAYLOAD"
  | .unsupportedProtocolVersion => "UNSUPPORTED_PROTOCOL_VERSION"
  | .unsupportedEvent => "UNSUPPORTED_EVENT"
  | .idempotencyKeyReused => "IDEMPOTENCY_KEY_REUSED"
  | .alreadyQueued => "ALREADY_QUEUED"
  | .alreadyInGame => "ALREADY_IN_GAME"
  | .gameNotFound => "GAME_NOT_FOUND"
  | .gameAlreadyEnded => "GAME_ALREADY_ENDED"
  | .notAPlayer => "NOT_A_PLAYER"
  | .notYourTurn => "NOT_YOUR_TURN"
  | .illegalMove => "ILLEGAL_MOVE"
  | .staleGameVersion => "STALE_GAME_VERSION"
  | .clockExpired => "CLOCK_EXPIRED"
  | .rateLimited => "RATE_LIMITED"
  | .serviceUnavailable => "SERVICE_UNAVAILABLE"
  | .internalError => "INTERNAL_ERROR"

def errorCode : Codec ProtocolErrorCode :=
  .enum errorCodeText [.unauthorized,.invalidPayload,.unsupportedProtocolVersion,.unsupportedEvent,
    .idempotencyKeyReused,.alreadyQueued,.alreadyInGame,.gameNotFound,.gameAlreadyEnded,
    .notAPlayer,.notYourTurn,.illegalMove,.staleGameVersion,.clockExpired,.rateLimited,
    .serviceUnavailable,.internalError] (fun code => by cases code <;> rfl)

def protocolErrorSchema : Codec ProtocolErrorPayload :=
  .strict (((Fields.optional "authoritativeVersion" gameVersion).and
    ((Fields.required "code" errorCode).and
      ((Fields.required "message" (.text (isText 1 256))).and
        ((Fields.optional "retryAfterMs"
          (.natural fun n : ℕ => isNonnegativeInt n && decide (0 < n))).and
            (.required "retryable" .boolean) (by decide)) (by decide)) (by decide))
              (by decide)).embed
    (fun (authoritativeVersion,code,message,retryAfterMs,retryable) =>
      { authoritativeVersion, code, message, retryAfterMs, retryable })
    (fun error => some (error.authoritativeVersion,error.code,error.message,error.retryAfterMs,
      error.retryable))
    (by
      rintro ⟨authoritativeVersion,code,message,retryAfterMs,retryable⟩ ⟨_,_,_,_,_⟩
      simp [eq_comm])) (by decide)

def responseTypeText : ErrorResponseType → String
  | .serverError => "server.error"
  | .moveRejected => "move.rejected"

end ProtocolSchemas

structure FailureAck where
  correlationId : String
  error : ProtocolErrorPayload
  gameVersion : Option ℕ
  requestEventId : String
  responseType : ErrorResponseType
  deriving DecidableEq, Repr

/-- An event `server.error`, sent to one socket. -/
structure ServerErrorEvent where
  correlationId : String
  payload : ProtocolErrorPayload
  eventId : String
  timestamp : ℕ
  deriving DecidableEq, Repr

namespace ProtocolSchemas

def responseType : Codec ErrorResponseType :=
  .enum responseTypeText [.serverError,.moveRejected] (fun value => by cases value <;> rfl)

def ackFailureSchema : Codec FailureAck :=
  .strict ((((Fields.required "correlationId" uuidV4).and
    ((Fields.required "error" protocolErrorSchema).and
      ((Fields.optional "gameVersion" gameVersion).and
        ((Fields.required "requestEventId" uuidV4).and (.required "type" responseType)
          (by decide)) (by decide)) (by decide)) (by decide)).tagged
            (.required "ok" (.booleanLiteral false)) (by decide)).tagged
              (.required "protocolVersion" (.integerLiteral protocolVersion)) (by decide) |>.embed
    (fun (correlationId,error,gameVersion,requestEventId,responseType) =>
      ⟨correlationId,error,gameVersion,requestEventId,responseType⟩)
    (fun ack => some (ack.correlationId,ack.error,ack.gameVersion,ack.requestEventId,
      ack.responseType))
    (by
      rintro ⟨correlationId,error,gameVersion,requestEventId,responseType⟩ ⟨_,_,_,_,_⟩
      simp [eq_comm])) (by decide)

/-- `serverErrorEnvelopeSchema`, of the events that name no game. -/
def serverErrorSchema : Codec ServerErrorEvent :=
  .strict ((((Fields.required "correlationId" uuidV4).and
    ((Fields.required "payload" protocolErrorSchema).and
      ((Fields.required "eventId" uuidV4).and (.required "timestamp" epochMs) (by decide))
        (by decide)) (by decide)).tagged
          (.required "type" (.literal "server.error")) (by decide)).tagged
            (.required "protocolVersion" (.integerLiteral protocolVersion)) (by decide) |>.embed
    (fun (correlationId,payload,eventId,timestamp) => ⟨correlationId,payload,eventId,timestamp⟩)
    (fun event => some (event.correlationId,event.payload,event.eventId,event.timestamp))
    (by
      rintro ⟨correlationId,payload,eventId,timestamp⟩ ⟨_,_,_,_⟩
      simp [eq_comm])) (by decide)

theorem protocolErrorSchema_valid (error : ProtocolErrorPayload) :
    protocolErrorSchema.valid error =
      (error.authoritativeVersion.all (fun version : ℕ => isNonnegativeInt version) &&
        isText 1 256 error.message &&
          error.retryAfterMs.all fun ms : ℕ => isNonnegativeInt ms && decide (0 < ms)) := by
  simp [protocolErrorSchema,errorCode,gameVersion,Bool.and_assoc]

theorem ackFailureSchema_valid (ack : FailureAck) :
    ackFailureSchema.valid ack = (isUuidV4Text ack.correlationId &&
      protocolErrorSchema.valid ack.error &&
        ack.gameVersion.all (fun version : ℕ => isNonnegativeInt version) &&
          isUuidV4Text ack.requestEventId) := by
  simp [ackFailureSchema,responseType,uuidV4,gameVersion,Bool.and_assoc]

theorem serverErrorSchema_valid (event : ServerErrorEvent) :
    serverErrorSchema.valid event = (isUuidV4Text event.correlationId &&
      protocolErrorSchema.valid event.payload && isUuidV4Text event.eventId &&
        isNonnegativeInt event.timestamp) := by
  simp [serverErrorSchema,uuidV4,epochMs,Bool.and_assoc]

end ProtocolSchemas

/-! ### Failures that can be told -/

structure MappedRealtimeError.Valid (mapped : MappedRealtimeError) : Prop where
  error : protocolErrorSchema.valid mapped.error = true
  gameVersion : mapped.gameVersion.all (fun version : ℕ => isNonnegativeInt version) = true

/-- A time to wait that the protocol can carry. -/
def isRetryAfter (ms : ℕ) : Prop := isNonnegativeInt ms = true ∧ 0 < ms

/-- What the failures of the services keep: positive times to wait, known errors of matchmaking, and
plain errors of the games. -/
def RealtimeFailure.Plain : RealtimeFailure → Prop
  | .rateLimited retryAfterMs => isRetryAfter retryAfterMs
  | .serviceUnavailable (some retryAfterMs) => isRetryAfter retryAfterMs
  | .matchmaking error => error ∈ matchmakingErrors
  | .repository (.service error) => error.Plain
  | _ => True

section Failures

theorem temporarilyUnavailable_valid : temporarilyUnavailable.Valid :=
  ⟨by rw [protocolErrorSchema_valid]; decide,rfl⟩

theorem matchmakingErrors_message :
    ∀ error ∈ matchmakingErrors, isText 1 256 error.message = true := by
  rw [← List.all_eq_true]
  decide

theorem storeUnavailable_message (responseType : ErrorResponseType) :
    isText 1 256 (storeUnavailable responseType).message = true := by
  cases responseType <;> decide

theorem GameServiceError.Plain.valid {error : GameServiceError} (h : error.Plain) :
    (CommandError.gameService error).map.Valid := by
  have hversion : error.authoritativeVersion.all (fun version : ℕ => isNonnegativeInt version) =
      true := by
    rw [Option.all_eq_true]
    exact fun v hv => h.version v hv
  refine ⟨?_,hversion⟩
  rw [protocolErrorSchema_valid]
  simp [CommandError.map,hversion,h.message]

theorem retry_valid {code : ProtocolErrorCode} {message : String} {ms : ℕ} (h : isRetryAfter ms)
    (hmessage : isText 1 256 message = true) :
    (CommandError.realtime ⟨code,message,true,{ retryAfterMs := some ms }⟩).map.Valid := by
  refine ⟨?_,rfl⟩
  rw [protocolErrorSchema_valid]
  simp [CommandError.map,hmessage,h.1,h.2]

/-- Every error that a plain failure is thrown as can be told to the client. -/
theorem Thrown.valid {command : ClientCommand} {failure : RealtimeFailure} {error : CommandError}
    (h : Thrown command failure error) (hf : failure.Plain) : error.map.Valid := by
  cases h with
  | invalidPayload =>
    refine ⟨?_,rfl⟩
    rw [protocolErrorSchema_valid]
    decide
  | rateLimited ms => exact retry_valid hf (by decide)
  | draining ms => exact retry_valid hf (by decide)
  | redis => exact temporarilyUnavailable_valid
  | matchmaking error =>
    refine ⟨?_,rfl⟩
    rw [protocolErrorSchema_valid]
    simp [CommandError.map,matchmakingErrors_message _ hf]
  | refused error => exact GameServiceError.Plain.valid hf
  | store kind h =>
    exact GameServiceError.Plain.valid ⟨storeUnavailable_message _,by simp [storeUnavailable]⟩
  | database kind h => exact temporarilyUnavailable_valid
  | unknown =>
    refine ⟨?_,rfl⟩
    rw [protocolErrorSchema_valid]
    decide
  | schema error =>
    refine ⟨?_,rfl⟩
    rw [protocolErrorSchema_valid]
    decide

theorem parseClientEvent_error {maxPayloadBytes : ℕ} {eventName : String} {raw : Option Json}
    {error : RealtimeError} (h : parseClientEvent maxPayloadBytes eventName raw = .error error) :
    (CommandError.realtime error).map.Valid := by
  have hvalid : ∀ code message, isText 1 256 message = true →
      (CommandError.realtime ⟨code,message,false,{}⟩).map.Valid := by
    intro code message hmessage
    refine ⟨?_,rfl⟩
    rw [protocolErrorSchema_valid]
    simp [CommandError.map,hmessage]
  unfold parseClientEvent at h
  split at h
  · cases h
    exact hvalid _ _ (by decide)
  · cases raw with
    | none =>
      cases h
      exact hvalid _ _ (by decide)
    | some raw =>
      simp only at h
      split_ifs at h
      · cases h
        exact hvalid _ _ (by decide)
      · cases h
        exact hvalid _ _ (by decide)
      · cases h
        exact hvalid _ _ (by decide)
      · split at h
        · cases h
          exact hvalid _ _ (by decide)
        · cases h

end Failures

end CluChess
