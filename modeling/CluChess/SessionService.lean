import CluChess.ConstraintChecks

/-! `session.service.ts`: the requests that create, renew and reset a guest session. A request
looks its command up, opens a transaction, looks it up again, and then locks the session,
checks it and commits; these steps interleave with those of every other request. -/
namespace CluChess

inductive SessionErrorCode
  | badRequest | idempotencyKeyReused | internalError | rateLimited | serviceUnavailable
  | unauthorized
  deriving DecidableEq, Repr

structure SessionError where
  code : SessionErrorCode
  message : String
  retryable : Bool
  deriving DecidableEq, Repr

/-- `toDatabaseError`: what may be tried again. -/
def DatabaseErrorKind.isRetryable : DatabaseErrorKind → Bool
  | .retryable | .unavailable => true
  | .constraint | .unique | .unknown => false

/-- `rethrowStable`, for the errors of the repository. -/
def SessionFailure.stable : SessionFailure → SessionError
  | .sessionUnavailable => ⟨.unauthorized,"Guest session is invalid or expired",false⟩
  | .displayNameConflict =>
    ⟨.serviceUnavailable,"Session service is temporarily unavailable",true⟩
  | .database .unknown => ⟨.internalError,"Session request could not be completed",false⟩
  | .database kind =>
    ⟨.serviceUnavailable,"Session service is temporarily unavailable",kind.isRetryable⟩

def identityGenerationError : SessionError :=
  ⟨.serviceUnavailable,"Session service is temporarily unavailable",true⟩

structure SessionConfig where
  ttlSeconds : ℕ
  positive : 0 < ttlSeconds

def databaseNameAttempts : ℕ := 8

/-- What a request asks for. A reset knows whether its token had been revoked. -/
inductive SessionRequestKind
  | create
  | renew (guestSessionId : GuestSessionId)
  | reset (guestSessionId : GuestSessionId) (tokenWasRevoked : Bool)
  deriving DecidableEq, Repr

structure SessionRequest where
  kind : SessionRequestKind
  idempotencyHash : String
  deriving DecidableEq, Repr

/-- What a step of a request reads from the clock, the random numbers and the identity service. -/
structure SessionChoice where
  now : Millis
  guestSessionId : GuestSessionId
  jti : Uuid
  avatarKey : String
  displayName : String
  deriving DecidableEq, Repr

inductive SessionMutation
  | create (input : CreateGuestSession)
  | renew (input : RenewGuestSession)
  | reset (input : ResetGuestSession)
  deriving DecidableEq, Repr

/-- The step that a request runs next, with the attempts that a creation has left after it. -/
inductive SessionPhase
  | findCommand
  | lookup (mutation : SessionMutation) (attempts : ℕ)
  | mutate (mutation : SessionMutation) (attempts : ℕ)
  | recover (mutation : SessionMutation) (attempts : ℕ)
  | done (result : Except SessionError SessionMutationResult)

namespace Db

def findCommand (db : Db) (idempotencyHash : String) :
    Except SessionFailure (Option SessionCommandReplay) :=
  match db.sessionCommands.find idempotencyHash with
  | none => .ok none
  | some command => (db.toCommandReplay command).map fun r => some r.value

end Db

def SessionMutation.work (db : Db) :
    SessionMutation → Except SessionFailure (SessionMutationResult × Db)
  | .create input => db.createSession none input
  | .renew input => db.renewSession none input
  | .reset input => db.resetSession none input

def SessionMutation.operation : SessionMutation → SessionOperation
  | .create input => .create none input
  | .renew input => .renew none input
  | .reset input => .reset none input

def assertCommand (command : SessionCommandReplay) (expectedType : SessionCommandType)
    (expectedGuestSessionId : Option GuestSessionId) : Except SessionError Unit :=
  if command.commandType ≠ expectedType ∨
      (expectedGuestSessionId.any fun id => command.guestSession.id ≠ id) then
    .error ⟨.idempotencyKeyReused,"Idempotency key was already used for another operation",false⟩
  else if (expectedType = .create ∨ expectedType = .renew) ∧ command.issuedClaims = none then
    .error ⟨.internalError,"Stored session command is invalid",false⟩
  else .ok ()

def createIssuedClaims (config : SessionConfig) (choice : SessionChoice) : IssuedSessionClaims :=
  let issuedAtMs := choice.now / 1000 * 1000
  ⟨choice.jti,issuedAtMs,issuedAtMs + config.ttlSeconds * 1000⟩

namespace SessionRequest

def commandType (request : SessionRequest) : SessionCommandType :=
  match request.kind with
  | .create => .create
  | .renew _ => .renew
  | .reset _ _ => .reset

def guestSessionId (request : SessionRequest) : Option GuestSessionId :=
  match request.kind with
  | .create => none
  | .renew guestSessionId => some guestSessionId
  | .reset guestSessionId _ => some guestSessionId

def tokenWasRevoked (request : SessionRequest) : Bool :=
  match request.kind with
  | .reset _ tokenWasRevoked => tokenWasRevoked
  | _ => false

def mutation (config : SessionConfig) (request : SessionRequest) (choice : SessionChoice) :
    SessionMutation :=
  match request.kind with
  | .create => .create ⟨choice.avatarKey,choice.displayName,choice.guestSessionId,
      request.idempotencyHash,createIssuedClaims config choice⟩
  | .renew guestSessionId =>
    .renew ⟨guestSessionId,request.idempotencyHash,createIssuedClaims config choice⟩
  | .reset guestSessionId _ => .reset ⟨guestSessionId,request.idempotencyHash,choice.now⟩

/-- `assertCommand` of what the repository has returned. -/
def asserted (request : SessionRequest) (result : SessionMutationResult) : SessionPhase :=
  .done ((assertCommand result.value request.commandType request.guestSessionId).map
    fun _ => result)

def advance (config : SessionConfig) (request : SessionRequest) (choice : SessionChoice)
    (db : Db) : SessionPhase → SessionPhase × Db
  | .findCommand =>
    match db.findCommand request.idempotencyHash with
    | .error e => (.done (.error e.stable),db)
    | .ok (some existing) => (request.asserted ⟨true,existing⟩,db)
    | .ok none =>
      if request.tokenWasRevoked then
        (.done (.error ⟨.unauthorized,"Guest session is invalid or revoked",false⟩),db)
      else (.lookup (request.mutation config choice) (databaseNameAttempts - 1),db)
  | .lookup mutation attempts =>
    match db.findCommand request.idempotencyHash with
    | .error e => (.done (.error e.stable),db)
    | .ok (some existing) => (request.asserted ⟨true,existing⟩,db)
    | .ok none => (.mutate mutation attempts,db)
  | .mutate mutation attempts =>
    match mutation.work db with
    | .ok (result,db') => (request.asserted result,db')
    | .error (.database .unique) => (.recover mutation attempts,db)
    | .error e => (.done (.error e.stable),db)
  -- `recoverUniqueOrThrow`: only a creation goes on after a conflict, with another name.
  | .recover mutation attempts =>
    match db.findCommand request.idempotencyHash with
    | .error e => (.done (.error e.stable),db)
    | .ok (some replay) => (request.asserted ⟨true,replay⟩,db)
    | .ok none =>
      match mutation,attempts with
      | .create input,attempts + 1 => (.lookup (.create { input with
          avatarKey := choice.avatarKey
          displayName := choice.displayName
          issuedClaims := createIssuedClaims config choice }) attempts,db)
      | .create _,0 => (.done (.error identityGenerationError),db)
      | _,_ => (.done (.error (SessionFailure.database .unique).stable),db)
  | .done result => (.done result,db)

end SessionRequest

section Lemmas

variable {db db' : Db}

theorem createIssuedClaims_lasting (config : SessionConfig) (choice : SessionChoice) :
    (createIssuedClaims config choice).lasting := by
  have hpositive : (0 : ℤ) < config.ttlSeconds * 1000 := by
    have hseconds := config.positive
    omega
  exact Int.lt_add_of_pos_right _ hpositive

theorem SessionMutation.executeSession (mutation : SessionMutation) (db : Db) :
    db.executeSession mutation.operation = db.sessionTransaction (mutation.work db) := by
  cases mutation <;> rfl

def SessionRequest.Prepared (config : SessionConfig) (request : SessionRequest) :
    SessionPhase → Prop
  | .lookup mutation _ | .mutate mutation _ | .recover mutation _ =>
    ∃ choice, mutation = request.mutation config choice
  | _ => True

theorem SessionRequest.Prepared.advance {config : SessionConfig} {request : SessionRequest}
    {phase : SessionPhase} (h : request.Prepared config phase) (choice : SessionChoice) (db : Db) :
    request.Prepared config (request.advance config choice db phase).1 := by
  cases phase with
  | findCommand =>
    simp only [SessionRequest.advance]
    repeat' split
    all_goals first
      | exact trivial
      | exact ⟨choice,rfl⟩
  | recover mutation attempts =>
    obtain ⟨chosen,rfl⟩ := h
    cases hkind : request.kind with
    | create =>
      simp only [SessionRequest.advance,SessionRequest.mutation,hkind]
      repeat' split
      all_goals first
        | exact trivial
        | skip
      rename_i input attempts hinput
      cases hinput
      refine ⟨{ choice with guestSessionId := chosen.guestSessionId },?_⟩
      simp only [SessionRequest.mutation,hkind]
      rfl
    | _ =>
      simp only [SessionRequest.advance,SessionRequest.mutation,hkind]
      repeat' split
      all_goals exact trivial
  | _ =>
    simp only [SessionRequest.advance]
    repeat' split
    all_goals first
      | exact trivial
      | exact h

/-- A step commits what an operation of the repository commits, or nothing. -/
theorem SessionRequest.advance_execute (config : SessionConfig) (request : SessionRequest)
    (choice : SessionChoice) (db : Db) (phase : SessionPhase) :
    (request.advance config choice db phase).2 = db ∨ ∃ mutation attempts,
      phase = .mutate mutation attempts ∧
      (request.advance config choice db phase).2 =
        (db.executeSession mutation.operation).2 := by
  cases phase with
  | done result => exact Or.inl rfl
  | mutate mutation attempts =>
    right
    refine ⟨mutation,attempts,rfl,?_⟩
    rw [mutation.executeSession]
    rcases hw : mutation.work db with e | ⟨r,db'⟩
    · simp only [SessionRequest.advance,hw]
      split <;> simp_all [Db.sessionTransaction]
    · simp only [SessionRequest.advance,hw]
      rfl
  | _ =>
    left
    simp only [SessionRequest.advance]
    repeat' split
    all_goals rfl

end Lemmas

end CluChess
