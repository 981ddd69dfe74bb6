import CluChess.ConcurrentAllocation
import CluChess.SessionIdempotency

/-! `SessionService.reset`: the command that revokes the session, then `finishReset`, which
abandons the game of the guest, revokes the token in Redis and disconnects the sockets. Every one
of its steps interleaves with calls of `allocate`, statement by statement, and with every other
operation of the repositories. -/
namespace CluChess

/-- `rethrowStable`, for what the lifecycle repository throws. -/
def RepositoryError.stable : RepositoryError → SessionError
  | .database kind => (SessionFailure.database kind).stable
  | .service _ => ⟨.internalError,"Session request could not be completed",false⟩

inductive ResetPhase
  | command (phase : SessionPhase)
  | findAssignment (guestSession : GuestSession)
  | terminate (guestSession : GuestSession) (assignment : Option GameId)
  | completeTerminal (guestSession : GuestSession) (submission : TerminalSubmission)
  | revoke (guestSession : GuestSession)
  | disconnectGuest (guestSession : GuestSession)
  | returned (result : Except SessionError Unit)

def ResetPhase.isReturned : ResetPhase → Bool
  | .returned _ => true
  | _ => false

structure ResetCall where
  guestSessionId : GuestSessionId
  idempotencyHash : String
  tokenWasRevoked : Bool
  phase : ResetPhase

namespace ResetCall

def request (call : ResetCall) : SessionRequest :=
  ⟨.reset call.guestSessionId call.tokenWasRevoked,call.idempotencyHash⟩

/-- A command that is answered leads to `finishReset`. -/
def afterCommand : SessionPhase → ResetPhase
  | .done (.ok result) => .findAssignment result.value.guestSession
  | .done (.error e) => .returned (.error e)
  | phase => .command phase

def afterTerminate (guestSession : GuestSession) :
    Except RepositoryError (Option TerminalSubmission) → ResetPhase
  | .error e => .returned (.error e.stable)
  | .ok none => .revoke guestSession
  | .ok (some submission) => .completeTerminal guestSession submission

def lockedGuest (call : ResetCall) : Option GuestSessionId :=
  match call.phase with
  | .command (.mutate mutation _) => (Operation.session mutation.operation).lockedGuest
  | _ => none

/-- The next step of a reset. The assignment is read before the row of the game is locked. -/
def advance (config : SessionConfig) (choice : SessionChoice) (observation : Micros) (db : Db)
    (call : ResetCall) : ResetPhase × Db :=
  match call.phase with
  | .command phase =>
    Prod.map afterCommand id (call.request.advance config choice db phase)
  | .findAssignment guestSession =>
    (.terminate guestSession
      ((db.assignments.find guestSession.id).map ActiveGameAssignment.gameId),db)
  | .terminate guestSession assignment =>
    Prod.map (afterTerminate guestSession) id
      (db.terminateForReset guestSession.id assignment observation)
  | .completeTerminal guestSession _ => (.revoke guestSession,db)
  | .revoke guestSession => (.disconnectGuest guestSession,db)
  | .disconnectGuest _ => (.returned (.ok ()),db)
  | .returned result => (.returned result,db)

end ResetCall

structure ResetState where
  allocation : AllocationState
  resets : List ResetCall

/-- A choice of the scheduler: a new reset, the next step of one or its failure, or anything else
that the allocations and the other operations may do. -/
inductive ResetEvent
  | reset (guestSessionId : GuestSessionId) (idempotencyHash : String) (tokenWasRevoked : Bool)
  | advance (index : ℕ) (choice : SessionChoice) (observation : Micros)
  | abort (index : ℕ) (error : SessionError)
  | allocation (event : AllocationEvent)

abbrev ResetAnswer := GuestSessionId × Except SessionError Unit

namespace ResetState

def answerOf (call : ResetCall) : ResetPhase → Option ResetAnswer
  | .returned result => some (call.guestSessionId,result)
  | _ => none

def pending (s : ResetState) (index : ℕ) : Option ResetCall :=
  s.resets[index]?.filter fun call => !call.phase.isReturned

def goOn (s : ResetState) (index : ℕ) (call : ResetCall) (phase : ResetPhase) (db : Db) :
    Option ResetAnswer × ResetState :=
  (answerOf call phase,
    ⟨{ s.allocation with db := db },s.resets.set index { call with phase := phase }⟩)

def step (chess : ChessEngine) (config : SessionConfig) (s : ResetState) :
    ResetEvent → Option ResetAnswer × ResetState
  | .reset guestSessionId idempotencyHash tokenWasRevoked =>
    (none,{ s with resets := s.resets ++
      [⟨guestSessionId,idempotencyHash,tokenWasRevoked,.command .findCommand⟩] })
  | .advance index choice observation =>
    match s.pending index with
    | none => (none,s)
    | some call =>
      if call.lockedGuest.any (· ∈ s.allocation.locked) then (none,s)
      else
        let (phase,db) := call.advance config choice observation s.allocation.db
        s.goOn index call phase db
  | .abort index error =>
    match s.pending index with
    | none => (none,s)
    | some call => s.goOn index call (.returned (.error error)) s.allocation.db
  | .allocation event => (none,{ s with allocation := (s.allocation.step chess event).2 })

end ResetState

/-- Every interleaving of the resets with everything else is a run of this machine. -/
def guestResets (chess : ChessEngine) (config : SessionConfig) :
    Machine ResetState ResetEvent (Option ResetAnswer) := ⟨ResetState.step chess config⟩

end CluChess
