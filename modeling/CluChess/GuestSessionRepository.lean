import CluChess.Persistence
import Mathlib.Data.String.Basic

/-! `prisma-guest-session.repository.ts`: the mutations of a guest session. The command
that a transaction has looked up before it waits for the row lock is a parameter of it. -/
namespace CluChess

structure CreateGuestSession where
  avatarKey : String
  displayName : String
  guestSessionId : GuestSessionId
  idempotencyHash : String
  issuedClaims : IssuedSessionClaims
  deriving DecidableEq, Repr

structure RenewGuestSession where
  guestSessionId : GuestSessionId
  idempotencyHash : String
  issuedClaims : IssuedSessionClaims
  deriving DecidableEq, Repr

structure ResetGuestSession where
  guestSessionId : GuestSessionId
  idempotencyHash : String
  revokedAt : Millis
  deriving DecidableEq, Repr

structure SessionCommandReplay where
  commandType : SessionCommandType
  guestSession : GuestSession
  issuedClaims : Option IssuedSessionClaims
  deriving DecidableEq, Repr

structure SessionMutationResult where
  replayed : Bool
  value : SessionCommandReplay
  deriving DecidableEq, Repr

/-- What a mutation throws: a `DatabaseError` or a `SessionRepositoryError`. -/
inductive SessionFailure
  | database (kind : DatabaseErrorKind)
  | displayNameConflict
  | sessionUnavailable
  deriving DecidableEq, Repr

namespace Db

/-- `toCommandReplay`, with the guest session joined to the command. -/
def toCommandReplay (db : Db) (command : SessionCommand) :
    Except SessionFailure SessionMutationResult :=
  match db.guestSessions.find command.guestSessionId with
  | none => .error (.database .unknown)
  | some guestSession => .ok ⟨true,⟨command.commandType,guestSession,command.issuedClaims⟩⟩

def createSessionCommand (db : Db) (row : SessionCommand) : Except SessionFailure Db :=
  match db.sessionCommands.insert row with
  | none => .error (.database .unique)
  | some sessionCommands => .ok { db with sessionCommands := sessionCommands }

/-- `guestSession.create`: the identifier and the case-folded display name are unique. -/
def createGuestSession (db : Db) (row : GuestSession) : Except SessionFailure Db :=
  if ¬ row.rowChecks then .error (.database .constraint)
  else if db.guestSessions.rows.any fun g =>
      g.displayName.toLower = row.displayName.toLower then
    .error (.database .unique)
  else
    match db.guestSessions.insert row with
    | none => .error (.database .unique)
    | some guestSessions => .ok { db with guestSessions := guestSessions }

/-- `guestSession.update` of a row that is locked. -/
def updateGuestSession (db : Db) (row : GuestSession) : Except SessionFailure Db :=
  if ¬ row.rowChecks then .error (.database .constraint)
  else .ok { db with guestSessions := db.guestSessions.put row }

def createSession (db : Db) (existing : Option SessionCommand) (input : CreateGuestSession) :
    Except SessionFailure (SessionMutationResult × Db) :=
  match existing with
  | some command => (db.toCommandReplay command).map (·,db)
  | none => do
    let guestSession : GuestSession := {
      avatarKey := input.avatarKey
      currentJti := some input.issuedClaims.jti
      displayName := input.displayName
      expiresAt := input.issuedClaims.expiresAt
      id := input.guestSessionId
      issuedAt := input.issuedClaims.issuedAt
      revokedAt := none }
    let db ← db.createGuestSession guestSession
    let db ← db.createSessionCommand
      ⟨input.idempotencyHash,.create,input.guestSessionId,some input.issuedClaims⟩
    .ok (⟨false,⟨.create,guestSession,some input.issuedClaims⟩⟩,db)

/-- The session that `renew` and `reset` may change at an instant. -/
def availableSession (db : Db) (guestSessionId : GuestSessionId) (at_ : Millis) :
    Except SessionFailure GuestSession :=
  match db.guestSessions.find guestSessionId with
  | none => .error .sessionUnavailable
  | some current =>
    if current.revokedAt ≠ none ∨ current.expiresAt ≤ at_ then .error .sessionUnavailable
    else .ok current

/-- Lock and check a session, change its row and record the command. -/
def changeSession (db : Db) (guestSessionId : GuestSessionId) (at_ : Millis)
    (change : GuestSession → GuestSession) (command : SessionCommand) :
    Except SessionFailure (SessionMutationResult × Db) := do
  let current ← db.availableSession guestSessionId at_
  let db ← db.updateGuestSession (change current)
  let db ← db.createSessionCommand command
  .ok (⟨false,⟨command.commandType,change current,command.issuedClaims⟩⟩,db)

def renewSession (db : Db) (existing : Option SessionCommand) (input : RenewGuestSession) :
    Except SessionFailure (SessionMutationResult × Db) :=
  match existing with
  | some command => (db.toCommandReplay command).map (·,db)
  | none =>
    db.changeSession input.guestSessionId input.issuedClaims.issuedAt
      (fun current => { current with
        currentJti := some input.issuedClaims.jti
        expiresAt := input.issuedClaims.expiresAt
        issuedAt := input.issuedClaims.issuedAt })
      ⟨input.idempotencyHash,.renew,input.guestSessionId,some input.issuedClaims⟩

def resetSession (db : Db) (existing : Option SessionCommand) (input : ResetGuestSession) :
    Except SessionFailure (SessionMutationResult × Db) :=
  match existing with
  | some command => (db.toCommandReplay command).map (·,db)
  | none =>
    db.changeSession input.guestSessionId input.revokedAt
      (fun current => { current with revokedAt := some input.revokedAt })
      ⟨input.idempotencyHash,.reset,input.guestSessionId,none⟩

def guestReferenced (db : Db) (id : GuestSessionId) : Bool :=
  (db.games.rows.any fun g =>
    (g.players.any fun p => p.guestSessionId = id) ||
      (g.moves.any fun m => m.guestSessionId = id) ||
      g.commands.any fun c => c.guestSessionId = id) ||
  db.assignments.rows.any fun a => a.guestSessionId = id

/-- The transaction of `cleanupExpired`; rows locked by others are skipped. -/
def cleanupExpired (db : Db) (cutoff : Millis) (limit : ℕ) (locked : List GuestSessionId) :
    ℕ × Db :=
  let candidates := (((db.guestSessions.rows.filter fun g =>
    decide (g.expiresAt < cutoff) && !db.guestReferenced g.id && decide (g.id ∉ locked)).insertionSort
      fun a b => a.expiresAt ≤ b.expiresAt).take limit).map GuestSession.id
  (candidates.length,
    { db with
      guestSessions := db.guestSessions.deleteWhere fun g => g.id ∈ candidates
      sessionCommands := db.sessionCommands.deleteWhere fun c => c.guestSessionId ∈ candidates })

end Db

inductive SessionOperation
  | create (existing : Option SessionCommand) (input : CreateGuestSession)
  | renew (existing : Option SessionCommand) (input : RenewGuestSession)
  | reset (existing : Option SessionCommand) (input : ResetGuestSession)
  | cleanupExpired (cutoff : Millis) (limit : ℕ) (locked : List GuestSessionId)
  deriving DecidableEq, Repr

inductive SessionAnswer
  | mutation (result : Except SessionFailure SessionMutationResult)
  | deleted (count : ℕ)

namespace Db

/-- A mutation that throws is rolled back. -/
def sessionTransaction (db : Db)
    (work : Except SessionFailure (SessionMutationResult × Db)) : SessionAnswer × Db :=
  match work with
  | .error e => (.mutation (.error e),db)
  | .ok (r,db') => (.mutation (.ok r),db')

def executeSession (db : Db) : SessionOperation → SessionAnswer × Db
  | .create existing input => db.sessionTransaction (db.createSession existing input)
  | .renew existing input => db.sessionTransaction (db.renewSession existing input)
  | .reset existing input => db.sessionTransaction (db.resetSession existing input)
  | .cleanupExpired cutoff limit locked =>
    let (count,db) := db.cleanupExpired cutoff limit locked
    (.deleted count,db)

section Lemmas

variable {db db' : Db}

theorem createSessionCommand_frame {row : SessionCommand}
    (h : db.createSessionCommand row = .ok db') :
    db'.games = db.games ∧ db'.assignments = db.assignments := by
  unfold createSessionCommand at h
  split at h
  · cases h
  · cases h
    exact ⟨rfl,rfl⟩

theorem createGuestSession_frame {row : GuestSession} (h : db.createGuestSession row = .ok db') :
    db'.games = db.games ∧ db'.assignments = db.assignments := by
  unfold createGuestSession at h
  split_ifs at h
  split at h
  · cases h
  · cases h
    exact ⟨rfl,rfl⟩

theorem updateGuestSession_frame {row : GuestSession} (h : db.updateGuestSession row = .ok db') :
    db'.games = db.games ∧ db'.assignments = db.assignments := by
  unfold updateGuestSession at h
  split_ifs at h
  cases h
  exact ⟨rfl,rfl⟩

theorem toCommandReplay_frame {command : SessionCommand} {r : SessionMutationResult}
    (h : (db.toCommandReplay command).map (·,db) = .ok (r,db')) : db' = db := by
  obtain ⟨_,_,he⟩ := map_eq_ok.mp h
  exact (congrArg Prod.snd he).symm

theorem createSession_frame {existing : Option SessionCommand} {input : CreateGuestSession}
    {r : SessionMutationResult} (h : db.createSession existing input = .ok (r,db')) :
    db'.games = db.games ∧ db'.assignments = db.assignments := by
  cases existing with
  | some command => rw [toCommandReplay_frame h]; exact ⟨rfl,rfl⟩
  | none =>
    obtain ⟨db₁,h₁,h⟩ := bind_eq_ok.mp h
    obtain ⟨db₂,h₂,h⟩ := bind_eq_ok.mp h
    obtain rfl : db₂ = db' := congrArg Prod.snd (Except.ok.inj h)
    obtain ⟨hg₁,ha₁⟩ := createGuestSession_frame h₁
    obtain ⟨hg₂,ha₂⟩ := createSessionCommand_frame h₂
    exact ⟨hg₂.trans hg₁,ha₂.trans ha₁⟩

theorem changeSession_frame {id : GuestSessionId} {t : Millis}
    {change : GuestSession → GuestSession} {command : SessionCommand}
    {r : SessionMutationResult} (h : db.changeSession id t change command = .ok (r,db')) :
    db'.games = db.games ∧ db'.assignments = db.assignments := by
  obtain ⟨current,_,h⟩ := bind_eq_ok.mp h
  obtain ⟨db₁,h₁,h⟩ := bind_eq_ok.mp h
  obtain ⟨db₂,h₂,h⟩ := bind_eq_ok.mp h
  obtain rfl : db₂ = db' := congrArg Prod.snd (Except.ok.inj h)
  obtain ⟨hg₁,ha₁⟩ := updateGuestSession_frame h₁
  obtain ⟨hg₂,ha₂⟩ := createSessionCommand_frame h₂
  exact ⟨hg₂.trans hg₁,ha₂.trans ha₁⟩

theorem renewSession_frame {existing : Option SessionCommand} {input : RenewGuestSession}
    {r : SessionMutationResult} (h : db.renewSession existing input = .ok (r,db')) :
    db'.games = db.games ∧ db'.assignments = db.assignments := by
  cases existing with
  | some command => rw [toCommandReplay_frame h]; exact ⟨rfl,rfl⟩
  | none => exact changeSession_frame h

theorem resetSession_frame {existing : Option SessionCommand} {input : ResetGuestSession}
    {r : SessionMutationResult} (h : db.resetSession existing input = .ok (r,db')) :
    db'.games = db.games ∧ db'.assignments = db.assignments := by
  cases existing with
  | some command => rw [toCommandReplay_frame h]; exact ⟨rfl,rfl⟩
  | none => exact changeSession_frame h

theorem sessionTransaction_frame {work : Except SessionFailure (SessionMutationResult × Db)}
    (h : ∀ r db', work = .ok (r,db') →
      db'.games = db.games ∧ db'.assignments = db.assignments) :
    (db.sessionTransaction work).2.games = db.games ∧
      (db.sessionTransaction work).2.assignments = db.assignments := by
  cases work with
  | error e => exact ⟨rfl,rfl⟩
  | ok r => exact h r.1 r.2 rfl

theorem executeSession_frame (db : Db) (op : SessionOperation) :
    (db.executeSession op).2.games = db.games ∧
      (db.executeSession op).2.assignments = db.assignments := by
  cases op with
  | create existing input => exact sessionTransaction_frame fun _ _ => createSession_frame
  | renew existing input => exact sessionTransaction_frame fun _ _ => renewSession_frame
  | reset existing input => exact sessionTransaction_frame fun _ _ => resetSession_frame
  | cleanupExpired cutoff limit locked => exact ⟨rfl,rfl⟩

end Lemmas

end Db
end CluChess
