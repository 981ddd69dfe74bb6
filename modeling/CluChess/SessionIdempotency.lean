import CluChess.DurableSessions
import CluChess.SessionService

/-! Any number of session requests at once. A key is looked up before the row of the session is
locked, so a request may find that another has taken its key; the module says when such a
request still is a replay. -/
namespace CluChess

structure SessionCall where
  request : SessionRequest
  phase : SessionPhase

structure SessionService where
  db : Db
  calls : List SessionCall

/-- A choice of the scheduler: a new request, or the next step of one. -/
inductive SessionEvent
  | call (request : SessionRequest)
  | advance (index : ℕ) (choice : SessionChoice)

structure SessionReply where
  request : SessionRequest
  result : Except SessionError SessionMutationResult

def SessionPhase.result : SessionPhase → Option (Except SessionError SessionMutationResult)
  | .done result => some result
  | _ => none

namespace SessionService

def pending (service : SessionService) (index : ℕ) : Option SessionCall :=
  service.calls[index]?.filter fun call => call.phase.result.isNone

def recorded (service : SessionService) (idempotencyHash : String) : Option SessionCommand :=
  service.db.sessionCommands.find idempotencyHash

def step (config : SessionConfig) (service : SessionService) :
    SessionEvent → Option SessionReply × SessionService
  | .call request => (none,{ service with calls := service.calls ++ [⟨request,.findCommand⟩] })
  | .advance index choice =>
    match service.pending index with
    | none => (none,service)
    | some call =>
      let (phase,db) := call.request.advance config choice service.db call.phase
      (phase.result.map (⟨call.request,·⟩),⟨db,service.calls.set index ⟨call.request,phase⟩⟩)

end SessionService

/-- Every interleaving of the requests is a run of this machine. -/
def sessionServices (config : SessionConfig) :
    Machine SessionService SessionEvent (Option SessionReply) := ⟨SessionService.step config⟩

abbrev SessionStep := Machine.Event SessionService SessionEvent (Option SessionReply)

namespace SessionRequest

def Repeats (request : SessionRequest) (command : SessionCommand) : Prop :=
  command.commandType = request.commandType ∧
    ∀ id ∈ request.guestSessionId, command.guestSessionId = id

def Replays (command : SessionCommand) (result : Except SessionError SessionMutationResult) :
    Prop := ∃ r, result = .ok r ∧ r.value.guestSession.id = command.guestSessionId ∧
      r.value.issuedClaims = command.issuedClaims

def Reused (result : Except SessionError SessionMutationResult) : Prop :=
  ∃ e, result = .error e ∧ e.code = .idempotencyKeyReused

end SessionRequest

def SessionMutation.refused (db : Db) : SessionMutation → Bool
  | .create _ => false
  | .renew input =>
    match db.availableSession input.guestSessionId input.issuedClaims.issuedAt with
    | .error _ => true
    | .ok _ => false
  | .reset input =>
    match db.availableSession input.guestSessionId input.revokedAt with
    | .error _ => true
    | .ok session => decide (input.revokedAt < session.issuedAt)

/-- The step of a request ends it for a reason of its own: its session refuses it, the key is new
but the token is revoked, or the key is new but every name has been taken. -/
def SessionRequest.refused (request : SessionRequest) (db : Db) : SessionPhase → Bool
  | .findCommand =>
    request.tokenWasRevoked && (db.sessionCommands.find request.idempotencyHash).isNone
  | .mutate mutation _ => mutation.refused db
  | .recover (.create _) 0 => (db.sessionCommands.find request.idempotencyHash).isNone
  | _ => false

namespace SessionStep

def caller (e : SessionStep) : Option (ℕ × SessionCall) :=
  match e.input with
  | .call _ => none
  | .advance index _ => (e.before.pending index).map (index,·)

def Commits (e : SessionStep) (idempotencyHash : String) : Prop :=
  (∃ index call, caller e = some (index,call) ∧ call.request.idempotencyHash = idempotencyHash) ∧
    e.after.db ≠ e.before.db

/-- A request that had begun by the step `e` commits the command later, in one of the steps that
follow: the two overlap. -/
def Overlaps (e : SessionStep) (following : List SessionStep) (command : SessionCommand) : Prop :=
  ∃ e' ∈ following, Commits e' command.idempotencyHash ∧
    (∃ index call, caller e' = some (index,call) ∧ index < e.after.calls.length) ∧
    e'.after.recorded command.idempotencyHash = some command

/-- The step ends a request for a reason of its own, although its key stands for a command, or
will stand for the command that it repeats and that it overlaps. -/
def LosesRace (e : SessionStep) (following : List SessionStep) : Prop :=
  ∃ index call, caller e = some (index,call) ∧ call.request.refused e.before.db call.phase ∧
    ∃ command, command.idempotencyHash = call.request.idempotencyHash ∧
      (e.before.recorded command.idempotencyHash = some command ∨
        call.request.Repeats command ∧ Overlaps e following command)

end SessionStep

open SessionStep in
open Classical in
/-- The idempotency of the session commands along a run: a key performs at most one mutation, a
request that repeats a command with its key replays it, also if the two overlap, and a request
that takes the key of another command is told so. -/
structure Idempotent (steps : List SessionStep) : Prop where
  once : ∀ idempotencyHash, steps.countP (fun e => decide (Commits e idempotencyHash)) ≤ 1
  first : ∀ e ∈ steps, ∀ idempotencyHash, Commits e idempotencyHash →
    e.before.recorded idempotencyHash = none
  replays : ∀ earlier e following, steps = earlier ++ e :: following → ∀ reply,
    e.answer = some reply → ∀ command,
    command.idempotencyHash = reply.request.idempotencyHash →
    (e.after.recorded command.idempotencyHash = some command ∨ Overlaps e following command) →
    reply.request.Repeats command → SessionRequest.Replays command reply.result
  reused : ∀ e ∈ steps, ∀ reply, e.answer = some reply → ∀ command,
    e.after.recorded reply.request.idempotencyHash = some command →
    ¬ reply.request.Repeats command → SessionRequest.Reused reply.result

/-- The result that a request must get when its key stands for a command. -/
def SessionRequest.Answers (request : SessionRequest) (command : SessionCommand)
    (result : Except SessionError SessionMutationResult) : Prop :=
  (request.Repeats command → SessionRequest.Replays command result) ∧
    (¬ request.Repeats command → SessionRequest.Reused result)

section Steps

/-! What a step of a request finds and commits. -/

variable {config : SessionConfig} {db db' : Db} {request : SessionRequest} {hash : String}
  {command : SessionCommand}

theorem Db.findCommand_none (h : db.sessionCommands.find hash = none) :
    db.findCommand hash = .ok none := by
  unfold Db.findCommand
  rw [h]

theorem Db.findCommand_some (hdb : db.SessionsSound)
    (h : db.sessionCommands.find hash = some command) :
    ∃ guest : GuestSession, guest.id = command.guestSessionId ∧
      db.findCommand hash = .ok (some ⟨command.commandType,guest,command.issuedClaims⟩) := by
  obtain ⟨guest,hguest⟩ :=
    Option.ne_none_iff_exists'.mp (hdb.joined command (Table.find_mem h))
  refine ⟨guest,Table.find_key hguest,?_⟩
  unfold Db.findCommand Db.toCommandReplay
  rw [h]
  simp only [hguest]
  rfl

theorem SessionRequest.repeats_iff {value : SessionCommandReplay}
    (htype : value.commandType = command.commandType)
    (hguest : value.guestSession.id = command.guestSessionId) :
    request.Repeats command ↔ ¬ (value.commandType ≠ request.commandType ∨
      request.guestSessionId.any fun id => value.guestSession.id ≠ id) := by
  unfold SessionRequest.Repeats
  rw [htype,hguest]
  cases request.guestSessionId with
  | none => simp
  | some id => simp

theorem SessionRequest.asserted_answers {result : SessionMutationResult}
    (htype : result.value.commandType = command.commandType)
    (hguest : result.value.guestSession.id = command.guestSessionId)
    (hclaims : result.value.issuedClaims = command.issuedClaims)
    (hissued : command.commandType ≠ .reset → command.issuedClaims ≠ none) :
    ∃ answer, request.asserted result = .done answer ∧ request.Answers command answer := by
  refine ⟨_,rfl,?_,?_⟩
  · intro hrepeats
    have hsame := (request.repeats_iff htype hguest).mp hrepeats
    have hstored : ¬ ((request.commandType = .create ∨ request.commandType = .renew) ∧
        result.value.issuedClaims = none) := by
      rintro ⟨hcreates,hnone⟩
      have hnot : command.commandType ≠ .reset := by
        rw [hrepeats.1]
        rcases hcreates with hcreate | hrenew
        · rw [hcreate]
          exact nofun
        · rw [hrenew]
          exact nofun
      exact hissued hnot (hclaims ▸ hnone)
    refine ⟨result,?_,hguest,hclaims⟩
    unfold assertCommand
    rw [if_neg hsame,if_neg hstored]
    rfl
  · intro hrepeats
    have hother := not_not.mp fun hn => hrepeats ((request.repeats_iff htype hguest).mpr hn)
    unfold SessionRequest.Reused assertCommand
    rw [if_pos hother]
    exact ⟨_,rfl,rfl⟩

theorem SessionRequest.found_answers (hdb : db.SessionsSound) {value : SessionCommandReplay}
    (hc : db.sessionCommands.find hash = some command)
    (hv : db.findCommand hash = .ok (some value)) :
    ∃ answer, request.asserted ⟨true,value⟩ = .done answer ∧ request.Answers command answer := by
  obtain ⟨guest,hguest,hfind⟩ := Db.findCommand_some hdb hc
  rw [hfind] at hv
  cases hv
  exact asserted_answers rfl hguest rfl (hdb.claims command (Table.find_mem hc))

/-- A creation can only fail on a name, an identifier or a key that is taken. -/
theorem Db.createSession_error {input : CreateGuestSession} (hl : input.issuedClaims.lasting)
    {e : SessionFailure} (h : db.createSession none input = .error e) :
    e = .database .unique := by
  have hchecks : ∀ row : GuestSession, row.issuedAt = input.issuedClaims.issuedAt →
      row.expiresAt = input.issuedClaims.expiresAt → row.revokedAt = none → row.rowChecks := by
    intro row hissued hexpires hopen
    refine ⟨?_,?_⟩
    · rw [hissued,hexpires]
      exact hl
    · rw [hopen]
      exact nofun
  unfold Db.createSession at h
  simp only [bind,Except.bind] at h
  split at h
  · rename_i e' hrow
    cases h
    unfold Db.createGuestSession at hrow
    rw [if_neg (not_not.mpr (hchecks _ rfl rfl rfl))] at hrow
    split_ifs at hrow
    · cases hrow
      rfl
    · split at hrow
      · cases hrow
        rfl
      · cases hrow
  · split at h
    · rename_i e' hcommand
      cases h
      unfold Db.createSessionCommand at hcommand
      split at hcommand
      · cases hcommand
        rfl
      · cases hcommand
    · cases h

/-- A change fails on the session that it has locked, on the row that it writes, or on a key that
is taken. -/
theorem Db.changeSession_error {id : GuestSessionId} {t : Millis}
    {change : GuestSession → GuestSession} {row : SessionCommand} {e : SessionFailure}
    (h : db.changeSession id t change row = .error e) :
    (db.availableSession id t = .error .sessionUnavailable ∧ e = .sessionUnavailable) ∨
    ∃ current, db.availableSession id t = .ok current ∧
      (¬ (change current).rowChecks ∧ e = .database .constraint ∨
        (change current).rowChecks ∧ e = .database .unique ∧
          db.sessionCommands.find row.idempotencyHash ≠ none) := by
  unfold Db.changeSession at h
  cases ha : db.availableSession id t with
  | error e' =>
    have he' : e' = .sessionUnavailable := by
      unfold Db.availableSession at ha
      split at ha
      · cases ha
        rfl
      · split_ifs at ha
        cases ha
        rfl
    rw [ha] at h
    cases h
    rw [he']
    exact Or.inl ⟨rfl,rfl⟩
  | ok current =>
    refine Or.inr ⟨current,rfl,?_⟩
    rw [ha] at h
    by_cases hchecks : (change current).rowChecks
    · have hput : db.updateGuestSession (change current) =
          .ok { db with guestSessions := db.guestSessions.put (change current) } := by
        unfold Db.updateGuestSession
        rw [if_neg (not_not.mpr hchecks)]
      simp only [bind,Except.bind,hput] at h
      split at h
      · rename_i e' hcommand
        cases h
        unfold Db.createSessionCommand at hcommand
        split at hcommand
        · rename_i hinsert
          cases hcommand
          exact Or.inr ⟨hchecks,rfl,Table.insert_eq_none.mp hinsert⟩
        · cases hcommand
      · cases h
    · have hput : db.updateGuestSession (change current) = .error (.database .constraint) := by
        unfold Db.updateGuestSession
        rw [if_pos hchecks]
      simp only [bind,Except.bind,hput] at h
      cases h
      exact Or.inl ⟨hchecks,rfl⟩

theorem SessionRequest.work_ok {choice : SessionChoice} {r : SessionMutationResult}
    (h : (request.mutation config choice).work db = .ok (r,db')) :
    (request.mutation config choice).refused db = false ∧
    ∃ command, command.idempotencyHash = request.idempotencyHash ∧ request.Repeats command ∧
      db.sessionCommands.insert command = some db'.sessionCommands ∧
      r.value.commandType = command.commandType ∧
      r.value.guestSession.id = command.guestSessionId ∧
      r.value.issuedClaims = command.issuedClaims ∧
      (command.commandType ≠ .reset → command.issuedClaims ≠ none) := by
  unfold SessionRequest.mutation at h ⊢
  cases hkind : request.kind with
  | create =>
    simp only [hkind] at h
    obtain ⟨row,hid,_,_,hcommand,rfl⟩ := Db.createSession_ok h
    refine ⟨rfl,_,rfl,?_,hcommand,rfl,hid,rfl,fun _ => nofun⟩
    unfold SessionRequest.Repeats SessionRequest.commandType SessionRequest.guestSessionId
    rw [hkind]
    exact ⟨rfl,nofun⟩
  | renew guest =>
    simp only [hkind] at h
    obtain ⟨current,hcurrent,_,_,hcommand,rfl⟩ := Db.changeSession_ok h
    have hid := Table.find_key (Db.availableSession_ok hcurrent).1
    refine ⟨?_,_,rfl,?_,hcommand,rfl,hid,rfl,fun _ => nofun⟩
    · simp only [SessionMutation.refused,hcurrent]
    · unfold SessionRequest.Repeats SessionRequest.commandType SessionRequest.guestSessionId
      rw [hkind]
      exact ⟨rfl,fun id hmem => Option.some.inj hmem⟩
  | reset guest tokenWasRevoked =>
    simp only [hkind] at h
    obtain ⟨current,hcurrent,hchecks,_,hcommand,rfl⟩ := Db.changeSession_ok h
    have hid := Table.find_key (Db.availableSession_ok hcurrent).1
    refine ⟨?_,_,rfl,?_,hcommand,rfl,hid,rfl,fun hn => absurd rfl hn⟩
    · simp only [SessionMutation.refused,hcurrent,decide_eq_false_iff_not,not_lt]
      exact hchecks.2 _ rfl
    · unfold SessionRequest.Repeats SessionRequest.commandType SessionRequest.guestSessionId
      rw [hkind]
      exact ⟨rfl,fun id hmem => Option.some.inj hmem⟩

theorem SessionRequest.work_error (hdb : db.SessionsChecked) {choice : SessionChoice}
    {e : SessionFailure} (h : (request.mutation config choice).work db = .error e) :
    (request.mutation config choice).refused db = true ∧ e ≠ .database .unique ∧
        e.stable.code ≠ .idempotencyKeyReused ∨
      (request.mutation config choice).refused db = false ∧ e = .database .unique ∧
        (request.kind = .create ∨ db.sessionCommands.find request.idempotencyHash ≠ none) := by
  unfold SessionRequest.mutation at h ⊢
  cases hkind : request.kind with
  | create =>
    simp only [hkind] at h
    exact Or.inr ⟨rfl,Db.createSession_error (createIssuedClaims_lasting config choice) h,
      Or.inl rfl⟩
  | renew guest =>
    simp only [hkind] at h
    rcases Db.changeSession_error h with ⟨ha,rfl⟩ | ⟨current,hcurrent,hrow⟩
    · left
      simp only [SessionMutation.refused,ha]
      exact ⟨trivial,nofun,nofun⟩
    · obtain ⟨_,hopen,_⟩ := Db.availableSession_ok hcurrent
      right
      rcases hrow with ⟨hnot,_⟩ | ⟨_,rfl,hfound⟩
      · refine absurd ⟨createIssuedClaims_lasting config choice,?_⟩ hnot
        simp only [hopen]
        exact nofun
      · simp only [SessionMutation.refused,hcurrent]
        exact ⟨trivial,trivial,Or.inr hfound⟩
  | reset guest tokenWasRevoked =>
    simp only [hkind] at h
    rcases Db.changeSession_error h with ⟨ha,rfl⟩ | ⟨current,hcurrent,hrow⟩
    · left
      simp only [SessionMutation.refused,ha]
      exact ⟨trivial,nofun,nofun⟩
    · have hmem := Table.find_mem (Db.availableSession_ok hcurrent).1
      rcases hrow with ⟨hnot,rfl⟩ | ⟨hchecks,rfl,hfound⟩
      · left
        refine ⟨?_,nofun,nofun⟩
        simp only [SessionMutation.refused,hcurrent,decide_eq_true_eq]
        by_contra hle
        refine hnot ⟨(hdb current hmem).1,fun revoked hrevoked => ?_⟩
        cases hrevoked
        exact not_lt.mp hle
      · right
        refine ⟨?_,rfl,Or.inr hfound⟩
        simp only [SessionMutation.refused,hcurrent,decide_eq_false_iff_not,not_lt]
        exact hchecks.2 _ rfl

end Steps

section Advance

/-- A renewal or a reset that goes to recover from a conflict has conflicted on its key. -/
def SessionRequest.Conflicted (db : Db) (request : SessionRequest) (phase : SessionPhase) : Prop :=
  ∀ mutation attempts, phase = .recover mutation attempts →
    request.kind = .create ∨ db.sessionCommands.find request.idempotencyHash ≠ none

inductive SessionRequest.Advanced (config : SessionConfig) (request : SessionRequest) (db : Db) :
    Bool → SessionPhase → Db → Prop
  | waits {phase : SessionPhase} : phase.result = none → request.Conflicted db phase →
      Advanced config request db false phase db
  | refuses {e : SessionError} : e.code ≠ .idempotencyKeyReused →
      Advanced config request db true (.done (.error e)) db
  | answers {db' : Db} {command : SessionCommand}
      {answer : Except SessionError SessionMutationResult} :
      command.idempotencyHash = request.idempotencyHash → request.Answers command answer →
      (db' = db ∧ db.sessionCommands.find request.idempotencyHash = some command ∨
        request.Repeats command ∧ db.sessionCommands.insert command = some db'.sessionCommands) →
      Advanced config request db false (.done answer) db'

variable {config : SessionConfig} {db : Db} {request : SessionRequest}

theorem SessionRequest.Advanced.of_found (config : SessionConfig) (hdb : db.SessionsSound)
    {value : SessionCommandReplay}
    (hv : db.findCommand request.idempotencyHash = .ok (some value)) :
    ∃ command, db.sessionCommands.find request.idempotencyHash = some command ∧
      Advanced config request db false (request.asserted ⟨true,value⟩) db := by
  cases hc : db.sessionCommands.find request.idempotencyHash with
  | none =>
    rw [Db.findCommand_none hc] at hv
    cases hv
  | some command =>
    obtain ⟨answer,he,hanswers⟩ := request.found_answers hdb hc hv
    rw [he]
    exact ⟨command,rfl,.answers (Table.find_key hc) hanswers (Or.inl ⟨rfl,hc⟩)⟩

theorem Db.findCommand_cases (hdb : db.SessionsSound) (hash : String) :
    (db.sessionCommands.find hash = none ∧ db.findCommand hash = .ok none) ∨
      ∃ value, db.findCommand hash = .ok (some value) := by
  cases hc : db.sessionCommands.find hash with
  | none => exact Or.inl ⟨rfl,Db.findCommand_none hc⟩
  | some command =>
    obtain ⟨guest,_,hfind⟩ := Db.findCommand_some hdb hc
    exact Or.inr ⟨_,hfind⟩

theorem SessionRequest.advance_mutate (config : SessionConfig) (hdb : db.SessionsSound)
    (attempts : ℕ) (choice choice' : SessionChoice) :
    request.Advanced config db ((request.mutation config choice).refused db)
      (request.advance config choice' db (.mutate (request.mutation config choice) attempts)).1
      (request.advance config choice' db
        (.mutate (request.mutation config choice) attempts)).2 := by
  cases hw : (request.mutation config choice).work db with
  | ok r =>
    obtain ⟨r,db'⟩ := r
    obtain ⟨hrefused,command,hhash,hrepeats,hinsert,htype,hguest,hclaims,hissued⟩ :=
      request.work_ok hw
    obtain ⟨answer,he,hanswers⟩ :=
      request.asserted_answers htype hguest hclaims hissued
    rw [hrefused]
    simp only [SessionRequest.advance,hw,he]
    exact .answers hhash hanswers (Or.inr ⟨hrepeats,hinsert⟩)
  | error e =>
    rcases request.work_error hdb.checked hw with ⟨hrefused,hne,hcode⟩ | ⟨hrefused,rfl,hkey⟩
    · have hadvance : request.advance config choice' db
          (.mutate (request.mutation config choice) attempts) =
            (.done (.error e.stable),db) := by
        simp only [SessionRequest.advance,hw]
      rw [hrefused,hadvance]
      exact .refuses hcode
    · rw [hrefused]
      simp only [SessionRequest.advance,hw]
      exact .waits rfl fun _ _ _ => hkey

/-- Every step of a request waits, refuses it or answers it. -/
theorem SessionRequest.advance_cases (hdb : db.SessionsSound) (choice : SessionChoice)
    {phase : SessionPhase} (hopen : phase.result = none)
    (hprepared : request.Prepared config phase) (hconflicted : request.Conflicted db phase) :
    request.Advanced config db (request.refused db phase)
      (request.advance config choice db phase).1 (request.advance config choice db phase).2 := by
  cases phase with
  | done result => cases hopen
  | mutate mutation attempts =>
    obtain ⟨chosen,rfl⟩ := hprepared
    exact advance_mutate config hdb attempts chosen choice
  | findCommand =>
    rcases Db.findCommand_cases hdb request.idempotencyHash with ⟨hc,hf⟩ | ⟨value,hv⟩
    · simp only [SessionRequest.advance,hf,SessionRequest.refused,hc]
      cases request.tokenWasRevoked with
      | true => exact .refuses (by decide)
      | false => exact .waits rfl fun _ _ hphase => by cases hphase
    · obtain ⟨command,hc,hadvanced⟩ := Advanced.of_found config hdb hv
      simpa only [SessionRequest.advance,hv,SessionRequest.refused,hc,Option.isNone_some,
        Bool.and_false] using hadvanced
  | lookup mutation attempts =>
    rcases Db.findCommand_cases hdb request.idempotencyHash with ⟨hc,hf⟩ | ⟨value,hv⟩
    · simp only [SessionRequest.advance,hf,SessionRequest.refused]
      exact .waits rfl fun _ _ hphase => by cases hphase
    · obtain ⟨command,hc,hadvanced⟩ := Advanced.of_found config hdb hv
      simpa only [SessionRequest.advance,hv,SessionRequest.refused] using hadvanced
  | recover mutation attempts =>
    obtain ⟨chosen,rfl⟩ := hprepared
    have hkey := hconflicted _ attempts rfl
    rcases Db.findCommand_cases hdb request.idempotencyHash with ⟨hc,hf⟩ | ⟨value,hv⟩
    · have hkind : request.kind = .create := hkey.resolve_right fun hn => hn hc
      simp only [SessionRequest.advance,hf,SessionRequest.mutation,hkind]
      cases attempts with
      | zero =>
        simp only [SessionRequest.refused,hc]
        exact .refuses (by decide)
      | succ attempts =>
        simp only [SessionRequest.refused]
        exact .waits rfl fun _ _ hphase => by cases hphase
    · obtain ⟨command,hc,hadvanced⟩ := Advanced.of_found config hdb hv
      have hrefused : request.refused db
          (.recover (request.mutation config chosen) attempts) = false := by
        unfold SessionRequest.refused
        split <;> simp_all
      rw [hrefused]
      simpa only [SessionRequest.advance,hv] using hadvanced

namespace SessionRequest

variable {db' : Db} {refused : Bool} {phase : SessionPhase}

theorem Advanced.recorded (h : request.Advanced config db refused phase db') {hash : String}
    {command : SessionCommand} (hc : db.sessionCommands.find hash = some command) :
    db'.sessionCommands.find hash = some command := by
  cases h with
  | waits _ _ => exact hc
  | refuses _ => exact hc
  | answers hhash _ hdb =>
    rcases hdb with ⟨rfl,_⟩ | ⟨_,hinsert⟩
    · exact hc
    · exact Table.find_insert_of_found hinsert hc

theorem Advanced.commits (h : request.Advanced config db refused phase db') (hne : db' ≠ db) :
    ∃ command, db.sessionCommands.find request.idempotencyHash = none ∧
      db'.sessionCommands.find request.idempotencyHash = some command := by
  cases h with
  | waits _ _ => exact absurd rfl hne
  | refuses _ => exact absurd rfl hne
  | @answers _ command answer hhash _ hdb =>
    rcases hdb with ⟨rfl,_⟩ | ⟨_,hinsert⟩
    · exact absurd rfl hne
    · refine ⟨command,hhash ▸ (Table.insert_fresh hinsert).1,?_⟩
      rw [Table.find_insert hinsert,if_pos hhash.symm]

theorem Advanced.conflicted (h : request.Advanced config db refused phase db') :
    request.Conflicted db' phase := by
  cases h with
  | waits _ hconflicted => exact hconflicted
  | refuses _ => exact nofun
  | answers _ _ _ => exact nofun

theorem Conflicted.mono (h : request.Conflicted db phase)
    (hkeep : ∀ hash command, db.sessionCommands.find hash = some command →
      db'.sessionCommands.find hash = some command) : request.Conflicted db' phase := by
  intro mutation attempts hphase
  refine (h mutation attempts hphase).imp_right fun hne => ?_
  obtain ⟨command,hc⟩ := Option.ne_none_iff_exists'.mp hne
  rw [hkeep _ _ hc]
  exact nofun

end SessionRequest

end Advance

section Service

variable {config : SessionConfig} {service : SessionService} {e : SessionStep}

structure SessionService.Sound (config : SessionConfig) (service : SessionService) : Prop where
  sessions : service.db.SessionsSound
  calls : ∀ call ∈ service.calls, call.request.Prepared config call.phase ∧
    call.request.Conflicted service.db call.phase

theorem SessionService.pending_eq {index : ℕ} {call : SessionCall}
    (h : service.pending index = some call) :
    service.calls[index]? = some call ∧ call.phase.result = none := by
  unfold SessionService.pending at h
  obtain ⟨hc,hp⟩ := Option.filter_eq_some_iff.mp h
  exact ⟨hc,Option.isNone_iff_eq_none.mp hp⟩

namespace SessionStep

theorem idle (config : SessionConfig) (service : SessionService) (input : SessionEvent)
    (h : caller ((sessionServices config).event service input) = none) :
    ((sessionServices config).event service input).answer = none ∧
      ((sessionServices config).next service input).db = service.db ∧
      ∀ call ∈ ((sessionServices config).next service input).calls,
        call ∈ service.calls ∨ call.phase = .findCommand := by
  cases input with
  | call request =>
    refine ⟨rfl,rfl,fun call hmem => ?_⟩
    rcases List.mem_append.mp hmem with hmem | hmem
    · exact Or.inl hmem
    · rw [List.mem_singleton.mp hmem]
      exact Or.inr rfl
  | advance index choice =>
    have hnone : service.pending index = none := Option.map_eq_none_iff.mp h
    have hstep : (sessionServices config).step service (.advance index choice) =
        (none,service) := by
      simp only [sessionServices,SessionService.step,hnone]
    simp only [Machine.event,Machine.next,hstep]
    exact ⟨trivial,trivial,fun call hmem => Or.inl hmem⟩

theorem taken (h : service.Sound config) (input : SessionEvent) {index : ℕ} {call : SessionCall}
    (hcaller : caller ((sessionServices config).event service input) = some (index,call)) :
    ∃ phase, call.request.Advanced config service.db (call.request.refused service.db call.phase)
        phase ((sessionServices config).next service input).db ∧
      ((sessionServices config).event service input).answer =
        phase.result.map (⟨call.request,·⟩) ∧
      ((sessionServices config).next service input).calls =
        service.calls.set index ⟨call.request,phase⟩ ∧
      call.request.Prepared config phase ∧
      ((sessionServices config).next service input).db.SessionsSound := by
  cases input with
  | call request => cases hcaller
  | advance position choice =>
    obtain ⟨call',hpending,he⟩ := Option.map_eq_some_iff.mp hcaller
    obtain ⟨rfl,rfl⟩ := Prod.mk.inj he
    obtain ⟨hcall,hopen⟩ := SessionService.pending_eq hpending
    have hpending : service.pending position = some call' := hpending
    have hmem : call' ∈ service.calls := List.mem_of_getElem? hcall
    obtain ⟨hprepared,hconflicted⟩ := h.calls call' hmem
    have hadvanced := call'.request.advance_cases h.sessions choice hopen hprepared hconflicted
    have hsound : (call'.request.advance config choice service.db call'.phase).2.SessionsSound := by
      rcases call'.request.advance_execute config choice service.db call'.phase with
        hsame | ⟨mutation,_,_,hexecute⟩
      · rw [hsame]
        exact h.sessions
      · rw [hexecute]
        exact h.sessions.session mutation.operation
    have hstep : (sessionServices config).step service (.advance position choice) =
        ((call'.request.advance config choice service.db call'.phase).1.result.map
            (⟨call'.request,·⟩),
          ⟨(call'.request.advance config choice service.db call'.phase).2,
            service.calls.set position ⟨call'.request,
              (call'.request.advance config choice service.db call'.phase).1⟩⟩) := by
      simp only [sessionServices,SessionService.step,hpending]
    simp only [Machine.event,Machine.next,hstep]
    exact ⟨_,hadvanced,rfl,rfl,hprepared.advance choice service.db,hsound⟩

end SessionStep

namespace SessionService

theorem recorded_next (h : service.Sound config) (input : SessionEvent) {hash : String}
    {command : SessionCommand} (hc : service.recorded hash = some command) :
    ((sessionServices config).next service input).recorded hash = some command := by
  unfold recorded at hc ⊢
  cases hcaller : SessionStep.caller ((sessionServices config).event service input) with
  | none =>
    rw [(SessionStep.idle config service input hcaller).2.1]
    exact hc
  | some caller =>
    obtain ⟨phase,hadvanced,_⟩ := SessionStep.taken h input hcaller
    exact hadvanced.recorded hc

theorem Sound.stable (config : SessionConfig) :
    (sessionServices config).Stable (SessionService.Sound config) := by
  intro service input h
  have hkeep : ∀ hash command, service.db.sessionCommands.find hash = some command →
      ((sessionServices config).next service input).db.sessionCommands.find hash =
        some command := fun hash command => recorded_next h input
  cases hcaller : SessionStep.caller ((sessionServices config).event service input) with
  | none =>
    obtain ⟨_,hdb,hcalls⟩ := SessionStep.idle config service input hcaller
    refine ⟨hdb ▸ h.sessions,fun call hmem => ?_⟩
    rcases hcalls call hmem with hold | hnew
    · exact (h.calls call hold).imp_right fun hconflicted => hconflicted.mono hkeep
    · rw [hnew]
      exact ⟨trivial,nofun⟩
  | some caller =>
    obtain ⟨phase,hadvanced,_,hcalls,hprepared,hsessions⟩ := SessionStep.taken h input hcaller
    refine ⟨hsessions,fun call hmem => ?_⟩
    rw [hcalls] at hmem
    rcases List.mem_or_eq_of_mem_set hmem with hold | rfl
    · exact (h.calls call hold).imp_right fun hconflicted => hconflicted.mono hkeep
    · exact ⟨hprepared,hadvanced.conflicted⟩

theorem recorded_stable (config : SessionConfig) (hash : String) (command : SessionCommand) :
    (sessionServices config).Stable fun service =>
      service.Sound config ∧ service.recorded hash = some command :=
  fun service input h => ⟨Sound.stable config service input h.1,recorded_next h.1 input h.2⟩

end SessionService

namespace SessionStep

theorem Commits.fresh (h : service.Sound config) {input : SessionEvent} {hash : String}
    (hcommits : Commits ((sessionServices config).event service input) hash) :
    service.recorded hash = none ∧
      ((sessionServices config).next service input).recorded hash ≠ none := by
  obtain ⟨⟨index,call,hcaller,rfl⟩,hne⟩ := hcommits
  obtain ⟨phase,hadvanced,_⟩ := taken h input hcaller
  obtain ⟨command,hnone,hsome⟩ := hadvanced.commits hne
  refine ⟨hnone,?_⟩
  unfold SessionService.recorded
  rw [hsome]
  exact nofun

theorem answered (h : service.Sound config) {input : SessionEvent} {reply : SessionReply}
    (hreply : ((sessionServices config).event service input).answer = some reply) :
    (∃ command, command.idempotencyHash = reply.request.idempotencyHash ∧
      ((sessionServices config).next service input).recorded command.idempotencyHash =
        some command ∧ reply.request.Answers command reply.result) ∨
    ∃ index call, caller ((sessionServices config).event service input) = some (index,call) ∧
      call.request = reply.request ∧ call.request.refused service.db call.phase ∧
      ((sessionServices config).next service input).db = service.db := by
  cases hcaller : caller ((sessionServices config).event service input) with
  | none =>
    rw [(idle config service input hcaller).1] at hreply
    cases hreply
  | some caller =>
    obtain ⟨index,call⟩ := caller
    obtain ⟨phase,hadvanced,hanswer,_⟩ := taken h input hcaller
    rw [hanswer] at hreply
    obtain ⟨result,hresult,rfl⟩ := Option.map_eq_some_iff.mp hreply
    generalize hr : call.request.refused service.db call.phase = refused at hadvanced
    generalize hdb : ((sessionServices config).next service input).db = db at hadvanced
    cases hadvanced with
    | waits hopen _ =>
      rw [hopen] at hresult
      cases hresult
    | refuses _ => exact Or.inr ⟨index,call,rfl,rfl,hr,rfl⟩
    | @answers _ command answer hhash hanswers hstored =>
      cases hresult
      refine Or.inl ⟨command,hhash,?_,hanswers⟩
      unfold SessionService.recorded
      rw [hdb]
      rcases hstored with ⟨rfl,hc⟩ | ⟨_,hinsert⟩
      · rw [hhash]
        exact hc
      · rw [Table.find_insert hinsert,if_pos rfl]

theorem refused (h : service.Sound config) {input : SessionEvent} {index : ℕ}
    {call : SessionCall}
    (hcaller : caller ((sessionServices config).event service input) = some (index,call))
    (hr : call.request.refused service.db call.phase) :
    ∃ error, ((sessionServices config).event service input).answer =
        some ⟨call.request,.error error⟩ ∧ error.code ≠ .idempotencyKeyReused ∧
      ((sessionServices config).next service input).db = service.db := by
  obtain ⟨phase,hadvanced,hanswer,_⟩ := taken h input hcaller
  rw [hr] at hadvanced
  generalize hdb : ((sessionServices config).next service input).db = db at hadvanced
  cases hadvanced with
  | @refuses error hcode => exact ⟨error,hanswer,hcode,rfl⟩

end SessionStep

end Service

section Idempotency

open SessionStep

variable {config : SessionConfig} {service : SessionService} {schedule : List SessionEvent}

open Classical in
theorem commits_le_one (h : service.Sound config) (schedule : List SessionEvent) (hash : String) :
    ((sessionServices config).events service schedule).countP
      (fun e => decide (Commits e hash)) ≤ 1 := by
  have hstable : (sessionServices config).Stable fun service =>
      service.Sound config ∧ service.recorded hash ≠ none := by
    intro service input hs
    obtain ⟨command,hc⟩ := Option.ne_none_iff_exists'.mp hs.2
    refine ⟨SessionService.Sound.stable config service input hs.1,?_⟩
    rw [SessionService.recorded_next hs.1 input hc]
    exact nofun
  refine hstable.countP_le_one _ fun e he hcommits => ?_
  have hsound := (SessionService.Sound.stable config).before h he
  rw [Machine.mem_events_eq _ he] at hcommits ⊢
  obtain ⟨hnone,hsome⟩ := hcommits.fresh hsound
  exact ⟨fun hs => hs.2 hnone,SessionService.Sound.stable config _ _ hsound,hsome⟩

theorem commits_first (h : service.Sound config) {e : SessionStep}
    (he : e ∈ (sessionServices config).events service schedule) {hash : String}
    (hcommits : Commits e hash) : e.before.recorded hash = none := by
  have hsound := (SessionService.Sound.stable config).before h he
  rw [Machine.mem_events_eq _ he] at hcommits ⊢
  exact (hcommits.fresh hsound).1

/-- A command that a later step commits is not recorded yet. -/
theorem SessionStep.Overlaps.unrecorded {e : SessionStep} {following : List SessionEvent}
    {command command' : SessionCommand} (h : e.after.Sound config)
    (hoverlaps : Overlaps e ((sessionServices config).events e.after following) command) :
    e.after.recorded command.idempotencyHash ≠ some command' := by
  intro hc
  obtain ⟨e',he',hcommits,_⟩ := hoverlaps
  have hbefore := (SessionService.recorded_stable config _ command').before ⟨h,hc⟩ he'
  rw [commits_first h he' hcommits] at hbefore
  cases hbefore.2

/-- A step of a run is taken in a sound state, and the run goes on from the state it leads to. -/
theorem step_of_split (h : service.Sound config) {earlier following : List SessionStep}
    {e : SessionStep}
    (hsplit : (sessionServices config).events service schedule = earlier ++ e :: following) :
    e.before.Sound config ∧ e = (sessionServices config).event e.before e.input ∧
      e.after.Sound config ∧
      ∃ post, following = (sessionServices config).events e.after post := by
  have hmem : e ∈ (sessionServices config).events service schedule := by
    rw [hsplit]
    exact List.mem_append_right _ List.mem_cons_self
  obtain ⟨_,post,_,_,_,hfollowing⟩ := Machine.events_split _ hsplit
  exact ⟨(SessionService.Sound.stable config).before h hmem,Machine.mem_events_eq _ hmem,
    (SessionService.Sound.stable config).after h hmem,post,hfollowing⟩

/-- A request that does not lose the race for its key is answered by the command of the key. -/
theorem answers_unless_lost (h : service.Sound config) {earlier following : List SessionStep}
    {e : SessionStep} {reply : SessionReply} {command : SessionCommand}
    (hsplit : (sessionServices config).events service schedule = earlier ++ e :: following)
    (hkept : ¬ LosesRace e following) (hreply : e.answer = some reply)
    (hhash : command.idempotencyHash = reply.request.idempotencyHash)
    (hcommand : e.after.recorded command.idempotencyHash = some command ∨
      reply.request.Repeats command ∧ Overlaps e following command) :
    reply.request.Answers command reply.result := by
  obtain ⟨hbefore,he,hafter,post,rfl⟩ := step_of_split h hsplit
  have hnext : e.after = (sessionServices config).next e.before e.input := by rw [he]; rfl
  have hanswer := hreply
  rw [he] at hanswer
  rcases SessionStep.answered hbefore hanswer with
    ⟨command',hhash',hrecorded,hanswers⟩ | ⟨index,call,hcaller,hcall,hrefused,hsame⟩
  · rw [← hnext,hhash',← hhash] at hrecorded
    rcases hcommand with hc | ⟨_,hoverlaps⟩
    · rw [hc] at hrecorded
      cases hrecorded
      exact hanswers
    · exact absurd hrecorded (hoverlaps.unrecorded hafter)
  · rw [← he] at hcaller
    rw [← hnext] at hsame
    refine absurd ⟨index,call,hcaller,hrefused,command,hcall ▸ hhash,?_⟩ hkept
    rw [hcall]
    refine hcommand.imp_left fun hc => ?_
    unfold SessionService.recorded at hc ⊢
    rw [← hsame]
    exact hc

theorem lost_answer (h : service.Sound config) {earlier following : List SessionStep}
    {e : SessionStep}
    (hsplit : (sessionServices config).events service schedule = earlier ++ e :: following)
    (hlost : LosesRace e following) :
    ∃ reply error command, e.answer = some reply ∧ reply.result = .error error ∧
      error.code ≠ .idempotencyKeyReused ∧
      command.idempotencyHash = reply.request.idempotencyHash ∧
      (e.after.recorded command.idempotencyHash = some command ∨
        reply.request.Repeats command ∧ Overlaps e following command) := by
  obtain ⟨hbefore,he,_,_,_⟩ := step_of_split h hsplit
  obtain ⟨index,call,hcaller,hrefused,command,hhash,hcommand⟩ := hlost
  have hnext : e.after = (sessionServices config).next e.before e.input := by rw [he]; rfl
  rw [he] at hcaller
  obtain ⟨error,hanswer,hcode,hsame⟩ := SessionStep.refused hbefore hcaller hrefused
  rw [← hnext] at hsame
  rw [← he] at hanswer
  refine ⟨_,error,command,hanswer,rfl,hcode,hhash,hcommand.imp_left fun hc => ?_⟩
  unfold SessionService.recorded at hc ⊢
  rw [hsame]
  exact hc

/-- The session commands are idempotent in exactly the runs in which no request loses the race
for its key. -/
theorem session_commands_idempotent_iff {chess : ChessEngine} (config : SessionConfig) {db : Db}
    (hdb : db.Grown chess) (schedule : List SessionEvent) :
    Idempotent ((sessionServices config).events ⟨db,[]⟩ schedule) ↔
      ∀ earlier e following,
        (sessionServices config).events ⟨db,[]⟩ schedule = earlier ++ e :: following →
        ¬ LosesRace e following := by
  have hstart : SessionService.Sound config ⟨db,[]⟩ :=
    ⟨hdb.sessions,fun call hmem => absurd hmem List.not_mem_nil⟩
  constructor
  · intro h earlier e following hsplit hlost
    obtain ⟨reply,error,command,hreply,hresult,hcode,hhash,hcommand⟩ :=
      lost_answer hstart hsplit hlost
    have hmem : e ∈ (sessionServices config).events ⟨db,[]⟩ schedule := by
      rw [hsplit]
      exact List.mem_append_right _ List.mem_cons_self
    by_cases hrepeats : reply.request.Repeats command
    · obtain ⟨r,hr,_⟩ := h.replays earlier e following hsplit reply hreply command hhash
        (hcommand.imp_right And.right) hrepeats
      rw [hresult] at hr
      cases hr
    · have hc := hcommand.resolve_right fun hoverlaps => hrepeats hoverlaps.1
      obtain ⟨error',he',hcode'⟩ := h.reused e hmem reply hreply command (hhash ▸ hc) hrepeats
      rw [hresult] at he'
      cases he'
      exact hcode hcode'
  · intro h
    refine ⟨commits_le_one hstart schedule,fun e he hash => commits_first hstart he,?_,?_⟩
    · intro earlier e following hsplit reply hreply command hhash hcommand hrepeats
      exact (answers_unless_lost hstart hsplit (h earlier e following hsplit) hreply hhash
        (hcommand.imp_right fun hoverlaps => ⟨hrepeats,hoverlaps⟩)).1 hrepeats
    · intro e he reply hreply command hcommand hrepeats
      obtain ⟨earlier,following,hsplit⟩ := List.append_of_mem he
      have hhash : command.idempotencyHash = reply.request.idempotencyHash :=
        Table.find_key hcommand
      exact (answers_unless_lost hstart hsplit (h earlier e following hsplit) hreply hhash
        (Or.inl (hhash.symm ▸ hcommand))).2 hrepeats

end Idempotency

section Sample

def sampleSessionConfig : SessionConfig := ⟨86400,by decide⟩

def sampleSessionChoice (now : Millis) (n : ℕ) : SessionChoice :=
  ⟨now,sampleId 1,sampleId (20 + n),"knight","Calm Knight"⟩

def sampleCreation : List SessionEvent :=
  [.call ⟨.create,"first"⟩,.advance 0 (sampleSessionChoice 1000 1),
    .advance 0 (sampleSessionChoice 1000 1),.advance 0 (sampleSessionChoice 1000 1)]

def sampleOverlap (kind : SessionRequestKind) : List SessionEvent :=
  [.call ⟨kind,"second"⟩,.call ⟨kind,"second"⟩,.advance 1 (sampleSessionChoice 3000 2),
    .advance 2 (sampleSessionChoice 3000 3),.advance 1 (sampleSessionChoice 3000 2),
    .advance 2 (sampleSessionChoice 3000 3),.advance 1 (sampleSessionChoice 4000 2)]

def sampleRenewals : List SessionEvent :=
  sampleCreation ++ sampleOverlap (.renew (sampleId 1)) ++
    [.advance 2 (sampleSessionChoice 4000 3),.advance 2 (sampleSessionChoice 4000 3)]

def sampleResets : List SessionEvent :=
  sampleCreation ++ sampleOverlap (.reset (sampleId 1) false)

end Sample

/-- Of two renewals that overlap, the second conflicts with the first and replays it. -/
theorem session_commands_idempotent_renewals :
    Idempotent ((sessionServices sampleSessionConfig).events ⟨.initial .empty .empty,[]⟩
      sampleRenewals) := by
  have hgrown : (Db.initial .empty .empty).Grown sampleEngine := ⟨[],rfl⟩
  refine (session_commands_idempotent_iff sampleSessionConfig hgrown sampleRenewals).mpr ?_
  have hkept : ∀ e ∈ (sessionServices sampleSessionConfig).events ⟨.initial .empty .empty,[]⟩
      sampleRenewals, ((SessionStep.caller e).all fun caller =>
        !caller.2.request.refused e.before.db caller.2.phase) = true := by
    decide +kernel
  rintro earlier e following hsplit ⟨index,call,hcaller,hrefused,_⟩
  have hmem : e ∈ (sessionServices sampleSessionConfig).events ⟨.initial .empty .empty,[]⟩
      sampleRenewals := by
    rw [hsplit]
    exact List.mem_append_right _ List.mem_cons_self
  have he := hkept e hmem
  rw [hcaller] at he
  simp [hrefused] at he

/-- Of two resets that overlap, the second finds the session revoked: it is unauthorized. -/
theorem overlapping_reset_unauthorized :
    ¬ Idempotent ((sessionServices sampleSessionConfig).events ⟨.initial .empty .empty,[]⟩
      (sampleResets ++ [.advance 2 (sampleSessionChoice 4000 3)])) := by
  intro h
  let e := (sessionServices sampleSessionConfig).event
    ((sessionServices sampleSessionConfig).run ⟨.initial .empty .empty,[]⟩ sampleResets)
    (.advance 2 (sampleSessionChoice 4000 3))
  have hanswer : e.answer.map (fun reply => (reply.request,reply.result.toOption)) =
      some (⟨.reset (sampleId 1) false,"second"⟩,none) := by decide +kernel
  have hrecorded : e.after.recorded "second" = some ⟨"second",.reset,sampleId 1,none⟩ := by
    decide +kernel
  obtain ⟨reply,hreply,hvalue⟩ := Option.map_eq_some_iff.mp hanswer
  obtain ⟨hrequest,hresult⟩ := Prod.mk.inj hvalue
  obtain ⟨r,hr,_⟩ := h.replays _ e [] (Machine.events_append _ _ _ _) reply hreply
    ⟨"second",.reset,sampleId 1,none⟩ (by rw [hrequest]) (Or.inl hrecorded)
    (by rw [hrequest]; exact ⟨rfl,fun id hmem => Option.some.inj hmem⟩)
  rw [hr] at hresult
  cases hresult

end CluChess
