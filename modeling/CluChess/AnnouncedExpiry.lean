import CluChess.JwtToken
import CluChess.SessionIdempotency

/-! What `SessionService` announces with a token. A replay signs the claims that are stored with
the command, next to the row of the guest as it is now. -/
namespace CluChess

structure PublicGuestSession where
  avatar : String
  expiresAt : Millis
  id : GuestSessionId
  issuedAt : Millis
  name : String
  deriving DecidableEq, Repr

structure IssuedGuestSession where
  guest : PublicGuestSession
  replayed : Bool
  token : String
  deriving DecidableEq, Repr

def toPublicGuest (guestSession : GuestSession) : PublicGuestSession where
  avatar := guestSession.avatarKey
  expiresAt := guestSession.expiresAt
  id := guestSession.id
  issuedAt := guestSession.issuedAt
  name := guestSession.displayName

structure SessionCookie where
  token : String
  expires : Millis
  deriving DecidableEq, Repr

def IssuedGuestSession.cookie (cookieEnabled : Bool) (issued : IssuedGuestSession) :
    Option SessionCookie :=
  if cookieEnabled then some ⟨issued.token,issued.guest.expiresAt⟩ else none

theorem IssuedGuestSession.cookie_expires {cookieEnabled : Bool} {issued : IssuedGuestSession}
    {cookie : SessionCookie} (h : cookie ∈ issued.cookie cookieEnabled) :
    cookie.expires = issued.guest.expiresAt := by
  unfold IssuedGuestSession.cookie at h
  split_ifs at h
  · cases h
    rfl
  · cases h

namespace JwtTokenService

variable {PublicKey : Type}

def toIssuedSession (service : JwtTokenService PublicKey) (command : SessionMutationResult) :
    Except String IssuedGuestSession :=
  match command.value.issuedClaims with
  | none => .error "Stored token issuance is invalid"
  | some issuedClaims =>
    (service.issue command.value.guestSession issuedClaims).map
      (⟨toPublicGuest command.value.guestSession,command.replayed,·⟩)

/-- What is announced, also in the cookie, is what the token says. -/
def Announces (service : JwtTokenService PublicKey) (cookieEnabled : Bool)
    (issued : IssuedGuestSession) : Prop :=
  ∃ claims, service.readToken issued.token = .ok claims ∧
    issued.guest.expiresAt = claims.exp * 1000 ∧ issued.guest.issuedAt = claims.iat * 1000 ∧
    ∀ cookie ∈ issued.cookie cookieEnabled, cookie.expires = claims.exp * 1000

def AnnouncesAll (service : JwtTokenService PublicKey) (cookieEnabled : Bool)
    (steps : List SessionStep) : Prop :=
  ∀ e ∈ steps, ∀ reply, e.answer = some reply → ∀ result, reply.result = .ok result →
    ∀ issued, service.toIssuedSession result = .ok issued →
      service.Announces cookieEnabled issued

end JwtTokenService

/-- The claims that a creation or a renewal has committed, with its key and its guest. -/
structure Issuance where
  idempotencyHash : String
  guestSessionId : GuestSessionId
  issuedClaims : IssuedSessionClaims
  deriving DecidableEq, Repr

def SessionMutation.issuance : SessionMutation → Option Issuance
  | .create input => some ⟨input.idempotencyHash,input.guestSessionId,input.issuedClaims⟩
  | .renew input => some ⟨input.idempotencyHash,input.guestSessionId,input.issuedClaims⟩
  | .reset _ => none

def SessionMutation.idempotencyHash : SessionMutation → String
  | .create input => input.idempotencyHash
  | .renew input => input.idempotencyHash
  | .reset input => input.idempotencyHash

/-- The issuance that a step of a request commits to a database. -/
def SessionCall.issuance (db : Db) (call : SessionCall) : Option Issuance :=
  match call.phase with
  | .mutate mutation _ =>
    match mutation.work db with
    | .ok _ => mutation.issuance
    | .error _ => none
  | _ => none

def SessionStep.issuance (e : SessionStep) : Option Issuance :=
  (SessionStep.caller e).bind fun caller => caller.2.issuance e.before.db

def issuances (history : List SessionStep) : List Issuance :=
  history.filterMap SessionStep.issuance

def lastIssuance (history : List SessionStep) (id : GuestSessionId) : Option Issuance :=
  ((issuances history).filter fun i => decide (i.guestSessionId = id)).getLast?

/-- After the issuance that a key stands for, the guest has been renewed in another second. -/
def Superseded (history : List SessionStep) (idempotencyHash : String) : Prop :=
  ∃ first ∈ issuances history, first.idempotencyHash = idempotencyHash ∧
    ∃ last, lastIssuance history first.guestSessionId = some last ∧
      last.issuedClaims.issuedAt ≠ first.issuedClaims.issuedAt

/-- The commands and the rows of the guests are those of the issuances of a history. -/
structure Issued (config : SessionConfig) (history : List SessionStep) (db : Db) : Prop where
  commands : ∀ c ∈ db.sessionCommands.rows, ∀ claims, c.issuedClaims = some claims →
    ⟨c.idempotencyHash,c.guestSessionId,claims⟩ ∈ issuances history
  recorded : ∀ i ∈ issuances history, ∃ c, db.sessionCommands.find i.idempotencyHash = some c ∧
    c.guestSessionId = i.guestSessionId ∧ c.issuedClaims = some i.issuedClaims
  sessions : ∀ id session, db.guestSessions.find id = some session →
    ∃ last, lastIssuance history id = some last ∧
      session.issuedAt = last.issuedClaims.issuedAt ∧
      session.expiresAt = last.issuedClaims.expiresAt
  claims : ∀ i ∈ issuances history, ∃ choice, i.issuedClaims = createIssuedClaims config choice

section Transactions

variable {db db' : Db} {r : SessionMutationResult}

theorem Db.createSession_instants {input : CreateGuestSession}
    (h : db.createSession none input = .ok (r,db')) :
    r.value.guestSession.issuedAt = input.issuedClaims.issuedAt ∧
      r.value.guestSession.expiresAt = input.issuedClaims.expiresAt := by
  obtain ⟨db₁,_,h⟩ := bind_eq_ok.mp h
  obtain ⟨db₂,_,h⟩ := bind_eq_ok.mp h
  cases h
  exact ⟨rfl,rfl⟩

theorem Db.find_changed {id : GuestSessionId} {t : Millis} {current row : GuestSession}
    (hcurrent : db.availableSession id t = .ok current)
    (hsessions : db'.guestSessions = db.guestSessions.put row) (hid : row.id = current.id)
    (id' : GuestSessionId) :
    db'.guestSessions.find id' = if id' = id then some row else db.guestSessions.find id' := by
  have hfind := (Db.availableSession_ok hcurrent).1
  have hkey : row.id = id := hid.trans (Table.find_key hfind)
  rw [hsessions,Table.find_put,hkey]
  by_cases he : id' = id
  · rw [if_pos he,if_pos he,he,hfind]
    rfl
  · rw [if_neg he,if_neg he]

theorem Db.availableSession_unrevoked {id : GuestSessionId} {t : Millis} {current : GuestSession}
    (h : db.availableSession id t = .ok current) (session : GuestSession)
    (hfind : db.guestSessions.find id = some session) : session.revokedAt = none := by
  obtain ⟨hcurrent,hopen,_⟩ := availableSession_ok h
  rw [hfind] at hcurrent
  cases hcurrent
  exact hopen

/-- What a transaction commits: a command, and the row that it returns. -/
structure SessionMutation.Committed (mutation : SessionMutation) (db db' : Db)
    (r : SessionMutationResult) (command : SessionCommand) : Prop where
  inserted : db.sessionCommands.insert command = some db'.sessionCommands
  key : command.idempotencyHash = mutation.idempotencyHash
  commandType : command.commandType = r.value.commandType
  claims : command.issuedClaims = r.value.issuedClaims
  unrevoked : ∀ current, db.guestSessions.find command.guestSessionId = some current →
    current.revokedAt = none
  row : ∀ id, db'.guestSessions.find id =
    if id = command.guestSessionId then some r.value.guestSession else db.guestSessions.find id
  issued : ∀ i ∈ mutation.issuance, command.idempotencyHash = i.idempotencyHash ∧
    command.guestSessionId = i.guestSessionId ∧ command.issuedClaims = some i.issuedClaims ∧
    r.value.guestSession.issuedAt = i.issuedClaims.issuedAt ∧
    r.value.guestSession.expiresAt = i.issuedClaims.expiresAt
  kept : mutation.issuance = none → command.issuedClaims = none ∧
    ∃ current, db.guestSessions.find command.guestSessionId = some current ∧
      r.value.guestSession.issuedAt = current.issuedAt ∧
      r.value.guestSession.expiresAt = current.expiresAt

theorem SessionMutation.work_committed {mutation : SessionMutation}
    (h : mutation.work db = .ok (r,db')) : ∃ command, mutation.Committed db db' r command := by
  cases mutation with
  | create input =>
    obtain ⟨hissuedAt,hexpiresAt⟩ := Db.createSession_instants h
    obtain ⟨row,hid,_,hrow,hcommand,rfl⟩ := Db.createSession_ok h
    have hfresh := (Table.insert_fresh hrow).1
    rw [hid] at hfresh
    refine ⟨_,hcommand,rfl,rfl,rfl,fun current hcurrent => ?_,fun id => ?_,?_,nofun⟩
    · rw [hfresh] at hcurrent
      cases hcurrent
    · rw [Table.find_insert hrow,hid]
    · intro i hi
      cases hi
      exact ⟨rfl,rfl,rfl,hissuedAt,hexpiresAt⟩
  | renew input =>
    obtain ⟨current,hcurrent,_,hsessions,hcommand,rfl⟩ := Db.changeSession_ok h
    refine ⟨_,hcommand,rfl,rfl,rfl,Db.availableSession_unrevoked hcurrent,
      fun id => Db.find_changed hcurrent hsessions rfl id,?_,nofun⟩
    intro i hi
    cases hi
    exact ⟨rfl,rfl,rfl,rfl,rfl⟩
  | reset input =>
    obtain ⟨current,hcurrent,_,hsessions,hcommand,rfl⟩ := Db.changeSession_ok h
    refine ⟨_,hcommand,rfl,rfl,rfl,Db.availableSession_unrevoked hcurrent,
      fun id => Db.find_changed hcurrent hsessions rfl id,nofun,?_⟩
    intro _
    exact ⟨rfl,current,(Db.availableSession_ok hcurrent).1,rfl,rfl⟩

end Transactions

section History

variable {config : SessionConfig} {history : List SessionStep} {e : SessionStep} {db db' : Db}
  {i : Issuance}

theorem issuances_none (h : e.issuance = none) :
    issuances (history ++ [e]) = issuances history := by
  unfold issuances
  rw [List.filterMap_append,List.filterMap_cons_none h,List.filterMap_nil,List.append_nil]

theorem issuances_some (h : e.issuance = some i) :
    issuances (history ++ [e]) = issuances history ++ [i] := by
  unfold issuances
  rw [List.filterMap_append,List.filterMap_cons_some h,List.filterMap_nil]

theorem lastIssuance_none (h : e.issuance = none) (id : GuestSessionId) :
    lastIssuance (history ++ [e]) id = lastIssuance history id := by
  unfold lastIssuance
  rw [issuances_none h]

theorem lastIssuance_some (h : e.issuance = some i) (id : GuestSessionId) :
    lastIssuance (history ++ [e]) id =
      if id = i.guestSessionId then some i else lastIssuance history id := by
  unfold lastIssuance
  rw [issuances_some h,List.filter_append]
  by_cases hid : id = i.guestSessionId
  · have hlast : [i].filter (fun i => decide (i.guestSessionId = id)) = [i] :=
      List.filter_cons_of_pos (decide_eq_true hid.symm)
    rw [if_pos hid,hlast,List.getLast?_concat]
  · have hlast : [i].filter (fun i => decide (i.guestSessionId = id)) = [] :=
      List.filter_cons_of_neg fun he => hid (of_decide_eq_true he).symm
    rw [if_neg hid,hlast,List.append_nil]

theorem Issued.empty (config : SessionConfig) : Issued config [] (.initial .empty .empty) :=
  ⟨fun _ h => absurd h List.not_mem_nil,fun _ h => absurd h List.not_mem_nil,nofun,
    fun _ h => absurd h List.not_mem_nil⟩

theorem Issued.idle (h : Issued config history db) (he : e.issuance = none) :
    Issued config (history ++ [e]) db := by
  refine ⟨?_,?_,?_,?_⟩
  · rw [issuances_none he]
    exact h.commands
  · rw [issuances_none he]
    exact h.recorded
  · intro id session hfind
    rw [lastIssuance_none he]
    exact h.sessions id session hfind
  · rw [issuances_none he]
    exact h.claims

theorem Issued.reset (h : Issued config history db) (he : e.issuance = none)
    {mutation : SessionMutation} {r : SessionMutationResult} {command : SessionCommand}
    (hc : mutation.Committed db db' r command) (hkept : mutation.issuance = none) :
    Issued config (history ++ [e]) db' := by
  obtain ⟨hnone,current,hcurrent,hissuedAt,hexpiresAt⟩ := hc.kept hkept
  refine ⟨?_,?_,?_,?_⟩
  · intro c hmem claims hclaims
    rw [issuances_none he]
    rcases (Table.mem_insert hc.inserted).mp hmem with hold | rfl
    · exact h.commands c hold claims hclaims
    · rw [hnone] at hclaims
      cases hclaims
  · intro i hi
    rw [issuances_none he] at hi
    obtain ⟨c,hfind,hguest,hclaims⟩ := h.recorded i hi
    exact ⟨c,Table.find_insert_of_found hc.inserted hfind,hguest,hclaims⟩
  · intro id session hfind
    rw [lastIssuance_none he]
    rw [hc.row] at hfind
    split_ifs at hfind with hid
    · cases hfind
      obtain ⟨last,hlast,hsame⟩ := h.sessions id current (hid ▸ hcurrent)
      exact ⟨last,hlast,hissuedAt.trans hsame.1,hexpiresAt.trans hsame.2⟩
    · exact h.sessions id session hfind
  · rw [issuances_none he]
    exact h.claims

theorem Issued.issue (h : Issued config history db) (he : e.issuance = some i)
    {mutation : SessionMutation} {r : SessionMutationResult} {command : SessionCommand}
    (hc : mutation.Committed db db' r command) (hi : mutation.issuance = some i)
    (hclaims : ∃ choice, i.issuedClaims = createIssuedClaims config choice) :
    Issued config (history ++ [e]) db' := by
  obtain ⟨hhash,hguest,hissued,hissuedAt,hexpiresAt⟩ := hc.issued i hi
  refine ⟨?_,?_,?_,?_⟩
  · intro c hmem claims hc'
    rw [issuances_some he]
    rcases (Table.mem_insert hc.inserted).mp hmem with hold | rfl
    · exact List.mem_append_left _ (h.commands c hold claims hc')
    · rw [hissued] at hc'
      cases hc'
      rw [hhash,hguest]
      exact List.mem_append_right _ List.mem_cons_self
  · intro j hj
    rw [issuances_some he] at hj
    rcases List.mem_append.mp hj with hold | hnew
    · obtain ⟨c,hfind,hsame⟩ := h.recorded j hold
      exact ⟨c,Table.find_insert_of_found hc.inserted hfind,hsame⟩
    · rw [List.mem_singleton.mp hnew]
      refine ⟨command,?_,hguest,hissued⟩
      rw [Table.find_insert hc.inserted,if_pos hhash.symm]
  · intro id session hfind
    rw [lastIssuance_some he]
    rw [hc.row,hguest] at hfind
    split_ifs at hfind with hid
    · cases hfind
      rw [if_pos hid]
      exact ⟨i,rfl,hissuedAt,hexpiresAt⟩
    · rw [if_neg hid]
      exact h.sessions id session hfind
  · intro j hj
    rw [issuances_some he] at hj
    rcases List.mem_append.mp hj with hold | hnew
    · exact h.claims j hold
    · rw [List.mem_singleton.mp hnew]
      exact hclaims

end History

section Steps

variable {config : SessionConfig} {service : SessionService} {history : List SessionStep}

theorem SessionRequest.mutation_issuance {request : SessionRequest} {choice : SessionChoice}
    {i : Issuance} (h : (request.mutation config choice).issuance = some i) :
    i.idempotencyHash = request.idempotencyHash ∧
      i.issuedClaims = createIssuedClaims config choice := by
  unfold SessionRequest.mutation at h
  split at h
  · cases h
    exact ⟨rfl,rfl⟩
  · cases h
    exact ⟨rfl,rfl⟩
  · cases h

/-- The call commits its transaction in its next step. -/
def SessionCall.Commits (db : Db) (call : SessionCall) (mutation : SessionMutation)
    (r : SessionMutationResult) (db' : Db) : Prop :=
  ∃ attempts, call.phase = .mutate mutation attempts ∧ mutation.work db = .ok (r,db')

theorem SessionCall.Commits.committed {db db' : Db} {call : SessionCall}
    {mutation : SessionMutation} {r : SessionMutationResult}
    (h : call.Commits db mutation r db') : ∃ command, mutation.Committed db db' r command := by
  obtain ⟨_,_,hwork⟩ := h
  exact SessionMutation.work_committed hwork

theorem SessionCall.Commits.prepared {db db' : Db} {call : SessionCall}
    {mutation : SessionMutation} {r : SessionMutationResult}
    (h : call.Commits db mutation r db') (hprepared : call.request.Prepared config call.phase) :
    ∃ choice, mutation = call.request.mutation config choice := by
  obtain ⟨attempts,hphase,_⟩ := h
  rw [hphase] at hprepared
  exact hprepared

theorem SessionCall.Commits.issuance {db db' : Db} {call : SessionCall}
    {mutation : SessionMutation} {r : SessionMutationResult}
    (h : call.Commits db mutation r db') : call.issuance db = mutation.issuance := by
  obtain ⟨attempts,hphase,hwork⟩ := h
  unfold SessionCall.issuance
  rw [hphase]
  simp only [hwork]

theorem SessionCall.Commits.advance {db db' : Db} {call : SessionCall}
    {mutation : SessionMutation} {r : SessionMutationResult}
    (h : call.Commits db mutation r db') (choice : SessionChoice) :
    call.request.advance config choice db call.phase = (call.request.asserted r,db') := by
  obtain ⟨attempts,hphase,hwork⟩ := h
  rw [hphase]
  simp only [SessionRequest.advance,hwork]

theorem SessionCall.issuance_none {db : Db} {call : SessionCall}
    (h : ∀ mutation r db', ¬ call.Commits db mutation r db') : call.issuance db = none := by
  unfold SessionCall.issuance
  split
  · rename_i mutation attempts hphase
    split
    · rename_i r hwork
      exact absurd ⟨attempts,hphase,hwork⟩ (h mutation r.1 r.2)
    · rfl
  · rfl

theorem SessionCall.advance_kept {db : Db} {call : SessionCall}
    (h : ∀ mutation r db', ¬ call.Commits db mutation r db') (choice : SessionChoice) :
    (call.request.advance config choice db call.phase).2 = db := by
  rcases call.request.advance_execute config choice db call.phase with
    hsame | ⟨mutation,attempts,hphase,hexecute⟩
  · exact hsame
  · rw [hexecute,mutation.executeSession]
    cases hwork : mutation.work db with
    | ok r => exact absurd ⟨attempts,hphase,hwork⟩ (h mutation r.1 r.2)
    | error e => rfl

theorem SessionStep.caller_advance {input : SessionEvent} {index : ℕ} {call : SessionCall}
    (h : caller ((sessionServices config).event service input) = some (index,call)) :
    call ∈ service.calls ∧ call.phase.result = none ∧ ∃ choice,
      ((sessionServices config).next service input).db =
        (call.request.advance config choice service.db call.phase).2 ∧
      ((sessionServices config).event service input).answer =
        (call.request.advance config choice service.db call.phase).1.result.map
          (⟨call.request,·⟩) ∧
      ((sessionServices config).next service input).calls = service.calls.set index
        ⟨call.request,(call.request.advance config choice service.db call.phase).1⟩ := by
  cases input with
  | call request => cases h
  | advance position choice =>
    obtain ⟨call',hpending,he⟩ := Option.map_eq_some_iff.mp h
    obtain ⟨rfl,rfl⟩ := Prod.mk.inj he
    obtain ⟨hcall,hopen⟩ := SessionService.pending_eq hpending
    have hpending : service.pending position = some call' := hpending
    refine ⟨List.mem_of_getElem? hcall,hopen,choice,?_⟩
    simp only [Machine.event,Machine.next,sessionServices,SessionService.step,hpending]
    exact ⟨trivial,trivial,trivial⟩

theorem Issued.next (hsound : service.Sound config) (h : Issued config history service.db)
    (input : SessionEvent) :
    Issued config (history ++ [(sessionServices config).event service input])
      ((sessionServices config).next service input).db := by
  cases hcaller : SessionStep.caller ((sessionServices config).event service input) with
  | none =>
    have hidle : SessionStep.issuance ((sessionServices config).event service input) = none := by
      unfold SessionStep.issuance
      rw [hcaller]
      rfl
    rw [(SessionStep.idle config service input hcaller).2.1]
    exact h.idle hidle
  | some caller =>
    obtain ⟨index,call⟩ := caller
    obtain ⟨hmem,_,choice,hdb,_⟩ := SessionStep.caller_advance hcaller
    have hissuance : SessionStep.issuance ((sessionServices config).event service input) =
        call.issuance service.db := by
      unfold SessionStep.issuance
      rw [hcaller]
      rfl
    rw [hdb]
    by_cases hcommits : ∃ mutation r db', call.Commits service.db mutation r db'
    · obtain ⟨mutation,r,db',hcommits⟩ := hcommits
      obtain ⟨command,hcommitted⟩ := hcommits.committed
      rw [hcommits.advance]
      rw [hcommits.issuance] at hissuance
      cases hi : mutation.issuance with
      | none => exact h.reset (hissuance.trans hi) hcommitted hi
      | some i =>
        obtain ⟨chosen,rfl⟩ := hcommits.prepared (hsound.calls call hmem).1
        exact h.issue (hissuance.trans hi) hcommitted hi
          ⟨chosen,(SessionRequest.mutation_issuance hi).2⟩
    · have hnone : ∀ mutation r db', ¬ call.Commits service.db mutation r db' :=
        fun mutation r db' hc => hcommits ⟨mutation,r,db',hc⟩
      rw [SessionCall.advance_kept hnone]
      exact h.idle (hissuance.trans (SessionCall.issuance_none hnone))

theorem Issued.run (hsound : service.Sound config) (h : Issued config history service.db)
    (schedule : List SessionEvent) :
    Issued config (history ++ (sessionServices config).events service schedule)
      ((sessionServices config).run service schedule).db := by
  induction schedule generalizing service history with
  | nil =>
    rw [Machine.events_nil,List.append_nil]
    exact h
  | cons input schedule ih =>
    have hrest := ih (SessionService.Sound.stable config service input hsound)
      (h.next hsound input)
    rw [List.append_assoc] at hrest
    exact hrest

theorem SessionRequest.mutation_key (request : SessionRequest) (choice : SessionChoice) :
    (request.mutation config choice).idempotencyHash = request.idempotencyHash := by
  unfold SessionRequest.mutation
  split <;> rfl

theorem SessionRequest.asserted_result {request : SessionRequest}
    {r result : SessionMutationResult} (h : (request.asserted r).result = some (.ok result)) :
    result = r ∧ result.value.commandType = request.commandType := by
  have hanswer := Option.some.inj h
  cases hassert : assertCommand r.value request.commandType request.guestSessionId with
  | error e =>
    rw [hassert] at hanswer
    cases hanswer
  | ok _ =>
    rw [hassert] at hanswer
    obtain rfl := Except.ok.inj hanswer
    refine ⟨rfl,?_⟩
    by_contra hne
    unfold assertCommand at hassert
    rw [if_pos (Or.inl hne)] at hassert
    cases hassert

/-- The command of a key, with its guest as the row is now. -/
theorem Db.findCommand_ok {db : Db} {idempotencyHash : String} {value : SessionCommandReplay}
    (h : db.findCommand idempotencyHash = .ok (some value)) :
    ∃ command, db.sessionCommands.find idempotencyHash = some command ∧
      command.commandType = value.commandType ∧ command.issuedClaims = value.issuedClaims ∧
      db.guestSessions.find command.guestSessionId = some value.guestSession := by
  unfold Db.findCommand at h
  cases hc : db.sessionCommands.find idempotencyHash with
  | none =>
    rw [hc] at h
    cases h
  | some command =>
    rw [hc] at h
    unfold Db.toCommandReplay at h
    cases hg : db.guestSessions.find command.guestSessionId with
    | none =>
      simp only [hg] at h
      cases h
    | some guest =>
      simp only [hg] at h
      cases h
      exact ⟨command,rfl,rfl,rfl,hg⟩

theorem SessionCall.advance_replays {call : SessionCall} {choice : SessionChoice} {db : Db}
    {result : SessionMutationResult} (hopen : call.phase.result = none)
    (hkept : ∀ mutation r db', ¬ call.Commits db mutation r db')
    (h : (call.request.advance config choice db call.phase).1.result = some (.ok result)) :
    db.findCommand call.request.idempotencyHash = .ok (some result.value) ∧
      result.value.commandType = call.request.commandType := by
  have hfound : ∀ existing, (call.request.asserted ⟨true,existing⟩).result = some (.ok result) →
      existing = result.value ∧ result.value.commandType = call.request.commandType := by
    intro existing hasserted
    obtain ⟨rfl,htype⟩ := SessionRequest.asserted_result hasserted
    exact ⟨rfl,htype⟩
  cases hphase : call.phase with
  | done result =>
    rw [hphase] at hopen
    cases hopen
  | mutate mutation attempts =>
    rw [hphase] at h
    simp only [SessionRequest.advance] at h
    split at h
    · rename_i r db' hwork
      exact absurd ⟨attempts,hphase,hwork⟩ (hkept mutation r db')
    · cases h
    · cases h
  | _ =>
    rw [hphase] at h
    simp only [SessionRequest.advance] at h
    cases hfind : db.findCommand call.request.idempotencyHash with
    | error e =>
      rw [hfind] at h
      cases h
    | ok found =>
      rw [hfind] at h
      cases found with
      | some existing =>
        obtain ⟨rfl,htype⟩ := hfound existing h
        exact ⟨rfl,htype⟩
      | none =>
        simp only at h
        repeat' split at h
        all_goals cases h

/-- A request is answered with the command of its key, and with the row of the guest as the step
leaves it. -/
theorem SessionCall.advance_reads {call : SessionCall} {choice : SessionChoice} {db : Db}
    {result : SessionMutationResult} (hprepared : call.request.Prepared config call.phase)
    (hopen : call.phase.result = none)
    (h : (call.request.advance config choice db call.phase).1.result = some (.ok result)) :
    ∃ command, (call.request.advance config choice db call.phase).2.sessionCommands.find
        call.request.idempotencyHash = some command ∧
      command.commandType = call.request.commandType ∧
      command.issuedClaims = result.value.issuedClaims ∧
      (call.request.advance config choice db call.phase).2.guestSessions.find
        command.guestSessionId = some result.value.guestSession := by
  by_cases hcommits : ∃ mutation r db', call.Commits db mutation r db'
  · obtain ⟨mutation,r,db',hcommits⟩ := hcommits
    obtain ⟨command,hcommitted⟩ := hcommits.committed
    rw [hcommits.advance] at h ⊢
    obtain ⟨rfl,htype⟩ := SessionRequest.asserted_result h
    obtain ⟨chosen,rfl⟩ := hcommits.prepared hprepared
    have hkey := hcommitted.key.trans (call.request.mutation_key chosen)
    refine ⟨command,?_,hcommitted.commandType.trans htype,hcommitted.claims,?_⟩
    · rw [Table.find_insert hcommitted.inserted,if_pos hkey.symm]
    · rw [hcommitted.row,if_pos rfl]
  · have hnone : ∀ mutation r db', ¬ call.Commits db mutation r db' :=
      fun mutation r db' hc => hcommits ⟨mutation,r,db',hc⟩
    obtain ⟨hreplayed,htype⟩ := SessionCall.advance_replays hopen hnone h
    obtain ⟨command,hfind,hstored,hclaims,hguest⟩ := Db.findCommand_ok hreplayed
    rw [SessionCall.advance_kept hnone]
    exact ⟨command,hfind,hstored.trans htype,hclaims,hguest⟩

theorem SessionStep.answer_reads (hsound : service.Sound config) {input : SessionEvent}
    {reply : SessionReply} {result : SessionMutationResult}
    (hreply : ((sessionServices config).event service input).answer = some reply)
    (hresult : reply.result = .ok result) :
    ∃ command, ((sessionServices config).next service input).db.sessionCommands.find
        reply.request.idempotencyHash = some command ∧
      command.issuedClaims = result.value.issuedClaims ∧
      ((sessionServices config).next service input).db.guestSessions.find
        command.guestSessionId = some result.value.guestSession := by
  cases hcaller : caller ((sessionServices config).event service input) with
  | none =>
    rw [(idle config service input hcaller).1] at hreply
    cases hreply
  | some caller =>
    obtain ⟨index,call⟩ := caller
    obtain ⟨hmem,hopen,choice,hdb,hanswer,_⟩ := caller_advance hcaller
    rw [hanswer] at hreply
    obtain ⟨answer,hdone,rfl⟩ := Option.map_eq_some_iff.mp hreply
    obtain rfl : answer = .ok result := hresult
    obtain ⟨command,hfind,_,hclaims,hguest⟩ :=
      SessionCall.advance_reads (hsound.calls call hmem).1 hopen hdone
    rw [hdb]
    exact ⟨command,hfind,hclaims,hguest⟩

end Steps

section Announcements

variable {config : SessionConfig} {history : List SessionStep} {db : Db}

/-- A key stands for one issuance. -/
theorem Issued.superseded_iff (h : Issued config history db) {idempotencyHash : String}
    {command : SessionCommand} {claims : IssuedSessionClaims}
    (hcommand : db.sessionCommands.find idempotencyHash = some command)
    (hclaims : command.issuedClaims = some claims) {session : GuestSession}
    (hsession : db.guestSessions.find command.guestSessionId = some session) :
    Superseded history idempotencyHash ↔ session.issuedAt ≠ claims.issuedAt := by
  obtain ⟨last,hlast,hissuedAt,_⟩ := h.sessions _ session hsession
  have hmem := h.commands command (Table.find_mem hcommand) claims hclaims
  rw [Table.find_key hcommand] at hmem
  constructor
  · rintro ⟨first,hfirst,hkey,last',hlast',hne⟩
    obtain ⟨command',hcommand',hguest,hissued⟩ := h.recorded first hfirst
    rw [hkey,hcommand] at hcommand'
    cases hcommand'
    rw [← hguest,hlast] at hlast'
    cases hlast'
    rw [hclaims] at hissued
    cases hissued
    rw [hissuedAt]
    exact hne
  · intro hne
    exact ⟨_,hmem,rfl,last,hlast,fun he => hne (hissuedAt.trans he)⟩

theorem Issued.lifetime (h : Issued config history db) {i : Issuance}
    (hi : i ∈ issuances history) :
    i.issuedClaims.expiresAt = i.issuedClaims.issuedAt + config.ttlSeconds * 1000 := by
  obtain ⟨choice,hchoice⟩ := h.claims i hi
  rw [hchoice]
  rfl

theorem Issued.expiresAt_eq (h : Issued config history db) {command : SessionCommand}
    {claims : IssuedSessionClaims} (hcommand : command ∈ db.sessionCommands.rows)
    (hclaims : command.issuedClaims = some claims) {session : GuestSession}
    (hsession : db.guestSessions.find command.guestSessionId = some session)
    (hsame : session.issuedAt = claims.issuedAt) : session.expiresAt = claims.expiresAt := by
  obtain ⟨last,hlast,hissuedAt,hexpiresAt⟩ := h.sessions _ session hsession
  have hmem : last ∈ issuances history := (List.mem_filter.mp (List.mem_of_getLast? hlast)).1
  have hlifetime : claims.expiresAt = claims.issuedAt + config.ttlSeconds * 1000 :=
    h.lifetime (h.commands command hcommand claims hclaims)
  rw [hexpiresAt,h.lifetime hmem,hlifetime,← hissuedAt,hsame]

theorem JwtTokenService.toIssuedSession_ok {PublicKey : Type}
    {service : JwtTokenService PublicKey} {result : SessionMutationResult}
    {issued : IssuedGuestSession} (h : service.toIssuedSession result = .ok issued) :
    ∃ claims token, result.value.issuedClaims = some claims ∧
      service.issue result.value.guestSession claims = .ok token ∧
      issued = ⟨toPublicGuest result.value.guestSession,result.replayed,token⟩ := by
  unfold toIssuedSession at h
  split at h
  · cases h
  · rename_i claims hclaims
    cases htoken : service.issue result.value.guestSession claims with
    | error e =>
      rw [htoken] at h
      cases h
    | ok token =>
      rw [htoken] at h
      exact ⟨claims,token,hclaims,htoken,(Except.ok.inj h).symm⟩

/-- An instant that is a number of seconds is not changed by the token. -/
theorem createIssuedClaims_seconds (config : SessionConfig) (choice : SessionChoice) :
    let claims := createIssuedClaims config choice
    claims.issuedAt/1000*1000 = claims.issuedAt ∧
      claims.expiresAt/1000*1000 = claims.expiresAt := by
  have hseconds : ∀ n ttl : ℤ, n*1000/1000*1000 = n*1000 ∧
      (n*1000 + ttl*1000)/1000*1000 = n*1000 + ttl*1000 := by omega
  exact hseconds (choice.now/1000) config.ttlSeconds

end Announcements

/-- What is announced with a token is what the token says, if and only if the guest has not been
renewed in another second since the issuance that the key stands for. -/
theorem announced_expiry_iff {PublicKey : Type} (service : JwtTokenService PublicKey)
    (cookieEnabled : Bool) (hsigns : service.SignsCorrectly)
    (hheader : service.Parses (jwtHeaderJson service.activeKid)) (config : SessionConfig)
    (schedule : List SessionEvent) (earlier following : List SessionStep) (e : SessionStep)
    (hsplit : (sessionServices config).events ⟨.initial .empty .empty,[]⟩ schedule =
      earlier ++ e :: following)
    (reply : SessionReply) (hreply : e.answer = some reply) (result : SessionMutationResult)
    (hresult : reply.result = .ok result) (issued : IssuedGuestSession)
    (hissued : service.toIssuedSession result = .ok issued)
    (hclaims : ∀ claims ∈ result.value.issuedClaims,
      service.Parses (jwtClaimsJson (jwtClaims result.value.guestSession claims))) :
    service.Announces cookieEnabled issued ↔
      ¬ Superseded (earlier ++ [e]) reply.request.idempotencyHash := by
  obtain ⟨claims,token,hstored,htoken,rfl⟩ := JwtTokenService.toIssuedSession_ok hissued
  obtain ⟨pre,post,_,he,rfl,_⟩ := Machine.events_split _ hsplit
  have hstart : SessionService.Sound config ⟨.initial .empty .empty,[]⟩ :=
    ⟨Db.SessionsSound.initial,fun call hmem => absurd hmem List.not_mem_nil⟩
  have hsound := (SessionService.Sound.stable config).run hstart pre
  have hhistory := ((Issued.empty config).run hstart pre).next hsound e.input
  rw [List.nil_append,← he] at hhistory
  rw [he] at hreply
  obtain ⟨command,hcommand,hclaimed,hsession⟩ :=
    SessionStep.answer_reads hsound hreply hresult
  rw [hstored] at hclaimed
  have hseconds : claims.issuedAt/1000*1000 = claims.issuedAt ∧
      claims.expiresAt/1000*1000 = claims.expiresAt := by
    obtain ⟨choice,hchoice⟩ :=
      hhistory.claims _ (hhistory.commands command (Table.find_mem hcommand) claims hclaimed)
    rw [show claims = createIssuedClaims config choice from hchoice]
    exact createIssuedClaims_seconds config choice
  obtain ⟨rfl,hvalid,_⟩ := JwtTokenService.issue_ok htoken
  have hread := JwtTokenService.readToken_tokenOf hsigns hheader (hclaims claims hstored) hvalid
  rw [hhistory.superseded_iff hcommand hclaimed hsession,not_not]
  constructor
  · rintro ⟨claims',hread',_,hiat,_⟩
    have hsame := Except.ok.inj (hread.symm.trans hread')
    rw [← hsame] at hiat
    exact hiat.trans hseconds.1
  · intro hsame
    have hexpires := hhistory.expiresAt_eq (Table.find_mem hcommand) hclaimed hsession hsame
    refine ⟨_,hread,hexpires.trans hseconds.2.symm,hsame.trans hseconds.1.symm,?_⟩
    intro cookie hcookie
    rw [IssuedGuestSession.cookie_expires hcookie]
    exact hexpires.trans hseconds.2.symm

section Sample

def sampleLifetime : SessionConfig := ⟨43200,by decide⟩

def sampleIssuing (now : Millis) (n : ℕ) : SessionChoice :=
  ⟨now,sampleId 1,sampleId n,"knight","Ada"⟩

def sampleRepeated : List SessionEvent :=
  [.call ⟨.create,"first"⟩,.advance 0 (sampleIssuing 1700000000700 50),
    .advance 0 (sampleIssuing 1700000000700 50),.advance 0 (sampleIssuing 1700000000700 50),
    .call ⟨.create,"first"⟩]

/-- Before the creation is repeated, the guest is renewed a second later. -/
def sampleRenewed : List SessionEvent :=
  sampleRepeated ++
    [.call ⟨.renew (sampleId 1),"second"⟩,.advance 2 (sampleIssuing 1700000001700 51),
      .advance 2 (sampleIssuing 1700000001700 51),.advance 2 (sampleIssuing 1700000001700 51)]

def sampleReplay (schedule : List SessionEvent) : SessionStep :=
  (sessionServices sampleLifetime).event
    ((sessionServices sampleLifetime).run ⟨.initial .empty .empty,[]⟩ schedule)
    (.advance 1 (sampleIssuing 1700000002700 52))

/-- The answer, with the row as the last issuance has left it. -/
def sampleReplayed (jti : ℕ) (issuedAt : Millis) : SessionMutationResult :=
  ⟨true,⟨.create,⟨sampleId 1,"Ada","knight",some (sampleId jti),issuedAt,issuedAt + 43200000,none⟩,
    some sampleIssued⟩⟩

def sampleAnnounced (jti : ℕ) (issuedAt : Millis) : IssuedGuestSession :=
  ⟨toPublicGuest (sampleReplayed jti issuedAt).value.guestSession,true,sampleToken⟩

theorem sampleTokens_toIssuedSession (jti : ℕ) (issuedAt : Millis) :
    sampleTokens.toIssuedSession (sampleReplayed jti issuedAt) =
      .ok (sampleAnnounced jti issuedAt) := by
  have hissue : sampleTokens.issue (sampleReplayed jti issuedAt).value.guestSession sampleIssued =
      sampleTokens.issue sampleTokenGuest sampleIssued := rfl
  show (sampleTokens.issue (sampleReplayed jti issuedAt).value.guestSession sampleIssued).map _ = _
  rw [hissue,sampleTokens_issue]
  rfl

theorem sampleReplay_reply {schedule : List SessionEvent} {jti : ℕ} {issuedAt : Millis}
    (h : (sampleReplay schedule).answer.map
      (fun reply => (reply.request.idempotencyHash,reply.result.toOption)) =
        some ("first",some (sampleReplayed jti issuedAt))) :
    ∃ reply, (sampleReplay schedule).answer = some reply ∧
      reply.request.idempotencyHash = "first" ∧
      reply.result = .ok (sampleReplayed jti issuedAt) := by
  obtain ⟨reply,hreply,hvalue⟩ := Option.map_eq_some_iff.mp h
  obtain ⟨hkey,hresult⟩ := Prod.mk.inj hvalue
  refine ⟨reply,hreply,hkey,?_⟩
  cases hr : reply.result with
  | error e =>
    rw [hr] at hresult
    cases hresult
  | ok result =>
    rw [hr] at hresult
    rw [Option.some.inj hresult]

end Sample

/-- The creation is replayed before any renewal. -/
theorem announced_expiry_replayed :
    sampleTokens.Announces true (sampleAnnounced 50 1700000000000) := by
  have hanswer : (sampleReplay sampleRepeated).answer.map
      (fun reply => (reply.request.idempotencyHash,reply.result.toOption)) =
        some ("first",some (sampleReplayed 50 1700000000000)) := by decide +kernel
  obtain ⟨reply,hreply,hkey,hresult⟩ := sampleReplay_reply hanswer
  obtain ⟨hheader,hclaims⟩ := sampleTokens_parses
  refine (announced_expiry_iff sampleTokens true sampleTokens_signs hheader sampleLifetime
    (sampleRepeated ++ [.advance 1 (sampleIssuing 1700000002700 52)]) _ []
    (sampleReplay sampleRepeated) (Machine.events_append _ _ _ _) reply hreply _ hresult _
    (sampleTokens_toIssuedSession 50 1700000000000) ?_).mpr ?_
  · intro claims hmem
    cases hmem
    exact hclaims
  · rw [hkey]
    have hissuances : issuances ((sessionServices sampleLifetime).events
        ⟨.initial .empty .empty,[]⟩ sampleRepeated ++ [sampleReplay sampleRepeated]) =
          [⟨"first",sampleId 1,sampleIssued⟩] := by decide +kernel
    rintro ⟨first,hfirst,_,last,hlast,hne⟩
    have hmem := (List.mem_filter.mp (List.mem_of_getLast? hlast)).1
    rw [hissuances] at hfirst hmem
    rw [List.mem_singleton.mp hfirst,List.mem_singleton.mp hmem] at hne
    exact hne rfl

/-- The guest is renewed a second after the creation, whose replay then announces the expiry of
the renewed token with the first token. -/
theorem announced_expiry_superseded :
    ¬ sampleTokens.AnnouncesAll true ((sessionServices sampleLifetime).events
      ⟨.initial .empty .empty,[]⟩
      (sampleRenewed ++ [.advance 1 (sampleIssuing 1700000002700 52)])) := by
  intro h
  have hanswer : (sampleReplay sampleRenewed).answer.map
      (fun reply => (reply.request.idempotencyHash,reply.result.toOption)) =
        some ("first",some (sampleReplayed 51 1700000001000)) := by decide +kernel
  obtain ⟨reply,hreply,_,hresult⟩ := sampleReplay_reply hanswer
  obtain ⟨claims,hread',hexpires,_⟩ := h (sampleReplay sampleRenewed)
    (Machine.event_mem_events _ _ _ _) reply hreply _ hresult _
    (sampleTokens_toIssuedSession 51 1700000001000)
  have hsame := Except.ok.inj (sampleTokens_read.symm.trans hread')
  rw [← hsame] at hexpires
  exact absurd hexpires (by decide)

end CluChess
