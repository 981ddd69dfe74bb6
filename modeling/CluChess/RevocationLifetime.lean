import CluChess.AnnouncedExpiry
import CluChess.RevocationRebuild

/-! `SessionRevocationService`: the keys that a reset and the maintenance set, among the requests
that create, renew and reset the sessions. A key is set for as long as some token of its session
verifies. -/
namespace CluChess

/-- A `SET` with `EX` on its way to Redis, with its time to live in seconds. -/
inductive RevocationSet
  | session (id : GuestSessionId) (expiryMs : Millis) (ttlSeconds : ℤ)
  | token (jti : Uuid) (ttlSeconds : ℤ)
  deriving DecidableEq, Repr

structure RevocationService where
  requests : SessionService
  clock : Millis
  revokedSessions : RevocationKeys
  deniedTokens : Keys Uuid Unit
  sets : List RevocationSet

/-- A step of a request, a call of `revoke` by a reset that has finished or of
`restoreSessionRevocation` for a row that is listed, a `SET` that Redis runs, or time that
passes. -/
inductive RevocationEvent
  | request (event : SessionEvent)
  | revoke (index : ℕ) (identity : AuthenticatedGuest)
  | restore (id : GuestSessionId)
  | set (index : ℕ)
  | wait (elapsed : ℕ)

def revoke (config : MaintenanceConfig) (guestSession : GuestSession)
    (identity : AuthenticatedGuest) (now : Millis) : List RevocationSet :=
  let latestExpiryMs := max guestSession.expiresAt identity.expiresAt
  [.session guestSession.id latestExpiryMs (revocationTtlSeconds config latestExpiryMs now),
    .token identity.jti (revocationTtlSeconds config identity.expiresAt now)]

def restoreSet (config : MaintenanceConfig) (guestSession : GuestSession) (now : Millis) :
    RevocationSet :=
  .session guestSession.id guestSession.expiresAt
    (revocationTtlSeconds config guestSession.expiresAt now)

/-- The guest of a reset that the repository has answered. -/
def SessionCall.resetGuest (call : SessionCall) : Option GuestSession :=
  match call.request.kind,call.phase with
  | .reset _ _,.done (.ok result) => some result.value.guestSession
  | _,_ => none

namespace RevocationService

def initial (clock : Millis) : RevocationService :=
  ⟨⟨.initial .empty .empty,[]⟩,clock,.empty,.empty,[]⟩

def runSet (s : RevocationService) : RevocationSet → RevocationService
  | .session id expiryMs ttlSeconds =>
    { s with revokedSessions := s.revokedSessions.setPx s.clock id expiryMs (ttlSeconds * 1000) }
  | .token jti ttlSeconds =>
    { s with deniedTokens := s.deniedTokens.setPx s.clock jti () (ttlSeconds * 1000) }

def step (sessions : SessionConfig) (config : MaintenanceConfig) (s : RevocationService) :
    RevocationEvent → Option RevocationSet × RevocationService
  | .request event => (none,{ s with requests := (sessionServices sessions).next s.requests event })
  | .revoke index identity =>
    match s.requests.calls[index]?.bind SessionCall.resetGuest with
    | none => (none,s)
    | some guestSession =>
      (none,{ s with sets := s.sets ++ revoke config guestSession identity s.clock })
  | .restore id =>
    match (s.requests.db.guestSessions.find id).filter (GuestSession.liveRevoked s.clock) with
    | none => (none,s)
    | some guestSession =>
      (none,{ s with sets := s.sets ++ [restoreSet config guestSession s.clock] })
  | .set index =>
    match s.sets[index]? with
    | none => (none,s)
    | some set => (some set,{ s.runSet set with sets := s.sets.eraseIdx index })
  | .wait elapsed => (none,{ s with clock := s.clock + elapsed })

def isRevoked (s : RevocationService) (identity : AuthenticatedGuest) : Bool :=
  (s.revokedSessions.get s.clock identity.guestSessionId).isSome ||
    (s.deniedTokens.get s.clock identity.jti).isSome

end RevocationService

def revocations (sessions : SessionConfig) (config : MaintenanceConfig) :
    Machine RevocationService RevocationEvent (Option RevocationSet) :=
  ⟨RevocationService.step sessions config⟩

def RevocationEvent.request? : RevocationEvent → Option SessionEvent
  | .request event => some event
  | _ => none

def requestHistory (sessions : SessionConfig) (schedule : List RevocationEvent) :
    List SessionStep :=
  (sessionServices sessions).events ⟨.initial .empty .empty,[]⟩
    (schedule.filterMap RevocationEvent.request?)

def TokenOf {PublicKey : Type} (service : JwtTokenService PublicKey)
    (history : List SessionStep) (id : GuestSessionId) (token : String) : Prop :=
  ∃ i ∈ issuances history, i.guestSessionId = id ∧ ∃ guestSession : GuestSession,
    guestSession.id = id ∧ service.readToken token = .ok (jwtClaims guestSession i.issuedClaims)

def IssuedInOrder (history : List SessionStep) (id : GuestSessionId) : Prop :=
  ((issuances history).filter fun i => decide (i.guestSessionId = id)).Pairwise
    fun i j => i.issuedClaims.issuedAt ≤ j.issuedClaims.issuedAt

/-! ### Revoked sessions -/

def Db.RevokedUntil (db : Db) (id : GuestSessionId) (expiresAt : Millis) : Prop :=
  ∃ session, db.guestSessions.find id = some session ∧ session.revokedAt ≠ none ∧
    session.expiresAt = expiresAt

/-- The resets that the repository has answered have left their sessions revoked. -/
def SessionService.ResetsFinal (service : SessionService) : Prop :=
  ∀ call ∈ service.calls, ∀ guestSession, call.resetGuest = some guestSession →
    service.db.RevokedUntil guestSession.id guestSession.expiresAt

section Requests

variable {config : SessionConfig} {service : SessionService} {id : GuestSessionId}
  {expiresAt : Millis}

theorem SessionCall.advance_revoked {call : SessionCall} {db : Db}
    (h : db.RevokedUntil id expiresAt) (choice : SessionChoice) :
    (call.request.advance config choice db call.phase).2.RevokedUntil id expiresAt := by
  by_cases hcommits : ∃ mutation r db', call.Commits db mutation r db'
  · obtain ⟨mutation,r,db',hcommits⟩ := hcommits
    obtain ⟨command,hcommitted⟩ := hcommits.committed
    obtain ⟨session,hfind,hrevoked,hexpires⟩ := h
    rw [hcommits.advance]
    have hne : id ≠ command.guestSessionId := by
      intro he
      exact hrevoked (hcommitted.unrevoked session (he ▸ hfind))
    refine ⟨session,?_,hrevoked,hexpires⟩
    rw [hcommitted.row,if_neg hne]
    exact hfind
  · have hnone : ∀ mutation r db', ¬ call.Commits db mutation r db' :=
      fun mutation r db' hc => hcommits ⟨mutation,r,db',hc⟩
    rw [SessionCall.advance_kept hnone]
    exact h

theorem SessionService.next_revoked (h : service.db.RevokedUntil id expiresAt)
    (input : SessionEvent) :
    ((sessionServices config).next service input).db.RevokedUntil id expiresAt := by
  cases hcaller : SessionStep.caller ((sessionServices config).event service input) with
  | none =>
    rw [(SessionStep.idle config service input hcaller).2.1]
    exact h
  | some caller =>
    obtain ⟨_,_,choice,hdb,_⟩ := SessionStep.caller_advance hcaller
    rw [hdb]
    exact SessionCall.advance_revoked h choice

theorem SessionCall.advance_reset {call : SessionCall} {choice : SessionChoice} {db : Db}
    {guestSession : GuestSession} (hprepared : call.request.Prepared config call.phase)
    (hopen : call.phase.result = none)
    (hsound : (call.request.advance config choice db call.phase).2.SessionsSound)
    (h : SessionCall.resetGuest ⟨call.request,
      (call.request.advance config choice db call.phase).1⟩ = some guestSession) :
    (call.request.advance config choice db call.phase).2.RevokedUntil guestSession.id
      guestSession.expiresAt := by
  unfold SessionCall.resetGuest at h
  split at h
  · rename_i id tokenWasRevoked result hkind hphase
    cases h
    have hanswer : (call.request.advance config choice db call.phase).1.result =
        some (.ok result) := by
      rw [show (call.request.advance config choice db call.phase).1 = .done (.ok result)
        from hphase]
      rfl
    obtain ⟨command,hfind,htype,_,hguest⟩ := SessionCall.advance_reads hprepared hopen hanswer
    have hreset : command.commandType = .reset := by
      rw [htype]
      unfold SessionRequest.commandType
      rw [show call.request.kind = .reset id tokenWasRevoked from hkind]
    have hrevoked := hsound.revoked command (Table.find_mem hfind) hreset _ hguest
    exact ⟨_,Table.find_key hguest ▸ hguest,hrevoked,rfl⟩
  · cases h

theorem SessionService.ResetsFinal.next (hsound : service.Sound config) (h : service.ResetsFinal)
    (input : SessionEvent) : ((sessionServices config).next service input).ResetsFinal := by
  have hkept : ∀ call ∈ service.calls, ∀ guestSession, call.resetGuest = some guestSession →
      ((sessionServices config).next service input).db.RevokedUntil guestSession.id
        guestSession.expiresAt :=
    fun call hmem guestSession hguest => next_revoked (h call hmem guestSession hguest) input
  intro call hmem guestSession hguest
  cases hcaller : SessionStep.caller ((sessionServices config).event service input) with
  | none =>
    rcases (SessionStep.idle config service input hcaller).2.2 call hmem with hold | hnew
    · exact hkept call hold guestSession hguest
    · unfold SessionCall.resetGuest at hguest
      rw [hnew] at hguest
      simp at hguest
  | some caller =>
    obtain ⟨index,taken⟩ := caller
    obtain ⟨htaken,hopen,choice,hdb,_,hcalls⟩ := SessionStep.caller_advance hcaller
    rw [hcalls] at hmem
    rcases List.mem_or_eq_of_mem_set hmem with hold | rfl
    · exact hkept call hold guestSession hguest
    · have hnext := (Sound.stable config service input hsound).sessions
      rw [hdb] at hnext ⊢
      exact SessionCall.advance_reset (hsound.calls taken htaken).1 hopen hnext hguest

end Requests

/-! ### The keys -/

/-- Every key, and every key that is on its way, outlives the clock skew after the expiry of its
session. -/
structure RevocationService.Sound (sessions : SessionConfig) (config : MaintenanceConfig)
    (s : RevocationService) : Prop where
  requests : s.requests.Sound sessions
  resets : s.requests.ResetsFinal
  sets : ∀ id expiryMs ttlSeconds, .session id expiryMs ttlSeconds ∈ s.sets →
    ∃ expiresAt, s.requests.db.RevokedUntil id expiresAt ∧
      expiresAt + config.clockSkewSeconds * 1000 ≤ s.clock + ttlSeconds * 1000
  keys : ∀ id e, s.revokedSessions id = some e → ∃ expiresAt last,
    s.requests.db.RevokedUntil id expiresAt ∧ e.expiresAt = some last ∧
      expiresAt + config.clockSkewSeconds * 1000 ≤ last

section Runs

variable {sessions : SessionConfig} {config : MaintenanceConfig} {s : RevocationService}

theorem RevocationService.Sound.initial (sessions : SessionConfig) (config : MaintenanceConfig)
    (clock : Millis) : (RevocationService.initial clock).Sound sessions config :=
  ⟨⟨Db.SessionsSound.initial,fun _ h => absurd h List.not_mem_nil⟩,
    fun _ h => absurd h List.not_mem_nil,fun _ _ _ h => absurd h List.not_mem_nil,nofun⟩

theorem revocationTtl_lasts (config : MaintenanceConfig) (expiryMs now : Millis)
    {expiresAt : Millis} (h : expiresAt ≤ expiryMs) :
    expiresAt + config.clockSkewSeconds * 1000 ≤
      now + revocationTtlSeconds config expiryMs now * 1000 :=
  (Int.add_le_add_right h _).trans (ttlSeconds_lasts le_rfl)

namespace RevocationService

theorem Sound.revoke (h : s.Sound sessions config) {call : SessionCall}
    (hcall : call ∈ s.requests.calls) {guestSession : GuestSession}
    (hguest : call.resetGuest = some guestSession) (identity : AuthenticatedGuest) :
    Sound sessions config
      { s with sets := s.sets ++ CluChess.revoke config guestSession identity s.clock } := by
  refine ⟨h.requests,h.resets,?_,h.keys⟩
  intro id expiryMs ttlSeconds hmem
  rcases List.mem_append.mp hmem with hold | hnew
  · exact h.sets id expiryMs ttlSeconds hold
  · simp only [CluChess.revoke,List.mem_cons,List.not_mem_nil,or_false,
      RevocationSet.session.injEq,reduceCtorEq] at hnew
    obtain ⟨rfl,rfl,rfl⟩ := hnew
    exact ⟨_,h.resets call hcall guestSession hguest,
      revocationTtl_lasts config _ _ (le_max_left _ _)⟩

theorem Sound.restore (h : s.Sound sessions config) {guestSession : GuestSession}
    (hfind : s.requests.db.guestSessions.find guestSession.id = some guestSession)
    (hlive : guestSession.liveRevoked s.clock = true) :
    Sound sessions config
      { s with sets := s.sets ++ [restoreSet config guestSession s.clock] } := by
  refine ⟨h.requests,h.resets,?_,h.keys⟩
  intro id expiryMs ttlSeconds hmem
  rcases List.mem_append.mp hmem with hold | hnew
  · exact h.sets id expiryMs ttlSeconds hold
  · have hset := List.mem_singleton.mp hnew
    unfold restoreSet at hset
    cases hset
    have hrevoked : guestSession.revokedAt ≠ none := by
      simp only [GuestSession.liveRevoked,Bool.and_eq_true] at hlive
      exact Option.isSome_iff_ne_none.mp hlive.2
    exact ⟨_,⟨guestSession,hfind,hrevoked,rfl⟩,revocationTtl_lasts config _ _ le_rfl⟩

theorem Sound.runSet (h : s.Sound sessions config) {set : RevocationSet} (hmem : set ∈ s.sets)
    (index : ℕ) :
    Sound sessions config { s.runSet set with sets := s.sets.eraseIdx index } := by
  have hsets : ∀ id expiryMs ttlSeconds,
      .session id expiryMs ttlSeconds ∈ s.sets.eraseIdx index →
        .session id expiryMs ttlSeconds ∈ s.sets :=
    fun id expiryMs ttlSeconds hm => List.mem_of_mem_eraseIdx hm
  cases set with
  | token jti ttlSeconds =>
    exact ⟨h.requests,h.resets,fun id expiryMs ttlSeconds hm => h.sets _ _ _ (hsets _ _ _ hm),
      h.keys⟩
  | session id expiryMs ttlSeconds =>
    refine ⟨h.requests,h.resets,fun id expiryMs ttlSeconds hm => h.sets _ _ _ (hsets _ _ _ hm),?_⟩
    intro id' e he
    have he : s.revokedSessions.setPx s.clock id expiryMs (ttlSeconds * 1000) id' = some e := he
    by_cases hid : id' = id
    · rw [hid,Keys.setPx_self] at he
      cases he
      obtain ⟨expiresAt,hrevoked,hlast⟩ := h.sets id expiryMs ttlSeconds hmem
      exact ⟨expiresAt,_,hid ▸ hrevoked,rfl,hlast⟩
    · rw [Keys.setPx_of_ne hid] at he
      exact h.keys id' e he

theorem Sound.stable (sessions : SessionConfig) (config : MaintenanceConfig) :
    (revocations sessions config).Stable (Sound sessions config) := by
  intro s event h
  simp only [Machine.next,revocations,step]
  cases event with
  | request event =>
    refine ⟨SessionService.Sound.stable sessions _ event h.requests,
      h.resets.next h.requests event,?_,?_⟩
    · intro id expiryMs ttlSeconds hmem
      obtain ⟨expiresAt,hrevoked,hlast⟩ := h.sets id expiryMs ttlSeconds hmem
      exact ⟨expiresAt,SessionService.next_revoked hrevoked event,hlast⟩
    · intro id e he
      obtain ⟨expiresAt,last,hrevoked,hlast⟩ := h.keys id e he
      exact ⟨expiresAt,last,SessionService.next_revoked hrevoked event,hlast⟩
  | revoke index identity =>
    cases hguest : s.requests.calls[index]?.bind SessionCall.resetGuest with
    | none =>
      simp only [hguest]
      exact h
    | some guestSession =>
      simp only [hguest]
      obtain ⟨call,hcall,hguest⟩ := Option.bind_eq_some_iff.mp hguest
      exact h.revoke (List.mem_of_getElem? hcall) hguest identity
  | restore id =>
    cases hrow : (s.requests.db.guestSessions.find id).filter
        (GuestSession.liveRevoked s.clock) with
    | none =>
      simp only [hrow]
      exact h
    | some guestSession =>
      simp only [hrow]
      obtain ⟨hfind,hlive⟩ := Option.filter_eq_some_iff.mp hrow
      exact h.restore (Table.find_key hfind ▸ hfind) hlive
  | set index =>
    cases hset : s.sets[index]? with
    | none =>
      simp only [hset]
      exact h
    | some set =>
      simp only [hset]
      exact h.runSet (List.mem_of_getElem? hset) index
  | wait elapsed =>
    refine ⟨h.requests,h.resets,?_,h.keys⟩
    intro id expiryMs ttlSeconds hmem
    obtain ⟨expiresAt,hrevoked,hlast⟩ := h.sets id expiryMs ttlSeconds hmem
    have hlater : s.clock ≤ s.clock + elapsed := Int.le_add_of_nonneg_right (Int.natCast_nonneg _)
    exact ⟨expiresAt,hrevoked,hlast.trans (Int.add_le_add_right hlater _)⟩

theorem keySet_stable (sessions : SessionConfig) (config : MaintenanceConfig)
    (id : GuestSessionId) :
    (revocations sessions config).Stable fun s => s.revokedSessions id ≠ none := by
  intro s event h
  cases event with
  | request event => exact h
  | wait elapsed => exact h
  | revoke index identity =>
    simp only [Machine.next,revocations,step]
    split
    · exact h
    · exact h
  | restore id =>
    simp only [Machine.next,revocations,step]
    split
    · exact h
    · exact h
  | set index =>
    simp only [Machine.next,revocations,step]
    split
    · exact h
    · rename_i set _
      cases set with
      | token jti ttlSeconds => exact h
      | session id' expiryMs ttlSeconds =>
        show s.revokedSessions.setPx s.clock id' expiryMs (ttlSeconds * 1000) id ≠ none
        by_cases hid : id = id'
        · rw [hid,Keys.setPx_self]
          exact Option.some_ne_none _
        · rw [Keys.setPx_of_ne hid]
          exact h

theorem next_keySet {event : RevocationEvent} {id : GuestSessionId} {expiryMs : Millis}
    {ttlSeconds : ℤ} (h : ((revocations sessions config).event s event).answer =
      some (.session id expiryMs ttlSeconds)) :
    ((revocations sessions config).next s event).revokedSessions id ≠ none := by
  cases event with
  | set index =>
    simp only [Machine.event,Machine.next,revocations,step] at h ⊢
    split at h
    · cases h
    · rename_i set hset
      cases h
      show s.revokedSessions.setPx s.clock id expiryMs (ttlSeconds * 1000) id ≠ none
      rw [Keys.setPx_self]
      exact Option.some_ne_none _
  | request event => cases h
  | wait elapsed => cases h
  | revoke index identity =>
    simp only [Machine.event,revocations,step] at h
    split at h <;> cases h
  | restore id =>
    simp only [Machine.event,revocations,step] at h
    split at h <;> cases h

theorem run_requests (schedule : List RevocationEvent) :
    ((revocations sessions config).run s schedule).requests =
      (sessionServices sessions).run s.requests (schedule.filterMap RevocationEvent.request?) := by
  induction schedule generalizing s with
  | nil => rfl
  | cons event schedule ih =>
    rw [Machine.run_cons,ih]
    cases event with
    | request event => rfl
    | wait elapsed => rfl
    | revoke index identity =>
      simp only [Machine.next,revocations,step]
      split <;> rfl
    | restore id =>
      simp only [Machine.next,revocations,step]
      split <;> rfl
    | set index =>
      simp only [Machine.next,revocations,step]
      split
      · rfl
      · rename_i set _
        cases set <;> rfl

end RevocationService

end Runs

section Tokens

variable {sessions : SessionConfig} {history : List SessionStep} {db : Db} {id : GuestSessionId}

/-- The row of a guest expires last among its tokens. -/
theorem IssuedInOrder.expiresAt_le (h : IssuedInOrder history id)
    (hissued : Issued sessions history db) {i : Issuance} (hi : i ∈ issuances history)
    (hid : i.guestSessionId = id) {expiresAt : Millis} (hrow : db.RevokedUntil id expiresAt) :
    i.issuedClaims.expiresAt ≤ expiresAt := by
  obtain ⟨session,hfind,_,rfl⟩ := hrow
  obtain ⟨last,hlast,_,hexpiresAt⟩ := hissued.sessions id session hfind
  have hmem : last ∈ issuances history := (List.mem_filter.mp (List.mem_of_getLast? hlast)).1
  have hle : i.issuedClaims.issuedAt ≤ last.issuedClaims.issuedAt := by
    obtain ⟨earlier,hearlier⟩ := List.getLast?_eq_some_iff.mp hlast
    have hmem : i ∈ (issuances history).filter fun i => decide (i.guestSessionId = id) :=
      List.mem_filter.mpr ⟨hi,decide_eq_true hid⟩
    unfold IssuedInOrder at h
    rw [hearlier] at hmem h
    rcases List.mem_append.mp hmem with hbefore | hsame
    · exact (List.pairwise_append.mp h).2.2 i hbefore last List.mem_cons_self
    · rw [List.mem_singleton.mp hsame]
  rw [hexpiresAt,hissued.lifetime hi,hissued.lifetime hmem]
  exact Int.add_le_add_right hle _

end Tokens

/-- Once a key of a guest session has been set, the session is revoked at every later instant at
which a token of it verifies. -/
theorem revocation_outlives_tokens {PublicKey : Type} (service : JwtTokenService PublicKey)
    (sessions : SessionConfig) (clock : Millis) (schedule : List RevocationEvent)
    (id : GuestSessionId) (horder : IssuedInOrder (requestHistory sessions schedule) id)
    (e : Machine.Event RevocationService RevocationEvent (Option RevocationSet))
    (he : e ∈ (revocations sessions service.config).events (.initial clock) schedule)
    (expiryMs : Millis) (ttlSeconds : ℤ)
    (hset : e.answer = some (.session id expiryMs ttlSeconds)) (token : String)
    (htoken : TokenOf service (requestHistory sessions schedule) id token)
    (s : RevocationService)
    (hs : s = (revocations sessions service.config).run (.initial clock) schedule)
    (guest : AuthenticatedGuest) (hverify : service.verify token s.clock = .ok guest) :
    s.revokedSessions.get s.clock id ≠ none ∧ s.isRevoked guest = true := by
  have hsound : s.Sound sessions service.config := by
    rw [hs]
    exact (RevocationService.Sound.stable sessions service.config).run (.initial _ _ clock) schedule
  have hissued : Issued sessions (requestHistory sessions schedule) s.requests.db := by
    rw [hs,RevocationService.run_requests]
    exact (Issued.empty sessions).run (RevocationService.Sound.initial _ service.config clock).1 _
  have hkey : s.revokedSessions id ≠ none := by
    rw [Machine.mem_events_eq _ he] at hset
    have hafter : e.after.revokedSessions id ≠ none := by
      rw [Machine.mem_events_eq _ he]
      exact RevocationService.next_keySet hset
    rw [hs]
    exact (RevocationService.keySet_stable sessions service.config id).final he hafter
  obtain ⟨entry,hentry⟩ := Option.ne_none_iff_exists'.mp hkey
  obtain ⟨expiresAt,last,hrevoked,hexpires,hlast⟩ := hsound.keys id entry hentry
  obtain ⟨i,hi,hid,guestSession,hguest,hread⟩ := htoken
  have hle := horder.expiresAt_le hissued hi hid hrevoked
  obtain ⟨claims,hread',hlifetime,rfl⟩ := JwtTokenService.verify_ok hverify
  rw [hread] at hread'
  obtain rfl := Except.ok.inj hread'
  have hlive : s.clock ≤ last := by
    rw [JwtTokenService.verify_read hread hlifetime] at hverify
    split_ifs at hverify with hearly hexpired
    have hseconds : i.issuedClaims.expiresAt/1000 * 1000 ≤ i.issuedClaims.expiresAt :=
      Int.ediv_mul_le _ (by decide)
    exact verified_before hexpired (hseconds.trans hle) hlast
  have hget : s.revokedSessions.get s.clock id = some entry.value :=
    Keys.get_eq_some.mpr ⟨entry,hentry,by simp [Entry.live,hexpires,hlive],rfl⟩
  refine ⟨by rw [hget]; exact Option.some_ne_none _,?_⟩
  unfold RevocationService.isRevoked
  have hsub : (JwtTokenService.guestOf (jwtClaims guestSession i.issuedClaims)).guestSessionId =
      id := hguest
  rw [hsub,hget]
  rfl

section Sample

def sampleIdentity : AuthenticatedGuest :=
  ⟨"knight",1700043200000,sampleId 1,1700000000000,sampleId 50,"Ada"⟩

/-- A guest is created and reset, and the pipeline of the revocation is sent. -/
def sampleResetSent : List RevocationEvent :=
  [.request (.call ⟨.create,"first"⟩),.request (.advance 0 (sampleIssuing 1700000000700 50)),
    .request (.advance 0 (sampleIssuing 1700000000700 50)),
    .request (.advance 0 (sampleIssuing 1700000000700 50)),
    .request (.call ⟨.reset (sampleId 1) false,"third"⟩),
    .request (.advance 1 (sampleIssuing 1700000001000 51)),
    .request (.advance 1 (sampleIssuing 1700000001000 51)),
    .request (.advance 1 (sampleIssuing 1700000001000 51)),.revoke 1 sampleIdentity]

/-- The keys are set, and the clock goes on to the last instant of the token. -/
def sampleRevocation : List RevocationEvent :=
  sampleResetSent ++ [.set 0,.set 0,.wait 43228999]

theorem sampleToken_of :
    TokenOf sampleTokens (requestHistory sampleLifetime sampleRevocation) (sampleId 1)
      sampleToken := by
  have hmem : ⟨"first",sampleId 1,sampleIssued⟩ ∈
      issuances (requestHistory sampleLifetime sampleRevocation) := by decide +kernel
  exact ⟨_,hmem,rfl,sampleTokenGuest,rfl,sampleTokens_read⟩

def sampleLastInstant : RevocationService :=
  (revocations sampleLifetime sampleTokens.config).run (.initial 1700000001000) sampleRevocation

end Sample

theorem revocation_outlives_tokens_sample :
    sampleTokens.verify sampleToken 1700043229999 = .ok sampleIdentity ∧
      sampleLastInstant.clock = 1700043229999 ∧
      sampleLastInstant.isRevoked sampleIdentity = true := by
  let e := (revocations sampleLifetime sampleTokens.config).event
    ((revocations sampleLifetime sampleTokens.config).run (.initial 1700000001000) sampleResetSent)
    (.set 0)
  have he : e ∈ (revocations sampleLifetime sampleTokens.config).events (.initial 1700000001000)
      sampleRevocation := by
    unfold sampleRevocation
    rw [Machine.events_append]
    exact List.mem_append_right _ List.mem_cons_self
  have hset : e.answer = some (.session (sampleId 1) 1700043200000 43229) := by decide +kernel
  have horder : IssuedInOrder (requestHistory sampleLifetime sampleRevocation) (sampleId 1) := by
    unfold IssuedInOrder
    decide +kernel
  have hclock : sampleLastInstant.clock = 1700043229999 := by decide +kernel
  have hverify : sampleTokens.verify sampleToken 1700043229999 = .ok sampleIdentity := by
    rw [JwtTokenService.verify_read sampleTokens_read (by decide)]
    rfl
  have hrevoked := revocation_outlives_tokens sampleTokens sampleLifetime 1700000001000
    sampleRevocation (sampleId 1) horder e he _ _ hset sampleToken sampleToken_of
    sampleLastInstant rfl sampleIdentity (hclock ▸ hverify)
  exact ⟨hverify,hclock,hrevoked.2⟩

end CluChess
