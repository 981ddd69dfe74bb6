import CluChess.AnsweringMachine
import CluChess.ExpiringStore
import CluChess.KeysetPages
import CluChess.RepositoryMachine

/-! `SessionMaintenanceService.reconcileRevocations`: the keys of the revoked sessions are rebuilt
from the durable rows, a page in every run. The rows are listed until they expire, and a token
verifies until the clock skew after its expiry. -/
namespace CluChess

structure JwtClaims where
  avatar : String
  exp : ℤ
  iat : ℤ
  jti : Uuid
  name : String
  sub : GuestSessionId
  deriving DecidableEq, Repr

structure AuthenticatedGuest where
  avatarKey : String
  expiresAt : Millis
  guestSessionId : GuestSessionId
  issuedAt : Millis
  jti : Uuid
  name : String
  deriving DecidableEq, Repr

inductive TokenFailureReason
  | expired | malformed | signature | unknownKid
  deriving DecidableEq, Repr

abbrev TokenReader := String → Except TokenFailureReason JwtClaims

structure MaintenanceConfig where
  ttlSeconds : ℕ
  clockSkewSeconds : ℕ
  batchSize : ℕ
  positive : 0 < batchSize

/-- `JwtTokenService.verify`, from the claims of the token on. -/
def verify (reader : TokenReader) (config : MaintenanceConfig) (token : String) (now : Millis) :
    Except TokenFailureReason AuthenticatedGuest :=
  match reader token with
  | .error reason => .error reason
  | .ok claims =>
    if claims.exp - claims.iat ≠ config.ttlSeconds then .error .malformed
    else
      let nowSeconds := now / 1000
      if claims.iat > nowSeconds + config.clockSkewSeconds then .error .malformed
      else if nowSeconds ≥ claims.exp + config.clockSkewSeconds then .error .expired
      else .ok ⟨claims.avatar,claims.exp * 1000,claims.sub,claims.iat * 1000,claims.jti,claims.name⟩

/-- What the listing of the revoked sessions is ordered by: `revokedAt`, then `id`. -/
abbrev RevocationKey := Millis ×ₗ GuestSessionId

def GuestSession.revocationKey (session : GuestSession) : RevocationKey :=
  toLex (session.revokedAt.getD 0,session.id)

def GuestSession.liveRevoked (now : Millis) (session : GuestSession) : Bool :=
  decide (now < session.expiresAt) && session.revokedAt.isSome

def findLiveRevoked (sessions : Table GuestSession.id) (now : Millis) (limit : ℕ)
    (cursor : Option RevocationKey) : List GuestSession :=
  keysetPage GuestSession.revocationKey sessions.rows (GuestSession.liveRevoked now) cursor limit

abbrev RevocationKeys := Keys GuestSessionId Millis

def revocationTtlSeconds (config : MaintenanceConfig) (expiryMs now : Millis) : ℤ :=
  max 1 (-((now - expiryMs) / 1000) + config.clockSkewSeconds)

/-- The `SET` with `EX`, which Redis runs at the instant `setAt`. -/
def restoreSessionRevocation (config : MaintenanceConfig) (session : GuestSession)
    (now setAt : Millis) (keys : RevocationKeys) : RevocationKeys :=
  keys.setPx setAt session.id session.expiresAt
    (revocationTtlSeconds config session.expiresAt now * 1000)

/-- How a run fails: in the database, or at one of its `SET`s, which may have been applied. -/
inductive RunFailure
  | database
  | redis (index : ℕ) (applied : Bool)
  deriving DecidableEq, Repr

/-- A run: its instant, the instants of its `SET`s, and where it fails. -/
structure RevocationRun where
  now : Millis
  setAt : ℕ → Millis
  failure : Option RunFailure

structure Maintenance where
  revocationCursor : Option RevocationKey
  keys : RevocationKeys

def restoreRevocations (config : MaintenanceConfig) (run : RevocationRun) :
    ℕ → List GuestSession → RevocationKeys → Bool × RevocationKeys
  | _,[],keys => (true,keys)
  | index,session :: sessions,keys =>
    if run.failure = some (.redis index false) then (false,keys)
    else
      let restored := restoreSessionRevocation config session run.now (run.setAt index) keys
      if run.failure = some (.redis index true) then (false,restored)
      else restoreRevocations config run (index + 1) sessions restored

def reconcileRevocations (config : MaintenanceConfig) (sessions : Table GuestSession.id)
    (run : RevocationRun) (service : Maintenance) : Bool × Maintenance :=
  if run.failure = some .database then (false,service)
  else
    let revokedSessions :=
      findLiveRevoked sessions run.now config.batchSize service.revocationCursor
    match restoreRevocations config run 0 revokedSessions service.keys with
    | (false,keys) => (false,{ service with keys := keys })
    | (true,keys) =>
      (true,⟨cursorAfter GuestSession.revocationKey config.batchSize revokedSessions,keys⟩)

def revocationRuns (config : MaintenanceConfig) (sessions : Table GuestSession.id) :
    Machine Maintenance RevocationRun Bool where
  step service run := reconcileRevocations config sessions run service

/-- A token of the session verifies: the row keeps the expiry of the last token that was issued. -/
def UsableAt (reader : TokenReader) (config : MaintenanceConfig) (session : GuestSession)
    (now : Millis) : Prop :=
  ∃ token claims guest, reader token = .ok claims ∧ claims.sub = session.id ∧
    claims.exp * 1000 ≤ session.expiresAt ∧ verify reader config token now = .ok guest

def RevocationsRebuilt (reader : TokenReader) (config : MaintenanceConfig)
    (sessions : Table GuestSession.id) (keys : RevocationKeys) (now : Millis) : Prop :=
  ∀ session ∈ sessions.rows, session.revokedAt ≠ none → UsableAt reader config session now →
    ∀ t, now ≤ t → UsableAt reader config session t → keys.get t session.id ≠ none

section Keys

variable {config : MaintenanceConfig} {run : RevocationRun} {keys : RevocationKeys}
  {session : GuestSession} {page : List GuestSession}

def LastingKey (config : MaintenanceConfig) (keys : RevocationKeys) (session : GuestSession) :
    Prop :=
  ∀ e ∈ keys session.id, ∃ d, e.expiresAt = some d ∧
    session.expiresAt + config.clockSkewSeconds * 1000 ≤ d

theorem ttlSeconds_lasts {expiry now setAt skew : ℤ} (h : now ≤ setAt) :
    expiry + skew * 1000 ≤ setAt + max 1 (-((now - expiry) / 1000) + skew) * 1000 := by omega

theorem verified_before {t exp skew expiry last : ℤ} (h : ¬ t / 1000 ≥ exp + skew)
    (he : exp * 1000 ≤ expiry) (hl : expiry + skew * 1000 ≤ last) : t ≤ last := by omega

theorem restoreRevocations_of_ne (config : MaintenanceConfig) (run : RevocationRun) (index : ℕ)
    (keys : RevocationKeys) {id : GuestSessionId} (h : ∀ s ∈ page, s.id ≠ id) :
    (restoreRevocations config run index page keys).2 id = keys id := by
  induction page generalizing index keys with
  | nil => rfl
  | cons session page ih =>
    have hne : id ≠ session.id := (h session List.mem_cons_self).symm
    have hset : restoreSessionRevocation config session run.now (run.setAt index) keys id =
        keys id := Keys.setPx_of_ne hne _
    unfold restoreRevocations
    simp only
    split_ifs
    · rfl
    · exact hset
    · exact (ih _ _ fun s hs => h s (List.mem_cons_of_mem _ hs)).trans hset

theorem restoreRevocations_set (config : MaintenanceConfig) (run : RevocationRun) (index : ℕ)
    {id : GuestSessionId} (h : keys id ≠ none ∨
    (restoreRevocations config run index page keys).1 = true ∧ ∃ s ∈ page, s.id = id) :
    (restoreRevocations config run index page keys).2 id ≠ none := by
  induction page generalizing index keys with
  | nil => exact h.resolve_right fun ⟨_,s,hs,_⟩ => by cases hs
  | cons session page ih =>
    have hset : keys id ≠ none ∨ session.id = id →
        restoreSessionRevocation config session run.now (run.setAt index) keys id ≠ none := by
      intro hid
      unfold restoreSessionRevocation
      by_cases heq : id = session.id
      · rw [heq,Keys.setPx_self]
        exact Option.some_ne_none _
      · rw [Keys.setPx_of_ne heq]
        exact hid.resolve_right fun hs => heq hs.symm
    unfold restoreRevocations at h ⊢
    simp only at h ⊢
    split_ifs at h ⊢ with hbefore hafter
    · exact h.resolve_right fun hdone => hdone.1
    · exact hset (Or.inl (h.resolve_right fun hdone => hdone.1))
    · refine ih _ ?_
      rcases h with hkey | ⟨hdone,s,hs,hid⟩
      · exact Or.inl (hset (Or.inl hkey))
      · rcases List.mem_cons.mp hs with rfl | hs
        · exact Or.inl (hset (Or.inr hid))
        · exact Or.inr ⟨hdone,s,hs,hid⟩

theorem restoreRevocations_lasting (index : ℕ) {sessions : Table GuestSession.id}
    (hpage : ∀ s ∈ page, s ∈ sessions.rows) (hset : ∀ i, run.now ≤ run.setAt i)
    (hs : session ∈ sessions.rows) (h : LastingKey config keys session) :
    LastingKey config (restoreRevocations config run index page keys).2 session := by
  induction page generalizing index keys with
  | nil => exact h
  | cons first page ih =>
    have hfirst : LastingKey config
        (restoreSessionRevocation config first run.now (run.setAt index) keys) session := by
      unfold LastingKey restoreSessionRevocation
      by_cases hid : session.id = first.id
      · have hmem := hpage first List.mem_cons_self
        obtain rfl : session = first := Option.some.inj
          ((Table.find_of_mem hs).symm.trans (hid ▸ Table.find_of_mem hmem))
        intro e he
        rw [Keys.setPx_self] at he
        cases he
        exact ⟨_,rfl,ttlSeconds_lasts (hset index)⟩
      · rw [Keys.setPx_of_ne hid]
        exact h
    unfold restoreRevocations
    simp only
    split_ifs
    · exact h
    · exact hfirst
    · exact ih _ (fun s hs => hpage s (List.mem_cons_of_mem _ hs)) hfirst

theorem LastingKey.get {reader : TokenReader} (h : LastingKey config keys session)
    (hkey : keys session.id ≠ none) {t : Millis} (hu : UsableAt reader config session t) :
    keys.get t session.id ≠ none := by
  obtain ⟨e,he⟩ := Option.ne_none_iff_exists'.mp hkey
  obtain ⟨d,hd,hlast⟩ := h e he
  obtain ⟨token,claims,guest,hread,_,hexpiry,hverify⟩ := hu
  simp only [verify,hread] at hverify
  split_ifs at hverify with hlifetime hfuture hexpired
  have htime : t ≤ d := verified_before hexpired hexpiry hlast
  have hget : keys.get t session.id = some e.value :=
    Keys.get_eq_some.mpr ⟨e,he,by simp [Entry.live,hd,htime],rfl⟩
  rw [hget]
  exact Option.some_ne_none _

end Keys

section Runs

variable {config : MaintenanceConfig} {sessions : Table GuestSession.id} {run : RevocationRun}
  {service : Maintenance}

theorem revocationKey_injective (sessions : Table GuestSession.id) : ∀ a ∈ sessions.rows,
    ∀ b ∈ sessions.rows, a.revocationKey = b.revocationKey → a = b := by
  intro a ha b hb hkey
  have hid : a.id = b.id := congrArg Prod.snd (toLex.injective hkey)
  exact Option.some.inj ((Table.find_of_mem ha).symm.trans (hid ▸ Table.find_of_mem hb))

/-- What holds between two runs at a time: the keys last, and the sessions up to the cursor that
are still listed have theirs. -/
structure Maintenance.Sound (config : MaintenanceConfig) (sessions : Table GuestSession.id)
    (service : Maintenance) (now : Millis) : Prop where
  lasting : ∀ session ∈ sessions.rows, LastingKey config service.keys session
  visited : VisitedUpTo GuestSession.revocationKey sessions.rows (GuestSession.liveRevoked now)
    service.revocationCursor fun session => service.keys session.id ≠ none

theorem liveRevoked_mono {now now' : Millis} (h : now ≤ now') (session : GuestSession)
    (hl : session.liveRevoked now' = true) : session.liveRevoked now = true := by
  simp only [GuestSession.liveRevoked,Bool.and_eq_true,decide_eq_true_eq] at hl ⊢
  exact ⟨h.trans_lt hl.1,hl.2⟩

/-- A run that failed kept its cursor; one that did not moved it past its page, and all the
sessions of that page have their keys. -/
theorem reconcileRevocations_cases (config : MaintenanceConfig) (sessions : Table GuestSession.id)
    (run : RevocationRun) (service : Maintenance) :
    (reconcileRevocations config sessions run service = (false,service)) ∨
    ∃ keys, keys = (restoreRevocations config run 0 (findLiveRevoked sessions run.now
        config.batchSize service.revocationCursor) service.keys).2 ∧
      (reconcileRevocations config sessions run service = (false,⟨service.revocationCursor,keys⟩) ∨
        reconcileRevocations config sessions run service = (true,
          ⟨cursorAfter GuestSession.revocationKey config.batchSize (findLiveRevoked sessions run.now
            config.batchSize service.revocationCursor),keys⟩) ∧
        ∀ session ∈ findLiveRevoked sessions run.now config.batchSize service.revocationCursor,
          keys session.id ≠ none) := by
  unfold reconcileRevocations
  split_ifs with hdatabase
  · exact Or.inl rfl
  · refine Or.inr ⟨_,rfl,?_⟩
    simp only
    cases hloop : restoreRevocations config run 0 (findLiveRevoked sessions run.now
      config.batchSize service.revocationCursor) service.keys with
    | mk done keys =>
      cases done with
      | false => exact Or.inl rfl
      | true =>
        refine Or.inr ⟨rfl,fun session hs => ?_⟩
        have hkey := restoreRevocations_set config run 0
          (Or.inr ⟨congrArg Prod.fst hloop,session,hs,rfl⟩)
        rwa [hloop] at hkey

theorem reconcileRevocations_keys_eq (config : MaintenanceConfig)
    (sessions : Table GuestSession.id) (run : RevocationRun) (service : Maintenance) :
    (reconcileRevocations config sessions run service).2.keys = service.keys ∨
    (reconcileRevocations config sessions run service).2.keys = (restoreRevocations config run 0
      (findLiveRevoked sessions run.now config.batchSize service.revocationCursor)
        service.keys).2 := by
  rcases reconcileRevocations_cases config sessions run service with
    heq | ⟨keys,rfl,heq | ⟨heq,_⟩⟩
  · exact Or.inl (by rw [heq])
  · exact Or.inr (by rw [heq])
  · exact Or.inr (by rw [heq])

theorem Maintenance.Sound.later {now now' : Millis} (h : service.Sound config sessions now)
    (hle : now ≤ now') : service.Sound config sessions now' :=
  ⟨h.lasting,h.visited.mono (liveRevoked_mono hle) fun _ hv => hv⟩

theorem reconcileRevocations_keys (hset : ∀ i, run.now ≤ run.setAt i)
    (hlasting : ∀ session ∈ sessions.rows, LastingKey config service.keys session) :
    (∀ session ∈ sessions.rows,
      LastingKey config (reconcileRevocations config sessions run service).2.keys session) ∧
    ∀ id, service.keys id ≠ none →
      (reconcileRevocations config sessions run service).2.keys id ≠ none := by
  have hpage : ∀ s ∈ findLiveRevoked sessions run.now config.batchSize service.revocationCursor,
      s ∈ sessions.rows := fun s hs => (mem_keysetPage hs).1
  have hlast := fun session hs =>
    restoreRevocations_lasting 0 hpage hset hs (hlasting session hs)
  have hkept : ∀ id, service.keys id ≠ none → (restoreRevocations config run 0
      (findLiveRevoked sessions run.now config.batchSize service.revocationCursor)
        service.keys).2 id ≠ none :=
    fun _ hid => restoreRevocations_set config run 0 (Or.inl hid)
  rcases reconcileRevocations_keys_eq config sessions run service with heq | heq
  · rw [heq]
    exact ⟨hlasting,fun _ hid => hid⟩
  · rw [heq]
    exact ⟨hlast,hkept⟩

theorem Maintenance.Sound.step {now : Millis} (h : service.Sound config sessions now)
    (hnow : now ≤ run.now) (hset : ∀ i, run.now ≤ run.setAt i) :
    (reconcileRevocations config sessions run service).2.Sound config sessions run.now := by
  obtain ⟨hlasting,hkept⟩ := reconcileRevocations_keys hset h.lasting
  have hvisited := (h.later hnow).visited.mono (fun _ hl => hl) fun session => hkept session.id
  refine ⟨hlasting,?_⟩
  rcases reconcileRevocations_cases config sessions run service with
    heq | ⟨keys,_,heq | ⟨heq,hpage⟩⟩
  · rw [heq] at hvisited ⊢
    exact hvisited
  · rw [heq] at hvisited ⊢
    exact hvisited
  · rw [heq] at hvisited ⊢
    exact hvisited.advance (revocationKey_injective sessions) hpage

theorem Maintenance.Sound.complete {now : Millis} (h : service.Sound config sessions now)
    (hnow : now ≤ run.now) (hset : ∀ i, run.now ≤ run.setAt i)
    (hdone : (reconcileRevocations config sessions run service).1 = true)
    (hcursor : (reconcileRevocations config sessions run service).2.revocationCursor = none) :
    ∀ session ∈ sessions.rows, session.liveRevoked run.now = true →
      (reconcileRevocations config sessions run service).2.keys session.id ≠ none := by
  obtain ⟨_,hkept⟩ := reconcileRevocations_keys hset h.lasting
  have hvisited := (h.later hnow).visited.mono (fun _ hl => hl) fun session => hkept session.id
  rcases reconcileRevocations_cases config sessions run service with
    heq | ⟨keys,_,heq | ⟨heq,hpage⟩⟩
  · rw [heq] at hdone
    cases hdone
  · rw [heq] at hdone
    cases hdone
  · rw [heq] at hvisited hcursor ⊢
    exact hvisited.complete config.positive hpage hcursor

theorem Maintenance.Sound.after_runs {runs : List RevocationRun} {now last : Millis}
    (h : service.Sound config sessions now) (hnow : now ≤ last)
    (hruns : ∀ run ∈ runs, now ≤ run.now ∧ run.now ≤ last)
    (htime : runs.Pairwise fun a b => a.now ≤ b.now)
    (hset : ∀ run ∈ runs, ∀ i, run.now ≤ run.setAt i) :
    ((revocationRuns config sessions).run service runs).Sound config sessions last := by
  induction runs generalizing service now with
  | nil => exact h.later hnow
  | cons run runs ih =>
    obtain ⟨hfirst,hlast⟩ := hruns run List.mem_cons_self
    obtain ⟨hrest,htime⟩ := List.pairwise_cons.mp htime
    exact ih (h.step hfirst (hset run List.mem_cons_self)) hlast
      (fun r hr => ⟨hrest r hr,(hruns r (List.mem_cons_of_mem _ hr)).2⟩) htime
      fun r hr => hset r (List.mem_cons_of_mem _ hr)

/-- A run does not come to a session that has expired. -/
theorem reconcileRevocations_expired {session : GuestSession} (hs : session ∈ sessions.rows)
    (hexpired : session.expiresAt ≤ run.now) :
    (reconcileRevocations config sessions run service).2.keys session.id =
      service.keys session.id := by
  have hpage : ∀ s ∈ findLiveRevoked sessions run.now config.batchSize service.revocationCursor,
      s.id ≠ session.id := by
    intro s hmem hid
    obtain ⟨hrow,hlive,_⟩ := mem_keysetPage hmem
    obtain rfl : s = session := Option.some.inj
      ((Table.find_of_mem hrow).symm.trans (hid ▸ Table.find_of_mem hs))
    simp only [GuestSession.liveRevoked,Bool.and_eq_true,decide_eq_true_eq] at hlive
    exact not_le_of_gt hlive.1 hexpired
  have hkeys := restoreRevocations_of_ne config run 0 service.keys hpage
  rcases reconcileRevocations_keys_eq config sessions run service with heq | heq
  · rw [heq]
  · rw [heq]
    exact hkeys

end Runs

/-- A sequence of runs that starts with no cursor and no keys, and ends with no cursor after a run
without an error, has rebuilt the revocations exactly when the revoked sessions that have expired,
but whose tokens still verify, had their keys before the last run. -/
theorem revocations_rebuilt_iff {reader : TokenReader} {config : MaintenanceConfig}
    {sessions : Table GuestSession.id} {runs : List RevocationRun} {last : RevocationRun}
    (htime : (runs ++ [last]).Pairwise fun a b => a.now ≤ b.now)
    (hset : ∀ run ∈ runs ++ [last], ∀ i, run.now ≤ run.setAt i) {service : Maintenance}
    (hservice : service = (revocationRuns config sessions).run ⟨none,.empty⟩ runs)
    (hdone : (reconcileRevocations config sessions last service).1 = true)
    (hcursor : (reconcileRevocations config sessions last service).2.revocationCursor = none) :
    RevocationsRebuilt reader config sessions
        (reconcileRevocations config sessions last service).2.keys last.now ↔
      ∀ session ∈ sessions.rows, session.revokedAt ≠ none → session.expiresAt ≤ last.now →
        UsableAt reader config session last.now → service.keys session.id ≠ none := by
  obtain ⟨hruns,_,hbefore⟩ := List.pairwise_append.mp htime
  have hsetlast := hset last (List.mem_append_right _ List.mem_cons_self)
  have hstart : ∀ now, Maintenance.Sound config sessions ⟨none,.empty⟩ now := fun _ =>
    ⟨fun _ _ => nofun,fun _ _ _ => nofun⟩
  have hsound : service.Sound config sessions last.now := by
    rw [hservice]
    cases runs with
    | nil => exact hstart last.now
    | cons first runs =>
      have hfirst := (List.pairwise_cons.mp hruns).1
      have hlast : ∀ run ∈ first :: runs, run.now ≤ last.now := fun run hr =>
        hbefore run hr last List.mem_cons_self
      refine (hstart first.now).after_runs (hlast first List.mem_cons_self) (fun run hr => ?_) hruns
        fun run hr => hset run (List.mem_append_left _ hr)
      refine ⟨?_,hlast run hr⟩
      rcases List.mem_cons.mp hr with rfl | hr
      · exact le_refl _
      · exact hfirst run hr
  obtain ⟨hlasting,hkept⟩ := reconcileRevocations_keys hsetlast hsound.lasting
  have hlisted := hsound.complete (le_refl _) hsetlast hdone hcursor
  constructor
  · intro h session hs hrevoked hexpired husable hnone
    have hget := h session hs hrevoked husable last.now (le_refl _) husable
    refine hget ?_
    rw [Keys.get,Keys.entry,reconcileRevocations_expired hs hexpired,hnone]
    rfl
  · intro h session hs hrevoked husable t _ ht
    refine (hlasting session hs).get ?_ ht
    by_cases hexpired : session.expiresAt ≤ last.now
    · exact hkept session.id (h session hs hrevoked hexpired husable)
    · refine hlisted session hs ?_
      simp only [GuestSession.liveRevoked,Bool.and_eq_true,decide_eq_true_eq]
      exact ⟨lt_of_not_ge hexpired,Option.isSome_iff_ne_none.mpr hrevoked⟩

section Sample

def sampleMaintenance : MaintenanceConfig := ⟨43200,30,1,by decide⟩

def sampleRevoked : Table GuestSession.id :=
  ⟨[⟨sampleId 1,"Ada","knight",none,0,43200000,some 1000⟩,
    ⟨sampleId 2,"Grace","rook",none,0,43200000,some 2000⟩],by decide⟩

def sampleReader : TokenReader := fun token =>
  if token = "ada" then .ok ⟨"knight",43200,0,sampleId 5,"Ada",sampleId 1⟩ else .error .malformed

def sampleRevocationRun (now : Millis) : RevocationRun := ⟨now,fun _ => now,none⟩

end Sample

theorem revocations_rebuilt_sample : RevocationsRebuilt sampleReader sampleMaintenance sampleRevoked
    (reconcileRevocations sampleMaintenance sampleRevoked (sampleRevocationRun 7000)
      ((revocationRuns sampleMaintenance sampleRevoked).run ⟨none,.empty⟩
        [sampleRevocationRun 5000,sampleRevocationRun 6000])).2.keys 7000 := by
  have hset : ∀ run ∈ [sampleRevocationRun 5000,sampleRevocationRun 6000] ++
      [sampleRevocationRun 7000], ∀ i, run.now ≤ run.setAt i := by
    simp only [List.cons_append,List.nil_append,List.forall_mem_cons]
    exact ⟨fun _ => le_refl _,fun _ => le_refl _,fun _ => le_refl _,nofun⟩
  refine (revocations_rebuilt_iff (by decide) hset rfl rfl rfl).mpr ?_
  have hlive : ∀ session ∈ sampleRevoked.rows, ¬ session.expiresAt ≤ 7000 := by decide
  exact fun session hs _ hexpired => absurd hexpired (hlive session hs)

/-- Ten seconds after its expiry the token of a revoked session verifies, but the rebuild of an
empty Redis does not come to the session. -/
theorem skewed_revocation_missed :
    reconcileRevocations sampleMaintenance sampleRevoked (sampleRevocationRun 43210000)
      ⟨none,.empty⟩ = (true,⟨none,.empty⟩) ∧
    verify sampleReader sampleMaintenance "ada" 43210000 =
      .ok ⟨"knight",43200000,sampleId 1,0,sampleId 5,"Ada"⟩ ∧
    ¬ RevocationsRebuilt sampleReader sampleMaintenance sampleRevoked .empty 43210000 := by
  have hverify : verify sampleReader sampleMaintenance "ada" 43210000 =
      .ok ⟨"knight",43200000,sampleId 1,0,sampleId 5,"Ada"⟩ := rfl
  refine ⟨rfl,hverify,fun h => ?_⟩
  have husable : UsableAt sampleReader sampleMaintenance
      ⟨sampleId 1,"Ada","knight",none,0,43200000,some 1000⟩ 43210000 :=
    ⟨"ada",_,_,rfl,rfl,by decide,hverify⟩
  exact h _ List.mem_cons_self (Option.some_ne_none _) husable 43210000 (le_refl _) husable rfl

end CluChess
