import CluChess.ConnectionRegistry
import CluChess.FixedWindows
import CluChess.RealtimeCommands

/-! `session-rate-limit.service.ts`, `realtime-rate-limit.service.ts` and
`recovery-rate-limit.service.ts`: counters in Redis that expire with the window of their first
call. -/
namespace CluChess

structure RateLimitPolicy where
  limit : ℕ
  windowMs : ℕ
  limit_pos : 0 < limit
  windowMs_pos : 0 < windowMs

structure RateLimitEnvironment where
  sessionCreate : RateLimitPolicy
  sessionRenew : RateLimitPolicy
  sessionReset : RateLimitPolicy
  sessionGet : RateLimitPolicy
  queue : RateLimitPolicy
  move : RateLimitPolicy
  sync : RateLimitPolicy

inductive SessionRateLimitPolicy
  | create | get | renew | reset
  deriving DecidableEq, Repr

inductive RealtimeScope
  | move | queue | sync
  deriving DecidableEq, Repr

inductive RecoveryPolicy
  | active | snapshot
  deriving DecidableEq, Repr

def SessionRateLimitPolicy.text : SessionRateLimitPolicy → String
  | create => "create"
  | get => "get"
  | renew => "renew"
  | reset => "reset"

def RealtimeScope.text : RealtimeScope → String
  | move => "move"
  | queue => "queue"
  | sync => "sync"

def RecoveryPolicy.text : RecoveryPolicy → String
  | active => "active"
  | snapshot => "snapshot"

inductive RateLimitErrorCode
  | rateLimited | serviceUnavailable
  deriving DecidableEq, Repr

structure RateLimitError where
  code : RateLimitErrorCode
  message : String
  retryable : Bool
  retryAfterMs : Option ℤ
  deriving DecidableEq, Repr

/-- The counters, and the clock of Redis. -/
structure RateLimitStore where
  clock : Millis
  counters : Keys String ℕ

def RateLimitStore.initial (clock : Millis) : RateLimitStore := ⟨clock,.empty⟩

/-- The script of the limiters: the count of the call and the time its counter has left. -/
def RateLimitStore.countCall (s : RateLimitStore) (key : String) (windowMs : ℕ) :
    (ℕ × ℤ) × RateLimitStore :=
  let (count,counters) := s.counters.countCall s.clock key windowMs
  ((count,counters.pttl s.clock key),{ s with counters := counters })

/-- What a limiter makes of the reply of Redis, or of its absence. -/
def checkCount (policy : RateLimitPolicy) (message : String)
    (unavailable : Except RateLimitError Unit) : Option (ℕ × ℤ) → Except RateLimitError Unit
  | none => unavailable
  | some (count,ttl) =>
    if count > policy.limit then .error ⟨.rateLimited,message,true,some (max 1 ttl)⟩ else .ok ()

/-! ### The three limiters -/

namespace SessionRateLimitService

def policies (environment : RateLimitEnvironment) : SessionRateLimitPolicy → RateLimitPolicy
  | .create => environment.sessionCreate
  | .get => environment.sessionGet
  | .renew => environment.sessionRenew
  | .reset => environment.sessionReset

def key (sha256 : String → String) (policy : SessionRateLimitPolicy) (identifier : String) :
    String := "rl:session:" ++ policy.text ++ ":" ++ sha256 identifier

/-- `SessionRateLimitService.consume`: closed while Redis is unavailable. -/
def consume (environment : RateLimitEnvironment) (policy : SessionRateLimitPolicy) :
    Option (ℕ × ℤ) → Except RateLimitError Unit :=
  checkCount (policies environment policy) "Session request rate limit exceeded"
    (.error ⟨.serviceUnavailable,"Session service is temporarily unavailable",true,none⟩)

end SessionRateLimitService

namespace RealtimeRateLimitService

/-- The scope whose counter an event uses. -/
def scope : ClientEventName → RealtimeScope
  | .gameReady => .sync
  | .gameResign => .move
  | .gameSync => .sync
  | .heartbeatPing => .sync
  | .moveSubmit => .move
  | .queueJoin => .queue
  | .queueLeave => .queue

def policies (environment : RateLimitEnvironment) : RealtimeScope → RateLimitPolicy
  | .queue => environment.queue
  | .move => environment.move
  | .sync => environment.sync

def key (scope : RealtimeScope) (guestSessionId : String) : String :=
  "rl:" ++ scope.text ++ ":" ++ guestSessionId

/-- `RealtimeRateLimitService.consume`: open while Redis is unavailable. -/
def consume (environment : RateLimitEnvironment) (eventName : ClientEventName) :
    Option (ℕ × ℤ) → Except RateLimitError Unit :=
  checkCount (policies environment (scope eventName)) "Socket command rate limit exceeded"
    (.ok ())

end RealtimeRateLimitService

namespace RecoveryRateLimitService

def policies (environment : RateLimitEnvironment) : RecoveryPolicy → RateLimitPolicy
  | .active => environment.sessionGet
  | .snapshot => environment.sync

def key (sha256 : String → String) (policy : RecoveryPolicy) (guestSessionId : String) : String :=
  "rl:recovery:" ++ policy.text ++ ":" ++ sha256 guestSessionId

/-- `RecoveryRateLimitService.consume`: open while Redis is unavailable. -/
def consume (environment : RateLimitEnvironment) (policy : RecoveryPolicy) :
    Option (ℕ × ℤ) → Except RateLimitError Unit :=
  checkCount (policies environment policy) "Recovery request rate limit exceeded" (.ok ())

end RecoveryRateLimitService

inductive ConsumeRequest
  | session (policy : SessionRateLimitPolicy) (identifier : String)
  | realtime (eventName : ClientEventName) (guestSessionId : String)
  | recovery (policy : RecoveryPolicy) (guestSessionId : String)
  deriving DecidableEq, Repr

inductive RateLimitScope
  | session (policy : SessionRateLimitPolicy)
  | realtime (scope : RealtimeScope)
  | recovery (policy : RecoveryPolicy)
  deriving DecidableEq, Repr

structure ConsumeCall where
  request : ConsumeRequest
  now : Millis
  delivery : RedisDelivery
  deriving DecidableEq, Repr

namespace ConsumeRequest

def identifier : ConsumeRequest → String
  | session _ identifier => identifier
  | realtime _ guestSessionId => guestSessionId
  | recovery _ guestSessionId => guestSessionId

def scope : ConsumeRequest → RateLimitScope
  | session policy _ => .session policy
  | realtime eventName _ => .realtime (RealtimeRateLimitService.scope eventName)
  | recovery policy _ => .recovery policy

end ConsumeRequest

namespace RateLimitScope

def policy (environment : RateLimitEnvironment) : RateLimitScope → RateLimitPolicy
  | session policy => SessionRateLimitService.policies environment policy
  | realtime scope => RealtimeRateLimitService.policies environment scope
  | recovery policy => RecoveryRateLimitService.policies environment policy

def key (sha256 : String → String) (identifier : String) : RateLimitScope → String
  | session policy => SessionRateLimitService.key sha256 policy identifier
  | realtime scope => RealtimeRateLimitService.key scope identifier
  | recovery policy => RecoveryRateLimitService.key sha256 policy identifier

end RateLimitScope

def ConsumeRequest.consume (environment : RateLimitEnvironment) :
    ConsumeRequest → Option (ℕ × ℤ) → Except RateLimitError Unit
  | session policy _ => SessionRateLimitService.consume environment policy
  | realtime eventName _ => RealtimeRateLimitService.consume environment eventName
  | recovery policy _ => RecoveryRateLimitService.consume environment policy

/-- The limiters over one Redis. A call is made at its own instant, which the clock shows. -/
def rateLimits (environment : RateLimitEnvironment) (sha256 : String → String) :
    Machine RateLimitStore ConsumeCall (Except RateLimitError Unit) where
  step s call :=
    let s := { s with clock := call.now }
    let scope := call.request.scope
    let (reply,after) := s.countCall (scope.key sha256 call.request.identifier)
      (scope.policy environment).windowMs
    match call.delivery with
    | .answered => (call.request.consume environment (some reply),after)
    | .replyLost => (call.request.consume environment none,after)
    | .unreached => (call.request.consume environment none,s)

/-! ### Keys -/

namespace RateLimitScope

def keyStart : RateLimitScope → String
  | session policy => "rl:session:" ++ policy.text ++ ":"
  | realtime scope => "rl:" ++ scope.text ++ ":"
  | recovery policy => "rl:recovery:" ++ policy.text ++ ":"

def keyEnd (sha256 : String → String) (identifier : String) : RateLimitScope → String
  | session _ => sha256 identifier
  | realtime _ => identifier
  | recovery _ => sha256 identifier

theorem key_eq (sha256 : String → String) (identifier : String) (scope : RateLimitScope) :
    scope.key sha256 identifier = scope.keyStart ++ scope.keyEnd sha256 identifier := by
  cases scope <;> rfl

def scopes : List RateLimitScope :=
  [session .create,session .get,session .renew,session .reset,realtime .move,realtime .queue,
    realtime .sync,recovery .active,recovery .snapshot]

theorem mem_scopes (scope : RateLimitScope) : scope ∈ scopes := by
  cases scope with
  | session policy => cases policy <;> decide
  | realtime scope => cases scope <;> decide
  | recovery policy => cases policy <;> decide

/-- No start of a key continues another. -/
theorem keyStart_inj : ∀ a ∈ scopes, ∀ b ∈ scopes,
    a.keyStart.toList <+: b.keyStart.toList → a = b := by decide

theorem scope_of_key {sha256 : String → String} {a b : RateLimitScope} {i j : String}
    (h : a.key sha256 i = b.key sha256 j) : a = b := by
  rw [key_eq,key_eq] at h
  have hlist : a.keyStart.toList ++ (a.keyEnd sha256 i).toList =
      b.keyStart.toList ++ (b.keyEnd sha256 j).toList := by
    rw [← String.toList_append,h,String.toList_append]
  have ha : a.keyStart.toList <+: b.keyStart.toList ++ (b.keyEnd sha256 j).toList :=
    hlist ▸ List.prefix_append _ _
  rcases List.prefix_or_prefix_of_prefix ha (List.prefix_append _ _) with h | h
  · exact keyStart_inj a (mem_scopes a) b (mem_scopes b) h
  · exact (keyStart_inj b (mem_scopes b) a (mem_scopes a) h).symm

end RateLimitScope

/-! ### Windows of calls -/

section Windows

variable {environment : RateLimitEnvironment} {sha256 : String → String} {s : RateLimitStore}
  {call : ConsumeCall} {calls : List ConsumeCall}

abbrev RateLimitEvent := Machine.Event RateLimitStore ConsumeCall (Except RateLimitError Unit)

def callTime (e : RateLimitEvent) : ℤ := e.input.now

def accepted (e : RateLimitEvent) : Bool := e.answer.toBool

def ConsumeCall.key (sha256 : String → String) (call : ConsumeCall) : String :=
  call.request.scope.key sha256 call.request.identifier

def callsOn (sha256 : String → String) (key : String) (events : List RateLimitEvent) :
    List RateLimitEvent := events.filter fun e => e.input.key sha256 = key

theorem toBool_checkCount (policy : RateLimitPolicy) (message : String)
    (unavailable : Except RateLimitError Unit) (count : ℕ) (ttl : ℤ) :
    (checkCount policy message unavailable (some (count,ttl))).toBool =
      decide (count ≤ policy.limit) := by
  by_cases h : count > policy.limit
  · simp [checkCount,h,Except.toBool]
  · simp [checkCount,h,not_lt.mp h,Except.toBool]

theorem toBool_consume (request : ConsumeRequest) (count : ℕ) (ttl : ℤ) :
    (request.consume environment (some (count,ttl))).toBool =
      decide (count ≤ (request.scope.policy environment).limit) := by
  cases request with
  | session policy _ =>
    rw [ConsumeRequest.consume,SessionRateLimitService.consume,toBool_checkCount]
    rfl
  | realtime eventName _ =>
    rw [ConsumeRequest.consume,RealtimeRateLimitService.consume,toBool_checkCount]
    rfl
  | recovery policy _ =>
    rw [ConsumeRequest.consume,RecoveryRateLimitService.consume,toBool_checkCount]
    rfl

/-- What a call that Redis answers does. -/
theorem rateLimits_answered (environment : RateLimitEnvironment) (sha256 : String → String)
    (s : RateLimitStore) (h : call.delivery = .answered) :
    let counted := s.counters.countCall call.now (call.key sha256)
      (call.request.scope.policy environment).windowMs
    (rateLimits environment sha256).next s call = ⟨call.now,counted.2⟩ ∧
      accepted ((rateLimits environment sha256).event s call) =
        decide (counted.1 ≤ (call.request.scope.policy environment).limit) := by
  intro counted
  have hstep : (rateLimits environment sha256).step s call =
      (call.request.consume environment (some (counted.1,counted.2.pttl call.now
        (call.key sha256))),⟨call.now,counted.2⟩) := by
    unfold rateLimits
    dsimp only
    rw [h]
    rfl
  refine ⟨congrArg Prod.snd hstep,?_⟩
  rw [accepted,Machine.event,hstep]
  exact toBool_consume ..

theorem counters_of_ne {key : String} (hanswered : call.delivery = .answered)
    (h : call.key sha256 ≠ key) :
    ((rateLimits environment sha256).next s call).counters key = s.counters key := by
  rw [(rateLimits_answered environment sha256 s hanswered).1]
  exact Keys.countCall_of_ne (Ne.symm h) _

theorem RateLimitStore.next_endsWithin {limit : ℤ} (h : s.counters.EndsWithin s.clock limit)
    (hnow : s.clock ≤ call.now)
    (hwindow : (call.request.scope.policy environment).windowMs ≤ limit) :
    ((rateLimits environment sha256).next s call).counters.EndsWithin
      ((rateLimits environment sha256).next s call).clock limit := by
  have hlater := h.later hnow
  unfold Machine.next rateLimits
  dsimp only
  cases call.delivery with
  | answered => exact hlater.countCall hwindow
  | replyLost => exact hlater.countCall hwindow
  | unreached => exact hlater

/-- The counter of a key shows a window. -/
def RateLimitStore.Shows (s : RateLimitStore) (key : String) (windowMs : ℕ)
    (w : CallWindow RateLimitEvent) : Prop :=
  s.counters key = some ⟨w.calls.length,some (callTime w.opener + windowMs)⟩

variable {scope : RateLimitScope} {identifier : String}

/-- A call on the counter of a window joins the window or opens the next one. -/
theorem shows_next {w : CallWindow RateLimitEvent} (hanswered : call.delivery = .answered)
    (hkey : call.key sha256 = scope.key sha256 identifier)
    (hshows : s.Shows (scope.key sha256 identifier) (scope.policy environment).windowMs w) :
    let e := (rateLimits environment sha256).event s call
    let s' := (rateLimits environment sha256).next s call
    let key := scope.key sha256 identifier
    let windowMs := (scope.policy environment).windowMs
    let limit := (scope.policy environment).limit
    if callTime e ≤ callTime w.opener + windowMs then
      s'.Shows key windowMs (w.add e) ∧ accepted e = decide (w.calls.length < limit)
    else s'.Shows key windowMs ⟨e,[]⟩ ∧ accepted e = decide (0 < limit) := by
  intro e s' key windowMs limit
  have hscope : call.request.scope = scope := RateLimitScope.scope_of_key hkey
  obtain ⟨hnext,haccepted⟩ := rateLimits_answered environment sha256 s hanswered
  rw [hkey,hscope] at hnext haccepted
  split_ifs with hin
  · obtain ⟨hcount,hcounter⟩ := Keys.countCall_in hshows hin (Nat.succ_pos _) windowMs
    constructor
    · have hlength : (w.add e).calls.length = w.calls.length + 1 := by simp
      rw [RateLimitStore.Shows,hlength]
      exact (congrArg (fun t => t.counters key) hnext).trans hcounter
    · exact haccepted.trans (congrArg (fun n => decide (n ≤ limit)) hcount)
  · have hgone : s.counters.get call.now key = none := by
      refine Option.eq_none_iff_forall_ne_some.mpr fun count hcount => ?_
      obtain ⟨entry,hentry,hlive,_⟩ := Keys.get_eq_some.mp hcount
      rw [hshows] at hentry
      cases hentry
      exact hin (of_decide_eq_true hlive)
    obtain ⟨hcount,hcounter⟩ := Keys.countCall_open hgone windowMs
    constructor
    · exact (congrArg (fun t => t.counters key) hnext).trans hcounter
    · exact haccepted.trans (congrArg (fun n => decide (n ≤ limit)) hcount)

theorem shows_first (environment : RateLimitEnvironment) (hanswered : call.delivery = .answered)
    (hkey : call.key sha256 = scope.key sha256 identifier)
    (hnone : s.counters (scope.key sha256 identifier) = none) :
    let e := (rateLimits environment sha256).event s call
    ((rateLimits environment sha256).next s call).Shows (scope.key sha256 identifier)
        (scope.policy environment).windowMs ⟨e,[]⟩ ∧
      accepted e = decide (0 < (scope.policy environment).limit) := by
  intro e
  have hscope : call.request.scope = scope := RateLimitScope.scope_of_key hkey
  obtain ⟨hnext,haccepted⟩ := rateLimits_answered environment sha256 s hanswered
  rw [hkey,hscope] at hnext haccepted
  have hgone : s.counters.get call.now (scope.key sha256 identifier) = none := by
    rw [Keys.get,Keys.entry,hnone]
    rfl
  obtain ⟨hcount,hcounter⟩ := Keys.countCall_open hgone (scope.policy environment).windowMs
  constructor
  · exact (congrArg (fun t => t.counters (scope.key sha256 identifier)) hnext).trans hcounter
  · rw [haccepted,hcount]
    rfl

theorem callsOn_of_key {key : String} (hkey : call.key sha256 = key) :
    callsOn sha256 key ((rateLimits environment sha256).events s (call :: calls)) =
      (rateLimits environment sha256).event s call :: callsOn sha256 key
        ((rateLimits environment sha256).events ((rateLimits environment sha256).next s call)
          calls) := by
  rw [Machine.events_cons,callsOn,List.filter_cons]
  exact if_pos (decide_eq_true hkey)

theorem callsOn_of_ne {key : String} (hkey : call.key sha256 ≠ key) :
    callsOn sha256 key ((rateLimits environment sha256).events s (call :: calls)) =
      callsOn sha256 key ((rateLimits environment sha256).events
        ((rateLimits environment sha256).next s call) calls) := by
  rw [Machine.events_cons,callsOn,List.filter_cons]
  exact if_neg fun h => hkey (of_decide_eq_true h)

/-- What the counter of a scope says of the calls on it. -/
def RateLimitScope.Counted (environment : RateLimitEnvironment) (scope : RateLimitScope)
    (key : String) (s : RateLimitStore) (ws : List (CallWindow RateLimitEvent)) : Prop :=
  (∀ w ∈ ws, w.AcceptsFirst accepted (scope.policy environment).limit) ∧
    ∃ w ∈ ws, s.Shows key (scope.policy environment).windowMs w

theorem counted_from (hanswered : ∀ call ∈ calls, call.delivery = .answered)
    {w : CallWindow RateLimitEvent}
    (hshows : s.Shows (scope.key sha256 identifier) (scope.policy environment).windowMs w)
    (hw : w.AcceptsFirst accepted (scope.policy environment).limit) :
    scope.Counted environment (scope.key sha256 identifier)
      ((rateLimits environment sha256).run s calls)
      (CallWindow.windowsFrom callTime (scope.policy environment).windowMs w
        (callsOn sha256 (scope.key sha256 identifier)
          ((rateLimits environment sha256).events s calls))) := by
  induction calls generalizing s w with
  | nil => exact ⟨fun v hv => List.mem_singleton.mp hv ▸ hw,w,List.mem_singleton_self w,hshows⟩
  | cons call calls ih =>
    have hcall := hanswered call List.mem_cons_self
    have hrest : ∀ c ∈ calls, c.delivery = .answered :=
      fun c hc => hanswered c (List.mem_cons_of_mem call hc)
    rw [Machine.run_cons]
    by_cases hkey : call.key sha256 = scope.key sha256 identifier
    · have hstep := shows_next hcall hkey hshows
      rw [callsOn_of_key hkey,CallWindow.windowsFrom]
      split_ifs with hin
      · rw [if_pos hin] at hstep
        exact ih hrest hstep.1 (hw.add hstep.2)
      · rw [if_neg hin] at hstep
        obtain ⟨hfirst,v,hv,hlast⟩ := ih hrest hstep.1 (CallWindow.acceptsFirst_single hstep.2)
        refine ⟨fun u hu => ?_,v,List.mem_cons_of_mem w hv,hlast⟩
        rcases List.mem_cons.mp hu with rfl | hu
        · exact hw
        · exact hfirst u hu
    · rw [callsOn_of_ne hkey]
      exact ih hrest ((counters_of_ne hcall hkey).trans hshows) hw

theorem counted_run (environment : RateLimitEnvironment)
    (hanswered : ∀ call ∈ calls, call.delivery = .answered)
    (hnone : s.counters (scope.key sha256 identifier) = none) :
    let mine := callsOn sha256 (scope.key sha256 identifier)
      ((rateLimits environment sha256).events s calls)
    let ws := CallWindow.windows callTime (scope.policy environment).windowMs mine
    let s' := (rateLimits environment sha256).run s calls
    ws = [] ∧ s'.counters (scope.key sha256 identifier) = none ∨
      scope.Counted environment (scope.key sha256 identifier) s' ws := by
  induction calls generalizing s with
  | nil => exact Or.inl ⟨rfl,hnone⟩
  | cons call calls ih =>
    have hcall := hanswered call List.mem_cons_self
    have hrest : ∀ c ∈ calls, c.delivery = .answered :=
      fun c hc => hanswered c (List.mem_cons_of_mem call hc)
    rw [Machine.run_cons]
    by_cases hkey : call.key sha256 = scope.key sha256 identifier
    · rw [callsOn_of_key hkey]
      obtain ⟨hshows,hfirst⟩ := shows_first environment hcall hkey hnone
      exact Or.inr (counted_from hrest hshows (CallWindow.acceptsFirst_single hfirst))
    · rw [callsOn_of_ne hkey]
      exact ih hrest ((counters_of_ne hcall hkey).trans hnone)

def callsOf (scope : RateLimitScope) (events : List RateLimitEvent) : List RateLimitEvent :=
  events.filter fun e => e.input.request.scope = scope

theorem callsOf_eq_callsOn (hone : ∀ call ∈ calls, call.request.identifier = identifier) :
    callsOf scope ((rateLimits environment sha256).events s calls) =
      callsOn sha256 (scope.key sha256 identifier)
        ((rateLimits environment sha256).events s calls) := by
  refine List.filter_congr fun e he => ?_
  have hcall : e.input ∈ calls := by
    have hmem := List.mem_map_of_mem (f := Machine.Event.input) he
    rwa [Machine.map_input_events] at hmem
  have hsame : e.input.request.scope = scope ↔
      e.input.key sha256 = scope.key sha256 identifier := by
    constructor
    · intro h
      rw [ConsumeCall.key,h,hone e.input hcall]
    · exact RateLimitScope.scope_of_key
  exact decide_eq_decide.mpr hsame

theorem callsOf_in_order (horder : (calls.map ConsumeCall.now).Pairwise (· ≤ ·)) :
    ((callsOf scope ((rateLimits environment sha256).events s calls)).map callTime).Pairwise
      (· ≤ ·) := by
  have htimes : ((rateLimits environment sha256).events s calls).map callTime =
      calls.map ConsumeCall.now := by
    rw [← (rateLimits environment sha256).map_input_events s calls,List.map_map,
      Machine.map_input_events]
    rfl
  refine List.Pairwise.sublist ((List.filter_sublist).map callTime) ?_
  rw [htimes]
  exact horder

/-- The limiters bound what they accept from an identifier. A window accepts exactly its first
calls up to the limit, an interval of the length of a window holds at most twice as many accepted
calls, the counter always expires with a window, and every call, so a refused one too, comes
before the end of a window whose opening was accepted. -/
theorem rate_limits_bound (environment : RateLimitEnvironment) (sha256 : String → String)
    (identifier : String) (clock : Millis) (calls : List ConsumeCall)
    (hanswered : ∀ call ∈ calls, call.delivery = .answered)
    (hone : ∀ call ∈ calls, call.request.identifier = identifier)
    (horder : (calls.map ConsumeCall.now).Pairwise (· ≤ ·)) (scope : RateLimitScope) :
    let limit := (scope.policy environment).limit
    let windowMs := (scope.policy environment).windowMs
    let limiters := rateLimits environment sha256
    let mine := callsOf scope (limiters.events (.initial clock) calls)
    let windows := CallWindow.windows callTime windowMs mine
    (∀ w ∈ windows, w.AcceptsFirst accepted limit) ∧
    (∀ x, mine.countP (CallWindow.within callTime windowMs accepted x) ≤ 2 * limit) ∧
    (∀ counter, (limiters.run (.initial clock) calls).counters (scope.key sha256 identifier) =
        some counter →
      ∃ w ∈ windows, counter.expiresAt = some (callTime w.opener + windowMs)) ∧
    ∀ e ∈ mine, ∃ w ∈ windows, e ∈ w.calls ∧ accepted w.opener = true ∧
      callTime e ≤ callTime w.opener + windowMs := by
  intro limit windowMs limiters mine windows
  have hmine : mine = callsOn sha256 (scope.key sha256 identifier)
      (limiters.events (.initial clock) calls) := callsOf_eq_callsOn hone
  have hwindowMs : (0 : ℤ) ≤ windowMs := Int.natCast_nonneg _
  obtain ⟨hspans,hspread⟩ := CallWindow.windows_spans hwindowMs
    (callsOf_in_order horder : (mine.map callTime).Pairwise (· ≤ ·))
  have hcalls : (windows.map CallWindow.calls).flatten = mine := CallWindow.windows_calls mine
  have hnone : (RateLimitStore.initial clock).counters (scope.key sha256 identifier) = none := rfl
  have hrun := counted_run environment hanswered hnone
  rw [← hmine] at hrun
  have hfirst : ∀ w ∈ windows, w.AcceptsFirst accepted limit := by
    rcases hrun with ⟨hempty,_⟩ | ⟨hfirst,_⟩
    · intro w hw
      have hempty : windows = [] := hempty
      rw [hempty] at hw
      cases hw
    · exact hfirst
  refine ⟨hfirst,fun x => ?_,fun counter hcounter => ?_,fun e he => ?_⟩
  · rw [← hcalls]
    refine CallWindow.countP_within_le_two hspans hspread fun w hw => ?_
    exact (hfirst w hw).countP.trans_le (min_le_right _ _)
  · rcases hrun with ⟨_,hunused⟩ | ⟨_,w,hw,hshows⟩
    · rw [hunused] at hcounter
      cases hcounter
    · rw [hshows] at hcounter
      cases hcounter
      exact ⟨w,hw,rfl⟩
  · rw [← hcalls] at he
    obtain ⟨_,hmem,he⟩ := List.mem_flatten.mp he
    obtain ⟨w,hw,rfl⟩ := List.mem_map.mp hmem
    refine ⟨w,hw,he,?_,(hspans w hw e he).2⟩
    exact (hfirst w hw).opener (scope.policy environment).limit_pos

end Windows

def sampleRateLimits : RateLimitEnvironment where
  sessionCreate := ⟨10,60000,by decide,by decide⟩
  sessionRenew := ⟨30,60000,by decide,by decide⟩
  sessionReset := ⟨10,60000,by decide,by decide⟩
  sessionGet := ⟨60,60000,by decide,by decide⟩
  queue := ⟨5,10000,by decide,by decide⟩
  move := ⟨10,1000,by decide,by decide⟩
  sync := ⟨120,60000,by decide,by decide⟩

/-- Two events that share a counter, and one that does not. -/
def sampleConsumeCalls : List ConsumeCall :=
  [⟨.realtime .queueJoin "guest",0,.answered⟩,⟨.realtime .moveSubmit "guest",100,.answered⟩,
    ⟨.realtime .queueLeave "guest",10000,.answered⟩,⟨.realtime .queueJoin "guest",10001,.answered⟩]

theorem rate_limits_bound_sample :
    (callsOf (.realtime .queue) ((rateLimits sampleRateLimits id).events (.initial 0)
      sampleConsumeCalls)).countP (CallWindow.within callTime 10000 accepted 5) ≤ 10 :=
  (rate_limits_bound sampleRateLimits id "guest" 0 sampleConsumeCalls (by decide) (by decide)
    (by decide) (.realtime .queue)).2.1 5

end CluChess
