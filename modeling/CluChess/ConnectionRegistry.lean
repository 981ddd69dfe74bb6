import CluChess.AnsweringMachine
import CluChess.MemberLeases
import CluChess.QueuePlace

/-! `connection-registry.service.ts`: the sockets of an address, kept in a sorted set under
`rl:conn:{address}` with the instants at which they expire. -/
namespace CluChess

abbrev AddressHash := String

structure ConnectionStore where
  clock : Millis
  connections : Keys AddressHash (SortedSet SocketMember)

namespace ConnectionStore

def initial (clock : Millis) : ConnectionStore := ⟨clock,.empty⟩

/-- The number of members of the address that have not expired. -/
def unexpired (s : ConnectionStore) (address : AddressHash) (now : Millis) : ℕ :=
  ((s.connections.sortedSet now address).removeUpTo now).card

def Registered (s : ConnectionStore) (address : AddressHash) (socket : SocketMember)
    (now : Millis) : Prop :=
  ((s.connections.sortedSet now address).removeUpTo now).score socket ≠ none

instance (s : ConnectionStore) (address : AddressHash) (socket : SocketMember) (now : Millis) :
    Decidable (s.Registered address socket now) := inferInstanceAs (Decidable (_ ≠ _))

def prune (s : ConnectionStore) (address : AddressHash) (now : Millis) : ConnectionStore :=
  { s with connections := s.connections.updateSet s.clock address fun m => m.removeUpTo now }

def remove (s : ConnectionStore) (address : AddressHash) (socket : SocketMember) :
    ConnectionStore :=
  { s with connections := s.connections.updateSet s.clock address fun m => m.remove socket }

end ConnectionStore

inductive ConnectionError
  | rateLimited (message : String) (retryable : Bool) (retryAfterMs : ℕ)
  | redisUnavailable (message : String)
  deriving DecidableEq, Repr

def realtimeRedisUnavailable : ConnectionError :=
  .redisUnavailable "Realtime Redis state is unavailable"

/-- `ConnectionRegistryService`, with the limit and the lifetime of a member. -/
structure ConnectionRegistryService where
  connectionLimit : ℕ
  ttlMs : ℕ
  ttlMs_pos : 0 < ttlMs

inductive RegistryOperation
  | acquire | refresh | release
  deriving DecidableEq, Repr

structure RegistryCall where
  operation : RegistryOperation
  addressHash : AddressHash
  socketMember : SocketMember
  now : Millis
  delivery : RedisDelivery
  deriving DecidableEq, Repr

namespace ConnectionRegistryService

def create (environment : AppEnvironment) (h : environment.Accepted)
    (rlConnectionsPerIp : ℕ) : ConnectionRegistryService where
  connectionLimit := rlConnectionsPerIp
  ttlMs := environment.config.presenceTtlMs + environment.config.socketPingTimeoutMs
  ttlMs_pos := by
    have hrelations := AppEnvironment.superRefine_eq_nil.mp h.2
    omega

variable (service : ConnectionRegistryService) (s : ConnectionStore) (address : AddressHash)
  (socket : SocketMember) (now : Millis)

/-- `ZADD` and `PEXPIRE` of a member. -/
def register : ConnectionStore :=
  let added := s.connections.updateSet s.clock address fun m => m.add socket (now + service.ttlMs)
  { s with connections := added.pexpire s.clock address service.ttlMs }

def acquireScript : ℤ × ConnectionStore :=
  let s := s.prune address now
  let members := s.connections.sortedSet s.clock address
  if members.score socket = none ∧ service.connectionLimit ≤ members.card then (-1,s)
  else
    let s := service.register s address socket now
    ((s.connections.sortedSet s.clock address).card,s)

/-- What a caller learns when Redis gives this answer and moves to this state. -/
def deliver (delivery : RedisDelivery) (answer : Except ConnectionError Unit)
    (after : ConnectionStore) : Except ConnectionError Unit × ConnectionStore :=
  match delivery with
  | .answered => (answer,after)
  | .replyLost => (.error realtimeRedisUnavailable,after)
  | .unreached => (.error realtimeRedisUnavailable,s)

def acquire (delivery : RedisDelivery) : Except ConnectionError Unit × ConnectionStore :=
  let (count,after) := service.acquireScript s address socket now
  let answer := if count < 0 then
      .error (.rateLimited "Connection limit exceeded" true service.ttlMs)
    else .ok ()
  deliver s delivery answer after

def refresh (delivery : RedisDelivery) : Except ConnectionError Unit × ConnectionStore :=
  deliver s delivery (.ok ()) (service.register s address socket now)

def release (delivery : RedisDelivery) : Except ConnectionError Unit × ConnectionStore :=
  deliver s delivery (.ok ()) (s.remove address socket)

end ConnectionRegistryService

/-- A call is made at its own instant, which the clock of Redis shows. -/
def connectionRegistry (service : ConnectionRegistryService) :
    Machine ConnectionStore RegistryCall (Except ConnectionError Unit) where
  step s call :=
    let s := { s with clock := call.now }
    match call.operation with
    | .acquire => service.acquire s call.addressHash call.socketMember call.now call.delivery
    | .refresh => service.refresh s call.addressHash call.socketMember call.now call.delivery
    | .release => ConnectionRegistryService.release s call.addressHash call.socketMember
        call.delivery

/-! ### The leases of an address -/

namespace ConnectionStore

variable {service : ConnectionRegistryService} {s s' : ConnectionStore}
  {address other : AddressHash} {socket : SocketMember} {now : Millis}
  {leases : Leases SocketMember}

/-- The store shows these leases of the address, and they end within the lifetime of a member. -/
def Kept (service : ConnectionRegistryService) (s : ConnectionStore) (address : AddressHash)
    (leases : Leases SocketMember) : Prop :=
  s.connections.Keeps s.clock address leases ∧
    ∀ m t, leases m = some t → t ≤ s.clock + service.ttlMs

theorem kept_initial (clock : Millis) :
    (initial clock).Kept service address fun _ => none := by
  constructor
  · intro c _ m t _
    constructor <;> intro h <;> cases h
  · intro m t h
    cases h

theorem Kept.later (h : s.Kept service address leases) (hle : s.clock ≤ now) :
    Kept service { s with clock := now } address leases := by
  refine ⟨h.1.later hle,fun m t ht => ?_⟩
  have hend := h.2 m t ht
  exact hend.trans (Int.add_le_add_right hle _)

theorem Kept.unexpired (h : s.Kept service address leases) (hle : s.clock ≤ now) :
    s.unexpired address now = (leases.holders now).ncard := (h.1.later hle).card

theorem Kept.holders_finite (h : s.Kept service address leases) :
    (leases.holders s.clock).Finite := h.1.holders_finite

theorem Kept.unexpired_le (h : s.Kept service address leases) (hle : s.clock ≤ now) :
    s.unexpired address now ≤ s.unexpired address s.clock := by
  rw [h.unexpired hle,h.unexpired le_rfl]
  exact Set.ncard_le_ncard (Leases.holders_mono hle) h.holders_finite

theorem Kept.registered (h : s.Kept service address leases) :
    s.Registered address socket s.clock ↔ socket ∈ leases.holders s.clock := by
  rw [Registered,Option.ne_none_iff_exists',← h.1.holders]
  exact exists_congr fun t => SortedSet.score_removeUpTo_eq_some

theorem Kept.prune (h : s.Kept service address leases) :
    (s.prune address s.clock).Kept service address leases := ⟨h.1.prune le_rfl,h.2⟩

theorem Kept.remove (h : s.Kept service address leases) :
    (s.remove address socket).Kept service address (leases.release socket) := by
  refine ⟨h.1.release,fun m t ht => ?_⟩
  by_cases hm : m = socket
  · subst hm
    rw [Leases.release_self] at ht
    cases ht
  · rw [Leases.release_of_ne hm] at ht
    exact h.2 m t ht

theorem Kept.register (h : s.Kept service address leases) :
    (service.register s address socket s.clock).Kept service address
      (leases.grant socket (s.clock + service.ttlMs)) := by
  refine ⟨h.1.grant le_rfl h.2,fun m t ht => ?_⟩
  by_cases hm : m = socket
  · subst hm
    rw [Leases.grant_self] at ht
    exact (Option.some.inj ht).ge
  · rw [Leases.grant_of_ne hm] at ht
    exact h.2 m t ht

theorem Kept.congr (h : s.Kept service address leases) (hclock : s'.clock = s.clock)
    (hsame : s'.connections address = s.connections address) :
    s'.Kept service address leases := by
  unfold Kept
  rw [hclock]
  exact ⟨h.1.congr hsame,h.2⟩

/-- A member that is registered adds to the number unless it was registered. -/
theorem Kept.unexpired_register (h : s.Kept service address leases) (socket : SocketMember) :
    (service.register s address socket s.clock).unexpired address s.clock =
      if s.Registered address socket s.clock then s.unexpired address s.clock
      else s.unexpired address s.clock + 1 := by
  have hlt : s.clock < s.clock + (service.ttlMs : ℤ) :=
    lt_add_of_pos_right _ (Int.natCast_pos.mpr service.ttlMs_pos)
  have hafter : (service.register s address socket s.clock).unexpired address s.clock =
      ((leases.grant socket (s.clock + service.ttlMs)).holders s.clock).ncard :=
    h.register.unexpired le_rfl
  rw [hafter,h.unexpired le_rfl,Leases.holders_grant hlt]
  by_cases hr : s.Registered address socket s.clock
  · rw [if_pos hr,Set.insert_eq_of_mem (h.registered.mp hr)]
  · rw [if_neg hr]
    exact Set.ncard_insert_of_notMem (fun hm => hr (h.registered.mpr hm)) h.holders_finite

theorem Kept.unexpired_remove_le (h : s.Kept service address leases) :
    (s.remove address socket).unexpired address s.clock ≤ s.unexpired address s.clock := by
  have hafter : (s.remove address socket).unexpired address s.clock =
      ((leases.release socket).holders s.clock).ncard := h.remove.unexpired le_rfl
  rw [hafter,h.unexpired le_rfl]
  exact Set.ncard_le_ncard Leases.holders_release_subset h.holders_finite

theorem Kept.unexpired_prune (h : s.Kept service address leases) :
    (s.prune address s.clock).unexpired address s.clock = s.unexpired address s.clock :=
  (h.prune.unexpired le_rfl).trans (h.unexpired le_rfl).symm

theorem connections_prune_of_ne (h : other ≠ address) :
    (s.prune address now).connections other = s.connections other :=
  s.connections.updateSet_of_ne s.clock h fun m => m.removeUpTo now

theorem connections_remove_of_ne (h : other ≠ address) :
    (s.remove address socket).connections other = s.connections other :=
  s.connections.updateSet_of_ne s.clock h fun m => m.remove socket

theorem connections_register_of_ne (h : other ≠ address) :
    (service.register s address socket now).connections other = s.connections other :=
  (Keys.pexpire_of_ne h _).trans (s.connections.updateSet_of_ne s.clock h
    fun m => m.add socket (now + service.ttlMs))

theorem unexpired_congr (h : s'.connections address = s.connections address) :
    s'.unexpired address now = s.unexpired address now := by
  rw [unexpired,unexpired,Keys.sortedSet_congr h]

end ConnectionStore

/-! ### What a call does -/

section Calls

variable {service : ConnectionRegistryService} {s : ConnectionStore} {call : RegistryCall}
  {address : AddressHash}

def RegistryCall.Refreshes (call : RegistryCall) : Prop :=
  call.operation = .refresh ∧ call.delivery ≠ .unreached

instance (call : RegistryCall) : Decidable call.Refreshes :=
  inferInstanceAs (Decidable (_ ∧ _))

/-- The member of the call is registered, or there is room for one more. -/
def ConnectionStore.Fits (service : ConnectionRegistryService) (s : ConnectionStore)
    (call : RegistryCall) : Prop :=
  s.Registered call.addressHash call.socketMember call.now ∨
    s.unexpired call.addressHash call.now < service.connectionLimit

instance : Decidable (s.Fits service call) := inferInstanceAs (Decidable (_ ∨ _))

theorem deliver_cases (s : ConnectionStore) (delivery : RedisDelivery)
    (answer : Except ConnectionError Unit) (after : ConnectionStore) :
    (ConnectionRegistryService.deliver s delivery answer after).2 = s ∨
      delivery ≠ .unreached ∧
        (ConnectionRegistryService.deliver s delivery answer after).2 = after := by
  cases delivery with
  | answered => exact Or.inr ⟨by decide,rfl⟩
  | replyLost => exact Or.inr ⟨by decide,rfl⟩
  | unreached => exact Or.inl rfl

/-- `acquire` registers a member that fits. -/
theorem acquireScript_eq (hnow : s.clock = call.now) :
    (service.acquireScript s call.addressHash call.socketMember call.now).2 =
      if s.Fits service call then
        service.register (s.prune call.addressHash call.now) call.addressHash call.socketMember
          call.now
      else s.prune call.addressHash call.now := by
  have hmembers : (s.prune call.addressHash call.now).connections.sortedSet s.clock
      call.addressHash = (s.connections.sortedSet s.clock call.addressHash).removeUpTo call.now :=
    s.connections.sortedSet_updateSet s.clock call.addressHash fun m => m.removeUpTo call.now
  have hfits : s.Fits service call ↔
      ¬ (((s.prune call.addressHash call.now).connections.sortedSet s.clock call.addressHash).score
          call.socketMember = none ∧ service.connectionLimit ≤
        ((s.prune call.addressHash call.now).connections.sortedSet s.clock
          call.addressHash).card) := by
    rw [hmembers,hnow,not_and_or,not_le]
    rfl
  by_cases hf : s.Fits service call
  · rw [if_pos hf]
    exact congrArg Prod.snd (if_neg (hfits.mp hf))
  · rw [if_neg hf]
    exact congrArg Prod.snd (if_pos (not_not.mp (mt hfits.mpr hf)))

theorem registry_next (service : ConnectionRegistryService) (s : ConnectionStore)
    (call : RegistryCall) :
    let after := (connectionRegistry service).next s call
    let s : ConnectionStore := { s with clock := call.now }
    let address := call.addressHash
    let socket := call.socketMember
    (¬ call.Refreshes ∧ (after = s ∨ after = s.prune address call.now ∨
      after = s.remove address socket ∨ s.Fits service call ∧
        after = service.register (s.prune address call.now) address socket call.now)) ∨
      call.Refreshes ∧ after = service.register s address socket call.now := by
  intro after s address socket
  have hnot : call.operation ≠ .refresh → ¬ call.Refreshes := fun hne h => hne h.1
  cases hop : call.operation with
  | acquire =>
    have hafter : after = (service.acquire s address socket call.now call.delivery).2 := by
      simp only [after,Machine.next,connectionRegistry,hop]
      rfl
    refine Or.inl ⟨hnot (by rw [hop]; decide),?_⟩
    rw [hafter]
    rcases deliver_cases s call.delivery _
      (service.acquireScript s address socket call.now).2 with h | ⟨_,h⟩
    · exact Or.inl h
    · by_cases hf : s.Fits service call
      · exact Or.inr (Or.inr (Or.inr ⟨hf,(h.trans (acquireScript_eq rfl)).trans (if_pos hf)⟩))
      · exact Or.inr (Or.inl ((h.trans (acquireScript_eq rfl)).trans (if_neg hf)))
  | refresh =>
    have hafter : after = (service.refresh s address socket call.now call.delivery).2 := by
      simp only [after,Machine.next,connectionRegistry,hop]
      rfl
    rw [hafter]
    by_cases hd : call.delivery = .unreached
    · refine Or.inl ⟨fun h => h.2 hd,Or.inl ?_⟩
      rw [hd]
      rfl
    · refine Or.inr ⟨⟨hop,hd⟩,?_⟩
      cases hdelivery : call.delivery with
      | answered => rfl
      | replyLost => rfl
      | unreached => exact absurd hdelivery hd
  | release =>
    have hafter : after = (ConnectionRegistryService.release s address socket call.delivery).2 := by
      simp only [after,Machine.next,connectionRegistry,hop]
      rfl
    refine Or.inl ⟨hnot (by rw [hop]; decide),?_⟩
    rw [hafter]
    rcases deliver_cases s call.delivery (.ok ()) (s.remove address socket) with h | ⟨_,h⟩
    · exact Or.inl h
    · exact Or.inr (Or.inr (Or.inl h))

def ConnectionStore.WellKept (service : ConnectionRegistryService) (s : ConnectionStore) : Prop :=
  ∀ address, ∃ leases, s.Kept service address leases

/-- What a step does to one address is enough. -/
theorem ConnectionStore.WellKept.changed {s' : ConnectionStore} (h : s.WellKept service)
    (address : AddressHash) (hclock : s'.clock = s.clock)
    (hself : ∀ leases, s.Kept service address leases → ∃ leases', s'.Kept service address leases')
    (hother : ∀ other, other ≠ address → s'.connections other = s.connections other) :
    s'.WellKept service := by
  intro other
  by_cases ho : other = address
  · subst ho
    obtain ⟨leases,hkept⟩ := h other
    exact hself leases hkept
  · obtain ⟨leases,hkept⟩ := h other
    exact ⟨leases,hkept.congr hclock (hother other ho)⟩

theorem ConnectionStore.WellKept.prune (h : s.WellKept service) :
    (s.prune address s.clock).WellKept service :=
  h.changed address rfl (fun leases hkept => ⟨leases,hkept.prune⟩)
    fun _ ho => connections_prune_of_ne ho

theorem ConnectionStore.WellKept.remove {socket : SocketMember} (h : s.WellKept service) :
    (s.remove address socket).WellKept service :=
  h.changed address rfl (fun _ hkept => ⟨_,hkept.remove⟩)
    fun _ ho => connections_remove_of_ne ho

theorem ConnectionStore.WellKept.register {socket : SocketMember} (h : s.WellKept service) :
    (service.register s address socket s.clock).WellKept service :=
  h.changed address rfl (fun _ hkept => ⟨_,hkept.register⟩)
    fun _ ho => connections_register_of_ne ho

theorem ConnectionStore.WellKept.later {now : Millis} (h : s.WellKept service)
    (hle : s.clock ≤ now) : ConnectionStore.WellKept service { s with clock := now } := by
  intro address
  obtain ⟨leases,hkept⟩ := h address
  exact ⟨leases,hkept.later hle⟩

theorem ConnectionStore.WellKept.next (h : s.WellKept service) (hle : s.clock ≤ call.now) :
    ((connectionRegistry service).next s call).WellKept service ∧
      ((connectionRegistry service).next s call).clock = call.now := by
  have hs := h.later hle
  rcases registry_next service s call with ⟨_,h | h | h | ⟨_,h⟩⟩ | ⟨_,h⟩ <;> rw [h]
  · exact ⟨hs,rfl⟩
  · exact ⟨hs.prune,rfl⟩
  · exact ⟨hs.remove,rfl⟩
  · exact ⟨hs.prune.register,rfl⟩
  · exact ⟨hs.register,rfl⟩

/-- A member that fits leaves every address within the larger of its number and the limit. -/
theorem ConnectionStore.WellKept.unexpired_register_le (h : s.WellKept service)
    (hnow : s.clock = call.now) (hf : s.Fits service call) :
    (service.register s call.addressHash call.socketMember call.now).unexpired address call.now ≤
      max (s.unexpired address call.now) service.connectionLimit := by
  by_cases ho : address = call.addressHash
  · subst ho
    obtain ⟨leases,hkept⟩ := h call.addressHash
    have hgrown := hkept.unexpired_register call.socketMember
    rw [hnow] at hgrown
    rw [hgrown]
    rcases hf with hr | hroom
    · rw [if_pos hr]
      exact le_max_left _ _
    · split_ifs
      · exact le_max_left _ _
      · exact le_max_of_le_right hroom
  · rw [ConnectionStore.unexpired_congr (ConnectionStore.connections_register_of_ne ho)]
    exact le_max_left _ _

theorem ConnectionStore.WellKept.unexpired_prune (h : s.WellKept service)
    (pruned : AddressHash) :
    (s.prune pruned s.clock).unexpired address s.clock = s.unexpired address s.clock := by
  by_cases ho : address = pruned
  · subst ho
    obtain ⟨leases,hkept⟩ := h address
    exact hkept.unexpired_prune
  · exact ConnectionStore.unexpired_congr (ConnectionStore.connections_prune_of_ne ho)

theorem ConnectionStore.WellKept.fits_prune (h : s.WellKept service) (hnow : s.clock = call.now)
    (hf : s.Fits service call) : (s.prune call.addressHash s.clock).Fits service call := by
  rcases hf with hr | hroom
  · obtain ⟨leases,hkept⟩ := h call.addressHash
    rw [← hnow] at hr
    refine Or.inl ?_
    rw [← hnow]
    exact hkept.prune.registered.mpr (hkept.registered.mp hr)
  · have hsame : (s.prune call.addressHash s.clock).unexpired call.addressHash s.clock =
        s.unexpired call.addressHash s.clock := h.unexpired_prune call.addressHash
    rw [hnow] at hsame ⊢
    exact Or.inr (hsame.trans_lt hroom)

/-- A call that is no refresh, or a refresh that fits, leaves every address within the larger of
its number and the limit. -/
theorem ConnectionStore.WellKept.unexpired_next_le (h : s.WellKept service)
    (hle : s.clock ≤ call.now)
    (hfits : call.Refreshes → ConnectionStore.Fits service { s with clock := call.now } call) :
    ((connectionRegistry service).next s call).unexpired address call.now ≤
      max (s.unexpired address call.now) service.connectionLimit := by
  let t : ConnectionStore := { s with clock := call.now }
  have ht : t.WellKept service := h.later hle
  have hprune : ∀ address pruned, (t.prune pruned call.now).unexpired address call.now =
      t.unexpired address call.now := fun _ pruned => ht.unexpired_prune pruned
  rcases registry_next service s call with ⟨_,h | h | h | ⟨hf,h⟩⟩ | ⟨hr,h⟩ <;> rw [h]
  · exact le_max_left _ _
  · exact le_max_of_le_left (hprune _ _).le
  · by_cases ho : address = call.addressHash
    · subst ho
      obtain ⟨leases,hkept⟩ := ht call.addressHash
      exact le_max_of_le_left hkept.unexpired_remove_le
    · rw [ConnectionStore.unexpired_congr (ConnectionStore.connections_remove_of_ne ho)]
      exact le_max_left _ _
  · have hpruned : ConnectionStore.WellKept service (t.prune call.addressHash call.now) := ht.prune
    refine (hpruned.unexpired_register_le rfl (ht.fits_prune rfl hf)).trans_eq ?_
    exact congrArg (max · _) (hprune _ _)
  · exact ht.unexpired_register_le rfl (hfits hr)

/-- A refresh that does not fit takes its address beyond the limit. -/
theorem ConnectionStore.WellKept.unexpired_next_of_not_fits (h : s.WellKept service)
    (hle : s.clock ≤ call.now) (hr : call.Refreshes)
    (hfits : ¬ ConnectionStore.Fits service { s with clock := call.now } call) :
    service.connectionLimit <
      ((connectionRegistry service).next s call).unexpired call.addressHash call.now := by
  let t : ConnectionStore := { s with clock := call.now }
  obtain ⟨leases,hkept⟩ := (h.later hle) call.addressHash
  rcases registry_next service s call with ⟨hnot,_⟩ | ⟨_,hafter⟩
  · exact absurd hr hnot
  · have hgrown := hkept.unexpired_register call.socketMember
    obtain ⟨hregistered,hfull⟩ := not_or.mp hfits
    rw [if_neg hregistered] at hgrown
    rw [hafter]
    exact (Nat.lt_succ_of_le (not_lt.mp hfull)).trans_eq hgrown.symm

end Calls

/-! ### The limit over a run -/

section Runs

variable {service : ConnectionRegistryService} {s : ConnectionStore} {calls : List RegistryCall}

def TimesInOrder (service : ConnectionRegistryService) (s : ConnectionStore)
    (calls : List RegistryCall) : Prop :=
  ∀ e ∈ (connectionRegistry service).events s calls, e.before.clock ≤ e.input.now

/-- After every call, and at every later instant, no address has more unexpired members than the
limit. -/
def LimitHolds (service : ConnectionRegistryService) (s : ConnectionStore)
    (calls : List RegistryCall) : Prop :=
  ∀ e ∈ (connectionRegistry service).events s calls, ∀ address now, e.input.now ≤ now →
    e.after.unexpired address now ≤ service.connectionLimit

/-- Every refresh that reaches Redis finds its member unexpired, or room for one more. -/
def RefreshesFit (service : ConnectionRegistryService) (s : ConnectionStore)
    (calls : List RegistryCall) : Prop :=
  ∀ e ∈ (connectionRegistry service).events s calls, e.input.Refreshes →
    ConnectionStore.Fits service { e.before with clock := e.input.now } e.input

instance : Decidable (TimesInOrder service s calls) :=
  inferInstanceAs (Decidable (∀ e ∈ (connectionRegistry service).events s calls,
    e.before.clock ≤ e.input.now))

instance : Decidable (RefreshesFit service s calls) :=
  inferInstanceAs (Decidable (∀ e ∈ (connectionRegistry service).events s calls,
    e.input.Refreshes →
      ConnectionStore.Fits service { e.before with clock := e.input.now } e.input))

theorem within_next {s : ConnectionStore} {call : RegistryCall}
    (hcall : s.clock ≤ call.now ∧
      (call.Refreshes → ConnectionStore.Fits service { s with clock := call.now } call))
    (h : s.WellKept service ∧ ∀ address, s.unexpired address s.clock ≤ service.connectionLimit) :
    ((connectionRegistry service).next s call).WellKept service ∧
      ∀ address, ((connectionRegistry service).next s call).unexpired address
        ((connectionRegistry service).next s call).clock ≤ service.connectionLimit := by
  obtain ⟨hkept,hclock⟩ := h.1.next hcall.1
  refine ⟨hkept,fun address => ?_⟩
  obtain ⟨leases,hleases⟩ := h.1 address
  have hbefore := (hleases.unexpired_le hcall.1).trans (h.2 address)
  rw [hclock]
  exact (h.1.unexpired_next_le hcall.1 hcall.2).trans (max_le hbefore le_rfl)

theorem wellKept_initial (clock : Millis) :
    (ConnectionStore.initial clock).WellKept service :=
  fun _ => ⟨_,ConnectionStore.kept_initial clock⟩

theorem unexpired_initial (clock now : Millis) (address : AddressHash) :
    (ConnectionStore.initial clock).unexpired address now = 0 := rfl

/-- The limit holds throughout a run exactly when every refresh fits. -/
theorem connection_limit_iff (service : ConnectionRegistryService) (clock : Millis)
    (calls : List RegistryCall)
    (horder : TimesInOrder service (ConnectionStore.initial clock) calls) :
    LimitHolds service (ConnectionStore.initial clock) calls ↔
      RefreshesFit service (ConnectionStore.initial clock) calls := by
  have hstart : (ConnectionStore.initial clock).WellKept service := wellKept_initial clock
  constructor
  · intro hlimit e he hr
    by_contra hfits
    have hkept : e.before.WellKept service := (connectionRegistry service).before_of_events
      (C := fun s call => s.clock ≤ call.now) (fun s call hle h => (h.next hle).1) hstart horder he
    have hbeyond := hkept.unexpired_next_of_not_fits (horder e he) hr hfits
    have hafter : e.after = (connectionRegistry service).next e.before e.input := by
      rw [Machine.mem_events_eq _ he]
      rfl
    have hwithin := hlimit e he e.input.addressHash e.input.now le_rfl
    rw [hafter] at hwithin
    exact absurd hwithin (not_le.mpr hbeyond)
  · intro hfits e he address now hnow
    have hbefore : e.before.WellKept service ∧
        ∀ address, e.before.unexpired address e.before.clock ≤ service.connectionLimit :=
      (connectionRegistry service).before_of_events
        (C := fun s call => s.clock ≤ call.now ∧
          (call.Refreshes → ConnectionStore.Fits service { s with clock := call.now } call))
        (fun _ _ hcall h => within_next hcall h)
        ⟨hstart,fun _ => (unexpired_initial ..).trans_le (Nat.zero_le _)⟩
        (fun e he => ⟨horder e he,hfits e he⟩) he
    have hafter : e.after = (connectionRegistry service).next e.before e.input := by
      rw [Machine.mem_events_eq _ he]
      rfl
    obtain ⟨hkept,hwithin⟩ := within_next ⟨horder e he,hfits e he⟩ hbefore
    have hclock := (hbefore.1.next (horder e he)).2
    rw [← hafter] at hkept hwithin hclock
    obtain ⟨leases,hleases⟩ := hkept address
    exact (hleases.unexpired_le (hclock.trans_le hnow)).trans (hwithin address)

end Runs

def sampleRegistry : ConnectionRegistryService :=
  .create sampleEnvironment (by decide) 1

def sampleRegistryCall (operation : RegistryOperation) (socket : SocketMember) (now : Millis) :
    RegistryCall := ⟨operation,"203.0.113.7",socket,now,.answered⟩

theorem connection_limit_iff_sample : LimitHolds sampleRegistry (.initial 0)
    [sampleRegistryCall .acquire "a" 0,sampleRegistryCall .refresh "a" 30000,
      sampleRegistryCall .acquire "b" 65001] :=
  (connection_limit_iff sampleRegistry 0 _ (by decide)).mpr (by decide)

abbrev RegistryEvent := Machine.Event ConnectionStore RegistryCall (Except ConnectionError Unit)

def RegistryCall.SameMember (call call' : RegistryCall) : Prop :=
  call.addressHash = call'.addressHash ∧ call.socketMember = call'.socketMember

instance (call call' : RegistryCall) : Decidable (call.SameMember call') :=
  inferInstanceAs (Decidable (_ ∧ _))

def Acquired (past : List RegistryEvent) (call : RegistryCall) : Prop :=
  ∃ e ∈ past, e.input.operation = .acquire ∧ e.input.SameMember call ∧ e.answer.toBool = true

def Unreleased (past : List RegistryEvent) (call : RegistryCall) : Prop :=
  ∀ e ∈ past, e.input.operation = .release → ¬ e.input.SameMember call

instance (past : List RegistryEvent) (call : RegistryCall) : Decidable (Acquired past call) :=
  inferInstanceAs (Decidable (∃ e ∈ past, e.input.operation = .acquire ∧
    e.input.SameMember call ∧ e.answer.toBool = true))

instance (past : List RegistryEvent) (call : RegistryCall) : Decidable (Unreleased past call) :=
  inferInstanceAs (Decidable (∀ e ∈ past, e.input.operation = .release → ¬ e.input.SameMember call))

/-- Members are refreshed and released only after their acquire has succeeded, and refreshed only
before their release. -/
def Disciplined (events : List RegistryEvent) : Prop :=
  ∀ n < events.length, ∀ e ∈ events[n]?,
    (e.input.operation ≠ .acquire → Acquired (events.take n) e.input) ∧
    (e.input.operation = .refresh → Unreleased (events.take n) e.input)

instance (events : List RegistryEvent) : Decidable (Disciplined events) :=
  inferInstanceAs (Decidable (∀ n < events.length, ∀ e ∈ events[n]?,
    (e.input.operation ≠ .acquire → Acquired (events.take n) e.input) ∧
    (e.input.operation = .refresh → Unreleased (events.take n) e.input)))

/-- A member expires, another takes its place, and then it is refreshed. -/
def lateRefresh : List RegistryCall :=
  [sampleRegistryCall .acquire "a" 0,sampleRegistryCall .acquire "b" 65001,
    sampleRegistryCall .refresh "a" 65002]

/-- A late refresh takes an address beyond its limit. -/
theorem late_refresh_exceeds_limit : ¬ ∀ service clock calls,
    TimesInOrder service (.initial clock) calls →
      Disciplined ((connectionRegistry service).events (.initial clock) calls) →
        LimitHolds service (.initial clock) calls := by
  intro h
  have hlimit := h sampleRegistry 0 lateRefresh (by decide) (by decide)
  have hlast : ∀ e ∈ (connectionRegistry sampleRegistry).events (.initial 0) lateRefresh,
      e.input.now ≤ 65002 → e.after.unexpired "203.0.113.7" 65002 ≤ 1 :=
    fun e he hnow => hlimit e he "203.0.113.7" 65002 hnow
  revert hlast
  decide

end CluChess
