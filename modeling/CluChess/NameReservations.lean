import CluChess.AnsweringMachine
import CluChess.ConnectionRegistry
import CluChess.GuestNames

/-! `identity.service.ts` and `name-reservation.service.ts`: calls of `generate` draw names and
reserve them in Redis until one is free, and names are given back. The attempts of the calls
interleave with one another, with releases and with the clock of Redis, and every command may
fail to reach Redis or may lose its reply. -/
namespace CluChess

def reservationSeconds : ℕ := 86400

/-- The name under which `NameReservationService` keeps a display name. -/
def nameKey (displayName : String) : String := displayName.toLower

inductive NamePhase
  | attempting (attempt : ℕ)
  | holding (identity : Identity) (reservedAt : Millis)
  | givenBack (identity : Identity)
  | failed

structure NameCall where
  guestSessionId : GuestSessionId
  draws : ℕ → IdentityDraw
  phase : NamePhase

structure NameService where
  keys : Keys String GuestSessionId
  clock : Millis
  calls : List NameCall

inductive NameEvent
  | generate (guestSessionId : GuestSessionId) (draws : ℕ → IdentityDraw)
  | attempt (index : ℕ) (delivery : RedisDelivery)
  | release (displayName : String) (guestSessionId : GuestSessionId) (delivery : RedisDelivery)
  | elapse (milliseconds : ℕ)

/-- What an attempt comes to; `refused` names the guest who has the name. -/
inductive NameAnswer
  | reserved
  | refused (holder : GuestSessionId)
  | profane
  | unavailable
  | done

/-- Both loops of `generate` after an attempt that found no name. -/
def NamePhase.next (attempt : ℕ) : NamePhase :=
  if attempt + 1 < candidateAttempts + fallbackAttempts then .attempting (attempt + 1) else .failed

namespace NameService

def setPhase (s : NameService) (index : ℕ) (call : NameCall) (phase : NamePhase) : NameService :=
  { s with calls := s.calls.set index { call with phase := phase } }

/-- `SET` with `EX` and `NX`, with the guest who has the name if it is refused. -/
def reserve (s : NameService) (displayName : String) (guestSessionId : GuestSessionId) :
    Option GuestSessionId × NameService :=
  match s.keys.get s.clock (nameKey displayName) with
  | some holder => (some holder,s)
  | none => (none,{ s with keys := s.keys.setPx s.clock (nameKey displayName) guestSessionId
                            (reservationSeconds*1000) })

def attempt (unicode : UnicodeFold) (s : NameService) (index : ℕ) (delivery : RedisDelivery) :
    NameAnswer × NameService :=
  match s.calls[index]? with
  | none => (.done,s)
  | some call =>
    match call.phase with
    | .attempting attempt =>
      let draw := call.draws attempt
      let displayName := draw.displayName attempt
      if containsProfanity unicode displayName then
        (.profane,s.setPhase index call (.next attempt))
      else
        let reserved := s.reserve displayName call.guestSessionId
        match delivery with
        | .unreached => (.unavailable,s.setPhase index call .failed)
        | .replyLost => (.unavailable,reserved.2.setPhase index call .failed)
        | .answered =>
          match reserved.1 with
          | some holder => (.refused holder,s.setPhase index call (.next attempt))
          | none =>
            (.reserved,reserved.2.setPhase index call (.holding (draw.identity attempt) s.clock))
    | _ => (.done,s)

def giveBack (key : String) (guestSessionId : GuestSessionId) (call : NameCall) : NameCall :=
  match call.phase with
  | .holding identity _ =>
    if nameKey identity.displayName = key ∧ call.guestSessionId = guestSessionId then
      { call with phase := .givenBack identity }
    else call
  | _ => call

/-- The script of `release`: a key is deleted if it holds the guest. -/
def release (s : NameService) (displayName : String) (guestSessionId : GuestSessionId) :
    NameService :=
  if s.keys.get s.clock (nameKey displayName) = some guestSessionId then
    { s with
      keys := s.keys.del (nameKey displayName)
      calls := s.calls.map (giveBack (nameKey displayName) guestSessionId) }
  else s

def step (unicode : UnicodeFold) (s : NameService) : NameEvent → NameAnswer × NameService
  | .generate guestSessionId draws =>
    (.done,{ s with calls := s.calls ++ [⟨guestSessionId,draws,.attempting 0⟩] })
  | .attempt index delivery => s.attempt unicode index delivery
  | .release displayName guestSessionId delivery =>
    match delivery with
    | .unreached => (.done,s)
    | _ => (.done,s.release displayName guestSessionId)
  | .elapse milliseconds => (.done,{ s with clock := s.clock + milliseconds })

end NameService

def names (unicode : UnicodeFold) : Machine NameService NameEvent NameAnswer :=
  ⟨NameService.step unicode⟩

/-- A call has been told its name, has not given it back, and its reservation has not expired. -/
def NameService.Holds (s : NameService) (call : NameCall) (identity : Identity) : Prop :=
  ∃ reservedAt, call.phase = .holding identity reservedAt ∧
    s.clock ≤ reservedAt + reservationSeconds*1000

section Steps

variable {unicode : UnicodeFold} {s : NameService} {index : ℕ} {delivery : RedisDelivery}
  {call : NameCall} {k : ℕ}

@[simp] theorem setPhase_clock (phase : NamePhase) :
    (s.setPhase index call phase).clock = s.clock := rfl

@[simp] theorem setPhase_keys (phase : NamePhase) :
    (s.setPhase index call phase).keys = s.keys := rfl

def NameService.withName (s : NameService) (displayName : String)
    (guestSessionId : GuestSessionId) : NameService :=
  { s with keys := s.keys.setPx s.clock (nameKey displayName) guestSessionId
                    (reservationSeconds*1000) }

/-- What a step does: no attempt is lost to the profanity filter. -/
inductive NameService.Stepped (s : NameService) : NameEvent → NameAnswer → NameService → Prop
  | idle (event : NameEvent) : s.Stepped event .done s
  | generate (guestSessionId : GuestSessionId) (draws : ℕ → IdentityDraw) :
      s.Stepped (.generate guestSessionId draws) .done
        { s with calls := s.calls ++ [⟨guestSessionId,draws,.attempting 0⟩] }
  | refused {index : ℕ} {delivery : RedisDelivery} {call : NameCall} {k : ℕ}
      {holder : GuestSessionId} (hcall : s.calls[index]? = some call)
      (hphase : call.phase = .attempting k)
      (hheld : s.keys.get s.clock (nameKey ((call.draws k).displayName k)) = some holder) :
      s.Stepped (.attempt index delivery) (.refused holder) (s.setPhase index call (.next k))
  | reserved {index : ℕ} {delivery : RedisDelivery} {call : NameCall} {k : ℕ}
      (hcall : s.calls[index]? = some call) (hphase : call.phase = .attempting k)
      (hfree : s.keys.get s.clock (nameKey ((call.draws k).displayName k)) = none) :
      s.Stepped (.attempt index delivery) .reserved
        ((s.withName ((call.draws k).displayName k) call.guestSessionId).setPhase index call
          (.holding ((call.draws k).identity k) s.clock))
  | unreached {index : ℕ} {delivery : RedisDelivery} {call : NameCall} {k : ℕ}
      (hcall : s.calls[index]? = some call) (hphase : call.phase = .attempting k) :
      s.Stepped (.attempt index delivery) .unavailable (s.setPhase index call .failed)
  | replyLost {index : ℕ} {delivery : RedisDelivery} {call : NameCall} {k : ℕ}
      (hcall : s.calls[index]? = some call) (hphase : call.phase = .attempting k)
      (hfree : s.keys.get s.clock (nameKey ((call.draws k).displayName k)) = none) :
      s.Stepped (.attempt index delivery) .unavailable
        ((s.withName ((call.draws k).displayName k) call.guestSessionId).setPhase index call
          .failed)
  | released {displayName : String} {guestSessionId : GuestSessionId} {delivery : RedisDelivery}
      (hheld : s.keys.get s.clock (nameKey displayName) = some guestSessionId) :
      s.Stepped (.release displayName guestSessionId delivery) .done
        { s with
          keys := s.keys.del (nameKey displayName)
          calls := s.calls.map (NameService.giveBack (nameKey displayName) guestSessionId) }
  | elapse (milliseconds : ℕ) :
      s.Stepped (.elapse milliseconds) .done { s with clock := s.clock + milliseconds }

theorem attempt_stepped (unicode : UnicodeFold) (s : NameService) (index : ℕ)
    (delivery : RedisDelivery) : s.Stepped (.attempt index delivery)
      (s.attempt unicode index delivery).1 (s.attempt unicode index delivery).2 := by
  unfold NameService.attempt
  cases hcall : s.calls[index]? with
  | none => exact .idle _
  | some call =>
    cases hphase : call.phase with
    | holding identity reservedAt =>
      simp only [hphase]
      exact .idle _
    | givenBack identity =>
      simp only [hphase]
      exact .idle _
    | failed =>
      simp only [hphase]
      exact .idle _
    | attempting k =>
      simp only [hphase,displayName_clean,Bool.false_eq_true,if_false,NameService.reserve]
      cases hheld : s.keys.get s.clock (nameKey ((call.draws k).displayName k)) with
      | none =>
        cases delivery with
        | answered => exact .reserved hcall hphase hheld
        | replyLost => exact .replyLost hcall hphase hheld
        | unreached => exact .unreached hcall hphase
      | some holder =>
        cases delivery with
        | answered => exact .refused hcall hphase hheld
        | replyLost => exact .unreached hcall hphase
        | unreached => exact .unreached hcall hphase

theorem names_stepped (unicode : UnicodeFold) (s : NameService) (event : NameEvent) :
    s.Stepped event (s.step unicode event).1 (s.step unicode event).2 := by
  cases event with
  | generate guestSessionId draws => exact .generate guestSessionId draws
  | attempt index delivery => exact attempt_stepped unicode s index delivery
  | elapse milliseconds => exact .elapse milliseconds
  | release displayName guestSessionId delivery =>
    have hrelease : s.Stepped (.release displayName guestSessionId delivery) .done
        (s.release displayName guestSessionId) := by
      unfold NameService.release
      split_ifs with hheld
      · exact .released hheld
      · exact .idle _
    cases delivery with
    | unreached => exact .idle _
    | answered => exact hrelease
    | replyLost => exact hrelease

end Steps

section Exclusive

variable {s s' : NameService} {event : NameEvent} {answer : NameAnswer} {i j : ℕ}
  {a b c : NameCall} {identity identity' : Identity} {t : Millis}

structure NameService.Sound (s : NameService) : Prop where
  stored : ∀ {i : ℕ} {c : NameCall} {identity : Identity} {t : Millis}, s.calls[i]? = some c →
    c.phase = .holding identity t → s.clock ≤ t + reservationSeconds*1000 →
      s.keys (nameKey identity.displayName) =
        some ⟨c.guestSessionId,some (t + reservationSeconds*1000)⟩
  apart : ∀ {i j : ℕ} {a b : NameCall} {identity identity' : Identity}, i ≠ j →
    s.calls[i]? = some a → s.calls[j]? = some b → s.Holds a identity → s.Holds b identity' →
      nameKey identity.displayName ≠ nameKey identity'.displayName

theorem failed_ne_holding (identity : Identity) (t : Millis) :
    NamePhase.failed ≠ .holding identity t := NamePhase.noConfusion

theorem next_ne_holding (k : ℕ) (identity : Identity) (t : Millis) :
    NamePhase.next k ≠ .holding identity t := by
  unfold NamePhase.next
  split_ifs
  · exact NamePhase.noConfusion
  · exact failed_ne_holding identity t

namespace NameService.Sound

theorem get (h : s.Sound) (hc : s.calls[i]? = some c) (hh : s.Holds c identity) :
    s.keys.get s.clock (nameKey identity.displayName) = some c.guestSessionId := by
  obtain ⟨t,hphase,hle⟩ := hh
  exact Keys.get_eq_some.mpr ⟨_,h.stored hc hphase hle,decide_eq_true hle,rfl⟩

/-- A step after which the calls hold no more than before, and find their names as they were. -/
theorem frame (h : s.Sound) (hclock : s.clock ≤ s'.clock)
    (hcalls : ∀ {i : ℕ} {c : NameCall} {identity : Identity} {t : Millis},
      s'.calls[i]? = some c → c.phase = .holding identity t → s.calls[i]? = some c)
    (hkeys : ∀ {i : ℕ} {c : NameCall} {identity : Identity}, s'.calls[i]? = some c →
      s.Holds c identity → s'.keys (nameKey identity.displayName) =
        s.keys (nameKey identity.displayName)) :
    s'.Sound := by
  constructor
  · intro i c identity t hc hphase hle
    have hold := hcalls hc hphase
    rw [hkeys hc ⟨t,hphase,hclock.trans hle⟩]
    exact h.stored hold hphase (hclock.trans hle)
  · rintro i j a b identity identity' hne ha hb ⟨t,hphase,hle⟩ ⟨t',hphase',hle'⟩
    exact h.apart hne (hcalls ha hphase) (hcalls hb hphase') ⟨t,hphase,hclock.trans hle⟩
      ⟨t',hphase',hclock.trans hle'⟩

theorem setPhase_holds {phase : NamePhase} (hphase : ∀ identity t, phase ≠ .holding identity t)
    (hc : (s.setPhase j b phase).calls[i]? = some c) (hh : c.phase = .holding identity t) :
    s.calls[i]? = some c := by
  unfold NameService.setPhase at hc
  rw [List.getElem?_set] at hc
  split_ifs at hc with hij hlt
  · cases hc
    exact absurd hh (hphase identity t)
  · exact hc

theorem withName_keys {displayName : String} (guest : GuestSessionId) (h : s.Sound)
    (hfree : s.keys.get s.clock (nameKey displayName) = none) (hc : s.calls[i]? = some c)
    (hh : s.Holds c identity) : nameKey identity.displayName ≠ nameKey displayName ∧
      (s.withName displayName guest).keys (nameKey identity.displayName) =
        s.keys (nameKey identity.displayName) := by
  have hne : nameKey identity.displayName ≠ nameKey displayName := by
    intro he
    rw [← he,h.get hc hh] at hfree
    cases hfree
  exact ⟨hne,Keys.setPx_of_ne hne _⟩

theorem reserved (h : s.Sound) {k : ℕ} (hcall : s.calls[j]? = some b)
    (hfree : s.keys.get s.clock (nameKey ((b.draws k).displayName k)) = none) :
    ((s.withName ((b.draws k).displayName k) b.guestSessionId).setPhase j b
      (.holding ((b.draws k).identity k) s.clock)).Sound := by
  have hcalls : ∀ {i : ℕ} {c : NameCall},
      ((s.withName ((b.draws k).displayName k) b.guestSessionId).setPhase j b
        (.holding ((b.draws k).identity k) s.clock)).calls[i]? = some c →
        i ≠ j ∧ s.calls[i]? = some c ∨
        i = j ∧ c = { b with phase := .holding ((b.draws k).identity k) s.clock } := by
    intro i c hc
    change (s.calls.set j _)[i]? = some c at hc
    rw [List.getElem?_set] at hc
    split_ifs at hc with hij hlt
    · cases hc
      exact Or.inr ⟨hij.symm,rfl⟩
    · exact Or.inl ⟨fun he => hij he.symm,hc⟩
  constructor
  · intro i c identity t hc hphase hle
    rcases hcalls hc with ⟨_,hold⟩ | ⟨rfl,rfl⟩
    · have hkeys := (h.withName_keys b.guestSessionId hfree hold ⟨t,hphase,hle⟩).2
      exact hkeys.trans (h.stored hold hphase hle)
    · cases hphase
      exact Keys.setPx_self _
  · intro i i' a a' identity identity' hne ha ha' hh hh'
    rcases hcalls ha with ⟨_,hold⟩ | ⟨rfl,rfl⟩
    · rcases hcalls ha' with ⟨_,hold'⟩ | ⟨rfl,rfl⟩
      · exact h.apart hne hold hold' hh hh'
      · obtain ⟨t,hphase,_⟩ := hh'
        cases hphase
        exact (h.withName_keys b.guestSessionId hfree hold hh).1
    · rcases hcalls ha' with ⟨_,hold'⟩ | ⟨rfl,rfl⟩
      · obtain ⟨t,hphase,_⟩ := hh
        cases hphase
        exact (h.withName_keys b.guestSessionId hfree hold' hh').1.symm
      · exact absurd rfl hne

theorem released (h : s.Sound) {displayName : String} {guest : GuestSessionId}
    (hheld : s.keys.get s.clock (nameKey displayName) = some guest) :
    NameService.Sound { s with
      keys := s.keys.del (nameKey displayName)
      calls := s.calls.map (NameService.giveBack (nameKey displayName) guest) } := by
  have hcalls : ∀ {i : ℕ} {c : NameCall} {identity : Identity} {t : Millis},
      (s.calls.map (NameService.giveBack (nameKey displayName) guest))[i]? = some c →
      c.phase = .holding identity t → s.calls[i]? = some c ∧
        ¬ (nameKey identity.displayName = nameKey displayName ∧ c.guestSessionId = guest) := by
    intro i c identity t hc hphase
    rw [List.getElem?_map] at hc
    obtain ⟨c',hc',rfl⟩ := Option.map_eq_some_iff.mp hc
    unfold NameService.giveBack at hphase ⊢
    cases hphase' : c'.phase with
    | holding identity' t' =>
      simp only [hphase'] at hphase ⊢
      split_ifs at hphase ⊢ with hgiven
      rw [hphase'] at hphase
      cases hphase
      exact ⟨hc',hgiven⟩
    | _ =>
      simp only [hphase'] at hphase
      cases hphase
  refine h.frame le_rfl (fun hc hphase => (hcalls hc hphase).1) ?_
  rintro i c identity hc ⟨t,hphase,hle⟩
  obtain ⟨hold,hnot⟩ := hcalls hc hphase
  refine Keys.del_of_ne fun he => hnot ⟨he,?_⟩
  have hget := h.get hold ⟨t,hphase,hle⟩
  rw [he,hheld] at hget
  exact (Option.some.inj hget).symm

end NameService.Sound

theorem NameService.Stepped.sound (h : s.Stepped event answer s') (hs : s.Sound) : s'.Sound := by
  cases h with
  | idle => exact hs
  | generate guestSessionId draws =>
    refine hs.frame le_rfl ?_ fun _ _ => rfl
    intro i c identity t hc hphase
    rw [List.getElem?_append] at hc
    split_ifs at hc
    · exact hc
    · rw [List.getElem?_singleton] at hc
      split_ifs at hc
      cases hc
      cases hphase
  | refused =>
    exact hs.frame le_rfl (fun hc hh => Sound.setPhase_holds (next_ne_holding _) hc hh)
      fun _ _ => rfl
  | reserved hcall _ hfree => exact hs.reserved hcall hfree
  | unreached =>
    exact hs.frame le_rfl (fun hc hh => Sound.setPhase_holds failed_ne_holding hc hh)
      fun _ _ => rfl
  | replyLost hcall _ hfree =>
    refine hs.frame le_rfl (fun hc hh => Sound.setPhase_holds failed_ne_holding hc hh) ?_
    rintro i c identity hc hh
    obtain ⟨t,hphase,_⟩ := id hh
    have hold := Sound.setPhase_holds failed_ne_holding hc hphase
    exact (hs.withName_keys _ hfree hold hh).2
  | released hheld => exact hs.released hheld
  | elapse milliseconds =>
    exact hs.frame (by simp) (fun hc _ => hc) fun _ _ => rfl

theorem NameService.sound_run (unicode : UnicodeFold) (keys : Keys String GuestSessionId)
    (clock : Millis) (events : List NameEvent) :
    ((names unicode).run ⟨keys,clock,[]⟩ events).Sound := by
  have hstable : (names unicode).Stable NameService.Sound := fun s event hs =>
    (names_stepped unicode s event).sound hs
  exact hstable.run ⟨fun hc => by simp at hc,fun _ hc => by simp at hc⟩ events

/-- Each name that a call counts on is reserved for its guest, and no two calls count on names
that are the same but for the letter case. -/
structure NameService.Exclusive (s : NameService) : Prop where
  reserved : ∀ call ∈ s.calls, ∀ identity, s.Holds call identity →
    s.keys.get s.clock (nameKey identity.displayName) = some call.guestSessionId
  apart : s.calls.Pairwise fun a b => ∀ identity identity', s.Holds a identity →
    s.Holds b identity' → nameKey identity.displayName ≠ nameKey identity'.displayName

/-- However the attempts of any number of calls, the releases and the clock interleave, and
whatever commands and replies are lost on the way. -/
theorem reserved_names_exclusive (unicode : UnicodeFold) (keys : Keys String GuestSessionId)
    (clock : Millis) (events : List NameEvent) :
    ((names unicode).run ⟨keys,clock,[]⟩ events).Exclusive := by
  have hs := NameService.sound_run unicode keys clock events
  constructor
  · intro call hcall identity hh
    obtain ⟨i,hi⟩ := List.mem_iff_getElem?.mp hcall
    exact hs.get hi hh
  · rw [List.pairwise_iff_getElem]
    intro i j hi hj hlt identity identity' hh hh'
    exact hs.apart hlt.ne (List.getElem?_eq_getElem hi) (List.getElem?_eq_getElem hj) hh hh'

end Exclusive

section Sample

def sampleDraws (attempt : ℕ) : IdentityDraw where
  adjective := ⟨0,by decide⟩
  noun := ⟨0,by decide⟩
  digits _ := Fin.ofNat 10 attempt
  bytes _ := 0
  avatar := ⟨0,by decide⟩

/-- Two guests draw the same names. -/
def sampleNameEvents : List NameEvent :=
  [.generate (sampleId 1) sampleDraws,.generate (sampleId 2) sampleDraws,.attempt 0 .answered,
    .attempt 1 .answered,.attempt 1 .answered]

def NameCall.told (call : NameCall) : Option String :=
  match call.phase with
  | .holding identity _ => some identity.displayName
  | _ => none

theorem reserved_names_exclusive_sample :
    let s := (names asciiFold).run ⟨.empty,0,[]⟩ sampleNameEvents
    s.calls.map NameCall.told = [some "AgileBeacon00",some "AgileBeacon11"] ∧ s.Exclusive :=
  ⟨by decide +kernel,reserved_names_exclusive asciiFold .empty 0 sampleNameEvents⟩

end Sample

section Outcomes

variable {unicode : UnicodeFold} {s s' : NameService} {event : NameEvent} {answer : NameAnswer}
  {index : ℕ} {call : NameCall} {k : ℕ}

abbrev NameStep := Machine.Event NameService NameEvent NameAnswer

def NameStep.refuses (index : ℕ) (e : NameStep) : Bool :=
  match e.input,e.answer with
  | .attempt i _,.refused _ => decide (i = index)
  | _,_ => false

def NameStep.fails (index : ℕ) (e : NameStep) : Bool :=
  match e.input,e.answer with
  | .attempt i _,.unavailable => decide (i = index)
  | _,_ => false

def refusals (index : ℕ) (history : List NameStep) : ℕ := history.countP (NameStep.refuses index)

/-- What a call has come to after a history of the service. -/
def NameCall.Accounted (history : List NameStep) (index : ℕ) (call : NameCall) : Prop :=
  match call.phase with
  | .attempting k => k < candidateAttempts + fallbackAttempts ∧ refusals index history = k
  | .holding identity _ | .givenBack identity =>
    identity = (call.draws (refusals index history)).identity (refusals index history) ∧
      identitySchema identity = true
  | .failed => refusals index history = candidateAttempts + fallbackAttempts ∨
    ∃ e ∈ history, e.fails index = true

/-- A refused attempt has found its name reserved. -/
def NameStep.Justified (e : NameStep) : Prop :=
  match e.answer with
  | .profane => False
  | .refused holder => ∃ index call k, e.before.calls[index]? = some call ∧
      call.phase = .attempting k ∧ e.refuses index = true ∧
      e.before.keys.get e.before.clock (nameKey ((call.draws k).displayName k)) = some holder
  | _ => True

theorem NameService.Stepped.justified (h : s.Stepped event answer s') :
    NameStep.Justified ⟨s,event,answer,s'⟩ := by
  cases h with
  | refused hcall hphase hheld => exact ⟨_,_,_,hcall,hphase,decide_eq_true rfl,hheld⟩
  | _ => trivial

theorem refusals_snoc (index : ℕ) (history : List NameStep) (e : NameStep) :
    refusals index (history ++ [e]) =
      refusals index history + if e.refuses index = true then 1 else 0 := by
  unfold refusals
  rw [List.countP_append,List.countP_singleton]

theorem NameCall.Accounted.snoc {history : List NameStep} {e : NameStep}
    (h : call.Accounted history index) (he : e.refuses index = false) :
    call.Accounted (history ++ [e]) index := by
  have hcount : refusals index (history ++ [e]) = refusals index history := by
    rw [refusals_snoc,he]
    rfl
  unfold NameCall.Accounted at h ⊢
  rw [hcount]
  split at h
  · exact h
  · exact h
  · exact h
  · rcases h with h | ⟨e',he',hf⟩
    · exact Or.inl h
    · exact Or.inr ⟨e',List.mem_append_left _ he',hf⟩

/-- The accounts of every call, and of the calls that have not begun. -/
structure NameService.Accounts (history : List NameStep) (s : NameService) : Prop where
  calls : ∀ {index : ℕ} {call : NameCall}, s.calls[index]? = some call →
    call.Accounted history index
  fresh : ∀ index, s.calls.length ≤ index → refusals index history = 0

theorem NameService.Accounts.snoc {history : List NameStep} {e : NameStep}
    (h : s.Accounts history) {j : ℕ} (hother : ∀ i, i ≠ j → e.refuses i = false)
    (hcalls : ∀ {i : ℕ} {c : NameCall}, s'.calls[i]? = some c → i ≠ j → s.calls[i]? = some c)
    (hlength : s'.calls.length = s.calls.length)
    (hown : ∀ {c : NameCall}, s'.calls[j]? = some c → c.Accounted (history ++ [e]) j)
    (hfresh : s.calls.length ≤ j → e.refuses j = false) : s'.Accounts (history ++ [e]) := by
  constructor
  · intro i c hc
    by_cases hij : i = j
    · subst hij
      exact hown hc
    · exact (h.calls (hcalls hc hij)).snoc (hother i hij)
  · intro i hi
    rw [hlength] at hi
    have he : e.refuses i = false := by
      by_cases hij : i = j
      · exact hij ▸ hfresh (hij ▸ hi)
      · exact hother i hij
    rw [refusals_snoc,h.fresh i hi,he]
    rfl

theorem setPhase_calls {phase : NamePhase} {j i : ℕ} {c : NameCall}
    (hc : (s.setPhase j call phase).calls[i]? = some c) :
    i ≠ j ∧ s.calls[i]? = some c ∨ i = j ∧ c = { call with phase := phase } := by
  unfold NameService.setPhase at hc
  rw [List.getElem?_set] at hc
  split_ifs at hc with hij
  · exact Or.inr ⟨hij.symm,(Option.some.inj hc).symm⟩
  · exact Or.inl ⟨fun he => hij he.symm,hc⟩

theorem NameService.Accounts.turn {history : List NameStep} {e : NameStep}
    (h : s.Accounts history) {j : ℕ} {phase : NamePhase} (hcall : s.calls[j]? = some call)
    (hother : ∀ i, i ≠ j → e.refuses i = false)
    (hs' : s'.calls = (s.setPhase j call phase).calls)
    (hphase : ({ call with phase := phase } : NameCall).Accounted (history ++ [e]) j) :
    s'.Accounts (history ++ [e]) := by
  have hlt := (List.getElem?_eq_some_iff.mp hcall).1
  refine h.snoc hother ?_ ?_ ?_ fun hle => absurd hlt (Nat.not_lt.mpr hle)
  · intro i c hc hij
    rw [hs'] at hc
    rcases setPhase_calls hc with ⟨_,hc⟩ | ⟨he,_⟩
    · exact hc
    · exact absurd he hij
  · rw [hs']
    exact List.length_set
  · intro c hc
    rw [hs'] at hc
    rcases setPhase_calls hc with ⟨hne,_⟩ | ⟨_,rfl⟩
    · exact absurd rfl hne
    · exact hphase

theorem giveBack_accounted {history : List NameStep} {key : String} {guest : GuestSessionId}
    (h : call.Accounted history index) :
    (NameService.giveBack key guest call).Accounted history index := by
  unfold NameService.giveBack
  split
  · rename_i identity t hphase
    split_ifs
    · unfold NameCall.Accounted at h ⊢
      rw [hphase] at h
      exact h
    · exact h
  · exact h

theorem NameService.Stepped.accounts {history : List NameStep} (h : s.Stepped event answer s')
    (hs : s.Accounts history) : s'.Accounts (history ++ [⟨s,event,answer,s'⟩]) := by
  have hquiet : ∀ {answer : NameAnswer} {event : NameEvent} {s' : NameService} {i : ℕ},
      (∀ holder, answer ≠ .refused holder) →
        NameStep.refuses i ⟨s,event,answer,s'⟩ = false := by
    intro answer event s' i hn
    unfold NameStep.refuses
    split
    · rename_i hanswer
      exact absurd hanswer (hn _)
    · rfl
  have hkeep : ∀ {answer : NameAnswer} {event : NameEvent} {s' : NameService},
      (∀ holder, answer ≠ .refused holder) → s'.calls = s.calls →
        s'.Accounts (history ++ [⟨s,event,answer,s'⟩]) := by
    intro answer event s' hn hcalls
    refine ⟨fun hc => ?_,fun i hi => ?_⟩
    · rw [hcalls] at hc
      exact (hs.calls hc).snoc (hquiet hn)
    · rw [refusals_snoc,hs.fresh i (hcalls ▸ hi),hquiet hn]
      rfl
  cases h with
  | idle => exact hkeep (fun _ => NameAnswer.noConfusion) rfl
  | elapse milliseconds => exact hkeep (fun _ => NameAnswer.noConfusion) rfl
  | generate guestSessionId draws =>
    refine ⟨fun {i c} hc => ?_,fun i hi => ?_⟩
    · rw [List.getElem?_append] at hc
      split_ifs at hc with hlt
      · exact (hs.calls hc).snoc (hquiet fun _ => NameAnswer.noConfusion)
      · rw [List.getElem?_singleton] at hc
        split_ifs at hc
        cases hc
        refine ⟨Nat.succ_pos _,?_⟩
        rw [refusals_snoc,hs.fresh i (Nat.not_lt.mp hlt),hquiet fun _ => NameAnswer.noConfusion]
        rfl
    · rw [List.length_append] at hi
      rw [refusals_snoc,hs.fresh i (by omega),hquiet fun _ => NameAnswer.noConfusion]
      rfl
  | @refused j delivery call k holder hcall hphase hheld =>
    obtain ⟨hk,hcount⟩ : k < candidateAttempts + fallbackAttempts ∧ refusals j history = k := by
      have hcall := hs.calls hcall
      unfold NameCall.Accounted at hcall
      rwa [hphase] at hcall
    refine hs.turn hcall (fun i hi => decide_eq_false fun he => hi he.symm) rfl ?_
    have hnext : refusals j (history ++ [⟨s,.attempt j delivery,.refused holder,
        s.setPhase j call (.next k)⟩]) = k + 1 := by
      have hrefuses : NameStep.refuses j ⟨s,.attempt j delivery,.refused holder,
          s.setPhase j call (.next k)⟩ = true := decide_eq_true rfl
      rw [refusals_snoc,hcount,if_pos hrefuses]
    by_cases hlt : k + 1 < candidateAttempts + fallbackAttempts
    · have hphase : NamePhase.next k = .attempting (k + 1) := if_pos hlt
      rw [hphase] at hnext ⊢
      exact ⟨hlt,hnext⟩
    · have hphase : NamePhase.next k = .failed := if_neg hlt
      rw [hphase] at hnext ⊢
      exact Or.inl (by omega)
  | @reserved j delivery call k hcall hphase hfree =>
    have hcount : refusals j history = k := by
      have hcall := hs.calls hcall
      unfold NameCall.Accounted at hcall
      rw [hphase] at hcall
      exact hcall.2
    refine hs.turn hcall (fun _ _ => hquiet fun _ => NameAnswer.noConfusion) rfl ?_
    unfold NameCall.Accounted
    simp only
    rw [refusals_snoc,hcount,hquiet fun _ => NameAnswer.noConfusion]
    exact ⟨rfl,identity_valid _ _⟩
  | unreached hcall hphase =>
    exact hs.turn hcall (fun _ _ => hquiet fun _ => NameAnswer.noConfusion) rfl
      (Or.inr ⟨_,List.mem_append_right _ List.mem_cons_self,decide_eq_true rfl⟩)
  | replyLost hcall hphase hfree =>
    exact hs.turn hcall (fun _ _ => hquiet fun _ => NameAnswer.noConfusion) rfl
      (Or.inr ⟨_,List.mem_append_right _ List.mem_cons_self,decide_eq_true rfl⟩)
  | @released displayName guest delivery hheld =>
    refine ⟨fun {i c} hc => ?_,fun i hi => ?_⟩
    · change (s.calls.map _)[i]? = some c at hc
      rw [List.getElem?_map] at hc
      obtain ⟨c',hc',rfl⟩ := Option.map_eq_some_iff.mp hc
      exact giveBack_accounted ((hs.calls hc').snoc (hquiet fun _ => NameAnswer.noConfusion))
    · change (s.calls.map _).length ≤ i at hi
      rw [List.length_map] at hi
      rw [refusals_snoc,hs.fresh i hi,hquiet fun _ => NameAnswer.noConfusion]
      rfl

/-- No attempt is lost to the profanity filter, and a refused one has found its name reserved.
A call of `generate` returns the identity of its first draw that is not refused, which can be
shown to clients; it throws only after a failure of Redis or sixteen refusals. -/
theorem generation_accounted (unicode : UnicodeFold) (keys : Keys String GuestSessionId)
    (clock : Millis) (events : List NameEvent) :
    (∀ e ∈ (names unicode).events ⟨keys,clock,[]⟩ events, NameStep.Justified e) ∧
      ((names unicode).run ⟨keys,clock,[]⟩ events).Accounts
        ((names unicode).events ⟨keys,clock,[]⟩ events) := by
  constructor
  · intro e he
    rw [(names unicode).mem_events_eq he]
    exact (names_stepped unicode e.before e.input).justified
  · induction events using List.reverseRecOn with
    | nil => exact ⟨fun hc => by simp at hc,fun _ _ => rfl⟩
    | append_singleton events event ih =>
      rw [Machine.run_append,Machine.events_append]
      exact (names_stepped unicode _ event).accounts ih

theorem generation_accounted_sample :
    let history := (names asciiFold).events ⟨.empty,0,[]⟩ sampleNameEvents
    refusals 1 history = 1 ∧ (∀ e ∈ history, NameStep.Justified e) ∧
      ((names asciiFold).run ⟨.empty,0,[]⟩ sampleNameEvents).Accounts history :=
  ⟨by decide +kernel,generation_accounted asciiFold .empty 0 sampleNameEvents⟩

end Outcomes
end CluChess
