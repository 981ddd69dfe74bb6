import CluChess.GraceMarks
import CluChess.Presence
import CluChess.ProcessPool

/-! The sockets of the guests of a running game. A handler of `realtime.gateway.ts` changes the
presence in Redis and later, in a step of its own, the disconnect mark in PostgreSQL. Handlers
interleave freely with each other and with the other transactions. -/
namespace CluChess

/-- A handler whose presence script has run: `initializeSocket` will report the guest back,
`cleanUpSocket` will report that the last socket of the guest is gone. -/
inductive SocketHandler
  | reconnected (guest : GuestSessionId)
  | finallyDisconnected (guest : GuestSessionId)
  deriving DecidableEq

namespace SocketHandler

def guest : SocketHandler → GuestSessionId
  | .reconnected guest => guest
  | .finallyDisconnected guest => guest

def mark : SocketHandler → Bool
  | .reconnected _ => false
  | .finallyDisconnected _ => true

/-- The handler that leaves this mark. -/
def marking (guest : GuestSessionId) : Bool → SocketHandler
  | false => .reconnected guest
  | true => .finallyDisconnected guest

@[simp] theorem guest_marking (guest : GuestSessionId) (b : Bool) :
    (marking guest b).guest = guest := by cases b <;> rfl

@[simp] theorem mark_marking (guest : GuestSessionId) (b : Bool) :
    (marking guest b).mark = b := by cases b <;> rfl

inductive Commits (config : AppConfig) : SocketHandler → Stores → Stores →
    Multiset SocketHandler → Prop
  | markReconnected {s : Stores} {guest : GuestSessionId} {observation : Micros}
      {answer : Option PlayerReconnected} {db : Db}
      (h : s.db.markReconnected guest (s.db.assignedGame guest) observation = (.ok answer,db)) :
      Commits config (.reconnected guest) s { s with db := db } 0
  | markDisconnected {s : Stores} {guest : GuestSessionId} {observation : Micros}
      {answer : Option PlayerDisconnected} {db : Db}
      (h : s.db.markDisconnected guest (s.db.assignedGame guest) config.graceMs observation =
        (.ok answer,db)) :
      Commits config (.finallyDisconnected guest) s { s with db := db } 0

end SocketHandler

/-- What happens besides: sockets open and close, time passes without an entry of the presence
expiring, and other transactions commit. -/
inductive SocketEvent (chess : ChessEngine) (config : AppConfig) : Stores → Stores →
    Multiset SocketHandler → Prop
  | markConnected {s : Stores} {guest : GuestSessionId} {socket : SocketMember} {now : Millis}
      (h : s.redis.Unexpired guest now) :
      SocketEvent chess config s
        { s with redis := (s.redis.refresh config guest socket now).2 } {.reconnected guest}
  | remove {s : Stores} {guest : GuestSessionId} {socket : SocketMember} {now : Millis}
      (h : s.redis.Unexpired guest now) :
      SocketEvent chess config s { s with redis := (s.redis.remove guest socket now).2 }
        (if (s.redis.remove guest socket now).1 = 0 then {.finallyDisconnected guest} else 0)
  | elapse {s : Stores} {clock : Millis}
      (h : ∀ guest, ({ s.redis with clock := clock } : Redis).members guest =
        s.redis.members guest) :
      SocketEvent chess config s { s with redis := { s.redis with clock := clock } } 0
  | operation {s : Stores} {op : Operation} (h : op.isGrace = false) :
      SocketEvent chess config s { s with db := (execute chess s.db op).2 } 0

def sockets (chess : ChessEngine) (config : AppConfig) : System Stores SocketHandler where
  env := SocketEvent chess config
  step := SocketHandler.Commits config

/-- The mark of a guest contradicts the presence. -/
def Stores.Wrong (id : GameId) (x : GuestSessionId × Bool) (s : Stores) : Prop :=
  s.db.mark id x.1 = some x.2 ∧ (s.redis.Present x.1 ↔ x.2 = true)

def SocketHandler.Corrects (x : GuestSessionId × Bool) (t : SocketHandler) : Prop :=
  t = .marking x.1 (!x.2)

def Stores.Agrees (id : GameId) (s : Stores) : Prop :=
  ∀ g, s.db.games.find id = some g → g.status.started = true → ∀ p ∈ g.players,
    (p.disconnectedAt ≠ none ↔ ¬ s.redis.Present p.guestSessionId)

/-- A handler of a player commits while the presence is as its script left it, or while a
handler that says the opposite has still to run. -/
def Timely (id : GameId) (t : SocketHandler) (s : Stores) (pool : Multiset SocketHandler) :
    Prop :=
  s.db.mark id t.guest ≠ none →
    (¬ s.redis.Present t.guest ↔ t.mark = true) ∨ .marking t.guest (!t.mark) ∈ pool

def Stores.Sound (id : GameId) (s : Stores) : Prop := s.db.Sound ∧ Underway id s.db

variable {chess : ChessEngine} {config : AppConfig} {id : GameId} {s s' : Stores}
  {new : Multiset SocketHandler}

section Rows

theorem PersistedGame.Sound.playerFor_of_mem {g : PersistedGame} (h : g.Sound) {p : GamePlayer}
    (hp : p ∈ g.players) : g.playerFor p.guestSessionId = some p := by
  obtain ⟨p₀,p₁,hpair,_,_,_,_,hne⟩ := h.pair
  rw [hpair] at hp
  simp only [List.mem_cons,List.not_mem_nil,or_false] at hp
  rcases hp with rfl | rfl <;> simp [PersistedGame.playerFor,hpair,hne]

theorem Db.mark_eq_some {db : Db} {guest : GuestSessionId} {b : Bool} :
    db.mark id guest = some b ↔ ∃ g p, db.games.find id = some g ∧ g.status.started = true ∧
      g.playerFor guest = some p ∧ p.disconnectedAt.isSome = b := by
  unfold Db.mark
  rw [Option.bind_eq_some_iff]
  constructor
  · rintro ⟨g,hg,hm⟩
    unfold PersistedGame.mark at hm
    split_ifs at hm with hs
    obtain ⟨p,hp,hb⟩ := Option.map_eq_some_iff.mp hm
    exact ⟨g,p,hg,hs,hp,hb⟩
  · rintro ⟨g,p,hg,hs,hp,rfl⟩
    exact ⟨g,hg,by rw [PersistedGame.mark_of_started hs,hp]; rfl⟩

theorem Stores.agrees_iff (h : s.db.Sound) : s.Agrees id ↔ ∀ x, ¬ s.Wrong id x := by
  constructor
  · rintro ha ⟨guest,b⟩ ⟨hm,hw⟩
    obtain ⟨g,p,hg,hs,hp,rfl⟩ := Db.mark_eq_some.mp hm
    obtain ⟨hmem,rfl⟩ := playerFor_mem hp
    have hagree := ha g hg hs p hmem
    rw [← Option.isSome_iff_ne_none,← hw] at hagree
    exact iff_not_self hagree
  · intro hw g hg hs p hp
    have hm : s.db.mark id p.guestSessionId = some p.disconnectedAt.isSome :=
      Db.mark_eq_some.mpr ⟨g,p,hg,hs,(h.games id g hg).playerFor_of_mem hp,rfl⟩
    have hright := hw (p.guestSessionId,p.disconnectedAt.isSome)
    rw [← Option.isSome_iff_ne_none]
    by_cases hpresent : s.redis.Present p.guestSessionId
    · refine ⟨fun hd => absurd ⟨hm,fun _ => hd,fun _ => hpresent⟩ hright,?_⟩
      exact fun hn => absurd hpresent hn
    · refine ⟨fun _ => hpresent,fun _ => ?_⟩
      by_contra hd
      exact hright ⟨hm,fun hp' => absurd hp' hpresent,fun hd' => absurd hd' hd⟩

end Rows

section Steps

theorem SocketEvent.sound (h : SocketEvent chess config s s' new) (hs : s.Sound id) :
    s'.Sound id := by
  cases h with
  | @operation op hop =>
    have hchange := execute_change chess s.db op
    exact ⟨hchange.sound hs.1,hchange.underway hs.2⟩
  | _ => exact hs

theorem SocketHandler.Commits.sound (chess : ChessEngine) {t : SocketHandler}
    (h : t.Commits config s s' new) (hs : s.Sound id) : s'.Sound id := by
  have hchange : DbChange chess s.db s'.db := by
    cases h with
    | @markReconnected _ guest observation _ _ h =>
      have hc := execute_change chess s.db
        (.markReconnected guest (s.db.assignedGame guest) observation)
      rwa [execute,h] at hc
    | @markDisconnected _ guest observation _ _ h =>
      have hc := execute_change chess s.db
        (.markDisconnected guest (s.db.assignedGame guest) config.graceMs observation)
      rwa [execute,h] at hc
  exact ⟨hchange.sound hs.1,hchange.underway hs.2⟩

/-- What contradicts the presence after an event did so before, or the event has started the
handler that will correct it. -/
theorem SocketEvent.covers (h : SocketEvent chess config s s' new) (hs : s.Sound id)
    (x : GuestSessionId × Bool) (hx : s'.Wrong id x) :
    s.Wrong id x ∨ ∃ t ∈ new, SocketHandler.Corrects x t := by
  obtain ⟨guest,b⟩ := x
  obtain ⟨hm,hw⟩ := hx
  cases h with
  | @markConnected g socket now h =>
    by_cases hg : guest = g
    · subst hg
      right
      have hb : b = true := hw.mp Redis.Present.refresh
      subst hb
      exact ⟨_,Multiset.mem_singleton_self _,rfl⟩
    · exact Or.inl ⟨hm,(Redis.present_refresh_of_ne hg).symm.trans hw⟩
  | @remove g socket now h =>
    by_cases hg : guest = g
    · subst hg
      by_cases hcount : (s.redis.remove guest socket now).1 = 0
      · right
        have hb : b = false := by
          rw [← Bool.not_eq_true]
          exact fun hb => Redis.present_remove_iff.mp (hw.mpr hb) hcount
        subst hb
        exact ⟨_,by rw [if_pos hcount]; exact Multiset.mem_singleton_self _,rfl⟩
      · left
        have hpresent := Redis.present_remove_iff.mpr hcount
        have hb : b = true := hw.mp hpresent
        exact ⟨hm,fun _ => hb,fun _ => hpresent.of_remove h⟩
    · exact Or.inl ⟨hm,(Redis.present_remove_of_ne hg).symm.trans hw⟩
  | @elapse clock h =>
    have hsame : s.redis.Present guest ↔
        ({ s.redis with clock := clock } : Redis).Present guest := by
      unfold Redis.Present
      rw [h guest]
    exact Or.inl ⟨hm,hsame.trans hw⟩
  | @operation op hop =>
    left
    have hkeeps : s.db.KeepsMark id guest (execute chess s.db op).2 :=
      execute_keepsMark chess hs.2 hop
    rcases hkeeps with hkeep | hnone
    · exact ⟨hkeep ▸ hm,hw⟩
    · cases hnone.symm.trans hm

theorem SocketHandler.Commits.setsMark (chess : ChessEngine) {t : SocketHandler}
    (h : t.Commits config s s' new) (hs : s.Sound id) :
    s.db.SetsMark id t.guest t.mark s'.db ∧ s'.redis = s.redis ∧ new = 0 := by
  cases h with
  | markReconnected h => exact ⟨markReconnected_mark chess hs.1 h,rfl,rfl⟩
  | markDisconnected h => exact ⟨markDisconnected_mark chess hs.1 hs.2 h,rfl,rfl⟩

/-- What contradicts the presence after a timely handler did so before and was not this
handler's to correct, or the opposite handler has still to run. -/
theorem SocketHandler.Commits.covers (chess : ChessEngine) {t : SocketHandler}
    {pool : Multiset SocketHandler} (h : t.Commits config s s' new) (ht : Timely id t s pool)
    (hs : s.Sound id) (x : GuestSessionId × Bool) (hx : s'.Wrong id x) :
    (s.Wrong id x ∧ ¬ Corrects x t) ∨ ∃ t' ∈ new + pool, Corrects x t' := by
  obtain ⟨guest,b⟩ := x
  obtain ⟨hm,hw⟩ := hx
  obtain ⟨hmark,hredis,rfl⟩ := h.setsMark chess hs
  rw [hmark guest] at hm
  rw [hredis] at hw
  split_ifs at hm with hg
  · subst hg
    obtain ⟨c,hc,rfl⟩ := Option.map_eq_some_iff.mp hm
    rcases ht (by rw [hc]; simp) with hpresent | hpool
    · exact absurd (hpresent.trans hw.symm) not_iff_self
    · exact Or.inr ⟨_,Multiset.mem_add.mpr (Or.inr hpool),rfl⟩
  · refine Or.inl ⟨⟨hm,hw⟩,fun he => hg ?_⟩
    have hguest := congrArg SocketHandler.guest he
    simpa using hguest.symm

end Steps

/-- Once the handlers of all sockets have run, each player of the running game is marked as
disconnected exactly if no connection of the player is left, provided that every handler was
timely. Then no game is left `RECONNECTING` while its players are present. -/
theorem marks_agree_with_presence (chess : ChessEngine) (config : AppConfig)
    (hs : s.db.Reachable chess) (hu : Underway id s.db) (ha : s.Agrees id)
    (h : (sockets chess config).Run (Timely id) (s,0) (s',0)) :
    s'.Agrees id ∧ ∀ g, s'.db.games.find id = some g → g.status = .reconnecting →
      ∃ p ∈ g.players, ¬ s'.redis.Present p.guestSessionId := by
  have henv : (sockets chess config).EnvCovers (fun s _ => s.Sound id) (Stores.Wrong id)
      SocketHandler.Corrects := fun _ _ _ _ he hi x hx => SocketEvent.covers he hi x hx
  have hstep : (sockets chess config).StepCovers (Timely id) (fun s _ => s.Sound id)
      (Stores.Wrong id) SocketHandler.Corrects :=
    fun _ _ _ _ _ hp ht hi x hx => SocketHandler.Commits.covers chess hp ht hi x hx
  have hcovered := h.covered (fun _ _ _ _ he => SocketEvent.sound he)
    (fun _ _ _ _ _ hp _ => SocketHandler.Commits.sound chess hp) henv hstep ⟨hs.sound,hu⟩
    fun x hx => absurd hx ((Stores.agrees_iff hs.sound).mp ha x)
  obtain ⟨⟨hsound,_⟩,hcov⟩ := hcovered
  have hagrees : s'.Agrees id := (Stores.agrees_iff hsound).mpr hcov.quiescent
  refine ⟨hagrees,fun g hg hr => ?_⟩
  obtain ⟨p,hp,hd⟩ := (hsound.games id g hg).grace.reconnecting.mp hr
  have hstarted : g.status.started = true := by rw [hr]; rfl
  exact ⟨p,hp,(hagrees g hg hstarted p hp).mp (Option.isSome_iff_ne_none.mp hd)⟩

section Sample

/-! A started game of two guests with one socket each. -/

def sampleConnected : Stores where
  db := sampleRun sampleStart
  redis :=
    let r := ((Redis.initial 1000).refresh sampleConfig (sampleId 1) "a:1" 1000).2
    (r.refresh sampleConfig (sampleId 2) "a:2" 1000).2

def sampleClosed : Stores :=
  { sampleConnected with redis := (sampleConnected.redis.remove (sampleId 1) "a:1" 6000).2 }

def sampleGone : Stores :=
  { sampleClosed with
    db := (sampleClosed.db.markDisconnected (sampleId 1) (some (sampleId 10)) 30000 6000000).2 }

def Stores.reopen (s : Stores) : Stores :=
  { s with redis := (s.redis.refresh sampleConfig (sampleId 1) "a:3" 7000).2 }

def sampleBack : Stores :=
  { sampleGone.reopen with
    db := (sampleGone.reopen.db.markReconnected (sampleId 1) (some (sampleId 10)) 8000000).2 }

/-- The reconnect of the new socket overtakes the disconnect of the old one. -/
def sampleStuck : Stores :=
  { sampleClosed.reopen with
    db := (sampleClosed.reopen.db.markDisconnected (sampleId 1) (some (sampleId 10)) 30000
      8000000).2 }

theorem sampleConnected_reachable : sampleConnected.db.Reachable sampleEngine :=
  ⟨sampleSessions,.empty,sampleStart,rfl⟩

theorem sampleConnected_underway : Underway (sampleId 10) sampleConnected.db :=
  ⟨sampleGame sampleStart,rfl,Or.inl (by decide)⟩

theorem sampleConnected_agrees : sampleConnected.Agrees (sampleId 10) := by
  intro g hg _ p hp
  have hfind : sampleConnected.db.games.find (sampleId 10) = some (sampleGame sampleStart) := rfl
  cases hfind.symm.trans hg
  have hall : ∀ p ∈ (sampleGame sampleStart).players, p.disconnectedAt = none ∧
      sampleConnected.redis.Present p.guestSessionId := by decide
  simp [hall p hp]

theorem sampleClosed_run (C : SocketHandler → Stores → Multiset SocketHandler → Prop) :
    (sockets sampleEngine sampleConfig).Run C (sampleConnected,0)
      (sampleClosed,{.finallyDisconnected (sampleId 1)}) := by
  have hunexpired : sampleConnected.redis.Unexpired (sampleId 1) 6000 := by
    unfold Redis.Unexpired
    decide
  have hremove : SocketEvent sampleEngine sampleConfig sampleConnected sampleClosed
      (if (sampleConnected.redis.remove (sampleId 1) "a:1" 6000).1 = 0 then
        {.finallyDisconnected (sampleId 1)} else 0) := .remove hunexpired
  exact System.Run.env .refl hremove (by decide)

theorem Stores.reopen_event (s : Stores) (h : s.redis.Unexpired (sampleId 1) 7000) :
    SocketEvent sampleEngine sampleConfig s s.reopen {.reconnected (sampleId 1)} :=
  .markConnected h

end Sample

theorem marks_agree_with_presence_sample : sampleBack.Agrees (sampleId 10) := by
  have hclosed := sampleClosed_run (Timely (sampleId 10))
  have hgone : (sampleClosed.db.markDisconnected (sampleId 1)
      (sampleClosed.db.assignedGame (sampleId 1)) sampleConfig.graceMs 6000000) =
        (.ok (some ⟨.w,sampleId 10,3,36000⟩),sampleGone.db) := rfl
  have habsent : ¬ sampleClosed.redis.Present (sampleId 1) := by decide
  have hgoneRun := hclosed.process (SocketHandler.Commits.markDisconnected hgone) rfl
    (fun _ => Or.inl ⟨fun _ => rfl,fun _ => habsent⟩) rfl
  have hunexpired : sampleGone.redis.Unexpired (sampleId 1) 7000 := by
    unfold Redis.Unexpired
    decide
  have hopen : (sockets sampleEngine sampleConfig).Run (Timely (sampleId 10)) (sampleConnected,0)
      (sampleGone.reopen,{.reconnected (sampleId 1)}) :=
    hgoneRun.env (sampleGone.reopen_event hunexpired) rfl
  have hback : (sampleGone.reopen.db.markReconnected (sampleId 1)
      (sampleGone.reopen.db.assignedGame (sampleId 1)) 8000000) =
        (.ok (some ⟨.w,sampleId 10,4⟩),sampleBack.db) := rfl
  have hpresent : sampleGone.reopen.redis.Present (sampleId 1) := by decide
  have hbackRun := hopen.process (SocketHandler.Commits.markReconnected hback) rfl
    (fun _ => Or.inl ⟨fun hn => absurd hpresent hn,fun hb => by cases hb⟩) rfl
  exact (marks_agree_with_presence sampleEngine sampleConfig sampleConnected_reachable
    sampleConnected_underway sampleConnected_agrees hbackRun).1

/-- Two tabs of one guest, the old one closing while the new one opens: the reconnect of the new
socket commits before the disconnect of the old one, finds no mark and does nothing, and the
disconnect then marks a guest who is present. Nothing is left to correct it. -/
theorem closing_tab_marks_present_guest :
    sampleConnected.db.Reachable sampleEngine ∧ Underway (sampleId 10) sampleConnected.db ∧
    sampleConnected.Agrees (sampleId 10) ∧
    (sockets sampleEngine sampleConfig).Run System.anyTime (sampleConnected,0) (sampleStuck,0) ∧
    ¬ sampleStuck.Agrees (sampleId 10) ∧
    ∃ g, sampleStuck.db.games.find (sampleId 10) = some g ∧ g.status = .reconnecting ∧
      ∀ p ∈ g.players, sampleStuck.redis.Present p.guestSessionId := by
  have hunexpired : sampleClosed.redis.Unexpired (sampleId 1) 7000 := by
    unfold Redis.Unexpired
    decide
  have hopen : (sockets sampleEngine sampleConfig).Run System.anyTime (sampleConnected,0)
      (sampleClosed.reopen,{.reconnected (sampleId 1),.finallyDisconnected (sampleId 1)}) :=
    (sampleClosed_run System.anyTime).env (sampleClosed.reopen_event hunexpired) rfl
  have hnone : (sampleClosed.reopen.db.markReconnected (sampleId 1)
      (sampleClosed.reopen.db.assignedGame (sampleId 1)) 7500000) =
        (.ok none,sampleClosed.reopen.db) := rfl
  have hnoneRun : (sockets sampleEngine sampleConfig).Run System.anyTime (sampleConnected,0)
      (sampleClosed.reopen,{.finallyDisconnected (sampleId 1)}) :=
    hopen.process (SocketHandler.Commits.markReconnected hnone) rfl trivial rfl
  have hstuck : (sampleClosed.reopen.db.markDisconnected (sampleId 1)
      (sampleClosed.reopen.db.assignedGame (sampleId 1)) sampleConfig.graceMs 8000000) =
        (.ok (some ⟨.w,sampleId 10,3,38000⟩),sampleStuck.db) := rfl
  have hstuckRun := hnoneRun.process (SocketHandler.Commits.markDisconnected hstuck) rfl trivial rfl
  obtain ⟨g,hg⟩ : ∃ g, g = (sampleStuck.db.games.find (sampleId 10)).getD
      (newGameRow sampleAllocation) := ⟨_,rfl⟩
  have hfind : sampleStuck.db.games.find (sampleId 10) = some g := hg ▸ rfl
  have hstatus : g.status = .reconnecting := by subst hg; decide
  have hpresent : ∀ p ∈ g.players, sampleStuck.redis.Present p.guestSessionId := by
    subst hg
    decide
  have hmarked : ∃ p ∈ g.players, p.disconnectedAt ≠ none := by subst hg; decide
  refine ⟨sampleConnected_reachable,sampleConnected_underway,sampleConnected_agrees,hstuckRun,?_,
    g,hfind,hstatus,hpresent⟩
  intro ha
  obtain ⟨p,hp,hd⟩ := hmarked
  exact (ha g hfind (by rw [hstatus]; rfl) p hp).mp hd (hpresent p hp)

end CluChess
