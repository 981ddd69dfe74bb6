import CluChess.Rejections
import CluChess.SnapshotCache

/-! The instants of the connection of a player. A player who leaves before the start keeps the
report of readiness but loses `connectedAt`, and a report of readiness sets `connectedAt` of a
player in grace without ending the grace. Apart from these a player of a started game has exactly
one of `connectedAt` and `disconnectedAt`. -/
namespace CluChess

def GamePlayer.Coherent (p : GamePlayer) : Prop := p.connectedAt.isSome = !p.disconnectedAt.isSome

def PersistedGame.Coherent (g : PersistedGame) : Prop :=
  g.status.started = true → ∀ p ∈ g.players, p.Coherent

/-- A player of the game who is in grace, among those of a kind. -/
def PersistedGame.InGrace (g : PersistedGame) (kind : GuestSessionId → Prop) : Prop :=
  ∃ p ∈ g.players, kind p.guestSessionId ∧ p.reconnectGraceEndsAt ≠ none

def Db.ShowsGrace (db : Db) (id : GameId) (g : PersistedGame) : Prop :=
  ∀ guest observation view payload, db.snapshot id guest observation = .ok view →
    present view guest = some payload →
    (payload.you.connected = false ↔ g.InGrace (· = guest)) ∧
    (payload.opponent.connected = false ↔ g.InGrace (· ≠ guest))

def Db.ConnectionsCoherent (db : Db) : Prop :=
  ∀ id g, db.games.find id = some g → g.status.started = true →
    (∀ p ∈ g.players, p.Coherent) ∧ db.ShowsGrace id g

def PersistedGame.StartsConnected (g : PersistedGame) : Prop :=
  g.status = .ready → ∀ p ∈ g.players, p.connectedAt ≠ none

/-- A new command of a player whose move passes the checks. -/
def PersistedGame.Admits (chess : ChessEngine) (g : PersistedGame) (input : SubmitMove)
    (observation : Micros) : Prop :=
  g.command input.clientMoveId = none ∧ ∃ player ∈ g.playerFor input.guestSessionId,
    (admitMove chess g player input (truncatedToMillis observation)).isOk = true

instance (chess : ChessEngine) (g : PersistedGame) (input : SubmitMove) (observation : Micros) :
    Decidable (g.Admits chess input observation) :=
  inferInstanceAs (Decidable (g.command input.clientMoveId = none ∧
    ∃ player ∈ g.playerFor input.guestSessionId,
      (admitMove chess g player input (truncatedToMillis observation)).isOk = true))

/-- Nobody in grace reports readiness, and a game starts, by itself or with a move that is
admitted, while both its players are connected. -/
def Operation.KeepsConnections (chess : ChessEngine) (db : Db) : Operation → Prop
  | .markReady input => ∀ g ∈ db.games.find input.gameId,
      ∀ p ∈ g.playerFor input.guestSessionId, p.disconnectedAt = none
  | .startIfReady gameId _ => ∀ g ∈ db.games.find gameId, g.StartsConnected
  | .submitMove input observation => ∀ g ∈ db.games.find input.gameId,
      g.Admits chess input observation → g.StartsConnected
  | _ => True

instance (chess : ChessEngine) (db : Db) : (op : Operation) →
    Decidable (op.KeepsConnections chess db)
  | .markReady input => inferInstanceAs (Decidable (∀ g ∈ db.games.find input.gameId,
      ∀ p ∈ g.playerFor input.guestSessionId, p.disconnectedAt = none))
  | .startIfReady gameId _ => inferInstanceAs (Decidable (∀ g ∈ db.games.find gameId,
      g.status = .ready → ∀ p ∈ g.players, p.connectedAt ≠ none))
  | .submitMove input observation => inferInstanceAs (Decidable (∀ g ∈ db.games.find input.gameId,
      g.Admits chess input observation → g.status = .ready →
        ∀ p ∈ g.players, p.connectedAt ≠ none))
  | .session _ | .allocate _ | .recoverMove _ | .resign _ _ | .recoverResignation _
  | .terminateForReset _ _ _ | .markDisconnected _ _ _ _ | .markReconnected _ _ _
  | .adjudicateTimeout _ _ | .adjudicateNoShow _ _ | .adjudicateAbandonment _ _ _ =>
    inferInstanceAs (Decidable True)

section Step

variable {chess : ChessEngine} {db : Db} {g g' : PersistedGame} {id : GameId} {op : Operation}
  {answer : Answer}

theorem PersistedGame.Sound.coherent_mapPlayer (hs : g.Sound) {player : GamePlayer}
    (hp : player ∈ g.players) {data : GamePlayer → GamePlayer} (hdata : (data player).Coherent)
    (hg : ∀ p ∈ g.players, p.Coherent) :
    ∀ p ∈ (g.mapPlayer player.slot data).players, p.Coherent := by
  obtain ⟨other,_,hall,hmapped,_⟩ := hs.player_cases hp data
  intro p hmem
  rcases (hmapped p).mp hmem with rfl | rfl
  · exact hdata
  · exact hg p ((hall p).mpr (Or.inr rfl))

theorem PersistedGame.Sound.not_disconnected (hs : g.Sound) (hstatus : g.status ≠ .reconnecting) :
    ∀ p ∈ g.players, p.disconnectedAt = none := by
  intro p hp
  by_contra hd
  exact hstatus (hs.grace.reconnecting.mpr ⟨p,hp,Option.isSome_iff_ne_none.mpr hd⟩)

theorem PersistedGame.Sound.coherent_of_ready (hs : g.Sound) (hready : g.status = .ready)
    (hconnected : g.StartsConnected) : ∀ p ∈ g.players, p.Coherent := by
  intro p hp
  have hstatus : g.status ≠ .reconnecting := by
    rw [hready]
    exact nofun
  unfold GamePlayer.Coherent
  rw [hs.not_disconnected hstatus p hp,Option.isSome_iff_ne_none.mpr (hconnected hready p hp)]
  rfl

theorem Writes.coherent (h : Writes chess g op answer g') (hs : g.Sound)
    (hfind : db.games.find id = some g) (hid : op.gameId = some id)
    (hop : op.KeepsConnections chess db) (hg : g.Coherent) : g'.Coherent := by
  intro hstarted
  have hended : ∀ outcome : TerminalOutcome,
      outcome.status.toGameStatus.started = true → ∀ {P : Prop}, P := by
    intro outcome hn
    rw [TerminalStatus.toGameStatus_started] at hn
    cases hn
  cases h with
  | @join input player hp =>
    obtain ⟨hplayer,_⟩ := playerFor_mem hp
    refine hs.coherent_mapPlayer hplayer ?_ (hg hstarted)
    cases hid
    have hd : player.disconnectedAt = none := hop g hfind player hp
    unfold GamePlayer.Coherent GamePlayer.join
    rw [hd]
    rfl
  | ready _ _ => cases hstarted
  | startIfReady hready =>
    cases hid
    exact hs.coherent_of_ready hready (hop g hfind)
  | @submitMove m guests observation hmg hmid hobserved hm =>
    cases hid
    have hadmits : g.Admits chess m.input observation := by
      refine ⟨hmg ▸ hm.fresh,m.player,hmg ▸ hm.player,?_⟩
      rw [← hobserved,← hmg,hm.admitted]
      rfl
    have hplayers : ∀ p ∈ g.players, p.Coherent := by
      rcases (admitMove_ok hm.admitted).1 with hprogress | hready
      · refine hg ?_
        rw [← hmg,hprogress]
        rfl
      · exact hs.coherent_of_ready (hmg ▸ hready) (hop g hfind hadmits)
    intro p hp
    subst hmg
    exact hplayers p hp
  | resign _ _ _ _ => exact hended _ hstarted
  | reset _ _ _ => exact hended _ hstarted
  | adjudicate _ _ _ => exact hended _ hstarted
  | leave _ hwaiting =>
    have hstatus : g.status.started = true := hstarted
    rw [hwaiting] at hstatus
    cases hstatus
  | disconnect hp hs' =>
    exact hs.coherent_mapPlayer (playerFor_mem hp).1 rfl (hg hs')
  | reconnect hp hs' =>
    refine hs.coherent_mapPlayer (playerFor_mem hp).1 rfl (hg ?_)
    rw [hs']
    rfl

theorem publicPlayer_connected {p : GamePlayer} {r : GamePlayerRecord}
    (hr : mapPlayer g.id p = .ok r) (hp : p.Coherent)
    (hgrace : p.disconnectedAt.isSome = p.reconnectGraceEndsAt.isSome) :
    (publicPlayer r).connected = false ↔ p.reconnectGraceEndsAt ≠ none := by
  unfold publicPlayer
  rw [mapPlayer_ok hr]
  simp only
  rw [hp,hgrace,Bool.not_eq_false',Option.isSome_iff_ne_none]

theorem PersistedGame.Sound.showsGrace (hs : g.Sound) (hfind : db.games.find id = some g)
    (hg : ∀ p ∈ g.players, p.Coherent) : db.ShowsGrace id g := by
  intro guest observation view payload hview hpayload
  obtain ⟨a,ha⟩ := mapAllocation_of_sound hs
  obtain ⟨p,q,hpair,_,_,_,_,hne⟩ := hs.pair
  have hrecords := mapM_eq_ok (mapAllocation_eq ha).2
  rw [hpair] at hrecords
  obtain ⟨hp,hrest⟩ := List.forall₂_cons.mp hrecords
  obtain ⟨hq,_⟩ := List.forall₂_cons.mp hrest
  have hpguest : a.players.1.guestSessionId = p.guestSessionId := by rw [mapPlayer_ok hp]
  have hqguest : a.players.2.guestSessionId = q.guestSessionId := by rw [mapPlayer_ok hq]
  have hpmem : p ∈ g.players := hpair ▸ List.mem_cons_self
  have hqmem : q ∈ g.players := hpair ▸ List.mem_cons_of_mem _ List.mem_cons_self
  have hpshown := publicPlayer_connected hp (hg p hpmem) (hs.grace.together p hpmem)
  have hqshown := publicPlayer_connected hq (hg q hqmem) (hs.grace.together q hqmem)
  have hgrace : ∀ kind, g.InGrace kind ↔ kind p.guestSessionId ∧ p.reconnectGraceEndsAt ≠ none ∨
      kind q.guestSessionId ∧ q.reconnectGraceEndsAt ≠ none := by
    intro kind
    unfold InGrace
    rw [hpair]
    simp only [List.exists_mem_cons_iff,List.not_mem_nil,false_and,exists_false,or_false]
  unfold present GameSnapshotView.players at hpayload
  rw [snapshot_allocation hfind ha hview] at hpayload
  simp only [List.find?_cons,hpguest,hqguest] at hpayload
  by_cases hyou : p.guestSessionId = guest
  · subst hyou
    simp only [hne.symm,decide_true,ne_eq,not_true,decide_false,not_false_eq_true,
      Option.some.injEq] at hpayload
    subst hpayload
    rw [hgrace,hgrace]
    simp only [hpshown,hqshown,hne.symm,true_and,false_and,or_false,false_or,ne_eq,not_true,
      not_false_eq_true]
  · by_cases hother : q.guestSessionId = guest
    · subst hother
      simp only [hne,decide_true,ne_eq,decide_false,not_false_eq_true,
        Option.some.injEq] at hpayload
      subst hpayload
      rw [hgrace,hgrace]
      simp only [hpshown,hqshown,hne,true_and,false_and,or_false,false_or,ne_eq,not_true,
        not_false_eq_true]
    · simp only [hyou,hother,decide_false,List.find?_nil] at hpayload
      cases hpayload

theorem execute_coherent (h : db.Reachable chess) (hop : op.KeepsConnections chess db)
    (hdb : ∀ id g, db.games.find id = some g → g.Coherent) :
    ∀ id g, (execute chess db op).2.games.find id = some g → g.Coherent := by
  intro id g' hg'
  have hout := execute_outcome chess db op
  cases hfind : db.games.find id with
  | none =>
    obtain ⟨input,_,rfl⟩ := hout.new hfind hg'
    exact nofun
  | some g =>
    rcases hout.row hfind hg' with rfl | ⟨_,hid,hwrites⟩
    · exact hdb id _ hfind
    · exact hwrites.coherent (h.sound.games id g hfind) hfind hid hop (hdb id g hfind)

end Step

theorem connections_coherent {chess : ChessEngine} {guestSessions : Table GuestSession.id}
    {sessionCommands : Table SessionCommand.idempotencyHash} {operations : List Operation}
    (h : ∀ e ∈ (repositories chess).events (.initial guestSessions sessionCommands) operations,
      e.input.KeepsConnections chess e.before) :
    ∀ before after, operations = before ++ after →
      ((repositories chess).run (.initial guestSessions sessionCommands)
        before).ConnectionsCoherent := by
  intro before after hsplit
  have hkept : ∀ e ∈ (repositories chess).events (.initial guestSessions sessionCommands) before,
      e.input.KeepsConnections chess e.before := by
    intro e he
    refine h e ?_
    rw [hsplit,Machine.events_append]
    exact List.mem_append_left _ he
  have hstep : ∀ db op, Operation.KeepsConnections chess db op →
      db.Reachable chess ∧ (∀ id g, db.games.find id = some g → g.Coherent) →
      (execute chess db op).2.Reachable chess ∧
        ∀ id g, (execute chess db op).2.games.find id = some g → g.Coherent := by
    intro db op hop hdb
    exact ⟨hdb.1.run [op],execute_coherent hdb.1 hop hdb.2⟩
  have hstart : (Db.initial guestSessions sessionCommands).Reachable chess ∧
      ∀ id g, (Db.initial guestSessions sessionCommands).games.find id = some g → g.Coherent :=
    ⟨⟨_,_,[],rfl⟩,fun id g hg => by simp [Db.initial] at hg⟩
  obtain ⟨hreachable,hcoherent⟩ := (repositories chess).run_of_events hstep hstart hkept
  intro id g hg hstarted
  have hplayers := hcoherent id g hg hstarted
  exact ⟨hplayers,(hreachable.sound.games id g hg).showsGrace hg hplayers⟩

section Sample

/-- White reports readiness and leaves; the game starts with the report of black. -/
def sampleLeft : List Operation :=
  [.allocate sampleAllocation,.markReady ⟨0,sampleId 10,sampleId 1,1000⟩,
    .markDisconnected (sampleId 1) (some (sampleId 10)) 30000 1500000,
    .markReady ⟨0,sampleId 10,sampleId 2,2000⟩,.startIfReady (sampleId 10) 5000000]

def sampleReturned : List Operation :=
  sampleStart ++ [.markDisconnected (sampleId 1) (some (sampleId 10)) 30000 7000000,
    .markReady ⟨0,sampleId 10,sampleId 1,7500⟩]

end Sample

theorem connections_coherent_sample : (sampleRun sampleStart).ConnectionsCoherent := by
  have hkept : ∀ e ∈ (repositories sampleEngine).events (.initial sampleSessions .empty) sampleStart,
      e.input.KeepsConnections sampleEngine e.before := by decide
  exact connections_coherent hkept sampleStart [] rfl

/-- A game that starts after a player has left shows that player as not connected although nobody
is in grace, and a player who reports readiness while in grace is shown as connected. -/
theorem connections_not_coherent : ¬ (sampleRun sampleLeft).ConnectionsCoherent ∧
    ¬ (sampleRun sampleReturned).ConnectionsCoherent := by
  have hnot : ∀ operations g, (sampleRun operations).games.find (sampleId 10) = some g →
      g.status.started = true → (g.players.all fun p =>
        p.connectedAt.isSome == !p.disconnectedAt.isSome) = false →
      ¬ (sampleRun operations).ConnectionsCoherent := by
    intro operations g hfind hstarted hall hcoherent
    have hplayers := (hcoherent _ g hfind hstarted).1
    have htrue : (g.players.all fun p => p.connectedAt.isSome == !p.disconnectedAt.isSome) = true :=
      List.all_eq_true.mpr fun p hp => beq_iff_eq.mpr (hplayers p hp)
    rw [hall] at htrue
    cases htrue
  exact ⟨hnot sampleLeft _ rfl rfl rfl,hnot sampleReturned _ rfl rfl rfl⟩

end CluChess
