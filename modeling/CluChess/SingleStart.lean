import CluChess.ClockAccounting
import CluChess.ConcurrentAllocation
import CluChess.ConstraintChecks
import CluChess.GameRoom
import CluChess.CommittedWrites

/-! One start of a game. Two paths start a game, and a report of readiness is two transactions,
but only one transaction takes the game from `READY` on, and no report of a player is refused. -/
namespace CluChess

section Prelude

structure PersistedGame.Prelude (g : PersistedGame) : Prop where
  waiting : g.status = .waitingForPlayers → g.version = 0 ∧ g.startedAt = none
  ready : g.status = .ready → g.version = 1 ∧ g.startedAt = none

variable {chess : ChessEngine} {g g' : PersistedGame}

theorem PersistedGame.Prelude.of_later (h : g.status ≠ .waitingForPlayers)
    (h' : g.status ≠ .ready) : g.Prelude := ⟨fun hs => absurd hs h,fun hs => absurd hs h'⟩

theorem AdmittedMove.row_later {m : AdmittedMove} {guests : GuestSessionId × GuestSessionId}
    (hm : m.Admitted chess guests) : (m.row guests).status ≠ .waitingForPlayers ∧
      (m.row guests).status ≠ .ready := by
  rw [AdmittedMove.row_status]
  cases ht : m.terminal with
  | none =>
    rcases (admitMove_ok hm.admitted).1 with hs | hs
    · simp [hs]
    · simp [hs]
  | some t =>
    cases hstatus : t.status <;> simp [hstatus,TerminalStatus.toGameStatus]

theorem ended_later (g : PersistedGame) (observation : Micros) (outcome : TerminalOutcome) :
    (g.ended observation outcome).status ≠ .waitingForPlayers ∧
      (g.ended observation outcome).status ≠ .ready := by
  have hstatus : (g.ended observation outcome).status = outcome.status.toGameStatus := rfl
  rw [hstatus]
  cases outcome.status <;> simp [TerminalStatus.toGameStatus]

theorem GameChange.prelude (h : GameChange chess g g') (hg : g.Prelude) : g'.Prelude := by
  cases h with
  | join hp hs hn => exact ⟨hg.waiting,hg.ready⟩
  | leave hp hs => exact ⟨hg.waiting,hg.ready⟩
  | ready hp hs hn =>
    refine ⟨nofun,fun _ => ⟨?_,(hg.waiting hs).2⟩⟩
    exact congrArg (· + 1) (hg.waiting hs).1
  | start hs => exact .of_later nofun nofun
  | move he hm => exact .of_later (AdmittedMove.row_later hm).1 (AdmittedMove.row_later hm).2
  | disconnect hp hs hd ho => exact .of_later nofun nofun
  | reconnect hp hs hd =>
    refine .of_later ?_ ?_
    · simp only [PersistedGame.resumed]
      split_ifs <;> simp
    · simp only [PersistedGame.resumed]
      split_ifs <;> simp
  | @finish observation event outcome hs ho =>
    obtain ⟨hwaiting,hready⟩ := ended_later g observation outcome
    exact .of_later hwaiting hready
  | @resign player observation outcome command hp hs ho hc ht =>
    obtain ⟨hwaiting,hready⟩ := ended_later g observation outcome
    exact .of_later hwaiting hready

theorem GameChange.startedAt_keep (h : GameChange chess g g') (hg : g.Prelude) {t : Millis}
    (ht : g.startedAt = some t) : g'.startedAt = some t := by
  cases h with
  | start hs =>
    rw [(hg.ready hs).2] at ht
    cases ht
  | @move m guests he hm =>
    subst he
    have hready : m.game.status ≠ .ready := by
      intro hs
      rw [(hg.ready hs).2] at ht
      cases ht
    exact (if_neg hready).trans ht
  | _ => exact ht

theorem Db.Reachable.prelude {db : Db} (h : db.Reachable chess) :
    ∀ id g, db.games.find id = some g → g.Prelude := by
  refine h.invariant (I := fun db => ∀ id g, db.games.find id = some g → g.Prelude)
    (fun _ _ _ _ hx => by simp [Db.initial] at hx) fun db db' hc hdb id g hg => ?_
  cases hc with
  | frame hgames _ => exact hdb id g (hgames ▸ hg)
  | @allocate input _ _ ha =>
    rw [Table.find_insert ha.games] at hg
    split_ifs at hg
    · cases hg
      exact ⟨fun _ => ⟨rfl,rfl⟩,fun hready => by cases hready⟩
    · exact hdb id g hg
  | game hw =>
    rw [hw.find] at hg
    split_ifs at hg
    · cases hg
      exact hw.change.prelude (hdb _ _ hw.found)
    · exact hdb id g hg

end Prelude

section Calls

/-! What the transactions of a call do to a game of which the caller is a player. -/

variable {chess : ChessEngine} {db db' : Db} {g : PersistedGame}

theorem Db.Reachable.startedAt_of_started (h : db.Reachable chess) {id : GameId}
    (hg : db.games.find id = some g) (hs : g.status.started = true) : g.startedAt.isSome := by
  obtain ⟨_,_,_,_,hturn,_⟩ := h.rowsChecked id g hg
  rw [PersistedGame.turnClockStateCheck,if_pos hs] at hturn
  exact hturn.2

theorem mem_players_of_guests {guest : GuestSessionId} (h : guest ∈ g.guests) :
    ∃ player, g.playerFor guest = some player := by
  obtain ⟨p,hp,he⟩ := List.mem_map.mp h
  have hsome : (g.playerFor guest).isSome := by
    unfold PersistedGame.playerFor
    rw [List.find?_isSome]
    exact ⟨p,hp,decide_eq_true he⟩
  exact Option.isSome_iff_exists.mp hsome

theorem joinedAt_of_joined (hs : g.Sound) (hj : g.status.joined = true) {p : GamePlayer}
    (hp : p ∈ g.players) : p.joinedAt.isSome := by
  have hcount := hs.joined hj
  obtain ⟨p₁,p₂,hpair,_⟩ := hs.pair
  have hall : g.joinedPlayers = g.players.length := by
    rw [hcount,hpair]
    rfl
  unfold PersistedGame.joinedPlayers at hall
  exact List.countP_eq_length.mp hall p hp

/-- A player's report of readiness is accepted as long as the game has not ended. -/
theorem markReadyInTransaction_live (h : db.Reachable chess) {input : MarkGameReady}
    (hg : db.games.find input.gameId = some g) (hlive : g.status.terminal = false)
    (hguest : input.guestSessionId ∈ g.guests) (hversion : input.expectedVersion = 0) :
    ∃ g' db', db.markReadyInTransaction input = .ok (.ready g',db') := by
  have hsound := h.sound.games _ g hg
  obtain ⟨hfits,hchecks⟩ := h.rowsChecked _ g hg
  have hprelude := h.prelude _ g hg
  obtain ⟨player,hp⟩ := mem_players_of_guests hguest
  obtain ⟨hmem,_⟩ := playerFor_mem hp
  have hid : g.id = input.gameId := Table.find_key hg
  have hstatus : g.status = .waitingForPlayers ∨ g.status.joined = true := by
    cases hs : g.status with
    | waitingForPlayers => exact Or.inl rfl
    | created => exact absurd hs hsound.created
    | ready => exact Or.inr rfl
    | inProgress => exact Or.inr rfl
    | reconnecting => exact Or.inr rfl
    | _ =>
      rw [hs] at hlive
      cases hlive
  have hfresh : ¬ (input.expectedVersion ≠ g.version ∧
      (player.joinedAt.isSome && g.status.joined) = false) := by
    rintro ⟨hstale,hidempotent⟩
    rcases hstatus with hw | hj
    · exact hstale (hversion.trans (hprelude.waiting hw).1.symm)
    · rw [joinedAt_of_joined hsound hj hmem,hj] at hidempotent
      cases hidempotent
  have hopen : ¬ (g.status ≠ .waitingForPlayers ∧ g.status.joined = false) := by
    rintro ⟨hnot,hnotJoined⟩
    rcases hstatus with hw | hj
    · exact hnot hw
    · rw [hj] at hnotJoined
      cases hnotJoined
  have hplayers : (g.mapPlayer player.slot (GamePlayer.join input.observedAt)).playersChecked :=
    PersistedGame.playersChecked_mapPlayer (h.players _ g hg) fun _ _ _ hcheck => hcheck
  have hfound : (db.replaceGame (g.mapPlayer player.slot
      (GamePlayer.join input.observedAt))).games.find input.gameId =
        some (g.mapPlayer player.slot (GamePlayer.join input.observedAt)) := by
    rw [← hid]
    exact find_replaceGame_self (hid ▸ hg) rfl
  unfold Db.markReadyInTransaction
  simp only [hg,hp]
  rw [if_neg hfresh,if_neg hopen,Db.updatePlayer_eq hg hplayers]
  simp only [bind,Except.bind,hfound,Option.map_some,Option.getD_some]
  by_cases hcount : g.status = .waitingForPlayers ∧
      (g.mapPlayer player.slot (GamePlayer.join input.observedAt)).joinedPlayers = 2
  · have hrow : (g.mapPlayer player.slot (GamePlayer.join input.observedAt)).readied.rowChecks :=
      PersistedGame.rowChecks_readied hchecks hcount.1
    have hinteger : (g.mapPlayer player.slot
        (GamePlayer.join input.observedAt)).readied.integersFit := by
      obtain ⟨_,hclocks⟩ := hfits
      refine ⟨?_,hclocks⟩
      have hone : (g.mapPlayer player.slot (GamePlayer.join input.observedAt)).readied.version =
          1 := congrArg (· + 1) (hprelude.waiting hcount.1).1
      rw [hone]
      decide
    rw [if_pos hcount,hid]
    have hupdate : (db.replaceGame (g.mapPlayer player.slot
        (GamePlayer.join input.observedAt))).updateGameAtVersion input.gameId g.version
          (fun g => { g with status := .ready }) = .ok (some (g.version + 1),
            (db.replaceGame (g.mapPlayer player.slot
              (GamePlayer.join input.observedAt))).replaceGame
                (g.mapPlayer player.slot (GamePlayer.join input.observedAt)).readied) :=
      Db.updateGameAtVersion_eq hfound hinteger hrow
    have hw := ready_wrote chess hg hmem hcount.1 hcount.2 hinteger hrow
    rw [hupdate]
    unfold Db.readyAllocation
    simp only [hw.find_self]
    rw [Db.commit_eq (hw.allocationInvariants h.sound _)]
    exact ⟨_,_,rfl⟩
  · rw [if_neg hcount]
    have hw := join_wrote chess hg hmem hstatus hcount
    unfold Db.readyAllocation
    rw [hfound]
    simp only
    rw [Db.commit_eq (hw.allocationInvariants h.sound _)]
    exact ⟨_,_,rfl⟩

theorem join_joined (hs : g.Sound) {guest : GuestSessionId} {player : GamePlayer}
    (hp : g.playerFor guest = some player) (observedAt : Millis) {p : GamePlayer}
    (hmem : p ∈ (g.mapPlayer player.slot (GamePlayer.join observedAt)).players)
    (hguest : p.guestSessionId = guest) : p.joinedAt.isSome := by
  obtain ⟨hplayer,hid⟩ := playerFor_mem hp
  obtain ⟨other,hne,_,hafter,_⟩ := hs.player_cases hplayer (GamePlayer.join observedAt)
  rcases (hafter p).mp hmem with rfl | rfl
  · rfl
  · exact absurd (hid.trans hguest.symm) hne

/-- What `markReady` does for a player of a game that has not ended. -/
theorem markReady_live (h : db.Reachable chess) {input : MarkGameReady}
    (hg : db.games.find input.gameId = some g) (hlive : g.status.terminal = false)
    (hguest : input.guestSessionId ∈ g.guests) (hversion : input.expectedVersion = 0) :
    ∃ g' a, (db.markReady input).1 = .ok a ∧ a.game = mapGame g' ∧
      (db.markReady input).2.games.find input.gameId = some g' ∧ GameChange chess g g' ∧
      ∀ p ∈ g'.players, p.guestSessionId = input.guestSessionId → p.joinedAt.isSome := by
  obtain ⟨g',db',hwork⟩ := markReadyInTransaction_live h hg hlive hguest hversion
  have hsound := h.sound.games _ g hg
  rcases markReadyInTransaction_ok chess hwork with ⟨_,hnot⟩ | ⟨g₁,g₂,player,hw,hr,hp,hrow⟩
  · exact absurd rfl (hnot g')
  · cases hr
    obtain rfl : g₁ = g := Option.some.inj (hw.found.symm.trans hg)
    obtain ⟨a,ha⟩ := mapAllocation_of_sound (hw.change.sound hsound)
    have hanswer : db.markReady input = (.ok a,db') := by
      unfold Db.markReady
      rw [hwork]
      show ((mapAllocation g').mapError _,db') = _
      rw [ha]
      rfl
    rw [hanswer]
    refine ⟨g',a,rfl,(mapAllocation_eq ha).1,hw.find_self,hw.change,fun p hmem he => ?_⟩
    rcases hrow with rfl | ⟨_,rfl⟩
    · exact join_joined hsound hp _ hmem he
    · exact join_joined hsound hp _ hmem he

theorem startIfReadyInTransaction_found {id : GameId} {observation : Micros}
    {r : StartTransactionResult} (hg : db.games.find id = some g)
    (h : db.startIfReadyInTransaction id observation = .ok (r,db')) :
    ∃ a started, r = .found a started := by
  obtain ⟨locked,hl,h⟩ := bind_eq_ok.mp h
  obtain rfl := lockGameClock_found hg hl
  simp only at h
  split_ifs at h with hs
  · obtain ⟨⟨version,db₁⟩,hv,h⟩ := bind_eq_ok.mp h
    obtain ⟨rfl,_,_,rfl⟩ := Db.updateGameAtVersion_ok (g := g) hg hv
    simp only at h
    split at h
    · rename_i hnone
      cases hnone
    · rename_i hnone
      have hid : g.id = id := Table.find_key hg
      have hsome : (db.replaceGame (g.start (truncatedToMillis observation))).games.find id =
          some (g.start (truncatedToMillis observation)) := by
        rw [← hid]
        exact find_replaceGame_self (hid ▸ hg) rfl
      exact absurd (hsome.symm.trans hnone) (by simp)
    · obtain ⟨_,rfl,_⟩ := Db.commit_ok h
      exact ⟨_,_,rfl⟩
  · simp only [hg] at h
    cases h
    exact ⟨_,_,rfl⟩

theorem startIfReady_found (h : db.Reachable chess) {id : GameId} (hg : db.games.find id = some g)
    (observation : Micros) :
    (∃ kind, db.startIfReady id observation = (.error (.database kind),db)) ∨
    (g.status ≠ .ready ∧ ∃ a, db.startIfReady id observation = (.ok ⟨a,false⟩,db)) ∨
      g.status = .ready ∧ ∃ a db', db.startIfReady id observation = (.ok ⟨a,true⟩,db') ∧
        a.game = mapGame (g.start (truncatedToMillis observation)) ∧
        db'.games.find id = some (g.start (truncatedToMillis observation)) := by
  have hsound := h.sound.games id g hg
  unfold Db.startIfReady
  rcases Db.transaction_cases db (db.startIfReadyInTransaction id observation) with
    ⟨kind,ht⟩ | ⟨r,db',hwork,ht⟩
  · rw [ht]
    exact Or.inl ⟨kind,rfl⟩
  · rw [ht]
    right
    rcases startIfReadyInTransaction_ok chess hwork with
      ⟨_,hnot⟩ | ⟨g₁,rfl,hg₁,hs,rfl⟩ | ⟨g₁,hs,hw,rfl⟩
    · obtain ⟨a,started,rfl⟩ := startIfReadyInTransaction_found hg hwork
      exact absurd rfl (hnot a started)
    · obtain rfl : g₁ = g := Option.some.inj (hg₁.symm.trans hg)
      obtain ⟨a,ha⟩ := mapAllocation_of_sound hsound
      refine Or.inl ⟨hs,a,?_⟩
      rw [Db.answered_ok]
      simp only [Db.startAnswer,ha]
      rfl
    · obtain rfl : g₁ = g := Option.some.inj (hw.found.symm.trans hg)
      obtain ⟨a,ha⟩ := mapAllocation_of_sound (hw.change.sound hsound)
      refine Or.inr ⟨hs,a,db',?_,(mapAllocation_eq ha).1,hw.find_self⟩
      rw [Db.answered_ok]
      simp only [Db.startAnswer,ha]
      rfl

theorem snapshot_ok (h : db.Reachable chess) {id : GameId} (hg : db.games.find id = some g)
    {guest : GuestSessionId} (hguest : guest ∈ g.guests) (observation : Micros) :
    ∃ view, db.snapshot id guest observation = .ok view := by
  obtain ⟨hfits,hchecks⟩ := h.rowsChecked id g hg
  obtain ⟨a,ha⟩ := mapAllocation_of_sound (h.sound.games id g hg)
  have hfind : db.findSnapshot id observation =
      .ok (some ⟨a,g.moves,.valid (truncatedToMillis observation)⟩) := by
    unfold Db.findSnapshot Db.mapSnapshot
    rw [hg]
    simp only
    rw [ha]
    rfl
  obtain ⟨view,hview,_⟩ := clockViewAt_shown hfits hchecks (truncatedToMillis observation)
  have hmember : guest ∈ a.guests := (mapAllocation_ok ha).2 ▸ hguest
  have hclock : clockViewAt (Db.snapshotClock a.game) (.valid (truncatedToMillis observation)) =
      .ok view := by
    rw [(mapAllocation_eq ha).1,snapshotClock_mapGame]
    exact hview
  refine ⟨⟨⟨a,g.moves,.valid (truncatedToMillis observation)⟩,view⟩,?_⟩
  unfold Db.snapshot
  rw [hfind]
  show (if guest ∉ a.guests then _ else _) = _
  rw [if_neg (not_not.mpr hmember),hclock]

end Calls

namespace ReadyCall

def reported (call : ReadyCall) : Prop :=
  match call.phase with
  | .markReady | .returned (.error _) => False
  | _ => True

/-- The call has passed the point where it starts the game. -/
def finished (call : ReadyCall) : Prop :=
  match call.phase with
  | .snapshot _ | .returned (.ok _) => True
  | _ => False

/-- The start that the call is going to return. -/
def announces (call : ReadyCall) : Option StartedGame :=
  match call.phase with
  | .snapshot started => started
  | _ => none

theorem finished.reported {call : ReadyCall} (h : call.finished) : call.reported := by
  unfold ReadyCall.finished at h
  unfold ReadyCall.reported
  split at h <;> simp_all

theorem finished.of_isOk {call : ReadyCall} (h : call.phase.isOk = true) : call.finished := by
  unfold ReadyPhase.isOk at h
  unfold ReadyCall.finished
  split at h <;> simp_all

structure Sound (g : PersistedGame) (call : ReadyCall) : Prop where
  version : call.input.expectedVersion = 0
  guest : call.input.guestSessionId ∈ g.guests
  joined : call.reported → ∀ p ∈ g.players, p.guestSessionId = call.input.guestSessionId →
    p.joinedAt.isSome
  started : ∀ s, call.announces = some s →
    s.gameVersion = 2 ∧ g.startedAt = some s.clocks.observedAt

end ReadyCall

/-- What holds of all calls on a game. While it is ready one of its players has no call that is
past the start. -/
structure CallsSound (id : GameId) (g : PersistedGame) (calls : List ReadyCall) : Prop where
  sound : ∀ call ∈ calls, call.input.gameId = id → call.Sound g
  waits : g.status = .ready → ∃ guest ∈ g.guests, ∀ call ∈ calls, call.input.gameId = id →
    call.input.guestSessionId = guest → ¬ call.finished

section Invariant

/-! One step of a call and of the others keeps what holds of the calls. -/

variable {chess : ChessEngine} {db db' : Db} {g g' : PersistedGame} {id : GameId}
  {calls : List ReadyCall} {call call' : ReadyCall}

theorem mapPlayer_joined {slot : ℕ} {data : GamePlayer → GamePlayer} {p' : GamePlayer}
    (hp' : p' ∈ (g.mapPlayer slot data).players)
    (hdata : ∀ p, (data p).guestSessionId = p.guestSessionId ∧
      (p.joinedAt.isSome → (data p).joinedAt.isSome)) :
    ∃ p ∈ g.players, p.guestSessionId = p'.guestSessionId ∧
      (p.joinedAt.isSome → p'.joinedAt.isSome) := by
  obtain ⟨p,hp,rfl⟩ := List.mem_map.mp hp'
  refine ⟨p,hp,?_⟩
  split
  · exact ⟨(hdata p).1.symm,(hdata p).2⟩
  · exact ⟨rfl,fun hj => hj⟩

theorem ended_joined {observation : Micros} {outcome : TerminalOutcome} {p' : GamePlayer}
    (hp' : p' ∈ (g.ended observation outcome).players) : ∃ p ∈ g.players,
      p.guestSessionId = p'.guestSessionId ∧ (p.joinedAt.isSome → p'.joinedAt.isSome) := by
  obtain ⟨p,hp,rfl⟩ := List.mem_map.mp hp'
  exact ⟨p,hp,rfl,fun hj => hj⟩

theorem GameChange.joined_keep (h : GameChange chess g g') {p' : GamePlayer}
    (hp' : p' ∈ g'.players) : ∃ p ∈ g.players, p.guestSessionId = p'.guestSessionId ∧
      (p.joinedAt.isSome → p'.joinedAt.isSome) := by
  cases h with
  | join _ _ _ => exact mapPlayer_joined hp' fun _ => ⟨rfl,fun _ => rfl⟩
  | ready _ _ _ => exact mapPlayer_joined hp' fun _ => ⟨rfl,fun _ => rfl⟩
  | leave _ _ => exact mapPlayer_joined hp' fun _ => ⟨rfl,fun hj => hj⟩
  | disconnect _ _ _ _ => exact mapPlayer_joined hp' fun _ => ⟨rfl,fun hj => hj⟩
  | reconnect _ _ _ => exact mapPlayer_joined hp' fun _ => ⟨rfl,fun hj => hj⟩
  | start _ => exact ⟨p',hp',rfl,fun hj => hj⟩
  | move hg _ =>
    subst hg
    exact ⟨p',hp',rfl,fun hj => hj⟩
  | finish _ _ => exact ended_joined hp'
  | resign _ _ _ _ _ => exact ended_joined hp'

theorem GameChange.ready_before (h : GameChange chess g g') (hs : g'.status = .ready) :
    g.status = .ready ∨ g.status = .waitingForPlayers := by
  cases h with
  | join _ _ _ => exact Or.inl hs
  | leave _ hs' => exact Or.inr hs'
  | ready _ hs' _ => exact Or.inr hs'
  | move _ hm => exact absurd hs (AdmittedMove.row_later hm).2
  | finish _ _ => exact absurd hs (ended_later g _ _).2
  | @resign player observation outcome command _ _ _ _ _ =>
    exact absurd hs (ended_later g observation outcome).2
  | reconnect _ _ _ =>
    simp only [PersistedGame.resumed] at hs
    split_ifs at hs
  | _ => cases hs

theorem waiting_not_joined (h : g.Sound) (hs : g.status = .waitingForPlayers) :
    ∃ p ∈ g.players, p.joinedAt.isSome = false := by
  obtain ⟨p,q,hpair,_⟩ := h.pair
  by_contra hall
  have hjoined : ∀ p ∈ g.players, p.joinedAt.isSome = true := by
    intro p hp
    by_contra hn
    exact hall ⟨p,hp,by simpa using hn⟩
  have hcount : g.joinedPlayers = g.players.length := List.countP_eq_length.mpr hjoined
  rw [hpair] at hcount
  exact (h.waiting hs).1 hcount

theorem ReadyCall.Sound.change (h : call.Sound g) (hc : GameChange chess g g') (hg : g.Prelude) :
    call.Sound g' where
  version := h.version
  guest := by
    rw [guests_of_seats hc.seats_eq]
    exact h.guest
  joined hr p' hp' hguest := by
    obtain ⟨p,hp,hsame,hkeep⟩ := hc.joined_keep hp'
    exact hkeep (h.joined hr p hp (hsame.trans hguest))
  started s hs := by
    obtain ⟨hversion,hstarted⟩ := h.started s hs
    exact ⟨hversion,hc.startedAt_keep hg hstarted⟩

theorem CallsSound.change (h : CallsSound id g calls) (hc : GameChange chess g g')
    (hg : g.Prelude) (hs : g.Sound) : CallsSound id g' calls where
  sound call hmem hid := (h.sound call hmem hid).change hc hg
  waits hready := by
    rw [guests_of_seats hc.seats_eq]
    rcases hc.ready_before hready with hb | hb
    · exact h.waits hb
    · obtain ⟨p,hp,hnot⟩ := waiting_not_joined hs hb
      refine ⟨p.guestSessionId,List.mem_map_of_mem hp,fun call hmem hid hguest hfinished => ?_⟩
      have hjoined := (h.sound call hmem hid).joined hfinished.reported p hp hguest.symm
      rw [hnot] at hjoined
      cases hjoined

theorem CallsSound.push (h : CallsSound id g calls) {input : MarkGameReady}
    (hinput : input.gameId = id → input.expectedVersion = 0 ∧ input.guestSessionId ∈ g.guests) :
    CallsSound id g (calls ++ [⟨input,.markReady⟩]) where
  sound call hmem hid := by
    rcases List.mem_append.mp hmem with hmem | hmem
    · exact h.sound call hmem hid
    · obtain rfl := List.mem_singleton.mp hmem
      obtain ⟨hversion,hguest⟩ := hinput hid
      exact ⟨hversion,hguest,nofun,nofun⟩
  waits hready := by
    obtain ⟨guest,hguest,hnone⟩ := h.waits hready
    refine ⟨guest,hguest,fun call hmem hid hcaller => ?_⟩
    rcases List.mem_append.mp hmem with hmem | hmem
    · exact hnone call hmem hid hcaller
    · obtain rfl := List.mem_singleton.mp hmem
      exact fun hf => hf

theorem CallsSound.set (h : CallsSound id g calls) {index : ℕ} (hcall : calls[index]? = some call)
    (hinput : call'.input = call.input) (hnew : call.input.gameId = id → call'.Sound g ∧
      (call'.finished → call.finished ∨ g.status ≠ .ready)) :
    CallsSound id g (calls.set index call') where
  sound x hmem hid := by
    rcases List.mem_or_eq_of_mem_set hmem with hmem | rfl
    · exact h.sound x hmem hid
    · exact (hnew (hinput ▸ hid)).1
  waits hready := by
    obtain ⟨guest,hguest,hnone⟩ := h.waits hready
    refine ⟨guest,hguest,fun x hmem hid hcaller => ?_⟩
    rcases List.mem_or_eq_of_mem_set hmem with hmem | rfl
    · exact hnone x hmem hid hcaller
    · intro hfinished
      rw [hinput] at hid hcaller
      rcases (hnew hid).2 hfinished with hf | hf
      · exact hnone call (List.mem_of_getElem? hcall) hid hcaller hf
      · exact hf hready

theorem markReady_terminal (chess : ChessEngine) {input : MarkGameReady}
    (hg : db.games.find input.gameId = some g)
    (ht : g.status.terminal = true) :
    ∃ e, db.markReady input = (.error e,db) := by
  unfold Db.markReady
  rcases Db.transaction_cases db (db.markReadyInTransaction input) with
    ⟨kind,hk⟩ | ⟨r,db',hwork,hk⟩
  · rw [hk]
    exact ⟨.database kind,rfl⟩
  · rw [hk]
    rcases markReadyInTransaction_ok chess hwork with ⟨rfl,hnot⟩ | ⟨g₁,g₂,player,hw,_⟩
    · rw [Db.answered_ok]
      cases r with
      | ready a => exact absurd rfl (hnot a)
      | _ => exact ⟨_,rfl⟩
    · obtain rfl : g₁ = g := Option.some.inj (hw.found.symm.trans hg)
      rw [hw.change.not_terminal] at ht
      cases ht

/-- What the next transaction of a call on the game has done. -/
structure Advanced (chess : ChessEngine) (id : GameId) (g : PersistedGame) (call : ReadyCall)
    (phase : ReadyPhase) (db' : Db) (g' : PersistedGame) : Prop where
  found : db'.games.find id = some g'
  row : g' = g ∨ GameChange chess g g'
  sound : (⟨call.input,phase⟩ : ReadyCall).Sound g'
  finished : (⟨call.input,phase⟩ : ReadyCall).finished → call.finished ∨ g'.status ≠ .ready
  announces : (⟨call.input,phase⟩ : ReadyCall).announces.isSome → g.startedAt = none
  result : ∀ r, phase = .returned (.ok r) → r.started = call.announces
  refused : ∀ e, phase = .returned (.error (.service e)) → g.status.terminal = true

theorem ReadyCall.Sound.toFailed (h : call.Sound g) (e : RepositoryError) :
    (⟨call.input,.returned (.error e)⟩ : ReadyCall).Sound g where
  version := h.version
  guest := h.guest
  joined hr := hr.elim
  started _ hs := nomatch hs

theorem Advanced.of_failed (hg : db.games.find id = some g) (h : call.Sound g)
    {e : RepositoryError} (he : ∀ s, e = .service s → g.status.terminal = true) :
    Advanced chess id g call (.returned (.error e)) db g where
  found := hg
  row := Or.inl rfl
  sound := h.toFailed e
  finished hf := hf.elim
  announces ha := nomatch ha
  result _ hr := nomatch hr
  refused s hs := he s (Except.error.inj (ReadyPhase.returned.inj hs))

theorem Advanced.of_startIfReady (hs : call.Sound g) (hfound : db'.games.find id = some g')
    (hchange : GameChange chess g g') (hjoined : ∀ p ∈ g'.players,
      p.guestSessionId = call.input.guestSessionId → p.joinedAt.isSome) :
    Advanced chess id g call .startIfReady db' g' where
  found := hfound
  row := Or.inr hchange
  sound := {
    version := hs.version
    guest := guests_of_seats hchange.seats_eq ▸ hs.guest
    joined := fun _ => hjoined
    started := fun _ he => nomatch he }
  finished hf := hf.elim
  announces ha := nomatch ha
  result _ hr := nomatch hr
  refused _ he := nomatch he

/-- A call goes on to its snapshot once the game is not ready any more. -/
theorem Advanced.of_snapshot (hs : call.Sound g) (hfound : db'.games.find id = some g')
    (hrow : g' = g ∨ GameChange chess g g') (hready : g'.status ≠ .ready)
    (hjoined : ∀ p ∈ g'.players, p.guestSessionId = call.input.guestSessionId → p.joinedAt.isSome)
    {started : Option StartedGame} (hstarted : ∀ s, started = some s →
      g.startedAt = none ∧ s.gameVersion = 2 ∧ g'.startedAt = some s.clocks.observedAt) :
    Advanced chess id g call (.snapshot started) db' g' where
  found := hfound
  row := hrow
  sound := {
    version := hs.version
    guest := by
      rcases hrow with rfl | hchange
      · exact hs.guest
      · exact guests_of_seats hchange.seats_eq ▸ hs.guest
    joined := fun _ => hjoined
    started := fun s he => (hstarted s he).2 }
  finished _ := Or.inr hready
  announces ha := by
    obtain ⟨s,he⟩ := Option.isSome_iff_exists.mp ha
    exact (hstarted s he).1
  result _ hr := nomatch hr
  refused _ he := nomatch he

theorem Advanced.of_returned (hg : db.games.find id = some g) {started : Option StartedGame}
    (hp : call.phase = .snapshot started) (hs : call.Sound g) (view : GameSnapshotView) :
    Advanced chess id g call (.returned (.ok ⟨view,started⟩)) db g where
  found := hg
  row := Or.inl rfl
  sound := {
    version := hs.version
    guest := hs.guest
    joined := fun _ => hs.joined (by simp [ReadyCall.reported,hp])
    started := fun _ he => nomatch he }
  finished _ := Or.inl (by simp [ReadyCall.finished,hp])
  announces ha := nomatch ha
  result r hr := by
    rw [← Except.ok.inj (ReadyPhase.returned.inj hr),ReadyCall.announces,hp]
  refused _ he := nomatch he

theorem advance_sound (chess : ChessEngine) (h : db.Reachable chess)
    (hg : db.games.find id = some g) (hid : call.input.gameId = id) (hs : call.Sound g)
    (hpending : call.phase.isReturned = false) (observation : Micros) :
    ∃ g', Advanced chess id g call (call.advance db observation).1
      (call.advance db observation).2 g' := by
  subst hid
  have hprelude := h.prelude _ g hg
  cases hp : call.phase with
  | returned result =>
    rw [hp] at hpending
    cases hpending
  | markReady =>
    simp only [ReadyCall.advance,hp]
    cases hterminal : g.status.terminal with
    | true =>
      obtain ⟨e,he⟩ := markReady_terminal chess hg hterminal
      rw [he]
      exact ⟨g,.of_failed hg hs fun _ _ => hterminal⟩
    | false =>
      obtain ⟨g',a,ha,hgame,hfound,hchange,hjoined⟩ :=
        markReady_live h hg hterminal hs.guest hs.version
      have hstatus : a.game.status = g'.status := congrArg GameRecord.status hgame
      simp only [Prod.map_fst,Prod.map_snd,ha,ReadyCall.afterMarkReady,hstatus,id]
      by_cases hready : g'.status = .ready
      · rw [if_pos hready]
        exact ⟨g',.of_startIfReady hs hfound hchange hjoined⟩
      · rw [if_neg hready]
        exact ⟨g',.of_snapshot hs hfound (Or.inr hchange) hready hjoined nofun⟩
  | startIfReady =>
    have hjoined := hs.joined (by simp [ReadyCall.reported,hp])
    simp only [ReadyCall.advance,hp]
    rcases startIfReady_found h hg observation with
      ⟨kind,hr⟩ | ⟨hnot,a,hr⟩ | ⟨hready,a,db',hr,hgame,hfound⟩
    · rw [hr]
      exact ⟨g,.of_failed hg hs nofun⟩
    · rw [hr]
      exact ⟨g,.of_snapshot hs hg (Or.inl rfl) hnot hjoined nofun⟩
    · have hchange : GameChange chess g (g.start (truncatedToMillis observation)) := .start hready
      have hstarted : ReadyCall.startedGame a.game =
          .ok ⟨⟨g.blackClockMs,truncatedToMillis observation,some .w,g.whiteClockMs⟩,g.id,
            g.version + 1,g.initialFen⟩ := by
        rw [hgame]
        rfl
      simp only [hr,Prod.map_apply,ReadyCall.afterStartIfReady,if_true,hstarted,id]
      refine ⟨_,.of_snapshot hs hfound (Or.inr hchange) (by simp [PersistedGame.start]) hjoined
        fun s he => ?_⟩
      rw [← Option.some.inj he]
      exact ⟨(hprelude.ready hready).2,congrArg (· + 1) (hprelude.ready hready).1,rfl⟩
  | snapshot started =>
    obtain ⟨view,hview⟩ := snapshot_ok h hg hs.guest observation
    simp only [ReadyCall.advance,hp,hview]
    exact ⟨g,.of_returned hg hp hs view⟩

end Invariant

/-- The calls on a game are those of its players, with the version that they were announced. -/
def RoomEvent.Announced (id : GameId) (guests : List GuestSessionId) : RoomEvent → Prop
  | .call input => input.gameId = id → input.expectedVersion = 0 ∧ input.guestSessionId ∈ guests
  | _ => True

def announcing (id : GameId) (calls : List ReadyCall) : ℕ :=
  calls.countP fun call => call.input.gameId = id ∧ call.announces.isSome

/-- How many results can still have the start set. -/
def startsLeft (id : GameId) (g : PersistedGame) (calls : List ReadyCall) : ℕ :=
  if g.startedAt = none then 1 else announcing id calls

structure RoomSound (chess : ChessEngine) (id : GameId) (guests : List GuestSessionId)
    (room : GameRoom) (g : PersistedGame) : Prop where
  db : room.db.Reachable chess
  found : room.db.games.find id = some g
  players : g.guests = guests
  calls : CallsSound id g room.calls

structure RoomStep (chess : ChessEngine) (id : GameId) (guests : List GuestSessionId)
    (room : GameRoom) (g : PersistedGame) (reply : Option GameRoom.Reply) (room' : GameRoom)
    (g' : PersistedGame) : Prop where
  sound : RoomSound chess id guests room' g'
  row : g' = g ∨ GameChange chess g g'
  refused : ∀ r, reply = some r → r.refuses id → g.status.terminal = true
  started : ∀ s, reply.bind (GameRoom.Reply.started id) = some s →
    s.gameVersion = 2 ∧ g'.startedAt = some s.clocks.observedAt
  left : (if (reply.bind (GameRoom.Reply.started id)).isSome then 1 else 0) +
    startsLeft id g' room'.calls ≤ startsLeft id g room.calls

section Room

variable {chess : ChessEngine} {db db' : Db} {g g' : PersistedGame} {id : GameId}
  {guests : List GuestSessionId} {room : GameRoom} {calls calls' : List ReadyCall}
  {call : ReadyCall} {phase : ReadyPhase}

theorem advance_change (call : ReadyCall) (h : db.Reachable chess) (observation : Micros) :
    (call.advance db observation).2.Reachable chess ∧
      DbChange chess db (call.advance db observation).2 := by
  have hadvance : call.advance db observation =
      ((call.advance db observation).1,(call.advance db observation).2) := rfl
  rcases advance_execute chess hadvance with hsame | ⟨op,hop⟩
  · rw [hsame]
    exact ⟨h,.refl⟩
  · rw [hop]
    exact ⟨h.run [op],execute_change chess db op⟩

theorem CallsSound.row (h : CallsSound id g calls) (hr : g' = g ∨ GameChange chess g g')
    (hg : g.Prelude) (hs : g.Sound) : CallsSound id g' calls := by
  rcases hr with rfl | hc
  · exact h
  · exact h.change hc hg hs

theorem CallsSound.announcing_zero (h : CallsSound id g calls) (hn : g.startedAt = none) :
    announcing id calls = 0 := by
  refine List.countP_eq_zero.mpr fun call hmem hcall => ?_
  obtain ⟨hid,hsome⟩ := of_decide_eq_true hcall
  obtain ⟨s,hs⟩ := Option.isSome_iff_exists.mp hsome
  have hstarted := ((h.sound call hmem hid).started s hs).2
  rw [hn] at hstarted
  cases hstarted

/-- What is left for later, after `n` results with the start set. -/
theorem startsLeft_step (chess : ChessEngine) {n : ℕ} (hrow : g' = g ∨ GameChange chess g g')
    (hg : g.Prelude)
    (hzero : g.startedAt = none → announcing id calls = 0)
    (h : announcing id calls' + n ≤ announcing id calls ∨
      g.startedAt = none ∧ announcing id calls' + n ≤ 1 ∧ (n = 0 ∨ g'.startedAt ≠ none)) :
    n + startsLeft id g' calls' ≤ startsLeft id g calls := by
  unfold startsLeft
  cases hstart : g.startedAt with
  | none =>
    have hcount := hzero hstart
    rw [if_pos rfl]
    split_ifs with hafter
    · rcases h with hle | ⟨_,_,hn | hn⟩
      · omega
      · omega
      · exact absurd hafter hn
    · rcases h with hle | ⟨_,hle,_⟩
      · omega
      · omega
  | some t =>
    have hafter : g'.startedAt = some t := by
      rcases hrow with rfl | hc
      · exact hstart
      · exact hc.startedAt_keep hg hstart
    rw [hafter,if_neg nofun,if_neg nofun]
    rcases h with hle | ⟨hnone,_⟩
    · omega
    · rw [hstart] at hnone
      cases hnone

theorem announcing_set (id : GameId) {index : ℕ} {call' : ReadyCall}
    (hcall : calls[index]? = some call) (hinput : call'.input = call.input) :
    announcing id (calls.set index call') +
        (if call.input.gameId = id ∧ call.announces.isSome then 1 else 0) =
      announcing id calls + if call.input.gameId = id ∧ call'.announces.isSome then 1 else 0 := by
  obtain ⟨hlt,rfl⟩ := List.getElem?_eq_some_iff.mp hcall
  have hle := List.boole_getElem_le_countP (p := fun call : ReadyCall =>
    decide (call.input.gameId = id ∧ call.announces.isSome)) hlt
  unfold announcing
  rw [List.countP_set hlt]
  simp only [decide_eq_true_eq,hinput] at hle ⊢
  omega

theorem RoomSound.prelude (h : RoomSound chess id guests room g) : g.Prelude :=
  h.db.prelude id g h.found

theorem RoomSound.game (h : RoomSound chess id guests room g) : g.Sound :=
  h.db.sound.games id g h.found

theorem RoomSound.goOn (h : RoomSound chess id guests room g) {index : ℕ}
    (hp : room.pending index = some call) (hdb : db'.Reachable chess)
    (hfound : db'.games.find id = some g') (hrow : g' = g ∨ GameChange chess g g')
    (hcall : call.input.gameId = id → Advanced chess id g call phase db' g') :
    RoomStep chess id guests room g (room.goOn index call.input phase db').1
      (room.goOn index call.input phase db').2 g' := by
  obtain ⟨hindex,hopen⟩ := pending_eq hp
  have hcalls := h.calls.row hrow h.prelude h.game
  have hset := announcing_set id hindex (rfl : (⟨call.input,phase⟩ : ReadyCall).input = call.input)
  have hreply : ∀ s, (GameRoom.replyOf call.input phase).bind (GameRoom.Reply.started id) =
      some s → call.input.gameId = id ∧ call.announces = some s ∧
        (⟨call.input,phase⟩ : ReadyCall).announces = none := by
    intro s hs
    cases hphase : phase with
    | returned result =>
      cases result with
      | error e => simp [hphase,GameRoom.replyOf,GameRoom.Reply.started] at hs
      | ok r =>
        simp only [hphase,GameRoom.replyOf,Option.bind_some,GameRoom.Reply.started] at hs
        split_ifs at hs with hid
        exact ⟨hid,((hcall hid).result r hphase).symm.trans hs,rfl⟩
    | _ => simp [hphase,GameRoom.replyOf] at hs
  refine ⟨⟨hdb,hfound,?_,?_⟩,hrow,?_,?_,?_⟩
  · rcases hrow with rfl | hc
    · exact h.players
    · exact (guests_of_seats hc.seats_eq).trans h.players
  · exact hcalls.set hindex rfl fun hid => ⟨(hcall hid).sound,(hcall hid).finished⟩
  · intro r hr hrefuses
    cases hphase : phase with
    | returned result =>
      simp only [GameRoom.goOn,hphase,GameRoom.replyOf,Option.some.injEq] at hr
      subst hr
      cases result with
      | ok r => exact hrefuses.elim
      | error e =>
        cases e with
        | database kind => exact hrefuses.elim
        | service e => exact (hcall hrefuses).refused e hphase
    | _ => simp [GameRoom.goOn,hphase,GameRoom.replyOf] at hr
  · intro s hs
    obtain ⟨hid,hannounces,_⟩ := hreply s hs
    exact (hcalls.sound call (List.mem_of_getElem? hindex) hid).started s hannounces
  · apply startsLeft_step chess hrow h.prelude h.calls.announcing_zero
    change announcing id (room.calls.set index ⟨call.input,phase⟩) + _ ≤ _ ∨ _
    cases hs : (GameRoom.replyOf call.input phase).bind (GameRoom.Reply.started id) with
    | some s =>
      left
      obtain ⟨hid,hannounces,hdone⟩ := hreply s hs
      simp only [hannounces,hid,hdone,Option.isSome_some,Option.isSome_none,and_self,if_true,
        Bool.false_eq_true,and_false,if_false] at hset
      simp only [GameRoom.goOn,hs,Option.isSome_some,if_true]
      omega
    | none =>
      simp only [GameRoom.goOn,hs,Option.isSome_none,Bool.false_eq_true,if_false,true_or,and_true]
      by_cases hnew : call.input.gameId = id ∧ (⟨call.input,phase⟩ : ReadyCall).announces.isSome
      · right
        have hnone := (hcall hnew.1).announces hnew.2
        have hzero := h.calls.announcing_zero hnone
        rw [if_pos hnew] at hset
        exact ⟨hnone,by omega⟩
      · left
        rw [if_neg hnew] at hset
        omega

/-- An operation that answers with a start has started the game. -/
theorem execute_started (hg : db.games.find id = some g) {op : Operation} {s : StartedGame}
    (hs : (GameRoom.Reply.operation op (execute chess db op).1).started id = some s) :
    g.status = .ready ∧ s.gameVersion = g.version + 1 ∧
      ∃ g', (execute chess db op).2.games.find id = some g' ∧
        g'.startedAt = some s.clocks.observedAt := by
  have houtcome := execute_outcome chess db op
  generalize (execute chess db op).1 = answer at hs houtcome
  generalize (execute chess db op).2 = db' at houtcome
  unfold GameRoom.Reply.started at hs
  split at hs
  · rename_i heq
    cases heq
  · rename_i sub heq
    cases heq
    split_ifs at hs with hfresh
    obtain ⟨hdup,hid⟩ := hfresh
    cases houtcome with
    | session _ hanswer _ => cases hanswer
    | allocated _ _ _ hanswer => cases hanswer
    | kept _ hr =>
      cases hr with
      | rejected hrejected => exact hrejected.elim
      | move _ _ _ hreplay =>
        rw [replayResult_duplicate hreplay] at hdup
        cases hdup
    | @wrote key x x' _ hop hw hwrites =>
      cases hwrites with
      | @submitMove m guests observation hm hkey ho hadmitted =>
        subst hm
        obtain rfl : m.game = g := by
          have hself := hw.found
          rw [← Table.find_key hw.found,show m.game.id = id from hid,hg] at hself
          exact (Option.some.inj hself).symm
        simp only [AdmittedMove.submission,AdmittedMove.started] at hs
        split_ifs at hs with hready
        obtain rfl := Option.some.inj hs
        have hkeyId : key = id := (Table.find_key hw.found).symm.trans hid
        refine ⟨hready,if_pos hready,m.row guests,?_,if_pos hready⟩
        rw [← hkeyId]
        exact hw.find_self
  · cases hs

theorem RoomSound.execute (h : RoomSound chess id guests room g) (op : Operation) :
    ∃ g', RoomStep chess id guests room g (room.step chess (.execute op)).1
      (room.step chess (.execute op)).2 g' := by
  have hdb : ((repositories chess).run room.db [op]).Reachable chess := h.db.run [op]
  obtain ⟨g',hfound,hrow⟩ := (execute_change chess room.db op).row h.found
  have hcalls := h.calls.row hrow h.prelude h.game
  refine ⟨g',⟨hdb,hfound,?_,hcalls⟩,hrow,?_,?_,?_⟩
  · rcases hrow with rfl | hc
    · exact h.players
    · exact (guests_of_seats hc.seats_eq).trans h.players
  · rintro r hr hrefuses
    cases hr
    exact hrefuses.elim
  · intro s hs
    obtain ⟨hready,hversion,x,hx,hstarted⟩ := execute_started h.found hs
    obtain rfl : x = g' := Option.some.inj (hx.symm.trans hfound)
    rw [hversion,(h.prelude.ready hready).1]
    exact ⟨rfl,hstarted⟩
  · apply startsLeft_step chess hrow h.prelude h.calls.announcing_zero
    cases hs : (some (GameRoom.Reply.operation op (CluChess.execute chess room.db op).1)).bind
        (GameRoom.Reply.started id) with
    | none =>
      left
      show announcing id room.calls + _ ≤ _
      simp [GameRoom.step,hs]
    | some s =>
      right
      obtain ⟨hready,_,x,hx,hstarted⟩ := execute_started h.found hs
      obtain rfl : x = g' := Option.some.inj (hx.symm.trans hfound)
      have hnone := (h.prelude.ready hready).2
      have hzero := h.calls.announcing_zero hnone
      refine ⟨hnone,?_,Or.inr (by rw [hstarted]; exact nofun)⟩
      show announcing id room.calls + _ ≤ 1
      simp [GameRoom.step,hs,hzero]

theorem RoomSound.quiet (h : RoomSound chess id guests room g) (hcalls : CallsSound id g calls)
    (hle : announcing id calls ≤ announcing id room.calls) :
    RoomStep chess id guests room g none { room with calls := calls } g where
  sound := ⟨h.db,h.found,h.players,hcalls⟩
  row := Or.inl rfl
  refused _ hr := nomatch hr
  started _ hs := nomatch hs
  left := startsLeft_step chess (Or.inl rfl) h.prelude h.calls.announcing_zero
    (Or.inl hle)

/-- Every step keeps what holds of the room. -/
theorem RoomSound.step (h : RoomSound chess id guests room g) {event : RoomEvent}
    (he : event.Announced id guests) :
    ∃ g', RoomStep chess id guests room g (room.step chess event).1
      (room.step chess event).2 g' := by
  cases event with
  | execute op => exact h.execute op
  | call input =>
    have hinput : input.gameId = id →
        input.expectedVersion = 0 ∧ input.guestSessionId ∈ g.guests := by
      rw [h.players]
      exact he
    refine ⟨g,h.quiet (h.calls.push hinput) ?_⟩
    simp [announcing,ReadyCall.announces]
  | abort index kind =>
    cases hp : room.pending index with
    | none =>
      simp only [GameRoom.step,hp]
      exact ⟨g,h.quiet h.calls le_rfl⟩
    | some call =>
      simp only [GameRoom.step,hp]
      obtain ⟨hindex,_⟩ := pending_eq hp
      refine ⟨g,h.goOn hp h.db h.found (Or.inl rfl) fun hid => ?_⟩
      exact .of_failed h.found (h.calls.sound call (List.mem_of_getElem? hindex) hid) nofun
  | advance index observation =>
    cases hp : room.pending index with
    | none =>
      simp only [GameRoom.step,hp]
      exact ⟨g,h.quiet h.calls le_rfl⟩
    | some call =>
      simp only [GameRoom.step,hp]
      obtain ⟨hindex,hopen⟩ := pending_eq hp
      obtain ⟨hdb,hchange⟩ := advance_change call h.db observation
      by_cases hid : call.input.gameId = id
      · obtain ⟨g',hadvanced⟩ := advance_sound chess h.db h.found hid
          (h.calls.sound call (List.mem_of_getElem? hindex) hid) hopen observation
        exact ⟨g',h.goOn hp hdb hadvanced.found hadvanced.row fun _ => hadvanced⟩
      · obtain ⟨g',hfound,hrow⟩ := hchange.row h.found
        exact ⟨g',h.goOn hp hdb hfound hrow fun hsame => absurd hsame hid⟩

end Room

section Start

variable {chess : ChessEngine} {db : Db} {g g' : PersistedGame} {id : GameId}
  {guests : List GuestSessionId} {schedule : List RoomEvent}

abbrev GameRoomEvent := Machine.Event GameRoom RoomEvent (Option GameRoom.Reply)

def takesOff (id : GameId) (e : GameRoomEvent) : Prop :=
  ∃ g g', e.before.db.games.find id = some g ∧ g.status = .ready ∧
    e.after.db.games.find id = some g' ∧ g'.status = .inProgress

/-- The transaction is the start of the game at an instant, and the game then has the version. -/
def startsAt (id : GameId) (startedAt : Millis) (version : ℕ) (e : GameRoomEvent) : Prop :=
  ∃ g g', e.before.db.games.find id = some g ∧ g.status = .ready ∧ g.version + 1 = version ∧
    e.after.db.games.find id = some g' ∧ g'.startedAt = some startedAt

def GameRoom.startedAt (id : GameId) (room : GameRoom) : Option Millis :=
  (room.db.games.find id).bind PersistedGame.startedAt

/-- Every player of the game has a call that has returned its result. -/
def GameRoom.answered (id : GameId) (guests : List GuestSessionId) (room : GameRoom) : Prop :=
  ∀ guest ∈ guests, ∃ call ∈ room.calls, call.input.gameId = id ∧
    call.input.guestSessionId = guest ∧ call.phase.isOk = true

instance (id : GameId) (guests : List GuestSessionId) (room : GameRoom) :
    Decidable (room.answered id guests) :=
  inferInstanceAs (Decidable (∀ guest ∈ guests, ∃ call ∈ room.calls, call.input.gameId = id ∧
    call.input.guestSessionId = guest ∧ call.phase.isOk = true))

/-- Only the two starts set the instant of the start. -/
theorem GameChange.starts (h : GameChange chess g g') (hn : g.startedAt = none)
    (hs : g'.startedAt ≠ none) :
    g.status = .ready ∧ (g'.status = .inProgress ∨ g'.status.terminal = true) := by
  cases h with
  | start hs' => exact ⟨hs',Or.inl rfl⟩
  | @move m guests he hm =>
    subst he
    by_cases hready : m.game.status = .ready
    · refine ⟨hready,?_⟩
      rw [AdmittedMove.row_status]
      cases ht : m.terminal with
      | none => exact Or.inl (if_pos hready)
      | some t =>
        right
        show t.status.toGameStatus.terminal = true
        cases t.status <;> rfl
    · exact absurd ((if_neg hready).trans hn) hs
  | _ => exact absurd hn hs

theorem room_keeps {R : PersistedGame → Prop}
    (hR : ∀ g g', g.Prelude → GameChange chess g g' → R g → R g') (room : GameRoom)
    (event : RoomEvent) (he : event.Announced id guests)
    (h : ∃ g, RoomSound chess id guests room g ∧ R g) :
    ∃ g, RoomSound chess id guests ((gameRooms chess).next room event) g ∧ R g := by
  obtain ⟨g,hroom,hg⟩ := h
  obtain ⟨g',hstep⟩ := hroom.step he
  refine ⟨g',hstep.sound,?_⟩
  rcases hstep.row with rfl | hc
  · exact hg
  · exact hR g g' hroom.prelude hc hg

theorem room_event (h : RoomSound chess id guests ⟨db,[]⟩ g)
    (hs : ∀ event ∈ schedule, event.Announced id guests) {e : GameRoomEvent}
    (he : e ∈ (gameRooms chess).events ⟨db,[]⟩ schedule) :
    ∃ g g', RoomSound chess id guests e.before g ∧
      RoomStep chess id guests e.before g e.answer e.after g' := by
  obtain ⟨⟨x,hx,_⟩,hevent⟩ := (gameRooms chess).events_invariant
    (room_keeps fun _ _ _ _ _ => trivial) ⟨g,h,trivial⟩ hs he
  obtain ⟨x',hx'⟩ := hx.step hevent
  rw [(gameRooms chess).mem_events_eq he]
  exact ⟨x,x',hx,hx'⟩

theorem room_final {R : PersistedGame → Prop}
    (hR : ∀ g g', g.Prelude → GameChange chess g g' → R g → R g')
    (h : RoomSound chess id guests ⟨db,[]⟩ g) (hs : ∀ event ∈ schedule, event.Announced id guests)
    {e : GameRoomEvent} (he : e ∈ (gameRooms chess).events ⟨db,[]⟩ schedule)
    (hafter : ∃ g, e.after.db.games.find id = some g ∧ R g) :
    ∃ g, ((gameRooms chess).run ⟨db,[]⟩ schedule).db.games.find id = some g ∧ R g := by
  obtain ⟨x,x',_,hx'⟩ := room_event h hs he
  obtain ⟨y,hy,hRy⟩ := hafter
  obtain rfl : y = x' := Option.some.inj (hy.symm.trans hx'.sound.found)
  obtain ⟨z,hz,hRz⟩ := (gameRooms chess).final_invariant (room_keeps hR) hs he ⟨y,hx'.sound,hRy⟩
  exact ⟨z,hz.found,hRz⟩

theorem startedAt_eq_some {room : GameRoom} {t : Millis} : room.startedAt id = some t ↔
    ∃ g, room.db.games.find id = some g ∧ g.startedAt = some t := by
  unfold GameRoom.startedAt
  exact Option.bind_eq_some_iff

theorem startedAt_final (h : RoomSound chess id guests ⟨db,[]⟩ g)
    (hs : ∀ event ∈ schedule, event.Announced id guests) {e : GameRoomEvent}
    (he : e ∈ (gameRooms chess).events ⟨db,[]⟩ schedule) {t : Millis}
    (ht : e.after.startedAt id = some t) :
    ((gameRooms chess).run ⟨db,[]⟩ schedule).startedAt id = some t := by
  rw [startedAt_eq_some] at ht ⊢
  exact room_final (fun _ _ hprelude hc hx => hc.startedAt_keep hprelude hx) h hs he ht

theorem ended_final (h : RoomSound chess id guests ⟨db,[]⟩ g)
    (hs : ∀ event ∈ schedule, event.Announced id guests) {e : GameRoomEvent}
    (he : e ∈ (gameRooms chess).events ⟨db,[]⟩ schedule) (ht : Ended id e.after.db) :
    Ended id ((gameRooms chess).run ⟨db,[]⟩ schedule).db := by
  refine room_final (R := fun g => g.status.terminal = true) (fun x x' _ hc hx => ?_) h hs he ht
  rw [hc.not_terminal] at hx
  cases hx

/-- A game that has started has been started by a transaction that found it ready. -/
theorem startsAt_of_started (h : RoomSound chess id guests ⟨db,[]⟩ g) (hn : g.startedAt = none)
    (hs : ∀ event ∈ schedule, event.Announced id guests) {t : Millis}
    (ht : ((gameRooms chess).run ⟨db,[]⟩ schedule).startedAt id = some t) :
    ∃ e ∈ (gameRooms chess).events ⟨db,[]⟩ schedule, startsAt id t 2 e ∧
      (takesOff id e ∨ Ended id e.after.db) := by
  have hbefore : ¬ (GameRoom.startedAt id ⟨db,[]⟩) ≠ none := by
    simp [GameRoom.startedAt,show db.games.find id = some g from h.found,hn]
  have hfinal : ((gameRooms chess).run ⟨db,[]⟩ schedule).startedAt id ≠ none := by simp [ht]
  obtain ⟨e,he,hnone,hsome⟩ := (gameRooms chess).exists_enters
    (P := fun room => room.startedAt id ≠ none) hbefore hfinal
  obtain ⟨t',ht'⟩ := Option.ne_none_iff_exists'.mp hsome
  obtain rfl : t' = t := Option.some.inj ((startedAt_final h hs he ht').symm.trans ht)
  obtain ⟨x,x',hx,hx'⟩ := room_event h hs he
  have hxnone : x.startedAt = none := by
    have hnot := not_not.mp hnone
    rwa [GameRoom.startedAt,hx.found] at hnot
  have hxsome : x'.startedAt = some t' := by
    rwa [GameRoom.startedAt,hx'.sound.found] at ht'
  refine ⟨e,he,?_⟩
  rcases hx'.row with rfl | hc
  · rw [hxnone] at hxsome
    cases hxsome
  · obtain ⟨hready,hstatus⟩ := hc.starts hxnone (by simp [hxsome])
    have hversion : x.version + 1 = 2 := congrArg (· + 1) (hx.prelude.ready hready).1
    refine ⟨⟨x,x',hx.found,hready,hversion,hx'.sound.found,hxsome⟩,?_⟩
    rcases hstatus with hs' | hs'
    · exact Or.inl ⟨x,x',hx.found,hready,hx'.sound.found,hs'⟩
    · exact Or.inr ⟨x',hx'.sound.found,hs'⟩

theorem GameChange.started_of_ready (h : GameChange chess g g') (hs : g.status = .ready)
    (hs' : g'.status = .inProgress) : g'.startedAt ≠ none := by
  cases h with
  | start _ => simp [PersistedGame.start]
  | move he _ =>
    subst he
    exact (if_pos hs).trans_ne (Option.some_ne_none _)
  | join _ _ _ => exact absurd (hs.symm.trans hs') (by decide)
  | leave _ hw => exact absurd (hs.symm.trans hw) (by decide)
  | reconnect _ hw _ => exact absurd (hs.symm.trans hw) (by decide)
  | @finish observation event outcome _ _ =>
    have hterminal := ended_terminal g observation outcome
    rw [hs'] at hterminal
    cases hterminal
  | resign _ hw _ _ _ =>
    rw [hs] at hw
    rcases hw with hw | hw <;> cases hw
  | _ => cases hs'

open Classical in
theorem takesOff_le_one (h : RoomSound chess id guests ⟨db,[]⟩ g)
    (hs : ∀ event ∈ schedule, event.Announced id guests) :
    ((gameRooms chess).events ⟨db,[]⟩ schedule).countP (fun e => decide (takesOff id e)) ≤ 1 := by
  have hcount := (gameRooms chess).countP_le_potential
    (P := fun room => ∃ g, RoomSound chess id guests room g ∧ True)
    (Q := fun event => event.Announced id guests) (K := takesOff id)
    (fun room => if room.startedAt id = none then 1 else 0)
    (room_keeps fun _ _ _ _ _ => trivial) ?_ ⟨g,h,trivial⟩ hs
  · refine Nat.le_trans (Nat.le_trans (Nat.le_add_right _ _) hcount) ?_
    split_ifs <;> omega
  · rintro room event hevent ⟨x,hx,_⟩
    obtain ⟨x',hx'⟩ := hx.step hevent
    have hnow : room.startedAt id = x.startedAt := by rw [GameRoom.startedAt,hx.found]; rfl
    have hthen : ((gameRooms chess).next room event).startedAt id = x'.startedAt :=
      congrArg (Option.bind · PersistedGame.startedAt) hx'.sound.found
    rw [hnow,hthen]
    by_cases htakes : takesOff id ((gameRooms chess).event room event)
    · obtain ⟨y,y',hy,hready,hy',hprogress⟩ := htakes
      obtain rfl : y = x := Option.some.inj (hy.symm.trans hx.found)
      obtain rfl : y' = x' := Option.some.inj (hy'.symm.trans hx'.sound.found)
      have hafter : y'.startedAt ≠ none := by
        rcases hx'.row with rfl | hc
        · rw [hready] at hprogress
          cases hprogress
        · exact hc.started_of_ready hready hprogress
      rw [if_neg hafter,if_pos (hx.prelude.ready hready).2]
      split_ifs <;> omega
    · have hkeep : x.startedAt ≠ none → x'.startedAt ≠ none := by
        intro hsome
        obtain ⟨t,ht⟩ := Option.ne_none_iff_exists'.mp hsome
        rcases hx'.row with rfl | hc
        · exact hsome
        · rw [hc.startedAt_keep hx.prelude ht]
          exact nofun
      rw [if_neg htakes]
      by_cases hbefore : x.startedAt = none
      · rw [if_pos hbefore]
        split_ifs <;> omega
      · rw [if_neg hbefore,if_neg (hkeep hbefore)]

open Classical in
theorem started_le_one (h : RoomSound chess id guests ⟨db,[]⟩ g) (hn : g.startedAt = none)
    (hs : ∀ event ∈ schedule, event.Announced id guests) :
    ((gameRooms chess).events ⟨db,[]⟩ schedule).countP
      (fun e => decide (∃ s, e.answer.bind (GameRoom.Reply.started id) = some s)) ≤ 1 := by
  have hcount := (gameRooms chess).countP_le_potential
    (P := fun room => ∃ g, RoomSound chess id guests room g ∧ True)
    (Q := fun event => event.Announced id guests)
    (K := fun e => ∃ s, e.answer.bind (GameRoom.Reply.started id) = some s)
    (fun room => (room.db.games.find id).elim 0 (startsLeft id · room.calls))
    (room_keeps fun _ _ _ _ _ => trivial) ?_ ⟨g,h,trivial⟩ hs
  · refine Nat.le_trans (Nat.le_trans (Nat.le_add_right _ _) hcount) ?_
    have hone : startsLeft id g [] = 1 := if_pos hn
    simp only [show db.games.find id = some g from h.found,Option.elim_some,hone,le_refl]
  · rintro room event hevent ⟨x,hx,_⟩
    obtain ⟨x',hx'⟩ := hx.step hevent
    have hleft := hx'.left
    rw [show ((gameRooms chess).next room event).db.games.find id = some x' from hx'.sound.found,
      hx.found]
    simp only [Option.isSome_iff_exists] at hleft
    exact hleft

theorem RoomSound.answered_started {room : GameRoom} (h : RoomSound chess id guests room g)
    (ha : room.answered id guests) (hlive : ¬ Ended id room.db) : g.startedAt ≠ none := by
  have hfinished : ∀ guest ∈ guests, ∃ call ∈ room.calls, call.input.gameId = id ∧
      call.input.guestSessionId = guest ∧ call.finished := by
    intro guest hguest
    obtain ⟨call,hmem,hid,hcaller,hok⟩ := ha guest hguest
    exact ⟨call,hmem,hid,hcaller,.of_isOk hok⟩
  have hready : g.status ≠ .ready := by
    intro hready
    obtain ⟨guest,hguest,hnone⟩ := h.calls.waits hready
    obtain ⟨call,hmem,hid,hcaller,hf⟩ := hfinished guest (h.players ▸ hguest)
    exact hnone call hmem hid hcaller hf
  have hwaiting : g.status ≠ .waitingForPlayers := by
    intro hwaiting
    obtain ⟨p,hp,hnot⟩ := waiting_not_joined h.game hwaiting
    have hguest : p.guestSessionId ∈ guests := h.players ▸ List.mem_map_of_mem hp
    obtain ⟨call,hmem,hid,hcaller,hf⟩ := hfinished _ hguest
    have hjoined := (h.calls.sound call hmem hid).joined hf.reported p hp hcaller.symm
    rw [hnot] at hjoined
    cases hjoined
  have hrunning : g.status.started = true := by
    cases hstatus : g.status with
    | waitingForPlayers => exact absurd hstatus hwaiting
    | created => exact absurd hstatus h.game.created
    | ready => exact absurd hstatus hready
    | inProgress => rfl
    | reconnecting => rfl
    | _ => exact absurd ⟨g,h.found,by rw [hstatus]; rfl⟩ hlive
  exact Option.isSome_iff_ne_none.mp (h.db.startedAt_of_started h.found hrunning)

end Start

open Classical in
/-- One start of a game. Both players report ready, as often as they like and each time with the
version that was announced to them; their calls interleave, transaction by transaction, with
every operation of the repositories, first moves among them. As long as the game has not ended
no call is refused. At most one transaction takes the game from `READY` to `IN_PROGRESS`, and
exactly one once both players have been answered. At most one result that is not a duplicate
has the start set, and it has the version and the instant of the transaction that started the
game. That instant never changes. -/
theorem exactly_one_start (chess : ChessEngine) {db : Db} (h : db.Reachable chess) {id : GameId}
    {g : PersistedGame} (hg : db.games.find id = some g) (hs : g.status = .waitingForPlayers)
    (schedule : List RoomEvent) (hcalls : ∀ event ∈ schedule, event.Announced id g.guests) :
    (∀ e ∈ (gameRooms chess).events ⟨db,[]⟩ schedule, ∀ r, e.answer = some r → r.refuses id →
      Ended id e.before.db) ∧
    ((gameRooms chess).events ⟨db,[]⟩ schedule).countP (fun e => decide (takesOff id e)) ≤ 1 ∧
    (((gameRooms chess).run ⟨db,[]⟩ schedule).answered id g.guests →
      ¬ Ended id ((gameRooms chess).run ⟨db,[]⟩ schedule).db →
      ((gameRooms chess).events ⟨db,[]⟩ schedule).countP (fun e => decide (takesOff id e)) = 1) ∧
    ((gameRooms chess).events ⟨db,[]⟩ schedule).countP
      (fun e => decide (∃ s, e.answer.bind (GameRoom.Reply.started id) = some s)) ≤ 1 ∧
    (∀ e ∈ (gameRooms chess).events ⟨db,[]⟩ schedule, ∀ s,
      e.answer.bind (GameRoom.Reply.started id) = some s →
      ∃ e' ∈ (gameRooms chess).events ⟨db,[]⟩ schedule,
        startsAt id s.clocks.observedAt s.gameVersion e') ∧
    ∀ e ∈ (gameRooms chess).events ⟨db,[]⟩ schedule, ∀ t, e.after.startedAt id = some t →
      ((gameRooms chess).run ⟨db,[]⟩ schedule).startedAt id = some t := by
  have hroom : RoomSound chess id g.guests ⟨db,[]⟩ g := by
    refine ⟨h,hg,rfl,fun _ hmem => absurd hmem List.not_mem_nil,fun hready => ?_⟩
    rw [hs] at hready
    cases hready
  have hnone : g.startedAt = none := (hroom.prelude.waiting hs).2
  have hone := takesOff_le_one hroom hcalls
  refine ⟨?_,hone,?_,started_le_one hroom hnone hcalls,?_,fun e he t ht =>
    startedAt_final hroom hcalls he ht⟩
  · intro e he r hr hrefuses
    obtain ⟨x,x',hx,hx'⟩ := room_event hroom hcalls he
    exact ⟨x,hx.found,hx'.refused r hr hrefuses⟩
  · intro hanswered hlive
    obtain ⟨x,hx,_⟩ := (gameRooms chess).run_invariant (room_keeps fun _ _ _ _ _ => trivial)
      ⟨g,hroom,trivial⟩ hcalls
    obtain ⟨t,ht⟩ := Option.ne_none_iff_exists'.mp (hx.answered_started hanswered hlive)
    obtain ⟨e,he,_,htakes⟩ := startsAt_of_started hroom hnone hcalls
      (startedAt_eq_some.mpr ⟨x,hx.found,ht⟩)
    have htakes : takesOff id e := htakes.resolve_right fun hended =>
      hlive (ended_final hroom hcalls he hended)
    have hpos : 0 < ((gameRooms chess).events ⟨db,[]⟩ schedule).countP
        (fun e => decide (takesOff id e)) :=
      List.countP_pos_iff.mpr ⟨e,he,decide_eq_true htakes⟩
    omega
  · intro e he s hs'
    obtain ⟨x,x',hx,hx'⟩ := room_event hroom hcalls he
    obtain ⟨hversion,hstarted⟩ := hx'.started s hs'
    have hafter : e.after.startedAt id = some s.clocks.observedAt :=
      startedAt_eq_some.mpr ⟨x',hx'.sound.found,hstarted⟩
    obtain ⟨e',he',hstarts,_⟩ := startsAt_of_started hroom hnone hcalls
      (startedAt_final hroom hcalls he hafter)
    rw [hversion]
    exact ⟨e',he',hstarts⟩

section Sample

/-- Both players report ready at once, and White's first report comes again after the start. -/
def sampleReports : List RoomEvent :=
  [.call ⟨0,sampleId 10,sampleId 1,1000⟩,.call ⟨0,sampleId 10,sampleId 2,1000⟩,
    .advance 0 1000000,.advance 1 1000000,.advance 0 2000000,.advance 1 2000000,
    .call ⟨0,sampleId 10,sampleId 1,1000⟩,.advance 2 3000000,.advance 2 3000000,
    .advance 1 3000000]

end Sample

open Classical in
theorem exactly_one_start_sample :
    ((gameRooms sampleEngine).events ⟨sampleRun [.allocate sampleAllocation],[]⟩
      sampleReports).countP (fun e => decide (takesOff (sampleId 10) e)) = 1 := by
  have hg : (sampleRun [.allocate sampleAllocation]).games.find (sampleId 10) =
      some (newGameRow sampleAllocation) := by decide +kernel
  have hannounced : ∀ event ∈ sampleReports,
      event.Announced (sampleId 10) (newGameRow sampleAllocation).guests := by
    intro event he
    simp only [sampleReports,List.mem_cons,List.not_mem_nil,or_false] at he
    rcases he with rfl | rfl | rfl | rfl | rfl | rfl | rfl | rfl | rfl | rfl
    all_goals simp [RoomEvent.Announced] <;> decide
  have hanswered : ((gameRooms sampleEngine).run ⟨sampleRun [.allocate sampleAllocation],[]⟩
      sampleReports).answered (sampleId 10) (newGameRow sampleAllocation).guests := by
    decide +kernel
  have hstatus : (((gameRooms sampleEngine).run ⟨sampleRun [.allocate sampleAllocation],[]⟩
      sampleReports).db.games.find (sampleId 10)).map (fun g => g.status.terminal) =
        some false := by decide +kernel
  have hlive : ¬ Ended (sampleId 10) ((gameRooms sampleEngine).run
      ⟨sampleRun [.allocate sampleAllocation],[]⟩ sampleReports).db := by
    rintro ⟨g,hfound,hterminal⟩
    rw [hfound,Option.map_some,hterminal] at hstatus
    cases hstatus
  exact (exactly_one_start sampleEngine (sampleRun_reachable _) hg rfl sampleReports
    hannounced).2.2.1 hanswered hlive

end CluChess
