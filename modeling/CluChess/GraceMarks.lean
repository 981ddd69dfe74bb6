import CluChess.DurableDatabase
import CluChess.TerminalOutcome

/-! The disconnect marks of the players of a running game: what each transaction does to
them. Only `markDisconnected` sets a mark, only `markReconnected` clears one while the game
runs, and each does so for its own guest. -/
namespace CluChess

def PersistedGame.mark (g : PersistedGame) (guest : GuestSessionId) : Option Bool :=
  if g.status.started then (g.playerFor guest).map fun p => p.disconnectedAt.isSome else none

def Db.mark (db : Db) (id : GameId) (guest : GuestSessionId) : Option Bool :=
  (db.games.find id).bind fun g => g.mark guest

def Underway (id : GameId) (db : Db) : Prop :=
  ∃ g, db.games.find id = some g ∧ (g.status.started = true ∨ g.status.terminal = true)

/-- The mark is kept, or the game runs no more. -/
def Db.KeepsMark (id : GameId) (guest : GuestSessionId) (db db' : Db) : Prop :=
  db'.mark id guest = db.mark id guest ∨ db'.mark id guest = none

variable {chess : ChessEngine} {db db' : Db} {id : GameId} {guest other : GuestSessionId}

section Rows

variable {g g' : PersistedGame}

theorem PersistedGame.mark_of_started (h : g.status.started = true) :
    g.mark guest = (g.playerFor guest).map fun p => p.disconnectedAt.isSome := if_pos h

theorem PersistedGame.mark_of_terminal (h : g.status.terminal = true) : g.mark guest = none := by
  have hn : g.status.started ≠ true := by
    intro hs
    rw [GameStatus.not_terminal_of_started hs] at h
    cases h
  exact if_neg hn

theorem PersistedGame.playerFor_mapPlayer (slot : ℕ) {data : GamePlayer → GamePlayer}
    (h : ∀ p, (data p).guestSessionId = p.guestSessionId) :
    (g.mapPlayer slot data).playerFor guest =
      (g.playerFor guest).map fun p => if p.slot = slot then data p else p := by
  have hsame : ∀ p : GamePlayer, (if p.slot = slot then data p else p).guestSessionId =
      p.guestSessionId := by
    intro p
    split_ifs
    · exact h p
    · rfl
  simp only [mapPlayer,playerFor,List.find?_map,Function.comp_def,hsame]

/-- A write of the row of one player is seen by that player and by no other. -/
theorem PersistedGame.Sound.playerFor_mapPlayer_eq (hs : g.Sound) {player : GamePlayer}
    (hp : g.playerFor guest = some player) {data : GamePlayer → GamePlayer}
    (h : ∀ p, (data p).guestSessionId = p.guestSessionId) (other : GuestSessionId) :
    (g.mapPlayer player.slot data).playerFor other =
      if other = guest then some (data player) else g.playerFor other := by
  rw [playerFor_mapPlayer player.slot h]
  split_ifs with ho
  · rw [ho,hp]
    simp
  · obtain ⟨hmem,hguest⟩ := playerFor_mem hp
    cases hq : g.playerFor other with
    | none => rfl
    | some q =>
      obtain ⟨hqmem,hqguest⟩ := playerFor_mem hq
      have hslot : q.slot ≠ player.slot := by
        obtain ⟨p₀,p₁,hpair,h0,h1,_⟩ := hs.pair
        rw [hpair] at hmem hqmem
        simp only [List.mem_cons,List.not_mem_nil,or_false] at hmem hqmem
        rcases hmem with rfl | rfl <;> rcases hqmem with rfl | rfl
        · exact absurd (hqguest.symm.trans hguest) ho
        · omega
        · omega
        · exact absurd (hqguest.symm.trans hguest) ho
      simp [hslot]

end Rows

section Changes

theorem Db.Wrote.mark {k : GameId} {g g' : PersistedGame} (h : db.Wrote chess k g g' db') :
    db'.mark id guest = if id = k then g'.mark guest else db.mark id guest := by
  rw [Db.mark,h.find]
  split_ifs <;> rfl

theorem Db.Wrote.keepsMark {k : GameId} {g g' : PersistedGame} (h : db.Wrote chess k g g' db')
    (hrow : k = id → g'.mark guest = g.mark guest ∨ g'.mark guest = none) :
    db.KeepsMark id guest db' := by
  rw [Db.KeepsMark,h.mark]
  by_cases hk : id = k
  · rw [if_pos hk,Db.mark,hk,h.found]
    exact hrow hk.symm
  · exact Or.inl (if_neg hk)

theorem Underway.status (h : Underway id db) {g : PersistedGame}
    (hg : db.games.find id = some g) : g.status ≠ .waitingForPlayers ∧ g.status ≠ .ready := by
  obtain ⟨x,hx,hs⟩ := h
  cases hg.symm.trans hx
  constructor <;> intro he <;> simp [he,GameStatus.started,GameStatus.terminal] at hs

theorem GameChange.underway {g g' : PersistedGame} (h : GameChange chess g g')
    (hs : g.status.started = true) : g'.status.started = true ∨ g'.status.terminal = true := by
  cases h with
  | join _ _ _ => exact Or.inl hs
  | ready _ hw _ => simp [hw,GameStatus.started] at hs
  | start hr => simp [hr,GameStatus.started] at hs
  | @move m guests hg _ =>
    subst hg
    rw [m.row_status]
    cases m.terminal with
    | none =>
      left
      show (if m.game.status = .ready then GameStatus.inProgress else m.game.status).started = true
      split_ifs
      · rfl
      · exact hs
    | some t =>
      right
      show t.status.toGameStatus.terminal = true
      cases t.status <;> rfl
  | leave _ hw => simp [hw,GameStatus.started] at hs
  | disconnect _ _ _ _ => exact Or.inl rfl
  | reconnect _ _ _ =>
    left
    simp only [PersistedGame.resumed]
    split_ifs <;> rfl
  | finish _ _ => exact Or.inr (ended_terminal g _ _)
  | @resign _ observation outcome _ _ _ _ _ _ =>
    exact Or.inr (ended_terminal g observation outcome)

theorem DbChange.underway (h : DbChange chess db db') (hu : Underway id db) :
    Underway id db' := by
  obtain ⟨g,hg,hs⟩ := hu
  rcases hs with hs | ht
  · rcases h.find_some hg with hkeep | ⟨g',hg',hchange⟩
    · exact ⟨g,hkeep,Or.inl hs⟩
    · exact ⟨g',hg',hchange.underway hs⟩
  · exact ⟨g,h.find_ended hg ht,Or.inr ht⟩

theorem mark_join {g : PersistedGame} (slot : ℕ) (observedAt : Millis) :
    (g.mapPlayer slot (GamePlayer.join observedAt)).mark guest = g.mark guest := by
  have hsame : ∀ p : GamePlayer,
      (if p.slot = slot then p.join observedAt else p).disconnectedAt = p.disconnectedAt := by
    intro p
    split_ifs <;> rfl
  have hplayer : (g.mapPlayer slot (GamePlayer.join observedAt)).playerFor guest =
      (g.playerFor guest).map fun p => if p.slot = slot then p.join observedAt else p :=
    PersistedGame.playerFor_mapPlayer slot fun _ => rfl
  unfold PersistedGame.mark
  rw [hplayer,Option.map_map]
  simp only [Function.comp_def,hsame]
  rfl

theorem mark_move {m : AdmittedMove} {guests : GuestSessionId × GuestSessionId}
    (hready : m.game.status ≠ .ready) :
    (m.row guests).mark guest = m.game.mark guest ∨ (m.row guests).mark guest = none := by
  have hstatus := m.row_status guests
  cases ht : m.terminal with
  | some t =>
    right
    apply PersistedGame.mark_of_terminal
    rw [hstatus,ht]
    show t.status.toGameStatus.terminal = true
    cases t.status <;> rfl
  | none =>
    left
    simp only [ht,if_neg hready] at hstatus
    have hplayers : (m.row guests).players = m.game.players := by
      simp [AdmittedMove.row,PersistedGame.addCommand,PersistedGame.addMove,
        AdmittedMove.updateRow,ht]
    unfold PersistedGame.mark PersistedGame.playerFor
    rw [hstatus,hplayers]

theorem Writes.keepsMark {op : Operation} {answer : Answer} {g g' : PersistedGame}
    (h : Writes chess g op answer g') (hop : op.isGrace = false) (hready : g.status ≠ .ready) :
    g'.mark guest = g.mark guest ∨ g'.mark guest = none := by
  cases h with
  | @join _ player _ => exact Or.inl (mark_join player.slot _)
  | ready _ _ => exact Or.inr rfl
  | startIfReady hs => exact absurd hs hready
  | submitMove hg _ _ _ =>
    subst hg
    exact mark_move hready
  | @resign _ _ observation outcome _ _ _ _ _ =>
    exact Or.inr (PersistedGame.mark_of_terminal (ended_terminal g observation outcome))
  | reset _ _ _ => exact Or.inr (PersistedGame.mark_of_terminal (ended_terminal g _ _))
  | adjudicate _ _ _ => exact Or.inr (PersistedGame.mark_of_terminal (ended_terminal g _ _))
  | _ => cases hop

/-- An operation that is not a grace operation keeps the marks of a game that has started. -/
theorem execute_keepsMark (chess : ChessEngine) (hu : Underway id db) {op : Operation}
    (hop : op.isGrace = false) : db.KeepsMark id guest (execute chess db op).2 := by
  cases execute_outcome chess db op with
  | session _ _ h =>
    exact Or.inl (congrArg (fun games => (Table.find games id).bind fun g =>
      PersistedGame.mark g guest) (Outcome.frame_session h).1)
  | kept h _ => exact Or.inl (congrArg (Db.mark · id guest) h)
  | @allocated input _ _ _ h _ =>
    obtain ⟨g,hg,_⟩ := hu
    have hne : id ≠ input.gameId := by
      rintro rfl
      have hfresh : db.games.find input.gameId = none := (Table.insert_fresh h.games).1
      rw [hg] at hfresh
      cases hfresh
    exact Or.inl (by rw [Db.mark,h.find,if_neg hne]; rfl)
  | wrote _ hw hr => exact hw.keepsMark fun hk => hr.keepsMark hop (hu.status (hk ▸ hw.found)).2

end Changes

section Grace

theorem Db.Sound.assignedGame_of_mark (h : db.Sound) {b : Bool}
    (hm : db.mark id guest = some b) : db.assignedGame guest = some id := by
  obtain ⟨g,hg,hmark⟩ := Option.bind_eq_some_iff.mp hm
  unfold PersistedGame.mark at hmark
  split_ifs at hmark with hs
  obtain ⟨p,hp,_⟩ := Option.map_eq_some_iff.mp hmark
  obtain ⟨hmem,hguest⟩ := playerFor_mem hp
  have ha := h.players id g hg (GameStatus.not_terminal_of_started hs) p hmem
  rw [hguest] at ha
  rw [Db.assignedGame,ha]
  rfl

/-- What a grace operation of `guest` does to the marks of a game: its own becomes `b`. -/
def Db.SetsMark (id : GameId) (guest : GuestSessionId) (b : Bool) (db db' : Db) : Prop :=
  ∀ other, db'.mark id other =
    if other = guest then (db.mark id guest).map fun _ => b else db.mark id other

theorem Db.SetsMark.same {b : Bool} (h : ∀ x, db.mark id guest = some x → x = b)
    (hsame : ∀ other, db'.mark id other = db.mark id other) : db.SetsMark id guest b db' := by
  intro other
  rw [hsame]
  split_ifs with ho
  · rw [ho]
    cases hm : db.mark id guest with
    | none => rfl
    | some x => rw [h x hm]; rfl
  · rfl

theorem Db.Wrote.setsMark {k : GameId} {g g' : PersistedGame} {player : GamePlayer} {b : Bool}
    (h : db.Wrote chess k g g' db') (hs : db.Sound) (ha : db.assignedGame guest = some k)
    (hp : g.playerFor guest = some player) (hstarted : g.status.started = true)
    (hstarted' : g'.status.started = true)
    (hplayers : ∃ data : GamePlayer → GamePlayer,
      (∀ p, (data p).guestSessionId = p.guestSessionId) ∧
      (data player).disconnectedAt.isSome = b ∧
      g'.players = (g.mapPlayer player.slot data).players) : db.SetsMark id guest b db' := by
  by_cases hk : id = k
  · obtain ⟨data,hguest,hdata,hplayers⟩ := hplayers
    intro other
    have hg' : g'.playerFor other = (g.mapPlayer player.slot data).playerFor other := by
      rw [PersistedGame.playerFor,hplayers]
      rfl
    have hold : ∀ x, db.mark id x = (g.playerFor x).map fun p => p.disconnectedAt.isSome := by
      intro x
      rw [Db.mark,hk,h.found]
      exact PersistedGame.mark_of_started hstarted
    rw [h.mark,if_pos hk,PersistedGame.mark_of_started hstarted',hg',hold,hold,
      (hs.games k g h.found).playerFor_mapPlayer_eq hp hguest other]
    split_ifs
    · rw [hp,Option.map_some,Option.map_some,Option.map_some,hdata]
    · rfl
  · refine Db.SetsMark.same (fun x hx => ?_) fun other => by rw [h.mark,if_neg hk]
    rw [hs.assignedGame_of_mark hx] at ha
    exact absurd (Option.some.inj ha) hk

theorem markDisconnected_mark (chess : ChessEngine) (hs : db.Sound) (hu : Underway id db)
    {graceMs : ℤ} {observation : Micros} {answer : Option PlayerDisconnected}
    (h : db.markDisconnected guest (db.assignedGame guest) graceMs observation =
      (.ok answer,db')) : db.SetsMark id guest true db' := by
  obtain ⟨r,db₁,hw,_,hdb⟩ := Db.answered_cases (congrArg Prod.fst h)
  have hdb' : db₁ = db' := hdb.symm.trans (congrArg Prod.snd h)
  subst hdb'
  rcases markDisconnectedInTransaction_ok chess hw with
    ⟨rfl,_,hset⟩ | ⟨k,g,player,ha,hp,hwaiting,_,hwrote⟩ | ⟨k,g,player,ha,hp,hstarted,_,hwrote⟩
  · refine Db.SetsMark.same (fun x hx => ?_) fun _ => rfl
    obtain ⟨g,hg,hmark⟩ := Option.bind_eq_some_iff.mp hx
    unfold PersistedGame.mark at hmark
    split_ifs at hmark with hstarted
    obtain ⟨p,hp,rfl⟩ := Option.map_eq_some_iff.mp hmark
    exact Option.isSome_iff_ne_none.mpr
      (hset id g p (hs.assignedGame_of_mark hx) hg hp hstarted)
  · have hk : id ≠ k := fun he => (hu.status (he ▸ hwrote.found)).1 hwaiting
    refine Db.SetsMark.same (fun x hx => ?_) fun other => by rw [hwrote.mark,if_neg hk]
    rw [hs.assignedGame_of_mark hx] at ha
    exact absurd (Option.some.inj ha) hk
  · exact hwrote.setsMark hs ha hp hstarted rfl ⟨GamePlayer.disconnect _ _,fun _ => rfl,rfl,rfl⟩

theorem markReconnected_mark (chess : ChessEngine) (hs : db.Sound) {observation : Micros}
    {answer : Option PlayerReconnected}
    (h : db.markReconnected guest (db.assignedGame guest) observation = (.ok answer,db')) :
    db.SetsMark id guest false db' := by
  obtain ⟨r,db₁,hw,_,hdb⟩ := Db.answered_cases (congrArg Prod.fst h)
  have hdb' : db₁ = db' := hdb.symm.trans (congrArg Prod.snd h)
  subst hdb'
  rcases markReconnectedInTransaction_ok chess hw with
    ⟨rfl,_,hclear⟩ | ⟨k,g,player,ha,hp,hstatus,_,hwrote⟩
  · refine Db.SetsMark.same (fun x hx => ?_) fun _ => rfl
    obtain ⟨g,hg,hmark⟩ := Option.bind_eq_some_iff.mp hx
    unfold PersistedGame.mark at hmark
    split_ifs at hmark with hstarted
    obtain ⟨p,hp,rfl⟩ := Option.map_eq_some_iff.mp hmark
    -- a player in grace makes the game wait for the reconnect
    by_contra hd
    have hsome : p.disconnectedAt.isSome = true := by
      simpa [Option.isSome_iff_ne_none] using hd
    have hreconnecting := (hs.games id g hg).grace.reconnecting.mpr
      ⟨p,(playerFor_mem hp).1,hsome⟩
    have hnone := hclear id g p (hs.assignedGame_of_mark hx) hg hp hreconnecting
    rw [hnone] at hsome
    cases hsome
  · have hstarted : g.status.started = true := by rw [hstatus]; rfl
    refine hwrote.setsMark hs ha hp hstarted ?_ ⟨GamePlayer.reconnect _,fun _ => rfl,rfl,rfl⟩
    simp only [PersistedGame.resumed]
    split_ifs <;> rfl

end Grace

end CluChess
