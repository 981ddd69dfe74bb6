import CluChess.DurableGame

/-! The invariant of the database: every game row is sound, a match has one game, and the
active assignments are those of the players of the games that have not ended. -/
namespace CluChess

/-- What holds of every reachable database. -/
structure Db.Sound (db : Db) : Prop where
  games : ∀ id g, db.games.find id = some g → g.Sound
  matches_ : ∀ id id' g g', db.games.find id = some g → db.games.find id' = some g' →
    g.matchId = g'.matchId → id = id'
  assigned : ∀ a ∈ db.assignments.rows, ∃ g, db.games.find a.gameId = some g ∧
    g.status.terminal = false ∧ ∃ p ∈ g.players, p.guestSessionId = a.guestSessionId
  players : ∀ id g, db.games.find id = some g → g.status.terminal = false →
    ∀ p ∈ g.players, db.assignments.find p.guestSessionId = some ⟨p.guestSessionId,id⟩

section Database

variable {chess : ChessEngine} {db db' : Db}

theorem Db.initial_sound (guestSessions : Table GuestSession.id)
    (sessionCommands : Table SessionCommand.idempotencyHash) :
    (Db.initial guestSessions sessionCommands).Sound :=
  ⟨by simp [Db.initial],by simp [Db.initial],by simp [Db.initial,Table.empty],
    by simp [Db.initial]⟩

/-- The guests of a game are those of its seats. -/
theorem mem_guests_iff {g g' : PersistedGame}
    (h : g'.players.map GamePlayer.seat = g.players.map GamePlayer.seat) (guest : GuestSessionId) :
    (∃ p ∈ g'.players, p.guestSessionId = guest) ↔ ∃ p ∈ g.players, p.guestSessionId = guest := by
  have hseat : ∀ l : List GamePlayer, (∃ p ∈ l, p.guestSessionId = guest) ↔
      ∃ s ∈ l.map GamePlayer.seat, s.2.1 = guest := by
    intro l
    simp [GamePlayer.seat]
  rw [hseat,hseat,h]

theorem settle_assignments_of_not_terminal {g : PersistedGame} (h : g.status.terminal = false) :
    (db.settle g).assignments = db.assignments := by
  rw [settle_of_not_terminal h]
  rfl

theorem settle_assignments_of_terminal {g : PersistedGame} (h : g.status.terminal = true) :
    (db.settle g).assignments = db.assignments.deleteWhere fun a => a.gameId = g.id := by
  simp only [Db.settle,h,if_true]
  rfl

theorem Db.Wrote.sound {id : GameId} {g g' : PersistedGame} (h : db.Wrote chess id g g' db')
    (hs : db.Sound) : db'.Sound := by
  have hfind := h.find
  have hid : g'.id = id := h.change.id_eq.trans (Table.find_key h.found)
  constructor
  · intro k x hx
    rw [hfind] at hx
    split_ifs at hx with hk
    · cases hx
      exact h.change.sound (hs.games id g h.found)
    · exact hs.games k x hx
  · intro k k' x x' hx hx' hm
    have hold : ∀ j y, db'.games.find j = some y →
        ∃ z, db.games.find j = some z ∧ z.matchId = y.matchId := by
      intro j y hy
      rw [hfind] at hy
      split_ifs at hy with hj
      · cases hy
        exact ⟨g,hj ▸ h.found,h.change.matchId_eq.symm⟩
      · exact ⟨y,hy,rfl⟩
    obtain ⟨z,hz,hzm⟩ := hold k x hx
    obtain ⟨z',hz',hzm'⟩ := hold k' x' hx'
    exact hs.matches_ k k' z z' hz hz' (by rw [hzm,hzm',hm])
  · intro a ha
    cases ht : g'.status.terminal with
    | false =>
      rw [h.result,settle_assignments_of_not_terminal ht] at ha
      obtain ⟨x,hx,hxt,hxp⟩ := hs.assigned a ha
      by_cases hk : a.gameId = id
      · rw [hk,h.found] at hx
        cases hx
        refine ⟨g',by rw [hk,h.find_self],ht,?_⟩
        exact (mem_guests_iff h.change.seats_eq _).mpr hxp
      · exact ⟨x,by rw [hfind,if_neg hk]; exact hx,hxt,hxp⟩
    | true =>
      rw [h.result,settle_assignments_of_terminal ht] at ha
      obtain ⟨ha,hne⟩ := Table.mem_deleteWhere.mp ha
      have hk : a.gameId ≠ id := by simpa [hid] using hne
      obtain ⟨x,hx,hxt,hxp⟩ := hs.assigned a ha
      exact ⟨x,by rw [hfind,if_neg hk]; exact hx,hxt,hxp⟩
  · intro k x hx hxt p hp
    have hold : ∃ y, db.games.find k = some y ∧ y.status.terminal = false ∧
        ∃ q ∈ y.players, q.guestSessionId = p.guestSessionId := by
      rw [hfind] at hx
      split_ifs at hx with hk
      · cases hx
        exact ⟨g,hk ▸ h.found,h.change.not_terminal,
          (mem_guests_iff h.change.seats_eq _).mp ⟨p,hp,rfl⟩⟩
      · exact ⟨x,hx,hxt,p,hp,rfl⟩
    obtain ⟨y,hy,hyt,q,hq,hqp⟩ := hold
    have ha := hs.players k y hy hyt q hq
    rw [hqp] at ha
    rw [h.result]
    cases ht : g'.status.terminal with
    | false => rw [settle_assignments_of_not_terminal ht]; exact ha
    | true =>
      have hk : k ≠ id := by
        rintro rfl
        rw [h.find_self] at hx
        cases hx
        rw [ht] at hxt
        cases hxt
      rw [settle_assignments_of_terminal ht,Table.find_deleteWhere,ha]
      simp [hid,hk]

theorem assigned_of_mem {a : ActiveGameAssignment} (h : a ∈ db.assignments.rows) :
    db.assignments.find a.guestSessionId = some a := Table.find_of_mem h

theorem Db.Allocated.mem_assignments {input : AllocateGame} (h : db.Allocated input db')
    (a : ActiveGameAssignment) : a ∈ db'.assignments.rows ↔ a ∈ db.assignments.rows ∨
      a = ⟨input.whiteGuestSessionId,input.gameId⟩ ∨ a = ⟨input.blackGuestSessionId,input.gameId⟩ := by
  rw [(createAssignments_ok h.assignments).1]
  simp only [List.mem_append,List.mem_map,List.mem_insertionSort,List.mem_cons,List.not_mem_nil,
    or_false]
  constructor
  · rintro (ha | ⟨guest,rfl | rfl,rfl⟩)
    · exact Or.inl ha
    · exact Or.inr (Or.inl rfl)
    · exact Or.inr (Or.inr rfl)
  · rintro (ha | rfl | rfl)
    · exact Or.inl ha
    · exact Or.inr ⟨_,Or.inl rfl,rfl⟩
    · exact Or.inr ⟨_,Or.inr rfl,rfl⟩

theorem Db.Allocated.find {input : AllocateGame} (h : db.Allocated input db') (k : GameId) :
    db'.games.find k = if k = input.gameId then some (newGameRow input) else db.games.find k :=
  Table.find_insert h.games k

theorem Db.Allocated.sound {input : AllocateGame}
    (hd : input.whiteGuestSessionId ≠ input.blackGuestSessionId) (h : db.Allocated input db')
    (hs : db.Sound) : db'.Sound := by
  have hfind := h.find
  have hfresh : db.games.find input.gameId = none := (Table.insert_fresh h.games).1
  have hmatch : ∀ k x, db.games.find k = some x → x.matchId ≠ input.matchId := by
    intro k x hx
    have hnone := h.fresh
    unfold Db.gameByMatchId at hnone
    rw [List.find?_eq_none] at hnone
    simpa using hnone x (Table.find_mem hx)
  constructor
  · intro k x hx
    rw [hfind] at hx
    split_ifs at hx with hk
    · cases hx
      exact newGameRow_sound hd h.checks
    · exact hs.games k x hx
  · intro k k' x x' hx hx' hm
    rw [hfind] at hx hx'
    split_ifs at hx hx' with hk hk' hk'
    · rw [hk,hk']
    · cases hx
      exact absurd hm.symm (hmatch k' x' hx')
    · cases hx'
      exact absurd hm (hmatch k x hx)
    · exact hs.matches_ k k' x x' hx hx' hm
  · intro a ha
    have hnew : ∀ guest, (∃ p ∈ (newGameRow input).players, p.guestSessionId = guest) →
        a = ⟨guest,input.gameId⟩ → ∃ x, db'.games.find a.gameId = some x ∧
          x.status.terminal = false ∧ ∃ p ∈ x.players, p.guestSessionId = a.guestSessionId := by
      rintro guest hp rfl
      exact ⟨newGameRow input,by rw [hfind,if_pos rfl],rfl,hp⟩
    rcases (h.mem_assignments a).mp ha with ha | ha | ha
    · obtain ⟨x,hx,hxt,hxp⟩ := hs.assigned a ha
      have hk : a.gameId ≠ input.gameId := by
        intro he
        rw [he,hfresh] at hx
        cases hx
      exact ⟨x,by rw [hfind,if_neg hk]; exact hx,hxt,hxp⟩
    · exact hnew _ (by simp [newGameRow]) ha
    · exact hnew _ (by simp [newGameRow]) ha
  · intro k x hx hxt p hp
    rw [hfind] at hx
    split_ifs at hx with hk
    · cases hx
      subst hk
      refine assigned_of_mem (a := ⟨p.guestSessionId,input.gameId⟩)
        ((h.mem_assignments _).mpr ?_)
      simp only [newGameRow,List.mem_cons,List.not_mem_nil,or_false] at hp
      rcases hp with rfl | rfl
      · exact Or.inr (Or.inl rfl)
      · exact Or.inr (Or.inr rfl)
    · have ha := hs.players k x hx hxt p hp
      exact assigned_of_mem (a := ⟨p.guestSessionId,k⟩)
        ((h.mem_assignments _).mpr (Or.inl (Table.find_mem ha)))

theorem DbChange.sound (h : DbChange chess db db') (hs : db.Sound) : db'.Sound := by
  cases h with
  | frame hg ha =>
    constructor
    · rw [hg]; exact hs.games
    · rw [hg]; exact hs.matches_
    · rw [hg,ha]; exact hs.assigned
    · rw [hg,ha]; exact hs.players
  | allocate hd h => exact h.sound hd hs
  | game h => exact h.sound hs

theorem Db.Reachable.sound (h : db.Reachable chess) : db.Sound :=
  h.invariant Db.initial_sound fun _ _ => DbChange.sound

theorem Db.run_sound (chess : ChessEngine) (guestSessions : Table GuestSession.id)
    (sessionCommands : Table SessionCommand.idempotencyHash) (operations : List Operation) :
    ((repositories chess).run (.initial guestSessions sessionCommands) operations).Sound :=
  Db.Reachable.sound ⟨guestSessions,sessionCommands,operations,rfl⟩

/-- The rows of `active_game_assignments` of a game that has not ended. -/
theorem Db.Sound.assignmentsOf_perm (h : db.Sound) {id : GameId} {g : PersistedGame}
    (hg : db.games.find id = some g) (ht : g.status.terminal = false) :
    (db.assignmentsOf id).Perm (g.players.map fun p => ⟨p.guestSessionId,id⟩) := by
  obtain ⟨p,q,hpair,_,_,_,_,hne⟩ := (h.games id g hg).pair
  have hrows : db.assignments.rows.Nodup := List.Nodup.of_map _ db.assignments.nodup
  have hnodup : (db.assignmentsOf id).Nodup := hrows.filter _
  rw [List.perm_ext_iff_of_nodup hnodup (by simp [hpair,hne])]
  intro a
  simp only [Db.assignmentsOf,List.mem_filter,decide_eq_true_eq,List.mem_map]
  constructor
  · rintro ⟨ha,rfl⟩
    obtain ⟨x,hx,_,r,hr,hrg⟩ := h.assigned a ha
    rw [hg] at hx
    cases hx
    exact ⟨r,hr,by rw [hrg]⟩
  · rintro ⟨r,hr,rfl⟩
    exact ⟨Table.find_mem (h.players id g hg ht r hr),rfl⟩

theorem Db.Sound.assignmentsOf_nil (h : db.Sound) {id : GameId} {g : PersistedGame}
    (hg : db.games.find id = some g) (ht : g.status.terminal = true) :
    db.assignmentsOf id = [] := by
  rw [Db.assignmentsOf,List.filter_eq_nil_iff]
  intro a ha he
  obtain ⟨x,hx,hxt,_⟩ := h.assigned a ha
  rw [of_decide_eq_true he,hg] at hx
  cases hx
  rw [ht] at hxt
  cases hxt

end Database

structure DurableGameInvariant (db : Db) (g : PersistedGame) : Prop where
  reconnecting : g.status.terminal = false →
    (g.status = .reconnecting ↔ ∃ p ∈ g.players, p.disconnectedAt ≠ none)
  together : ∀ p ∈ g.players, p.disconnectedAt ≠ none ↔ p.reconnectGraceEndsAt ≠ none
  deadlineNone : g.reconnectDeadlineAt = none ↔ ∀ p ∈ g.players, p.reconnectGraceEndsAt = none
  deadlineEarliest : ∀ d, g.reconnectDeadlineAt = some d →
    (∃ p ∈ g.players, p.reconnectGraceEndsAt = some d) ∧
      ∀ p ∈ g.players, ∀ e, p.reconnectGraceEndsAt = some e → d ≤ e
  turn : g.turnStartedAt ≠ none ↔ g.status = .inProgress ∨ g.status = .reconnecting
  clock : g.turnStartedAt ≠ none → 0 < g.clockMs g.turnColor
  result : g.result ≠ none ↔ g.status.terminal = true
  termination : g.termination ≠ none ↔ g.status.terminal = true
  ended : g.endedAt ≠ none ↔ g.status.terminal = true
  assignments : ∃ p q, g.players = [p,q] ∧ p.guestSessionId ≠ q.guestSessionId ∧
    (db.assignmentsOf g.id).Perm (if g.status.terminal = true then [] else
      [⟨p.guestSessionId,g.id⟩,⟨q.guestSessionId,g.id⟩])
  waiting : g.status = .waitingForPlayers → ∃ p ∈ g.players, p.joinedAt = none
  joined : g.status = .ready ∨ g.status = .inProgress ∨ g.status = .reconnecting →
    ∀ p ∈ g.players, p.joinedAt ≠ none

def Db.DurableGames (db : Db) : Prop := ∀ g ∈ db.games.rows, DurableGameInvariant db g

theorem Db.Sound.durableGameInvariant {db : Db} (h : db.Sound) {g : PersistedGame}
    (hg : g ∈ db.games.rows) : DurableGameInvariant db g := by
  have hfind := Table.find_of_mem hg
  have hs := h.games g.id g hfind
  obtain ⟨p,q,hpair,_,_,_,_,hne⟩ := hs.pair
  have hisSome : ∀ {α : Type} (o : Option α) (b : Bool), o.isSome = b → (o ≠ none ↔ b = true) := by
    rintro α (_ | _) b rfl <;> simp
  constructor
  · intro _
    rw [hs.grace.reconnecting]
    simp only [Option.isSome_iff_ne_none]
  · intro r hr
    rw [← Option.isSome_iff_ne_none,← Option.isSome_iff_ne_none,hs.grace.together r hr]
  · rw [hs.grace.deadline,earliest_eq_none,List.filterMap_eq_nil_iff]
  · intro d hd
    rw [hs.grace.deadline,earliest_eq_some] at hd
    obtain ⟨hmem,hle⟩ := hd
    exact ⟨List.mem_filterMap.mp hmem,
      fun r hr e he => hle e (List.mem_filterMap.mpr ⟨r,hr,he⟩)⟩
  · rw [hisSome _ _ hs.turn]
    cases g.status <;> simp [GameStatus.started]
  · intro ht
    have hstarted := (hisSome _ _ hs.turn).mp ht
    obtain ⟨hw,hb⟩ := hs.clocks (GameStatus.not_terminal_of_started hstarted)
    unfold PersistedGame.clockMs
    split_ifs
    · exact hw
    · exact hb
  · exact hisSome _ _ hs.result
  · exact hisSome _ _ hs.termination
  · exact hisSome _ _ hs.ended
  · refine ⟨p,q,hpair,hne,?_⟩
    cases ht : g.status.terminal with
    | true => simp [h.assignmentsOf_nil hfind ht]
    | false => simpa [hpair] using h.assignmentsOf_perm hfind ht
  · intro hw
    have hj := (hs.waiting hw).1
    rw [Ne,PersistedGame.joinedPlayers_pair hpair] at hj
    by_cases hp : p.joinedAt = none
    · exact ⟨p,by simp [hpair],hp⟩
    · refine ⟨q,by simp [hpair],?_⟩
      by_contra hq
      exact hj ⟨Option.isSome_iff_ne_none.mpr hp,Option.isSome_iff_ne_none.mpr hq⟩
  · intro hj r hr
    have hjoined : g.status.joined = true := by
      rcases hj with hj | hj | hj <;> rw [hj] <;> rfl
    obtain ⟨hp,hq⟩ := (PersistedGame.joinedPlayers_pair hpair).mp (hs.joined hjoined)
    rw [hpair] at hr
    simp only [List.mem_cons,List.not_mem_nil,or_false] at hr
    rcases hr with rfl | rfl
    · exact Option.isSome_iff_ne_none.mp hp
    · exact Option.isSome_iff_ne_none.mp hq

/-- Whatever transactions commit, in whatever order and with whatever arguments and
observations, every game of the database keeps the durable game invariant. -/
theorem durable_game_invariant (chess : ChessEngine) (guestSessions : Table GuestSession.id)
    (sessionCommands : Table SessionCommand.idempotencyHash) (operations : List Operation) :
    ((repositories chess).run (.initial guestSessions sessionCommands) operations).DurableGames :=
  fun _ hg => (Db.run_sound chess guestSessions sessionCommands operations).durableGameInvariant hg

end CluChess
