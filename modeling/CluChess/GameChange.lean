import CluChess.GameLifecycleRepository

/-! What a committed transaction does to the row of a game. Every repository transaction
is inverted here once: it leaves the database alone or commits one `GameChange`. -/
namespace CluChess

/-- The row of a game that an operation other than a move has ended. -/
def PersistedGame.ended (g : PersistedGame) (observation : Micros) (outcome : TerminalOutcome) :
    PersistedGame := (g.finalized (g.locked observation) outcome).mapPlayers GamePlayer.clearGrace

def PersistedGame.start (g : PersistedGame) (observedAt : Millis) : PersistedGame :=
  { g with
    startedAt := some observedAt
    status := .inProgress
    turnStartedAt := some observedAt
    version := g.version + 1 }

def PersistedGame.readied (g : PersistedGame) : PersistedGame :=
  { g with status := .ready, version := g.version + 1 }

def AdmittedMove.row (m : AdmittedMove) (guests : GuestSessionId × GuestSessionId) :
    PersistedGame := ((m.updateRow m.game).addMove m.moveRow).addCommand (m.command guests)

/-- The move has passed every check of `submitInTransaction`. -/
structure AdmittedMove.Admitted (chess : ChessEngine) (m : AdmittedMove)
    (guests : GuestSessionId × GuestSessionId) : Prop where
  player : m.game.playerFor m.input.guestSessionId = some m.player
  fresh : m.game.command m.input.clientMoveId = none
  admitted : admitMove chess m.game m.player m.input m.observedAt = .ok (m.clock,m.evaluation)
  outcome : terminalOutcome m.evaluation.gameOver = .ok m.terminal
  pair : guestPair m.game = some guests
  moves : ∀ r ∈ m.game.moves, r.clientMoveId ≠ m.moveRow.clientMoveId ∧ r.ply ≠ m.moveRow.ply
  ply : 0 < m.moveRow.ply

inductive GameChange (chess : ChessEngine) (g : PersistedGame) : PersistedGame → Prop
  | join {player : GamePlayer} {observedAt : Millis}
      (hp : player ∈ g.players) (hs : g.status = .waitingForPlayers ∨ g.status.joined = true)
      (hn : ¬ (g.status = .waitingForPlayers ∧
        (g.mapPlayer player.slot (GamePlayer.join observedAt)).joinedPlayers = 2)) :
      GameChange chess g (g.mapPlayer player.slot (GamePlayer.join observedAt))
  | ready {player : GamePlayer} {observedAt : Millis}
      (hp : player ∈ g.players) (hs : g.status = .waitingForPlayers)
      (hn : (g.mapPlayer player.slot (GamePlayer.join observedAt)).joinedPlayers = 2) :
      GameChange chess g (g.mapPlayer player.slot (GamePlayer.join observedAt)).readied
  | start {observedAt : Millis} (hs : g.status = .ready) : GameChange chess g (g.start observedAt)
  | move {m : AdmittedMove} {guests : GuestSessionId × GuestSessionId} (hg : m.game = g)
      (hm : m.Admitted chess guests) : GameChange chess g (m.row guests)
  | leave {player : GamePlayer} (hp : player ∈ g.players) (hs : g.status = .waitingForPlayers) :
      GameChange chess g (g.mapPlayer player.slot GamePlayer.leave)
  | disconnect {player : GamePlayer} {observedAt graceDeadline : Millis}
      (hp : player ∈ g.players) (hs : g.status.started = true) (hd : player.disconnectedAt = none)
      (ho : observedAt ≤ graceDeadline) :
      GameChange chess g ((g.mapPlayer player.slot
        (GamePlayer.disconnect observedAt graceDeadline)).paused
          (earliest (graceDeadline :: g.otherDeadlines player.slot)))
  | reconnect {player : GamePlayer} {observedAt : Millis} (hp : player ∈ g.players)
      (hs : g.status = .reconnecting) (hd : player.disconnectedAt ≠ none) :
      GameChange chess g ((g.mapPlayer player.slot (GamePlayer.reconnect observedAt)).resumed
        (g.otherDeadlines player.slot))
  | finish {observation : Micros} {event : TerminalEvent} {outcome : TerminalOutcome}
      (hs : g.status.terminal = false) (ho : deriveTerminalOutcome event = .ok outcome) :
      GameChange chess g (g.ended observation outcome)
  | resign {player : GamePlayer} {observation : Micros} {outcome : TerminalOutcome}
      {command : GameCommand} (hp : player ∈ g.players)
      (hs : g.status = .inProgress ∨ g.status = .reconnecting)
      (ho : deriveTerminalOutcome (.resignation player.color) = .ok outcome)
      (hc : g.command command.eventId = none) (ht : command.commandType = .resign) :
      GameChange chess g ((g.ended observation outcome).addCommand command)

/-- The database after a transaction that wrote the row of a game. The assignments of a
game that has ended are deleted. -/
def Db.settle (db : Db) (g : PersistedGame) : Db :=
  if g.status.terminal then (db.replaceGame g).deleteAssignments g.id else db.replaceGame g

/-- A transaction that found the row `g` and committed the row `g'` for it. -/
structure Db.Wrote (chess : ChessEngine) (db : Db) (id : GameId) (g g' : PersistedGame)
    (db' : Db) : Prop where
  found : db.games.find id = some g
  change : GameChange chess g g'
  checked : g.integersFit ∧ g.rowChecks → g'.integersFit ∧ g'.rowChecks
  result : db' = db.settle g'

section Rows

/-! What the changes have in common. -/

variable {chess : ChessEngine} {g g' : PersistedGame}

theorem GameStatus.joined_not_terminal {s : GameStatus} (h : s.joined = true) :
    s.terminal = false := by cases s <;> simp_all [GameStatus.joined,GameStatus.terminal]

theorem AdmittedMove.row_status (m : AdmittedMove) (guests : GuestSessionId × GuestSessionId) :
    (m.row guests).status = match m.terminal with
      | none => if m.game.status = .ready then .inProgress else m.game.status
      | some t => t.status.toGameStatus := rfl

/-- What the checks of a move say about the row it is played on. -/
theorem admitMove_ok {player : GamePlayer} {input : SubmitMove} {observedAt : Millis}
    {clock : GameClock} {evaluation : MoveEvaluation}
    (h : admitMove chess g player input observedAt = .ok (clock,evaluation)) :
    (g.status = .inProgress ∨ g.status = .ready) ∧ g.turnColor = player.color ∧
      input.expectedVersion = g.version ∧ hasContiguousHistory g = true ∧
      (∃ elapsed, admission g player.color observedAt = .ok (.accepted clock elapsed)) ∧
      evaluate chess g input.move = .ok evaluation ∧
      evaluation.applied.color = player.color := by
  unfold admitMove at h
  split_ifs at h with h₁ h₂ h₃ h₄ h₅
  split at h
  · cases h
  · cases h
  · rename_i c elapsed hadm
    split at h
    · split_ifs at h
    · rename_i ev hev
      split_ifs at h with h₆
      cases h
      refine ⟨?_,not_not.mp h₃,not_not.mp h₄,?_,⟨elapsed,hadm⟩,hev,not_not.mp h₆⟩
      · by_cases hi : g.status = .inProgress
        · exact Or.inl hi
        · exact Or.inr (not_not.mp fun hr => h₂ ⟨hi,hr⟩)
      · simpa using h₅

theorem GameChange.not_terminal (h : GameChange chess g g') : g.status.terminal = false := by
  cases h with
  | join _ hs _ =>
    rcases hs with hs | hs
    · rw [hs]; rfl
    · exact GameStatus.joined_not_terminal hs
  | ready _ hs _ => rw [hs]; rfl
  | start hs => rw [hs]; rfl
  | move hg hm =>
    subst hg
    rcases (admitMove_ok hm.admitted).1 with hs | hs <;> rw [hs] <;> rfl
  | leave _ hs => rw [hs]; rfl
  | disconnect _ hs _ _ => exact GameStatus.not_terminal_of_started hs
  | reconnect _ hs _ => rw [hs]; rfl
  | finish hs _ => exact hs
  | resign _ hs _ _ _ => rcases hs with hs | hs <;> rw [hs] <;> rfl

theorem GameChange.id_eq (h : GameChange chess g g') : g'.id = g.id := by
  cases h with
  | move hg _ => subst hg; rfl
  | _ => rfl

theorem GameChange.matchId_eq (h : GameChange chess g g') : g'.matchId = g.matchId := by
  cases h with
  | move hg _ => subst hg; rfl
  | _ => rfl

/-- The seat of a player never changes. -/
def GamePlayer.seat (p : GamePlayer) : ℕ × GuestSessionId × PlayerColor :=
  (p.slot,p.guestSessionId,p.color)

theorem mapPlayer_seats (slot : ℕ) (data : GamePlayer → GamePlayer)
    (h : ∀ p, (data p).seat = p.seat) :
    (g.mapPlayer slot data).players.map GamePlayer.seat = g.players.map GamePlayer.seat := by
  simp only [PersistedGame.mapPlayer,List.map_map]
  apply List.map_congr_left
  intro p _
  simp only [Function.comp_apply]
  split
  · exact h p
  · rfl

theorem ended_seats (g : PersistedGame) (observation : Micros) (outcome : TerminalOutcome) :
    (g.ended observation outcome).players.map GamePlayer.seat = g.players.map GamePlayer.seat := by
  simp only [PersistedGame.ended,PersistedGame.finalized,PersistedGame.mapPlayers,List.map_map]
  rfl

theorem GameChange.seats_eq (h : GameChange chess g g') :
    g'.players.map GamePlayer.seat = g.players.map GamePlayer.seat := by
  cases h with
  | join _ _ _ => exact mapPlayer_seats _ _ fun _ => rfl
  | ready _ _ _ => exact mapPlayer_seats _ _ fun _ => rfl
  | start _ => rfl
  | move hg _ => subst hg; rfl
  | leave _ _ => exact mapPlayer_seats _ _ fun _ => rfl
  | disconnect _ _ _ _ => exact mapPlayer_seats _ _ fun _ => rfl
  | reconnect _ _ _ => exact mapPlayer_seats _ _ fun _ => rfl
  | finish _ _ => exact ended_seats g _ _
  | resign _ _ _ _ _ => exact ended_seats g _ _

theorem GameChange.commands_prefix (h : GameChange chess g g') : g.commands <+: g'.commands := by
  cases h with
  | move hg _ => subst hg; exact List.prefix_append _ _
  | resign _ _ _ _ _ => exact List.prefix_append _ _
  | _ => exact List.prefix_rfl

/-- The version of a game never decreases, and a move increases it. -/
theorem GameChange.version_le (h : GameChange chess g g') :
    g.version ≤ g'.version := by
  cases h with
  | join _ _ _ => exact le_rfl
  | ready _ _ _ => exact Nat.le_succ _
  | start _ => exact Nat.le_succ _
  | move hg _ =>
    subst hg
    exact Nat.le_add_right _ _
  | leave _ _ => exact le_rfl
  | disconnect _ _ _ _ => exact Nat.le_add_right _ _
  | reconnect _ _ _ => exact Nat.le_add_right _ _
  | finish _ _ => exact Nat.le_add_right _ _
  | resign _ _ _ _ _ => exact Nat.le_add_right _ _

theorem AdmittedMove.version_lt (m : AdmittedMove) (guests : GuestSessionId × GuestSessionId) :
    m.game.version < (m.row guests).version := by
  change m.game.version < m.game.version + if m.game.status = .ready then 2 else 1
  split_ifs <;> omega

theorem GameChange.command_keep (h : GameChange chess g g') {eventId : EventId}
    {c : GameCommand} (hc : g.command eventId = some c) : g'.command eventId = some c := by
  obtain ⟨more,hmore⟩ := h.commands_prefix
  unfold PersistedGame.command at hc ⊢
  rw [← hmore,List.find?_append,hc]
  rfl

end Rows

section Settle

variable {db : Db} {g : PersistedGame}

theorem settle_games (db : Db) (g : PersistedGame) :
    (db.settle g).games = (db.replaceGame g).games := by
  unfold Db.settle
  split <;> rfl

theorem settle_guestSessions (db : Db) (g : PersistedGame) :
    (db.settle g).guestSessions = db.guestSessions := by
  unfold Db.settle
  split <;> rfl

theorem find_settle (h : db.games.find g.id ≠ none) (k : GameId) :
    (db.settle g).games.find k = if k = g.id then some g else db.games.find k := by
  rw [settle_games]
  exact Db.find_replaceGame h k

theorem find_settle_ended {g : PersistedGame} {id : GameId} (h : db.games.find id = some g)
    (observation : Micros) (outcome : TerminalOutcome) :
    (db.settle (g.ended observation outcome)).games.find id =
      some (g.ended observation outcome) := by
  have hkey : g.id = id := Table.find_key h
  have hid : (g.ended observation outcome).id = id := hkey
  have hfound : db.games.find (g.ended observation outcome).id ≠ none := by
    rw [hid,h]
    exact Option.some_ne_none _
  rw [find_settle hfound]
  exact if_pos hid.symm

theorem Db.Wrote.find {chess : ChessEngine} {id : GameId} {g g' : PersistedGame} {db' : Db}
    (h : db.Wrote chess id g g' db') (k : GameId) :
    db'.games.find k = if k = id then some g' else db.games.find k := by
  have hid : g'.id = id := h.change.id_eq.trans (Table.find_key h.found)
  subst hid
  rw [h.result,find_settle (by rw [h.found]; simp)]

theorem Db.Wrote.find_self {chess : ChessEngine} {id : GameId} {g g' : PersistedGame} {db' : Db}
    (h : db.Wrote chess id g g' db') : db'.games.find id = some g' := by
  rw [h.find,if_pos rfl]

end Settle

end CluChess
