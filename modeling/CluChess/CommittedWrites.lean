import CluChess.ConstraintChecks

/-! Statements whose rows pass every check succeed, and so do the transactions made of them. -/
namespace CluChess

section Statements

variable {db : Db} {g : PersistedGame} {id : GameId}

namespace Db

theorem writeGame_eq (hi : g.integersFit) (hr : g.rowChecks) :
    db.writeGame g = .ok (db.replaceGame g) := by
  unfold writeGame
  rw [if_neg (not_not.mpr hi),if_neg (not_not.mpr hr)]

theorem updateGameMany_eq (hg : db.games.find id = some g) {data : PersistedGame → PersistedGame}
    (hi : (data g).integersFit) (hr : (data g).rowChecks) :
    db.updateGameMany id g.version data = .ok (1,db.replaceGame (data g)) := by
  simp only [updateGameMany,hg,if_true,writeGame_eq hi hr]
  rfl

theorem updateGameAtVersion_eq (hg : db.games.find id = some g)
    {data : PersistedGame → PersistedGame}
    (hi : ({ data g with version := g.version + 1 } : PersistedGame).integersFit)
    (hr : ({ data g with version := g.version + 1 } : PersistedGame).rowChecks) :
    db.updateGameAtVersion id g.version data = .ok (some (g.version + 1),
      db.replaceGame { data g with version := g.version + 1 }) := by
  have hwrite : db.writeGame { data g with version := g.version + 1 } =
      .ok (db.replaceGame { data g with version := g.version + 1 }) := writeGame_eq hi hr
  unfold updateGameAtVersion updateGameMany
  simp only [hg,if_true,hwrite]
  rfl

theorem updatePlayer_eq (hg : db.games.find id = some g) {slot : ℕ}
    {data : GamePlayer → GamePlayer} (h : (g.mapPlayer slot data).playersChecked) :
    db.updatePlayer id slot data = .ok (db.replaceGame (g.mapPlayer slot data)) := by
  simp only [updatePlayer,hg]
  exact if_pos h

theorem updatePlayers_eq (hg : db.games.find id = some g) {data : GamePlayer → GamePlayer}
    (h : (g.mapPlayers data).playersChecked) :
    db.updatePlayers id data = .ok (db.replaceGame (g.mapPlayers data)) := by
  simp only [updatePlayers,hg]
  exact if_pos h

theorem createMove_eq (hg : db.games.find id = some g) {row : MoveRow}
    (hfresh : ∀ m ∈ g.moves, m.clientMoveId ≠ row.clientMoveId ∧ m.ply ≠ row.ply)
    (hply : 0 < row.ply) : db.createMove id row = .ok (db.replaceGame (g.addMove row)) := by
  have hany : (g.moves.any fun m => m.clientMoveId = row.clientMoveId ∨ m.ply = row.ply) =
      false := by
    simpa [not_or] using hfresh
  simp only [createMove,hg,hany,Bool.false_eq_true,if_false]
  exact if_neg hply.ne'

theorem createGameCommand_eq (hg : db.games.find id = some g) (row : GameCommand)
    (hfresh : g.command row.eventId = none) :
    db.createGameCommand id row = .ok (db.replaceGame (g.addCommand row)) := by
  simp [createGameCommand,hg,hfresh]

theorem commit_eq {α : Type} (h : db.allocationInvariants id) (a : α) :
    commit id a db = .ok (a,db) := if_pos h

end Db

end Statements

section Transactions

variable {chess : ChessEngine} {db : Db} {g : PersistedGame} {observation : Micros}

theorem Db.finalizeTerminal_eq (hg : db.games.find g.id = some g)
    {guests : GuestSessionId × GuestSessionId} (hp : guestPair g = some guests)
    {outcome : TerminalOutcome} (hi : (g.ended observation outcome).integersFit)
    (hr : (g.ended observation outcome).rowChecks) :
    db.finalizeTerminal g (g.locked observation) outcome =
      .ok (some (terminalSubmission g (g.locked observation) outcome guests),
        db.settle (g.ended observation outcome)) := by
  have hfound : (db.replaceGame (g.finalized (g.locked observation) outcome)).games.find g.id =
      some (g.finalized (g.locked observation) outcome) := find_replaceGame_self hg rfl
  have hrows : (db.replaceGame (g.finalized (g.locked observation) outcome)).replaceGame
      (g.ended observation outcome) = db.replaceGame (g.ended observation outcome) :=
    db.replaceGame_replaceGame rfl
  unfold finalizeTerminal
  simp only [hp]
  rw [updateGameMany_eq hg hi hr]
  show (updatePlayers _ g.id GamePlayer.clearGrace >>= _) = _
  rw [updatePlayers_eq hfound PersistedGame.playersChecked_clearGrace]
  simp only [settle,ended_terminal,if_true,← hrows]
  rfl

/-- A terminal event of a live game is committed when the row that it makes passes the checks. -/
theorem Db.terminate_eq (chess : ChessEngine) (hdb : db.Sound) (hg : db.games.find g.id = some g)
    (hs : g.status.terminal = false) {guests : GuestSessionId × GuestSessionId}
    (hp : guestPair g = some guests) {event : TerminalEvent} {outcome : TerminalOutcome}
    (ho : deriveTerminalOutcome event = .ok outcome)
    (hi : (g.ended observation outcome).integersFit)
    (hr : (g.ended observation outcome).rowChecks) :
    db.terminate g (g.locked observation) event =
      .ok (some (terminalSubmission g (g.locked observation) outcome guests),
        db.settle (g.ended observation outcome)) := by
  have hw : db.Wrote chess g.id g (g.ended observation outcome)
      (db.settle (g.ended observation outcome)) := ⟨hg,.finish hs ho,fun _ => ⟨hi,hr⟩,rfl⟩
  unfold terminate
  simp only [ho]
  rw [finalizeTerminal_eq hg hp hi hr]
  exact commit_eq (hw.allocationInvariants hdb _) _

/-- An adjudication that has locked its game applies the event that it finds due. -/
theorem Db.adjudicate_eq {id : GameId} (hg : db.games.find id = some g)
    (hcasts : g.ClockCasts observation)
    (event : LockedGameClock → PersistedGame → Option TerminalEvent) :
    db.adjudicate id observation event = match event (g.locked observation) g with
      | none => .ok (none,db)
      | some e => db.terminate g (g.locked observation) e := by
  unfold adjudicate
  rw [lockGameClock_eq hg hcasts]
  cases he : event (g.locked observation) g with
  | none => simp only [bind,Except.bind,hg,he]
  | some e => simp only [bind,Except.bind,hg,he]

theorem Db.adjudicate_error {id : GameId} (hg : db.games.find id = some g)
    (hcasts : ¬ g.ClockCasts observation)
    (event : LockedGameClock → PersistedGame → Option TerminalEvent) :
    db.adjudicate id observation event = .error .unknown := by
  unfold adjudicate
  rw [lockGameClock_error hg hcasts]
  rfl

theorem Db.adjudicate_commits (chess : ChessEngine) (h : db.Sound) {id : GameId}
    (hg : db.games.find id = some g) (hlive : g.status.terminal = false) (hcasts : g.ClockCasts observation)
    {event : LockedGameClock → PersistedGame → Option TerminalEvent} {e : TerminalEvent}
    (he : event (g.locked observation) g = some e) {outcome : TerminalOutcome}
    (ho : deriveTerminalOutcome e = .ok outcome) (hi : (g.ended observation outcome).integersFit)
    (hr : (g.ended observation outcome).rowChecks) :
    ∃ guests, Db.answered (db.transaction (db.adjudicate id observation event)) .ok =
      (.ok (some (terminalSubmission g (g.locked observation) outcome guests)),
        db.settle (g.ended observation outcome)) := by
  obtain ⟨p,q,hpair,_⟩ := (h.games id g hg).pair
  have hguests := guestPair_of_players hpair
  have hid : g.id = id := Table.find_key hg
  have hterminate := Db.terminate_eq chess h (hid.symm ▸ hg) hlive hguests ho hi hr
  refine ⟨(p.guestSessionId,q.guestSessionId),?_⟩
  rw [Db.adjudicate_eq hg hcasts]
  simp only [he,hterminate]
  rfl

theorem Db.commitMove_eq {m : AdmittedMove} {guests : GuestSessionId × GuestSessionId}
    (hdb : db.Sound) (hg : db.games.find m.game.id = some m.game) (hm : m.Admitted chess guests)
    (hi : (m.row guests).integersFit) (hr : (m.row guests).rowChecks) :
    db.commitMove m = .ok (.accepted (m.submission guests),db.settle (m.row guests)) := by
  have hf₁ : (db.replaceGame (m.updateRow m.game)).games.find m.game.id =
      some (m.updateRow m.game) := find_replaceGame_self hg rfl
  have hw : db.Wrote chess m.game.id m.game (m.row guests) (db.settle (m.row guests)) :=
    ⟨hg,.move rfl hm,fun _ => ⟨hi,hr⟩,rfl⟩
  unfold commitMove
  simp only [hm.pair]
  rw [updateGameMany_eq hg hi hr]
  show (createMove _ m.game.id m.moveRow >>= _) = _
  rw [createMove_eq hf₁ hm.moves hm.ply]
  have hfound : ∀ db₂ : Db, db₂.games = ((db.replaceGame (m.updateRow m.game)).replaceGame
      ((m.updateRow m.game).addMove m.moveRow)).games →
        db₂.games.find m.game.id = some ((m.updateRow m.game).addMove m.moveRow) := by
    intro db₂ he
    rw [he]
    exact find_replaceGame_self (g := m.updateRow m.game) hf₁ rfl
  have hcommand := createGameCommand_eq (hfound (if m.terminal = none then
      (db.replaceGame (m.updateRow m.game)).replaceGame ((m.updateRow m.game).addMove m.moveRow)
      else ((db.replaceGame (m.updateRow m.game)).replaceGame
        ((m.updateRow m.game).addMove m.moveRow)).deleteAssignments m.game.id)
    (by split_ifs <;> rfl)) (m.command guests) hm.fresh
  have hlast := moveWrites_ok hg hm.row_terminal rfl rfl hcommand
  rw [hlast] at hcommand
  show (createGameCommand _ m.game.id (m.command guests) >>= _) = _
  rw [hcommand]
  exact commit_eq (hw.allocationInvariants hdb _) _

/-- A move that passes every check of the transaction is committed. -/
theorem Db.submitInTransaction_eq {m : AdmittedMove} {guests : GuestSessionId × GuestSessionId}
    (hdb : db.Sound) (hg : db.games.find m.input.gameId = some m.game)
    (hm : m.Admitted chess guests) (ho : m.observedAt = truncatedToMillis observation)
    (hcasts : m.game.ClockCasts observation) (hi : (m.row guests).integersFit)
    (hr : (m.row guests).rowChecks) : db.submitInTransaction chess m.input observation =
      .ok (.accepted (m.submission guests),db.settle (m.row guests)) := by
  have hid : m.game.id = m.input.gameId := Table.find_key hg
  have hadmitted := hm.admitted
  rw [ho] at hadmitted
  have hm' : (⟨m.game,m.player,m.input,truncatedToMillis observation,m.clock,m.evaluation,
      m.terminal⟩ : AdmittedMove) = m := by rw [← ho]
  unfold submitInTransaction
  rw [lockGameClock_eq hg hcasts]
  simp only [bind,Except.bind,hg,hm.player,hm.fresh,PersistedGame.locked,hadmitted,hm.outcome,hm']
  exact commitMove_eq hdb (hid.symm ▸ hg) hm hi hr

theorem Db.resignInTransaction_eq (chess : ChessEngine) {input : ResignGame} {player : GamePlayer}
    {guests : GuestSessionId × GuestSessionId} (hdb : db.Sound)
    (hg : db.games.find input.gameId = some g) (hcasts : g.ClockCasts observation)
    (hplayer : g.playerFor input.guestSessionId = some player)
    (hfresh : g.command input.eventId = none)
    (hs : g.status = .inProgress ∨ g.status = .reconnecting)
    (hversion : input.expectedVersion = g.version) (hp : guestPair g = some guests)
    {outcome : TerminalOutcome}
    (ho : deriveTerminalOutcome (.resignation player.color) = .ok outcome)
    (hi : (g.ended observation outcome).integersFit) (hr : (g.ended observation outcome).rowChecks) :
    ∃ db', db.resignInTransaction input observation =
      .ok (.accepted (terminalSubmission g (g.locked observation) outcome guests),db') := by
  have hid : g.id = input.gameId := Table.find_key hg
  have hstatus : ¬ (g.status ≠ .inProgress ∧ g.status ≠ .reconnecting) := by
    rintro ⟨hprogress,hreconnecting⟩
    exact hs.elim hprogress hreconnecting
  have hfound : (db.settle (g.ended observation outcome)).games.find input.gameId =
      some (g.ended observation outcome) := by
    have hne : db.games.find (g.ended observation outcome).id ≠ none := by
      rw [show (g.ended observation outcome).id = input.gameId from hid,hg]
      exact Option.some_ne_none g
    rw [find_settle hne]
    exact if_pos hid.symm
  have hcommand := createGameCommand_eq hfound (resignCommand input
    (terminalSubmission g (g.locked observation) outcome guests)) hfresh
  have hw : db.Wrote chess input.gameId g ((g.ended observation outcome).addCommand (resignCommand
      input (terminalSubmission g (g.locked observation) outcome guests))) _ :=
    ⟨hg,.resign (playerFor_mem hplayer).1 hs ho hfresh rfl,fun _ => ⟨hi,hr⟩,
      settle_addCommand _ _⟩
  refine ⟨(db.settle (g.ended observation outcome)).replaceGame
    ((g.ended observation outcome).addCommand (resignCommand input
      (terminalSubmission g (g.locked observation) outcome guests))),?_⟩
  unfold resignInTransaction
  rw [lockGameClock_eq hg hcasts]
  simp only [bind,Except.bind,hg,hplayer,hfresh,if_neg hstatus,hversion,ne_eq,not_true_eq_false,
    if_false,ho,finalizeTerminal_eq (hid.symm ▸ hg) hp hi hr,hcommand]
  exact commit_eq (hw.allocationInvariants hdb _) _

end Transactions

end CluChess
