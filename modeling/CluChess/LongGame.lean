import CluChess.CommittedWrites
import CluChess.SendableOutcomes
import CluChess.TerminalRecord

/-! Long games. A line of legal moves can be played through the repositories, however long it is;
the module plays one of 2,952 plies, whose PGN is longer than the message that announces an end
may carry. -/
namespace CluChess

/-! ### Playing a line -/

/-- A line of play: legal moves from the initial position, none of which ends the game. -/
structure ChessJs.Line (chess : ChessJs) (plies : ℕ) where
  position : ℕ → chess.Position
  proposal : ℕ → MoveInput
  start : chess.createPosition chess.defaultPosition = .ok (position 0)
  squares : ∀ n, isSquare (proposal n).source = true ∧ isSquare (proposal n).target = true ∧
    (proposal n).promotion = none
  made : ∀ n < plies, ∃ m, chess.move (position n) (proposal n).source none (proposal n).target =
    some (position (n + 1),m)
  live : ∀ n ≤ plies, chess.getGameOver (position n) = .ongoing

def sampleGuest : PlayerColor → GuestSessionId
  | .w => sampleId 1
  | .b => sampleId 2

def lineMoveId (n : ℕ) : EventId := sampleId (1000 + n)

theorem lineMoveId_inj {m n : ℕ} (h : lineMoveId m = lineMoveId n) : m = n :=
  Nat.add_left_cancel (Nat.add_left_cancel h)

/-- The instant of the move at ply `n`: every move takes the two seconds that it earns. -/
def lineTime (n : ℕ) : Millis := 5000 + 2000*n

namespace ChessJs.Line

variable {chess : ChessJs} {plies : ℕ} (line : chess.Line plies)

def submission (n : ℕ) : SubmitMove where
  clientMoveId := lineMoveId n
  expectedVersion := n + 2
  gameId := sampleId 10
  guestSessionId := sampleGuest (turnAt n)
  move := line.proposal n

def operation (n : ℕ) : Operation := .submitMove (line.submission n) (1000*lineTime (n + 1))

/-- The row of the sample game after `n` plies of the line. -/
structure Playing (n : ℕ) (g : PersistedGame) : Prop where
  status : g.status = .inProgress
  version : g.version = n + 2
  length : g.moves.length = n
  initialFen : g.initialFen = chess.defaultPosition
  replayed : chess.replayHistory g.initialFen (g.moves.map MoveRow.uci) = .ok (line.position n)
  clocks : g.whiteClockMs = 300000 ∧ g.blackClockMs = 300000 ∧ g.incrementMs = 2000
  turnStartedAt : g.turnStartedAt = some (lineTime n)
  startedAt : g.startedAt = some 5000
  pgn : g.pgn = chess.getPgn (line.position n) .ongoing
  players : ∀ color, ∃ p, g.playerFor (sampleGuest color) = some p ∧ p.color = color
  commands : ∀ c ∈ g.commands, ∃ k < n, c.eventId = lineMoveId k
  moves : ∀ r ∈ g.moves, ∃ k < n, r.clientMoveId = lineMoveId k

section Step

variable {line} {n : ℕ} {g : PersistedGame}

theorem evaluate_ok (rules : chess.Rules) (h : line.Playing n g) (hn : n < plies)
    (hfen : chess.fen (line.position n) = g.currentFen) : ∃ evaluation,
      evaluate chess.engine g (line.proposal n) = .ok evaluation ∧
      evaluation.gameOver = .ongoing ∧
      evaluation.pgn = chess.getPgn (line.position (n + 1)) .ongoing ∧
      evaluation.applied.plyNumber = n + 1 ∧
      evaluation.applied.color = chess.turn (line.position n) ∧
      chess.replayHistory g.initialFen (g.moves.map MoveRow.uci ++ [evaluation.applied.uci]) =
        .ok (line.position (n + 1)) := by
  obtain ⟨m,hmove⟩ := line.made n hn
  obtain ⟨hsource,htarget,hpromotion⟩ := line.squares n
  have happly : ∃ applied, chess.applyProposal (line.position n) (line.proposal n)
      ((g.moves.map MoveRow.uci).length + 1) (chess.fen (line.position n)) =
        .ok (line.position (n + 1),applied) := by
    unfold applyProposal
    simp only [hsource,htarget,hpromotion,Option.map_none,hmove]
    exact ⟨_,rfl⟩
  obtain ⟨applied,happly⟩ := happly
  obtain ⟨_,_,hply,hcolor,_,_,_,hreplay⟩ := applyProposal_ok rules n happly
  have hlive := line.live (n + 1) hn
  refine ⟨⟨applied,.ongoing,chess.getPgn (line.position (n + 1)) .ongoing⟩,?_,rfl,rfl,?_,hcolor,?_⟩
  · show chess.evaluateMove _ = _
    unfold evaluateMove
    rw [h.replayed]
    simp only [bind,Except.bind,hfen,ne_eq,not_true_eq_false,if_false]
    rw [← hfen,happly]
    simp only [hlive]
  · rw [hply,List.length_map,h.length]
  · rw [replayHistory_append h.replayed,List.length_map,h.length]
    exact hreplay

/-- The clock of the line: two seconds are spent and two are earned. -/
theorem lineClock_admitted (color : PlayerColor) (t : ℤ) :
    admitMoveOnClock ⟨300000,2000,some color,some (.valid t),300000⟩ color (.valid (t + 2000)) =
      .ok (.accepted ⟨300000,2000,some (oppositeColor color),some (.valid (t + 2000)),300000⟩
        2000) := by
  have helapsed : max 0 (t + 2000 - t) = 2000 := by omega
  have hrunning : requireRunning ⟨300000,2000,some color,some (.valid t),300000⟩ = .ok color := rfl
  unfold admitMoveOnClock
  rw [hrunning]
  simp only [bind,Except.bind,ne_eq,not_true_eq_false,if_false,elapsedAt,assertTimestamp]
  rw [helapsed]
  cases color <;> rfl

theorem lineMoveId_v4 {n : ℕ} (hn : n < 1000000) : isUuidV4 (lineMoveId n) = true := by
  have hversion : (4*2^76 + 2*2^62 + (1000 + n)) / 2^76 % 16 = 4 := by omega
  have hvariant : (4*2^76 + 2*2^62 + (1000 + n)) / 2^62 % 4 = 2 := by omega
  have hsize : 4*2^76 + 2*2^62 + (1000 + n) < 2^128 := by omega
  simp only [isUuidV4,Bool.and_eq_true,decide_eq_true_eq]
  exact ⟨⟨hsize,hversion⟩,hvariant⟩

theorem truncated_lineTime (n : ℕ) : truncatedToMillis (1000*lineTime n) = lineTime n :=
  Int.mul_ediv_cancel_left _ (by decide)

theorem lineTime_isInstant (hn : n < 1000000) : Micros.isInstant (1000*lineTime (n + 1)) := by
  constructor
  · show (0 : ℤ) ≤ 1000*(5000 + 2000*((n + 1 : ℕ) : ℤ))
    omega
  · rw [truncated_lineTime]
    show (5000 + 2000*((n + 1 : ℕ) : ℤ)) ≤ ((8640000000000000 : ℕ) : ℤ)
    omega

theorem operation_served (hn : n < 1000000) : (line.operation n).Served chess.engine := by
  exact .of_observation (lineMoveId_v4 hn) rfl (lineTime_isInstant hn)

theorem Playing.casts (h : line.Playing n g) : g.ClockCasts (1000*lineTime (n + 1)) := by
  intro t ht _
  obtain rfl := Option.some.inj (h.turnStartedAt.symm.trans ht)
  have helapsed : elapsedMs (1000*lineTime (n + 1)) (lineTime n) = 2000 := by
    show ((1000*(5000 + 2000*((n + 1 : ℕ) : ℤ)) - (5000 + 2000*(n : ℤ))*1000) / 1000 : ℤ) = 2000
    omega
  have hturn : g.turnClockMs = 300000 := by
    unfold PersistedGame.turnClockMs
    split_ifs
    · exact h.clocks.1
    · exact h.clocks.2.1
  rw [helapsed,hturn]
  decide

theorem Playing.fresh (h : line.Playing n g) : g.command (lineMoveId n) = none := by
  unfold PersistedGame.command
  rw [List.find?_eq_none]
  intro c hc hid
  obtain ⟨k,hk,hck⟩ := h.commands c hc
  have hkn := lineMoveId_inj (hck.symm.trans (of_decide_eq_true hid))
  omega

/-- The next move of the line as the transaction admits it. -/
structure Playing.Next (line : chess.Line plies) (n : ℕ) (g : PersistedGame) (m : AdmittedMove)
    (guests : GuestSessionId × GuestSessionId) : Prop where
  game : m.game = g
  input : m.input = line.submission n
  observedAt : m.observedAt = lineTime (n + 1)
  terminal : m.terminal = none
  clock : m.clock.whiteMs = 300000 ∧ m.clock.blackMs = 300000
  ply : m.evaluation.applied.plyNumber = n + 1
  pgn : m.evaluation.pgn = chess.getPgn (line.position (n + 1)) .ongoing
  replayed : chess.replayHistory g.initialFen
    (g.moves.map MoveRow.uci ++ [m.evaluation.applied.uci]) = .ok (line.position (n + 1))
  admitted : m.Admitted chess.engine guests

theorem Playing.next (rules : chess.Rules) (h : line.Playing n g) (hn : n < plies)
    (hhistory : g.History chess) {guests : GuestSessionId × GuestSessionId}
    (hpair : guestPair g = some guests) : ∃ m, Playing.Next line n g m guests := by
  obtain ⟨p,hp,hcolor⟩ := h.players (turnAt n)
  obtain ⟨position,hreplay,hfen,hturn⟩ := hhistory.replayed
  obtain rfl : line.position n = position := Except.ok.inj (h.replayed.symm.trans hreplay)
  obtain ⟨evaluation,heval,hover,hpgn,hply,hevalColor,hextended⟩ := evaluate_ok rules h hn hfen
  have hturnColor : g.turnColor = turnAt n := by
    rw [hhistory.turn,h.length]
  have hbase : baseClock g p.color =
      ⟨300000,2000,some p.color,some (.valid (lineTime n)),300000⟩ := by
    unfold baseClock
    rw [h.clocks.1,h.clocks.2.1,h.clocks.2.2,h.status,h.turnStartedAt]
    rfl
  have htime : lineTime (n + 1) = lineTime n + 2000 := by
    show (5000 + 2000*((n + 1 : ℕ) : ℤ) : ℤ) = 5000 + 2000*(n : ℤ) + 2000
    omega
  have hadmission : admission g p.color (lineTime (n + 1)) = .ok (.accepted
      ⟨300000,2000,some (oppositeColor p.color),some (.valid (lineTime n + 2000)),300000⟩
        2000) := by
    unfold admission runningClock
    rw [h.status,hbase,htime]
    exact lineClock_admitted p.color (lineTime n)
  have hadmitted : admitMove chess.engine g p (line.submission n) (lineTime (n + 1)) =
      .ok (⟨300000,2000,some (oppositeColor p.color),some (.valid (lineTime n + 2000)),300000⟩,
        evaluation) := by
    have hmine : evaluation.applied.color = p.color := by
      rw [hevalColor,hturn,hturnColor,hcolor]
    unfold admitMove
    simp only [h.status,hturnColor,hcolor,submission,h.version,hhistory.contiguous]
    rw [← hcolor,hadmission]
    simp only [heval,hmine]
    simp [GameStatus.terminal]
  refine ⟨⟨g,p,line.submission n,lineTime (n + 1),_,evaluation,none⟩,rfl,rfl,rfl,rfl,⟨rfl,rfl⟩,hply,
    hpgn,hextended,hp,h.fresh,hadmitted,?_,hpair,fun r hr => ⟨fun hid => ?_,fun hsame => ?_⟩,?_⟩
  · rw [hover]
    rfl
  · obtain ⟨k,hk,hrk⟩ := h.moves r hr
    have hkn := lineMoveId_inj (hrk.symm.trans hid)
    omega
  · have hlt := hhistory.ply_lt hr
    have hsame' : r.ply = evaluation.applied.plyNumber := hsame
    rw [hply] at hsame'
    rw [h.length] at hlt
    omega
  · show 0 < evaluation.applied.plyNumber
    rw [hply]
    exact Nat.succ_pos n

theorem Playing.Next.checked {m : AdmittedMove} {guests : GuestSessionId × GuestSessionId}
    (hm : Playing.Next line n g m guests) (h : line.Playing n g) (hn : n < 1000000)
    (hrow : g.integersFit ∧ g.rowChecks) :
    (m.row guests).integersFit ∧ (m.row guests).rowChecks := by
  obtain ⟨rfl,_,_,hterminal,⟨hwhite,hblack⟩,_⟩ := hm
  obtain ⟨⟨_,hinitial,hincrement,_⟩,⟨⟨hpositive,hnonneg,_⟩,hcodes,hstate,hturn,_⟩⟩ := hrow
  have hstatus : (m.row guests).status = .inProgress := by
    rw [m.row_status,hterminal]
    simp [h.status]
  have hlive : m.game.result = none ∧ m.game.termination = none ∧ m.game.endedAt = none := by
    unfold PersistedGame.terminalStateCheck at hstate
    rw [h.status] at hstate
    exact hstate
  have hstarted : m.game.turnStartedAt.isSome ∧ m.game.startedAt.isSome := by
    unfold PersistedGame.turnClockStateCheck at hturn
    rw [h.status] at hturn
    exact hturn
  have hversion : (m.row guests).version = n + 3 := by
    show m.game.version + (if m.game.status = .ready then 2 else 1) = n + 3
    rw [h.version,h.status]
    rfl
  have hresult : (m.row guests).result = none ∧ (m.row guests).termination = none ∧
      (m.row guests).endedAt = none := by
    refine ⟨?_,?_,?_⟩
    · show (m.terminal.map _).or m.game.result = none
      rw [hterminal,hlive.1]
      rfl
    · show (m.terminal.map _).or m.game.termination = none
      rw [hterminal,hlive.2.1]
      rfl
    · show (if m.terminal = none then m.game.endedAt else _) = none
      rw [hterminal,hlive.2.2]
      rfl
  have hclock : (m.row guests).turnStartedAt.isSome ∧ (m.row guests).startedAt.isSome := by
    constructor
    · show (if m.terminal = none then some m.observedAt else none).isSome = true
      rw [hterminal]
      rfl
    · show (if m.game.status = .ready then _ else m.game.startedAt).isSome = true
      rw [h.status]
      exact hstarted.2
  have hfits : fitsInteger ((m.row guests).version : ℤ) := by
    rw [hversion]
    constructor <;> omega
  refine ⟨⟨hfits,hinitial,hincrement,?_,?_⟩,⟨hpositive,hnonneg,?_,?_⟩,?_,?_,?_,?_⟩
  · show fitsInteger m.clock.whiteMs
    rw [hwhite]
    decide
  · show fitsInteger m.clock.blackMs
    rw [hblack]
    decide
  · show 0 ≤ m.clock.whiteMs
    rw [hwhite]
    decide
  · show 0 ≤ m.clock.blackMs
    rw [hblack]
    decide
  · unfold PersistedGame.codeChecks
    rw [hresult.1,hresult.2.1]
    exact ⟨nofun,nofun⟩
  · unfold PersistedGame.terminalStateCheck
    rw [hstatus]
    exact hresult
  · unfold PersistedGame.turnClockStateCheck
    rw [hstatus]
    exact hclock
  · unfold PersistedGame.endedAfterStartedCheck
    rw [hresult.2.2]
    nofun

/-- The row of the next move is that of the line. -/
theorem Playing.Next.playing {m : AdmittedMove} {guests : GuestSessionId × GuestSessionId}
    (hm : Playing.Next line n g m guests) (h : line.Playing n g) (hhistory : g.History chess) :
    line.Playing (n + 1) (m.row guests) := by
  obtain ⟨rfl,hinput,hobserved,hterminal,⟨hwhite,hblack⟩,hply,hpgn,hreplayed,hadmitted⟩ := hm
  have hmoves : (m.row guests).moves = m.game.moves ++ [m.moveRow] := by
    refine orderedInsert_last fun x hx => ?_
    have hlt := hhistory.ply_lt hx
    rw [h.length] at hlt
    show x.ply < m.evaluation.applied.plyNumber
    rw [hply]
    exact hlt
  constructor
  · rw [m.row_status,hterminal]
    simp [h.status]
  · show m.game.version + (if m.game.status = .ready then 2 else 1) = n + 1 + 2
    rw [h.version,h.status]
    rfl
  · rw [hmoves,List.length_append,h.length]
    rfl
  · exact h.initialFen
  · rw [hmoves,List.map_append]
    exact hreplayed
  · exact ⟨hwhite,hblack,h.clocks.2.2⟩
  · show (if m.terminal = none then some m.observedAt else none) = some (lineTime (n + 1))
    rw [hterminal,hobserved]
    rfl
  · show (if m.game.status = .ready then _ else m.game.startedAt) = some 5000
    rw [h.status]
    exact h.startedAt
  · exact hpgn
  · exact h.players
  · intro c hc
    rcases List.mem_append.mp hc with hc | hc
    · obtain ⟨k,hk,hid⟩ := h.commands c hc
      exact ⟨k,Nat.lt_succ_of_lt hk,hid⟩
    · rw [List.mem_singleton.mp hc]
      refine ⟨n,Nat.lt_succ_self n,?_⟩
      show m.input.clientMoveId = lineMoveId n
      rw [hinput]
      rfl
  · intro r hr
    rw [hmoves] at hr
    rcases List.mem_append.mp hr with hr | hr
    · obtain ⟨k,hk,hid⟩ := h.moves r hr
      exact ⟨k,Nat.lt_succ_of_lt hk,hid⟩
    · rw [List.mem_singleton.mp hr]
      refine ⟨n,Nat.lt_succ_self n,?_⟩
      show m.input.clientMoveId = lineMoveId n
      rw [hinput]
      rfl

theorem Playing.step (rules : chess.Rules) {db : Db} (hdb : db.ServedReachable chess.engine)
    (hg : db.games.find (sampleId 10) = some g) (h : line.Playing n g) (hn : n < plies)
    (hplies : n < 1000000) : ∃ g', ((repositories chess.engine).next db
      (line.operation n)).games.find (sampleId 10) = some g' ∧ line.Playing (n + 1) g' := by
  have hsound := hdb.reachable.sound
  have hhistory := (hdb.recorded rules _ g hg).history
  obtain ⟨p,q,hplayers,_⟩ := (hsound.games _ g hg).pair
  have hpair := guestPair_of_players hplayers
  obtain ⟨m,hm⟩ := h.next rules hn hhistory hpair
  have hchecked := hm.checked h hplies (hdb.reachable.rowsChecked _ g hg)
  have hfound : db.games.find m.input.gameId = some m.game := by
    rw [hm.input,hm.game]
    exact hg
  have htime : m.observedAt = truncatedToMillis (1000*lineTime (n + 1)) := by
    rw [truncated_lineTime,hm.observedAt]
  have hsubmit := Db.submitInTransaction_eq hsound hfound hm.admitted htime
    (hm.game ▸ h.casts) hchecked.1 hchecked.2
  rw [hm.input] at hsubmit
  have hnext : (repositories chess.engine).next db (line.operation n) =
      db.settle (m.row (p.guestSessionId,q.guestSessionId)) := by
    show (Db.answered (db.transaction (db.submitInTransaction _ _ _)) _).2 = _
    rw [hsubmit]
    rfl
  refine ⟨m.row (p.guestSessionId,q.guestSessionId),?_,hm.playing h hhistory⟩
  have hid : (m.row (p.guestSessionId,q.guestSessionId)).id = sampleId 10 := by
    show m.game.id = sampleId 10
    rw [hm.game]
    exact Table.find_key hg
  rw [hnext,find_settle (by rw [hid,hg]; exact Option.some_ne_none g),if_pos hid.symm]

theorem Playing.run (rules : chess.Rules) {db : Db} (hdb : db.ServedReachable chess.engine)
    (hg : db.games.find (sampleId 10) = some g) (h : line.Playing 0 g) (hplies : plies ≤ 1000000) :
    ∀ n ≤ plies, ((repositories chess.engine).run db
      ((List.range n).map line.operation)).ServedReachable chess.engine ∧
      ∃ g', ((repositories chess.engine).run db
        ((List.range n).map line.operation)).games.find (sampleId 10) = some g' ∧
          line.Playing n g' := by
  intro n hn
  induction n with
  | zero => exact ⟨hdb,g,hg,h⟩
  | succ n ih =>
    obtain ⟨hreachable,g',hg',hplaying⟩ := ih (Nat.le_of_succ_le hn)
    have hlt : n < 1000000 := Nat.lt_of_lt_of_le hn hplies
    rw [List.range_succ,List.map_append,Machine.run_append]
    exact ⟨hreachable.next (operation_served hlt),
      hplaying.step rules hreachable hg' hn hlt⟩

def resignInput (n : ℕ) : ResignGame := ⟨lineMoveId n,n + 2,sampleId 10,sampleGuest .w⟩

def resignation (n : ℕ) : Operation := .resign (resignInput n) (1000*lineTime (n + 1))

theorem resignation_served (hn : n < 1000000) : (resignation n).Served chess.engine := by
  exact .of_observation trivial rfl (lineTime_isInstant hn)

/-- White can resign after any ply, and the answer carries the PGN of the position. -/
theorem Playing.resigns {db : Db} (hdb : db.ServedReachable chess.engine)
    (hg : db.games.find (sampleId 10) = some g) (h : line.Playing n g) (hn : n < 1000000) :
    ∃ submission, (execute chess.engine db (resignation n)).1 = .resignation (.ok submission) ∧
      submission.duplicate = false ∧
      submission.ended.pgn = chess.getPgn (line.position n) .ongoing := by
  have hsound := hdb.reachable.sound
  have hrows := hdb.reachable.rowsChecked _ g hg
  obtain ⟨p,q,hplayers,_⟩ := (hsound.games _ g hg).pair
  have hpair := guestPair_of_players hplayers
  obtain ⟨player,hplayer,_⟩ := h.players .w
  have hfresh : g.command (resignInput n).eventId = none := h.fresh
  have hexpected : (resignInput n).expectedVersion = g.version := h.version.symm
  have hversion : g.version < 2147483647 := by
    rw [h.version]
    omega
  have hstarted : ∀ s ∈ g.startedAt, s ≤ truncatedToMillis (1000*lineTime (n + 1)) := by
    intro s hs
    obtain rfl := Option.some.inj (h.startedAt.symm.trans hs)
    rw [truncated_lineTime]
    show (5000 : ℤ) ≤ 5000 + 2000*((n + 1 : ℕ) : ℤ)
    omega
  have houtcome : deriveTerminalOutcome (.resignation player.color) =
      .ok (winnerOutcome (oppositeColor player.color) .completed .resignation) := rfl
  obtain ⟨db',hresign⟩ := Db.resignInTransaction_eq chess.engine
    hsound hg h.casts hplayer hfresh (Or.inl h.status) hexpected hpair houtcome
    (PersistedGame.ended_integersFit hrows.1 h.casts hversion _)
    (PersistedGame.rowChecks_finalized hrows.2 hstarted _)
  refine ⟨terminalSubmission g (g.locked (1000*lineTime (n + 1)))
    (winnerOutcome (oppositeColor player.color) .completed .resignation)
    (p.guestSessionId,q.guestSessionId),?_,rfl,h.pgn⟩
  show Answer.resignation (Db.answered (db.transaction (db.resignInTransaction _ _)) _).1 = _
  rw [hresign]
  rfl

end Step

end ChessJs.Line

/-! ### The long line

After the first twelve plies the line goes on in thirty rounds of 98 plies. Each begins with one
move of a pawn and continues with the rooks of the queenside, that of White around five squares and
that of Black around six, so that no position occurs three times and no hundred plies pass without
a pawn that moves. -/

def opening : List (String × String) :=
  [("a2","a3"),("a7","a6"),("b2","b3"),("b7","b6"),("c2","c3"),("c7","c6"),("d2","d3"),("d7","d6"),
    ("e2","e3"),("e7","e6")]

/-- The move of a pawn in each round. -/
def pawnMoves : List (PlayerColor × String × String) :=
  [(.w,"a3","a4"),(.w,"b3","b4"),(.w,"c3","c4"),(.w,"d3","d4"),(.w,"e3","e4"),(.w,"f2","f3"),
    (.w,"f3","f4"),(.w,"g2","g3"),(.w,"g3","g4"),(.w,"h2","h3"),(.w,"h3","h4"),(.b,"a6","a5"),
    (.b,"b6","b5"),(.b,"c6","c5"),(.b,"d6","d5"),(.b,"e6","e5"),(.b,"f6","f5"),(.b,"g7","g6"),
    (.b,"g6","g5"),(.b,"h7","h6"),(.b,"h6","h5"),(.w,"b4","a5"),(.w,"d4","c5"),(.w,"f4","g5"),
    (.b,"b5","a4"),(.b,"d5","c4"),(.b,"f5","g4"),(.w,"g5","g6"),(.w,"c5","c6"),(.w,"a5","a6")]

def longPlies : ℕ := 2952

def pawnMove (n : ℕ) : Option (String × String) :=
  if n < 10 then opening[n]?
  else if n = 10 then none
  else if n = 11 then some ("f7","f6")
  else (pawnMoves[(n - 12)/98]?).bind fun (color,source,target) =>
    if (n - 12) % 98 = (if color = .w then 0 else 1) then some (source,target) else none

/-- The squares that a rook goes around, once it has left the corner. -/
def rookCycle : PlayerColor → List String
  | .w => ["a2","b2","c2","d2","e2"]
  | .b => ["a7","b7","c7","d7","e7","f7"]

def rookSquare (color : PlayerColor) (count : ℕ) : String :=
  if count = 0 then if color = .w then "a1" else "a8"
  else (rookCycle color).getD ((count - 1) % (rookCycle color).length) ""

def rookCount (color : PlayerColor) : ℕ → ℕ
  | 0 => 0
  | n+1 => rookCount color n + if pawnMove n = none ∧ turnAt n = color then 1 else 0

def longMove (n : ℕ) : String × String :=
  (pawnMove n).getD (rookSquare (turnAt n) (rookCount (turnAt n) n),
    rookSquare (turnAt n) (rookCount (turnAt n) n + 1))

/-- A pawn captures when it leaves its file. -/
def pawnCaptures (move : String × String) : Bool := decide (slice move.1 0 1 ≠ slice move.2 0 1)

def longSan (n : ℕ) : String :=
  match pawnMove n with
  | some move => if pawnCaptures move then slice move.1 0 1 ++ "x" ++ move.2 else move.2
  | none => "R" ++ (longMove n).2

def initialRank : Char → List Char
  | '1' => "RNBQKBNR".toList
  | '2' => "PPPPPPPP".toList
  | '7' => "pppppppp".toList
  | '8' => "rnbqkbnr".toList
  | _ => "        ".toList

def pieceAt : ℕ → Char → Char → Char
  | 0,file,rank => (initialRank rank).getD (file.toNat - 97) ' '
  | n+1,file,rank =>
    if (longMove n).1.toList = [file,rank] then ' '
    else if (longMove n).2.toList = [file,rank] then
      match (longMove n).1.toList with
      | [f,r] => pieceAt n f r
      | _ => ' '
    else pieceAt n file rank

def blanksText (blanks : ℕ) : List Char := if blanks = 0 then [] else [Char.ofNat (48 + blanks)]

def rankText : ℕ → List Char → List Char
  | blanks,[] => blanksText blanks
  | blanks,' ' :: rest => rankText (blanks + 1) rest
  | blanks,piece :: rest => blanksText blanks ++ piece :: rankText 0 rest

def placementText (n : ℕ) : String :=
  String.ofList (List.intercalate ['/'] (['8','7','6','5','4','3','2','1'].map fun rank =>
    rankText 0 (['a','b','c','d','e','f','g','h'].map fun file => pieceAt n file rank)))

def castlingText (n : ℕ) : String :=
  "K" ++ (if rookCount .w n = 0 then "Q" else "") ++ "k" ++
    (if rookCount .b n = 0 then "q" else "")

/-- The plies since a pawn has moved. -/
def halfmoves : ℕ → ℕ
  | 0 => 0
  | n+1 => if pawnMove n = none then halfmoves n + 1 else 0

def longFen (n : ℕ) : String :=
  placementText n ++ (if turnAt n = .w then " w " else " b ") ++ castlingText n ++ " - " ++
    toString (halfmoves n) ++ " " ++ toString (n/2 + 1)

/-- The moves of a PGN, with a number before every move of White. -/
def movesText : ℕ → String
  | 0 => ""
  | n+1 => movesText n ++ (if n % 2 = 0 then toString (n/2 + 1) ++ ". " else "") ++ longSan n ++ " "

section LongLine

theorem pawnMove_mem {n : ℕ} {move : String × String} (h : pawnMove n = some move) :
    move ∈ ("f7","f6") :: opening ++ pawnMoves.map Prod.snd := by
  unfold pawnMove at h
  split_ifs at h with hopening hlast
  · exact List.mem_append_left _ (List.mem_cons_of_mem _ (List.mem_of_getElem? h))
  · cases h
    exact List.mem_append_left _ List.mem_cons_self
  · obtain ⟨⟨color,source,target⟩,hround,h⟩ := Option.bind_eq_some_iff.mp h
    refine List.mem_append_right _ (List.mem_map.mpr ⟨_,List.mem_of_getElem? hround,?_⟩)
    simp only at h
    split_ifs at h
    · exact Option.some.inj h
    · exact Option.some.inj h

theorem rookSquare_mem (color : PlayerColor) (count : ℕ) :
    rookSquare color count ∈ ["a1","a8"] ++ rookCycle .w ++ rookCycle .b := by
  unfold rookSquare
  split_ifs with hhome hcolor
  · decide
  · decide
  · have hlength : 0 < (rookCycle color).length := by
      cases color <;> decide
    have hlt := Nat.mod_lt (count - 1) hlength
    rw [List.getD_eq_getElem?_getD,List.getElem?_eq_getElem hlt,Option.getD_some]
    have hmem := List.getElem_mem hlt
    cases color with
    | w => exact List.mem_append_left _ (List.mem_append_right _ hmem)
    | b => exact List.mem_append_right _ hmem

theorem longMove_rook {n : ℕ} (h : pawnMove n = none) : ∃ color count,
    longMove n = (rookSquare color count,rookSquare color (count + 1)) := by
  refine ⟨turnAt n,rookCount (turnAt n) n,?_⟩
  rw [longMove,h,Option.getD_none]

theorem longMove_squares (n : ℕ) :
    isSquare (longMove n).1 = true ∧ isSquare (longMove n).2 = true := by
  have hpawns : ∀ move ∈ ("f7","f6") :: opening ++ pawnMoves.map Prod.snd,
      isSquare move.1 = true ∧ isSquare move.2 = true := by decide
  have hrooks : ∀ square ∈ ["a1","a8"] ++ rookCycle .w ++ rookCycle .b,
      isSquare square = true := by decide
  cases hp : pawnMove n with
  | some move =>
    rw [longMove,hp,Option.getD_some]
    exact hpawns move (pawnMove_mem hp)
  | none =>
    obtain ⟨color,count,hmove⟩ := longMove_rook hp
    rw [hmove]
    exact ⟨hrooks _ (rookSquare_mem color count),hrooks _ (rookSquare_mem color (count + 1))⟩

theorem longSan_length (n : ℕ) : 2 ≤ (longSan n).length ∧ (longSan n).length ≤ 4 := by
  have hpawns : ∀ move ∈ ("f7","f6") :: opening ++ pawnMoves.map Prod.snd,
      2 ≤ (if pawnCaptures move then slice move.1 0 1 ++ "x" ++ move.2 else move.2).length ∧
        (if pawnCaptures move then slice move.1 0 1 ++ "x" ++ move.2 else move.2).length ≤ 4 := by
    decide
  have hrooks : ∀ square ∈ ["a1","a8"] ++ rookCycle .w ++ rookCycle .b,
      ("R" ++ square).length = 3 := by decide
  unfold longSan
  cases hp : pawnMove n with
  | some move => exact hpawns move (pawnMove_mem hp)
  | none =>
    obtain ⟨color,count,hmove⟩ := longMove_rook hp
    have hlength := hrooks _ (rookSquare_mem color (count + 1))
    rw [hmove]
    simp only [hlength]
    decide

/-! The text of a position has at most 91 characters. -/

theorem rankText_length (blanks : ℕ) (row : List Char) :
    (rankText blanks row).length ≤ row.length + if blanks = 0 then 0 else 1 := by
  have hblanks : ∀ k, (blanksText k).length = if k = 0 then 0 else 1 := by
    intro k
    unfold blanksText
    split_ifs <;> rfl
  induction row generalizing blanks with
  | nil => simp [rankText,hblanks]
  | cons piece row ih =>
    by_cases hpiece : piece = ' '
    · subst hpiece
      have hrest := ih (blanks + 1)
      simp only [rankText,List.length_cons,Nat.succ_ne_zero,if_false] at hrest ⊢
      omega
    · have hrest := ih 0
      rw [rankText.eq_3 _ _ _ (by simpa using hpiece),List.length_append,List.length_cons,hblanks,
        List.length_cons]
      simp only [if_true] at hrest
      omega

theorem intercalate_length {sep : Char} {k : ℕ} {rows : List (List Char)}
    (h : ∀ row ∈ rows, row.length ≤ k) :
    (List.intercalate [sep] rows).length ≤ rows.length*(k + 1) := by
  induction rows with
  | nil => simp
  | cons row rows ih =>
    have hrow := h row List.mem_cons_self
    have hrest := ih fun r hr => h r (List.mem_cons_of_mem row hr)
    cases rows with
    | nil =>
      rw [List.intercalate_singleton]
      simp only [List.length_cons,List.length_nil]
      omega
    | cons next rows =>
      rw [List.intercalate_cons_cons,List.length_append,List.length_append]
      simp only [List.length_cons,List.length_nil] at hrest ⊢
      rw [Nat.succ_mul]
      omega

theorem placementText_length (n : ℕ) : (placementText n).length ≤ 72 := by
  unfold placementText
  rw [String.length_ofList]
  refine intercalate_length (k := 8) fun row hrow => ?_
  obtain ⟨rank,_,rfl⟩ := List.mem_map.mp hrow
  exact rankText_length 0 _

theorem toString_length {n k : ℕ} (hk : 0 < k) : (toString n).length ≤ k ↔ n < 10^k := by
  rw [← String.length_toList,Nat.toString_eq_repr,Nat.toList_repr]
  exact Nat.length_toDigits_le_iff (by decide) hk

theorem halfmoves_le (n : ℕ) : halfmoves n ≤ n := by
  induction n with
  | zero => exact le_rfl
  | succ n ih =>
    unfold halfmoves
    split_ifs <;> omega

theorem longFen_length {n : ℕ} (hn : n < 10000) : (longFen n).length ≤ 91 := by
  have hplacement := placementText_length n
  have hcastling : (castlingText n).length ≤ 4 := by
    unfold castlingText
    split_ifs <;> decide
  have hturn : (if turnAt n = .w then " w " else " b ").length = 3 := by
    split_ifs <;> rfl
  have hhalf : (toString (halfmoves n)).length ≤ 4 :=
    (toString_length (by decide)).mpr (lt_of_le_of_lt (halfmoves_le n) hn)
  have hfull : (toString (n/2 + 1)).length ≤ 4 := (toString_length (by decide)).mpr (by omega)
  have hdash : " - ".length = 3 := rfl
  have hspace : " ".length = 1 := rfl
  unfold longFen
  simp only [String.length_append]
  omega

/-! The text of the moves contains every move, and it has more than 16,384 characters. -/

theorem longSan_inside {i n : ℕ} (h : i < n) : (longSan i).toList <:+: (movesText n).toList := by
  induction n with
  | zero => exact absurd h (Nat.not_lt_zero i)
  | succ n ih =>
    have hstep : (movesText (n + 1)).toList = (movesText n).toList ++
        ((if n % 2 = 0 then toString (n/2 + 1) ++ ". " else "").toList ++ (longSan n).toList ++
          " ".toList) := by
      simp [movesText]
    rw [hstep]
    rcases Nat.lt_succ_iff_lt_or_eq.mp h with hlt | rfl
    · exact (ih hlt).trans (List.prefix_append _ _).isInfix
    · exact (List.infix_append _ _ _).trans (List.suffix_append _ _).isInfix

theorem four_le_digits (k : ℕ) : 4 ≤ (toString (k + 1)).length + (if k < 9 then 1 else 0) +
    (if k < 99 then 1 else 0) + if k < 999 then 1 else 0 := by
  have hone := (toString_length (n := k + 1) Nat.one_pos).not
  have htwo := (toString_length (n := k + 1) Nat.two_pos).not
  have hthree := (toString_length (n := k + 1) (k := 3) (by decide)).not
  have hzero : 0 < (toString (k + 1)).length := by
    rw [← String.length_toList,Nat.toString_eq_repr,Nat.toList_repr]
    exact Nat.length_toDigits_pos
  simp only [not_le,not_lt] at hone htwo hthree
  split_ifs <;> omega

/-- Every full move adds a number, a point and two moves, each with a blank behind it. -/
theorem movesText_length (k : ℕ) :
    12*k ≤ (movesText (2*k)).length + min k 9 + min k 99 + min k 999 := by
  induction k with
  | zero => exact Nat.zero_le _
  | succ k ih =>
    have hwhite := (longSan_length (2*k)).1
    have hblack := (longSan_length (2*k + 1)).1
    have hdigits := four_le_digits k
    have hstep : (movesText (2*(k + 1))).length = (movesText (2*k)).length +
        ((toString (k + 1)).length + 2) + (longSan (2*k)).length + 1 +
          (longSan (2*k + 1)).length + 1 := by
      have heven : 2*k % 2 = 0 := Nat.mul_mod_right 2 k
      have hodd : (2*k + 1) % 2 ≠ 0 := by omega
      have hhalf : 2*k/2 = k := Nat.mul_div_cancel_left k Nat.two_pos
      have hpoint : ". ".length = 2 := rfl
      have hblank : " ".length = 1 := rfl
      have hempty : "".length = 0 := rfl
      show (movesText (2*k + 1 + 1)).length = _
      simp only [movesText,String.length_append,if_pos heven,if_neg hodd,hhalf,hpoint,hblank,hempty,
        Nat.add_zero]
    rw [hstep]
    split_ifs at hdigits <;> omega

theorem longPgn_length (result : String) :
    maxPgnLength < jsLength (headedPgn ("\n" ++ movesText longPlies) result) := by
  have hmoves := movesText_length 1476
  have hjs := length_le_jsLength (headedPgn ("\n" ++ movesText longPlies) result)
  have hle : (movesText longPlies).length ≤
      (headedPgn ("\n" ++ movesText longPlies) result).length := by
    unfold headedPgn
    simp only [String.length_append]
    omega
  have hplies : 2*1476 = longPlies := rfl
  rw [hplies] at hmoves
  unfold maxPgnLength
  omega

end LongLine

/-! ### The engine of the long line -/

inductive ChessJs.Played (chess : ChessJs) : chess.Position → List ChessMove → Prop
  | start {p : chess.Position} (h : chess.load chess.defaultPosition = some p) : Played chess p []
  | move {p p' : chess.Position} {moves : List ChessMove} {source target : String}
      {promotion : Option String} {m : ChessMove} (h : Played chess p moves)
      (hm : chess.move p source promotion target = some (p',m)) : Played chess p' (moves ++ [m])

/-- The PGN of a position contains the notation of every move of the game. -/
def ChessJs.ListsMoves (chess : ChessJs) : Prop :=
  ∀ p moves, chess.Played p moves → ∀ result, ∀ m ∈ moves,
    m.san.toList <:+: (chess.pgn p result).toList

/-- A `chess.js` that knows the moves of the long line. No check, mate, stalemate or draw occurs
on it. -/
def longChess : ChessJs where
  Position := { n : ℕ // n ≤ longPlies }
  defaultPosition := sampleFen
  validateFen fen := if fen = sampleFen then .ok () else .error none
  load fen := if fen = sampleFen then some ⟨0,Nat.zero_le _⟩ else none
  fen p := longFen p.1
  turn p := turnAt p.1
  pawnAt p square :=
    match square.toList with
    | [file,rank] => decide (pieceAt p.1 file rank ∈ ['P','p'])
    | _ => false
  move p source promotion target :=
    if h : p.1 < longPlies ∧ source = (longMove p.1).1 ∧ promotion = none ∧
        target = (longMove p.1).2 then
      some (⟨p.1 + 1,h.1⟩,{
        capture := (pawnMove p.1).any pawnCaptures
        color := turnAt p.1
        enPassant := false
        promotion := none
        san := longSan p.1
        source := (longMove p.1).1
        target := (longMove p.1).2 })
    else none
  isCheck _ := false
  isCheckmate _ := false
  isStalemate _ := false
  isInsufficientMaterial _ := false
  isThreefoldRepetition _ := false
  isDrawByFiftyMoves _ := false
  pgn p result := headedPgn (if p.1 = 0 then " " else "\n" ++ movesText p.1) result

section LongChess

theorem longChess_move {p p' : longChess.Position} {source target : String}
    {promotion : Option String} {m : ChessMove}
    (h : longChess.move p source promotion target = some (p',m)) :
    p'.1 = p.1 + 1 ∧ p.1 < longPlies ∧ source = m.source ∧ target = m.target ∧ promotion = none ∧
      m.promotion = none ∧ m.color = turnAt p.1 ∧ m.san = longSan p.1 := by
  simp only [longChess] at h
  split_ifs at h with hmove
  obtain ⟨hlt,hsource,hpromotion,htarget⟩ := hmove
  cases h
  exact ⟨rfl,hlt,hsource,htarget,hpromotion,rfl,rfl,rfl⟩

theorem longFen_zero : longFen 0 = sampleFen := by decide

theorem longChess_rules : longChess.Rules where
  start := ⟨⟨0,Nat.zero_le _⟩,rfl,rfl,longFen_zero,rfl⟩
  components {p source promotion target p' m} h := by
    obtain ⟨_,_,hsource,htarget,hpromotion,hnone,_,_⟩ := longChess_move h
    refine ⟨hsource.symm,htarget.symm,Or.inl hnone,?_⟩
    rw [hnone,← hsource,← htarget,← hpromotion]
    exact h
  alternates {p source promotion target p' m} h := by
    obtain ⟨hnext,_,_,_,_,_,hcolor,_⟩ := longChess_move h
    refine ⟨hcolor,?_⟩
    show turnAt p'.1 = _
    rw [hnext,turnAt_succ,hcolor]
  fenText p := by
    show longFen p.1 ≠ ""
    intro hempty
    have hlength := congrArg String.length hempty
    simp [longFen] at hlength
  sanText {p source promotion target p' m} h := by
    obtain ⟨_,_,_,_,_,_,_,hsan⟩ := longChess_move h
    intro hempty
    have hlength := (longSan_length p.1).1
    rw [← hsan,hempty] at hlength
    exact absurd hlength (by decide)

theorem longChess_texts : longChess.TextBounds where
  fen p := by
    have hplies : longPlies < 10000 := by decide
    have hlength := longFen_length (Nat.lt_of_le_of_lt p.2 hplies)
    have hjs := jsLength_le (longFen p.1)
    show jsLength (longFen p.1) ≤ 256
    omega
  san {p source promotion target p' m} h := by
    obtain ⟨_,_,_,_,_,_,_,hsan⟩ := longChess_move h
    have hlength := (longSan_length p.1).2
    have hjs := jsLength_le (longSan p.1)
    rw [hsan]
    omega

theorem longChess_played {p : longChess.Position} {moves : List ChessMove}
    (h : longChess.Played p moves) : ∀ m ∈ moves, ∃ i < p.1, m.san = longSan i := by
  induction h with
  | start _ => exact fun _ hm => absurd hm List.not_mem_nil
  | move _ hmove ih =>
    obtain ⟨hnext,_,_,_,_,_,_,hsan⟩ := longChess_move hmove
    intro m hm
    rw [hnext]
    rcases List.mem_append.mp hm with hm | hm
    · obtain ⟨i,hi,hm⟩ := ih m hm
      exact ⟨i,Nat.lt_succ_of_lt hi,hm⟩
    · rw [List.mem_singleton.mp hm]
      exact ⟨_,Nat.lt_succ_self _,hsan⟩

theorem headedPgn_moves (moves result : String) :
    moves.toList <:+: (headedPgn moves result).toList := by
  have hsplit : ∃ head, headedPgn moves result = head ++ (moves ++ result) := by
    refine ⟨tagPair "Event" "?" ++ "\n" ++ tagPair "Site" "?" ++ "\n" ++
      tagPair "Date" "????.??.??" ++ "\n" ++ tagPair "Round" "?" ++ "\n" ++ tagPair "White" "?" ++
      "\n" ++ tagPair "Black" "?" ++ "\n" ++ tagPair "Result" result ++ "\n",?_⟩
    simp only [headedPgn,String.append_assoc]
  obtain ⟨head,hsplit⟩ := hsplit
  rw [hsplit,String.toList_append,String.toList_append]
  exact (List.prefix_append _ _).isInfix.trans (List.suffix_append _ _).isInfix

theorem longChess_listsMoves : longChess.ListsMoves := by
  intro p moves hplayed result m hm
  obtain ⟨i,hi,hsan⟩ := longChess_played hplayed m hm
  have hpgn : longChess.pgn p result = headedPgn ("\n" ++ movesText p.1) result := by
    show headedPgn (if p.1 = 0 then _ else _) result = _
    rw [if_neg (Nat.ne_zero_of_lt hi)]
  rw [hsan,hpgn]
  have hmoves : (movesText p.1).toList <:+: ("\n" ++ movesText p.1).toList := by
    rw [String.toList_append]
    exact (List.suffix_append _ _).isInfix
  exact ((longSan_inside hi).trans hmoves).trans (headedPgn_moves _ _)

def longLine : longChess.Line longPlies where
  position n := ⟨min n longPlies,Nat.min_le_right _ _⟩
  proposal n := ⟨(longMove n).1,none,(longMove n).2⟩
  start := rfl
  squares n := ⟨(longMove_squares n).1,(longMove_squares n).2,rfl⟩
  made n hn := by
    have hposition : min n longPlies = n := Nat.min_eq_left hn.le
    have hnext : min (n + 1) longPlies = n + 1 := Nat.min_eq_left hn
    have hmove : ∃ m, longChess.move ⟨n,hn.le⟩ (longMove n).1 none (longMove n).2 =
        some (⟨n + 1,hn⟩,m) := ⟨_,dif_pos ⟨hn,rfl,rfl,rfl⟩⟩
    simpa only [hposition,hnext] using hmove
  live _ _ := rfl

/-- The database in which the long line is about to be played, and the one where it has been. -/
def longStarted : Db :=
  (repositories longChess.engine).run (.initial sampleSessions .empty) headedStart

def longPlayed : Db :=
  (repositories longChess.engine).run longStarted ((List.range longPlies).map longLine.operation)

theorem longStarted_reachable : longStarted.ServedReachable longChess.engine := by
  refine ⟨sampleSessions,.empty,headedStart,by decide,?_,rfl⟩
  have hallocate : (Operation.allocate headedAllocation).Served longChess.engine :=
    ⟨⟨⟨_,rfl,longFen_zero.symm,rfl⟩,by decide,by decide,by decide,by decide,by decide⟩,
      fun _ ho => by cases ho⟩
  simp only [headedStart,List.forall_mem_cons]
  refine ⟨hallocate,⟨trivial,fun _ ho => by cases ho⟩,⟨trivial,fun _ ho => by cases ho⟩,
    .of_observation trivial rfl ⟨by decide,by decide⟩,?_⟩
  exact fun _ hop => absurd hop List.not_mem_nil

def longGame : PersistedGame :=
  (longStarted.games.find (sampleId 10)).getD (newGameRow headedAllocation)

theorem longGame_playing : longLine.Playing 0 longGame where
  status := rfl
  version := rfl
  length := rfl
  initialFen := rfl
  replayed := rfl
  clocks := ⟨rfl,rfl,rfl⟩
  turnStartedAt := rfl
  startedAt := rfl
  pgn := rfl
  players color := by
    cases color with
    | w => exact ⟨_,rfl,rfl⟩
    | b => exact ⟨_,rfl,rfl⟩
  commands := fun _ hc => absurd hc List.not_mem_nil
  moves := fun _ hr => absurd hr List.not_mem_nil

theorem longPlayed_resigns : longPlayed.ServedReachable longChess.engine ∧
    ∃ submission, (execute longChess.engine longPlayed (ChessJs.Line.resignation longPlies)).1 =
      .resignation (.ok submission) ∧ submission.duplicate = false ∧
      maxPgnLength < jsLength submission.ended.pgn := by
  obtain ⟨hreachable,g,hg,hplaying⟩ := longGame_playing.run longChess_rules
    longStarted_reachable rfl (by decide) longPlies le_rfl
  obtain ⟨submission,hanswer,hfresh,hpgn⟩ := hplaying.resigns hreachable hg (by decide)
  refine ⟨hreachable,submission,hanswer,hfresh,?_⟩
  have hposition : (longLine.position longPlies).1 = longPlies := Nat.min_self longPlies
  have htext : longChess.getPgn (longLine.position longPlies) .ongoing =
      headedPgn ("\n" ++ movesText longPlies) "*" := by
    show headedPgn (if (longLine.position longPlies).1 = 0 then _ else _) "*" = _
    rw [hposition]
    rfl
  rw [hpgn,htext]
  exact longPgn_length "*"

end LongChess

/-- A resignation whose PGN is too long can be neither announced nor acknowledged. -/
theorem resignation_not_sendable {chess : ChessJs} (rules : chess.Rules) (texts : chess.TextBounds)
    {db : Db} (hdb : db.ServedReachable chess.engine) {op : Operation}
    (hop : op.Served chess.engine) {submission : TerminalSubmission}
    (hanswer : (execute chess.engine db op).1 = .resignation (.ok submission))
    (hfresh : submission.duplicate = false)
    (hlong : maxPgnLength < jsLength submission.ended.pgn) :
    (∀ stamp : Stamp, stamp.Valid → ¬ ∃ deliveries,
      completeTerminal submission stamp = .ok deliveries) ∧
    ∀ request : RequestIds, request.Valid → ¬ ∃ ack,
      acknowledgeResignation submission request = .ok ack := by
  have hvalid := execute_valid rules texts hdb hop
  rw [hanswer] at hvalid
  refine ⟨fun stamp hstamp hsent => ?_,fun request hrequest hsent => ?_⟩
  · have hshort := (completeTerminal_ok_iff hstamp hvalid).mp hsent hfresh
    exact absurd hshort (Nat.not_le_of_lt hlong)
  · have hshort := (acknowledgeResignation_ok_iff hrequest hvalid).mp hsent
    exact absurd hshort (Nat.not_le_of_lt hlong)

/-- With a `chess.js` whose texts are as short as assumed, and whose PGN lists every move, a game of
2,952 plies can be resigned, and the end that is then committed can neither be announced nor
acknowledged. -/
theorem long_game_not_sendable : longChess.Rules ∧ longChess.TextBounds ∧ longChess.ListsMoves ∧
    longPlayed.ServedReachable longChess.engine ∧
    (ChessJs.Line.resignation longPlies).Served longChess.engine ∧ ∃ submission,
      (execute longChess.engine longPlayed (ChessJs.Line.resignation longPlies)).1 =
        .resignation (.ok submission) ∧
      (∀ stamp : Stamp, stamp.Valid → ¬ ∃ deliveries,
        completeTerminal submission stamp = .ok deliveries) ∧
      ∀ request : RequestIds, request.Valid → ¬ ∃ ack,
        acknowledgeResignation submission request = .ok ack := by
  obtain ⟨hreachable,submission,hanswer,hfresh,hlong⟩ := longPlayed_resigns
  have hserved : (ChessJs.Line.resignation longPlies).Served longChess.engine :=
    ChessJs.Line.resignation_served (by decide)
  exact ⟨longChess_rules,longChess_texts,longChess_listsMoves,hreachable,hserved,submission,hanswer,
    resignation_not_sendable longChess_rules longChess_texts hreachable hserved hanswer hfresh
      hlong⟩

end CluChess
