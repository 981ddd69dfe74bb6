import CluChess.GameChange

/-! The transactions of the game repositories, inverted: what one that succeeds answered,
and whether it left the database alone or committed a change of one game row. -/
namespace CluChess

variable {db db' : Db}

theorem playerFor_mem {g : PersistedGame} {guest : GuestSessionId} {p : GamePlayer}
    (h : g.playerFor guest = some p) : p ∈ g.players ∧ p.guestSessionId = guest :=
  ⟨List.mem_of_find?_eq_some h,by simpa using List.find?_some h⟩

theorem settle_of_not_terminal {g : PersistedGame} (h : g.status.terminal = false) :
    db.settle g = db.replaceGame g := by simp [Db.settle,h]

theorem settle_addCommand (g : PersistedGame) (c : GameCommand) :
    (db.settle g).replaceGame (g.addCommand c) = db.settle (g.addCommand c) := by
  have h : (db.replaceGame g).replaceGame (g.addCommand c) = db.replaceGame (g.addCommand c) :=
    db.replaceGame_replaceGame rfl
  unfold Db.settle
  rw [show (g.addCommand c).status = g.status from rfl]
  split
  · exact congrArg (Db.deleteAssignments · g.id) h
  · exact h

theorem find_replaceGame_self {g g' : PersistedGame} (hf : db.games.find g.id = some g)
    (h : g'.id = g.id) : (db.replaceGame g').games.find g.id = some g' := by
  rw [Db.find_replaceGame (by rw [h,hf]; simp),if_pos h.symm]

section Allocate

/-- A committed `game.create` of an allocation: the keys it found free, and the tables it
left. -/
structure Db.Allocated (db : Db) (input : AllocateGame) (db' : Db) : Prop where
  fresh : db.gameByMatchId input.matchId = none
  integers : (newGameRow input).integersFit
  checks : (newGameRow input).rowChecks
  games : db.games.insert (newGameRow input) = some db'.games
  assignments : Db.createAssignments db.assignments input.gameId
    ([input.whiteGuestSessionId,input.blackGuestSessionId].insertionSort (· ≤ ·)) =
      .ok db'.assignments
  guestSessions : db'.guestSessions = db.guestSessions

theorem createGame_ok {g : PersistedGame} {guests : List GuestSessionId}
    (h : db.createGame g guests = .ok db') :
    db.gameByMatchId g.matchId = none ∧ g.integersFit ∧ g.rowChecks ∧
      db.games.insert g = some db'.games ∧
      Db.createAssignments db.assignments g.id guests = .ok db'.assignments ∧
      db'.guestSessions = db.guestSessions := by
  unfold Db.createGame at h
  split_ifs at h with h₁ h₂ h₃ h₄
  cases hg : db.games.insert g with
  | none => simp [hg] at h
  | some games =>
    simp only [hg] at h
    obtain ⟨assignments,ha,he⟩ := map_eq_ok.mp h
    subst he
    exact ⟨Option.not_isSome_iff_eq_none.mp h₄,h₂,h₃,rfl,ha,rfl⟩

theorem createAllocation_ok {input : AllocateGame} {r : AllocationTransactionResult}
    (h : db.createAllocation input = .ok (r,db')) :
    db.Allocated input db' ∧ r = .allocated (newGameRow input) := by
  obtain ⟨db₁,hc,h⟩ := bind_eq_ok.mp h
  obtain ⟨_,rfl,rfl⟩ := Db.commit_ok h
  obtain ⟨hm,hi,hr,hg,ha,hs⟩ := createGame_ok hc
  exact ⟨⟨hm,hi,hr,hg,ha,hs⟩,rfl⟩

theorem allocateInTransaction_ok {input : AllocateGame} {r : AllocationTransactionResult}
    (h : db.allocateInTransaction input = .ok (r,db')) :
    (∃ g, db.gameByMatchId input.matchId = some g ∧ db' = db ∧
      r = if matchesReservation g input then .allocated g else .mismatch) ∨
    (db' = db ∧ (r = .ineligible ∨ r = .conflict)) ∨
    (db.Allocated input db' ∧ r = .allocated (newGameRow input)) := by
  unfold Db.allocateInTransaction at h
  cases hm : db.gameByMatchId input.matchId with
  | some g =>
    simp only [hm] at h
    cases h
    exact Or.inl ⟨g,rfl,rfl,rfl⟩
  | none =>
    simp only [hm] at h
    split_ifs at h with he ha
    · cases h
      exact Or.inr (Or.inl ⟨rfl,Or.inl rfl⟩)
    · cases h
      exact Or.inr (Or.inl ⟨rfl,Or.inr rfl⟩)
    · exact Or.inr (Or.inr (createAllocation_ok h))

theorem createAssignments_ok {t t' : Table ActiveGameAssignment.guestSessionId} {id : GameId}
    {guests : List GuestSessionId} (h : Db.createAssignments t id guests = .ok t') :
    t'.rows = t.rows ++ guests.map (⟨·,id⟩) ∧ ∀ guest ∈ guests, t.find guest = none := by
  induction guests generalizing t with
  | nil =>
    cases h
    simp
  | cons guest guests ih =>
    unfold Db.createAssignments at h
    cases hi : t.insert ⟨guest,id⟩ with
    | none => simp [hi] at h
    | some t₁ =>
      simp only [hi] at h
      obtain ⟨hrows,hfresh⟩ := ih h
      obtain ⟨hn,hr⟩ := Table.insert_fresh hi
      refine ⟨by simp [hrows,hr],?_⟩
      intro k hk
      rcases List.mem_cons.mp hk with rfl | hk
      · exact hn
      · have hk₁ := hfresh k hk
        rw [Table.find_insert hi] at hk₁
        split at hk₁
        · cases hk₁
        · exact hk₁

end Allocate

section Ready

variable (chess : ChessEngine)

/-! The rows that readiness and the start write, before the transaction commits. -/

theorem join_wrote {id : GameId} {g : PersistedGame} {player : GamePlayer} {observedAt : Millis}
    (hg : db.games.find id = some g) (hp : player ∈ g.players)
    (hs : g.status = .waitingForPlayers ∨ g.status.joined = true)
    (hn : ¬ (g.status = .waitingForPlayers ∧
      (g.mapPlayer player.slot (GamePlayer.join observedAt)).joinedPlayers = 2)) :
    db.Wrote chess id g (g.mapPlayer player.slot (GamePlayer.join observedAt))
      (db.replaceGame (g.mapPlayer player.slot (GamePlayer.join observedAt))) := by
  have hterminal : (g.mapPlayer player.slot
      (GamePlayer.join observedAt)).status.terminal = false := by
    show g.status.terminal = false
    rcases hs with hs | hs
    · rw [hs]
      rfl
    · exact GameStatus.joined_not_terminal hs
  exact ⟨hg,.join hp hs hn,fun h => h,(settle_of_not_terminal hterminal).symm⟩

theorem ready_wrote {id : GameId} {g : PersistedGame} {player : GamePlayer} {observedAt : Millis}
    (hg : db.games.find id = some g) (hp : player ∈ g.players)
    (hs : g.status = .waitingForPlayers)
    (hn : (g.mapPlayer player.slot (GamePlayer.join observedAt)).joinedPlayers = 2)
    (hi : (g.mapPlayer player.slot (GamePlayer.join observedAt)).readied.integersFit)
    (hr : (g.mapPlayer player.slot (GamePlayer.join observedAt)).readied.rowChecks) :
    db.Wrote chess id g (g.mapPlayer player.slot (GamePlayer.join observedAt)).readied
      ((db.replaceGame (g.mapPlayer player.slot (GamePlayer.join observedAt))).replaceGame
        (g.mapPlayer player.slot (GamePlayer.join observedAt)).readied) := by
  refine ⟨hg,.ready hp hs hn,fun _ => ⟨hi,hr⟩,?_⟩
  rw [settle_of_not_terminal rfl]
  exact db.replaceGame_replaceGame rfl

theorem start_wrote {id : GameId} {g : PersistedGame} {observedAt : Millis}
    (hg : db.games.find id = some g) (hs : g.status = .ready)
    (hi : (g.start observedAt).integersFit) (hr : (g.start observedAt).rowChecks) :
    db.Wrote chess id g (g.start observedAt) (db.replaceGame (g.start observedAt)) :=
  ⟨hg,.start hs,fun _ => ⟨hi,hr⟩,(settle_of_not_terminal rfl).symm⟩

theorem markReadyInTransaction_ok {input : MarkGameReady} {r : ReadyTransactionResult}
    (h : db.markReadyInTransaction input = .ok (r,db')) :
    (db' = db ∧ ∀ a, r ≠ .ready a) ∨
      ∃ g g' player, db.Wrote chess input.gameId g g' db' ∧ r = .ready g' ∧
        g.playerFor input.guestSessionId = some player ∧
        (g' = g.mapPlayer player.slot (GamePlayer.join input.observedAt) ∨
          g.status = .waitingForPlayers ∧
            g' = (g.mapPlayer player.slot (GamePlayer.join input.observedAt)).readied) := by
  unfold Db.markReadyInTransaction at h
  cases hg : db.games.find input.gameId with
  | none =>
    simp only [hg] at h
    cases h
    exact Or.inl ⟨rfl,by simp⟩
  | some g =>
    have hid : g.id = input.gameId := Table.find_key hg
    simp only [hg] at h
    cases hp : g.playerFor input.guestSessionId with
    | none =>
      simp only [hp] at h
      cases h
      exact Or.inl ⟨rfl,by simp⟩
    | some player =>
      obtain ⟨hmem,_⟩ := playerFor_mem hp
      simp only [hp] at h
      split_ifs at h with hstale hun
      · cases h
        exact Or.inl ⟨rfl,by simp⟩
      · cases h
        exact Or.inl ⟨rfl,by simp⟩
      · have hstatus : g.status = .waitingForPlayers ∨ g.status.joined = true := by
          by_cases hw : g.status = .waitingForPlayers
          · exact Or.inl hw
          · exact Or.inr (by simpa [hw] using hun)
        obtain ⟨db₁,hu,h⟩ := bind_eq_ok.mp h
        obtain ⟨_,rfl⟩ := Db.updatePlayer_ok hg hu
        have hf : (db.replaceGame (g.mapPlayer player.slot
            (GamePlayer.join input.observedAt))).games.find input.gameId =
              some (g.mapPlayer player.slot (GamePlayer.join input.observedAt)) := by
          rw [← hid]
          exact find_replaceGame_self (hid ▸ hg) rfl
        simp only [hf,Option.map_some,Option.getD_some] at h
        split_ifs at h with hcount
        · obtain ⟨⟨version,db₂⟩,hv,h⟩ := bind_eq_ok.mp h
          rw [hid] at hv
          obtain ⟨rfl,hi,hr,rfl⟩ := Db.updateGameAtVersion_ok
            (g := g.mapPlayer player.slot (GamePlayer.join input.observedAt)) hf hv
          obtain ⟨_,rfl,rfl⟩ := Db.commit_ok h
          have hw := ready_wrote chess hg hmem hcount.1 hcount.2 hi hr
          refine Or.inr ⟨g,_,player,hw,?_,hp,Or.inr ⟨hcount.1,rfl⟩⟩
          have hfind := hw.find_self
          unfold Db.readyAllocation
          split
          · rename_i hnone
            exact absurd (hfind.symm.trans hnone) (by simp)
          · rename_i g' hsome
            rw [Option.some.inj (hsome.symm.trans hfind)]
        · obtain ⟨_,rfl,rfl⟩ := Db.commit_ok h
          refine Or.inr ⟨g,_,player,join_wrote chess hg hmem hstatus hcount,?_,hp,Or.inl rfl⟩
          unfold Db.readyAllocation
          rw [hf]

theorem startIfReadyInTransaction_ok {gameId : GameId} {observation : Micros}
    {r : StartTransactionResult}
    (h : db.startIfReadyInTransaction gameId observation = .ok (r,db')) :
    (db' = db ∧ ∀ a b, r ≠ .found a b) ∨
    (∃ g, db' = db ∧ db.games.find gameId = some g ∧ g.status ≠ .ready ∧ r = .found g false) ∨
      ∃ g, g.status = .ready ∧
        db.Wrote chess gameId g (g.start (truncatedToMillis observation)) db' ∧
        r = .found (g.start (truncatedToMillis observation)) true := by
  obtain ⟨locked,hl,h⟩ := bind_eq_ok.mp h
  rcases lockGameClock_ok hl with ⟨hg,rfl⟩ | ⟨g,hg,rfl⟩
  · cases h
    exact Or.inl ⟨rfl,by simp⟩
  · simp only at h
    split_ifs at h with hs
    · obtain ⟨⟨version,db₁⟩,hv,h⟩ := bind_eq_ok.mp h
      obtain ⟨rfl,hi,hr,rfl⟩ := Db.updateGameAtVersion_ok (g := g) hg hv
      have hw : db.Wrote chess gameId g (g.start (truncatedToMillis observation))
          (db.replaceGame (g.start (truncatedToMillis observation))) := start_wrote chess hg hs hi hr
      have hf := hw.find_self
      refine Or.inr (Or.inr ⟨g,?_⟩)
      have hrow : ({ g with
          startedAt := some (g.locked observation).observedAt
          status := .inProgress
          turnStartedAt := some (g.locked observation).observedAt
          version := g.version + 1 } : PersistedGame) =
            g.start (truncatedToMillis observation) := rfl
      simp only [hrow] at h ⊢
      simp only [hf] at h
      obtain ⟨_,rfl,rfl⟩ := Db.commit_ok h
      exact ⟨hs,hw,rfl⟩
    · simp only [hg] at h
      cases h
      exact Or.inr (Or.inl ⟨g,rfl,hg,hs,rfl⟩)

end Ready

section Submit

variable {chess : ChessEngine}

theorem AdmittedMove.Admitted.row_terminal {m : AdmittedMove}
    {guests : GuestSessionId × GuestSessionId} (h : m.Admitted chess guests) :
    (m.row guests).status.terminal = m.terminal.isSome := by
  rw [AdmittedMove.row_status]
  cases m.terminal with
  | some t => simp
  | none =>
    rcases (admitMove_ok h.admitted).1 with hs | hs <;> simp [hs,GameStatus.terminal]

/-- The three writes of a move leave its row. -/
theorem moveWrites_ok {m : AdmittedMove} {guests : GuestSessionId × GuestSessionId} {db₁ db₂ : Db}
    (hg : db.games.find m.game.id = some m.game)
    (hterminal : (m.row guests).status.terminal = m.terminal.isSome)
    (hupdate : db₁ = db.replaceGame (m.updateRow m.game))
    (hmove : db₂ = db₁.replaceGame ((m.updateRow m.game).addMove m.moveRow))
    (hcommand : (if m.terminal = none then db₂ else db₂.deleteAssignments m.game.id).createGameCommand
      m.game.id (m.command guests) = .ok db') : db' = db.settle (m.row guests) := by
  subst hupdate hmove
  have hf₁ : (db.replaceGame (m.updateRow m.game)).games.find m.game.id =
      some (m.updateRow m.game) := find_replaceGame_self hg rfl
  have hmoved : ((db.replaceGame (m.updateRow m.game)).replaceGame
      ((m.updateRow m.game).addMove m.moveRow)).games.find m.game.id =
        some ((m.updateRow m.game).addMove m.moveRow) :=
    find_replaceGame_self (g := m.updateRow m.game) hf₁ rfl
  have hlast : ((db.replaceGame (m.updateRow m.game)).replaceGame
      ((m.updateRow m.game).addMove m.moveRow)).replaceGame (m.row guests) =
        db.replaceGame (m.row guests) := by
    have hrows : (db.replaceGame (m.updateRow m.game)).replaceGame
        ((m.updateRow m.game).addMove m.moveRow) =
        db.replaceGame ((m.updateRow m.game).addMove m.moveRow) :=
      db.replaceGame_replaceGame rfl
    rw [hrows]
    exact db.replaceGame_replaceGame rfl
  split_ifs at hcommand with hterm
  · obtain ⟨_,rfl⟩ := Db.createGameCommand_ok hmoved hcommand
    rw [settle_of_not_terminal (by rw [hterminal,hterm]; rfl)]
    exact hlast
  · obtain ⟨_,rfl⟩ := Db.createGameCommand_ok
      (g := (m.updateRow m.game).addMove m.moveRow) (by exact hmoved) hcommand
    have ht : (m.row guests).status.terminal = true := by
      rw [hterminal]
      exact Option.isSome_iff_ne_none.mpr hterm
    simp only [Db.settle,ht,if_true]
    exact congrArg (Db.deleteAssignments · m.game.id) hlast

theorem commitMove_ok {m : AdmittedMove} {r : MoveTransactionResult}
    (hg : db.games.find m.game.id = some m.game)
    (hplayer : m.game.playerFor m.input.guestSessionId = some m.player)
    (hfresh : m.game.command m.input.clientMoveId = none)
    (hchecks : admitMove chess m.game m.player m.input m.observedAt = .ok (m.clock,m.evaluation))
    (houtcome : terminalOutcome m.evaluation.gameOver = .ok m.terminal)
    (h : db.commitMove m = .ok (r,db')) :
    (guestPair m.game = none ∧ db' = db ∧ ∃ rejection, r = .rejected rejection) ∨
      ∃ guests, m.Admitted chess guests ∧
        db.Wrote chess m.game.id m.game (m.row guests) db' ∧
        r = .accepted (m.submission guests) := by
  unfold Db.commitMove at h
  cases hpair : guestPair m.game with
  | none =>
    simp only [hpair] at h
    cases h
    exact Or.inl ⟨rfl,rfl,_,rfl⟩
  | some guests =>
    simp only [hpair] at h
    obtain ⟨⟨count,db₁⟩,hu,h⟩ := bind_eq_ok.mp h
    obtain ⟨rfl,hi,hr,rfl⟩ := Db.updateGameMany_ok hg hu
    have hf₁ : (db.replaceGame (m.updateRow m.game)).games.find m.game.id =
        some (m.updateRow m.game) := find_replaceGame_self hg rfl
    simp only [ne_eq,not_true_eq_false,if_false] at h
    obtain ⟨db₂,hmove,h⟩ := bind_eq_ok.mp h
    obtain ⟨hmoves,hply,rfl⟩ := Db.createMove_ok hf₁ hmove
    obtain ⟨db₃,hcmd,h⟩ := bind_eq_ok.mp h
    obtain ⟨_,rfl,rfl⟩ := Db.commit_ok h
    have hm : m.Admitted chess guests :=
      ⟨hplayer,hfresh,hchecks,houtcome,hpair,hmoves,hply⟩
    have hdb := moveWrites_ok hg hm.row_terminal rfl rfl hcmd
    exact Or.inr ⟨guests,hm,⟨hg,.move rfl hm,fun _ => ⟨hi,hr⟩,hdb⟩,rfl⟩

/-- A submission was rejected, replayed a recorded command, or committed a move. -/
theorem submitInTransaction_ok {input : SubmitMove} {observation : Micros}
    {r : MoveTransactionResult}
    (h : db.submitInTransaction chess input observation = .ok (r,db')) :
    (db' = db ∧ ∃ rejection, r = .rejected rejection) ∨
    (∃ g c, db.games.find input.gameId = some g ∧ g.command input.clientMoveId = some c ∧
      db' = db ∧ r = replayResult c input) ∨
    ∃ (m : AdmittedMove) (guests : GuestSessionId × GuestSessionId), m.input = input ∧
      m.observedAt = truncatedToMillis observation ∧
      m.Admitted chess guests ∧ db.Wrote chess input.gameId m.game (m.row guests) db' ∧
      r = .accepted (m.submission guests) := by
  obtain ⟨locked,hl,h⟩ := bind_eq_ok.mp h
  rcases lockGameClock_ok hl with ⟨hg,rfl⟩ | ⟨g,hg,rfl⟩
  · cases h
    exact Or.inl ⟨rfl,_,rfl⟩
  have hid : g.id = input.gameId := Table.find_key hg
  simp only [hg] at h
  cases hp : g.playerFor input.guestSessionId with
  | none =>
    simp only [hp] at h
    cases h
    exact Or.inl ⟨rfl,_,rfl⟩
  | some player =>
    simp only [hp] at h
    cases hc : g.command input.clientMoveId with
    | some c =>
      simp only [hc] at h
      cases h
      exact Or.inr (Or.inl ⟨g,c,hg,hc,rfl,rfl⟩)
    | none =>
      simp only [hc] at h
      cases ha : admitMove chess g player input (g.locked observation).observedAt with
      | error rejection =>
        simp only [ha] at h
        cases h
        exact Or.inl ⟨rfl,_,rfl⟩
      | ok admitted =>
        obtain ⟨clock,evaluation⟩ := admitted
        simp only [ha] at h
        cases ht : terminalOutcome evaluation.gameOver with
        | error e => simp [ht] at h
        | ok terminal =>
          simp only [ht] at h
          rcases commitMove_ok (by rw [hid]; exact hg) hp hc ha ht h with
            ⟨_,rfl,hrej⟩ | ⟨guests,hm,hw,rfl⟩
          · exact Or.inl ⟨rfl,hrej⟩
          · rw [hid] at hw
            exact Or.inr (Or.inr ⟨_,guests,rfl,rfl,hm,hw,rfl⟩)

end Submit

section Finish

variable (chess : ChessEngine)

theorem ended_terminal (g : PersistedGame) (observation : Micros) (outcome : TerminalOutcome) :
    (g.ended observation outcome).status.terminal = true := outcome.status.toGameStatus_terminal

theorem finalizeTerminal_ok {g : PersistedGame} {observation : Micros}
    {outcome : TerminalOutcome} {r : Option TerminalSubmission}
    (hg : db.games.find g.id = some g)
    (h : db.finalizeTerminal g (g.locked observation) outcome = .ok (r,db')) :
    ∃ guests, guestPair g = some guests ∧
      r = some (terminalSubmission g (g.locked observation) outcome guests) ∧
      ((g.ended observation outcome).integersFit ∧ (g.ended observation outcome).rowChecks) ∧
      db' = db.settle (g.ended observation outcome) := by
  unfold Db.finalizeTerminal at h
  cases hpair : guestPair g with
  | none => simp [hpair] at h
  | some guests =>
    simp only [hpair] at h
    obtain ⟨⟨count,db₁⟩,hu,h⟩ := bind_eq_ok.mp h
    obtain ⟨rfl,hi,hr,rfl⟩ := Db.updateGameMany_ok hg hu
    simp only [ne_eq,not_true_eq_false,if_false] at h
    obtain ⟨db₂,hp,h⟩ := bind_eq_ok.mp h
    have hfound : (db.replaceGame (g.finalized (g.locked observation) outcome)).games.find g.id =
        some (g.finalized (g.locked observation) outcome) := find_replaceGame_self hg rfl
    obtain ⟨_,rfl⟩ := Db.updatePlayers_ok hfound hp
    cases h
    refine ⟨guests,rfl,rfl,⟨hi,hr⟩,?_⟩
    simp only [Db.settle,ended_terminal,if_true]
    have hrows : (db.replaceGame (g.finalized (g.locked observation) outcome)).replaceGame
        (g.ended observation outcome) = db.replaceGame (g.ended observation outcome) :=
      db.replaceGame_replaceGame rfl
    exact congrArg (Db.deleteAssignments · g.id) hrows

theorem terminate_ok {id : GameId} {g : PersistedGame} {observation : Micros}
    {event : TerminalEvent} {r : Option TerminalSubmission}
    (hg : db.games.find id = some g) (hs : g.status.terminal = false)
    (h : db.terminate g (g.locked observation) event = .ok (r,db')) :
    ∃ outcome guests, deriveTerminalOutcome event = .ok outcome ∧ guestPair g = some guests ∧
      db.Wrote chess id g (g.ended observation outcome) db' ∧
      r = some (terminalSubmission g (g.locked observation) outcome guests) := by
  unfold Db.terminate at h
  cases ho : deriveTerminalOutcome event with
  | error e => simp [ho] at h
  | ok outcome =>
    simp only [ho] at h
    obtain ⟨⟨submission,db₁⟩,hf,h⟩ := bind_eq_ok.mp h
    have hid := Table.find_key hg
    obtain ⟨guests,hpair,rfl,hchecks,rfl⟩ := finalizeTerminal_ok (hid.symm ▸ hg) hf
    obtain ⟨_,rfl,rfl⟩ := Db.commit_ok h
    exact ⟨outcome,guests,rfl,hpair,⟨hg,.finish hs ho,fun _ => hchecks,rfl⟩,rfl⟩

theorem resignInTransaction_ok {input : ResignGame} {observation : Micros}
    {r : ResignTransactionResult}
    (h : db.resignInTransaction input observation = .ok (r,db')) :
    (db' = db ∧ ∃ rejection, r = .rejected rejection) ∨
    (∃ g c, db.games.find input.gameId = some g ∧ g.command input.eventId = some c ∧
      db' = db ∧ r = replayResignation c input) ∨
    ∃ g player outcome guests, guestPair g = some guests ∧ g.command input.eventId = none ∧
      g.playerFor input.guestSessionId = some player ∧
      (g.status = .inProgress ∨ g.status = .reconnecting) ∧
      deriveTerminalOutcome (.resignation player.color) = .ok outcome ∧
      db.Wrote chess input.gameId g ((g.ended observation outcome).addCommand (resignCommand input
        (terminalSubmission g (g.locked observation) outcome guests))) db' ∧
      r = .accepted (terminalSubmission g (g.locked observation) outcome guests) := by
  obtain ⟨locked,hl,h⟩ := bind_eq_ok.mp h
  rcases lockGameClock_ok hl with ⟨hg,rfl⟩ | ⟨g,hg,rfl⟩
  · cases h
    exact Or.inl ⟨rfl,_,rfl⟩
  have hid : g.id = input.gameId := Table.find_key hg
  simp only [hg] at h
  cases hp : g.playerFor input.guestSessionId with
  | none =>
    simp only [hp] at h
    cases h
    exact Or.inl ⟨rfl,_,rfl⟩
  | some player =>
    simp only [hp] at h
    cases hc : g.command input.eventId with
    | some c =>
      simp only [hc] at h
      cases h
      exact Or.inr (Or.inl ⟨g,c,hg,hc,rfl,rfl⟩)
    | none =>
      simp only [hc] at h
      split_ifs at h with hs hv
      · cases h
        exact Or.inl ⟨rfl,_,rfl⟩
      · cases h
        exact Or.inl ⟨rfl,_,rfl⟩
      · have hstatus : g.status = .inProgress ∨ g.status = .reconnecting := by
          by_cases hi : g.status = .inProgress
          · exact Or.inl hi
          · exact Or.inr (not_not.mp fun hr => hs ⟨hi,hr⟩)
        cases ho : deriveTerminalOutcome (.resignation player.color) with
        | error e => simp [ho] at h
        | ok outcome =>
          simp only [ho] at h
          obtain ⟨⟨submission,db₁⟩,hf,h⟩ := bind_eq_ok.mp h
          obtain ⟨guests,hpair,rfl,hchecks,rfl⟩ := finalizeTerminal_ok (hid.symm ▸ hg) hf
          simp only at h
          obtain ⟨db₂,hcmd,h⟩ := bind_eq_ok.mp h
          obtain ⟨_,rfl,rfl⟩ := Db.commit_ok h
          have hfound : (db.settle (g.ended observation outcome)).games.find input.gameId =
              some (g.ended observation outcome) := find_settle_ended hg observation outcome
          obtain ⟨_,rfl⟩ := Db.createGameCommand_ok hfound hcmd
          exact Or.inr (Or.inr ⟨g,player,outcome,guests,hpair,hc,hp,hstatus,ho,
            ⟨hg,.resign (playerFor_mem hp).1 hstatus ho hc rfl,fun _ => hchecks,
              settle_addCommand _ _⟩,rfl⟩)

/-- A reset found no game that the guest still plays, or abandoned the game of the assignment. -/
theorem terminateForResetInTransaction_ok {guest : GuestSessionId} {assignment : Option GameId}
    {observation : Micros} {r : Option TerminalSubmission}
    (h : db.terminateForResetInTransaction guest assignment observation = .ok (r,db')) :
    (db' = db ∧ r = none ∧ ∀ id g, assignment = some id → db.games.find id = some g →
        g.status ∉ Db.resettable ∨ g.playerFor guest = none) ∨
      ∃ id g player outcome guests, assignment = some id ∧ g.playerFor guest = some player ∧
        deriveTerminalOutcome (.abandonment [player.color]) = .ok outcome ∧
        guestPair g = some guests ∧ db.Wrote chess id g (g.ended observation outcome) db' ∧
        r = some (terminalSubmission g (g.locked observation) outcome guests) := by
  unfold Db.terminateForResetInTransaction at h
  cases assignment with
  | none =>
    cases h
    exact Or.inl ⟨rfl,rfl,fun _ _ he => nomatch he⟩
  | some id =>
    obtain ⟨locked,hl,h⟩ := bind_eq_ok.mp h
    rcases lockGameClock_ok hl with ⟨hg,rfl⟩ | ⟨g,hg,rfl⟩
    · cases h
      refine Or.inl ⟨rfl,rfl,fun key g he hfound => ?_⟩
      cases he
      rw [hg] at hfound
      cases hfound
    -- what holds of the row that is locked holds of the row of the assignment
    have hrow : ∀ {p : PersistedGame → Prop}, p g → ∀ key x, some id = some key →
        db.games.find key = some x → p x := by
      intro p hp key x he hx
      cases he
      rw [hg] at hx
      cases hx
      exact hp
    simp only [hg] at h
    split_ifs at h with hs
    · have hterminal : g.status.terminal = false := by
        simp only [Db.resettable,List.mem_cons,List.not_mem_nil,or_false] at hs
        rcases hs with hi | hi | hi | hi <;> rw [hi] <;> rfl
      cases hp : g.playerFor guest with
      | none =>
        simp only [hp] at h
        cases h
        exact Or.inl ⟨rfl,rfl,hrow (Or.inr hp)⟩
      | some player =>
        simp only [hp] at h
        obtain ⟨outcome,guests,ho,hpair,hw,rfl⟩ := terminate_ok chess hg hterminal h
        exact Or.inr ⟨id,g,player,outcome,guests,rfl,hp,ho,hpair,hw,rfl⟩
    · cases h
      exact Or.inl ⟨rfl,rfl,hrow (Or.inl hs)⟩

/-- An adjudication found the game not due, or ended it with the event that was due. -/
theorem adjudicate_ok {id : GameId} {observation : Micros}
    {event : LockedGameClock → PersistedGame → Option TerminalEvent}
    {r : Option TerminalSubmission}
    (hevent : ∀ g e, event (g.locked observation) g = some e → g.status.terminal = false)
    (h : db.adjudicate id observation event = .ok (r,db')) :
    (db' = db ∧ r = none) ∨
      ∃ g e outcome guests, event (g.locked observation) g = some e ∧
        deriveTerminalOutcome e = .ok outcome ∧ guestPair g = some guests ∧
        db.Wrote chess id g (g.ended observation outcome) db' ∧
        r = some (terminalSubmission g (g.locked observation) outcome guests) := by
  obtain ⟨locked,hl,h⟩ := bind_eq_ok.mp h
  rcases lockGameClock_ok hl with ⟨hg,rfl⟩ | ⟨g,hg,rfl⟩
  · cases h
    exact Or.inl ⟨rfl,rfl⟩
  simp only [hg] at h
  cases he : event (g.locked observation) g with
  | none =>
    simp only [he] at h
    cases h
    exact Or.inl ⟨rfl,rfl⟩
  | some e =>
    simp only [he] at h
    obtain ⟨outcome,guests,ho,hpair,hw,rfl⟩ := terminate_ok chess hg (hevent g e he) h
    exact Or.inr ⟨g,e,outcome,guests,he,ho,hpair,hw,rfl⟩

/-! The three adjudications judge only games that have not ended. -/

theorem timeoutEvent_not_terminal {g : PersistedGame} {observation : Micros} {e : TerminalEvent}
    (h : Db.timeoutEvent (g.locked observation) g = some e) : g.status.started = true := by
  unfold Db.timeoutEvent at h
  split at h
  · cases h
  rename_i hs
  change ¬ (g.status ≠ .inProgress ∧ g.status ≠ .reconnecting) at hs
  by_cases hi : g.status = .inProgress
  · simp [hi,GameStatus.started]
  · simp [not_not.mp fun hr => hs ⟨hi,hr⟩,GameStatus.started]

theorem noShowEvent_waiting {g : PersistedGame} {observation : Micros} {e : TerminalEvent}
    (h : Db.noShowEvent (g.locked observation) g = some e) : g.status = .waitingForPlayers := by
  unfold Db.noShowEvent at h
  split_ifs at h with hs
  exact not_not.mp hs

theorem abandonmentEvent_reconnecting {absent : List GuestSessionId} {g : PersistedGame}
    {observation : Micros} {e : TerminalEvent}
    (h : Db.abandonmentEvent absent (g.locked observation) g = some e) :
    g.status = .reconnecting := by
  unfold Db.abandonmentEvent at h
  split_ifs at h with hs
  exact not_not.mp hs

end Finish

section Grace

variable (chess : ChessEngine)

theorem updatePlayer_updateGameMany_ok {g : PersistedGame} {slot count : ℕ}
    {data : GamePlayer → GamePlayer} {row : PersistedGame → PersistedGame} {db₁ db₂ : Db}
    (hg : db.games.find g.id = some g) (hp : db.updatePlayer g.id slot data = .ok db₁)
    (hrow : (row (g.mapPlayer slot data)).id = g.id)
    (hu : db₁.updateGameMany g.id g.version row = .ok (count,db₂)) :
    count = 1 ∧ (∀ p ∈ (g.mapPlayer slot data).players, p.disconnectStateCheck) ∧
      ((row (g.mapPlayer slot data)).integersFit ∧ (row (g.mapPlayer slot data)).rowChecks) ∧
      db₂ = db.replaceGame (row (g.mapPlayer slot data)) := by
  obtain ⟨hchecks,rfl⟩ := Db.updatePlayer_ok hg hp
  have hf : (db.replaceGame (g.mapPlayer slot data)).games.find g.id =
      some (g.mapPlayer slot data) := find_replaceGame_self hg rfl
  obtain ⟨rfl,hi,hr,rfl⟩ := Db.updateGameMany_ok (g := g.mapPlayer slot data) hf hu
  exact ⟨rfl,hchecks,⟨hi,hr⟩,db.replaceGame_replaceGame hrow.symm⟩

/-- The check of the player row bounds the grace from below. -/
theorem disconnect_deadline {g : PersistedGame} {player : GamePlayer}
    {observedAt graceDeadline : Millis} (hp : player ∈ g.players)
    (h : ∀ p ∈ (g.mapPlayer player.slot
      (GamePlayer.disconnect observedAt graceDeadline)).players, p.disconnectStateCheck) :
    observedAt ≤ graceDeadline := by
  have hmem : player.disconnect observedAt graceDeadline ∈
      (g.mapPlayer player.slot (GamePlayer.disconnect observedAt graceDeadline)).players :=
    List.mem_map.mpr ⟨player,hp,by simp⟩
  rcases h _ hmem with ⟨hn,_⟩ | ⟨_,_,hle⟩
  · cases hn
  · exact hle observedAt rfl graceDeadline rfl

/-- A disconnect was of no player of a running game or of one in grace already, cleared the
connection of a waiting player, or started the grace of the player. -/
theorem markDisconnectedInTransaction_ok {guest : GuestSessionId} {assignment : Option GameId}
    {graceMs : ℤ} {observation : Micros} {r : Option PlayerDisconnected}
    (h : db.markDisconnectedInTransaction guest assignment graceMs observation = .ok (r,db')) :
    (db' = db ∧ r = none ∧ ∀ id g p, assignment = some id → db.games.find id = some g →
      g.playerFor guest = some p → g.status.started = true → p.disconnectedAt ≠ none) ∨
    (∃ id g player, assignment = some id ∧ g.playerFor guest = some player ∧
      g.status = .waitingForPlayers ∧ r = none ∧
      db.Wrote chess id g (g.mapPlayer player.slot GamePlayer.leave) db') ∨
    ∃ id g player, assignment = some id ∧ g.playerFor guest = some player ∧
      g.status.started = true ∧
      r = some ⟨player.color,id,g.version + 1,truncatedToMillis observation + graceMs⟩ ∧
      db.Wrote chess id g ((g.mapPlayer player.slot (GamePlayer.disconnect
        (truncatedToMillis observation) (truncatedToMillis observation + graceMs))).paused
          (earliest ((truncatedToMillis observation + graceMs) :: g.otherDeadlines player.slot)))
        db' := by
  unfold Db.markDisconnectedInTransaction at h
  cases assignment with
  | none =>
    cases h
    exact Or.inl ⟨rfl,rfl,by simp⟩
  | some id =>
    obtain ⟨locked,hl,h⟩ := bind_eq_ok.mp h
    rcases lockGameClock_ok hl with ⟨hg,rfl⟩ | ⟨g,hg,rfl⟩
    · cases h
      refine Or.inl ⟨rfl,rfl,?_⟩
      rintro _ g _ ⟨⟩ hg'
      rw [hg] at hg'
      cases hg'
    have hid := Table.find_key hg
    simp only [hg] at h
    cases hp : g.playerFor guest with
    | none =>
      simp only [hp] at h
      cases h
      refine Or.inl ⟨rfl,rfl,?_⟩
      rintro _ g' p ⟨⟩ hg' hp'
      cases hg.symm.trans hg'
      rw [hp] at hp'
      cases hp'
    | some player =>
      simp only [hp] at h
      split_ifs at h with hs hw hd
      · obtain ⟨db₁,hu,h⟩ := bind_eq_ok.mp h
        rw [hid] at hu
        obtain ⟨_,rfl⟩ := Db.updatePlayer_ok hg hu
        obtain ⟨_,rfl,rfl⟩ := Db.commit_ok h
        have hchange := @GameChange.leave chess g player (playerFor_mem hp).1 hw
        refine Or.inr (Or.inl ⟨id,g,player,rfl,hp,hw,rfl,⟨hg,hchange,fun h => h,?_⟩⟩)
        refine (settle_of_not_terminal ?_).symm
        simp [PersistedGame.mapPlayer,hw,GameStatus.terminal]
      · cases h
        refine Or.inl ⟨rfl,rfl,?_⟩
        rintro _ g' p ⟨⟩ hg' _ hstarted
        cases hg.symm.trans hg'
        obtain ⟨hni,hnr⟩ := hs
        cases hstatus : g.status <;> simp_all [GameStatus.started]
      · cases h
        refine Or.inl ⟨rfl,rfl,?_⟩
        rintro _ g' p ⟨⟩ hg' hp' _
        cases hg.symm.trans hg'
        cases hp.symm.trans hp'
        exact hd
      · have hstarted : g.status.started = true := by
          by_cases hi : g.status = .inProgress
          · simp [hi,GameStatus.started]
          · simp [not_not.mp fun hr => hs ⟨hi,hr⟩,GameStatus.started]
        obtain ⟨db₁,hu,h⟩ := bind_eq_ok.mp h
        obtain ⟨⟨count,db₂⟩,hv,h⟩ := bind_eq_ok.mp h
        obtain ⟨rfl,hchecks,hrow,rfl⟩ := updatePlayer_updateGameMany_ok (hid.symm ▸ hg) hu rfl hv
        simp only [ne_eq,not_true_eq_false,if_false] at h
        obtain ⟨_,rfl,rfl⟩ := Db.commit_ok h
        refine Or.inr (Or.inr ⟨id,g,player,rfl,hp,hstarted,by rw [hid]; rfl,
          ⟨hg,?_,fun _ => hrow,?_⟩⟩)
        · refine .disconnect (playerFor_mem hp).1 hstarted (not_not.mp hd) ?_
          exact disconnect_deadline (playerFor_mem hp).1 hchecks
        · exact (settle_of_not_terminal rfl).symm

theorem markReconnectedInTransaction_ok {guest : GuestSessionId} {assignment : Option GameId}
    {observation : Micros} {r : Option PlayerReconnected}
    (h : db.markReconnectedInTransaction guest assignment observation = .ok (r,db')) :
    (db' = db ∧ r = none ∧ ∀ id g p, assignment = some id → db.games.find id = some g →
      g.playerFor guest = some p → g.status = .reconnecting → p.disconnectedAt = none) ∨
    ∃ id g player, assignment = some id ∧ g.playerFor guest = some player ∧
      g.status = .reconnecting ∧ r = some ⟨player.color,id,g.version + 1⟩ ∧
      db.Wrote chess id g ((g.mapPlayer player.slot (GamePlayer.reconnect
        (truncatedToMillis observation))).resumed (g.otherDeadlines player.slot)) db' := by
  unfold Db.markReconnectedInTransaction at h
  cases assignment with
  | none =>
    cases h
    exact Or.inl ⟨rfl,rfl,by simp⟩
  | some id =>
    obtain ⟨locked,hl,h⟩ := bind_eq_ok.mp h
    rcases lockGameClock_ok hl with ⟨hg,rfl⟩ | ⟨g,hg,rfl⟩
    · cases h
      refine Or.inl ⟨rfl,rfl,?_⟩
      rintro _ g _ ⟨⟩ hg'
      rw [hg] at hg'
      cases hg'
    have hid := Table.find_key hg
    simp only [hg] at h
    split_ifs at h with hs
    · cases h
      refine Or.inl ⟨rfl,rfl,?_⟩
      rintro _ g' p ⟨⟩ hg' _ hr
      cases hg.symm.trans hg'
      exact absurd hr hs
    cases hp : g.playerFor guest with
    | none =>
      simp only [hp] at h
      cases h
      refine Or.inl ⟨rfl,rfl,?_⟩
      rintro _ g' p ⟨⟩ hg' hp'
      cases hg.symm.trans hg'
      rw [hp] at hp'
      cases hp'
    | some player =>
      simp only [hp] at h
      split_ifs at h with hd
      · cases h
        refine Or.inl ⟨rfl,rfl,?_⟩
        rintro _ g' p ⟨⟩ hg' hp' _
        cases hg.symm.trans hg'
        cases hp.symm.trans hp'
        exact hd
      · have hstatus := not_not.mp hs
        obtain ⟨db₁,hu,h⟩ := bind_eq_ok.mp h
        obtain ⟨⟨count,db₂⟩,hv,h⟩ := bind_eq_ok.mp h
        obtain ⟨rfl,_,hrow,rfl⟩ := updatePlayer_updateGameMany_ok (hid.symm ▸ hg) hu rfl hv
        simp only [ne_eq,not_true_eq_false,if_false] at h
        obtain ⟨_,rfl,rfl⟩ := Db.commit_ok h
        refine Or.inr ⟨id,g,player,rfl,hp,hstatus,by rw [hid],
          ⟨hg,.reconnect (playerFor_mem hp).1 hstatus hd,fun _ => hrow,?_⟩⟩
        refine (settle_of_not_terminal ?_).symm
        simp only [PersistedGame.resumed]
        split_ifs <;> rfl

end Grace

end CluChess
