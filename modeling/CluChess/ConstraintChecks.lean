import CluChess.ClockCasts
import CluChess.MoveHistory

/-! The constraints of the migration against what the transactions write. A row of a game can
fail one check only: its end is stored before its start when the observation of the operation
that ends it was made before the start of the game committed. The row of a guest fails the
check of its revocation in the same way. -/
namespace CluChess

/-- The computation does not fail with `e`. -/
def Avoids {ε α : Type} (e : ε) (x : Except ε α) : Prop := x ≠ .error e

section Avoids

variable {ε α β : Type} {e : ε}

theorem avoids_ok (a : α) : Avoids e (.ok a : Except ε α) := nofun

theorem avoids_error {e' : ε} (h : e' ≠ e) : Avoids e (.error e' : Except ε α) :=
  fun he => h (Except.error.inj he)

theorem Avoids.bind {x : Except ε α} {f : α → Except ε β} (hx : Avoids e x)
    (hf : ∀ a, x = .ok a → Avoids e (f a)) : Avoids e (x >>= f) := by
  cases h : x with
  | error e' =>
    rw [h] at hx
    intro he
    exact hx (congrArg Except.error (Except.error.inj he))
  | ok a => exact hf a h

theorem Avoids.map {x : Except ε α} (f : α → β) (hx : Avoids e x) : Avoids e (x.map f) := by
  cases h : x with
  | error e' =>
    rw [h] at hx
    exact avoids_error fun he => hx (congrArg Except.error he)
  | ok a => exact avoids_ok _

end Avoids

namespace PersistedGame

section Rows

variable {g : PersistedGame}

def playersChecked (g : PersistedGame) : Prop := ∀ p ∈ g.players, p.disconnectStateCheck

theorem playersChecked_mapPlayer {slot : ℕ} {data : GamePlayer → GamePlayer}
    (h : g.playersChecked) (hd : ∀ p ∈ g.players, p.slot = slot →
      p.disconnectStateCheck → (data p).disconnectStateCheck) :
    (g.mapPlayer slot data).playersChecked := by
  intro p hp
  obtain ⟨q,hq,rfl⟩ := List.mem_map.mp hp
  split_ifs with hs
  · exact hd q hq hs (h q hq)
  · exact h q hq

theorem playersChecked_clearGrace : (g.mapPlayers GamePlayer.clearGrace).playersChecked := by
  intro p hp
  obtain ⟨q,_,rfl⟩ := List.mem_map.mp hp
  exact Or.inl ⟨rfl,rfl⟩

/-- Rows that differ in nothing but the status of a game that has not started. -/
theorem rowChecks_readied (h : g.rowChecks) (hs : g.status = .waitingForPlayers) :
    g.readied.rowChecks := by
  obtain ⟨hclock,hcode,hterminal,hturn,hended⟩ := h
  refine ⟨hclock,hcode,?_,?_,hended⟩
  · simpa [terminalStateCheck,hs,readied,GameStatus.terminal] using hterminal
  · simpa [turnClockStateCheck,hs,readied,GameStatus.started] using hturn

theorem rowChecks_start (h : g.rowChecks) (hs : g.status = .ready) (observedAt : Millis) :
    (g.start observedAt).rowChecks := by
  obtain ⟨hclock,hcode,hterminal,_,_⟩ := h
  have hlive : g.result = none ∧ g.termination = none ∧ g.endedAt = none := by
    simpa [terminalStateCheck,hs,GameStatus.terminal] using hterminal
  refine ⟨hclock,hcode,?_,?_,?_⟩
  · simpa [terminalStateCheck,PersistedGame.start,GameStatus.terminal] using hlive
  · simp [turnClockStateCheck,PersistedGame.start,GameStatus.started]
  · intro ended he
    have hnone : g.endedAt = none := hlive.2.2
    have he' : g.endedAt = some ended := he
    rw [hnone] at he'
    cases he'

/-- A started game keeps its times when its status stays one of a running game. -/
theorem rowChecks_running {status : GameStatus} (h : g.rowChecks) (hs : g.status.started = true)
    (hstatus : status.started = true) (deadline : Option Millis) (players : List GamePlayer) :
    ({ g with
        players := players, reconnectDeadlineAt := deadline, status := status,
        version := g.version + 1 } : PersistedGame).rowChecks := by
  obtain ⟨hclock,hcode,hterminal,hturn,hended⟩ := h
  have hlive := GameStatus.not_terminal_of_started hs
  have hlive' := GameStatus.not_terminal_of_started hstatus
  refine ⟨hclock,hcode,?_,?_,hended⟩
  · simp only [terminalStateCheck,hlive] at hterminal
    simpa only [terminalStateCheck,hlive'] using hterminal
  · simp only [turnClockStateCheck,hs] at hturn
    simpa only [turnClockStateCheck,hstatus] using hturn

theorem persistedResult_mem (r : GameResult) : persistedResult r ∈ resultCodes := by
  cases r <;> decide

theorem persistedTermination_mem (t : GameTermination) :
    persistedTermination t ∈ terminationCodes := by
  cases t <;> decide

/-- The row that ends a game passes when the observation is not before the start. -/
theorem rowChecks_finalized (h : g.rowChecks) {observation : Micros}
    (ht : ∀ started ∈ g.startedAt, started ≤ truncatedToMillis observation)
    (outcome : TerminalOutcome) :
    (g.finalized (g.locked observation) outcome).rowChecks := by
  obtain ⟨⟨htime,hinc,hw,hb⟩,_,_,_,_⟩ := h
  refine ⟨⟨htime,hinc,runningClockMs_nonneg hw observation,runningClockMs_nonneg hb observation⟩,
    ⟨?_,?_⟩,?_,?_,?_⟩
  · intro r hr
    cases hr
    exact persistedResult_mem _
  · intro t ht
    cases ht
    exact persistedTermination_mem _
  · simp [terminalStateCheck,finalized]
  · simp [turnClockStateCheck,finalized]
  · intro ended he started hstarted
    cases he
    exact ht started hstarted

/-- The row of a move passes when a move that ends the game is not made before the start. -/
theorem rowChecks_updateRow {chess : ChessEngine} {m : AdmittedMove} (h : m.game.rowChecks)
    (hs : m.game.Sound)
    (hadmitted : admitMove chess m.game m.player m.input m.observedAt =
      .ok (m.clock,m.evaluation))
    (ht : m.terminal ≠ none → ∀ started ∈ m.game.startedAt, started ≤ m.observedAt) :
    (m.updateRow m.game).rowChecks := by
  obtain ⟨hstatus,_,_,_,⟨elapsed,hadm⟩,_,_⟩ := admitMove_ok hadmitted
  have hlive : m.game.status.terminal = false := by
    rcases hstatus with hs | hs <;> rw [hs] <;> rfl
  obtain ⟨⟨htime,hinc,_,_⟩,_,hterminal,hturn,_⟩ := h
  have hnone : m.game.result = none ∧ m.game.termination = none ∧ m.game.endedAt = none := by
    simpa [terminalStateCheck,hlive] using hterminal
  have hpositive := admission_positive hs.increment (hs.clocks hlive).1 (hs.clocks hlive).2 hadm
  have hstarted : m.game.status ≠ .ready → m.game.startedAt.isSome := by
    intro hready
    have hrunning : m.game.status = .inProgress := hstatus.resolve_right hready
    have hboth : m.game.turnStartedAt.isSome ∧ m.game.startedAt.isSome := by
      simpa [turnClockStateCheck,hrunning,GameStatus.started] using hturn
    exact hboth.2
  have hclocks : (m.updateRow m.game).clockChecks :=
    ⟨htime,hinc,hpositive.1.le,hpositive.2.le⟩
  cases hm : m.terminal with
  | none =>
    have hrow : (m.updateRow m.game).status = .inProgress := by
      rcases hstatus with hs | hs <;> simp [AdmittedMove.updateRow,hm,hs]
    have hopen : ¬ (m.updateRow m.game).status.terminal = true := by
      rw [hrow]
      decide
    have hrunning : (m.updateRow m.game).status.started = true := by
      rw [hrow]
      rfl
    refine ⟨hclocks,⟨?_,?_⟩,?_,?_,?_⟩
    · simp [AdmittedMove.updateRow,hm,hnone]
    · simp [AdmittedMove.updateRow,hm,hnone]
    · rw [terminalStateCheck,if_neg hopen]
      simp [AdmittedMove.updateRow,hm,hnone]
    · rw [turnClockStateCheck,if_pos hrunning]
      refine ⟨by simp [AdmittedMove.updateRow,hm],?_⟩
      simp only [AdmittedMove.updateRow]
      split_ifs with hready
      · rfl
      · exact hstarted hready
    · simp [endedAfterStartedCheck,AdmittedMove.updateRow,hm,hnone]
  | some t =>
    have hrow : (m.updateRow m.game).status = t.status.toGameStatus := by
      simp [AdmittedMove.updateRow,hm]
    refine ⟨hclocks,⟨?_,?_⟩,?_,?_,?_⟩
    · simp [AdmittedMove.updateRow,hm,persistedResult_mem]
    · simp [AdmittedMove.updateRow,hm,persistedTermination_mem]
    · simp [terminalStateCheck,AdmittedMove.updateRow,hm]
    · simp [turnClockStateCheck,AdmittedMove.updateRow,hm]
    · intro ended he started hsome
      have hended : ended = m.observedAt := by
        simp only [AdmittedMove.updateRow,hm] at he
        cases he
        rfl
      rw [hended]
      simp only [AdmittedMove.updateRow] at hsome
      split_ifs at hsome with hready
      · cases hsome
        exact le_refl _
      · exact ht (by rw [hm]; simp) started hsome

end Rows

end PersistedGame

/-- A write of the row does not fail with this error: an integer that is out of range is an
unknown error, a failed `CHECK` a constraint. -/
structure PersistedGame.Passes (kind : DatabaseErrorKind) (g : PersistedGame) : Prop where
  integers : kind = .unknown → g.integersFit
  checks : kind = .constraint → g.rowChecks

namespace Db

section Statements

/-! When a statement of a transaction does not fail with an error. -/

variable {db db' : Db} {g : PersistedGame} {id : GameId} {kind : DatabaseErrorKind}

theorem writeGame_avoids (h : g.Passes kind) : Avoids kind (db.writeGame g) := by
  unfold writeGame
  split_ifs with hi hr
  · exact avoids_ok _
  · exact avoids_error fun hk => hr (h.checks hk.symm)
  · exact avoids_error fun hk => hi (h.integers hk.symm)

theorem updateGameMany_avoids (hg : db.games.find id = some g) {version : ℕ}
    {data : PersistedGame → PersistedGame} (h : (data g).Passes kind) :
    Avoids kind (db.updateGameMany id version data) := by
  unfold updateGameMany
  simp only [hg]
  split_ifs
  · exact (writeGame_avoids h).map _
  · exact avoids_ok _

theorem updateGameAtVersion_avoids (hg : db.games.find id = some g)
    {data : PersistedGame → PersistedGame}
    (h : ({ data g with version := g.version + 1 } : PersistedGame).Passes kind) (version : ℕ) :
    Avoids kind (db.updateGameAtVersion id version data) := by
  unfold updateGameAtVersion
  refine Avoids.bind (updateGameMany_avoids hg h) fun r _ => ?_
  exact avoids_ok _

theorem writePlayers_avoids (h : g.playersChecked) : Avoids kind (db.writePlayers g) := by
  have hplayers : ∀ p ∈ g.players, p.disconnectStateCheck := h
  unfold writePlayers
  rw [if_pos hplayers]
  exact avoids_ok _

theorem updatePlayer_avoids (hg : db.games.find id = some g) {slot : ℕ}
    {data : GamePlayer → GamePlayer} (h : (g.mapPlayer slot data).playersChecked) :
    Avoids kind (db.updatePlayer id slot data) := by
  unfold updatePlayer
  simp only [hg]
  exact writePlayers_avoids h

theorem updatePlayers_avoids (hg : db.games.find id = some g) {data : GamePlayer → GamePlayer}
    (h : (g.mapPlayers data).playersChecked) : Avoids kind (db.updatePlayers id data) := by
  unfold updatePlayers
  simp only [hg]
  exact writePlayers_avoids h

theorem createMove_avoids (hk : kind ≠ .unique) (hg : db.games.find id = some g) {row : MoveRow}
    (h : 0 < row.ply) : Avoids kind (db.createMove id row) := by
  unfold createMove
  simp only [hg]
  split_ifs with hu hply
  · exact avoids_error hk.symm
  · omega
  · exact avoids_ok _

theorem createGameCommand_avoids (hk : kind ≠ .unique) (hg : db.games.find id = some g)
    (row : GameCommand) : Avoids kind (db.createGameCommand id row) := by
  unfold createGameCommand
  simp only [hg]
  split_ifs
  · exact avoids_error hk.symm
  · exact avoids_ok _

theorem createAssignments_avoids (hk : kind ≠ .unique)
    {assignments : Table ActiveGameAssignment.guestSessionId} (guests : List GuestSessionId) :
    Avoids kind (createAssignments assignments id guests) := by
  induction guests generalizing assignments with
  | nil => exact avoids_ok _
  | cons guest guests ih =>
    unfold createAssignments
    cases assignments.insert ⟨guest,id⟩ with
    | none => exact avoids_error hk.symm
    | some assignments => exact ih

theorem createGame_avoids (hk : kind ≠ .unique) (h : g.Passes kind) {guests : List GuestSessionId}
    (hguests : ∀ guest ∈ guests, db.guestSessions.find guest ≠ none) :
    Avoids kind (db.createGame g guests) := by
  unfold createGame
  split_ifs with hmissing hi hr hunique
  · obtain ⟨guest,hmem,hnone⟩ := hmissing
    exact absurd hnone (hguests guest hmem)
  · exact avoids_error hk.symm
  · cases db.games.insert g with
    | none => exact avoids_error hk.symm
    | some games => exact (createAssignments_avoids hk guests).map _
  · exact avoids_error fun hk => hr (h.checks hk.symm)
  · exact avoids_error fun hk => hi (h.integers hk.symm)

theorem asInteger_avoids (n : ℤ) : Avoids .constraint (asInteger n) := by
  unfold asInteger
  split_ifs
  · exact avoids_ok _
  · exact avoids_error nofun

theorem lockedClockMs_avoids (g : PersistedGame) (color : PlayerColor) (clockMs : ℤ)
    (observation : Micros) : Avoids .constraint (lockedClockMs g color clockMs observation) := by
  unfold lockedClockMs
  cases g.turnStartedAt with
  | none => exact avoids_ok _
  | some t =>
    simp only
    split_ifs
    · exact (asInteger_avoids _).bind fun _ _ => (asInteger_avoids _).bind fun _ _ => avoids_ok _
    · exact avoids_ok _

theorem lockGameClock_avoids (db : Db) (id : GameId) (observation : Micros) :
    Avoids .constraint (db.lockGameClock id observation) := by
  unfold lockGameClock
  cases db.games.find id with
  | none => exact avoids_ok _
  | some g =>
    exact (lockedClockMs_avoids _ _ _ _).bind fun _ _ =>
      (lockedClockMs_avoids _ _ _ _).bind fun _ _ => avoids_ok _

theorem commit_avoids {α : Type} (h : db.allocationInvariants id) (a : α) :
    Avoids kind (commit id a db) := by
  unfold commit
  rw [if_pos h]
  exact avoids_ok _

theorem Sound.allocationInvariants (h : db.Sound) (id : GameId) : db.allocationInvariants id := by
  unfold Db.allocationInvariants
  cases hg : db.games.find id with
  | none => trivial
  | some g =>
    obtain ⟨p,q,hpair,_,_,_,_,_⟩ := (h.games id g hg).pair
    simp only
    refine ⟨by rw [hpair]; rfl,?_⟩
    split_ifs with ht
    · rw [h.assignmentsOf_nil hg ht]
      rfl
    · have hperm := h.assignmentsOf_perm hg (by simpa using ht)
      have hlength : (db.assignmentsOf id).length = 2 := by
        rw [hperm.length_eq,List.length_map,hpair]
        rfl
      refine ⟨hlength,?_⟩
      rw [List.filter_eq_self.mpr,hlength]
      intro a ha
      obtain ⟨r,hr,rfl⟩ := List.mem_map.mp (hperm.subset ha)
      unfold PersistedGame.playerFor
      rw [List.find?_isSome]
      exact ⟨r,hr,decide_eq_true rfl⟩

theorem Wrote.allocationInvariants {chess : ChessEngine} {key : GameId} {g' : PersistedGame}
    (h : db.Wrote chess key g g' db') (hs : db.Sound) (id : GameId) : db'.allocationInvariants id :=
  (h.sound hs).allocationInvariants id

end Statements

end Db

/-- The observation of an operation that comes to the point where it ends the game: every check
before the write has passed on the row `g`. -/
def Operation.endsAt (chess : ChessEngine) (g : PersistedGame) : Operation → Option Micros
  | .submitMove input observation =>
    match g.playerFor input.guestSessionId,g.command input.clientMoveId with
    | some player,none =>
      match admitMove chess g player input (truncatedToMillis observation) with
      | .error _ => none
      | .ok (_,evaluation) =>
        match terminalOutcome evaluation.gameOver with
        | .ok (some _) => some observation
        | _ => none
    | _,_ => none
  | .resign input observation =>
    if (g.playerFor input.guestSessionId).isSome ∧ g.command input.eventId = none ∧
        (g.status = .inProgress ∨ g.status = .reconnecting) ∧
        input.expectedVersion = g.version then some observation
    else none
  | .terminateForReset guest _ observation =>
    if g.status ∈ Db.resettable ∧ (g.playerFor guest).isSome then some observation else none
  | op => (op.adjudication g).map Prod.fst

/-- An operation that ends a game was observed no earlier than the game has started. -/
def Operation.EndsTimely (chess : ChessEngine) (db : Db) (op : Operation) : Prop :=
  ∀ id ∈ op.gameId, ∀ g ∈ db.games.find id, ∀ observation ∈ op.endsAt chess g,
    ∀ started ∈ g.startedAt, started ≤ truncatedToMillis observation

instance (chess : ChessEngine) (db : Db) (op : Operation) : Decidable (op.EndsTimely chess db) := by
  unfold Operation.EndsTimely; infer_instance

/-- A reset that revokes a session is given an instant no earlier than the session's tokens. -/
def Operation.RevokesTimely (db : Db) : Operation → Prop
  | .session (.reset none input) =>
    ∀ session ∈ (db.availableSession input.guestSessionId input.revokedAt).toOption,
      session.issuedAt ≤ input.revokedAt
  | _ => True

instance (db : Db) (op : Operation) : Decidable (op.RevokesTimely db) := by
  unfold Operation.RevokesTimely; split <;> infer_instance

section Transactions

/-! What each transaction needs so that it does not fail with an error: a row that fits its columns
and may grow, a lock that is obtained, and an observation that is not too early. -/

variable {db db' : Db} {g : PersistedGame} {id : GameId} {kind : DatabaseErrorKind}

/-- What the transactions find in the database. -/
structure Db.Checked (db : Db) : Prop where
  sound : db.Sound
  rows : ∀ id g, db.games.find id = some g → g.rowChecks
  players : ∀ id g, db.games.find id = some g → g.playersChecked
  sessions : ∀ session ∈ db.guestSessions.rows, session.rowChecks

/-- Every row fits its columns, and its version may grow by what one transaction adds. -/
def Db.Roomy (kind : DatabaseErrorKind) (db : Db) : Prop :=
  kind = .unknown → ∀ id g, db.games.find id = some g → g.integersFit ∧ g.version + 2 ≤ 2147483647

/-- A row with the clocks of a stored row and a version that has grown. -/
theorem Db.Roomy.passes (hroom : db.Roomy kind) (hg : db.games.find id = some g)
    {row : PersistedGame} (hversion : row.version ≤ g.version + 2)
    (htime : row.timeInitialMs = g.timeInitialMs) (hincrement : row.incrementMs = g.incrementMs)
    (hclocks : kind = .unknown → fitsInteger row.whiteClockMs ∧ fitsInteger row.blackClockMs)
    (hchecks : kind = .constraint → row.rowChecks) : row.Passes kind := by
  refine ⟨fun hk => ?_,hchecks⟩
  obtain ⟨⟨_,hinitial,hinc,_,_⟩,hgrow⟩ := hroom hk id g hg
  refine ⟨?_,htime ▸ hinitial,hincrement ▸ hinc,hclocks hk⟩
  unfold fitsInteger
  omega

theorem Db.Roomy.passes_of_clocks (hroom : db.Roomy kind) (hg : db.games.find id = some g)
    {row : PersistedGame} (hversion : row.version ≤ g.version + 2)
    (hclocks : row.timeInitialMs = g.timeInitialMs ∧ row.incrementMs = g.incrementMs ∧
      row.whiteClockMs = g.whiteClockMs ∧ row.blackClockMs = g.blackClockMs)
    (hchecks : row.rowChecks) : row.Passes kind := by
  obtain ⟨htime,hincrement,hwhite,hblack⟩ := hclocks
  refine hroom.passes hg hversion htime hincrement (fun hk => ?_) fun _ => hchecks
  have hfits := (hroom hk id g hg).1
  exact ⟨hwhite ▸ hfits.2.2.2.1,hblack ▸ hfits.2.2.2.2⟩

theorem eligibleGuests_found {white black : GuestSessionId} {t : Millis}
    (h : db.eligibleGuests [white,black] t = 2) :
    ∀ guest ∈ [white,black], db.guestSessions.find guest ≠ none := by
  intro guest hmem hnone
  obtain ⟨other,hother⟩ : ∃ other, ∀ id ∈ [white,black], id ≠ guest → id = other := by
    rcases List.mem_pair.mp hmem with rfl | rfl
    · exact ⟨black,fun id hid hne => (List.mem_pair.mp hid).resolve_left hne⟩
    · exact ⟨white,fun id hid hne => (List.mem_pair.mp hid).resolve_right hne⟩
  have hone : db.eligibleGuests [white,black] t ≤ 1 := by
    refine db.guestSessions.countP_le_one (k := other) fun session hsession heligible => ?_
    simp only [Bool.and_eq_true,decide_eq_true_eq] at heligible
    exact hother _ heligible.1.2 (Table.find_eq_none.mp hnone session hsession)
  omega

theorem allocateInTransaction_avoids (hk : kind ≠ .unique) (h : db.Checked) {input : AllocateGame}
    (hd : input.whiteGuestSessionId ≠ input.blackGuestSessionId) (htime : 0 < input.timeInitialMs)
    (hinc : 0 ≤ input.timeIncrementMs) (hfits : kind = .unknown → (newGameRow input).integersFit) :
    Avoids kind (db.allocateInTransaction input) := by
  have hrow : (newGameRow input).Passes kind := by
    refine ⟨hfits,fun _ => ?_⟩
    exact ⟨⟨htime,hinc,htime.le,htime.le⟩,⟨nofun,nofun⟩,⟨rfl,rfl,rfl⟩,rfl,nofun⟩
  unfold Db.allocateInTransaction
  cases hm : db.gameByMatchId input.matchId with
  | some existing => exact avoids_ok _
  | none =>
    simp only
    split_ifs with heligible
    · exact avoids_ok _
    · exact avoids_ok _
    · have hfound : ∀ guest ∈ [input.whiteGuestSessionId,input.blackGuestSessionId].insertionSort
          (· ≤ ·), db.guestSessions.find guest ≠ none := fun guest hmem =>
        eligibleGuests_found (by simpa using heligible) guest ((List.mem_insertionSort _).mp hmem)
      refine Avoids.bind (Db.createGame_avoids hk hrow hfound) fun db₁ hc => ?_
      obtain ⟨hfresh,hi,hr,hg,ha,hs⟩ := createGame_ok hc
      have hnew : db.Allocated input db₁ := ⟨hfresh,hi,hr,hg,ha,hs⟩
      exact Db.commit_avoids ((hnew.sound hd h.sound).allocationInvariants _) _

theorem markReadyInTransaction_avoids (chess : ChessEngine) (h : db.Checked)
    (hroom : db.Roomy kind) (input : MarkGameReady) :
    Avoids kind (db.markReadyInTransaction input) := by
  unfold Db.markReadyInTransaction
  cases hg : db.games.find input.gameId with
  | none => exact avoids_ok _
  | some g =>
    have hid : g.id = input.gameId := Table.find_key hg
    have hsound := h.sound.games _ g hg
    simp only
    cases hp : g.playerFor input.guestSessionId with
    | none => exact avoids_ok _
    | some player =>
      obtain ⟨hmem,_⟩ := playerFor_mem hp
      simp only
      split_ifs with hstale hun
      · exact avoids_ok _
      · exact avoids_ok _
      · have hstatus : g.status = .waitingForPlayers ∨ g.status.joined = true := by
          by_cases hw : g.status = .waitingForPlayers
          · exact Or.inl hw
          · exact Or.inr (by simpa [hw] using hun)
        have hplayers : (g.mapPlayer player.slot
            (GamePlayer.join input.observedAt)).playersChecked :=
          PersistedGame.playersChecked_mapPlayer (h.players _ g hg) fun _ _ _ hcheck => hcheck
        refine Avoids.bind (Db.updatePlayer_avoids hg hplayers) fun db₁ hu => ?_
        obtain ⟨_,rfl⟩ := Db.updatePlayer_ok hg hu
        have hf : (db.replaceGame (g.mapPlayer player.slot
            (GamePlayer.join input.observedAt))).games.find input.gameId =
              some (g.mapPlayer player.slot (GamePlayer.join input.observedAt)) := by
          rw [← hid]
          exact find_replaceGame_self (hid ▸ hg) rfl
        simp only [hf,Option.map_some,Option.getD_some]
        split_ifs with hcount
        · have hready : (g.mapPlayer player.slot
              (GamePlayer.join input.observedAt)).readied.Passes kind :=
            hroom.passes_of_clocks hg (Nat.le_succ _) ⟨rfl,rfl,rfl,rfl⟩
              (PersistedGame.rowChecks_readied (h.rows _ g hg) hcount.1)
          rw [hid]
          refine Avoids.bind (Db.updateGameAtVersion_avoids
            (g := g.mapPlayer player.slot (GamePlayer.join input.observedAt)) hf hready _)
            fun r hv => ?_
          obtain ⟨version,db₂⟩ := r
          obtain ⟨rfl,hi,hr,rfl⟩ := Db.updateGameAtVersion_ok
            (g := g.mapPlayer player.slot (GamePlayer.join input.observedAt)) hf hv
          have hw := ready_wrote chess hg hmem hcount.1 hcount.2 hi hr
          exact Db.commit_avoids (hw.allocationInvariants h.sound _) _
        · have hw := join_wrote chess hg hmem hstatus hcount
          exact Db.commit_avoids (hw.allocationInvariants h.sound _) _

theorem startIfReadyInTransaction_avoids (chess : ChessEngine) (h : db.Checked)
    (hroom : db.Roomy kind) {observation : Micros}
    (hlock : Avoids kind (db.lockGameClock id observation)) :
    Avoids kind (db.startIfReadyInTransaction id observation) := by
  unfold Db.startIfReadyInTransaction
  refine Avoids.bind hlock fun locked hl => ?_
  rcases lockGameClock_ok hl with ⟨hg,rfl⟩ | ⟨g,hg,rfl⟩
  · exact avoids_ok _
  · simp only
    split_ifs with hs
    · have hrow : (g.start (truncatedToMillis observation)).Passes kind :=
        hroom.passes_of_clocks hg (Nat.le_succ _) ⟨rfl,rfl,rfl,rfl⟩
          (PersistedGame.rowChecks_start (h.rows _ g hg) hs _)
      refine Avoids.bind (Db.updateGameAtVersion_avoids hg hrow _) fun r hv => ?_
      obtain ⟨version,db₁⟩ := r
      obtain ⟨rfl,hi,hr,rfl⟩ := Db.updateGameAtVersion_ok (g := g) hg hv
      have hw := start_wrote chess hg hs hi hr
      simp only
      split
      · exact avoids_ok _
      · exact avoids_ok _
      · exact Db.commit_avoids (hw.allocationInvariants h.sound _) _
    · simp only [hg]
      exact avoids_ok _

theorem finalized_passes (h : db.Checked) (hroom : db.Roomy kind) (hg : db.games.find id = some g)
    {observation : Micros} (hlocked : db.lockGameClock id observation =
      .ok (some (g.locked observation)))
    (ht : kind = .constraint → ∀ started ∈ g.startedAt, started ≤ truncatedToMillis observation)
    (outcome : TerminalOutcome) :
    (g.finalized (g.locked observation) outcome).Passes kind := by
  have hcasts := (Db.lockGameClock_ok_iff hg).mp ⟨_,hlocked⟩
  refine hroom.passes hg (Nat.le_succ _) rfl rfl (fun hk => ?_) fun hk =>
    PersistedGame.rowChecks_finalized (h.rows _ g hg) (ht hk) outcome
  obtain ⟨hfits,hversion⟩ := hroom hk id g hg
  exact (PersistedGame.ended_integersFit hfits hcasts (by omega) outcome).2.2.2

theorem finalizeTerminal_avoids (h : db.Checked) (hg : db.games.find g.id = some g)
    {observation : Micros} {outcome : TerminalOutcome}
    (hrow : (g.finalized (g.locked observation) outcome).Passes kind) :
    Avoids kind (db.finalizeTerminal g (g.locked observation) outcome) := by
  obtain ⟨p,q,hpair,_⟩ := (h.sound.games _ g hg).pair
  unfold Db.finalizeTerminal
  split
  · rename_i hnone
    simp [guestPair,hpair] at hnone
  · refine Avoids.bind (Db.updateGameMany_avoids hg hrow) fun r hu => ?_
    obtain ⟨count,db₁⟩ := r
    obtain ⟨rfl,_,_,rfl⟩ := Db.updateGameMany_ok hg hu
    have hf : (db.replaceGame (g.finalized (g.locked observation) outcome)).games.find g.id =
        some (g.finalized (g.locked observation) outcome) := find_replaceGame_self hg rfl
    simp only [ne_eq,not_true_eq_false,if_false]
    exact Avoids.bind (Db.updatePlayers_avoids hf PersistedGame.playersChecked_clearGrace)
      fun _ _ => avoids_ok _

theorem terminate_avoids (chess : ChessEngine) (h : db.Checked) (hg : db.games.find id = some g)
    (hs : g.status.terminal = false) {observation : Micros} {event : TerminalEvent}
    {outcome : TerminalOutcome} (ho : deriveTerminalOutcome event = .ok outcome)
    (hrow : (g.finalized (g.locked observation) outcome).Passes kind) :
    Avoids kind (db.terminate g (g.locked observation) event) := by
  have hid := Table.find_key hg
  subst hid
  unfold Db.terminate
  simp only [ho]
  refine Avoids.bind (finalizeTerminal_avoids h hg hrow) fun r hf => ?_
  obtain ⟨submission,db₁⟩ := r
  obtain ⟨guests,hpair,rfl,hchecks,rfl⟩ := finalizeTerminal_ok hg hf
  have hw : db.Wrote chess g.id g (g.ended observation outcome)
      (db.settle (g.ended observation outcome)) := ⟨hg,.finish hs ho,fun _ => hchecks,rfl⟩
  exact Db.commit_avoids (hw.allocationInvariants h.sound _) _

theorem resignInTransaction_avoids (chess : ChessEngine) (hk : kind ≠ .unique) (h : db.Checked)
    (hroom : db.Roomy kind) {input : ResignGame} {observation : Micros}
    (hlock : Avoids kind (db.lockGameClock input.gameId observation))
    (ht : kind = .constraint → (Operation.resign input observation).EndsTimely chess db) :
    Avoids kind (db.resignInTransaction input observation) := by
  unfold Db.resignInTransaction
  refine Avoids.bind hlock fun locked hl => ?_
  rcases lockGameClock_ok hl with ⟨hg,rfl⟩ | ⟨g,hg,rfl⟩
  · exact avoids_ok _
  have hid : g.id = input.gameId := Table.find_key hg
  simp only [hg]
  cases hp : g.playerFor input.guestSessionId with
  | none => exact avoids_ok _
  | some player =>
    simp only
    cases hc : g.command input.eventId with
    | some c => exact avoids_ok _
    | none =>
      simp only
      split_ifs with hs hv
      · exact avoids_ok _
      · exact avoids_ok _
      · have hstatus : g.status = .inProgress ∨ g.status = .reconnecting := by
          by_cases hi : g.status = .inProgress
          · exact Or.inl hi
          · exact Or.inr (not_not.mp fun hr => hs ⟨hi,hr⟩)
        have hends : (Operation.resign input observation).endsAt chess g = some observation :=
          if_pos ⟨by rw [hp]; rfl,hc,hstatus,not_not.mp hv⟩
        cases ho : deriveTerminalOutcome (.resignation player.color) with
        | error e => cases ho
        | ok outcome =>
          have hrow := finalized_passes h hroom hg hl (fun hk =>
            ht hk _ rfl g hg observation hends) outcome
          refine Avoids.bind (finalizeTerminal_avoids h (hid ▸ hg) hrow) fun r hf => ?_
          obtain ⟨submission,db₁⟩ := r
          obtain ⟨guests,hpair,rfl,hchecks,rfl⟩ := finalizeTerminal_ok (hid ▸ hg) hf
          have hfound : (db.settle (g.ended observation outcome)).games.find input.gameId =
              some (g.ended observation outcome) := by
            have hne : db.games.find (g.ended observation outcome).id ≠ none := by
              rw [show (g.ended observation outcome).id = input.gameId from hid,hg]
              simp
            rw [find_settle hne]
            exact if_pos hid.symm
          refine Avoids.bind (Db.createGameCommand_avoids hk hfound _) fun db₂ hcmd => ?_
          obtain ⟨_,rfl⟩ := Db.createGameCommand_ok hfound hcmd
          have hw : db.Wrote chess input.gameId g ((g.ended observation outcome).addCommand
              (resignCommand input (terminalSubmission g (g.locked observation) outcome guests)))
              (db.settle ((g.ended observation outcome).addCommand (resignCommand input
                (terminalSubmission g (g.locked observation) outcome guests)))) :=
            ⟨hg,.resign (playerFor_mem hp).1 hstatus ho hc rfl,fun _ => hchecks,rfl⟩
          rw [settle_addCommand]
          exact Db.commit_avoids (hw.allocationInvariants h.sound _) _

theorem terminateForResetInTransaction_avoids (chess : ChessEngine) (h : db.Checked)
    (hroom : db.Roomy kind) {guest : GuestSessionId} {assignment : Option GameId}
    {observation : Micros}
    (hlock : ∀ id ∈ assignment, Avoids kind (db.lockGameClock id observation))
    (ht : kind = .constraint →
      (Operation.terminateForReset guest assignment observation).EndsTimely chess db) :
    Avoids kind (db.terminateForResetInTransaction guest assignment observation) := by
  unfold Db.terminateForResetInTransaction
  cases assignment with
  | none => exact avoids_ok _
  | some id =>
    refine Avoids.bind (hlock id rfl) fun locked hl => ?_
    rcases lockGameClock_ok hl with ⟨hg,rfl⟩ | ⟨g,hg,rfl⟩
    · exact avoids_ok _
    simp only [hg]
    split_ifs with hs
    · cases hp : g.playerFor guest with
      | none => exact avoids_ok _
      | some player =>
        have hends : (Operation.terminateForReset guest (some id) observation).endsAt chess g =
            some observation := if_pos ⟨hs,by rw [hp]; rfl⟩
        have hterminal : g.status.terminal = false := by
          simp only [Db.resettable,List.mem_cons,List.not_mem_nil,or_false] at hs
          rcases hs with hi | hi | hi | hi <;> rw [hi] <;> rfl
        have hrow := finalized_passes h hroom hg hl fun hk => ht hk id rfl g hg observation hends
        exact terminate_avoids chess h hg hterminal rfl (hrow _)
    · exact avoids_ok _

/-- At most one player of a waiting game has joined. -/
theorem waiting_noShow (hg : g.Sound) (hs : g.status = .waitingForPlayers) :
    ∃ outcome, deriveTerminalOutcome (.noShow
      ((g.players.filter fun p => p.joinedAt.isSome).map GamePlayer.color)) = .ok outcome ∧
        outcome.termination = .noShow := by
  obtain ⟨p,q,hpair,_,_,_,_,_⟩ := hg.pair
  have hjoined := (hg.waiting hs).1
  simp only [PersistedGame.joinedPlayers,hpair] at hjoined
  rw [hpair]
  cases hp : p.joinedAt with
  | none =>
    cases hq : q.joinedAt with
    | none => exact ⟨_,by simp [hp,hq]; rfl,rfl⟩
    | some _ =>
      refine ⟨winnerOutcome q.color .expired .noShow,?_,rfl⟩
      simp [hp,hq,deriveTerminalOutcome,deriveNoShow]
  | some _ =>
    cases hq : q.joinedAt with
    | none =>
      refine ⟨winnerOutcome p.color .expired .noShow,?_,rfl⟩
      simp [hp,hq,deriveTerminalOutcome,deriveNoShow]
    | some _ => simp [hp,hq] at hjoined

theorem abandonment_derives {absent : List PlayerColor} (h : absent ≠ []) :
    ∃ outcome, deriveTerminalOutcome (.abandonment absent) = .ok outcome := by
  obtain ⟨color,colors,rfl⟩ := List.exists_cons_of_ne_nil h
  simp only [deriveTerminalOutcome,deriveAbandonment,uniqueColors,List.eraseDups_cons,
    List.head?_cons]
  split_ifs
  · exact ⟨_,rfl⟩
  · exact ⟨_,rfl⟩

/-- What the three adjudications find due: a live game, and an event that has an outcome. -/
structure JudgesLive (event : LockedGameClock → PersistedGame → Option TerminalEvent)
    (observation : Micros) : Prop where
  live : ∀ g e, event (g.locked observation) g = some e → g.status.terminal = false
  derives : ∀ g e, g.Sound → event (g.locked observation) g = some e →
    ∃ outcome, deriveTerminalOutcome e = .ok outcome

theorem timeoutEvent_judgesLive (observation : Micros) :
    JudgesLive Db.timeoutEvent observation where
  live g e he := GameStatus.not_terminal_of_started (timeoutEvent_not_terminal he)
  derives g e _ he := by
    unfold Db.timeoutEvent at he
    simp only [Option.ite_none_left_eq_some,Option.some.injEq] at he
    obtain ⟨_,_,rfl⟩ := he
    exact ⟨_,rfl⟩

theorem noShowEvent_judgesLive (observation : Micros) :
    JudgesLive Db.noShowEvent observation where
  live g e he := by
    rw [noShowEvent_waiting he]
    rfl
  derives g e hg he := by
    obtain ⟨outcome,ho,_⟩ := waiting_noShow hg (noShowEvent_waiting he)
    unfold Db.noShowEvent at he
    split at he
    · cases he
    · split at he
      · cases he
      · split at he
        · cases he
        · cases he
          exact ⟨outcome,ho⟩

theorem abandonmentEvent_judgesLive (absent : List GuestSessionId) (observation : Micros) :
    JudgesLive (Db.abandonmentEvent absent) observation where
  live g e he := by
    rw [abandonmentEvent_reconnecting he]
    rfl
  derives g e _ he := by
    unfold Db.abandonmentEvent at he
    split at he
    · cases he
    · simp only at he
      split at he
      · cases he
      · rename_i hnone
        cases he
        refine abandonment_derives fun hempty => hnone (Or.inl ?_)
        exact List.map_eq_nil_iff.mp hempty

theorem adjudicate_avoids (chess : ChessEngine) (h : db.Checked) (hroom : db.Roomy kind)
    {op : Operation} {observation : Micros}
    {event : LockedGameClock → PersistedGame → Option TerminalEvent} (hid : op.gameId = some id)
    (hop : ∀ g, op.endsAt chess g = (event (g.locked observation) g).map fun _ => observation)
    (hevent : JudgesLive event observation)
    (hlock : Avoids kind (db.lockGameClock id observation))
    (ht : kind = .constraint → op.EndsTimely chess db) :
    Avoids kind (db.adjudicate id observation event) := by
  unfold Db.adjudicate
  refine Avoids.bind hlock fun locked hl => ?_
  rcases lockGameClock_ok hl with ⟨hg,rfl⟩ | ⟨g,hg,rfl⟩
  · exact avoids_ok _
  simp only [hg]
  cases he : event (g.locked observation) g with
  | none => exact avoids_ok _
  | some e =>
    have hends : op.endsAt chess g = some observation := by
      rw [hop,he]
      rfl
    obtain ⟨outcome,ho⟩ := hevent.derives g e (h.sound.games _ g hg) he
    have hrow := finalized_passes h hroom hg hl fun hk => ht hk id hid g hg observation hends
    exact terminate_avoids chess h hg (hevent.live g e he) ho (hrow outcome)

theorem grace_avoids {α : Type} (chess : ChessEngine) (h : db.Checked)
    (hg : db.games.find g.id = some g) {slot : ℕ} {data : GamePlayer → GamePlayer}
    {row : PersistedGame → PersistedGame} {none_ some_ : α}
    (hplayers : (g.mapPlayer slot data).playersChecked)
    (hrow : (row (g.mapPlayer slot data)).Passes kind)
    (hid : (row (g.mapPlayer slot data)).id = g.id)
    (hterminal : (row (g.mapPlayer slot data)).status.terminal = false)
    (hchange : GameChange chess g (row (g.mapPlayer slot data))) :
    Avoids kind (do
      let db ← db.updatePlayer g.id slot data
      let (count,db) ← db.updateGameMany g.id g.version row
      if count ≠ 1 then Db.commit g.id none_ db else Db.commit g.id some_ db) := by
  refine Avoids.bind (Db.updatePlayer_avoids hg hplayers) fun db₁ hp => ?_
  have hf : db₁.games.find g.id = some (g.mapPlayer slot data) := by
    obtain ⟨_,rfl⟩ := Db.updatePlayer_ok hg hp
    exact find_replaceGame_self hg rfl
  refine Avoids.bind (Db.updateGameMany_avoids hf hrow) fun r hu => ?_
  obtain ⟨count,db₂⟩ := r
  obtain ⟨rfl,_,hchecks,rfl⟩ := updatePlayer_updateGameMany_ok hg hp hid hu
  have hw : db.Wrote chess g.id g (row (g.mapPlayer slot data))
      (db.replaceGame (row (g.mapPlayer slot data))) :=
    ⟨hg,hchange,fun _ => hchecks,(settle_of_not_terminal hterminal).symm⟩
  simp only [ne_eq,not_true_eq_false,if_false]
  exact Db.commit_avoids (hw.allocationInvariants h.sound _) _

theorem markDisconnectedInTransaction_avoids (chess : ChessEngine) (h : db.Checked)
    (hroom : db.Roomy kind) {guest : GuestSessionId} {assignment : Option GameId} {graceMs : ℤ}
    {observation : Micros} (hgrace : 0 ≤ graceMs)
    (hlock : ∀ id ∈ assignment, Avoids kind (db.lockGameClock id observation)) :
    Avoids kind (db.markDisconnectedInTransaction guest assignment graceMs observation) := by
  unfold Db.markDisconnectedInTransaction
  cases assignment with
  | none => exact avoids_ok _
  | some id =>
    refine Avoids.bind (hlock id rfl) fun locked hl => ?_
    rcases lockGameClock_ok hl with ⟨hg,rfl⟩ | ⟨g,hg,rfl⟩
    · exact avoids_ok _
    have hid : g.id = id := Table.find_key hg
    subst hid
    simp only [hg]
    cases hp : g.playerFor guest with
    | none => exact avoids_ok _
    | some player =>
      obtain ⟨hmem,_⟩ := playerFor_mem hp
      have hold := h.players _ g hg
      simp only
      split_ifs with hs hw hd
      · have hplayers : (g.mapPlayer player.slot GamePlayer.leave).playersChecked :=
          PersistedGame.playersChecked_mapPlayer hold fun _ _ _ hcheck => hcheck
        refine Avoids.bind (Db.updatePlayer_avoids hg hplayers) fun db₁ hu => ?_
        obtain ⟨_,rfl⟩ := Db.updatePlayer_ok hg hu
        have hterminal : (g.mapPlayer player.slot GamePlayer.leave).status.terminal = false := by
          show g.status.terminal = false
          rw [hw]
          rfl
        have hwrote : db.Wrote chess g.id g (g.mapPlayer player.slot GamePlayer.leave)
            (db.replaceGame (g.mapPlayer player.slot GamePlayer.leave)) :=
          ⟨hg,.leave hmem hw,fun hchecks => hchecks,(settle_of_not_terminal hterminal).symm⟩
        exact Db.commit_avoids (hwrote.allocationInvariants h.sound _) _
      · exact avoids_ok _
      · exact avoids_ok _
      · have hstarted : g.status.started = true := by
          by_cases hi : g.status = .inProgress
          · rw [hi]
            rfl
          · rw [not_not.mp fun hr => hs ⟨hi,hr⟩]
            rfl
        have hle : truncatedToMillis observation ≤ truncatedToMillis observation + graceMs :=
          Int.le_add_of_nonneg_right hgrace
        have hplayers : (g.mapPlayer player.slot (GamePlayer.disconnect
            (truncatedToMillis observation)
            (truncatedToMillis observation + graceMs))).playersChecked := by
          refine PersistedGame.playersChecked_mapPlayer hold fun _ _ _ _ => Or.inr ⟨rfl,rfl,?_⟩
          intro d hd e he
          cases hd
          cases he
          exact hle
        have hrow := PersistedGame.rowChecks_running (h.rows _ g hg) hstarted
          (rfl : GameStatus.started .reconnecting = true)
        exact grace_avoids chess h hg hplayers
          (hroom.passes_of_clocks hg (Nat.le_succ _) ⟨rfl,rfl,rfl,rfl⟩ (hrow _ _)) rfl rfl
          (.disconnect hmem hstarted (not_not.mp hd) hle)

theorem markReconnectedInTransaction_avoids (chess : ChessEngine) (h : db.Checked)
    (hroom : db.Roomy kind) {guest : GuestSessionId} {assignment : Option GameId}
    {observation : Micros}
    (hlock : ∀ id ∈ assignment, Avoids kind (db.lockGameClock id observation)) :
    Avoids kind (db.markReconnectedInTransaction guest assignment observation) := by
  unfold Db.markReconnectedInTransaction
  cases assignment with
  | none => exact avoids_ok _
  | some id =>
    refine Avoids.bind (hlock id rfl) fun locked hl => ?_
    rcases lockGameClock_ok hl with ⟨hg,rfl⟩ | ⟨g,hg,rfl⟩
    · exact avoids_ok _
    have hid : g.id = id := Table.find_key hg
    subst hid
    simp only [hg]
    split_ifs with hs
    · exact avoids_ok _
    · have hs : g.status = .reconnecting := not_not.mp hs
      cases hp : g.playerFor guest with
      | none => exact avoids_ok _
      | some player =>
        obtain ⟨hmem,_⟩ := playerFor_mem hp
        simp only
        split_ifs with hd
        · exact avoids_ok _
        · have hplayers : (g.mapPlayer player.slot
              (GamePlayer.reconnect (truncatedToMillis observation))).playersChecked :=
            PersistedGame.playersChecked_mapPlayer (h.players _ g hg)
              fun _ _ _ _ => Or.inl ⟨rfl,rfl⟩
          have hstarted : g.status.started = true := by
            rw [hs]
            rfl
          have hstatus : (if g.otherDeadlines player.slot = [] then GameStatus.inProgress
              else .reconnecting).started = true := by
            split_ifs <;> rfl
          have hrow := PersistedGame.rowChecks_running (h.rows _ g hg) hstarted hstatus
          exact grace_avoids chess h hg hplayers
            (hroom.passes_of_clocks hg (Nat.le_succ _) ⟨rfl,rfl,rfl,rfl⟩ (hrow _ _)) rfl
            (GameStatus.not_terminal_of_started hstatus) (.reconnect hmem hs hd)

theorem evaluateMove_ply {chess : ChessJs} {input : EvaluateMoveInput}
    {evaluation : MoveEvaluation} (h : chess.evaluateMove input = .ok evaluation) :
    0 < evaluation.applied.plyNumber := by
  obtain ⟨before,_,h⟩ := bind_eq_ok.mp h
  simp only at h
  split_ifs at h
  obtain ⟨⟨after,applied⟩,happly,h⟩ := bind_eq_ok.mp h
  cases h
  unfold ChessJs.applyProposal at happly
  split_ifs at happly
  simp only at happly
  split at happly
  · cases happly
  · cases happly
    exact Nat.succ_pos _

/-- The state of the game after a move of the engine has an outcome when it is over. -/
theorem evaluateMove_outcome {chess : ChessJs} {input : EvaluateMoveInput}
    {evaluation : MoveEvaluation} (h : chess.evaluateMove input = .ok evaluation) :
    ∃ terminal, terminalOutcome evaluation.gameOver = .ok terminal := by
  obtain ⟨before,_,h⟩ := bind_eq_ok.mp h
  simp only at h
  split_ifs at h
  obtain ⟨⟨after,applied⟩,_,h⟩ := bind_eq_ok.mp h
  cases h
  unfold ChessJs.getGameOver
  split_ifs
  · exact ⟨_,rfl⟩
  · exact ⟨_,rfl⟩
  · exact ⟨_,rfl⟩
  · exact ⟨_,rfl⟩
  · exact ⟨_,rfl⟩
  · exact ⟨_,rfl⟩

theorem commitMove_avoids {chess : ChessEngine} {m : AdmittedMove} (hk : kind ≠ .unique)
    (h : db.Checked) (hroom : db.Roomy kind) (hg : db.games.find m.game.id = some m.game)
    (hplayer : m.game.playerFor m.input.guestSessionId = some m.player)
    (hfresh : m.game.command m.input.clientMoveId = none)
    (hchecks : admitMove chess m.game m.player m.input m.observedAt = .ok (m.clock,m.evaluation))
    (houtcome : terminalOutcome m.evaluation.gameOver = .ok m.terminal)
    (hclocks : kind = .unknown → fitsInteger m.clock.whiteMs ∧ fitsInteger m.clock.blackMs)
    (ht : kind = .constraint → m.terminal ≠ none →
      ∀ started ∈ m.game.startedAt, started ≤ m.observedAt)
    (hply : 0 < m.evaluation.applied.plyNumber) : Avoids kind (db.commitMove m) := by
  have hrow : (m.updateRow m.game).Passes kind := by
    refine hroom.passes hg ?_ rfl rfl hclocks fun hk =>
      PersistedGame.rowChecks_updateRow (h.rows _ _ hg) (h.sound.games _ _ hg) hchecks (ht hk)
    simp only [AdmittedMove.updateRow]
    split_ifs
    · exact le_refl _
    · exact Nat.le_succ _
  unfold Db.commitMove
  cases hpair : guestPair m.game with
  | none => exact avoids_ok _
  | some guests =>
    refine Avoids.bind (Db.updateGameMany_avoids hg hrow) fun r hu => ?_
    obtain ⟨count,db₁⟩ := r
    obtain ⟨rfl,hi,hr,rfl⟩ := Db.updateGameMany_ok hg hu
    have hf₁ : (db.replaceGame (m.updateRow m.game)).games.find m.game.id =
        some (m.updateRow m.game) := find_replaceGame_self hg rfl
    simp only [ne_eq,not_true_eq_false,if_false]
    refine Avoids.bind (Db.createMove_avoids hk hf₁ hply) fun db₂ hmove => ?_
    obtain ⟨hmoves,_,rfl⟩ := Db.createMove_ok hf₁ hmove
    have hm : m.Admitted chess guests := ⟨hplayer,hfresh,hchecks,houtcome,hpair,hmoves,hply⟩
    have hf₂ : ∀ db₂ : Db, db₂.games = ((db.replaceGame (m.updateRow m.game)).replaceGame
        ((m.updateRow m.game).addMove m.moveRow)).games →
          db₂.games.find m.game.id = some ((m.updateRow m.game).addMove m.moveRow) := by
      intro db₂ he
      rw [he]
      exact find_replaceGame_self (g := m.updateRow m.game) hf₁ rfl
    have hcreate : Avoids kind ((if m.terminal = none then
        (db.replaceGame (m.updateRow m.game)).replaceGame ((m.updateRow m.game).addMove m.moveRow)
        else ((db.replaceGame (m.updateRow m.game)).replaceGame
          ((m.updateRow m.game).addMove m.moveRow)).deleteAssignments m.game.id).createGameCommand
            m.game.id (m.command guests)) := by
      refine Db.createGameCommand_avoids hk (hf₂ _ ?_) _
      split_ifs <;> rfl
    refine Avoids.bind hcreate fun db₃ hcmd => ?_
    obtain rfl := moveWrites_ok hg hm.row_terminal rfl rfl hcmd
    have hw : db.Wrote chess m.game.id m.game (m.row guests) (db.settle (m.row guests)) :=
      ⟨hg,.move rfl hm,fun _ => ⟨hi,hr⟩,rfl⟩
    exact Db.commit_avoids (hw.allocationInvariants h.sound _) _

/-- The clocks of a move that its checks admit fit their columns. -/
def SubmitMove.ClocksFit (chess : ChessEngine) (db : Db) (input : SubmitMove)
    (observation : Micros) : Prop :=
  ∀ g ∈ db.games.find input.gameId, ∀ player ∈ g.playerFor input.guestSessionId,
    ∀ clock evaluation, admitMove chess g player input (truncatedToMillis observation) =
      .ok (clock,evaluation) → fitsInteger clock.whiteMs ∧ fitsInteger clock.blackMs

theorem submitInTransaction_avoids {chess : ChessJs} (hk : kind ≠ .unique) (h : db.Checked)
    (hroom : db.Roomy kind) {input : SubmitMove} {observation : Micros}
    (hlock : Avoids kind (db.lockGameClock input.gameId observation))
    (hclocks : kind = .unknown → input.ClocksFit chess.engine db observation)
    (ht : kind = .constraint →
      (Operation.submitMove input observation).EndsTimely chess.engine db) :
    Avoids kind (db.submitInTransaction chess.engine input observation) := by
  unfold Db.submitInTransaction
  refine Avoids.bind hlock fun locked hl => ?_
  rcases lockGameClock_ok hl with ⟨hg,rfl⟩ | ⟨g,hg,rfl⟩
  · exact avoids_ok _
  have hid : g.id = input.gameId := Table.find_key hg
  simp only [hg]
  cases hp : g.playerFor input.guestSessionId with
  | none => exact avoids_ok _
  | some player =>
    simp only
    cases hc : g.command input.clientMoveId with
    | some c => exact avoids_ok _
    | none =>
      simp only
      cases ha : admitMove chess.engine g player input (g.locked observation).observedAt with
      | error rejection => exact avoids_ok _
      | ok admitted =>
        obtain ⟨clock,evaluation⟩ := admitted
        simp only
        cases hterminal : terminalOutcome evaluation.gameOver with
        | error e =>
          obtain ⟨terminal,ho⟩ := evaluateMove_outcome (admitMove_ok ha).2.2.2.2.2.1
          rw [ho] at hterminal
          cases hterminal
        | ok terminal =>
          have hends : kind = .constraint → terminal ≠ none →
              ∀ started ∈ g.startedAt, started ≤ truncatedToMillis observation := by
            intro hk hne
            obtain ⟨t,rfl⟩ := Option.ne_none_iff_exists'.mp hne
            refine ht hk _ rfl g hg observation ?_
            have ha' : admitMove chess.engine g player input (truncatedToMillis observation) =
                .ok (clock,evaluation) := ha
            simp only [Operation.endsAt,hp,hc,ha',hterminal]
            exact rfl
          have hply := evaluateMove_ply (admitMove_ok ha).2.2.2.2.2.1
          exact commitMove_avoids hk h hroom (hid ▸ hg) hp hc ha hterminal
            (fun hk => hclocks hk g hg player hp clock evaluation ha) hends hply

end Transactions

section Sessions

/-! The mutations of the guest sessions. -/

variable {db db' : Db}

def Db.SessionsChecked (db : Db) : Prop := ∀ session ∈ db.guestSessions.rows, session.rowChecks

namespace Db

theorem toCommandReplay_avoids (command : SessionCommand) :
    Avoids (.database .constraint) ((db.toCommandReplay command).map (·,db)) := by
  refine Avoids.map _ ?_
  unfold toCommandReplay
  cases db.guestSessions.find command.guestSessionId with
  | none => exact avoids_error nofun
  | some guestSession => exact avoids_ok _

theorem createSessionCommand_avoids (row : SessionCommand) :
    Avoids (.database .constraint) (db.createSessionCommand row) := by
  unfold createSessionCommand
  cases db.sessionCommands.insert row with
  | none => exact avoids_error nofun
  | some sessionCommands => exact avoids_ok _

theorem createGuestSession_avoids {row : GuestSession} (h : row.rowChecks) :
    Avoids (.database .constraint) (db.createGuestSession row) := by
  unfold createGuestSession
  rw [if_neg (not_not.mpr h)]
  split_ifs
  · exact avoids_error nofun
  · cases db.guestSessions.insert row with
    | none => exact avoids_error nofun
    | some guestSessions => exact avoids_ok _

theorem updateGuestSession_avoids {row : GuestSession} (h : row.rowChecks) :
    Avoids (.database .constraint) (db.updateGuestSession row) := by
  unfold updateGuestSession
  rw [if_neg (not_not.mpr h)]
  exact avoids_ok _

theorem availableSession_ok {id : GuestSessionId} {t : Millis} {session : GuestSession}
    (h : db.availableSession id t = .ok session) :
    db.guestSessions.find id = some session ∧ session.revokedAt = none ∧ t < session.expiresAt := by
  unfold availableSession at h
  cases hf : db.guestSessions.find id with
  | none => simp [hf] at h
  | some current =>
    simp only [hf] at h
    split_ifs at h with hc
    cases h
    have hopen : session.revokedAt = none := by
      by_contra hne
      exact hc (Or.inl hne)
    exact ⟨rfl,hopen,not_le.mp fun hle => hc (Or.inr hle)⟩

theorem changeSession_avoids {id : GuestSessionId} {t : Millis}
    {change : GuestSession → GuestSession} {command : SessionCommand}
    (h : ∀ session, db.availableSession id t = .ok session → (change session).rowChecks) :
    Avoids (.database .constraint) (db.changeSession id t change command) := by
  have havailable : Avoids (.database .constraint) (db.availableSession id t) := by
    unfold availableSession
    cases db.guestSessions.find id with
    | none => exact avoids_error nofun
    | some current =>
      simp only
      split_ifs
      · exact avoids_error nofun
      · exact avoids_ok _
  refine Avoids.bind havailable fun session hs => ?_
  refine Avoids.bind (updateGuestSession_avoids (h session hs)) fun db₁ _ => ?_
  exact Avoids.bind (createSessionCommand_avoids command) fun db₂ _ => avoids_ok _

theorem createSession_avoids {existing : Option SessionCommand} {input : CreateGuestSession}
    (h : input.issuedClaims.lasting) :
    Avoids (.database .constraint) (db.createSession existing input) := by
  cases existing with
  | some command => exact toCommandReplay_avoids command
  | none =>
    refine Avoids.bind (createGuestSession_avoids ⟨h,nofun⟩) fun db₁ _ => ?_
    exact Avoids.bind (createSessionCommand_avoids _) fun db₂ _ => avoids_ok _

theorem renewSession_avoids {existing : Option SessionCommand} {input : RenewGuestSession}
    (h : input.issuedClaims.lasting) :
    Avoids (.database .constraint) (db.renewSession existing input) := by
  cases existing with
  | some command => exact toCommandReplay_avoids command
  | none =>
    refine changeSession_avoids fun session hs => ⟨h,?_⟩
    intro revoked hrevoked
    rw [(availableSession_ok hs).2.1] at hrevoked
    cases hrevoked

theorem resetSession_avoids {existing : Option SessionCommand} {input : ResetGuestSession}
    (hdb : db.SessionsChecked)
    (h : (Operation.session (.reset existing input)).RevokesTimely db) :
    Avoids (.database .constraint) (db.resetSession existing input) := by
  cases existing with
  | some command => exact toCommandReplay_avoids command
  | none =>
    refine changeSession_avoids fun session hs => ⟨?_,?_⟩
    · have hmem : session ∈ db.guestSessions.rows := Table.find_mem (availableSession_ok hs).1
      exact (hdb session hmem).1
    · intro revoked hrevoked
      cases hrevoked
      refine h session ?_
      rw [hs]
      rfl

theorem SessionsChecked.create (hdb : db.SessionsChecked) {row : GuestSession}
    (h : db.createGuestSession row = .ok db') : db'.SessionsChecked := by
  unfold createGuestSession at h
  split_ifs at h with hchecks
  cases hi : db.guestSessions.insert row with
  | none => simp [hi] at h
  | some guestSessions =>
    simp only [hi] at h
    cases h
    intro session hmem
    rcases (Table.mem_insert hi).mp hmem with hold | rfl
    · exact hdb session hold
    · exact hchecks

theorem SessionsChecked.update (hdb : db.SessionsChecked) {row : GuestSession}
    (h : db.updateGuestSession row = .ok db') : db'.SessionsChecked := by
  unfold updateGuestSession at h
  split_ifs at h with hchecks
  cases h
  intro session hmem
  obtain ⟨old,hold,rfl⟩ := List.mem_map.mp hmem
  split_ifs
  · exact hchecks
  · exact hdb old hold

theorem createSessionCommand_sessions {row : SessionCommand}
    (h : db.createSessionCommand row = .ok db') : db'.guestSessions = db.guestSessions := by
  unfold createSessionCommand at h
  split at h
  · cases h
  · cases h
    rfl

theorem SessionsChecked.command (hdb : db.SessionsChecked) {row : SessionCommand}
    (h : db.createSessionCommand row = .ok db') : db'.SessionsChecked := by
  unfold SessionsChecked
  rw [createSessionCommand_sessions h]
  exact hdb

theorem SessionsChecked.change (hdb : db.SessionsChecked) {id : GuestSessionId} {t : Millis}
    {change : GuestSession → GuestSession} {command : SessionCommand} {r : SessionMutationResult}
    (h : db.changeSession id t change command = .ok (r,db')) : db'.SessionsChecked := by
  obtain ⟨session,_,h⟩ := bind_eq_ok.mp h
  obtain ⟨db₁,hupdate,h⟩ := bind_eq_ok.mp h
  obtain ⟨db₂,hcommand,h⟩ := bind_eq_ok.mp h
  cases h
  exact (hdb.update hupdate).command hcommand

theorem SessionsChecked.transaction (hdb : db.SessionsChecked)
    {work : Except SessionFailure (SessionMutationResult × Db)}
    (h : ∀ r db', work = .ok (r,db') → db'.SessionsChecked) :
    (db.sessionTransaction work).2.SessionsChecked := by
  cases work with
  | error e => exact hdb
  | ok r => exact h r.1 r.2 rfl

theorem SessionsChecked.session (hdb : db.SessionsChecked) (operation : SessionOperation) :
    (db.executeSession operation).2.SessionsChecked := by
  cases operation with
  | create existing input =>
    refine hdb.transaction fun r db' h => ?_
    cases existing with
    | some command => rwa [toCommandReplay_frame h]
    | none =>
      obtain ⟨db₁,hcreate,h⟩ := bind_eq_ok.mp h
      obtain ⟨db₂,hcommand,h⟩ := bind_eq_ok.mp h
      cases h
      exact (hdb.create hcreate).command hcommand
  | renew existing input =>
    refine hdb.transaction fun r db' h => ?_
    cases existing with
    | some command => rwa [toCommandReplay_frame h]
    | none => exact hdb.change h
  | reset existing input =>
    refine hdb.transaction fun r db' h => ?_
    cases existing with
    | some command => rwa [toCommandReplay_frame h]
    | none => exact hdb.change h
  | cleanupExpired cutoff limit locked =>
    exact fun session hmem => hdb session (Table.mem_deleteWhere.mp hmem).1

end Db

/-- Only the mutations of the guest sessions write their table. -/
theorem Db.SessionsChecked.execute {chess : ChessEngine} (hdb : db.SessionsChecked)
    (op : Operation) : (execute chess db op).2.SessionsChecked := by
  cases execute_outcome chess db op with
  | session hop hanswer h =>
    rw [h]
    exact hdb.session _
  | kept h _ =>
    rw [h]
    exact hdb
  | allocated _ _ h _ =>
    unfold Db.SessionsChecked
    rw [h.guestSessions]
    exact hdb
  | wrote _ hw _ =>
    unfold Db.SessionsChecked
    rw [hw.result,settle_guestSessions]
    exact hdb

end Sessions

section Players

variable {chess : ChessEngine} {g g' : PersistedGame}

theorem GameChange.playersChecked (h : GameChange chess g g') (hg : g.playersChecked) :
    g'.playersChecked := by
  cases h with
  | join hp hs hn => exact PersistedGame.playersChecked_mapPlayer hg fun _ _ _ hcheck => hcheck
  | ready hp hs hn => exact PersistedGame.playersChecked_mapPlayer hg fun _ _ _ hcheck => hcheck
  | start hs => exact hg
  | move he hm =>
    subst he
    exact hg
  | leave hp hs => exact PersistedGame.playersChecked_mapPlayer hg fun _ _ _ hcheck => hcheck
  | disconnect hp hs hd ho =>
    refine PersistedGame.playersChecked_mapPlayer hg fun _ _ _ _ => Or.inr ⟨rfl,rfl,?_⟩
    intro d hd e he
    cases hd
    cases he
    exact ho
  | reconnect hp hs hd =>
    exact PersistedGame.playersChecked_mapPlayer hg fun _ _ _ _ => Or.inl ⟨rfl,rfl⟩
  | finish hs ho => exact PersistedGame.playersChecked_clearGrace
  | resign hp hs ho hc ht => exact PersistedGame.playersChecked_clearGrace

theorem Db.Reachable.players {chess : ChessEngine} {db : Db} (h : db.Reachable chess) :
    ∀ id g, db.games.find id = some g → g.playersChecked := by
  refine h.invariant (I := fun db => ∀ id g, db.games.find id = some g → g.playersChecked)
    (fun _ _ _ _ hx => by simp [Db.initial] at hx) fun db db' hc hdb id g hg => ?_
  cases hc with
  | frame hgames _ => exact hdb id g (hgames ▸ hg)
  | @allocate input _ _ ha =>
    rw [Table.find_insert ha.games] at hg
    split_ifs at hg
    · cases hg
      intro p hp
      simp only [newGameRow,List.mem_cons,List.not_mem_nil,or_false] at hp
      rcases hp with rfl | rfl
      · exact Or.inl ⟨rfl,rfl⟩
      · exact Or.inl ⟨rfl,rfl⟩
    · exact hdb id g hg
  | game hw =>
    rw [hw.find] at hg
    split_ifs at hg
    · cases hg
      exact hw.change.playersChecked (hdb _ _ hw.found)
    · exact hdb id g hg

theorem Db.ServedReachable.checked {chess : ChessEngine} {db : Db} (h : db.ServedReachable chess) :
    db.Checked where
  sound := h.reachable.sound
  rows id g hg := (h.reachable.rowsChecked id g hg).2
  players := h.reachable.players
  sessions := h.invariant (I := Db.SessionsChecked) (fun _ _ hs => hs) fun _ op _ _ hdb =>
    hdb.execute op

end Players

section Refused

variable {chess : ChessJs} {db : Db} {kind : DatabaseErrorKind}

/-- A `CHECK` or the allocation trigger has aborted the transaction. -/
def Answer.refusedByCheck : Answer → Prop
  | .session (.mutation (.error e)) => e = .database .constraint
  | .session _ => False
  | .allocation result => result = .error (.database .constraint)
  | .start result => result = .error (.database .constraint)
  | .move result => result = .error (.database .constraint)
  | .resignation result => result = .error (.database .constraint)
  | .terminal result => result = .error (.database .constraint)
  | .disconnected result => result = .error (.database .constraint)
  | .reconnected result => result = .error (.database .constraint)

def Answer.failsWith (kind : DatabaseErrorKind) : Answer → Prop
  | .session _ => False
  | .allocation result => result = .error (.database kind)
  | .start result => result = .error (.database kind)
  | .move result => result = .error (.database kind)
  | .resignation result => result = .error (.database kind)
  | .terminal result => result = .error (.database kind)
  | .disconnected result => result = .error (.database kind)
  | .reconnected result => result = .error (.database kind)

theorem Db.answered_avoids {α β : Type} {work : Except DatabaseErrorKind (α × Db)}
    (h : Avoids kind work) (answer : α → Except GameServiceError β) :
    Avoids (.database kind) (Db.answered (db.transaction work) answer).1 := by
  cases hw : work with
  | error kind =>
    rw [hw] at h
    exact avoids_error fun he => h (congrArg Except.error (RepositoryError.database.inj he))
  | ok r =>
    show Avoids _ ((answer r.1).mapError RepositoryError.service)
    cases answer r.1 with
    | error e => exact avoids_error nofun
    | ok b => exact avoids_ok _

theorem Db.sessionTransaction_avoids {work : Except SessionFailure (SessionMutationResult × Db)}
    (h : Avoids (.database .constraint) work) :
    ¬ (Answer.session (db.sessionTransaction work).1).refusedByCheck := by
  cases hw : work with
  | error e =>
    rw [hw] at h
    exact fun he => h (congrArg Except.error he)
  | ok r => exact id

theorem recoverMove_avoids (hk : kind ≠ .unique) (input : SubmitMove) :
    Avoids (.database kind) (db.recoverMove input) := by
  unfold Db.recoverMove
  cases db.findReplay input with
  | error e => exact avoids_error nofun
  | ok submission =>
    cases submission with
    | none => exact avoids_error fun he => hk (RepositoryError.database.inj he).symm
    | some s => exact avoids_ok _

theorem recoverResignation_avoids (hk : kind ≠ .unique) (input : ResignGame) :
    Avoids (.database kind) (db.recoverResignation input) := by
  unfold Db.recoverResignation
  cases db.findResignReplay input with
  | error e => exact avoids_error nofun
  | ok submission =>
    cases submission with
    | none => exact avoids_error fun he => hk (RepositoryError.database.inj he).symm
    | some s => exact avoids_ok _

/-- What an operation needs so that it does not fail with an error. -/
structure Operation.Passes (chess : ChessEngine) (kind : DatabaseErrorKind) (db : Db)
    (op : Operation) : Prop where
  lock : ∀ id ∈ op.gameId, ∀ observation ∈ op.observation,
    Avoids kind (db.lockGameClock id observation)
  allocation : kind = .unknown → ∀ input, op = .allocate input → (newGameRow input).integersFit
  clocks : kind = .unknown → ∀ input observation, op = .submitMove input observation →
    input.ClocksFit chess db observation
  timely : kind = .constraint → op.EndsTimely chess db

theorem execute_not_failsWith (hk : kind ≠ .unique) (h : db.Checked) (hroom : db.Roomy kind)
    {op : Operation} (hop : op.Served chess.engine) (hpass : op.Passes chess.engine kind db) :
    ¬ (execute chess.engine db op).1.failsWith kind := by
  have hends := hpass.timely
  cases op with
  | session operation => exact id
  | allocate input =>
    obtain ⟨_,htime,hinc,_,_,_⟩ := hop.arguments
    simp only [execute,Db.allocate]
    split_ifs with hd
    · exact fun hfails => by cases hfails
    · exact Db.answered_avoids (allocateInTransaction_avoids hk h hd htime hinc fun hk =>
        hpass.allocation hk input rfl) _
  | markReady input =>
    exact Db.answered_avoids (markReadyInTransaction_avoids chess.engine h hroom input) _
  | startIfReady gameId observation =>
    exact Db.answered_avoids (startIfReadyInTransaction_avoids chess.engine h hroom
      (hpass.lock gameId rfl observation rfl)) _
  | submitMove input observation =>
    exact Db.answered_avoids (submitInTransaction_avoids hk h hroom
      (hpass.lock _ rfl observation rfl) (fun hk => hpass.clocks hk input observation rfl) hends) _
  | recoverMove input => exact recoverMove_avoids hk input
  | resign input observation =>
    exact Db.answered_avoids (resignInTransaction_avoids chess.engine hk h hroom
      (hpass.lock _ rfl observation rfl) hends) _
  | recoverResignation input => exact recoverResignation_avoids hk input
  | terminateForReset guest assignment observation =>
    exact Db.answered_avoids (terminateForResetInTransaction_avoids chess.engine h hroom
      (fun id hid => hpass.lock id hid observation rfl) hends) _
  | markDisconnected guest assignment graceMs observation =>
    exact Db.answered_avoids (markDisconnectedInTransaction_avoids chess.engine h hroom
      hop.arguments fun id hid => hpass.lock id hid observation rfl) _
  | markReconnected guest assignment observation =>
    exact Db.answered_avoids (markReconnectedInTransaction_avoids chess.engine h hroom
      fun id hid => hpass.lock id hid observation rfl) _
  | adjudicateTimeout gameId observation =>
    refine Db.answered_avoids (adjudicate_avoids chess.engine h hroom rfl (fun g => ?_)
      (timeoutEvent_judgesLive observation) (hpass.lock gameId rfl observation rfl) hends) _
    exact Option.map_map _ _ _
  | adjudicateNoShow gameId observation =>
    refine Db.answered_avoids (adjudicate_avoids chess.engine h hroom rfl (fun g => ?_)
      (noShowEvent_judgesLive observation) (hpass.lock gameId rfl observation rfl) hends) _
    exact Option.map_map _ _ _
  | adjudicateAbandonment gameId absent observation =>
    refine Db.answered_avoids (adjudicate_avoids chess.engine h hroom rfl (fun g => ?_)
      (abandonmentEvent_judgesLive absent observation) (hpass.lock gameId rfl observation rfl)
      hends) _
    exact Option.map_map _ _ _

/-- An operation that is not observed too early passes every constraint. -/
theorem execute_not_refused (h : db.Checked) {op : Operation} (hop : op.Served chess.engine)
    (hends : op.EndsTimely chess.engine db) (hrevokes : op.RevokesTimely db) :
    ¬ (execute chess.engine db op).1.refusedByCheck := by
  have hroom : db.Roomy .constraint := nofun
  have hpass : op.Passes chess.engine .constraint db :=
    ⟨fun id _ observation _ => Db.lockGameClock_avoids db id observation,nofun,nofun,fun _ => hends⟩
  have hgames := execute_not_failsWith (by decide) h hroom hop hpass
  cases op with
  | session operation =>
    cases operation with
    | create existing input =>
      exact Db.sessionTransaction_avoids (Db.createSession_avoids hop.arguments)
    | renew existing input =>
      exact Db.sessionTransaction_avoids (Db.renewSession_avoids hop.arguments)
    | reset existing input =>
      exact Db.sessionTransaction_avoids (Db.resetSession_avoids h.sessions hrevokes)
    | cleanupExpired cutoff limit locked => exact id
  | _ => exact hgames

end Refused

/-- A reset that is observed a millisecond before the start of the game that it ends commits. -/
def sampleEarlyReset : Operation := .terminateForReset (sampleId 1) (some (sampleId 10)) 4999000

/-- A renewal, and a reset that was received before it. -/
def sampleRenewal : Operation :=
  .session (.renew none ⟨sampleId 1,"renewal",⟨sampleId 40,6000,10000000⟩⟩)

def sampleEarlyRevocation : Operation := .session (.reset none ⟨sampleId 1,"reset",5999⟩)

def sampleDb (operations : List Operation) : Db :=
  (repositories sampleChess.engine).run (.initial sampleSessions .empty) operations

/-- No transaction is aborted by a constraint in a run of served operations in which no game is
ended by an operation that was observed before its start, and no session is revoked at an instant
before its tokens were issued. -/
theorem timely_transactions_pass_constraints {chess : ChessJs}
    {guestSessions : Table GuestSession.id} {sessionCommands : Table SessionCommand.idempotencyHash}
    {operations : List Operation} (hsessions : ∀ session ∈ guestSessions.rows, session.rowChecks)
    (hserved : ∀ op ∈ operations, op.Served chess.engine)
    (htimely : ∀ e ∈ (repositories chess.engine).events
      (.initial guestSessions sessionCommands) operations,
        e.input.EndsTimely chess.engine e.before ∧ e.input.RevokesTimely e.before) :
    ∀ e ∈ (repositories chess.engine).events (.initial guestSessions sessionCommands) operations,
      ¬ e.answer.refusedByCheck := by
  intro e he
  obtain ⟨hends,hrevokes⟩ := htimely e he
  obtain ⟨before,later,hsplit,hevent⟩ := Machine.mem_events_split _ he
  have hbefore : ∀ op ∈ before, op.Served chess.engine := fun op hop =>
    hserved op (hsplit ▸ List.mem_append_left _ hop)
  have hop : e.input.Served chess.engine :=
    hserved _ (hsplit ▸ List.mem_append_right _ List.mem_cons_self)
  have hreachable : e.before.ServedReachable chess.engine := by
    rw [hevent]
    exact ⟨guestSessions,sessionCommands,before,hsessions,hbefore,rfl⟩
  have hanswer : e.answer = (execute chess.engine e.before e.input).1 := by
    rw [hevent]
    rfl
  rw [hanswer]
  exact execute_not_refused hreachable.checked hop hends hrevokes

section Sample

theorem sampleStart_served : ∀ op ∈ sampleStart, op.Served sampleChess.engine :=
  fun op hop => samplePlay_served op (List.mem_append_left _ hop)

theorem sampleReset_served (observation : Micros) (h : Micros.isInstant observation) :
    (Operation.terminateForReset (sampleId 1) (some (sampleId 10)) observation).Served
      sampleChess.engine := .of_observation trivial rfl h

/-- White resets half a second after the reply of black. -/
def samplePlayReset : List Operation :=
  samplePlay ++ [.terminateForReset (sampleId 1) (some (sampleId 10)) 9500000]

theorem samplePlayReset_served : ∀ op ∈ samplePlayReset, op.Served sampleChess.engine := by
  intro op hop
  rcases List.mem_append.mp hop with hop | hop
  · exact samplePlay_served op hop
  · rw [List.mem_singleton.mp hop]
    exact sampleReset_served _ ⟨by decide,by decide⟩

end Sample

theorem timely_transactions_pass_constraints_sample :
    ¬ ∃ e ∈ (repositories sampleChess.engine).events (.initial sampleSessions .empty)
      samplePlayReset, e.answer.refusedByCheck := by
  have hpass := @timely_transactions_pass_constraints sampleChess sampleSessions .empty samplePlayReset
    (by decide) samplePlayReset_served (by decide)
  exact fun ⟨e,he,hrefused⟩ => hpass e he hrefused

/-- Both constraints refuse a transaction that was observed before the one it waited for. -/
theorem early_transactions_refused :
    ((sampleDb sampleStart).ServedReachable sampleChess.engine ∧
      sampleEarlyReset.Served sampleChess.engine ∧
      (execute sampleChess.engine (sampleDb sampleStart) sampleEarlyReset).1.refusedByCheck) ∧
    (sampleDb [sampleRenewal]).ServedReachable sampleChess.engine ∧
      sampleEarlyRevocation.Served sampleChess.engine ∧
      (execute sampleChess.engine (sampleDb [sampleRenewal])
        sampleEarlyRevocation).1.refusedByCheck := by
  have hrenewal : ∀ op ∈ [sampleRenewal], op.Served sampleChess.engine := by
    intro op hop
    rw [List.mem_singleton.mp hop]
    exact ⟨(by decide : (6000 : ℤ) < 10000000),nofun⟩
  refine ⟨⟨?_,?_,rfl⟩,?_,⟨trivial,nofun⟩,rfl⟩
  · exact ⟨sampleSessions,.empty,sampleStart,by decide,sampleStart_served,rfl⟩
  · exact sampleReset_served _ ⟨by decide,by decide⟩
  · exact ⟨sampleSessions,.empty,[sampleRenewal],by decide,hrenewal,rfl⟩

end CluChess
