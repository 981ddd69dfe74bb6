import CluChess.ChessJsEngine
import CluChess.ClockAgreement
import CluChess.DurableDatabase

/-! The history of a game: the stored moves are a gapless sequence of positions that the engine
replays, and every stored acknowledgement of a move passes the schema that reads it back. -/
namespace CluChess

def turnAt (plies : ℕ) : PlayerColor := if plies % 2 = 0 then .w else .b

@[simp] theorem turnAt_succ (plies : ℕ) : turnAt (plies + 1) = oppositeColor (turnAt plies) := by
  unfold turnAt
  by_cases h : plies % 2 = 0
  · have hodd : (plies + 1) % 2 ≠ 0 := by omega
    rw [if_pos h,if_neg hodd]
    rfl
  · have heven : (plies + 1) % 2 = 0 := by omega
    rw [if_neg h,if_pos heven]
    rfl

/-- The positions of the moves lead from the first FEN to the last. -/
def FenChain : String → List MoveRow → String → Prop
  | initial, [], current => current = initial
  | initial, r :: rows, current => r.fenBefore = initial ∧ FenChain r.fenAfter rows current

theorem FenChain.append {rows : List MoveRow} {initial current : String} {r : MoveRow}
    (h : FenChain initial rows current) (hr : r.fenBefore = current) :
    FenChain initial (rows ++ [r]) r.fenAfter := by
  induction rows generalizing initial with
  | nil =>
    cases h
    exact ⟨hr,rfl⟩
  | cons first rows ih => exact ⟨h.1,ih h.2⟩

theorem FenChain.head {rows : List MoveRow} {initial current : String} {r : MoveRow}
    (h : FenChain initial rows current) (hr : rows[0]? = some r) : r.fenBefore = initial := by
  cases rows with
  | nil => cases hr
  | cons first rows =>
    cases hr
    exact h.1

theorem FenChain.next {rows : List MoveRow} {initial current : String} {r r' : MoveRow} {k : ℕ}
    (h : FenChain initial rows current) (hr : rows[k]? = some r) (hr' : rows[k+1]? = some r') :
    r'.fenBefore = r.fenAfter := by
  induction rows generalizing initial k with
  | nil => cases hr
  | cons first rows ih =>
    cases k with
    | zero =>
      cases hr
      exact h.2.head hr'
    | succ k => exact ih h.2 hr hr'

theorem FenChain.last {rows : List MoveRow} {initial current : String}
    (h : FenChain initial rows current) :
    current = (rows.getLast?.map MoveRow.fenAfter).getD initial := by
  induction rows generalizing initial with
  | nil => exact h
  | cons first rows ih =>
    rw [ih h.2,List.getLast?_cons]
    cases rows.getLast? <;> rfl

theorem orderedInsert_last {rows : List MoveRow} {r : MoveRow} (h : ∀ x ∈ rows, x.ply < r.ply) :
    rows.orderedInsert (fun a b => a.ply ≤ b.ply) r = rows ++ [r] := by
  induction rows with
  | nil => rfl
  | cons first rows ih =>
    have hfirst : ¬ r.ply ≤ first.ply := not_le.mpr (h first List.mem_cons_self)
    rw [List.orderedInsert,if_neg hfirst,ih fun x hx => h x (List.mem_cons_of_mem first hx)]
    rfl

def GameStatus.unstarted : GameStatus → Bool
  | .waitingForPlayers | .ready => true
  | _ => false

@[simp] theorem TerminalStatus.toGameStatus_unstarted (s : TerminalStatus) :
    s.toGameStatus.unstarted = false := by cases s <;> rfl

/-- What holds of the moves of a game in every reachable database. -/
structure PersistedGame.History (chess : ChessJs) (g : PersistedGame) : Prop where
  plies : ∀ k r, g.moves[k]? = some r → r.ply = k + 1
  colors : ∀ k r, g.moves[k]? = some r → r.color = turnAt k
  chain : FenChain g.initialFen g.moves g.currentFen
  turn : g.turnColor = turnAt g.moves.length
  unstarted : g.status.unstarted = true → g.moves = []
  initialText : g.initialFen ≠ ""
  replayed : ∃ position, chess.replayHistory g.initialFen (g.moves.map MoveRow.uci) = .ok position ∧
    chess.fen position = g.currentFen ∧ chess.turn position = g.turnColor

namespace PersistedGame

variable {chess : ChessJs} {g g' : PersistedGame}

/-- The fields of a row that only a move writes. -/
structure SamePosition (g g' : PersistedGame) : Prop where
  initialFen : g'.initialFen = g.initialFen
  currentFen : g'.currentFen = g.currentFen
  turnColor : g'.turnColor = g.turnColor
  moves : g'.moves = g.moves
  unstarted : g'.status.unstarted = true → g.status.unstarted = true

theorem History.congr (h : g.History chess) (hs : SamePosition g g') : g'.History chess where
  plies := by rw [hs.moves]; exact h.plies
  colors := by rw [hs.moves]; exact h.colors
  chain := by rw [hs.moves,hs.initialFen,hs.currentFen]; exact h.chain
  turn := by rw [hs.moves,hs.turnColor]; exact h.turn
  unstarted hu := by rw [hs.moves]; exact h.unstarted (hs.unstarted hu)
  initialText := by rw [hs.initialFen]; exact h.initialText
  replayed := by rw [hs.moves,hs.initialFen,hs.currentFen,hs.turnColor]; exact h.replayed

theorem History.contiguous (h : g.History chess) : hasContiguousHistory g = true := by
  unfold hasContiguousHistory
  rw [List.all_eq_true]
  rintro ⟨r,k⟩ hr
  exact decide_eq_true (h.plies k r (List.mem_zipIdx_iff_getElem?.mp hr))

theorem History.ply_lt (h : g.History chess) {r : MoveRow} (hr : r ∈ g.moves) :
    r.ply < g.moves.length + 1 := by
  obtain ⟨k,hk⟩ := List.mem_iff_getElem?.mp hr
  have hlt : k < g.moves.length := (List.getElem?_eq_some_iff.mp hk).1
  have hply := h.plies k r hk
  omega

end PersistedGame

@[simp] theorem ended_unstarted (g : PersistedGame) (observation : Micros)
    (outcome : TerminalOutcome) : (g.ended observation outcome).status.unstarted = false :=
  outcome.status.toGameStatus_unstarted

theorem samePosition_ended (g : PersistedGame) (observation : Micros)
    (outcome : TerminalOutcome) : g.SamePosition (g.ended observation outcome) :=
  ⟨rfl,rfl,rfl,rfl,fun hu => by simp at hu⟩

/-- What an operation writes is the row of a move, or keeps the position and the
acknowledgements of the moves. -/
theorem Writes.position {engine : ChessEngine} {g g' : PersistedGame} {op : Operation}
    {answer : Answer} (h : Writes engine g op answer g') :
    (∃ (m : AdmittedMove) (guests : GuestSessionId × GuestSessionId) (observation : Micros),
      m.game = g ∧ op = .submitMove m.input observation ∧
      m.observedAt = truncatedToMillis observation ∧ m.Admitted engine guests ∧
      g' = m.row guests) ∨
    g.SamePosition g' ∧ ∀ c ∈ g'.commands, c.commandType = .move → c ∈ g.commands := by
  cases h with
  | submitMove hg _ ho hm => exact Or.inl ⟨_,_,_,hg,rfl,ho,hm,rfl⟩
  | join _ => exact Or.inr ⟨⟨rfl,rfl,rfl,rfl,fun hu => hu⟩,fun _ hc _ => hc⟩
  | ready _ hs =>
    exact Or.inr ⟨⟨rfl,rfl,rfl,rfl,fun _ => by rw [hs]; rfl⟩,fun _ hc _ => hc⟩
  | startIfReady _ => exact Or.inr ⟨⟨rfl,rfl,rfl,rfl,fun hu => by cases hu⟩,fun _ hc _ => hc⟩
  | @resign input _ observation outcome _ _ _ _ _ =>
    have hended := samePosition_ended g observation outcome
    refine Or.inr ⟨⟨rfl,rfl,rfl,rfl,hended.unstarted⟩,fun c hc ht => ?_⟩
    rcases List.mem_append.mp hc with hc | hc
    · exact hc
    · rw [List.mem_singleton.mp hc] at ht
      cases ht
  | reset _ _ _ => exact Or.inr ⟨samePosition_ended g _ _,fun _ hc _ => hc⟩
  | adjudicate _ _ _ => exact Or.inr ⟨samePosition_ended g _ _,fun _ hc _ => hc⟩
  | leave _ _ => exact Or.inr ⟨⟨rfl,rfl,rfl,rfl,fun hu => hu⟩,fun _ hc _ => hc⟩
  | disconnect _ _ => exact Or.inr ⟨⟨rfl,rfl,rfl,rfl,fun hu => by cases hu⟩,fun _ hc _ => hc⟩
  | reconnect _ _ =>
    refine Or.inr ⟨⟨rfl,rfl,rfl,rfl,fun hu => ?_⟩,fun _ hc _ => hc⟩
    simp only [PersistedGame.resumed] at hu
    split_ifs at hu <;> cases hu

/-- A move of the engine extends the history by one row. -/
theorem AdmittedMove.Admitted.history {chess : ChessJs} (rules : chess.Rules) {m : AdmittedMove}
    {guests : GuestSessionId × GuestSessionId} (hm : m.Admitted chess.engine guests)
    (h : m.game.History chess) : (m.row guests).History chess := by
  obtain ⟨_,hturn,_,_,_,hev,hcolor⟩ := admitMove_ok hm.admitted
  obtain ⟨before,after,he⟩ := ChessJs.evaluateMove_ok rules hev
  have hrowply : m.moveRow.ply = m.game.moves.length + 1 :=
    he.ply.trans (congrArg (· + 1) (List.length_map _))
  have hmoves : (m.row guests).moves = m.game.moves ++ [m.moveRow] :=
    orderedInsert_last fun x hx => hrowply ▸ h.ply_lt hx
  have hplayer : m.player.color = turnAt m.game.moves.length := hturn.symm.trans h.turn
  have hget : ∀ k r, (m.row guests).moves[k]? = some r →
      m.game.moves[k]? = some r ∨ (k = m.game.moves.length ∧ r = m.moveRow) := by
    intro k r hr
    rw [hmoves,List.getElem?_append] at hr
    split_ifs at hr with hlt
    · exact Or.inl hr
    · have hk : k - m.game.moves.length = 0 := by
        by_contra hne
        rw [List.getElem?_eq_none (by simp; omega)] at hr
        cases hr
      rw [hk] at hr
      cases hr
      exact Or.inr ⟨by omega,rfl⟩
  constructor
  · intro k r hr
    rcases hget k r hr with hr | ⟨rfl,rfl⟩
    · exact h.plies k r hr
    · exact hrowply
  · intro k r hr
    rcases hget k r hr with hr | ⟨rfl,rfl⟩
    · exact h.colors k r hr
    · exact hplayer
  · rw [hmoves]
    exact h.chain.append he.fenBefore
  · rw [hmoves,List.length_append]
    show oppositeColor m.player.color = _
    rw [hplayer]
    exact (turnAt_succ _).symm
  · intro hu
    rw [AdmittedMove.row_status] at hu
    cases hterminal : m.terminal with
    | some t =>
      simp [hterminal] at hu
    | none =>
      rcases (admitMove_ok hm.admitted).1 with hs | hs <;>
        simp [hterminal,hs,GameStatus.unstarted] at hu
  · exact h.initialText
  · refine ⟨after,?_,he.fenAfter.symm,?_⟩
    · rw [hmoves,List.map_append]
      exact he.extended
    · rw [he.turn,hcolor]
      rfl

section Acknowledgements

/-! The stored acknowledgement of a move passes the schema that a replay reads it with. -/

variable {chess : ChessJs} {g : PersistedGame}

/-- What the acknowledgements of a game rest on. -/
structure PersistedGame.Acknowledged (g : PersistedGame) : Prop where
  id : isUuidV4 g.id = true
  guests : ∀ p ∈ g.players, isUuidV4 p.guestSessionId = true
  played : g.moves.length ≤ g.version
  commands : ∀ c ∈ g.commands, c.commandType = .move → persistedSubmissionSchema c.response ≠ none

theorem isNonnegativeInt_of_le {n : ℤ} (h : 0 ≤ n) (hb : n ≤ 9007199254740991) :
    isNonnegativeInt n = true := by
  have habs : n.natAbs ≤ 9007199254740991 := by omega
  simp [isNonnegativeInt,isSafeInteger,habs,h]

theorem isNonnegativeInt_of_fits {n : ℤ} (h : 0 ≤ n) (hf : fitsInteger n) :
    isNonnegativeInt n = true := isNonnegativeInt_of_le h (hf.2.trans (by decide))

theorem gameplayClockSchema_of_row (hf : g.integersFit) (hc : g.rowChecks) {observation : Micros}
    (ho : Micros.isInstant observation) (running : Option PlayerColor) : gameplayClockSchema
      ⟨g.blackClockMs,truncatedToMillis observation,running,g.whiteClockMs⟩ = true := by
  obtain ⟨_,_,_,hwhite,hblack⟩ := hf
  obtain ⟨⟨_,_,hw,hb⟩,_⟩ := hc
  have hobserved : isNonnegativeInt (truncatedToMillis observation) = true :=
    isNonnegativeInt_of_le (Int.ediv_nonneg ho.1 (by decide)) (ho.2.trans (by decide))
  simp [gameplayClockSchema,isNonnegativeInt_of_fits hb hblack,isNonnegativeInt_of_fits hw hwhite,
    hobserved]

theorem guestTupleSchema_of_pair (h : g.Acknowledged) {guests : GuestSessionId × GuestSessionId}
    (hp : guestPair g = some guests) : guestTupleSchema guests = true := by
  unfold guestPair at hp
  split at hp
  · rename_i first second hplayers
    cases hp
    have hfirst := h.guests first (by simp [hplayers])
    have hsecond := h.guests second (by simp [hplayers])
    simp [guestTupleSchema,hfirst,hsecond]
  · cases hp

theorem AdmittedMove.row_version (m : AdmittedMove) (guests : GuestSessionId × GuestSessionId) :
    (m.row guests).version = m.resultVersion := by
  unfold AdmittedMove.resultVersion AdmittedMove.startedVersion
  show m.game.version + (if m.game.status = .ready then 2 else 1) = _
  split_ifs <;> rfl

theorem AdmittedMove.startedVersion_le (m : AdmittedMove)
    (guests : GuestSessionId × GuestSessionId) : m.startedVersion ≤ (m.row guests).version := by
  rw [m.row_version]
  exact Nat.le_succ _

/-- The submission of a served move passes the schema it is stored under. -/
theorem AdmittedMove.Admitted.acknowledgement (rules : chess.Rules) {m : AdmittedMove}
    {guests : GuestSessionId × GuestSessionId} (hm : m.Admitted chess.engine guests)
    (hh : m.game.History chess) (ha : m.game.Acknowledged)
    (hgame : m.game.integersFit ∧ m.game.rowChecks)
    (hrow : (m.row guests).integersFit ∧ (m.row guests).rowChecks) {observation : Micros}
    (ho : m.observedAt = truncatedToMillis observation) (hinstant : Micros.isInstant observation)
    (hid : isUuidV4 m.input.clientMoveId = true) :
    persistedSubmissionSchema (persistedSubmission (m.submission guests)) ≠ none := by
  obtain ⟨_,_,_,_,_,hev,_⟩ := admitMove_ok hm.admitted
  obtain ⟨_,after,he⟩ := ChessJs.evaluateMove_ok rules hev
  have hfen : m.evaluation.applied.fenAfter ≠ "" := he.fenAfter ▸ rules.fenText after
  have hlength : m.evaluation.applied.plyNumber = m.game.moves.length + 1 :=
    he.ply.trans (congrArg (· + 1) (List.length_map _))
  have hpositive : 0 < m.evaluation.applied.plyNumber := hlength ▸ Nat.succ_pos _
  have hversion : ((m.row guests).version : ℤ) ≤ 9007199254740991 := hrow.1.1.2.trans (by decide)
  have hresult : isNonnegativeInt m.resultVersion = true := by
    rw [← m.row_version guests]
    exact isNonnegativeInt_of_fits (Int.natCast_nonneg _) hrow.1.1
  have hstarted : isNonnegativeInt m.startedVersion = true :=
    isNonnegativeInt_of_le (Int.natCast_nonneg _)
      ((Int.ofNat_le.mpr (m.startedVersion_le guests)).trans hversion)
  have hplyInt : isNonnegativeInt (m.evaluation.applied.plyNumber : ℤ) = true := by
    refine isNonnegativeInt_of_le (Int.natCast_nonneg _) (le_trans (Int.ofNat_le.mpr ?_) hversion)
    have hplayed := ha.played
    rw [hlength,m.row_version,AdmittedMove.resultVersion,AdmittedMove.startedVersion]
    split_ifs <;> omega
  have hclocks : gameplayClockSchema m.clocks = true := by
    have h := gameplayClockSchema_of_row hrow.1 hrow.2 hinstant m.clocks.running
    rw [← ho] at h
    exact h
  have haccepted : acceptedMoveSchema m.accepted = true := by
    simp [acceptedMoveSchema,AdmittedMove.accepted,hid,hclocks,isNonempty,hfen,ha.id,hresult,hplyInt,
      hpositive,he.san,he.uci]
  have hended : m.ended.all endedGameSchema = true := by
    unfold AdmittedMove.ended
    cases m.terminal with
    | none => rfl
    | some t => simp [endedGameSchema,hclocks,isNonempty,hfen,ha.id,hresult]
  have hstart : m.started.all startedGameSchema = true := by
    have h := gameplayClockSchema_of_row hgame.1 hgame.2 hinstant (some .w)
    rw [← ho] at h
    unfold AdmittedMove.started
    split_ifs
    · simp [startedGameSchema,h,ha.id,hstarted,isNonempty,hh.initialText]
    · rfl
  have hguests := guestTupleSchema_of_pair ha hm.pair
  simp [persistedSubmissionSchema,persistedSubmission,AdmittedMove.submission,haccepted,hended,
    hstart,hguests]

end Acknowledgements

section Reachable

variable {chess : ChessJs} {db : Db} {g g' : PersistedGame}

structure PersistedGame.Recorded (chess : ChessJs) (g : PersistedGame) : Prop where
  history : g.History chess
  acknowledged : g.Acknowledged

theorem newGameRow_recorded (rules : chess.Rules) {input : AllocateGame}
    (h : (Operation.allocate input).argumentsServed chess.engine) :
    (newGameRow input).Recorded chess := by
  obtain ⟨⟨initial,hnew,hfen,_⟩,_,_,hid,hwhite,hblack⟩ := h
  obtain ⟨position,hreplay,hposition,hturn⟩ := ChessJs.newGame_ok rules hnew
  constructor
  · refine ⟨by simp [newGameRow],by simp [newGameRow],rfl,rfl,fun _ => rfl,?_,position,?_,?_,hturn⟩
    · show input.initialFen ≠ ""
      rw [hfen,← hposition]
      exact rules.fenText position
    · show chess.replayHistory input.initialFen [] = .ok position
      rw [hfen]
      exact hreplay
    · exact hposition.trans hfen.symm
  · refine ⟨hid,?_,le_refl 0,by simp [newGameRow]⟩
    intro p hp
    simp only [newGameRow,List.mem_cons,List.not_mem_nil,or_false] at hp
    rcases hp with rfl | rfl
    · exact hwhite
    · exact hblack

theorem guests_served_of_seats (h : g'.players.map GamePlayer.seat = g.players.map GamePlayer.seat)
    (hg : ∀ p ∈ g.players, isUuidV4 p.guestSessionId = true) :
    ∀ p ∈ g'.players, isUuidV4 p.guestSessionId = true := by
  intro p hp
  obtain ⟨q,hq,he⟩ := (mem_guests_iff h p.guestSessionId).mp ⟨p,hp,rfl⟩
  rw [← he]
  exact hg q hq

/-- What a served operation writes keeps the invariants of the row. -/
theorem Writes.recorded (rules : chess.Rules) {op : Operation} {answer : Answer}
    (h : Writes chess.engine g op answer g') (hc : GameChange chess.engine g g')
    (hop : op.Served chess.engine) (hg : g.Recorded chess) (hold : g.integersFit ∧ g.rowChecks)
    (hnew : g'.integersFit ∧ g'.rowChecks) : g'.Recorded chess := by
  have hid : isUuidV4 g'.id = true := hc.id_eq ▸ hg.acknowledged.id
  have hguests := guests_served_of_seats hc.seats_eq hg.acknowledged.guests
  rcases h.position with ⟨m,guests,observation,rfl,rfl,ho,hm,rfl⟩ | ⟨hs,hcommands⟩
  · have hinstant : Micros.isInstant observation := hop.observed observation rfl
    have hack := hm.acknowledgement rules hg.history hg.acknowledged hold hnew ho hinstant
      hop.arguments
    refine ⟨hm.history rules hg.history,hid,hguests,?_,fun c hmem ht => ?_⟩
    · have hlt := m.version_lt guests
      have hplayed := hg.acknowledged.played
      have hlength : (m.row guests).moves.length = m.game.moves.length + 1 :=
        List.orderedInsert_length _ _ _
      omega
    · rcases List.mem_append.mp hmem with hc | hc
      · exact hg.acknowledged.commands c hc ht
      · rw [List.mem_singleton.mp hc]
        exact hack
  · exact ⟨hg.history.congr hs,hid,hguests,hs.moves ▸ hg.acknowledged.played.trans hc.version_le,
      fun c hmem ht => hg.acknowledged.commands c (hcommands c hmem ht) ht⟩

def Db.Recorded (chess : ChessJs) (db : Db) : Prop :=
  ∀ id g, db.games.find id = some g → g.Recorded chess

theorem execute_recorded (rules : chess.Rules) (hr : db.Reachable chess.engine) {op : Operation}
    (hop : op.Served chess.engine) (h : db.Recorded chess) :
    (execute chess.engine db op).2.Recorded chess := by
  intro id g hg
  have hafter : (execute chess.engine db op).2.RowsChecked := (hr.run [op]).rowsChecked
  cases execute_outcome chess.engine db op with
  | session _ _ hdb => exact h id g ((Outcome.frame_session hdb).1 ▸ hg)
  | kept hdb _ => exact h id g (hdb ▸ hg)
  | allocated hinput hd hnew _ =>
    rw [hnew.find] at hg
    split_ifs at hg
    · cases hg
      exact newGameRow_recorded rules (hinput ▸ hop.arguments)
    · exact h id g hg
  | @wrote key g₁ g₂ _ hid hw hwrites =>
    have hold := hr.rowsChecked key g₁ hw.found
    have hnew := hafter key g₂ hw.find_self
    rw [hw.find] at hg
    split_ifs at hg
    · cases hg
      exact hwrites.recorded rules hw.change hop (h key g₁ hw.found) hold hnew
    · exact h id g hg

theorem Db.ServedReachable.recorded (rules : chess.Rules)
    (h : db.ServedReachable chess.engine) : db.Recorded chess :=
  h.invariant (fun _ _ _ _ _ hg => by simp [Db.initial] at hg)
    fun _ _ hr hop hdb => execute_recorded rules hr hop hdb

end Reachable

section Corrupt

/-! No check of a submission finds the state of the game corrupt. -/

/-- A clock whose durations are those of a row, and that runs from a valid date or not at all. -/
structure GameClock.Consistent (clock : GameClock) : Prop where
  white : 0 ≤ clock.whiteMs ∧ fitsInteger clock.whiteMs
  black : 0 ≤ clock.blackMs ∧ fitsInteger clock.blackMs
  increment : 0 ≤ clock.incrementMs ∧ fitsInteger clock.incrementMs
  runs : (clock.running = none ∧ clock.turnStartedAt = none) ∨
    ∃ color started, clock.running = some color ∧ clock.turnStartedAt = some (.valid started)

variable {clock : GameClock}

theorem GameClock.Consistent.assertClock (h : clock.Consistent) : assertClock clock = .ok () := by
  unfold CluChess.assertClock
  rw [assertDuration_ok "whiteMs" h.white.2 h.white.1,
    assertDuration_ok "blackMs" h.black.2 h.black.1,
    assertDuration_ok "incrementMs" h.increment.2 h.increment.1]
  rcases h.runs with ⟨hr,ht⟩ | ⟨color,started,hr,ht⟩ <;> rw [hr,ht] <;> rfl

theorem GameClock.Consistent.remaining (h : clock.Consistent) (color : PlayerColor) :
    0 ≤ remainingFor clock color ∧ fitsInteger (remainingFor clock color) := by
  cases color with
  | w => exact h.white
  | b => exact h.black

/-- The mover's own running clock admits the move or flags the mover. -/
theorem admitMoveOnClock_defined (h : clock.Consistent) {color : PlayerColor}
    {started : Millis} (hr : clock.running = some color)
    (ht : clock.turnStartedAt = some (.valid started)) (observedAt : Millis) :
    ∃ admission, admitMoveOnClock clock color (.valid observedAt) = .ok admission := by
  have hrunning : requireRunning clock = .ok color := by
    unfold requireRunning
    rw [h.assertClock,hr]
    rfl
  have helapsed : elapsedAt clock (.valid observedAt) = .ok (max 0 (observedAt - started)) := by
    unfold elapsedAt
    rw [ht]
    rfl
  unfold admitMoveOnClock
  rw [hrunning]
  simp only [bind,Except.bind,ne_eq,not_true_eq_false,if_false,helapsed]
  split_ifs with hflag
  · exact ⟨_,rfl⟩
  · have hsum : isSafeInteger (remainingFor clock color - max 0 (observedAt - started) +
        clock.incrementMs) = true := by
      have hremaining := (h.remaining color).2.2
      have hincrement := h.increment
      have hinc := hincrement.2.2
      have hle : 0 ≤ max 0 (observedAt - started) := le_max_left 0 _
      unfold isSafeInteger
      rw [decide_eq_true_eq]
      omega
    simp only [checkedAdd,hsum,if_true]
    exact ⟨_,rfl⟩

variable {chess : ChessJs} {g : PersistedGame}

theorem baseClock_consistent (hf : g.integersFit) (hc : g.rowChecks) (hs : g.Sound)
    (hstatus : g.status = .inProgress ∨ g.status = .ready) (color : PlayerColor) :
    (baseClock g color).Consistent := by
  obtain ⟨_,_,hinc,hwhite,hblack⟩ := hf
  obtain ⟨⟨_,hi,hw,hb⟩,_⟩ := hc
  refine ⟨⟨hw,hwhite⟩,⟨hb,hblack⟩,⟨hi,hinc⟩,?_⟩
  rcases hstatus with hstatus | hstatus
  · have hturn : g.turnStartedAt.isSome = true := by rw [hs.turn,hstatus]; rfl
    obtain ⟨t,ht⟩ := Option.isSome_iff_exists.mp hturn
    exact Or.inr ⟨color,t,by simp [baseClock,hstatus],by simp [baseClock,hstatus,ht]⟩
  · exact Or.inl ⟨by simp [baseClock,hstatus],by simp [baseClock,hstatus]⟩

theorem admission_defined (hf : g.integersFit) (hc : g.rowChecks) (hs : g.Sound)
    (hstatus : g.status = .inProgress ∨ g.status = .ready) {color : PlayerColor}
    (hcolor : g.status = .ready → color = .w) (observedAt : Millis) :
    ∃ a, admission g color observedAt = .ok a := by
  have hbase := baseClock_consistent hf hc hs hstatus color
  unfold admission runningClock
  split_ifs with hready
  · obtain rfl := hcolor hready
    have hpositive : remainingFor (baseClock g .w) .w ≠ 0 := by
      have hw := (hs.clocks (by rw [hready]; rfl)).1
      exact ne_of_gt hw
    have hresume : resumeClock (baseClock g .w) .w (.valid observedAt) = .ok { baseClock g .w with
        running := some .w, turnStartedAt := some (.valid observedAt) } := by
      unfold resumeClock
      rw [hbase.assertClock]
      simp only [bind,Except.bind,assertTimestamp]
      rw [if_neg (by simp [baseClock,hready]),if_neg hpositive]
    have hresumed : GameClock.Consistent { baseClock g .w with
        running := some .w, turnStartedAt := some (.valid observedAt) } :=
      ⟨hbase.white,hbase.black,hbase.increment,Or.inr ⟨.w,observedAt,rfl,rfl⟩⟩
    rw [hresume]
    exact admitMoveOnClock_defined hresumed rfl rfl observedAt
  · have hturn : g.turnStartedAt.isSome = true := by
      rw [hs.turn,hstatus.resolve_right hready]
      rfl
    obtain ⟨t,ht⟩ := Option.isSome_iff_exists.mp hturn
    have hstarted : (baseClock g color).turnStartedAt = some (.valid t) := by
      simp [baseClock,hready,ht]
    exact admitMoveOnClock_defined hbase (by simp [baseClock,hready]) hstarted observedAt

@[simp] theorem rejected_code (code : GameServiceErrorCode) (message : String) (retryable : Bool)
    (version : Option ℕ) : (rejected code message retryable version).code = code := rfl

/-- The checks of a move never find the row corrupt. -/
theorem admitMove_not_corrupt (rules : chess.Rules) (hf : g.integersFit) (hc : g.rowChecks)
    (hs : g.Sound) (hg : g.History chess) {player : GamePlayer} {input : SubmitMove}
    {observedAt : Millis} {rejection : Rejection}
    (h : admitMove chess.engine g player input observedAt = .error rejection) :
    rejection.code ≠ .gameStateCorrupt := by
  unfold admitMove at h
  split_ifs at h with hterminal hstatus hturn hversion hhistory
  · cases h
    simp
  · cases h
    simp
  · cases h
    simp
  · cases h
    simp
  · rw [hg.contiguous] at hhistory
    cases hhistory
  have hstatus : g.status = .inProgress ∨ g.status = .ready := by
    by_cases hi : g.status = .inProgress
    · exact Or.inl hi
    · exact Or.inr (not_not.mp fun hr => hstatus ⟨hi,hr⟩)
  have hplayer : g.turnColor = player.color := not_not.mp hturn
  have hwhite : g.status = .ready → player.color = .w := by
    intro hready
    have hmoves := hg.unstarted (by rw [hready]; rfl)
    rw [← hplayer,hg.turn,hmoves]
    rfl
  obtain ⟨position,hreplay,hfen,hcolor⟩ := hg.replayed
  obtain ⟨a,ha⟩ := admission_defined hf hc hs hstatus hwhite observedAt
  rw [ha] at h
  cases a with
  | flagFall clock elapsed flagged =>
    cases h
    simp
  | accepted clock elapsed =>
    simp only at h
    cases hev : evaluate chess.engine g input.move with
    | error e =>
      have hcode : e.code = .illegalMove := ChessJs.evaluateMove_error hreplay hfen hev
      simp only [hev,hcode,if_true] at h
      cases h
      simp
    | ok evaluation =>
      obtain ⟨before,after,he⟩ := ChessJs.evaluateMove_ok rules hev
      have hbefore : before = position := Except.ok.inj (he.replayed.symm.trans hreplay)
      have hmover : evaluation.applied.color = player.color := by
        rw [he.color,hbefore,hcolor,hplayer]
      simp only [hev,hmover,ne_eq,not_true_eq_false,if_false] at h
      cases h

theorem replayResult_not_corrupt (hg : g.Acknowledged) {c : GameCommand} {input : SubmitMove}
    {rejection : Rejection} (hc : c ∈ g.commands) (h : replayResult c input = .rejected rejection) :
    rejection.code ≠ .gameStateCorrupt := by
  unfold replayResult at h
  split_ifs at h with hother
  · cases h
    simp
  · have htype : c.commandType = .move := by
      by_contra hne
      exact hother (Or.inl hne)
    obtain ⟨s,hs⟩ := Option.ne_none_iff_exists'.mp (hg.commands c hc htype)
    rw [hs] at h
    cases h

variable {db db' : Db} {input : SubmitMove} {observation : Micros}

theorem submitInTransaction_not_corrupt (rules : chess.Rules) (hs : db.Sound)
    (hc : db.RowsChecked) (hr : db.Recorded chess) {r : MoveTransactionResult}
    (h : db.submitInTransaction chess.engine input observation = .ok (r,db'))
    {rejection : Rejection} (hrej : r = .rejected rejection) :
    rejection.code ≠ .gameStateCorrupt := by
  subst hrej
  obtain ⟨locked,hl,h⟩ := bind_eq_ok.mp h
  rcases lockGameClock_ok hl with ⟨hg,rfl⟩ | ⟨g,hg,rfl⟩
  · cases h
    simp
  obtain ⟨hfits,hchecks⟩ := hc _ _ hg
  simp only [hg] at h
  cases hp : g.playerFor input.guestSessionId with
  | none =>
    simp only [hp] at h
    cases h
    simp
  | some player =>
    simp only [hp] at h
    cases hcommand : g.command input.clientMoveId with
    | some c =>
      simp only [hcommand] at h
      have hmem : c ∈ g.commands := List.mem_of_find?_eq_some hcommand
      have hreplay := congrArg Prod.fst (Except.ok.inj h)
      exact replayResult_not_corrupt (hr _ _ hg).acknowledged hmem hreplay
    | none =>
      simp only [hcommand] at h
      cases ha : admitMove chess.engine g player input (g.locked observation).observedAt with
      | error rejected =>
        simp only [ha] at h
        have hcode := admitMove_not_corrupt rules hfits hchecks (hs.games _ _ hg)
          (hr _ _ hg).history ha
        cases h
        exact hcode
      | ok admitted =>
        obtain ⟨clock,evaluation⟩ := admitted
        simp only [ha] at h
        cases ht : terminalOutcome evaluation.gameOver with
        | error e => simp [ht] at h
        | ok terminal =>
          simp only [ht] at h
          obtain ⟨p,q,hpair,_⟩ := (hs.games _ _ hg).pair
          have hid : g.id = input.gameId := Table.find_key hg
          rcases commitMove_ok (by rw [hid]; exact hg) hp hcommand ha ht h with
            ⟨hnone,_⟩ | ⟨_,_,_,he⟩
          · exact absurd ((guestPair_of_players hpair).symm.trans hnone) (by simp)
          · cases he

/-- The answer reports that the state of the game is corrupt. -/
def Answer.corrupt : Answer → Prop
  | .move (.error (.service e)) => e.code = .gameStateCorrupt
  | _ => False

theorem moveAnswer_not_corrupt {r : MoveTransactionResult}
    (h : ∀ rejection, r = .rejected rejection → rejection.code ≠ .gameStateCorrupt) :
    ¬ (Answer.move ((Db.moveAnswer r).mapError .service)).corrupt := by
  cases r with
  | accepted submission => exact fun hc => hc
  | staleWrite version => exact fun hc => by cases hc
  | rejected rejection => exact h rejection rfl

theorem execute_not_corrupt (rules : chess.Rules) (hs : db.Sound) (hc : db.RowsChecked)
    (hr : db.Recorded chess) (op : Operation) : ¬ (execute chess.engine db op).1.corrupt := by
  cases op with
  | submitMove input observation =>
    simp only [execute,Db.submitMove]
    rcases Db.transaction_cases db (db.submitInTransaction chess.engine input observation) with
      ⟨kind,ht⟩ | ⟨r,db',hw,ht⟩
    · rw [ht]
      exact fun hcorrupt => hcorrupt
    · rw [ht]
      exact moveAnswer_not_corrupt fun _ => submitInTransaction_not_corrupt rules hs hc hr hw
  | recoverMove input =>
    simp only [execute]
    cases hcommand : (db.games.find input.gameId).bind fun g => g.command input.clientMoveId with
    | none =>
      unfold Db.recoverMove Db.findReplay
      rw [hcommand]
      exact fun hcorrupt => hcorrupt
    | some c =>
      obtain ⟨g,hg,hcommand⟩ := Option.bind_eq_some_iff.mp hcommand
      rw [Db.recoverMove_of_command hg hcommand]
      have hmem : c ∈ g.commands := List.mem_of_find?_eq_some hcommand
      exact moveAnswer_not_corrupt fun _ =>
        replayResult_not_corrupt (hr _ _ hg).acknowledged hmem
  | _ => exact fun hcorrupt => hcorrupt

end Corrupt

/-- The stored moves of a game, as the engine and the services read them. -/
structure MoveHistoryIntegrity (chess : ChessJs) (g : PersistedGame) : Prop where
  plies : ∀ k r, g.moves[k]? = some r → r.ply = k + 1
  colors : ∀ k r, g.moves[k]? = some r → r.color = if k % 2 = 0 then .w else .b
  first : ∀ r, g.moves[0]? = some r → r.fenBefore = g.initialFen
  next : ∀ k r r', g.moves[k]? = some r → g.moves[k+1]? = some r' → r'.fenBefore = r.fenAfter
  current : g.currentFen = (g.moves.getLast?.map MoveRow.fenAfter).getD g.initialFen
  replayed : ∃ position, chess.engine.replay g.initialFen (g.moves.map MoveRow.uci) = .ok position ∧
    position.fen = g.currentFen ∧ position.turn = g.turnColor

theorem PersistedGame.History.integrity {chess : ChessJs} {g : PersistedGame}
    (h : g.History chess) : MoveHistoryIntegrity chess g where
  plies := h.plies
  colors := h.colors
  first _ hr := h.chain.head hr
  next _ _ _ hr hr' := h.chain.next hr hr'
  current := h.chain.last
  replayed := by
    obtain ⟨position,hreplay,hfen,hturn⟩ := h.replayed
    have hengine : chess.engine.replay g.initialFen (g.moves.map MoveRow.uci) = .ok {
        fen := chess.fen position
        gameOver := chess.getGameOver position
        pgn := chess.getPgn position (chess.getGameOver position)
        plyCount := (g.moves.map MoveRow.uci).length
        turn := chess.turn position } := by
      show chess.replay _ _ = _
      unfold ChessJs.replay
      rw [hreplay]
      rfl
    exact ⟨_,hengine,hfen,hturn⟩

/-- Move history integrity. Whatever served operations have run, the stored moves of every game
are a gapless history that the engine replays to the current position, and a submission never
answers that the state of the game is corrupt. -/
theorem move_history_integrity {chess : ChessJs} (rules : chess.Rules) {db : Db}
    (h : db.ServedReachable chess.engine) :
    (∀ g ∈ db.games.rows, MoveHistoryIntegrity chess g) ∧
      ∀ op, ¬ (execute chess.engine db op).1.corrupt := by
  have hrecorded := h.recorded rules
  constructor
  · intro g hg
    exact (hrecorded g.id g (Table.find_of_mem hg)).history.integrity
  · exact execute_not_corrupt rules h.reachable.sound h.reachable.rowsChecked hrecorded

section Sample

/-! A `chess.js` that knows the first two moves of an open game. -/

inductive SamplePosition
  | initial | e4 | e5
  deriving DecidableEq

def SamplePosition.fen : SamplePosition → String
  | .initial => sampleFen
  | .e4 => "rnbqkbnr/pppppppp/8/8/4P3/8/PPPP1PPP/RNBQKBNR b KQkq - 0 1"
  | .e5 => "rnbqkbnr/pppp1ppp/8/4p3/4P3/8/PPPP1PPP/RNBQKBNR w KQkq - 0 2"

def samplePawnMove (color : PlayerColor) (source target : String) : ChessMove :=
  ⟨false,color,false,none,target,source,target⟩

def sampleChess : ChessJs where
  Position := SamplePosition
  defaultPosition := sampleFen
  validateFen fen := if fen = sampleFen then .ok () else .error none
  load fen := if fen = sampleFen then some .initial else none
  fen := SamplePosition.fen
  turn
    | .e4 => .b
    | _ => .w
  pawnAt _ square := decide (square = "e2") || decide (square = "e7")
  move
    | .initial,source,promotion,target =>
      if source = "e2" ∧ promotion = none ∧ target = "e4" then
        some (.e4,samplePawnMove .w "e2" "e4")
      else none
    | .e4,source,promotion,target =>
      if source = "e7" ∧ promotion = none ∧ target = "e5" then
        some (.e5,samplePawnMove .b "e7" "e5")
      else none
    | .e5,_,_,_ => none
  isCheck _ := false
  isCheckmate _ := false
  isStalemate _ := false
  isInsufficientMaterial _ := false
  isThreefoldRepetition _ := false
  isDrawByFiftyMoves _ := false
  pgn
    | .initial,result => samplePgn (" " ++ result)
    | .e4,result => samplePgn ("\n1. e4 " ++ result)
    | .e5,result => samplePgn ("\n1. e4 e5 " ++ result)

theorem sampleChess_move {p p' : SamplePosition} {source target : String}
    {promotion : Option String} {m : ChessMove}
    (h : sampleChess.move p source promotion target = some (p',m)) : promotion = none ∧
      ((p = .initial ∧ source = "e2" ∧ target = "e4" ∧ p' = .e4 ∧ m = samplePawnMove .w "e2" "e4") ∨
        p = .e4 ∧ source = "e7" ∧ target = "e5" ∧ p' = .e5 ∧ m = samplePawnMove .b "e7" "e5") := by
  simp only [sampleChess] at h
  cases p with
  | initial =>
    simp only at h
    split_ifs at h with hmove
    cases h
    exact ⟨hmove.2.1,Or.inl ⟨rfl,hmove.1,hmove.2.2,rfl,rfl⟩⟩
  | e4 =>
    simp only at h
    split_ifs at h with hmove
    cases h
    exact ⟨hmove.2.1,Or.inr ⟨rfl,hmove.1,hmove.2.2,rfl,rfl⟩⟩
  | e5 => cases h

theorem sampleChess_rules : sampleChess.Rules where
  start := ⟨.initial,rfl,rfl,rfl,rfl⟩
  components {p source promotion target p' m} h := by
    rcases sampleChess_move h with ⟨rfl,⟨rfl,rfl,rfl,rfl,rfl⟩ | ⟨rfl,rfl,rfl,rfl,rfl⟩⟩
    · exact ⟨rfl,rfl,Or.inl rfl,rfl⟩
    · exact ⟨rfl,rfl,Or.inl rfl,rfl⟩
  alternates {p source promotion target p' m} h := by
    rcases sampleChess_move h with ⟨rfl,⟨rfl,rfl,rfl,rfl,rfl⟩ | ⟨rfl,rfl,rfl,rfl,rfl⟩⟩
    · exact ⟨rfl,rfl⟩
    · exact ⟨rfl,rfl⟩
  fenText p := by
    cases p <;> decide
  sanText {p source promotion target p' m} h := by
    rcases sampleChess_move h with ⟨rfl,⟨rfl,rfl,rfl,rfl,rfl⟩ | ⟨rfl,rfl,rfl,rfl,rfl⟩⟩
    · decide
    · decide

/-- Black answers e4 with e5. -/
def sampleReply : SubmitMove := ⟨sampleId 31,3,sampleId 10,sampleId 2,⟨"e7",none,"e5"⟩⟩

def samplePlay : List Operation :=
  sampleStart ++ [.submitMove sampleMove 8000000,.submitMove sampleReply 9000000]

theorem samplePlay_served : ∀ op ∈ samplePlay, op.Served sampleChess.engine := by
  have hnew : sampleChess.engine.newGame = .ok samplePosition := rfl
  have hallocate : (Operation.allocate sampleAllocation).argumentsServed sampleChess.engine :=
    ⟨⟨_,hnew,rfl,rfl⟩,by decide,by decide,by decide,by decide,by decide⟩
  simp only [samplePlay,sampleStart,sampleJoins,List.cons_append,List.nil_append,
    List.forall_mem_cons]
  refine ⟨⟨hallocate,nofun⟩,⟨trivial,nofun⟩,⟨trivial,nofun⟩,?_,?_,?_,nofun⟩
  · exact .of_observation trivial rfl ⟨by decide,by decide⟩
  · exact .of_observation (by decide : isUuidV4 (sampleId 30) = true) rfl ⟨by decide,by decide⟩
  · exact .of_observation (by decide : isUuidV4 (sampleId 31) = true) rfl ⟨by decide,by decide⟩

def samplePlayed : Db :=
  (repositories sampleChess.engine).run (.initial sampleSessions .empty) samplePlay

theorem samplePlayed_reachable : samplePlayed.ServedReachable sampleChess.engine :=
  ⟨sampleSessions,.empty,samplePlay,by decide,samplePlay_served,rfl⟩

end Sample

theorem move_history_integrity_sample : sampleChess.Rules ∧
    ∃ g ∈ samplePlayed.games.rows, g.moves.length = 2 ∧ MoveHistoryIntegrity sampleChess g := by
  have hplayed : ∃ g ∈ samplePlayed.games.rows, g.moves.length = 2 := by decide
  obtain ⟨g,hg,hlength⟩ := hplayed
  exact ⟨sampleChess_rules,g,hg,hlength,
    (move_history_integrity sampleChess_rules samplePlayed_reachable).1 g hg⟩

section Agreement

/-! What the engine says of a move that it evaluates and of the history that the move extends. -/

variable {chess : ChessJs}

theorem replay_of_history {initialFen : String} {history : List String}
    {position : chess.Position} (h : chess.replayHistory initialFen history = .ok position) :
    chess.replay initialFen history = .ok {
      fen := chess.fen position
      gameOver := chess.getGameOver position
      pgn := chess.getPgn position (chess.getGameOver position)
      plyCount := history.length
      turn := chess.turn position } := by
  unfold ChessJs.replay
  rw [h]
  rfl

theorem replay_ok {initialFen : String} {history : List String} {replayed : ReplayedPosition}
    (h : chess.replay initialFen history = .ok replayed) :
    ∃ position, chess.replayHistory initialFen history = .ok position ∧
      replayed.fen = chess.fen position := by
  obtain ⟨position,hposition,h⟩ := bind_eq_ok.mp h
  cases h
  exact ⟨position,hposition,rfl⟩

/-- The engine replays a move that it has evaluated to the position, the end of the game and the
PGN of the evaluation. A position that is not the one stored is corrupt, whatever the proposal. -/
theorem evaluation_is_replayed (rules : chess.Rules) (input : EvaluateMoveInput) :
    (∀ evaluation, chess.engine.evaluateMove input = .ok evaluation →
      chess.engine.replay input.initialFen (input.history ++ [evaluation.applied.uci]) = .ok {
        fen := evaluation.applied.fenAfter
        gameOver := evaluation.gameOver
        pgn := evaluation.pgn
        plyCount := evaluation.applied.plyNumber
        turn := oppositeColor evaluation.applied.color }) ∧
    ∀ replayed, chess.engine.replay input.initialFen input.history = .ok replayed →
      replayed.fen ≠ input.expectedCurrentFen → ∀ move,
        chess.engine.evaluateMove { input with move := move } = .error (gameStateCorrupt
          "The replayed chess position does not match the persisted current position.") := by
  constructor
  · intro evaluation h
    obtain ⟨before,after,he⟩ := ChessJs.evaluateMove_ok rules h
    have hreplay := replay_of_history he.extended
    show chess.replay input.initialFen (input.history ++ [evaluation.applied.uci]) = _
    rw [hreplay,List.length_append,List.length_singleton,← he.fenAfter,← he.gameOver,← he.pgn,
      ← he.ply,he.turn]
  · intro replayed h hne move
    obtain ⟨position,hposition,hfen⟩ := replay_ok h
    rw [hfen] at hne
    show chess.evaluateMove { input with move := move } = _
    unfold ChessJs.evaluateMove
    rw [hposition]
    exact if_pos hne

theorem evaluation_is_replayed_sample :
    sampleChess.engine.replay sampleFen ["e2e4"] = .ok {
      fen := "rnbqkbnr/pppppppp/8/8/4P3/8/PPPP1PPP/RNBQKBNR b KQkq - 0 1"
      gameOver := .ongoing
      pgn := samplePgn "\n1. e4 *"
      plyCount := 1
      turn := .b } ∧
    sampleChess.engine.evaluateMove ⟨sampleFen,["e2e4"],sampleFen,⟨"e7",none,"e5"⟩⟩ =
      .error (gameStateCorrupt
        "The replayed chess position does not match the persisted current position.") := by
  constructor
  · have hevaluated := (evaluation_is_replayed sampleChess_rules
      ⟨sampleFen,[],sampleFen,⟨"e2",none,"e4"⟩⟩).1
    exact hevaluated _ rfl
  · have hcorrupt := (evaluation_is_replayed sampleChess_rules
      ⟨sampleFen,["e2e4"],sampleFen,⟨"e7",none,"e5"⟩⟩).2
    exact hcorrupt _ rfl (by decide) _

end Agreement

end CluChess
