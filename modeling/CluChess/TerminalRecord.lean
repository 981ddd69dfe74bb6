import CluChess.MoveHistory
import CluChess.TerminalOutcome
import CluChess.WireProtocol

/-! The record of a finished game: the `Result` header of its PGN, the stored result and
termination, and the ended payloads that answer and announce its end. The board path of
`submitInTransaction` asks the engine for a PGN with the result; `finalizeTerminal` keeps the
PGN of the last move. -/
namespace CluChess

/-! ### The result header -/

def resultTagOpening : List Char := "[Result \"".toList

def resultLine (line : List Char) : Option String :=
  if resultTagOpening.isPrefixOf line then
    some (String.ofList ((line.drop resultTagOpening.length).takeWhile (· ≠ '"')))
  else none

def resultTag (pgn : String) : Option String :=
  ((pgn.toList.splitOn '\n').filterMap resultLine).head?

/-- The result that the header denotes: the stored texts are the result tokens of a PGN. -/
def headerResult (pgn : String) : Option GameResult := (resultTag pgn).bind domainResult

def resultTexts : List String := ["*","1/2-1/2","1-0","0-1"]

/-- What the record relies on of `chess.js`: a PGN carries the header that was set, and the game
is not over at the initial position. -/
structure ChessJs.ResultHeaders (chess : ChessJs) : Prop where
  header : ∀ p, ∀ result ∈ resultTexts, resultTag (chess.pgn p result) = some result
  start : ∀ p, chess.load chess.defaultPosition = some p → chess.getGameOver p = .ongoing

@[simp] theorem domainResult_persistedResult (r : GameResult) :
    domainResult (persistedResult r) = some r := by cases r <;> rfl

@[simp] theorem domainTermination_persistedTermination (t : GameTermination) :
    domainTermination (persistedTermination t) = some t := by cases t <;> rfl

/-! ### Outcomes -/

def TerminalEvent.withoutWinner : TerminalEvent → Bool
  | .abandonment absent => decide ((uniqueColors absent).length = 2)
  | .noShow joined => decide (joined = [])
  | _ => false

/-- The event that an operation other than a move derives its outcome from, in the row that it
has locked. -/
def Operation.terminalEvent (g : PersistedGame) : Operation → Option TerminalEvent
  | .resign input _ => (g.playerFor input.guestSessionId).map fun p => .resignation p.color
  | .terminateForReset guest _ _ => (g.playerFor guest).map fun p => .abandonment [p.color]
  | op => (op.adjudication g).map Prod.snd

def Operation.outcome (chess : ChessEngine) (g : PersistedGame) : Operation → Option TerminalOutcome
  | .submitMove input _ =>
    (evaluate chess g input.move).toOption.bind fun evaluation =>
      (terminalOutcome evaluation.gameOver).toOption.join
  | op => (op.terminalEvent g).bind fun event => (deriveTerminalOutcome event).toOption

def Answer.endedGames : Answer → List EndedGame
  | .move (.ok submission) => submission.ended.toList
  | .resignation (.ok submission) => [submission.ended]
  | .terminal (.ok (some submission)) => [submission.ended]
  | _ => []

section Outcomes

theorem uniqueColors_eq_nil {colors : List PlayerColor} :
    uniqueColors colors = [] ↔ colors = [] := by
  cases colors with
  | nil => simp [uniqueColors]
  | cons c rest => simp [uniqueColors,List.eraseDups_cons]

/-- An outcome that is not decided on the board is void exactly if nobody wins. -/
theorem deriveTerminalOutcome_void {event : TerminalEvent} {outcome : TerminalOutcome}
    (hboard : ∀ reason winner, event ≠ .board reason winner)
    (h : deriveTerminalOutcome event = .ok outcome) :
    outcome.result = .void ↔ event.withoutWinner = true := by
  have hwinner : ∀ color status termination,
      (winnerOutcome color status termination).result ≠ .void := by
    intro color _ _
    cases color <;> simp [winnerOutcome]
  cases event with
  | board reason winner => exact absurd rfl (hboard reason winner)
  | resignation loser =>
    cases h
    simp [TerminalEvent.withoutWinner,hwinner]
  | timeout loser =>
    cases h
    simp [TerminalEvent.withoutWinner,hwinner]
  | abandonment absent =>
    simp only [deriveTerminalOutcome,deriveAbandonment] at h
    split_ifs at h with hboth
    · cases h
      simp [TerminalEvent.withoutWinner,hboth]
    · split at h
      · cases h
      · cases h
        simp [TerminalEvent.withoutWinner,hboth,hwinner]
  | noShow joined =>
    simp only [deriveTerminalOutcome,deriveNoShow] at h
    split_ifs at h with hnone hone
    · cases h
      simpa [TerminalEvent.withoutWinner,uniqueColors_eq_nil] using hnone
    · have hjoined : joined ≠ [] := by
        rintro rfl
        exact hnone rfl
      split at h
      · cases h
      · cases h
        simp [TerminalEvent.withoutWinner,hjoined,hwinner]

/-- The header that the engine sets for a position that ends the game is the stored result. -/
theorem terminalOutcome_header {gameOver : GameOver} {outcome : TerminalOutcome}
    (h : terminalOutcome gameOver = .ok (some outcome)) :
    ChessJs.resultHeader gameOver = persistedResult outcome.result := by
  cases gameOver with
  | ongoing => cases h
  | «over» reason winner =>
    obtain ⟨outcome',h,heq⟩ := map_eq_ok.mp h
    cases heq
    simp only [deriveTerminalOutcome,deriveBoardOutcome] at h
    split_ifs at h with hmate hdraw
    · cases winner with
      | none => cases h
      | some color =>
        cases h
        cases color <;> rfl
    · have hnone : winner = none := by
        by_contra hsome
        exact hdraw (Or.inr hsome)
      cases h
      rw [hnone]
      rfl

end Outcomes

/-! ### The record of a row -/

/-- The ended payload says of a finished game what its row says, and so does its message. -/
structure PersistedGame.Reports (g : PersistedGame) (ended : EndedGame) : Prop where
  terminal : g.status.terminal = true
  gameId : ended.gameId = g.id
  gameVersion : ended.gameVersion = g.version
  finalFen : ended.finalFen = g.currentFen
  pgn : ended.pgn = g.pgn
  whiteMs : ended.clocks.whiteMs = g.whiteClockMs
  blackMs : ended.clocks.blackMs = g.blackClockMs
  observedAt : g.endedAt = some ended.clocks.observedAt
  stopped : ended.clocks.running = none ∧ g.turnStartedAt = none
  result : g.result.bind domainResult = some ended.result
  termination : g.termination.bind domainTermination = some ended.termination

def PersistedGame.announcement (g : PersistedGame) : Option ServerEventDraft := do
  let result ← g.result.bind domainResult
  let termination ← g.termination.bind domainTermination
  let endedAt ← g.endedAt
  some ⟨none,g.id,g.version,.gameEnded ⟨⟨g.blackClockMs,none,endedAt,g.whiteClockMs⟩,g.currentFen,
    g.pgn,result,termination⟩⟩

def CommandResponse.ended : CommandResponse → Option EndedGame
  | .move _ ended _ _ => ended
  | .terminal ended _ => some ended

/-- The commands of a row report no end but that of the row. -/
def PersistedGame.CommandsReport (g : PersistedGame) : Prop :=
  ∀ c ∈ g.commands, ∀ ended ∈ c.response.ended, g.Reports ended

section Reports

variable {chess : ChessEngine} {db db' : Db} {g g' : PersistedGame} {op : Operation}
  {answer : Answer}

theorem terminalSubmission_reports (g : PersistedGame) (observation : Micros)
    (outcome : TerminalOutcome) (guests : GuestSessionId × GuestSessionId) :
    (g.ended observation outcome).Reports
      (terminalSubmission g (g.locked observation) outcome guests).ended where
  terminal := ended_terminal g observation outcome
  gameId := rfl
  gameVersion := rfl
  finalFen := rfl
  pgn := rfl
  whiteMs := rfl
  blackMs := rfl
  observedAt := rfl
  stopped := ⟨rfl,rfl⟩
  result := domainResult_persistedResult outcome.result
  termination := domainTermination_persistedTermination outcome.termination

theorem PersistedGame.Reports.announcement {ended : EndedGame} (h : g.Reports ended) :
    g.announcement = some (endedDraft ended) := by
  unfold PersistedGame.announcement
  rw [h.result,h.termination,h.observedAt]
  simp only [endedDraft,endedPayload,wireClocks,h.gameId,h.gameVersion,h.finalFen,h.pgn,h.whiteMs,
    h.blackMs]
  rfl

theorem PersistedGame.Reports.addCommand {ended : EndedGame} (h : g.Reports ended)
    (c : GameCommand) : (g.addCommand c).Reports ended :=
  ⟨h.terminal,h.gameId,h.gameVersion,h.finalFen,h.pgn,h.whiteMs,h.blackMs,h.observedAt,h.stopped,
    h.result,h.termination⟩

theorem AdmittedMove.row_reports (m : AdmittedMove) (guests : GuestSessionId × GuestSessionId)
    {ended : EndedGame} (h : ended ∈ m.ended) : (m.row guests).Reports ended := by
  obtain ⟨outcome,hterminal,rfl⟩ := Option.map_eq_some_iff.mp h
  constructor
  · rw [m.row_status,hterminal]
    exact outcome.status.toGameStatus_terminal
  · rfl
  · exact (m.row_version guests).symm
  · rfl
  · rfl
  · rfl
  · rfl
  · show (if m.terminal = none then _ else some m.observedAt) = some m.observedAt
    rw [hterminal,if_neg (Option.some_ne_none outcome)]
  · show (if m.terminal = none then _ else none) = none ∧
      (if m.terminal = none then _ else none) = none
    rw [hterminal,if_neg (Option.some_ne_none outcome),if_neg (Option.some_ne_none outcome)]
    exact ⟨rfl,rfl⟩
  · show ((m.terminal.map fun t => persistedResult t.result).or _).bind domainResult = _
    rw [hterminal]
    exact domainResult_persistedResult outcome.result
  · show ((m.terminal.map fun t => persistedTermination t.termination).or _).bind _ = _
    rw [hterminal]
    exact domainTermination_persistedTermination outcome.termination

/-- What an operation that writes a row answers about an end, the row says. -/
theorem Writes.reports (h : Writes chess g op answer g') {ended : EndedGame}
    (hended : ended ∈ answer.endedGames) : g'.Reports ended := by
  cases h with
  | @submitMove m guests _ _ _ _ _ => exact m.row_reports guests (Option.mem_toList.mp hended)
  | @resign _ _ observation outcome guests _ _ _ _ =>
    obtain rfl := List.mem_singleton.mp hended
    exact (terminalSubmission_reports g observation outcome guests).addCommand _
  | @reset _ _ _ observation outcome guests _ _ _ =>
    obtain rfl := List.mem_singleton.mp hended
    exact terminalSubmission_reports g observation outcome guests
  | @adjudicate _ observation _ outcome guests _ _ _ =>
    obtain rfl := List.mem_singleton.mp hended
    exact terminalSubmission_reports g observation outcome guests
  | _ => cases hended

theorem PersistedGame.CommandsReport.none_ended (h : g.CommandsReport)
    (hlive : g.status.terminal = false) {c : GameCommand} (hc : c ∈ g.commands) :
    c.response.ended = none := by
  cases he : c.response.ended with
  | none => rfl
  | some ended =>
    have hterminal := (h c hc ended he).terminal
    rw [hlive] at hterminal
    cases hterminal

theorem Writes.commandsReport (h : Writes chess g op answer g') (hc : GameChange chess g g')
    (hg : g.CommandsReport) : g'.CommandsReport := by
  have hold : ∀ c ∈ g.commands, ∀ ended ∈ c.response.ended, g'.Reports ended := by
    intro c hmem ended hended
    rw [hg.none_ended hc.not_terminal hmem] at hended
    cases hended
  intro c hmem ended hended
  cases h with
  | @submitMove m guests _ hgame _ _ _ =>
    subst hgame
    rcases List.mem_append.mp hmem with hmem | hmem
    · exact hold c hmem ended hended
    · rw [List.mem_singleton.mp hmem] at hended
      exact m.row_reports guests hended
  | @resign _ _ observation outcome guests _ _ _ _ =>
    rcases List.mem_append.mp hmem with hmem | hmem
    · exact hold c hmem ended hended
    · rw [List.mem_singleton.mp hmem] at hended
      cases hended
      exact (terminalSubmission_reports g observation outcome guests).addCommand _
  | _ => exact hold c hmem ended hended

theorem Db.Reachable.commandsReport (h : db.Reachable chess) :
    ∀ id g, db.games.find id = some g → g.CommandsReport := by
  obtain ⟨guestSessions,sessionCommands,operations,rfl⟩ := h
  refine (repositories chess).run_invariant (Q := fun _ => True)
    (P := fun db => ∀ id g, db.games.find id = some g → g.CommandsReport) ?_
    (fun _ _ hg => by simp [Db.initial] at hg) fun _ _ => trivial
  intro db op _ hdb id g' hg'
  have houtcome := execute_outcome chess db op
  cases hfind : db.games.find id with
  | none =>
    obtain ⟨input,_,rfl⟩ := houtcome.new hfind hg'
    exact fun _ hc => absurd hc List.not_mem_nil
  | some g =>
    rcases houtcome.row hfind hg' with rfl | ⟨hchange,_,hwrites⟩
    · exact hdb id g' hfind
    · exact hwrites.commandsReport hchange (hdb id g hfind)

theorem replayResult_ended {c : GameCommand} {input : SubmitMove} {s : MoveSubmission}
    (h : replayResult c input = .accepted s) : s.ended = c.response.ended := by
  unfold replayResult at h
  split_ifs at h
  cases hr : c.response with
  | terminal ended guests => simp [hr,persistedSubmissionSchema] at h
  | move accepted ended guests started =>
    simp only [hr,persistedSubmissionSchema] at h
    split_ifs at h
    · cases h
      rfl

theorem replayResignation_ended {c : GameCommand} {input : ResignGame} {s : TerminalSubmission}
    (h : replayResignation c input = .accepted s) : c.response.ended = some s.ended := by
  unfold replayResignation at h
  split_ifs at h
  cases hr : c.response with
  | move accepted ended guests started => simp [hr,storedTerminalSchema] at h
  | terminal ended guests =>
    simp only [hr,storedTerminalSchema] at h
    split_ifs at h
    · cases h
      rfl

theorem Reads.reports (h : Reads db op answer)
    (hdb : ∀ id g, db.games.find id = some g → g.CommandsReport) {ended : EndedGame}
    (hended : ended ∈ answer.endedGames) :
    ∃ g, db.games.find ended.gameId = some g ∧ g.Reports ended := by
  have hsource : ∀ id g c, db.games.find id = some g → c ∈ g.commands →
      ended ∈ c.response.ended → ∃ g, db.games.find ended.gameId = some g ∧ g.Reports ended := by
    intro id g c hg hc hmem
    have hreports := hdb id g hg c hc ended hmem
    refine ⟨g,?_,hreports⟩
    rw [hreports.gameId,Table.find_key hg]
    exact hg
  cases h with
  | rejected hr =>
    exfalso
    unfold Answer.rejected at hr
    split at hr <;> first | exact hr | cases hended
  | @move _ input g c s _ hg hc hr =>
    refine hsource _ g c hg (List.mem_of_find?_eq_some hc) ?_
    rw [← replayResult_ended hr]
    exact Option.mem_toList.mp hended
  | @resignation _ input g c s _ hg hc hr =>
    refine hsource _ g c hg (List.mem_of_find?_eq_some hc) ?_
    rw [replayResignation_ended hr,List.mem_singleton.mp hended]
    rfl
  | _ => cases hended

theorem execute_reports (h : db.Reachable chess) {ended : EndedGame}
    (hended : ended ∈ (execute chess db op).1.endedGames) :
    ∃ g, (execute chess db op).2.games.find ended.gameId = some g ∧ g.Reports ended := by
  have houtcome := execute_outcome chess db op
  generalize (execute chess db op).1 = answer at houtcome hended
  generalize (execute chess db op).2 = db' at houtcome
  cases houtcome with
  | session _ hanswer _ =>
    rw [hanswer] at hended
    cases hended
  | kept hdb hreads =>
    rw [hdb]
    exact hreads.reports h.commandsReport hended
  | allocated _ _ _ hanswer =>
    rw [hanswer] at hended
    cases hended
  | @wrote id g g' _ _ hw hwrites =>
    have hreports := hwrites.reports hended
    refine ⟨g',?_,hreports⟩
    rw [hreports.gameId,hw.change.id_eq,Table.find_key hw.found]
    exact hw.find_self

end Reports

/-! ### The header of a row -/

section Headers

variable {chess : ChessJs} {db : Db} {g g' : PersistedGame} {op : Operation} {answer : Answer}

theorem ChessJs.resultHeader_mem (gameOver : GameOver) :
    ChessJs.resultHeader gameOver ∈ resultTexts := by
  cases gameOver with
  | ongoing => decide
  | «over» reason winner =>
    cases winner with
    | none =>
      show "1/2-1/2" ∈ resultTexts
      decide
    | some color =>
      cases color with
      | w =>
        show "1-0" ∈ resultTexts
        decide
      | b =>
        show "0-1" ∈ resultTexts
        decide

theorem ChessJs.ResultHeaders.getPgn (headers : chess.ResultHeaders) (p : chess.Position)
    (gameOver : GameOver) :
    resultTag (chess.getPgn p gameOver) = some (ChessJs.resultHeader gameOver) :=
  headers.header p _ (ChessJs.resultHeader_mem gameOver)

theorem ChessJs.ResultHeaders.evaluateMove (headers : chess.ResultHeaders)
    {input : EvaluateMoveInput} {evaluation : MoveEvaluation}
    (h : chess.evaluateMove input = .ok evaluation) :
    resultTag evaluation.pgn = some (ChessJs.resultHeader evaluation.gameOver) := by
  obtain ⟨before,_,h⟩ := bind_eq_ok.mp h
  simp only at h
  split_ifs at h
  obtain ⟨⟨after,applied⟩,_,h⟩ := bind_eq_ok.mp h
  cases h
  exact headers.getPgn after _

theorem ChessJs.ResultHeaders.newGame (headers : chess.ResultHeaders) {initial : ReplayedPosition}
    (h : chess.engine.newGame = .ok initial) : resultTag initial.pgn = some "*" := by
  obtain ⟨p,hp,h⟩ := bind_eq_ok.mp h
  cases h
  have hload : chess.load chess.defaultPosition = some p := by
    unfold ChessJs.replayHistory ChessJs.createPosition at hp
    split at hp
    · cases hp
    · cases hfound : chess.load chess.defaultPosition with
      | none =>
        rw [hfound] at hp
        cases hp
      | some q =>
        rw [hfound] at hp
        cases hp
        rfl
  show resultTag (chess.getPgn p (chess.getGameOver p)) = some "*"
  rw [headers.getPgn,headers.start p hload]
  rfl

/-- The PGN of a game that has not ended says that it is in progress. -/
def PersistedGame.InProgressHeader (g : PersistedGame) : Prop :=
  g.status.terminal = false → resultTag g.pgn = some "*"

theorem AdmittedMove.Admitted.header (headers : chess.ResultHeaders) {m : AdmittedMove}
    {guests : GuestSessionId × GuestSessionId} (hm : m.Admitted chess.engine guests) :
    resultTag (m.row guests).pgn = some (ChessJs.resultHeader m.evaluation.gameOver) := by
  obtain ⟨_,_,_,_,_,hev,_⟩ := admitMove_ok hm.admitted
  exact headers.evaluateMove hev

theorem terminalOutcome_none {gameOver : GameOver} (h : terminalOutcome gameOver = .ok none) :
    gameOver = .ongoing := by
  cases gameOver with
  | ongoing => rfl
  | «over» reason winner =>
    obtain ⟨_,_,heq⟩ := map_eq_ok.mp h
    cases heq

theorem Writes.inProgressHeader (headers : chess.ResultHeaders)
    (h : Writes chess.engine g op answer g') (hc : GameChange chess.engine g g')
    (hg : g.InProgressHeader) : g'.InProgressHeader := by
  have hold := hg hc.not_terminal
  intro hlive
  cases h with
  | @submitMove m guests _ hgame _ _ hm =>
    subst hgame
    rw [hm.header headers]
    rw [m.row_status] at hlive
    cases hterminal : m.terminal with
    | none =>
      have houtcome := hm.outcome
      rw [hterminal] at houtcome
      rw [terminalOutcome_none houtcome]
      rfl
    | some outcome =>
      rw [hterminal] at hlive
      simp at hlive
  | _ => exact hold

theorem adjudication_event {observation : Micros} {event : TerminalEvent}
    (h : op.adjudication g = some (observation,event)) : op.terminalEvent g = some event ∧
      (∀ reason winner, event ≠ .board reason winner) ∧
      ∀ input observation, op ≠ .submitMove input observation := by
  have hmap : (op.adjudication g).map Prod.snd = some event := by
    rw [h]
    rfl
  cases op with
  | adjudicateTimeout id o =>
    obtain ⟨event',he,heq⟩ := Option.map_eq_some_iff.mp h
    cases heq
    simp only [Db.timeoutEvent] at he
    split_ifs at he
    · cases he
      exact ⟨hmap,nofun,nofun⟩
    · cases he
      exact ⟨hmap,nofun,nofun⟩
  | adjudicateNoShow id o =>
    obtain ⟨event',he,heq⟩ := Option.map_eq_some_iff.mp h
    cases heq
    simp only [Db.noShowEvent] at he
    split_ifs at he
    split at he
    · cases he
    · split_ifs at he
      cases he
      exact ⟨hmap,nofun,nofun⟩
  | adjudicateAbandonment id absent o =>
    obtain ⟨event',he,heq⟩ := Option.map_eq_some_iff.mp h
    cases heq
    refine ⟨hmap,?_,nofun⟩
    simp only [Db.abandonmentEvent] at he
    split_ifs at he
    cases he
    nofun
  | _ => cases h

/-- A game that has been ended: what was derived, what is stored and what the header says. -/
theorem Writes.ends (headers : chess.ResultHeaders) (h : Writes chess.engine g op answer g')
    (hc : GameChange chess.engine g g') (hg : g.InProgressHeader)
    (ht : g'.status.terminal = true) : ∃ outcome, op.outcome chess.engine g = some outcome ∧
      g'.result = some (persistedResult outcome.result) ∧
      g'.termination = some (persistedTermination outcome.termination) ∧
      (op.terminalEvent g = none ∧ resultTag g'.pgn = some (persistedResult outcome.result) ∨
        ∃ event, op.terminalEvent g = some event ∧ deriveTerminalOutcome event = .ok outcome ∧
          (∀ reason winner, event ≠ .board reason winner) ∧ resultTag g'.pgn = some "*") := by
  have hlive := hc.not_terminal
  have hheader := hg hlive
  have hderived : ∀ {outcome : TerminalOutcome} {event : TerminalEvent},
      op.terminalEvent g = some event → deriveTerminalOutcome event = .ok outcome →
      (∀ input observation, op ≠ .submitMove input observation) →
      op.outcome chess.engine g = some outcome := by
    intro outcome event he ho hmove
    have hbind : (op.terminalEvent g).bind (fun event => (deriveTerminalOutcome event).toOption) =
        some outcome := by
      rw [he,Option.bind_some,ho]
      rfl
    cases op with
    | submitMove input observation => exact absurd rfl (hmove input observation)
    | _ => exact hbind
  cases h with
  | @submitMove m guests observation hgame _ _ hm =>
    subst hgame
    rw [m.row_status] at ht
    obtain ⟨_,_,_,_,_,hev,_⟩ := admitMove_ok hm.admitted
    cases hterminal : m.terminal with
    | none =>
      rw [hterminal] at ht
      simp only at ht
      split_ifs at ht
      · cases ht
      · rw [hlive] at ht
        cases ht
    | some outcome =>
      have houtcome := hm.outcome
      rw [hterminal] at houtcome
      refine ⟨outcome,?_,?_,?_,Or.inl ⟨rfl,?_⟩⟩
      · simp only [Operation.outcome]
        rw [hev]
        simp only [Except.toOption,Option.bind_some]
        rw [houtcome]
        rfl
      · show (m.terminal.map _).or _ = _
        rw [hterminal]
        rfl
      · show (m.terminal.map _).or _ = _
        rw [hterminal]
        rfl
      · rw [hm.header headers,terminalOutcome_header houtcome]
  | @resign input player observation outcome guests hplayer _ ho _ =>
    have he : (Operation.resign input observation).terminalEvent g =
        some (.resignation player.color) := by
      simp only [Operation.terminalEvent]
      rw [hplayer]
      rfl
    exact ⟨outcome,hderived he ho nofun,rfl,rfl,Or.inr ⟨_,he,ho,nofun,hheader⟩⟩
  | @reset guest gameId player observation outcome guests hplayer ho _ =>
    have he : (Operation.terminateForReset guest (some gameId) observation).terminalEvent g =
        some (.abandonment [player.color]) := by
      simp only [Operation.terminalEvent]
      rw [hplayer]
      rfl
    exact ⟨outcome,hderived he ho nofun,rfl,rfl,Or.inr ⟨_,he,ho,nofun,hheader⟩⟩
  | @adjudicate _ observation event outcome guests hevent ho _ =>
    obtain ⟨he,hboard,hmove⟩ := adjudication_event hevent
    exact ⟨outcome,hderived he ho hmove,rfl,rfl,Or.inr ⟨event,he,ho,hboard,hheader⟩⟩
  | reconnect _ _ =>
    simp only [PersistedGame.resumed] at ht
    split_ifs at ht <;> cases ht
  | join _ =>
    have hstatus : g.status.terminal = true := ht
    rw [hlive] at hstatus
    cases hstatus
  | leave _ _ =>
    have hstatus : g.status.terminal = true := ht
    rw [hlive] at hstatus
    cases hstatus
  | _ => cases ht

end Headers

/-! ### Finished games -/

/-- The record of a finished game at the end of a run: the header of its PGN denotes the stored
result; the result and the termination are read back as the operation that ended the game derived
them; and whatever an operation answered about the end of the game, the row says, so that the
message about it is the one that the row determines, and its PGN denotes its result. -/
structure RecordConsistent (chess : ChessEngine) (events : List (Machine.Event Db Operation Answer))
    (g : PersistedGame) : Prop where
  header : ∃ result, g.result.bind domainResult = some result ∧ headerResult g.pgn = some result
  outcome : ∀ e ∈ events, e.enters (Ended g.id) → ∃ g₀ outcome,
    e.before.games.find g.id = some g₀ ∧ e.input.outcome chess g₀ = some outcome ∧
      g.result.bind domainResult = some outcome.result ∧
      g.termination.bind domainTermination = some outcome.termination
  reported : ∀ e ∈ events, ∀ ended ∈ e.answer.endedGames, ended.gameId = g.id →
    g.Reports ended ∧ g.announcement = some (endedDraft ended) ∧
      headerResult ended.pgn = some ended.result

/-- The game is ended by a move, or by an end that nobody wins. -/
def Operation.KeepsRecord (op : Operation) (db : Db) (id : GameId) : Prop :=
  ∀ g ∈ db.games.find id, ∀ event ∈ op.terminalEvent g, event.withoutWinner = true

instance (op : Operation) (db : Db) (id : GameId) : Decidable (op.KeepsRecord db id) := by
  unfold Operation.KeepsRecord
  infer_instance

section Record

variable {chess : ChessJs} {guestSessions : Table GuestSession.id}
  {sessionCommands : Table SessionCommand.idempotencyHash} {operations : List Operation}

theorem inProgressHeader (headers : chess.ResultHeaders)
    (hserved : ∀ op ∈ operations, op.Served chess.engine) (id : GameId) (g : PersistedGame)
    (hg : ((repositories chess.engine).run (.initial guestSessions sessionCommands)
      operations).games.find id = some g) : g.InProgressHeader := by
  refine (repositories chess.engine).run_invariant (Q := fun op => op.Served chess.engine)
    (P := fun db => ∀ id g, db.games.find id = some g → g.InProgressHeader) ?_
    (fun _ _ hg => by simp [Db.initial] at hg) hserved id g hg
  intro db op hop hdb id g' hg'
  have houtcome := execute_outcome chess.engine db op
  cases hfind : db.games.find id with
  | none =>
    obtain ⟨input,rfl,rfl⟩ := houtcome.new hfind hg'
    obtain ⟨⟨initial,hnew,_,hpgn⟩,_⟩ := hop.arguments
    intro _
    show resultTag input.pgn = some "*"
    rw [hpgn]
    exact headers.newGame hnew
  | some g =>
    rcases houtcome.row hfind hg' with rfl | ⟨hchange,_,hwrites⟩
    · exact hdb id g' hfind
    · exact hwrites.inProgressHeader headers hchange (hdb id g hfind)

theorem ended_row_stable (chess : ChessEngine) (id : GameId) {g : PersistedGame}
    (ht : g.status.terminal = true) :
    (repositories chess).Stable fun db => db.games.find id = some g := by
  intro db op hdb
  exact (execute_change chess db op).find_ended hdb ht

theorem ending_write {e : Machine.Event Db Operation Answer} {id : GameId} {g : PersistedGame}
    (hg : ((repositories chess.engine).run (.initial guestSessions sessionCommands)
      operations).games.find id = some g)
    (he : e ∈ (repositories chess.engine).events (.initial guestSessions sessionCommands)
      operations)
    (henters : e.enters (Ended id)) : ∃ g₀, e.before.games.find id = some g₀ ∧
      GameChange chess.engine g₀ g ∧ Writes chess.engine g₀ e.input e.answer g := by
  obtain ⟨hbefore,g₁,hg₁,ht₁⟩ := henters
  have hfinal := (ended_row_stable chess.engine id ht₁).final he hg₁
  obtain rfl : g₁ = g := Option.some.inj (hfinal.symm.trans hg)
  have houtcome := execute_outcome chess.engine e.before e.input
  rw [(repositories chess.engine).mem_events_eq he] at hg₁ ⊢
  change Outcome chess.engine e.before e.input (execute chess.engine e.before e.input).1
    (execute chess.engine e.before e.input).2 at houtcome
  cases hfind : e.before.games.find id with
  | none =>
    obtain ⟨input,_,rfl⟩ := houtcome.new hfind hg₁
    cases ht₁
  | some g₀ =>
    rcases houtcome.row hfind hg₁ with rfl | ⟨hchange,_,hwrites⟩
    · exact absurd ⟨_,hfind,ht₁⟩ hbefore
    · exact ⟨g₀,hfind,hchange,hwrites⟩

theorem ended_reports {e : Machine.Event Db Operation Answer} {g : PersistedGame}
    (hg : ((repositories chess.engine).run (.initial guestSessions sessionCommands)
      operations).games.find g.id = some g)
    (he : e ∈ (repositories chess.engine).events (.initial guestSessions sessionCommands)
      operations)
    {ended : EndedGame} (hended : ended ∈ e.answer.endedGames) (hid : ended.gameId = g.id) :
    g.Reports ended := by
  obtain ⟨pre,_,_,hev⟩ := (repositories chess.engine).mem_events_split he
  have hreachable : e.before.Reachable chess.engine := by
    rw [hev]
    exact ⟨_,_,pre,rfl⟩
  have heq := (repositories chess.engine).mem_events_eq he
  rw [heq] at hended
  obtain ⟨g₁,hg₁,hreports⟩ := execute_reports hreachable hended
  have hafter : e.after.games.find g.id = some g₁ := by
    rw [heq,← hid]
    exact hg₁
  have hfinal := (ended_row_stable chess.engine g.id hreports.terminal).final he hafter
  rw [Option.some.inj (hg.symm.trans hfinal)]
  exact hreports

/-- What the operation that ends a game derives, what the final row stores of it, and what the
header then says. -/
theorem ending_outcome (headers : chess.ResultHeaders)
    (hserved : ∀ op ∈ operations, op.Served chess.engine)
    {e : Machine.Event Db Operation Answer} {id : GameId} {g : PersistedGame}
    (hg : ((repositories chess.engine).run (.initial guestSessions sessionCommands)
      operations).games.find id = some g) (ht : g.status.terminal = true)
    (he : e ∈ (repositories chess.engine).events (.initial guestSessions sessionCommands)
      operations)
    (henters : e.enters (Ended id)) : ∃ g₀ outcome, e.before.games.find id = some g₀ ∧
      e.input.outcome chess.engine g₀ = some outcome ∧
      g.result.bind domainResult = some outcome.result ∧
      g.termination.bind domainTermination = some outcome.termination ∧
      (headerResult g.pgn = some outcome.result ↔
        ∀ event ∈ e.input.terminalEvent g₀, event.withoutWinner = true) := by
  obtain ⟨g₀,hg₀,hchange,hwrites⟩ := ending_write hg he henters
  have hheader : g₀.InProgressHeader := by
    obtain ⟨pre,post,hsplit,hev⟩ := (repositories chess.engine).mem_events_split he
    have hbefore : e.before = (repositories chess.engine).run
        (.initial guestSessions sessionCommands) pre := by
      rw [hev]
      rfl
    rw [hbefore] at hg₀
    refine inProgressHeader headers (fun op hop => hserved op ?_) id g₀ hg₀
    rw [hsplit]
    exact List.mem_append_left _ hop
  obtain ⟨outcome,houtcome,hresult,htermination,hend⟩ := hwrites.ends headers hchange hheader ht
  have hread : g.result.bind domainResult = some outcome.result := by
    rw [hresult]
    exact domainResult_persistedResult _
  have hreadTermination : g.termination.bind domainTermination = some outcome.termination := by
    rw [htermination]
    exact domainTermination_persistedTermination _
  refine ⟨g₀,outcome,hg₀,houtcome,hread,hreadTermination,?_⟩
  unfold headerResult
  rcases hend with ⟨hnone,htag⟩ | ⟨event,hevent,hderived,hboard,htag⟩
  · rw [hnone,htag]
    exact iff_of_true (domainResult_persistedResult _) nofun
  · have hvoid := deriveTerminalOutcome_void hboard hderived
    rw [hevent,htag]
    constructor
    · intro hdenotes event' hevent'
      rw [← Option.some.inj hevent']
      exact hvoid.mp (Option.some.inj hdenotes).symm
    · intro hcondition
      rw [hvoid.mpr (hcondition event rfl)]
      rfl

/-- The record of a finished game is consistent exactly if the game was ended by a move on the
board, or by an end that nobody wins: the double abandonment and the no-show of both players.
Every other end leaves the header of a game in progress beside the stored result. -/
theorem record_consistent_iff (headers : chess.ResultHeaders)
    (hserved : ∀ op ∈ operations, op.Served chess.engine) {g : PersistedGame}
    (hg : ((repositories chess.engine).run (.initial guestSessions sessionCommands)
      operations).games.find g.id = some g) (ht : g.status.terminal = true) :
    RecordConsistent chess.engine ((repositories chess.engine).events
      (.initial guestSessions sessionCommands) operations) g ↔
    ∀ e ∈ (repositories chess.engine).events (.initial guestSessions sessionCommands) operations,
      e.enters (Ended g.id) → e.input.KeepsRecord e.before g.id := by
  constructor
  · intro hrecord e he henters g₁ hg₁
    obtain ⟨g₀,outcome,hg₀,_,hread,_,hiff⟩ := ending_outcome headers hserved hg ht he henters
    obtain rfl : g₁ = g₀ := Option.some.inj (hg₁.symm.trans hg₀)
    obtain ⟨result,hresult,hdenotes⟩ := hrecord.header
    exact hiff.mp (hdenotes.trans (hresult.symm.trans hread))
  · intro hcondition
    have hends : ∀ e ∈ (repositories chess.engine).events (.initial guestSessions sessionCommands)
        operations, e.enters (Ended g.id) → ∃ g₀ outcome, e.before.games.find g.id = some g₀ ∧
          e.input.outcome chess.engine g₀ = some outcome ∧
          g.result.bind domainResult = some outcome.result ∧
          g.termination.bind domainTermination = some outcome.termination ∧
          headerResult g.pgn = some outcome.result := by
      intro e he henters
      obtain ⟨g₀,outcome,hg₀,houtcome,hread,htermination,hiff⟩ :=
        ending_outcome headers hserved hg ht he henters
      exact ⟨g₀,outcome,hg₀,houtcome,hread,htermination,
        hiff.mpr (hcondition e he henters g₀ hg₀)⟩
    have hinitial : ¬ Ended g.id (.initial guestSessions sessionCommands) := by
      rintro ⟨g₀,hg₀,_⟩
      simp [Db.initial] at hg₀
    obtain ⟨e₀,he₀,henters⟩ := (repositories chess.engine).exists_enters hinitial ⟨g,hg,ht⟩
    obtain ⟨_,outcome,_,_,hread,_,hdenotes⟩ := hends e₀ he₀ henters
    refine ⟨⟨outcome.result,hread,hdenotes⟩,fun e he henters => ?_,fun e he ended hended hid => ?_⟩
    · obtain ⟨g₀,outcome,hg₀,houtcome,hread,htermination,_⟩ := hends e he henters
      exact ⟨g₀,outcome,hg₀,houtcome,hread,htermination⟩
    · have hreports := ended_reports hg he hended hid
      refine ⟨hreports,hreports.announcement,?_⟩
      rw [hreports.pgn,hdenotes,← hread]
      exact hreports.result

end Record

section Sample

/-! The sample game with a PGN that carries its result, once without a player who joins and
once resigned. -/

def tagPair (tag value : String) : String := "[" ++ tag ++ " \"" ++ value ++ "\"]"

def headedPgn (moves result : String) : String :=
  tagPair "Event" "?" ++ "\n" ++ (tagPair "Site" "?" ++ "\n" ++
    (tagPair "Date" "????.??.??" ++ "\n" ++ (tagPair "Round" "?" ++ "\n" ++
      (tagPair "White" "?" ++ "\n" ++ (tagPair "Black" "?" ++ "\n" ++
        (tagPair "Result" result ++ "\n" ++ (moves ++ result)))))))

theorem resultTag_line {line rest : String} (h : '\n' ∉ line.toList) :
    resultTag (line ++ "\n" ++ rest) = (resultLine line.toList).or (resultTag rest) := by
  have hsplit : (line ++ "\n" ++ rest).toList.splitOn '\n' =
      line.toList :: rest.toList.splitOn '\n' := by
    have hlist : (line ++ "\n" ++ rest).toList = line.toList ++ '\n' :: rest.toList := by simp
    rw [hlist]
    exact List.splitOn_append_cons_self_of_not_mem h _
  unfold resultTag
  rw [hsplit,List.filterMap_cons]
  cases resultLine line.toList <;> rfl

theorem headedPgn_tag (moves result : String) (h : result ∈ resultTexts) :
    resultTag (headedPgn moves result) = some result := by
  have hline : '\n' ∉ (tagPair "Result" result).toList ∧
      resultLine (tagPair "Result" result).toList = some result := by
    revert result
    decide
  have hskip : ∀ tag ∈ ["Event","Site","Date","Round","White","Black"],
      ∀ value ∈ ["?","????.??.??"], ∀ rest,
        resultTag (tagPair tag value ++ "\n" ++ rest) = resultTag rest := by
    intro tag htag value hvalue rest
    have hother : '\n' ∉ (tagPair tag value).toList ∧
        resultLine (tagPair tag value).toList = none := by
      revert tag value
      decide
    rw [resultTag_line hother.1,hother.2,Option.none_or]
  unfold headedPgn
  rw [hskip "Event" (by decide) "?" (by decide),hskip "Site" (by decide) "?" (by decide),
    hskip "Date" (by decide) "????.??.??" (by decide),hskip "Round" (by decide) "?" (by decide),
    hskip "White" (by decide) "?" (by decide),hskip "Black" (by decide) "?" (by decide),
    resultTag_line hline.1,hline.2,Option.some_or]

def SamplePosition.moves : SamplePosition → String
  | .initial => " "
  | .e4 => "\n1. e4 "
  | .e5 => "\n1. e4 e5 "

def headedChess : ChessJs :=
  { sampleChess with pgn := fun p result => headedPgn (SamplePosition.moves p) result }

theorem headedChess_headers : headedChess.ResultHeaders where
  header p result hresult := headedPgn_tag (SamplePosition.moves p) result hresult
  start _ _ := rfl

def headedAllocation : AllocateGame := { sampleAllocation with pgn := headedPgn " " "*" }

/-- Nobody joins before the deadline. -/
def sampleNoShow : List Operation :=
  [.allocate headedAllocation,.adjudicateNoShow (sampleId 10) 30000000]

def headedStart : List Operation :=
  [.allocate headedAllocation,.markReady ⟨0,sampleId 10,sampleId 1,1000⟩,
    .markReady ⟨0,sampleId 10,sampleId 2,2000⟩,.startIfReady (sampleId 10) 5000000]

/-- White resigns ten seconds after the start. -/
def sampleResigned : List Operation :=
  headedStart ++ [.resign ⟨sampleId 32,2,sampleId 10,sampleId 1⟩ 15000000]

def headedRun (operations : List Operation) : Db :=
  (repositories headedChess.engine).run (.initial sampleSessions .empty) operations

theorem headedAllocation_served :
    (Operation.allocate headedAllocation).Served headedChess.engine :=
  ⟨⟨⟨_,rfl,rfl,rfl⟩,by decide,by decide,by decide,by decide,by decide⟩,nofun⟩

theorem sampleNoShow_served : ∀ op ∈ sampleNoShow, op.Served headedChess.engine := by
  simp only [sampleNoShow,List.forall_mem_cons]
  refine ⟨headedAllocation_served,.of_observation trivial rfl ⟨by decide,by decide⟩,?_⟩
  exact fun _ hop => absurd hop List.not_mem_nil

theorem sampleResigned_served : ∀ op ∈ sampleResigned, op.Served headedChess.engine := by
  simp only [sampleResigned,headedStart,List.cons_append,List.nil_append,List.forall_mem_cons]
  refine ⟨headedAllocation_served,⟨trivial,nofun⟩,⟨trivial,nofun⟩,
    .of_observation trivial rfl ⟨by decide,by decide⟩,
    .of_observation trivial rfl ⟨by decide,by decide⟩,?_⟩
  exact fun _ hop => absurd hop List.not_mem_nil

end Sample

theorem record_consistent_sample : ∃ g ∈ (headedRun sampleNoShow).games.rows,
    g.status = .expired ∧ RecordConsistent headedChess.engine ((repositories
      headedChess.engine).events (.initial sampleSessions .empty) sampleNoShow) g := by
  have hended : ∃ g ∈ (headedRun sampleNoShow).games.rows, g.status = .expired := by decide
  obtain ⟨g,hg,hstatus⟩ := hended
  have hkeeps : ∀ e ∈ (repositories headedChess.engine).events (.initial sampleSessions .empty)
      sampleNoShow, e.input.KeepsRecord e.before (sampleId 10) := by decide
  have hid : ∀ g ∈ (headedRun sampleNoShow).games.rows, g.id = sampleId 10 := by decide
  have ht : g.status.terminal = true := by
    rw [hstatus]
    rfl
  refine ⟨g,hg,hstatus,(record_consistent_iff headedChess_headers sampleNoShow_served
    (Table.find_of_mem hg) ht).mpr fun e he _ => ?_⟩
  rw [hid g hg]
  exact hkeeps e he

/-- A resigned game keeps the header of a game in progress: the stored result is the victory of
Black, and the PGN of the row and of the answer denotes no result. -/
theorem resignation_keeps_header : headedChess.ResultHeaders ∧
    (∀ op ∈ sampleResigned, op.Served headedChess.engine) ∧
    ∃ g ∈ (headedRun sampleResigned).games.rows, g.status.terminal = true ∧
      g.result.bind domainResult = some .blackWin ∧ headerResult g.pgn = some .void ∧
      ¬ RecordConsistent headedChess.engine ((repositories headedChess.engine).events
        (.initial sampleSessions .empty) sampleResigned) g := by
  have hrow : ∃ g ∈ (headedRun sampleResigned).games.rows, g.status.terminal = true ∧
      g.result.bind domainResult = some .blackWin ∧ g.pgn = headedPgn " " "*" := by decide
  obtain ⟨g,hg,ht,hresult,hpgn⟩ := hrow
  have hvoid : headerResult g.pgn = some .void := by
    unfold headerResult
    rw [hpgn,headedPgn_tag " " "*" (by decide)]
    rfl
  refine ⟨headedChess_headers,sampleResigned_served,g,hg,ht,hresult,hvoid,fun hrecord => ?_⟩
  obtain ⟨result,hread,hdenotes⟩ := hrecord.header
  rw [hresult] at hread
  rw [hvoid,← hread] at hdenotes
  cases hdenotes

end CluChess
