import CluChess.MoveHistory
import CluChess.WireProtocol

/-! Which committed outcomes can be announced: every message of a submission passes the schema of
the protocol but for the PGN of an ended game, which grows with the game. -/
namespace CluChess

/-- The lengths of the texts of `chess.js`. -/
structure ChessJs.TextBounds (chess : ChessJs) : Prop where
  fen : ∀ p, jsLength (chess.fen p) ≤ 256
  san : ∀ {p source promotion target p' m},
    chess.move p source promotion target = some (p',m) → jsLength m.san ≤ 32

def CommandResponse.Bounded : CommandResponse → Prop
  | .move accepted ended _ started =>
    jsLength accepted.fenAfter ≤ 256 ∧ jsLength accepted.san ≤ 32 ∧
      (∀ e ∈ ended, jsLength e.finalFen ≤ 256) ∧ ∀ s ∈ started, jsLength s.initialFen ≤ 256
  | .terminal ended _ => jsLength ended.finalFen ≤ 256

structure PersistedGame.Bounded (g : PersistedGame) : Prop where
  initialFen : jsLength g.initialFen ≤ 256
  currentFen : jsLength g.currentFen ≤ 256
  commands : ∀ c ∈ g.commands, c.response.Bounded

section Bounds

variable {chess : ChessJs} {engine : ChessEngine} {db : Db} {g g' : PersistedGame} {op : Operation}
  {answer : Answer}

theorem Writes.texts (h : Writes engine g op answer g') :
    (∃ (m : AdmittedMove) (guests : GuestSessionId × GuestSessionId),
      m.game = g ∧ m.Admitted engine guests ∧ g' = m.row guests) ∨
    g'.initialFen = g.initialFen ∧ g'.currentFen = g.currentFen ∧ ∀ c ∈ g'.commands,
      c ∈ g.commands ∨ ∃ ended guests, c.response = .terminal ended guests ∧
        ended.finalFen = g.currentFen := by
  cases h with
  | submitMove hg _ _ hm => exact Or.inl ⟨_,_,hg,hm,rfl⟩
  | resign _ _ _ _ =>
    refine Or.inr ⟨rfl,rfl,fun c hc => ?_⟩
    rcases List.mem_append.mp hc with hc | hc
    · exact Or.inl hc
    · rw [List.mem_singleton.mp hc]
      exact Or.inr ⟨_,_,rfl,rfl⟩
  | _ => exact Or.inr ⟨rfl,rfl,fun _ hc => Or.inl hc⟩

theorem AdmittedMove.Admitted.bounded (rules : chess.Rules) (texts : chess.TextBounds)
    {m : AdmittedMove} {guests : GuestSessionId × GuestSessionId}
    (hm : m.Admitted chess.engine guests) (h : m.game.Bounded) :
    jsLength m.evaluation.applied.fenAfter ≤ 256 ∧
      (persistedSubmission (m.submission guests)).Bounded := by
  obtain ⟨_,_,_,_,_,hev,_⟩ := admitMove_ok hm.admitted
  obtain ⟨_,after,he⟩ := ChessJs.evaluateMove_ok rules hev
  obtain ⟨_,_,_,_,_,_,hmove,hsan⟩ := ChessJs.evaluateMove_san hev
  have hfen : jsLength m.evaluation.applied.fenAfter ≤ 256 := he.fenAfter ▸ texts.fen after
  refine ⟨hfen,hfen,?_,fun e hended => ?_,fun s hstarted => ?_⟩
  · show jsLength m.evaluation.applied.san ≤ 32
    rw [hsan]
    exact texts.san hmove
  · obtain ⟨_,_,rfl⟩ := Option.map_eq_some_iff.mp hended
    exact hfen
  · have hs : m.started = some s := hstarted
    unfold AdmittedMove.started at hs
    split_ifs at hs
    cases hs
    exact h.initialFen

theorem Writes.bounded (rules : chess.Rules) (texts : chess.TextBounds)
    (h : Writes chess.engine g op answer g') (hg : g.Bounded) : g'.Bounded := by
  rcases h.texts with ⟨m,guests,rfl,hm,rfl⟩ | ⟨hinitial,hcurrent,hcommands⟩
  · obtain ⟨hfen,hresponse⟩ := hm.bounded rules texts hg
    refine ⟨hg.initialFen,hfen,fun c hc => ?_⟩
    rcases List.mem_append.mp hc with hc | hc
    · exact hg.commands c hc
    · rw [List.mem_singleton.mp hc]
      exact hresponse
  · refine ⟨hinitial ▸ hg.initialFen,hcurrent ▸ hg.currentFen,fun c hc => ?_⟩
    rcases hcommands c hc with hc | ⟨ended,guests,hresponse,hended⟩
    · exact hg.commands c hc
    · rw [hresponse]
      show jsLength ended.finalFen ≤ 256
      rw [hended]
      exact hg.currentFen

theorem newGameRow_bounded (rules : chess.Rules) (texts : chess.TextBounds) {input : AllocateGame}
    (h : (Operation.allocate input).argumentsServed chess.engine) : (newGameRow input).Bounded := by
  obtain ⟨⟨initial,hnew,hfen,_⟩,_⟩ := h
  obtain ⟨position,_,hposition,_⟩ := ChessJs.newGame_ok rules hnew
  have hinitial : jsLength input.initialFen ≤ 256 := by
    rw [hfen,← hposition]
    exact texts.fen position
  exact ⟨hinitial,hinitial,by simp [newGameRow]⟩

theorem Db.ServedReachable.bounded (rules : chess.Rules) (texts : chess.TextBounds)
    (h : db.ServedReachable chess.engine) :
    ∀ id g, db.games.find id = some g → g.Bounded := by
  refine h.invariant (I := fun db => ∀ id g, db.games.find id = some g → g.Bounded)
    (fun _ _ _ _ _ hg => by simp [Db.initial] at hg) fun db op _ hop hdb id g hg => ?_
  cases execute_outcome chess.engine db op with
  | session _ _ h => exact hdb id g ((Outcome.frame_session h).1 ▸ hg)
  | kept h _ => exact hdb id g (h ▸ hg)
  | allocated hinput hd hnew _ =>
    rw [hnew.find] at hg
    split_ifs at hg
    · cases hg
      exact newGameRow_bounded rules texts (hinput ▸ hop.arguments)
    · exact hdb id g hg
  | @wrote key g₁ g₂ _ hid hw hwrites =>
    rw [hw.find] at hg
    split_ifs at hg
    · cases hg
      exact hwrites.bounded rules texts (hdb key g₁ hw.found)
    · exact hdb id g hg

end Bounds

/-! ### Submissions -/

/-- Every part of a submission passes the schemas but for the length of the PGN. -/
structure MoveSubmission.Valid (submission : MoveSubmission) : Prop where
  accepted : submission.accepted.Valid
  started : ∀ started ∈ submission.started, started.Valid
  ended : ∀ ended ∈ submission.ended, ended.Valid

/-- The announcement and the acknowledgement of what an operation has committed can be built,
whatever the identifiers and the time of the messages are. -/
def Answer.Sendable : Answer → Prop
  | .move (.ok submission) =>
    (∀ stamps : Stamps, stamps.Valid →
      ∃ deliveries, publishSubmission submission stamps = .ok deliveries) ∧
    ∀ request : RequestIds, request.Valid → ∃ ack, acknowledgeMove submission request = .ok ack
  | .resignation (.ok submission) =>
    (∀ stamp : Stamp, stamp.Valid →
      ∃ deliveries, completeTerminal submission stamp = .ok deliveries) ∧
    ∀ request : RequestIds, request.Valid →
      ∃ ack, acknowledgeResignation submission request = .ok ack
  | .terminal (.ok (some submission)) => ∀ stamp : Stamp, stamp.Valid →
    ∃ deliveries, completeTerminal submission stamp = .ok deliveries
  | _ => True

/-- The PGN of every end that is announced or acknowledged is short enough. -/
def Answer.ShortPgn : Answer → Prop
  | .move (.ok submission) => submission.duplicate = false →
    ∀ ended ∈ submission.ended, jsLength ended.pgn ≤ maxPgnLength
  | .resignation (.ok submission) => jsLength submission.ended.pgn ≤ maxPgnLength
  | .terminal (.ok (some submission)) => submission.duplicate = false →
    jsLength submission.ended.pgn ≤ maxPgnLength
  | _ => True

section Valid

variable {chess : ChessJs} {db : Db} {op : Operation} {answer : Answer}

/-- What a replay reads from a stored acknowledgement. -/
theorem MoveSubmission.Valid.of_schema {response : CommandResponse} {submission : MoveSubmission}
    (h : persistedSubmissionSchema response = some submission) (hb : response.Bounded) :
    submission.Valid := by
  cases response with
  | terminal _ _ => cases h
  | move accepted ended guests started =>
    obtain ⟨hfen,hsan,hended,hstarted⟩ := hb
    simp only [persistedSubmissionSchema,Bool.and_eq_true] at h
    split_ifs at h with hschema
    cases h
    obtain ⟨⟨⟨ha,he⟩,_⟩,hs⟩ := hschema
    exact ⟨⟨ha,hfen,hsan⟩,fun s hmem => ⟨(Option.all_eq_true _ _).mp hs s hmem,hstarted s hmem⟩,
      fun e hmem => ⟨(Option.all_eq_true _ _).mp he e hmem,hended e hmem⟩⟩

theorem EndedGame.Valid.of_schema {response : CommandResponse} {submission : TerminalSubmission}
    (h : storedTerminalSchema response = some submission) (hb : response.Bounded) :
    submission.ended.Valid := by
  cases response with
  | move _ _ _ _ => cases h
  | terminal ended guests =>
    simp only [storedTerminalSchema,Bool.and_eq_true] at h
    split_ifs at h with hschema
    cases h
    exact ⟨hschema.1.1,hb⟩

theorem terminalSubmission_schema (rules : chess.Rules) {g g' : PersistedGame}
    {observation : Micros} {outcome : TerminalOutcome} {guests : GuestSessionId × GuestSessionId}
    (hrecorded : g.Recorded chess) (ho : Micros.isInstant observation)
    (hw : g'.whiteClockMs = (g.locked observation).whiteClockMs)
    (hb : g'.blackClockMs = (g.locked observation).blackClockMs)
    (hv : g'.version = g.version + 1) (hnew : g'.integersFit ∧ g'.rowChecks) :
    endedGameSchema (terminalSubmission g (g.locked observation) outcome guests).ended = true := by
  obtain ⟨position,_,hfen,_⟩ := hrecorded.history.replayed
  have hclocks := gameplayClockSchema_of_row hnew.1 hnew.2 ho none
  have htext : isNonempty g.currentFen = true := decide_eq_true (hfen ▸ rules.fenText position)
  have hversion : isNonnegativeInt (g.version + 1 : ℕ) = true := by
    rw [← hv]
    exact isNonnegativeInt_of_fits (Int.natCast_nonneg _) hnew.1.1
  rw [hw,hb] at hclocks
  show (gameplayClockSchema _ && isNonempty g.currentFen && isUuidV4 g.id &&
    isNonnegativeInt (g.version + 1 : ℕ)) = true
  rw [htext,hrecorded.acknowledged.id,hversion]
  simp only [Bool.and_true]
  exact hclocks

theorem terminalSubmission_valid (rules : chess.Rules) {g g' : PersistedGame}
    {observation : Micros} {outcome : TerminalOutcome} {guests : GuestSessionId × GuestSessionId}
    (hrecorded : g.Recorded chess) (hbounded : g.Bounded) (ho : Micros.isInstant observation)
    (hw : g'.whiteClockMs = (g.locked observation).whiteClockMs)
    (hb : g'.blackClockMs = (g.locked observation).blackClockMs)
    (hv : g'.version = g.version + 1) (hnew : g'.integersFit ∧ g'.rowChecks) :
    (terminalSubmission g (g.locked observation) outcome guests).ended.Valid :=
  ⟨terminalSubmission_schema rules hrecorded ho hw hb hv hnew,hbounded.currentFen⟩

def Answer.Valid : Answer → Prop
  | .move (.ok submission) => submission.Valid
  | .resignation (.ok submission) => submission.ended.Valid
  | .terminal (.ok (some submission)) => submission.ended.Valid
  | _ => True

theorem Writes.valid (rules : chess.Rules) (texts : chess.TextBounds) {g g' : PersistedGame}
    (h : Writes chess.engine g op answer g') (hop : op.Served chess.engine)
    (hrecorded : g.Recorded chess) (hbounded : g.Bounded)
    (hold : g.integersFit ∧ g.rowChecks) (hnew : g'.integersFit ∧ g'.rowChecks) :
    answer.Valid := by
  cases h with
  | @submitMove m guests observation hg _ ho hm =>
    subst hg
    have hack := hm.acknowledgement rules hrecorded.history hrecorded.acknowledged hold hnew ho
      (hop.observed observation rfl) hop.arguments
    obtain ⟨submission,hs⟩ := Option.ne_none_iff_exists'.mp hack
    have hvalid := MoveSubmission.Valid.of_schema hs (hm.bounded rules texts hbounded).2
    simp only [persistedSubmissionSchema,persistedSubmission] at hs
    split_ifs at hs
    cases hs
    exact ⟨hvalid.accepted,hvalid.started,hvalid.ended⟩
  | resign _ _ _ _ =>
    exact terminalSubmission_valid rules hrecorded hbounded (hop.observed _ rfl) rfl rfl rfl hnew
  | reset _ _ _ =>
    exact terminalSubmission_valid rules hrecorded hbounded (hop.observed _ rfl) rfl rfl rfl hnew
  | @adjudicate op observation event _ _ he _ _ =>
    have ho : op.observation = some observation := by
      cases op with
      | adjudicateTimeout _ o =>
        obtain ⟨_,_,h⟩ := Option.map_eq_some_iff.mp he
        exact congrArg some (congrArg Prod.fst h)
      | adjudicateNoShow _ o =>
        obtain ⟨_,_,h⟩ := Option.map_eq_some_iff.mp he
        exact congrArg some (congrArg Prod.fst h)
      | adjudicateAbandonment _ _ o =>
        obtain ⟨_,_,h⟩ := Option.map_eq_some_iff.mp he
        exact congrArg some (congrArg Prod.fst h)
      | _ => cases he
    exact terminalSubmission_valid rules hrecorded hbounded (hop.observed _ ho) rfl rfl rfl hnew
  | _ => trivial

theorem Reads.valid (h : Reads db op answer)
    (hbounded : ∀ id g, db.games.find id = some g → g.Bounded) : answer.Valid := by
  cases h with
  | rejected h =>
    unfold Answer.rejected at h
    split at h <;> trivial
  | @move _ input g c s _ hg hc hr =>
    have hcommand := (hbounded _ g hg).commands c (List.mem_of_find?_eq_some hc)
    unfold replayResult at hr
    split_ifs at hr
    split at hr
    · cases hr
    · rename_i submission hschema
      cases hr
      exact MoveSubmission.Valid.of_schema hschema hcommand
  | @resignation _ input g c s _ hg hc hr =>
    have hcommand := (hbounded _ g hg).commands c (List.mem_of_find?_eq_some hc)
    unfold replayResignation at hr
    split_ifs at hr
    split at hr
    · cases hr
    · rename_i submission hschema
      cases hr
      exact EndedGame.Valid.of_schema hschema hcommand
  | _ => trivial

theorem execute_valid (rules : chess.Rules) (texts : chess.TextBounds)
    (h : db.ServedReachable chess.engine) (hop : op.Served chess.engine) :
    (execute chess.engine db op).1.Valid := by
  have hbounded := h.bounded rules texts
  have hafter : (execute chess.engine db op).2.RowsChecked := (h.reachable.run [op]).rowsChecked
  cases execute_outcome chess.engine db op with
  | session _ ha _ => rw [ha]; trivial
  | kept _ hr => exact hr.valid hbounded
  | allocated _ _ _ ha => rw [ha]; trivial
  | @wrote id g g' _ _ hw hwrites =>
    exact hwrites.valid rules texts hop (h.recorded rules id g hw.found) (hbounded id g hw.found)
      (h.reachable.rowsChecked id g hw.found) (hafter id g' hw.find_self)

def sampleStamp : Stamp := ⟨sampleId 60,5000⟩

theorem sampleStamp_valid : sampleStamp.Valid := ⟨by decide,by decide⟩

theorem sampleChess_texts : sampleChess.TextBounds where
  fen p := by
    cases p <;> decide
  san {p source promotion target p' m} h := by
    rcases sampleChess_move h with ⟨_,⟨_,_,_,_,rfl⟩ | ⟨_,_,_,_,rfl⟩⟩
    · decide
    · decide

theorem Answer.Valid.sendable_iff (h : answer.Valid) : answer.Sendable ↔ answer.ShortPgn := by
  have hstamps : Stamps.Valid ⟨sampleStamp,sampleStamp,sampleStamp⟩ :=
    ⟨sampleStamp_valid,sampleStamp_valid,sampleStamp_valid⟩
  have hrequest : RequestIds.Valid ⟨sampleId 61,sampleId 62⟩ := ⟨by decide,by decide⟩
  unfold Answer.Sendable Answer.ShortPgn
  unfold Answer.Valid at h
  split at h
  · have hiff := fun (stamps : Stamps) (hs : stamps.Valid) =>
      publishSubmission_ok_iff hs h.accepted h.started h.ended
    exact ⟨fun hsend => (hiff _ hstamps).mp (hsend.1 _ hstamps),fun hpgn =>
      ⟨fun stamps hs => (hiff stamps hs).mpr hpgn,fun request hr => acknowledgeMove_ok hr h.accepted⟩⟩
  · exact ⟨fun hsend => (acknowledgeResignation_ok_iff hrequest h).mp (hsend.2 _ hrequest),
      fun hpgn => ⟨fun stamp hs => (completeTerminal_ok_iff hs h).mpr fun _ => hpgn,
        fun request hr => (acknowledgeResignation_ok_iff hr h).mpr hpgn⟩⟩
  · exact ⟨fun hsend => (completeTerminal_ok_iff sampleStamp_valid h).mp (hsend _ sampleStamp_valid),
      fun hpgn stamp hs => (completeTerminal_ok_iff hs h).mpr hpgn⟩
  · trivial

end Valid

/-- A committed outcome can be announced and acknowledged exactly when the PGN of the game that
it ended has at most 16,384 characters. -/
theorem committed_outcome_sendable_iff {chess : ChessJs} (rules : chess.Rules)
    (texts : chess.TextBounds) {db : Db} (hdb : db.ServedReachable chess.engine) {op : Operation}
    (hop : op.Served chess.engine) : (execute chess.engine db op).1.Sendable ↔
      (execute chess.engine db op).1.ShortPgn :=
  (execute_valid rules texts hdb hop).sendable_iff

theorem committed_outcome_sendable_sample : (execute sampleChess.engine samplePlayed
    (.resign ⟨sampleId 32,4,sampleId 10,sampleId 1⟩ 10000000)).1.Sendable := by
  have hserved : (Operation.resign ⟨sampleId 32,4,sampleId 10,sampleId 1⟩ 10000000).Served
      sampleChess.engine := .of_observation trivial rfl ⟨by decide,by decide⟩
  refine (committed_outcome_sendable_iff sampleChess_rules sampleChess_texts samplePlayed_reachable
    hserved).mpr ?_
  show jsLength (samplePgn "\n1. e4 e5 *") ≤ maxPgnLength
  decide

end CluChess
