import CluChess.CommittedWrites
import CluChess.MoveHistory
import CluChess.MoveSubmission

/-! What an answer to `submitMove` says about the move that was asked for: on the path of the
transaction, on the replay inside it, and on the recovery after a unique violation. -/
namespace CluChess

def MoveInput.uci (move : MoveInput) : String :=
  uciText move.source move.target (move.promotion.map PromotionPiece.toText)

/-- A pawn that is moved to the last rank with a promotion piece is promoted. -/
def ChessJs.Promotes (chess : ChessJs) : Prop :=
  ∀ {p : chess.Position} {source target : String} {piece : PromotionPiece} {p' : chess.Position}
    {m : ChessMove}, chess.move p source (some piece.toText) target = some (p',m) →
    chess.pawnAt p source = true → slice target 1 2 ∈ ["1","8"] → m.promotion ≠ none

def Operation.submitted : Operation → Option SubmitMove
  | .submitMove input _ => some input
  | .recoverMove input => some input
  | _ => none

def Db.commandOf (db : Db) (key : GameId × EventId) : Option GameCommand :=
  (db.games.find key.1).bind fun g => g.command key.2

structure AcceptsMove (e : RepositoryEvent) (first : SubmitMove) (s : MoveSubmission) :
    Prop where
  input : ∃ observation, e.input = .submitMove first observation
  answer : e.answer = .move (.ok s)
  fresh : s.duplicate = false

/-- What the answer to a call says about the move, after a history of events. A duplicate
describes the move of the call that was accepted first. -/
structure Acknowledges (history : List RepositoryEvent) (input : SubmitMove)
    (s : MoveSubmission) : Prop where
  gameId : s.accepted.gameId = input.gameId
  clientMoveId : s.accepted.clientMoveId = input.clientMoveId
  fresh : s.duplicate = false → s.accepted.uci = input.move.uci
  replay : s.duplicate = true → ∃ e ∈ history, ∃ first s', AcceptsMove e first s' ∧
    first.gameId = input.gameId ∧ first.clientMoveId = input.clientMoveId ∧
    first.guestSessionId = input.guestSessionId ∧ s = { s' with duplicate := true } ∧
    s.accepted.uci = first.move.uci

/-- The identifier of the call belongs to another command of the game or to the other player. -/
structure ReusesIdentifier (db : Db) (input : SubmitMove) (g : PersistedGame)
    (c : GameCommand) : Prop where
  found : db.games.find input.gameId = some g
  recorded : g.command input.clientMoveId = some c
  member : (g.playerFor input.guestSessionId).isSome
  other : c.commandType ≠ .move ∨ c.guestSessionId ≠ input.guestSessionId

def Answer.reused (answer : Answer) : Prop :=
  ∃ e, answer = .move (.error (.service e)) ∧ e.code = .idempotencyKeyReused

section Evaluation

variable {chess : ChessJs}

theorem ChessJs.applyProposal_uci (rules : chess.Rules) (promotes : chess.Promotes)
    {position after : chess.Position} {proposal : MoveInput} {plyNumber : ℕ} {fenBefore : String}
    {applied : AppliedMove}
    (h : chess.applyProposal position proposal plyNumber fenBefore = .ok (after,applied)) :
    applied.uci = proposal.uci := by
  unfold applyProposal at h
  split_ifs at h with hsquare hpromotion
  simp only at h
  split at h
  · cases h
  · rename_i after' move hmove
    cases h
    obtain ⟨hsource,htarget,hpiece,_⟩ := rules.components hmove
    have hsame : move.promotion = proposal.promotion.map PromotionPiece.toText := by
      cases hp : proposal.promotion with
      | none =>
        rw [hp] at hpiece
        exact hpiece.elim id id
      | some piece =>
        have hallowed : chess.pawnAt position proposal.source = true ∧
            slice proposal.target 1 2 ∈ ["1","8"] := by
          rw [hp] at hpromotion
          have hboth := fun h => hpromotion ⟨Option.some_ne_none _,h⟩
          exact ⟨Bool.of_not_eq_false fun he => hboth (Or.inl he),
            by_contra fun he => hboth (Or.inr he)⟩
        rw [hp] at hmove hpiece
        exact hpiece.resolve_left (promotes hmove hallowed.1 hallowed.2)
    show uciText move.source move.target move.promotion = _
    rw [hsource,htarget,hsame]
    rfl

theorem ChessJs.evaluateMove_uci (rules : chess.Rules) (promotes : chess.Promotes)
    {input : EvaluateMoveInput} {evaluation : MoveEvaluation}
    (h : chess.evaluateMove input = .ok evaluation) :
    evaluation.applied.uci = input.move.uci := by
  obtain ⟨before,_,h⟩ := bind_eq_ok.mp h
  simp only at h
  split_ifs at h
  obtain ⟨⟨after,applied⟩,happly,h⟩ := bind_eq_ok.mp h
  cases h
  exact applyProposal_uci rules promotes happly

theorem AdmittedMove.Admitted.uci (rules : chess.Rules) (promotes : chess.Promotes)
    {m : AdmittedMove} {guests : GuestSessionId × GuestSessionId}
    (hm : m.Admitted chess.engine guests) : m.evaluation.applied.uci = m.input.move.uci := by
  obtain ⟨_,_,_,_,_,hev,_⟩ := admitMove_ok hm.admitted
  exact ChessJs.evaluateMove_uci rules promotes hev

end Evaluation

section Commands

variable {chess : ChessEngine} {db : Db} {op : Operation} {key : GameId × EventId}
  {c : GameCommand}

theorem command_append {commands : List GameCommand} {added : GameCommand} {eventId : EventId}
    (h : (commands ++ [added]).find? (fun c => c.eventId = eventId) = some c) :
    commands.find? (fun c => c.eventId = eventId) = some c ∨ c = added ∧ added.eventId = eventId := by
  rw [List.find?_append,Option.or_eq_some_iff] at h
  rcases h with hold | ⟨_,hnew⟩
  · exact Or.inl hold
  · have hmem := List.mem_singleton.mp (List.mem_of_find?_eq_some hnew)
    have hid : c.eventId = eventId := by simpa using List.find?_some hnew
    exact Or.inr ⟨hmem,hmem ▸ hid⟩

theorem Writes.command {g g' : PersistedGame} {answer : Answer} {eventId : EventId}
    (h : Writes chess g op answer g') (hc : g'.command eventId = some c) :
    g.command eventId = some c ∨ c.commandType = .resign ∨
      ∃ (m : AdmittedMove) (guests : GuestSessionId × GuestSessionId) (observation : Micros),
        m.game = g ∧ op = .submitMove m.input observation ∧
        answer = .move (.ok (m.submission guests)) ∧ m.Admitted chess guests ∧
        m.input.gameId = g.id ∧ g' = m.row guests ∧ m.input.clientMoveId = eventId ∧
        c = m.command guests := by
  cases h with
  | @submitMove m guests observation hg hid _ hm =>
    subst hg
    rcases command_append (show (m.game.commands ++ [m.command guests]).find? _ = _ from hc) with
      hold | ⟨hnew,hevent⟩
    · exact Or.inl hold
    · exact Or.inr (Or.inr ⟨m,guests,observation,rfl,rfl,rfl,hm,hid,rfl,hevent,hnew⟩)
  | @resign input player observation outcome guests hplayer hs ho hp =>
    rcases command_append (show (g.commands ++ [resignCommand input
      (terminalSubmission g (g.locked observation) outcome guests)]).find? _ = _ from hc) with
      hold | ⟨hnew,_⟩
    · exact Or.inl hold
    · exact Or.inr (Or.inl (hnew ▸ rfl))
  | _ => exact Or.inl hc

theorem execute_commandOf (chess : ChessEngine) (db : Db) (op : Operation)
    (h : (execute chess db op).2.commandOf key = some c) (ht : c.commandType = .move) :
    db.commandOf key = some c ∨
      ∃ m guests, Submits chess db op m guests ∧ key = (m.input.gameId,m.input.clientMoveId) ∧
        c = m.command guests := by
  cases execute_outcome chess db op with
  | session _ _ hdb =>
    refine Or.inl ?_
    rw [Db.commandOf,(Outcome.frame_session hdb).1] at h
    exact h
  | kept hdb _ =>
    rw [hdb] at h
    exact Or.inl h
  | allocated _ _ hnew _ =>
    unfold Db.commandOf at h ⊢
    rw [hnew.find] at h
    split_ifs at h
    · cases h
    · exact Or.inl h
  | @wrote id g g' _ _ hw hwrites =>
    unfold Db.commandOf at h
    rw [hw.find] at h
    split_ifs at h with hid
    · rcases hwrites.command h with hold | htype |
        ⟨m,guests,observation,rfl,hop,hanswer,hm,hgame,rfl,hevent,hc⟩
      · refine Or.inl ?_
        rw [Db.commandOf,hid,hw.found]
        exact hold
      · rw [ht] at htype
        cases htype
      · have hkey : m.input.gameId = id := hgame.trans (Table.find_key hw.found)
        refine Or.inr ⟨m,guests,⟨⟨observation,hop⟩,hm,?_,hanswer⟩,?_,hc⟩
        · rw [hkey]
          exact hw
        · exact Prod.ext (hid.trans hkey.symm) hevent.symm
    · exact Or.inl h

theorem commandOf_committed (chess : ChessEngine) (guestSessions : Table GuestSession.id)
    (sessionCommands : Table SessionCommand.idempotencyHash) (history : List Operation)
    (h : ((repositories chess).run (.initial guestSessions sessionCommands) history).commandOf
      key = some c) (ht : c.commandType = .move) :
    ∃ e ∈ (repositories chess).events (.initial guestSessions sessionCommands) history,
      ∃ (m : AdmittedMove) (guests : GuestSessionId × GuestSessionId),
        AcceptsMove e m.input (m.submission guests) ∧ m.Admitted chess guests ∧
        m.game.id = m.input.gameId ∧ key = (m.input.gameId,m.input.clientMoveId) ∧
        c = m.command guests := by
  have hinitial : ¬ (Db.initial guestSessions sessionCommands).commandOf key = some c := by
    simp [Db.commandOf,Db.initial]
  obtain ⟨e,he,hbefore,hafter⟩ := (repositories chess).exists_enters
    (P := fun db => db.commandOf key = some c) hinitial h
  obtain ⟨pre,post,_,hevent⟩ := (repositories chess).mem_events_split he
  rw [hevent] at hbefore hafter
  rcases execute_commandOf chess _ _ hafter ht with hold | ⟨m,guests,hs,hkey,hc⟩
  · exact absurd hold hbefore
  · obtain ⟨observation,hinput⟩ := hs.input
    have haccepts : AcceptsMove e m.input (m.submission guests) := by
      rw [hevent]
      exact ⟨⟨observation,hinput⟩,hs.answer,rfl⟩
    exact ⟨e,he,m,guests,haccepts,hs.admitted,Table.find_key hs.wrote.found,hkey,hc⟩

end Commands

section Answers

variable {chess : ChessJs} {db : Db} {op : Operation} {input : SubmitMove} {s : MoveSubmission}

theorem replayResult_command {m : AdmittedMove} {guests : GuestSessionId × GuestSessionId}
    (h : replayResult (m.command guests) input = .accepted s) :
    m.input.guestSessionId = input.guestSessionId ∧
      s = { m.submission guests with duplicate := true } := by
  unfold replayResult at h
  split_ifs at h with hother
  have hguest : m.input.guestSessionId = input.guestSessionId :=
    not_not.mp fun hne => hother (Or.inr hne)
  simp only [AdmittedMove.command,persistedSubmission,persistedSubmissionSchema] at h
  split_ifs at h
  cases h
  exact ⟨hguest,rfl⟩

/-- An answer to a call is that of the transaction, or is read from a recorded command. -/
theorem submitted_answer (hs : op.submitted = some input)
    (h : (execute chess.engine db op).1 = .move (.ok s)) :
    (∃ (m : AdmittedMove) (guests : GuestSessionId × GuestSessionId), m.input = input ∧
      m.Admitted chess.engine guests ∧ m.game.id = m.input.gameId ∧ s = m.submission guests) ∨
    ∃ c, db.commandOf (input.gameId,input.clientMoveId) = some c ∧
      replayResult c input = .accepted s := by
  cases op with
  | submitMove input' observation =>
    cases hs
    have hok : (db.submitMove chess.engine input observation).1 = .ok s := Answer.move.inj h
    obtain ⟨r,db',hw,ha,_⟩ := Db.answered_cases hok
    obtain rfl := moveAnswer_ok ha
    rcases submitInTransaction_ok hw with ⟨_,_,hrej⟩ | ⟨g,c,hg,hc,_,hrep⟩ |
      ⟨m,guests,hinput,_,hm,hwrote,hacc⟩
    · cases hrej
    · refine Or.inr ⟨c,?_,hrep.symm⟩
      rw [Db.commandOf,hg]
      exact hc
    · cases hacc
      exact Or.inl ⟨m,guests,hinput,hm,hinput ▸ Table.find_key hwrote.found,rfl⟩
  | recoverMove input' =>
    cases hs
    have hok : db.recoverMove input = .ok s := Answer.move.inj h
    unfold Db.recoverMove Db.findReplay at hok
    cases hc : (db.games.find input.gameId).bind fun g => g.command input.clientMoveId with
    | none => simp [hc] at hok
    | some c =>
      simp only [hc] at hok
      cases hr : Db.moveAnswer (replayResult c input) with
      | error e => simp [hr,Except.map] at hok
      | ok s' =>
        simp only [hr,Except.map] at hok
        cases hok
        exact Or.inr ⟨c,hc,moveAnswer_ok hr⟩
  | _ => cases hs

def identifierReused : Rejection :=
  rejected .idempotencyKeyReused "The move identifier was already used for a different command."
    false

theorem replayResult_other {c : GameCommand}
    (h : c.commandType ≠ .move ∨ c.guestSessionId ≠ input.guestSessionId) :
    replayResult c input = .rejected identifierReused := if_pos h

theorem reused_rejected {g : PersistedGame} {c : GameCommand} (hs : op.submitted = some input)
    (h : ReusesIdentifier db input g c)
    (hcasts : ∀ observation, op = .submitMove input observation → g.ClockCasts observation) :
    (execute chess.engine db op).1.reused := by
  have hreplay := replayResult_other h.other
  cases op with
  | submitMove input' observation =>
    cases hs
    obtain ⟨player,hplayer⟩ := Option.isSome_iff_exists.mp h.member
    have hrun : db.submitInTransaction chess.engine input observation =
        .ok (replayResult c input,db) := by
      unfold Db.submitInTransaction
      rw [Db.lockGameClock_eq h.found (hcasts observation rfl)]
      simp only [bind,Except.bind,h.found,hplayer,h.recorded]
    rw [hreplay] at hrun
    refine ⟨moveError identifierReused,?_,rfl⟩
    show Answer.move (db.submitMove chess.engine input observation).1 = _
    rw [Db.submitMove,hrun]
    rfl
  | recoverMove input' =>
    cases hs
    refine ⟨moveError identifierReused,?_,rfl⟩
    show Answer.move (db.recoverMove input) = _
    have hcommand : ((db.games.find input.gameId).bind fun g => g.command input.clientMoveId) =
        some c := by
      rw [h.found]
      exact h.recorded
    unfold Db.recoverMove Db.findReplay
    simp only [hcommand,hreplay]
    rfl
  | _ => cases hs

end Answers

/-- After every history, a call of `submitMove` that succeeds is answered with the move that it
asks for, or with the move of the call that used its identifier first; and an identifier of
another command or of the other player is refused. -/
theorem submitted_move_acknowledged {chess : ChessJs} (rules : chess.Rules)
    (promotes : chess.Promotes) (guestSessions : Table GuestSession.id)
    (sessionCommands : Table SessionCommand.idempotencyHash) (history : List Operation)
    (op : Operation) (input : SubmitMove) (hop : op.submitted = some input) :
    let before := (repositories chess.engine).run (.initial guestSessions sessionCommands) history
    let answer := ((repositories chess.engine).event before op).answer
    (∀ s, answer = .move (.ok s) → Acknowledges
      ((repositories chess.engine).events (.initial guestSessions sessionCommands) history)
      input s) ∧
    ∀ g c, ReusesIdentifier before input g c →
      (∀ observation, op = .submitMove input observation → g.ClockCasts observation) →
      answer.reused := by
  intro before answer
  refine ⟨fun s hs => ?_,fun g c hreuse hcasts => reused_rejected hop hreuse hcasts⟩
  rcases submitted_answer hop hs with ⟨m,guests,rfl,hm,hid,rfl⟩ | ⟨c,hc,hreplay⟩
  · exact ⟨hid,rfl,fun _ => hm.uci rules promotes,nofun⟩
  · have htype : c.commandType = .move := by
      by_contra hne
      rw [replayResult_other (Or.inl hne)] at hreplay
      cases hreplay
    obtain ⟨e,he,m,guests,haccepts,hm,hid,hkey,rfl⟩ := commandOf_committed chess.engine
      guestSessions sessionCommands history hc htype
    obtain ⟨hguest,rfl⟩ := replayResult_command hreplay
    obtain ⟨hgame,hmove⟩ := Prod.mk.inj hkey
    refine ⟨hid.trans hgame.symm,hmove.symm,nofun,fun _ => ?_⟩
    exact ⟨e,he,m.input,m.submission guests,haccepts,hgame.symm,hmove.symm,hguest,rfl,
      hm.uci rules promotes⟩

section Sample

theorem sampleChess_promotes : sampleChess.Promotes := by
  intro p source target piece p' m hmove
  have hnone := (sampleChess_move hmove).1
  cases hnone

/-- White asks for another move under the identifier of e4. -/
def sampleReused : SubmitMove := { sampleMove with move := ⟨"d2",none,"d4"⟩ }

def sampleReusedAnswer : Answer :=
  (execute sampleChess.engine ((repositories sampleChess.engine).run
    (.initial sampleSessions .empty) sampleMoved) (.submitMove sampleReused 9000000)).1

end Sample

theorem submitted_move_acknowledged_sample : ∃ s,
    (execute sampleChess.engine ((repositories sampleChess.engine).run
      (.initial sampleSessions .empty) sampleStart) (.submitMove sampleMove 8000000)).1 =
        .move (.ok s) ∧ s.duplicate = false ∧ s.accepted.uci = "e2e4" := by
  refine ⟨_,rfl,rfl,?_⟩
  exact ((submitted_move_acknowledged sampleChess_rules sampleChess_promotes sampleSessions .empty
    sampleStart (.submitMove sampleMove 8000000) sampleMove rfl).1 _ rfl).fresh rfl

theorem reused_identifier_answers_first_move : ∃ s, sampleReusedAnswer = .move (.ok s) ∧
    s.accepted.uci = "e2e4" ∧ sampleReused.move.uci = "d2d4" ∧ ¬ sampleReusedAnswer.reused := by
  have hanswer : ∃ s, sampleReusedAnswer = .move (.ok s) ∧ s.accepted.uci = "e2e4" :=
    ⟨_,rfl,rfl⟩
  obtain ⟨s,hs,huci⟩ := hanswer
  refine ⟨s,hs,huci,by decide,?_⟩
  rintro ⟨e,he,_⟩
  rw [hs] at he
  cases he

end CluChess
