import CluChess.JsonSchema
import CluChess.SendableOutcomes
import CluChess.UuidText

/-! The acknowledgements of `game_commands.response` as JSON: the objects that are stored, the
strict schemas that a replay reads them with, and what it makes of them. The text of the
identifier of a move is stored as the client has spelled it. -/
namespace CluChess

open Json

/-! ### The stored objects -/

namespace Jsonb

def colorTable : List (String × PlayerColor) := [("b",.b),("w",.w)]

def resultTable : List (String × GameResult) :=
  [("black_win",.blackWin),("draw",.draw),("void",.void),("white_win",.whiteWin)]

def terminationTable : List (String × GameTermination) :=
  [("abandonment",.abandonment),("checkmate",.checkmate),("double_abandon",.doubleAbandon),
    ("fifty_move",.fiftyMove),("insufficient_material",.insufficientMaterial),
    ("no_show",.noShow),("resignation",.resignation),("stalemate",.stalemate),
    ("threefold_repetition",.threefoldRepetition),("timeout",.timeout)]

def colorText : PlayerColor → String
  | .b => "b"
  | .w => "w"

def resultText : GameResult → String
  | .blackWin => "black_win"
  | .draw => "draw"
  | .void => "void"
  | .whiteWin => "white_win"

def terminationText : GameTermination → String
  | .abandonment => "abandonment"
  | .checkmate => "checkmate"
  | .doubleAbandon => "double_abandon"
  | .fiftyMove => "fifty_move"
  | .insufficientMaterial => "insufficient_material"
  | .noShow => "no_show"
  | .resignation => "resignation"
  | .stalemate => "stalemate"
  | .threefoldRepetition => "threefold_repetition"
  | .timeout => "timeout"

def clockJson (clocks : GameplayClock) : Json := .object [
  ("blackMs",.number clocks.blackMs),
  ("observedAt",.number clocks.observedAt),
  ("running",ofNullable (fun color => .text (colorText color)) clocks.running),
  ("whiteMs",.number clocks.whiteMs)]

def acceptedJson (clientMoveId : String) (accepted : AcceptedMove) : Json := .object [
  ("check",.boolean accepted.check),
  ("clientMoveId",.text clientMoveId),
  ("clocks",clockJson accepted.clocks),
  ("fenAfter",.text accepted.fenAfter),
  ("gameId",.text (uuidText accepted.gameId)),
  ("gameVersion",.number accepted.gameVersion),
  ("ply",.number accepted.ply),
  ("san",.text accepted.san),
  ("turn",.text (colorText accepted.turn)),
  ("uci",.text accepted.uci)]

def startedJson (started : StartedGame) : Json := .object [
  ("clocks",clockJson started.clocks),
  ("gameId",.text (uuidText started.gameId)),
  ("gameVersion",.number started.gameVersion),
  ("initialFen",.text started.initialFen)]

def endedJson (ended : EndedGame) : Json := .object [
  ("clocks",clockJson ended.clocks),
  ("finalFen",.text ended.finalFen),
  ("gameId",.text (uuidText ended.gameId)),
  ("gameVersion",.number ended.gameVersion),
  ("pgn",.text ended.pgn),
  ("result",.text (resultText ended.result)),
  ("termination",.text (terminationText ended.termination))]

def guestsJson (guests : GuestSessionId × GuestSessionId) : Json :=
  .array [.text (uuidText guests.1),.text (uuidText guests.2)]

/-- `persistedSubmission`, with the text of the client's `clientMoveId`. -/
def persistedSubmission (clientMoveId : String) (submission : MoveSubmission) : Json := .object [
  ("accepted",acceptedJson clientMoveId submission.accepted),
  ("ended",ofNullable endedJson submission.ended),
  ("guestSessionIds",guestsJson submission.guestSessionIds),
  ("started",ofNullable startedJson submission.started)]

/-- The response that `resignInTransaction` stores. -/
def persistedResignation (submission : TerminalSubmission) : Json := .object [
  ("ended",endedJson submission.ended),
  ("guestSessionIds",guestsJson submission.guestSessionIds)]

/-! ### The schemas -/

def uuidSchema : Schema Uuid := fun j => (textSchema isUuidV4Text j).map uuidOf

def nonnegativeIntSchema : Schema ℤ := numberSchema isNonnegativeInt

def versionSchema : Schema ℕ := fun j => (nonnegativeIntSchema j).map Int.toNat

/-- `z.number().int().positive()`. -/
def positiveIntSchema : Schema ℕ := fun j =>
  (numberSchema (fun n => isSafeInteger n && decide (0 < n)) j).map Int.toNat

def nonemptySchema : Schema String := textSchema isNonempty

def colorSchema : Schema PlayerColor := enumSchema colorTable

/-- The clocks of a move; `running` is `clockSchema` or `null`. -/
def clockSchemaWith (running : Schema (Option PlayerColor)) : Schema GameplayClock :=
  strictObject ["blackMs","observedAt","running","whiteMs"] fun fields => do
    let blackMs ← field fields "blackMs" nonnegativeIntSchema
    let observedAt ← field fields "observedAt" nonnegativeIntSchema
    let running ← field fields "running" running
    let whiteMs ← field fields "whiteMs" nonnegativeIntSchema
    return ⟨blackMs,observedAt,running,whiteMs⟩

def gameplayClockSchema : Schema GameplayClock := clockSchemaWith (nullableSchema colorSchema)

/-- `clockSchema` of `prisma-game-lifecycle.repository.ts`. -/
def clockSchema : Schema GameplayClock :=
  clockSchemaWith fun j => (nullSchema j).map fun _ => none

def acceptedMoveSchema : Schema AcceptedMove :=
  strictObject ["check","clientMoveId","clocks","fenAfter","gameId","gameVersion","ply","san",
      "turn","uci"] fun fields => do
    let check ← field fields "check" booleanSchema
    let clientMoveId ← field fields "clientMoveId" uuidSchema
    let clocks ← field fields "clocks" gameplayClockSchema
    let fenAfter ← field fields "fenAfter" nonemptySchema
    let gameId ← field fields "gameId" uuidSchema
    let gameVersion ← field fields "gameVersion" versionSchema
    let ply ← field fields "ply" positiveIntSchema
    let san ← field fields "san" nonemptySchema
    let turn ← field fields "turn" colorSchema
    let uci ← field fields "uci" (textSchema isUci)
    return ⟨check,clientMoveId,clocks,fenAfter,gameId,gameVersion,ply,san,turn,uci⟩

def startedGameSchema : Schema StartedGame :=
  strictObject ["clocks","gameId","gameVersion","initialFen"] fun fields => do
    let clocks ← field fields "clocks" gameplayClockSchema
    let gameId ← field fields "gameId" uuidSchema
    let gameVersion ← field fields "gameVersion" versionSchema
    let initialFen ← field fields "initialFen" nonemptySchema
    return ⟨clocks,gameId,gameVersion,initialFen⟩

/-- `endedGameSchema` and `endedSchema`, which differ in the clocks. -/
def endedSchemaWith (clocks : Schema GameplayClock) : Schema EndedGame :=
  strictObject ["clocks","finalFen","gameId","gameVersion","pgn","result","termination"]
    fun fields => do
    let clocks ← field fields "clocks" clocks
    let finalFen ← field fields "finalFen" nonemptySchema
    let gameId ← field fields "gameId" uuidSchema
    let gameVersion ← field fields "gameVersion" versionSchema
    let pgn ← field fields "pgn" (textSchema fun _ => true)
    let result ← field fields "result" (enumSchema resultTable)
    let termination ← field fields "termination" (enumSchema terminationTable)
    return ⟨clocks,finalFen,gameId,gameVersion,pgn,result,termination⟩

def endedGameSchema : Schema EndedGame := endedSchemaWith gameplayClockSchema

def endedSchema : Schema EndedGame := endedSchemaWith clockSchema

def guestsSchema : Schema (GuestSessionId × GuestSessionId) := tupleSchema uuidSchema uuidSchema

/-- `persistedSubmissionSchema`, with the flag of a replay. -/
def persistedSubmissionSchema : Schema MoveSubmission :=
  strictObject ["accepted","ended","guestSessionIds","started"] fun fields => do
    let accepted ← field fields "accepted" acceptedMoveSchema
    let ended ← field fields "ended" (nullableSchema endedGameSchema)
    let guestSessionIds ← field fields "guestSessionIds" guestsSchema
    let started ← field fields "started" (nullableSchema startedGameSchema)
    return ⟨accepted,true,ended,guestSessionIds,started⟩

/-- `storedTerminalSchema`, with the flag of a replay. -/
def storedTerminalSchema : Schema TerminalSubmission :=
  strictObject ["ended","guestSessionIds"] fun fields => do
    let ended ← field fields "ended" endedSchema
    let guestSessionIds ← field fields "guestSessionIds" guestsSchema
    return ⟨true,ended,guestSessionIds⟩

/-! ### Replays -/

/-- A row of `game_commands` as a replay reads it. -/
structure Command where
  commandType : CommandType
  guestSessionId : GuestSessionId
  response : Json

/-- `replayResult` of the moves. -/
def replayMove (command : Command) (input : SubmitMove) : MoveTransactionResult :=
  if command.commandType ≠ .move ∨ command.guestSessionId ≠ input.guestSessionId then
    .rejected (rejected .idempotencyKeyReused
      "The move identifier was already used for a different command." false)
  else
    match persistedSubmissionSchema command.response with
    | none => .rejected (rejected .gameStateCorrupt
        "The stored move acknowledgement is invalid." false)
    | some submission => .accepted submission

/-- `replayResult` of the resignations. -/
def replayResignation (command : Command) (input : ResignGame) : ResignTransactionResult :=
  if command.commandType ≠ .resign ∨ command.guestSessionId ≠ input.guestSessionId then
    .rejected (rejected .idempotencyKeyReused
      "The event identifier was already used for a different command." false)
  else
    match storedTerminalSchema command.response with
    | none => .rejected (rejected .idempotencyKeyReused
        "The stored resignation acknowledgement is invalid." false)
    | some submission => .accepted submission

/-! ### Reading back -/

theorem colorSchema_reads (color : PlayerColor) :
    ReadAs colorSchema (.text (colorText color)) color := by
  apply ReadAs.enum
  cases color <;> rfl

theorem resultSchema_reads (result : GameResult) :
    ReadAs (enumSchema resultTable) (.text (resultText result)) result := by
  apply ReadAs.enum
  cases result <;> rfl

theorem terminationSchema_reads (termination : GameTermination) :
    ReadAs (enumSchema terminationTable) (.text (terminationText termination)) termination := by
  apply ReadAs.enum
  cases termination <;> rfl

theorem uuidSchema_reads {id : Uuid} (h : isUuidV4 id = true) :
    ReadAs uuidSchema (.text (uuidText id)) id := .uuid h

theorem versionSchema_reads {n : ℕ} (h : isNonnegativeInt n = true) :
    ReadAs versionSchema (.number n) n := (ReadAs.number h).map (f := Int.toNat)

theorem positiveIntSchema_reads {n : ℕ} (h : isNonnegativeInt n = true) (hpos : 0 < n) :
    ReadAs positiveIntSchema (.number n) n := by
  have hsafe : isSafeInteger n = true := (Bool.and_eq_true _ _ ▸ h).1
  have hvalid : (isSafeInteger n && decide (0 < (n : ℤ))) = true := by
    rw [hsafe,Bool.true_and,decide_eq_true_eq]
    exact Int.natCast_pos.mpr hpos
  exact (ReadAs.number hvalid).map (f := Int.toNat)

theorem clockSchemaWith_reads {running : Schema (Option PlayerColor)} {clocks : GameplayClock}
    (h : CluChess.gameplayClockSchema clocks = true)
    (hrunning : ReadAs running (ofNullable (fun color => .text (colorText color)) clocks.running)
      clocks.running) :
    ReadAs (clockSchemaWith running) (clockJson clocks) clocks := by
  simp only [CluChess.gameplayClockSchema,Bool.and_eq_true] at h
  obtain ⟨⟨hblack,hobserved⟩,hwhite⟩ := h
  have hint : ∀ {n : ℤ}, isNonnegativeInt n = true →
      ReadAs nonnegativeIntSchema (.number n) n := ReadAs.number
  refine ReadAs.strictObject rfl (by decide) fun stored hholds => ?_
  rw [hholds.field "blackMs" (by simp) (hint hblack),
    hholds.field "observedAt" (by simp) (hint hobserved),
    hholds.field "running" (by simp) hrunning,hholds.field "whiteMs" (by simp) (hint hwhite)]
  rfl

theorem gameplayClockSchema_reads {clocks : GameplayClock}
    (h : CluChess.gameplayClockSchema clocks = true) :
    ReadAs gameplayClockSchema (clockJson clocks) clocks :=
  clockSchemaWith_reads h (ReadAs.nullable rfl _ fun color _ => colorSchema_reads color)

theorem clockSchema_reads {clocks : GameplayClock}
    (h : CluChess.gameplayClockSchema clocks = true) (hrunning : clocks.running = none) :
    ReadAs clockSchema (clockJson clocks) clocks := by
  apply clockSchemaWith_reads h
  rw [hrunning]
  exact ReadAs.null.map (f := fun _ => none)

theorem acceptedMoveSchema_reads {accepted : AcceptedMove} {clientMoveId : String}
    (h : CluChess.acceptedMoveSchema accepted = true) (htext : isUuidV4Text clientMoveId = true)
    (hid : uuidOf clientMoveId = accepted.clientMoveId) :
    ReadAs acceptedMoveSchema (acceptedJson clientMoveId accepted) accepted := by
  simp only [CluChess.acceptedMoveSchema,Bool.and_eq_true,decide_eq_true_eq] at h
  obtain ⟨⟨⟨⟨⟨⟨⟨⟨_,hclocks⟩,hfen⟩,hgame⟩,hversion⟩,hply⟩,hpositive⟩,hsan⟩,huci⟩ := h
  have hmove : ReadAs uuidSchema (.text clientMoveId) accepted.clientMoveId :=
    hid ▸ (ReadAs.text htext).map (f := uuidOf)
  have hnonempty : ∀ {s : String}, isNonempty s = true → ReadAs nonemptySchema (.text s) s :=
    ReadAs.text
  refine ReadAs.strictObject rfl (by decide) fun stored hholds => ?_
  rw [hholds.field "check" (by simp) (ReadAs.boolean accepted.check),
    hholds.field "clientMoveId" (by simp) hmove,
    hholds.field "clocks" (by simp) (gameplayClockSchema_reads hclocks),
    hholds.field "fenAfter" (by simp) (hnonempty hfen),
    hholds.field "gameId" (by simp) (uuidSchema_reads hgame),
    hholds.field "gameVersion" (by simp) (versionSchema_reads hversion),
    hholds.field "ply" (by simp) (positiveIntSchema_reads hply hpositive),
    hholds.field "san" (by simp) (hnonempty hsan),
    hholds.field "turn" (by simp) (colorSchema_reads accepted.turn),
    hholds.field "uci" (by simp) (ReadAs.text huci)]
  rfl

theorem startedGameSchema_reads {started : StartedGame}
    (h : CluChess.startedGameSchema started = true) :
    ReadAs startedGameSchema (startedJson started) started := by
  simp only [CluChess.startedGameSchema,Bool.and_eq_true] at h
  obtain ⟨⟨⟨hclocks,hgame⟩,hversion⟩,hfen⟩ := h
  have hinitial : ReadAs nonemptySchema (.text started.initialFen) started.initialFen :=
    ReadAs.text hfen
  refine ReadAs.strictObject rfl (by decide) fun stored hholds => ?_
  rw [hholds.field "clocks" (by simp) (gameplayClockSchema_reads hclocks),
    hholds.field "gameId" (by simp) (uuidSchema_reads hgame),
    hholds.field "gameVersion" (by simp) (versionSchema_reads hversion),
    hholds.field "initialFen" (by simp) hinitial]
  rfl

theorem endedSchemaWith_reads {clocks : Schema GameplayClock} {ended : EndedGame}
    (h : CluChess.endedGameSchema ended = true)
    (hclocks : ReadAs clocks (clockJson ended.clocks) ended.clocks) :
    ReadAs (endedSchemaWith clocks) (endedJson ended) ended := by
  simp only [CluChess.endedGameSchema,Bool.and_eq_true] at h
  obtain ⟨⟨⟨_,hfen⟩,hgame⟩,hversion⟩ := h
  have hfinal : ReadAs nonemptySchema (.text ended.finalFen) ended.finalFen := ReadAs.text hfen
  have hpgn : ReadAs (textSchema fun _ => true) (.text ended.pgn) ended.pgn := ReadAs.text rfl
  refine ReadAs.strictObject rfl (by decide) fun stored hholds => ?_
  rw [hholds.field "clocks" (by simp) hclocks,hholds.field "finalFen" (by simp) hfinal,
    hholds.field "gameId" (by simp) (uuidSchema_reads hgame),
    hholds.field "gameVersion" (by simp) (versionSchema_reads hversion),
    hholds.field "pgn" (by simp) hpgn,
    hholds.field "result" (by simp) (resultSchema_reads ended.result),
    hholds.field "termination" (by simp) (terminationSchema_reads ended.termination)]
  rfl

theorem endedGameSchema_reads {ended : EndedGame} (h : CluChess.endedGameSchema ended = true) :
    ReadAs endedGameSchema (endedJson ended) ended := by
  have hclocks : CluChess.gameplayClockSchema ended.clocks = true := by
    simp only [CluChess.endedGameSchema,Bool.and_eq_true] at h
    exact h.1.1.1
  exact endedSchemaWith_reads h (gameplayClockSchema_reads hclocks)

theorem endedSchema_reads {ended : EndedGame} (h : CluChess.endedGameSchema ended = true)
    (hrunning : ended.clocks.running = none) : ReadAs endedSchema (endedJson ended) ended := by
  have hclocks : CluChess.gameplayClockSchema ended.clocks = true := by
    simp only [CluChess.endedGameSchema,Bool.and_eq_true] at h
    exact h.1.1.1
  exact endedSchemaWith_reads h (clockSchema_reads hclocks hrunning)

theorem guestsSchema_reads {guests : GuestSessionId × GuestSessionId}
    (h : guestTupleSchema guests = true) : ReadAs guestsSchema (guestsJson guests) guests := by
  simp only [guestTupleSchema,Bool.and_eq_true] at h
  exact (uuidSchema_reads h.1).tuple (uuidSchema_reads h.2)

/-- A stored acknowledgement of a move is read as what was acknowledged. -/
theorem persistedSubmissionSchema_reads {submission replayed : MoveSubmission}
    {clientMoveId : String}
    (h : CluChess.persistedSubmissionSchema (CluChess.persistedSubmission submission) =
      some replayed) (htext : isUuidV4Text clientMoveId = true)
    (hid : uuidOf clientMoveId = submission.accepted.clientMoveId) :
    ReadAs persistedSubmissionSchema (persistedSubmission clientMoveId submission)
      { submission with duplicate := true } := by
  simp only [CluChess.persistedSubmissionSchema,CluChess.persistedSubmission,
    Bool.and_eq_true] at h
  split_ifs at h with hschema
  obtain ⟨⟨⟨haccepted,hended⟩,hguests⟩,hstarted⟩ := hschema
  have hend : ∀ ended ∈ submission.ended, ReadAs endedGameSchema (endedJson ended) ended :=
    fun ended hmem => endedGameSchema_reads ((Option.all_eq_true _ _).mp hended ended hmem)
  have hstart : ∀ started ∈ submission.started,
      ReadAs startedGameSchema (startedJson started) started :=
    fun started hmem => startedGameSchema_reads ((Option.all_eq_true _ _).mp hstarted started hmem)
  refine ReadAs.strictObject rfl (by decide) fun stored hholds => ?_
  rw [hholds.field "accepted" (by simp) (acceptedMoveSchema_reads haccepted htext hid),
    hholds.field "ended" (by simp) (ReadAs.nullable rfl _ hend),
    hholds.field "guestSessionIds" (by simp) (guestsSchema_reads hguests),
    hholds.field "started" (by simp) (ReadAs.nullable rfl _ hstart)]
  rfl

/-- A stored acknowledgement of a resignation is read as what was acknowledged. -/
theorem storedTerminalSchema_reads {submission replayed : TerminalSubmission}
    (h : CluChess.storedTerminalSchema (.terminal submission.ended submission.guestSessionIds) =
      some replayed) :
    ReadAs storedTerminalSchema (persistedResignation submission)
      { submission with duplicate := true } := by
  simp only [CluChess.storedTerminalSchema,Bool.and_eq_true,decide_eq_true_eq] at h
  split_ifs at h with hschema
  obtain ⟨⟨hended,hrunning⟩,hguests⟩ := hschema
  refine ReadAs.strictObject rfl (by decide) fun stored hholds => ?_
  rw [hholds.field "ended" (by simp) (endedSchema_reads hended hrunning),
    hholds.field "guestSessionIds" (by simp) (guestsSchema_reads hguests)]
  rfl

theorem replayMove_accepted {command : Command} {input : SubmitMove}
    {submission : MoveSubmission} (ht : command.commandType = .move)
    (hguest : input.guestSessionId = command.guestSessionId)
    (h : persistedSubmissionSchema command.response = some submission) :
    replayMove command input = .accepted submission := by
  unfold replayMove
  rw [if_neg (by simp [ht,hguest]),h]

theorem replayResignation_accepted {command : Command} {input : ResignGame}
    {submission : TerminalSubmission} (ht : command.commandType = .resign)
    (hguest : input.guestSessionId = command.guestSessionId)
    (h : storedTerminalSchema command.response = some submission) :
    replayResignation command input = .accepted submission := by
  unfold replayResignation
  rw [if_neg (by simp [ht,hguest]),h]

end Jsonb

/-! ### Every stored acknowledgement -/

/-- Every stored form of the acknowledgement of a move replays it. -/
def MoveSubmission.Replays (submission : MoveSubmission) (guest : GuestSessionId) : Prop :=
  ∀ clientMoveId, isUuidV4Text clientMoveId = true →
    uuidOf clientMoveId = submission.accepted.clientMoveId →
    ∀ stored, Stored (Jsonb.persistedSubmission clientMoveId submission) stored →
    ∀ input : SubmitMove, input.guestSessionId = guest →
      Jsonb.replayMove ⟨.move,guest,stored⟩ input = .accepted { submission with duplicate := true }

/-- Every stored form of the acknowledgement of a resignation replays it. -/
def TerminalSubmission.Replays (submission : TerminalSubmission) (guest : GuestSessionId) : Prop :=
  ∀ stored, Stored (Jsonb.persistedResignation submission) stored →
    ∀ input : ResignGame, input.guestSessionId = guest →
      Jsonb.replayResignation ⟨.resign,guest,stored⟩ input =
        .accepted { submission with duplicate := true }

/-- A command as `submitInTransaction` or `resignInTransaction` records it, which every replay
of the same guest and type reads back. -/
def GameCommand.Survives (c : GameCommand) : Prop :=
  match c.commandType with
  | .move => ∃ submission : MoveSubmission, submission.duplicate = false ∧
      c.response = persistedSubmission submission ∧ submission.Replays c.guestSessionId
  | .resign => ∃ submission : TerminalSubmission, submission.duplicate = false ∧
      c.response = .terminal submission.ended submission.guestSessionIds ∧
      submission.Replays c.guestSessionId

def GameCommand.Readable (c : GameCommand) : Prop :=
  match c.commandType with
  | .move => persistedSubmissionSchema c.response ≠ none
  | .resign => storedTerminalSchema c.response ≠ none

theorem GameCommand.Readable.survives {c : GameCommand} (h : c.Readable) : c.Survives := by
  unfold GameCommand.Readable at h
  unfold GameCommand.Survives
  cases ht : c.commandType with
  | move =>
    simp only [ht] at h
    cases hr : c.response with
    | terminal ended guests => simp [hr,persistedSubmissionSchema] at h
    | move accepted ended guests started =>
      let submission : MoveSubmission := ⟨accepted,false,ended,guests,started⟩
      have hsome : persistedSubmissionSchema (persistedSubmission submission) ≠ none := by
        rw [hr] at h
        exact h
      obtain ⟨replayed,hread⟩ := Option.ne_none_iff_exists'.mp hsome
      refine ⟨submission,rfl,rfl,?_⟩
      intro clientMoveId htext hid stored hs input hguest
      exact Jsonb.replayMove_accepted rfl hguest
        (Jsonb.persistedSubmissionSchema_reads hread htext hid stored hs)
  | resign =>
    simp only [ht] at h
    cases hr : c.response with
    | move accepted ended guests started => simp [hr,storedTerminalSchema] at h
    | terminal ended guests =>
      let submission : TerminalSubmission := ⟨false,ended,guests⟩
      have hsome : storedTerminalSchema
          (.terminal submission.ended submission.guestSessionIds) ≠ none := by
        rw [hr] at h
        exact h
      obtain ⟨replayed,hread⟩ := Option.ne_none_iff_exists'.mp hsome
      refine ⟨submission,rfl,rfl,?_⟩
      intro stored hs input hguest
      exact Jsonb.replayResignation_accepted rfl hguest
        (Jsonb.storedTerminalSchema_reads hread stored hs)

theorem storedTerminalSchema_ne_none {ended : EndedGame} {guests : GuestSessionId × GuestSessionId}
    (hended : endedGameSchema ended = true) (hrunning : ended.clocks.running = none)
    (hguests : guestTupleSchema guests = true) :
    storedTerminalSchema (.terminal ended guests) ≠ none := by
  simp [storedTerminalSchema,hended,hrunning,hguests]

section Reachable

variable {chess : ChessJs} {db : Db} {op : Operation} {g g' : PersistedGame}

/-- A served operation adds none but readable commands. -/
theorem Writes.readable (rules : chess.Rules) {answer : Answer}
    (h : Writes chess.engine g op answer g') (hop : op.Served chess.engine)
    (hrecorded : g.Recorded chess) (hold : g.integersFit ∧ g.rowChecks)
    (hnew : g'.integersFit ∧ g'.rowChecks) (hg : ∀ c ∈ g.commands, c.Readable) :
    ∀ c ∈ g'.commands, c.Readable := by
  cases h with
  | @submitMove m guests observation hm hid ho hadmitted =>
    subst hm
    intro c hc
    rcases List.mem_append.mp hc with hc | hc
    · exact hg c hc
    · rw [List.mem_singleton.mp hc]
      exact hadmitted.acknowledgement rules hrecorded.history hrecorded.acknowledged hold hnew ho
        (hop.observed observation rfl) hop.arguments
  | @resign input player observation outcome guests hplayer hs ho hp =>
    intro c hc
    rcases List.mem_append.mp hc with hc | hc
    · exact hg c hc
    · rw [List.mem_singleton.mp hc]
      have hinstant : Micros.isInstant observation := hop.observed observation rfl
      have hended : endedGameSchema
          (terminalSubmission g (g.locked observation) outcome guests).ended = true :=
        terminalSubmission_schema rules hrecorded hinstant rfl rfl rfl hnew
      exact storedTerminalSchema_ne_none hended rfl
        (guestTupleSchema_of_pair hrecorded.acknowledged hp)
  | _ => exact hg

/-- Every command of a database that served operations lead to is readable. -/
theorem Db.ServedReachable.readable (rules : chess.Rules) (h : db.ServedReachable chess.engine) :
    ∀ id g, db.games.find id = some g → ∀ c ∈ g.commands, c.Readable := by
  let I : Db → Prop := fun db => db.Recorded chess ∧
    ∀ id g, db.games.find id = some g → ∀ c ∈ g.commands, c.Readable
  have hinitial : ∀ guestSessions sessionCommands,
      (∀ session ∈ guestSessions.rows, GuestSession.rowChecks session) →
        I (.initial guestSessions sessionCommands) := by
    intro guestSessions sessionCommands _
    constructor <;> intro id g hg <;> simp [Db.initial] at hg
  have hstep : ∀ db op, db.Reachable chess.engine → op.Served chess.engine → I db →
      I (execute chess.engine db op).2 := by
    rintro db op hr hop ⟨hrecorded,hdb⟩
    refine ⟨execute_recorded rules hr hop hrecorded,fun id g hg => ?_⟩
    have hafter : (execute chess.engine db op).2.RowsChecked := (hr.run [op]).rowsChecked
    cases execute_outcome chess.engine db op with
    | session _ _ hsame => exact hdb id g ((Outcome.frame_session hsame).1 ▸ hg)
    | kept hsame _ => exact hdb id g (hsame ▸ hg)
    | allocated hinput hd hnew _ =>
      rw [hnew.find] at hg
      split_ifs at hg
      · cases hg
        intro c hc
        simp [newGameRow] at hc
      · exact hdb id g hg
    | @wrote key g₁ g₂ _ _ hw hwrites =>
      have hrows := hafter key g₂ hw.find_self
      rw [hw.find] at hg
      split_ifs at hg
      · cases hg
        exact hwrites.readable rules hop (hrecorded key g₁ hw.found)
          (hr.rowsChecked key g₁ hw.found) hrows (hdb key g₁ hw.found)
      · exact hdb id g hg
  exact (h.invariant hinitial hstep).2

/-- The command of a game that is recorded in the database. -/
def Db.Stores (db : Db) (gameId : GameId) (c : GameCommand) : Prop :=
  ∃ g, db.games.find gameId = some g ∧ c ∈ g.commands

/-- A move that is accepted for the first time has its acknowledgement stored. -/
theorem submitMove_stores {chess : ChessEngine} {input : SubmitMove} {observation : Micros}
    {submission : MoveSubmission}
    (h : (execute chess db (.submitMove input observation)).1 = .move (.ok submission))
    (hfresh : submission.duplicate = false) :
    ∃ c, (execute chess db (.submitMove input observation)).2.Stores input.gameId c ∧
      c.commandType = .move ∧ c.eventId = input.clientMoveId ∧
      c.guestSessionId = input.guestSessionId ∧ c.response = persistedSubmission submission := by
  cases execute_outcome chess db (.submitMove input observation) with
  | session hop _ _ => cases hop
  | allocated hop _ _ _ => cases hop
  | kept _ hr =>
    rw [h] at hr
    cases hr with
    | rejected hrejected => cases hrejected
    | move _ _ _ hreplay =>
      rw [replayResult_duplicate hreplay] at hfresh
      cases hfresh
  | wrote hid hw hwrites =>
    cases hid
    rw [h] at hwrites
    cases hwrites with
    | @submitMove m guests _ hg _ _ hm =>
      exact ⟨m.command guests,⟨_,hw.find_self,List.mem_append_right _ (List.mem_singleton_self _)⟩,
        rfl,rfl,rfl,rfl⟩

theorem resign_stores {chess : ChessEngine} {input : ResignGame} {observation : Micros}
    {submission : TerminalSubmission}
    (h : (execute chess db (.resign input observation)).1 = .resignation (.ok submission))
    (hfresh : submission.duplicate = false) :
    ∃ c, (execute chess db (.resign input observation)).2.Stores input.gameId c ∧
      c.commandType = .resign ∧ c.eventId = input.eventId ∧
      c.guestSessionId = input.guestSessionId ∧
      c.response = .terminal submission.ended submission.guestSessionIds := by
  cases execute_outcome chess db (.resign input observation) with
  | session hop _ _ => cases hop
  | allocated hop _ _ _ => cases hop
  | kept _ hr =>
    rw [h] at hr
    cases hr with
    | rejected hrejected => cases hrejected
    | resignation _ _ _ hreplay =>
      rw [replayResignation_duplicate hreplay] at hfresh
      cases hfresh
  | wrote hid hw hwrites =>
    cases hid
    rw [h] at hwrites
    cases hwrites with
    | resign hplayer hs ho hp =>
      exact ⟨_,⟨_,hw.find_self,List.mem_append_right _ (List.mem_singleton_self _)⟩,
        rfl,rfl,rfl,rfl⟩

end Reachable

/-- What `submitMove` and `resign` acknowledge is stored under the identifier of the request, and
every stored acknowledgement is read back as the same submission, whatever the order of its
keys and the spelling of the client's identifier. -/
theorem stored_acknowledgements_survive {chess : ChessJs} (rules : chess.Rules) {db : Db}
    (hdb : db.ServedReachable chess.engine) {op : Operation} (hop : op.Served chess.engine) :
    (∀ gameId c, (execute chess.engine db op).2.Stores gameId c → c.Survives) ∧
    (∀ input observation submission, op = .submitMove input observation →
      (execute chess.engine db op).1 = .move (.ok submission) → submission.duplicate = false →
      ∃ c, (execute chess.engine db op).2.Stores input.gameId c ∧ c.commandType = .move ∧
        c.eventId = input.clientMoveId ∧ c.guestSessionId = input.guestSessionId ∧
        c.response = persistedSubmission submission) ∧
    (∀ input observation submission, op = .resign input observation →
      (execute chess.engine db op).1 = .resignation (.ok submission) →
      submission.duplicate = false →
      ∃ c, (execute chess.engine db op).2.Stores input.gameId c ∧ c.commandType = .resign ∧
        c.eventId = input.eventId ∧ c.guestSessionId = input.guestSessionId ∧
        c.response = .terminal submission.ended submission.guestSessionIds) := by
  refine ⟨?_,?_,?_⟩
  · rintro gameId c ⟨g,hg,hc⟩
    exact ((hdb.next hop).readable rules gameId g hg c hc).survives
  · rintro input observation submission rfl h hfresh
    exact submitMove_stores h hfresh
  · rintro input observation submission rfl h hfresh
    exact resign_stores h hfresh

/-- White resigns the sample game after two plies, and the acknowledgement is read back. -/
theorem stored_acknowledgements_survive_sample : ∃ c, (execute sampleChess.engine samplePlayed
    (.resign ⟨sampleId 32,4,sampleId 10,sampleId 1⟩ 10000000)).2.Stores (sampleId 10) c ∧
      c.commandType = .resign ∧ c.Survives := by
  have hserved : (Operation.resign ⟨sampleId 32,4,sampleId 10,sampleId 1⟩ 10000000).Served
      sampleChess.engine := .of_observation trivial rfl ⟨by decide,by decide⟩
  have hresigned : ∃ s, (execute sampleChess.engine samplePlayed
      (.resign ⟨sampleId 32,4,sampleId 10,sampleId 1⟩ 10000000)).1 = .resignation (.ok s) ∧
        s.duplicate = false := ⟨_,rfl,rfl⟩
  obtain ⟨s,hs,hfresh⟩ := hresigned
  obtain ⟨hsurvive,_,hresign⟩ :=
    stored_acknowledgements_survive sampleChess_rules samplePlayed_reachable hserved
  obtain ⟨c,hstores,htype,_⟩ := hresign _ _ s rfl hs hfresh
  exact ⟨c,hstores,htype,hsurvive _ c hstores⟩

end CluChess
