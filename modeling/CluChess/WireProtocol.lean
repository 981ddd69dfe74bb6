import CluChess.GameLifecycleRepository

/-! `protocol.schemas.ts` and `realtime-protocol.service.ts`: the messages that announce a started
game, an accepted move and an ended game, and what `matchmaking-realtime.service.ts` and
`game-lifecycle-delivery.service.ts` do with them. -/
namespace CluChess

/-- The UTF-16 code units of a character. -/
def utf16Units (c : Char) : ℕ := if c.toNat < 0x10000 then 1 else 2

/-- The `length` of a JavaScript string. -/
def jsLength (s : String) : ℕ := (s.toList.map utf16Units).sum

/-- `z.string().min(least).max(most)`. -/
def isText (least most : ℕ) (s : String) : Bool :=
  decide (least ≤ jsLength s) && decide (jsLength s ≤ most)

inductive WireColor
  | black | white
  deriving DecidableEq, Repr

def wireColor : PlayerColor → WireColor
  | .w => .white
  | .b => .black

structure WireClocks where
  blackMs : ℤ
  running : Option WireColor
  serverTime : ℤ
  whiteMs : ℤ
  deriving DecidableEq, Repr

def wireClocks (clocks : GameplayClock) : WireClocks where
  blackMs := clocks.blackMs
  running := clocks.running.map wireColor
  serverTime := clocks.observedAt
  whiteMs := clocks.whiteMs

structure GameStartedPayload where
  clocks : WireClocks
  initialFen : String
  turn : WireColor
  deriving DecidableEq, Repr

structure MoveAcceptedPayload where
  check : Bool
  clocks : WireClocks
  fenAfter : String
  ply : ℕ
  san : String
  turn : WireColor
  uci : String
  deriving DecidableEq, Repr

structure GameEndedPayload where
  clocks : WireClocks
  finalFen : String
  pgn : String
  result : GameResult
  termination : GameTermination
  deriving DecidableEq, Repr

/-! ### The schemas -/

def clocksSchema (clocks : WireClocks) : Bool :=
  isNonnegativeInt clocks.blackMs && isNonnegativeInt clocks.serverTime &&
    isNonnegativeInt clocks.whiteMs

def gameStartedPayloadSchema (payload : GameStartedPayload) : Bool :=
  clocksSchema payload.clocks && decide (payload.clocks.running = some .white) &&
    isText 1 256 payload.initialFen && decide (payload.turn = .white)

def moveAcceptedPayloadSchema (payload : MoveAcceptedPayload) : Bool :=
  clocksSchema payload.clocks && isText 1 256 payload.fenAfter &&
    isNonnegativeInt payload.ply && decide (0 < payload.ply) && isText 1 32 payload.san &&
    isText 4 5 payload.uci

/-- The largest PGN that `gameEndedPayloadSchema` accepts. -/
def maxPgnLength : ℕ := 16384

def gameEndedPayloadSchema (payload : GameEndedPayload) : Bool :=
  clocksSchema payload.clocks && decide (payload.clocks.running = none) &&
    isText 1 256 payload.finalFen && isText 0 maxPgnLength payload.pgn

/-- A payload with the type of its message. -/
inductive WirePayload
  | gameStarted (payload : GameStartedPayload)
  | moveAccepted (payload : MoveAcceptedPayload)
  | gameEnded (payload : GameEndedPayload)
  deriving DecidableEq, Repr

namespace WirePayload

def schema : WirePayload → Bool
  | .gameStarted payload => gameStartedPayloadSchema payload
  | .moveAccepted payload => moveAcceptedPayloadSchema payload
  | .gameEnded payload => gameEndedPayloadSchema payload

/-- Only the message of a move carries a `clientMoveId`. -/
def takesMoveId : WirePayload → Bool
  | .moveAccepted _ => true
  | _ => false

/-- The types of `ackSuccessSchemas`. -/
def acknowledges : WirePayload → Bool
  | .gameStarted _ => false
  | _ => true

end WirePayload

structure ServerEventDraft where
  clientMoveId : Option EventId
  gameId : GameId
  gameVersion : ℕ
  payload : WirePayload
  deriving DecidableEq, Repr

/-- The `randomUUID()` and the `Date.now()` of a message. -/
structure Stamp where
  eventId : EventId
  timestamp : Millis
  deriving DecidableEq, Repr

structure ServerEventEnvelope where
  draft : ServerEventDraft
  stamp : Stamp
  deriving DecidableEq, Repr

def serverEnvelopeSchema (event : ServerEventEnvelope) : Bool :=
  isUuidV4 event.stamp.eventId && isNonnegativeInt event.stamp.timestamp &&
    isUuidV4 event.draft.gameId && isNonnegativeInt event.draft.gameVersion &&
    decide (event.draft.clientMoveId.isSome = event.draft.payload.takesMoveId) &&
    event.draft.clientMoveId.all isUuidV4 && event.draft.payload.schema

structure RealtimeAck where
  correlationId : Uuid
  gameVersion : ℕ
  payload : WirePayload
  requestEventId : EventId
  deriving DecidableEq, Repr

def ackSuccessSchema (ack : RealtimeAck) : Bool :=
  isUuidV4 ack.correlationId && isUuidV4 ack.requestEventId && isNonnegativeInt ack.gameVersion &&
    ack.payload.acknowledges && ack.payload.schema

/-- What `parse` throws. -/
inductive SchemaError
  | zodError
  deriving DecidableEq, Repr

def createServerEvent (draft : ServerEventDraft) (stamp : Stamp) :
    Except SchemaError ServerEventEnvelope :=
  if serverEnvelopeSchema ⟨draft,stamp⟩ then .ok ⟨draft,stamp⟩ else .error .zodError

def createSuccessAck (requestEventId : EventId) (correlationId : Uuid) (payload : WirePayload)
    (gameVersion : ℕ) : Except SchemaError RealtimeAck :=
  let ack : RealtimeAck := ⟨correlationId,gameVersion,payload,requestEventId⟩
  if ackSuccessSchema ack then .ok ack else .error .zodError

/-! ### Deliveries -/

inductive Delivery
  | toGame (gameId : GameId) (event : ServerEventEnvelope)
  | toGuest (guestSessionId : GuestSessionId) (event : ServerEventEnvelope)
  | cancelDeadline (gameId : GameId)
  | scheduleRoomCleanup (gameId : GameId)
  deriving DecidableEq, Repr

def endedPayload (ended : EndedGame) : WirePayload := .gameEnded {
  clocks := { wireClocks ended.clocks with running := none }
  finalFen := ended.finalFen
  pgn := ended.pgn
  result := ended.result
  termination := ended.termination }

def endedDraft (ended : EndedGame) : ServerEventDraft :=
  ⟨none,ended.gameId,ended.gameVersion,endedPayload ended⟩

/-- `GameLifecycleDeliveryService.gameEnded`. -/
def gameEnded (submission : TerminalSubmission) (stamp : Stamp) :
    Except SchemaError (List Delivery) := do
  let event ← createServerEvent (endedDraft submission.ended) stamp
  .ok [.toGuest submission.guestSessionIds.1 event,.toGuest submission.guestSessionIds.2 event,
    .cancelDeadline submission.ended.gameId,.scheduleRoomCleanup submission.ended.gameId]

/-- `completeTerminal`, without the clean-up in Redis, which throws nothing. -/
def completeTerminal (submission : TerminalSubmission) (stamp : Stamp) :
    Except SchemaError (List Delivery) :=
  if submission.duplicate then .ok [] else gameEnded submission stamp

def startedDraft (started : StartedGame) : ServerEventDraft where
  clientMoveId := none
  gameId := started.gameId
  gameVersion := started.gameVersion
  payload := .gameStarted {
    clocks := { wireClocks started.clocks with running := some .white }
    initialFen := started.initialFen
    turn := .white }

def publishStarted (started : StartedGame) (stamp : Stamp) : Except SchemaError (List Delivery) :=
  (createServerEvent (startedDraft started) stamp).map fun event => [.toGame started.gameId event]

def acceptedPayload (accepted : AcceptedMove) : WirePayload := .moveAccepted {
  check := accepted.check
  clocks := wireClocks accepted.clocks
  fenAfter := accepted.fenAfter
  ply := accepted.ply
  san := accepted.san
  turn := wireColor accepted.turn
  uci := accepted.uci }

def acceptedDraft (accepted : AcceptedMove) : ServerEventDraft :=
  ⟨some accepted.clientMoveId,accepted.gameId,accepted.gameVersion,acceptedPayload accepted⟩

def publishAccepted (accepted : AcceptedMove) (stamp : Stamp) :
    Except SchemaError (List Delivery) :=
  (createServerEvent (acceptedDraft accepted) stamp).map fun event =>
    [.toGame accepted.gameId event]

/-- The stamps of the three messages that one submission may need. -/
structure Stamps where
  started : Stamp
  accepted : Stamp
  ended : Stamp
  deriving DecidableEq, Repr

/-- What `submitMove` of the realtime service publishes once the move has been submitted. -/
def publishSubmission (submission : MoveSubmission) (stamps : Stamps) :
    Except SchemaError (List Delivery) :=
  if submission.duplicate then .ok []
  else do
    let started ← submission.started.elim (.ok []) fun started =>
      publishStarted started stamps.started
    let accepted ← publishAccepted submission.accepted stamps.accepted
    let ended ← submission.ended.elim (.ok []) fun ended =>
      gameEnded ⟨false,ended,submission.guestSessionIds⟩ stamps.ended
    .ok (started ++ accepted ++ ended)

/-- The identifiers of the command that is acknowledged. -/
structure RequestIds where
  requestEventId : EventId
  correlationId : Uuid
  deriving DecidableEq, Repr

/-- The acknowledgement of `move.submit`. -/
def acknowledgeMove (submission : MoveSubmission) (request : RequestIds) :
    Except SchemaError RealtimeAck :=
  createSuccessAck request.requestEventId request.correlationId
    (acceptedPayload submission.accepted) submission.accepted.gameVersion

/-- The acknowledgement of `game.resign`. -/
def acknowledgeResignation (submission : TerminalSubmission) (request : RequestIds) :
    Except SchemaError RealtimeAck :=
  createSuccessAck request.requestEventId request.correlationId (endedPayload submission.ended)
    submission.ended.gameVersion

/-! ### When a message passes its schema -/

section Lengths

theorem one_le_utf16Units (c : Char) : 1 ≤ utf16Units c := by
  unfold utf16Units
  split_ifs <;> omega

theorem length_le_jsLength (s : String) : s.length ≤ jsLength s := by
  unfold jsLength
  rw [← String.length_toList]
  induction s.toList with
  | nil => exact le_refl 0
  | cons c cs ih =>
    have hc := one_le_utf16Units c
    simp only [List.length_cons,List.map_cons,List.sum_cons]
    omega

theorem jsLength_le (s : String) : jsLength s ≤ 2*s.length := by
  unfold jsLength
  rw [← String.length_toList]
  induction s.toList with
  | nil => exact Nat.zero_le _
  | cons c cs ih =>
    have hunits : utf16Units c ≤ 2 := by
      unfold utf16Units
      split_ifs <;> decide
    simp only [List.map_cons,List.sum_cons,List.length_cons]
    omega

theorem jsLength_pos {s : String} (h : s ≠ "") : 1 ≤ jsLength s := by
  have hlength := length_le_jsLength s
  have hne : s.length ≠ 0 := fun h0 => h (String.length_eq_zero_iff.mp h0)
  omega

/-- A text of a schema that asks for one character, within a bound on its length. -/
theorem isText_one {most : ℕ} {s : String} (h : isNonempty s = true) (hm : jsLength s ≤ most) :
    isText 1 most s = true := by
  have hne : s ≠ "" := of_decide_eq_true h
  simp [isText,jsLength_pos hne,hm]

theorem utf16Units_square {c : Char}
    (h : isFile c = true ∨ isRank c = true ∨ c ∈ ['b','n','q','r']) : utf16Units c = 1 := by
  simp only [isFile,isRank,decide_eq_true_eq,List.mem_cons,List.not_mem_nil,or_false] at h
  rcases h with (rfl | rfl | rfl | rfl | rfl | rfl | rfl | rfl) |
    (rfl | rfl | rfl | rfl | rfl | rfl | rfl | rfl) | (rfl | rfl | rfl | rfl) <;> rfl

theorem isText_uci {s : String} (h : isUci s = true) : isText 4 5 s = true := by
  unfold isUci at h
  split at h
  · rename_i a b c d hs
    simp only [Bool.and_eq_true] at h
    obtain ⟨⟨⟨ha,hb⟩,hc⟩,hd⟩ := h
    simp [isText,jsLength,hs,utf16Units_square (Or.inl ha),utf16Units_square (Or.inr (Or.inl hb)),
      utf16Units_square (Or.inl hc),utf16Units_square (Or.inr (Or.inl hd))]
  · rename_i a b c d e hs
    simp only [Bool.and_eq_true,decide_eq_true_eq] at h
    obtain ⟨⟨⟨⟨ha,hb⟩,hc⟩,hd⟩,he⟩ := h
    simp [isText,jsLength,hs,utf16Units_square (Or.inl ha),utf16Units_square (Or.inr (Or.inl hb)),
      utf16Units_square (Or.inl hc),utf16Units_square (Or.inr (Or.inl hd)),
      utf16Units_square (Or.inr (Or.inr he))]
  · cases h

end Lengths

section Parses

/-- A stamp as `randomUUID()` and `Date.now()` give it. -/
structure Stamp.Valid (stamp : Stamp) : Prop where
  eventId : isUuidV4 stamp.eventId = true
  timestamp : isNonnegativeInt stamp.timestamp = true

structure Stamps.Valid (stamps : Stamps) : Prop where
  started : stamps.started.Valid
  accepted : stamps.accepted.Valid
  ended : stamps.ended.Valid

/-- The identifiers of a command that has passed its schema. -/
structure RequestIds.Valid (request : RequestIds) : Prop where
  requestEventId : isUuidV4 request.requestEventId = true
  correlationId : isUuidV4 request.correlationId = true

/-- An acknowledged end that passes every schema but for the length of its PGN. -/
structure EndedGame.Valid (ended : EndedGame) : Prop where
  schema : endedGameSchema ended = true
  finalFen : jsLength ended.finalFen ≤ 256

structure AcceptedMove.Valid (accepted : AcceptedMove) : Prop where
  schema : acceptedMoveSchema accepted = true
  fenAfter : jsLength accepted.fenAfter ≤ 256
  san : jsLength accepted.san ≤ 32

structure StartedGame.Valid (started : StartedGame) : Prop where
  schema : startedGameSchema started = true
  initialFen : jsLength started.initialFen ≤ 256

variable {stamp : Stamp} {request : RequestIds}

theorem createServerEvent_ok_iff (draft : ServerEventDraft) (hs : stamp.Valid)
    (hid : isUuidV4 draft.gameId = true) (hv : isNonnegativeInt draft.gameVersion = true)
    (hmove : draft.clientMoveId.isSome = draft.payload.takesMoveId)
    (hmoveId : draft.clientMoveId.all isUuidV4 = true) :
    (∃ event, createServerEvent draft stamp = .ok event) ↔ draft.payload.schema = true := by
  unfold createServerEvent serverEnvelopeSchema
  simp only [hs.eventId,hs.timestamp,hid,hv,hmove,hmoveId,decide_true,Bool.true_and]
  split_ifs with h <;> simp [h]

theorem createSuccessAck_ok_iff {payload : WirePayload} {gameVersion : ℕ} (hr : request.Valid)
    (hv : isNonnegativeInt gameVersion = true) (ha : payload.acknowledges = true) :
    (∃ ack, createSuccessAck request.requestEventId request.correlationId payload gameVersion =
      .ok ack) ↔ payload.schema = true := by
  unfold createSuccessAck ackSuccessSchema
  simp only [hr.requestEventId,hr.correlationId,hv,ha,Bool.true_and]
  split_ifs with h <;> simp [h]

theorem StartedGame.Valid.payload {started : StartedGame} (h : started.Valid) :
    (startedDraft started).payload.schema = true := by
  have hschema := h.schema
  simp only [startedGameSchema,gameplayClockSchema,Bool.and_eq_true] at hschema
  obtain ⟨⟨⟨⟨⟨hb,ho⟩,hw⟩,_⟩,_⟩,hfen⟩ := hschema
  simp [startedDraft,WirePayload.schema,gameStartedPayloadSchema,clocksSchema,wireClocks,hb,ho,hw,
    isText_one hfen h.initialFen]

theorem AcceptedMove.Valid.payload {accepted : AcceptedMove} (h : accepted.Valid) :
    (acceptedPayload accepted).schema = true := by
  have hschema := h.schema
  simp only [acceptedMoveSchema,gameplayClockSchema,Bool.and_eq_true,decide_eq_true_eq] at hschema
  obtain ⟨⟨⟨⟨⟨⟨⟨⟨_,⟨hb,ho⟩,hw⟩,hfen⟩,_⟩,_⟩,hply⟩,hpos⟩,hsan⟩,huci⟩ := hschema
  simp [acceptedPayload,WirePayload.schema,moveAcceptedPayloadSchema,clocksSchema,wireClocks,hb,ho,
    hw,hply,hpos,isText_one hfen h.fenAfter,isText_one hsan h.san,isText_uci huci]

/-- The end of a game passes its schema exactly when its PGN is short enough. -/
theorem EndedGame.Valid.payload_iff {ended : EndedGame} (h : ended.Valid) :
    (endedPayload ended).schema = true ↔ jsLength ended.pgn ≤ maxPgnLength := by
  have hschema := h.schema
  simp only [endedGameSchema,gameplayClockSchema,Bool.and_eq_true] at hschema
  obtain ⟨⟨⟨⟨⟨hb,ho⟩,hw⟩,hfen⟩,_⟩,_⟩ := hschema
  have hpgn : isText 0 maxPgnLength ended.pgn = decide (jsLength ended.pgn ≤ maxPgnLength) := by
    simp [isText]
  simp [endedPayload,WirePayload.schema,gameEndedPayloadSchema,clocksSchema,wireClocks,hb,ho,hw,
    isText_one hfen h.finalFen,hpgn]

theorem publishStarted_ok {started : StartedGame} (hs : stamp.Valid) (h : started.Valid) :
    ∃ deliveries, publishStarted started stamp = .ok deliveries := by
  have hschema := h.schema
  simp only [startedGameSchema,Bool.and_eq_true] at hschema
  obtain ⟨event,he⟩ := (createServerEvent_ok_iff (startedDraft started) hs hschema.1.1.2
    hschema.1.2 rfl rfl).mpr h.payload
  exact ⟨_,by rw [publishStarted,he]; rfl⟩

theorem publishAccepted_ok {accepted : AcceptedMove} (hs : stamp.Valid) (h : accepted.Valid) :
    ∃ deliveries, publishAccepted accepted stamp = .ok deliveries := by
  have hschema := h.schema
  simp only [acceptedMoveSchema,Bool.and_eq_true] at hschema
  obtain ⟨⟨⟨⟨⟨⟨⟨⟨hmove,_⟩,_⟩,hid⟩,hv⟩,_⟩,_⟩,_⟩,_⟩ := hschema
  obtain ⟨event,he⟩ := (createServerEvent_ok_iff (acceptedDraft accepted) hs hid hv rfl
    hmove).mpr h.payload
  exact ⟨_,by rw [publishAccepted,he]; rfl⟩

/-- The delivery of an end reaches its broadcasts, the timer and the room exactly when the message
can be built. -/
theorem gameEnded_ok_iff (submission : TerminalSubmission) (hs : stamp.Valid)
    (h : submission.ended.Valid) : (∃ deliveries, gameEnded submission stamp = .ok deliveries) ↔
      jsLength submission.ended.pgn ≤ maxPgnLength := by
  have hschema := h.schema
  simp only [endedGameSchema,Bool.and_eq_true] at hschema
  have hiff := createServerEvent_ok_iff (endedDraft submission.ended) hs hschema.1.2
    hschema.2 rfl rfl
  rw [← h.payload_iff]
  refine Iff.trans ?_ hiff
  unfold gameEnded
  constructor
  · rintro ⟨deliveries,hd⟩
    obtain ⟨event,he,_⟩ := bind_eq_ok.mp hd
    exact ⟨event,he⟩
  · rintro ⟨event,he⟩
    exact ⟨_,by rw [he]; rfl⟩

theorem completeTerminal_ok_iff {submission : TerminalSubmission} (hs : stamp.Valid)
    (h : submission.ended.Valid) :
    (∃ deliveries, completeTerminal submission stamp = .ok deliveries) ↔
      (submission.duplicate = false → jsLength submission.ended.pgn ≤ maxPgnLength) := by
  unfold completeTerminal
  cases hd : submission.duplicate with
  | true => simp
  | false => simpa using gameEnded_ok_iff submission hs h

theorem acknowledgeMove_ok {submission : MoveSubmission} (hr : request.Valid)
    (h : submission.accepted.Valid) : ∃ ack, acknowledgeMove submission request = .ok ack := by
  have hschema := h.schema
  simp only [acceptedMoveSchema,Bool.and_eq_true] at hschema
  exact (createSuccessAck_ok_iff hr hschema.1.1.1.1.2 rfl).mpr h.payload

theorem acknowledgeResignation_ok_iff {submission : TerminalSubmission} (hr : request.Valid)
    (h : submission.ended.Valid) : (∃ ack, acknowledgeResignation submission request = .ok ack) ↔
      jsLength submission.ended.pgn ≤ maxPgnLength := by
  have hschema := h.schema
  simp only [endedGameSchema,Bool.and_eq_true] at hschema
  rw [← h.payload_iff]
  exact createSuccessAck_ok_iff hr hschema.2 rfl

/-- What a submission of a move publishes, when its parts are valid. -/
theorem publishSubmission_ok_iff {submission : MoveSubmission} {stamps : Stamps}
    (hs : stamps.Valid) (ha : submission.accepted.Valid)
    (hstarted : ∀ started ∈ submission.started, started.Valid)
    (hended : ∀ ended ∈ submission.ended, ended.Valid) :
    (∃ deliveries, publishSubmission submission stamps = .ok deliveries) ↔
      (submission.duplicate = false →
        ∀ ended ∈ submission.ended, jsLength ended.pgn ≤ maxPgnLength) := by
  unfold publishSubmission
  cases hd : submission.duplicate with
  | true => simp
  | false =>
    obtain ⟨accepted,hac⟩ := publishAccepted_ok hs.accepted ha
    obtain ⟨started,hst⟩ : ∃ started, (submission.started.elim (.ok []) fun started =>
        publishStarted started stamps.started : Except SchemaError (List Delivery)) =
          .ok started := by
      cases hst : submission.started with
      | none => exact ⟨[],rfl⟩
      | some started => exact publishStarted_ok hs.started (hstarted started hst)
    rw [hst,hac]
    simp only [Bool.false_eq_true,if_false,forall_const]
    cases he : submission.ended with
    | none => simp [bind,Except.bind]
    | some ended =>
      have hiff := gameEnded_ok_iff ⟨false,ended,submission.guestSessionIds⟩ hs.ended
        (hended ended he)
      simp only [Option.mem_def,Option.some.injEq,forall_eq'] at hiff ⊢
      rw [← hiff]
      constructor
      · rintro ⟨deliveries,hp⟩
        obtain ⟨_,_,hp⟩ := bind_eq_ok.mp hp
        obtain ⟨_,_,hp⟩ := bind_eq_ok.mp hp
        obtain ⟨ends,hp,_⟩ := bind_eq_ok.mp hp
        exact ⟨ends,hp⟩
      · rintro ⟨ends,hp⟩
        exact ⟨started ++ accepted ++ ends,by simp [bind,Except.bind,hp]⟩

end Parses

end CluChess
