import CluChess.JsonCodec
import CluChess.JsonText
import CluChess.RealtimeErrors

/-! `protocol.schemas.ts` and `parseClientEvent` of `realtime-protocol.service.ts`: which JSON is an
event of a client, and which event it is. A number that `JSON.stringify` does not write as an
integer is a `Json.fraction`. -/
namespace CluChess

open Json

/-! ### The schemas of the events -/

namespace ProtocolSchemas

def uuidV4 : Codec String := .text isUuidV4Text

def epochMs : Codec ℕ := .natural fun n : ℕ => isNonnegativeInt n

def gameVersion : Codec ℕ := .natural fun n : ℕ => isNonnegativeInt n

def protocolVersion : ℤ := 1

def emptyPayload : Codec Unit := .strict .empty List.nodup_nil

/-- The fields of every event but `payload` and `type`. -/
def clientFields : Fields (Option String × String × ℕ) :=
  (Fields.optional "correlationId" uuidV4).and
    ((Fields.required "eventId" uuidV4).and
      ((Fields.required "timestamp" epochMs).tagged
        (.required "protocolVersion" (.integerLiteral protocolVersion)) (by decide)) (by decide))
    (by decide)

/-- The events whose command `build` makes of the fields of their own. -/
def clientEvent {β : Type} (own : Fields β) (build : β → ClientCommand)
    (parts : ClientCommand → Option β) (hparts : ∀ b command, parts command = some b ↔
      build b = command) (hkeys : ∀ key ∈ clientFields.keys, key ∉ own.keys) :
    Fields ClientEventEnvelope :=
  (clientFields.and own hkeys).embed
    (fun (common,b) => ⟨common.1,common.2.1,common.2.2,build b⟩)
    (fun envelope => (parts envelope.command).map fun b =>
      ((envelope.correlationId,envelope.eventId,envelope.timestamp),b))
    (by
      rintro ⟨⟨correlationId,eventId,timestamp⟩,b⟩ ⟨correlationId',eventId',timestamp',command⟩
      simp [← hparts]
      grind)

def blitz : Codec MatchMode := .enum (fun _ => "blitz") [.blitz] (fun mode => by cases mode; rfl)

/-- The payload of the events of the queue. -/
def queuePayload : Fields MatchMode :=
  .required "payload" (.strict (.required "mode" blitz) (by decide))

def gamePayload : Fields Unit := .required "payload" emptyPayload

@[simp] theorem gamePayload_valid : gamePayload.valid = fun _ => true := rfl

/-- The fields of the events about a game. -/
def gameFields : Fields (String × ℕ) :=
  ((Fields.required "gameId" uuidV4).and (.required "gameVersion" gameVersion) (by decide)).tagged
    gamePayload (by decide)

def square : Codec String := .text isSquare

def promotion : Codec PromotionPiece :=
  .enum PromotionPiece.toText [.q,.r,.b,.n] (fun piece => by cases piece <;> rfl)

def movePayload : Codec MoveInput :=
  .strict (((Fields.required "from" square).and
    ((Fields.optional "promotion" promotion).and (.required "to" square) (by decide))
      (by decide)).embed (fun (source,promotion,target) => ⟨source,promotion,target⟩)
    (fun move => some (move.source,move.promotion,move.target))
    (by rintro ⟨source,promotion,target⟩ ⟨_,_,_⟩; simp [eq_comm])) (by decide)

def moveFields : Fields (String × String × ℕ × MoveInput) :=
  (Fields.required "clientMoveId" uuidV4).and
    ((Fields.required "gameId" uuidV4).and
      ((Fields.required "gameVersion" gameVersion).and (.required "payload" movePayload)
        (by decide)) (by decide)) (by decide)

def syncFields : Fields (Option String × Option ℕ) :=
  ((Fields.optional "gameId" uuidV4).and (.optional "gameVersion" gameVersion) (by decide)).tagged
    gamePayload (by decide)

def heartbeatFields : Fields (Option ℕ) :=
  .required "payload" (.strict (.optional "lastKnownGameVersion" gameVersion) (by decide))

def queueJoinEnvelopeSchema : Fields ClientEventEnvelope :=
  clientEvent queuePayload .queueJoin
    (fun | .queueJoin mode => some mode | _ => none)
    (by rintro mode (_ | _ | _ | _ | _ | _ | _) <;> simp [eq_comm]) (by decide)

def queueLeaveEnvelopeSchema : Fields ClientEventEnvelope :=
  clientEvent queuePayload .queueLeave
    (fun | .queueLeave mode => some mode | _ => none)
    (by rintro mode (_ | _ | _ | _ | _ | _ | _) <;> simp [eq_comm]) (by decide)

def gameReadyEnvelopeSchema : Fields ClientEventEnvelope :=
  clientEvent gameFields (fun (gameId,gameVersion) => .gameReady gameId gameVersion)
    (fun | .gameReady gameId gameVersion => some (gameId,gameVersion) | _ => none)
    (by rintro ⟨gameId,gameVersion⟩ (_ | _ | _ | _ | _ | _ | _) <;> simp [eq_comm]) (by decide)

def moveSubmitEnvelopeSchema : Fields ClientEventEnvelope :=
  clientEvent moveFields
    (fun (clientMoveId,gameId,gameVersion,move) => .moveSubmit clientMoveId gameId gameVersion move)
    (fun
      | .moveSubmit clientMoveId gameId gameVersion move =>
        some (clientMoveId,gameId,gameVersion,move)
      | _ => none)
    (by
      rintro ⟨clientMoveId,gameId,gameVersion,move⟩ (_ | _ | _ | _ | _ | _ | _) <;>
        simp [eq_comm]) (by decide)

def gameResignEnvelopeSchema : Fields ClientEventEnvelope :=
  clientEvent gameFields (fun (gameId,gameVersion) => .gameResign gameId gameVersion)
    (fun | .gameResign gameId gameVersion => some (gameId,gameVersion) | _ => none)
    (by rintro ⟨gameId,gameVersion⟩ (_ | _ | _ | _ | _ | _ | _) <;> simp [eq_comm]) (by decide)

def gameSyncEnvelopeSchema : Fields ClientEventEnvelope :=
  clientEvent syncFields (fun (gameId,gameVersion) => .gameSync gameId gameVersion)
    (fun | .gameSync gameId gameVersion => some (gameId,gameVersion) | _ => none)
    (by rintro ⟨gameId,gameVersion⟩ (_ | _ | _ | _ | _ | _ | _) <;> simp [eq_comm]) (by decide)

def heartbeatPingEnvelopeSchema : Fields ClientEventEnvelope :=
  clientEvent heartbeatFields .heartbeatPing
    (fun | .heartbeatPing lastKnownGameVersion => some lastKnownGameVersion | _ => none)
    (by rintro version (_ | _ | _ | _ | _ | _ | _) <;> simp [eq_comm]) (by decide)

/-- `CLIENT_EVENT_NAMES`. -/
def eventText : ClientEventName → String
  | .queueJoin => "queue.join"
  | .queueLeave => "queue.leave"
  | .gameReady => "game.ready"
  | .moveSubmit => "move.submit"
  | .gameResign => "game.resign"
  | .gameSync => "game.sync"
  | .heartbeatPing => "heartbeat.ping"

def clientEventNames : List ClientEventName :=
  [.queueJoin,.queueLeave,.gameReady,.moveSubmit,.gameResign,.gameSync,.heartbeatPing]

def clientEventSchemas : ClientEventName → Fields ClientEventEnvelope
  | .queueJoin => queueJoinEnvelopeSchema
  | .queueLeave => queueLeaveEnvelopeSchema
  | .gameReady => gameReadyEnvelopeSchema
  | .moveSubmit => moveSubmitEnvelopeSchema
  | .gameResign => gameResignEnvelopeSchema
  | .gameSync => gameSyncEnvelopeSchema
  | .heartbeatPing => heartbeatPingEnvelopeSchema

theorem clientEventSchemas_valid (t : ClientEventName) (envelope : ClientEventEnvelope) :
    (clientEventSchemas t).valid envelope =
      (decide (envelope.command.eventName = t) && clientEnvelopeSchema envelope) := by
  obtain ⟨correlationId,eventId,timestamp,command⟩ := envelope
  cases t <;> cases command <;>
    simp [clientEventSchemas,queueJoinEnvelopeSchema,queueLeaveEnvelopeSchema,
      gameReadyEnvelopeSchema,moveSubmitEnvelopeSchema,gameResignEnvelopeSchema,
      gameSyncEnvelopeSchema,heartbeatPingEnvelopeSchema,clientEvent,clientFields,
      clientEnvelopeSchema,clientCommandSchema,ClientCommand.eventName,queuePayload,blitz,
      gameFields,moveFields,movePayload,promotion,square,syncFields,
      heartbeatFields,uuidV4,epochMs,gameVersion,Bool.and_assoc]

/-- `clientEnvelopeSchema`. -/
def clientEvents : Codec ClientEventEnvelope :=
  .discriminated "type" eventText clientEventNames (fun t => by cases t <;> rfl)
    (fun envelope => envelope.command.eventName) clientEventSchemas
    (fun t => by cases t <;> decide)
    (fun t envelope h => by
      rw [clientEventSchemas_valid,Bool.and_eq_true] at h
      exact of_decide_eq_true h.1)

theorem clientEvents_valid (envelope : ClientEventEnvelope) :
    clientEvents.valid envelope = clientEnvelopeSchema envelope := by
  show (clientEventSchemas envelope.command.eventName).valid envelope = _
  rw [clientEventSchemas_valid,decide_eq_true rfl,Bool.true_and]

end ProtocolSchemas

open ProtocolSchemas

/-! ### The size of an event -/

/-- The bytes of `JSON.stringify`. -/
def encodedSize (value : Json) : ℕ := (utf8 (stringify value)).length

/-- The least value of `MAX_WS_BUFFER_BYTES`. -/
def minWsBufferBytes : ℕ := 1024

section Size

theorem uuidV4Char_plain {index : ℕ} {c : Char} (h : uuidV4Char index c = true) :
    isPlain c = true := by
  have hall : ("0123456789abcdefABCDEF".toList.all isPlain && isPlain '-' && isPlain '4' &&
    ['8','9','a','b','A','B'].all isPlain) = true := by decide
  simp only [Bool.and_eq_true,List.all_eq_true] at hall
  unfold uuidV4Char at h
  split_ifs at h
  · rw [of_decide_eq_true h]
    exact hall.1.1.2
  · rw [of_decide_eq_true h]
    exact hall.1.2
  · exact hall.2 c (of_decide_eq_true h)
  · exact hall.1.1.1 c (of_decide_eq_true h)

theorem uuid_size {s : String} (h : isUuidV4Text s = true) : (utf8 (quote s)).length = 38 := by
  obtain ⟨hlength,hchars⟩ := Bool.and_eq_true_iff.mp h
  have hplain : s.toList.all isPlain = true := by
    refine List.all_eq_true.mpr fun c hc => ?_
    obtain ⟨k,hk,rfl⟩ := List.mem_iff_getElem.mp hc
    have hmem : (s.toList[k],k) ∈ s.toList.zipIdx := by
      rw [List.mem_zipIdx_iff_getElem?]
      exact List.getElem?_eq_getElem hk
    exact uuidV4Char_plain (List.all_eq_true.mp hchars _ hmem)
  rw [quote_plain_length hplain,of_decide_eq_true hlength]

theorem square_size {s : String} (h : isSquare s = true) : (utf8 (quote s)).length = 4 := by
  have hfiles : (['a','b','c','d','e','f','g','h'].all isPlain) = true := by decide
  have hranks : (['1','2','3','4','5','6','7','8'].all isPlain) = true := by decide
  unfold isSquare at h
  split at h
  · rename_i a b hs
    obtain ⟨ha,hb⟩ := Bool.and_eq_true_iff.mp h
    have hplain : s.toList.all isPlain = true := by
      rw [hs,List.all_cons,List.all_cons,List.all_nil,Bool.and_true,Bool.and_eq_true]
      exact ⟨List.all_eq_true.mp hfiles a (of_decide_eq_true ha),
        List.all_eq_true.mp hranks b (of_decide_eq_true hb)⟩
    rw [quote_plain_length hplain,hs]
    rfl
  · cases h

/-- What some fields take together. -/
def fieldsSize (fields : List (String × Json)) : ℕ := (fields.map fieldSize).sum

theorem fieldsSize_append (fields fields' : List (String × Json)) :
    fieldsSize (fields ++ fields') = fieldsSize fields + fieldsSize fields' := by
  unfold fieldsSize
  rw [List.map_append,List.sum_append_nat]

theorem fieldsSize_singleton (key : String) (j : Json) :
    fieldsSize [(key,j)] = (utf8 (quote key)).length + (utf8 (stringify j)).length + 2 := rfl

theorem natural_size {n : ℕ} (h : isNonnegativeInt n = true) :
    (utf8 (stringify (.number n))).length ≤ 68 :=
  integer_length (Bool.and_eq_true_iff.mp h).1

theorem clientFields_size {common : Option String × String × ℕ}
    (h : clientFields.valid common = true) : fieldsSize (clientFields.write common) ≤ 205 := by
  obtain ⟨correlationId,eventId,timestamp⟩ := common
  simp only [clientFields,Fields.and_valid,Fields.optional_valid,Fields.required_valid,
    Fields.tagged_valid,uuidV4,epochMs,Codec.text_valid,Codec.natural_valid,
    Codec.integerLiteral_valid,Bool.true_and,Bool.and_eq_true] at h
  obtain ⟨hcorrelation,hevent,htimestamp⟩ := h
  have htimestamp := natural_size htimestamp
  have hevent : (utf8 (stringify (.text eventId))).length = 38 := uuid_size hevent
  show fieldsSize ((correlationId.toList.map fun id => ("correlationId",Json.text id)) ++
    ([("eventId",.text eventId)] ++ ([("protocolVersion",.number protocolVersion)] ++
      [("timestamp",.number timestamp)]))) ≤ 205
  have hkeys : (utf8 (quote "correlationId")).length = 15 ∧ (utf8 (quote "eventId")).length = 9 ∧
      (utf8 (quote "protocolVersion")).length = 17 ∧ (utf8 (quote "timestamp")).length = 11 ∧
      (utf8 (stringify (.number protocolVersion))).length = 1 := by decide
  simp only [fieldsSize_append,fieldsSize_singleton]
  cases correlationId with
  | none =>
    show 0 + _ ≤ _
    omega
  | some id =>
    have hid : (utf8 (stringify (.text id))).length = 38 := uuid_size hcorrelation
    show fieldsSize [("correlationId",Json.text id)] + _ ≤ _
    rw [fieldsSize_singleton]
    omega

theorem payload_size (fields : List (String × Json)) :
    fieldsSize [("payload",.object fields)] ≤ fieldsSize fields + 13 := by
  have hkey : (utf8 (quote "payload")).length = 9 := by decide
  have hobject : (utf8 (stringify (.object fields))).length ≤ fieldsSize fields + 2 :=
    object_length fields
  rw [fieldsSize_singleton]
  omega

theorem gameId_size {gameId : String} (h : isUuidV4Text gameId = true) :
    fieldsSize [("gameId",.text gameId)] = 48 := by
  have hkey : (utf8 (quote "gameId")).length = 8 := by decide
  have hid : (utf8 (stringify (.text gameId))).length = 38 := uuid_size h
  rw [fieldsSize_singleton]
  omega

theorem gameVersion_size {n : ℕ} (h : isNonnegativeInt n = true) :
    fieldsSize [("gameVersion",.number n)] ≤ 83 := by
  have hkey : (utf8 (quote "gameVersion")).length = 13 := by decide
  have hversion := natural_size h
  rw [fieldsSize_singleton]
  omega

theorem queuePayload_size (mode : MatchMode) : fieldsSize (queuePayload.write mode) ≤ 240 := by
  cases mode
  decide

theorem gameFields_size {parts : String × ℕ} (h : gameFields.valid parts = true) :
    fieldsSize (gameFields.write parts) ≤ 240 := by
  obtain ⟨gameId,version⟩ := parts
  simp only [gameFields,Fields.tagged_valid,gamePayload_valid,Bool.true_and,Fields.and_valid,
    Fields.required_valid,uuidV4,gameVersion,Codec.text_valid,Codec.natural_valid,
    Bool.and_eq_true] at h
  obtain ⟨hid,hversion⟩ := h
  have hid := gameId_size hid
  have hversion := gameVersion_size hversion
  have hpayload := payload_size []
  show fieldsSize ([("payload",.object [])] ++ ([("gameId",.text gameId)] ++
    [("gameVersion",.number version)])) ≤ 240
  simp only [fieldsSize_append]
  have hnil : fieldsSize [] = 0 := rfl
  omega

theorem movePayload_valid (move : MoveInput) :
    movePayload.valid move = (isSquare move.source && isSquare move.target) := by
  simp [movePayload,square,promotion]

theorem movePayload_size {move : MoveInput} (h : isSquare move.source = true)
    (h' : isSquare move.target = true) :
    fieldsSize [("payload",movePayload.encode move)] ≤ 51 := by
  obtain ⟨source,promotion,target⟩ := move
  have hsource : (utf8 (stringify (.text source))).length = 4 := square_size h
  have htarget : (utf8 (stringify (.text target))).length = 4 := square_size h'
  have hkeys : (utf8 (quote "from")).length = 6 ∧ (utf8 (quote "to")).length = 4 := by decide
  have hpromotion : fieldsSize (promotion.toList.map fun piece : PromotionPiece =>
      ("promotion",Json.text piece.toText)) ≤ 16 := by
    cases promotion with
    | none => exact Nat.zero_le _
    | some piece => cases piece <;> decide
  have hpayload := payload_size ([("from",.text source)] ++
    ((promotion.toList.map fun piece : PromotionPiece => ("promotion",Json.text piece.toText)) ++
      [("to",.text target)]))
  have hfrom : fieldsSize [("from",.text source)] = 12 := by
    rw [fieldsSize_singleton]
    omega
  have hto : fieldsSize [("to",.text target)] = 10 := by
    rw [fieldsSize_singleton]
    omega
  rw [fieldsSize_append,fieldsSize_append,hfrom,hto] at hpayload
  refine hpayload.trans ?_
  omega

theorem moveFields_size {parts : String × String × ℕ × MoveInput}
    (h : moveFields.valid parts = true) : fieldsSize (moveFields.write parts) ≤ 240 := by
  obtain ⟨clientMoveId,gameId,version,move⟩ := parts
  simp only [moveFields,Fields.and_valid,Fields.required_valid,uuidV4,gameVersion,
    Codec.text_valid,Codec.natural_valid,Bool.and_eq_true] at h
  obtain ⟨hmove,hid,hversion,hpayload⟩ := h
  rw [movePayload_valid,Bool.and_eq_true] at hpayload
  have hkey : (utf8 (quote "clientMoveId")).length = 14 := by decide
  have hmove : (utf8 (stringify (.text clientMoveId))).length = 38 := uuid_size hmove
  have hid := gameId_size hid
  have hversion := gameVersion_size hversion
  have hpayload := movePayload_size hpayload.1 hpayload.2
  have hmoveId : fieldsSize [("clientMoveId",.text clientMoveId)] = 54 := by
    rw [fieldsSize_singleton]
    omega
  show fieldsSize ([("clientMoveId",.text clientMoveId)] ++ ([("gameId",.text gameId)] ++
    ([("gameVersion",.number version)] ++ [("payload",movePayload.encode move)]))) ≤ 240
  simp only [fieldsSize_append]
  omega

theorem syncFields_size {parts : Option String × Option ℕ} (h : syncFields.valid parts = true) :
    fieldsSize (syncFields.write parts) ≤ 240 := by
  obtain ⟨gameId,version⟩ := parts
  simp only [syncFields,Fields.tagged_valid,gamePayload_valid,Bool.true_and,Fields.and_valid,
    Fields.optional_valid,uuidV4,gameVersion,Codec.text_valid,Codec.natural_valid,
    Bool.and_eq_true] at h
  obtain ⟨hid,hversion⟩ := h
  have hpayload := payload_size []
  show fieldsSize ([("payload",.object [])] ++
    ((gameId.toList.map fun gameId => ("gameId",Json.text gameId)) ++
      (version.toList.map fun version : ℕ => ("gameVersion",Json.number version)))) ≤ 240
  simp only [fieldsSize_append]
  have hnil : fieldsSize [] = 0 := rfl
  have hgame : fieldsSize (gameId.toList.map fun gameId => ("gameId",Json.text gameId)) ≤ 48 := by
    cases gameId with
    | none => exact Nat.zero_le _
    | some gameId => exact (gameId_size hid).le
  have hversions : fieldsSize (version.toList.map fun version : ℕ =>
      ("gameVersion",Json.number version)) ≤ 83 := by
    cases version with
    | none => exact Nat.zero_le _
    | some version => exact gameVersion_size hversion
  omega

theorem heartbeatFields_size {version : Option ℕ} (h : heartbeatFields.valid version = true) :
    fieldsSize (heartbeatFields.write version) ≤ 240 := by
  have hkey : (utf8 (quote "lastKnownGameVersion")).length = 22 := by decide
  have hversion : fieldsSize (version.toList.map fun version : ℕ =>
      ("lastKnownGameVersion",Json.number version)) ≤ 92 := by
    cases version with
    | none => exact Nat.zero_le _
    | some version =>
      have hversion := natural_size h
      show fieldsSize [("lastKnownGameVersion",Json.number version)] ≤ 92
      rw [fieldsSize_singleton]
      omega
  have hpayload := payload_size (version.toList.map fun version : ℕ =>
    ("lastKnownGameVersion",Json.number version))
  refine hpayload.trans ?_
  omega

/-- What is written of a valid event, but for its type, is short. -/
def Short (f : Fields ClientEventEnvelope) : Prop :=
  ∀ envelope, f.valid envelope = true → fieldsSize (f.write envelope) ≤ 445

theorem clientEvent_short {β : Type} {own : Fields β} {build : β → ClientCommand}
    {parts : ClientCommand → Option β}
    {hparts : ∀ b command, parts command = some b ↔ build b = command}
    {hkeys : ∀ key ∈ clientFields.keys, key ∉ own.keys}
    (hown : ∀ {b}, own.valid b = true → fieldsSize (own.write b) ≤ 240) :
    Short (clientEvent own build parts hparts hkeys) := by
  intro envelope h
  cases hcommand : parts envelope.command with
  | none => simp [clientEvent,hcommand] at h
  | some b =>
    simp only [clientEvent,Fields.embed_valid,hcommand,Option.map_some,Option.any_some,
      Fields.and_valid,Bool.and_eq_true] at h
    have hcommon := clientFields_size h.1
    have hown := hown h.2
    have hwrite : (clientEvent own build parts hparts hkeys).write envelope =
        clientFields.write (envelope.correlationId,envelope.eventId,envelope.timestamp) ++
          own.write b := by
      show ((parts envelope.command).map _).elim [] _ = _
      rw [hcommand]
      rfl
    rw [hwrite,fieldsSize_append]
    omega

theorem clientEventSchemas_short (t : ClientEventName) : Short (clientEventSchemas t) := by
  cases t <;> simp only [clientEventSchemas]
  case queueJoin => exact clientEvent_short fun _ => queuePayload_size _
  case queueLeave => exact clientEvent_short fun _ => queuePayload_size _
  case gameReady => exact clientEvent_short gameFields_size
  case moveSubmit => exact clientEvent_short moveFields_size
  case gameResign => exact clientEvent_short gameFields_size
  case gameSync => exact clientEvent_short syncFields_size
  case heartbeatPing => exact clientEvent_short heartbeatFields_size

/-- No valid event is larger than the smallest limit that the configuration may set. -/
theorem clientEvents_size {envelope : ClientEventEnvelope}
    (h : clientEnvelopeSchema envelope = true) :
    encodedSize (clientEvents.encode envelope) ≤ minWsBufferBytes := by
  have hevent := clientEventSchemas_short envelope.command.eventName envelope
    ((clientEvents_valid envelope).trans h)
  have htype : ∀ t, fieldsSize [("type",.text (eventText t))] ≤ 24 := by
    intro t
    cases t <;> decide
  have hobject : encodedSize (clientEvents.encode envelope) ≤
      fieldsSize ([("type",.text (eventText envelope.command.eventName))] ++
        (clientEventSchemas envelope.command.eventName).write envelope) + 2 := object_length _
  rw [fieldsSize_append] at hobject
  have htype := htype envelope.command.eventName
  unfold minWsBufferBytes
  omega

end Size

/-! ### `RealtimeProtocolService` -/

def isSupportedClientEvent (value : String) : Bool :=
  clientEventNames.any fun name => decide (eventText name = value)

/-- What a client has sent in the place of the envelope: nothing, or a function, is `none`. -/
def parseClientEvent (maxPayloadBytes : ℕ) (eventName : String) (rawEnvelope : Option Json) :
    Except RealtimeError ClientEventEnvelope :=
  if isSupportedClientEvent eventName = false then
    .error { code := .unsupportedEvent
             message := "Socket event is not supported"
             retryable := false }
  else
    match rawEnvelope with
    | none => .error (invalidPayload "Socket event payload is invalid")
    | some raw =>
      if encodedSize raw > maxPayloadBytes then
        .error (invalidPayload "Socket event exceeds the payload limit")
      else if (raw.property "protocolVersion").any fun v => !v.equalsNumber protocolVersion then
        .error { code := .unsupportedProtocolVersion
                 message := "Socket protocol version is not supported"
                 retryable := false }
      else if (raw.property "type").any fun v => !v.equalsText eventName then
        .error (invalidPayload "Socket event name and envelope type must match")
      else
        match clientEvents.schema raw with
        | none => .error (invalidPayload "Socket event payload is invalid")
        | some envelope => .ok envelope

section Parse

variable {maxPayloadBytes : ℕ} {eventName : String} {raw : Json} {envelope : ClientEventEnvelope}

theorem isSupportedClientEvent_eventText (name : ClientEventName) :
    isSupportedClientEvent (eventText name) = true :=
  List.any_eq_true.mpr ⟨name,by cases name <;> decide,decide_eq_true rfl⟩

/-- The fields that all events have are written as such. -/
theorem event_lookup (envelope : ClientEventEnvelope) {key : String}
    (hkey : key ∈ clientFields.keys) :
    ((clientEventSchemas envelope.command.eventName).write envelope).lookup key =
      (clientFields.write
        (envelope.correlationId,envelope.eventId,envelope.timestamp)).lookup key := by
  obtain ⟨correlationId,eventId,timestamp,command⟩ := envelope
  have hqueue : ∀ key ∈ clientFields.keys, key ∉ queuePayload.keys := by decide
  have hgame : ∀ key ∈ clientFields.keys, key ∉ gameFields.keys := by decide
  have hmove : ∀ key ∈ clientFields.keys, key ∉ moveFields.keys := by decide
  have hsync : ∀ key ∈ clientFields.keys, key ∉ syncFields.keys := by decide
  have hheartbeat : ∀ key ∈ clientFields.keys, key ∉ heartbeatFields.keys := by decide
  cases command with
  | queueJoin | queueLeave =>
    exact Fields.lookup_append_left (queuePayload.lookup_none _ (hqueue key hkey))
  | gameReady | gameResign =>
    exact Fields.lookup_append_left (gameFields.lookup_none _ (hgame key hkey))
  | moveSubmit => exact Fields.lookup_append_left (moveFields.lookup_none _ (hmove key hkey))
  | gameSync => exact Fields.lookup_append_left (syncFields.lookup_none _ (hsync key hkey))
  | heartbeatPing =>
    exact Fields.lookup_append_left (heartbeatFields.lookup_none _ (hheartbeat key hkey))

theorem agree_text {s : String} {value : Option Json} (h : Agree (some (.text s)) value) :
    value = some (.text s) := by
  cases h with
  | some hvalue =>
    cases hvalue
    rfl

theorem agree_number {n : ℤ} {value : Option Json} (h : Agree (some (.number n)) value) :
    value = some (.number n) := by
  cases h with
  | some hvalue =>
    cases hvalue
    rfl

theorem stored_lookup (h : Stored (clientEvents.encode envelope) raw) (key : String) :
    Agree ((("type",Json.text (eventText envelope.command.eventName)) ::
      (clientEventSchemas envelope.command.eventName).write envelope).lookup key)
        (raw.property key) := by
  have hkeys : ∀ t, ("type" :: (clientEventSchemas t).keys).Nodup := fun t => by
    cases t <;> decide
  have hwrite := (hkeys envelope.command.eventName).sublist
    ((Codec.optionFields "type" eventText clientEventSchemas hkeys
      envelope.command.eventName).write_keys envelope)
  exact h.property_agree hwrite key

/-- A stored form of an event has the type, the version and the identifiers of the event. -/
theorem stored_properties (h : Stored (clientEvents.encode envelope) raw) :
    raw.property "type" = some (.text (eventText envelope.command.eventName)) ∧
      raw.property "protocolVersion" = some (.number protocolVersion) ∧
        raw.property "eventId" = some (.text envelope.eventId) ∧
          raw.property "correlationId" = envelope.correlationId.map .text := by
  have hcommon : ∀ key ∈ clientFields.keys, key ≠ "type" → Agree ((clientFields.write
      (envelope.correlationId,envelope.eventId,envelope.timestamp)).lookup key)
        (raw.property key) := by
    intro key hkey htype
    have hagree := stored_lookup h key
    rw [List.lookup_cons,beq_false_of_ne htype] at hagree
    rwa [← event_lookup envelope hkey]
  have hwrite : clientFields.write (envelope.correlationId,envelope.eventId,envelope.timestamp) =
      (envelope.correlationId.toList.map fun id => ("correlationId",Json.text id)) ++
        [("eventId",.text envelope.eventId),("protocolVersion",.number protocolVersion),
          ("timestamp",.number envelope.timestamp)] := rfl
  rw [hwrite] at hcommon
  have htype := stored_lookup h "type"
  have hversion := hcommon "protocolVersion" (by decide) (by decide)
  have hevent := hcommon "eventId" (by decide) (by decide)
  have hcorrelation := hcommon "correlationId" (by decide) (by decide)
  rw [List.lookup_cons_self] at htype
  refine ⟨agree_text htype,agree_number ?_,agree_text ?_,?_⟩
  · cases hid : envelope.correlationId <;> rwa [hid] at hversion
  · cases hid : envelope.correlationId <;> rwa [hid] at hevent
  · cases hid : envelope.correlationId with
    | none =>
      rw [hid] at hcorrelation
      generalize raw.property "correlationId" = value at hcorrelation
      cases hcorrelation
      rfl
    | some id =>
      rw [hid] at hcorrelation
      exact agree_text hcorrelation

/-- What is accepted is a stored form of the event, whatever the limit. -/
theorem parseClientEvent_sound (hraw : raw.distinct = true)
    (h : parseClientEvent maxPayloadBytes eventName (some raw) = .ok envelope) :
    clientEnvelopeSchema envelope = true ∧ eventName = eventText envelope.command.eventName ∧
      Stored (clientEvents.encode envelope) raw := by
  simp only [parseClientEvent] at h
  split_ifs at h with _ _ _ htype
  cases hread : clientEvents.schema raw with
  | none =>
    rw [hread] at h
    cases h
  | some envelope' =>
    rw [hread] at h
    cases h
    obtain ⟨hvalid,hstored⟩ := (clientEvents.exact hraw).mp hread
    rw [clientEvents_valid] at hvalid
    obtain ⟨hproperty,_⟩ := stored_properties hstored
    rw [hproperty] at htype
    have hname : eventText envelope.command.eventName = eventName := by simpa using htype
    exact ⟨hvalid,hname.symm,hstored⟩

/-- An event is accepted under its name in the stored forms of a valid event, and in no other
JSON. -/
theorem parseClientEvent_ok_iff (hlimit : minWsBufferBytes ≤ maxPayloadBytes)
    (hraw : raw.distinct = true) :
    parseClientEvent maxPayloadBytes eventName (some raw) = .ok envelope ↔
      clientEnvelopeSchema envelope = true ∧ eventName = eventText envelope.command.eventName ∧
        Stored (clientEvents.encode envelope) raw := by
  constructor
  · exact parseClientEvent_sound hraw
  · rintro ⟨hvalid,rfl,hstored⟩
    obtain ⟨htype,hversion,_⟩ := stored_properties hstored
    have hread : clientEvents.schema raw = some envelope :=
      (clientEvents.exact hraw).mpr ⟨(clientEvents_valid envelope).trans hvalid,hstored⟩
    have hsize : ¬ maxPayloadBytes < encodedSize raw := by
      have hevent := clientEvents_size hvalid
      have hraw : encodedSize raw = encodedSize (clientEvents.encode envelope) := hstored.size_eq
      omega
    simp [parseClientEvent,isSupportedClientEvent_eventText,hversion,htype,hread,hsize]

def sampleHeartbeat : ClientEventEnvelope :=
  ⟨none,"00000000-0000-4000-8000-000000000028",5000,.heartbeatPing (some 3)⟩

/-- The event as a client might write it. -/
def sampleHeartbeatJson : Json := .object [("eventId",.text "00000000-0000-4000-8000-000000000028"),
  ("payload",.object [("lastKnownGameVersion",.number 3)]),("protocolVersion",.number 1),
  ("timestamp",.number 5000),("type",.text "heartbeat.ping")]

theorem parseClientEvent_ok_iff_sample :
    parseClientEvent 8192 "heartbeat.ping" (some sampleHeartbeatJson) = .ok sampleHeartbeat ↔
      clientEnvelopeSchema sampleHeartbeat = true ∧
        "heartbeat.ping" = eventText sampleHeartbeat.command.eventName ∧
          Stored (clientEvents.encode sampleHeartbeat) sampleHeartbeatJson :=
  parseClientEvent_ok_iff (by decide) (by decide)

example : parseClientEvent 8192 "heartbeat.ping" (some sampleHeartbeatJson) =
    .ok sampleHeartbeat := by decide +kernel

end Parse

end CluChess
