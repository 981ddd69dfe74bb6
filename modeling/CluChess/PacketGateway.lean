import CluChess.FailureAcks
import CluChess.UuidCase

/-! `realtime.gateway.ts`: the packets of the clients, from JSON to the acknowledgement, and the
commands that they come to. -/
namespace CluChess

open Json ProtocolSchemas

/-! ### Packets -/

/-- What Socket.IO gives to the listener: the name of an event, the values that came with it and,
after them, the callback of a client that asks for an acknowledgement. -/
structure Packet where
  eventName : String
  arguments : List Json
  callback : Bool

def Packet.rawEnvelope (packet : Packet) : Option Json := packet.arguments.head?

def Packet.property (packet : Packet) (key : String) : Option Json :=
  packet.rawEnvelope.bind fun raw => raw.property key

/-- The callback counts as the second of two arguments only. -/
def Packet.acknowledged (packet : Packet) : Bool :=
  packet.callback && decide (packet.arguments.length = 1)

/-- `RealtimeProtocolService.correlationId`; `made` is what `randomUUID` gives. -/
def protocolCorrelationId (value : Option Json) (made : String) : String :=
  match value with
  | some (.text s) => if isUuidV4Text s then s.toLower else made
  | _ => made

def Packet.correlationId (packet : Packet) (socketCorrelationId : Option String)
    (made : String) : String :=
  match packet.property "correlationId" with
  | none | some .null => protocolCorrelationId (socketCorrelationId.map .text) made
  | value => protocolCorrelationId value made

def Packet.requestEventId (packet : Packet) (made : String) : String :=
  match packet.property "eventId" with
  | some (.text s) => if isUuidV4Text s then s.toLower else made
  | _ => made

structure PacketMoment where
  command : Moment
  errorEventId : String
  errorTimestamp : ℕ

/-- The moment of the command of a packet, whose `correlationId` is that of the socket if the
packet brings none. -/
def PacketMoment.ofSocket (moment : PacketMoment) (socketCorrelationId : Option String) : Moment :=
  { moment.command with
    correlationId :=
      protocolCorrelationId (socketCorrelationId.map .text) moment.command.correlationId }

/-! ### Answers -/

inductive PacketAck
  | success (requestEventId correlationId : String) (result : RealtimeCommandResult)
  | failure (ack : FailureAck)
  deriving DecidableEq

def PacketAck.schema : PacketAck → Bool
  | .success requestEventId correlationId result =>
    isUuidV4Text requestEventId && isUuidV4Text correlationId && result.schema
  | .failure ack => ackFailureSchema.valid ack

def PacketAck.requestEventId : PacketAck → String
  | .success requestEventId _ _ => requestEventId
  | .failure ack => ack.requestEventId

def PacketAck.correlationId : PacketAck → String
  | .success _ correlationId _ => correlationId
  | .failure ack => ack.correlationId

def createFailureAck (requestEventId correlationId : String) (mapped : MappedRealtimeError) :
    Except SchemaError PacketAck :=
  let ack : FailureAck :=
    ⟨correlationId,mapped.error,mapped.gameVersion,requestEventId,mapped.responseType⟩
  if ackFailureSchema.valid ack then .ok (.failure ack) else .error .zodError

def failureAcks (requestEventId correlationId : String) (mapped : MappedRealtimeError) :
    List PacketAck :=
  (createFailureAck requestEventId correlationId mapped).toOption.toList

/-- `emitServerError`; an event that does not pass its schema is not sent. -/
def emitServerError (correlationId : String) (mapped : MappedRealtimeError)
    (moment : PacketMoment) : List ServerErrorEvent :=
  let event : ServerErrorEvent :=
    ⟨correlationId,mapped.error,moment.errorEventId,moment.errorTimestamp⟩
  if serverErrorSchema.valid event then [event] else []

structure PacketReply where
  acks : List PacketAck
  serverErrors : List ServerErrorEvent
  emissions : List Emission

def acknowledgmentRequired : RealtimeError :=
  invalidPayload "Socket command acknowledgment is required"

/-- Whoever answers a command, its failures are answered as the errors that `explain` gives. -/
def Ack.sent (explain : RealtimeFailure → CommandError) (ack : Ack) : List PacketAck :=
  match ack.outcome with
  | .ok result => [.success ack.requestEventId ack.correlationId result]
  | .error failure => failureAcks ack.requestEventId ack.correlationId (explain failure).map

/-! ### The gateway -/

section Gateway

variable {σ : Type} (config : AppConfig) (maxPayloadBytes : ℕ) (chess : ChessEngine)
  (services : Services σ) (explain : ClientCommand → RealtimeFailure → CommandError)

def Server.handlePacket (s : Server σ) (socket : SocketId) (identity : SocketIdentity)
    (socketCorrelationId : Option String) (packet : Packet) (moment : PacketMoment) :
    PacketReply × Server σ :=
  let correlationId := packet.correlationId socketCorrelationId moment.command.correlationId
  let requestEventId := packet.requestEventId moment.command.requestEventId
  if packet.acknowledged = false then
    let mapped := (CommandError.realtime acknowledgmentRequired).map
    (⟨[],emitServerError correlationId mapped moment,[]⟩,s)
  else
    match parseClientEvent maxPayloadBytes packet.eventName packet.rawEnvelope with
    | .error error =>
      (⟨failureAcks requestEventId correlationId (CommandError.realtime error).map,[],[]⟩,s)
    | .ok envelope =>
      let handled := s.handleIncoming config chess services socket identity envelope
        (moment.ofSocket socketCorrelationId)
      let acks := match handled.1.ack.map Ack.outcome with
        | none => []
        | some (.ok result) => [.success envelope.eventId correlationId result]
        | some (.error failure) =>
          failureAcks requestEventId correlationId (explain envelope.command failure).map
      (⟨acks,[],handled.1.emissions⟩,handled.2)

/-- A packet of a client, or anything else that the server does. -/
inductive PacketInput (σ : Type)
  | received (socket : SocketId) (identity : SocketIdentity) (socketCorrelationId : Option String)
      (packet : Packet) (moment : PacketMoment)
  | other (act : Server σ → List Emission × Server σ)

def gateway : Machine (Server σ) (PacketInput σ) PacketReply where
  step s
    | .received socket identity socketCorrelationId packet moment =>
      s.handlePacket config maxPayloadBytes chess services explain socket identity
        socketCorrelationId packet moment
    | .other act => (⟨[],[],(act s).1⟩,(act s).2)

def Packet.event (packet : Packet) : Option ClientEventEnvelope :=
  if packet.acknowledged then
    (parseClientEvent maxPayloadBytes packet.eventName packet.rawEnvelope).toOption
  else none

def PacketInput.command : PacketInput σ → Option (ServerInput σ)
  | .received socket identity socketCorrelationId packet moment =>
    (packet.event maxPayloadBytes).map fun envelope =>
      .command socket identity envelope (moment.ofSocket socketCorrelationId)
  | .other act => some (.other act)

/-- The arguments of a packet are what `JSON.parse` gives. -/
def PacketInput.Parsed : PacketInput σ → Prop
  | .received _ _ _ packet _ => ∀ raw ∈ packet.arguments, raw.distinct = true
  | .other _ => True

end Gateway

/-! ### Packets and their commands -/

section Identifiers

variable {maxPayloadBytes : ℕ} {packet : Packet} {envelope : ClientEventEnvelope}

theorem uuidV4Char_lower {k : ℕ} {c : Char} (h : uuidV4Char k c = true) :
    uuidV4Char k c.toLower = true := by
  have hdigit : ("0123456789abcdefABCDEF".toList.all fun c => isHexDigit c.toLower) = true := by
    decide
  have hvariant : (['8','9','a','b','A','B'].all fun c : Char =>
      decide (c.toLower ∈ ['8','9','a','b','A','B'])) = true := by decide
  unfold uuidV4Char at h ⊢
  split_ifs at h ⊢
  · rw [of_decide_eq_true h]
    rfl
  · rw [of_decide_eq_true h]
    rfl
  · exact List.all_eq_true.mp hvariant c (of_decide_eq_true h)
  · exact List.all_eq_true.mp hdigit c (of_decide_eq_true h)

theorem isUuidV4Text_toLower {s : String} (h : isUuidV4Text s = true) :
    isUuidV4Text s.toLower = true := by
  obtain ⟨hlength,hchars⟩ := isUuidV4Text_iff.mp h
  rw [isUuidV4Text_iff,toList_toLower,List.length_map]
  refine ⟨hlength,fun k c hk => ?_⟩
  rw [List.getElem?_map,Option.map_eq_some_iff] at hk
  obtain ⟨c,hc,rfl⟩ := hk
  exact uuidV4Char_lower (hchars k c hc)

theorem protocolCorrelationId_valid {value : Option Json} {made : String}
    (h : isUuidV4Text made = true) : isUuidV4Text (protocolCorrelationId value made) = true := by
  unfold protocolCorrelationId
  split
  · split_ifs with hs
    · exact isUuidV4Text_toLower hs
    · exact h
  · exact h

theorem Packet.correlationId_valid {socketCorrelationId : Option String} {made : String}
    (h : isUuidV4Text made = true) :
    isUuidV4Text (packet.correlationId socketCorrelationId made) = true := by
  unfold Packet.correlationId
  split <;> exact protocolCorrelationId_valid h

theorem Packet.requestEventId_valid {made : String} (h : isUuidV4Text made = true) :
    isUuidV4Text (packet.requestEventId made) = true := by
  unfold Packet.requestEventId
  split
  · split_ifs with hs
    · exact isUuidV4Text_toLower hs
    · exact h
  · exact h

theorem Packet.event_some (h : packet.event maxPayloadBytes = some envelope) :
    packet.acknowledged = true ∧ ∃ raw ∈ packet.arguments, packet.rawEnvelope = some raw ∧
      parseClientEvent maxPayloadBytes packet.eventName (some raw) = .ok envelope := by
  unfold Packet.event at h
  split_ifs at h with hack
  refine ⟨hack,?_⟩
  cases hraw : packet.rawEnvelope with
  | none =>
    rw [hraw] at h
    unfold parseClientEvent at h
    split_ifs at h <;> cases h
  | some raw =>
    refine ⟨raw,List.mem_of_mem_head? hraw,rfl,?_⟩
    rw [hraw] at h
    cases hparse : parseClientEvent maxPayloadBytes packet.eventName (some raw) with
    | error e =>
      rw [hparse] at h
      cases h
    | ok envelope' =>
      rw [hparse] at h
      cases h
      rfl

/-- The identifiers that are read before the envelope is parsed are those of its event. -/
theorem Packet.event_identifiers (hparsed : ∀ raw ∈ packet.arguments, raw.distinct = true)
    (h : packet.event maxPayloadBytes = some envelope) (socketCorrelationId : Option String)
    (moment : PacketMoment) :
    clientEnvelopeSchema envelope = true ∧
      packet.correlationId socketCorrelationId moment.command.correlationId =
        envelope.correlation (moment.ofSocket socketCorrelationId) ∧
      packet.requestEventId moment.command.requestEventId =
        envelope.requestEventId (moment.ofSocket socketCorrelationId) := by
  obtain ⟨_,raw,hmem,hraw,hparse⟩ := Packet.event_some h
  obtain ⟨hvalid,_,hstored⟩ := parseClientEvent_sound (hparsed raw hmem) hparse
  obtain ⟨_,_,hevent,hcorrelation⟩ := stored_properties hstored
  have hids := commandSchema_uuids hvalid
  refine ⟨hvalid,?_,?_⟩
  · unfold Packet.correlationId Packet.property ClientEventEnvelope.correlation
    rw [hraw,Option.bind_some,hcorrelation]
    cases hid : envelope.correlationId with
    | none => rfl
    | some id =>
      rw [hid,Option.all_some] at hids
      simp only [Option.map_some,protocolCorrelationId,if_pos hids.1]
  · unfold Packet.requestEventId Packet.property ClientEventEnvelope.requestEventId
    rw [hraw,Option.bind_some,hevent]
    simp only [if_pos hids.2.1]

end Identifiers

abbrev PacketEvent (σ : Type) := Machine.Event (Server σ) (PacketInput σ) PacketReply

def sentAcks {σ : Type} (explain : ClientCommand → RealtimeFailure → CommandError) :
    ServerInput σ → Reply → List PacketAck
  | .command _ _ envelope _, reply => reply.ack.toList.flatMap (Ack.sent (explain envelope.command))
  | .other _, _ => []

/-- The step of a packet is the step of its command, with the same answer and messages. -/
structure PacketEvent.Carries {σ : Type} (explain : ClientCommand → RealtimeFailure → CommandError)
    (e : PacketEvent σ) (e' : ServerEvent σ) : Prop where
  before : e.before = e'.before
  after : e.after = e'.after
  emissions : e.answer.emissions = e'.answer.emissions
  acks : e.answer.acks = sentAcks explain e'.input e'.answer
  serverErrors : e.answer.serverErrors = []

section Refinement

variable {σ : Type} (config : AppConfig) {maxPayloadBytes : ℕ} (chess : ChessEngine)
  (services : Services σ) (explain : ClientCommand → RealtimeFailure → CommandError)
  (s : Server σ) (socket : SocketId) (identity : SocketIdentity)
  (socketCorrelationId : Option String) {packet : Packet} (moment : PacketMoment)
  (envelope : ClientEventEnvelope)

theorem handleIncoming_ack (m : Moment) : ∃ result,
    (s.handleIncoming config chess services socket identity envelope m).1.ack =
        some (acknowledge envelope m result) ∧
      ∀ failure, result = .error failure → failure = .invalidPayload ∨
        (services.consume envelope.command.eventName identity.guestSessionId m s.rest).1 =
          .error failure ∨
        (Server.executeEvent config chess services { s with rest :=
          (services.consume envelope.command.eventName identity.guestSessionId m s.rest).2 } socket
            identity envelope m).result = .error failure := by
  unfold Server.handleIncoming
  split_ifs
  · exact ⟨_,rfl,fun _ h => Or.inl (by cases h; rfl)⟩
  · simp only
    split
    · rename_i failure hconsume
      exact ⟨_,rfl,fun _ h => Or.inr (Or.inl (by cases h; exact hconsume))⟩
    · exact ⟨_,rfl,fun _ h => Or.inr (Or.inr h)⟩

theorem acknowledge_sent (m : Moment) (explain : RealtimeFailure → CommandError)
    (result : Except RealtimeFailure RealtimeCommandResult) :
    (acknowledge envelope m result).sent explain =
      match (acknowledge envelope m result).outcome with
      | .ok result => [.success envelope.eventId (envelope.correlation m) result]
      | .error failure =>
        failureAcks (envelope.requestEventId m) (envelope.correlation m) (explain failure).map := by
  unfold acknowledge Ack.sent
  cases result with
  | error failure => rfl
  | ok result =>
    simp only
    split_ifs <;> rfl

theorem handlePacket_event {envelope : ClientEventEnvelope}
    (hparsed : ∀ raw ∈ packet.arguments, raw.distinct = true)
    (h : packet.event maxPayloadBytes = some envelope) :
    s.handlePacket config maxPayloadBytes chess services explain socket identity
        socketCorrelationId packet moment =
      let m := moment.ofSocket socketCorrelationId
      let handled := s.handleIncoming config chess services socket identity envelope m
      (⟨sentAcks explain (.command socket identity envelope m : ServerInput σ) handled.1,[],
        handled.1.emissions⟩,handled.2) := by
  obtain ⟨hack,raw,_,hraw,hparse⟩ := Packet.event_some h
  obtain ⟨_,hcorrelation,hrequest⟩ :=
    Packet.event_identifiers hparsed h socketCorrelationId moment
  obtain ⟨result,hresult,_⟩ := handleIncoming_ack config chess services s socket identity envelope
    (moment.ofSocket socketCorrelationId)
  unfold Server.handlePacket
  rw [if_neg (by rw [hack]; simp),hraw,hparse,hcorrelation,hrequest]
  simp only [sentAcks,hresult,Option.map_some,Option.toList_some,List.flatMap_singleton,
    acknowledge_sent]
  cases (acknowledge envelope (moment.ofSocket socketCorrelationId) result).outcome <;> rfl

/-- A packet without an event leaves the server as it is. -/
theorem handlePacket_refused (h : packet.event maxPayloadBytes = none) :
    (s.handlePacket config maxPayloadBytes chess services explain socket identity
        socketCorrelationId packet moment).2 = s ∧
      (s.handlePacket config maxPayloadBytes chess services explain socket identity
        socketCorrelationId packet moment).1.emissions = [] := by
  unfold Packet.event at h
  unfold Server.handlePacket
  cases hack : packet.acknowledged with
  | false => exact ⟨rfl,rfl⟩
  | true =>
    rw [hack,if_pos rfl] at h
    rw [if_neg (by simp)]
    cases hparse : parseClientEvent maxPayloadBytes packet.eventName packet.rawEnvelope with
    | error e => exact ⟨rfl,rfl⟩
    | ok envelope =>
      rw [hparse] at h
      cases h

/-- A run of packets is the run of the commands that they bring: what is proved of the runs of
`realtime` holds of the runs of the gateway. -/
theorem packets_refine_commands {inputs : List (PacketInput σ)}
    (hparsed : ∀ input ∈ inputs, input.Parsed) :
    (gateway config maxPayloadBytes chess services explain).run s inputs =
        (realtime config chess services).run s
          (inputs.filterMap (PacketInput.command maxPayloadBytes)) ∧
      List.Forall₂ (PacketEvent.Carries explain)
        (((gateway config maxPayloadBytes chess services explain).events s inputs).filter
          fun e => (e.input.command maxPayloadBytes).isSome)
        ((realtime config chess services).events s
          (inputs.filterMap (PacketInput.command maxPayloadBytes))) ∧
      ∀ e ∈ (gateway config maxPayloadBytes chess services explain).events s inputs,
        e.input.command maxPayloadBytes = none → e.after = e.before ∧ e.answer.emissions = [] := by
  have hrefused : ∀ (s : Server σ) (i : PacketInput σ), i.command maxPayloadBytes = none →
      (gateway config maxPayloadBytes chess services explain).next s i = s ∧
        ((gateway config maxPayloadBytes chess services explain).step s i).1.emissions = [] := by
    intro s i h
    cases i with
    | received socket identity socketCorrelationId packet moment =>
      exact handlePacket_refused config chess services explain s socket identity
        socketCorrelationId moment (Option.map_eq_none_iff.mp h)
    | other act => cases h
  have hcarries : ∀ (s : Server σ) (i : PacketInput σ) (k : ServerInput σ), i.Parsed →
      i.command maxPayloadBytes = some k →
      (gateway config maxPayloadBytes chess services explain).next s i =
          (realtime config chess services).next s k ∧
        PacketEvent.Carries explain
          ((gateway config maxPayloadBytes chess services explain).event s i)
          ((realtime config chess services).event s k) := by
    intro s i k hparsed h
    cases i with
    | received socket identity socketCorrelationId packet moment =>
      obtain ⟨envelope,hevent,rfl⟩ := Option.map_eq_some_iff.mp h
      have hstep := handlePacket_event config chess services explain s socket identity
        socketCorrelationId moment hparsed hevent
      refine ⟨congrArg Prod.snd hstep,⟨rfl,congrArg Prod.snd hstep,?_,?_,?_⟩⟩
      · exact congrArg (PacketReply.emissions ∘ Prod.fst) hstep
      · exact congrArg (PacketReply.acks ∘ Prod.fst) hstep
      · exact congrArg (PacketReply.serverErrors ∘ Prod.fst) hstep
    | other act =>
      cases h
      exact ⟨rfl,⟨rfl,rfl,rfl,rfl,rfl⟩⟩
  obtain ⟨hrun,hevents⟩ := Machine.run_passing (realtime config chess services)
    (PacketInput.command maxPayloadBytes) (fun s i _ h => (hrefused s i h).1) hcarries hparsed
  refine ⟨hrun,hevents,fun e he hnone => ?_⟩
  rw [Machine.mem_events_eq _ he]
  exact hrefused e.before e.input hnone

end Refinement

section Sample

def explainFailure (command : ClientCommand) : RealtimeFailure → CommandError
  | .invalidPayload => .realtime (invalidPayload "Socket event payload is invalid")
  | .rateLimited retryAfterMs => .realtime (rateLimitExceeded retryAfterMs)
  | .serviceUnavailable (some retryAfterMs) => .realtime (serverDraining retryAfterMs)
  | .serviceUnavailable none => .realtimeRedisUnavailable
  | .matchmaking error => .matchmaking error
  | .repository (.service error) => .gameService error
  | .repository (.database kind) =>
    command.storeFailure.elim (.database kind) fun responseType =>
      .gameService (storeUnavailable responseType)
  | .schema _ => .other

def sampleReportPacket : Packet where
  eventName := "game.ready"
  arguments :=
    [clientEvents.encode (sampleReport (uuidText (sampleId 70)) (uuidText (sampleId 10)))]
  callback := true

def samplePacketMoment : PacketMoment := ⟨sampleMoment 1000,uuidText (sampleId 52),1000⟩

def samplePacket (packet : Packet) : PacketInput Unit :=
  .received "white" (samplePlayerIdentity 1) none packet samplePacketMoment

/-- The report without a callback, under another name, and as it should be. -/
def samplePackets : List (PacketInput Unit) :=
  [samplePacket { sampleReportPacket with callback := false },
    samplePacket { sampleReportPacket with eventName := "game.sync" },
    samplePacket sampleReportPacket]

theorem samplePackets_parsed : ∀ input ∈ samplePackets, input.Parsed := by
  have hdistinct : ∀ raw ∈ sampleReportPacket.arguments, raw.distinct = true := by
    intro raw hraw
    rw [List.mem_singleton.mp hraw]
    decide +kernel
  intro input hinput
  simp only [samplePackets,List.mem_cons,List.not_mem_nil,or_false] at hinput
  rcases hinput with rfl | rfl | rfl <;> exact hdistinct

theorem packets_refine_commands_sample :
    (gateway sampleConfig 8192 sampleEngine sampleServices explainFailure).run sampleServer
        samplePackets =
      (realtime sampleConfig sampleEngine sampleServices).run sampleServer
        (samplePackets.filterMap (PacketInput.command 8192)) :=
  (packets_refine_commands sampleConfig sampleEngine sampleServices explainFailure sampleServer
    samplePackets_parsed).1

example : (samplePackets.filterMap (PacketInput.command 8192)).length = 1 := by decide +kernel

end Sample

end CluChess
