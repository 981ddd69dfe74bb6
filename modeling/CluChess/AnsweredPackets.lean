import CluChess.PacketGateway
import CluChess.PlainFailures

/-! Every packet is answered, once, in a form that passes the schemas: no failure of a command
keeps its acknowledgement from being built. -/
namespace CluChess

open Json ProtocolSchemas

/-! ### Answers -/

/-- An identifier in an answer is that of the packet, if the packet brings one. -/
def Echoes (value : Option Json) (id : String) : Prop :=
  ∀ s, value = some (.text s) → isUuidV4Text s = true → uuidOf id = uuidOf s

/-- The socket of a packet is sent one answer that passes the schemas: the acknowledgement that it
has asked for, or else an event `server.error`. -/
structure PacketReply.Answers (packet : Packet) (reply : PacketReply) : Prop where
  acknowledged : packet.acknowledged = true → reply.serverErrors = [] ∧
    ∃ ack, reply.acks = [ack] ∧ ack.schema = true ∧
      Echoes (packet.property "eventId") ack.requestEventId ∧
        Echoes (packet.property "correlationId") ack.correlationId
  unacknowledged : packet.acknowledged = false → reply.acks = [] ∧
    ∃ event, reply.serverErrors = [event] ∧ serverErrorSchema.valid event = true ∧
      Echoes (packet.property "correlationId") event.correlationId

structure PacketMoment.Valid (moment : PacketMoment) : Prop where
  correlationId : isUuidV4Text moment.command.correlationId = true
  requestEventId : isUuidV4Text moment.command.requestEventId = true
  errorEventId : isUuidV4Text moment.errorEventId = true
  errorTimestamp : isNonnegativeInt moment.errorTimestamp = true

/-- A packet of JSON, or anything that keeps the rows within the constraints of the database, and
what the services hold in order. -/
def PacketInput.Valid {σ : Type} (holds : σ → Prop) : PacketInput σ → Prop
  | .received _ _ _ packet moment =>
    (∀ raw ∈ packet.arguments, raw.distinct = true) ∧ moment.Valid
  | .other act => ∀ s, s.Checked holds → (act s).2.Checked holds

section Answers

variable {σ : Type} {config : AppConfig} {maxPayloadBytes : ℕ} {chess : ChessJs}
  {services : Services σ} {explain : ClientCommand → RealtimeFailure → CommandError}
  {s : Server σ} {socket : SocketId} {identity : SocketIdentity}
  {socketCorrelationId : Option String} {packet : Packet} {moment : PacketMoment}
  {holds : σ → Prop}

theorem Packet.correlationId_echoes (made : String) : Echoes (packet.property "correlationId")
    (packet.correlationId socketCorrelationId made) := by
  intro t ht hvalid
  unfold Packet.correlationId
  rw [ht]
  simp only [protocolCorrelationId,if_pos hvalid]
  exact uuidOf_toLower hvalid

theorem Packet.requestEventId_echoes (made : String) :
    Echoes (packet.property "eventId") (packet.requestEventId made) := by
  intro t ht hvalid
  unfold Packet.requestEventId
  rw [ht]
  simp only [if_pos hvalid]
  exact uuidOf_toLower hvalid

theorem failureAcks_eq {requestEventId correlationId : String} {mapped : MappedRealtimeError}
    (hrequest : isUuidV4Text requestEventId = true)
    (hcorrelation : isUuidV4Text correlationId = true) (h : mapped.Valid) :
    ∃ ack, failureAcks requestEventId correlationId mapped = [ack] ∧
      ack.schema = true ∧ ack.requestEventId = requestEventId ∧
        ack.correlationId = correlationId := by
  have hack : ackFailureSchema.valid ⟨correlationId,mapped.error,mapped.gameVersion,requestEventId,
      mapped.responseType⟩ = true := by
    rw [ackFailureSchema_valid]
    simp [hrequest,hcorrelation,h.error,h.gameVersion]
  refine ⟨.failure ⟨correlationId,mapped.error,mapped.gameVersion,requestEventId,
    mapped.responseType⟩,?_,hack,rfl,rfl⟩
  unfold failureAcks createFailureAck
  simp only [if_pos hack]
  rfl

theorem acknowledge_outcome (envelope : ClientEventEnvelope) (m : Moment)
    {result : Except RealtimeFailure RealtimeCommandResult}
    (h : ∀ failure, result = .error failure → failure.Plain) :
    (∃ answer, (acknowledge envelope m result).outcome = .ok answer ∧ answer.schema = true) ∨
      ∃ failure, (acknowledge envelope m result).outcome = .error failure ∧ failure.Plain := by
  unfold acknowledge
  cases result with
  | error failure => exact Or.inr ⟨failure,rfl,h failure rfl⟩
  | ok answer =>
    simp only
    split_ifs with hschema
    · exact Or.inl ⟨answer,rfl,hschema⟩
    · exact Or.inr ⟨_,rfl,trivial⟩

/-- A failure of a packet is told under the identifiers of the packet. -/
theorem failureAcks_answer (hmoment : moment.Valid) {mapped : MappedRealtimeError}
    (h : mapped.Valid) : ∃ ack,
      failureAcks (packet.requestEventId moment.command.requestEventId)
        (packet.correlationId socketCorrelationId moment.command.correlationId) mapped = [ack] ∧
      ack.schema = true ∧ Echoes (packet.property "eventId") ack.requestEventId ∧
        Echoes (packet.property "correlationId") ack.correlationId := by
  have hcorrelation : isUuidV4Text (packet.correlationId socketCorrelationId
      moment.command.correlationId) = true := Packet.correlationId_valid hmoment.correlationId
  have hrequest : isUuidV4Text (packet.requestEventId moment.command.requestEventId) = true :=
    Packet.requestEventId_valid hmoment.requestEventId
  obtain ⟨ack,hacks,hschema,hid,hid'⟩ := failureAcks_eq hrequest hcorrelation h
  refine ⟨ack,hacks,hschema,?_,?_⟩
  · rw [hid]
    exact Packet.requestEventId_echoes _
  · rw [hid']
    exact Packet.correlationId_echoes _

theorem unacknowledged_answers (hmoment : moment.Valid) (hack : packet.acknowledged = false) :
    (s.handlePacket config maxPayloadBytes chess.engine services explain socket identity
      socketCorrelationId packet moment).1.Answers packet := by
  have hcorrelation : isUuidV4Text (packet.correlationId socketCorrelationId
      moment.command.correlationId) = true := Packet.correlationId_valid hmoment.correlationId
  have herror : protocolErrorSchema.valid
      (CommandError.realtime acknowledgmentRequired).map.error = true := by
    rw [protocolErrorSchema_valid]
    decide
  have hvalid : serverErrorSchema.valid ⟨packet.correlationId socketCorrelationId
      moment.command.correlationId,(CommandError.realtime acknowledgmentRequired).map.error,
        moment.errorEventId,moment.errorTimestamp⟩ = true := by
    rw [serverErrorSchema_valid]
    simp [hcorrelation,herror,hmoment.errorEventId,hmoment.errorTimestamp]
  unfold Server.handlePacket
  rw [if_pos hack]
  refine ⟨fun h => (by rw [hack] at h; cases h),fun _ => ⟨rfl,?_⟩⟩
  exact ⟨_,if_pos hvalid,hvalid,Packet.correlationId_echoes _⟩

/-- Whoever fails a command, the limiter, its handler or its schema, the failure can be told. -/
theorem handleIncoming_plain (config : AppConfig) (chess : ChessJs)
    (hservices : services.Plain holds) (hs : s.Checked holds)
    (socket : SocketId) (identity : SocketIdentity) (envelope : ClientEventEnvelope) (m : Moment) :
    ∃ result,
      (s.handleIncoming config chess.engine services socket identity envelope m).1.ack =
        some (acknowledge envelope m result) ∧
      ∀ failure, result = .error failure → failure.Plain := by
  obtain ⟨result,hresult,hfailures⟩ := handleIncoming_ack config chess.engine services s socket
    identity envelope m
  obtain ⟨hconsumed,hrefused⟩ := hservices.consume envelope.command.eventName
    identity.guestSessionId m s.rest hs.rest
  refine ⟨result,hresult,fun failure h => ?_⟩
  rcases hfailures failure h with rfl | hconsume | hhandled
  · trivial
  · exact hrefused failure hconsume
  · have hchecked : Server.Checked holds { s with rest := (services.consume
        envelope.command.eventName identity.guestSessionId m s.rest).2 } := ⟨hs.rows,hconsumed⟩
    exact (Server.executeEvent_plain hservices hchecked identity envelope).failure failure hhandled

/-- One packet. -/
theorem handlePacket_answers (hexplain : ∀ command failure,
    Thrown command failure (explain command failure)) (hservices : services.Plain holds)
    (hs : s.Checked holds) (hparsed : ∀ raw ∈ packet.arguments, raw.distinct = true)
    (hmoment : moment.Valid) :
    (s.handlePacket config maxPayloadBytes chess.engine services explain socket identity
      socketCorrelationId packet moment).1.Answers packet := by
  cases hack : packet.acknowledged with
  | false => exact unacknowledged_answers hmoment hack
  | true =>
    unfold Server.handlePacket
    rw [if_neg (by simp [hack])]
    refine ⟨fun _ => ?_,fun h => (by rw [hack] at h; cases h)⟩
    cases hparse : parseClientEvent maxPayloadBytes packet.eventName packet.rawEnvelope with
    | error error => exact ⟨rfl,failureAcks_answer hmoment (parseClientEvent_error hparse)⟩
    | ok envelope =>
      have hevent : packet.event maxPayloadBytes = some envelope := by
        unfold Packet.event
        rw [if_pos hack,hparse]
        rfl
      obtain ⟨_,raw,hmem,hraw,hparse⟩ := Packet.event_some hevent
      obtain ⟨hschema,_,hstored⟩ := parseClientEvent_sound (hparsed raw hmem) hparse
      obtain ⟨_,_,hproperty,_⟩ := stored_properties hstored
      obtain ⟨result,hresult,hplain⟩ := handleIncoming_plain config chess hservices hs
        socket identity envelope (moment.ofSocket socketCorrelationId)
      refine ⟨rfl,?_⟩
      simp only [hresult,Option.map_some]
      rcases acknowledge_outcome envelope (moment.ofSocket socketCorrelationId) hplain with
        ⟨answer,houtcome,hanswer⟩ | ⟨failure,houtcome,hfailed⟩
      · rw [houtcome]
        have hcorrelation : isUuidV4Text (packet.correlationId socketCorrelationId
            moment.command.correlationId) = true :=
          Packet.correlationId_valid hmoment.correlationId
        have hevent := (commandSchema_uuids hschema).2.1
        refine ⟨_,rfl,?_,fun t ht _ => ?_,Packet.correlationId_echoes _⟩
        · simp [PacketAck.schema,hevent,hcorrelation,hanswer]
        · unfold Packet.property at ht
          rw [hraw,Option.bind_some,hproperty] at ht
          cases ht
          rfl
      · rw [houtcome]
        exact failureAcks_answer hmoment ((hexplain _ _).valid hfailed)

theorem handleIncoming_checked (hservices : services.Plain holds) (hs : s.Checked holds)
    (envelope : ClientEventEnvelope) (m : Moment) :
    (s.handleIncoming config chess.engine services socket identity envelope
      m).2.Checked holds := by
  have hconsumed := (hservices.consume envelope.command.eventName identity.guestSessionId m s.rest
    hs.rest).1
  unfold Server.handleIncoming
  split_ifs
  · exact hs
  · simp only
    split
    · exact ⟨hs.rows,hconsumed⟩
    · have hhandled : ∀ s : Server σ, s.Checked holds → (Server.executeEvent config chess.engine
          services s socket identity envelope m).server.Checked holds :=
        fun s hs => (Server.executeEvent_plain hservices hs identity envelope).checked
      exact hhandled _ ⟨hs.rows,hconsumed⟩

theorem gateway_checked (hservices : services.Plain holds) (hs : s.Checked holds)
    {input : PacketInput σ} (hinput : input.Valid holds) :
    ((gateway config maxPayloadBytes chess.engine services explain).next s
      input).Checked holds := by
  cases input with
  | received socket identity socketCorrelationId packet moment =>
    show (s.handlePacket config maxPayloadBytes chess.engine services explain socket identity
      socketCorrelationId packet moment).2.Checked holds
    unfold Server.handlePacket
    split_ifs
    · exact hs
    · simp only
      split
      · exact hs
      · exact handleIncoming_checked hservices hs _ _
  | other act => exact hinput s hs

theorem gateway_answers (hexplain : ∀ command failure,
    Thrown command failure (explain command failure)) (hservices : services.Plain holds)
    (hs : s.Checked holds) {inputs : List (PacketInput σ)}
    (hinputs : ∀ i ∈ inputs, i.Valid holds) {e : PacketEvent σ}
    (he : e ∈ (gateway config maxPayloadBytes chess.engine services explain).events s inputs)
    (hinput : e.input = .received socket identity socketCorrelationId packet moment) :
    e.answer.Answers packet := by
  obtain ⟨hbefore,hvalid⟩ := Machine.events_invariant _ (P := fun s => s.Checked holds)
    (Q := PacketInput.Valid holds) (fun s i hinput hs => gateway_checked hservices hs hinput) hs
      hinputs he
  rw [hinput] at hvalid
  rw [Machine.mem_events_eq _ he,hinput]
  exact handlePacket_answers hexplain hservices hbefore hvalid.1 hvalid.2

end Answers

section Sample

theorem explainFailure_thrown (command : ClientCommand) (failure : RealtimeFailure) :
    Thrown command failure (explainFailure command failure) := by
  match failure with
  | .invalidPayload => exact .invalidPayload
  | .rateLimited retryAfterMs => exact .rateLimited retryAfterMs
  | .serviceUnavailable (some retryAfterMs) => exact .draining retryAfterMs
  | .serviceUnavailable none => exact .redis
  | .matchmaking error => exact .matchmaking error
  | .repository (.service error) => exact .refused error
  | .repository (.database kind) =>
    unfold explainFailure
    cases h : command.storeFailure with
    | none => exact .database kind h
    | some responseType => exact .store kind h
  | .schema error => exact .schema error

theorem samplePacketMoment_valid : samplePacketMoment.Valid where
  correlationId := isUuidV4Text_uuidText (by decide)
  requestEventId := isUuidV4Text_uuidText (by decide)
  errorEventId := isUuidV4Text_uuidText (by decide)
  errorTimestamp := by decide

def sampleServiceEnvironment : ServiceEnvironment where
  rates := sampleRateLimits
  registry := sampleRegistry
  sha256 := id
  drainSocketGraceMs := 500
  jobBatchSize := 100
  addressHash := id
  socketMember := id
  windowMs_safe scope := by cases scope <;> decide
  drainSocketGraceMs_retry := ⟨by decide,by decide⟩

def sampleServiceServer : Server ServiceStores :=
  { sampleServer with rest := ⟨.initial 0,.initial 0,[]⟩ }

def sampleJoinPacket : Packet where
  eventName := "queue.join"
  arguments := [clientEvents.encode ⟨none,uuidText (sampleId 70),1000,.queueJoin .blitz⟩]
  callback := true

end Sample

end CluChess
