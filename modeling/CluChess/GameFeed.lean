import CluChess.CommandTasks
import CluChess.UuidCase

/-! What a client learns of the moves of a game, from the snapshot of its `game.ready` and from the
broadcasts to the room of the game, however the handlers interleave. -/
namespace CluChess

/-- What a broadcast shows of a move. -/
structure ShownMove where
  clientMoveId : Option EventId
  fenAfter : String
  ply : ℕ
  san : String
  turn : WireColor
  uci : String
  deriving DecidableEq, Repr

def MoveRow.shown (r : MoveRow) : ShownMove :=
  ⟨some r.clientMoveId,r.fenAfter,r.ply,r.san,wireColor (oppositeColor r.color),r.uci⟩

def AcceptedMove.shown (accepted : AcceptedMove) : ShownMove :=
  ⟨some accepted.clientMoveId,accepted.fenAfter,accepted.ply,accepted.san,wireColor accepted.turn,
    accepted.uci⟩

/-- The game and the move that a message announces. -/
def ServerEventEnvelope.shownMove (event : ServerEventEnvelope) : Option (GameId × ShownMove) :=
  match event.draft.payload with
  | .moveAccepted payload => some (event.draft.gameId,⟨event.draft.clientMoveId,payload.fenAfter,
      payload.ply,payload.san,payload.turn,payload.uci⟩)
  | _ => none

/-- What a snapshot shows of a move. -/
def MoveRow.listed (r : MoveRow) : SnapshotMove := ⟨wireColor r.color,r.ply,r.san,r.uci⟩

@[simp] theorem shownMove_accepted (accepted : AcceptedMove) (stamp : Stamp) :
    ServerEventEnvelope.shownMove ⟨acceptedDraft accepted,stamp⟩ =
      some (accepted.gameId,accepted.shown) := rfl

@[simp] theorem shownMove_started (started : StartedGame) (stamp : Stamp) :
    ServerEventEnvelope.shownMove ⟨startedDraft started,stamp⟩ = none := rfl

@[simp] theorem shownMove_ended (ended : EndedGame) (stamp : Stamp) :
    ServerEventEnvelope.shownMove ⟨endedDraft ended,stamp⟩ = none := rfl

/-- A submission that commits announces the row that it commits. -/
theorem Submits.shown {chess : ChessEngine} {db : Db} {op : Operation} {m : AdmittedMove}
    {guests : GuestSessionId × GuestSessionId} (h : Submits chess db op m guests) :
    (m.submission guests).accepted.shown = m.moveRow.shown ∧
      (m.submission guests).accepted.gameId = m.input.gameId := by
  have hid : m.game.id = m.input.gameId := Table.find_key h.wrote.found
  exact ⟨rfl,hid⟩

section Messages

variable {σ : Type} {s s' : Server σ} {sender : ServerInstance} {moveText : EventId → String}

theorem Server.Alike.emit (h : Server.Alike s s') (sender : ServerInstance)
    (moveText : EventId → String) (room : String) (event : ServerEventEnvelope) :
    s'.emit sender moveText room event = s.emit sender moveText room event := by
  unfold Server.emit
  rw [h.rooms,h.instances]

/-- A message goes to the room of a game or to the room of a guest. -/
structure Addressed (s : Server σ) (sender : ServerInstance) (moveText : EventId → String)
    (deliveries : List Delivery) (emission : Emission) (room : String)
    (event : ServerEventEnvelope) : Prop where
  emitted : emission = s.emit sender moveText room event
  addressed : (∃ gameId, .toGame gameId event ∈ deliveries ∧ room = gameRoom (uuidText gameId)) ∨
    ∃ guest, .toGuest guest event ∈ deliveries ∧ room = guestRoom guest

theorem mem_deliverAll {deliveries : List Delivery} {emission : Emission}
    (h : emission ∈ (s.deliverAll sender moveText deliveries).1) :
    ∃ room event, Addressed s sender moveText deliveries emission room event := by
  induction deliveries generalizing s with
  | nil => simp [Server.deliverAll] at h
  | cons delivery deliveries ih =>
    have halike := Server.alike_deliver sender moveText s delivery
    rcases List.mem_append.mp (show emission ∈ (s.deliver sender moveText delivery).1 ++
      ((s.deliver sender moveText delivery).2.deliverAll sender moveText deliveries).1 from h) with
        h | h
    · cases delivery with
      | toGame gameId event =>
        rw [List.mem_singleton.mp h]
        exact ⟨_,event,rfl,Or.inl ⟨gameId,List.mem_cons_self,rfl⟩⟩
      | toGuest guest event =>
        rw [List.mem_singleton.mp h]
        exact ⟨_,event,rfl,Or.inr ⟨guest,List.mem_cons_self,rfl⟩⟩
      | cancelDeadline gameId => simp [Server.deliver] at h
      | scheduleRoomCleanup gameId => simp [Server.deliver] at h
    · obtain ⟨room,event,hemitted,haddressed⟩ := ih h
      refine ⟨room,event,hemitted.trans (halike.emit sender moveText room event),?_⟩
      rcases haddressed with ⟨gameId,hmem,hroom⟩ | ⟨guest,hmem,hroom⟩
      · exact Or.inl ⟨gameId,List.mem_cons_of_mem _ hmem,hroom⟩
      · exact Or.inr ⟨guest,List.mem_cons_of_mem _ hmem,hroom⟩

/-- Whatever is sent was built, and is sent to the sockets of its room. -/
theorem mem_publish {messages : List (Except SchemaError (List Delivery))} {emission : Emission}
    (h : emission ∈ (s.publish sender moveText messages).2.1) :
    ∃ deliveries, .ok deliveries ∈ messages ∧
      ∃ room event, Addressed s sender moveText deliveries emission room event := by
  induction messages generalizing s with
  | nil => simp [Server.publish] at h
  | cons message messages ih =>
    cases message with
    | error e => simp [Server.publish] at h
    | ok deliveries =>
      have halike := Server.alike_deliverAll sender moveText s deliveries
      rcases List.mem_append.mp (show emission ∈ (s.deliverAll sender moveText deliveries).1 ++
        ((s.deliverAll sender moveText deliveries).2.publish sender moveText messages).2.1 from h)
          with h | h
      · exact ⟨deliveries,List.mem_cons_self,mem_deliverAll h⟩
      · obtain ⟨sent,hmem,room,event,hemitted,haddressed⟩ := ih h
        exact ⟨sent,List.mem_cons_of_mem _ hmem,room,event,
          hemitted.trans (halike.emit sender moveText room event),haddressed⟩

theorem createServerEvent_eq {draft : ServerEventDraft} {stamp : Stamp}
    {event : ServerEventEnvelope} (h : createServerEvent draft stamp = .ok event) :
    event = ⟨draft,stamp⟩ ∧ isUuidV4 draft.gameId = true := by
  unfold createServerEvent at h
  split_ifs at h with hschema
  cases h
  simp only [serverEnvelopeSchema,Bool.and_eq_true] at hschema
  exact ⟨rfl,hschema.1.1.1.1.2⟩

theorem publishStarted_eq {started : StartedGame} {stamp : Stamp} {deliveries : List Delivery}
    (h : publishStarted started stamp = .ok deliveries) :
    deliveries = [.toGame started.gameId ⟨startedDraft started,stamp⟩] ∧
      isUuidV4 started.gameId = true := by
  unfold publishStarted at h
  cases he : createServerEvent (startedDraft started) stamp with
  | error e =>
    rw [he] at h
    cases h
  | ok event =>
    rw [he] at h
    cases h
    obtain ⟨rfl,hid⟩ := createServerEvent_eq he
    exact ⟨rfl,hid⟩

theorem publishAccepted_eq {accepted : AcceptedMove} {stamp : Stamp} {deliveries : List Delivery}
    (h : publishAccepted accepted stamp = .ok deliveries) :
    deliveries = [.toGame accepted.gameId ⟨acceptedDraft accepted,stamp⟩] ∧
      isUuidV4 accepted.gameId = true := by
  unfold publishAccepted at h
  cases he : createServerEvent (acceptedDraft accepted) stamp with
  | error e =>
    rw [he] at h
    cases h
  | ok event =>
    rw [he] at h
    cases h
    obtain ⟨rfl,hid⟩ := createServerEvent_eq he
    exact ⟨rfl,hid⟩

theorem gameEnded_eq {submission : TerminalSubmission} {stamp : Stamp}
    {deliveries : List Delivery} (h : gameEnded submission stamp = .ok deliveries) :
    deliveries = [.toGuest submission.guestSessionIds.1 ⟨endedDraft submission.ended,stamp⟩,
      .toGuest submission.guestSessionIds.2 ⟨endedDraft submission.ended,stamp⟩,
      .cancelDeadline submission.ended.gameId,.scheduleRoomCleanup submission.ended.gameId] := by
  unfold gameEnded at h
  obtain ⟨event,he,h⟩ := bind_eq_ok.mp h
  cases h
  obtain ⟨rfl,_⟩ := createServerEvent_eq he
  rfl

def Delivery.message : Delivery → Option ServerEventEnvelope
  | .toGame _ event | .toGuest _ event => some event
  | _ => none

/-- A message about a game, sent to its room or to one of its two guests. -/
def Delivery.Concerns (players : GameId → GuestSessionId → Prop) : Delivery → Prop
  | .toGame gameId event => event.draft.gameId = gameId ∧ isUuidV4 gameId = true
  | .toGuest guest event => players event.draft.gameId guest
  | _ => True

theorem publishStarted_concerns {players : GameId → GuestSessionId → Prop}
    {started : StartedGame} {stamp : Stamp} {deliveries : List Delivery}
    (h : publishStarted started stamp = .ok deliveries) :
    ∀ delivery ∈ deliveries, delivery.Concerns players := by
  obtain ⟨rfl,hid⟩ := publishStarted_eq h
  intro delivery hmem
  rw [List.mem_singleton.mp hmem]
  exact ⟨rfl,hid⟩

theorem publishAccepted_concerns {players : GameId → GuestSessionId → Prop}
    {accepted : AcceptedMove} {stamp : Stamp} {deliveries : List Delivery}
    (h : publishAccepted accepted stamp = .ok deliveries) :
    ∀ delivery ∈ deliveries, delivery.Concerns players := by
  obtain ⟨rfl,hid⟩ := publishAccepted_eq h
  intro delivery hmem
  rw [List.mem_singleton.mp hmem]
  exact ⟨rfl,hid⟩

theorem gameEnded_concerns {players : GameId → GuestSessionId → Prop}
    {submission : TerminalSubmission} {stamp : Stamp} {deliveries : List Delivery}
    (h : gameEnded submission stamp = .ok deliveries)
    (hp : players submission.ended.gameId submission.guestSessionIds.1 ∧
      players submission.ended.gameId submission.guestSessionIds.2) :
    ∀ delivery ∈ deliveries, delivery.Concerns players := by
  rw [gameEnded_eq h]
  intro delivery hmem
  simp only [List.mem_cons,List.not_mem_nil,or_false] at hmem
  rcases hmem with rfl | rfl | rfl | rfl
  · exact hp.1
  · exact hp.2
  · trivial
  · trivial

/-- Messages that announce no move. -/
def Silent (emissions : List Emission) : Prop :=
  ∀ emission ∈ emissions, emission.event.shownMove = none

theorem silent_publish {messages : List (Except SchemaError (List Delivery))}
    (h : ∀ deliveries, .ok deliveries ∈ messages → ∀ delivery ∈ deliveries,
      ∀ event ∈ delivery.message, event.shownMove = none) :
    Silent (s.publish sender moveText messages).2.1 := by
  intro emission hmem
  obtain ⟨deliveries,hdeliveries,room,event,rfl,haddressed⟩ := mem_publish hmem
  rcases haddressed with ⟨gameId,hevent,_⟩ | ⟨guest,hevent,_⟩
  · exact h deliveries hdeliveries _ hevent event rfl
  · exact h deliveries hdeliveries _ hevent event rfl

theorem silent_started (started : Option StartedGame) (stamp : Stamp) : Silent (s.publish sender
    moveText (started.toList.map fun started => publishStarted started stamp)).2.1 := by
  refine silent_publish fun deliveries hmem delivery hdelivery event hevent => ?_
  obtain ⟨started,_,hpublish⟩ := List.mem_map.mp hmem
  rw [(publishStarted_eq hpublish).1,List.mem_singleton] at hdelivery
  subst hdelivery
  cases hevent
  rfl

theorem gameEnded_silent {submission : TerminalSubmission} {stamp : Stamp}
    {deliveries : List Delivery} (h : gameEnded submission stamp = .ok deliveries) :
    ∀ delivery ∈ deliveries, ∀ event ∈ delivery.message, event.shownMove = none := by
  rw [gameEnded_eq h]
  intro delivery hmem event hevent
  simp only [List.mem_cons,List.not_mem_nil,or_false] at hmem
  rcases hmem with rfl | rfl | rfl | rfl <;> cases hevent <;> rfl

theorem silent_ended (ended : Option TerminalSubmission) (stamp : Stamp) : Silent
    (s.publish sender moveText (ended.toList.map fun ended => gameEnded ended stamp)).2.1 := by
  refine silent_publish fun deliveries hmem => ?_
  obtain ⟨ended,_,hpublish⟩ := List.mem_map.mp hmem
  exact gameEnded_silent hpublish

/-- What a new submission sends: one announcement of its move, between messages that announce no
move. -/
theorem submission_emissions {submission : MoveSubmission} {stamps : Stamps}
    (hfresh : submission.duplicate = false) (hvalid : submission.Valid) (hs : stamps.Valid) :
    ∃ before after, Silent before ∧ Silent after ∧
      (s.publish sender moveText (Server.submissionMessages submission stamps)).2.1 = before ++
        s.emit sender moveText (gameRoom (uuidText submission.accepted.gameId))
          ⟨acceptedDraft submission.accepted,stamps.accepted⟩ :: after := by
  obtain ⟨accepted,haccepted⟩ := publishAccepted_ok hs.accepted hvalid.accepted
  obtain rfl := (publishAccepted_eq haccepted).1
  have hended : Silent (s.publish sender moveText ((submission.ended.map fun ended =>
      ⟨false,ended,submission.guestSessionIds⟩).toList.map fun ended =>
        gameEnded ended stamps.ended)).2.1 := silent_ended _ _
  rw [Option.toList_map,List.map_map] at hended
  have hmessages : Server.submissionMessages submission stamps =
      (submission.started.toList.map fun started => publishStarted started stamps.started) ++
        .ok [.toGame submission.accepted.gameId
          ⟨acceptedDraft submission.accepted,stamps.accepted⟩] ::
        submission.ended.toList.map fun ended =>
          gameEnded ⟨false,ended,submission.guestSessionIds⟩ stamps.ended := by
    unfold Server.submissionMessages
    rw [if_neg (by simp [hfresh]),haccepted,List.append_assoc]
    rfl
  rw [hmessages]
  cases hst : submission.started with
  | none => exact ⟨[],_,by simp [Silent],hended,rfl⟩
  | some started =>
    obtain ⟨deliveries,hstarted⟩ := publishStarted_ok hs.started (hvalid.started started hst)
    obtain rfl := (publishStarted_eq hstarted).1
    refine ⟨[s.emit sender moveText (gameRoom (uuidText started.gameId))
      ⟨startedDraft started,stamps.started⟩],_,?_,hended,?_⟩
    · intro emission hmem
      rw [List.mem_singleton.mp hmem]
      rfl
    · rw [Option.toList_some,List.map_singleton,hstarted]
      rfl

end Messages

section Frames

variable {σ : Type} {config : AppConfig} {chess : ChessEngine}
  {guestOf : SocketId → GuestSessionId} {stays : SocketId → String → Prop} {s s' : CommandState σ}
  {t : CommandTask} {new : Multiset CommandTask}

namespace CommandState

/-- What no step takes away. -/
structure Frame (stays : SocketId → String → Prop) (s s' : CommandState σ) : Prop where
  moves : ∀ id, s.server.db.movesOf id ⊆ s'.server.db.movesOf id
  plays : ∀ x, Plays x s.server.db → Plays x s'.server.db
  rooms : ∀ socket room, stays socket room → s.server.rooms socket room = true →
    s'.server.rooms socket room = true
  hosts : s'.server.instances.of = s.server.instances.of
  reads : ∀ socket, s.reads socket ⊆ s'.reads socket

theorem Frame.of_alike (h : Server.Alike s.server s'.server)
    (hreads : ∀ socket, s.reads socket ⊆ s'.reads socket) : Frame stays s s' where
  moves id := by rw [h.db]; exact List.Subset.refl _
  plays x hx := by rw [h.db]; exact hx
  rooms socket room _ hr := by rw [h.rooms]; exact hr
  hosts := by rw [h.instances]
  reads := hreads

theorem read_reads (s : CommandState σ) (socket : SocketId) (gameId : String) (other : SocketId) :
    s.reads other ⊆ (s.read socket gameId).reads other := by
  by_cases ho : other = socket
  · subst ho
    simp [CommandState.read]
  · simp [CommandState.read,ho]

/-- The database after an operation, or before it. -/
theorem Frame.of_operation (chess : ChessEngine) {db : Db} (op : Operation)
    (h' : Server.Alike { s.server with db := db } s'.server)
    (h : db = s.server.db ∨ db = (execute chess s.server.db op).2)
    (hreads : s'.reads = s.reads) : Frame stays s s' where
  moves id := by
    rw [h'.db]
    rcases h with rfl | rfl
    · exact List.Subset.refl _
    · exact movesOf_subset chess _ op id
  plays x hx := by
    rw [h'.db]
    rcases h with rfl | rfl
    · exact hx
    · exact (execute_change chess _ op).plays hx
  rooms socket room _ hr := by rw [h'.rooms]; exact hr
  hosts := by rw [h'.instances]
  reads socket := by rw [hreads]; exact List.Subset.refl _

theorem joinRoom_rooms (s : Server σ) (socket other : SocketId) (room room' : String) :
    (s.joinRoom socket room).rooms other room' =
      if other = socket ∧ room' = room then true else s.rooms other room' := by
  unfold Server.joinRoom
  by_cases hs : other = socket
  · subst hs
    by_cases hr : room' = room
    · simp [hr]
    · simp [hr]
  · simp [hs]

theorem Frame.of_joinRoom {socket : SocketId} {room : String}
    (h : Server.Alike (s.server.joinRoom socket room) s'.server) (hreads : s'.reads = s.reads) :
    Frame stays s s' where
  moves id := by rw [h.db]; exact List.Subset.refl _
  plays x hx := by rw [h.db]; exact hx
  rooms other room' _ hr := by
    rw [h.rooms,joinRoom_rooms]
    split_ifs
    · rfl
    · exact hr
  hosts := by rw [h.instances]; rfl
  reads other := by rw [hreads]; exact List.Subset.refl _

@[simp] theorem receive_server (s : CommandState σ) (emissions : List Emission) :
    (s.receive emissions).server = s.server := rfl
@[simp] theorem receive_reads (s : CommandState σ) (emissions : List Emission) :
    (s.receive emissions).reads = s.reads := rfl
@[simp] theorem answer_server (s : CommandState σ) (socket : SocketId) (command : ClientCommand)
    (result : RealtimeCommandResult) : (s.answer socket command result).server = s.server := rfl
@[simp] theorem answer_inbox (s : CommandState σ) (socket : SocketId) (command : ClientCommand)
    (result : RealtimeCommandResult) : (s.answer socket command result).inbox = s.inbox := rfl
@[simp] theorem answer_reads (s : CommandState σ) (socket : SocketId) (command : ClientCommand)
    (result : RealtimeCommandResult) : (s.answer socket command result).reads = s.reads := rfl
@[simp] theorem withServer_server (s : CommandState σ) (server : Server σ) :
    (s.withServer server).server = server := rfl
@[simp] theorem withServer_inbox (s : CommandState σ) (server : Server σ) :
    (s.withServer server).inbox = s.inbox := rfl
@[simp] theorem withServer_reads (s : CommandState σ) (server : Server σ) :
    (s.withServer server).reads = s.reads := rfl
@[simp] theorem withServer_answers (s : CommandState σ) (server : Server σ) :
    (s.withServer server).answers = s.answers := rfl

variable {sender : ServerInstance} {moveText : EventId → String}
  {messages : List (Except SchemaError (List Delivery))}
  {ack : Option (SocketId × ClientCommand × RealtimeCommandResult)}

@[simp] theorem publish_server : (s.publish sender moveText messages ack).server =
    (s.server.publish sender moveText messages).2.2 := by
  unfold publish
  simp only
  split <;> rfl

@[simp] theorem publish_reads : (s.publish sender moveText messages ack).reads = s.reads := by
  unfold publish
  simp only
  split <;> rfl

theorem publish_inbox (socket : SocketId) : (s.publish sender moveText messages ack).inbox socket =
    s.inbox socket ++ ((s.server.publish sender moveText messages).2.1.filter fun emission =>
      emission.received socket).map Emission.event := by
  unfold publish
  simp only
  split <;> rfl

theorem publish_sent : (s.publish sender moveText messages ack).sent =
    s.sent ++ (s.server.publish sender moveText messages).2.1 := by
  unfold publish
  simp only
  split <;> rfl

theorem publish_answers (socket : SocketId) :
    s.answers socket ⊆ (s.publish sender moveText messages ack).answers socket := by
  unfold publish
  simp only
  split
  · rename_i other command result _
    by_cases ho : socket = other
    · subst ho
      simp [answer,receive]
    · simp [answer,receive,ho]
  · exact List.Subset.refl _

theorem publish_alike : Server.Alike s.server (s.publish sender moveText messages ack).server := by
  rw [publish_server]
  exact Server.alike_publish sender moveText s.server messages

end CommandState

open CommandState

/-- No step of a handler takes a move, a player, or a socket from a room. -/
theorem CommandTask.Step.frame (chess : ChessEngine) (h : t.Step config guestOf s s' new) :
    Frame stays s s' := by
  have hsame : ∀ socket, s.reads socket ⊆ s.reads socket := fun _ => List.Subset.refl _
  cases h with
  | published =>
    refine .of_alike ((Server.alike_afterSubmission _ _).trans
      (publish_alike (s := s.withServer _))) fun socket => ?_
    rw [publish_reads]
    exact hsame socket
  | markReady h =>
    exact .of_operation chess (.markReady _) (.refl _) (Or.inr (congrArg Prod.snd h).symm) rfl
  | startIfReady h =>
    obtain ⟨halike,hdb⟩ := Server.startIfReady_db chess h
    exact .of_operation chess _ halike hdb rfl
  | snapshot _ => exact .of_alike (.refl _) (read_reads s _ _)
  | snapshotFailed _ => exact .of_alike (.refl _) hsame
  | presented =>
    refine .of_alike ((Server.alike_scheduleGame _ _ _).trans (publish_alike (s := s.withServer _)))
      fun socket => ?_
    rw [publish_reads]
    exact hsame socket
  | recoverSnapshot h => exact .of_alike (Server.alike_recoverSnapshot h) hsame
  | entered => exact .of_joinRoom (Server.alike_scheduleGame _ _ _) rfl
  | ended =>
    refine .of_alike publish_alike fun socket => ?_
    rw [publish_reads]
    exact hsame socket

/-- A submission that is answered has committed one move, or is a replay; one that has committed is
answered. -/
theorem submitOrRecover_cases {db db' : Db} {input : SubmitMove} {observation : Micros}
    {result : Except RepositoryError MoveSubmission}
    (h : Server.submitOrRecover chess db input observation = (result,db')) :
    db' = (execute chess db (.submitMove input observation)).2 ∧
      (∀ submission, result = .ok submission → submission.duplicate = false →
        ∃ m guests, Submits chess db (.submitMove input observation) m guests ∧
          submission = m.submission guests) ∧
      ∀ m guests, Submits chess db (.submitMove input observation) m guests →
        result = .ok (m.submission guests) := by
  have hanswered : ∀ m guests, Submits chess db (.submitMove input observation) m guests →
      (db.submitMove chess input observation).1 = .ok (m.submission guests) := by
    intro m guests hs
    have hanswer : Answer.move (db.submitMove chess input observation).1 = _ := hs.answer
    injection hanswer
  unfold Server.submitOrRecover at h
  split at h
  · rename_i db'' hunique
    cases h
    refine ⟨(congrArg Prod.snd hunique).symm,fun submission hs hfresh => ?_,fun m guests hs => ?_⟩
    · rw [recoverMove_duplicate hs] at hfresh
      cases hfresh
    · have hanswer := hanswered m guests hs
      rw [hunique] at hanswer
      cases hanswer
  · refine ⟨(congrArg Prod.snd h).symm,fun submission hs hfresh => ?_,fun m guests hs => ?_⟩
    · have hreply : moveReply ((repositories chess).event db (.submitMove input observation)) =
          some ((input.gameId,input.clientMoveId),submission,false) := by
        have hanswer : (execute chess db (.submitMove input observation)).1 =
            .move (.ok submission) := by
          show Answer.move (db.submitMove chess input observation).1 = _
          rw [h,hs]
        simp only [Machine.event,repositories,moveReply,hanswer,hfresh]
        cases submission
        cases hfresh
        rfl
      rcases moveReply_cases hreply with ⟨m,guests,hsubmits,_,rfl,_⟩ | ⟨_,_,hduplicate⟩
      · exact ⟨m,guests,hsubmits,rfl⟩
      · cases hduplicate
    · have hanswer := hanswered m guests hs
      rw [h] at hanswer
      exact hanswer

theorem CommandEvent.frame (h : CommandEvent config chess guestOf stays s s' new) :
    Frame stays s s' := by
  have hsame : ∀ socket, s.reads socket ⊆ s.reads socket := fun _ => List.Subset.refl _
  cases h with
  | submitMove _ _ h =>
    exact .of_operation chess _ (.refl _) (Or.inr (submitOrRecover_cases h).1) rfl
  | readyGame _ _ _ => exact .of_joinRoom (.refl _) rfl
  | syncGame _ => exact .of_alike (.refl _) hsame
  | syncActiveGame h => exact .of_alike (Server.alike_activeGameId h) hsame
  | operation _ _ _ => exact .of_operation chess _ (.refl _) (Or.inr rfl) rfl
  | connect => exact .of_joinRoom (.refl _) rfl
  | @leave socket room h =>
    refine ⟨fun _ => List.Subset.refl _,fun _ hx => hx,fun other room' hstays hr => ?_,rfl,hsame⟩
    by_cases hs : other = socket
    · subst hs
      have hroom : room' ≠ room := fun he => h (he ▸ hstays)
      simp [hroom,hr]
    · simp [hs,hr]
  | @elsewhere server hdb hrooms hof =>
    refine ⟨fun id => ?_,fun x hx => ?_,fun socket room _ hr => ?_,hof,hsame⟩
    · rw [withServer_server,hdb]
      exact List.Subset.refl _
    · rw [withServer_server,hdb]
      exact hx
    · rw [withServer_server,hrooms]
      exact hr

end Frames

/-! ### The invariant -/

theorem gameRoom_injective {a b : String} (h : gameRoom a = gameRoom b) : a = b := by
  have hlist := congrArg String.toList h
  simp only [gameRoom,String.toList_append] at hlist
  exact String.toList_injective (List.append_cancel_left hlist)

theorem guestRoom_injective {a b : GuestSessionId} (ha : isUuidV4 a = true)
    (hb : isUuidV4 b = true) (h : guestRoom a = guestRoom b) : a = b := by
  have hlist := congrArg String.toList h
  simp only [guestRoom,String.toList_append] at hlist
  have htext : uuidText a = uuidText b :=
    String.toList_injective (List.append_cancel_left hlist)
  rw [← uuidOf_uuidText ha,htext,uuidOf_uuidText hb]

/-- The room of a guest is no room of a game. -/
theorem guestRoom_ne_gameRoom (guest : GuestSessionId) (gameId : String) :
    guestRoom guest ≠ gameRoom gameId := by
  intro h
  have hlist := congrArg String.toList h
  simp [guestRoom,gameRoom] at hlist

theorem guestPair_guests {g : PersistedGame} {guests : GuestSessionId × GuestSessionId}
    (h : guestPair g = some guests) : guests.1 ∈ g.guests ∧ guests.2 ∈ g.guests := by
  unfold guestPair at h
  split at h
  · rename_i first second hplayers
    cases h
    simp [PersistedGame.guests,hplayers]
  · cases h

section Invariant

variable {σ : Type} {config : AppConfig} {chess : ChessEngine}
  {guestOf : SocketId → GuestSessionId} {stays : SocketId → String → Prop}

/-- The guests of a submission are the players of the game that it ends. -/
theorem terminalSubmission_players {db : Db} {op : Operation} {submission : TerminalSubmission}
    (h : (execute chess db op).1.terminalSubmission = some submission)
    (hfresh : submission.duplicate = false) :
    Plays (submission.guestSessionIds.1,submission.ended.gameId) db ∧
      Plays (submission.guestSessionIds.2,submission.ended.gameId) db := by
  have hpair : ∀ {id : GameId} {g : PersistedGame} {guests : GuestSessionId × GuestSessionId},
      db.games.find id = some g → guestPair g = some guests →
        Plays (guests.1,g.id) db ∧ Plays (guests.2,g.id) db := by
    intro id g guests hg hp
    have hid : g.id = id := Table.find_key hg
    obtain ⟨hfirst,hsecond⟩ := guestPair_guests hp
    exact ⟨⟨g,by rw [hid]; exact hg,hfirst⟩,⟨g,by rw [hid]; exact hg,hsecond⟩⟩
  generalize ha : (execute chess db op).1 = answer at h
  have houtcome := execute_outcome chess db op
  rw [ha] at houtcome
  cases houtcome with
  | session _ hanswer _ =>
    rw [hanswer] at h
    cases h
  | kept _ hr =>
    cases hr with
    | rejected hrejected =>
      unfold Answer.rejected at hrejected
      unfold Answer.terminalSubmission at h
      split at h
      · exact absurd hrejected (by simp)
      · subst h
        exact absurd hrejected (by simp)
      · cases h
    | allocated _ => cases h
    | found _ _ => cases h
    | move _ _ _ _ => cases h
    | resignation _ _ _ hreplay =>
      cases h
      rw [replayResignation_duplicate hreplay] at hfresh
      cases hfresh
  | allocated _ _ _ hanswer =>
    rw [hanswer] at h
    cases h
  | wrote _ hw hwrites =>
    cases hwrites with
    | resign _ _ _ hp =>
      cases h
      exact hpair hw.found hp
    | reset _ _ hp =>
      cases h
      exact hpair hw.found hp
    | adjudicate _ _ hp =>
      cases h
      exact hpair hw.found hp
    | _ => cases h

/-- A socket of a player, in the room of the game unless it has left. -/
def CommandState.InRoom (stays : SocketId → String → Prop) (s : CommandState σ) (socket : SocketId)
    (gameId : String) : Prop :=
  stays socket (gameRoom gameId) → s.server.rooms socket (gameRoom gameId) = true

/-- The game whose end is announced is that of the two guests. -/
def TerminalSubmission.ToPlayers (submission : TerminalSubmission) (db : Db) : Prop :=
  Plays (submission.guestSessionIds.1,submission.ended.gameId) db ∧
    Plays (submission.guestSessionIds.2,submission.ended.gameId) db

/-- A new submission can be announced, and its move is in the database. -/
structure MoveSubmission.Committed (submission : MoveSubmission) (db : Db) : Prop where
  valid : submission.Valid
  row : ∃ r ∈ db.movesOf submission.accepted.gameId, submission.accepted.shown = r.shown
  ended : ∀ ended ∈ submission.ended,
    TerminalSubmission.ToPlayers ⟨false,ended,submission.guestSessionIds⟩ db

/-- What a handler has done so far. -/
def CommandTask.Sound (guestOf : SocketId → GuestSessionId) (stays : SocketId → String → Prop)
    (s : CommandState σ) : CommandTask → Prop
  | .submitted _ _ _ _ _ moment submission => moment.Valid ∧
    (submission.duplicate = false → submission.Committed s.server.db)
  | .joined socket gameId _ moment | .readied socket gameId _ moment _
  | .started socket gameId _ moment _ => moment.Valid ∧ s.InRoom stays socket gameId
  | .viewed socket gameId _ moment snapshot _ => moment.Valid ∧ s.InRoom stays socket gameId ∧
    (gameId,snapshot.view.snapshot.moves) ∈ s.reads socket
  | .syncing _ command _ _ => command.eventName = .gameSync
  | .recovered socket command gameId _ _ => command.eventName = .gameSync ∧
    Plays (guestOf socket,uuidOf gameId) s.server.db
  | .terminated _ _ submission => submission.duplicate = false →
    submission.ToPlayers s.server.db

/-- The snapshot that a `game.ready` is answered with is one that has been read. -/
def CommandState.Answered (s : CommandState σ) (socket : SocketId) :
    ClientCommand × RealtimeCommandResult → Prop
  | (.gameReady gameId _,.gameSnapshot _ payload) => ∃ rows, (gameId,rows) ∈ s.reads socket ∧
    payload.payload.moves = rows.map MoveRow.listed
  | _ => True

structure CommandState.Sound (chess : ChessEngine) (guestOf : SocketId → GuestSessionId)
    (stays : SocketId → String → Prop) (s : CommandState σ) : Prop where
  served : s.server.db.ServedReachable chess
  rooms : ∀ socket room, s.server.rooms socket room = true → room = guestRoom (guestOf socket) ∨
    ∃ gameId, room = gameRoom gameId ∧ Plays (guestOf socket,uuidOf gameId) s.server.db
  inbox : ∀ socket, ∀ event ∈ s.inbox socket,
    Plays (guestOf socket,event.draft.gameId) s.server.db
  reads : ∀ socket, ∀ x ∈ s.reads socket, s.InRoom stays socket x.1
  answers : ∀ socket, ∀ x ∈ s.answers socket, s.Answered socket x

variable {s s' : CommandState σ} {t : CommandTask} {new : Multiset CommandTask}

namespace CommandState

theorem Frame.inRoom (h : Frame stays s s') {socket : SocketId} {gameId : String}
    (hroom : s.InRoom stays socket gameId) : s'.InRoom stays socket gameId :=
  fun hstays => h.rooms socket _ hstays (hroom hstays)

theorem Frame.toPlayers (h : Frame stays s s') {submission : TerminalSubmission}
    (hp : submission.ToPlayers s.server.db) : submission.ToPlayers s'.server.db :=
  ⟨h.plays _ hp.1,h.plays _ hp.2⟩

theorem Frame.committed (h : Frame stays s s') {submission : MoveSubmission}
    (hc : submission.Committed s.server.db) : submission.Committed s'.server.db := by
  obtain ⟨hvalid,⟨r,hr,hshown⟩,hended⟩ := hc
  exact ⟨hvalid,⟨r,h.moves _ hr,hshown⟩,fun ended he => h.toPlayers (hended ended he)⟩

theorem Frame.task (h : Frame stays s s') (ht : t.Sound guestOf stays s) :
    t.Sound guestOf stays s' := by
  cases t with
  | submitted _ _ _ _ _ moment submission => exact ⟨ht.1,fun hfresh => h.committed (ht.2 hfresh)⟩
  | joined _ _ _ _ => exact ⟨ht.1,h.inRoom ht.2⟩
  | readied _ _ _ _ _ => exact ⟨ht.1,h.inRoom ht.2⟩
  | started _ _ _ _ _ => exact ⟨ht.1,h.inRoom ht.2⟩
  | viewed socket _ _ _ _ _ => exact ⟨ht.1,h.inRoom ht.2.1,h.reads socket ht.2.2⟩
  | syncing _ _ _ _ => exact ht
  | recovered _ _ _ _ _ => exact ⟨ht.1,h.plays _ ht.2⟩
  | terminated _ _ submission => exact fun hfresh => h.toPlayers (ht hfresh)

theorem Frame.answered (h : Frame stays s s') {socket : SocketId}
    {x : ClientCommand × RealtimeCommandResult} (hx : s.Answered socket x) :
    s'.Answered socket x := by
  unfold Answered at hx ⊢
  split at hx
  · obtain ⟨rows,hrows,hmoves⟩ := hx
    exact ⟨rows,h.reads socket hrows,hmoves⟩
  · trivial

/-- What is new in a state is all that remains to be checked. -/
theorem Sound.of_frame (hs : s.Sound chess guestOf stays) (h : Frame stays s s')
    (hserved : s'.server.db.ServedReachable chess)
    (hrooms : ∀ socket room, s'.server.rooms socket room = true →
      s.server.rooms socket room = true ∨ room = guestRoom (guestOf socket) ∨
        ∃ gameId, room = gameRoom gameId ∧ Plays (guestOf socket,uuidOf gameId) s'.server.db)
    (hinbox : ∀ socket, ∀ event ∈ s'.inbox socket, event ∈ s.inbox socket ∨
      Plays (guestOf socket,event.draft.gameId) s'.server.db)
    (hreads : ∀ socket, ∀ x ∈ s'.reads socket, x ∈ s.reads socket ∨ s'.InRoom stays socket x.1)
    (hanswers : ∀ socket, ∀ x ∈ s'.answers socket, x ∈ s.answers socket ∨ s'.Answered socket x) :
    s'.Sound chess guestOf stays where
  served := hserved
  rooms socket room hr := by
    rcases hrooms socket room hr with hold | hnew
    · rcases hs.rooms socket room hold with hguest | ⟨gameId,hroom,hp⟩
      · exact Or.inl hguest
      · exact Or.inr ⟨gameId,hroom,h.plays _ hp⟩
    · exact hnew
  inbox socket event he := (hinbox socket event he).elim
    (fun hold => h.plays _ (hs.inbox socket event hold)) id
  reads socket x hx := (hreads socket x hx).elim (fun hold => h.inRoom (hs.reads socket x hold)) id
  answers socket x hx := (hanswers socket x hx).elim
    (fun hold => h.answered (hs.answers socket x hold)) id

/-- A step that sends and answers nothing. -/
theorem Sound.of_quiet (hs : s.Sound chess guestOf stays) (h : Frame stays s s')
    (hserved : s'.server.db.ServedReachable chess)
    (hrooms : ∀ socket room, s'.server.rooms socket room = true →
      s.server.rooms socket room = true ∨ room = guestRoom (guestOf socket) ∨
        ∃ gameId, room = gameRoom gameId ∧ Plays (guestOf socket,uuidOf gameId) s'.server.db)
    (hinbox : s'.inbox = s.inbox) (hreads : s'.reads = s.reads)
    (hanswers : s'.answers = s.answers) : s'.Sound chess guestOf stays := by
  refine hs.of_frame h hserved hrooms ?_ ?_ ?_
  · rw [hinbox]
    exact fun _ _ he => Or.inl he
  · rw [hreads]
    exact fun _ _ hx => Or.inl hx
  · rw [hanswers]
    exact fun _ _ hx => Or.inl hx

/-- Messages about games are heard by their players alone. -/
theorem Sound.addressed {chess : ChessJs} (rules : chess.Rules)
    (hguests : ∀ socket, isUuidV4 (guestOf socket) = true)
    (hs : s.Sound chess.engine guestOf stays) {sender : ServerInstance}
    {moveText : EventId → String} {deliveries : List Delivery} {emission : Emission} {room : String}
    {event : ServerEventEnvelope}
    (ha : Addressed s.server sender moveText deliveries emission room event)
    (hc : ∀ delivery ∈ deliveries,
      delivery.Concerns fun id guest => Plays (guest,id) s.server.db)
    {socket : SocketId} (hr : emission.received socket = true) :
    Plays (guestOf socket,event.draft.gameId) s.server.db := by
  obtain ⟨rfl,haddressed⟩ := ha
  have hroom := hs.rooms socket room (Bool.and_eq_true_iff.mp hr).1
  rcases haddressed with ⟨gameId,hmem,rfl⟩ | ⟨guest,hmem,rfl⟩
  · obtain ⟨hid,hv4⟩ := hc _ hmem
    rcases hroom with hguest | ⟨text,htext,hplays⟩
    · exact absurd hguest.symm (guestRoom_ne_gameRoom _ _)
    · rw [← gameRoom_injective htext,uuidOf_uuidText hv4] at hplays
      rw [hid]
      exact hplays
  · have hplays : Plays (guest,event.draft.gameId) s.server.db := hc _ hmem
    rcases hroom with hguest | ⟨text,htext,_⟩
    · obtain ⟨g,hg,hmem⟩ := hplays
      obtain ⟨p,hp,hpg⟩ := List.mem_map.mp hmem
      have hv4 : isUuidV4 guest = true := by
        have hguest := (hs.served.recorded rules _ g hg).acknowledged.guests p hp
        rw [hpg] at hguest
        exact hguest
      rw [← guestRoom_injective hv4 (hguests socket) hguest]
      exact ⟨g,hg,hmem⟩
    · exact absurd htext (guestRoom_ne_gameRoom _ _)

/-- A server with the same database and the same rooms. -/
theorem Sound.of_alike (hs : s.Sound chess guestOf stays) {server : Server σ}
    (h : Server.Alike s.server server) : (s.withServer server).Sound chess guestOf stays := by
  refine hs.of_quiet (.of_alike h fun _ => List.Subset.refl _) (h.db ▸ hs.served) ?_ rfl rfl rfl
  rw [withServer_server,h.rooms]
  exact fun _ _ hr => Or.inl hr

theorem Sound.of_operation {op : Operation} (hs : s.Sound chess guestOf stays)
    (hop : op.Served chess) {server : Server σ}
    (h : Server.Alike { s.server with db := server.db } server)
    (hdb : server.db = s.server.db ∨ server.db = (execute chess s.server.db op).2) :
    (s.withServer server).Sound chess guestOf stays := by
  refine hs.of_quiet (.of_operation chess op h hdb rfl) ?_ ?_ rfl rfl rfl
  · rw [withServer_server]
    rcases hdb with hdb | hdb
    · rw [hdb]
      exact hs.served
    · rw [hdb]
      exact hs.served.next hop
  · rw [withServer_server,h.rooms]
    exact fun _ _ hr => Or.inl hr

/-- A socket may enter the room of its guest and those of the games of its guest. -/
theorem Sound.joinRoom (hs : s.Sound chess guestOf stays) {socket : SocketId} {room : String}
    (h : room = guestRoom (guestOf socket) ∨
      ∃ gameId, room = gameRoom gameId ∧ Plays (guestOf socket,uuidOf gameId) s.server.db) :
    (s.withServer (s.server.joinRoom socket room)).Sound chess guestOf stays := by
  refine hs.of_quiet (.of_joinRoom (.refl _) rfl) hs.served (fun other room' hr => ?_) rfl rfl rfl
  rw [withServer_server,joinRoom_rooms] at hr
  split_ifs at hr with hjoined
  · obtain ⟨rfl,rfl⟩ := hjoined
    exact Or.inr h
  · exact Or.inl hr

theorem Sound.answer (hs : s.Sound chess guestOf stays) {socket : SocketId}
    {command : ClientCommand} {result : RealtimeCommandResult}
    (h : s.Answered socket (command,result)) :
    (s.answer socket command result).Sound chess guestOf stays := by
  have hf : Frame stays s (s.answer socket command result) :=
    .of_alike (.refl _) fun _ => List.Subset.refl _
  refine hs.of_frame hf hs.served (fun _ _ hr => Or.inl hr) (fun _ _ he => Or.inl he)
    (fun _ _ hx => Or.inl hx) fun other x hx => ?_
  by_cases ho : other = socket
  · subst ho
    simp only [CommandState.answer,Function.update_self] at hx
    rcases List.mem_append.mp hx with hold | hnew
    · exact Or.inl hold
    · rw [List.mem_singleton.mp hnew]
      exact Or.inr (hf.answered h)
  · simp only [CommandState.answer,Function.update_of_ne ho] at hx
    exact Or.inl hx

theorem Sound.read (hs : s.Sound chess guestOf stays) {socket : SocketId} {gameId : String}
    (h : s.InRoom stays socket gameId) :
    (s.read socket gameId).Sound chess guestOf stays := by
  have hf : Frame stays s (s.read socket gameId) := .of_alike (.refl _) (read_reads s socket gameId)
  refine hs.of_frame hf hs.served (fun _ _ hr => Or.inl hr) (fun _ _ he => Or.inl he)
    (fun other x hx => ?_) fun _ _ hx => Or.inl hx
  by_cases ho : other = socket
  · subst ho
    simp only [CommandState.read,Function.update_self] at hx
    rcases List.mem_append.mp hx with hold | hnew
    · exact Or.inl hold
    · rw [List.mem_singleton.mp hnew]
      exact Or.inr (hf.inRoom h)
  · simp only [CommandState.read,Function.update_of_ne ho] at hx
    exact Or.inl hx

theorem Sound.publish {chess : ChessJs} (rules : chess.Rules)
    (hguests : ∀ socket, isUuidV4 (guestOf socket) = true)
    (hs : s.Sound chess.engine guestOf stays) {sender : ServerInstance}
    {moveText : EventId → String} {messages : List (Except SchemaError (List Delivery))}
    {ack : Option (SocketId × ClientCommand × RealtimeCommandResult)}
    (hc : ∀ deliveries, .ok deliveries ∈ messages → ∀ delivery ∈ deliveries,
      delivery.Concerns fun id guest => Plays (guest,id) s.server.db)
    (hack : ∀ x ∈ ack, s.Answered x.1 x.2) :
    (s.publish sender moveText messages ack).Sound chess.engine guestOf stays := by
  have halike : Server.Alike s.server (s.server.publish sender moveText messages).2.2 :=
    Server.alike_publish sender moveText s.server messages
  have hsent : ((s.withServer (s.server.publish sender moveText messages).2.2).receive
      (s.server.publish sender moveText messages).2.1).Sound chess.engine guestOf stays := by
    refine hs.of_frame (.of_alike halike fun _ => List.Subset.refl _) (halike.db ▸ hs.served) ?_ ?_
      (fun _ _ hx => Or.inl hx) fun _ _ hx => Or.inl hx
    · rw [receive_server,withServer_server,halike.rooms]
      exact fun _ _ hr => Or.inl hr
    · intro socket event he
      rcases List.mem_append.mp he with hold | hnew
      · exact Or.inl hold
      · obtain ⟨emission,hmem,rfl⟩ := List.mem_map.mp hnew
        obtain ⟨hsent,hr⟩ := List.mem_filter.mp hmem
        obtain ⟨deliveries,hdeliveries,room,event,ha⟩ := mem_publish hsent
        rw [receive_server,withServer_server,halike.db]
        have hevent : emission.event = event := by rw [ha.emitted]; rfl
        rw [hevent]
        exact Or.inr (hs.addressed rules hguests ha (hc deliveries hdeliveries) hr)
  unfold CommandState.publish
  simp only
  split
  · exact hsent.answer (hack _ rfl)
  · exact hsent

end CommandState

open CommandState

theorem present_listed {view : GameSnapshotView} {guest : GuestSessionId}
    {payload : GameSnapshotPayload} (h : present view guest = some payload) :
    payload.moves = view.snapshot.moves.map MoveRow.listed := by
  unfold present at h
  split at h
  · cases h
    rfl
  · cases h

theorem presentNamed_listed {snapshot : NamedSnapshot} {guest : GuestSessionId}
    {payload : RecoveredPayload} (h : presentNamed snapshot guest = some payload) :
    payload.payload.moves = snapshot.view.snapshot.moves.map MoveRow.listed := by
  unfold presentNamed at h
  obtain ⟨presented,hpresent,h⟩ := Option.bind_eq_some_iff.mp h
  obtain ⟨you,_,h⟩ := Option.bind_eq_some_iff.mp h
  obtain ⟨opponent,_,h⟩ := Option.bind_eq_some_iff.mp h
  cases h
  exact present_listed hpresent

/-- Only a player of the game is given its snapshot. -/
theorem recoverSnapshot_plays {server server' : Server σ} {gameId : String}
    {guest : GuestSessionId} {moment : Moment} {snapshot : RecoveredGameSnapshot}
    (h : server.recoverSnapshot config gameId guest moment = (.ok snapshot,server')) :
    Plays (guest,uuidOf gameId) server.db := by
  cases ha : server.db.authorize (uuidOf gameId) guest with
  | error e =>
    rw [recoverSnapshot_refused ha] at h
    cases h
  | ok allocation =>
    obtain ⟨g,hg,hmap,hmem⟩ := authorize_ok ha
    exact ⟨g,hg,(mapAllocation_ok hmap).2 ▸ hmem⟩

theorem authorize_plays {db : Db} {gameId : GameId} {guest : GuestSessionId}
    {allocation : GameAllocation} (h : db.authorize gameId guest = .ok allocation) :
    Plays (guest,gameId) db := by
  obtain ⟨g,hg,hmap,hmem⟩ := authorize_ok h
  exact ⟨g,hg,(mapAllocation_ok hmap).2 ▸ hmem⟩

theorem Submits.toPlayers {db : Db} {op : Operation} {m : AdmittedMove}
    {guests : GuestSessionId × GuestSessionId} (h : Submits chess db op m guests) :
    ∀ ended ∈ (m.submission guests).ended, TerminalSubmission.ToPlayers ⟨false,ended,guests⟩
      (execute chess db op).2 := by
  intro ended he
  obtain ⟨terminal,_,rfl⟩ := Option.map_eq_some_iff.mp he
  have hid : m.game.id = m.input.gameId := Table.find_key h.wrote.found
  obtain ⟨hfirst,hsecond⟩ := guestPair_guests h.admitted.pair
  have hfound : db.games.find m.game.id = some m.game := by rw [hid]; exact h.wrote.found
  have hplays : ∀ guest ∈ m.game.guests, Plays (guest,m.game.id) (execute chess db op).2 :=
    fun guest hmem => (execute_change chess db op).plays ⟨m.game,hfound,hmem⟩
  exact ⟨hplays _ hfirst,hplays _ hsecond⟩

/-- What a transaction of a move leaves to be announced. -/
theorem Submits.committed {chess : ChessJs} (rules : chess.Rules) (texts : chess.TextBounds)
    {db : Db} {op : Operation} {m : AdmittedMove} {guests : GuestSessionId × GuestSessionId}
    (h : Submits chess.engine db op m guests) (hdb : db.ServedReachable chess.engine)
    (hop : op.Served chess.engine) :
    (m.submission guests).Committed (execute chess.engine db op).2 := by
  have hvalid := execute_valid rules texts hdb hop
  rw [h.answer] at hvalid
  obtain ⟨hshown,hid⟩ := h.shown
  refine ⟨hvalid,⟨m.moveRow,?_,hshown⟩,h.toPlayers⟩
  rw [hid]
  exact h.commits.symm.subset List.mem_cons_self

/-- What a submission of a player announces concerns the players of its game. -/
theorem submissionMessages_concerns (players : GameId → GuestSessionId → Prop)
    {submission : MoveSubmission} {stamps : Stamps}
    (h : submission.duplicate = false → ∀ ended ∈ submission.ended,
      players ended.gameId submission.guestSessionIds.1 ∧
        players ended.gameId submission.guestSessionIds.2)
    {deliveries : List Delivery}
    (hmem : .ok deliveries ∈ Server.submissionMessages submission stamps) :
    ∀ delivery ∈ deliveries, delivery.Concerns players := by
  unfold Server.submissionMessages at hmem
  split_ifs at hmem with hduplicate
  · cases hmem
  · simp only [List.mem_append,List.mem_map,List.mem_singleton,Option.mem_toList] at hmem
    rcases hmem with (⟨started,_,hpublish⟩ | hpublish) | ⟨ended,hended,hpublish⟩
    · exact publishStarted_concerns hpublish
    · exact publishAccepted_concerns hpublish.symm
    · exact gameEnded_concerns hpublish (h (Bool.of_not_eq_true hduplicate) ended hended)

theorem completeTerminal_concerns (players : GameId → GuestSessionId → Prop)
    {submission : TerminalSubmission} {stamp : Stamp} {deliveries : List Delivery}
    (h : submission.duplicate = false → players submission.ended.gameId submission.guestSessionIds.1 ∧
      players submission.ended.gameId submission.guestSessionIds.2)
    (hcomplete : completeTerminal submission stamp = .ok deliveries) :
    ∀ delivery ∈ deliveries, delivery.Concerns players := by
  unfold completeTerminal at hcomplete
  split_ifs at hcomplete with hduplicate
  · cases hcomplete
    simp
  · exact gameEnded_concerns hcomplete (h (Bool.of_not_eq_true hduplicate))

/-- What a step leaves: a state and handlers that meet the invariant. -/
def EndsSound (chess : ChessEngine) (guestOf : SocketId → GuestSessionId)
    (stays : SocketId → String → Prop) (s' : CommandState σ) (new : Multiset CommandTask) : Prop :=
  s'.Sound chess guestOf stays ∧ ∀ t' ∈ new, t'.Sound guestOf stays s'

theorem EndsSound.none (h : s'.Sound chess guestOf stays) : EndsSound chess guestOf stays s' 0 :=
  ⟨h,by simp⟩

theorem EndsSound.one (h : s'.Sound chess guestOf stays) (ht : t.Sound guestOf stays s') :
    EndsSound chess guestOf stays s' {t} :=
  ⟨h,fun t' ht' => by rw [Multiset.mem_singleton.mp ht']; exact ht⟩

/-- A statement that may have failed, and the handler that goes on with its answer. -/
theorem EndsSound.answered {ε α : Type} {result : Except ε α} {next : α → CommandTask}
    (h : s'.Sound chess guestOf stays)
    (ht : ∀ a, result = .ok a → (next a).Sound guestOf stays s') :
    EndsSound chess guestOf stays s' (result.toOption.toList.map next : List CommandTask) := by
  refine ⟨h,fun t' ht' => ?_⟩
  obtain ⟨a,ha,rfl⟩ := List.mem_map.mp (Multiset.mem_coe.mp ht')
  cases result with
  | error e => simp [Except.toOption] at ha
  | ok b =>
    obtain rfl : a = b := by simpa [Except.toOption] using ha
    exact ht a rfl

section Steps

variable {chess : ChessJs} {socket : SocketId} {gameId : String} {gameVersion : ℕ}
  {moment : Moment} {command : ClientCommand}

theorem submitted_endsSound {clientMoveId : String} {move : MoveInput} {submission : MoveSubmission}
    (rules : chess.Rules) (hguests : ∀ socket, isUuidV4 (guestOf socket) = true)
    (hs : s.Sound chess.engine guestOf stays)
    (ht : CommandTask.Sound guestOf stays s
      (.submitted socket clientMoveId gameId gameVersion move moment submission))
    (h : CommandTask.Step config guestOf
      (.submitted socket clientMoveId gameId gameVersion move moment submission) s s' new) :
    EndsSound chess.engine guestOf stays s' new := by
  cases h
  have halike : Server.Alike s.server (s.server.afterSubmission config submission moment) :=
    Server.alike_afterSubmission _ _
  refine .none ((hs.of_alike halike).publish rules hguests (fun deliveries hmem => ?_) ?_)
  · rw [withServer_server,halike.db]
    exact submissionMessages_concerns (fun id guest => Plays (guest,id) s.server.db)
      (fun hfresh => (ht.2 hfresh).ended) hmem
  · rintro x hx
    cases hx
    trivial

theorem joined_endsSound (hs : s.Sound chess.engine guestOf stays)
    (ht : CommandTask.Sound guestOf stays s (.joined socket gameId gameVersion moment))
    (h : CommandTask.Step config guestOf (.joined socket gameId gameVersion moment) s s' new) :
    EndsSound chess.engine guestOf stays s' new := by
  have hf : Frame stays s s' := h.frame chess.engine
  cases h with
  | markReady hdb =>
    have hop : (Operation.markReady
        ⟨gameVersion,uuidOf gameId,guestOf socket,moment.now⟩).Served chess.engine :=
      ⟨trivial,by simp [Operation.observation]⟩
    exact .answered (hs.of_operation hop (.refl _) (Or.inr (congrArg Prod.snd hdb).symm))
      fun allocation _ => ⟨ht.1,hf.inRoom ht.2⟩

theorem readied_endsSound {allocation : GameAllocation} (hs : s.Sound chess.engine guestOf stays)
    (ht : CommandTask.Sound guestOf stays s (.readied socket gameId gameVersion moment allocation))
    (h : CommandTask.Step config guestOf (.readied socket gameId gameVersion moment allocation) s s'
      new) : EndsSound chess.engine guestOf stays s' new := by
  have hf : Frame stays s s' := h.frame chess.engine
  cases h with
  | startIfReady hstart =>
    have hop : (Operation.startIfReady (uuidOf gameId) moment.startAt).Served chess.engine :=
      .of_observation trivial rfl ht.1.startAt
    obtain ⟨halike,hdb⟩ := Server.startIfReady_db chess.engine hstart
    exact .answered (hs.of_operation hop halike hdb) fun started _ => ⟨ht.1,hf.inRoom ht.2⟩

theorem started_endsSound {started : Option StartedGame} (hs : s.Sound chess.engine guestOf stays)
    (ht : CommandTask.Sound guestOf stays s (.started socket gameId gameVersion moment started))
    (h : CommandTask.Step config guestOf (.started socket gameId gameVersion moment started) s s'
      new) : EndsSound chess.engine guestOf stays s' new := by
  have hf : Frame stays s s' := h.frame chess.engine
  cases h with
  | snapshot hsnapshot =>
    obtain ⟨g,hg,_,hmoves,_⟩ := snapshot_of_ok (namedSnapshot_ok hsnapshot).1
    refine .one (hs.read ht.2) ⟨ht.1,hf.inRoom ht.2,?_⟩
    rw [hmoves]
    simp [CommandState.read,Db.movesOf,hg]
  | snapshotFailed _ => exact .none hs

theorem viewed_endsSound {snapshot : NamedSnapshot} {started : Option StartedGame}
    (rules : chess.Rules) (hguests : ∀ socket, isUuidV4 (guestOf socket) = true)
    (hs : s.Sound chess.engine guestOf stays)
    (ht : CommandTask.Sound guestOf stays s
      (.viewed socket gameId gameVersion moment snapshot started))
    (h : CommandTask.Step config guestOf
      (.viewed socket gameId gameVersion moment snapshot started) s s' new) :
    EndsSound chess.engine guestOf stays s' new := by
  cases h
  have halike : Server.Alike s.server (s.server.scheduleGame gameId moment.now) :=
    Server.alike_scheduleGame _ _ _
  refine .none ((hs.of_alike halike).publish rules hguests (fun deliveries hmem => ?_) ?_)
  · obtain ⟨started,_,hpublish⟩ := List.mem_map.mp hmem
    exact publishStarted_concerns hpublish
  · intro x hx
    obtain ⟨payload,hpayload,rfl⟩ := Option.map_eq_some_iff.mp hx
    exact ⟨_,ht.2.2,presentNamed_listed hpayload⟩

theorem syncing_endsSound (hs : s.Sound chess.engine guestOf stays)
    (ht : CommandTask.Sound guestOf stays s (.syncing socket command gameId moment))
    (h : CommandTask.Step config guestOf (.syncing socket command gameId moment) s s' new) :
    EndsSound chess.engine guestOf stays s' new := by
  have hf : Frame stays s s' := h.frame chess.engine
  cases h with
  | recoverSnapshot hrecover =>
    refine .answered (hs.of_alike (Server.alike_recoverSnapshot hrecover)) fun snapshot hok => ?_
    subst hok
    exact ⟨ht,hf.plays _ (recoverSnapshot_plays hrecover)⟩

theorem recovered_endsSound {snapshot : RecoveredGameSnapshot}
    (hs : s.Sound chess.engine guestOf stays)
    (ht : CommandTask.Sound guestOf stays s (.recovered socket command gameId moment snapshot))
    (h : CommandTask.Step config guestOf (.recovered socket command gameId moment snapshot) s s'
      new) : EndsSound chess.engine guestOf stays s' new := by
  cases h
  have hjoined : (s.withServer (s.server.joinRoom socket (gameRoom gameId))).Sound chess.engine
      guestOf stays := hs.joinRoom (Or.inr ⟨gameId,rfl,ht.2⟩)
  have hscheduled := hjoined.of_alike (Server.alike_scheduleGame _ gameId moment.now)
  refine .none (hscheduled.answer ?_)
  have hname := ht.1
  cases command with
  | gameReady _ _ => cases hname
  | _ => trivial

theorem terminated_endsSound {sender : ServerInstance} {stamp : Stamp}
    {submission : TerminalSubmission} (rules : chess.Rules)
    (hguests : ∀ socket, isUuidV4 (guestOf socket) = true)
    (hs : s.Sound chess.engine guestOf stays)
    (ht : CommandTask.Sound guestOf stays s (.terminated sender stamp submission))
    (h : CommandTask.Step config guestOf (.terminated sender stamp submission) s s' new) :
    EndsSound chess.engine guestOf stays s' new := by
  cases h
  refine .none (hs.publish rules hguests (fun deliveries hmem => ?_) (by simp))
  exact completeTerminal_concerns (fun id guest => Plays (guest,id) s.server.db) ht
    (List.mem_singleton.mp hmem).symm

end Steps

/-- A step of a handler keeps the invariant, and leaves a handler that meets it. -/
theorem CommandTask.Step.sound {chess : ChessJs} (rules : chess.Rules)
    (hguests : ∀ socket, isUuidV4 (guestOf socket) = true)
    (h : t.Step config guestOf s s' new) (hs : s.Sound chess.engine guestOf stays)
    (ht : t.Sound guestOf stays s) : EndsSound chess.engine guestOf stays s' new := by
  cases t with
  | submitted _ _ _ _ _ _ _ => exact submitted_endsSound rules hguests hs ht h
  | joined _ _ _ _ => exact joined_endsSound hs ht h
  | readied _ _ _ _ _ => exact readied_endsSound hs ht h
  | started _ _ _ _ _ => exact started_endsSound hs ht h
  | viewed _ _ _ _ _ _ => exact viewed_endsSound rules hguests hs ht h
  | syncing _ _ _ _ => exact syncing_endsSound hs ht h
  | recovered _ _ _ _ _ => exact recovered_endsSound hs ht h
  | terminated _ _ _ => exact terminated_endsSound rules hguests hs ht h

theorem CommandEvent.sound {chess : ChessJs} (rules : chess.Rules) (texts : chess.TextBounds)
    (h : CommandEvent config chess.engine guestOf stays s s' new)
    (hs : s.Sound chess.engine guestOf stays) : EndsSound chess.engine guestOf stays s' new := by
  have hf : Frame stays s s' := h.frame
  cases h with
  | @submitMove socket clientMoveId gameId gameVersion move moment result db hschema hm hsubmit =>
    obtain ⟨hdb,hcases,_⟩ := submitOrRecover_cases hsubmit
    have hop : (Operation.submitMove ⟨uuidOf clientMoveId,gameVersion,uuidOf gameId,
        guestOf socket,move⟩ moment.transactionAt).Served chess.engine := by
      refine .of_observation ?_ rfl hm.transactionAt
      simp only [clientCommandSchema,Bool.and_eq_true] at hschema
      exact isUuidV4_uuidOf hschema.1.1.1.1
    refine .answered (hs.of_operation hop (.refl _) (Or.inr hdb)) fun submission hok => ?_
    refine ⟨hm,fun hfresh => ?_⟩
    obtain ⟨m,guests,hsubmits,rfl⟩ := hcases submission hok hfresh
    rw [withServer_server,hdb]
    exact hsubmits.committed rules texts hs.served hop
  | @readyGame socket gameId gameVersion moment allocation hschema hm hauthorized =>
    refine .one (hs.joinRoom (Or.inr ⟨gameId,rfl,authorize_plays hauthorized⟩)) ⟨hm,fun _ => ?_⟩
    rw [withServer_server,joinRoom_rooms,if_pos ⟨rfl,rfl⟩]
  | syncGame _ => exact .one hs rfl
  | syncActiveGame hactive => exact .one (hs.of_alike (Server.alike_activeGameId hactive)) rfl
  | @operation op sender stamp hn hop hstamp =>
    refine ⟨hs.of_operation hop (.refl _) (Or.inr rfl),fun t' ht' => ?_⟩
    obtain ⟨submission,hsubmission,rfl⟩ := List.mem_map.mp (Multiset.mem_coe.mp ht')
    have hplayers := terminalSubmission_players (Option.mem_toList.mp hsubmission)
    exact fun hfresh => hf.toPlayers (hplayers hfresh)
  | connect => exact .none (hs.joinRoom (Or.inl rfl))
  | @leave socket room hleave =>
    refine .none (hs.of_quiet hf hs.served (fun other room' hr => ?_) rfl rfl rfl)
    by_cases ho : other = socket
    · subst ho
      by_cases hroom : room' = room
      · simp [hroom] at hr
      · simp only [withServer_server,Function.update_self,Function.update_of_ne hroom] at hr
        exact Or.inl hr
    · simp only [withServer_server,Function.update_of_ne ho] at hr
      exact Or.inl hr
  | elsewhere hdb hrooms _ =>
    refine .none (hs.of_quiet hf (hdb ▸ hs.served) ?_ rfl rfl rfl)
    rw [withServer_server,hrooms]
    exact fun _ _ hr => Or.inl hr

/-- A server that has just come up: no socket is in a room. -/
def CommandState.initial (server : Server σ) : CommandState σ :=
  ⟨{ server with rooms := fun _ _ => false },[],fun _ => [],fun _ => [],fun _ => []⟩

/-- The invariant, of a state and of the handlers that run in it. -/
def FeedSound (chess : ChessEngine) (guestOf : SocketId → GuestSessionId)
    (stays : SocketId → String → Prop) (s : CommandState σ) (pool : Multiset CommandTask) : Prop :=
  s.Sound chess guestOf stays ∧ ∀ t ∈ pool, t.Sound guestOf stays s

theorem FeedSound.initial {server : Server σ} (h : server.db.ServedReachable chess) :
    FeedSound chess guestOf stays (.initial server) 0 := by
  refine ⟨⟨h,fun _ _ hr => ?_,?_,?_,?_⟩,by simp⟩
  · cases hr
  · simp [CommandState.initial]
  · simp [CommandState.initial]
  · simp [CommandState.initial]

theorem FeedSound.frame {pool : Multiset CommandTask} (hf : Frame stays s s')
    (hnew : EndsSound chess guestOf stays s' new)
    (h : ∀ t ∈ pool, t.Sound guestOf stays s) : FeedSound chess guestOf stays s' (new + pool) := by
  refine ⟨hnew.1,fun t ht => ?_⟩
  rcases Multiset.mem_add.mp ht with ht | ht
  · exact hnew.2 t ht
  · exact hf.task (h t ht)

theorem FeedSound.env {chess : ChessJs} (rules : chess.Rules) (texts : chess.TextBounds)
    {pool : Multiset CommandTask} (he : CommandEvent config chess.engine guestOf stays s s' new)
    (h : FeedSound chess.engine guestOf stays s pool) :
    FeedSound chess.engine guestOf stays s' (new + pool) :=
  .frame he.frame (he.sound rules texts h.1) h.2

theorem FeedSound.step {chess : ChessJs} (rules : chess.Rules)
    (hguests : ∀ socket, isUuidV4 (guestOf socket) = true) {pool : Multiset CommandTask}
    (ht : t.Step config guestOf s s' new)
    (h : FeedSound chess.engine guestOf stays s (t ::ₘ pool)) :
    FeedSound chess.engine guestOf stays s' (new + pool) :=
  .frame (ht.frame chess.engine)
    (ht.sound rules hguests h.1 (h.2 t (Multiset.mem_cons_self t pool)))
    fun t ht => h.2 t (Multiset.mem_cons_of_mem ht)

theorem FeedSound.run {chess : ChessJs} (rules : chess.Rules) (texts : chess.TextBounds)
    (hguests : ∀ socket, isUuidV4 (guestOf socket) = true)
    {c c' : CommandState σ × Multiset CommandTask}
    (h : (commands config chess.engine guestOf stays).Run System.anyTime c c')
    (hc : FeedSound chess.engine guestOf stays c.1 c.2) :
    FeedSound chess.engine guestOf stays c'.1 c'.2 :=
  h.invariant (fun _ _ _ _ he hi => .env rules texts he hi)
    (fun _ _ _ _ _ hs _ hi => .step rules hguests hs hi) hc

end Invariant

end CluChess
