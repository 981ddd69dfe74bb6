import CluChess.GameFeed
import Mathlib.Data.Multiset.Filter
import Mathlib.Data.Multiset.ZeroCons

/-! What the sockets hear of the games and of their moves, over every interleaving of the handlers:
only players are told, no move is told twice, and none is lost to a client that has been answered a
snapshot, as long as the instance that announces it reaches that client. -/
namespace CluChess
open CommandState

section Runs

variable {σ : Type} {config : AppConfig} {chess : ChessEngine}
  {guestOf : SocketId → GuestSessionId} {stays : SocketId → String → Prop}
  {s s' : CommandState σ} {t : CommandTask} {new : Multiset CommandTask}

/-- Whatever the commands do, a socket receives messages about the games of its guest alone. -/
theorem players_alone_are_told {chess : ChessJs} (rules : chess.Rules) (texts : chess.TextBounds)
    (hguests : ∀ socket, isUuidV4 (guestOf socket) = true) {server : Server σ}
    (hserved : server.db.ServedReachable chess.engine) {pool : Multiset CommandTask}
    (h : (commands config chess.engine guestOf stays).Run System.anyTime (.initial server,0)
      (s,pool)) {socket : SocketId} {event : ServerEventEnvelope} (he : event ∈ s.inbox socket) :
    Plays (guestOf socket,event.draft.gameId) s.server.db :=
  (FeedSound.run rules texts hguests h (.initial hserved)).1.inbox socket event he

def CommandState.heard (s : CommandState σ) (socket : SocketId) : List (GameId × ShownMove) :=
  (s.inbox socket).filterMap ServerEventEnvelope.shownMove

/-- The socket is in the room of the game, and the instance reaches it. -/
def Server.hears (s : Server σ) (sender : ServerInstance) (socket : SocketId) (id : GameId) :
    Bool := s.rooms socket (gameRoom (uuidText id)) && s.instances.reaches sender socket

/-- The message was sent by an instance that had no server, or whose adapter was not ready while the
socket was connected to another one. -/
def Emission.CutOff (emission : Emission) (host : ServerInstance) : Prop :=
  emission.fanout = .unbound ∨ emission.fanout = .degraded ∧ host ≠ emission.sender

def CommandState.CutOff (s : CommandState σ) (socket : SocketId) (x : GameId × ShownMove) : Prop :=
  ∃ emission ∈ s.sent, emission.event.shownMove = some x ∧
    emission.CutOff (s.server.instances.of socket)

/-- The move that a handler has still to announce. -/
def CommandTask.announces : CommandTask → Option (GameId × ShownMove)
  | .submitted _ _ _ _ _ _ submission =>
    if submission.duplicate then none
    else some (submission.accepted.gameId,submission.accepted.shown)
  | _ => none

section Heard

variable {sender : ServerInstance} {moveText : EventId → String}
  {messages : List (Except SchemaError (List Delivery))}
  {ack : Option (SocketId × ClientCommand × RealtimeCommandResult)}

theorem Silent.heard {emissions : List Emission} (h : Silent emissions) (socket : SocketId) :
    ((emissions.filter fun emission => emission.received socket).map Emission.event).filterMap
      ServerEventEnvelope.shownMove = [] := by
  rw [List.filterMap_eq_nil_iff]
  intro event he
  obtain ⟨emission,hmem,rfl⟩ := List.mem_map.mp he
  exact h emission (List.mem_of_mem_filter hmem)

theorem heard_publish_silent (h : Silent (s.server.publish sender moveText messages).2.1)
    (socket : SocketId) :
    (s.publish sender moveText messages ack).heard socket = s.heard socket := by
  rw [CommandState.heard,publish_inbox,List.filterMap_append,h.heard,List.append_nil]
  rfl

theorem heard_publish_submission {submission : MoveSubmission} {stamps : Stamps}
    (hfresh : submission.duplicate = false) (hvalid : submission.Valid) (hs : stamps.Valid)
    (socket : SocketId) :
    (s.publish sender moveText (Server.submissionMessages submission stamps) ack).heard socket =
      s.heard socket ++ ((some (submission.accepted.gameId,submission.accepted.shown)).filter
        fun x => s.server.hears sender socket x.1).toList := by
  obtain ⟨before,after,hbefore,hafter,hsent⟩ :=
    @submission_emissions _ s.server sender moveText _ _ hfresh hvalid hs
  rw [CommandState.heard,publish_inbox,hsent,List.filterMap_append,List.filter_append,
    List.map_append,List.filterMap_append,hbefore.heard,List.nil_append,List.filter_cons]
  congr 1
  cases hhears : s.server.hears sender socket submission.accepted.gameId with
  | true =>
    have hreceived : (s.server.emit sender moveText (gameRoom (uuidText
        submission.accepted.gameId)) ⟨acceptedDraft submission.accepted,stamps.accepted⟩).received
          socket = true := hhears
    rw [if_pos hreceived]
    simp [Server.emit,Option.filter,hhears,hafter.heard socket]
  | false =>
    have hreceived : (s.server.emit sender moveText (gameRoom (uuidText
        submission.accepted.gameId)) ⟨acceptedDraft submission.accepted,stamps.accepted⟩).received
          socket = false := hhears
    rw [if_neg (by simp [hreceived])]
    simp [Option.filter,hhears,hafter.heard socket]

theorem sent_publish_submission {submission : MoveSubmission} {stamps : Stamps}
    (hfresh : submission.duplicate = false) (hvalid : submission.Valid) (hs : stamps.Valid) :
    ∃ emission ∈ (s.publish sender moveText (Server.submissionMessages submission stamps) ack).sent,
      emission.event.shownMove = some (submission.accepted.gameId,submission.accepted.shown) ∧
        emission.sender = sender ∧ emission.fanout = s.server.instances.fanout sender := by
  obtain ⟨before,after,_,_,hsent⟩ :=
    @submission_emissions _ s.server sender moveText _ _ hfresh hvalid hs
  refine ⟨s.server.emit sender moveText (gameRoom (uuidText submission.accepted.gameId))
    ⟨acceptedDraft submission.accepted,stamps.accepted⟩,?_,rfl,rfl,rfl⟩
  rw [publish_sent,hsent]
  simp

end Heard

/-- What a step of a handler makes of the moves, of the announcements and of the reads. -/
structure CommandTask.Tells (s s' : CommandState σ) (t : CommandTask)
    (new : Multiset CommandTask) : Prop where
  moves : ∀ id, s'.server.db.movesOf id = s.server.db.movesOf id
  new : ∀ t' ∈ new, t'.announces = none
  heard : ∀ socket, s'.heard socket = s.heard socket ++ (t.announces.filter fun x =>
    s.server.hears (t.sender s.server.instances) socket x.1).toList
  kept : s.sent ⊆ s'.sent
  sent : ∀ x, t.announces = some x → ∃ emission ∈ s'.sent, emission.event.shownMove = some x ∧
    emission.sender = t.sender s.server.instances ∧
      emission.fanout = s.server.instances.fanout (t.sender s.server.instances)
  reads : ∀ socket, ∀ x ∈ s'.reads socket, x ∈ s.reads socket ∨
    x.2 = s.server.db.movesOf (uuidOf x.1)

theorem CommandTask.Tells.of_quiet (ht : t.announces = none)
    (hmoves : ∀ id, s'.server.db.movesOf id = s.server.db.movesOf id)
    (hnew : ∀ t' ∈ new, t'.announces = none) (hheard : ∀ socket, s'.heard socket = s.heard socket)
    (hsent : s.sent ⊆ s'.sent) (hreads : s'.reads = s.reads) : t.Tells s s' new where
  moves := hmoves
  new := hnew
  heard socket := by rw [hheard socket,ht]; simp
  kept := hsent
  sent x hx := by rw [ht] at hx; cases hx
  reads socket x hx := by rw [hreads] at hx; exact Or.inl hx

theorem execute_movesOf_eq {db : Db} {op : Operation} (h : op.submitted = none) (id : GameId) :
    (execute chess db op).2.movesOf id = db.movesOf id := by
  rcases execute_movesOf chess db op with hkeep | ⟨m,guests,hs⟩
  · exact hkeep id
  · obtain ⟨observation,rfl⟩ := hs.input
    cases h

theorem CommandTask.Tells.withServer {server : Server σ} (ht : t.announces = none)
    (hmoves : ∀ id, server.db.movesOf id = s.server.db.movesOf id)
    (hnew : ∀ t' ∈ new, t'.announces = none) : t.Tells s (s.withServer server) new :=
  .of_quiet ht hmoves hnew (fun _ => rfl) (List.Subset.refl _) rfl

theorem announces_toList {α : Type} {f : α → CommandTask} (hf : ∀ x, (f x).announces = none)
    (answer : Option α) :
    ∀ t' ∈ ((answer.toList.map f : List CommandTask) : Multiset CommandTask),
      t'.announces = none := by
  intro t' ht'
  obtain ⟨x,_,rfl⟩ := List.mem_map.mp (Multiset.mem_coe.mp ht')
  exact hf x

section Tasks

variable {socket : SocketId} {gameId : String} {gameVersion : ℕ} {moment : Moment}

theorem submitted_tells {clientMoveId : String} {move : MoveInput} {submission : MoveSubmission}
    (ht : CommandTask.Sound guestOf stays s
      (.submitted socket clientMoveId gameId gameVersion move moment submission))
    (h : CommandTask.Step config guestOf
      (.submitted socket clientMoveId gameId gameVersion move moment submission) s s' new) :
    CommandTask.Tells s s'
      (.submitted socket clientMoveId gameId gameVersion move moment submission) new := by
  cases h
  have halike : Server.Alike s.server (s.server.afterSubmission config submission moment) :=
    Server.alike_afterSubmission _ _
  have hhears : ∀ sender socket id, (s.server.afterSubmission config submission moment).hears
      sender socket id = s.server.hears sender socket id := fun sender socket id => by
    rw [Server.hears,halike.rooms,halike.instances]
    rfl
  refine ⟨fun id => ?_,by simp,fun other => ?_,?_,fun x hx => ?_,fun other x hx => ?_⟩
  · rw [(publish_alike (s := s.withServer _)).db,withServer_server,halike.db]
  · cases hduplicate : submission.duplicate with
    | true =>
      rw [heard_publish_silent]
      · simp [CommandTask.announces,hduplicate,CommandState.heard]
      · simp [Server.submissionMessages,hduplicate,Server.publish,Silent]
    | false =>
      rw [heard_publish_submission hduplicate (ht.2 hduplicate).valid ht.1.stamps,
        withServer_server]
      simp only [hhears,CommandTask.announces,hduplicate]
      rfl
  · rw [publish_sent]
    exact List.subset_append_left _ _
  · have hfresh : submission.duplicate = false := by
      by_contra hduplicate
      rw [CommandTask.announces,if_pos (Bool.of_not_eq_false hduplicate)] at hx
      cases hx
    rw [CommandTask.announces,if_neg (by simp [hfresh])] at hx
    cases hx
    rw [← halike.instances]
    exact sent_publish_submission hfresh (ht.2 hfresh).valid ht.1.stamps
  · rw [publish_reads] at hx
    exact Or.inl hx

theorem joined_tells (chess : ChessEngine)
    (h : CommandTask.Step config guestOf (.joined socket gameId gameVersion moment) s s' new) :
    CommandTask.Tells s s' (.joined socket gameId gameVersion moment) new := by
  cases h with
  | @markReady _ _ _ _ _ result db hdb =>
    have hmark : db = (execute chess s.server.db (.markReady _)).2 := (congrArg Prod.snd hdb).symm
    exact .withServer rfl (fun id => hmark ▸ execute_movesOf_eq rfl id)
      (announces_toList (fun _ => rfl) _)

theorem readied_tells (chess : ChessEngine) {allocation : GameAllocation}
    (h : CommandTask.Step config guestOf
      (.readied socket gameId gameVersion moment allocation) s s' new) :
    CommandTask.Tells s s' (.readied socket gameId gameVersion moment allocation) new := by
  cases h with
  | startIfReady hstart =>
    refine .withServer rfl (fun id => ?_) (announces_toList (fun _ => rfl) _)
    obtain ⟨_,hdb | hdb⟩ := Server.startIfReady_db chess hstart
    · rw [hdb]
    · rw [hdb]
      exact execute_movesOf_eq rfl id

/-- The moves are read with the snapshot. -/
theorem started_tells {started : Option StartedGame}
    (h : CommandTask.Step config guestOf
      (.started socket gameId gameVersion moment started) s s' new) :
    CommandTask.Tells s s' (.started socket gameId gameVersion moment started) new := by
  cases h with
  | snapshot hsnapshot =>
    refine ⟨fun _ => rfl,fun t' ht' => ?_,fun other => ?_,List.Subset.refl _,
      fun x hx => (by cases hx),fun other x hx => ?_⟩
    · rw [Multiset.mem_singleton.mp ht']
      rfl
    · simp [CommandTask.announces]
      rfl
    · by_cases ho : other = socket
      · subst ho
        simp only [CommandState.read,Function.update_self] at hx
        rcases List.mem_append.mp hx with hold | hnew
        · exact Or.inl hold
        · rw [List.mem_singleton.mp hnew]
          exact Or.inr rfl
      · simp only [CommandState.read,Function.update_of_ne ho] at hx
        exact Or.inl hx
  | snapshotFailed _ =>
    exact .of_quiet rfl (fun _ => rfl) (by simp) (fun _ => rfl) (List.Subset.refl _) rfl

theorem viewed_tells {snapshot : NamedSnapshot} {started : Option StartedGame}
    (h : CommandTask.Step config guestOf
      (.viewed socket gameId gameVersion moment snapshot started) s s' new) :
    CommandTask.Tells s s' (.viewed socket gameId gameVersion moment snapshot started) new := by
  cases h
  refine .of_quiet rfl (fun id => ?_) (by simp) (fun other => ?_) ?_ ?_
  · rw [(publish_alike (s := s.withServer _)).db,withServer_server,
      (Server.alike_scheduleGame _ _ _).db]
  · exact heard_publish_silent (silent_started _ _) other
  · rw [publish_sent]
    exact List.subset_append_left _ _
  · rw [publish_reads]
    rfl

theorem syncing_tells {command : ClientCommand}
    (h : CommandTask.Step config guestOf (.syncing socket command gameId moment) s s' new) :
    CommandTask.Tells s s' (.syncing socket command gameId moment) new := by
  cases h with
  | recoverSnapshot hrecover =>
    refine .withServer rfl (fun id => ?_) (announces_toList (fun _ => rfl) _)
    rw [(Server.alike_recoverSnapshot hrecover).db]

theorem recovered_tells {command : ClientCommand} {snapshot : RecoveredGameSnapshot}
    (h : CommandTask.Step config guestOf
      (.recovered socket command gameId moment snapshot) s s' new) :
    CommandTask.Tells s s' (.recovered socket command gameId moment snapshot) new := by
  cases h
  refine .of_quiet rfl (fun id => ?_) (by simp) (fun _ => rfl) (List.Subset.refl _) rfl
  rw [answer_server,withServer_server,(Server.alike_scheduleGame _ _ _).db]
  rfl

theorem terminated_tells {sender : ServerInstance} {stamp : Stamp}
    {submission : TerminalSubmission}
    (h : CommandTask.Step config guestOf (.terminated sender stamp submission) s s' new) :
    CommandTask.Tells s s' (.terminated sender stamp submission) new := by
  cases h
  refine .of_quiet rfl (fun id => ?_) (by simp) (fun other => ?_) ?_ publish_reads
  · rw [publish_alike.db]
  · refine heard_publish_silent (silent_publish fun deliveries hmem => ?_) other
    have hcomplete := (List.mem_singleton.mp hmem).symm
    unfold completeTerminal at hcomplete
    split_ifs at hcomplete
    · cases hcomplete
      simp
    · exact gameEnded_silent hcomplete
  · rw [publish_sent]
    exact List.subset_append_left _ _

end Tasks

theorem CommandTask.Step.tells (chess : ChessEngine) (h : t.Step config guestOf s s' new)
    (ht : t.Sound guestOf stays s) : t.Tells s s' new := by
  cases t with
  | submitted _ _ _ _ _ _ _ => exact submitted_tells ht h
  | joined _ _ _ _ => exact joined_tells chess h
  | readied _ _ _ _ _ => exact readied_tells chess h
  | started _ _ _ _ _ => exact started_tells h
  | viewed _ _ _ _ _ _ => exact viewed_tells h
  | syncing _ _ _ _ => exact syncing_tells h
  | recovered _ _ _ _ _ => exact recovered_tells h
  | terminated _ _ _ => exact terminated_tells h

/-- What an event makes of the moves and of the announcements: it adds a move and a handler that
has to announce it, or neither. -/
inductive CommandEvent.Adds (s s' : CommandState σ) (new : Multiset CommandTask) : Prop
  | nothing (hmoves : ∀ id, s'.server.db.movesOf id = s.server.db.movesOf id)
      (hnew : ∀ t' ∈ new, t'.announces = none)
  | move (t : CommandTask) (id : GameId) (r : MoveRow) (hnew : new = {t})
      (ht : t.announces = some (id,r.shown))
      (hmove : (s'.server.db.movesOf id).Perm (r :: s.server.db.movesOf id))
      (hother : ∀ k, k ≠ id → s'.server.db.movesOf k = s.server.db.movesOf k)
      (hply : ∀ r' ∈ s.server.db.movesOf id, r'.ply ≠ r.ply)

theorem CommandEvent.adds (h : CommandEvent config chess guestOf stays s s' new) :
    s'.inbox = s.inbox ∧ s'.sent = s.sent ∧ s'.reads = s.reads ∧ Adds s s' new := by
  cases h with
  | @submitMove socket clientMoveId gameId gameVersion move moment result db hschema hm hsubmit =>
    obtain ⟨hdb,hfresh,hanswered⟩ := submitOrRecover_cases hsubmit
    refine ⟨rfl,rfl,rfl,?_⟩
    rcases execute_movesOf chess s.server.db (.submitMove ⟨uuidOf clientMoveId,gameVersion,
      uuidOf gameId,guestOf socket,move⟩ moment.transactionAt) with hkeep | ⟨m,guests,hs⟩
    · refine .nothing (fun id => by rw [withServer_server,hdb]; exact hkeep id) fun t' ht' => ?_
      obtain ⟨submission,hsubmission,rfl⟩ := List.mem_map.mp (Multiset.mem_coe.mp ht')
      rw [CommandTask.announces,if_pos]
      by_contra hduplicate
      cases result with
      | error e => simp [Except.toOption] at hsubmission
      | ok found =>
        obtain rfl : submission = found := by simpa [Except.toOption] using hsubmission
        obtain ⟨m,guests,hs,_⟩ := hfresh submission rfl (Bool.of_not_eq_true hduplicate)
        exact hs.commits.ne (hkeep m.input.gameId)
    · obtain ⟨hshown,hid⟩ := hs.shown
      rw [hanswered m guests hs]
      refine .move _ m.input.gameId m.moveRow rfl ?_ ?_ (fun k hk => ?_) fun r' hr' => ?_
      · rw [← hid,← hshown]
        rfl
      · rw [withServer_server,hdb]
        exact hs.commits
      · rw [withServer_server,hdb]
        exact hs.movesOf_ne hk
      · rw [Db.movesOf,hs.wrote.found] at hr'
        exact (hs.admitted.moves r' hr').2
  | readyGame _ _ _ =>
    refine ⟨rfl,rfl,rfl,.nothing (fun _ => rfl) fun t' ht' => ?_⟩
    rw [Multiset.mem_singleton.mp ht']
    rfl
  | syncGame _ =>
    refine ⟨rfl,rfl,rfl,.nothing (fun _ => rfl) fun t' ht' => ?_⟩
    rw [Multiset.mem_singleton.mp ht']
    rfl
  | syncActiveGame hactive =>
    refine ⟨rfl,rfl,rfl,.nothing (fun _ => ?_) fun t' ht' => ?_⟩
    · rw [withServer_server,(Server.alike_activeGameId hactive).db]
    · rw [Multiset.mem_singleton.mp ht']
      rfl
  | @operation op sender stamp hn hop hstamp =>
    refine ⟨rfl,rfl,rfl,.nothing (execute_movesOf_eq hn) fun t' ht' => ?_⟩
    obtain ⟨submission,_,rfl⟩ := List.mem_map.mp (Multiset.mem_coe.mp ht')
    rfl
  | connect => exact ⟨rfl,rfl,rfl,.nothing (fun _ => rfl) (by simp)⟩
  | leave _ => exact ⟨rfl,rfl,rfl,.nothing (fun _ => rfl) (by simp)⟩
  | elsewhere hdb _ _ =>
    exact ⟨rfl,rfl,rfl,.nothing (fun _ => by rw [withServer_server,hdb]) (by simp)⟩

/-- The game and the ply of an announcement. -/
def announcedPly (x : GameId × ShownMove) : GameId × ℕ := (x.1,x.2.ply)

def CommandState.hears (s : CommandState σ) (pool : Multiset CommandTask) (socket : SocketId) :
    Multiset (GameId × ShownMove) :=
  (s.heard socket : Multiset _) + pool.filterMap CommandTask.announces

/-- The announcements are those of stored moves, one for a move. -/
structure HeardOnce (s : CommandState σ) (pool : Multiset CommandTask) : Prop where
  once : ∀ socket, ((s.hears pool socket).map announcedPly).Nodup
  stored : ∀ socket, ∀ x ∈ s.hears pool socket, ∃ r ∈ s.server.db.movesOf x.1, x.2 = r.shown

theorem filterMap_announces_eq_zero (h : ∀ t ∈ new, t.announces = none) :
    new.filterMap CommandTask.announces = 0 := by
  apply Multiset.eq_zero_of_forall_notMem
  intro x hx
  obtain ⟨t,ht,hannounces⟩ := (Multiset.mem_filterMap _ _).mp hx
  rw [h t ht] at hannounces
  cases hannounces

theorem HeardOnce.initial (server : Server σ) : HeardOnce (.initial server) 0 where
  once socket := by simp [CommandState.hears,CommandState.heard,CommandState.initial]
  stored socket := by simp [CommandState.hears,CommandState.heard,CommandState.initial]

theorem HeardOnce.of_le {pool pool' : Multiset CommandTask} (h : HeardOnce s pool)
    (hmoves : ∀ id, s.server.db.movesOf id ⊆ s'.server.db.movesOf id)
    (hle : ∀ socket, s'.hears pool' socket ≤ s.hears pool socket) : HeardOnce s' pool' where
  once socket := Multiset.nodup_of_le (Multiset.map_le_map (hle socket)) (h.once socket)
  stored socket x hx := by
    obtain ⟨r,hr,hshown⟩ := h.stored socket x (Multiset.mem_of_le (hle socket) hx)
    exact ⟨r,hmoves _ hr,hshown⟩

theorem HeardOnce.env {pool : Multiset CommandTask}
    (he : CommandEvent config chess guestOf stays s s' new) (h : HeardOnce s pool) :
    HeardOnce s' (new + pool) := by
  obtain ⟨hinbox,_,_,hadds⟩ := he.adds
  have hheard : ∀ socket, s'.heard socket = s.heard socket := fun socket => by
    rw [CommandState.heard,hinbox]
    rfl
  cases hadds with
  | nothing hmoves hnew =>
    refine h.of_le (fun id => by rw [hmoves id]; exact List.Subset.refl _) fun socket => ?_
    rw [CommandState.hears,CommandState.hears,hheard,Multiset.filterMap_add,
      filterMap_announces_eq_zero hnew,Multiset.zero_add]
  | move t id r hnew ht hmove hother hply =>
    -- The ply of the move is new, since whatever is announced is stored.
    have hhears : ∀ socket,
        s'.hears (new + pool) socket = (id,r.shown) ::ₘ s.hears pool socket := by
      intro socket
      rw [CommandState.hears,CommandState.hears,hheard,Multiset.filterMap_add,hnew,
        ← Multiset.cons_zero,Multiset.filterMap_cons_some _ _ _ ht,Multiset.filterMap_zero,
        Multiset.cons_zero,Multiset.singleton_add,Multiset.add_cons]
    refine ⟨fun socket => ?_,fun socket x hx => ?_⟩
    · rw [hhears,Multiset.map_cons,Multiset.nodup_cons]
      refine ⟨fun hmem => ?_,h.once socket⟩
      obtain ⟨x,hx,hkey⟩ := Multiset.mem_map.mp hmem
      obtain ⟨r',hr',hshown⟩ := h.stored socket x hx
      obtain ⟨hid,hsame⟩ := Prod.mk.inj hkey
      rw [hid] at hr'
      rw [hshown] at hsame
      exact hply r' hr' hsame
    · rw [hhears] at hx
      rcases Multiset.mem_cons.mp hx with rfl | hold
      · exact ⟨r,hmove.symm.subset List.mem_cons_self,rfl⟩
      · obtain ⟨r',hr',hshown⟩ := h.stored socket x hold
        exact ⟨r',he.frame.moves _ hr',hshown⟩

theorem HeardOnce.step {pool : Multiset CommandTask} (chess : ChessEngine)
    (hs : t.Step config guestOf s s' new) (ht : t.Sound guestOf stays s)
    (h : HeardOnce s (t ::ₘ pool)) : HeardOnce s' (new + pool) := by
  have htells := hs.tells chess ht
  refine h.of_le (hs.frame chess : Frame stays s s').moves fun socket => ?_
  rw [CommandState.hears,CommandState.hears,htells.heard socket,Multiset.filterMap_add,
    filterMap_announces_eq_zero htells.new,Multiset.zero_add,← Multiset.coe_add,
    Multiset.add_assoc]
  refine Multiset.add_le_add_left ?_
  cases hannounces : t.announces with
  | none => simp [Multiset.filterMap_cons_none _ _ hannounces]
  | some x =>
    rw [Multiset.filterMap_cons_some _ _ _ hannounces,← Multiset.singleton_add]
    refine Multiset.add_le_add_right ?_
    cases hhears : s.server.hears (t.sender s.server.instances) socket x.1 with
    | true => simp [Option.filter,hhears]
    | false => simp [Option.filter,hhears]

/-- No socket is told of a move twice, and what it is told of a move is what is stored, whatever the
order of the commits and of the announcements. -/
theorem moves_heard_once {chess : ChessJs} (rules : chess.Rules) (texts : chess.TextBounds)
    (hguests : ∀ socket, isUuidV4 (guestOf socket) = true) {server : Server σ}
    (hserved : server.db.ServedReachable chess.engine) {pool : Multiset CommandTask}
    (h : (commands config chess.engine guestOf stays).Run System.anyTime (.initial server,0)
      (s,pool)) (socket : SocketId) :
    ((s.heard socket).map announcedPly).Nodup ∧
      ∀ x ∈ s.heard socket, ∃ r ∈ s.server.db.movesOf x.1, x.2 = r.shown := by
  have hinvariant := h.invariant
    (I := fun s pool => FeedSound chess.engine guestOf stays s pool ∧ HeardOnce s pool)
    (fun _ _ _ _ he hi => ⟨.env rules texts he hi.1,.env he hi.2⟩)
    (fun t _ _ _ pool hs _ hi => ⟨.step rules hguests hs hi.1,
      .step chess.engine hs (hi.1.2 t (Multiset.mem_cons_self t pool)) hi.2⟩)
    ⟨.initial hserved,.initial server⟩
  have hheard : (s.heard socket : Multiset _) ≤ s.hears pool socket := Multiset.le_add_right _ _
  refine ⟨?_,fun x hx => hinvariant.2.stored socket x (Multiset.mem_of_le hheard hx)⟩
  rw [← Multiset.coe_nodup,← Multiset.map_coe]
  exact Multiset.nodup_of_le (Multiset.map_le_map hheard) (hinvariant.2.once socket)

/-! ### No move is lost -/

/-- A move that a socket misses: the snapshot that was read for it is older than the move, and it
has neither heard of it nor been cut off from it. -/
structure Missed (stays : SocketId → String → Prop) (x : SocketId × GameId × MoveRow)
    (s : CommandState σ) : Prop where
  stays : stays x.1 (gameRoom (uuidText x.2.1))
  valid : isUuidV4 x.2.1 = true
  read : ∃ rows, (uuidText x.2.1,rows) ∈ s.reads x.1 ∧ x.2.2 ∉ rows
  stored : x.2.2 ∈ s.server.db.movesOf x.2.1
  unheard : (x.2.1,x.2.2.shown) ∉ s.heard x.1
  reached : ¬ s.CutOff x.1 (x.2.1,x.2.2.shown)

def WillTell (x : SocketId × GameId × MoveRow) (t : CommandTask) : Prop :=
  t.announces = some (x.2.1,x.2.2.shown)

theorem cutOff_of_subset {socket : SocketId} {x : GameId × ShownMove} (hsent : s.sent ⊆ s'.sent)
    (hof : s'.server.instances.of = s.server.instances.of) (h : s.CutOff socket x) :
    s'.CutOff socket x := by
  obtain ⟨emission,hmem,hshown,hcut⟩ := h
  exact ⟨emission,hsent hmem,hshown,hof ▸ hcut⟩

theorem missed_env (chess : ChessEngine) : System.EnvCovers
    (commands (σ := σ) config chess guestOf stays) (FeedSound chess guestOf stays) (Missed stays)
      WillTell := by
  rintro s s' new pool he - x hx
  obtain ⟨hinbox,hsent,hreads,hadds⟩ := he.adds
  have hunheard : (x.2.1,x.2.2.shown) ∉ s.heard x.1 := by
    have hx := hx.unheard
    rw [CommandState.heard,hinbox] at hx
    exact hx
  have hreached : ¬ s.CutOff x.1 (x.2.1,x.2.2.shown) := fun hcut =>
    hx.reached (cutOff_of_subset (hsent ▸ List.Subset.refl _) he.frame.hosts hcut)
  have hback : x.2.2 ∈ s.server.db.movesOf x.2.1 → Missed stays x s := fun hstored =>
    ⟨hx.stays,hx.valid,hreads ▸ hx.read,hstored,hunheard,hreached⟩
  cases hadds with
  | nothing hmoves _ =>
    exact Or.inl (hback (hmoves x.2.1 ▸ hx.stored))
  | move t id r hnew ht hmove hother _ =>
    by_cases hid : x.2.1 = id
    · rcases List.mem_cons.mp (hmove.subset (hid ▸ hx.stored)) with hrow | hold
      · refine Or.inr ⟨t,hnew ▸ Multiset.mem_singleton_self t,?_⟩
        rw [WillTell,hid,hrow]
        exact ht
      · exact Or.inl (hback (hid ▸ hold))
    · exact Or.inl (hback (hother _ hid ▸ hx.stored))

/-- An announcement reaches a socket in the room of the game, or the socket is cut off from it. -/
theorem CommandTask.Tells.heard_or_cutOff (h : t.Tells s s' new) {socket : SocketId}
    {x : GameId × ShownMove} (hof : s'.server.instances.of = s.server.instances.of)
    (hannounces : t.announces = some x)
    (hroom : s.server.rooms socket (gameRoom (uuidText x.1)) = true) :
    x ∈ s'.heard socket ∨ s'.CutOff socket x := by
  cases hreaches : s.server.instances.reaches (t.sender s.server.instances) socket with
  | true =>
    refine Or.inl ?_
    have hhears : s.server.hears (t.sender s.server.instances) socket x.1 = true := by
      rw [Server.hears,hroom,hreaches]
      rfl
    rw [h.heard,hannounces]
    simp [Option.filter,hhears]
  | false =>
    obtain ⟨emission,hmem,hshown,hsender,hfanout⟩ := h.sent x hannounces
    refine Or.inr ⟨emission,hmem,hshown,?_⟩
    unfold Instances.reaches at hreaches
    rw [Emission.CutOff,hof,hsender,hfanout]
    split at hreaches
    · rename_i hunbound
      exact Or.inl hunbound
    · rename_i hdegraded
      exact Or.inr ⟨hdegraded,of_decide_eq_false hreaches⟩
    · cases hreaches

theorem missed_step (chess : ChessEngine) : System.StepCovers
    (commands (σ := σ) config chess guestOf stays) System.anyTime (FeedSound chess guestOf stays)
      (Missed stays) WillTell := by
  rintro t s s' new pool hs - ⟨hsound,htasks⟩ x hx
  have hstep : t.Step config guestOf s s' new := hs
  have htells := hstep.tells chess (htasks t (Multiset.mem_cons_self t pool))
  have hof : s'.server.instances.of = s.server.instances.of :=
    (hstep.frame chess : Frame stays s s').hosts
  have hunheard : (x.2.1,x.2.2.shown) ∉ s.heard x.1 := fun hheard => by
    refine hx.unheard ?_
    rw [htells.heard]
    exact List.mem_append_left _ hheard
  -- The snapshot that a step reads has every move that is stored.
  have hread : ∃ rows, (uuidText x.2.1,rows) ∈ s.reads x.1 ∧ x.2.2 ∉ rows := by
    obtain ⟨rows,hrows,hmissing⟩ := hx.read
    rcases htells.reads _ _ hrows with hold | hnew
    · exact ⟨rows,hold,hmissing⟩
    · have hstored := hx.stored
      rw [htells.moves] at hstored
      rw [show rows = _ from hnew,uuidOf_uuidText hx.valid] at hmissing
      exact absurd hstored hmissing
  have hmissed : Missed stays x s :=
    ⟨hx.stays,hx.valid,hread,htells.moves x.2.1 ▸ hx.stored,hunheard,
      fun hcut => hx.reached (cutOff_of_subset htells.kept hof hcut)⟩
  refine Or.inl ⟨hmissed,fun hcures => ?_⟩
  obtain ⟨rows,hrows,_⟩ := hread
  have hroom := hsound.reads x.1 _ hrows hx.stays
  have hannounces : t.announces = some (x.2.1,x.2.2.shown) := hcures
  rcases htells.heard_or_cutOff hof hannounces hroom with hheard | hcut
  · exact hx.unheard hheard
  · exact hx.reached hcut

end Runs

section Sample

def sampleFeedStart : CommandState Unit := .initial { sampleServer with db := sampleDb sampleStart }

theorem sampleMoment_valid : (sampleMoment 7000).Valid where
  transactionAt := ⟨by decide,by decide⟩
  startAt := ⟨by decide,by decide⟩
  stamps := ⟨⟨by decide,by decide⟩,⟨by decide,by decide⟩,⟨by decide,by decide⟩⟩

theorem sampleFeedStart_reachable :
    sampleFeedStart.server.db.ServedReachable sampleChess.engine :=
  ⟨sampleSessions,.empty,sampleStart,by decide,sampleStart_served,rfl⟩

theorem sampleGame_id : uuidOf (uuidText (sampleId 10)) = sampleId 10 := uuidOf_uuidText (by decide)

theorem sample_authorize : ∃ allocation,
    (sampleDb sampleStart).authorize (sampleId 10) (sampleId 1) = .ok allocation := ⟨_,rfl⟩

def sampleMarked : Except RepositoryError GameAllocation × Db :=
  (sampleDb sampleStart).markReady ⟨2,sampleId 10,sampleId 1,7000⟩

theorem sampleMarked_ok : ∃ allocation, sampleMarked = (.ok allocation,sampleMarked.2) ∧
   allocation.game.status ≠ .ready := ⟨_,rfl,by decide⟩

theorem sample_snapshot : ∃ snapshot, sampleMarked.2.namedSnapshot (sampleId 10) (sampleId 1)
    (sampleMoment 7000).snapshotAt = .ok snapshot ∧
      (presentNamed snapshot (sampleId 1)).isSome := ⟨_,rfl,by decide⟩

def sampleSubmitted : Except RepositoryError MoveSubmission × Db :=
  Server.submitOrRecover sampleChess.engine sampleMarked.2 sampleMove
    (sampleMoment 7000).transactionAt

theorem sampleSubmitted_ok : ∃ submission, sampleSubmitted = (.ok submission,sampleSubmitted.2) ∧
   submission.duplicate = false ∧ submission.accepted.gameId = sampleId 10 := ⟨_,rfl,rfl,rfl⟩

theorem sampleSubmitted_moves : (sampleSubmitted.2.movesOf (sampleId 10)).length = 1 := by decide

/-- The commands of two tabs of white, none of which leaves a room. -/
def sampleFeed : System (CommandState Unit) CommandTask :=
  commands sampleConfig sampleChess.engine (fun _ => sampleId 1) fun _ _ => True

def sampleJoined : CommandState Unit := sampleFeedStart.withServer
  (sampleFeedStart.server.joinRoom "white" (gameRoom (uuidText (sampleId 10))))

def sampleMarkedOn : CommandState Unit :=
  sampleJoined.withServer { sampleJoined.server with db := sampleMarked.2 }

def sampleViewed : CommandState Unit := sampleMarkedOn.read "white" (uuidText (sampleId 10))

def samplePlayedOn : CommandState Unit := sampleViewed.withServer
  { sampleViewed.server with db := sampleSubmitted.2 }

theorem samplePlayedOn_run : ∃ snapshot submission,
    sampleMarked.2.namedSnapshot (sampleId 10) (sampleId 1) (sampleMoment 7000).snapshotAt =
      .ok snapshot ∧
    sampleSubmitted = (.ok submission,sampleSubmitted.2) ∧
    sampleFeed.Run System.anyTime (sampleFeedStart,0) (samplePlayedOn,
      .submitted "tab" (uuidText (sampleId 30)) (uuidText (sampleId 10)) 2 sampleMove.move
        (sampleMoment 7000) submission ::ₘ
          {.viewed "white" (uuidText (sampleId 10)) 2 (sampleMoment 7000) snapshot none}) := by
  have hgame : isUuidV4Text (uuidText (sampleId 10)) = true := isUuidV4Text_uuidText (by decide)
  have hmove : isUuidV4Text (uuidText (sampleId 30)) = true := isUuidV4Text_uuidText (by decide)
  have hmoveId : uuidOf (uuidText (sampleId 30)) = sampleId 30 := uuidOf_uuidText (by decide)
  obtain ⟨allocation,hauthorized⟩ := sample_authorize
  obtain ⟨marked,hmarked,hstatus⟩ := sampleMarked_ok
  obtain ⟨snapshot,hsnapshot,_⟩ := sample_snapshot
  obtain ⟨submission,hsubmitted,_⟩ := sampleSubmitted_ok
  refine ⟨snapshot,submission,hsnapshot,hsubmitted,?_⟩
  have hready : clientCommandSchema (.gameReady (uuidText (sampleId 10)) 2) = true := by
    simp only [clientCommandSchema,hgame]
    decide
  have hsubmit : clientCommandSchema (.moveSubmit (uuidText (sampleId 30)) (uuidText (sampleId 10))
      2 sampleMove.move) = true := by
    simp only [clientCommandSchema,hgame,hmove]
    decide
  rw [← sampleGame_id] at hauthorized hsnapshot
  have hmark : sampleJoined.server.db.markReady ⟨2,uuidOf (uuidText (sampleId 10)),sampleId 1,
      (sampleMoment 7000).now⟩ = (.ok marked,sampleMarked.2) := by
    rw [sampleGame_id]
    exact hmarked
  have hstart : (sampleMarkedOn.server).startIfReady marked (uuidText (sampleId 10))
      (sampleMoment 7000) = (.ok none,sampleMarkedOn.server) := by
    rw [Server.startIfReady,if_neg hstatus]
  have hsubmitted : Server.submitOrRecover sampleChess.engine sampleViewed.server.db
      ⟨uuidOf (uuidText (sampleId 30)),2,uuidOf (uuidText (sampleId 10)),sampleId 1,sampleMove.move⟩
      (sampleMoment 7000).transactionAt = (.ok submission,sampleSubmitted.2) := by
    rw [sampleGame_id,hmoveId]
    exact hsubmitted
  have hjoined : sampleFeed.Run System.anyTime (sampleFeedStart,0) (sampleJoined,
      {.joined "white" (uuidText (sampleId 10)) 2 (sampleMoment 7000)}) :=
    System.Run.env .refl (.readyGame hready sampleMoment_valid hauthorized) (Multiset.add_zero _)
  have hreadied := hjoined.alone (.markReady hmark) trivial
  have hstarted := hreadied.alone (.startIfReady hstart) trivial
  have hviewed := hstarted.alone (.snapshot hsnapshot) trivial
  exact hviewed.env (.submitMove hsubmit sampleMoment_valid hsubmitted) rfl

theorem sampleFeedStart_run : ∃ s version payload,
    sampleFeed.Run System.anyTime (sampleFeedStart,0) (s,0) ∧
    (s.server.db.movesOf (sampleId 10)).length = 1 ∧ (s.heard "white").length = 1 ∧
    (.gameReady (uuidText (sampleId 10)) 2,.gameSnapshot version payload) ∈ s.answers "white" := by
  obtain ⟨snapshot,submission,hsnapshot,hsubmitted,hplayed⟩ := samplePlayedOn_run
  have hpayload : ∃ payload, presentNamed snapshot (sampleId 1) = some payload := by
    obtain ⟨found,hfound,hpresented⟩ := sample_snapshot
    obtain rfl : found = snapshot := Except.ok.inj (hfound.symm.trans hsnapshot)
    exact Option.isSome_iff_exists.mp hpresented
  have hfresh : submission.duplicate = false ∧ submission.accepted.gameId = sampleId 10 := by
    obtain ⟨found,hfound,hfresh⟩ := sampleSubmitted_ok
    obtain rfl : found = submission :=
      Except.ok.inj ((Prod.mk.inj (hfound.symm.trans hsubmitted)).1)
    exact hfresh
  obtain ⟨payload,hpayload⟩ := hpayload
  have hpresented := hplayed.process CommandTask.Step.presented (Multiset.cons_swap _ _ _) trivial
    (Multiset.zero_add _)
  have hpublished := hpresented.alone .published trivial
  have hsound := FeedSound.run sampleChess_rules sampleChess_texts (fun _ => by decide) hplayed
    (.initial sampleFeedStart_reachable)
  have htask : CommandTask.Sound (fun _ => sampleId 1) (fun _ _ => True) samplePlayedOn
      (.submitted "tab" (uuidText (sampleId 30)) (uuidText (sampleId 10)) 2 sampleMove.move
        (sampleMoment 7000) submission) := hsound.2 _ (by simp)
  refine ⟨_,snapshot.allocation.game.version,payload,hpublished,?_,?_,?_⟩
  · rw [publish_alike.db,withServer_server,(Server.alike_afterSubmission _ _).db,publish_alike.db,
      withServer_server,(Server.alike_scheduleGame _ _ _).db]
    exact sampleSubmitted_moves
  · have hroom : samplePlayedOn.server.rooms "white" (gameRoom (uuidText (sampleId 10))) =
        true := by
      rw [show samplePlayedOn.server.rooms = (sampleFeedStart.server.joinRoom "white" (gameRoom
        (uuidText (sampleId 10)))).rooms from rfl,joinRoom_rooms,if_pos ⟨rfl,rfl⟩]
    have hreaches : ∀ sender, samplePlayedOn.server.instances.reaches sender "white" = true :=
      fun _ => rfl
    rw [heard_publish_submission hfresh.1 (htask.2 hfresh.1).valid sampleMoment_valid.stamps,
      withServer_server,hfresh.2,List.length_append]
    simp only [Option.filter,Server.hears,(Server.alike_afterSubmission _ _).rooms,
      (Server.alike_afterSubmission _ _).instances,publish_alike.rooms,publish_alike.instances,
      withServer_server,(Server.alike_scheduleGame _ _ _).rooms,
      (Server.alike_scheduleGame _ _ _).instances,hroom,hreaches]
    exact congrArg (fun heard => List.length heard + 1)
      (heard_publish_silent (silent_started none _) "white")
  · apply publish_answers
    rw [hpayload]
    exact List.mem_singleton_self _

end Sample

theorem players_alone_are_told_sample : ∃ s,
    sampleFeed.Run System.anyTime (sampleFeedStart,0) (s,0) ∧ s.inbox "white" ≠ [] ∧
      ∀ event ∈ s.inbox "white", Plays (sampleId 1,event.draft.gameId) s.server.db := by
  obtain ⟨s,_,_,hrun,_,hheard,_⟩ := sampleFeedStart_run
  refine ⟨s,hrun,fun hempty => ?_,fun event he => players_alone_are_told sampleChess_rules
    sampleChess_texts (fun _ => by decide) sampleFeedStart_reachable hrun he⟩
  rw [CommandState.heard,hempty] at hheard
  cases hheard

theorem moves_heard_once_sample : ∃ s, sampleFeed.Run System.anyTime (sampleFeedStart,0) (s,0) ∧
    (s.heard "white").length = 1 ∧ ((s.heard "white").map announcedPly).Nodup ∧
      ∀ x ∈ s.heard "white", ∃ r ∈ s.server.db.movesOf x.1, x.2 = r.shown := by
  obtain ⟨s,_,_,hrun,_,hheard,_⟩ := sampleFeedStart_run
  exact ⟨s,hrun,hheard,moves_heard_once sampleChess_rules sampleChess_texts (fun _ => by decide)
    sampleFeedStart_reachable hrun "white"⟩

end CluChess
