import CluChess.RealtimeCommands

/-! The letter case of the identifiers in the envelopes of the clients: what two runs of the
server have in common when their commands differ in it only. -/
namespace CluChess

/-! ### The texts of one UUID -/

def SameLetters (s t : String) : Prop :=
  s.toList.map Char.toLower = t.toList.map Char.toLower

instance (s t : String) : Decidable (SameLetters s t) :=
  inferInstanceAs (Decidable (s.toList.map Char.toLower = t.toList.map Char.toLower))

theorem SameLetters.refl (s : String) : SameLetters s s := Eq.refl _

theorem toList_toLower (s : String) : s.toLower.toList = s.toList.map Char.toLower :=
  String.toList_map

theorem SameLetters.toLower {s t : String} (h : SameLetters s t) : s.toLower = t.toLower := by
  apply String.toList_injective
  rw [toList_toLower,toList_toLower,h]

theorem uuidV4Char_toLower {k : ℕ} {c : Char} (h : uuidV4Char k c = true) :
    hexValue c.toLower = hexValue c ∧ (c.toLower = '-' ↔ c = '-') := by
  have hall : (('-' :: "0123456789abcdefABCDEF".toList).all fun c =>
      decide (hexValue c.toLower = hexValue c ∧ (c.toLower = '-' ↔ c = '-'))) = true := by decide
  have hvariant : (['8','9','a','b','A','B'].all isHexDigit) = true := by decide
  have hdigit : isHexDigit '4' = true := by decide
  have hchar : c ∈ '-' :: "0123456789abcdefABCDEF".toList := by
    unfold uuidV4Char at h
    split_ifs at h
    · rw [of_decide_eq_true h]
      exact List.mem_cons_self
    · rw [of_decide_eq_true h]
      exact List.mem_cons_of_mem _ (of_decide_eq_true hdigit)
    · have hc := List.all_eq_true.mp hvariant c (of_decide_eq_true h)
      exact List.mem_cons_of_mem _ (of_decide_eq_true hc)
    · exact List.mem_cons_of_mem _ (of_decide_eq_true h)
  exact of_decide_eq_true (List.all_eq_true.mp hall c hchar)

theorem uuidOf_toLower {s : String} (h : isUuidV4Text s = true) : uuidOf s.toLower = uuidOf s := by
  have hchar : ∀ c ∈ s.toList, hexValue c.toLower = hexValue c ∧ (c.toLower = '-' ↔ c = '-') := by
    intro c hc
    obtain ⟨k,hk⟩ := List.mem_iff_getElem?.mp hc
    exact uuidV4Char_toLower ((isUuidV4Text_iff.mp h).2 k c hk)
  have hfilter : s.toList.filter ((fun c => decide (c ≠ '-')) ∘ Char.toLower) =
      s.toList.filter fun c => decide (c ≠ '-') := by
    apply List.filter_congr
    intro c hc
    rw [Function.comp_apply,decide_eq_decide,Ne,(hchar c hc).2]
  unfold uuidOf
  rw [toList_toLower,List.filter_map,hfilter,List.map_map]
  congr 1
  apply List.map_congr_left
  intro c hc
  exact (hchar c (List.mem_of_mem_filter hc)).1

theorem SameLetters.uuidOf {s t : String} (h : SameLetters s t) (hs : isUuidV4Text s = true)
    (ht : isUuidV4Text t = true) : uuidOf s = uuidOf t :=
  calc CluChess.uuidOf s = CluChess.uuidOf s.toLower := (uuidOf_toLower hs).symm
    _ = CluChess.uuidOf t.toLower := by rw [h.toLower]
    _ = CluChess.uuidOf t := uuidOf_toLower ht

/-! ### Commands that differ in the letter case of their identifiers -/

inductive ClientCommand.Respelled : ClientCommand → ClientCommand → Prop
  | queueJoin (mode : MatchMode) : Respelled (.queueJoin mode) (.queueJoin mode)
  | queueLeave (mode : MatchMode) : Respelled (.queueLeave mode) (.queueLeave mode)
  | gameReady {a b : String} (gameVersion : ℕ) (h : SameLetters a b) :
      Respelled (.gameReady a gameVersion) (.gameReady b gameVersion)
  | moveSubmit {m m' a b : String} (gameVersion : ℕ) (move : MoveInput) (hm : SameLetters m m')
      (h : SameLetters a b) :
      Respelled (.moveSubmit m a gameVersion move) (.moveSubmit m' b gameVersion move)
  | gameResign {a b : String} (gameVersion : ℕ) (h : SameLetters a b) :
      Respelled (.gameResign a gameVersion) (.gameResign b gameVersion)
  | gameSync {a b : String} (gameVersion : Option ℕ) (h : SameLetters a b) :
      Respelled (.gameSync (some a) gameVersion) (.gameSync (some b) gameVersion)
  | syncActiveGame (gameVersion : Option ℕ) :
      Respelled (.gameSync none gameVersion) (.gameSync none gameVersion)
  | heartbeatPing (gameVersion : Option ℕ) :
      Respelled (.heartbeatPing gameVersion) (.heartbeatPing gameVersion)

structure ClientEventEnvelope.Respelled (e e' : ClientEventEnvelope) : Prop where
  correlationId : Option.Rel SameLetters e.correlationId e'.correlationId
  eventId : SameLetters e.eventId e'.eventId
  timestamp : e.timestamp = e'.timestamp
  command : e.command.Respelled e'.command

/-- Two accepted commands that differ in the letter case of their identifiers at most, or twice the
same of anything else. -/
inductive ServerInput.Respelled {σ : Type} : ServerInput σ → ServerInput σ → Prop
  | command (socket : SocketId) (identity : SocketIdentity) (moment : Moment)
      {e e' : ClientEventEnvelope} (h : e.Respelled e') (hs : clientEnvelopeSchema e = true)
      (hs' : clientEnvelopeSchema e' = true) :
      Respelled (.command socket identity e moment) (.command socket identity e' moment)
  | other (act : Server σ → List Emission × Server σ) : Respelled (.other act) (.other act)

/-! ### What the server does with the text of an identifier -/

def Db.admitsGuest (db : Db) (gameId : GameId) (guestSessionId : GuestSessionId) : Bool :=
  (db.authorize gameId guestSessionId).isOk

/-- The move is one of a player, under an identifier that is new in the game, and it passes the
checks before the writes. -/
def Db.admitsMove (chess : ChessEngine) (db : Db) (input : SubmitMove) (observation : Micros) :
    Bool :=
  match db.games.find input.gameId with
  | none => false
  | some game =>
    match game.playerFor input.guestSessionId with
    | none => false
    | some player => (game.command input.clientMoveId).isNone &&
        (admitMove chess game player input (truncatedToMillis observation)).isOk

/-- The identifier that the server goes on to use as it is spelled: a game that the guest is to be
served, or a move that is to be recorded. -/
def usedText (chess : ChessEngine) (db : Db) (guestSessionId : GuestSessionId) (moment : Moment) :
    ClientCommand → Option String
  | .gameReady gameId _ | .gameSync (some gameId) _ =>
    if db.admitsGuest (uuidOf gameId) guestSessionId then some gameId else none
  | .moveSubmit clientMoveId gameId gameVersion move =>
    let input : SubmitMove := ⟨uuidOf clientMoveId,gameVersion,uuidOf gameId,guestSessionId,move⟩
    if db.admitsMove chess input moment.transactionAt then some clientMoveId else none
  | _ => none

/-- What two commands that pass the limit of the rate make the server use as it is spelled is
spelled alike. -/
def SpelledAlike {σ : Type} (chess : ChessEngine) (services : Services σ) (s : Server σ) :
    ServerInput σ × ServerInput σ → Prop
  | (.command _ identity e moment,.command _ _ e' _) =>
    (services.consume e.command.eventName identity.guestSessionId moment s.rest).1.isOk = true →
      usedText chess s.db identity.guestSessionId moment e.command =
        usedText chess s.db identity.guestSessionId moment e'.command
  | _ => True

theorem SpelledAlike.same {σ : Type} {chess : ChessEngine} {services : Services σ}
    (s : Server σ) (input : ServerInput σ) : SpelledAlike chess services s (input,input) := by
  cases input with
  | command socket identity envelope moment => exact fun _ => Eq.refl _
  | other act => trivial

theorem SpelledAlike.resignation {σ : Type} {chess : ChessEngine} {services : Services σ}
    {e e' : ClientEventEnvelope} {a b : String} {gameVersion gameVersion' : ℕ}
    (h : e.command = .gameResign a gameVersion) (h' : e'.command = .gameResign b gameVersion')
    (s : Server σ) (socket : SocketId) (identity : SocketIdentity) (moment : Moment) :
    SpelledAlike chess services s
      (.command socket identity e moment,.command socket identity e' moment) := by
  intro _
  rw [h,h']
  rfl

section Handlers

variable {σ : Type} {config : AppConfig} {chess : ChessEngine} {services : Services σ}
  {s : Server σ} {guest : GuestSessionId} {socket : SocketId} {moment : Moment} {a b : String}
  {e : GameServiceError}

theorem snapshot_refused {db : Db} {gameId : GameId} (h : db.authorize gameId guest = .error e)
    (observation : Micros) : db.snapshot gameId guest observation = .error e := by
  unfold Db.authorize Db.findById at h
  unfold Db.snapshot Db.findSnapshot Db.mapSnapshot
  cases hg : db.games.find gameId with
  | none =>
    rw [hg] at h
    cases h
    rfl
  | some g =>
    rw [hg] at h
    cases ha : mapAllocation g with
    | error e =>
      simp only [ha] at h ⊢
      cases h
      rfl
    | ok allocation =>
      simp only [ha] at h ⊢
      have h' : (if guest ∉ allocation.guests then Except.error (gameServiceError .notAPlayer
          "The authenticated guest is not a member of this game." false) else
          Except.ok allocation) = Except.error e := h
      split_ifs at h' with hguest
      cases h'
      show (if guest ∉ allocation.guests then _ else _) = _
      rw [if_pos hguest]

theorem recoverSnapshot_refused (h : s.db.authorize (uuidOf a) guest = .error e) :
    s.recoverSnapshot config a guest moment = (.error (.service e),s) := by
  have hnamed : s.db.namedSnapshot (uuidOf a) guest moment.snapshotAt = .error (.service e) := by
    rw [Db.namedSnapshot,snapshot_refused h]
  have hcached : s.db.cachedSnapshot (s.readSnapshot a guest moment) (uuidOf a) guest =
      .error (.service e) ∨
      s.db.cachedSnapshot (s.readSnapshot a guest moment) (uuidOf a) guest = .ok none := by
    unfold Db.cachedSnapshot
    split
    · exact Or.inr rfl
    · split_ifs
      · rw [h]
        exact Or.inl rfl
      · exact Or.inr rfl
  unfold Server.recoverSnapshot
  rcases hcached with hcached | hcached
  · simp only [hcached]
  · simp only [hcached,hnamed]

/-- Once a guest who is a player of the game spells its identifier alike, two spellings of the
identifier make no difference. -/
theorem readyGame_respelled (hid : uuidOf a = uuidOf b)
    (hused : s.db.admitsGuest (uuidOf a) guest = true → a = b) (gameVersion : ℕ) :
    s.readyGame socket guest a gameVersion moment =
      s.readyGame socket guest b gameVersion moment := by
  cases ha : s.db.authorize (uuidOf a) guest with
  | ok allocation =>
    rw [hused (by rw [Db.admitsGuest,ha]; rfl)]
  | error e =>
    unfold Server.readyGame
    rw [← hid,ha]

theorem syncGame_respelled (hid : uuidOf a = uuidOf b)
    (hused : s.db.admitsGuest (uuidOf a) guest = true → a = b) :
    s.syncGame config socket guest a moment = s.syncGame config socket guest b moment := by
  cases ha : s.db.authorize (uuidOf a) guest with
  | ok allocation =>
    rw [hused (by rw [Db.admitsGuest,ha]; rfl)]
  | error e =>
    have hb : s.db.authorize (uuidOf b) guest = .error e := by rw [← hid,ha]
    unfold Server.syncGame
    rw [recoverSnapshot_refused ha,recoverSnapshot_refused hb]

theorem submitOrRecover_admits {db : Db} {input : SubmitMove} {observation : Micros}
    {submission : MoveSubmission}
    (h : (Server.submitOrRecover chess db input observation).1 = .ok submission)
    (hfresh : submission.duplicate = false) : db.admitsMove chess input observation = true := by
  have hsubmitted : (db.submitMove chess input observation).1 = .ok submission := by
    unfold Server.submitOrRecover at h
    split at h
    · rw [recoverMove_duplicate h] at hfresh
      cases hfresh
    · exact h
  have hanswer : (execute chess db (.submitMove input observation)).1 =
      .move (.ok submission) := by
    show Answer.move (db.submitMove chess input observation).1 = _
    rw [hsubmitted]
  cases execute_outcome chess db (.submitMove input observation) with
  | session hop _ _ => cases hop
  | allocated hop _ _ _ => cases hop
  | kept _ hr =>
    rw [hanswer] at hr
    cases hr with
    | rejected hrejected => cases hrejected
    | move _ _ _ hreplay =>
      rw [replayResult_duplicate hreplay] at hfresh
      cases hfresh
  | wrote hid hw hwrites =>
    cases hid
    rw [hanswer] at hwrites
    cases hwrites with
    | submitMove hg _ ho hm =>
      have hadmitted := hm.admitted
      rw [ho] at hadmitted
      unfold Db.admitsMove
      rw [hw.found,← hg]
      simp only [hm.player,hm.fresh,hadmitted]
      rfl

theorem submitMove_respelled {m m' : String} (hid : uuidOf a = uuidOf b)
    (hmove : uuidOf m = uuidOf m') {gameVersion : ℕ} {move : MoveInput}
    (hused : s.db.admitsMove chess ⟨uuidOf m,gameVersion,uuidOf a,guest,move⟩
      moment.transactionAt = true → m = m') :
    s.submitMove config chess socket guest m a gameVersion move moment =
      s.submitMove config chess socket guest m' b gameVersion move moment := by
  unfold Server.submitMove
  rw [← hid,← hmove]
  cases hanswer : (Server.submitOrRecover chess s.db
      ⟨uuidOf m,gameVersion,uuidOf a,guest,move⟩ moment.transactionAt).1 with
  | error e => simp only [hanswer]
  | ok submission =>
    cases hd : submission.duplicate with
    | false => rw [hused (submitOrRecover_admits hanswer hd)]
    | true =>
      -- a replayed submission stores no text and announces nothing
      have hmessages : Server.submissionMessages submission moment.stamps = [] := by
        unfold Server.submissionMessages
        rw [if_pos hd]
      have hstore : ∀ (s : Server σ) (text : String), s.storeMoveText submission text = s := by
        intro s text
        unfold Server.storeMoveText
        rw [if_pos hd]
      simp only [hanswer,hmessages,hstore,Server.publish]

theorem resignGame_respelled {eventId eventId' : String} (hid : uuidOf a = uuidOf b)
    (hevent : uuidOf eventId = uuidOf eventId') (gameVersion : ℕ) :
    s.resignGame config socket guest eventId a gameVersion moment =
      s.resignGame config socket guest eventId' b gameVersion moment := by
  unfold Server.resignGame
  rw [hid,hevent]

theorem commandSchema_uuids {e : ClientEventEnvelope} (h : clientEnvelopeSchema e = true) :
    e.correlationId.all isUuidV4Text = true ∧ isUuidV4Text e.eventId = true ∧
      clientCommandSchema e.command = true := by
  simp only [clientEnvelopeSchema,Bool.and_eq_true] at h
  exact ⟨h.1.1.1,h.1.1.2,h.2⟩

/-- Two spellings of a command are handled alike, when what is used as it is spelled agrees. -/
theorem executeEvent_respelled {identity : SocketIdentity} {e e' : ClientEventEnvelope}
    (h : e.Respelled e') (hs : clientEnvelopeSchema e = true)
    (hs' : clientEnvelopeSchema e' = true)
    (hused : usedText chess s.db identity.guestSessionId moment e.command =
      usedText chess s.db identity.guestSessionId moment e'.command) :
    s.executeEvent config chess services socket identity e moment =
      s.executeEvent config chess services socket identity e' moment := by
  obtain ⟨_,hevent,hcommand⟩ := commandSchema_uuids hs
  obtain ⟨_,hevent',hcommand'⟩ := commandSchema_uuids hs'
  have heventId := h.eventId.uuidOf hevent hevent'
  obtain ⟨correlationId,eventId,timestamp,command⟩ := e
  obtain ⟨correlationId',eventId',timestamp',command'⟩ := e'
  have hrespelled := h.command
  simp only at hrespelled hcommand hcommand' heventId hused
  cases hrespelled with
  | queueJoin mode => rfl
  | queueLeave mode => rfl
  | heartbeatPing gameVersion => rfl
  | syncActiveGame gameVersion => rfl
  | @gameReady a b gameVersion hsame =>
    simp only [clientCommandSchema,Bool.and_eq_true] at hcommand hcommand'
    have hid := hsame.uuidOf hcommand.1 hcommand'.1
    apply readyGame_respelled hid
    intro hadmits
    simpa [usedText,hadmits,← hid] using hused
  | @gameSync a b gameVersion hsame =>
    simp only [clientCommandSchema,Bool.and_eq_true,Option.all_some] at hcommand hcommand'
    have hid := hsame.uuidOf hcommand.1 hcommand'.1
    apply syncGame_respelled hid
    intro hadmits
    have hadmits' : s.db.admitsGuest (uuidOf a) identity.guestSessionId = true := hadmits
    simpa [usedText,hadmits',← hid] using hused
  | @moveSubmit m m' a b gameVersion move hm hsame =>
    simp only [clientCommandSchema,Bool.and_eq_true] at hcommand hcommand'
    have hid := hsame.uuidOf hcommand.1.1.1.2 hcommand'.1.1.1.2
    have hmove := hm.uuidOf hcommand.1.1.1.1 hcommand'.1.1.1.1
    apply submitMove_respelled hid hmove
    intro hadmits
    simpa [usedText,hadmits,← hid,← hmove] using hused
  | @gameResign a b gameVersion hsame =>
    simp only [clientCommandSchema,Bool.and_eq_true] at hcommand hcommand'
    exact resignGame_respelled (hsame.uuidOf hcommand.1 hcommand'.1) heventId gameVersion

end Handlers

/-! ### Two runs -/

structure Ack.Same (a b : Ack) : Prop where
  requestEventId : SameLetters a.requestEventId b.requestEventId
  correlationId : a.correlationId = b.correlationId
  outcome : a.outcome = b.outcome

abbrev ServerEvent (σ : Type) := Machine.Event (Server σ) (ServerInput σ) Reply

/-- Two steps of the server have the same outcome, send the same messages to the same sockets, and
leave the same durable state and the same timers. -/
structure ServerEvent.Agrees {σ : Type} (e f : ServerEvent σ) : Prop where
  acks : Option.Rel Ack.Same e.answer.ack f.answer.ack
  emissions : e.answer.emissions = f.answer.emissions
  db : e.after.db = f.after.db
  moveTexts : e.after.moveTexts = f.after.moveTexts
  timers : e.after.timers = f.after.timers

section Runs

variable {σ : Type} {config : AppConfig} {chess : ChessEngine} {services : Services σ}

theorem correlation_respelled {e e' : ClientEventEnvelope} (h : e.Respelled e')
    (hs : clientEnvelopeSchema e = true) (hs' : clientEnvelopeSchema e' = true) (moment : Moment) :
    e.correlation moment = e'.correlation moment := by
  have hid := (commandSchema_uuids hs).1
  have hid' := (commandSchema_uuids hs').1
  unfold ClientEventEnvelope.correlation
  cases hc : e.correlationId with
  | none =>
    cases hc' : e'.correlationId with
    | none => rfl
    | some id' =>
      have hsame := h.correlationId
      rw [hc,hc'] at hsame
      cases hsame
  | some id =>
    cases hc' : e'.correlationId with
    | none =>
      have hsame := h.correlationId
      rw [hc,hc'] at hsame
      cases hsame
    | some id' =>
      have hsame := h.correlationId
      rw [hc,hc'] at hsame
      rw [hc,Option.all_some] at hid
      rw [hc',Option.all_some] at hid'
      simp only [hid,hid',if_true]
      cases hsame with
      | some hletters => exact hletters.toLower

theorem ClientCommand.Respelled.eventName {c c' : ClientCommand} (h : c.Respelled c') :
    c.eventName = c'.eventName := by
  cases h <;> rfl

theorem acknowledge_respelled {e e' : ClientEventEnvelope} (h : e.Respelled e')
    (hs : clientEnvelopeSchema e = true) (hs' : clientEnvelopeSchema e' = true) (moment : Moment)
    (result : Except RealtimeFailure RealtimeCommandResult) :
    (acknowledge e moment result).Same (acknowledge e' moment result) := by
  have hcorrelation := correlation_respelled h hs hs' moment
  have hfailure : e.requestEventId moment = e'.requestEventId moment := by
    unfold ClientEventEnvelope.requestEventId
    rw [if_pos (commandSchema_uuids hs).2.1,if_pos (commandSchema_uuids hs').2.1]
    exact h.eventId.toLower
  unfold acknowledge
  cases result with
  | error failure => exact ⟨by rw [hfailure]; rfl,hcorrelation,rfl⟩
  | ok result =>
    simp only
    split_ifs
    · exact ⟨h.eventId,hcorrelation,rfl⟩
    · exact ⟨by rw [hfailure]; rfl,hcorrelation,rfl⟩

/-- One step: commands that are spelled alike where it matters have the same effect. -/
theorem step_respelled {s : Server σ} {p : ServerInput σ × ServerInput σ}
    (h : p.1.Respelled p.2) (halike : SpelledAlike chess services s p) :
    (realtime config chess services).next s p.1 = (realtime config chess services).next s p.2 ∧
      ServerEvent.Agrees ((realtime config chess services).event s p.1)
        ((realtime config chess services).event s p.2) := by
  have hsuffices : ∀ {x y : ServerInput σ},
      (Option.Rel Ack.Same ((realtime config chess services).step s x).1.ack
        ((realtime config chess services).step s y).1.ack ∧
      ((realtime config chess services).step s x).1.emissions =
        ((realtime config chess services).step s y).1.emissions ∧
      ((realtime config chess services).step s x).2 =
        ((realtime config chess services).step s y).2) →
      (realtime config chess services).next s x = (realtime config chess services).next s y ∧
        ServerEvent.Agrees ((realtime config chess services).event s x)
          ((realtime config chess services).event s y) := by
    rintro x y ⟨hack,hemissions,hnext⟩
    have hafter : (realtime config chess services).next s x =
        (realtime config chess services).next s y := hnext
    refine ⟨hafter,hack,hemissions,?_,?_,?_⟩
    · exact congrArg Server.db hafter
    · exact congrArg Server.moveTexts hafter
    · exact congrArg Server.timers hafter
  obtain ⟨x,y⟩ := p
  cases h with
  | other act => exact hsuffices ⟨.none,rfl,rfl⟩
  | @command socket identity moment e e' hrespelled hs hs' =>
    apply hsuffices
    have hname := hrespelled.command.eventName
    have hreject : ¬ clientEnvelopeSchema e = false := by simp [hs]
    have hreject' : ¬ clientEnvelopeSchema e' = false := by simp [hs']
    have hack := acknowledge_respelled hrespelled hs hs' moment
    simp only [realtime,Server.handleIncoming,if_neg hreject,if_neg hreject']
    simp only [SpelledAlike] at halike
    rw [← hname]
    cases hconsumed : (services.consume e.command.eventName identity.guestSessionId moment
        s.rest).1 with
    | error failure => exact ⟨.some (hack _),rfl,rfl⟩
    | ok u =>
      have hused := halike (by rw [hconsumed]; rfl)
      obtain ⟨consumed,hs₁⟩ : ∃ consumed : Server σ, consumed = { s with
          rest := (services.consume e.command.eventName identity.guestSessionId moment
            s.rest).2 } := ⟨_,rfl⟩
      have hhandled : consumed.executeEvent config chess services socket identity e moment =
          consumed.executeEvent config chess services socket identity e' moment :=
        executeEvent_respelled hrespelled hs hs' (by rw [hs₁]; exact hused)
      simp only [← hs₁]
      rw [hhandled]
      exact ⟨.some (hack _),rfl,rfl⟩

def LetterCaseIrrelevant (config : AppConfig) (chess : ChessEngine) (services : Services σ) :
    Prop :=
  ∀ (start : Server σ) (ps : List (ServerInput σ × ServerInput σ)),
    (∀ p ∈ ps, p.1.Respelled p.2) →
      List.Forall₂ ServerEvent.Agrees
        ((realtime config chess services).events start (ps.map Prod.fst))
        ((realtime config chess services).events start (ps.map Prod.snd))

/-- Two runs whose commands differ in the letter case of their identifiers agree in every step and
in every state, if a game that the guest is to be served and a move that is to be recorded are
spelled alike. -/
theorem respelled_runs_agree {start : Server σ} {ps : List (ServerInput σ × ServerInput σ)}
    (hrespelled : ∀ p ∈ ps, p.1.Respelled p.2)
    (halike : ∀ e ∈ (realtime config chess services).pair.events (start,start) ps,
      SpelledAlike chess services e.before.1 e.input) :
    (realtime config chess services).run start (ps.map Prod.fst) =
        (realtime config chess services).run start (ps.map Prod.snd) ∧
      List.Forall₂ ServerEvent.Agrees
        ((realtime config chess services).events start (ps.map Prod.fst))
        ((realtime config chess services).events start (ps.map Prod.snd)) := by
  apply (realtime config chess services).pair_together (C := fun s p =>
    p.1.Respelled p.2 ∧ SpelledAlike chess services s p)
  · rintro s p ⟨h,hspelled⟩
    exact step_respelled h hspelled
  · intro e he
    obtain ⟨pre,post,hsplit,_⟩ := Machine.mem_events_split _ he
    have hmem : e.input ∈ ps := by
      rw [hsplit]
      exact List.mem_append_right _ List.mem_cons_self
    exact ⟨hrespelled _ hmem,halike e he⟩

def messagesTo (socket : SocketId) (history : List (ServerEvent σ)) : List ServerEventEnvelope :=
  (history.flatMap fun e => e.answer.emissions.filter fun m => m.received socket).map
    Emission.event

theorem messagesTo_agrees {history history' : List (ServerEvent σ)}
    (h : List.Forall₂ ServerEvent.Agrees history history') (socket : SocketId) :
    messagesTo socket history = messagesTo socket history' := by
  unfold messagesTo
  congr 1
  induction h with
  | nil => rfl
  | cons hagrees _ ih => rw [List.flatMap_cons,List.flatMap_cons,hagrees.emissions,ih]

end Runs

section Sample

def sampleServices : Services Unit where
  consume _ _ _ u := (.ok (),u)
  refresh _ _ _ r := r
  heartbeat _ _ _ s := s.failed (.serviceUnavailable none)
  joinQueue _ _ _ s := s.failed (.serviceUnavailable none)
  leaveQueue _ _ _ s := s.failed (.serviceUnavailable none)

def samplePlayerIdentity (n : ℕ) : SocketIdentity := ⟨sampleId n,⟨"fox","Quiet Fox"⟩,9000000⟩

/-- A game that waits for its players, whose sockets are in the rooms of the guests, at one
instance. -/
def sampleServer : Server Unit where
  db := sampleRun [.allocate sampleAllocation]
  moveTexts _ := none
  redis := .initial 0
  snapshots _ := none
  graces _ := none
  generations _ := none
  timers _ := none
  rooms socket room := decide ((socket,room) ∈
    [("white",guestRoom (sampleId 1)),("black",guestRoom (sampleId 2))])
  cleanups _ := false
  instances := ⟨fun _ => 0,fun _ => .ready⟩
  rest := ()

def sampleCalls : ServiceCalls where
  ready := true
  consume := .answered
  presence := .answered
  connections := .answered
  eligibility := .answered
  enqueue := .answered
  leave := .answered
  attempt := {
    matchId := sampleId 63
    gameId := sampleId 64
    firstGuestIsWhite := true
    tryMatch := .answered
    allocate := .answered
    finalize := ⟨.answered,.answered⟩
    existing := .answered
    a := .answered
    b := .answered
    recovered := ⟨.answered,.answered⟩
    rollback := .answered }

def sampleMoment (now : Millis) : Moment where
  now := now
  transactionAt := 1000*now
  startAt := 1000*now + 1
  snapshotAt := 1000*now + 2
  correlationId := uuidText (sampleId 50)
  requestEventId := uuidText (sampleId 51)
  redisAvailable := true
  stamps := ⟨⟨sampleId 60,now⟩,⟨sampleId 61,now⟩,⟨sampleId 62,now⟩⟩
  calls := sampleCalls

def sampleReport (eventId gameId : String) : ClientEventEnvelope :=
  ⟨none,eventId,1000,.gameReady gameId 0⟩

def sampleResignation (gameId : String) : ClientEventEnvelope :=
  ⟨none,uuidText (sampleId 72),2000,.gameResign gameId 0⟩

def sampleCommand (n : ℕ) (envelope : ClientEventEnvelope) (now : Millis) : ServerInput Unit :=
  .command (if n = 1 then "white" else "black") (samplePlayerIdentity n) envelope (sampleMoment now)

def sampleUpperId : String := String.ofList ((uuidText (sampleId 10)).toList.map Char.toUpper)

/-- Both players report ready; in one run white sends the identifier of the game in upper case. -/
def sampleReadies : List (ServerInput Unit × ServerInput Unit) :=
  [(sampleCommand 1 (sampleReport (uuidText (sampleId 70)) (uuidText (sampleId 10))) 1000,
    sampleCommand 1 (sampleReport (uuidText (sampleId 70)) sampleUpperId) 1000),
   (sampleCommand 2 (sampleReport (uuidText (sampleId 71)) (uuidText (sampleId 10))) 2000,
    sampleCommand 2 (sampleReport (uuidText (sampleId 71)) (uuidText (sampleId 10))) 2000)]

theorem sampleReport_respelled (n eventId : ℕ) (now : Millis) {a b : String}
    (h : SameLetters a b) (he : isUuidV4 (sampleId eventId) = true) (ha : isUuidV4Text a = true)
    (hb : isUuidV4Text b = true) :
    (sampleCommand n (sampleReport (uuidText (sampleId eventId)) a) now).Respelled
      (sampleCommand n (sampleReport (uuidText (sampleId eventId)) b) now) := by
  have hevent := isUuidV4Text_uuidText he
  refine .command _ _ _ ⟨.none,.refl _,rfl,.gameReady 0 h⟩ ?_ ?_
  · simp only [clientEnvelopeSchema,sampleReport,clientCommandSchema,hevent,ha]
    decide
  · simp only [clientEnvelopeSchema,sampleReport,clientCommandSchema,hevent,hb]
    decide

theorem sampleReadies_respelled : ∀ p ∈ sampleReadies, p.1.Respelled p.2 := by
  have hgame : isUuidV4Text (uuidText (sampleId 10)) = true := isUuidV4Text_uuidText (by decide)
  intro p hp
  simp only [sampleReadies,List.mem_cons,List.not_mem_nil,or_false] at hp
  rcases hp with rfl | rfl
  · exact sampleReport_respelled 1 70 1000 (by decide +kernel) (by decide) hgame (by decide +kernel)
  · exact sampleReport_respelled 2 71 2000 (.refl _) (by decide) hgame hgame

/-- A player who reports ready with the identifier of the game in upper case does not hear that the
game has started. -/
theorem upper_case_misses_start :
    (∀ p ∈ sampleReadies, p.1.Respelled p.2) ∧
      ((messagesTo "white" ((realtime sampleConfig sampleEngine sampleServices).events sampleServer
        (sampleReadies.map Prod.fst))).length = 1 ∧
      (messagesTo "white" ((realtime sampleConfig sampleEngine sampleServices).events sampleServer
        (sampleReadies.map Prod.snd))).length = 0) ∧
      ¬ LetterCaseIrrelevant sampleConfig sampleEngine sampleServices := by
  have hlengths : (messagesTo "white" ((realtime sampleConfig sampleEngine sampleServices).events
      sampleServer (sampleReadies.map Prod.fst))).length = 1 ∧
      (messagesTo "white" ((realtime sampleConfig sampleEngine sampleServices).events sampleServer
        (sampleReadies.map Prod.snd))).length = 0 := by decide +kernel
  refine ⟨sampleReadies_respelled,hlengths,fun h => ?_⟩
  have hsame := messagesTo_agrees (h sampleServer sampleReadies sampleReadies_respelled) "white"
  rw [hsame,hlengths.2] at hlengths
  cases hlengths.1

/-- White reports ready and resigns; in the second run the identifier of the resigned game is in
upper case. -/
def sampleResignations : List (ServerInput Unit × ServerInput Unit) :=
  [(sampleCommand 1 (sampleReport (uuidText (sampleId 70)) (uuidText (sampleId 10))) 1000,
    sampleCommand 1 (sampleReport (uuidText (sampleId 70)) (uuidText (sampleId 10))) 1000),
   (sampleCommand 1 (sampleResignation (uuidText (sampleId 10))) 2000,
    sampleCommand 1 (sampleResignation sampleUpperId) 2000)]

theorem sampleResignation_respelled (n : ℕ) (now : Millis) {a b : String} (h : SameLetters a b)
    (ha : isUuidV4Text a = true) (hb : isUuidV4Text b = true) :
    (sampleCommand n (sampleResignation a) now).Respelled
      (sampleCommand n (sampleResignation b) now) := by
  have hevent : isUuidV4Text (uuidText (sampleId 72)) = true := isUuidV4Text_uuidText (by decide)
  refine .command _ _ _ ⟨.none,.refl _,rfl,.gameResign 0 h⟩ ?_ ?_
  · simp only [clientEnvelopeSchema,sampleResignation,clientCommandSchema,hevent,ha]
    decide
  · simp only [clientEnvelopeSchema,sampleResignation,clientCommandSchema,hevent,hb]
    decide

theorem sampleResignations_respelled : ∀ p ∈ sampleResignations, p.1.Respelled p.2 := by
  have hgame : isUuidV4Text (uuidText (sampleId 10)) = true := isUuidV4Text_uuidText (by decide)
  intro p hp
  simp only [sampleResignations,List.mem_cons,List.not_mem_nil,or_false] at hp
  rcases hp with rfl | rfl
  · exact sampleReport_respelled 1 70 1000 (.refl _) (by decide) hgame hgame
  · exact sampleResignation_respelled 1 2000 (by decide +kernel) hgame (by decide +kernel)

theorem respelled_runs_agree_sample :
    (realtime sampleConfig sampleEngine sampleServices).run sampleServer
        (sampleResignations.map Prod.fst) =
      (realtime sampleConfig sampleEngine sampleServices).run sampleServer
        (sampleResignations.map Prod.snd) ∧
    List.Forall₂ ServerEvent.Agrees
      ((realtime sampleConfig sampleEngine sampleServices).events sampleServer
        (sampleResignations.map Prod.fst))
      ((realtime sampleConfig sampleEngine sampleServices).events sampleServer
        (sampleResignations.map Prod.snd)) := by
  refine respelled_runs_agree sampleResignations_respelled fun e he => ?_
  obtain ⟨pre,post,hsplit,_⟩ := Machine.mem_events_split _ he
  have hmem : e.input ∈ sampleResignations := by
    rw [hsplit]
    exact List.mem_append_right _ List.mem_cons_self
  simp only [sampleResignations,List.mem_cons,List.not_mem_nil,or_false] at hmem
  rcases hmem with hinput | hinput
  · rw [hinput]
    exact .same _ _
  · rw [hinput]
    exact .resignation rfl rfl _ _ _ _

end Sample

end CluChess
