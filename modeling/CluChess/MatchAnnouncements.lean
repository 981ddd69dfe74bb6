import CluChess.ActiveGameKeys
import CluChess.ShownGames

/-! What `matchmaking-realtime.service.ts` tells the guests about the queue and about their matches.
A job collects the effects of the tasks it waits for and tells them to the guests when it ends. The
match of a game may be found by the process that allocated it, by one that recovered it or by the
reconciliation, and its game may have gone on meanwhile. -/
namespace CluChess

inductive QueueExitReason
  | disconnected | matched | requested | stale | timeout
  deriving DecidableEq, Repr

def RemovalReason.exit : RemovalReason → QueueExitReason
  | .disconnected => .disconnected
  | .stale => .stale
  | .timeout => .timeout

structure MatchFoundPayload where
  color : WireColor
  joinDeadline : Millis
  opponent : Identity
  incrementMs : ℤ
  initialMs : ℤ
  deriving DecidableEq, Repr

def matchFoundPayloadSchema (payload : MatchFoundPayload) : Bool :=
  isNonnegativeInt payload.joinDeadline && identitySchema payload.opponent &&
    isNonnegativeInt payload.incrementMs && isNonnegativeInt payload.initialMs

/-- The events `queue.left`, `queue.joined` and `match.found`, without their stamps. -/
inductive QueueMessage
  | queueLeft (reason : QueueExitReason)
  | queueJoined (since : Millis)
  | matchFound (gameId : GameId) (gameVersion : ℕ) (payload : MatchFoundPayload)
  deriving DecidableEq, Repr

def QueueMessage.schema : QueueMessage → Bool
  | .queueLeft _ => true
  | .queueJoined since => isNonnegativeInt since
  | .matchFound gameId gameVersion payload =>
    isUuidV4 gameId && isNonnegativeInt gameVersion && matchFoundPayloadSchema payload

structure Notice where
  guestSessionId : GuestSessionId
  message : QueueMessage
  deriving DecidableEq, Repr

def createNotice (guestSessionId : GuestSessionId) (message : QueueMessage) : Option Notice :=
  if message.schema then some ⟨guestSessionId,message⟩ else none

theorem createNotice_eq {guestSessionId : GuestSessionId} {message : QueueMessage}
    (h : message.schema = true) :
    createNotice guestSessionId message = some ⟨guestSessionId,message⟩ := if_pos h

/-- `publishMatchFound`. The avatars and the names come with the players of the allocation; those
of a player never change (`execute_identity`). -/
def publishMatchFound (cards : GuestSessionId → Option Identity) (allocation : GameAllocation)
    (player opponent : GamePlayerRecord) : Option (List Notice) := do
  let deadline ← allocation.game.joinDeadlineAt
  let card ← cards opponent.guestSessionId
  let queueLeft ← createNotice player.guestSessionId (.queueLeft .matched)
  let matchFound ← createNotice player.guestSessionId
    (.matchFound allocation.game.id allocation.game.version {
      color := wireColor player.color
      joinDeadline := deadline
      opponent := card
      incrementMs := allocation.game.incrementMs
      initialMs := allocation.game.timeInitialMs })
  some [queueLeft,matchFound]

def publishEffects (cards : GuestSessionId → Option Identity) (effects : MatchmakingEffects) :
    List (Option (List Notice)) :=
  (effects.removed.map fun removed =>
    (createNotice removed.guestSessionId (.queueLeft removed.reason.exit)).map ([·])) ++
  (effects.requeued.map fun requeued =>
    (createNotice requeued.guestSessionId (.queueJoined requeued.since)).map ([·])) ++
  effects.allocations.flatMap fun allocation =>
    [publishMatchFound cards allocation allocation.players.1 allocation.players.2,
      publishMatchFound cards allocation allocation.players.2 allocation.players.1]

/-- An error ends the method. What was sent before it stays sent. -/
def sendAll : List (Option (List Notice)) → List Notice
  | [] => []
  | none :: _ => []
  | some notices :: rest => notices ++ sendAll rest

def MatchmakingEffects.empty : MatchmakingEffects := ⟨[],[],[]⟩

def MatchmakingEffects.merge (target source : MatchmakingEffects) : MatchmakingEffects where
  allocations := target.allocations ++ source.allocations
  removed := target.removed ++ source.removed
  requeued := target.requeued ++ source.requeued

/-- The stores, what each join, drain, sweep and reconciliation has collected so far, and what the
guests were sent. -/
structure AnnouncedStores where
  stores : Stores
  collected : ℕ → MatchmakingEffects
  sent : List Notice

namespace AnnouncedStores

def withStores (s : AnnouncedStores) (stores : Stores) : AnnouncedStores :=
  { s with stores := stores }

def collect (s : AnnouncedStores) (job : ℕ) (effects : MatchmakingEffects) : AnnouncedStores :=
  { s with collected := Function.update s.collected job ((s.collected job).merge effects) }

/-- The job fails. What it has collected is lost. -/
def abandon (s : AnnouncedStores) (job : ℕ) : AnnouncedStores :=
  { s with collected := Function.update s.collected job .empty }

def notices (s : AnnouncedStores) (job : ℕ) : List (Option (List Notice)) :=
  publishEffects s.stores.db.identity (s.collected job)

def publish (s : AnnouncedStores) (job : ℕ) : AnnouncedStores :=
  { s.abandon job with sent := s.sent ++ sendAll (s.notices job) }

end AnnouncedStores

/-- `reservationSchema` has checked the game of the reservation, and the clock was read. -/
def ServiceTask.Timely (config : AppConfig) : ServiceTask → Prop
  | .allocate reservation observedAt => isUuidV4 reservation.gameId = true ∧
      isNonnegativeInt (observedAt + config.joinDeadlineMs) = true
  | _ => True

/-- A session is created with a card that was drawn, and a game is allocated for a reservation. -/
def Operation.Announceable (op : Operation) : Prop :=
  op.Drawn ∧ ∀ input, op = .allocate input →
    isUuidV4 input.gameId = true ∧ isNonnegativeInt input.joinDeadlineAt = true

/-- The steps of the tasks, whose effects a job may collect. `rollbackResponseSchema` has checked
the times of the guests that were put back. -/
inductive AnnouncedStep (chess : ChessEngine) (config : AppConfig) :
    ServiceTask → AnnouncedStores → AnnouncedStores → Multiset ServiceTask → Prop
  | task {t : ServiceTask} {s : AnnouncedStores} {stores : Stores} {new : Multiset ServiceTask}
      (h : t.Step chess config s.stores stores new) :
      AnnouncedStep chess config t s (s.withStores stores) new
  | processed {s : AnnouncedStores} {reservation : MatchReservation} {effects : MatchmakingEffects}
      {job : ℕ} (h : ∀ requeued ∈ effects.requeued, isNonnegativeInt requeued.since = true) :
      AnnouncedStep chess config (.processed reservation effects) s (s.collect job effects) 0
  | repairedActive {s : AnnouncedStores} {allocation : GameAllocation}
      {active : List GameAllocation} {redis : Redis} {job : ℕ}
      (h : ServiceTask.repairAllocation config s.stores.redis allocation = (.ok true,redis)) :
      AnnouncedStep chess config (.repairActive (allocation :: active)) s
        ((s.withStores { s.stores with redis := redis }).collect job ⟨[allocation],[],[]⟩)
        {.repairActive active}

/-- What happens besides. `removed` are the guests that an attempt or a sweep has removed, and
`left` is the message of `leaveQueue` and of `finallyDisconnected`. -/
inductive AnnouncedEvent (chess : ChessEngine) (config : AppConfig) :
    AnnouncedStores → AnnouncedStores → Multiset ServiceTask → Prop
  | operation {s : AnnouncedStores} {op : Operation} (hop : op.Announceable) :
      AnnouncedEvent chess config s
        (s.withStores { s.stores with db := (execute chess s.stores.db op).2 })
        (afterTerminal (execute chess s.stores.db op).1)
  | service {s : AnnouncedStores} {stores : Stores} {new : Multiset ServiceTask}
      (h : ServiceEvent chess config s.stores stores new) (hdb : stores.db = s.stores.db)
      (hnew : ∀ t ∈ new, t.Timely config) :
      AnnouncedEvent chess config s (s.withStores stores) new
  | removed {s : AnnouncedStores} {job : ℕ} {removed : List RemovedQueueGuest} :
      AnnouncedEvent chess config s (s.collect job ⟨[],removed,[]⟩) 0
  | left {s : AnnouncedStores} {guest : GuestSessionId} {reason : QueueExitReason} :
      AnnouncedEvent chess config s { s with sent := s.sent ++ [⟨guest,.queueLeft reason⟩] } 0
  | published {s : AnnouncedStores} {job : ℕ} : AnnouncedEvent chess config s (s.publish job) 0
  | failed {s : AnnouncedStores} {job : ℕ} : AnnouncedEvent chess config s (s.abandon job) 0

def announcements (chess : ChessEngine) (config : AppConfig) :
    System AnnouncedStores ServiceTask where
  env := AnnouncedEvent chess config
  step := AnnouncedStep chess config

/-- The message is true of the row of the game and of the cards of its players. -/
structure MatchFoundPayload.TrueOf (payload : MatchFoundPayload) (db : Db) (g : PersistedGame)
    (guest : GuestSessionId) : Prop where
  deadline : g.joinDeadlineAt = some payload.joinDeadline
  increment : g.incrementMs = payload.incrementMs
  initial : g.timeInitialMs = payload.initialMs
  players : ∃ player ∈ g.players, ∃ opponent ∈ g.players, player.guestSessionId = guest ∧
    opponent.guestSessionId ≠ guest ∧ wireColor player.color = payload.color ∧
    opponent.color ≠ player.color ∧ db.identity opponent.guestSessionId = some payload.opponent

def Notice.TrueOf (notice : Notice) (db : Db) : Prop :=
  notice.message.schema = true ∧ ∀ gameId gameVersion payload,
    notice.message = .matchFound gameId gameVersion payload → ∃ g,
      db.games.find gameId = some g ∧ gameVersion ≤ g.version ∧
        payload.TrueOf db g notice.guestSessionId

def GamePlayerRecord.seat (p : GamePlayerRecord) : ℕ × GuestSessionId × PlayerColor :=
  (p.slot,p.guestSessionId,p.color)

/-- What an allocation has read of the row of its game, which may have changed since. -/
structure GameAllocation.Describes (allocation : GameAllocation) (g : PersistedGame) : Prop where
  version : allocation.game.version ≤ g.version
  deadline : allocation.game.joinDeadlineAt = g.joinDeadlineAt
  increment : allocation.game.incrementMs = g.incrementMs
  initial : allocation.game.timeInitialMs = g.timeInitialMs
  seats : [allocation.players.1.seat,allocation.players.2.seat] = g.players.map GamePlayer.seat

def GameAllocation.ReadFrom (allocation : GameAllocation) (db : Db) : Prop :=
  ∃ g, db.games.find allocation.game.id = some g ∧ allocation.Describes g

section Records

variable {chess : ChessEngine} {db db' : Db} {g g' : PersistedGame} {allocation : GameAllocation}

theorem GameChange.terms (h : GameChange chess g g') : g'.joinDeadlineAt = g.joinDeadlineAt ∧
    g'.incrementMs = g.incrementMs ∧ g'.timeInitialMs = g.timeInitialMs := by
  cases h with
  | move hg _ => subst hg; exact ⟨rfl,rfl,rfl⟩
  | _ => exact ⟨rfl,rfl,rfl⟩

theorem GameAllocation.describes (h : mapAllocation g = .ok allocation) :
    allocation.Describes g := by
  obtain ⟨hgame,hplayers⟩ := mapAllocation_eq h
  have hseats : ∀ p r, mapPlayer g.id p = .ok r → GamePlayerRecord.seat r = GamePlayer.seat p := by
    intro p r hr
    rw [mapPlayer_ok hr]
    rfl
  refine ⟨?_,?_,?_,?_,mapPlayers_map hseats hplayers⟩ <;> rw [hgame] <;> rfl

theorem GameAllocation.Describes.change (h : allocation.Describes g) (hc : GameChange chess g g') :
    allocation.Describes g' := by
  obtain ⟨hdeadline,hincrement,hinitial⟩ := hc.terms
  exact ⟨h.version.trans hc.version_le,hdeadline ▸ h.deadline,hincrement ▸ h.increment,
    hinitial ▸ h.initial,h.seats.trans hc.seats_eq.symm⟩

theorem GameAllocation.ReadFrom.of_mapped (hg : db.games.find g.id = some g)
    (h : mapAllocation g = .ok allocation) : allocation.ReadFrom db := by
  refine ⟨g,?_,allocation.describes h⟩
  rwa [(mapAllocation_ok h).1]

theorem GameAllocation.ReadFrom.change (h : allocation.ReadFrom db) (hc : DbChange chess db db') :
    allocation.ReadFrom db' := by
  obtain ⟨g,hg,hd⟩ := h
  obtain ⟨g',hg',rfl | hchange⟩ := hc.row hg
  · exact ⟨g',hg',hd⟩
  · exact ⟨g',hg',hd.change hchange⟩

theorem readFrom_of_allocate {input : AllocateGame} (hs : db'.Sound)
    (h : db.allocate input = (.ok allocation,db')) : allocation.ReadFrom db' := by
  have hanswer := congrArg Prod.fst h
  have hdb := congrArg Prod.snd h
  unfold Db.allocate at hanswer hdb
  split_ifs at hanswer hdb
  obtain ⟨r,db₁,hw,ha,hdb₁⟩ := Db.answered_cases hanswer
  obtain rfl : db₁ = db' := hdb₁.symm.trans hdb
  rcases allocateInTransaction_ok hw with ⟨g,hg,rfl,rfl⟩ | ⟨_,rfl | rfl⟩ | ⟨hnew,rfl⟩
  · split_ifs at ha with hm
    · exact .of_mapped (hs.gameByMatchId_iff.mp hg).1 ha
    · cases ha
  · cases ha
  · cases ha
  · refine .of_mapped ?_ ha
    rw [hnew.find]
    exact if_pos rfl

theorem readFrom_of_findByMatchId {matchId : MatchId} (hs : db.Sound)
    (h : db.findByMatchId matchId = .ok (some allocation)) : allocation.ReadFrom db := by
  unfold Db.findByMatchId at h
  cases hg : db.gameByMatchId matchId with
  | none =>
    rw [hg] at h
    cases h
  | some g =>
    simp only [hg] at h
    cases hm : mapAllocation g with
    | error e =>
      rw [hm] at h
      cases h
    | ok allocation' =>
      rw [hm] at h
      cases h
      exact .of_mapped (hs.gameByMatchId_iff.mp hg).1 hm

end Records

/-- The player is told of the match, and nothing but the truth. -/
def GameAllocation.Tells (allocation : GameAllocation) (db : Db)
    (player opponent : GamePlayerRecord) : Prop :=
  ∃ found : Notice, publishMatchFound db.identity allocation player opponent =
      some [⟨player.guestSessionId,.queueLeft .matched⟩,found] ∧ found.TrueOf db ∧
    found.guestSessionId = player.guestSessionId ∧ ∃ payload,
      found.message = .matchFound allocation.game.id allocation.game.version payload

/-- What the messages of a database rest on. -/
structure Db.Announceable (db : Db) : Prop where
  sound : db.Sound
  checked : db.RowsChecked
  joined : db.AssignmentsJoined
  players : db.PlayersKnown
  sessions : db.SessionsShown
  terms : ∀ id g, db.games.find id = some g → isUuidV4 id = true ∧
    ∃ deadline, g.joinDeadlineAt = some deadline ∧ isNonnegativeInt deadline = true

namespace Db.Announceable

variable {chess : ChessEngine} {db : Db} {allocation : GameAllocation} {op : Operation}

theorem initial {guestSessions : Table GuestSession.id}
    {sessionCommands : Table SessionCommand.idempotencyHash}
    (h : ∀ session ∈ guestSessions.rows, identitySchema session.identity = true) :
    (Db.initial guestSessions sessionCommands).Announceable where
  sound := Db.initial_sound guestSessions sessionCommands
  checked _ _ hg := by simp [Db.initial] at hg
  joined _ ha := absurd ha List.not_mem_nil
  players _ _ hg := by simp [Db.initial] at hg
  sessions := h
  terms _ _ hg := by simp [Db.initial] at hg

theorem execute (h : db.Announceable) (hop : op.Announceable) :
    (execute chess db op).2.Announceable where
  sound := (execute_change chess db op).sound h.sound
  checked := (execute_change chess db op).rowsChecked h.checked
  joined := h.joined.execute op
  players := h.players.execute h.joined op
  sessions := h.sessions.execute hop.1
  terms := by
    intro id g hg
    cases execute_outcome chess db op with
    | session _ _ hdb =>
      rw [(Outcome.frame_session hdb).1] at hg
      exact h.terms id g hg
    | kept hdb _ =>
      rw [hdb] at hg
      exact h.terms id g hg
    | allocated hinput _ ha _ =>
      rw [Table.find_insert ha.games] at hg
      split_ifs at hg with hid
      · cases hg
        obtain ⟨hgame,hdeadline⟩ := hop.2 _ hinput
        subst hid
        exact ⟨hgame,_,rfl,hdeadline⟩
      · exact h.terms id g hg
    | wrote _ hw _ =>
      rw [hw.find] at hg
      split_ifs at hg with hid
      · cases hg
        subst hid
        obtain ⟨hgame,hdeadline⟩ := h.terms _ _ hw.found
        exact ⟨hgame,hw.change.terms.1 ▸ hdeadline⟩
      · exact h.terms id g hg

theorem matchFound (h : db.Announceable) {g : PersistedGame}
    (hg : db.games.find allocation.game.id = some g) (hd : allocation.Describes g)
    {player opponent : GamePlayerRecord} {p q : GamePlayer} (hp : p ∈ g.players)
    (hq : q ∈ g.players) (hplayer : player.seat = p.seat) (hopponent : opponent.seat = q.seat)
    (hguests : q.guestSessionId ≠ p.guestSessionId) (hcolors : q.color ≠ p.color) :
    allocation.Tells db player opponent := by
  obtain ⟨hid,deadline,hdeadline,hepoch⟩ := h.terms _ _ hg
  obtain ⟨⟨hversion,hinitial,hincrement,_⟩,⟨hpositive,hnonneg,_⟩,_⟩ := h.checked _ _ hg
  obtain ⟨card,hcard⟩ := h.players _ _ hg _ (List.mem_map_of_mem hq)
  simp only [GamePlayerRecord.seat,GamePlayer.seat,Prod.mk.injEq] at hplayer hopponent
  obtain ⟨_,hguest,hcolor⟩ := hplayer
  have hopponent : opponent.guestSessionId = q.guestSessionId := hopponent.2.1
  have hversion' : isNonnegativeInt allocation.game.version = true := by
    have hle := hd.version
    refine isNonnegativeInt_of_fits (Int.natCast_nonneg _) ?_
    unfold fitsInteger at hversion ⊢
    omega
  have hpayload : matchFoundPayloadSchema ⟨wireColor player.color,deadline,card,
      allocation.game.incrementMs,allocation.game.timeInitialMs⟩ = true := by
    simp only [matchFoundPayloadSchema,hd.increment,hd.initial,Bool.and_eq_true]
    exact ⟨⟨⟨hepoch,h.sessions.identity hcard⟩,isNonnegativeInt_of_fits hnonneg hincrement⟩,
      isNonnegativeInt_of_fits hpositive.le hinitial⟩
  have hschema : (QueueMessage.matchFound allocation.game.id allocation.game.version
      ⟨wireColor player.color,deadline,card,allocation.game.incrementMs,
        allocation.game.timeInitialMs⟩).schema = true := by
    simp only [QueueMessage.schema,hid,hversion',hpayload,Bool.and_self]
  refine ⟨⟨player.guestSessionId,_⟩,?_,⟨hschema,?_⟩,rfl,_,rfl⟩
  · have hleft : (QueueMessage.queueLeft .matched).schema = true := rfl
    rw [publishMatchFound,hd.deadline,hdeadline,hopponent,hcard]
    simp only [Option.bind_eq_bind,Option.bind_some,createNotice_eq hleft,createNotice_eq hschema]
  · intro gameId gameVersion payload hmessage
    cases hmessage
    exact ⟨g,hg,hd.version,hdeadline,hd.increment.symm,hd.initial.symm,p,hp,q,hq,hguest.symm,
      hguest ▸ hguests,congrArg wireColor hcolor.symm,hcolors,hcard⟩

theorem tells (h : db.Announceable) (ha : allocation.ReadFrom db) :
    allocation.Tells db allocation.players.1 allocation.players.2 ∧
      allocation.Tells db allocation.players.2 allocation.players.1 := by
  obtain ⟨g,hg,hd⟩ := ha
  obtain ⟨p,q,hpair,_,_,hp,hq,hne⟩ := (h.sound.games _ g hg).pair
  have hseats := hd.seats
  rw [hpair] at hseats
  obtain ⟨hfirst,hrest⟩ := List.cons.inj hseats
  have hsecond := (List.cons.inj hrest).1
  have hpmem : p ∈ g.players := by simp [hpair]
  have hqmem : q ∈ g.players := by simp [hpair]
  have hcolors : p.color ≠ q.color := by
    rw [hp,hq]
    decide
  exact ⟨h.matchFound hg hd hpmem hqmem hfirst hsecond hne.symm hcolors.symm,
    h.matchFound hg hd hqmem hpmem hsecond hfirst hne hcolors⟩

end Db.Announceable

def Db.Advances (chess : ChessEngine) (db db' : Db) : Prop :=
  db' = db ∨ ∃ op : Operation, op.Announceable ∧ db' = (execute chess db op).2

section Advances

variable {chess : ChessEngine} {db db' : Db}

theorem Db.Advances.announceable (h : db.Advances chess db') (hdb : db.Announceable) :
    db'.Announceable := by
  rcases h with rfl | ⟨op,hop,rfl⟩
  · exact hdb
  · exact hdb.execute hop

theorem Db.Advances.readFrom (h : db.Advances chess db') {allocation : GameAllocation}
    (ha : allocation.ReadFrom db) : allocation.ReadFrom db' := by
  rcases h with rfl | ⟨op,_,rfl⟩
  · exact ha
  · exact ha.change (execute_change chess db op)

/-- What a guest was told of a match stays true. -/
theorem Db.Advances.trueOf (h : db.Advances chess db') {notice : Notice} (hn : notice.TrueOf db) :
    notice.TrueOf db' := by
  rcases h with rfl | ⟨op,_,rfl⟩
  · exact hn
  · refine ⟨hn.1,fun gameId gameVersion payload hmessage => ?_⟩
    obtain ⟨g,hg,hversion,htrue⟩ := hn.2 gameId gameVersion payload hmessage
    obtain ⟨player,hplayer,opponent,hopponent,hguest,hother,hcolor,hcolors,hcard⟩ := htrue.players
    have hcard' := execute_identity chess hcard (guestReferenced_of_player hg hopponent) op
    obtain ⟨g',hg',rfl | hchange⟩ := (execute_change chess db op).row hg
    · exact ⟨g',hg',hversion,htrue.deadline,htrue.increment,htrue.initial,player,hplayer,
        opponent,hopponent,hguest,hother,hcolor,hcolors,hcard'⟩
    · obtain ⟨hdeadline,hincrement,hinitial⟩ := hchange.terms
      have hseat : ∀ p ∈ g.players, ∃ p' ∈ g'.players, p'.seat = p.seat := by
        intro p hp
        have hmem := List.mem_map_of_mem (f := GamePlayer.seat) hp
        rw [← hchange.seats_eq] at hmem
        exact List.mem_map.mp hmem
      obtain ⟨player',hplayer',hseat₁⟩ := hseat player hplayer
      obtain ⟨opponent',hopponent',hseat₂⟩ := hseat opponent hopponent
      simp only [GamePlayer.seat,Prod.mk.injEq] at hseat₁ hseat₂
      obtain ⟨_,hguest₁,hcolor₁⟩ := hseat₁
      obtain ⟨_,hguest₂,hcolor₂⟩ := hseat₂
      refine ⟨g',hg',hversion.trans hchange.version_le,hdeadline ▸ htrue.deadline,
        hincrement ▸ htrue.increment,hinitial ▸ htrue.initial,player',hplayer',opponent',hopponent',
        ?_,?_,?_,?_,?_⟩
      · rw [hguest₁,hguest]
      · rwa [hguest₂]
      · rwa [hcolor₁]
      · rwa [hcolor₁,hcolor₂]
      · rwa [hguest₂]

end Advances

namespace ServiceTask

def allocations : ServiceTask → List GameAllocation
  | .finalize _ _ allocation _ => [allocation]
  | .repair _ _ allocation _ => [allocation]
  | .recover _ _ reads => reads.existing.join.toList
  | .processed _ effects => effects.allocations
  | .repairActive active => active
  | _ => []

structure Good (config : AppConfig) (db : Db) (t : ServiceTask) : Prop where
  timely : t.Timely config
  read : ∀ allocation ∈ t.allocations, allocation.ReadFrom db

variable {chess : ChessEngine} {config : AppConfig} {s s' : Stores} {t : ServiceTask}
  {new : Multiset ServiceTask}

theorem Good.advance {db db' : Db} (h : t.Good config db) (hdb : db.Advances chess db') :
    t.Good config db' :=
  ⟨h.timely,fun allocation ha => hdb.readFrom (h.read allocation ha)⟩

/-- A reservation is allocated as the schema and the clock allow. -/
theorem announceable_of_input {reservation : MatchReservation} {observedAt : Millis}
    {firstGuestIsWhite : Bool} {input : AllocateGame}
    (ht : (ServiceTask.allocate reservation observedAt).Timely config)
    (h : allocationInput chess config reservation observedAt firstGuestIsWhite = .ok input) :
    (Operation.allocate input).Announceable := by
  obtain ⟨initial,_,h⟩ := bind_eq_ok.mp h
  cases h
  refine ⟨trivial,fun input hinput => ?_⟩
  cases hinput
  exact ht

theorem Step.advances (h : t.Step chess config s s' new) (ht : t.Timely config) :
    s.db.Advances chess s'.db := by
  cases h with
  | @allocated _ _ _ _ input _ _ hi h =>
    exact Or.inr ⟨.allocate input,announceable_of_input ht hi,(congrArg Prod.snd h).symm⟩
  | allocateFailed h =>
    rcases h with rfl | ⟨_,input,hi,rfl⟩
    · exact Or.inl rfl
    · exact Or.inr ⟨.allocate input,announceable_of_input ht hi,rfl⟩
  | _ => exact Or.inl rfl

/-- What a task carries it has read, or its predecessor had. -/
theorem Step.good (h : t.Step chess config s s' new) (ht : t.Good config s.db)
    (hs : s'.db.Sound) : ∀ t' ∈ new, t'.Good config s'.db := by
  have hdb := h.advances ht.timely
  have hsingle : ∀ t' : ServiceTask, t'.Timely config →
      (∀ allocation ∈ t'.allocations, allocation ∈ t.allocations) →
      ∀ t'' ∈ ({t'} : Multiset ServiceTask), t''.Good config s'.db := by
    intro t' htimely hsub t'' ht''
    rw [Multiset.mem_singleton.mp ht'']
    exact ⟨htimely,fun allocation ha => hdb.readFrom (ht.read allocation (hsub allocation ha))⟩
  cases h with
  | allocated hi h =>
    intro t' ht'
    rw [Multiset.mem_singleton.mp ht']
    refine ⟨trivial,fun allocation ha => ?_⟩
    rw [List.mem_singleton.mp ha]
    exact readFrom_of_allocate hs h
  | @repairFailed _ reservation observedAt allocation recovering _ h =>
    cases recovering with
    | true => exact fun _ ht' => absurd ht' (Multiset.notMem_zero _)
    | false => exact hsingle _ trivial fun _ ha => absurd ha List.not_mem_nil
  | @readExisting _ reservation observedAt reads existing hr h =>
    intro t' ht'
    rw [Multiset.mem_singleton.mp ht']
    refine ⟨trivial,fun allocation ha => ?_⟩
    obtain rfl : existing = some allocation := Option.mem_toList.mp ha
    exact readFrom_of_findByMatchId hs h
  | @recovered _ reservation observedAt existing durable =>
    unfold ServiceTask.recovered
    cases existing with
    | none => exact hsingle _ trivial fun _ ha => absurd ha List.not_mem_nil
    | some allocation =>
      simp only
      split_ifs
      · exact hsingle _ trivial fun _ ha => ha
      · exact hsingle _ trivial fun _ ha => absurd ha List.not_mem_nil
  | repairedActive h => exact hsingle _ trivial fun _ ha => List.mem_cons_of_mem _ ha
  | pipelined =>
    intro t' ht'
    obtain ⟨guest,_,rfl⟩ := List.mem_map.mp (Multiset.mem_coe.mp ht')
    exact ⟨trivial,fun _ ha => absurd ha List.not_mem_nil⟩
  | allocateFailed | rolledBack | command =>
    exact hsingle _ trivial fun _ ha => absurd ha List.not_mem_nil
  | finalized | finalizeMismatch | finalizeUnavailable | repaired | readA | readB =>
    exact hsingle _ trivial fun _ ha => ha
  | _ => exact fun _ ht' => absurd ht' (Multiset.notMem_zero _)

end ServiceTask

theorem mem_afterTerminal {answer : Answer} {t : ServiceTask} (h : t ∈ afterTerminal answer) :
    ∃ gameId commands cleared, t = .pipeline gameId commands cleared := by
  unfold afterTerminal at h
  split at h
  · exact absurd h (Multiset.notMem_zero t)
  · exact ⟨_,_,_,Multiset.mem_singleton.mp h⟩

theorem ServiceEvent.readFrom {chess : ChessEngine} {config : AppConfig} {s s' : Stores}
    {new : Multiset ServiceTask} (h : ServiceEvent chess config s s' new) :
    ∀ t ∈ new, ∀ allocation ∈ t.allocations, allocation.ReadFrom s'.db := by
  cases h with
  | operation =>
    intro t ht
    obtain ⟨_,_,_,rfl⟩ := mem_afterTerminal ht
    exact fun _ ha => absurd ha List.not_mem_nil
  | attemptMatch h =>
    intro t ht
    obtain ⟨reservation,_,rfl⟩ := List.mem_map.mp (Multiset.mem_coe.mp ht)
    exact fun _ ha => absurd ha List.not_mem_nil
  | listActive h =>
    intro t ht allocation ha
    rw [Multiset.mem_singleton.mp ht] at ha
    obtain ⟨g,hg,_,hm⟩ := h allocation ha
    exact .of_mapped hg hm
  | readSnapshot h =>
    intro t ht
    rw [Multiset.mem_singleton.mp ht]
    unfold restoreSnapshot
    split_ifs <;> exact fun _ ha => absurd ha List.not_mem_nil
  | listReservations h =>
    intro t ht
    rw [Multiset.mem_singleton.mp ht]
    exact fun _ ha => absurd ha List.not_mem_nil
  | command h => exact fun t ht => absurd ht (Multiset.notMem_zero t)

theorem afterTerminal_timely (config : AppConfig) (answer : Answer) :
    ∀ t ∈ afterTerminal answer, t.Timely config := by
  intro t ht
  obtain ⟨_,_,_,rfl⟩ := mem_afterTerminal ht
  trivial

section Sending

variable {messages : List (Option (List Notice))} {notice : Notice}

theorem mem_sendAll (h : notice ∈ sendAll messages) :
    ∃ notices, some notices ∈ messages ∧ notice ∈ notices := by
  induction messages with
  | nil => cases h
  | cons message rest ih =>
    cases message with
    | none => cases h
    | some notices =>
      rcases List.mem_append.mp h with h | h
      · exact ⟨notices,List.mem_cons_self,h⟩
      · obtain ⟨notices',hmem,hn⟩ := ih h
        exact ⟨notices',List.mem_cons_of_mem _ hmem,hn⟩

theorem mem_sendAll_of_some (hall : ∀ message ∈ messages, message ≠ none) {notices : List Notice}
    (h : some notices ∈ messages) (hn : notice ∈ notices) : notice ∈ sendAll messages := by
  induction messages with
  | nil => cases h
  | cons message rest ih =>
    cases message with
    | none => exact absurd rfl (hall none List.mem_cons_self)
    | some first =>
      rcases List.mem_cons.mp h with heq | h
      · cases heq
        exact List.mem_append_left _ hn
      · exact List.mem_append_right _
          (ih (fun message hm => hall message (List.mem_cons_of_mem _ hm)) h)

end Sending

structure MatchmakingEffects.Sound (effects : MatchmakingEffects) (db : Db) : Prop where
  allocations : ∀ allocation ∈ effects.allocations, allocation.ReadFrom db
  requeued : ∀ requeued ∈ effects.requeued, isNonnegativeInt requeued.since = true

namespace MatchmakingEffects.Sound

variable {chess : ChessEngine} {db db' : Db} {effects effects' : MatchmakingEffects}

theorem empty : MatchmakingEffects.empty.Sound db :=
  ⟨fun _ h => absurd h List.not_mem_nil,fun _ h => absurd h List.not_mem_nil⟩

theorem merge (h : effects.Sound db) (h' : effects'.Sound db) :
    (effects.merge effects').Sound db where
  allocations _ ha := (List.mem_append.mp ha).elim (h.allocations _) (h'.allocations _)
  requeued _ hr := (List.mem_append.mp hr).elim (h.requeued _) (h'.requeued _)

theorem advance (h : effects.Sound db) (hdb : db.Advances chess db') : effects.Sound db' :=
  ⟨fun allocation ha => hdb.readFrom (h.allocations allocation ha),h.requeued⟩

theorem published (h : effects.Sound db) (hdb : db.Announceable) :
    ∀ message ∈ publishEffects db.identity effects, ∃ notices, message = some notices ∧
      ∀ notice ∈ notices, notice.TrueOf db := by
  have hone : ∀ (guest : GuestSessionId) (message : QueueMessage), message.schema = true →
      (∀ gameId gameVersion payload, message ≠ .matchFound gameId gameVersion payload) →
      ∃ notices, (createNotice guest message).map ([·]) = some notices ∧
        ∀ notice ∈ notices, notice.TrueOf db := by
    intro guest message hschema hne
    refine ⟨[⟨guest,message⟩],by rw [createNotice_eq hschema]; rfl,fun notice hn => ?_⟩
    rw [List.mem_singleton.mp hn]
    exact ⟨hschema,fun _ _ _ heq => absurd heq (hne _ _ _)⟩
  intro message hmessage
  rcases List.mem_append.mp hmessage with hqueue | hmatch
  · rcases List.mem_append.mp hqueue with hremoved | hrequeued
    · obtain ⟨removed,_,rfl⟩ := List.mem_map.mp hremoved
      exact hone _ _ rfl nofun
    · obtain ⟨requeued,hr,rfl⟩ := List.mem_map.mp hrequeued
      exact hone _ _ (h.requeued requeued hr) nofun
  · obtain ⟨allocation,ha,hmem⟩ := List.mem_flatMap.mp hmatch
    have htells : ∀ player opponent, allocation.Tells db player opponent →
        ∃ notices, publishMatchFound db.identity allocation player opponent = some notices ∧
          ∀ notice ∈ notices, notice.TrueOf db := by
      rintro player opponent ⟨found,hfound,htrue,_,_⟩
      refine ⟨_,hfound,fun notice hn => ?_⟩
      rcases List.mem_cons.mp hn with rfl | hn
      · exact ⟨rfl,nofun⟩
      · rwa [List.mem_singleton.mp hn]
    obtain ⟨hfirst,hsecond⟩ := hdb.tells (h.allocations allocation ha)
    rcases List.mem_cons.mp hmem with rfl | hmem
    · exact htells _ _ hfirst
    · rw [List.mem_singleton.mp hmem]
      exact htells _ _ hsecond

end MatchmakingEffects.Sound

section Agreement

variable {db : Db} {g : PersistedGame} {payload payload' : MatchFoundPayload}
  {guest guest' : GuestSessionId}

theorem MatchFoundPayload.TrueOf.seated (h : payload.TrueOf db g guest) {p q : GamePlayer}
    (hpair : g.players = [p,q]) (hne : p.guestSessionId ≠ q.guestSessionId) :
    (guest = p.guestSessionId ∧ payload.color = wireColor p.color ∧
        db.identity q.guestSessionId = some payload.opponent) ∨
      (guest = q.guestSessionId ∧ payload.color = wireColor q.color ∧
        db.identity p.guestSessionId = some payload.opponent) := by
  obtain ⟨player,hplayer,opponent,hopponent,rfl,hother,hcolor,_,hcard⟩ := h.players
  simp only [hpair,List.mem_cons,List.not_mem_nil,or_false] at hplayer hopponent
  rcases hplayer with rfl | rfl
  · rcases hopponent with rfl | rfl
    · exact absurd rfl hother
    · exact Or.inl ⟨rfl,hcolor.symm,hcard⟩
  · rcases hopponent with rfl | rfl
    · exact Or.inr ⟨rfl,hcolor.symm,hcard⟩
    · exact absurd rfl hother

/-- A guest is told of a game in one way only, and the two guests of a game are told of different
colours. -/
theorem MatchFoundPayload.TrueOf.agree (hg : g.Sound) (h : payload.TrueOf db g guest)
    (h' : payload'.TrueOf db g guest') :
    (guest = guest' → payload = payload') ∧ (guest ≠ guest' → payload.color ≠ payload'.color) := by
  obtain ⟨p,q,hpair,_,_,hp,hq,hne⟩ := hg.pair
  have hdeadline : payload.joinDeadline = payload'.joinDeadline :=
    Option.some.inj (h.deadline.symm.trans h'.deadline)
  have hincrement := h.increment.symm.trans h'.increment
  have hinitial := h.initial.symm.trans h'.initial
  have hsame : payload.color = payload'.color → payload.opponent = payload'.opponent →
      payload = payload' := by
    intro hcolor hopponent
    cases payload
    cases payload'
    simp_all
  rcases h.seated hpair hne with ⟨rfl,hcolor,hcard⟩ | ⟨rfl,hcolor,hcard⟩ <;>
    rcases h'.seated hpair hne with ⟨rfl,hcolor',hcard'⟩ | ⟨rfl,hcolor',hcard'⟩
  · exact ⟨fun _ => hsame (hcolor.trans hcolor'.symm) (Option.some.inj (hcard.symm.trans hcard')),
      fun h => absurd rfl h⟩
  · refine ⟨fun h => absurd h hne,fun _ => ?_⟩
    rw [hcolor,hcolor',hp,hq]
    decide
  · refine ⟨fun h => absurd h.symm hne,fun _ => ?_⟩
    rw [hcolor,hcolor',hp,hq]
    decide
  · exact ⟨fun _ => hsame (hcolor.trans hcolor'.symm) (Option.some.inj (hcard.symm.trans hcard')),
      fun h => absurd rfl h⟩

end Agreement

/-- What was collected can be published, and what was sent is true. -/
structure AnnouncedStores.Sound (s : AnnouncedStores) : Prop where
  db : s.stores.db.Announceable
  collected : ∀ job, (s.collected job).Sound s.stores.db
  sent : ∀ notice ∈ s.sent, notice.TrueOf s.stores.db

/-- The tasks of the pool may go on from what they have read. -/
def AnnouncedSound (config : AppConfig) (s : AnnouncedStores) (pool : Multiset ServiceTask) :
    Prop :=
  s.Sound ∧ ∀ t ∈ pool, t.Good config s.stores.db

/-- What one step does: it advances the database, keeps the invariant and leaves good tasks. -/
structure AnnouncedStores.Moves (chess : ChessEngine) (config : AppConfig)
    (s s' : AnnouncedStores) (new : Multiset ServiceTask) : Prop where
  advances : s.stores.db.Advances chess s'.stores.db
  sound : s'.Sound
  good : ∀ t ∈ new, t.Good config s'.stores.db

namespace AnnouncedStores

variable {chess : ChessEngine} {config : AppConfig} {s s' : AnnouncedStores} {stores : Stores}
  {effects : MatchmakingEffects} {t : ServiceTask} {new pool : Multiset ServiceTask}

theorem Sound.advance (h : s.Sound) (hdb : s.stores.db.Advances chess stores.db) :
    (s.withStores stores).Sound where
  db := hdb.announceable h.db
  collected job := (h.collected job).advance hdb
  sent notice hn := hdb.trueOf (h.sent notice hn)

theorem Sound.update (h : s.Sound) (he : effects.Sound s.stores.db) (job : ℕ) :
    ({ s with collected := Function.update s.collected job effects } : AnnouncedStores).Sound where
  db := h.db
  collected other := by
    by_cases hjob : other = job
    · subst hjob
      simpa using he
    · simpa [Function.update_of_ne hjob] using h.collected other
  sent := h.sent

theorem Sound.collect (h : s.Sound) (he : effects.Sound s.stores.db) (job : ℕ) :
    (s.collect job effects).Sound := h.update ((h.collected job).merge he) job

theorem Sound.abandon (h : s.Sound) (job : ℕ) : (s.abandon job).Sound := h.update .empty job

theorem Sound.send (h : s.Sound) {notices : List Notice}
    (hn : ∀ notice ∈ notices, notice.TrueOf s.stores.db) :
    ({ s with sent := s.sent ++ notices } : AnnouncedStores).Sound where
  db := h.db
  collected := h.collected
  sent notice hmem := (List.mem_append.mp hmem).elim (h.sent notice) (hn notice)

theorem Sound.notices (h : s.Sound) (job : ℕ) : ∀ message ∈ s.notices job, ∃ notices,
    message = some notices ∧ ∀ notice ∈ notices, notice.TrueOf s.stores.db :=
  (h.collected job).published h.db

theorem Sound.publish (h : s.Sound) (job : ℕ) : (s.publish job).Sound := by
  refine (h.abandon job).send fun notice hn => ?_
  obtain ⟨notices,hmem,hn⟩ := mem_sendAll hn
  obtain ⟨notices',heq,htrue⟩ := h.notices job _ hmem
  cases heq
  exact htrue notice hn

theorem Moves.of_still (h : s'.Sound) (hdb : s'.stores.db = s.stores.db) :
    s.Moves chess config s' 0 :=
  ⟨Or.inl hdb,h,fun t ht => absurd ht (Multiset.notMem_zero t)⟩

theorem Moves.event (h : AnnouncedEvent chess config s s' new) (hs : s.Sound) :
    s.Moves chess config s' new := by
  cases h with
  | @operation op hop =>
    have hdb : s.stores.db.Advances chess (execute chess s.stores.db op).2 := Or.inr ⟨op,hop,rfl⟩
    have hevent : ServiceEvent chess config s.stores
        { s.stores with db := (execute chess s.stores.db op).2 } _ := .operation
    exact ⟨hdb,hs.advance hdb,fun t ht =>
      ⟨afterTerminal_timely config _ t ht,hevent.readFrom t ht⟩⟩
  | @service stores _ h hdb hnew =>
    have hadvances : s.stores.db.Advances chess stores.db := Or.inl hdb
    exact ⟨hadvances,hs.advance hadvances,fun t ht => ⟨hnew t ht,h.readFrom t ht⟩⟩
  | @removed _ removed =>
    have hremoved : MatchmakingEffects.Sound ⟨[],removed,[]⟩ s.stores.db :=
      ⟨fun _ ha => absurd ha List.not_mem_nil,fun _ hr => absurd hr List.not_mem_nil⟩
    exact .of_still (hs.collect hremoved _) rfl
  | left =>
    refine .of_still (hs.send fun notice hn => ?_) rfl
    rw [List.mem_singleton.mp hn]
    exact ⟨rfl,nofun⟩
  | published => exact .of_still (hs.publish _) rfl
  | failed => exact .of_still (hs.abandon _) rfl

theorem Moves.step (h : AnnouncedStep chess config t s s' new) (hs : s.Sound)
    (ht : t.Good config s.stores.db) : s.Moves chess config s' new := by
  cases h with
  | task h =>
    have hdb := h.advances ht.timely
    exact ⟨hdb,hs.advance hdb,h.good ht (hdb.announceable hs.db).sound⟩
  | processed h => exact .of_still (hs.collect ⟨ht.read,h⟩ _) rfl
  | @repairedActive _ allocation active redis job h =>
    have hdb : s.stores.db.Advances chess s.stores.db := Or.inl rfl
    have hfound : MatchmakingEffects.Sound ⟨[allocation],[],[]⟩ s.stores.db := by
      refine ⟨fun allocation' ha => ?_,fun _ hr => absurd hr List.not_mem_nil⟩
      rw [List.mem_singleton.mp ha]
      exact ht.read _ List.mem_cons_self
    have hrepaired : (s.withStores { s.stores with redis := redis }).Sound := hs.advance hdb
    refine ⟨hdb,hrepaired.collect hfound job,fun t ht' => ?_⟩
    rw [Multiset.mem_singleton.mp ht']
    exact ⟨trivial,fun _ ha => ht.read _ (List.mem_cons_of_mem _ ha)⟩

theorem Moves.keeps (h : s.Moves chess config s' new)
    (hp : ∀ t ∈ pool, t.Good config s.stores.db) : AnnouncedSound config s' (new + pool) :=
  ⟨h.sound,fun t ht => (Multiset.mem_add.mp ht).elim (h.good t) fun hpool =>
    (hp t hpool).advance h.advances⟩

def initial (guestSessions : Table GuestSession.id)
    (sessionCommands : Table SessionCommand.idempotencyHash) (redis : Redis) : AnnouncedStores where
  stores := ⟨.initial guestSessions sessionCommands,redis⟩
  collected := fun _ => .empty
  sent := []

theorem sound_run {guestSessions : Table GuestSession.id}
    {sessionCommands : Table SessionCommand.idempotencyHash} {redis : Redis}
    (hsessions : ∀ session ∈ guestSessions.rows, identitySchema session.identity = true)
    (h : (announcements chess config).Run System.anyTime
      (initial guestSessions sessionCommands redis,0) (s,pool)) : AnnouncedSound config s pool := by
  refine h.invariant (I := AnnouncedSound config) ?_ ?_ ?_
  · rintro s s' new pool he ⟨hs,hp⟩
    exact (Moves.event he hs).keeps hp
  · rintro t s s' new pool hstep _ ⟨hs,hp⟩
    exact (Moves.step hstep hs (hp t (Multiset.mem_cons_self t pool))).keeps fun t' ht' =>
      hp t' (Multiset.mem_cons_of_mem ht')
  · exact ⟨⟨.initial hsessions,fun _ => .empty,fun _ hn => absurd hn List.not_mem_nil⟩,
      fun t ht => absurd ht (Multiset.notMem_zero t)⟩

end AnnouncedStores

/-- However the jobs and the tasks of the processes interleave, fail, recover and repeat their work,
whoever was told of a match plays in its game, with the colour, against the opponent, by the
deadline and under the time control that the guest was told of. A guest is never told of a game in
two ways, and two guests never of the same colour. When a job ends, every one of its messages can be
made, so both players of each of its games are told. -/
theorem matches_announced (chess : ChessEngine) (config : AppConfig)
    {guestSessions : Table GuestSession.id} {sessionCommands : Table SessionCommand.idempotencyHash}
    {redis : Redis} {s : AnnouncedStores} {pool : Multiset ServiceTask}
    (hsessions : ∀ session ∈ guestSessions.rows, identitySchema session.identity = true)
    (h : (announcements chess config).Run System.anyTime
      (.initial guestSessions sessionCommands redis,0) (s,pool)) :
    (∀ notice ∈ s.sent, notice.TrueOf s.stores.db) ∧
    (∀ guest guest' gameId version version' payload payload',
      ⟨guest,.matchFound gameId version payload⟩ ∈ s.sent →
      ⟨guest',.matchFound gameId version' payload'⟩ ∈ s.sent →
      (guest = guest' → payload = payload') ∧ (guest ≠ guest' → payload.color ≠ payload'.color)) ∧
    ∀ job, (∀ message ∈ s.notices job, message ≠ none) ∧
      ∀ allocation ∈ (s.collected job).allocations, ∀ guest ∈ allocation.guests, ∃ payload,
        ⟨guest,.matchFound allocation.game.id allocation.game.version payload⟩ ∈
          (s.publish job).sent := by
  have hs := (AnnouncedStores.sound_run hsessions h).1
  refine ⟨hs.sent,fun guest guest' gameId version version' payload payload' hn hn' => ?_,
    fun job => ?_⟩
  · obtain ⟨g,hg,_,htrue⟩ := (hs.sent _ hn).2 gameId version payload rfl
    obtain ⟨g',hg',_,htrue'⟩ := (hs.sent _ hn').2 gameId version' payload' rfl
    cases hg.symm.trans hg'
    exact htrue.agree (hs.db.sound.games _ g hg) htrue'
  have hall : ∀ message ∈ s.notices job, message ≠ none := by
    intro message hm
    obtain ⟨notices,rfl,_⟩ := hs.notices job message hm
    exact Option.some_ne_none notices
  refine ⟨hall,fun allocation ha guest hguest => ?_⟩
  have htold : ∀ player opponent, allocation.Tells s.stores.db player opponent →
      publishMatchFound s.stores.db.identity allocation player opponent ∈ s.notices job →
      ∃ payload, ⟨player.guestSessionId,
        .matchFound allocation.game.id allocation.game.version payload⟩ ∈ (s.publish job).sent := by
    rintro player opponent ⟨⟨found,message⟩,hfound,_,rfl,payload,rfl⟩ hmem
    rw [hfound] at hmem
    exact ⟨payload,List.mem_append_right _ (mem_sendAll_of_some hall hmem
      (List.mem_cons_of_mem _ List.mem_cons_self))⟩
  obtain ⟨hfirst,hsecond⟩ := hs.db.tells ((hs.collected job).allocations allocation ha)
  have hmem : ∀ message ∈ [publishMatchFound s.stores.db.identity allocation allocation.players.1
      allocation.players.2,publishMatchFound s.stores.db.identity allocation allocation.players.2
      allocation.players.1], message ∈ s.notices job := fun message hm =>
    List.mem_append_right _ (List.mem_flatMap.mpr ⟨allocation,ha,hm⟩)
  rcases List.mem_cons.mp hguest with rfl | hguest
  · exact htold _ _ hfirst (hmem _ List.mem_cons_self)
  · rw [List.mem_singleton.mp hguest]
    exact htold _ _ hsecond (hmem _ (List.mem_cons_of_mem _ List.mem_cons_self))

section Sample

/-! A game whose allocation was lost, found and told of by the reconciliation. -/

def sampleFound : GameAllocation where
  game := mapGame (newGameRow sampleAllocation)
  players := (⟨.w,none,none,sampleId 10,sampleId 1,none,none,0⟩,
    ⟨.b,none,none,sampleId 10,sampleId 2,none,none,1⟩)

def sampleUntold : AnnouncedStores :=
  .initial sampleSessions .empty (.initial 1000)

def sampleOffered : AnnouncedStores :=
  sampleUntold.withStores ⟨sampleRun [.allocate sampleAllocation],.initial 1000⟩

def sampleGathered : AnnouncedStores :=
  (sampleOffered.withStores { sampleOffered.stores with
    redis := (ServiceTask.repairAllocation sampleConfig (.initial 1000) sampleFound).2 }).collect 0
      ⟨[sampleFound],[],[]⟩

theorem sampleGathered_run : (announcements sampleEngine sampleConfig).Run System.anyTime
    (sampleUntold,0) (sampleGathered,0) := by
  have hallocate : AnnouncedEvent sampleEngine sampleConfig sampleUntold sampleOffered 0 := by
    have hop : (Operation.allocate sampleAllocation).Announceable := by
      refine ⟨trivial,fun input hinput => ?_⟩
      cases hinput
      decide
    exact .operation hop
  have hlist : AnnouncedEvent sampleEngine sampleConfig sampleOffered sampleOffered
      {.repairActive [sampleFound]} := by
    refine .service (.listActive fun allocation ha => ?_) rfl fun t ht => ?_
    · rw [List.mem_singleton.mp ha]
      exact ⟨newGameRow sampleAllocation,rfl,rfl,rfl⟩
    · rw [Multiset.mem_singleton.mp ht]
      trivial
  have hrepair : AnnouncedStep sampleEngine sampleConfig (.repairActive [sampleFound])
      sampleOffered sampleGathered {.repairActive []} :=
    .repairedActive (Prod.ext (by decide) rfl)
  have hdone : AnnouncedStep sampleEngine sampleConfig (.repairActive []) sampleGathered
      sampleGathered 0 := .task .reconciled
  have hallocated : (announcements sampleEngine sampleConfig).Run System.anyTime (sampleUntold,0)
      (sampleOffered,0) := System.Run.env .refl hallocate rfl
  have hlisted : (announcements sampleEngine sampleConfig).Run System.anyTime (sampleUntold,0)
      (sampleOffered,{.repairActive [sampleFound]}) := hallocated.env hlist rfl
  have hrepaired : (announcements sampleEngine sampleConfig).Run System.anyTime (sampleUntold,0)
      (sampleGathered,{.repairActive []}) := hlisted.alone hrepair trivial
  exact hrepaired.alone hdone trivial

end Sample

theorem matches_announced_sample :
    ⟨sampleId 1,.matchFound (sampleId 10) 0 ⟨.white,30000,⟨"rook","Grace"⟩,2000,300000⟩⟩ ∈
      (sampleGathered.publish 0).sent ∧
    ∀ notice ∈ (sampleGathered.publish 0).sent,
      notice.TrueOf (sampleGathered.publish 0).stores.db := by
  have hpublish : AnnouncedEvent sampleEngine sampleConfig sampleGathered
      (sampleGathered.publish 0) 0 := .published
  have hrun := sampleGathered_run.env hpublish rfl
  exact ⟨by decide,(matches_announced sampleEngine sampleConfig (by decide) hrun).1⟩

end CluChess
