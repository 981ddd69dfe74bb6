import CluChess.DurableSessions
import CluChess.SnapshotCache
import CluChess.TerminalOutcome

/-! `game-recovery.service.ts`: the snapshot of a game, from Redis once the game has ended and
from PostgreSQL otherwise. The avatars and the names of the players are joined from their guest
sessions. What is read at any time may be written to Redis at any later time. -/
namespace CluChess

structure Identity where
  avatarKey : String
  displayName : String
  deriving DecidableEq, Repr

def GuestSession.identity (session : GuestSession) : Identity :=
  ⟨session.avatarKey,session.displayName⟩

def Db.identity (db : Db) (guestSessionId : GuestSessionId) : Option Identity :=
  (db.guestSessions.find guestSessionId).map GuestSession.identity

structure NamedSnapshot where
  view : GameSnapshotView
  identities : Identity × Identity
  deriving DecidableEq, Repr

namespace NamedSnapshot

def allocation (s : NamedSnapshot) : GameAllocation := s.view.snapshot.allocation

def cards (s : NamedSnapshot) : List (GuestSessionId × Identity) :=
  [(s.allocation.players.1.guestSessionId,s.identities.1),
    (s.allocation.players.2.guestSessionId,s.identities.2)]

end NamedSnapshot

structure RecoveredPayload where
  payload : GameSnapshotPayload
  opponent : Identity
  you : Identity
  deriving DecidableEq, Repr

def presentNamed (s : NamedSnapshot) (guestSessionId : GuestSessionId) :
    Option RecoveredPayload := do
  let payload ← present s.view guestSessionId
  let you ← s.cards.find? fun card => card.1 = guestSessionId
  let opponent ← s.cards.find? fun card => card.1 ≠ guestSessionId
  some ⟨payload,opponent.2,you.2⟩

def identitySchema (identity : Identity) : Bool :=
  isText 1 128 identity.avatarKey && isText 1 128 identity.displayName

def snapshotMoveSchema (move : SnapshotMove) : Bool :=
  isNonnegativeInt move.ply && decide (0 < move.ply) && isText 1 32 move.san && isText 4 5 move.uci

def gameSnapshotPayloadSchema (p : RecoveredPayload) : Bool :=
  isNonnegativeInt p.payload.clocks.blackMs && isNonnegativeInt p.payload.clocks.serverTime &&
    isNonnegativeInt p.payload.clocks.whiteMs && isText 1 256 p.payload.currentFen &&
    isText 1 256 p.payload.initialFen && p.payload.moves.all snapshotMoveSchema &&
    identitySchema p.opponent && identitySchema p.you

structure SnapshotEntry where
  gameVersion : ℕ
  payloads : List (GuestSessionId × RecoveredPayload)
  deriving DecidableEq, Repr

/-- The value that `restoreSnapshot` writes; it writes none when a payload cannot be built. -/
def snapshotEntry (s : NamedSnapshot) : Option SnapshotEntry := do
  let payloads ← s.view.players.mapM fun p =>
    (presentNamed s p.guestSessionId).map (p.guestSessionId,·)
  some ⟨s.allocation.game.version,payloads⟩

structure CachedGameSnapshot where
  gameVersion : ℕ
  payload : RecoveredPayload
  deriving DecidableEq, Repr

structure RecoveredGameSnapshot where
  gameId : GameId
  gameVersion : ℕ
  payload : RecoveredPayload
  deriving DecidableEq, Repr

namespace Db

def authorize (db : Db) (gameId : GameId) (guestSessionId : GuestSessionId) :
    Except GameServiceError GameAllocation := do
  match ← db.findById gameId with
  | none => .error (gameServiceError .gameNotFound "The requested game does not exist." false)
  | some allocation =>
    if guestSessionId ∉ allocation.guests then
      .error (gameServiceError .notAPlayer
        "The authenticated guest is not a member of this game." false)
    else .ok allocation

def namedSnapshot (db : Db) (gameId : GameId) (guestSessionId : GuestSessionId)
    (observation : Micros) : Except RepositoryError NamedSnapshot :=
  match db.snapshot gameId guestSessionId observation with
  | .error e => .error (.service e)
  | .ok view =>
    match db.identity view.snapshot.allocation.players.1.guestSessionId,
      db.identity view.snapshot.allocation.players.2.guestSessionId with
    | some white,some black => .ok ⟨view,(white,black)⟩
    | _,_ => .error (.database .unknown)

/-- The first part of `snapshotInternal`: what Redis gave is served when it shows an ended game
and the row agrees. -/
def cachedSnapshot (db : Db) (cached : Option CachedGameSnapshot) (gameId : GameId)
    (guestSessionId : GuestSessionId) : Except RepositoryError (Option RecoveredGameSnapshot) :=
  match cached with
  | none => .ok none
  | some cached =>
    if gameSnapshotPayloadSchema cached.payload && cached.payload.payload.status.terminal then
      match db.authorize gameId guestSessionId with
      | .error e => .error (.service e)
      | .ok allocation =>
        if allocation.game.version = cached.gameVersion ∧
            allocation.game.status = cached.payload.payload.status then
          .ok (some ⟨gameId,cached.gameVersion,cached.payload⟩)
        else .ok none
    else .ok none

/-- The second part of `snapshotInternal`. -/
def freshSnapshot (db : Db) (gameId : GameId) (guestSessionId : GuestSessionId)
    (observation : Micros) : Except RepositoryError RecoveredGameSnapshot :=
  match db.namedSnapshot gameId guestSessionId observation with
  | .error e => .error e
  | .ok snapshot =>
    match presentNamed snapshot guestSessionId with
    | none => .error (.database .unknown)
    | some payload => .ok ⟨gameId,snapshot.allocation.game.version,payload⟩

end Db

/-- `snapshotInternal`: the databases of its two reads may differ. -/
def snapshotInternal (cached : Option CachedGameSnapshot) (first second : Db) (gameId : GameId)
    (guestSessionId : GuestSessionId) (observation : Micros) :
    Except RepositoryError RecoveredGameSnapshot :=
  match first.cachedSnapshot cached gameId guestSessionId with
  | .error e => .error e
  | .ok (some recovered) => .ok recovered
  | .ok none => second.freshSnapshot gameId guestSessionId observation

/-! ### The database and the cache -/

/-- The database, the snapshot keys of Redis, and the snapshots that have been read. -/
structure RecoveryState where
  db : Db
  snapshots : GameId → Option SnapshotEntry
  views : List NamedSnapshot

/-- An operation of the repositories, a read of a snapshot, a `restoreSnapshot` of a snapshot
that has been read, or the end of a snapshot key. -/
inductive RecoveryEvent
  | execute (operation : Operation)
  | read (gameId : GameId) (guestSessionId : GuestSessionId) (observation : Micros)
  | restore (index : ℕ)
  | forget (gameId : GameId)

namespace RecoveryState

def initial (guestSessions : Table GuestSession.id)
    (sessionCommands : Table SessionCommand.idempotencyHash) : RecoveryState :=
  ⟨.initial guestSessions sessionCommands,fun _ => none,[]⟩

def readSnapshot (s : RecoveryState) (gameId : GameId) (guestSessionId : GuestSessionId) :
    Option CachedGameSnapshot := do
  let entry ← s.snapshots gameId
  let payload ← entry.payloads.lookup guestSessionId
  some ⟨entry.gameVersion,payload⟩

def restoreSnapshot (s : RecoveryState) (snapshot : NamedSnapshot) : RecoveryState :=
  match snapshotEntry snapshot with
  | none => s
  | some entry =>
    { s with snapshots := Function.update s.snapshots snapshot.allocation.game.id (some entry) }

def apply (chess : ChessEngine) (s : RecoveryState) : RecoveryEvent → RecoveryState
  | .execute operation => { s with db := (execute chess s.db operation).2 }
  | .read gameId guestSessionId observation =>
    match s.db.namedSnapshot gameId guestSessionId observation with
    | .error _ => s
    | .ok snapshot => { s with views := s.views ++ [snapshot] }
  | .restore index =>
    match s.views[index]? with
    | none => s
    | some snapshot => s.restoreSnapshot snapshot
  | .forget gameId => { s with snapshots := Function.update s.snapshots gameId none }

end RecoveryState

def recovery (chess : ChessEngine) : Machine RecoveryState RecoveryEvent Unit :=
  ⟨fun s event => ((),s.apply chess event)⟩

def RecoveredGameSnapshot.timeless (r : RecoveredGameSnapshot) : RecoveredGameSnapshot :=
  { r with payload := { r.payload with payload := { r.payload.payload with
      clocks := { r.payload.payload.clocks with serverTime := 0 } } } }

section Identities

variable {chess : ChessEngine} {db db' : Db} {guest : GuestSessionId} {identity : Identity}

theorem changeSession_identity {id : GuestSessionId} {t : Millis}
    {change : GuestSession → GuestSession} {command : SessionCommand} {r : SessionMutationResult}
    (hid : ∀ session, (change session).id = session.id)
    (hidentity : ∀ session, (change session).identity = session.identity)
    (h : db.changeSession id t change command = .ok (r,db')) :
    db'.identity guest = db.identity guest := by
  obtain ⟨current,hcurrent,_,hput,_⟩ := Db.changeSession_ok h
  obtain ⟨hfind,_,_⟩ := Db.availableSession_ok hcurrent
  have hkey : (change current).id = id := (hid current).trans (Table.find_key hfind)
  unfold Db.identity
  rw [hput]
  by_cases he : guest = (change current).id
  · have hself : db.guestSessions.find (change current).id = some current := by rw [hkey,hfind]
    rw [he,Table.find_put_self hself,hself,Option.map_some,Option.map_some,hidentity]
  · rw [Table.find_put_of_ne _ he]

theorem sessionTransaction_identity {work : Except SessionFailure (SessionMutationResult × Db)}
    (h : ∀ r db', work = .ok (r,db') → db'.identity guest = db.identity guest) :
    (db.sessionTransaction work).2.identity guest = db.identity guest := by
  cases work with
  | error e => rfl
  | ok r => exact h r.1 r.2 rfl

theorem replay_identity {command : SessionCommand} {r : SessionMutationResult}
    (h : (db.toCommandReplay command).map (·,db) = .ok (r,db')) :
    db'.identity guest = db.identity guest := by
  rw [Db.toCommandReplay_frame h]

theorem cleanupExpired_identity (href : db.guestReferenced guest = true) (cutoff : Millis)
    (limit : ℕ) (locked : List GuestSessionId) :
    (db.cleanupExpired cutoff limit locked).2.identity guest = db.identity guest := by
  unfold Db.cleanupExpired Db.identity
  simp only
  rw [Table.find_deleteWhere]
  cases hfind : db.guestSessions.find guest with
  | none => rfl
  | some session =>
    rw [Option.filter_some,if_pos]
    rw [Bool.not_eq_true',decide_eq_false_iff_not,List.mem_map]
    rintro ⟨row,hrow,hid⟩
    have hmem := (List.mem_insertionSort _).mp (List.mem_of_mem_take hrow)
    have hfree := (List.mem_filter.mp hmem).2
    rw [hid,Table.find_key hfind,href] at hfree
    simp at hfree

theorem executeSession_identity (h : db.identity guest = some identity)
    (href : db.guestReferenced guest = true) (operation : SessionOperation) :
    (db.executeSession operation).2.identity guest = db.identity guest := by
  cases operation with
  | create existing input =>
    refine sessionTransaction_identity fun r db' hw => ?_
    cases existing with
    | some command => exact replay_identity hw
    | none =>
      obtain ⟨row,_,_,hrow,_⟩ := Db.createSession_ok hw
      have hne : guest ≠ row.id := by
        rintro rfl
        unfold Db.identity at h
        rw [(Table.insert_fresh hrow).1] at h
        cases h
      unfold Db.identity
      rw [Table.find_insert hrow,if_neg hne]
  | renew existing input =>
    refine sessionTransaction_identity fun r db' hw => ?_
    cases existing with
    | some command => exact replay_identity hw
    | none =>
      refine changeSession_identity ?_ ?_ hw
      · exact fun _ => rfl
      · exact fun _ => rfl
  | reset existing input =>
    refine sessionTransaction_identity fun r db' hw => ?_
    cases existing with
    | some command => exact replay_identity hw
    | none =>
      refine changeSession_identity ?_ ?_ hw
      · exact fun _ => rfl
      · exact fun _ => rfl
  | cleanupExpired cutoff limit locked => exact cleanupExpired_identity href cutoff limit locked

/-- No operation changes the avatar or the name of a guest who is referenced. -/
theorem execute_identity (chess : ChessEngine) (h : db.identity guest = some identity)
    (href : db.guestReferenced guest = true) (op : Operation) :
    (execute chess db op).2.identity guest = some identity := by
  by_cases hsession : ∃ operation, op = .session operation
  · obtain ⟨operation,rfl⟩ := hsession
    exact (executeSession_identity h href operation).trans h
  · have hkept := (execute_sessions chess db fun operation he => hsession ⟨operation,he⟩).1
    rw [← h]
    unfold Db.identity
    rw [hkept]

theorem guestReferenced_of_player {id : GameId} {g : PersistedGame} {p : GamePlayer}
    (hg : db.games.find id = some g) (hp : p ∈ g.players) :
    db.guestReferenced p.guestSessionId = true := by
  have hplayer : (g.players.any fun q => decide (q.guestSessionId = p.guestSessionId)) = true :=
    List.any_eq_true.mpr ⟨p,hp,decide_eq_true rfl⟩
  have hgame : (db.games.rows.any fun g =>
      (g.players.any fun q => decide (q.guestSessionId = p.guestSessionId)) ||
      (g.moves.any fun m => decide (m.guestSessionId = p.guestSessionId)) ||
      g.commands.any fun c => decide (c.guestSessionId = p.guestSessionId)) = true := by
    refine List.any_eq_true.mpr ⟨g,Table.find_mem hg,?_⟩
    rw [hplayer,Bool.true_or,Bool.true_or]
  unfold Db.guestReferenced
  rw [hgame,Bool.true_or]

end Identities

/-! ### Snapshots of games that have ended -/

def GameSnapshotView.at (view : GameSnapshotView) (t : Millis) : GameSnapshotView :=
  { snapshot := { view.snapshot with observedAt := .valid t }
    clocks := { view.clocks with observedAt := .valid t } }

def NamedSnapshot.at (s : NamedSnapshot) (t : Millis) : NamedSnapshot :=
  { s with view := s.view.at t }

def RecoveredPayload.at (p : RecoveredPayload) (t : Millis) : RecoveredPayload :=
  { p with payload := { p.payload with clocks := { p.payload.clocks with serverTime := t } } }

/-- The snapshot of an ended game shows what the database has. -/
structure NamedSnapshot.Shows (s : NamedSnapshot) (db : Db) (g : PersistedGame) : Prop where
  found : db.games.find s.allocation.game.id = some g
  ended : g.status.terminal = true
  allocation : mapAllocation g = .ok s.allocation
  moves : s.view.snapshot.moves = g.moves
  clocks : ∃ t, clockViewAt (Db.snapshotClock s.allocation.game) (.valid t) = .ok s.view.clocks
  white : db.identity s.allocation.players.1.guestSessionId = some s.identities.1
  black : db.identity s.allocation.players.2.guestSessionId = some s.identities.2

/-- Once a snapshot shows the end of its game, it shows what the database has. -/
def NamedSnapshot.Final (s : NamedSnapshot) (db : Db) : Prop :=
  s.allocation.game.status.terminal = true → ∃ g, s.Shows db g

section Views

variable {db : Db} {gameId : GameId} {guest : GuestSessionId} {observation : Micros}
  {view : GameSnapshotView} {s : NamedSnapshot} {g : PersistedGame}

theorem snapshot_of_ok (h : db.snapshot gameId guest observation = .ok view) :
    ∃ g, db.games.find gameId = some g ∧ mapAllocation g = .ok view.snapshot.allocation ∧
      view.snapshot.moves = g.moves ∧ guest ∈ view.snapshot.allocation.guests ∧
      clockViewAt (Db.snapshotClock view.snapshot.allocation.game)
        (.valid (truncatedToMillis observation)) = .ok view.clocks := by
  unfold Db.snapshot Db.findSnapshot Db.mapSnapshot at h
  cases hg : db.games.find gameId with
  | none =>
    rw [hg] at h
    cases h
  | some g =>
    rw [hg] at h
    obtain ⟨record,hrecord,h⟩ := bind_eq_ok.mp h
    simp only at hrecord
    cases ha : mapAllocation g with
    | error e =>
      rw [ha] at hrecord
      cases hrecord
    | ok a =>
      rw [ha] at hrecord
      cases hrecord
      simp only at h
      split_ifs at h with hguest
      split at h
      · cases h
      · rename_i clocks hclocks
        cases h
        exact ⟨g,rfl,ha,rfl,hguest,hclocks⟩

theorem snapshot_of (hg : db.games.find gameId = some g) {a : GameAllocation}
    (ha : mapAllocation g = .ok a) (hguest : guest ∈ a.guests) {clocks : ClockView}
    (hclocks : clockViewAt (Db.snapshotClock a.game) (.valid (truncatedToMillis observation)) =
      .ok clocks) :
    db.snapshot gameId guest observation =
      .ok ⟨⟨a,g.moves,.valid (truncatedToMillis observation)⟩,clocks⟩ := by
  unfold Db.snapshot Db.findSnapshot Db.mapSnapshot
  rw [hg]
  simp only [ha,Except.map,bind,Except.bind]
  rw [if_neg (not_not.mpr hguest),hclocks]

theorem clockViewAt_stopped {clock : GameClock} (hrunning : clock.running = none) {t : Millis}
    {shown : ClockView} (h : clockViewAt clock (.valid t) = .ok shown) (t' : Millis) :
    clockViewAt clock (.valid t') = .ok { shown with observedAt := .valid t' } := by
  unfold clockViewAt at h ⊢
  obtain ⟨_,hclock,h⟩ := bind_eq_ok.mp h
  rw [hclock]
  simp only [assertTimestamp,bind,Except.bind,hrunning] at h ⊢
  cases h
  rfl

theorem snapshotClock_ended {game : GameRecord} (h : game.status.terminal = true) :
    (Db.snapshotClock game).running = none := by
  have hstopped : ¬ (game.status = .inProgress ∨ game.status = .reconnecting) := by
    rintro (he | he) <;> simp [he,GameStatus.terminal] at h
  unfold Db.snapshotClock
  simp only [if_neg hstopped]

theorem namedSnapshot_ok (h : db.namedSnapshot gameId guest observation = .ok s) :
    db.snapshot gameId guest observation = .ok s.view ∧
      db.identity s.allocation.players.1.guestSessionId = some s.identities.1 ∧
      db.identity s.allocation.players.2.guestSessionId = some s.identities.2 := by
  unfold Db.namedSnapshot at h
  split at h
  · cases h
  · rename_i view hview
    split at h
    · rename_i white black hwhite hblack
      cases h
      exact ⟨hview,hwhite,hblack⟩
    · cases h

/-- What is read shows what the database has. -/
theorem namedSnapshot_final (h : db.namedSnapshot gameId guest observation = .ok s) :
    s.Final db := by
  intro hended
  obtain ⟨hview,hwhite,hblack⟩ := namedSnapshot_ok h
  obtain ⟨g,hg,ha,hmoves,_,hclocks⟩ := snapshot_of_ok hview
  obtain ⟨hgame,_⟩ := mapAllocation_eq ha
  have hid : s.allocation.game.id = gameId := by
    rw [NamedSnapshot.allocation,hgame]
    show g.id = gameId
    exact Table.find_key hg
  refine ⟨g,hid ▸ hg,?_,ha,hmoves,⟨_,hclocks⟩,hwhite,hblack⟩
  rw [NamedSnapshot.allocation,hgame] at hended
  exact hended

theorem NamedSnapshot.Shows.read (h : s.Shows db g) (hguest : guest ∈ s.allocation.guests)
    (observation : Micros) :
    db.namedSnapshot s.allocation.game.id guest observation =
      .ok (s.at (truncatedToMillis observation)) := by
  obtain ⟨t,ht⟩ := h.clocks
  have hstatus : s.allocation.game.status.terminal = true := by
    rw [(mapAllocation_eq h.allocation).1]
    exact h.ended
  have hclocks :=
    clockViewAt_stopped (snapshotClock_ended hstatus) ht (truncatedToMillis observation)
  have hview := snapshot_of h.found h.allocation hguest hclocks
  unfold Db.namedSnapshot
  rw [hview,← h.moves]
  have hwhite := h.white
  have hblack := h.black
  simp only [hwhite,hblack]
  rfl

theorem present_at (view : GameSnapshotView) (t : Millis) (guest : GuestSessionId) :
    present (view.at t) guest = (present view guest).map fun p =>
      { p with clocks := { p.clocks with serverTime := t } } := by
  unfold present
  have hplayers : (view.at t).players = view.players := rfl
  rw [hplayers]
  cases view.players.find? fun p => decide (p.guestSessionId = guest) with
  | none => rfl
  | some you =>
    cases view.players.find? fun p => decide (p.guestSessionId ≠ guest) with
    | none => rfl
    | some opponent => rfl

theorem presentNamed_at (s : NamedSnapshot) (t : Millis) (guest : GuestSessionId) :
    presentNamed (s.at t) guest = (presentNamed s guest).map fun p => p.at t := by
  unfold presentNamed
  have hcards : (s.at t).cards = s.cards := rfl
  have hview : (s.at t).view = s.view.at t := rfl
  rw [hcards,hview,present_at]
  cases present s.view guest with
  | none => rfl
  | some payload =>
    cases s.cards.find? fun card => decide (card.1 = guest) with
    | none => rfl
    | some you =>
      cases s.cards.find? fun card => decide (card.1 ≠ guest) with
      | none => rfl
      | some opponent => rfl

/-- The payload that is cached for a guest is the one that is presented to the guest. -/
theorem snapshotEntry_lookup {entry : SnapshotEntry} {payload : RecoveredPayload}
    (h : snapshotEntry s = some entry) (hlookup : entry.payloads.lookup guest = some payload) :
    entry.gameVersion = s.allocation.game.version ∧ presentNamed s guest = some payload := by
  unfold snapshotEntry GameSnapshotView.players at h
  simp only [List.mapM_cons,List.mapM_nil] at h
  cases hwhite : presentNamed s s.view.snapshot.allocation.players.1.guestSessionId with
  | none => simp [hwhite] at h
  | some white =>
    cases hblack : presentNamed s s.view.snapshot.allocation.players.2.guestSessionId with
    | none => simp [hwhite,hblack] at h
    | some black =>
      simp only [hwhite,hblack,Option.map_some,bind,Option.bind_some,pure] at h
      cases h
      refine ⟨rfl,?_⟩
      rw [List.lookup_cons] at hlookup
      split at hlookup
      · rename_i he
        rw [eq_of_beq he,← hlookup]
        exact hwhite
      · rw [List.lookup_cons] at hlookup
        split at hlookup
        · rename_i he
          rw [eq_of_beq he,← hlookup]
          exact hblack
        · cases hlookup

theorem presentNamed_status {payload : RecoveredPayload} (h : presentNamed s guest = some payload) :
    payload.payload.status = s.allocation.game.status := by
  unfold presentNamed at h
  obtain ⟨presented,hpresent,h⟩ := Option.bind_eq_some_iff.mp h
  obtain ⟨you,_,h⟩ := Option.bind_eq_some_iff.mp h
  obtain ⟨opponent,_,h⟩ := Option.bind_eq_some_iff.mp h
  cases h
  unfold present at hpresent
  split at hpresent
  · cases hpresent
    rfl
  · cases hpresent

end Views

/-! ### Runs -/

/-- What has been read or cached of an ended game is what the database has. -/
structure RecoveryState.Final (s : RecoveryState) : Prop where
  views : ∀ v ∈ s.views, v.Final s.db
  snapshots : ∀ id entry, s.snapshots id = some entry →
    ∃ v : NamedSnapshot, v.allocation.game.id = id ∧ snapshotEntry v = some entry ∧ v.Final s.db

def Db.Excludes (db : Db) (gameId : GameId) (guestSessionId : GuestSessionId) : Prop :=
  ∀ g, db.games.find gameId = some g → guestSessionId ∉ g.guests

section Runs

variable {chess : ChessEngine} {db : Db} {s : RecoveryState} {v : NamedSnapshot}
  {gameId : GameId} {guest : GuestSessionId}

theorem NamedSnapshot.Shows.referenced {g : PersistedGame} (h : v.Shows db g) :
    ∀ guest ∈ v.allocation.guests, db.guestReferenced guest = true := by
  intro guest hmem
  rw [(mapAllocation_ok h.allocation).2] at hmem
  obtain ⟨p,hp,rfl⟩ := List.mem_map.mp hmem
  exact guestReferenced_of_player h.found hp

theorem NamedSnapshot.Final.execute (h : v.Final db) (op : Operation) :
    v.Final (execute chess db op).2 := by
  intro hended
  obtain ⟨g,hg⟩ := h hended
  have hwhite := hg.referenced v.allocation.players.1.guestSessionId List.mem_cons_self
  have hblack := hg.referenced v.allocation.players.2.guestSessionId
    (List.mem_cons_of_mem _ List.mem_cons_self)
  exact ⟨g,(execute_change chess db op).find_ended hg.found hg.ended,hg.ended,hg.allocation,
    hg.moves,hg.clocks,execute_identity chess hg.white hwhite op,
    execute_identity chess hg.black hblack op⟩

theorem RecoveryState.Final.restoreSnapshot (h : s.Final) (hv : v.Final s.db) :
    (s.restoreSnapshot v).Final := by
  unfold RecoveryState.restoreSnapshot
  cases hentry : snapshotEntry v with
  | none => exact h
  | some entry =>
    refine ⟨h.views,fun id stored hstored => ?_⟩
    simp only at hstored
    by_cases he : id = v.allocation.game.id
    · subst he
      rw [Function.update_self] at hstored
      exact ⟨v,rfl,hentry.trans hstored,hv⟩
    · rw [Function.update_of_ne he] at hstored
      exact h.snapshots id stored hstored

/-- Every event keeps the ended snapshots final. -/
theorem RecoveryState.Final.apply (h : s.Final) (event : RecoveryEvent) :
    (s.apply chess event).Final := by
  cases event with
  | execute op =>
    refine ⟨fun v hv => (h.views v hv).execute op,fun id entry hentry => ?_⟩
    obtain ⟨v,hid,hv,hfinal⟩ := h.snapshots id entry hentry
    exact ⟨v,hid,hv,hfinal.execute op⟩
  | read gameId guest observation =>
    unfold RecoveryState.apply
    cases hread : s.db.namedSnapshot gameId guest observation with
    | error e =>
      simp only [hread]
      exact h
    | ok snapshot =>
      simp only [hread]
      refine ⟨fun v hv => ?_,h.snapshots⟩
      rcases List.mem_append.mp hv with hv | hv
      · exact h.views v hv
      · rw [List.mem_singleton.mp hv]
        exact namedSnapshot_final hread
  | restore index =>
    unfold RecoveryState.apply
    cases hview : s.views[index]? with
    | none =>
      simp only [hview]
      exact h
    | some snapshot =>
      simp only [hview]
      exact h.restoreSnapshot (h.views snapshot (List.mem_of_getElem? hview))
  | forget gameId =>
    refine ⟨h.views,fun id entry hentry => ?_⟩
    change Function.update s.snapshots gameId none id = some entry at hentry
    by_cases he : id = gameId
    · rw [he,Function.update_self] at hentry
      cases hentry
    · rw [Function.update_of_ne he] at hentry
      exact h.snapshots id entry hentry

theorem RecoveryState.Final.run (h : s.Final) (events : List RecoveryEvent) :
    ((recovery chess).run s events).Final :=
  (recovery chess).run_invariant (Q := fun _ => True) (fun _ event _ hs => hs.apply event) h
    fun _ _ => trivial

theorem NamedSnapshot.Final.apply (hv : v.Final s.db) (event : RecoveryEvent) :
    v.Final (s.apply chess event).db := by
  cases event with
  | execute op => exact hv.execute op
  | read gameId guest observation =>
    unfold RecoveryState.apply
    cases hread : s.db.namedSnapshot gameId guest observation with
    | error e =>
      simp only [hread]
      exact hv
    | ok snapshot =>
      simp only [hread]
      exact hv
  | restore index =>
    unfold RecoveryState.apply RecoveryState.restoreSnapshot
    simp only
    split
    · exact hv
    · split <;> exact hv
  | forget gameId => exact hv

/-- What was cached stays final, whatever happens before it is used. -/
theorem NamedSnapshot.Final.run (hv : v.Final s.db) (events : List RecoveryEvent) :
    v.Final ((recovery chess).run s events).db := by
  have hstep : ∀ s event, True → v.Final s.db → v.Final ((recovery chess).next s event).db :=
    fun s event _ hs => hs.apply event
  exact (recovery chess).run_invariant (P := fun s => v.Final s.db) hstep hv fun _ _ => trivial

theorem authorize_ok {a : GameAllocation} (h : db.authorize gameId guest = .ok a) :
    ∃ g, db.games.find gameId = some g ∧ mapAllocation g = .ok a ∧ guest ∈ a.guests := by
  unfold Db.authorize Db.findById at h
  cases hg : db.games.find gameId with
  | none =>
    rw [hg] at h
    cases h
  | some g =>
    rw [hg] at h
    obtain ⟨found,hfound,h⟩ := bind_eq_ok.mp h
    simp only at hfound
    cases ha : mapAllocation g with
    | error e =>
      rw [ha] at hfound
      cases hfound
    | ok a =>
      rw [ha] at hfound
      cases hfound
      simp only at h
      split_ifs at h with hguest
      cases h
      exact ⟨g,rfl,ha,hguest⟩

theorem cachedSnapshot_ok {cached : Option CachedGameSnapshot} {r : RecoveredGameSnapshot}
    (h : db.cachedSnapshot cached gameId guest = .ok (some r)) :
    ∃ a, cached = some ⟨r.gameVersion,r.payload⟩ ∧ r.gameId = gameId ∧
      r.payload.payload.status.terminal = true ∧ db.authorize gameId guest = .ok a ∧
      a.game.version = r.gameVersion := by
  unfold Db.cachedSnapshot at h
  cases cached with
  | none => cases h
  | some cached =>
    simp only at h
    split_ifs at h with hschema
    · rw [Bool.and_eq_true] at hschema
      cases ha : db.authorize gameId guest with
      | error e =>
        rw [ha] at h
        cases h
      | ok a =>
        rw [ha] at h
        simp only at h
        split_ifs at h with hsame
        · cases h
          exact ⟨a,rfl,rfl,hschema.2,rfl,hsame.1⟩
        · cases h
    · cases h

theorem Db.Excludes.authorize (h : db.Excludes gameId guest) (a : GameAllocation) :
    db.authorize gameId guest ≠ .ok a := by
  intro ha
  obtain ⟨g,hg,hmap,hguest⟩ := authorize_ok ha
  rw [(mapAllocation_ok hmap).2] at hguest
  exact h g hg hguest

theorem Db.Excludes.snapshot (h : db.Excludes gameId guest) (observation : Micros)
    (view : GameSnapshotView) : db.snapshot gameId guest observation ≠ .ok view := by
  intro hview
  obtain ⟨g,hg,hmap,_,hguest,_⟩ := snapshot_of_ok hview
  rw [(mapAllocation_ok hmap).2] at hguest
  exact h g hg hguest

theorem Db.Excludes.freshSnapshot (h : db.Excludes gameId guest) (observation : Micros) :
    ∃ e, db.freshSnapshot gameId guest observation = .error e := by
  unfold Db.freshSnapshot Db.namedSnapshot
  cases hview : db.snapshot gameId guest observation with
  | error e => exact ⟨_,rfl⟩
  | ok view => exact absurd hview (h.snapshot observation view)

theorem Db.Excludes.snapshotInternal {second : Db} (h : db.Excludes gameId guest)
    (hsecond : second.Excludes gameId guest) (cached : Option CachedGameSnapshot)
    (observation : Micros) :
    ∃ e, snapshotInternal cached db second gameId guest observation = .error e := by
  unfold CluChess.snapshotInternal
  cases hcached : db.cachedSnapshot cached gameId guest with
  | error e => exact ⟨e,rfl⟩
  | ok recovered =>
    cases recovered with
    | none => exact hsecond.freshSnapshot observation
    | some r =>
      obtain ⟨a,_,_,_,ha,_⟩ := cachedSnapshot_ok hcached
      exact absurd ha (h.authorize a)

/-- A payload of an ended game that is served from the cache is what the database gives. -/
theorem RecoveryState.Final.transparent (h : s.Final) {r : RecoveredGameSnapshot}
    (events : List RecoveryEvent)
    (hr : ((recovery chess).run s events).db.cachedSnapshot (s.readSnapshot gameId guest) gameId
      guest = .ok (some r)) (observation : Micros) :
    ((recovery chess).run s events).db.freshSnapshot gameId guest observation =
      .ok { r with payload := r.payload.at (truncatedToMillis observation) } := by
  obtain ⟨a,hcached,hid,hended,hauthorized,hversion⟩ := cachedSnapshot_ok hr
  obtain ⟨entry,hentry,hread⟩ := Option.bind_eq_some_iff.mp hcached
  obtain ⟨payload,hlookup,hread⟩ := Option.bind_eq_some_iff.mp hread
  obtain ⟨hstored,rfl⟩ := CachedGameSnapshot.mk.inj (Option.some.inj hread)
  obtain ⟨v,hgame,hv,hfinal⟩ := h.snapshots gameId entry hentry
  obtain ⟨hentryVersion,hpresent⟩ := snapshotEntry_lookup hv hlookup
  rw [presentNamed_status hpresent] at hended
  obtain ⟨g,hg⟩ := hfinal.run events hended
  obtain ⟨g',hfound,hmap,hguest⟩ := authorize_ok hauthorized
  -- the row that authorizes the guest is the row that the cached snapshot shows
  have hsame : g = g' := by
    have hfind := hg.found
    rw [hgame,hfound] at hfind
    exact (Option.some.inj hfind).symm
  subst hsame
  have hallocation : a = v.allocation := Except.ok.inj (hmap.symm.trans hg.allocation)
  have hread := hg.read (hallocation ▸ hguest) observation
  rw [hgame] at hread
  unfold Db.freshSnapshot
  rw [hread]
  simp only
  rw [presentNamed_at,hpresent,Option.map_some]
  simp only
  have hversions : (v.at (truncatedToMillis observation)).allocation.game.version =
      r.gameVersion := hentryVersion.symm.trans hstored
  rw [hversions,← hid]

end Runs

theorem ok_of_toOption_join {ε α : Type} {x : Except ε (Option α)} {a : α}
    (h : x.toOption.join = some a) : x = .ok (some a) := by
  cases x with
  | error e => cases h
  | ok o => exact congrArg Except.ok h

/-- White resigns, and the end is read and cached. -/
def sampleRecovery : List RecoveryEvent :=
  (sampleMoved ++ [Operation.resign ⟨sampleId 32,3,sampleId 10,sampleId 1⟩ 10000000]).map
    RecoveryEvent.execute ++ [.read (sampleId 10) (sampleId 1) 11000000,.restore 0]

def sampleRecovered : RecoveryState :=
  (recovery sampleEngine).run (.initial sampleSessions .empty) sampleRecovery

/-- What the cache serves is, but for the time of the server, what the database would give at
that moment, whatever was read, written to the cache and forgotten, in whatever order; and a
guest who is not a player is served by neither. -/
theorem snapshot_cache_transparent (chess : ChessEngine) (guestSessions : Table GuestSession.id)
    (sessionCommands : Table SessionCommand.idempotencyHash)
    (before between : List RecoveryEvent) (gameId : GameId) (guest : GuestSessionId) :
    let read := (recovery chess).run (.initial guestSessions sessionCommands) before
    let now := (recovery chess).run read between
    (∀ r, now.db.cachedSnapshot (read.readSnapshot gameId guest) gameId guest = .ok (some r) →
      ∀ observation, ∃ fresh,
        now.db.freshSnapshot gameId guest observation = .ok fresh ∧
        fresh.timeless = r.timeless) ∧
    (∀ cached first second observation, Db.Excludes first gameId guest →
      Db.Excludes second gameId guest →
      ∃ e, snapshotInternal cached first second gameId guest observation = .error e) := by
  intro read now
  have hinitial : (RecoveryState.initial guestSessions sessionCommands).Final :=
    ⟨fun v hv => absurd hv List.not_mem_nil,nofun⟩
  have hread : read.Final := hinitial.run before
  constructor
  · intro r hr observation
    exact ⟨_,hread.transparent between hr observation,rfl⟩
  · intro cached first second observation hfirst hsecond
    exact hfirst.snapshotInternal hsecond cached observation

theorem snapshot_cache_transparent_sample : ∃ r fresh,
    sampleRecovered.db.cachedSnapshot (sampleRecovered.readSnapshot (sampleId 10) (sampleId 2))
      (sampleId 10) (sampleId 2) = .ok (some r) ∧
    sampleRecovered.db.freshSnapshot (sampleId 10) (sampleId 2) 12000000 = .ok fresh ∧
    fresh.timeless = r.timeless := by
  have hserved : ((sampleRecovered.db.cachedSnapshot
      (sampleRecovered.readSnapshot (sampleId 10) (sampleId 2)) (sampleId 10)
        (sampleId 2)).toOption.join).isSome = true := by decide +kernel
  obtain ⟨r,hr⟩ := Option.isSome_iff_exists.mp hserved
  have hcached : sampleRecovered.db.cachedSnapshot
      (sampleRecovered.readSnapshot (sampleId 10) (sampleId 2)) (sampleId 10) (sampleId 2) =
        .ok (some r) := ok_of_toOption_join hr
  have hrun : (recovery sampleEngine).run (.initial sampleSessions .empty) sampleRecovery =
      sampleRecovered := by rw [sampleRecovered]
  have hnow : ∀ s, (recovery sampleEngine).run s [] = s := fun _ => rfl
  have htransparent := snapshot_cache_transparent sampleEngine sampleSessions .empty
    sampleRecovery [] (sampleId 10) (sampleId 2)
  simp only [hrun,hnow] at htransparent
  obtain ⟨fresh,hfresh,hsame⟩ := htransparent.1 r hcached 12000000
  exact ⟨r,fresh,hcached,hfresh,hsame⟩

end CluChess
