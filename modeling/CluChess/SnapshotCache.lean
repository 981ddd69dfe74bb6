import CluChess.GameRoom
import CluChess.WireProtocol

/-! `game-snapshot.presenter.ts`, and the part of `game-ephemeral-state.service.ts` that inspects
and restores what Redis keeps of a game. -/
namespace CluChess

structure PublicPlayer where
  color : WireColor
  connected : Bool
  deriving DecidableEq, Repr

structure SnapshotMove where
  color : WireColor
  ply : ℕ
  san : String
  uci : String
  deriving DecidableEq, Repr

structure GameSnapshotPayload where
  clocks : WireClocks
  currentFen : String
  initialFen : String
  moves : List SnapshotMove
  opponent : PublicPlayer
  result : Option GameResult
  status : GameStatus
  termination : Option GameTermination
  turn : WireColor
  you : PublicPlayer
  deriving DecidableEq, Repr

def Date.getTime : Date → Option Millis
  | .valid time => some time
  | .invalid => none

def publicPlayer (player : GamePlayerRecord) : PublicPlayer :=
  ⟨wireColor player.color,player.connectedAt.isSome⟩

def GameSnapshotView.players (view : GameSnapshotView) : List GamePlayerRecord :=
  [view.snapshot.allocation.players.1,view.snapshot.allocation.players.2]

/-- `GameSnapshotPresenter.present`; without both players it throws. -/
def present (view : GameSnapshotView) (guestSessionId : GuestSessionId) :
    Option GameSnapshotPayload :=
  match view.players.find? fun p => p.guestSessionId = guestSessionId,
    view.players.find? fun p => p.guestSessionId ≠ guestSessionId with
  | some you,some opponent =>
    let game := view.snapshot.allocation.game
    some {
      clocks := {
        blackMs := view.clocks.blackMs
        running := view.clocks.running.map wireColor
        serverTime := view.clocks.observedAt.getTime.getD 0
        whiteMs := view.clocks.whiteMs }
      currentFen := game.currentFen
      initialFen := game.initialFen
      moves := view.snapshot.moves.map fun m => ⟨wireColor m.color,m.ply,m.san,m.uci⟩
      opponent := publicPlayer opponent
      result := game.result
      status := game.status
      termination := game.termination
      turn := wireColor game.turnColor
      you := publicPlayer you }
  | _,_ => none

/-- The text of an active-game key: a game, or anything else. -/
inductive CachedGame
  | game (gameId : GameId)
  | other (text : String)
  deriving DecidableEq, Repr

inductive CachedSnapshot
  | snapshot (gameVersion : ℕ) (payloads : List (GuestSessionId × GameSnapshotPayload))
  | other (text : String)
  deriving DecidableEq, Repr

structure EphemeralKeys where
  activeGames : GuestSessionId → Option CachedGame
  states : GuestSessionId → Option String
  snapshots : GameId → Option CachedSnapshot
  graces : GameId × GuestSessionId → Option Millis

namespace EphemeralKeys

variable (keys : EphemeralKeys)

def setActiveGame (guestSessionId : GuestSessionId) (gameId : GameId) : EphemeralKeys :=
  { keys with activeGames := Function.update keys.activeGames guestSessionId (some (.game gameId)) }

def delActiveGame (guestSessionId : GuestSessionId) : EphemeralKeys :=
  { keys with activeGames := Function.update keys.activeGames guestSessionId none }

def setState (guestSessionId : GuestSessionId) (state : String) : EphemeralKeys :=
  { keys with states := Function.update keys.states guestSessionId (some state) }

def setSnapshot (gameId : GameId) (snapshot : CachedSnapshot) : EphemeralKeys :=
  { keys with snapshots := Function.update keys.snapshots gameId (some snapshot) }

/-- `SET` or `DEL` of a grace key. -/
def putGrace (gameId : GameId) (guestSessionId : GuestSessionId) (graceEndsAt : Option Millis) :
    EphemeralKeys :=
  { keys with graces := Function.update keys.graces (gameId,guestSessionId) graceEndsAt }

def clearActiveGame (guestSessionId : GuestSessionId) (expected : CachedGame) :
    Bool × EphemeralKeys :=
  if keys.activeGames guestSessionId = some expected then
    (true,(keys.delActiveGame guestSessionId).setState guestSessionId "IDLE")
  else if keys.activeGames guestSessionId = none ∧ keys.states guestSessionId = some "IN_GAME" then
    (true,keys.setState guestSessionId "IDLE")
  else (false,keys)

def restoreActiveGame (gameId : GameId) (guestSessionId : GuestSessionId) : EphemeralKeys :=
  (keys.setActiveGame guestSessionId gameId).setState guestSessionId "IN_GAME"

end EphemeralKeys

/-- A reply of the pipeline of `inspectAllocation`. -/
inductive InspectionReply
  | activeGame (value : Option CachedGame)
  | state (value : Option String)
  | exists (count : ℕ)
  deriving DecidableEq, Repr

def inspectionReplies (keys : EphemeralKeys) (allocation : GameAllocation) :
    List InspectionReply :=
  let players := [allocation.players.1,allocation.players.2]
  (players.map fun p => .activeGame (keys.activeGames p.guestSessionId)) ++
    (players.map fun p => .state (keys.states p.guestSessionId)) ++
    [.exists (if (keys.snapshots allocation.game.id).isSome then 1 else 0)] ++
    players.map fun p =>
      .exists (if (keys.graces (allocation.game.id,p.guestSessionId)).isSome then 1 else 0)

structure EphemeralAllocationState where
  graceDriftGuestSessionIds : List GuestSessionId
  missingActiveGuestSessionIds : List GuestSessionId
  missingStateGuestSessionIds : List GuestSessionId
  snapshotMissing : Bool
  deriving DecidableEq, Repr

/-- The grace of the player has not passed. -/
def GamePlayerRecord.inGrace (player : GamePlayerRecord) (now : Millis) : Bool :=
  player.reconnectGraceEndsAt.any fun e => decide (now < e)

/-- `inspectAllocation` decodes the replies by their positions. -/
def inspectAllocation (keys : EphemeralKeys) (allocation : GameAllocation) (now : Millis) :
    EphemeralAllocationState :=
  let results := inspectionReplies keys allocation
  let indexed := [allocation.players.1,allocation.players.2].zipIdx
  { graceDriftGuestSessionIds :=
      (indexed.filter fun (player,index) =>
        player.inGrace now ≠ decide (results[index + 5]? = some (.exists 1))).map
          fun (player,_) => player.guestSessionId
    missingActiveGuestSessionIds :=
      (indexed.filter fun (_,index) =>
        results[index]? ≠ some (.activeGame (some (.game allocation.game.id)))).map
          fun (player,_) => player.guestSessionId
    missingStateGuestSessionIds :=
      (indexed.filter fun (_,index) => results[index + 2]? ≠ some (.state (some "IN_GAME"))).map
        fun (player,_) => player.guestSessionId
    snapshotMissing := decide (results[4]? ≠ some (.exists 1)) }

def EphemeralKeys.restorePlayer (gameId : GameId) (keys : EphemeralKeys)
    (player : GamePlayerRecord) : EphemeralKeys :=
  keys.restoreActiveGame gameId player.guestSessionId

def EphemeralKeys.restoreGrace (gameId : GameId) (now : Millis) (keys : EphemeralKeys)
    (player : GamePlayerRecord) : EphemeralKeys :=
  keys.putGrace gameId player.guestSessionId
    (player.reconnectGraceEndsAt.filter fun e => decide (now < e))

/-- `restoreSnapshot`: nothing when the payloads cannot be built. -/
def EphemeralKeys.restoreSnapshot (keys : EphemeralKeys) (view : GameSnapshotView) (now : Millis) :
    Option EphemeralKeys := do
  let game := view.snapshot.allocation.game
  let payloads ← view.players.mapM fun p => (present view p.guestSessionId).map (p.guestSessionId,·)
  let keys := keys.setSnapshot game.id (.snapshot game.version payloads)
  let keys := if game.status.terminal then keys else view.players.foldl (restorePlayer game.id) keys
  let keys := view.players.foldl (restoreGrace game.id now) keys
  some (if game.status.terminal then view.players.foldl (fun keys p =>
      (keys.clearActiveGame p.guestSessionId (.game game.id)).2) keys
    else keys)

structure EphemeralKeys.HasPlayer (keys : EphemeralKeys) (now : Millis) (gameId : GameId)
    (guestSessionId : GuestSessionId) (reconnectGraceEndsAt : Option Millis) : Prop where
  active : keys.activeGames guestSessionId = some (.game gameId)
  state : keys.states guestSessionId = some "IN_GAME"
  grace : (keys.graces (gameId,guestSessionId)).isSome =
    reconnectGraceEndsAt.any fun e => decide (now < e)

/-- Redis agrees with the row of an active game. -/
structure EphemeralKeys.Agrees (keys : EphemeralKeys) (now : Millis) (g : PersistedGame) :
    Prop where
  snapshot : keys.snapshots g.id ≠ none
  players : ∀ p ∈ g.players, keys.HasPlayer now g.id p.guestSessionId p.reconnectGraceEndsAt

section Inspection

variable {db : Db} {keys : EphemeralKeys} {now : Millis} {a : GameAllocation} {g : PersistedGame}

theorem mapM_eq_ok {α β ε : Type} {f : α → Except ε β} {xs : List α} {ys : List β}
    (h : xs.mapM f = .ok ys) : List.Forall₂ (fun x y => f x = .ok y) xs ys := by
  induction xs generalizing ys with
  | nil =>
    cases h
    exact .nil
  | cons x xs ih =>
    rw [List.mapM_cons] at h
    obtain ⟨y,hy,h⟩ := bind_eq_ok.mp h
    obtain ⟨rest,hrest,h⟩ := bind_eq_ok.mp h
    cases h
    exact .cons hy (ih hrest)

theorem mapM_ok {α β ε : Type} {f : α → Except ε β} {xs : List α}
    (h : ∀ x ∈ xs, ∃ y, f x = .ok y) : ∃ ys, xs.mapM f = .ok ys := by
  induction xs with
  | nil => exact ⟨[],rfl⟩
  | cons x xs ih =>
    obtain ⟨y,hy⟩ := h x List.mem_cons_self
    obtain ⟨ys,hys⟩ := ih fun z hz => h z (List.mem_cons_of_mem _ hz)
    refine ⟨y :: ys,?_⟩
    rw [List.mapM_cons,hy,hys]
    rfl

theorem snapshot_allocation {id : GameId} {guest : GuestSessionId} {observation : Micros}
    {view : GameSnapshotView} (hg : db.games.find id = some g) (ha : mapAllocation g = .ok a)
    (h : db.snapshot id guest observation = .ok view) : view.snapshot.allocation = a := by
  unfold Db.snapshot Db.findSnapshot Db.mapSnapshot at h
  rw [hg] at h
  simp only [ha] at h
  obtain ⟨record,hrecord,h⟩ := bind_eq_ok.mp h
  cases hrecord
  simp only at h
  split_ifs at h
  split at h
  · cases h
  · cases h
    rfl

theorem forall_players (ha : mapAllocation g = .ok a)
    (P : GuestSessionId → Option Millis → Prop) :
    (∀ p ∈ g.players, P p.guestSessionId p.reconnectGraceEndsAt) ↔
      P a.players.1.guestSessionId a.players.1.reconnectGraceEndsAt ∧
        P a.players.2.guestSessionId a.players.2.reconnectGraceEndsAt := by
  have hmap : [a.players.1,a.players.2].map (fun r => (r.guestSessionId,r.reconnectGraceEndsAt)) =
      g.players.map fun p => (p.guestSessionId,p.reconnectGraceEndsAt) :=
    mapPlayers_map (fun p r hr => by rw [mapPlayer_ok hr]) (mapAllocation_eq ha).2
  have hall : (∀ p ∈ g.players, P p.guestSessionId p.reconnectGraceEndsAt) ↔
      ∀ x ∈ g.players.map fun p => (p.guestSessionId,p.reconnectGraceEndsAt), P x.1 x.2 := by
    rw [List.forall_mem_map]
  rw [hall,← hmap]
  simp only [List.map_cons,List.map_nil,List.forall_mem_cons,List.not_mem_nil,false_implies,
    implies_true,and_true]

theorem map_filter_pair {α β : Type*} (x y : α) (p : α × ℕ → Bool) (f : α × ℕ → β) :
    ([x,y].zipIdx.filter p).map f = [] ↔ p (x,0) = false ∧ p (y,1) = false := by
  simp [List.filter_eq_nil_iff]

theorem EphemeralKeys.hasPlayer_iff {gameId : GameId} {p : GamePlayerRecord} :
    keys.HasPlayer now gameId p.guestSessionId p.reconnectGraceEndsAt ↔
      keys.activeGames p.guestSessionId = some (.game gameId) ∧
      keys.states p.guestSessionId = some "IN_GAME" ∧
      p.inGrace now = (keys.graces (gameId,p.guestSessionId)).isSome :=
  ⟨fun h => ⟨h.active,h.state,h.grace.symm⟩,fun ⟨hactive,hstate,hgrace⟩ =>
    ⟨hactive,hstate,hgrace.symm⟩⟩

/-- An inspection reports nothing when Redis agrees with the row. -/
theorem inspectAllocation_eq_iff (ha : mapAllocation g = .ok a) :
    inspectAllocation keys a now = ⟨[],[],[],false⟩ ↔ keys.Agrees now g := by
  have hid := (mapAllocation_ok ha).1
  have hplayers := forall_players ha fun guest grace => keys.HasPlayer now g.id guest grace
  have hagrees : keys.Agrees now g ↔ keys.snapshots g.id ≠ none ∧
      keys.HasPlayer now g.id a.players.1.guestSessionId a.players.1.reconnectGraceEndsAt ∧
      keys.HasPlayer now g.id a.players.2.guestSessionId a.players.2.reconnectGraceEndsAt := by
    rw [← hplayers]
    exact ⟨fun h => ⟨h.snapshot,h.players⟩,fun h => ⟨h.1,h.2⟩⟩
  have hexists : ∀ b : Bool, decide (some (InspectionReply.exists (if b = true then 1 else 0)) =
      some (.exists 1)) = b := by decide
  rw [hagrees,← hid]
  unfold inspectAllocation
  simp only [EphemeralAllocationState.mk.injEq,map_filter_pair,EphemeralKeys.hasPlayer_iff]
  -- the replies are read at their positions
  simp only [inspectionReplies,List.map_cons,List.map_nil,List.cons_append,List.nil_append,
    List.getElem?_cons_succ,List.getElem?_cons_zero,zero_add,hexists,ne_eq,decide_not]
  simp only [Bool.not_eq_false',decide_eq_true_eq,Option.some.injEq,Option.isSome_iff_ne_none,
    InspectionReply.activeGame.injEq,InspectionReply.state.injEq,ne_eq]
  tauto

end Inspection

section Restoration

variable {keys keys' : EphemeralKeys} {now : Millis} {view : GameSnapshotView}

structure EphemeralKeys.Restored (keys : EphemeralKeys) (view : GameSnapshotView) (now : Millis)
    (keys' : EphemeralKeys) : Prop where
  active : ∀ guest, keys'.activeGames guest =
    if guest ∈ view.snapshot.allocation.guests then
      some (.game view.snapshot.allocation.game.id) else keys.activeGames guest
  state : ∀ guest, keys'.states guest =
    if guest ∈ view.snapshot.allocation.guests then some "IN_GAME" else keys.states guest
  snapshot : keys'.snapshots view.snapshot.allocation.game.id ≠ none
  snapshots : ∀ id, keys.snapshots id ≠ none → keys'.snapshots id ≠ none
  grace : ∀ p ∈ view.players,
    (keys'.graces (view.snapshot.allocation.game.id,p.guestSessionId)).isSome = p.inGrace now
  graces : ∀ id, id ≠ view.snapshot.allocation.game.id → ∀ guest,
    keys'.graces (id,guest) = keys.graces (id,guest)

theorem present_ne_none (hne : view.snapshot.allocation.players.1.guestSessionId ≠
    view.snapshot.allocation.players.2.guestSessionId) :
    ∀ p ∈ view.players, ∃ payload, present view p.guestSessionId = some payload := by
  intro p hp
  unfold present
  unfold GameSnapshotView.players at hp ⊢
  rcases List.mem_pair.mp hp with rfl | rfl
  · simp [hne.symm]
  · simp [hne]

theorem isSome_filter {α : Type*} (o : Option α) (p : α → Bool) :
    (o.filter p).isSome = o.any p := by
  cases o with
  | none => rfl
  | some a => cases h : p a <;> simp [h]

theorem EphemeralKeys.restoreSnapshot_ok (keys : EphemeralKeys) (now : Millis)
    (hne : view.snapshot.allocation.players.1.guestSessionId ≠
      view.snapshot.allocation.players.2.guestSessionId)
    (hlive : view.snapshot.allocation.game.status.terminal = false) :
    ∃ keys', keys.restoreSnapshot view now = some keys' ∧ keys.Restored view now keys' := by
  obtain ⟨you,hyou⟩ := present_ne_none hne _ List.mem_cons_self
  obtain ⟨opponent,hopponent⟩ := present_ne_none hne _ (List.mem_cons_of_mem _ List.mem_cons_self)
  unfold restoreSnapshot
  simp only [hlive,Bool.false_eq_true,if_false]
  unfold GameSnapshotView.players
  simp only [List.mapM_cons,List.mapM_nil,hyou,hopponent,List.foldl_cons,List.foldl_nil]
  refine ⟨_,rfl,?_⟩
  obtain ⟨⟨⟨game,p,q⟩,moves,observedAt⟩,clocks⟩ := view
  have hguests : ∀ guest, guest ∈ [p.guestSessionId,q.guestSessionId] ↔
      guest = q.guestSessionId ∨ guest = p.guestSessionId := fun guest =>
    List.mem_pair.trans or_comm
  constructor
  · intro guest
    simp only [GameAllocation.guests,hguests,ite_or,restoreGrace,putGrace,restorePlayer,
      restoreActiveGame,setActiveGame,setState,setSnapshot,Function.update_apply]
  · intro guest
    simp only [GameAllocation.guests,hguests,ite_or,restoreGrace,putGrace,restorePlayer,
      restoreActiveGame,setActiveGame,setState,setSnapshot,Function.update_apply]
  · simp only [restoreGrace,putGrace,restorePlayer,restoreActiveGame,setActiveGame,setState,
      setSnapshot,Function.update_self]
    exact Option.some_ne_none _
  · intro other hother
    simp only [restoreGrace,putGrace,restorePlayer,restoreActiveGame,setActiveGame,setState,
      setSnapshot,Function.update_apply]
    split_ifs
    · exact Option.some_ne_none _
    · exact hother
  · intro player hplayer
    simp only [restoreGrace,putGrace,Function.update_apply,Prod.mk.injEq,true_and]
    rcases List.mem_pair.mp hplayer with rfl | rfl
    · rw [if_neg hne,if_pos rfl,isSome_filter]
      rfl
    · rw [if_pos rfl,isSome_filter]
      rfl
  · intro other hother guest
    have hkey : ∀ player, (other,guest) ≠ (game.id,player) := fun _ he => hother (Prod.mk.inj he).1
    simp only [restoreGrace,putGrace,Function.update_apply,if_neg (hkey _)]
    rfl

end Restoration

end CluChess
