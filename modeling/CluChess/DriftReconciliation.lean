import CluChess.DurableSessions
import CluChess.KeysetPages
import CluChess.SingleStart
import CluChess.SnapshotCache

/-! `game-reconciliation.service.ts`: a run takes a page of the games that have not ended and a
page of the active-game keys, and repairs what Redis has of them. PostgreSQL does not change, and
nothing else writes to Redis. -/
namespace CluChess

/-- The listing is ordered by `updatedAt`, then `id`. -/
abbrev GameAllocationCursor := Millis ×ₗ GameId

structure ReconciliationConfig where
  batchSize : ℕ
  positive : 0 < batchSize
  updatedAt : GameId → Millis

def ReconciliationConfig.cursor (config : ReconciliationConfig) (id : GameId) :
    GameAllocationCursor := toLex (config.updatedAt id,id)

def activeStatuses : List GameStatus :=
  [.created,.waitingForPlayers,.ready,.inProgress,.reconnecting]

def PersistedGame.listed (g : PersistedGame) : Bool := decide (g.status ∈ activeStatuses)

def Db.activePage (db : Db) (config : ReconciliationConfig) (cursor : Option GameAllocationCursor) :
    List PersistedGame :=
  keysetPage (fun g => config.cursor g.id) db.games.rows PersistedGame.listed cursor config.batchSize

def Db.findActiveAllocations (db : Db) (config : ReconciliationConfig)
    (cursor : Option GameAllocationCursor) : Except GameServiceError (List GameAllocation) :=
  (db.activePage config cursor).mapM mapAllocation

structure GameReconciliationReport where
  activeGameRepairs : ℕ
  graceRepairs : ℕ
  snapshotRepairs : ℕ
  staleActiveGameRepairs : ℕ
  stateRepairs : ℕ
  deriving DecidableEq, Repr

def GameReconciliationReport.zero : GameReconciliationReport := ⟨0,0,0,0,0⟩

def EphemeralAllocationState.snapshotDrift (state : EphemeralAllocationState) : ℕ :=
  if state.snapshotMissing then 1 else 0

def EphemeralAllocationState.driftCount (state : EphemeralAllocationState) : ℕ :=
  state.missingActiveGuestSessionIds.length + state.missingStateGuestSessionIds.length +
    state.graceDriftGuestSessionIds.length + state.snapshotDrift

def GameReconciliationReport.repaired (report : GameReconciliationReport)
    (state : EphemeralAllocationState) : GameReconciliationReport where
  activeGameRepairs := report.activeGameRepairs + state.missingActiveGuestSessionIds.length
  graceRepairs := report.graceRepairs + state.graceDriftGuestSessionIds.length
  snapshotRepairs := report.snapshotRepairs + state.snapshotDrift
  staleActiveGameRepairs := report.staleActiveGameRepairs
  stateRepairs := report.stateRepairs + state.missingStateGuestSessionIds.length

/-- A key that `SCAN` returns: that of a guest, or one whose name has no UUID. -/
inductive ActiveGameKey
  | user (guestSessionId : GuestSessionId)
  | other (name : String)
  deriving DecidableEq, Repr

/-- A run: the instants of its clocks, and what `SCAN` replies. -/
structure ReconciliationRun where
  inspectedAt : ℕ → Millis
  snapshotAt : ℕ → Micros
  restoredAt : ℕ → Millis
  eligibleAt : Millis
  nextCursor : String
  keys : List ActiveGameKey

inductive ReconciliationError
  | service (error : GameServiceError)
  | error (message : String)
  deriving DecidableEq, Repr

structure Reconciliation where
  databaseCursor : Option GameAllocationCursor
  redisCursor : String
  keys : EphemeralKeys

def reconcileAllocations (db : Db) (run : ReconciliationRun) :
    ℕ → List GameAllocation → GameReconciliationReport → EphemeralKeys →
      Except ReconciliationError GameReconciliationReport × EphemeralKeys
  | _,[],report,keys => (.ok report,keys)
  | index,allocation :: allocations,report,keys =>
    let state := inspectAllocation keys allocation (run.inspectedAt index)
    if state.driftCount = 0 then reconcileAllocations db run (index + 1) allocations report keys
    else
      match db.snapshot allocation.game.id allocation.players.1.guestSessionId
        (run.snapshotAt index) with
      | .error e => (.error (.service e),keys)
      | .ok snapshot =>
        match keys.restoreSnapshot snapshot (run.restoredAt index) with
        | none => (.error (.error "Redis rejected active-game reconciliation."),keys)
        | some keys =>
          reconcileAllocations db run (index + 1) allocations (report.repaired state) keys

/-- `reconcileDurableGames` moves the cursor before it comes to the games. -/
def reconcileDurableGames (config : ReconciliationConfig) (db : Db) (run : ReconciliationRun)
    (s : Reconciliation) : Except ReconciliationError GameReconciliationReport × Reconciliation :=
  match db.findActiveAllocations config s.databaseCursor with
  | .error e => (.error (.service e),s)
  | .ok allocations =>
    let (report,keys) := reconcileAllocations db run 0 allocations .zero s.keys
    (report,{ s with
      databaseCursor := cursorAfter (fun a => config.cursor a.game.id) config.batchSize allocations
      keys := keys })

def reconcileActiveKey (db : Db) (eligibleAt : Millis) :
    GameReconciliationReport × EphemeralKeys → ActiveGameKey →
      GameReconciliationReport × EphemeralKeys
  | s,.other _ => s
  | (report,keys),.user guestSessionId =>
    let cachedGameId := keys.activeGames guestSessionId
    let eligibility := db.getGuestMatchEligibility guestSessionId eligibleAt
    if cachedGameId = eligibility.activeGameId.map .game then (report,keys)
    else
      let (repaired,keys) := match eligibility.activeGameId with
        | none => keys.clearActiveGame guestSessionId (cachedGameId.getD (.other ""))
        | some gameId => (true,keys.restoreActiveGame gameId guestSessionId)
      (if repaired then
        { report with staleActiveGameRepairs := report.staleActiveGameRepairs + 1 } else report,keys)

/-- The keys of the page that the run comes to. -/
def ReconciliationRun.slice (run : ReconciliationRun) (config : ReconciliationConfig) :
    List ActiveGameKey := run.keys.take config.batchSize

def reconcileRedisActiveKeys (config : ReconciliationConfig) (db : Db) (run : ReconciliationRun)
    (report : GameReconciliationReport) (s : Reconciliation) :
    GameReconciliationReport × Reconciliation :=
  let (report,keys) :=
    (run.slice config).foldl (reconcileActiveKey db run.eligibleAt) (report,s.keys)
  (report,{ s with redisCursor := run.nextCursor, keys := keys })

def runOnce (config : ReconciliationConfig) (db : Db) (run : ReconciliationRun)
    (s : Reconciliation) : Except ReconciliationError GameReconciliationReport × Reconciliation :=
  match reconcileDurableGames config db run s with
  | (.error e,s) => (.error e,s)
  | (.ok report,s) => Prod.map .ok id (reconcileRedisActiveKeys config db run report s)

def reconciliations (config : ReconciliationConfig) (db : Db) :
    Machine Reconciliation ReconciliationRun
      (Except ReconciliationError GameReconciliationReport) where
  step s run := runOnce config db run s

/-- No deadline of a reconnect grace passes between `now` and the instants of the run. -/
def ReconciliationRun.SameGraces (run : ReconciliationRun) (db : Db) (now : Millis) : Prop :=
  ∀ g ∈ db.games.rows, ∀ p ∈ g.players, ∀ e ∈ p.reconnectGraceEndsAt, ∀ i,
    (run.inspectedAt i < e ↔ now < e) ∧ (run.restoredAt i < e ↔ now < e)

/-- What the runs repair: the keys of the games that have not ended, and the active-game keys of
guests without an assignment. From then on no run finds anything to repair. -/
structure Converged (config : ReconciliationConfig) (db : Db) (now : Millis) (s : Reconciliation) :
    Prop where
  games : ∀ g ∈ db.games.rows, g.status.terminal = false → s.keys.Agrees now g
  stale : ∀ guest, db.assignedGame guest = none → s.keys.activeGames guest = none
  reports : ∀ runs : List ReconciliationRun, (∀ run ∈ runs, run.SameGraces db now) →
    ∀ e ∈ (reconciliations config db).events s runs, e.answer = .ok .zero

section Rows

variable {chess : ChessEngine} {db : Db} {g g' : PersistedGame} {a : GameAllocation} {now : Millis}

theorem listed_iff (g : PersistedGame) : g.listed = true ↔ g.status.terminal = false := by
  unfold PersistedGame.listed activeStatuses
  cases g.status <;> decide

theorem eligibility_activeGame (h : db.Reachable chess) (guest : GuestSessionId) (t : Millis) :
    (db.getGuestMatchEligibility guest t).activeGameId = db.assignedGame guest := by
  unfold Db.getGuestMatchEligibility Db.assignedGame
  simp only
  cases ha : db.assignments.find guest with
  | none =>
    cases hs : db.guestSessions.find guest with
    | none => rfl
    | some session =>
      have hid := Table.find_key hs
      rw [Option.bind_some,hid,ha]
  | some assignment =>
    have hjoined := h.assignmentsJoined assignment (Table.find_mem ha)
    rw [Table.find_key ha] at hjoined
    obtain ⟨session,hs⟩ := Option.ne_none_iff_exists'.mp hjoined
    rw [hs,Option.bind_some,Table.find_key hs,ha]

theorem assigned_of_player (h : db.Reachable chess) (hg : g ∈ db.games.rows)
    (hlive : g.status.terminal = false) {p : GamePlayer} (hp : p ∈ g.players) :
    db.assignedGame p.guestSessionId = some g.id := by
  unfold Db.assignedGame
  rw [h.sound.players g.id g (Table.find_of_mem hg) hlive p hp]
  rfl

theorem player_of_assigned (h : db.Reachable chess) {guest : GuestSessionId} {id : GameId}
    (ha : db.assignedGame guest = some id) : ∃ g ∈ db.games.rows, g.id = id ∧
      g.status.terminal = false ∧ ∃ p ∈ g.players, p.guestSessionId = guest := by
  obtain ⟨a,hfind,rfl⟩ := Option.map_eq_some_iff.mp ha
  obtain ⟨g,hg,hlive,p,hp,hguest⟩ := h.sound.assigned a (Table.find_mem hfind)
  exact ⟨g,Table.find_mem hg,Table.find_key hg,hlive,p,hp,hguest.trans (Table.find_key hfind)⟩

end Rows

/-- The keys of the games that agree are kept, and of the active-game keys of guests without an
assignment those that have not been visited. -/
structure Repairs (db : Db) (now : Millis) (visited : GuestSessionId → Prop)
    (keys keys' : EphemeralKeys) : Prop where
  kept : ∀ g ∈ db.games.rows, g.status.terminal = false → keys.Agrees now g → keys'.Agrees now g
  stale : ∀ guest, db.assignedGame guest = none →
    (keys'.activeGames guest ≠ none ↔ keys.activeGames guest ≠ none ∧ ¬ visited guest)

section Repairs

variable {chess : ChessEngine} {db : Db} {g : PersistedGame} {a : GameAllocation} {now : Millis}
  {keys keys₁ keys' : EphemeralKeys} {visited visited' : GuestSessionId → Prop}

theorem Repairs.refl (db : Db) (now : Millis) (keys : EphemeralKeys) :
    Repairs db now (fun _ => False) keys keys :=
  ⟨fun _ _ _ h => h,fun _ _ => ⟨fun h => ⟨h,not_false⟩,And.left⟩⟩

theorem Repairs.trans (h : Repairs db now visited keys keys₁)
    (h' : Repairs db now visited' keys₁ keys') :
    Repairs db now (fun guest => visited guest ∨ visited' guest) keys keys' := by
  refine ⟨fun g hg hlive hagrees => h'.kept g hg hlive (h.kept g hg hlive hagrees),
    fun guest hguest => ?_⟩
  rw [h'.stale guest hguest,h.stale guest hguest,and_assoc,not_or]

theorem Repairs.congr (h : Repairs db now visited keys keys')
    (hv : ∀ guest, visited guest ↔ visited' guest) : Repairs db now visited' keys keys' :=
  ⟨h.kept,fun guest hguest => by rw [h.stale guest hguest,hv guest]⟩

def PersistedGame.SameGrace (g : PersistedGame) (t now : Millis) : Prop :=
  ∀ p ∈ g.players, ∀ e ∈ p.reconnectGraceEndsAt, t < e ↔ now < e

theorem PersistedGame.SameGrace.agrees_iff {t : Millis} (h : g.SameGrace t now) :
    keys.Agrees t g ↔ keys.Agrees now g := by
  have hgrace : ∀ p ∈ g.players, (p.reconnectGraceEndsAt.any fun e => decide (t < e)) =
      p.reconnectGraceEndsAt.any fun e => decide (now < e) := by
    intro p hp
    cases he : p.reconnectGraceEndsAt with
    | none => rfl
    | some e => exact decide_eq_decide.mpr (h p hp e he)
  constructor
  · intro hagrees
    refine ⟨hagrees.snapshot,fun p hp => ?_⟩
    obtain ⟨hactive,hstate,hkey⟩ := hagrees.players p hp
    exact ⟨hactive,hstate,hkey.trans (hgrace p hp)⟩
  · intro hagrees
    refine ⟨hagrees.snapshot,fun p hp => ?_⟩
    obtain ⟨hactive,hstate,hkey⟩ := hagrees.players p hp
    exact ⟨hactive,hstate,hkey.trans (hgrace p hp).symm⟩

theorem EphemeralKeys.Restored.repairs (h : db.Reachable chess) (hg : g ∈ db.games.rows)
    (hlive : g.status.terminal = false) (ha : mapAllocation g = .ok a) {view : GameSnapshotView}
    (hview : view.snapshot.allocation = a) {t : Millis} (hsame : g.SameGrace t now)
    (hr : keys.Restored view t keys') :
    Repairs db now (fun _ => False) keys keys' ∧ keys'.Agrees now g := by
  subst hview
  obtain ⟨hid,hguests⟩ := mapAllocation_ok ha
  have hagrees : keys'.Agrees now g := by
    refine hsame.agrees_iff.mp ⟨hid ▸ hr.snapshot,?_⟩
    rw [forall_players ha fun guest grace => keys'.HasPlayer t g.id guest grace]
    have hplayer : ∀ p ∈ view.players,
        keys'.HasPlayer t g.id p.guestSessionId p.reconnectGraceEndsAt := by
      intro p hp
      have hmem : p.guestSessionId ∈ view.snapshot.allocation.guests := by
        rcases List.mem_pair.mp hp with rfl | rfl
        · exact List.mem_cons_self
        · exact List.mem_cons_of_mem _ List.mem_cons_self
      refine ⟨?_,?_,hid ▸ hr.grace p hp⟩
      · rw [hr.active,if_pos hmem,hid]
      · rw [hr.state,if_pos hmem]
    exact ⟨hplayer _ List.mem_cons_self,hplayer _ (List.mem_cons_of_mem _ List.mem_cons_self)⟩
  have hassigned : ∀ guest ∈ view.snapshot.allocation.guests,
      db.assignedGame guest = some g.id := by
    intro guest hguest
    obtain ⟨p,hp,rfl⟩ := List.mem_map.mp (hguests ▸ hguest)
    exact assigned_of_player h hg hlive hp
  refine ⟨⟨fun x hx hxlive hxagrees => ?_,fun guest hguest => ?_⟩,hagrees⟩
  · by_cases he : x.id = g.id
    · have hxg : x = g := Option.some.inj
        ((Table.find_of_mem hx).symm.trans (he ▸ Table.find_of_mem hg))
      exact hxg ▸ hagrees
    · refine ⟨hr.snapshots _ hxagrees.snapshot,fun p hp => ?_⟩
      have hother : p.guestSessionId ∉ view.snapshot.allocation.guests := by
        intro hmem
        have hx := (assigned_of_player h hx hxlive hp).symm.trans (hassigned _ hmem)
        exact he (Option.some.inj hx)
      obtain ⟨hactive,hstate,hgrace⟩ := hxagrees.players p hp
      refine ⟨?_,?_,?_⟩
      · rw [hr.active,if_neg hother,hactive]
      · rw [hr.state,if_neg hother,hstate]
      · rw [hr.graces x.id (hid ▸ he),hgrace]
  · have hother : guest ∉ view.snapshot.allocation.guests := by
      intro hmem
      rw [hassigned guest hmem] at hguest
      cases hguest
    rw [hr.active,if_neg hother]
    exact ⟨fun hkey => ⟨hkey,not_false⟩,And.left⟩

theorem reconcileActiveKey_repairs (h : db.Reachable chess) (now t : Millis)
    (report : GameReconciliationReport) (keys : EphemeralKeys) (key : ActiveGameKey) :
    Repairs db now (fun guest => .user guest = key) keys
      (reconcileActiveKey db t (report,keys) key).2 := by
  cases key with
  | other name => exact (Repairs.refl db now keys).congr fun _ => ⟨False.elim,nofun⟩
  | user u =>
    have hvisited : ∀ guest, ActiveGameKey.user guest = .user u ↔ guest = u := fun guest =>
      ActiveGameKey.user.injEq guest u ▸ Iff.rfl
    unfold reconcileActiveKey
    simp only [eligibility_activeGame h]
    by_cases hcached : keys.activeGames u = (db.assignedGame u).map .game
    · rw [if_pos hcached]
      refine ⟨fun _ _ _ hagrees => hagrees,fun guest hguest => ?_⟩
      rw [hvisited]
      constructor
      · intro hkey
        refine ⟨hkey,?_⟩
        rintro rfl
        rw [hguest] at hcached
        exact hkey hcached
      · exact And.left
    · rw [if_neg hcached]
      cases ha : db.assignedGame u with
      | none =>
        rw [ha] at hcached
        obtain ⟨cached,hkey⟩ := Option.ne_none_iff_exists'.mp hcached
        simp only [hkey,Option.getD_some,EphemeralKeys.clearActiveGame,if_true]
        refine ⟨fun g hg hlive hagrees => ⟨hagrees.snapshot,fun p hp => ?_⟩,fun guest _ => ?_⟩
        · have hne : p.guestSessionId ≠ u := by
            rintro rfl
            rw [assigned_of_player h hg hlive hp] at ha
            cases ha
          obtain ⟨hactive,hstate,hgrace⟩ := hagrees.players p hp
          refine ⟨?_,?_,hgrace⟩
          · exact (Function.update_of_ne hne _ _).trans hactive
          · exact (Function.update_of_ne hne _ _).trans hstate
        · rw [hvisited]
          simp only [EphemeralKeys.setState,EphemeralKeys.delActiveGame]
          by_cases he : guest = u
          · rw [he,Function.update_self]
            exact ⟨fun hn => absurd rfl hn,fun hn => absurd rfl hn.2⟩
          · rw [Function.update_of_ne he]
            exact ⟨fun hn => ⟨hn,he⟩,And.left⟩
      | some id =>
        simp only
        refine ⟨fun g hg hlive hagrees => ⟨hagrees.snapshot,fun p hp => ?_⟩,
          fun guest hguest => ?_⟩
        · obtain ⟨hactive,hstate,hgrace⟩ := hagrees.players p hp
          simp only [EphemeralKeys.restoreActiveGame,EphemeralKeys.setActiveGame,
            EphemeralKeys.setState]
          by_cases he : p.guestSessionId = u
          · have hassigned := assigned_of_player h hg hlive hp
            rw [he,ha] at hassigned
            obtain rfl : id = g.id := Option.some.inj hassigned
            refine ⟨?_,?_,hgrace⟩
            · exact he ▸ Function.update_self ..
            · exact he ▸ Function.update_self ..
          · refine ⟨?_,?_,hgrace⟩
            · exact (Function.update_of_ne he _ _).trans hactive
            · exact (Function.update_of_ne he _ _).trans hstate
        · have hne : guest ≠ u := by
            rintro rfl
            rw [ha] at hguest
            cases hguest
          rw [hvisited]
          simp only [EphemeralKeys.restoreActiveGame,EphemeralKeys.setActiveGame,
            EphemeralKeys.setState,Function.update_of_ne hne]
          exact ⟨fun hn => ⟨hn,hne⟩,And.left⟩

theorem foldl_reconcileActiveKey (h : db.Reachable chess) (now t : Millis)
    (page : List ActiveGameKey) (s : GameReconciliationReport × EphemeralKeys) :
    Repairs db now (fun guest => .user guest ∈ page) s.2
      (page.foldl (reconcileActiveKey db t) s).2 := by
  induction page generalizing s with
  | nil => exact (Repairs.refl db now s.2).congr fun _ => ⟨False.elim,fun hn => by cases hn⟩
  | cons key page ih =>
    refine ((reconcileActiveKey_repairs h now t s.1 s.2 key).trans (ih _)).congr fun guest => ?_
    exact List.mem_cons.symm

theorem driftCount_eq_zero {state : EphemeralAllocationState} :
    state.driftCount = 0 ↔ state = ⟨[],[],[],false⟩ := by
  obtain ⟨graces,actives,states,snapshot⟩ := state
  unfold EphemeralAllocationState.driftCount EphemeralAllocationState.snapshotDrift
  cases snapshot <;> simp [List.length_eq_zero_iff,and_comm]

theorem reconcileAllocations_repairs (h : db.Reachable chess) {run : ReconciliationRun}
    (hrun : run.SameGraces db now) {games : List PersistedGame}
    (hgames : ∀ g ∈ games, g ∈ db.games.rows ∧ g.status.terminal = false)
    {allocations : List GameAllocation}
    (hmap : List.Forall₂ (fun g a => mapAllocation g = .ok a) games allocations)
    (index : ℕ) (report : GameReconciliationReport) (keys : EphemeralKeys) :
    ∃ report' keys', reconcileAllocations db run index allocations report keys =
        (.ok report',keys') ∧ Repairs db now (fun _ => False) keys keys' ∧
      ∀ g ∈ games, keys'.Agrees now g := by
  induction hmap generalizing index report keys with
  | nil =>
    exact ⟨report,keys,rfl,.refl db now keys,fun _ hx => absurd hx List.not_mem_nil⟩
  | @cons g a games allocations ha _ ih =>
    obtain ⟨hg,hlive⟩ := hgames g List.mem_cons_self
    have hrest := ih fun x hx => hgames x (List.mem_cons_of_mem _ hx)
    -- the game agrees after its turn, and the games after it keep that
    have hgo : ∀ report₁ keys₁, keys₁.Agrees now g → Repairs db now (fun _ => False) keys keys₁ →
        reconcileAllocations db run index (a :: allocations) report keys =
          reconcileAllocations db run (index + 1) allocations report₁ keys₁ →
        ∃ report' keys', reconcileAllocations db run index (a :: allocations) report keys =
            (.ok report',keys') ∧ Repairs db now (fun _ => False) keys keys' ∧
          ∀ x ∈ g :: games, keys'.Agrees now x := by
      intro report₁ keys₁ hagrees hrepairs heq
      obtain ⟨report',keys',hloop,hrepairs',hvisited⟩ := hrest (index + 1) report₁ keys₁
      refine ⟨report',keys',heq.trans hloop,?_,fun x hx => ?_⟩
      · exact (hrepairs.trans hrepairs').congr fun _ => or_self_iff
      · rcases List.mem_cons.mp hx with rfl | hx
        · exact hrepairs'.kept _ hg hlive hagrees
        · exact hvisited x hx
    have hinspected : g.SameGrace (run.inspectedAt index) now := fun p hp e he =>
      (hrun g hg p hp e he index).1
    have hrestored : g.SameGrace (run.restoredAt index) now := fun p hp e he =>
      (hrun g hg p hp e he index).2
    have hdrift : (inspectAllocation keys a (run.inspectedAt index)).driftCount = 0 ↔
        keys.Agrees now g := by
      rw [driftCount_eq_zero,inspectAllocation_eq_iff ha,hinspected.agrees_iff]
    by_cases hzero : (inspectAllocation keys a (run.inspectedAt index)).driftCount = 0
    · refine hgo report keys (hdrift.mp hzero) (.refl db now keys) ?_
      rw [reconcileAllocations,if_pos hzero]
    · obtain ⟨hid,hguests⟩ := mapAllocation_ok ha
      have hrow : db.games.find a.game.id = some g := hid ▸ Table.find_of_mem hg
      have hmember : a.players.1.guestSessionId ∈ g.guests := hguests ▸ List.mem_cons_self
      obtain ⟨view,hview⟩ := snapshot_ok h hrow hmember (run.snapshotAt index)
      have hallocation := snapshot_allocation hrow ha hview
      have hne : a.players.1.guestSessionId ≠ a.players.2.guestSessionId := by
        obtain ⟨p,q,hpair,_,_,_,_,hpq⟩ := (h.sound.games _ g hrow).pair
        have hlist : [a.players.1.guestSessionId,a.players.2.guestSessionId] =
            [p.guestSessionId,q.guestSessionId] := by
          have hg := hguests
          unfold GameAllocation.guests PersistedGame.guests at hg
          rwa [hpair] at hg
        obtain ⟨h₁,h₂⟩ := List.cons.inj hlist
        rw [h₁,(List.cons.inj h₂).1]
        exact hpq
      have hstatus : a.game.status.terminal = false := by
        rw [(mapAllocation_eq ha).1]
        exact hlive
      obtain ⟨keys₁,hkeys,hr⟩ := keys.restoreSnapshot_ok (run.restoredAt index)
        (hallocation ▸ hne) (hallocation ▸ hstatus)
      obtain ⟨hrepairs,hagrees⟩ := hr.repairs h hg hlive ha hallocation hrestored
      refine hgo (report.repaired (inspectAllocation keys a (run.inspectedAt index))) keys₁ hagrees
        hrepairs ?_
      rw [reconcileAllocations,if_neg hzero]
      simp only [hview,hkeys]

end Repairs

section Runs

variable {chess : ChessEngine} {config : ReconciliationConfig} {db : Db} {now : Millis}
  {run : ReconciliationRun} {s : Reconciliation}

theorem findActiveAllocations_ok (h : db.Reachable chess) (config : ReconciliationConfig)
    (cursor : Option GameAllocationCursor) :
    ∃ allocations, db.findActiveAllocations config cursor = .ok allocations := by
  refine mapM_ok fun g hg => mapAllocation_of_sound ?_
  exact h.sound.games g.id g (Table.find_of_mem (mem_keysetPage hg).1)

/-- A run reports, repairs the games of its page and comes to the keys of its slice. -/
theorem runOnce_repairs (h : db.Reachable chess) (hrun : run.SameGraces db now)
    (s : Reconciliation) : ∃ report s', runOnce config db run s = (.ok report,s') ∧
      Repairs db now (fun guest => .user guest ∈ run.slice config) s.keys s'.keys ∧
      s'.databaseCursor = cursorAfter (fun g : PersistedGame => config.cursor g.id) config.batchSize
        (db.activePage config s.databaseCursor) ∧
      ∀ g ∈ db.activePage config s.databaseCursor, s'.keys.Agrees now g := by
  have hpage : ∀ g ∈ db.activePage config s.databaseCursor,
      g ∈ db.games.rows ∧ g.status.terminal = false := by
    intro g hg
    obtain ⟨hrow,hlisted,_⟩ := mem_keysetPage hg
    exact ⟨hrow,(listed_iff g).mp hlisted⟩
  obtain ⟨allocations,hallocations⟩ := findActiveAllocations_ok h config s.databaseCursor
  have hmap := mapM_eq_ok hallocations
  have hids : allocations.map (fun a => a.game.id) =
      (db.activePage config s.databaseCursor).map fun g => g.id := by
    rw [← List.forall₂_eq_eq_eq,List.forall₂_map_left_iff,List.forall₂_map_right_iff]
    exact List.Forall₂.flip (hmap.imp fun _ _ ha => (mapAllocation_ok ha).1)
  obtain ⟨report,keys,hloop,hrepairs,hagrees⟩ :=
    reconcileAllocations_repairs h hrun hpage hmap 0 .zero s.keys
  have hcursor : cursorAfter (fun a : GameAllocation => config.cursor a.game.id) config.batchSize
      allocations = cursorAfter (fun g : PersistedGame => config.cursor g.id) config.batchSize
        (db.activePage config s.databaseCursor) := by
    rw [← cursorAfter_map config.cursor (fun a : GameAllocation => a.game.id),hids,
      cursorAfter_map config.cursor]
  have hkeys := foldl_reconcileActiveKey h now run.eligibleAt (run.slice config) (report,keys)
  set visited := (run.slice config).foldl (reconcileActiveKey db run.eligibleAt) (report,keys)
    with hvisited
  refine ⟨visited.1,⟨cursorAfter (fun a => config.cursor a.game.id) config.batchSize allocations,
    run.nextCursor,visited.2⟩,?_,?_,hcursor,?_⟩
  · unfold runOnce reconcileDurableGames
    rw [hallocations]
    simp only [hloop]
    rfl
  · exact (hrepairs.trans hkeys).congr fun _ => by rw [false_or]
  · exact fun g hg => hkeys.kept g (hpage g hg).1 (hpage g hg).2 (hagrees g hg)

theorem runs_repair (config : ReconciliationConfig) (h : db.Reachable chess) {runs : List ReconciliationRun}
    (hruns : ∀ run ∈ runs, run.SameGraces db now) (s : Reconciliation) :
    Repairs db now (fun guest => ∃ run ∈ runs, .user guest ∈ run.slice config) s.keys
      ((reconciliations config db).run s runs).keys := by
  induction runs generalizing s with
  | nil =>
    exact (Repairs.refl db now s.keys).congr fun _ => ⟨False.elim,fun ⟨_,hr,_⟩ => by cases hr⟩
  | cons run runs ih =>
    obtain ⟨_,s',hrun,hrepairs,_⟩ := runOnce_repairs h (hruns run List.mem_cons_self) s
    have hnext : (reconciliations config db).next s run = s' := congrArg Prod.snd hrun
    have hrest := ih (fun r hr => hruns r (List.mem_cons_of_mem _ hr)) s'
    rw [Machine.run_cons,hnext]
    exact (hrepairs.trans hrest).congr fun _ => by
      rw [List.exists_mem_cons_iff]

/-- The active games up to the database cursor agree. -/
def Reconciliation.Visited (config : ReconciliationConfig) (db : Db) (now : Millis)
    (s : Reconciliation) : Prop :=
  VisitedUpTo (fun g : PersistedGame => config.cursor g.id) db.games.rows PersistedGame.listed
    s.databaseCursor fun g => g ∈ db.games.rows ∧ g.status.terminal = false ∧ s.keys.Agrees now g

theorem cursor_injective (config : ReconciliationConfig) (db : Db) : ∀ g ∈ db.games.rows,
    ∀ g' ∈ db.games.rows, config.cursor g.id = config.cursor g'.id → g = g' := by
  intro g hg g' hg' hkey
  have hid : g.id = g'.id := congrArg Prod.snd (toLex.injective hkey)
  exact Option.some.inj ((Table.find_of_mem hg).symm.trans (hid ▸ Table.find_of_mem hg'))

theorem Reconciliation.Visited.page (h : db.Reachable chess) (hrun : run.SameGraces db now)
    (hs : s.Visited config db now) : ∃ s', (reconciliations config db).next s run = s' ∧
      s'.databaseCursor = cursorAfter (fun g : PersistedGame => config.cursor g.id) config.batchSize
        (db.activePage config s.databaseCursor) ∧
      (∀ g ∈ db.activePage config s.databaseCursor,
        g ∈ db.games.rows ∧ g.status.terminal = false ∧ s'.keys.Agrees now g) ∧
      VisitedUpTo (fun g : PersistedGame => config.cursor g.id) db.games.rows PersistedGame.listed
        s.databaseCursor fun g =>
          g ∈ db.games.rows ∧ g.status.terminal = false ∧ s'.keys.Agrees now g := by
  obtain ⟨_,s',hnext,hrepairs,hcursor,hpage⟩ := runOnce_repairs h hrun s
  refine ⟨s',congrArg Prod.snd hnext,hcursor,fun g hg => ?_,?_⟩
  · obtain ⟨hrow,hlisted,_⟩ := mem_keysetPage hg
    exact ⟨hrow,(listed_iff g).mp hlisted,hpage g hg⟩
  · refine hs.mono (fun _ hl => hl) fun g hg => ?_
    obtain ⟨hrow,hlive,hagrees⟩ := hg
    exact ⟨hrow,hlive,hrepairs.kept g hrow hlive hagrees⟩

theorem Reconciliation.Visited.next (h : db.Reachable chess) (hrun : run.SameGraces db now)
    (hs : s.Visited config db now) :
    ((reconciliations config db).next s run).Visited config db now := by
  obtain ⟨s',hnext,hcursor,hpage,hkept⟩ := hs.page h hrun
  rw [hnext]
  unfold Visited
  rw [hcursor]
  exact hkept.advance (cursor_injective config db) hpage

theorem cycle_agrees (h : db.Reachable chess) {cycle : List ReconciliationRun}
    (hruns : ∀ run ∈ cycle, run.SameGraces db now) (hcycle : cycle ≠ [])
    (hstart : s.databaseCursor = none)
    (hend : ((reconciliations config db).run s cycle).databaseCursor = none) :
    ∀ g ∈ db.games.rows, g.status.terminal = false →
      ((reconciliations config db).run s cycle).keys.Agrees now g := by
  obtain ⟨runs,last,rfl⟩ := (List.eq_nil_or_concat cycle).resolve_left hcycle
  rw [List.concat_eq_append] at hruns hend ⊢
  have hvisited : s.Visited config db now := by
    unfold Reconciliation.Visited
    rw [hstart]
    exact fun _ _ _ => nofun
  have hbefore := (reconciliations config db).run_invariant
    (P := Reconciliation.Visited config db now) (Q := fun run => run.SameGraces db now)
    (fun _ _ hrun hs => hs.next h hrun) hvisited fun run hr => hruns run (List.mem_append_left _ hr)
  rw [Machine.run_append] at hend ⊢
  have hlast := hruns last (List.mem_append_right _ List.mem_cons_self)
  obtain ⟨s',hnext,hcursor,hpage,hkept⟩ := hbefore.page h hlast
  rw [Machine.run_cons,Machine.run_nil,hnext] at hend ⊢
  intro g hg hlive
  rw [hend] at hcursor
  exact (hkept.complete config.positive hpage hcursor.symm g hg ((listed_iff g).mpr hlive)).2.2

theorem reconcileAllocations_settled (hrun : run.SameGraces db now) {keys : EphemeralKeys}
    {games : List PersistedGame} {allocations : List GameAllocation}
    (hmap : List.Forall₂ (fun g a => mapAllocation g = .ok a) games allocations)
    (hgames : ∀ g ∈ games, g ∈ db.games.rows ∧ keys.Agrees now g) (index : ℕ)
    (report : GameReconciliationReport) :
    reconcileAllocations db run index allocations report keys = (.ok report,keys) := by
  induction hmap generalizing index with
  | nil => rfl
  | @cons g a games allocations ha _ ih =>
    obtain ⟨hg,hagrees⟩ := hgames g List.mem_cons_self
    have hinspected : g.SameGrace (run.inspectedAt index) now := fun p hp e he =>
      (hrun g hg p hp e he index).1
    have hzero : (inspectAllocation keys a (run.inspectedAt index)).driftCount = 0 := by
      rw [driftCount_eq_zero,inspectAllocation_eq_iff ha,hinspected.agrees_iff]
      exact hagrees
    rw [reconcileAllocations,if_pos hzero]
    exact ih (fun x hx => hgames x (List.mem_cons_of_mem _ hx)) (index + 1)

theorem reconcileActiveKey_settled (h : db.Reachable chess) {keys : EphemeralKeys}
    (hkeys : ∀ guest, keys.activeGames guest = (db.assignedGame guest).map .game) (t : Millis)
    (report : GameReconciliationReport) (key : ActiveGameKey) :
    reconcileActiveKey db t (report,keys) key = (report,keys) := by
  cases key with
  | other name => rfl
  | user guest =>
    unfold reconcileActiveKey
    simp only [eligibility_activeGame h]
    rw [if_pos (hkeys guest)]

/-- Where nothing is left to repair, a run reports nothing and leaves the keys as they are. -/
theorem runOnce_settled (h : db.Reachable chess) (hrun : run.SameGraces db now)
    (hgames : ∀ g ∈ db.games.rows, g.status.terminal = false → s.keys.Agrees now g)
    (hstale : ∀ guest, db.assignedGame guest = none → s.keys.activeGames guest = none) :
    ∃ s', runOnce config db run s = (.ok .zero,s') ∧ s'.keys = s.keys := by
  have hkeys : ∀ guest, s.keys.activeGames guest = (db.assignedGame guest).map .game := by
    intro guest
    cases ha : db.assignedGame guest with
    | none => exact hstale guest ha
    | some id =>
      obtain ⟨g,hg,rfl,hlive,p,hp,rfl⟩ := player_of_assigned h ha
      exact ((hgames g hg hlive).players p hp).active
  have hpage : ∀ g ∈ db.activePage config s.databaseCursor,
      g ∈ db.games.rows ∧ s.keys.Agrees now g := by
    intro g hg
    obtain ⟨hrow,hlisted,_⟩ := mem_keysetPage hg
    exact ⟨hrow,hgames g hrow ((listed_iff g).mp hlisted)⟩
  obtain ⟨allocations,hallocations⟩ := findActiveAllocations_ok h config s.databaseCursor
  have hloop := reconcileAllocations_settled hrun (mapM_eq_ok hallocations) hpage 0 .zero
  have hfold : ∀ (page : List ActiveGameKey) (report : GameReconciliationReport),
      page.foldl (reconcileActiveKey db run.eligibleAt) (report,s.keys) = (report,s.keys) := by
    intro page report
    induction page with
    | nil => rfl
    | cons key page ih =>
      rw [List.foldl_cons,reconcileActiveKey_settled h hkeys]
      exact ih
  refine ⟨⟨cursorAfter (fun a => config.cursor a.game.id) config.batchSize allocations,
    run.nextCursor,s.keys⟩,?_,rfl⟩
  unfold runOnce reconcileDurableGames
  rw [hallocations]
  simp only [hloop,reconcileRedisActiveKeys,hfold]
  rfl

theorem converged_of_settled (h : db.Reachable chess)
    (hgames : ∀ g ∈ db.games.rows, g.status.terminal = false → s.keys.Agrees now g)
    (hstale : ∀ guest, db.assignedGame guest = none → s.keys.activeGames guest = none) :
    Converged config db now s := by
  refine ⟨hgames,hstale,fun runs hruns => ?_⟩
  induction runs generalizing s with
  | nil => exact fun e he => absurd he List.not_mem_nil
  | cons run runs ih =>
    obtain ⟨s',hrun,hkeys⟩ := runOnce_settled h (hruns run List.mem_cons_self) hgames hstale
    rw [← hkeys] at hgames hstale
    have hnext : (reconciliations config db).next s run = s' := congrArg Prod.snd hrun
    have hrest := ih hgames hstale fun r hr => hruns r (List.mem_cons_of_mem _ hr)
    intro e he
    rw [Machine.events_cons,hnext] at he
    rcases List.mem_cons.mp he with rfl | he
    · exact congrArg Prod.fst hrun
    · exact hrest e he

end Runs

/-- Runs with a cycle of the database cursor among them repair everything exactly when they come
to every stale key: when it is one of the first keys of some page, as many as a page should have. -/
theorem drift_converges_iff {chess : ChessEngine} {config : ReconciliationConfig} {db : Db}
    (h : db.Reachable chess) {now : Millis} {before cycle after : List ReconciliationRun}
    (hruns : ∀ run ∈ before ++ cycle ++ after, run.SameGraces db now) (hcycle : cycle ≠ [])
    {s : Reconciliation}
    (hstart : ((reconciliations config db).run s before).databaseCursor = none)
    (hend : ((reconciliations config db).run s (before ++ cycle)).databaseCursor = none) :
    Converged config db now ((reconciliations config db).run s (before ++ cycle ++ after)) ↔
      ∀ guest, db.assignedGame guest = none → s.keys.activeGames guest ≠ none →
        ∃ run ∈ before ++ cycle ++ after, .user guest ∈ run.slice config := by
  have hrepairs := runs_repair config h hruns s
  constructor
  · intro hconverged guest hguest hkey
    by_contra hnot
    exact (hrepairs.stale guest hguest).mpr ⟨hkey,hnot⟩ (hconverged.stale guest hguest)
  · intro hvisited
    refine converged_of_settled h ?_ fun guest hguest => ?_
    · rw [Machine.run_append] at hend ⊢
      have hagrees := cycle_agrees h (fun run hr => hruns run (by simp [hr])) hcycle hstart hend
      have hafter := runs_repair config h
        (fun run hr => hruns run (List.mem_append_right _ hr))
        ((reconciliations config db).run ((reconciliations config db).run s before) cycle)
      rw [Machine.run_append]
      exact fun g hg hlive => hafter.kept g hg hlive (hagrees g hg hlive)
    · by_contra hkey
      obtain ⟨hold,hnot⟩ := (hrepairs.stale guest hguest).mp hkey
      exact hnot (hvisited guest hguest hold)

/-- A cycle of `SCAN`: every key that exists throughout it is on one of its pages. -/
structure ScanCycle (config : ReconciliationConfig) (db : Db) (s : Reconciliation)
    (cycle : List ReconciliationRun) : Prop where
  start : s.redisCursor = "0"
  finish : ((reconciliations config db).run s cycle).redisCursor = "0"
  returned : ∀ guest, (∀ pre post, cycle = pre ++ post →
      ((reconciliations config db).run s pre).keys.activeGames guest ≠ none) →
    ∃ run ∈ cycle, .user guest ∈ run.keys

/-- The runs of a cycle of `SCAN` whose pages are no longer than asked for come to every stale
key. -/
theorem scan_visits_stale {chess : ChessEngine} {config : ReconciliationConfig} {db : Db}
    (h : db.Reachable chess) {now : Millis} {pre cycle post : List ReconciliationRun}
    (hruns : ∀ run ∈ pre ++ cycle ++ post, run.SameGraces db now) {s : Reconciliation}
    (hscan : ScanCycle config db ((reconciliations config db).run s pre) cycle)
    (hpages : ∀ run ∈ cycle, run.keys.length ≤ config.batchSize) :
    ∀ guest, db.assignedGame guest = none → s.keys.activeGames guest ≠ none →
      ∃ run ∈ pre ++ cycle ++ post, .user guest ∈ run.slice config := by
  intro guest hguest hkey
  by_contra hnot
  have hexists : ∀ runs rest, pre ++ cycle ++ post = runs ++ rest →
      ((reconciliations config db).run s runs).keys.activeGames guest ≠ none := by
    intro runs rest heq
    have hmem : ∀ run ∈ runs, run ∈ pre ++ cycle ++ post := fun run hr =>
      heq ▸ List.mem_append_left _ hr
    have hrepairs := runs_repair config h (fun run hr => hruns run (hmem run hr)) s
    exact (hrepairs.stale guest hguest).mpr ⟨hkey,fun ⟨run,hr,hslice⟩ =>
      hnot ⟨run,hmem run hr,hslice⟩⟩
  obtain ⟨run,hrun,hpage⟩ := hscan.returned guest fun first rest heq => by
    rw [← Machine.run_append]
    refine hexists (pre ++ first) (rest ++ post) ?_
    rw [heq]
    simp only [List.append_assoc]
  refine hnot ⟨run,by simp [hrun],?_⟩
  unfold ReconciliationRun.slice
  rwa [List.take_of_length_le (hpages run hrun)]

section Sample

def sampleReconciliation : ReconciliationConfig := ⟨2,by decide,fun _ => 0⟩

def sampleDrift (guests : List GuestSessionId) : Reconciliation :=
  ⟨none,"0",⟨fun guest => if guest ∈ guests then some (.game (sampleId 10)) else none,
    fun _ => none,fun _ => none,fun _ => none⟩⟩

def sampleReconciled (guests : List GuestSessionId) : ReconciliationRun :=
  ⟨fun _ => 6000,fun _ => 6000000,fun _ => 6000,6000,"0",guests.map .user⟩

theorem sampleReconciled_sameGraces (guests : List GuestSessionId) :
    ∀ run ∈ [] ++ [sampleReconciled guests] ++ [], run.SameGraces (sampleRun sampleStart) 6000 := by
  intro run hrun
  rw [List.mem_singleton.mp hrun]
  exact fun _ _ _ _ _ _ _ => ⟨Iff.rfl,Iff.rfl⟩

theorem sampleDrift_active {guests : List GuestSessionId} {guest : GuestSessionId}
    (h : (sampleDrift guests).keys.activeGames guest ≠ none) : guest ∈ guests := by
  by_contra hnot
  exact h (if_neg hnot)

end Sample

theorem drift_converges_sample : Converged sampleReconciliation (sampleRun sampleStart) 6000
    ((reconciliations sampleReconciliation (sampleRun sampleStart)).run
      (sampleDrift [sampleId 3]) [sampleReconciled [sampleId 3]]) := by
  refine (drift_converges_iff (sampleRun_reachable sampleStart)
    (sampleReconciled_sameGraces [sampleId 3]) (List.cons_ne_nil _ _) rfl rfl).mpr ?_
  intro guest _ hkey
  rw [List.mem_singleton.mp (sampleDrift_active hkey)]
  exact ⟨_,List.mem_cons_self,List.mem_cons_self⟩

/-- `SCAN` returns three keys where two were asked for: the third is never cleared. -/
theorem long_page_leaves_stale_key :
    ((reconciliations sampleReconciliation (sampleRun sampleStart)).run
      (sampleDrift [sampleId 3,sampleId 4,sampleId 5])
        [sampleReconciled [sampleId 3,sampleId 4,sampleId 5]]).databaseCursor = none ∧
    ScanCycle sampleReconciliation (sampleRun sampleStart)
      (sampleDrift [sampleId 3,sampleId 4,sampleId 5])
        [sampleReconciled [sampleId 3,sampleId 4,sampleId 5]] ∧
    ¬ Converged sampleReconciliation (sampleRun sampleStart) 6000
      ((reconciliations sampleReconciliation (sampleRun sampleStart)).run
        (sampleDrift [sampleId 3,sampleId 4,sampleId 5])
          [sampleReconciled [sampleId 3,sampleId 4,sampleId 5]]) := by
  refine ⟨rfl,⟨rfl,rfl,fun guest hkeys => ?_⟩,fun hconverged => ?_⟩
  · have hmem := sampleDrift_active (hkeys [] _ rfl)
    exact ⟨_,List.mem_cons_self,List.mem_map_of_mem hmem⟩
  · have hrepairs := runs_repair sampleReconciliation (sampleRun_reachable sampleStart)
      (sampleReconciled_sameGraces [sampleId 3,sampleId 4,sampleId 5])
      (sampleDrift [sampleId 3,sampleId 4,sampleId 5])
    refine (hrepairs.stale (sampleId 5) rfl).mpr ⟨?_,?_⟩ (hconverged.stale (sampleId 5) rfl)
    · exact Option.some_ne_none _
    · rintro ⟨run,hrun,hslice⟩
      rw [List.mem_singleton.mp hrun] at hslice
      revert hslice
      decide

end CluChess
