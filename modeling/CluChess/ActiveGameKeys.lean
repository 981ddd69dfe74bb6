import CluChess.MatchmakingService
import CluChess.TerminalOutcome

/-! The active-game keys of Redis against the assignments of PostgreSQL. A task may write a game
under the key of a guest long after it read that the guest plays it; the end of the game clears
the keys of its players afterwards. What is wrong in Redis is covered by a clear that has still
to run, as long as no write comes after the clears of its game. -/
namespace CluChess

namespace Redis

section Frames

/-! What the scripts do to the active-game keys. -/

variable {config : AppConfig} {r : Redis} {guest : GuestSessionId}

@[simp] theorem activeGames_isPresent (now : Millis) :
    (r.isPresent guest now).2.activeGames = r.activeGames := rfl

theorem activeGames_examine (config : AppConfig) (r : Redis) (guest : GuestSessionId)
    (mode : MatchMode) (now score : Millis) :
    (r.examine config mode now guest score).2.activeGames = r.activeGames :=
  (examine_sameKeys config r mode now guest score).activeGames

theorem activeGames_discard : (r.discard guest).activeGames = r.activeGames := by
  simp only [discard]
  split_ifs <;> rfl

theorem activeGames_scan (config : AppConfig) (r : Redis) (mode : MatchMode) (now : Millis)
    (maxScan : ℕ) (candidates : List Candidate) (discarded : List RemovedQueueGuest) :
    (scan config mode now maxScan r candidates discarded).2.2.activeGames = r.activeGames := by
  induction maxScan generalizing r candidates discarded with
  | zero => rfl
  | succ maxScan ih =>
    simp only [scan]
    split_ifs
    · rfl
    · cases hpop : r.queue.popMin with
      | none => rfl
      | some popped =>
        obtain ⟨⟨guest,score⟩,queue⟩ := popped
        have hexamine := activeGames_examine config { r with queue := queue } guest mode now score
        cases he : examine config { r with queue := queue } mode now guest score with
        | mk reason r' =>
          rw [he] at hexamine
          cases reason with
          | none =>
            simp only [he]
            exact (ih _ _ _).trans hexamine
          | some reason =>
            simp only [he]
            exact (ih _ _ _).trans (activeGames_discard.trans hexamine)

theorem activeGames_putBack (candidates : List Candidate) :
    (candidates.foldl (putBack config) r).activeGames = r.activeGames := by
  induction candidates generalizing r with
  | nil => rfl
  | cons c cs ih => exact ih

theorem activeGames_tryMatch (config : AppConfig) (r : Redis) (mode : MatchMode)
    (matchId : MatchId) (gameId : GameId) (now : Millis) (maxScan : ℕ) :
    (r.tryMatch config mode matchId gameId now maxScan).2.activeGames = r.activeGames := by
  have hscan := activeGames_scan config r mode now maxScan [] []
  unfold tryMatch
  split_ifs
  · rfl
  · split
    · rename_i he
      rw [he] at hscan
      split_ifs
      · exact hscan
      · exact hscan
    · rename_i he
      rw [he] at hscan
      exact (activeGames_putBack _).trans hscan

theorem activeGames_sweepEntry (mode : MatchMode) (now : Millis)
    (acc : List RemovedQueueGuest × Redis) (entry : GuestSessionId × Millis) :
    (sweepEntry config mode now acc entry).2.activeGames = acc.2.activeGames := by
  obtain ⟨removed,r⟩ := acc
  obtain ⟨guest,score⟩ := entry
  have hexamine := activeGames_examine config r guest mode now score
  simp only [sweepEntry]
  cases he : r.examine config mode now guest score with
  | mk reason r' =>
    rw [he] at hexamine
    cases reason with
    | none => exact hexamine
    | some reason =>
      simp only [idleIfQueued]
      split_ifs <;> exact hexamine

theorem activeGames_ofGuests (config : AppConfig) (r : Redis) (op : RedisOperation)
    (h : op.ofGuests = true) :
    (r.execute config op).activeGames = r.activeGames := by
  cases op with
  | enqueue guest mode now =>
    simp only [execute,enqueue]
    split_ifs
    · rfl
    · cases r.queue.score guest <;> rfl
  | leave guest =>
    simp only [execute,leave,idleIfQueued]
    split_ifs <;> rfl
  | sweep mode now batch =>
    have hall : ∀ (entries : List (GuestSessionId × Millis))
        (acc : List RemovedQueueGuest × Redis),
        (entries.foldl (sweepEntry config mode now) acc).2.activeGames = acc.2.activeGames := by
      intro entries
      induction entries with
      | nil => exact fun _ => rfl
      | cons e es ih => exact fun acc => (ih _).trans (activeGames_sweepEntry mode now acc e)
    exact hall _ _
  | refresh guest socket now => rfl
  | remove guest socket now => rfl
  | elapse ms => rfl
  | _ => cases h

theorem activeGames_restore (mode : MatchMode) (now score : Millis)
    (durable : GuestMatchEligibility) :
    (r.restore config mode now guest score durable).2.activeGames =
      Function.update r.activeGames guest durable.activeGameId := by
  unfold restore
  cases durable.activeGameId with
  | some gameId => rfl
  | none =>
    simp only
    split_ifs <;> rfl

end Frames

def heldElsewhere (r : Redis) (gameId : GameId) (a b : GuestSessionId) : Prop :=
  (r.activeGames a).any (· ≠ gameId) ∨ (r.activeGames b).any (· ≠ gameId)

instance (r : Redis) (gameId : GameId) (a b : GuestSessionId) :
    Decidable (r.heldElsewhere gameId a b) := inferInstanceAs (Decidable (_ ∨ _))

def owned (r : Redis) (reservation : MatchReservation) : Bool :=
  (r.reservation reservation.matchId).any fun values => owns values reservation

end Redis

abbrev GameKey := GuestSessionId × GameId

/-- The keys of the players of a game. -/
def gameKeys (gameId : GameId) (guests : List GuestSessionId) : List GameKey :=
  guests.map fun guest => (guest,gameId)

def durableKeys (reservation : MatchReservation) (durable : DurableGuests) : List GameKey :=
  (durable.a.activeGameId.toList.map fun gameId => (reservation.a,gameId)) ++
    durable.b.activeGameId.toList.map fun gameId => (reservation.b,gameId)

namespace ServiceTask

/-- The active games that the next step of the task may write. -/
def writes (s : Stores) : ServiceTask → List GameKey
  | .finalize reservation _ _ _ =>
    if s.redis.owned reservation then gameKeys reservation.gameId [reservation.a,reservation.b]
    else []
  | .repair _ _ allocation _ | .repairActive (allocation :: _) =>
    if s.redis.heldElsewhere allocation.game.id allocation.players.1.guestSessionId
      allocation.players.2.guestSessionId then []
    else gameKeys allocation.game.id allocation.guests
  | .rollback reservation _ durable =>
    if s.redis.owned reservation then durableKeys reservation durable else []
  | .pipeline _ (.setActiveGame guest gameId :: _) _ => [(guest,gameId)]
  | _ => []

/-- The clear of the key is still to run. -/
def Clears (x : GameKey) (t : ServiceTask) : Prop :=
  t = .clearActiveGame x.1 x.2 ∨ ∃ commands cleared, t = .pipeline x.2 commands cleared ∧ x.1 ∈ cleared

/-- The active games that the task has read of and may write sooner or later. -/
def names : ServiceTask → List GameKey
  | .finalize reservation _ allocation _ =>
    gameKeys reservation.gameId [reservation.a,reservation.b] ++
      gameKeys allocation.game.id allocation.guests
  | .repair _ _ allocation _ => gameKeys allocation.game.id allocation.guests
  | .recover reservation _ reads =>
    (reads.existing.join.toList.flatMap fun allocation =>
      gameKeys allocation.game.id allocation.guests) ++
    ((reads.a.bind GuestMatchEligibility.activeGameId).toList.map fun gameId =>
      (reservation.a,gameId)) ++
    (reads.b.bind GuestMatchEligibility.activeGameId).toList.map fun gameId =>
      (reservation.b,gameId)
  | .rollback reservation _ durable => durableKeys reservation durable
  | .repairActive active => active.flatMap fun allocation =>
      gameKeys allocation.game.id allocation.guests
  | .pipeline _ commands _ => commands.filterMap fun
      | .setActiveGame guest gameId => some (guest,gameId)
      | _ => none
  | _ => []

end ServiceTask

/-- Redis names a game that PostgreSQL does not assign. -/
def Stores.Stale (x : GameKey) (s : Stores) : Prop :=
  s.redis.activeGames x.1 = some x.2 ∧ s.db.assignedGame x.1 ≠ some x.2

/-- Every active-game key names the game that its guest is assigned to. -/
def Stores.KeysAssigned (s : Stores) : Prop :=
  ∀ guest gameId, s.redis.activeGames guest = some gameId →
    s.db.assignedGame guest = some gameId

/-- The step writes no game that has ended under a key that no clear is left for. -/
def Current (t : ServiceTask) (s : Stores) (pool : Multiset ServiceTask) : Prop :=
  ∀ x ∈ t.writes s, Ended x.2 s.db → ∃ t' ∈ pool, ServiceTask.Clears x t'

def Plays (x : GameKey) (db : Db) : Prop :=
  ∃ g, db.games.find x.2 = some g ∧ x.1 ∈ g.guests

variable {chess : ChessEngine} {config : AppConfig} {db db' : Db} {s s' : Stores} {x : GameKey}

section Games

theorem DbChange.plays (h : DbChange chess db db') (hp : Plays x db) : Plays x db' := by
  obtain ⟨g,hg,hmem⟩ := hp
  rcases h.find_some hg with hkeep | ⟨g',hg',hchange⟩
  · exact ⟨g,hkeep,hmem⟩
  · exact ⟨g',hg',guests_of_seats hchange.seats_eq ▸ hmem⟩

theorem Plays.assigned (h : Plays x db) (hs : db.Sound) (hn : ¬ Ended x.2 db) :
    db.assignedGame x.1 = some x.2 := by
  obtain ⟨g,hg,hmem⟩ := h
  obtain ⟨p,hp,hguest⟩ := List.mem_map.mp hmem
  have hterminal : g.status.terminal = false := by
    by_contra ht
    exact hn ⟨g,hg,by simpa using ht⟩
  have ha := hs.players x.2 g hg hterminal p hp
  rw [hguest] at ha
  rw [Db.assignedGame,ha]
  rfl

theorem Db.Sound.plays_of_assigned (hs : db.Sound) (h : db.assignedGame x.1 = some x.2) :
    Plays x db := by
  obtain ⟨a,ha,hgame⟩ := Option.map_eq_some_iff.mp h
  obtain ⟨g,hg,_,p,hp,hguest⟩ := hs.assigned a (Table.find_mem ha)
  refine ⟨g,hgame ▸ hg,List.mem_map.mpr ⟨p,hp,?_⟩⟩
  rw [hguest]
  exact Table.find_key ha

/-- A write takes assignments only from the players of the game that it ends. -/
theorem Db.Wrote.loses {id : GameId} {g g' : PersistedGame} (h : db.Wrote chess id g g' db')
    (ha : db.assignedGame x.1 = some x.2) (hn : db'.assignedGame x.1 ≠ some x.2) :
    x.2 = id ∧ g'.status.terminal = true := by
  have hid : g'.id = id := h.change.id_eq.trans (Table.find_key h.found)
  obtain ⟨a,hfind,hgame⟩ := Option.map_eq_some_iff.mp ha
  cases ht : g'.status.terminal with
  | false =>
    rw [Db.assignedGame,h.result,settle_assignments_of_not_terminal ht] at hn
    exact absurd ha hn
  | true =>
    by_contra hne
    have hk : x.2 ≠ id := fun he => hne ⟨he,rfl⟩
    rw [Db.assignedGame,h.result,settle_assignments_of_terminal ht,Table.find_deleteWhere,hfind,
      hid] at hn
    simp [hgame,hk] at hn

theorem guestPair_mem {g : PersistedGame} {guests : GuestSessionId × GuestSessionId}
    (h : guestPair g = some guests) {guest : GuestSessionId} (hg : guest ∈ g.guests) :
    guest = guests.1 ∨ guest = guests.2 := by
  unfold guestPair at h
  split at h
  · rename_i p q hpair
    cases h
    simpa [PersistedGame.guests,hpair] using hg
  · cases h

theorem Writes.terminalGuests {op : Operation} {answer : Answer} {g g' : PersistedGame}
    (h : Writes chess g op answer g') (hn : g.status.terminal = false)
    (ht : g'.status.terminal = true) :
    ∃ guests, guestPair g = some guests ∧ answer.terminalGuests = some (g.id,guests) := by
  have hgrace : op.isGrace = false := by
    by_contra hop
    rw [h.grace (by simpa using hop)] at ht
    cases ht
  cases h with
  | join _ => simp [PersistedGame.mapPlayer,hn] at ht
  | ready _ _ => cases ht
  | startIfReady _ => cases ht
  | @submitMove m guests _ hg _ _ hm =>
    subst hg
    refine ⟨guests,hm.pair,?_⟩
    rw [hm.row_terminal] at ht
    obtain ⟨t,hterminal⟩ := Option.isSome_iff_exists.mp ht
    simp [Answer.terminalGuests,AdmittedMove.submission,AdmittedMove.ended,hterminal]
    rfl
  | resign _ _ _ hp => exact ⟨_,hp,rfl⟩
  | reset _ _ hp => exact ⟨_,hp,rfl⟩
  | adjudicate _ _ hp => exact ⟨_,hp,rfl⟩
  | _ => cases hgrace

theorem execute_terminalGuests (chess : ChessEngine) (hs : db.Sound) {op : Operation}
    (ha : db.assignedGame x.1 = some x.2)
    (hn : (execute chess db op).2.assignedGame x.1 ≠ some x.2) :
    ∃ guests, (execute chess db op).1.terminalGuests = some (x.2,guests) ∧
      (x.1 = guests.1 ∨ x.1 = guests.2) := by
  have hplays := hs.plays_of_assigned ha
  cases execute_outcome chess db op with
  | session _ _ h =>
    rw [Db.assignedGame,(Outcome.frame_session h).2] at hn
    exact absurd ha hn
  | kept h _ => exact absurd ha (h ▸ hn)
  | allocated _ _ h _ =>
    obtain ⟨a,hfind,hgame⟩ := Option.map_eq_some_iff.mp ha
    have hmem := (h.mem_assignments a).mpr (Or.inl (Table.find_mem hfind))
    have hkey : a.guestSessionId = x.1 := Table.find_key hfind
    have hfind' := assigned_of_mem hmem
    rw [hkey] at hfind'
    rw [Db.assignedGame,hfind'] at hn
    exact absurd (congrArg some hgame) hn
  | wrote _ hw hr =>
    obtain ⟨hk,ht⟩ := hw.loses ha hn
    obtain ⟨guests,hp,hanswer⟩ := hr.terminalGuests hw.change.not_terminal ht
    obtain ⟨g,hg,hmem⟩ := hplays
    rw [hk] at hg
    cases hg.symm.trans hw.found
    refine ⟨guests,?_,guestPair_mem hp hmem⟩
    rw [hanswer,Table.find_key hw.found,hk]

end Games

section Writes

/-- The active games of `r'` are those of `r` and the ones of the list. -/
def Redis.WritesOnly (r r' : Redis) (keys : List GameKey) : Prop :=
  ∀ x : GameKey, r'.activeGames x.1 = some x.2 → r.activeGames x.1 = some x.2 ∨ x ∈ keys

variable {r r' : Redis}

theorem Redis.WritesOnly.of_eq {keys : List GameKey} (h : r'.activeGames = r.activeGames) :
    r.WritesOnly r' keys := fun _ hx => Or.inl (h ▸ hx)

theorem Redis.WritesOnly.of_update {keys : List GameKey} {guest : GuestSessionId}
    {active : Option GameId} {f : GuestSessionId → Option GameId}
    (h : r'.activeGames = Function.update f guest active)
    (hf : ∀ x : GameKey, f x.1 = some x.2 → r.activeGames x.1 = some x.2 ∨ x ∈ keys)
    (hg : ∀ gameId, active = some gameId → (guest,gameId) ∈ keys) : r.WritesOnly r' keys := by
  rintro ⟨other,gameId⟩ hx
  rw [h] at hx
  by_cases ho : other = guest
  · subst ho
    rw [Function.update_self] at hx
    exact Or.inr (hg gameId hx)
  · rw [Function.update_of_ne ho] at hx
    exact hf (other,gameId) hx

theorem Redis.finalize_writesOnly (r : Redis) (reservation : MatchReservation) :
    r.WritesOnly (r.finalize config reservation).2 (if r.owned reservation then
      gameKeys reservation.gameId [reservation.a,reservation.b] else []) := by
  unfold finalize owned
  cases hr : r.reservation reservation.matchId with
  | none =>
    simp only
    split_ifs <;> exact .of_eq rfl
  | some values =>
    simp only [Option.any_some]
    split_ifs
    · refine .of_update rfl (fun x hx => ?_) fun gameId h => ?_
      · have hfirst : r.WritesOnly (r.setActiveGame reservation.a reservation.gameId)
            (gameKeys reservation.gameId [reservation.a,reservation.b]) :=
          .of_update rfl (fun _ => Or.inl) fun gameId h => by
            cases h
            simp [gameKeys]
        exact hfirst x hx
      · cases h
        simp [gameKeys]
    · exact .of_eq rfl

theorem Redis.repair_writesOnly (r : Redis) (allocation : GameAllocation) :
    r.WritesOnly (ServiceTask.repairAllocation config r allocation).2
      (if r.heldElsewhere allocation.game.id allocation.players.1.guestSessionId
        allocation.players.2.guestSessionId then []
      else gameKeys allocation.game.id allocation.guests) := by
  by_cases hheld : r.heldElsewhere allocation.game.id allocation.players.1.guestSessionId
      allocation.players.2.guestSessionId
  · have hresult : (ServiceTask.repairAllocation config r allocation).2 = r :=
      congrArg Prod.snd (if_pos hheld)
    rw [if_pos hheld,hresult]
    exact .of_eq rfl
  · have hresult := congrArg Prod.snd (show ServiceTask.repairAllocation config r allocation = _
      from if_neg hheld)
    rw [if_neg hheld,hresult]
    refine .of_update rfl (fun x hx => ?_) fun gameId h => ?_
    · have hfirst : r.WritesOnly (r.setActiveGame allocation.players.1.guestSessionId
          allocation.game.id) (gameKeys allocation.game.id allocation.guests) :=
        .of_update rfl (fun _ => Or.inl) fun gameId h => by
          cases h
          simp [gameKeys,GameAllocation.guests]
      exact hfirst x hx
    · cases h
      simp [gameKeys,GameAllocation.guests]

theorem Redis.rollback_writesOnly (r : Redis) (reservation : MatchReservation)
    (durable : DurableGuests) (now : Millis) :
    r.WritesOnly (r.rollback config reservation durable now).2
      (if r.owned reservation then durableKeys reservation durable else []) := by
  unfold rollback owned
  cases hr : r.reservation reservation.matchId with
  | none =>
    simp only
    split_ifs <;> exact .of_eq rfl
  | some values =>
    simp only [Option.any_some]
    split_ifs
    · refine .of_update (activeGames_restore _ _ _ _) (fun x hx => ?_) fun gameId h => ?_
      · refine Redis.WritesOnly.of_update (activeGames_restore (r := r) _ _ _ _)
          (fun _ => Or.inl) (fun gameId h => ?_) x hx
        simp [durableKeys,h]
      · simp [durableKeys,h]
    · exact .of_eq rfl

theorem Redis.clear_writesOnly (r : Redis) (guest : GuestSessionId) (gameId : GameId) :
    r.WritesOnly (r.clearActiveGame config guest gameId).2 [] := by
  unfold clearActiveGame
  split_ifs
  · exact .of_update rfl (fun _ => Or.inl) fun _ h => by cases h
  · exact .of_eq rfl
  · exact .of_eq rfl

theorem Redis.activeGames_clear (r : Redis) (guest : GuestSessionId) (gameId : GameId) :
    (r.clearActiveGame config guest gameId).2.activeGames guest ≠ some gameId := by
  unfold clearActiveGame
  split_ifs with ha hnone
  · simp
  · simp [hnone.1]
  · exact ha

namespace ServiceTask

variable {t : ServiceTask} {new : Multiset ServiceTask}

theorem Step.writesOnly (h : t.Step chess config s s' new) :
    s.redis.WritesOnly s'.redis (t.writes s) := by
  have hafter : ∀ {keys : List GameKey} {redis done : Redis},
      s.redis.WritesOnly done keys → (redis = s.redis ∨ redis = done) →
        s.redis.WritesOnly redis keys := by
    rintro keys redis done hw (rfl | rfl)
    · exact .of_eq rfl
    · exact hw
  cases h with
  | finalized h => exact hafter (s.redis.finalize_writesOnly _) (Or.inr (congrArg Prod.snd h).symm)
  | finalizeMismatch h =>
    exact hafter (s.redis.finalize_writesOnly _) (Or.inr (congrArg Prod.snd h).symm)
  | finalizeUnavailable h => exact hafter (s.redis.finalize_writesOnly _) h
  | repaired h => exact hafter (s.redis.repair_writesOnly _) (Or.inr (congrArg Prod.snd h).symm)
  | repairFailed h => exact hafter (s.redis.repair_writesOnly _) h
  | rolledBack h =>
    exact hafter (s.redis.rollback_writesOnly _ _ _) (Or.inr (congrArg Prod.snd h).symm)
  | rollbackFailed h => exact hafter (s.redis.rollback_writesOnly _ _ _) h
  | repairedActive h =>
    exact hafter (s.redis.repair_writesOnly _) (Or.inr (congrArg Prod.snd h).symm)
  | repairActiveFailed h => exact hafter (s.redis.repair_writesOnly _) h
  | @command _ gameId command commands cleared =>
    cases command with
    | setActiveGame guest gameId =>
      exact .of_update rfl (fun _ => Or.inl) fun _ h => by cases h; simp [writes]
    | setInGame guest => exact .of_eq rfl
    | delGuard guest => exact .of_eq rfl
  | cleared => exact s.redis.clear_writesOnly _ _
  | _ => exact .of_eq rfl

theorem mem_names_of_writes (h : x ∈ t.writes s) : x ∈ t.names := by
  cases t with
  | finalize reservation observedAt allocation recovering =>
    simp only [writes] at h
    split_ifs at h
    · exact List.mem_append_left _ h
    · cases h
  | repair reservation observedAt allocation recovering =>
    simp only [writes] at h
    split_ifs at h
    · cases h
    · exact h
  | rollback reservation observedAt durable =>
    simp only [writes] at h
    split_ifs at h
    · exact h
    · cases h
  | repairActive active =>
    cases active with
    | nil => cases h
    | cons allocation active =>
      simp only [writes] at h
      split_ifs at h
      · cases h
      · exact List.mem_flatMap.mpr ⟨allocation,List.mem_cons_self,h⟩
  | pipeline gameId commands cleared =>
    cases commands with
    | nil => cases h
    | cons command commands =>
      cases command with
      | setActiveGame guest gameId =>
        simp only [writes,List.mem_singleton] at h
        subst h
        simp [names]
      | _ => cases h
  | _ => cases h

end ServiceTask

end Writes

section Tasks

namespace ServiceTask

variable {t : ServiceTask} {new : Multiset ServiceTask}

/-- A task leaves PostgreSQL alone or allocates. -/
theorem Step.db_cases (h : t.Step chess config s s' new) :
    s'.db = s.db ∨ ∃ input, s'.db = (execute chess s.db (.allocate input)).2 := by
  cases h with
  | @allocated _ _ _ _ input _ _ _ h =>
    exact Or.inr ⟨input,(congrArg Prod.snd h).symm⟩
  | allocateFailed h =>
    rcases h with rfl | ⟨_,input,_,rfl⟩
    · exact Or.inl rfl
    · exact Or.inr ⟨input,rfl⟩
  | _ => exact Or.inl rfl

theorem Step.change (h : t.Step chess config s s' new) : DbChange chess s.db s'.db := by
  rcases h.db_cases with heq | ⟨input,heq⟩
  · rw [heq]
    exact DbChange.refl
  · rw [heq]
    exact execute_change chess s.db (.allocate input)

theorem Step.assigned (h : t.Step chess config s s' new) (hs : s.db.Sound)
    (ha : s.db.assignedGame x.1 = some x.2) : s'.db.assignedGame x.1 = some x.2 := by
  rcases h.db_cases with heq | ⟨input,heq⟩
  · rw [heq]
    exact ha
  · by_contra hn
    rw [heq] at hn
    obtain ⟨guests,hanswer,_⟩ := execute_terminalGuests chess hs ha hn
    cases hanswer

theorem plays_of_allocation {g : PersistedGame} {allocation : GameAllocation}
    (hg : db.games.find g.id = some g) (h : mapAllocation g = .ok allocation)
    (hx : x ∈ gameKeys allocation.game.id allocation.guests) : Plays x db := by
  obtain ⟨hid,hguests⟩ := mapAllocation_ok h
  obtain ⟨guest,hmem,rfl⟩ := List.mem_map.mp hx
  exact ⟨g,by rw [hid]; exact hg,hguests ▸ hmem⟩

theorem plays_of_eligibility (hs : db.Sound) {guest : GuestSessionId} {observedAt : Millis}
    {gameId : GameId} (h : (db.getGuestMatchEligibility guest observedAt).activeGameId =
      some gameId) : Plays (guest,gameId) db := by
  obtain ⟨g,hg,ha⟩ := Option.bind_eq_some_iff.mp h
  rw [Table.find_key hg] at ha
  exact hs.plays_of_assigned ha

theorem gameKeys_reserved {reservation : MatchReservation} {gameId : GameId}
    {guests : List GuestSessionId} (hid : gameId = reservation.gameId)
    (hp : [reservation.a,reservation.b].Perm guests)
    (hx : x ∈ gameKeys reservation.gameId [reservation.a,reservation.b]) :
    x ∈ gameKeys gameId guests := by
  obtain ⟨guest,hmem,rfl⟩ := List.mem_map.mp hx
  rw [hid]
  exact List.mem_map.mpr ⟨guest,hp.subset hmem,rfl⟩

/-- The keys of an answered allocation, and of the reservation it answers. -/
theorem plays_of_answer {input : AllocateGame} {allocation : GameAllocation}
    {reservation : MatchReservation} {observedAt : Millis} {firstGuestIsWhite : Bool}
    (hs : db.Sound) (hi : allocationInput chess config reservation observedAt firstGuestIsWhite =
      .ok input) (h : AnswersMatch db input allocation)
    (hx : x ∈ gameKeys reservation.gameId [reservation.a,reservation.b] ∨
      x ∈ gameKeys allocation.game.id allocation.guests) : Plays x db := by
  obtain ⟨hgame,_,hperm⟩ := allocationInput_ok hi
  obtain ⟨g,hg,hid,hguests,hinput,hmatch⟩ := h
  have hfind := (hs.gameByMatchId_iff.mp hg).1
  have hmem : x ∈ gameKeys g.id g.guests := by
    rcases hx with hx | hx
    · exact gameKeys_reserved (hinput.symm.trans hgame) (hperm.symm.trans hmatch) hx
    · rwa [hid,hguests] at hx
  obtain ⟨guest,hg,rfl⟩ := List.mem_map.mp hmem
  exact ⟨g,hfind,hg⟩

theorem mem_names_recover {reservation : MatchReservation} {observedAt : Millis}
    {reads : RecoveryReads} : x ∈ (recover reservation observedAt reads).names ↔
      (∃ allocation, reads.existing = some (some allocation) ∧
        x ∈ gameKeys allocation.game.id allocation.guests) ∨
      (∃ durable gameId, reads.a = some durable ∧ durable.activeGameId = some gameId ∧
        x = (reservation.a,gameId)) ∨
      ∃ durable gameId, reads.b = some durable ∧ durable.activeGameId = some gameId ∧
        x = (reservation.b,gameId) := by
  simp only [names,List.mem_append,List.mem_flatMap,Option.mem_toList,List.mem_map,
    Option.join_eq_some_iff,Option.bind_eq_some_iff,or_assoc]
  constructor
  · rintro (h | ⟨gameId,⟨durable,hd,hg⟩,rfl⟩ | ⟨gameId,⟨durable,hd,hg⟩,rfl⟩)
    · exact Or.inl h
    · exact Or.inr (Or.inl ⟨durable,gameId,hd,hg,rfl⟩)
    · exact Or.inr (Or.inr ⟨durable,gameId,hd,hg,rfl⟩)
  · rintro (h | ⟨durable,gameId,hd,hg,rfl⟩ | ⟨durable,gameId,hd,hg,rfl⟩)
    · exact Or.inl h
    · exact Or.inr (Or.inl ⟨gameId,⟨durable,hd,hg⟩,rfl⟩)
    · exact Or.inr (Or.inr ⟨gameId,⟨durable,hd,hg⟩,rfl⟩)

theorem mem_names_recovered {reservation : MatchReservation} {observedAt : Millis}
    {existing : Option GameAllocation} {durable : DurableGuests}
    (h : x ∈ (ServiceTask.recovered reservation observedAt existing durable).names) :
    x ∈ (recover reservation observedAt ⟨some existing,some durable.a,some durable.b⟩).names := by
  have hrollback : x ∈ durableKeys reservation durable →
      x ∈ (recover reservation observedAt ⟨some existing,some durable.a,some durable.b⟩).names :=
    fun hx => by
      rw [durableKeys] at hx
      simp only [names]
      rw [List.append_assoc]
      exact List.mem_append_right _ hx
  unfold ServiceTask.recovered at h
  cases existing with
  | none => exact hrollback h
  | some allocation =>
    simp only at h
    split_ifs at h with hm
    · obtain ⟨hid,hp⟩ := allocation.matchesReservation_ok hm
      refine mem_names_recover.mpr (Or.inl ⟨allocation,rfl,?_⟩)
      rcases List.mem_append.mp h with hx | hx
      · exact gameKeys_reserved hid hp hx
      · exact hx
    · exact hrollback h

/-- What a task names it has read of, or its predecessor had. -/
theorem Step.names (h : t.Step chess config s s' new) (hs : s.db.Sound)
    (ht : ∀ x ∈ t.names, Plays x s.db) : ∀ t' ∈ new, ∀ x ∈ t'.names, Plays x s'.db := by
  have hs' := h.change.sound hs
  have hkeep : ∀ x, x ∈ t.names → Plays x s'.db := fun x hx => h.change.plays (ht x hx)
  have hsingle : ∀ t' : ServiceTask, (∀ x ∈ t'.names, x ∈ t.names) →
      ∀ t'' ∈ ({t'} : Multiset ServiceTask), ∀ x ∈ t''.names, Plays x s'.db := by
    intro t' hsub t'' ht'' x hx
    rw [Multiset.mem_singleton.mp ht''] at hx
    exact hkeep x (hsub x hx)
  cases h with
  | @allocated _ reservation observedAt firstGuestIsWhite input allocation db hi h =>
    intro t' ht' x hx
    rw [Multiset.mem_singleton.mp ht'] at hx
    have hdb : (s.db.allocate input).2 = db := congrArg Prod.snd h
    have hanswer := allocate_answer (hdb ▸ hs') (congrArg Prod.fst h)
    exact plays_of_answer (hdb ▸ hs') hi hanswer (List.mem_append.mp hx) |> fun hp => hdb ▸ hp
  | allocateFailed h => exact hsingle _ fun x hx => absurd hx List.not_mem_nil
  | finalizeMismatch h => exact hsingle _ fun x hx => List.mem_append_right _ hx
  | @repairFailed _ reservation observedAt allocation recovering _ h =>
    cases recovering with
    | false => exact hsingle _ fun x hx => absurd hx List.not_mem_nil
    | true => simp [thrown]
  | @readExisting _ reservation observedAt reads existing hr h =>
    intro t' ht' x hx
    rw [Multiset.mem_singleton.mp ht'] at hx
    rcases mem_names_recover.mp hx with ⟨allocation,he,hkey⟩ | hread
    · cases he
      unfold Db.findByMatchId at h
      cases hg : s.db.gameByMatchId reservation.matchId with
      | none =>
        rw [hg] at h
        cases h
      | some g =>
        simp only [hg] at h
        cases hm : mapAllocation g with
        | error e =>
          rw [hm] at h
          cases h
        | ok allocation' =>
          rw [hm] at h
          cases h
          exact plays_of_allocation (hs.gameByMatchId_iff.mp hg).1 hm hkey
    · exact hkeep x (mem_names_recover.mpr (Or.inr hread))
  | @readA _ reservation observedAt reads hr =>
    intro t' ht' x hx
    rw [Multiset.mem_singleton.mp ht'] at hx
    rcases mem_names_recover.mp hx with he | ⟨durable,gameId,hd,hg,rfl⟩ | hb
    · exact hkeep x (mem_names_recover.mpr (Or.inl he))
    · cases hd
      exact plays_of_eligibility hs hg
    · exact hkeep x (mem_names_recover.mpr (Or.inr (Or.inr hb)))
  | @readB _ reservation observedAt reads hr =>
    intro t' ht' x hx
    rw [Multiset.mem_singleton.mp ht'] at hx
    rcases mem_names_recover.mp hx with he | ha | ⟨durable,gameId,hd,hg,rfl⟩
    · exact hkeep x (mem_names_recover.mpr (Or.inl he))
    · exact hkeep x (mem_names_recover.mpr (Or.inr (Or.inl ha)))
    · cases hd
      exact plays_of_eligibility hs hg
  | recovered => exact hsingle _ fun x hx => mem_names_recovered hx
  | repairedActive h =>
    exact hsingle _ fun x hx => List.mem_flatMap.mpr <| by
      obtain ⟨allocation,hmem,hx⟩ := List.mem_flatMap.mp hx
      exact ⟨allocation,List.mem_cons_of_mem _ hmem,hx⟩
  | command =>
    refine hsingle _ fun x hx => ?_
    obtain ⟨command,hmem,hx⟩ := List.mem_filterMap.mp hx
    exact List.mem_filterMap.mpr ⟨command,List.mem_cons_of_mem _ hmem,hx⟩
  | pipelined =>
    intro t' ht' x hx
    obtain ⟨guest,_,rfl⟩ := List.mem_map.mp (Multiset.mem_coe.mp ht')
    cases hx
  | _ => simp [ServiceTask.names]

/-- What is stale after a current step was so before and was not this task's to clear, or its
clear has still to run. -/
theorem Step.covers (h : t.Step chess config s s' new) {pool : Multiset ServiceTask}
    (hc : Current t s pool) (hs : s.db.Sound) (ht : ∀ x ∈ t.names, Plays x s.db)
    (hx : s'.Stale x) : (s.Stale x ∧ ¬ Clears x t) ∨ ∃ t' ∈ new + pool, Clears x t' := by
  obtain ⟨hactive,hassigned⟩ := hx
  have hold : s.db.assignedGame x.1 ≠ some x.2 := fun ha => hassigned (h.assigned hs ha)
  rcases h.writesOnly x hactive with hbefore | hwrites
  · by_cases hclears : Clears x t
    · rcases hclears with rfl | ⟨commands,cleared,rfl,hmem⟩
      · cases h with
        | cleared => exact absurd hactive (s.redis.activeGames_clear x.1 x.2)
      · cases h with
        | command =>
          exact Or.inr ⟨_,Multiset.mem_add.mpr (Or.inl (Multiset.mem_singleton_self _)),
            Or.inr ⟨_,_,rfl,hmem⟩⟩
        | pipelined =>
          have hnew : ServiceTask.clearActiveGame x.1 x.2 ∈
              cleared.map fun guest => ServiceTask.clearActiveGame guest x.2 :=
            List.mem_map.mpr ⟨x.1,hmem,rfl⟩
          exact Or.inr ⟨_,Multiset.mem_add.mpr (Or.inl (Multiset.mem_coe.mpr hnew)),Or.inl rfl⟩
    · exact Or.inl ⟨⟨hbefore,hold⟩,hclears⟩
  · by_cases hended : Ended x.2 s.db
    · obtain ⟨t',ht',hclears⟩ := hc x hwrites hended
      exact Or.inr ⟨t',Multiset.mem_add.mpr (Or.inr ht'),hclears⟩
    · exact absurd ((ht x (mem_names_of_writes hwrites)).assigned hs hended) hold

end ServiceTask

theorem ServiceEvent.names {new : Multiset ServiceTask} (h : ServiceEvent chess config s s' new) :
    ∀ t ∈ new, ∀ x ∈ t.names, Plays x s'.db := by
  cases h with
  | @operation op =>
    intro t ht x hx
    unfold afterTerminal at ht
    split at ht
    · exact absurd ht (Multiset.notMem_zero t)
    · rw [Multiset.mem_singleton.mp ht] at hx
      simp [ServiceTask.names] at hx
  | command _ => simp
  | attemptMatch h =>
    intro t ht x hx
    obtain ⟨reservation,_,rfl⟩ := List.mem_map.mp (Multiset.mem_coe.mp ht)
    exact absurd hx List.not_mem_nil
  | listReservations _ =>
    intro t ht x hx
    rw [Multiset.mem_singleton.mp ht] at hx
    exact absurd hx List.not_mem_nil
  | listActive h =>
    intro t ht x hx
    rw [Multiset.mem_singleton.mp ht] at hx
    obtain ⟨allocation,hmem,hx⟩ := List.mem_flatMap.mp hx
    obtain ⟨g,hg,_,hm⟩ := h allocation hmem
    exact ServiceTask.plays_of_allocation hg hm hx
  | @readSnapshot g h =>
    intro t ht x hx
    rw [Multiset.mem_singleton.mp ht] at hx
    unfold restoreSnapshot at hx
    split_ifs at hx
    · exact absurd hx List.not_mem_nil
    · obtain ⟨command,hmem,hx⟩ := List.mem_filterMap.mp hx
      obtain ⟨guest,hguest,hcommand⟩ := List.mem_flatMap.mp hmem
      simp only [List.mem_cons,List.not_mem_nil,or_false] at hcommand
      rcases hcommand with rfl | rfl
      · cases hx
        exact ⟨g,h,hguest⟩
      · cases hx

/-- An event that makes a key stale starts the clear of it. -/
theorem ServiceEvent.covers {new : Multiset ServiceTask}
    (h : ServiceEvent chess config s s' new) (hs : s.db.Sound) (hx : s'.Stale x) :
    s.Stale x ∨ ∃ t ∈ new, ServiceTask.Clears x t := by
  obtain ⟨hactive,hassigned⟩ := hx
  cases h with
  | @operation op =>
    by_cases ha : s.db.assignedGame x.1 = some x.2
    · right
      obtain ⟨guests,hanswer,hguest⟩ := execute_terminalGuests chess hs ha hassigned
      refine ⟨.pipeline x.2 [.delGuard guests.1,.delGuard guests.2] [guests.1,guests.2],?_,
        Or.inr ⟨_,_,rfl,by simpa using hguest⟩⟩
      rw [afterTerminal,hanswer]
      exact Multiset.mem_singleton_self _
    · exact Or.inl ⟨hactive,ha⟩
  | @command op h =>
    have hsame := Redis.activeGames_ofGuests config s.redis op h
    exact Or.inl ⟨hsame ▸ hactive,hassigned⟩
  | @attemptMatch mode matchId gameId now maxScan attempt redis h =>
    have hsame := Redis.activeGames_tryMatch config s.redis mode matchId gameId
      now maxScan
    rw [h] at hsame
    exact Or.inl ⟨hsame ▸ hactive,hassigned⟩
  | _ => exact Or.inl ⟨hactive,hassigned⟩

end Tasks

/-- The body of the loop of `reconcileRedisActiveKeys`, for the key of a guest. -/
def Redis.checkActiveGame (config : AppConfig) (r : Redis) (guest : GuestSessionId)
    (durable : GuestMatchEligibility) : Redis :=
  if r.activeGames guest = durable.activeGameId then r
  else
    match durable.activeGameId,r.activeGames guest with
    | some gameId,_ =>
      (r.setActiveGame guest gameId).setState guest .inGame config.matchStateTtlMs
    | none,some cachedGameId => (r.clearActiveGame config guest cachedGameId).2
    | none,none => r

theorem Redis.activeGames_check (r : Redis) (guest : GuestSessionId)
    (durable : GuestMatchEligibility) :
    (r.checkActiveGame config guest durable).activeGames guest = durable.activeGameId := by
  unfold checkActiveGame
  split_ifs with h
  · exact h
  · cases hd : durable.activeGameId with
    | some gameId => simp
    | none =>
      cases ha : r.activeGames guest with
      | none => exact ha
      | some cachedGameId => simp [clearActiveGame,ha]

def Informed (s : Stores) (pool : Multiset ServiceTask) : Prop :=
  s.db.Sound ∧ ∀ t ∈ pool, ∀ x ∈ t.names, Plays x s.db

theorem ServiceEvent.change {new : Multiset ServiceTask}
    (h : ServiceEvent chess config s s' new) : DbChange chess s.db s'.db := by
  cases h with
  | @operation op => exact execute_change chess s.db op
  | _ => exact DbChange.refl

theorem Informed.env {new pool : Multiset ServiceTask} (h : ServiceEvent chess config s s' new)
    (hi : Informed s pool) : Informed s' (new + pool) := by
  refine ⟨h.change.sound hi.1,fun t ht x hx => ?_⟩
  rcases Multiset.mem_add.mp ht with hnew | hpool
  · exact h.names t hnew x hx
  · exact h.change.plays (hi.2 t hpool x hx)

theorem Informed.step {t : ServiceTask} {new pool : Multiset ServiceTask}
    (h : t.Step chess config s s' new) (hi : Informed s (t ::ₘ pool)) : Informed s' (new + pool) := by
  have htask := hi.2 t (Multiset.mem_cons_self t pool)
  refine ⟨h.change.sound hi.1,fun t' ht' x hx => ?_⟩
  rcases Multiset.mem_add.mp ht' with hnew | hpool
  · exact h.names hi.1 htask t' hnew x hx
  · exact h.change.plays (hi.2 t' (Multiset.mem_cons_of_mem hpool) x hx)

section Sample

/-! The sweep of the active games and the end of the sample game. -/

def sampleActive : GameAllocation where
  game := mapGame (sampleGame sampleStart)
  players := (⟨.w,some 1000,none,sampleId 10,sampleId 1,some 1000,none,0⟩,
    ⟨.b,some 2000,none,sampleId 10,sampleId 2,some 2000,none,1⟩)

def sampleIdle : Stores := ⟨sampleRun sampleStart,.initial 1000⟩

def sampleReset : Operation := .terminateForReset (sampleId 1) (some (sampleId 10)) 9000000

def sampleAbandoned : Stores :=
  { sampleIdle with db := (execute sampleEngine sampleIdle.db sampleReset).2 }

def Redis.clearPlayers (r : Redis) : Redis :=
  let r := (r.delGuard (sampleId 1)).delGuard (sampleId 2)
  let r := (r.clearActiveGame sampleConfig (sampleId 1) (sampleId 10)).2
  (r.clearActiveGame sampleConfig (sampleId 2) (sampleId 10)).2

def sampleCleared : Stores :=
  { sampleAbandoned with redis := sampleAbandoned.redis.clearPlayers }

def sampleRepaired (s : Stores) : Stores :=
  { s with redis := (ServiceTask.repairAllocation sampleConfig s.redis sampleActive).2 }

theorem sampleActive_mapped : mapAllocation (sampleGame sampleStart) = .ok sampleActive := rfl

theorem sampleIdle_reachable : sampleIdle.db.Reachable sampleEngine :=
  ⟨sampleSessions,.empty,sampleStart,rfl⟩

theorem sampleIdle_keysAssigned : sampleIdle.KeysAssigned := fun _ _ h => by cases h

theorem sampleIdle_listed (C : ServiceTask → Stores → Multiset ServiceTask → Prop) :
    (matchmaking sampleEngine sampleConfig).Run C (sampleIdle,0)
      (sampleIdle,{.repairActive [sampleActive]}) := by
  have hlist : ServiceEvent sampleEngine sampleConfig sampleIdle sampleIdle
      {.repairActive [sampleActive]} := by
    refine .listActive fun allocation ha => ⟨sampleGame sampleStart,rfl,by decide,?_⟩
    rw [List.mem_singleton.mp ha]
    exact sampleActive_mapped
  exact System.Run.env .refl hlist rfl

theorem clearPlayers_run {c : Stores × Multiset ServiceTask} {s : Stores}
    {pool : Multiset ServiceTask}
    (h : (matchmaking sampleEngine sampleConfig).Run System.anyTime c
      (s,.pipeline (sampleId 10) [.delGuard (sampleId 1),.delGuard (sampleId 2)]
        [sampleId 1,sampleId 2] ::ₘ pool)) :
    (matchmaking sampleEngine sampleConfig).Run System.anyTime c
      ({ s with redis := s.redis.clearPlayers },pool) := by
  have hfirst := h.process .command rfl trivial (Multiset.singleton_add _ pool)
  have hsecond := hfirst.process .command rfl trivial (Multiset.singleton_add _ pool)
  have hpool : ((([sampleId 1,sampleId 2].map fun guest =>
      .clearActiveGame guest (sampleId 10) : List ServiceTask) : Multiset ServiceTask) + pool) =
      .clearActiveGame (sampleId 1) (sampleId 10) ::ₘ
        .clearActiveGame (sampleId 2) (sampleId 10) ::ₘ pool := by
    induction pool using Quotient.inductionOn with | h l => rfl
  have hclears := hsecond.process .pipelined rfl trivial hpool
  have hclear := hclears.process .cleared rfl trivial (Multiset.zero_add _)
  exact hclear.process .cleared rfl trivial (Multiset.zero_add pool)

end Sample

end CluChess
