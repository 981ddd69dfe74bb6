import CluChess.AnsweringMachine
import CluChess.MemberLeases
import CluChess.QueuePlace

/-! What the presence keys count over any sequence of the calls and scripts that use them, against
the refreshes and removals that were made. -/
namespace CluChess

namespace Redis

def count (r : Redis) (guest : GuestSessionId) (now : Millis) : ℕ × Redis :=
  let r := r.prune guest now
  ((r.members guest).card,r)

theorem isPresent_eq (r : Redis) (guest : GuestSessionId) (now : Millis) :
    r.isPresent guest now = (decide ((r.count guest now).1 > 0),(r.count guest now).2) := rfl

/-! ### The presence tests of the scripts

Every test is recorded with its guest and its answer; the states are those of the script. -/

variable (config : AppConfig)

abbrev PresenceTest := GuestSessionId × Bool

/-- The test of `examine`, which a guest who has waited too long is spared. -/
def examineTests (r : Redis) (now : Millis) (guest : GuestSessionId) (score : Millis) :
    List PresenceTest :=
  if score ≤ now - config.queueMaxWaitMs then [] else [(guest,(r.isPresent guest now).1)]

theorem examine_disconnected (r : Redis) (mode : MatchMode) (now : Millis)
    (guest : GuestSessionId) (score : Millis) :
    (r.examine config mode now guest score).1 = some .disconnected ↔
      r.examineTests config now guest score = [(guest,false)] := by
  unfold examine examineTests
  by_cases hwaited : score ≤ now - config.queueMaxWaitMs
  · simp [hwaited]
  · cases hp : (r.isPresent guest now).1 with
    | false => simp [hwaited,hp]
    | true =>
      simp only [hwaited,if_false,hp,Bool.true_eq_false]
      split_ifs <;> simp

def scanTests (mode : MatchMode) (now : Millis) : ℕ → Redis → List Candidate → List PresenceTest
  | 0, _, _ => []
  | maxScan + 1, r, candidates =>
    if candidates.length = 2 then []
    else
      match r.queue.popMin with
      | none => []
      | some ((guest,score),queue) =>
        let popped := { r with queue := queue }
        examineTests config popped now guest score ++
          match examine config popped mode now guest score with
          | (some _,r) => scanTests mode now maxScan (r.discard guest) candidates
          | (none,r) => scanTests mode now maxScan r (candidates ++ [⟨guest,score⟩])

def tryMatchTests (r : Redis) (mode : MatchMode) (matchId : MatchId) (now : Millis)
    (maxScan : ℕ) : List PresenceTest :=
  if (r.reservation matchId).isSome then [] else scanTests config mode now maxScan r []

/-- The test of `restore`, which is made for an eligible guest without a game. -/
def restoreTests (r : Redis) (now : Millis) (guest : GuestSessionId)
    (durable : GuestMatchEligibility) : List PresenceTest :=
  match durable.activeGameId with
  | some _ => []
  | none =>
    if durable.eligible then [(guest,((r.delActiveGame guest).isPresent guest now).1)] else []

/-- A guest is requeued exactly when the test says that it is present. -/
theorem restore_requeued (r : Redis) (mode : MatchMode) (now : Millis) (guest : GuestSessionId)
    (score : Millis) (durable : GuestMatchEligibility) :
    (r.restore config mode now guest score durable).1 = [⟨guest,score⟩] ↔
      r.restoreTests now guest durable = [(guest,true)] := by
  unfold restore restoreTests
  cases durable.activeGameId with
  | some gameId => simp
  | none =>
    by_cases he : durable.eligible = true
    · simp only [he,if_true]
      cases hp : ((r.delActiveGame guest).isPresent guest now).1 <;> simp
    · simp [he]

def rollbackTests (r : Redis) (reservation : MatchReservation) (durable : DurableGuests)
    (now : Millis) : List PresenceTest :=
  match r.reservation reservation.matchId with
  | none => []
  | some values =>
    if owns values reservation then
      let restored := (r.restore config reservation.mode now reservation.a reservation.aScore
        durable.a).2
      restoreTests r now reservation.a durable.a ++
        restoreTests restored now reservation.b durable.b
    else []

def sweepEntriesTests (mode : MatchMode) (now : Millis) :
    List (GuestSessionId × Millis) → List RemovedQueueGuest × Redis → List PresenceTest
  | [], _ => []
  | entry :: entries, acc =>
    examineTests config acc.2 now entry.1 entry.2 ++
      sweepEntriesTests mode now entries (sweepEntry config mode now acc entry)

def sweepTests (r : Redis) (mode : MatchMode) (now : Millis) (batch : ℕ) : List PresenceTest :=
  sweepEntriesTests config mode now (r.queue.range.take batch) ([],r)

end Redis

/-- The calls of the service and the scripts, as Redis executes them one after the other. -/
inductive PresenceCall
  | operation (op : RedisOperation)
  | count (guest : GuestSessionId) (now : Millis)
  | isPresent (guest : GuestSessionId) (now : Millis)

def PresenceCall.now : PresenceCall → Option Millis
  | operation op => op.now
  | count _ now | isPresent _ now => some now

/-- The number that a call returns, with its guest, and the presence tests that it makes. -/
structure PresenceAnswer where
  counted : Option (GuestSessionId × ℕ)
  tests : List Redis.PresenceTest
  deriving DecidableEq, Repr

/-- What an operation shows of the presence keys. -/
def Redis.presenceAnswer (config : AppConfig) (r : Redis) : RedisOperation → PresenceAnswer
  | .tryMatch mode matchId _ now maxScan =>
    ⟨none,r.tryMatchTests config mode matchId now maxScan⟩
  | .rollback reservation durable now => ⟨none,r.rollbackTests config reservation durable now⟩
  | .sweep mode now batch => ⟨none,r.sweepTests config mode now batch⟩
  | .refresh guest socket now => ⟨some (guest,(r.refresh config guest socket now).1),[]⟩
  | .remove guest socket now => ⟨some (guest,(r.remove guest socket now).1),[]⟩
  | .enqueue .. | .leave _ | .finalize _ | .repairCommitted .. | .clearActiveGame .. | .elapse _ =>
    ⟨none,[]⟩

def presenceKeys (config : AppConfig) : Machine Redis PresenceCall PresenceAnswer where
  step r call :=
    match call with
    | .operation op => (r.presenceAnswer config op,r.execute config op)
    | .count guest now =>
      let (count,r) := r.count guest now
      (⟨some (guest,count),[]⟩,r)
    | .isPresent guest now =>
      let (present,r) := r.isPresent guest now
      (⟨none,[(guest,present)]⟩,r)

/-! ### What was refreshed and removed -/

/-- The instant of the latest refresh of a member that no removal has followed. -/
def latestRefresh (guest : GuestSessionId) (socket : SocketMember)
    (calls : List PresenceCall) : Option Millis :=
  calls.foldl (fun latest call =>
    match call with
    | .operation (.refresh g s now) => if g = guest ∧ s = socket then some now else latest
    | .operation (.remove g s _) => if g = guest ∧ s = socket then none else latest
    | _ => latest) none

/-- The members that were refreshed less than the lifetime of a presence ago. -/
def presentMembers (config : AppConfig) (guest : GuestSessionId) (calls : List PresenceCall)
    (now : Millis) : Set SocketMember :=
  {socket | ∃ refreshed, latestRefresh guest socket calls = some refreshed ∧
    refreshed + config.presenceTtlMs > now}

namespace Redis

/-! ### Scripts keep what the presence keys show -/

section Scripts

variable {config : AppConfig} {r r' r'' : Redis} {mode : MatchMode} {now : Millis}
  {guest : GuestSessionId} {leases : Leases SocketMember} {tests tests' : List PresenceTest}

def ShowsLeases (r : Redis) (guest : GuestSessionId) (leases : Leases SocketMember) : Prop :=
  r.presence.Keeps r.clock guest leases

/-- The clock has not moved, and the presence keys show the leases that they have shown. -/
def PresenceKept (r r' : Redis) : Prop :=
  r'.clock = r.clock ∧ ∀ guest leases, r.ShowsLeases guest leases → r'.ShowsLeases guest leases

/-- The tests are answered as the leases demand. -/
def ExactTests (r : Redis) (tests : List PresenceTest) : Prop :=
  ∀ test ∈ tests, ∀ leases, r.ShowsLeases test.1 leases →
    (test.2 = true ↔ 0 < (leases.holders r.clock).ncard)

theorem PresenceKept.trans (h : r.PresenceKept r') (h' : r'.PresenceKept r'') :
    r.PresenceKept r'' :=
  ⟨h'.1.trans h.1,fun guest leases hshows => h'.2 guest leases (h.2 guest leases hshows)⟩

theorem PresenceKept.of_eq (hclock : r'.clock = r.clock) (hpresence : r'.presence = r.presence) :
    r.PresenceKept r' := by
  refine ⟨hclock,fun guest leases hshows => ?_⟩
  rw [ShowsLeases,hclock,hpresence]
  exact hshows

theorem PresenceKept.refl (r : Redis) : r.PresenceKept r := .of_eq rfl rfl

theorem prune_kept (hnow : now = r.clock) (pruned : GuestSessionId) :
    r.PresenceKept (r.prune pruned now) := by
  refine ⟨rfl,fun guest leases hshows => ?_⟩
  by_cases hg : guest = pruned
  · subst hg
    exact Keys.Keeps.prune hshows hnow.le
  · exact Keys.Keeps.congr hshows (presence_prune_of_ne hg)

theorem count_of_shows (hnow : now = r.clock) (h : r.ShowsLeases guest leases) :
    (r.count guest now).1 = (leases.holders now).ncard := by
  subst hnow
  have hcard : ((r.prune guest r.clock).members guest).card =
      ((r.members guest).removeUpTo r.clock).card := congrArg SortedSet.card members_prune
  exact hcard.trans h.card

theorem ExactTests.nil : r.ExactTests [] := fun _ h => absurd h List.not_mem_nil

theorem ExactTests.append (h : r.ExactTests tests) (h' : r.ExactTests tests') :
    r.ExactTests (tests ++ tests') := by
  intro test ht
  rcases List.mem_append.mp ht with ht | ht
  · exact h test ht
  · exact h' test ht

theorem ExactTests.of_kept (hkept : r.PresenceKept r') (h : r'.ExactTests tests) :
    r.ExactTests tests := by
  intro test ht leases hshows
  rw [← hkept.1]
  exact h test ht leases (hkept.2 _ _ hshows)

theorem isPresent_exact (hnow : now = r.clock) (guest : GuestSessionId) :
    r.ExactTests [(guest,(r.isPresent guest now).1)] := by
  intro test ht leases hshows
  rw [List.mem_singleton.mp ht] at hshows ⊢
  rw [isPresent_eq,decide_eq_true_iff,count_of_shows hnow hshows,hnow]

theorem examine_kept (config : AppConfig) (mode : MatchMode) (hnow : now = r.clock)
    (guest : GuestSessionId) (score : Millis) :
    r.PresenceKept (r.examine config mode now guest score).2 := by
  have hpruned := prune_kept hnow guest
  unfold examine
  split_ifs
  · exact .refl r
  · simp only
    split_ifs <;> exact hpruned

theorem examine_exact (hnow : now = r.clock) (guest : GuestSessionId) (score : Millis) :
    r.ExactTests (r.examineTests config now guest score) := by
  unfold examineTests
  split_ifs
  · exact .nil
  · exact isPresent_exact hnow guest

theorem discard_kept (guest : GuestSessionId) : r.PresenceKept (r.discard guest) := by
  unfold discard
  simp only
  split_ifs <;> exact .of_eq rfl rfl

/-- The check of an entry that was popped from the queue. -/
theorem examine_popped_kept (config : AppConfig) (mode : MatchMode) (hnow : now = r.clock)
    (queue : SortedSet GuestSessionId) (guest : GuestSessionId) (score : Millis) :
    r.PresenceKept (examine config { r with queue := queue } mode now guest score).2 := by
  have hpopped : r.PresenceKept { r with queue := queue } := .of_eq rfl rfl
  have hnow' : now = Redis.clock { r with queue := queue } := hnow
  exact hpopped.trans (examine_kept config mode hnow' guest score)

theorem scan_kept (config : AppConfig) (mode : MatchMode) (maxScan : ℕ)
    (candidates : List Candidate) (discarded : List RemovedQueueGuest) (hnow : now = r.clock) :
    r.PresenceKept (scan config mode now maxScan r candidates discarded).2.2 := by
  induction maxScan generalizing r candidates discarded with
  | zero => exact .refl r
  | succ maxScan ih =>
    unfold scan
    split_ifs
    · exact .refl r
    · cases hpop : r.queue.popMin with
      | none => exact .refl r
      | some popped =>
        obtain ⟨⟨guest,score⟩,queue⟩ := popped
        have hchecked := examine_popped_kept config mode hnow queue guest score
        simp only
        generalize examine config { r with queue := queue } mode now guest score = checked at *
        obtain ⟨reason,r₁⟩ := checked
        have hnow₁ : now = r₁.clock := hnow.trans hchecked.1.symm
        cases reason with
        | none => exact hchecked.trans (ih _ _ hnow₁)
        | some reason =>
          have hdiscarded := hchecked.trans (discard_kept guest)
          exact hdiscarded.trans (ih _ _ (hnow.trans hdiscarded.1.symm))

theorem scan_exact (maxScan : ℕ) (candidates : List Candidate) (hnow : now = r.clock) :
    r.ExactTests (scanTests config mode now maxScan r candidates) := by
  induction maxScan generalizing r candidates with
  | zero => exact .nil
  | succ maxScan ih =>
    unfold scanTests
    split_ifs
    · exact .nil
    · cases hpop : r.queue.popMin with
      | none => exact .nil
      | some popped =>
        obtain ⟨⟨guest,score⟩,queue⟩ := popped
        have hpopped : r.PresenceKept { r with queue := queue } := .of_eq rfl rfl
        have hchecked := examine_popped_kept config mode hnow queue guest score
        simp only
        refine ((examine_exact hnow guest score).of_kept hpopped).append ?_
        generalize examine config { r with queue := queue } mode now guest score = checked at *
        obtain ⟨reason,r₁⟩ := checked
        cases reason with
        | none => exact (ih _ (hnow.trans hchecked.1.symm)).of_kept hchecked
        | some reason =>
          have hdiscarded := hchecked.trans (discard_kept guest)
          exact (ih _ (hnow.trans hdiscarded.1.symm)).of_kept hdiscarded

theorem putBack_kept (candidates : List Candidate) :
    r.PresenceKept (candidates.foldl (putBack config) r) := by
  induction candidates generalizing r with
  | nil => exact .refl r
  | cons candidate candidates ih =>
    have hfirst : r.PresenceKept (r.putBack config candidate) := .of_eq rfl rfl
    exact hfirst.trans ih

theorem tryMatch_kept (matchId : MatchId) (gameId : GameId) (maxScan : ℕ) (hnow : now = r.clock) :
    r.PresenceKept (r.tryMatch config mode matchId gameId now maxScan).2 := by
  have hscan := scan_kept config mode maxScan [] [] hnow
  unfold tryMatch
  split_ifs
  · exact .refl r
  · generalize scan config mode now maxScan r [] [] = scanned at *
    obtain ⟨candidates,discarded,r₁⟩ := scanned
    match candidates with
    | [] => exact hscan
    | [a] => exact hscan.trans (putBack_kept [a])
    | a :: b :: rest =>
      simp only
      split_ifs
      · exact hscan.trans (.of_eq rfl rfl)
      · exact hscan.trans (.of_eq rfl rfl)

theorem tryMatch_exact (matchId : MatchId) (maxScan : ℕ) (hnow : now = r.clock) :
    r.ExactTests (r.tryMatchTests config mode matchId now maxScan) := by
  unfold tryMatchTests
  split_ifs
  · exact .nil
  · exact scan_exact maxScan [] hnow

theorem restore_kept (config : AppConfig) (mode : MatchMode) (guest : GuestSessionId)
    (score : Millis) (durable : GuestMatchEligibility) (hnow : now = r.clock) :
    r.PresenceKept (r.restore config mode now guest score durable).2 := by
  unfold restore
  cases durable.activeGameId with
  | some gameId => exact .of_eq rfl rfl
  | none =>
    have hchecked : r.PresenceKept (if durable.eligible then
        (r.delActiveGame guest).isPresent guest now else (false,r.delActiveGame guest)).2 := by
      have hdeleted : r.PresenceKept (r.delActiveGame guest) := .of_eq rfl rfl
      split_ifs
      · exact hdeleted.trans (prune_kept hnow guest)
      · exact hdeleted
    simp only
    generalize (if durable.eligible = true then (r.delActiveGame guest).isPresent guest now
      else (false,r.delActiveGame guest)) = checked at hchecked ⊢
    obtain ⟨present,r₁⟩ := checked
    cases present with
    | false => exact hchecked.trans (.of_eq rfl rfl)
    | true =>
      simp only [if_true,setState,setGuard]
      split_ifs
      · exact hchecked.trans (.of_eq rfl rfl)
      · exact hchecked.trans (.of_eq rfl rfl)

theorem restore_exact (guest : GuestSessionId) (durable : GuestMatchEligibility)
    (hnow : now = r.clock) : r.ExactTests (r.restoreTests now guest durable) := by
  unfold restoreTests
  cases durable.activeGameId with
  | some gameId => exact .nil
  | none =>
    simp only
    split_ifs
    · have hdeleted : r.PresenceKept (r.delActiveGame guest) := .of_eq rfl rfl
      exact (isPresent_exact hnow guest).of_kept hdeleted
    · exact .nil

theorem rollback_kept (reservation : MatchReservation) (durable : DurableGuests)
    (hnow : now = r.clock) : r.PresenceKept (r.rollback config reservation durable now).2 := by
  unfold rollback
  cases r.reservation reservation.matchId with
  | none =>
    simp only
    split_ifs
    · exact .refl r
    · exact .refl r
  | some values =>
    simp only
    split_ifs
    · have hfirst := restore_kept config reservation.mode reservation.a
        reservation.aScore durable.a hnow
      have hsecond := restore_kept config reservation.mode reservation.b
        reservation.bScore durable.b (hnow.trans hfirst.1.symm)
      exact (hfirst.trans hsecond).trans (.of_eq rfl rfl)
    · exact .refl r

theorem rollback_exact (reservation : MatchReservation) (durable : DurableGuests)
    (hnow : now = r.clock) : r.ExactTests (r.rollbackTests config reservation durable now) := by
  unfold rollbackTests
  cases r.reservation reservation.matchId with
  | none => exact .nil
  | some values =>
    simp only
    split_ifs
    · have hfirst := restore_kept config reservation.mode reservation.a
        reservation.aScore durable.a hnow
      exact (restore_exact reservation.a durable.a hnow).append
        ((restore_exact reservation.b durable.b (hnow.trans hfirst.1.symm)).of_kept hfirst)
    · exact .nil

theorem idleIfQueued_kept (guest : GuestSessionId) :
    r.PresenceKept (r.idleIfQueued config guest) := by
  unfold idleIfQueued
  split_ifs
  · exact .of_eq rfl rfl
  · exact .refl r

theorem sweepEntry_kept (config : AppConfig) (mode : MatchMode)
    (removed : List RemovedQueueGuest) (entry : GuestSessionId × Millis) (hnow : now = r.clock) :
    r.PresenceKept (sweepEntry config mode now (removed,r) entry).2 := by
  have hchecked := examine_kept config mode hnow entry.1 entry.2
  unfold sweepEntry
  simp only
  generalize r.examine config mode now entry.1 entry.2 = checked at *
  obtain ⟨reason,r₁⟩ := checked
  cases reason with
  | none => exact hchecked
  | some reason =>
    simp only
    split_ifs
    · have hleft : r₁.PresenceKept ((r₁.zrem entry.1).delGuard entry.1) := .of_eq rfl rfl
      exact (hchecked.trans hleft).trans (idleIfQueued_kept entry.1)
    · exact hchecked

theorem sweepEntries_kept (entries : List (GuestSessionId × Millis))
    (removed : List RemovedQueueGuest) (hnow : now = r.clock) :
    r.PresenceKept (entries.foldl (sweepEntry config mode now) (removed,r)).2 := by
  induction entries generalizing r removed with
  | nil => exact .refl r
  | cons entry entries ih =>
    have hfirst := sweepEntry_kept config mode removed entry hnow
    exact hfirst.trans (ih _ (hnow.trans hfirst.1.symm))

theorem sweepEntries_exact (entries : List (GuestSessionId × Millis))
    (removed : List RemovedQueueGuest) (hnow : now = r.clock) :
    r.ExactTests (sweepEntriesTests config mode now entries (removed,r)) := by
  induction entries generalizing r removed with
  | nil => exact .nil
  | cons entry entries ih =>
    have hfirst := sweepEntry_kept config mode removed entry hnow
    exact (examine_exact hnow entry.1 entry.2).append
      ((ih _ (hnow.trans hfirst.1.symm)).of_kept hfirst)

theorem enqueue_kept (guest : GuestSessionId) (now : Millis) :
    r.PresenceKept (r.enqueue config guest mode now).2 := by
  unfold enqueue
  split_ifs
  · exact .refl r
  · cases r.queue.score guest <;> exact .of_eq rfl rfl

theorem leave_kept (guest : GuestSessionId) : r.PresenceKept (r.leave config guest).2 := by
  have hleft : r.PresenceKept ((r.zrem guest).delGuard guest) := .of_eq rfl rfl
  exact hleft.trans (idleIfQueued_kept guest)

theorem setInGame_kept (guest : GuestSessionId) (gameId : GameId) :
    r.PresenceKept (r.setInGame config guest gameId) := .of_eq rfl rfl

theorem setBothInGame_kept (a b : GuestSessionId) (gameId : GameId) :
    r.PresenceKept ((r.setInGame config a gameId).setInGame config b gameId) :=
  (setInGame_kept a gameId).trans (setInGame_kept b gameId)

theorem delGuards_kept (a b : GuestSessionId) :
    r.PresenceKept ((r.delGuard a).delGuard b) := .of_eq rfl rfl

theorem finalize_kept (reservation : MatchReservation) :
    r.PresenceKept (r.finalize config reservation).2 := by
  unfold finalize
  cases r.reservation reservation.matchId with
  | none => simp only; split_ifs <;> exact .refl r
  | some values =>
    simp only
    split_ifs
    · have hdeleted (r : Redis) : r.PresenceKept (r.delReservation reservation.matchId) :=
        .of_eq rfl rfl
      exact ((setBothInGame_kept _ _ _).trans (hdeleted _)).trans (delGuards_kept _ _)
    · exact .refl r

theorem repairCommitted_kept (gameId : GameId) (a b : GuestSessionId) :
    r.PresenceKept (r.repairCommitted config gameId a b).2 := by
  unfold repairCommitted
  split_ifs
  · exact .refl r
  · have hremoved (r : Redis) : r.PresenceKept ((r.zrem a).zrem b) := .of_eq rfl rfl
    exact ((setBothInGame_kept a b gameId).trans (hremoved _)).trans (delGuards_kept a b)

theorem clearActiveGame_kept (guest : GuestSessionId) (expected : GameId) :
    r.PresenceKept (r.clearActiveGame config guest expected).2 := by
  unfold clearActiveGame
  split_ifs
  · exact .of_eq rfl rfl
  · exact .of_eq rfl rfl
  · exact .refl r

theorem sweep_kept (config : AppConfig) (mode : MatchMode) (batch : ℕ) (hnow : now = r.clock) :
    r.PresenceKept (r.sweep config mode now batch).2 :=
  sweepEntries_kept (r.queue.range.take batch) [] hnow

theorem sweep_exact (batch : ℕ) (hnow : now = r.clock) :
    r.ExactTests (r.sweepTests config mode now batch) :=
  sweepEntries_exact (r.queue.range.take batch) [] hnow

end Scripts
end Redis

/-! ### The leases of a history -/

section Histories

variable {config : AppConfig} {r : Redis} {past : List PresenceCall} {call : PresenceCall}
  {guest : GuestSessionId} {socket : SocketMember} {now : Millis}

/-- The leases that the latest refreshes give. -/
def refreshLeases (config : AppConfig) (guest : GuestSessionId) (calls : List PresenceCall) :
    Leases SocketMember :=
  fun socket => (latestRefresh guest socket calls).map (· + (config.presenceTtlMs : ℤ))

theorem presentMembers_eq (calls : List PresenceCall) :
    presentMembers config guest calls now = (refreshLeases config guest calls).holders now := by
  ext socket
  constructor
  · rintro ⟨refreshed,hlatest,hlt⟩
    refine ⟨refreshed + config.presenceTtlMs,?_,hlt⟩
    rw [refreshLeases,hlatest]
    rfl
  · rintro ⟨t,ht,hlt⟩
    obtain ⟨refreshed,hlatest,rfl⟩ := Option.map_eq_some_iff.mp ht
    exact ⟨refreshed,hlatest,hlt⟩

theorem latestRefresh_refresh (other : GuestSessionId) (socket' : SocketMember) :
    latestRefresh guest socket' (past ++ [.operation (.refresh other socket now)]) =
      if other = guest ∧ socket = socket' then some now
      else latestRefresh guest socket' past := by
  rw [latestRefresh,List.foldl_append]
  rfl

theorem latestRefresh_remove (other : GuestSessionId) (socket' : SocketMember) :
    latestRefresh guest socket' (past ++ [.operation (.remove other socket now)]) =
      if other = guest ∧ socket = socket' then none else latestRefresh guest socket' past := by
  rw [latestRefresh,List.foldl_append]
  rfl

theorem refreshLeases_congr {calls calls' : List PresenceCall}
    (hlatest : ∀ socket, latestRefresh guest socket calls = latestRefresh guest socket calls') :
    refreshLeases config guest calls = refreshLeases config guest calls' := by
  funext socket
  rw [refreshLeases,hlatest]
  rfl

theorem refreshLeases_refresh :
    refreshLeases config guest (past ++ [.operation (.refresh guest socket now)]) =
      (refreshLeases config guest past).grant socket (now + config.presenceTtlMs) := by
  funext socket'
  rw [refreshLeases,latestRefresh_refresh]
  by_cases hs : socket = socket'
  · subst hs
    simp
  · rw [if_neg fun h => hs h.2,Leases.grant_of_ne (Ne.symm hs)]
    rfl

theorem refreshLeases_remove :
    refreshLeases config guest (past ++ [.operation (.remove guest socket now)]) =
      (refreshLeases config guest past).release socket := by
  funext socket'
  rw [refreshLeases,latestRefresh_remove]
  by_cases hs : socket = socket'
  · subst hs
    simp
  · rw [if_neg fun h => hs h.2,Leases.release_of_ne (Ne.symm hs)]
    rfl

/-- The state shows what the history of calls has refreshed and removed. -/
def Redis.Agrees (config : AppConfig) (past : List PresenceCall) (r : Redis) : Prop :=
  ∀ guest, r.ShowsLeases guest (refreshLeases config guest past) ∧
    ∀ socket refreshed, latestRefresh guest socket past = some refreshed → refreshed ≤ r.clock

/-- A call after which no refresh is the latest that was not before. -/
theorem Redis.Agrees.kept {r' : Redis} (h : r.Agrees config past) (hkept : r.PresenceKept r')
    (hsame : ∀ guest socket, latestRefresh guest socket (past ++ [call]) =
      latestRefresh guest socket past) : r'.Agrees config (past ++ [call]) := by
  intro guest
  constructor
  · rw [refreshLeases_congr (hsame guest)]
    exact hkept.2 guest _ (h guest).1
  · intro socket refreshed hlatest
    rw [hsame] at hlatest
    rw [hkept.1]
    exact (h guest).2 socket refreshed hlatest

/-- A call about one guest tells nothing of another. -/
theorem refreshLeases_of_ne {other : GuestSessionId} (hg : guest ≠ other)
    (hcall : call = .operation (.refresh other socket now) ∨
      call = .operation (.remove other socket now)) :
    refreshLeases config guest (past ++ [call]) = refreshLeases config guest past := by
  refine refreshLeases_congr fun socket' => ?_
  rcases hcall with rfl | rfl
  · rw [latestRefresh_refresh,if_neg fun h => hg h.1.symm]
  · rw [latestRefresh_remove,if_neg fun h => hg h.1.symm]

theorem Redis.refresh_presence_of_ne {other : GuestSessionId} (hg : guest ≠ other) :
    (r.refresh config other socket now).2.presence guest = r.presence guest := by
  have hadded : (r.refresh config other socket now).2.presence guest =
      (r.prune other now).presence guest :=
    (Keys.pexpire_of_ne hg _).trans ((r.prune other now).presence.updateSet_of_ne r.clock hg
      fun s => s.add socket (now + config.presenceTtlMs))
  exact hadded.trans (presence_prune_of_ne hg)

theorem Redis.remove_presence_of_ne {other : GuestSessionId} (hg : guest ≠ other) :
    (r.remove other socket now).2.presence guest = r.presence guest := by
  have hremoved : (r.remove other socket now).2.presence guest =
      (r.prune other now).presence guest :=
    (r.prune other now).presence.updateSet_of_ne r.clock hg fun s => s.remove socket
  exact hremoved.trans (presence_prune_of_ne hg)

theorem Redis.Agrees.lease_le (h : r.Agrees config past) {t : ℤ}
    (ht : refreshLeases config guest past socket = some t) :
    t ≤ r.clock + ((config.presenceTtlMs + config.socketPingTimeoutMs : ℕ) : ℤ) := by
  obtain ⟨refreshed,hlatest,rfl⟩ := Option.map_eq_some_iff.mp ht
  have hle : (refreshed : ℤ) ≤ r.clock := (h guest).2 socket refreshed hlatest
  have hclock : (refreshed : ℤ) + config.presenceTtlMs ≤ r.clock + config.presenceTtlMs :=
    Int.add_le_add_right hle _
  refine hclock.trans (Int.add_le_add_left ?_ _)
  omega

theorem Redis.Agrees.refresh (h : r.Agrees config past) (hnow : now = r.clock)
    (guest : GuestSessionId) (socket : SocketMember) :
    (r.refresh config guest socket now).2.Agrees config
      (past ++ [.operation (.refresh guest socket now)]) := by
  intro other
  by_cases hg : other = guest
  · subst hg
    constructor
    · have hpruned : ((r.prune other now).presence).Keeps r.clock other
          (refreshLeases config other past) := (prune_kept hnow other).2 other _ (h other).1
      have hle : (config.presenceTtlMs : ℤ) ≤
          ((config.presenceTtlMs + config.socketPingTimeoutMs : ℕ) : ℤ) := by omega
      rw [refreshLeases_refresh]
      subst hnow
      exact hpruned.grant hle fun m t ht => h.lease_le ht
    · intro socket' refreshed hlatest
      rw [latestRefresh_refresh] at hlatest
      split_ifs at hlatest
      · cases hlatest
        exact hnow.le
      · exact (h other).2 socket' refreshed hlatest
  · constructor
    · rw [refreshLeases_of_ne hg (Or.inl rfl)]
      exact (h other).1.congr (refresh_presence_of_ne hg)
    · intro socket' refreshed hlatest
      rw [latestRefresh_refresh,if_neg fun hs => hg hs.1.symm] at hlatest
      exact (h other).2 socket' refreshed hlatest

theorem Redis.Agrees.remove (h : r.Agrees config past) (hnow : now = r.clock)
    (guest : GuestSessionId) (socket : SocketMember) :
    (r.remove guest socket now).2.Agrees config
      (past ++ [.operation (.remove guest socket now)]) := by
  intro other
  by_cases hg : other = guest
  · subst hg
    constructor
    · have hpruned : ((r.prune other now).presence).Keeps r.clock other
          (refreshLeases config other past) := (prune_kept hnow other).2 other _ (h other).1
      rw [refreshLeases_remove]
      exact hpruned.release
    · intro socket' refreshed hlatest
      rw [latestRefresh_remove] at hlatest
      split_ifs at hlatest
      exact (h other).2 socket' refreshed hlatest
  · constructor
    · rw [refreshLeases_of_ne hg (Or.inr rfl)]
      exact (h other).1.congr (remove_presence_of_ne hg)
    · intro socket' refreshed hlatest
      rw [latestRefresh_remove,if_neg fun hs => hg hs.1.symm] at hlatest
      exact (h other).2 socket' refreshed hlatest

theorem Redis.Agrees.elapse (h : r.Agrees config past) (ms : ℕ)
    (hsame : ∀ guest socket, latestRefresh guest socket (past ++ [call]) =
      latestRefresh guest socket past) :
    Redis.Agrees config (past ++ [call]) { r with clock := r.clock + ms } := by
  have hle : r.clock ≤ r.clock + (ms : ℤ) := Int.le_add_of_nonneg_right (Int.natCast_nonneg ms)
  intro guest
  constructor
  · rw [refreshLeases_congr (hsame guest)]
    exact (h guest).1.later hle
  · intro socket refreshed hlatest
    rw [hsame] at hlatest
    exact ((h guest).2 socket refreshed hlatest).trans hle

def PresenceCall.neutral : PresenceCall → Bool
  | .operation (.refresh ..) | .operation (.remove ..) => false
  | _ => true

theorem latestRefresh_neutral (hcall : call.neutral = true) (guest : GuestSessionId)
    (socket : SocketMember) :
    latestRefresh guest socket (past ++ [call]) = latestRefresh guest socket past := by
  rw [latestRefresh,List.foldl_append]
  match call with
  | .operation (.refresh ..) => cases hcall
  | .operation (.remove ..) => cases hcall
  | .operation (.enqueue ..) | .operation (.leave _) | .operation (.tryMatch ..)
  | .operation (.finalize _) | .operation (.rollback ..) | .operation (.sweep ..)
  | .operation (.repairCommitted ..) | .operation (.clearActiveGame ..)
  | .operation (.elapse _) | .count .. | .isPresent .. => rfl

/-- Whatever the call, the store agrees with the history that it joins. -/
theorem Redis.Agrees.next (h : r.Agrees config past) (hnow : ∀ now ∈ call.now, now = r.clock) :
    ((presenceKeys config).next r call).Agrees config (past ++ [call]) := by
  match call with
  | .operation (.enqueue guest mode now) =>
    exact h.kept (enqueue_kept guest now) (latestRefresh_neutral rfl)
  | .operation (.leave guest) => exact h.kept (leave_kept guest) (latestRefresh_neutral rfl)
  | .operation (.tryMatch mode matchId gameId now maxScan) =>
    exact h.kept (tryMatch_kept matchId gameId maxScan (hnow now rfl)) (latestRefresh_neutral rfl)
  | .operation (.finalize reservation) =>
    exact h.kept (finalize_kept reservation) (latestRefresh_neutral rfl)
  | .operation (.rollback reservation durable now) =>
    exact h.kept (rollback_kept reservation durable (hnow now rfl)) (latestRefresh_neutral rfl)
  | .operation (.sweep mode now batch) =>
    exact h.kept (sweep_kept config mode batch (hnow now rfl)) (latestRefresh_neutral rfl)
  | .operation (.repairCommitted gameId a b) =>
    exact h.kept (repairCommitted_kept gameId a b) (latestRefresh_neutral rfl)
  | .operation (.clearActiveGame guest expected) =>
    exact h.kept (clearActiveGame_kept guest expected) (latestRefresh_neutral rfl)
  | .operation (.refresh guest socket now) => exact h.refresh (hnow now rfl) guest socket
  | .operation (.remove guest socket now) => exact h.remove (hnow now rfl) guest socket
  | .operation (.elapse ms) => exact h.elapse ms (latestRefresh_neutral rfl)
  | .count guest now => exact h.kept (prune_kept (hnow now rfl) guest) (latestRefresh_neutral rfl)
  | .isPresent guest now =>
    exact h.kept (prune_kept (hnow now rfl) guest) (latestRefresh_neutral rfl)

def OnTime (config : AppConfig) (start : Redis) (calls : List PresenceCall) : Prop :=
  ∀ e ∈ (presenceKeys config).events start calls, ∀ now ∈ e.input.now, now = e.before.clock

instance (config : AppConfig) (start : Redis) (calls : List PresenceCall) :
    Decidable (OnTime config start calls) :=
  inferInstanceAs (Decidable (∀ e ∈ (presenceKeys config).events start calls,
    ∀ now ∈ e.input.now, now = e.before.clock))

theorem OnTime.append {start : Redis} {calls : List PresenceCall}
    (h : OnTime config start (past ++ calls)) :
    OnTime config start past ∧ OnTime config ((presenceKeys config).run start past) calls := by
  unfold OnTime at h ⊢
  rw [Machine.events_append] at h
  exact ⟨fun e he => h e (List.mem_append_left _ he),fun e he => h e (List.mem_append_right _ he)⟩

theorem agrees_start {start : Redis} (hstart : start.presence = .empty) :
    start.Agrees config [] := by
  intro guest
  constructor
  · intro c _ socket t _
    rw [hstart]
    constructor <;> intro h <;> cases h
  · intro socket refreshed hlatest
    cases hlatest

theorem agrees_run {start : Redis} (hstart : start.presence = .empty) (calls : List PresenceCall)
    (hontime : OnTime config start calls) :
    ((presenceKeys config).run start calls).Agrees config calls := by
  induction calls using List.reverseRecOn with
  | nil => exact agrees_start hstart
  | append_singleton past call ih =>
    obtain ⟨hpast,hcall⟩ := hontime.append
    rw [Machine.run_append]
    exact (ih hpast).next (hcall _ List.mem_cons_self)

/-! ### Counts and tests -/

theorem Redis.Agrees.finite (h : r.Agrees config past) (guest : GuestSessionId) :
    (presentMembers config guest past r.clock).Finite := by
  rw [presentMembers_eq]
  exact (h guest).1.holders_finite

theorem Redis.Agrees.card_members (h : r.Agrees config past)
    (hfresh : ∀ e ∈ (r.members guest).rows, r.clock < e.2) :
    (presentMembers config guest past r.clock).encard = (r.members guest).card := by
  have hcard : ((r.members guest).removeUpTo r.clock).card =
      ((refreshLeases config guest past).holders r.clock).ncard := (h guest).1.card
  rw [SortedSet.removeUpTo_of_lt hfresh,← presentMembers_eq] at hcard
  rw [hcard,(h.finite guest).cast_ncard_eq]

theorem fresh_refresh (httl : 0 < config.presenceTtlMs) :
    ∀ e ∈ ((r.refresh config guest socket now).2.members guest).rows, now < e.2 := by
  intro e he
  have hscore := SortedSet.score_eq_some.mpr he
  rw [Redis.members_refresh,SortedSet.score_add] at hscore
  split_ifs at hscore
  · have hend : now + (config.presenceTtlMs : ℤ) = e.2 := Option.some.inj hscore
    rw [← hend]
    exact Int.lt_add_of_pos_right now (Int.natCast_pos.mpr httl)
  · exact (SortedSet.score_removeUpTo_eq_some.mp hscore).2

theorem fresh_remove : ∀ e ∈ ((r.remove guest socket now).2.members guest).rows, now < e.2 := by
  intro e he
  have hscore := SortedSet.score_eq_some.mpr he
  rw [Redis.members_remove,SortedSet.score_remove] at hscore
  split_ifs at hscore
  exact (SortedSet.score_removeUpTo_eq_some.mp hscore).2

theorem fresh_prune : ∀ e ∈ ((r.prune guest now).members guest).rows, now < e.2 := by
  intro e he
  rw [Redis.members_prune] at he
  exact (SortedSet.score_removeUpTo_eq_some.mp (SortedSet.score_eq_some.mpr he)).2

/-- What a call counts is the number of members that its history has left present. -/
theorem Redis.Agrees.counted (h : r.Agrees config past) (httl : 0 < config.presenceTtlMs)
    (hnow : ∀ now ∈ call.now, now = r.clock) {count : ℕ}
    (hcount : ((presenceKeys config).step r call).1.counted = some (guest,count)) :
    (presentMembers config guest (past ++ [call]) r.clock).encard = count := by
  have hnext := h.next hnow
  match call with
  | .operation (.refresh other socket now) =>
    cases hcount
    have hnow := hnow now rfl
    subst hnow
    exact hnext.card_members (fresh_refresh httl)
  | .operation (.remove other socket now) =>
    cases hcount
    have hnow := hnow now rfl
    subst hnow
    exact hnext.card_members fresh_remove
  | .count other now =>
    cases hcount
    have hnow := hnow now rfl
    subst hnow
    exact hnext.card_members fresh_prune
  | .operation (.enqueue ..) | .operation (.leave _) | .operation (.tryMatch ..)
  | .operation (.finalize _) | .operation (.rollback ..) | .operation (.sweep ..)
  | .operation (.repairCommitted ..) | .operation (.clearActiveGame ..)
  | .operation (.elapse _) | .isPresent .. => cases hcount

/-- The presence tests of a call are those of the leases. -/
theorem Redis.tests_exact (hnow : ∀ now ∈ call.now, now = r.clock) :
    r.ExactTests ((presenceKeys config).step r call).1.tests := by
  match call with
  | .operation (.tryMatch mode matchId gameId now maxScan) =>
    exact tryMatch_exact matchId maxScan (hnow now rfl)
  | .operation (.rollback reservation durable now) =>
    exact rollback_exact reservation durable (hnow now rfl)
  | .operation (.sweep mode now batch) => exact sweep_exact batch (hnow now rfl)
  | .isPresent guest now => exact isPresent_exact (hnow now rfl) guest
  | .operation (.enqueue ..) | .operation (.leave _) | .operation (.finalize _)
  | .operation (.repairCommitted ..) | .operation (.clearActiveGame ..)
  | .operation (.elapse _) | .operation (.refresh ..) | .operation (.remove ..) | .count .. =>
    exact .nil

/-- A member whose lease has not ended is read from its key, which so outlives it. -/
theorem Redis.Agrees.not_deleted (h : r.Agrees config past) (hle : r.clock ≤ now)
    (hpresent : socket ∈ presentMembers config guest past now) :
    (r.presence.sortedSet now guest).score socket ≠ none := by
  rw [presentMembers_eq] at hpresent
  obtain ⟨t,ht,hlt⟩ := hpresent
  have hscore := ((h guest).1 now hle socket t hlt).mpr ht
  rw [hscore]
  exact Option.some_ne_none t

end Histories

/-- Presence is counted exactly. After any calls and scripts, the number that a call returns is
that of the members whose latest refresh is less than a lifetime ago and was not followed by
their removal; the presence test of every script is whether there is one; and no such member is
deleted with its key. -/
theorem presence_counts_exact (environment : AppEnvironment) (haccepted : environment.Accepted)
    (start : Redis) (hstart : start.presence = .empty) (past : List PresenceCall)
    (call : PresenceCall) (hontime : OnTime environment.config start (past ++ [call])) :
    let config := environment.config
    let keys := presenceKeys config
    let answer := (keys.step (keys.run start past) call).1
    let after := keys.run start (past ++ [call])
    (∀ guest count, answer.counted = some (guest,count) → ∀ now ∈ call.now,
      (presentMembers config guest (past ++ [call]) now).encard = count) ∧
    (∀ test ∈ answer.tests, ∀ now ∈ call.now,
      (test.2 = true ↔ 0 < (presentMembers config test.1 past now).encard)) ∧
    ∀ guest socket now, after.clock ≤ now →
      socket ∈ presentMembers config guest (past ++ [call]) now →
        (after.presence.sortedSet now guest).score socket ≠ none := by
  intro config keys answer after
  have hrelations := AppEnvironment.superRefine_eq_nil.mp haccepted.2
  have httl : 0 < config.presenceTtlMs := (Nat.zero_le _).trans_lt hrelations.1
  obtain ⟨hpast,hcall⟩ := hontime.append
  have hbefore := agrees_run hstart past hpast
  have hnow : ∀ now ∈ call.now, now = (keys.run start past).clock :=
    hcall _ List.mem_cons_self
  refine ⟨fun guest count hcount now hn => ?_,fun test ht now hn => ?_,
    fun guest socket now hle hpresent => ?_⟩
  · rw [hnow now hn]
    exact hbefore.counted httl hnow hcount
  · have hexact := Redis.tests_exact hnow test ht _ (hbefore test.1).1
    rw [hexact,hnow now hn,← presentMembers_eq,← (hbefore.finite test.1).cast_ncard_eq]
    exact ENat.natCast_lt_natCast.symm
  · exact (agrees_run hstart (past ++ [call]) hontime).not_deleted hle hpresent

/-- One of two sockets of a guest has expired when the guest is counted. -/
def samplePresenceCalls : List PresenceCall :=
  [.operation (.refresh (sampleId 1) "a" 0),.operation (.elapse 30000),
    .operation (.refresh (sampleId 1) "b" 30000),.operation (.elapse 20000)]

theorem presence_counts_exact_sample :
    (presentMembers sampleEnvironment.config (sampleId 1)
      (samplePresenceCalls ++ [.count (sampleId 1) 50000]) 50000).encard = 1 :=
  (presence_counts_exact sampleEnvironment (by decide) (.initial 0) rfl samplePresenceCalls
    (.count (sampleId 1) 50000) (by decide)).1 (sampleId 1) 1 (by decide) 50000 rfl

end CluChess
