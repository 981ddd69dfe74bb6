import CluChess.ScriptRetries

/-! The order of the queue. `try-match.lua` pops entries one after the other, puts back what it
does not use and throws away what has gone stale; `sweep.lua` throws away the same entries. -/
namespace CluChess

section Prefixes

variable {α : Type*} {p q : α → Bool}

/-- The shortest prefix with `n` members that satisfy `p`, or else the whole list. -/
def prefixWith (p : α → Bool) : ℕ → List α → List α
  | 0, _ => []
  | _ + 1, [] => []
  | n + 1, x :: xs => x :: prefixWith p (if p x then n else n + 1) xs

@[simp] theorem prefixWith_zero (l : List α) : prefixWith p 0 l = [] := by cases l <;> rfl

@[simp] theorem prefixWith_nil (n : ℕ) : prefixWith p n [] = [] := by cases n <;> rfl

theorem prefixWith_isPrefix (n : ℕ) (l : List α) : prefixWith p n l <+: l := by
  induction l generalizing n with
  | nil => simp
  | cons x xs ih =>
    cases n with
    | zero => simp
    | succ n => exact List.cons_prefix_cons.mpr ⟨rfl,ih _⟩

theorem filter_prefixWith (n : ℕ) (l : List α) :
    (prefixWith p n l).filter p = (l.filter p).take n := by
  induction l generalizing n with
  | nil => simp
  | cons x xs ih =>
    cases n with
    | zero => simp
    | succ n =>
      rw [prefixWith,List.filter_cons,List.filter_cons,ih]
      by_cases hx : p x = true <;> simp [hx]

theorem prefixWith_congr {l : List α} (h : ∀ x ∈ l, p x = q x) (n : ℕ) :
    prefixWith p n l = prefixWith q n l := by
  induction l generalizing n with
  | nil => simp
  | cons x xs ih =>
    cases n with
    | zero => simp
    | succ n =>
      rw [prefixWith,prefixWith,h x List.mem_cons_self,
        ih fun y hy => h y (List.mem_cons_of_mem _ hy)]

end Prefixes

namespace Redis

variable (config : AppConfig) (mode : MatchMode) (now : Millis)

def Eligible (r : Redis) (entry : GuestSessionId × Millis) : Prop :=
  now - config.queueMaxWaitMs < entry.2 ∧
    (∃ connection ∈ (r.members entry.1).rows, now < connection.2) ∧
    r.state entry.1 = some .queued ∧ r.guard entry.1 = some mode ∧ r.activeGames entry.1 = none

instance (r : Redis) (entry : GuestSessionId × Millis) :
    Decidable (r.Eligible config mode now entry) := inferInstanceAs (Decidable (_ ∧ _))

/-- The first condition that an entry fails. -/
def rejection (r : Redis) (entry : GuestSessionId × Millis) : Option RemovalReason :=
  if now - config.queueMaxWaitMs < entry.2 then
    if ∃ connection ∈ (r.members entry.1).rows, now < connection.2 then
      if r.state entry.1 = some .queued ∧ r.guard entry.1 = some mode ∧
          r.activeGames entry.1 = none then none
      else some .stale
    else some .disconnected
  else some .timeout

def report (r : Redis) (entry : GuestSessionId × Millis) : Option RemovedQueueGuest :=
  (r.rejection config mode now entry).map fun reason => ⟨entry.1,reason⟩

theorem rejection_eq_none {r : Redis} {entry : GuestSessionId × Millis} :
    r.rejection config mode now entry = none ↔ r.Eligible config mode now entry := by
  unfold rejection Eligible
  split_ifs with htime hpresent hqueued
  · exact ⟨fun _ => ⟨htime,hpresent,hqueued⟩,fun _ => rfl⟩
  · exact ⟨nofun,fun h => absurd h.2.2 hqueued⟩
  · exact ⟨nofun,fun h => absurd h.2.1 hpresent⟩
  · exact ⟨nofun,fun h => absurd h.1 htime⟩

section Keys

variable {r r' r'' : Redis} {guest other : GuestSessionId} {entry : GuestSessionId × Millis}

/-- The keys of a guest, and the place in the queue, are the same in both states. -/
structure SameAt (r r' : Redis) (guest : GuestSessionId) : Prop where
  clock : r'.clock = r.clock
  score : r'.queue.score guest = r.queue.score guest
  guards : r'.guards guest = r.guards guest
  states : r'.states guest = r.states guest
  activeGames : r'.activeGames guest = r.activeGames guest
  presence : r'.presence guest = r.presence guest

theorem SameAt.refl (r : Redis) (guest : GuestSessionId) : SameAt r r guest :=
  ⟨rfl,rfl,rfl,rfl,rfl,rfl⟩

theorem SameAt.trans (h : SameAt r r' guest) (h' : SameAt r' r'' guest) : SameAt r r'' guest :=
  ⟨h'.clock.trans h.clock,h'.score.trans h.score,h'.guards.trans h.guards,
    h'.states.trans h.states,h'.activeGames.trans h.activeGames,h'.presence.trans h.presence⟩

theorem SameAt.state (h : SameAt r r' guest) : r'.state guest = r.state guest := by
  rw [Redis.state,Redis.state,h.clock]
  exact Keys.get_congr h.states

theorem SameAt.guard (h : SameAt r r' guest) : r'.guard guest = r.guard guest := by
  rw [Redis.guard,Redis.guard,h.clock]
  exact Keys.get_congr h.guards

theorem SameAt.members (h : SameAt r r' guest) : r'.members guest = r.members guest := by
  rw [Redis.members,Redis.members,h.clock]
  exact Keys.sortedSet_congr h.presence

variable (entry) in
theorem SameAt.rejection (h : SameAt r r' entry.1) :
    r'.rejection config mode now entry = r.rejection config mode now entry := by
  unfold Redis.rejection
  rw [h.members,h.state,h.guard,h.activeGames]

theorem SameAt.eligible (h : SameAt r r' entry.1) :
    r'.Eligible config mode now entry ↔ r.Eligible config mode now entry := by
  rw [← rejection_eq_none,← rejection_eq_none,h.rejection]

variable (guest) in
theorem isPresent_iff : (r.isPresent guest now).1 = true ↔
    ∃ connection ∈ (r.members guest).rows, now < connection.2 := by
  have hcard : (r.isPresent guest now).1 = decide (0 < ((r.prune guest now).members guest).card) :=
    rfl
  rw [hcard,decide_eq_true_iff,members_prune,SortedSet.card,List.length_pos_iff_exists_mem]
  constructor
  · rintro ⟨connection,hmem⟩
    obtain ⟨hmem,hle⟩ := Table.mem_deleteWhere.mp hmem
    exact ⟨connection,hmem,by simpa using hle⟩
  · rintro ⟨connection,hmem,hlt⟩
    exact ⟨connection,Table.mem_deleteWhere.mpr ⟨hmem,by simpa using hlt⟩⟩

variable (entry) in
theorem examine_eq_rejection : (r.examine config mode now entry.1 entry.2).1 =
    r.rejection config mode now entry := by
  have hpresent := isPresent_iff now entry.1 (r := r)
  have hstate : (r.isPresent entry.1 now).2.state entry.1 = r.state entry.1 := rfl
  have hguard : (r.isPresent entry.1 now).2.guard entry.1 = r.guard entry.1 := rfl
  have hactive : (r.isPresent entry.1 now).2.activeGames entry.1 = r.activeGames entry.1 := rfl
  unfold examine rejection
  by_cases htimeout : entry.2 ≤ now - config.queueMaxWaitMs
  · rw [if_pos htimeout,if_neg (not_lt.mpr htimeout)]
  · rw [if_neg htimeout,if_pos (not_le.mp htimeout)]
    generalize hcheck : r.isPresent entry.1 now = checked at *
    obtain ⟨present,r₁⟩ := checked
    cases present with
    | false =>
      have habsent : ¬ ∃ connection ∈ (r.members entry.1).rows, now < connection.2 :=
        fun hex => Bool.false_ne_true (hpresent.mpr hex)
      simp only [habsent,if_true,if_false]
    | true =>
      have hfound := hpresent.mp rfl
      simp only [hfound,if_true,Bool.true_eq_false,if_false]
      simp only at hstate hguard hactive
      rw [hstate,hguard,hactive]
      by_cases hgood : r.state entry.1 = some .queued ∧ r.guard entry.1 = some mode ∧
          r.activeGames entry.1 = none
      · simp [hgood]
      · rw [if_neg hgood,if_pos]
        rw [not_and_or,not_and_or] at hgood
        exact hgood.imp_right fun h => h.imp_right fun h => Option.isSome_iff_ne_none.mpr h

theorem examine_sameAt (h : other ≠ guest) (score : Millis) :
    SameAt r (r.examine config mode now guest score).2 other := by
  have hprune : SameAt r (r.isPresent guest now).2 other :=
    ⟨rfl,rfl,rfl,rfl,rfl,presence_prune_of_ne h⟩
  unfold examine
  split_ifs
  · exact .refl r other
  · simp only
    split_ifs <;> exact hprune

theorem SameAt.examine (h : SameAt r r' guest) (score : Millis) :
    (r'.examine config mode now guest score).1 = (r.examine config mode now guest score).1 ∧
      SameAt (r.examine config mode now guest score).2
        (r'.examine config mode now guest score).2 guest := by
  have hreason : (r'.examine config mode now guest score).1 =
      (r.examine config mode now guest score).1 := by
    rw [examine_eq_rejection config mode now (guest,score),
      examine_eq_rejection config mode now (guest,score),
      SameAt.rejection config mode now (guest,score) h]
  refine ⟨hreason,?_⟩
  have hset : r'.presence.sortedSet r'.clock guest = r.presence.sortedSet r.clock guest := h.members
  have hentry : r'.presence.entry r'.clock guest = r.presence.entry r.clock guest := by
    rw [Keys.entry,Keys.entry,h.presence,h.clock]
  have hpruned : SameAt (r.isPresent guest now).2 (r'.isPresent guest now).2 guest := by
    refine ⟨h.clock,h.score,h.guards,h.states,h.activeGames,?_⟩
    show r'.presence.updateSet r'.clock guest (fun s => s.removeUpTo now) guest =
      r.presence.updateSet r.clock guest (fun s => s.removeUpTo now) guest
    unfold Keys.updateSet
    rw [hset,hentry]
    split_ifs
    · rw [Keys.del_self,Keys.del_self]
    · rw [Function.update_self,Function.update_self]
  unfold Redis.examine
  split_ifs
  · exact h
  · simp only
    split_ifs <;> exact hpruned

theorem zrem_sameAt (h : other ≠ guest) : SameAt r (r.zrem guest) other :=
  ⟨rfl,SortedSet.score_remove_of_ne h,rfl,rfl,rfl,rfl⟩

theorem SameAt.zrem (h : SameAt r r' guest) : SameAt (r.zrem guest) (r'.zrem guest) guest :=
  ⟨h.clock,SortedSet.score_remove_self.trans SortedSet.score_remove_self.symm,h.guards,h.states,
    h.activeGames,h.presence⟩

theorem delGuard_sameAt (h : other ≠ guest) : SameAt r (r.delGuard guest) other :=
  ⟨rfl,rfl,Keys.del_of_ne h,rfl,rfl,rfl⟩

theorem SameAt.delGuard (h : SameAt r r' guest) :
    SameAt (r.delGuard guest) (r'.delGuard guest) guest :=
  ⟨h.clock,h.score,Keys.del_self.trans Keys.del_self.symm,h.states,h.activeGames,h.presence⟩

theorem discard_sameAt (h : other ≠ guest) : SameAt r (r.discard guest) other := by
  have hguard := delGuard_sameAt (r := r) h
  unfold discard
  simp only
  split_ifs
  · exact hguard.trans ⟨rfl,rfl,rfl,Keys.del_of_ne h,rfl,rfl⟩
  · exact hguard

theorem SameAt.discard (h : SameAt r r' guest) :
    SameAt (r.discard guest) (r'.discard guest) guest := by
  have hguard := h.delGuard
  unfold Redis.discard
  simp only [hguard.state]
  split_ifs
  · exact ⟨hguard.clock,hguard.score,hguard.guards,Keys.del_self.trans Keys.del_self.symm,
      hguard.activeGames,hguard.presence⟩
  · exact hguard

end Keys

section Local

variable {f : Redis → GuestSessionId × Millis → Redis} {r : Redis}
  {entries : List (GuestSessionId × Millis)}

/-- A step for an entry of the queue that reads and writes the keys of its guest alone. -/
structure Local (f : Redis → GuestSessionId × Millis → Redis) : Prop where
  frame : ∀ r entry guest, guest ≠ entry.1 → SameAt r (f r entry) guest
  congr : ∀ r r' entry, SameAt r r' entry.1 → SameAt (f r entry) (f r' entry) entry.1

theorem Local.foldl_outside (hf : Local f) {guest : GuestSessionId}
    (hg : guest ∉ entries.map Prod.fst) : SameAt r (entries.foldl f r) guest := by
  induction entries generalizing r with
  | nil => exact .refl r guest
  | cons entry entries ih =>
    rw [List.map_cons,List.mem_cons,not_or] at hg
    exact (hf.frame r entry guest hg.1).trans (ih hg.2)

/-- Each of several entries is treated as if it were the only one. -/
theorem Local.foldl_inside (hf : Local f) (hn : (entries.map Prod.fst).Nodup)
    {entry : GuestSessionId × Millis} (he : entry ∈ entries) :
    SameAt (f r entry) (entries.foldl f r) entry.1 := by
  induction entries generalizing r with
  | nil => cases he
  | cons first entries ih =>
    rw [List.map_cons,List.nodup_cons] at hn
    rcases List.mem_cons.mp he with rfl | he
    · exact hf.foldl_outside hn.1
    · have hne : entry.1 ≠ first.1 := fun heq => hn.1 (heq ▸ List.mem_map_of_mem he)
      exact (hf.congr r (f r first) entry (hf.frame r first entry.1 hne)).trans (ih hn.2 he)

end Local

section Scan

variable {r r' : Redis} {guest : GuestSessionId} {entry : GuestSessionId × Millis}

def visit (r : Redis) (entry : GuestSessionId × Millis) : Redis :=
  let checked := (r.zrem entry.1).examine config mode now entry.1 entry.2
  if checked.1 = none then checked.2 else checked.2.discard entry.1

theorem visit_local : Local (visit config mode now) where
  frame r entry guest h := by
    have hchecked := (zrem_sameAt (r := r) h).trans (examine_sameAt config mode now h entry.2)
    unfold visit
    simp only
    split_ifs
    · exact hchecked
    · exact hchecked.trans (discard_sameAt h)
  congr r r' entry h := by
    obtain ⟨hreason,hchecked⟩ := h.zrem.examine config mode now entry.2
    unfold visit
    simp only [hreason]
    split_ifs
    · exact hchecked
    · exact hchecked.discard

variable (entry) in
theorem examine_zrem : ((r.zrem entry.1).examine config mode now entry.1 entry.2).1 =
    r.rejection config mode now entry :=
  examine_eq_rejection config mode now entry (r := r.zrem entry.1)

theorem visit_queue : (visit config mode now r entry).queue = r.queue.remove entry.1 := by
  have hkeys := examine_sameKeys config (r.zrem entry.1) mode now entry.1 entry.2
  unfold visit discard
  simp only
  split_ifs <;> exact hkeys.queue

/-- The keys of the guests behind the first are not touched by its visit. -/
theorem visit_sameAt_behind {rest : List (GuestSessionId × Millis)}
    (hrange : r.queue.range = entry :: rest) {e : GuestSessionId × Millis} (he : e ∈ rest) :
    SameAt r (visit config mode now r entry) e.1 := by
  have hn := SortedSet.range_nodup r.queue
  rw [hrange,List.map_cons,List.nodup_cons] at hn
  refine (visit_local config mode now).frame r entry e.1 fun heq => hn.1 ?_
  exact heq ▸ List.mem_map_of_mem he

/-- The loop goes through the queue in order, up to the second entry that can be matched. It
collects those that can be matched and reports the others. -/
theorem scan_eq (maxScan : ℕ) (r : Redis) (candidates : List Candidate)
    (discarded : List RemovedQueueGuest) (hc : candidates.length ≤ 2) :
    scan config mode now maxScan r candidates discarded =
      let scanned := prefixWith (fun e => r.Eligible config mode now e) (2 - candidates.length)
        (r.queue.range.take maxScan)
      (candidates ++ (scanned.filter fun e => r.Eligible config mode now e).map
          fun e => ⟨e.1,e.2⟩,
        discarded ++ scanned.filterMap (r.report config mode now),
        scanned.foldl (visit config mode now) r) := by
  induction maxScan generalizing r candidates discarded with
  | zero => simp [scan]
  | succ maxScan ih =>
    unfold scan
    by_cases hfull : candidates.length = 2
    · simp [hfull]
    rw [if_neg hfull]
    cases hrange : r.queue.range with
    | nil => simp [SortedSet.popMin_of_empty hrange]
    | cons entry rest =>
      obtain ⟨hpop,hrest⟩ := SortedSet.popMin_of_range hrange
      have hsame : ∀ e ∈ rest.take maxScan, SameAt r (visit config mode now r entry) e.1 :=
        fun e he => visit_sameAt_behind config mode now hrange (List.mem_of_mem_take he)
      have heligible : ∀ e ∈ rest.take maxScan,
          decide ((visit config mode now r entry).Eligible config mode now e) =
            decide (r.Eligible config mode now e) := by
        intro e he
        exact decide_eq_decide.mpr ((hsame e he).eligible config mode now)
      have hreport : ∀ e ∈ rest.take maxScan,
          (visit config mode now r entry).report config mode now e = r.report config mode now e := by
        intro e he
        rw [report,report,(hsame e he).rejection config mode now]
      have hqueue : (visit config mode now r entry).queue.range = rest := by
        rw [visit_queue]
        exact hrest
      have hnext : ∀ candidates' discarded', candidates'.length ≤ 2 →
          scan config mode now maxScan (visit config mode now r entry) candidates' discarded' =
            let scanned := prefixWith (fun e => r.Eligible config mode now e)
              (2 - candidates'.length) (rest.take maxScan)
            (candidates' ++ (scanned.filter fun e => r.Eligible config mode now e).map
                fun e => ⟨e.1,e.2⟩,
              discarded' ++ scanned.filterMap (r.report config mode now),
              scanned.foldl (visit config mode now) (visit config mode now r entry)) := by
        intro candidates' discarded' hc'
        have hmem : ∀ e ∈ prefixWith (fun e => r.Eligible config mode now e)
            (2 - candidates'.length) (rest.take maxScan), e ∈ rest.take maxScan :=
          fun e he => (prefixWith_isPrefix _ _).subset he
        rw [ih _ _ _ hc',hqueue,prefixWith_congr heligible]
        dsimp only
        rw [List.filter_congr fun e he => heligible e (hmem e he),
          List.filterMap_congr fun e he => hreport e (hmem e he)]
      obtain ⟨n,hwanted⟩ : ∃ n, 2 - candidates.length = n + 1 := ⟨1 - candidates.length,by omega⟩
      have hreason := examine_zrem config mode now entry (r := r)
      have hzrem : { r with queue := r.queue.remove entry.1 } = r.zrem entry.1 := rfl
      rw [hpop,hwanted,List.take_succ_cons,prefixWith]
      simp only [hzrem]
      cases hex : (r.zrem entry.1).examine config mode now entry.1 entry.2 with
      | mk reason r₁ =>
        rw [hex] at hreason
        cases reason with
        | none =>
          have hvisit : visit config mode now r entry = r₁ := by simp only [visit,hex,if_true]
          have hpassed := (rejection_eq_none config mode now).mp hreason.symm
          have hreported : r.report config mode now entry = none := by
            rw [report,← hreason]
            rfl
          have hleft : 2 - (candidates ++ [(⟨entry.1,entry.2⟩ : Candidate)]).length = n := by
            rw [List.length_append,List.length_singleton]
            omega
          have hshort : (candidates ++ [(⟨entry.1,entry.2⟩ : Candidate)]).length ≤ 2 := by
            rw [List.length_append,List.length_singleton]
            omega
          have hrun := hnext _ discarded hshort
          rw [hleft,hvisit] at hrun
          simp only [hpassed,decide_true,if_true,List.filter_cons,List.map_cons,
            List.filterMap_cons,hreported,List.foldl_cons,hvisit,hrun,List.append_assoc,
            List.singleton_append]
        | some reason =>
          have hvisit : visit config mode now r entry = r₁.discard entry.1 := by
            simp only [visit,hex,reduceCtorEq,if_false]
          have hfailed : ¬ r.Eligible config mode now entry := by
            rw [← rejection_eq_none,← hreason]
            simp
          have hreported : r.report config mode now entry = some ⟨entry.1,reason⟩ := by
            rw [report,← hreason]
            rfl
          have hrun := hnext candidates (discarded ++ [⟨entry.1,reason⟩]) hc
          rw [hwanted,hvisit] at hrun
          simp only [hfailed,decide_false,Bool.false_eq_true,if_false,List.filter_cons,
            List.filterMap_cons,hreported,List.foldl_cons,hvisit,hrun,List.append_assoc,
            List.singleton_append]

/-- The entries that `try-match.lua` pops. -/
def scanned (r : Redis) (maxScan : ℕ) : List (GuestSessionId × Millis) :=
  prefixWith (fun e => r.Eligible config mode now e) 2 (r.queue.range.take maxScan)

/-- The entries within the reach of a scan that can be matched, in the order of the queue. -/
def eligibleEntries (r : Redis) (maxScan : ℕ) : List (GuestSessionId × Millis) :=
  (r.queue.range.take maxScan).filter fun e => r.Eligible config mode now e

variable {maxScan : ℕ}

theorem scanned_subset : r.scanned config mode now maxScan ⊆ r.queue.range :=
  fun _ he => List.mem_of_mem_take ((prefixWith_isPrefix _ _).subset he)

variable (maxScan) in
theorem scanned_nodup : ((r.scanned config mode now maxScan).map Prod.fst).Nodup :=
  (((prefixWith_isPrefix _ _).sublist.trans (List.take_sublist _ _)).map Prod.fst).nodup
    (SortedSet.range_nodup r.queue)

variable (maxScan) in
theorem scanned_eligible : (r.scanned config mode now maxScan).filter
    (fun e => r.Eligible config mode now e) = (r.eligibleEntries config mode now maxScan).take 2 :=
  filter_prefixWith 2 _

theorem report_eq_some {removed : RemovedQueueGuest} :
    r.report config mode now entry = some removed ↔
      removed.guestSessionId = entry.1 ∧ r.rejection config mode now entry = some removed.reason := by
  unfold report
  cases r.rejection config mode now entry with
  | none => simp
  | some reason =>
    obtain ⟨guest,reason'⟩ := removed
    simp [eq_comm]

theorem mem_reported {entries : List (GuestSessionId × Millis)} :
    guest ∈ (entries.filterMap (r.report config mode now)).map RemovedQueueGuest.guestSessionId ↔
      ∃ entry ∈ entries, entry.1 = guest ∧ ¬ r.Eligible config mode now entry := by
  simp only [List.mem_map,List.mem_filterMap,report_eq_some]
  constructor
  · rintro ⟨removed,⟨entry,hmem,hguest,hreason⟩,rfl⟩
    refine ⟨entry,hmem,hguest.symm,?_⟩
    rw [← rejection_eq_none,hreason]
    simp
  · rintro ⟨entry,hmem,rfl,hfailed⟩
    rw [← rejection_eq_none,← Ne,Option.ne_none_iff_exists'] at hfailed
    obtain ⟨reason,hreason⟩ := hfailed
    exact ⟨⟨entry.1,reason⟩,⟨entry,hmem,rfl,hreason⟩,rfl⟩

variable (maxScan guest) in
/-- A popped guest is reported or is one of the first two that can be matched. -/
theorem mem_reported_scanned :
    guest ∈ ((r.scanned config mode now maxScan).filterMap (r.report config mode now)).map
        RemovedQueueGuest.guestSessionId ↔
      guest ∈ (r.scanned config mode now maxScan).map Prod.fst ∧
        guest ∉ ((r.eligibleEntries config mode now maxScan).take 2).map Prod.fst := by
  rw [mem_reported,← scanned_eligible]
  simp only [List.mem_map,List.mem_filter,decide_eq_true_eq]
  constructor
  · rintro ⟨entry,hmem,rfl,hfailed⟩
    refine ⟨⟨entry,hmem,rfl⟩,?_⟩
    rintro ⟨other,⟨hother,hgood⟩,hsame⟩
    have heq := List.inj_on_of_nodup_map (scanned_nodup config mode now maxScan) hother hmem hsame
    exact hfailed (heq ▸ hgood)
  · rintro ⟨⟨entry,hmem,rfl⟩,hnot⟩
    exact ⟨entry,hmem,rfl,fun hgood => hnot ⟨entry,⟨hmem,hgood⟩,rfl⟩⟩

variable (guest) in
theorem examine_guards (score : Millis) :
    (r.examine config mode now guest score).2.guards = r.guards := by
  unfold examine
  split_ifs
  · rfl
  · simp only
    split_ifs <;> rfl

/-- What no visit writes. -/
structure Visited (r r' : Redis) : Prop where
  clock : r'.clock = r.clock
  activeGames : r'.activeGames = r.activeGames
  reservations : r'.reservations = r.reservations

variable (entry) in
theorem visit_visited : Visited r (visit config mode now r entry) := by
  have hkeys := examine_sameKeys config (r.zrem entry.1) mode now entry.1 entry.2
  unfold visit discard
  simp only
  split_ifs <;> exact ⟨hkeys.clock,hkeys.activeGames,hkeys.reservations⟩

theorem visited_foldl (entries : List (GuestSessionId × Millis)) (r : Redis) :
    Visited r (entries.foldl (visit config mode now) r) := by
  induction entries generalizing r with
  | nil => exact ⟨rfl,rfl,rfl⟩
  | cons entry entries ih =>
    have hfirst := visit_visited config mode now entry (r := r)
    have hrest := ih (visit config mode now r entry)
    exact ⟨hrest.clock.trans hfirst.clock,hrest.activeGames.trans hfirst.activeGames,
      hrest.reservations.trans hfirst.reservations⟩

theorem visit_eligible (h : r.Eligible config mode now entry) :
    (visit config mode now r entry).states = r.states ∧
      (visit config mode now r entry).guards = r.guards := by
  have hkeys := examine_sameKeys config (r.zrem entry.1) mode now entry.1 entry.2
  have hguards := examine_guards config mode now entry.1 (r := r.zrem entry.1) entry.2
  have hpassed := examine_zrem config mode now entry (r := r)
  rw [(rejection_eq_none config mode now).mpr h] at hpassed
  unfold visit
  simp only [hpassed,if_true]
  exact ⟨hkeys.states,hguards⟩

variable (maxScan) in
theorem score_scanned (guest : GuestSessionId) :
    ((r.scanned config mode now maxScan).foldl (visit config mode now) r).queue.score guest =
      if guest ∈ (r.scanned config mode now maxScan).map Prod.fst then none
      else r.queue.score guest := by
  split_ifs with hg
  · obtain ⟨entry,hmem,rfl⟩ := List.mem_map.mp hg
    have hinside := (visit_local config mode now).foldl_inside (r := r)
      (scanned_nodup config mode now maxScan) hmem
    rw [hinside.score,visit_queue]
    exact SortedSet.score_remove_self
  · exact ((visit_local config mode now).foldl_outside hg).score

end Scan

section TryMatch

variable {r : Redis} {maxScan : ℕ}

/-- The guests that an attempt has taken out of the queue. -/
def takes (attempt : MatchAttempt) (guest : GuestSessionId) : Bool :=
  decide (guest ∈ attempt.discarded.map RemovedQueueGuest.guestSessionId) ||
    attempt.reservation.any fun reservation =>
      decide (guest = reservation.a) || decide (guest = reservation.b)

structure FifoOutcome (r : Redis) (matchId : MatchId) (gameId : GameId) (maxScan : ℕ)
    (attempt : MatchAttempt) (r' : Redis) : Prop where
  reservation : attempt.reservation =
    match r.eligibleEntries config mode now maxScan with
    | a :: b :: _ => some ⟨a.1,a.2,b.1,b.2,now,gameId,matchId,mode⟩
    | _ => none
  reserved : ∀ reservation, attempt.reservation = some reservation →
    reservation.a ≠ reservation.b ∧ r'.reservation matchId = some reservation
  discarded : attempt.discarded =
    (r.scanned config mode now maxScan).filterMap (r.report config mode now)
  once : (attempt.discarded.map RemovedQueueGuest.guestSessionId).Nodup
  queue : r'.queue.range = r.queue.range.filter fun e => !takes attempt e.1
  others : ∀ guest, takes attempt guest = false →
    r'.state guest = r.state guest ∧ r'.guard guest = r.guard guest
  activeGames : r'.activeGames = r.activeGames
  reservations : ∀ other, other ≠ matchId → r'.reservation other = r.reservation other

variable (maxScan) in
theorem reported_nodup : (((r.scanned config mode now maxScan).filterMap
    (r.report config mode now)).map RemovedQueueGuest.guestSessionId).Nodup := by
  have hn := scanned_nodup config mode now maxScan (r := r)
  generalize r.scanned config mode now maxScan = entries at hn
  induction entries with
  | nil => simp
  | cons entry entries ih =>
    rw [List.map_cons,List.nodup_cons] at hn
    rw [List.filterMap_cons]
    cases hreport : r.report config mode now entry with
    | none => exact ih hn.2
    | some removed =>
      rw [List.map_cons,List.nodup_cons]
      refine ⟨fun hmem => ?_,ih hn.2⟩
      obtain ⟨other,hother,hguest,_⟩ := (mem_reported config mode now).mp hmem
      rw [((report_eq_some config mode now).mp hreport).1] at hguest
      exact hn.1 (hguest ▸ List.mem_map_of_mem hother)

theorem eligibleEntries_distinct {a b : GuestSessionId × Millis}
    {rest : List (GuestSessionId × Millis)}
    (h : r.eligibleEntries config mode now maxScan = a :: b :: rest) : a.1 ≠ b.1 := by
  have hsub : (r.eligibleEntries config mode now maxScan).Sublist r.queue.range :=
    List.filter_sublist.trans (List.take_sublist _ _)
  have hn := (hsub.map Prod.fst).nodup (SortedSet.range_nodup r.queue)
  rw [h,List.map_cons,List.map_cons,List.nodup_cons] at hn
  exact fun hab => hn.1 (hab ▸ List.mem_cons_self)

variable (maxScan) in
theorem tryMatch_eq {matchId : MatchId} (gameId : GameId) (hfree : r.reservation matchId = none) :
    let removed := (r.scanned config mode now maxScan).filterMap (r.report config mode now)
    let popped := (r.scanned config mode now maxScan).foldl (visit config mode now) r
    r.tryMatch config mode matchId gameId now maxScan =
      match r.eligibleEntries config mode now maxScan with
      | a :: b :: _ => (.ok ⟨removed,some ⟨a.1,a.2,b.1,b.2,now,gameId,matchId,mode⟩⟩,
          popped.reserve config ⟨a.1,a.2,b.1,b.2,now,gameId,matchId,mode⟩)
      | [a] => (.ok ⟨removed,none⟩,popped.putBack config ⟨a.1,a.2⟩)
      | [] => (.ok ⟨removed,none⟩,popped) := by
  have hscan := scan_eq config mode now maxScan r [] [] (by simp)
  have hfirst := scanned_eligible config mode now maxScan (r := r)
  simp only [List.length_nil,Nat.sub_zero,List.nil_append] at hscan
  rw [show prefixWith _ 2 _ = r.scanned config mode now maxScan from rfl,hfirst] at hscan
  unfold tryMatch
  rw [hfree,hscan]
  match heligible : r.eligibleEntries config mode now maxScan with
  | [] => rfl
  | [a] => rfl
  | a :: b :: rest =>
    simp [eligibleEntries_distinct config mode now heligible]

variable (maxScan) in
/-- Who is not thrown away keeps the state and the guard while the queue is scanned. -/
theorem popped_keeps (guest : GuestSessionId) (hg : guest ∉ ((r.scanned config mode now
    maxScan).filterMap (r.report config mode now)).map RemovedQueueGuest.guestSessionId) :
    ((r.scanned config mode now maxScan).foldl (visit config mode now) r).states guest =
        r.states guest ∧
      ((r.scanned config mode now maxScan).foldl (visit config mode now) r).guards guest =
        r.guards guest := by
  by_cases hscanned : guest ∈ (r.scanned config mode now maxScan).map Prod.fst
  · obtain ⟨entry,hmem,rfl⟩ := List.mem_map.mp hscanned
    have hgood : r.Eligible config mode now entry := by
      by_contra hfailed
      exact hg ((mem_reported config mode now).mpr ⟨entry,hmem,rfl,hfailed⟩)
    have hinside := (visit_local config mode now).foldl_inside (r := r)
      (scanned_nodup config mode now maxScan) hmem
    obtain ⟨hstates,hguards⟩ := visit_eligible config mode now hgood
    exact ⟨hinside.states.trans (congrFun hstates _),hinside.guards.trans (congrFun hguards _)⟩
  · have houtside := (visit_local config mode now).foldl_outside (r := r) hscanned
    exact ⟨houtside.states,houtside.guards⟩

theorem guard_expireGuard {other guest : GuestSessionId} (ttl : ℕ) :
    (r.expireGuard guest ttl).guard other = r.guard other := by
  by_cases ho : other = guest
  · subst ho
    show (r.guards.pexpire r.clock other ttl).get r.clock other = r.guards.get r.clock other
    unfold Keys.pexpire
    cases he : r.guards.entry r.clock other with
    | none => rfl
    | some e =>
      have hget : r.guards.get r.clock other = some e.value := by rw [Keys.get,he]; rfl
      rw [Keys.get_setPx_now (Int.natCast_nonneg ttl),hget]
  · exact Keys.get_congr (Keys.pexpire_of_ne ho _)

/-- `tryMatch` takes the first two entries that can be matched and throws away the others that
it meets on the way. -/
theorem tryMatch_outcome {matchId : MatchId} (gameId : GameId)
    (hfree : r.reservation matchId = none) :
    ∃ attempt r', r.tryMatch config mode matchId gameId now maxScan = (.ok attempt,r') ∧
      FifoOutcome config mode now r matchId gameId maxScan attempt r' := by
  have heq := tryMatch_eq config mode now maxScan gameId hfree
  have hscore := score_scanned config mode now maxScan (r := r)
  have hvisited := visited_foldl config mode now (r.scanned config mode now maxScan) r
  have hstored := fun guest => popped_keeps config mode now maxScan guest (r := r)
  have hreported := fun guest => mem_reported_scanned config mode now guest maxScan (r := r)
  have honce := reported_nodup config mode now maxScan (r := r)
  have hmem : ∀ e ∈ r.eligibleEntries config mode now maxScan,
      r.queue.score e.1 = some e.2 ∧ r.Eligible config mode now e := by
    intro e he
    obtain ⟨hrange,hgood⟩ := List.mem_filter.mp he
    exact ⟨SortedSet.score_eq_some.mpr (SortedSet.mem_range.mp (List.mem_of_mem_take hrange)),
      by simpa using hgood⟩
  simp only at heq
  rw [heq]
  generalize (r.scanned config mode now maxScan).foldl (visit config mode now) r = popped at *
  have hkeeps : ∀ guest, guest ∉ ((r.scanned config mode now maxScan).filterMap
      (r.report config mode now)).map RemovedQueueGuest.guestSessionId →
      popped.state guest = r.state guest ∧ popped.guard guest = r.guard guest := by
    intro guest hg
    obtain ⟨hstate,hguard⟩ := hstored guest hg
    rw [Redis.state,Redis.guard,hvisited.clock]
    exact ⟨Keys.get_congr hstate,Keys.get_congr hguard⟩
  have hothers : ∀ other, other ≠ matchId → popped.reservation other = r.reservation other := by
    intro other _
    rw [Redis.reservation,Redis.reservation,hvisited.reservations,hvisited.clock]
  rcases heligible : r.eligibleEntries config mode now maxScan with _ | ⟨a,_ | ⟨b,rest⟩⟩
  case nil =>
    simp only [heligible,List.take_nil,List.map_nil,List.not_mem_nil,not_false_eq_true,
      and_true] at hreported
    refine ⟨_,_,rfl,⟨by rw [heligible],(fun _ hnone => by cases hnone),rfl,honce,?_,?_,
      hvisited.activeGames,hothers⟩⟩
    · refine SortedSet.range_of_scores fun guest => ?_
      rw [hscore]
      simp only [takes,hreported,Option.any_none,Bool.or_false,decide_eq_true_eq]
    · intro guest htaken
      refine hkeeps guest fun hg => ?_
      simp [takes,hg] at htaken
  case cons.nil =>
    have ha := hmem a (by rw [heligible]; simp)
    simp only [heligible,List.take_succ_cons,List.take_nil,List.map_cons,List.map_nil,
      List.mem_singleton] at hreported
    refine ⟨_,_,rfl,⟨by rw [heligible],(fun _ hnone => by cases hnone),rfl,honce,?_,?_,
      hvisited.activeGames,hothers⟩⟩
    · refine SortedSet.range_of_scores fun guest => ?_
      have hback : (popped.putBack config ⟨a.1,a.2⟩).queue.score guest =
          if guest = a.1 then some a.2 else popped.queue.score guest := SortedSet.score_add a.2
      rw [hback,hscore]
      simp only [takes,hreported,Option.any_none,Bool.or_false,decide_eq_true_eq]
      by_cases hg : guest = a.1
      · simp only [hg,if_true,not_true_eq_false,and_false,if_false,ha.1]
      · simp only [hg,if_false,not_false_eq_true,and_true]
    · intro guest htaken
      have hkept := hkeeps guest fun hg => by simp [takes,hg] at htaken
      exact ⟨hkept.1,(guard_expireGuard config.queueGuardTtlMs).trans hkept.2⟩
  case cons.cons =>
    have hpair : ∀ e ∈ [a,b], e.1 ∈ (r.scanned config mode now maxScan).map Prod.fst := by
      intro e he
      have hfirst := scanned_eligible config mode now maxScan (r := r)
      rw [heligible,List.take_succ_cons,List.take_succ_cons,List.take_zero] at hfirst
      rw [← hfirst] at he
      exact List.mem_map_of_mem (List.mem_filter.mp he).1
    have ha := hpair a (by simp)
    have hb := hpair b (by simp)
    simp only [heligible,List.take_succ_cons,List.take_zero,List.map_cons,List.map_nil,
      List.mem_cons,List.not_mem_nil,or_false,not_or] at hreported
    refine ⟨_,_,rfl,⟨by rw [heligible],?_,rfl,honce,?_,?_,hvisited.activeGames,fun other ho =>
      (Keys.get_setPx_of_ne ho _).trans (hothers other ho)⟩⟩
    · rintro reservation ⟨⟩
      exact ⟨eligibleEntries_distinct config mode now heligible,
        Keys.get_setPx_now (Int.natCast_nonneg _)⟩
    · refine SortedSet.range_of_scores fun guest => ?_
      have hkept : (popped.reserve config ⟨a.1,a.2,b.1,b.2,now,gameId,matchId,mode⟩).queue =
          popped.queue := rfl
      rw [hkept,hscore]
      simp only [takes,hreported,Option.any_some,Bool.or_eq_true,decide_eq_true_eq]
      by_cases hg : guest = a.1 ∨ guest = b.1
      · have hmember : guest ∈ (r.scanned config mode now maxScan).map Prod.fst := by
          rcases hg with rfl | rfl
          · exact ha
          · exact hb
        simp only [hg,hmember,if_true,or_true]
      · simp only [or_false,not_or.mp hg,not_false_eq_true,and_true]
    · intro guest htaken
      simp only [takes,Option.any_some,Bool.or_eq_false_iff,decide_eq_false_iff_not] at htaken
      obtain ⟨hfree',hna,hnb⟩ := htaken
      obtain ⟨hstate,hguard⟩ := hkeeps guest hfree'
      have hstates : (popped.reserve config
          ⟨a.1,a.2,b.1,b.2,now,gameId,matchId,mode⟩).state guest = popped.state guest :=
        (Keys.get_setPx_of_ne hnb _).trans (Keys.get_setPx_of_ne hna _)
      have hguards : (popped.reserve config
          ⟨a.1,a.2,b.1,b.2,now,gameId,matchId,mode⟩).guard guest = popped.guard guest :=
        (Keys.get_del_of_ne hnb).trans (Keys.get_del_of_ne hna)
      exact ⟨hstates.trans hstate,hguards.trans hguard⟩

end TryMatch

section Sweep

variable {r r' : Redis} {guest other : GuestSessionId} {entry : GuestSessionId × Millis}

def sweepVisit (r : Redis) (entry : GuestSessionId × Millis) : Redis :=
  (sweepEntry config mode now ([],r) entry).2

theorem idleIfQueued_sameAt (h : other ≠ guest) : SameAt r (r.idleIfQueued config guest) other := by
  unfold idleIfQueued
  split_ifs
  · exact ⟨rfl,rfl,rfl,Keys.setPx_of_ne h _,rfl,rfl⟩
  · exact .refl r other

theorem SameAt.idleIfQueued (h : SameAt r r' guest) :
    SameAt (r.idleIfQueued config guest) (r'.idleIfQueued config guest) guest := by
  unfold Redis.idleIfQueued
  rw [h.state]
  split_ifs
  · refine ⟨h.clock,h.score,h.guards,?_,h.activeGames,h.presence⟩
    simp only [setState,Keys.setPx_self,h.clock]
  · exact h

/-- What `sweep.lua` removes it removes from the queue and reports. -/
theorem sweepEntry_eq (removed : List RemovedQueueGuest)
    (h : r.queue.score entry.1 = some entry.2) :
    sweepEntry config mode now (removed,r) entry =
      (removed ++ (r.report config mode now entry).toList,sweepVisit config mode now r entry) := by
  have hreason := examine_eq_rejection config mode now entry (r := r)
  have hkeys := examine_sameKeys config r mode now entry.1 entry.2
  unfold sweepVisit sweepEntry report
  simp only
  cases hex : r.examine config mode now entry.1 entry.2 with
  | mk reason r₁ =>
    rw [hex] at hreason hkeys
    have hscore : (r₁.queue.score entry.1).isSome = true := by rw [hkeys.queue,h]; rfl
    cases reason with
    | none => simp [← hreason]
    | some reason => simp [← hreason,hscore]

theorem sweepVisit_local : Local (sweepVisit config mode now) where
  frame r entry guest h := by
    have hchecked := examine_sameAt config mode now (r := r) h entry.2
    unfold sweepVisit sweepEntry
    simp only
    generalize r.examine config mode now entry.1 entry.2 = checked at hchecked ⊢
    obtain ⟨reason,r₁⟩ := checked
    cases reason with
    | none => exact hchecked
    | some reason =>
      simp only
      split_ifs
      · exact ((hchecked.trans (zrem_sameAt h)).trans (delGuard_sameAt h)).trans
          (idleIfQueued_sameAt config h)
      · exact hchecked
  congr r r' entry h := by
    obtain ⟨hreason,hchecked⟩ := h.examine config mode now entry.2
    unfold sweepVisit sweepEntry
    simp only
    generalize r.examine config mode now entry.1 entry.2 = checked at hreason hchecked ⊢
    generalize r'.examine config mode now entry.1 entry.2 = checked' at hreason hchecked ⊢
    obtain ⟨reason,r₁⟩ := checked
    obtain ⟨reason',r₁'⟩ := checked'
    cases hreason
    cases reason with
    | none => exact hchecked
    | some reason =>
      simp only [hchecked.score]
      split_ifs
      · exact (hchecked.zrem.delGuard).idleIfQueued config
      · exact hchecked

theorem sweepVisit_score (h : r.queue.score entry.1 = some entry.2) :
    (sweepVisit config mode now r entry).queue.score entry.1 = none ↔
      ¬ r.Eligible config mode now entry := by
  have hreason := examine_eq_rejection config mode now entry (r := r)
  have hkeys := examine_sameKeys config r mode now entry.1 entry.2
  rw [← rejection_eq_none,← hreason]
  unfold sweepVisit sweepEntry
  simp only
  generalize r.examine config mode now entry.1 entry.2 = checked at hkeys ⊢
  obtain ⟨reason,r₁⟩ := checked
  have hscore : r₁.queue.score entry.1 = some entry.2 := by rw [hkeys.queue,h]
  cases reason with
  | none => simp [hscore]
  | some reason =>
    have hgone : (((r₁.zrem entry.1).delGuard entry.1).idleIfQueued config
        entry.1).queue.score entry.1 = none := by
      unfold idleIfQueued
      split_ifs <;> exact SortedSet.score_remove_self
    simp only [hscore,Option.isSome_some,if_true]
    exact iff_of_true hgone (by simp)

theorem sweep_foldl (entries : List (GuestSessionId × Millis)) (removed : List RemovedQueueGuest)
    (r : Redis) (hq : ∀ e ∈ entries, r.queue.score e.1 = some e.2)
    (hn : (entries.map Prod.fst).Nodup) :
    entries.foldl (sweepEntry config mode now) (removed,r) =
      (removed ++ entries.filterMap (r.report config mode now),
        entries.foldl (sweepVisit config mode now) r) := by
  induction entries generalizing removed r with
  | nil => simp
  | cons entry entries ih =>
    rw [List.map_cons,List.nodup_cons] at hn
    have hsame : ∀ e ∈ entries, SameAt r (sweepVisit config mode now r entry) e.1 := by
      intro e he
      refine (sweepVisit_local config mode now).frame r entry e.1 fun heq => hn.1 ?_
      exact heq ▸ List.mem_map_of_mem he
    have hreport : ∀ e ∈ entries, (sweepVisit config mode now r entry).report config mode now e =
        r.report config mode now e := by
      intro e he
      rw [report,report,(hsame e he).rejection config mode now]
    rw [List.foldl_cons,List.foldl_cons,
      sweepEntry_eq config mode now removed (hq entry List.mem_cons_self),
      ih _ _ (fun e he => (hsame e he).score.trans (hq e (List.mem_cons_of_mem _ he))) hn.2,
      List.filterMap_congr hreport,List.filterMap_cons]
    cases r.report config mode now entry with
    | none => simp
    | some removed' => simp

/-- `sweep.lua` reports the entries of its batch that fail a condition, with the first that
they fail, and takes them and nothing else out of the queue. -/
theorem sweep_outcome (r : Redis) (batch : ℕ) (he : entry ∈ r.queue.range.take batch) :
    (∀ reason, ⟨entry.1,reason⟩ ∈ (r.sweep config mode now batch).1 ↔
      r.rejection config mode now entry = some reason) ∧
    ((r.sweep config mode now batch).2.queue.score entry.1 = none ↔
      ¬ r.Eligible config mode now entry) := by
  have hq : ∀ e ∈ r.queue.range.take batch, r.queue.score e.1 = some e.2 := fun e he =>
    SortedSet.score_eq_some.mpr (SortedSet.mem_range.mp (List.mem_of_mem_take he))
  have hn : ((r.queue.range.take batch).map Prod.fst).Nodup :=
    ((List.take_sublist _ _).map Prod.fst).nodup (SortedSet.range_nodup r.queue)
  have hfold := sweep_foldl config mode now (r.queue.range.take batch) [] r hq hn
  rw [sweep,hfold,List.nil_append]
  constructor
  · intro reason
    rw [List.mem_filterMap]
    constructor
    · rintro ⟨other,hother,hreport⟩
      obtain ⟨hguest,hreason⟩ := (report_eq_some config mode now).mp hreport
      have hsame := List.inj_on_of_nodup_map hn he hother hguest
      exact hsame ▸ hreason
    · intro hreason
      exact ⟨entry,he,(report_eq_some config mode now).mpr ⟨rfl,hreason⟩⟩
  · rw [((sweepVisit_local config mode now).foldl_inside hn he).score]
    exact sweepVisit_score config mode now (hq entry he)

end Sweep

/-- Matching is first in, first out, and the sweep throws away the same entries. -/
theorem tryMatch_fifo (r : Redis) (matchId : MatchId) (gameId : GameId) (maxScan batch : ℕ) :
    (r.reservation matchId ≠ none →
      r.tryMatch config mode matchId gameId now maxScan = (.error .reservationMismatch,r)) ∧
    (r.reservation matchId = none →
      ∃ attempt r', r.tryMatch config mode matchId gameId now maxScan = (.ok attempt,r') ∧
        FifoOutcome config mode now r matchId gameId maxScan attempt r') ∧
    ∀ entry ∈ r.queue.range.take batch,
      (∀ reason, ⟨entry.1,reason⟩ ∈ (r.sweep config mode now batch).1 ↔
        r.rejection config mode now entry = some reason) ∧
      ((r.sweep config mode now batch).2.queue.score entry.1 = none ↔
        ¬ r.Eligible config mode now entry) := by
  refine ⟨fun htaken => ?_,tryMatch_outcome config mode now gameId,fun entry he =>
    sweep_outcome config mode now r batch he⟩
  rw [tryMatch,if_pos (Option.isSome_iff_ne_none.mpr htaken)]

end Redis

def sampleMixed : Redis :=
  (matchmakingKeys sampleConfig).run (.initial 900)
    (.enqueue (sampleId 3) .blitz 900 :: sampleMatched.take 4)

theorem tryMatch_fifo_sample : ∃ attempt r',
    sampleMixed.tryMatch sampleConfig .blitz (sampleId 20) (sampleId 10) 3000 10 =
      (.ok attempt,r') ∧
    Redis.FifoOutcome sampleConfig .blitz 3000 sampleMixed (sampleId 20) (sampleId 10) 10
      attempt r' :=
  (Redis.tryMatch_fifo sampleConfig .blitz 3000 sampleMixed (sampleId 20) (sampleId 10) 10
    10).2.1 (by decide)

example : (sampleMixed.tryMatch sampleConfig .blitz (sampleId 20) (sampleId 10) 3000 10).1 =
    .ok ⟨[⟨sampleId 3,.disconnected⟩],some sampleReservation⟩ := by decide

end CluChess
