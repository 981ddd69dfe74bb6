import Mathlib.Data.Set.Card
import CluChess.ExpiringStore

/-! Leases of the members of a group, and the sorted set under an expiring key that keeps them:
the score of a member is the instant at which its lease ends, and the key is to outlive them
all. Nothing here depends on who the members are. -/
namespace CluChess

/-- The instant at which the lease of each member ends. -/
abbrev Leases (μ : Type*) := μ → Option ℤ

namespace Leases

variable {μ : Type*} [DecidableEq μ] {leases : Leases μ} {m m' : μ} {endsAt now now' : ℤ}

def grant (leases : Leases μ) (m : μ) (endsAt : ℤ) : Leases μ :=
  Function.update leases m (some endsAt)

def release (leases : Leases μ) (m : μ) : Leases μ := Function.update leases m none

@[simp] theorem grant_self : leases.grant m endsAt m = some endsAt := Function.update_self ..

@[simp] theorem grant_of_ne (h : m' ≠ m) : leases.grant m endsAt m' = leases m' :=
  Function.update_of_ne h ..

@[simp] theorem release_self : leases.release m m = none := Function.update_self ..

@[simp] theorem release_of_ne (h : m' ≠ m) : leases.release m m' = leases m' :=
  Function.update_of_ne h ..

omit [DecidableEq μ] in
def holders (leases : Leases μ) (now : ℤ) : Set μ := {m | ∃ t, leases m = some t ∧ now < t}

omit [DecidableEq μ] in
theorem holders_mono (h : now ≤ now') : leases.holders now' ⊆ leases.holders now := by
  rintro m ⟨t,ht,hlt⟩
  exact ⟨t,ht,h.trans_lt hlt⟩

theorem holders_grant (h : now < endsAt) :
    (leases.grant m endsAt).holders now = insert m (leases.holders now) := by
  ext m'
  by_cases hm : m' = m
  · subst hm
    simp [holders,h]
  · simp [holders,hm]

theorem holders_release_subset : (leases.release m).holders now ⊆ leases.holders now := by
  rintro m' ⟨t,ht,hlt⟩
  by_cases hm : m' = m
  · subst hm
    rw [release_self] at ht
    cases ht
  · rw [release_of_ne hm] at ht
    exact ⟨t,ht,hlt⟩

end Leases

namespace SortedSet

variable {μ : Type*} [DecidableEq μ] {s : SortedSet μ} {m : μ} {x now : ℤ}

theorem score_removeUpTo_eq_some :
    (s.removeUpTo now).score m = some x ↔ s.score m = some x ∧ now < x := by
  rw [score_eq_some,score_eq_some,removeUpTo,Table.mem_deleteWhere]
  simp

def toLeases (s : SortedSet μ) : Leases μ := s.score

theorem holders_toLeases_finite : (s.toLeases.holders now).Finite := by
  refine Set.Finite.subset (s.rows.map Prod.fst).finite_toSet fun m hm => ?_
  obtain ⟨t,ht,_⟩ := hm
  exact List.mem_map_of_mem (f := Prod.fst) (score_eq_some.mp ht)

/-- What is left of a set after the ended leases are removed are the holders. -/
theorem card_removeUpTo : (s.removeUpTo now).card = (s.toLeases.holders now).ncard := by
  have hset : s.toLeases.holders now = ((s.removeUpTo now).rows.map Prod.fst).toFinset := by
    ext m
    simp only [Leases.holders,toLeases,Set.mem_ofPred_eq,List.coe_toFinset,List.mem_map]
    constructor
    · rintro ⟨t,ht,hlt⟩
      exact ⟨(m,t),score_eq_some.mp (score_removeUpTo_eq_some.mpr ⟨ht,hlt⟩),rfl⟩
    · rintro ⟨r,hr,rfl⟩
      exact ⟨r.2,score_removeUpTo_eq_some.mp (score_eq_some.mpr hr)⟩
  rw [hset,Set.ncard_coe_finset,List.toFinset_card_of_nodup (s.removeUpTo now).nodup,
    List.length_map,card]

end SortedSet

namespace Keys

variable {κ μ : Type*} [DecidableEq κ] [DecidableEq μ] {keys keys' : Keys κ (SortedSet μ)}
  {clock clock' now : ℤ} {k : κ} {leases : Leases μ} {m : μ}

/-- From the instant of the clock on, the set under the key shows each lease until it ends. -/
def Keeps (keys : Keys κ (SortedSet μ)) (clock : ℤ) (k : κ) (leases : Leases μ) : Prop :=
  ∀ c, clock ≤ c → ∀ m t, c < t → ((keys.sortedSet c k).score m = some t ↔ leases m = some t)

omit [DecidableEq κ] in
theorem Keeps.later (h : keys.Keeps clock k leases) (hle : clock ≤ clock') :
    keys.Keeps clock' k leases := fun c hc => h c (hle.trans hc)

omit [DecidableEq κ] in
theorem Keeps.congr (h : keys.Keeps clock k leases) (hk : keys' k = keys k) :
    keys'.Keeps clock k leases := by
  intro c hc m t hlt
  rw [sortedSet_congr hk]
  exact h c hc m t hlt

omit [DecidableEq κ] in
theorem Keeps.holders (h : keys.Keeps clock k leases) :
    ((keys.sortedSet clock k).toLeases).holders clock = leases.holders clock := by
  ext m
  constructor
  · rintro ⟨t,ht,hlt⟩
    exact ⟨t,(h clock le_rfl m t hlt).mp ht,hlt⟩
  · rintro ⟨t,ht,hlt⟩
    exact ⟨t,(h clock le_rfl m t hlt).mpr ht,hlt⟩

omit [DecidableEq κ] in
/-- The set counts the holders of leases exactly. -/
theorem Keeps.card (h : keys.Keeps clock k leases) :
    ((keys.sortedSet clock k).removeUpTo clock).card = (leases.holders clock).ncard := by
  rw [SortedSet.card_removeUpTo,h.holders]

omit [DecidableEq κ] in
theorem Keeps.holders_finite (h : keys.Keeps clock k leases) : (leases.holders clock).Finite :=
  h.holders ▸ SortedSet.holders_toLeases_finite

theorem Keeps.prune (h : keys.Keeps clock k leases) (hnow : now ≤ clock) :
    (keys.updateSet clock k fun s => s.removeUpTo now).Keeps clock k leases := by
  intro c hc m t hlt
  rw [sortedSet_updateSet_later (fun s => s.removeUpTo now) rfl hc,
    SortedSet.score_removeUpTo_eq_some,and_iff_left (by omega)]
  exact h c hc m t hlt

theorem Keeps.release (h : keys.Keeps clock k leases) :
    (keys.updateSet clock k fun s => s.remove m).Keeps clock k (leases.release m) := by
  intro c hc m' t hlt
  rw [sortedSet_updateSet_later (fun s => s.remove m) rfl hc,SortedSet.score_remove]
  by_cases hm : m' = m
  · subst hm
    simp
  · rw [if_neg hm,Leases.release_of_ne hm]
    exact h c hc m' t hlt

omit [DecidableEq μ] in
/-- A set under a key that is to live for a time is read as it is until then. -/
theorem sortedSet_pexpire_later {ttl : ℤ} (h : clock ≤ clock') :
    (keys.pexpire clock k ttl).sortedSet clock' k =
      if clock' ≤ clock + ttl then keys.sortedSet clock k else .empty := by
  unfold pexpire
  cases he : keys.entry clock k with
  | none =>
    have hnow : keys.get clock k = none := by rw [get,he]; rfl
    have hlater : keys.get clock' k = none := by
      refine Option.eq_none_iff_forall_ne_some.mpr fun v hv => ?_
      rw [get_mono h hv] at hnow
      cases hnow
    have hgone : keys.sortedSet clock k = .empty := by rw [sortedSet,hnow]; rfl
    rw [hgone,ite_self,sortedSet,hlater]
    rfl
  | some e =>
    have hget : keys.get clock k = some e.value := by rw [get,he]; rfl
    split_ifs with hc
    · rw [sortedSet,get_setPx_later hc,sortedSet,hget]
    · have hgone : (keys.setPx clock k e.value ttl).get clock' k = none := by
        simp [get,entry,Entry.live,hc]
      rw [sortedSet,hgone]
      rfl

/-- The set with a lease that is granted, under a key that lives as long as any lease. -/
theorem Keeps.grant {ttl keyTtl : ℤ} (h : keys.Keeps clock k leases) (hle : ttl ≤ keyTtl)
    (hold : ∀ m t, leases m = some t → t ≤ clock + keyTtl) :
    ((keys.updateSet clock k fun s => s.add m (clock + ttl)).pexpire clock k keyTtl).Keeps clock k
      (leases.grant m (clock + ttl)) := by
  have hadded := keys.sortedSet_updateSet clock k fun s => s.add m (clock + ttl)
  intro c hc m' t hlt
  have hscore : ((keys.sortedSet clock k).add m (clock + ttl)).score m' = some t ↔
      leases.grant m (clock + ttl) m' = some t := by
    rw [SortedSet.score_add]
    by_cases hm : m' = m
    · subst hm
      simp
    · rw [if_neg hm,Leases.grant_of_ne hm]
      exact h clock le_rfl m' t (hc.trans_lt hlt)
  have hend : leases.grant m (clock + ttl) m' = some t → t ≤ clock + keyTtl := by
    by_cases hm : m' = m
    · subst hm
      rw [Leases.grant_self]
      rintro ⟨⟩
      omega
    · rw [Leases.grant_of_ne hm]
      exact hold m' t
  rw [sortedSet_pexpire_later hc]
  by_cases hlive : c ≤ clock + keyTtl
  · rw [if_pos hlive,hadded]
    exact hscore
  · rw [if_neg hlive]
    constructor
    · intro hempty
      cases hempty
    · intro ht
      have hle := hend ht
      omega

end Keys
end CluChess
