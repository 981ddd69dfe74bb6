import Mathlib.Data.List.Sort
import CluChess.KeyedTable

/-! Keys that expire and sorted sets, as a key-value store with a clock has them. Nothing here
depends on what the keys and the values are. -/
namespace CluChess

/-- A value with the instant after which it has expired, if it expires. -/
structure Entry (α : Type*) where
  value : α
  expiresAt : Option ℤ
  deriving DecidableEq, Repr

def Entry.live {α : Type*} (e : Entry α) (clock : ℤ) : Bool :=
  e.expiresAt.all fun t => decide (clock ≤ t)

theorem Entry.live_mono {α : Type*} {e : Entry α} {clock clock' : ℤ} (h : clock ≤ clock')
    (hl : e.live clock' = true) : e.live clock = true := by
  unfold Entry.live at *
  cases ht : e.expiresAt with
  | none => rfl
  | some t =>
    rw [ht] at hl
    have hle : clock' ≤ t := by simpa using hl
    simpa using h.trans hle

/-- A family of keys of one kind. -/
abbrev Keys (κ α : Type*) := κ → Option (Entry α)

namespace Keys

variable {κ α : Type*} [DecidableEq κ] {keys : Keys κ α} {clock clock' : ℤ} {k k' : κ} {v : α}

def empty : Keys κ α := fun _ => none

def entry (keys : Keys κ α) (clock : ℤ) (k : κ) : Option (Entry α) :=
  (keys k).filter fun e => e.live clock

def get (keys : Keys κ α) (clock : ℤ) (k : κ) : Option α := (keys.entry clock k).map Entry.value

def setPx (keys : Keys κ α) (clock : ℤ) (k : κ) (v : α) (ttl : ℤ) : Keys κ α :=
  Function.update keys k (some ⟨v,some (clock + ttl)⟩)

def del (keys : Keys κ α) (k : κ) : Keys κ α := Function.update keys k none

/-- `PEXPIRE` of a key that exists. -/
def pexpire (keys : Keys κ α) (clock : ℤ) (k : κ) (ttl : ℤ) : Keys κ α :=
  match keys.entry clock k with
  | none => keys
  | some e => keys.setPx clock k e.value ttl

@[simp] theorem setPx_self (ttl : ℤ) :
    keys.setPx clock k v ttl k = some ⟨v,some (clock + ttl)⟩ := Function.update_self ..

@[simp] theorem setPx_of_ne (h : k' ≠ k) (ttl : ℤ) : keys.setPx clock k v ttl k' = keys k' :=
  Function.update_of_ne h ..

@[simp] theorem del_self : keys.del k k = none := Function.update_self ..

@[simp] theorem del_of_ne (h : k' ≠ k) : keys.del k k' = keys k' := Function.update_of_ne h ..

theorem pexpire_of_ne (h : k' ≠ k) (ttl : ℤ) : keys.pexpire clock k ttl k' = keys k' := by
  unfold pexpire
  cases keys.entry clock k with
  | none => rfl
  | some e => exact setPx_of_ne h ttl

omit [DecidableEq κ] in
theorem entry_eq_some {e : Entry α} :
    keys.entry clock k = some e ↔ keys k = some e ∧ e.live clock = true := by
  simp [entry,Option.filter_eq_some_iff]

omit [DecidableEq κ] in
theorem get_eq_some : keys.get clock k = some v ↔
    ∃ e, keys k = some e ∧ e.live clock = true ∧ e.value = v := by
  simp [get,entry_eq_some,and_assoc]

omit [DecidableEq κ] in
theorem get_congr {keys' : Keys κ α} (h : keys' k = keys k) :
    keys'.get clock k = keys.get clock k := by rw [get,get,entry,entry,h]

omit [DecidableEq κ] in
theorem get_mono (h : clock ≤ clock') (hv : keys.get clock' k = some v) :
    keys.get clock k = some v := by
  obtain ⟨e,he,hl,rfl⟩ := get_eq_some.mp hv
  exact get_eq_some.mpr ⟨e,he,Entry.live_mono h hl,rfl⟩

@[simp] theorem get_del_self : (keys.del k).get clock k = none := by simp [get,entry]

theorem get_del_of_ne (h : k' ≠ k) : (keys.del k).get clock k' = keys.get clock k' :=
  get_congr (del_of_ne h)

theorem get_setPx_self {ttl : ℤ} {w : α} (h : (keys.setPx clock k v ttl).get clock' k = some w) :
    w = v := by
  obtain ⟨e,he,_,rfl⟩ := get_eq_some.mp h
  rw [setPx_self] at he
  rw [← Option.some.inj he]

theorem get_setPx_of_ne (h : k' ≠ k) (ttl : ℤ) :
    (keys.setPx clock k v ttl).get clock' k' = keys.get clock' k' :=
  get_congr (setPx_of_ne h ttl)

/-- A value that was set is read until its time to live is over. -/
theorem get_setPx_later {ttl : ℤ} (h : clock' ≤ clock + ttl) :
    (keys.setPx clock k v ttl).get clock' k = some v :=
  get_eq_some.mpr ⟨_,setPx_self ttl,decide_eq_true h,rfl⟩

theorem get_setPx_now {ttl : ℤ} (h : 0 ≤ ttl) :
    (keys.setPx clock k v ttl).get clock k = some v := get_setPx_later (by omega)

/-- A key whose time to live is set again is read as before until that is over. -/
theorem get_pexpire {ttl : ℤ} (hv : keys.get clock k = some v) (h : clock' ≤ clock + ttl) :
    (keys.pexpire clock k ttl).get clock' k = some v := by
  obtain ⟨e,he,rfl⟩ := Option.map_eq_some_iff.mp hv
  unfold pexpire
  rw [he]
  exact get_setPx_later h

end Keys

/-- A sorted set: members with their scores. The order is that of the scores, and of the
members among equal scores. -/
abbrev SortedSet (μ : Type*) := Table (Prod.fst : μ × ℤ → μ)

namespace SortedSet

variable {μ : Type*} [DecidableEq μ] {s : SortedSet μ} {m m' : μ}

def score (s : SortedSet μ) (m : μ) : Option ℤ := (s.find m).map Prod.snd

/-- `ZADD`: the score of a member is replaced. -/
def add (s : SortedSet μ) (m : μ) (score : ℤ) : SortedSet μ :=
  match s.insert (m,score) with
  | some s => s
  | none => s.put (m,score)

def remove (s : SortedSet μ) (m : μ) : SortedSet μ := s.deleteWhere fun r => r.1 = m

/-- `ZREMRANGEBYSCORE` from minus infinity. -/
def removeUpTo (s : SortedSet μ) (score : ℤ) : SortedSet μ := s.deleteWhere fun r => r.2 ≤ score

def card (s : SortedSet μ) : ℕ := s.rows.length

section Order

variable [LinearOrder μ]

def before (a b : μ × ℤ) : Bool := decide (a.2 < b.2) || (decide (a.2 = b.2) && decide (a.1 ≤ b.1))

def range (s : SortedSet μ) : List (μ × ℤ) := s.rows.insertionSort fun a b => before a b = true

def rank (s : SortedSet μ) (m : μ) : Option ℕ := s.range.findIdx? fun r => r.1 = m

/-- `ZPOPMIN` of one member. -/
def popMin (s : SortedSet μ) : Option ((μ × ℤ) × SortedSet μ) :=
  s.range.head?.map fun r => (r,remove s r.1)

omit [DecidableEq μ] in
theorem mem_range {r : μ × ℤ} : r ∈ s.range ↔ r ∈ s.rows := List.mem_insertionSort _

end Order

@[simp] theorem score_empty : score (Table.empty : SortedSet μ) m = none := rfl

theorem score_eq_some {x : ℤ} : s.score m = some x ↔ (m,x) ∈ s.rows := by
  unfold score
  constructor
  · intro h
    obtain ⟨r,hr,rfl⟩ := Option.map_eq_some_iff.mp h
    have hm := Table.find_key hr
    subst hm
    exact Table.find_mem hr
  · intro h
    have hfind : s.find (m,x).1 = some (m,x) := Table.find_of_mem h
    rw [hfind]
    rfl

theorem score_add (x : ℤ) : (s.add m x).score m' = if m' = m then some x else s.score m' := by
  unfold add score
  cases hi : s.insert (m,x) with
  | some s' =>
    rw [Table.find_insert hi]
    split_ifs <;> rfl
  | none =>
    have hfound := Table.insert_eq_none.mp hi
    simp only [Table.find_put]
    by_cases h : m' = m
    · subst h
      obtain ⟨r,hr⟩ := Option.ne_none_iff_exists'.mp hfound
      have hr : s.find m' = some r := hr
      simp [hr]
    · simp [h]

theorem score_remove : (s.remove m).score m' = if m' = m then none else s.score m' := by
  unfold remove score
  rw [Table.find_deleteWhere]
  cases hf : s.find m' with
  | none => simp
  | some r =>
    have hm := Table.find_key hf
    by_cases h : m' = m <;> simp [Option.filter,hm,h]

@[simp] theorem score_remove_self : (s.remove m).score m = none := by simp [score_remove]

theorem score_remove_of_ne (h : m' ≠ m) : (s.remove m).score m' = s.score m' := by
  rw [score_remove,if_neg h]

theorem score_add_of_ne (h : m' ≠ m) (x : ℤ) : (s.add m x).score m' = s.score m' := by
  rw [score_add,if_neg h]

theorem popMin_eq_some [LinearOrder μ] {r : μ × ℤ} {s' : SortedSet μ}
    (h : s.popMin = some (r,s')) : s.score r.1 = some r.2 ∧ s' = s.remove r.1 := by
  obtain ⟨x,hx,he⟩ := Option.map_eq_some_iff.mp h
  cases he
  exact ⟨score_eq_some.mpr (mem_range.mp (List.mem_of_mem_head? hx)),rfl⟩

theorem rows_remove_of_none (h : s.score m = none) : s.remove m = s := by
  apply Table.ext
  refine List.filter_eq_self.mpr fun r hr => ?_
  by_contra hm
  have hm : r.1 = m := by simpa using hm
  have hscore := score_eq_some.mpr (show (r.1,r.2) ∈ s.rows from hr)
  rw [hm,h] at hscore
  cases hscore

omit [DecidableEq μ] in
theorem removeUpTo_of_lt {x : ℤ} (h : ∀ r ∈ s.rows, x < r.2) : s.removeUpTo x = s := by
  apply Table.ext
  refine List.filter_eq_self.mpr fun r hr => ?_
  have hlt := h r hr
  simpa using hlt

omit [DecidableEq μ] in
theorem removeUpTo_removeUpTo (s : SortedSet μ) (x y : ℤ) :
    (s.removeUpTo x).removeUpTo y = s.removeUpTo (max x y) := by
  apply Table.ext
  simp only [removeUpTo,Table.deleteWhere,List.filter_filter]
  refine List.filter_congr fun r _ => ?_
  rw [Bool.eq_iff_iff]
  simp only [Bool.and_eq_true,Bool.not_eq_true',decide_eq_false_iff_not,not_le]
  omega

theorem card_pos_of_score {x : ℤ} (h : s.score m = some x) : 0 < s.card :=
  List.length_pos_of_mem (score_eq_some.mp h)

theorem card_add_pos (x : ℤ) : 0 < (s.add m x).card :=
  card_pos_of_score (m := m) (x := x) (by rw [score_add,if_pos rfl])

theorem card_remove_le : (s.remove m).card ≤ s.card := List.length_filter_le _ s.rows

section Ranges

/-! The range of a set is in order and a matter of the scores alone. -/

variable [LinearOrder μ] {s' : SortedSet μ}

instance before_total : Std.Total fun a b : μ × ℤ => before a b = true where
  total a b := by
    simp only [before,Bool.or_eq_true,Bool.and_eq_true,decide_eq_true_eq]
    rcases lt_trichotomy a.2 b.2 with h | h | h
    · exact Or.inl (Or.inl h)
    · exact (le_total a.1 b.1).imp (fun hm => Or.inr ⟨h,hm⟩) fun hm => Or.inr ⟨h.symm,hm⟩
    · exact Or.inr (Or.inl h)

instance before_trans : IsTrans (μ × ℤ) fun a b => before a b = true where
  trans a b c hab hbc := by
    simp only [before,Bool.or_eq_true,Bool.and_eq_true,decide_eq_true_eq] at *
    rcases hab with hab | ⟨hab,hm⟩ <;> rcases hbc with hbc | ⟨hbc,hm'⟩
    · exact Or.inl (hab.trans hbc)
    · exact Or.inl (hbc ▸ hab)
    · exact Or.inl (hab ▸ hbc)
    · exact Or.inr ⟨hab.trans hbc,hm.trans hm'⟩

omit [DecidableEq μ] in
theorem before_antisymm {a b : μ × ℤ} (hab : before a b = true) (hba : before b a = true) :
    a = b := by
  simp only [before,Bool.or_eq_true,Bool.and_eq_true,decide_eq_true_eq] at *
  have hscore : a.2 = b.2 := by omega
  have hle : a.1 ≤ b.1 := by
    rcases hab with h | h
    · omega
    · exact h.2
  have hge : b.1 ≤ a.1 := by
    rcases hba with h | h
    · omega
    · exact h.2
  exact Prod.ext (le_antisymm hle hge) hscore

omit [DecidableEq μ] in
theorem range_sorted (s : SortedSet μ) : s.range.Pairwise fun a b => before a b = true :=
  List.pairwise_insertionSort _ _

omit [DecidableEq μ] in
theorem range_perm (s : SortedSet μ) : s.range.Perm s.rows := List.perm_insertionSort _ _

omit [DecidableEq μ] in
theorem range_nodup (s : SortedSet μ) : (s.range.map Prod.fst).Nodup :=
  ((range_perm s).map _).nodup_iff.mpr s.nodup

omit [DecidableEq μ] in
/-- A list in order that has the members of the set is its range. -/
theorem range_eq_of_perm {l : List (μ × ℤ)} (hp : l.Perm s.rows)
    (hs : l.Pairwise fun a b => before a b = true) : s.range = l :=
  ((range_perm s).trans hp.symm).eq_of_pairwise (fun _ _ _ _ => before_antisymm)
    (range_sorted s) hs

theorem range_remove (s : SortedSet μ) (m : μ) :
    (s.remove m).range = s.range.filter fun e => e.1 ≠ m := by
  refine range_eq_of_perm ?_ ((range_sorted s).filter _)
  have hrows : (s.remove m).rows = s.rows.filter fun e => e.1 ≠ m := by
    refine List.filter_congr fun e _ => ?_
    by_cases he : e.1 = m <;> simp [he]
  rw [hrows]
  exact (range_perm s).filter _

/-- Members are taken out and the others keep their scores, so they keep their order. -/
theorem range_of_scores {p : μ → Bool}
    (h : ∀ m, s'.score m = if p m then none else s.score m) :
    s'.range = s.range.filter fun e => !p e.1 := by
  refine range_eq_of_perm ?_ ((range_sorted s).filter _)
  refine ((range_perm s).filter _).trans ?_
  refine (List.perm_ext_iff_of_nodup (s.nodup.of_map.filter _) s'.nodup.of_map).mpr fun e => ?_
  rw [← score_eq_some (s := s') (m := e.1) (x := e.2),h,List.mem_filter,
    ← score_eq_some (s := s) (m := e.1) (x := e.2)]
  cases hp : p e.1 <;> simp

theorem popMin_of_range {e : μ × ℤ} {rest : List (μ × ℤ)} (h : s.range = e :: rest) :
    s.popMin = some (e,s.remove e.1) ∧ (s.remove e.1).range = rest := by
  constructor
  · unfold popMin
    rw [h]
    rfl
  · have hn := range_nodup s
    rw [h,List.map_cons,List.nodup_cons] at hn
    rw [range_remove,h,List.filter_cons]
    simp only [ne_eq,not_true_eq_false,decide_false,Bool.false_eq_true,if_false]
    refine List.filter_eq_self.mpr fun x hx => ?_
    have hne : x.1 ≠ e.1 := fun he => hn.1 (he ▸ List.mem_map_of_mem hx)
    simpa using hne

omit [DecidableEq μ] in
theorem popMin_of_empty (h : s.range = []) [DecidableEq μ] : s.popMin = none := by
  unfold popMin
  rw [h]
  rfl

end Ranges
end SortedSet

namespace Keys

variable {κ μ : Type*} [DecidableEq κ] {keys : Keys κ (SortedSet μ)}
  {clock : ℤ} {k k' : κ}

/-- The sorted set under a key; a key that does not exist is an empty set. -/
def sortedSet (keys : Keys κ (SortedSet μ)) (clock : ℤ) (k : κ) : SortedSet μ :=
  (keys.get clock k).getD .empty

/-- A command that changes the set under a key. The key keeps its expiry and is removed with
its last member. -/
def updateSet (keys : Keys κ (SortedSet μ)) (clock : ℤ) (k : κ)
    (change : SortedSet μ → SortedSet μ) : Keys κ (SortedSet μ) :=
  if (change (keys.sortedSet clock k)).rows = [] then keys.del k
  else Function.update keys k
    (some ⟨change (keys.sortedSet clock k),(keys.entry clock k).bind Entry.expiresAt⟩)

theorem sortedSet_updateSet (keys : Keys κ (SortedSet μ)) (clock : ℤ) (k : κ)
    (change : SortedSet μ → SortedSet μ) :
    (keys.updateSet clock k change).sortedSet clock k = change (keys.sortedSet clock k) := by
  unfold updateSet
  split_ifs with h
  · have hempty : change (keys.sortedSet clock k) = .empty := Table.ext h
    rw [sortedSet,get_del_self,hempty]
    rfl
  · have hlive : (Entry.mk (change (keys.sortedSet clock k))
        ((keys.entry clock k).bind Entry.expiresAt)).live clock = true := by
      cases he : keys.entry clock k with
      | none => rfl
      | some e => exact (entry_eq_some.mp he).2
    rw [sortedSet,get_eq_some.mpr ⟨_,Function.update_self ..,hlive,rfl⟩]
    rfl

/-- A change that keeps the empty set empty is seen in the same way at a later instant. -/
theorem sortedSet_updateSet_later (change : SortedSet μ → SortedSet μ) {clock' : ℤ}
    (hempty : change .empty = .empty) (h : clock ≤ clock') (keys : Keys κ (SortedSet μ)) (k : κ) :
    (keys.updateSet clock k change).sortedSet clock' k = change (keys.sortedSet clock' k) := by
  have hlater : ∀ e, keys k = some e → e.live clock' = true → keys.sortedSet clock k = e.value ∧
      keys.sortedSet clock' k = e.value := by
    intro e he hl
    have hnow := get_eq_some.mpr ⟨e,he,Entry.live_mono h hl,rfl⟩
    have hthen := get_eq_some.mpr ⟨e,he,hl,rfl⟩
    exact ⟨by rw [sortedSet,hnow]; rfl,by rw [sortedSet,hthen]; rfl⟩
  have hgone : (∀ e, keys k = some e → e.live clock' = false) →
      keys.sortedSet clock' k = .empty := by
    intro hdead
    have hnone : keys.get clock' k = none := by
      rw [Option.eq_none_iff_forall_ne_some]
      rintro v hv
      obtain ⟨e,he,hl,_⟩ := get_eq_some.mp hv
      simp [hdead e he] at hl
    rw [sortedSet,hnone]
    rfl
  unfold updateSet
  split_ifs with hrows
  · have hleft : (keys.del k).sortedSet clock' k = .empty := by rw [sortedSet,get_del_self]; rfl
    rw [hleft]
    by_cases hlive : ∃ e, keys k = some e ∧ e.live clock' = true
    · obtain ⟨e,he,hl⟩ := hlive
      obtain ⟨hnow,hthen⟩ := hlater e he hl
      rw [hthen,← hnow]
      exact (Table.ext hrows).symm
    · rw [hgone fun e he => Bool.eq_false_iff.mpr fun hl => hlive ⟨e,he,hl⟩,hempty]
  · cases he : keys.entry clock k with
    | none =>
      refine absurd ?_ hrows
      rw [sortedSet,get,he]
      exact congrArg Table.rows hempty
    | some e =>
      obtain ⟨hfound,hl⟩ := entry_eq_some.mp he
      have hvalue : keys.sortedSet clock k = e.value := by rw [sortedSet,get,he]; rfl
      rw [hvalue,Option.bind_some]
      by_cases hl' : e.live clock' = true
      · have hlive : (Entry.mk (change e.value) e.expiresAt).live clock' = true := hl'
        rw [(hlater e hfound hl').2,sortedSet,
          get_eq_some.mpr ⟨_,Function.update_self ..,hlive,rfl⟩]
        rfl
      · have hdead : Keys.get (Function.update keys k (some ⟨change e.value,e.expiresAt⟩)) clock'
            k = none := by
          simp only [get,entry,Function.update_self,Option.map_eq_none_iff,
            Option.filter_eq_none_iff]
          rintro _ ⟨⟩
          exact hl'
        have hthen := hgone fun e' he' => by
          rw [hfound] at he'
          cases he'
          simpa using hl'
        rw [hthen,hempty,sortedSet]
        exact congrArg (Option.getD · _) hdead

theorem updateSet_of_ne (keys : Keys κ (SortedSet μ)) (clock : ℤ) (h : k' ≠ k)
    (change : SortedSet μ → SortedSet μ) :
    keys.updateSet clock k change k' = keys k' := by
  unfold updateSet
  split_ifs
  · exact del_of_ne h
  · exact Function.update_of_ne h ..

omit [DecidableEq κ] in
theorem sortedSet_congr {keys' : Keys κ (SortedSet μ)} (h : keys' k = keys k) :
    keys'.sortedSet clock k = keys.sortedSet clock k := by rw [sortedSet,sortedSet,get_congr h]

theorem sortedSet_pexpire {ttl : ℤ} (h : 0 ≤ ttl) :
    (keys.pexpire clock k ttl).sortedSet clock k = keys.sortedSet clock k := by
  unfold pexpire
  cases he : keys.entry clock k with
  | none => rfl
  | some e =>
    have hget : keys.get clock k = some e.value := by rw [get,he]; rfl
    rw [sortedSet,get_setPx_now h,sortedSet,hget]

end Keys
end CluChess
