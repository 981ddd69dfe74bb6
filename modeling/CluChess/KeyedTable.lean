import Mathlib.Data.List.Nodup
import Mathlib.Data.Option.Basic

/-! Tables with a primary key. The rows are kept in insertion order and the key of a
table is unique by construction, so a lookup by key is the only reading the proofs need. -/
namespace CluChess

/-- A table is a list of rows no two of which share a key. -/
@[ext] structure Table {κ ρ : Type*} (key : ρ → κ) where
  rows : List ρ
  nodup : (rows.map key).Nodup

namespace Table

variable {κ ρ : Type*} [DecidableEq κ] {key : ρ → κ}

def empty : Table key := ⟨[],by simp⟩

def find (t : Table key) (k : κ) : Option ρ := t.rows.find? (fun r => key r = k)

theorem find_key {t : Table key} {k : κ} {r : ρ} (h : t.find k = some r) : key r = k := by
  simpa using List.find?_some h

theorem find_mem {t : Table key} {k : κ} {r : ρ} (h : t.find k = some r) : r ∈ t.rows :=
  List.mem_of_find?_eq_some h

/-- In a list without repeated keys a lookup finds every row by its key. -/
theorem find?_of_mem {rows : List ρ} (hn : (rows.map key).Nodup) {r : ρ} (hr : r ∈ rows) :
    rows.find? (fun r' => key r' = key r) = some r := by
  induction rows with
  | nil => simp at hr
  | cons x xs ih =>
    simp only [List.map_cons,List.nodup_cons] at hn
    rcases List.mem_cons.mp hr with rfl | hr
    · simp
    · have hne : key x ≠ key r := fun h => hn.1 (h ▸ List.mem_map_of_mem hr)
      simp [hne,ih hn.2 hr]

theorem find_of_mem {t : Table key} {r : ρ} (hr : r ∈ t.rows) : t.find (key r) = some r :=
  find?_of_mem t.nodup hr

theorem find_eq_none {t : Table key} {k : κ} : t.find k = none ↔ ∀ r ∈ t.rows, key r ≠ k := by
  simp [find]

/-- A predicate that only rows with one key satisfy counts at most one row. -/
theorem countP_le_one (t : Table key) {p : ρ → Bool} {k : κ}
    (h : ∀ r ∈ t.rows, p r = true → key r = k) : t.rows.countP p ≤ 1 := by
  have hle : t.rows.countP p ≤ t.rows.countP fun r => key r = k :=
    List.countP_mono_left fun r hr hp => decide_eq_true (h r hr hp)
  have hkeys : (t.rows.map key).count k = t.rows.countP fun r => key r = k := by
    rw [List.count,List.countP_map]
    rfl
  have hone := List.nodup_iff_count_le_one.mp t.nodup k
  omega

@[simp] theorem find_empty (k : κ) : (empty : Table key).find k = none := rfl

/-- Overwrite the row that has the key of `r`, if there is one. -/
def put (t : Table key) (r : ρ) : Table key where
  rows := t.rows.map (fun x => if key x = key r then r else x)
  nodup := by
    have h : key ∘ (fun x => if key x = key r then r else x) = key := by
      funext x
      by_cases hx : key x = key r <;> simp [hx]
    simpa [List.map_map,h] using t.nodup

theorem find?_put (rows : List ρ) (r : ρ) (k : κ) :
    (rows.map (fun x => if key x = key r then r else x)).find? (fun x => key x = k) =
      if k = key r then (rows.find? (fun x => key x = k)).map (fun _ => r)
      else rows.find? (fun x => key x = k) := by
  induction rows with
  | nil => simp
  | cons x xs ih =>
    rw [List.map_cons,List.find?_cons,List.find?_cons,ih]
    by_cases hk : k = key r
    · subst hk
      by_cases hx : key x = key r <;> simp [hx]
    · by_cases hx : key x = key r
      · have hxk : key x ≠ k := fun h => hk (h ▸ hx)
        simp [hx,hk,Ne.symm hk]
      · simp [hx,hk]

theorem find_put (t : Table key) (r : ρ) (k : κ) :
    (t.put r).find k = if k = key r then (t.find k).map (fun _ => r) else t.find k :=
  find?_put t.rows r k

theorem find_put_self {t : Table key} {r r' : ρ} (h : t.find (key r) = some r') :
    (t.put r).find (key r) = some r := by
  rw [find_put,if_pos rfl,h]
  rfl

theorem find_put_of_ne (t : Table key) {r : ρ} {k : κ} (h : k ≠ key r) :
    (t.put r).find k = t.find k := by rw [find_put,if_neg h]

theorem put_put (t : Table key) {r r' : ρ} (h : key r = key r') :
    (t.put r).put r' = t.put r' := by
  apply Table.ext
  simp only [put,List.map_map]
  apply List.map_congr_left
  intro x _
  by_cases hx : key x = key r' <;> simp [hx,h]

/-- Insertion fails on a key that is taken. -/
def insert (t : Table key) (r : ρ) : Option (Table key) :=
  if h : t.find (key r) = none then
    some ⟨t.rows ++ [r],by
      rw [List.map_append,List.nodup_append]
      refine ⟨t.nodup,by simp,?_⟩
      intro a ha b hb
      obtain ⟨x,hx,rfl⟩ := List.mem_map.mp ha
      obtain rfl : b = key r := by simpa using hb
      exact find_eq_none.mp h x hx⟩
  else none

theorem insert_fresh {t t' : Table key} {r : ρ} (h : t.insert r = some t') :
    t.find (key r) = none ∧ t'.rows = t.rows ++ [r] := by
  unfold insert at h
  split at h
  · rename_i hn
    exact ⟨hn,by rw [← Option.some.inj h]⟩
  · cases h

theorem insert_eq_none {t : Table key} {r : ρ} : t.insert r = none ↔ t.find (key r) ≠ none := by
  unfold insert
  split <;> simp_all

theorem find_insert {t t' : Table key} {r : ρ} (h : t.insert r = some t') (k : κ) :
    t'.find k = if k = key r then some r else t.find k := by
  obtain ⟨hn,hr⟩ := insert_fresh h
  unfold find at *
  rw [hr,List.find?_append]
  by_cases hk : k = key r
  · subst hk
    simp [hn]
  · simp [hk,Ne.symm hk]

/-- An insertion keeps the rows that there are. -/
theorem find_insert_of_found {t t' : Table key} {r x : ρ} {k : κ} (h : t.insert r = some t')
    (hk : t.find k = some x) : t'.find k = some x := by
  have hne : k ≠ key r := by
    intro he
    rw [he,(insert_fresh h).1] at hk
    cases hk
  rw [find_insert h,if_neg hne]
  exact hk

theorem mem_insert {t t' : Table key} {r x : ρ} (h : t.insert r = some t') :
    x ∈ t'.rows ↔ x ∈ t.rows ∨ x = r := by
  rw [(insert_fresh h).2]
  simp

def deleteWhere (t : Table key) (p : ρ → Bool) : Table key where
  rows := t.rows.filter (fun r => !p r)
  nodup := t.nodup.sublist (List.filter_sublist.map key)

omit [DecidableEq κ] in
theorem mem_deleteWhere {t : Table key} {p : ρ → Bool} {r : ρ} :
    r ∈ (t.deleteWhere p).rows ↔ r ∈ t.rows ∧ p r = false := by
  simp [deleteWhere]

theorem find_deleteWhere (t : Table key) (p : ρ → Bool) (k : κ) :
    (t.deleteWhere p).find k = (t.find k).filter (fun r => !p r) := by
  cases h : t.find k with
  | none =>
    rw [find_eq_none] at h
    rw [Option.filter_none,find_eq_none]
    exact fun r hr => h r (mem_deleteWhere.mp hr).1
  | some r =>
    have hk := find_key h
    subst hk
    cases hp : p r with
    | false => simpa [Option.filter,hp] using find_of_mem (mem_deleteWhere.mpr ⟨find_mem h,hp⟩)
    | true =>
      simp only [Option.filter,hp,Bool.not_true]
      refine find_eq_none.mpr fun x hx he => ?_
      obtain ⟨hxt,hxp⟩ := mem_deleteWhere.mp hx
      have hxr : t.find (key r) = some x := he ▸ find_of_mem hxt
      rw [h] at hxr
      cases hxr
      simp [hp] at hxp

end Table
end CluChess
