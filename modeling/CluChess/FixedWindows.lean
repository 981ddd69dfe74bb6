import CluChess.ExpiringStore

/-! Windows of a fixed length over calls in the order of their times, and the expiring counter
that implements them. A window is opened by the first call that is in no window and holds the
calls up to its end. Nothing here depends on what the calls are. -/
namespace CluChess

/-- A call and those that fall into the window it has opened. -/
structure CallWindow (α : Type*) where
  opener : α
  later : List α
  deriving DecidableEq, Repr

namespace CallWindow

variable {α : Type*} {time : α → ℤ} {length : ℤ} {w : CallWindow α} {a : α}

def calls (w : CallWindow α) : List α := w.opener :: w.later

def add (w : CallWindow α) (a : α) : CallWindow α := ⟨w.opener,w.later ++ [a]⟩

@[simp] theorem calls_add : (w.add a).calls = w.calls ++ [a] := rfl
@[simp] theorem opener_add : (w.add a).opener = w.opener := rfl

/-- The windows of calls when a window is open. -/
def windowsFrom (time : α → ℤ) (length : ℤ) : CallWindow α → List α → List (CallWindow α)
  | w, [] => [w]
  | w, a :: as =>
    if time a ≤ time w.opener + length then windowsFrom time length (w.add a) as
    else w :: windowsFrom time length ⟨a,[]⟩ as

def windows (time : α → ℤ) (length : ℤ) : List α → List (CallWindow α)
  | [] => []
  | a :: as => windowsFrom time length ⟨a,[]⟩ as

def Spans (time : α → ℤ) (length : ℤ) (w : CallWindow α) : Prop :=
  ∀ a ∈ w.calls, time w.opener ≤ time a ∧ time a ≤ time w.opener + length

theorem spans_single (hlength : 0 ≤ length) : Spans time length ⟨a,[]⟩ := by
  intro b hb
  have hb : b = a := List.mem_singleton.mp hb
  rw [hb]
  exact ⟨le_rfl,Int.le_add_of_nonneg_right hlength⟩

theorem Spans.add (h : w.Spans time length) (hle : time w.opener ≤ time a)
    (ha : time a ≤ time w.opener + length) : (w.add a).Spans time length := by
  intro b hb
  rw [calls_add] at hb
  rcases List.mem_append.mp hb with hb | hb
  · exact h b hb
  · rw [List.mem_singleton] at hb
    subst hb
    exact ⟨hle,ha⟩

theorem windowsFrom_calls (w : CallWindow α) (as : List α) :
    ((windowsFrom time length w as).map calls).flatten = w.calls ++ as := by
  induction as generalizing w with
  | nil => simp [windowsFrom]
  | cons a as ih =>
    unfold windowsFrom
    split_ifs
    · rw [ih,calls_add,List.append_assoc]
      rfl
    · rw [List.map_cons,List.flatten_cons,ih]
      rfl

theorem windows_calls (as : List α) : ((windows time length as).map calls).flatten = as := by
  cases as with
  | nil => rfl
  | cons a as => exact windowsFrom_calls ⟨a,[]⟩ as

/-- Every window spans its calls, and a later window opens after the end of an earlier one. -/
theorem windowsFrom_spans (hlength : 0 ≤ length) (w : CallWindow α) (as : List α)
    (hw : w.Spans time length) (hfrom : ∀ a ∈ as, time w.opener ≤ time a)
    (horder : (as.map time).Pairwise (· ≤ ·)) :
    (∀ v ∈ windowsFrom time length w as,
      v.Spans time length ∧ time w.opener ≤ time v.opener) ∧
    (windowsFrom time length w as).Pairwise fun v v' =>
      time v.opener + length < time v'.opener := by
  induction as generalizing w with
  | nil =>
    refine ⟨fun v hv => ?_,List.pairwise_singleton _ w⟩
    rw [List.mem_singleton.mp hv]
    exact ⟨hw,le_rfl⟩
  | cons a as ih =>
    rw [List.map_cons,List.pairwise_cons] at horder
    have ha := hfrom a List.mem_cons_self
    have hlater : ∀ b ∈ as, time a ≤ time b := fun b hb => horder.1 _ (List.mem_map_of_mem hb)
    unfold windowsFrom
    split_ifs with hin
    · exact ih (w.add a) (hw.add ha hin) (fun b hb => ha.trans (hlater b hb)) horder.2
    · obtain ⟨hspans,hspread⟩ := ih ⟨a,[]⟩ (spans_single hlength) hlater horder.2
      constructor
      · intro v hv
        rcases List.mem_cons.mp hv with rfl | hv
        · exact ⟨hw,le_rfl⟩
        · exact ⟨(hspans v hv).1,ha.trans (hspans v hv).2⟩
      · refine List.pairwise_cons.mpr ⟨fun v hv => ?_,hspread⟩
        exact (not_le.mp hin).trans_le (hspans v hv).2

theorem windows_spans (hlength : 0 ≤ length) {as : List α}
    (horder : (as.map time).Pairwise (· ≤ ·)) :
    (∀ v ∈ windows time length as, v.Spans time length) ∧
    (windows time length as).Pairwise fun v v' => time v.opener + length < time v'.opener := by
  cases as with
  | nil => exact ⟨fun v hv => absurd hv List.not_mem_nil,List.Pairwise.nil⟩
  | cons a as =>
    rw [List.map_cons,List.pairwise_cons] at horder
    obtain ⟨hspans,hspread⟩ := windowsFrom_spans hlength ⟨a,[]⟩ as (spans_single hlength)
      (fun b hb => horder.1 _ (List.mem_map_of_mem hb)) horder.2
    exact ⟨fun v hv => (hspans v hv).1,hspread⟩

/-- Exactly the first calls of the window, up to the limit, are accepted. -/
def AcceptsFirst (accepted : α → Bool) (limit : ℕ) (w : CallWindow α) : Prop :=
  w.calls.map accepted = (List.range w.calls.length).map fun i => decide (i < limit)

theorem AcceptsFirst.add {accepted : α → Bool} {limit : ℕ} (h : w.AcceptsFirst accepted limit)
    (ha : accepted a = decide (w.calls.length < limit)) :
    (w.add a).AcceptsFirst accepted limit := by
  unfold AcceptsFirst
  rw [calls_add,List.map_append,h,List.length_append,List.length_singleton,List.range_succ,
    List.map_append,List.map_singleton,List.map_singleton,ha]

theorem acceptsFirst_single {accepted : α → Bool} {limit : ℕ}
    (ha : accepted a = decide (0 < limit)) :
    AcceptsFirst accepted limit ⟨a,[]⟩ := congrArg (fun b => [b]) ha

theorem countP_range_lt (n limit : ℕ) :
    (List.range n).countP (fun i => decide (i < limit)) = min n limit := by
  induction n with
  | zero => simp
  | succ n ih =>
    rw [List.range_succ,List.countP_append,ih,List.countP_singleton]
    split_ifs with h
    · have hlt : n < limit := of_decide_eq_true h
      omega
    · have hle : ¬ n < limit := fun hlt => h (decide_eq_true hlt)
      omega

theorem AcceptsFirst.countP {accepted : α → Bool} {limit : ℕ}
    (h : w.AcceptsFirst accepted limit) :
    w.calls.countP accepted = min w.calls.length limit := by
  have hmap : (w.calls.map accepted).countP id = w.calls.countP accepted := by
    rw [List.countP_map]
    rfl
  rw [← hmap,h,List.countP_map,← countP_range_lt]
  rfl

theorem AcceptsFirst.opener {accepted : α → Bool} {limit : ℕ} (h : w.AcceptsFirst accepted limit)
    (hlimit : 0 < limit) : accepted w.opener = true := by
  have hhead : (w.calls.map accepted).head? = some (accepted w.opener) := rfl
  rw [h] at hhead
  simpa [calls,List.range_succ_eq_map,hlimit] using hhead.symm

section Intervals

/-! Windows that are `length` apart meet an interval of that length at most twice. -/

variable {ws : List (CallWindow α)} {p : α → Bool} {limit : ℕ} {x : ℤ}

def within (time : α → ℤ) (length : ℤ) (p : α → Bool) (x : ℤ) (a : α) : Bool :=
  p a && decide (x ≤ time a) && decide (time a < x + length)

theorem countP_within_le (hp : w.calls.countP p ≤ limit) :
    w.calls.countP (within time length p x) ≤ limit := by
  refine (List.countP_mono_left fun a _ ha => ?_).trans hp
  simp only [within,Bool.and_eq_true] at ha
  exact ha.1.1

/-- Windows that open after the interval have no call in it. -/
theorem countP_within_of_late (hspans : ∀ w ∈ ws, w.Spans time length)
    (hlate : ∀ w ∈ ws, x + length ≤ time w.opener) :
    ((ws.map calls).flatten).countP (within time length p x) = 0 := by
  refine List.countP_eq_zero.mpr fun a ha => ?_
  obtain ⟨_,hcalls,ha⟩ := List.mem_flatten.mp ha
  obtain ⟨w,hw,rfl⟩ := List.mem_map.mp hcalls
  have hfrom := (hspans w hw a ha).1
  have hopen := hlate w hw
  simp only [within,Bool.and_eq_true,decide_eq_true_eq]
  omega

theorem countP_within_of_open (hspans : ∀ w ∈ ws, w.Spans time length)
    (hspread : ws.Pairwise fun v v' => time v.opener + length < time v'.opener)
    (hp : ∀ w ∈ ws, w.calls.countP p ≤ limit) (hopen : ∀ w ∈ ws, x ≤ time w.opener) :
    ((ws.map calls).flatten).countP (within time length p x) ≤ limit := by
  cases ws with
  | nil => exact Nat.zero_le _
  | cons w ws =>
    have hw := hopen w List.mem_cons_self
    have hrest := List.pairwise_cons.mp hspread
    have hzero : ((ws.map calls).flatten).countP (within time length p x) = 0 :=
      countP_within_of_late (fun v hv => hspans v (List.mem_cons_of_mem w hv)) fun v hv => by
        have hlt := hrest.1 v hv
        omega
    rw [List.map_cons,List.flatten_cons,List.countP_append,hzero]
    exact countP_within_le (hp w List.mem_cons_self)

/-- An interval as long as the windows holds at most twice what one window can hold. -/
theorem countP_within_le_two (hspans : ∀ w ∈ ws, w.Spans time length)
    (hspread : ws.Pairwise fun v v' => time v.opener + length < time v'.opener)
    (hp : ∀ w ∈ ws, w.calls.countP p ≤ limit) :
    ((ws.map calls).flatten).countP (within time length p x) ≤ 2 * limit := by
  induction ws with
  | nil => exact Nat.zero_le _
  | cons w ws ih =>
    have hrest := List.pairwise_cons.mp hspread
    have hspans' : ∀ v ∈ ws, v.Spans time length :=
      fun v hv => hspans v (List.mem_cons_of_mem w hv)
    have hp' : ∀ v ∈ ws, v.calls.countP p ≤ limit := fun v hv => hp v (List.mem_cons_of_mem w hv)
    have hfirst : w.calls.countP (within time length p x) ≤ limit :=
      countP_within_le (hp w List.mem_cons_self)
    rw [List.map_cons,List.flatten_cons,List.countP_append]
    by_cases hpast : time w.opener + length < x
    · have hzero : w.calls.countP (within time length p x) = 0 := by
        refine List.countP_eq_zero.mpr fun a ha => ?_
        have hend := (hspans w List.mem_cons_self a ha).2
        simp only [within,Bool.and_eq_true,decide_eq_true_eq]
        omega
      rw [hzero,Nat.zero_add]
      exact ih hspans' hrest.2 hp'
    · have hlast : ((ws.map calls).flatten).countP (within time length p x) ≤ limit :=
        countP_within_of_open hspans' hrest.2 hp' fun v hv => by
          have hlt := hrest.1 v hv
          omega
      omega

end Intervals
end CallWindow

namespace Keys

variable {κ : Type*} [DecidableEq κ] {keys : Keys κ ℕ} {clock : ℤ} {k k' : κ}

/-- `INCR`: a key that does not exist counts from zero and does not expire. -/
def incr (keys : Keys κ ℕ) (clock : ℤ) (k : κ) : ℕ × Keys κ ℕ :=
  let count := (keys.get clock k).getD 0 + 1
  (count,Function.update keys k (some ⟨count,(keys.entry clock k).bind Entry.expiresAt⟩))

def pttl (keys : Keys κ ℕ) (clock : ℤ) (k : κ) : ℤ :=
  match keys.entry clock k with
  | none => -2
  | some ⟨_,none⟩ => -1
  | some ⟨_,some expiresAt⟩ => expiresAt - clock

/-- `INCR`, and `PEXPIRE` of a key that counts its first call. -/
def countCall (keys : Keys κ ℕ) (clock : ℤ) (k : κ) (length : ℤ) : ℕ × Keys κ ℕ :=
  let (count,counted) := keys.incr clock k
  if count = 1 then (count,counted.pexpire clock k length) else (count,counted)

theorem countCall_of_ne (h : k' ≠ k) (length : ℤ) :
    (keys.countCall clock k length).2 k' = keys k' := by
  have hincr : (keys.incr clock k).2 k' = keys k' := Function.update_of_ne h ..
  unfold countCall
  dsimp only
  split_ifs
  · exact (pexpire_of_ne h length).trans hincr
  · exact hincr

theorem countCall_open (h : keys.get clock k = none) (length : ℤ) :
    (keys.countCall clock k length).1 = 1 ∧
      (keys.countCall clock k length).2 k = some ⟨1,some (clock + length)⟩ := by
  have hentry : keys.entry clock k = none := Option.map_eq_none_iff.mp h
  have hincr : keys.incr clock k = (1,Function.update keys k (some ⟨1,none⟩)) := by
    rw [incr,h,hentry]
    rfl
  have hlive : Keys.entry (Function.update keys k (some ⟨1,none⟩)) clock k = some ⟨1,none⟩ :=
    entry_eq_some.mpr ⟨Function.update_self ..,rfl⟩
  have hcall : keys.countCall clock k length =
      (1,Keys.setPx (Function.update keys k (some ⟨1,none⟩)) clock k 1 length) := by
    rw [countCall,hincr]
    simp only [if_true,pexpire,hlive]
  rw [hcall]
  exact ⟨rfl,setPx_self length⟩

theorem countCall_in {count : ℕ} {expiresAt : ℤ} (h : keys k = some ⟨count,some expiresAt⟩)
    (hlive : clock ≤ expiresAt) (hcount : 0 < count) (length : ℤ) :
    (keys.countCall clock k length).1 = count + 1 ∧
      (keys.countCall clock k length).2 k = some ⟨count + 1,some expiresAt⟩ := by
  have hentry : keys.entry clock k = some ⟨count,some expiresAt⟩ :=
    entry_eq_some.mpr ⟨h,decide_eq_true hlive⟩
  have hincr : keys.incr clock k =
      (count + 1,Function.update keys k (some ⟨count + 1,some expiresAt⟩)) := by
    rw [incr,get,hentry]
    rfl
  have hcall : keys.countCall clock k length =
      (count + 1,Function.update keys k (some ⟨count + 1,some expiresAt⟩)) := by
    rw [countCall,hincr]
    exact if_neg (by omega)
  rw [hcall]
  exact ⟨rfl,Function.update_self ..⟩

def EndsWithin (keys : Keys κ ℕ) (clock limit : ℤ) : Prop :=
  ∀ k e t, keys k = some e → e.expiresAt = some t → t ≤ clock + limit

section EndsWithin

variable {clock' limit length : ℤ}

omit [DecidableEq κ] in
theorem EndsWithin.later (h : keys.EndsWithin clock limit) (hle : clock ≤ clock') :
    keys.EndsWithin clock' limit :=
  fun k e t he ht => (h k e t he ht).trans (Int.add_le_add_right hle _)

omit [DecidableEq κ] in
theorem EndsWithin.pttl_le (h : keys.EndsWithin clock limit) (hlimit : 0 ≤ limit) :
    keys.pttl clock k ≤ limit := by
  unfold pttl
  split
  · omega
  · omega
  · rename_i count expiresAt hentry
    have hends := h k _ expiresAt (entry_eq_some.mp hentry).1 rfl
    omega

theorem EndsWithin.update (h : keys.EndsWithin clock limit) {e : Entry ℕ}
    (he : ∀ t, e.expiresAt = some t → t ≤ clock + limit) :
    EndsWithin (Function.update keys k (some e)) clock limit := by
  intro k' e' t hk ht
  by_cases hkey : k' = k
  · subst hkey
    rw [Function.update_self] at hk
    cases hk
    exact he t ht
  · rw [Function.update_of_ne hkey] at hk
    exact h k' e' t hk ht

theorem EndsWithin.countCall (h : keys.EndsWithin clock limit) (hlength : length ≤ limit) :
    (keys.countCall clock k length).2.EndsWithin clock limit := by
  have hcounted : (keys.incr clock k).2.EndsWithin clock limit := by
    refine h.update fun t ht => ?_
    obtain ⟨e,he,ht⟩ := Option.bind_eq_some_iff.mp ht
    exact h k e t (entry_eq_some.mp he).1 ht
  unfold Keys.countCall
  dsimp only
  split_ifs
  · unfold pexpire
    split
    · exact hcounted
    · refine hcounted.update fun t ht => ?_
      cases ht
      omega
  · exact hcounted

end EndsWithin

end Keys
end CluChess
