import Mathlib.Data.List.Basic
import Mathlib.Tactic.Tauto

/-! Deterministic machines that answer every input, and what holds along their runs.
Nothing here depends on what the states, the inputs or the answers are: the module
provides the induction over a run, absorption into a stable set of states, and the
argument by which a table of recorded answers makes a command idempotent. -/
namespace CluChess

/-- One step reads an input, answers it and moves to the next state. -/
structure Machine (σ ι ο : Type*) where
  step : σ → ι → ο × σ

namespace Machine

variable {σ ι ο : Type*}

structure Event (σ ι ο : Type*) where
  before : σ
  input : ι
  answer : ο
  after : σ

def next (M : Machine σ ι ο) (s : σ) (i : ι) : σ := (M.step s i).2

def run (M : Machine σ ι ο) : σ → List ι → σ
  | s, [] => s
  | s, i :: is => M.run (M.next s i) is

def event (M : Machine σ ι ο) (s : σ) (i : ι) : Event σ ι ο :=
  ⟨s,i,(M.step s i).1,M.next s i⟩

def events (M : Machine σ ι ο) : σ → List ι → List (Event σ ι ο)
  | _, [] => []
  | s, i :: is => M.event s i :: M.events (M.next s i) is

variable (M : Machine σ ι ο)

@[simp] theorem run_nil (s : σ) : M.run s [] = s := rfl
@[simp] theorem run_cons (s : σ) (i : ι) (is : List ι) :
    M.run s (i :: is) = M.run (M.next s i) is := rfl
@[simp] theorem events_nil (s : σ) : M.events s [] = [] := rfl
@[simp] theorem events_cons (s : σ) (i : ι) (is : List ι) :
    M.events s (i :: is) = M.event s i :: M.events (M.next s i) is := rfl

theorem run_append (s : σ) (is js : List ι) : M.run s (is ++ js) = M.run (M.run s is) js := by
  induction is generalizing s with
  | nil => rfl
  | cons i is ih => simp [ih]

theorem events_append (s : σ) (is js : List ι) :
    M.events s (is ++ js) = M.events s is ++ M.events (M.run s is) js := by
  induction is generalizing s with
  | nil => rfl
  | cons i is ih => simp [ih]

theorem map_input_events (s : σ) (is : List ι) : (M.events s is).map Event.input = is := by
  induction is generalizing s with
  | nil => rfl
  | cons i is ih => exact congrArg (i :: ·) (ih (M.next s i))

theorem event_mem_events (s : σ) (is : List ι) (i : ι) :
    M.event (M.run s is) i ∈ M.events s (is ++ [i]) := by
  rw [events_append]
  exact List.mem_append_right _ List.mem_cons_self

theorem run_invariant {P : σ → Prop} {Q : ι → Prop} (h : ∀ s i, Q i → P s → P (M.next s i))
    {s : σ} (hs : P s) {is : List ι} (his : ∀ i ∈ is, Q i) : P (M.run s is) := by
  induction is generalizing s with
  | nil => exact hs
  | cons i is ih =>
    have hi : P (M.next s i) := h s i (his i List.mem_cons_self) hs
    exact ih hi fun j hj => his j (List.mem_cons_of_mem i hj)

/-- What a step keeps under a condition holds after a run whose events all meet the condition. -/
theorem run_of_events {P : σ → Prop} {C : σ → ι → Prop} (h : ∀ s i, C s i → P s → P (M.next s i))
    {s : σ} (hs : P s) {is : List ι} (his : ∀ e ∈ M.events s is, C e.before e.input) :
    P (M.run s is) := by
  induction is generalizing s with
  | nil => exact hs
  | cons i is ih =>
    have hi : P (M.next s i) := h s i (his _ List.mem_cons_self) hs
    exact ih hi fun e he => his e (List.mem_cons_of_mem _ he)

theorem before_of_events {P : σ → Prop} {C : σ → ι → Prop}
    (h : ∀ s i, C s i → P s → P (M.next s i)) {s : σ} (hs : P s) {is : List ι}
    (his : ∀ e ∈ M.events s is, C e.before e.input) {e : Event σ ι ο} (he : e ∈ M.events s is) :
    P e.before := by
  induction is generalizing s with
  | nil => simp at he
  | cons i is ih =>
    rcases List.mem_cons.mp he with rfl | he
    · exact hs
    · have hi : P (M.next s i) := h s i (his _ List.mem_cons_self) hs
      exact ih hi (fun e he => his e (List.mem_cons_of_mem _ he)) he

theorem exists_enters {P : σ → Prop} {s : σ} {is : List ι} (hs : ¬ P s) (hrun : P (M.run s is)) :
    ∃ e ∈ M.events s is, ¬ P e.before ∧ P e.after := by
  induction is generalizing s with
  | nil => exact absurd hrun hs
  | cons i is ih =>
    by_cases hi : P (M.next s i)
    · exact ⟨M.event s i,List.mem_cons_self,hs,hi⟩
    · obtain ⟨e,he,henters⟩ := ih hi hrun
      exact ⟨e,List.mem_cons_of_mem _ he,henters⟩

open Classical in
/-- Events of a kind are at most as many as the potential that every one of them uses up. -/
theorem countP_le_potential {P : σ → Prop} {Q : ι → Prop} {K : Event σ ι ο → Prop}
    (potential : σ → ℕ) (hP : ∀ s i, Q i → P s → P (M.next s i))
    (hK : ∀ s i, Q i → P s →
      (if K (M.event s i) then 1 else 0) + potential (M.next s i) ≤ potential s)
    {s : σ} (hs : P s) {is : List ι} (his : ∀ i ∈ is, Q i) :
    (M.events s is).countP (fun e => decide (K e)) + potential (M.run s is) ≤ potential s := by
  induction is generalizing s with
  | nil => simp
  | cons i is ih =>
    have hi : Q i := his i List.mem_cons_self
    have hrest := ih (hP s i hi hs) fun j hj => his j (List.mem_cons_of_mem i hj)
    have hstep := hK s i hi hs
    rw [events_cons,List.countP_cons,run_cons]
    by_cases hk : K (M.event s i)
    · simp only [hk,if_true,decide_true] at hstep ⊢
      omega
    · simp only [hk,if_false,decide_false,Bool.false_eq_true] at hstep ⊢
      omega

theorem mem_events_split {s : σ} {is : List ι} {e : Event σ ι ο} (he : e ∈ M.events s is) :
    ∃ pre post, is = pre ++ e.input :: post ∧ e = M.event (M.run s pre) e.input := by
  induction is generalizing s with
  | nil => simp at he
  | cons i is ih =>
    rcases List.mem_cons.mp he with rfl | he
    · exact ⟨[],is,rfl,rfl⟩
    · obtain ⟨pre,post,rfl,h⟩ := ih he
      exact ⟨i :: pre,post,rfl,h⟩

theorem mem_events_eq {s : σ} {is : List ι} {e : Event σ ι ο} (he : e ∈ M.events s is) :
    e = M.event e.before e.input := by
  obtain ⟨pre,post,_,h⟩ := M.mem_events_split he
  have hbefore : e.before = M.run s pre := by rw [h]; rfl
  rw [hbefore]
  exact h

/-- What is recorded around an event belongs to the run before it and the run after it. -/
theorem events_split {s : σ} {is : List ι} {before after : List (Event σ ι ο)} {e : Event σ ι ο}
    (h : M.events s is = before ++ e :: after) :
    ∃ pre post, is = pre ++ e.input :: post ∧ e = M.event (M.run s pre) e.input ∧
      before = M.events s pre ∧ after = M.events e.after post := by
  induction before generalizing s is with
  | nil =>
    cases is with
    | nil => cases h
    | cons i is =>
      obtain ⟨rfl,rfl⟩ := List.cons.inj h
      exact ⟨[],is,rfl,rfl,rfl,rfl⟩
  | cons x before ih =>
    cases is with
    | nil => cases h
    | cons i is =>
      obtain ⟨rfl,hrest⟩ := List.cons.inj h
      obtain ⟨pre,post,rfl,he,rfl,hafter⟩ := ih hrest
      exact ⟨i :: pre,post,rfl,he,rfl,hafter⟩

theorem events_invariant {P : σ → Prop} {Q : ι → Prop} (h : ∀ s i, Q i → P s → P (M.next s i))
    {s : σ} (hs : P s) {is : List ι} (his : ∀ i ∈ is, Q i) {e : Event σ ι ο}
    (he : e ∈ M.events s is) : P e.before ∧ Q e.input := by
  obtain ⟨pre,post,rfl,hev⟩ := M.mem_events_split he
  have hbefore : e.before = M.run s pre := by rw [hev]; rfl
  rw [hbefore]
  exact ⟨M.run_invariant h hs fun i hi => his i (List.mem_append_left _ hi),
    his _ (List.mem_append_right _ List.mem_cons_self)⟩

/-- What holds after an event, and is kept by the inputs of a kind, holds in the final state. -/
theorem final_invariant {P : σ → Prop} {Q : ι → Prop} (h : ∀ s i, Q i → P s → P (M.next s i))
    {s : σ} {is : List ι} (his : ∀ i ∈ is, Q i) {e : Event σ ι ο} (he : e ∈ M.events s is)
    (hP : P e.after) : P (M.run s is) := by
  induction is generalizing s with
  | nil => simp at he
  | cons i is ih =>
    have hrest : ∀ j ∈ is, Q j := fun j hj => his j (List.mem_cons_of_mem i hj)
    rcases List.mem_cons.mp he with rfl | he
    · exact M.run_invariant h hP hrest
    · exact ih hrest he

def Stable (P : σ → Prop) : Prop := ∀ s i, P s → P (M.next s i)

variable {M}

theorem Stable.run {P : σ → Prop} (hP : M.Stable P) {s : σ} (hs : P s) (is : List ι) :
    P (M.run s is) := by
  induction is generalizing s with
  | nil => exact hs
  | cons i is ih => exact ih (hP s i hs)

theorem Stable.before {P : σ → Prop} (hP : M.Stable P) {s : σ} (hs : P s) {is : List ι}
    {e : Event σ ι ο} (he : e ∈ M.events s is) : P e.before := by
  obtain ⟨pre,_,_,h⟩ := M.mem_events_split he
  rw [h]
  exact hP.run hs pre

theorem Stable.after {P : σ → Prop} (hP : M.Stable P) {s : σ} (hs : P s) {is : List ι}
    {e : Event σ ι ο} (he : e ∈ M.events s is) : P e.after := by
  obtain ⟨pre,_,_,h⟩ := M.mem_events_split he
  rw [h]
  exact hP _ _ (hP.run hs pre)

theorem Stable.final {P : σ → Prop} (hP : M.Stable P) {s : σ} {is : List ι}
    {e : Event σ ι ο} (he : e ∈ M.events s is) (hs : P e.after) : P (M.run s is) := by
  induction is generalizing s with
  | nil => simp at he
  | cons i is ih =>
    rcases List.mem_cons.mp he with rfl | he
    · exact hP.run hs is
    · exact ih he

theorem Stable.frozen {P : σ → Prop} (hP : M.Stable P) {α : Type*} (f : σ → α)
    (hf : ∀ s i, P s → f (M.next s i) = f s) {s : σ} (hs : P s) (is : List ι) :
    f (M.run s is) = f s := by
  induction is generalizing s with
  | nil => rfl
  | cons i is ih => exact (ih (hP s i hs)).trans (hf s i hs)

/-- The event takes the machine into the set of states where `P` holds. -/
def Event.enters (P : σ → Prop) (e : Event σ ι ο) : Prop := ¬ P e.before ∧ P e.after

open Classical in
theorem Stable.countP_enters_zero {P : σ → Prop} (hP : M.Stable P) {s : σ} (hs : P s)
    (is : List ι) : (M.events s is).countP (fun e => decide (e.enters P)) = 0 := by
  rw [List.countP_eq_zero]
  intro e he h
  exact (of_decide_eq_true h).1 (hP.before hs he)

open Classical in
/-- A stable set is entered at most once in a run. -/
theorem Stable.countP_enters_le_one {P : σ → Prop} (hP : M.Stable P) (s : σ) (is : List ι) :
    (M.events s is).countP (fun e => decide (e.enters P)) ≤ 1 := by
  induction is generalizing s with
  | nil => simp
  | cons i is ih =>
    rw [events_cons,List.countP_cons]
    split
    · rename_i h
      have hafter : P (M.next s i) := (of_decide_eq_true h).2
      simp [hP.countP_enters_zero hafter is]
    · simpa using ih (M.next s i)

open Classical in
theorem Stable.countP_le_one {P : σ → Prop} (hP : M.Stable P) {s : σ} {is : List ι}
    (K : Event σ ι ο → Prop) (hK : ∀ e ∈ M.events s is, K e → e.enters P) :
    (M.events s is).countP (fun e => decide (K e)) ≤ 1 := by
  refine Nat.le_trans ?_ (hP.countP_enters_le_one s is)
  apply List.countP_mono_left
  intro e he h
  exact decide_eq_true (hK e he (of_decide_eq_true h))

section Versioned

/-! A version that identifies what is observed of a state. -/

variable {α : Type*} {I : σ → Prop} {version : σ → ℕ} {view : σ → α}

/-- The version never decreases, and a step that changes the view increases it. -/
structure Versioned (M : Machine σ ι ο) (I : σ → Prop) (version : σ → ℕ) (view : σ → α) :
    Prop where
  inv : M.Stable I
  le : ∀ s i, I s → version s ≤ version (M.next s i)
  lt : ∀ s i, I s → view (M.next s i) ≠ view s → version s < version (M.next s i)

theorem Versioned.run_le (h : Versioned M I version view) {s : σ} (hs : I s) (is : List ι) :
    version s ≤ version (M.run s is) := by
  induction is generalizing s with
  | nil => exact Nat.le_refl _
  | cons i is ih => exact Nat.le_trans (h.le s i hs) (ih (h.inv s i hs))

theorem Versioned.run_eq (h : Versioned M I version view) {s : σ} (hs : I s) {is : List ι}
    (hv : version (M.run s is) = version s) : view (M.run s is) = view s := by
  induction is generalizing s with
  | nil => rfl
  | cons i is ih =>
    have hnext := h.inv s i hs
    have hle := h.le s i hs
    have hrest : version (M.next s i) ≤ version (M.run (M.next s i) is) := h.run_le hnext is
    rw [run_cons] at hv ⊢
    have hsame : view (M.next s i) = view s := by
      by_contra hne
      have hlt := h.lt s i hs hne
      omega
    exact (ih hnext (by omega)).trans hsame

theorem Versioned.agree (h : Versioned M I version view) {s : σ} {is : List ι} {m n : ℕ}
    (hm : I (M.run s (is.take m))) (hn : I (M.run s (is.take n)))
    (hv : version (M.run s (is.take m)) = version (M.run s (is.take n))) :
    view (M.run s (is.take m)) = view (M.run s (is.take n)) := by
  have hlater : ∀ {m n : ℕ}, m ≤ n → I (M.run s (is.take m)) →
      version (M.run s (is.take n)) = version (M.run s (is.take m)) →
      view (M.run s (is.take n)) = view (M.run s (is.take m)) := by
    intro m n hle hI hv
    have hsplit : is.take n = is.take m ++ (is.take n).drop m := by
      have happend := List.take_append_drop m (is.take n)
      rw [List.take_take,Nat.min_eq_left hle] at happend
      exact happend.symm
    rw [hsplit,run_append] at hv ⊢
    exact h.run_eq hI hv
  rcases Nat.le_total m n with hle | hle
  · exact (hlater hle hm hv.symm).symm
  · exact hlater hle hn hv

end Versioned

section Recorded

/-! A command whose first execution records its answer under a key. `record` reads the
table, `reply` says which key an event answers, with what, and whether from the table. -/

variable {κ ρ : Type*} {I : σ → Prop} {record : σ → κ → Option ρ}
  {reply : Event σ ι ο → Option (κ × ρ × Bool)}

/-- A record is never altered, an answer is the one recorded, and an answer that is not
a duplicate belongs to the step that made the record. -/
structure Recorded (M : Machine σ ι ο) (I : σ → Prop) (record : σ → κ → Option ρ)
    (reply : Event σ ι ο → Option (κ × ρ × Bool)) : Prop where
  inv : M.Stable I
  keep : ∀ s i k r, I s → record s k = some r → record (M.next s i) k = some r
  answered : ∀ s i k r d, I s → reply (M.event s i) = some (k,r,d) →
    record (M.next s i) k = some r
  fresh : ∀ s i k r, I s → reply (M.event s i) = some (k,r,false) → record s k = none

theorem Recorded.stable (h : Recorded M I record reply) (k : κ) (r : ρ) :
    M.Stable (fun s => I s ∧ record s k = some r) :=
  fun s i hs => ⟨h.inv s i hs.1,h.keep s i k r hs.1 hs.2⟩

theorem Recorded.reply_final (h : Recorded M I record reply) {s : σ} (hs : I s) {is : List ι}
    {e : Event σ ι ο} (he : e ∈ M.events s is) {k : κ} {r : ρ} {d : Bool}
    (hr : reply e = some (k,r,d)) : record (M.run s is) k = some r := by
  have hI : I e.before := h.inv.before hs he
  obtain ⟨pre,_,_,hev⟩ := M.mem_events_split he
  have hbefore : e.before = M.run s pre := by rw [hev]; rfl
  have hrec : record e.after k = some r := by
    have hafter : e.after = M.next (M.run s pre) e.input := by rw [hev]; rfl
    rw [hafter]
    exact h.answered _ _ k r d (hbefore ▸ hI) (hev ▸ hr)
  exact ((h.stable k r).final he ⟨h.inv.after hs he,hrec⟩).2

theorem Recorded.replies_agree (h : Recorded M I record reply) {s : σ} (hs : I s)
    {is : List ι} {e e' : Event σ ι ο} (he : e ∈ M.events s is) (he' : e' ∈ M.events s is)
    {k : κ} {r r' : ρ} {d d' : Bool} (hr : reply e = some (k,r,d))
    (hr' : reply e' = some (k,r',d')) : r = r' := by
  have h₁ := h.reply_final hs he hr
  have h₂ := h.reply_final hs he' hr'
  exact Option.some.inj (h₁.symm.trans h₂)

open Classical in
theorem Recorded.fresh_once (h : Recorded M I record reply) {s : σ} (hs : I s)
    (is : List ι) (k : κ) :
    (M.events s is).countP (fun e => decide (∃ r, reply e = some (k,r,false))) ≤ 1 := by
  have hstable : M.Stable (fun s => I s ∧ record s k ≠ none) := by
    intro t i ht
    obtain ⟨r,hr⟩ := Option.ne_none_iff_exists'.mp ht.2
    exact ⟨h.inv t i ht.1,by rw [h.keep t i k r ht.1 hr]; simp⟩
  refine hstable.countP_le_one _ ?_
  rintro e he ⟨r,hr⟩
  have hI := h.inv.before hs he
  obtain ⟨pre,_,_,hev⟩ := M.mem_events_split he
  rw [hev] at hr ⊢
  rw [hev] at hI
  refine ⟨fun hb => hb.2 (h.fresh _ _ k r hI hr),h.inv _ _ hI,?_⟩
  have hrec := h.answered _ _ k r false hI hr
  intro hnone
  exact Option.some_ne_none r (hrec.symm.trans hnone)

end Recorded

section Pairs

/-! Two runs of one machine, side by side. -/

/-- Two copies of a machine, each with its own state and its own inputs. -/
def pair (M : Machine σ ι ο) : Machine (σ × σ) (ι × ι) (ο × ο) where
  step s i := (((M.step s.1 i.1).1,(M.step s.2 i.2).1),(M.next s.1 i.1,M.next s.2 i.2))

/-- Runs that start together stay together while no pair of inputs tells them apart. -/
theorem pair_together {C : σ → ι × ι → Prop} {A : Event σ ι ο → Event σ ι ο → Prop}
    (h : ∀ s p, C s p → M.next s p.1 = M.next s p.2 ∧ A (M.event s p.1) (M.event s p.2))
    {s : σ} {ps : List (ι × ι)} (hps : ∀ e ∈ M.pair.events (s,s) ps, C e.before.1 e.input) :
    M.run s (ps.map Prod.fst) = M.run s (ps.map Prod.snd) ∧
      List.Forall₂ A (M.events s (ps.map Prod.fst)) (M.events s (ps.map Prod.snd)) := by
  induction ps generalizing s with
  | nil => exact ⟨rfl,.nil⟩
  | cons p ps ih =>
    obtain ⟨hnext,hanswer⟩ := h s p (hps _ List.mem_cons_self)
    have hpair : M.pair.next (s,s) p = (M.next s p.1,M.next s p.1) := by
      show (M.next s p.1,M.next s p.2) = _
      rw [hnext]
    have hrest : ∀ e ∈ M.pair.events (M.next s p.1,M.next s p.1) ps, C e.before.1 e.input := by
      intro e he
      apply hps
      rw [events_cons,hpair]
      exact List.mem_cons_of_mem _ he
    obtain ⟨hrun,hevents⟩ := ih hrest
    simp only [List.map_cons,run_cons,events_cons]
    rw [← hnext]
    exact ⟨hrun,.cons hanswer hevents⟩

end Pairs

section Passing

/-! A machine that passes some of its inputs on to another machine over the same states, and leaves
the state as it is on the others. -/

variable {κ π : Type*} {Q : ι → Prop}

/-- The runs are those of the other machine on what is passed on. -/
theorem run_passing (N : Machine σ κ π) (passed : ι → Option κ) {A : Event σ ι ο → Event σ κ π → Prop}
    (hskip : ∀ s i, Q i → passed i = none → M.next s i = s)
    (hpass : ∀ s i k, Q i → passed i = some k →
      M.next s i = N.next s k ∧ A (M.event s i) (N.event s k))
    {s : σ} {is : List ι} (his : ∀ i ∈ is, Q i) :
    M.run s is = N.run s (is.filterMap passed) ∧
      List.Forall₂ A ((M.events s is).filter fun e => (passed e.input).isSome)
        (N.events s (is.filterMap passed)) := by
  induction is generalizing s with
  | nil => exact ⟨rfl,.nil⟩
  | cons i is ih =>
    have hi := his i List.mem_cons_self
    obtain ⟨hrun,hevents⟩ := ih (s := M.next s i) fun j hj => his j (List.mem_cons_of_mem i hj)
    cases hk : passed i with
    | none =>
      have hsome : (passed (M.event s i).input).isSome = false := by
        rw [event,hk]
        rfl
      rw [hskip s i hi hk] at hrun hevents
      rw [run_cons,events_cons,List.filterMap_cons_none hk,List.filter_cons,hsome,hskip s i hi hk]
      exact ⟨hrun,hevents⟩
    | some k =>
      have hsome : (passed (M.event s i).input).isSome = true := by
        rw [event,hk]
        rfl
      obtain ⟨hnext,hanswer⟩ := hpass s i k hi hk
      rw [hnext] at hrun hevents
      rw [run_cons,events_cons,List.filterMap_cons_some hk,List.filter_cons,hsome,hnext]
      exact ⟨hrun,.cons hanswer hevents⟩

end Passing

end Machine
end CluChess
