import CluChess.AnsweringMachine
import Mathlib.Data.List.MinMax

/-! Processes that take their locks in one order, and machines that are scheduled in rounds. Whoever
wants the last lock is granted it, so some process can move; and where some input of every round
makes progress, enough rounds complete the work. Nothing here depends on what the locks or the
machines are. -/
namespace CluChess

/-- The locks that a process holds, and the one that it wants. -/
structure LockUse (α : Type*) where
  held : List α
  wants : Option α

namespace LockUse

variable {α : Type*} [LinearOrder α]

def InOrder (p : LockUse α) : Prop := ∀ lock ∈ p.wants, ∀ other ∈ p.held, other < lock

def last (p : LockUse α) : WithBot α := p.wants.elim ⊥ fun lock => lock

theorem exists_granted {ps : List (LockUse α)} (hne : ps ≠ []) (h : ∀ p ∈ ps, p.InOrder) :
    ∃ p ∈ ps, ∀ lock ∈ p.wants, ∀ q ∈ ps, lock ∉ q.held := by
  by_cases hnone : ∃ p ∈ ps, p.wants = none
  · obtain ⟨p,hp,hwants⟩ := hnone
    exact ⟨p,hp,by simp [hwants]⟩
  · have hmax : List.argmax last ps ≠ none := mt List.argmax_eq_none.mp hne
    obtain ⟨p,hp⟩ := Option.ne_none_iff_exists'.mp hmax
    refine ⟨p,List.argmax_mem hp,fun lock hlock q hq hheld => ?_⟩
    -- Whoever holds the lock wants a later one, against the choice of `p`.
    cases hwants : q.wants with
    | none => exact hnone ⟨q,hq,hwants⟩
    | some later =>
      have hlater : lock < later := h q hq later hwants lock hheld
      have hle : q.last ≤ p.last := List.le_of_mem_argmax hq hp
      rw [last,last,hwants,Option.mem_def.mp hlock] at hle
      exact absurd (WithBot.coe_le_coe.mp hle) (not_le.mpr hlater)

end LockUse

namespace Machine

variable {σ ι ο α : Type*} (M : Machine σ ι ο) {P : σ → Prop} {Q : ι → Prop} {work : σ → ℕ}
  {view : σ → α}

/-- Work is left that was there before, or less of it. -/
def NoWorse (work : σ → ℕ) (view : σ → α) (s s' : σ) : Prop :=
  work s' < work s ∨ work s' = work s ∧ view s' = view s

theorem NoWorse.trans {s s' s'' : σ} (h : NoWorse work view s s') (h' : NoWorse work view s' s'') :
    NoWorse work view s s'' := by
  rcases h with hlt | ⟨heq,hview⟩
  · rcases h' with hlt' | ⟨heq',_⟩
    · exact Or.inl (hlt'.trans hlt)
    · exact Or.inl (heq'.le.trans_lt hlt)
  · rcases h' with hlt' | ⟨heq',hview'⟩
    · exact Or.inl (hlt'.trans_le heq.le)
    · exact Or.inr ⟨heq'.trans heq,hview'.trans hview⟩

theorem run_noWorse (h : ∀ s i, Q i → P s → P (M.next s i) ∧ NoWorse work view s (M.next s i))
    {s : σ} (hs : P s) {is : List ι} (his : ∀ i ∈ is, Q i) :
    P (M.run s is) ∧ NoWorse work view s (M.run s is) := by
  induction is generalizing s with
  | nil => exact ⟨hs,Or.inr ⟨rfl,rfl⟩⟩
  | cons i is ih =>
    obtain ⟨hnext,hi⟩ := h s i (his i List.mem_cons_self) hs
    obtain ⟨hrun,hrest⟩ := ih hnext fun j hj => his j (List.mem_cons_of_mem i hj)
    exact ⟨hrun,hi.trans hrest⟩

/-- An input that makes progress as long as nothing else has. -/
def Urgent (P : σ → Prop) (work : σ → ℕ) (view : σ → α) (s : σ) (i : ι) : Prop :=
  ∀ s', P s' → view s' = view s → work (M.next s' i) < work s'

theorem run_round (h : ∀ s i, Q i → P s → P (M.next s i) ∧ NoWorse work view s (M.next s i))
    {s : σ} (hs : P s) {round : List ι} (hround : ∀ i ∈ round, Q i) {i : ι} (hi : i ∈ round)
    (hu : M.Urgent P work view s i) : work (M.run s round) < work s := by
  obtain ⟨pre,post,rfl⟩ := List.append_of_mem hi
  rw [run_append,run_cons]
  obtain ⟨hpre,hbefore⟩ := M.run_noWorse h hs fun j hj => hround j (List.mem_append_left _ hj)
  obtain ⟨hmid,hstep⟩ := h _ i (hround i hi) hpre
  obtain ⟨_,hafter⟩ := M.run_noWorse h hmid fun j hj =>
    hround j (List.mem_append_right _ (List.mem_cons_of_mem i hj))
  have hle : ∀ {a b : σ}, NoWorse work view a b → work b ≤ work a := fun hab =>
    hab.elim le_of_lt fun heq => heq.1.le
  rcases hbefore with hlt | ⟨heq,hview⟩
  · exact (hle (hstep.trans hafter)).trans_lt hlt
  · have hprogress := hu _ hpre hview
    exact (hle hafter).trans_lt (hprogress.trans_eq heq)

theorem run_rounds (h : ∀ s i, Q i → P s → P (M.next s i) ∧ NoWorse work view s (M.next s i))
    {s : σ} (hs : P s) {rounds : List (List ι)} (hrounds : ∀ round ∈ rounds, ∀ i ∈ round, Q i)
    (hurgent : ∀ round ∈ rounds, ∀ s, P s → work s ≠ 0 → ∃ i ∈ round, M.Urgent P work view s i)
    (hlength : work s ≤ rounds.length) : work (M.run s rounds.flatten) = 0 := by
  induction rounds generalizing s with
  | nil => exact Nat.le_zero.mp hlength
  | cons round rounds ih =>
    rw [List.flatten_cons,run_append]
    have hround := hrounds round List.mem_cons_self
    obtain ⟨hrun,hworse⟩ := M.run_noWorse h hs hround
    refine ih hrun (fun r hr => hrounds r (List.mem_cons_of_mem _ hr))
      (fun r hr => hurgent r (List.mem_cons_of_mem _ hr)) ?_
    rw [List.length_cons] at hlength
    by_cases hzero : work s = 0
    · have hle : work (M.run s round) ≤ work s := hworse.elim le_of_lt fun heq => heq.1.le
      omega
    · obtain ⟨i,hi,hu⟩ := hurgent round List.mem_cons_self s hs hzero
      have hlt := M.run_round h hs hround hi hu
      omega

end Machine

end CluChess
