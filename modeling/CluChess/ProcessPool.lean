import Mathlib.Data.Multiset.AddSub
import Mathlib.Logic.Relation

/-! Interleavings of processes over one shared state. A process is known by its local
state; a step of the pool lets one process take its next atomic step, which may leave
further processes behind, or lets the environment change the shared state and start
processes. The module also provides the argument by obligation: if every inconsistency
of the shared state has a process in the pool that will cure it, there is none left
once the pool is empty. -/
namespace CluChess

/-- The atomic steps of the processes (`step`) and of their environment (`env`). The
multiset is what the step leaves in the pool. -/
structure System (σ τ : Type*) where
  env : σ → σ → Multiset τ → Prop
  step : τ → σ → σ → Multiset τ → Prop

namespace System

variable {σ τ : Type*}

inductive Step (S : System σ τ) (C : τ → σ → Multiset τ → Prop) :
    σ × Multiset τ → σ × Multiset τ → Prop
  | env {s s' : σ} {new pool : Multiset τ} :
      S.env s s' new → Step S C (s,pool) (s',new + pool)
  | process {t : τ} {s s' : σ} {new pool : Multiset τ} :
      S.step t s s' new → C t s pool → Step S C (s,t ::ₘ pool) (s',new + pool)

def Run (S : System σ τ) (C : τ → σ → Multiset τ → Prop) :
    σ × Multiset τ → σ × Multiset τ → Prop := Relation.ReflTransGen (S.Step C)

def anyTime : τ → σ → Multiset τ → Prop := fun _ _ _ => True

variable {S : System σ τ} {C : τ → σ → Multiset τ → Prop}

theorem Run.env {c : σ × Multiset τ} {s s' : σ} {new pool pool' : Multiset τ}
    (h : S.Run C c (s,pool)) (he : S.env s s' new) (hpool : new + pool = pool') :
    S.Run C c (s',pool') := hpool ▸ h.tail (.env he)

theorem Run.process {c : σ × Multiset τ} {t : τ} {s s' : σ} {new pool rest pool' : Multiset τ}
    (h : S.Run C c (s,pool)) (hp : S.step t s s' new) (ht : pool = t ::ₘ rest) (hC : C t s rest)
    (hpool : new + rest = pool') : S.Run C c (s',pool') := by
  subst ht hpool
  exact h.tail (.process hp hC)

theorem Run.alone {c : σ × Multiset τ} {t : τ} {s s' : σ} {new : Multiset τ}
    (h : S.Run C c (s,{t})) (hp : S.step t s s' new) (hC : C t s 0) : S.Run C c (s',new) :=
  h.process hp rfl hC (Multiset.add_zero new)

theorem Run.invariant {I : σ → Multiset τ → Prop} {c c' : σ × Multiset τ} (h : S.Run C c c')
    (henv : ∀ s s' new pool, S.env s s' new → I s pool → I s' (new + pool))
    (hstep : ∀ t s s' new pool, S.step t s s' new → C t s pool → I s (t ::ₘ pool) →
      I s' (new + pool)) (hc : I c.1 c.2) : I c'.1 c'.2 := by
  induction h with
  | refl => exact hc
  | tail _ hs ih =>
    cases hs with
    | env he => exact henv _ _ _ _ he ih
    | process hp hC => exact hstep _ _ _ _ _ hp hC ih

/-- What a process remembers was true of a state on the way, if a process only remembers what
is true when it starts, what is true at its step, or what the process it continues remembered. -/
theorem Run.remembered {α : Type*} {P : α → σ → Prop} {remembers : α → τ → Prop}
    {c c' : σ × Multiset τ} (h : S.Run C c c')
    (henv : ∀ s s' new, S.env s s' new → ∀ t ∈ new, ∀ x, ¬ remembers x t)
    (hstep : ∀ t s s' new, S.step t s s' new → ∀ t' ∈ new, ∀ x, remembers x t' →
      remembers x t ∨ P x s)
    (hc : ∀ t ∈ c.2, ∀ x, ¬ remembers x t) :
    ∀ t ∈ c'.2, ∀ x, remembers x t → ∃ m, S.Run C c m ∧ S.Run C m c' ∧ P x m.1 := by
  induction h with
  | refl => exact fun t ht x hx => absurd hx (hc t ht x)
  | tail hrun hs ih =>
    have hlater : ∀ t ∈ _, ∀ x, remembers x t → ∃ m, S.Run C c m ∧ S.Run C m _ ∧ P x m.1 :=
      fun t ht x hx => by
        obtain ⟨m,hm,hm',hp⟩ := ih t ht x hx
        exact ⟨m,hm,hm'.tail hs,hp⟩
    intro t' ht' x hx
    cases hs with
    | env he =>
      rcases Multiset.mem_add.mp ht' with hnew | hpool
      · exact absurd hx (henv _ _ _ he t' hnew x)
      · exact hlater t' hpool x hx
    | @process t s s' new pool hp hC =>
      rcases Multiset.mem_add.mp ht' with hnew | hpool
      · rcases hstep t s s' new hp t' hnew x hx with hx | hx
        · exact hlater t (Multiset.mem_cons_self t pool) x hx
        · exact ⟨_,hrun,Relation.ReflTransGen.single (.process hp hC),hx⟩
      · exact hlater t' (Multiset.mem_cons_of_mem hpool) x hx

section Obligations

variable {α : Type*} {I : σ → Multiset τ → Prop} {bad : α → σ → Prop} {cures : α → τ → Prop}

/-- Every inconsistency has a process in the pool that will cure it. -/
def Covered (bad : α → σ → Prop) (cures : α → τ → Prop) (s : σ) (pool : Multiset τ) : Prop :=
  ∀ x, bad x s → ∃ t ∈ pool, cures x t

theorem Covered.quiescent {s : σ} (h : Covered bad cures s 0) (x : α) : ¬ bad x s := by
  intro hx
  obtain ⟨t,ht,_⟩ := h x hx
  exact Multiset.notMem_zero t ht

def EnvCovers (S : System σ τ) (I : σ → Multiset τ → Prop) (bad : α → σ → Prop)
    (cures : α → τ → Prop) : Prop :=
  ∀ s s' new pool, S.env s s' new → I s pool → ∀ x, bad x s' → bad x s ∨ ∃ t ∈ new, cures x t

/-- What a process must do: whatever is inconsistent after its step was so before and was
not its own to cure, or has a process left in the pool. -/
def StepCovers (S : System σ τ) (C : τ → σ → Multiset τ → Prop) (I : σ → Multiset τ → Prop)
    (bad : α → σ → Prop) (cures : α → τ → Prop) : Prop :=
  ∀ t s s' new pool, S.step t s s' new → C t s pool → I s (t ::ₘ pool) → ∀ x, bad x s' →
    (bad x s ∧ ¬ cures x t) ∨ ∃ t' ∈ new + pool, cures x t'

theorem Run.covered {c c' : σ × Multiset τ} (h : S.Run C c c')
    (hIenv : ∀ s s' new pool, S.env s s' new → I s pool → I s' (new + pool))
    (hIstep : ∀ t s s' new pool, S.step t s s' new → C t s pool → I s (t ::ₘ pool) →
      I s' (new + pool))
    (henv : EnvCovers S I bad cures) (hstep : StepCovers S C I bad cures)
    (hI : I c.1 c.2) (hc : Covered bad cures c.1 c.2) :
    I c'.1 c'.2 ∧ Covered bad cures c'.1 c'.2 := by
  refine h.invariant (I := fun s pool => I s pool ∧ Covered bad cures s pool) ?_ ?_ ⟨hI,hc⟩
  · rintro s s' new pool he ⟨hi,hcov⟩
    refine ⟨hIenv _ _ _ _ he hi,fun x hx => ?_⟩
    rcases henv s s' new pool he hi x hx with hb | ⟨t,ht,hcure⟩
    · obtain ⟨t,ht,hcure⟩ := hcov x hb
      exact ⟨t,Multiset.mem_add.mpr (Or.inr ht),hcure⟩
    · exact ⟨t,Multiset.mem_add.mpr (Or.inl ht),hcure⟩
  · rintro t s s' new pool hs hC ⟨hi,hcov⟩
    refine ⟨hIstep _ _ _ _ _ hs hC hi,fun x hx => ?_⟩
    rcases hstep t s s' new pool hs hC hi x hx with ⟨hb,hn⟩ | hleft
    · obtain ⟨t',ht',hcure⟩ := hcov x hb
      rcases Multiset.mem_cons.mp ht' with rfl | ht'
      · exact absurd hcure hn
      · exact ⟨t',Multiset.mem_add.mpr (Or.inr ht'),hcure⟩
    · exact hleft

end Obligations

end System
end CluChess
