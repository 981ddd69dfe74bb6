import Mathlib.Init

/-! Actions on a state that may fail, and what they keep: a property of the state, however the
action ends, and a property of the errors it may end with. What an action has done before an error
stays done. Nothing here depends on what the states and the errors are. -/
namespace CluChess

/-- An action on a state of type `σ`, which answers or fails. -/
abbrev Action (σ ε : Type) := ExceptT ε (StateM σ)

namespace Action

variable {σ ε α β : Type}

def of (f : σ → Except ε α × σ) : Action σ ε α := f

/-- Run an action, for its answer and the state it leaves. -/
def exec (a : Action σ ε α) (s : σ) : Except ε α × σ := a s

/-- Both actions are made, whatever becomes of them, and the first error is thrown. -/
def both (a : Action σ ε α) (b : Action σ ε β) : Action σ ε (α × β) :=
  of fun s =>
    let x := a.exec s
    let y := b.exec x.2
    (do return (← x.1,← y.1),y.2)

/-- An action on a part of the state. -/
def within {τ : Type} (part : σ → τ) (put : τ → σ → σ) (a : Action τ ε α) : Action σ ε α :=
  of fun s => ((a.exec (part s)).1,put (a.exec (part s)).2 s)

/-- One action for each of a list, in order, up to the first that fails. -/
def each (f : α → Action σ ε Unit) : List α → Action σ ε Unit
  | [] => pure ()
  | x :: xs => f x >>= fun _ => each f xs

/-- From a state with `P` the action ends in one with `P`, and an error that it throws has `E`. -/
def Keeps (P : σ → Prop) (E : ε → Prop) (a : Action σ ε α) : Prop :=
  ∀ s, P s → P (a.exec s).2 ∧ ∀ e, (a.exec s).1 = .error e → E e

/-! ### How actions run -/

theorem mapError_eq_error {ε' : Type} {f : ε' → ε} {answer : Except ε' α} {e : ε}
    (h : answer.mapError f = .error e) : ∃ e', answer = .error e' ∧ f e' = e := by
  cases answer with
  | error e' => exact ⟨e',rfl,Except.error.inj h⟩
  | ok x => cases h

theorem exec_bind (a : Action σ ε α) (f : α → Action σ ε β) (s : σ) : (a >>= f).exec s =
    match a.exec s with
    | (.ok x,s') => (f x).exec s'
    | (.error e,s') => (.error e,s') := by
  change ExceptT.bindCont f (a s).1 (a s).2 = _
  unfold exec
  obtain ⟨answer,s'⟩ := a s
  cases answer <;> rfl

/-- A sequence that answers has gone through both of its actions. -/
theorem exec_bind_ok {a : Action σ ε α} {f : α → Action σ ε β} {s s' : σ} {y : β}
    (h : (a >>= f).exec s = (.ok y,s')) :
    ∃ x s'', a.exec s = (.ok x,s'') ∧ (f x).exec s'' = (.ok y,s') := by
  rw [exec_bind] at h
  split at h
  · rename_i x s'' ha
    exact ⟨x,s'',ha,h⟩
  · cases h

theorem exec_catch (a : Action σ ε α) (handler : ε → Action σ ε α) (s : σ) :
    (tryCatch a handler).exec s =
      match a.exec s with
      | (.ok x,s') => (.ok x,s')
      | (.error e,s') => (handler e).exec s' := by
  change (match (a s).1 with | .ok x => pure (.ok x) | .error e => handler e : StateM σ _)
    (a s).2 = _
  unfold exec
  obtain ⟨answer,s'⟩ := a s
  cases answer <;> rfl

/-! ### What they keep -/

variable {P : σ → Prop} {E : ε → Prop} {a : Action σ ε α} {b : Action σ ε β}

theorem keeps_pure (x : α) : Keeps P E (pure x : Action σ ε α) :=
  fun _ hs => ⟨hs,fun _ h => (by cases h)⟩

theorem keeps_throw {e : ε} (h : E e) : Keeps P E (throw e : Action σ ε α) :=
  fun _ hs => ⟨hs,fun _ he => (by cases he; exact h)⟩

theorem keeps_get : Keeps P E (get : Action σ ε σ) := fun _ hs => ⟨hs,fun _ h => (by cases h)⟩

theorem keeps_modify {f : σ → σ} (h : ∀ s, P s → P (f s)) :
    Keeps P E (modify f : Action σ ε PUnit) :=
  fun s hs => ⟨h s hs,fun _ h => (by cases h)⟩

theorem Keeps.bind {f : α → Action σ ε β} (ha : Keeps P E a) (hf : ∀ x, Keeps P E (f x)) :
    Keeps P E (a >>= f) := by
  intro s hs
  have hkept := ha s hs
  rw [exec_bind]
  generalize a.exec s = ended at hkept
  obtain ⟨answer,s'⟩ := ended
  obtain ⟨hstate,herror⟩ := hkept
  cases answer with
  | ok x => exact hf x s' hstate
  | error e => exact ⟨hstate,fun _ he => (by cases he; exact herror e rfl)⟩

theorem Keeps.catch {handler : ε → Action σ ε α} (ha : Keeps P E a)
    (hhandler : ∀ e, E e → Keeps P E (handler e)) : Keeps P E (tryCatch a handler) := by
  intro s hs
  have hkept := ha s hs
  rw [exec_catch]
  generalize a.exec s = ended at hkept
  obtain ⟨answer,s'⟩ := ended
  obtain ⟨hstate,herror⟩ := hkept
  cases answer with
  | ok x => exact ⟨hstate,fun _ he => (by cases he)⟩
  | error e => exact hhandler e (herror e rfl) s' hstate

theorem Keeps.both (ha : Keeps P E a) (hb : Keeps P E b) : Keeps P E (both a b) := by
  intro s hs
  obtain ⟨hstate,hfirst⟩ := ha s hs
  obtain ⟨hstate,hsecond⟩ := hb _ hstate
  refine ⟨hstate,fun e he => ?_⟩
  change (do return (← (a.exec s).1,← (b.exec (a.exec s).2).1) : Except ε (α × β)) = .error e at he
  cases hx : (a.exec s).1 with
  | error e' =>
    rw [hx] at he
    cases he
    exact hfirst e hx
  | ok x =>
    cases hy : (b.exec (a.exec s).2).1 with
    | error e' =>
      rw [hx,hy] at he
      cases he
      exact hsecond e hy
    | ok y =>
      rw [hx,hy] at he
      cases he

theorem Keeps.within {τ : Type} {Q : τ → Prop} {a : Action τ ε α} {part : σ → τ}
    {put : τ → σ → σ} (ha : Keeps Q E a) (hpart : ∀ s, P s → Q (part s))
    (hput : ∀ s x, P s → Q x → P (put x s)) : Keeps P E (a.within part put) :=
  fun s hs => ⟨hput s _ hs (ha _ (hpart s hs)).1,(ha _ (hpart s hs)).2⟩

theorem keeps_each {f : α → Action σ ε Unit} (h : ∀ x, Keeps P E (f x)) :
    ∀ xs, Keeps P E (each f xs)
  | [] => keeps_pure ()
  | x :: xs => (h x).bind fun _ => keeps_each h xs

end Action

end CluChess
