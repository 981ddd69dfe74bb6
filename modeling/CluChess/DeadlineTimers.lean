import Mathlib.Data.List.Nodup
import Mathlib.Data.List.Perm.Basic
import CluChess.AnsweringMachine
import CluChess.GameDomain

/-! `GameDeadlineService`: the timers of the games. Scheduling a game, adjudicating one and the
sweep suspend where they await the lifecycle, and everything else may run there. -/
namespace CluChess

def maxTimerDelayMs : Millis := 2147483647

structure DeadlineTimer where
  gameId : GameId
  generation : ℕ
  delay : Millis
  deriving DecidableEq, Repr

/-- A suspended call: `scheduleGame`, `adjudicateAndReschedule` or `runSweep`. The first two carry
the games that the sweep awaiting them has left. -/
inductive DeadlineTask
  | schedule (gameId : GameId) (generation : ℕ) (minimumDelayMs : Millis)
      (sweep : Option (List GameId))
  | adjudicate (gameId : GameId) (sweep : Option (List GameId))
  | findDue
  | nextDue (gameIds : List GameId)
  deriving DecidableEq, Repr

inductive DeadlineSettled
  | deadline (deadline : Option Millis) (now : Millis)
  | adjudicated (terminal : Bool)
  | due (gameIds : List GameId)
  | resumed
  | failed
  deriving DecidableEq, Repr

/-- What a step does: calls of `scheduleGame`, with their generation, and of `cancel`, timers that
are armed, and calls of the adjudication by a firing of a generation or by the sweep. -/
inductive DeadlineAction
  | scheduled (gameId : GameId) (generation : ℕ)
  | cancelled (gameId : GameId)
  | armed (timer : DeadlineTimer)
  | adjudicated (gameId : GameId) (firing : Option ℕ)
  deriving DecidableEq, Repr

/-- The service with the timers of Node, and the calls that are suspended. A timer that has been
cleared is kept: its callback may already be due. -/
structure DeadlineService where
  generations : GameId → Option ℕ
  timers : GameId → Option DeadlineTimer
  runningSweep : Bool
  armed : List DeadlineTimer
  cleared : List DeadlineTimer
  tasks : List DeadlineTask

inductive DeadlineEvent
  | scheduleGame (gameId : GameId) (minimumDelayMs : Millis)
  | cancel (gameId : GameId)
  | fire (timer : DeadlineTimer)
  | runSweep
  | settle (index : ℕ) (settled : DeadlineSettled)

namespace DeadlineService

def initial : DeadlineService := ⟨fun _ => none,fun _ => none,false,[],[],[]⟩

def await (s : DeadlineService) (task : DeadlineTask) : DeadlineService :=
  { s with tasks := s.tasks ++ [task] }

def clearTimer (s : DeadlineService) (gameId : GameId) : DeadlineService :=
  match s.timers gameId with
  | none => s
  | some timer => { s with
      armed := s.armed.filter fun t => decide (t ≠ timer)
      cleared := s.cleared ++ [timer]
      timers := Function.update s.timers gameId none }

def nextGeneration (s : DeadlineService) (gameId : GameId) : ℕ :=
  (s.generations gameId).getD 0 + 1

/-- The lines that `scheduleGame` and `cancel` begin with. -/
def supersede (s : DeadlineService) (gameId : GameId) : DeadlineService :=
  { s with generations := Function.update s.generations gameId (some (s.nextGeneration gameId)) }
    |>.clearTimer gameId

def scheduleGame (s : DeadlineService) (gameId : GameId) (minimumDelayMs : Millis)
    (sweep : Option (List GameId)) : List DeadlineAction × DeadlineService :=
  ([.scheduled gameId (s.nextGeneration gameId)],
    (s.supersede gameId).await
      (.schedule gameId (s.nextGeneration gameId) minimumDelayMs sweep))

def cancel (s : DeadlineService) (gameId : GameId) : List DeadlineAction × DeadlineService :=
  ([.cancelled gameId],s.supersede gameId)

def adjudicateAndReschedule (s : DeadlineService) (gameId : GameId) (firing : Option ℕ)
    (sweep : Option (List GameId)) : List DeadlineAction × DeadlineService :=
  ([.adjudicated gameId firing],s.await (.adjudicate gameId sweep))

def fire (s : DeadlineService) (gameId : GameId) (generation : ℕ) :
    List DeadlineAction × DeadlineService :=
  if s.generations gameId ≠ some generation then ([],s)
  else { s with timers := Function.update s.timers gameId none }.adjudicateAndReschedule gameId
    (some generation) none

def runSweep (s : DeadlineService) : List DeadlineAction × DeadlineService :=
  if s.runningSweep then ([],s) else ([],{ s with runningSweep := true }.await .findDue)

/-- The loop of the sweep. -/
def sweepNext (s : DeadlineService) : List GameId → List DeadlineAction × DeadlineService
  | [] => ([],{ s with runningSweep := false })
  | gameId :: gameIds => s.adjudicateAndReschedule gameId none (some gameIds)

/-- The end of a call that the sweep may be waiting for. -/
def returnTo (s : DeadlineService) : Option (List GameId) → DeadlineService
  | none => s
  | some gameIds => s.await (.nextDue gameIds)

def arm (s : DeadlineService) (timer : DeadlineTimer) : DeadlineService :=
  { s with
    armed := s.armed ++ [timer]
    timers := Function.update s.timers timer.gameId (some timer) }

def resume (intervalMs : Millis) (s : DeadlineService) :
    DeadlineTask → DeadlineSettled → Option (List DeadlineAction × DeadlineService)
  | .schedule _ _ _ sweep,.deadline none _ => some ([],s.returnTo sweep)
  | .schedule gameId generation minimumDelayMs sweep,.deadline (some deadline) now =>
    if s.generations gameId ≠ some generation then some ([],s.returnTo sweep)
    else
      let timer := ⟨gameId,generation,
        min maxTimerDelayMs (max minimumDelayMs (deadline - now))⟩
      some ([.armed timer],(s.arm timer).returnTo sweep)
  | .schedule _ _ _ sweep,.failed => some ([],s.returnTo sweep)
  | .adjudicate gameId sweep,.adjudicated true =>
    some ((s.cancel gameId).1,(s.cancel gameId).2.returnTo sweep)
  | .adjudicate gameId sweep,.adjudicated false => some (s.scheduleGame gameId intervalMs sweep)
  | .adjudicate gameId sweep,.failed => some (s.scheduleGame gameId intervalMs sweep)
  | .findDue,.due gameIds => some (s.sweepNext gameIds)
  | .findDue,.failed => some ([],{ s with runningSweep := false })
  | .nextDue gameIds,.resumed => some (s.sweepNext gameIds)
  | _,_ => none

/-- Node takes a timer whose callback it runs. -/
def takeTimer (s : DeadlineService) (timer : DeadlineTimer) : DeadlineService :=
  { s with
    armed := s.armed.filter fun t => decide (t ≠ timer)
    cleared := s.cleared.filter fun t => decide (t ≠ timer) }

def step (intervalMs : Millis) (s : DeadlineService) :
    DeadlineEvent → List DeadlineAction × DeadlineService
  | .scheduleGame gameId minimumDelayMs => s.scheduleGame gameId minimumDelayMs none
  | .cancel gameId => s.cancel gameId
  | .fire timer =>
    if timer ∈ s.armed ∨ timer ∈ s.cleared then
      (s.takeTimer timer).fire timer.gameId timer.generation
    else ([],s)
  | .runSweep => s.runSweep
  | .settle index settled =>
    match s.tasks[index]? with
    | none => ([],s)
    | some task =>
      (resume intervalMs { s with tasks := s.tasks.eraseIdx index } task settled).getD ([],s)

end DeadlineService

def deadlineServices (intervalMs : Millis) :
    Machine DeadlineService DeadlineEvent (List DeadlineAction) :=
  ⟨DeadlineService.step intervalMs⟩

abbrev DeadlineStep := Machine.Event DeadlineService DeadlineEvent (List DeadlineAction)

def DeadlineAction.isCallFor (gameId : GameId) : DeadlineAction → Bool
  | .scheduled id _ => decide (id = gameId)
  | .cancelled id => decide (id = gameId)
  | _ => false

def lastOf (actions : List DeadlineAction) (gameId : GameId) : Option DeadlineAction :=
  (actions.filter (DeadlineAction.isCallFor gameId)).getLast?

/-- The last call of `scheduleGame` or of `cancel` for a game along a history. -/
def lastCall (history : List DeadlineStep) (gameId : GameId) : Option DeadlineAction :=
  lastOf (history.flatMap fun e => e.answer) gameId

/-- A game has one timer at most: the one that the last call of `scheduleGame` has armed, and that
the map holds. After a cancel there is none, and none adjudicates, until the game is scheduled
again. A firing of an older generation does nothing. -/
structure OneLiveTimer (history : List DeadlineStep) (s : DeadlineService) : Prop where
  single : ∀ gameId, (s.armed.filter fun t => decide (t.gameId = gameId)).length ≤ 1
  stored : ∀ timer, timer ∈ s.armed ↔ s.timers timer.gameId = some timer
  latest : ∀ timer ∈ s.armed,
    lastCall history timer.gameId = some (.scheduled timer.gameId timer.generation)
  cancelled : ∀ earlier e later gameId, history = earlier ++ e :: later →
    .cancelled gameId ∈ e.answer →
    (∀ e' ∈ later, ∀ generation, .scheduled gameId generation ∉ e'.answer) →
    (∀ timer ∈ s.armed, timer.gameId ≠ gameId) ∧
      ∀ e' ∈ later, ∀ generation, .adjudicated gameId (some generation) ∉ e'.answer
  stale : ∀ e ∈ history, ∀ timer, e.input = .fire timer →
    e.before.generations timer.gameId ≠ some timer.generation →
    e.answer = [] ∧ e.after.timers = e.before.timers ∧
      ∀ other, other ≠ timer → (other ∈ e.after.armed ↔ other ∈ e.before.armed)

/-! ### The invariant -/

def DeadlineTask.call : DeadlineTask → Option (GameId × ℕ)
  | .schedule gameId generation _ _ => some (gameId,generation)
  | _ => none

def DeadlineService.calls (s : DeadlineService) : List (GameId × ℕ) :=
  s.tasks.filterMap DeadlineTask.call

/-- The map holds the timers that are armed, which are those of the last calls. Among the suspended
calls only that of the last generation can arm one. -/
structure DeadlineService.Sound (last : GameId → Option DeadlineAction) (s : DeadlineService) :
    Prop where
  armed : ∀ timer ∈ s.armed, s.timers timer.gameId = some timer
  stored : ∀ gameId timer, s.timers gameId = some timer →
    timer ∈ s.armed ∧ timer.gameId = gameId ∧ s.generations gameId = some timer.generation ∧
      last gameId = some (.scheduled gameId timer.generation)
  nodup : s.armed.Nodup
  cleared : ∀ timer ∈ s.cleared, ∃ generation,
    s.generations timer.gameId = some generation ∧ timer.generation < generation
  calls : ∀ call ∈ s.calls, ∃ generation, s.generations call.1 = some generation ∧
    call.2 ≤ generation ∧ (call.2 = generation → s.timers call.1 = none ∧
      last call.1 = some (.scheduled call.1 call.2))
  distinct : s.calls.Nodup

section Invariant

variable {last : GameId → Option DeadlineAction} {s : DeadlineService} {gameId : GameId}
  {timer : DeadlineTimer}

namespace DeadlineService

theorem clearTimer_generations : (s.clearTimer gameId).generations = s.generations := by
  unfold clearTimer
  split <;> rfl

theorem clearTimer_tasks : (s.clearTimer gameId).tasks = s.tasks := by
  unfold clearTimer
  split <;> rfl

theorem clearTimer_timers :
    (s.clearTimer gameId).timers = Function.update s.timers gameId none := by
  unfold clearTimer
  split
  · rename_i hnone
    rw [← hnone,Function.update_eq_self]
  · rfl

theorem mem_clearTimer_armed :
    timer ∈ (s.clearTimer gameId).armed ↔ timer ∈ s.armed ∧ s.timers gameId ≠ some timer := by
  unfold clearTimer
  split
  · rename_i hnone
    simp [hnone]
  · rename_i stored hstored
    have hsame : (some stored ≠ some timer) ↔ timer ≠ stored := by
      rw [Ne,Option.some.injEq,eq_comm]
    rw [List.mem_filter,decide_eq_true_eq,hstored,hsame]

theorem mem_clearTimer_cleared :
    timer ∈ (s.clearTimer gameId).cleared ↔ timer ∈ s.cleared ∨ s.timers gameId = some timer := by
  unfold clearTimer
  split
  · rename_i hnone
    simp [hnone]
  · rename_i stored hstored
    rw [List.mem_append,List.mem_singleton,hstored,Option.some.injEq,eq_comm (a := timer)]

theorem clearTimer_nodup (h : s.armed.Nodup) : (s.clearTimer gameId).armed.Nodup := by
  unfold clearTimer
  split
  · exact h
  · exact h.filter _

theorem supersede_calls (s : DeadlineService) (gameId : GameId) :
    (s.supersede gameId).calls = s.calls := by
  unfold calls supersede
  rw [clearTimer_tasks]

theorem lt_nextGeneration {generation : ℕ} (h : s.generations gameId = some generation) :
    generation < s.nextGeneration gameId := by
  unfold nextGeneration
  rw [h]
  exact Nat.lt_succ_self generation

/-- After the lines that `scheduleGame` and `cancel` begin with, the game has no timer, and every
timer and every suspended call of it is of an older generation. -/
theorem Sound.supersede (h : s.Sound last) (gameId : GameId) (action : Option DeadlineAction) :
    (s.supersede gameId).Sound (Function.update last gameId action) := by
  have hgenerations : (s.supersede gameId).generations =
      Function.update s.generations gameId (some (s.nextGeneration gameId)) :=
    clearTimer_generations
  have htimers : (s.supersede gameId).timers = Function.update s.timers gameId none :=
    clearTimer_timers
  have hcalls := s.supersede_calls gameId
  refine ⟨?_,?_,clearTimer_nodup h.nodup,?_,?_,hcalls ▸ h.distinct⟩
  · intro timer hmem
    obtain ⟨harmed,hne⟩ := mem_clearTimer_armed.mp hmem
    have hstored := h.armed timer harmed
    have hother : timer.gameId ≠ gameId := fun he => hne (he ▸ hstored)
    rw [htimers,Function.update_of_ne hother]
    exact hstored
  · intro id timer htimer
    rw [htimers] at htimer
    by_cases hid : id = gameId
    · rw [hid,Function.update_self] at htimer
      cases htimer
    · rw [Function.update_of_ne hid] at htimer
      obtain ⟨harmed,hgame,hgeneration,hlast⟩ := h.stored id timer htimer
      have hne : s.timers gameId ≠ some timer := by
        intro he
        exact hid (hgame.symm.trans (h.stored gameId timer he).2.1)
      rw [hgenerations,Function.update_of_ne hid,Function.update_of_ne hid]
      exact ⟨mem_clearTimer_armed.mpr ⟨harmed,hne⟩,hgame,hgeneration,hlast⟩
  · intro timer hmem
    rw [hgenerations]
    have holder : ∃ generation, s.generations timer.gameId = some generation ∧
        (timer.generation < generation ∨
          timer.gameId = gameId ∧ timer.generation = generation) := by
      rcases mem_clearTimer_cleared.mp hmem with hold | hnew
      · obtain ⟨generation,hgeneration,hlt⟩ := h.cleared timer hold
        exact ⟨generation,hgeneration,Or.inl hlt⟩
      · obtain ⟨_,hgame,hgeneration,_⟩ := h.stored gameId timer hnew
        exact ⟨_,hgame ▸ hgeneration,Or.inr ⟨hgame,rfl⟩⟩
    obtain ⟨generation,hgeneration,hle⟩ := holder
    by_cases hid : timer.gameId = gameId
    · rw [hid] at hgeneration ⊢
      have hlt := lt_nextGeneration hgeneration
      refine ⟨_,Function.update_self ..,?_⟩
      omega
    · rw [Function.update_of_ne hid]
      exact ⟨generation,hgeneration,hle.resolve_right fun hsame => hid hsame.1⟩
  · intro call hmem
    rw [hcalls] at hmem
    obtain ⟨generation,hgeneration,hle,hcurrent⟩ := h.calls call hmem
    rw [hgenerations,htimers]
    by_cases hid : call.1 = gameId
    · rw [hid] at hgeneration ⊢
      have hlt := lt_nextGeneration hgeneration
      refine ⟨_,Function.update_self ..,by omega,fun he => absurd he ?_⟩
      omega
    · rw [Function.update_of_ne hid,Function.update_of_ne hid,Function.update_of_ne hid]
      exact ⟨generation,hgeneration,hle,hcurrent⟩

theorem Sound.await (h : s.Sound last) {task : DeadlineTask} (htask : task.call = none) :
    (s.await task).Sound last := by
  have hcalls : (s.await task).calls = s.calls := by
    unfold DeadlineService.calls DeadlineService.await
    rw [List.filterMap_append,List.filterMap_cons_none htask,List.filterMap_nil,List.append_nil]
  exact ⟨h.armed,h.stored,h.nodup,h.cleared,hcalls ▸ h.calls,hcalls ▸ h.distinct⟩

theorem Sound.returnTo (h : s.Sound last) (sweep : Option (List GameId)) :
    (s.returnTo sweep).Sound last := by
  cases sweep with
  | none => exact h
  | some gameIds => exact h.await rfl

theorem Sound.runningSweep (h : s.Sound last) (running : Bool) :
    Sound last { s with runningSweep := running } :=
  ⟨h.armed,h.stored,h.nodup,h.cleared,h.calls,h.distinct⟩

theorem Sound.scheduleGame (h : s.Sound last) (gameId : GameId) (minimumDelayMs : Millis)
    (sweep : Option (List GameId)) :
    (s.scheduleGame gameId minimumDelayMs sweep).2.Sound (Function.update last gameId
      (some (.scheduled gameId (s.nextGeneration gameId)))) := by
  have hbegun := h.supersede gameId (some (.scheduled gameId (s.nextGeneration gameId)))
  have hgeneration : (s.supersede gameId).generations gameId =
      some (s.nextGeneration gameId) := by
    rw [show (s.supersede gameId).generations = _ from clearTimer_generations]
    exact Function.update_self ..
  have htimer : (s.supersede gameId).timers gameId = none := by
    rw [show (s.supersede gameId).timers = _ from clearTimer_timers]
    exact Function.update_self ..
  have hcalls : (s.scheduleGame gameId minimumDelayMs sweep).2.calls =
      (s.supersede gameId).calls ++ [(gameId,s.nextGeneration gameId)] := by
    unfold DeadlineService.calls DeadlineService.scheduleGame DeadlineService.await
    rw [List.filterMap_append]
    rfl
  have hold := s.supersede_calls gameId
  refine ⟨hbegun.armed,hbegun.stored,hbegun.nodup,hbegun.cleared,?_,?_⟩
  · intro call hmem
    rw [hcalls] at hmem
    rcases List.mem_append.mp hmem with hmem | hmem
    · exact hbegun.calls call hmem
    · rw [List.mem_singleton.mp hmem]
      exact ⟨_,hgeneration,Nat.le_refl _,fun _ => ⟨htimer,Function.update_self ..⟩⟩
  · rw [hcalls,hold]
    refine List.nodup_append.mpr ⟨h.distinct,List.nodup_singleton _,?_⟩
    intro call hmem call' hmem' he
    rw [he,List.mem_singleton.mp hmem'] at hmem
    obtain ⟨generation,hcurrent,hle,_⟩ := h.calls _ hmem
    exact absurd (lt_nextGeneration hcurrent) (Nat.not_lt.mpr hle)

theorem Sound.eraseIdx (h : s.Sound last) {index : ℕ} {task : DeadlineTask}
    (htask : s.tasks[index]? = some task) :
    Sound last { s with tasks := s.tasks.eraseIdx index } ∧
      ∀ call, task.call = some call → call ∈ s.calls ∧
        call ∉ (s.tasks.eraseIdx index).filterMap DeadlineTask.call := by
  obtain ⟨hlt,rfl⟩ := List.getElem?_eq_some_iff.mp htask
  have hperm : ((s.tasks[index] :: s.tasks.eraseIdx index).filterMap
      DeadlineTask.call).Perm s.calls := (List.getElem_cons_eraseIdx_perm hlt).filterMap _
  cases hcall : s.tasks[index].call with
  | none =>
    rw [List.filterMap_cons_none hcall] at hperm
    refine ⟨⟨h.armed,h.stored,h.nodup,h.cleared,?_,hperm.nodup_iff.mpr h.distinct⟩,nofun⟩
    exact fun call hmem => h.calls call (hperm.mem_iff.mp hmem)
  | some call =>
    rw [List.filterMap_cons_some hcall] at hperm
    obtain ⟨hnot,hnodup⟩ := List.nodup_cons.mp (hperm.nodup_iff.mpr h.distinct)
    refine ⟨⟨h.armed,h.stored,h.nodup,h.cleared,?_,hnodup⟩,?_⟩
    · exact fun call hmem => h.calls call (hperm.mem_iff.mp (List.mem_cons_of_mem _ hmem))
    · intro call' he
      cases he
      exact ⟨hperm.mem_iff.mp List.mem_cons_self,hnot⟩

/-- The call of the last generation arms its timer. -/
theorem Sound.arm (h : s.Sound last) {generation : ℕ} {delay : Millis}
    (hgeneration : s.generations gameId = some generation) (htimer : s.timers gameId = none)
    (hlast : last gameId = some (.scheduled gameId generation))
    (hcall : (gameId,generation) ∉ s.calls) : (s.arm ⟨gameId,generation,delay⟩).Sound last := by
  have hother : ∀ timer ∈ s.armed, timer.gameId ≠ gameId := by
    intro timer hmem he
    rw [← he,h.armed timer hmem] at htimer
    cases htimer
  refine ⟨?_,?_,?_,h.cleared,?_,h.distinct⟩
  · intro timer hmem
    rcases List.mem_append.mp hmem with hmem | hmem
    · exact (Function.update_of_ne (hother timer hmem) ..).trans (h.armed timer hmem)
    · rw [List.mem_singleton.mp hmem]
      exact Function.update_self ..
  · intro id timer hstored
    have hstored : Function.update s.timers gameId (some ⟨gameId,generation,delay⟩) id =
        some timer := hstored
    by_cases hid : id = gameId
    · rw [hid,Function.update_self] at hstored
      cases hstored
      exact ⟨List.mem_append_right _ List.mem_cons_self,hid.symm,hid ▸ hgeneration,hid ▸ hlast⟩
    · rw [Function.update_of_ne hid] at hstored
      obtain ⟨harmed,hrest⟩ := h.stored id timer hstored
      exact ⟨List.mem_append_left _ harmed,hrest⟩
  · refine List.nodup_append.mpr ⟨h.nodup,List.nodup_singleton _,?_⟩
    intro timer hmem timer' hmem' he
    rw [he,List.mem_singleton.mp hmem'] at hmem
    exact hother _ hmem rfl
  · intro call hmem
    obtain ⟨current,hcurrent,hle,htimers⟩ := h.calls call hmem
    refine ⟨current,hcurrent,hle,fun he => ?_⟩
    by_cases hid : call.1 = gameId
    · rw [hid,hgeneration] at hcurrent
      cases hcurrent
      have hsame : call = (gameId,generation) := Prod.ext hid he
      exact absurd (hsame ▸ hmem) hcall
    · obtain ⟨hnone,hlast⟩ := htimers he
      exact ⟨(Function.update_of_ne hid ..).trans hnone,hlast⟩

theorem Sound.takeArmed (h : s.Sound last) (hstored : s.timers timer.gameId = some timer) :
    Sound last { s.takeTimer timer with
      timers := Function.update s.timers timer.gameId none } := by
  refine ⟨?_,?_,h.nodup.filter _,?_,?_,h.distinct⟩
  · intro other hmem
    obtain ⟨harmed,hne⟩ := List.mem_filter.mp hmem
    have hother := h.armed other harmed
    have hid : other.gameId ≠ timer.gameId := by
      intro he
      rw [he,hstored] at hother
      exact of_decide_eq_true hne (Option.some.inj hother).symm
    exact (Function.update_of_ne hid ..).trans hother
  · intro id other hother
    have hother : Function.update s.timers timer.gameId none id = some other := hother
    by_cases hid : id = timer.gameId
    · rw [hid,Function.update_self] at hother
      cases hother
    · rw [Function.update_of_ne hid] at hother
      obtain ⟨harmed,hgame,hrest⟩ := h.stored id other hother
      have hne : other ≠ timer := fun he => hid (hgame.symm.trans (congrArg _ he))
      exact ⟨List.mem_filter.mpr ⟨harmed,decide_eq_true hne⟩,hgame,hrest⟩
  · exact fun other hmem => h.cleared other (List.mem_filter.mp hmem).1
  · intro call hmem
    obtain ⟨generation,hgeneration,hle,hcurrent⟩ := h.calls call hmem
    refine ⟨generation,hgeneration,hle,fun he => ?_⟩
    obtain ⟨hnone,hlast⟩ := hcurrent he
    refine ⟨?_,hlast⟩
    by_cases hid : call.1 = timer.gameId
    · exact hid ▸ Function.update_self ..
    · exact (Function.update_of_ne hid ..).trans hnone

theorem Sound.takeCleared (h : s.Sound last) (hnot : timer ∉ s.armed) :
    (s.takeTimer timer).armed = s.armed ∧ (s.takeTimer timer).Sound last := by
  have harmed : (s.takeTimer timer).armed = s.armed := by
    refine List.filter_eq_self.mpr fun other hmem => decide_eq_true ?_
    intro he
    exact hnot (he ▸ hmem)
  refine ⟨harmed,harmed.symm ▸ h.armed,?_,harmed.symm ▸ h.nodup,?_,h.calls,h.distinct⟩
  · rw [harmed]
    exact h.stored
  · exact fun other hmem => h.cleared other (List.mem_filter.mp hmem).1

theorem Sound.current_stored (h : s.Sound last) (hmem : timer ∈ s.armed ∨ timer ∈ s.cleared)
    (hgeneration : s.generations timer.gameId = some timer.generation) :
    s.timers timer.gameId = some timer := by
  refine h.armed timer (hmem.resolve_right fun hcleared => ?_)
  obtain ⟨generation,hcurrent,hlt⟩ := h.cleared timer hcleared
  rw [hgeneration] at hcurrent
  cases hcurrent
  exact absurd hlt (Nat.lt_irrefl _)

theorem Sound.stale_not_armed (h : s.Sound last)
    (hgeneration : s.generations timer.gameId ≠ some timer.generation) : timer ∉ s.armed :=
  fun hmem => hgeneration (h.stored _ _ (h.armed timer hmem)).2.2.1

end DeadlineService

def lastAfter (last : GameId → Option DeadlineAction) (actions : List DeadlineAction)
    (gameId : GameId) : Option DeadlineAction :=
  (lastOf actions gameId).or (last gameId)

theorem lastAfter_call {action : DeadlineAction}
    (h : ∀ id, action.isCallFor id = decide (gameId = id)) :
    lastAfter last [action] = Function.update last gameId (some action) := by
  funext id
  unfold lastAfter lastOf
  by_cases hid : id = gameId
  · have hcall : [action].filter (DeadlineAction.isCallFor id) = [action] :=
      List.filter_cons_of_pos ((h id).trans (decide_eq_true hid.symm))
    rw [hcall,hid,Function.update_self]
    rfl
  · have hcall : [action].filter (DeadlineAction.isCallFor id) = [] := by
      refine List.filter_cons_of_neg ?_
      rw [h id,decide_eq_true_eq]
      exact fun he => hid he.symm
    rw [hcall,Function.update_of_ne hid]
    rfl

theorem lastAfter_other {action : DeadlineAction} (h : ∀ id, action.isCallFor id = false) :
    lastAfter last [action] = last := by
  funext id
  have hcall : [action].filter (DeadlineAction.isCallFor id) = [] := by
    refine List.filter_cons_of_neg ?_
    rw [h id]
    exact Bool.false_ne_true
  unfold lastAfter lastOf
  rw [hcall]
  rfl

namespace DeadlineService

abbrev Keeps (last : GameId → Option DeadlineAction)
    (r : List DeadlineAction × DeadlineService) : Prop := r.2.Sound (lastAfter last r.1)

theorem Sound.keeps_schedule (h : s.Sound last) (gameId : GameId) (minimumDelayMs : Millis)
    (sweep : Option (List GameId)) : Keeps last (s.scheduleGame gameId minimumDelayMs sweep) := by
  have hlast : lastAfter last (s.scheduleGame gameId minimumDelayMs sweep).1 = _ :=
    lastAfter_call fun _ => rfl
  unfold Keeps
  rw [hlast]
  exact h.scheduleGame gameId minimumDelayMs sweep

theorem Sound.keeps_cancel (h : s.Sound last) (gameId : GameId) :
    Keeps last (s.cancel gameId) := by
  have hlast : lastAfter last (s.cancel gameId).1 = _ := lastAfter_call fun _ => rfl
  unfold Keeps
  rw [hlast]
  exact h.supersede gameId _

theorem Sound.keeps_adjudicate (h : s.Sound last) (gameId : GameId) (firing : Option ℕ)
    (sweep : Option (List GameId)) :
    Keeps last (s.adjudicateAndReschedule gameId firing sweep) := by
  have hlast : lastAfter last (s.adjudicateAndReschedule gameId firing sweep).1 = last :=
    lastAfter_other fun _ => rfl
  unfold Keeps
  rw [hlast]
  exact h.await rfl

theorem Sound.keeps_fire (h : s.Sound last) (hmem : timer ∈ s.armed ∨ timer ∈ s.cleared) :
    Keeps last ((s.takeTimer timer).fire timer.gameId timer.generation) := by
  unfold fire
  split_ifs with hgeneration
  · exact (h.takeCleared (h.stale_not_armed hgeneration)).2
  · have hcurrent : s.generations timer.gameId = some timer.generation := not_not.mp hgeneration
    exact (h.takeArmed (h.current_stored hmem hcurrent)).keeps_adjudicate _ _ _

theorem Sound.keeps_sweep (h : s.Sound last) (gameIds : List GameId) :
    Keeps last (s.sweepNext gameIds) := by
  cases gameIds with
  | nil => exact h.runningSweep false
  | cons gameId gameIds => exact h.keeps_adjudicate gameId none (some gameIds)

theorem Sound.keeps_resume (h : s.Sound last) {intervalMs : Millis} {task : DeadlineTask}
    (htask : ∀ call, task.call = some call → call ∉ s.calls ∧ ∃ generation,
      s.generations call.1 = some generation ∧ (call.2 = generation → s.timers call.1 = none ∧
        last call.1 = some (.scheduled call.1 call.2)))
    {settled : DeadlineSettled} {r : List DeadlineAction × DeadlineService}
    (hr : s.resume intervalMs task settled = some r) : Keeps last r := by
  unfold resume at hr
  split at hr
  · cases hr
    exact h.returnTo _
  · rename_i gameId generation minimumDelayMs sweep deadline now
    obtain ⟨hcall,current,hcurrent,hlast⟩ := htask _ rfl
    split_ifs at hr with hgeneration
    · cases hr
      exact h.returnTo _
    · cases hr
      have hsame := not_not.mp hgeneration
      rw [hsame] at hcurrent
      cases hcurrent
      obtain ⟨htimer,hlast⟩ := hlast rfl
      unfold Keeps
      rw [lastAfter_other fun _ => rfl]
      exact (h.arm hsame htimer hlast hcall).returnTo _
  · cases hr
    exact h.returnTo _
  · cases hr
    exact (h.keeps_cancel _).returnTo _
  · cases hr
    exact h.keeps_schedule _ _ _
  · cases hr
    exact h.keeps_schedule _ _ _
  · cases hr
    exact h.keeps_sweep _
  · cases hr
    exact h.runningSweep false
  · cases hr
    exact h.keeps_sweep _
  · cases hr

theorem Sound.keeps_step (h : s.Sound last) (intervalMs : Millis) (event : DeadlineEvent) :
    Keeps last (s.step intervalMs event) := by
  cases event with
  | scheduleGame gameId minimumDelayMs => exact h.keeps_schedule gameId minimumDelayMs none
  | cancel gameId => exact h.keeps_cancel gameId
  | fire timer =>
    simp only [step]
    split_ifs with hmem
    · exact h.keeps_fire hmem
    · exact h
  | runSweep =>
    simp only [step,DeadlineService.runSweep]
    split_ifs
    · exact h
    · exact (h.runningSweep true).await rfl
  | settle index settled =>
    simp only [step]
    cases htask : s.tasks[index]? with
    | none =>
      simp only
      exact h
    | some task =>
      simp only
      obtain ⟨herased,hcall⟩ := h.eraseIdx htask
      cases hr : resume intervalMs { s with tasks := s.tasks.eraseIdx index } task settled with
      | none => exact h
      | some r =>
        refine herased.keeps_resume (fun call he => ?_) hr
        obtain ⟨hmem,hnot⟩ := hcall call he
        obtain ⟨generation,hgeneration,_,hcurrent⟩ := h.calls call hmem
        exact ⟨hnot,generation,hgeneration,hcurrent⟩

end DeadlineService

end Invariant

section Runs

variable {intervalMs : Millis} {last : GameId → Option DeadlineAction} {s : DeadlineService}

theorem lastOf_append (actions actions' : List DeadlineAction) (gameId : GameId) :
    lastOf (actions ++ actions') gameId = (lastOf actions' gameId).or (lastOf actions gameId) := by
  unfold lastOf
  rw [List.filter_append,List.getLast?_append]

theorem lastAfter_append (actions actions' : List DeadlineAction) :
    lastAfter (lastAfter last actions) actions' = lastAfter last (actions ++ actions') := by
  funext gameId
  unfold lastAfter
  rw [lastOf_append,Option.or_assoc]

theorem DeadlineService.Sound.initial : DeadlineService.initial.Sound fun _ => none :=
  ⟨nofun,nofun,List.nodup_nil,nofun,nofun,List.nodup_nil⟩

theorem DeadlineService.Sound.run (h : s.Sound last) (intervalMs : Millis)
    (schedule : List DeadlineEvent) :
    ((deadlineServices intervalMs).run s schedule).Sound
      (lastAfter last (((deadlineServices intervalMs).events s schedule).flatMap
        fun e => e.answer)) := by
  induction schedule generalizing s last with
  | nil => exact h
  | cons event schedule ih =>
    have hrest := ih (h.keeps_step intervalMs event)
    rw [lastAfter_append] at hrest
    exact hrest

theorem sound_run (intervalMs : Millis) (schedule : List DeadlineEvent) :
    ((deadlineServices intervalMs).run .initial schedule).Sound
      (lastCall ((deadlineServices intervalMs).events .initial schedule)) := by
  have hrun := DeadlineService.Sound.initial.run intervalMs schedule
  have hlast : lastAfter (fun _ => none)
      (((deadlineServices intervalMs).events .initial schedule).flatMap fun e => e.answer) =
        lastCall ((deadlineServices intervalMs).events .initial schedule) := by
    funext gameId
    exact Option.or_none
  rw [hlast] at hrun
  exact hrun

namespace DeadlineService

theorem resume_actions {task : DeadlineTask} {settled : DeadlineSettled}
    {r : List DeadlineAction × DeadlineService} (hr : s.resume intervalMs task settled = some r) :
    (∀ gameId generation, .adjudicated gameId (some generation) ∉ r.1) ∧
      ∀ gameId, .cancelled gameId ∈ r.1 → r.1 = [.cancelled gameId] := by
  unfold resume at hr
  split at hr
  case h_2 =>
    split_ifs at hr
    all_goals
      cases hr
      simp
  case h_4 =>
    cases hr
    simp [DeadlineService.cancel,eq_comm]
  case h_7 gameIds =>
    cases hr
    cases gameIds <;> simp [sweepNext,adjudicateAndReschedule]
  case h_9 gameIds =>
    cases hr
    cases gameIds <;> simp [sweepNext,adjudicateAndReschedule]
  case h_10 => cases hr
  all_goals
    cases hr
    simp [DeadlineService.scheduleGame]

/-- What the answer of a step says: who adjudicates for a timer is a firing of the last
generation, and a step that cancels does nothing else. -/
theorem Sound.step_actions (h : s.Sound last) (event : DeadlineEvent) :
    (∀ gameId generation, .adjudicated gameId (some generation) ∈ (s.step intervalMs event).1 →
      last gameId = some (.scheduled gameId generation)) ∧
    ∀ gameId, .cancelled gameId ∈ (s.step intervalMs event).1 →
      (s.step intervalMs event).1 = [.cancelled gameId] := by
  cases event with
  | scheduleGame gameId minimumDelayMs => simp [step,DeadlineService.scheduleGame]
  | cancel gameId => simp [step,DeadlineService.cancel,eq_comm]
  | runSweep =>
    simp only [step,DeadlineService.runSweep]
    split_ifs <;> simp
  | fire timer =>
    simp only [step]
    split_ifs with hmem
    · unfold DeadlineService.fire
      split_ifs with hgeneration
      · simp
      · have hstored := h.current_stored hmem (not_not.mp hgeneration)
        refine ⟨?_,?_⟩
        · intro gameId generation hadjudicated
          cases List.mem_singleton.mp hadjudicated
          exact (h.stored _ _ hstored).2.2.2
        · intro gameId hcancelled
          cases List.mem_singleton.mp hcancelled
    · simp
  | settle index settled =>
    simp only [step]
    cases htask : s.tasks[index]? with
    | none => simp
    | some task =>
      simp only
      cases hr : resume intervalMs { s with tasks := s.tasks.eraseIdx index } task settled with
      | none => simp
      | some r =>
        obtain ⟨hfiring,hcancel⟩ := resume_actions hr
        exact ⟨fun gameId generation hmem => absurd hmem (hfiring gameId generation),hcancel⟩

/-- A firing of a generation that is not the last. -/
theorem Sound.step_stale (h : s.Sound last) (intervalMs : Millis) {timer : DeadlineTimer}
    (hgeneration : s.generations timer.gameId ≠ some timer.generation) :
    (s.step intervalMs (.fire timer)).1 = [] ∧
      (s.step intervalMs (.fire timer)).2.timers = s.timers ∧
      (s.step intervalMs (.fire timer)).2.armed = s.armed := by
  have harmed := (h.takeCleared (h.stale_not_armed hgeneration)).1
  have hfire : (s.takeTimer timer).fire timer.gameId timer.generation =
      ([],s.takeTimer timer) := if_pos hgeneration
  simp only [step,hfire]
  split_ifs
  · exact ⟨rfl,rfl,harmed⟩
  · exact ⟨rfl,rfl,rfl⟩

end DeadlineService

/-- After a cancel, until the game is scheduled again, the last call is not one of
`scheduleGame`. -/
theorem lastCall_cancelled {earlier later : List DeadlineStep} {e : DeadlineStep}
    {gameId : GameId} (hcancelled : e.answer = [.cancelled gameId])
    (hlater : ∀ e' ∈ later, ∀ generation, .scheduled gameId generation ∉ e'.answer)
    (generation : ℕ) :
    lastCall (earlier ++ e :: later) gameId ≠ some (.scheduled gameId generation) := by
  unfold lastCall
  rw [List.flatMap_append,List.flatMap_cons,hcancelled,lastOf_append,lastOf_append]
  intro hlast
  cases hrest : lastOf (later.flatMap fun e => e.answer) gameId with
  | none =>
    have hcall : lastOf [.cancelled gameId] gameId = some (.cancelled gameId) := by
      simp [lastOf,DeadlineAction.isCallFor]
    rw [hrest,hcall] at hlast
    cases hlast
  | some action =>
    rw [hrest] at hlast
    cases hlast
    have hmem := (List.mem_filter.mp (List.mem_of_getLast? hrest)).1
    obtain ⟨e',he',hanswer⟩ := List.mem_flatMap.mp hmem
    exact hlater e' he' generation hanswer

end Runs

theorem length_le_one {α : Type} {xs : List α} {stored : Option α} (hnodup : xs.Nodup)
    (h : ∀ x ∈ xs, stored = some x) : xs.length ≤ 1 := by
  match xs,hnodup with
  | [],_ => exact Nat.zero_le 1
  | [_],_ => exact Nat.le_refl 1
  | x :: y :: xs,hnodup =>
    have hx := h x List.mem_cons_self
    rw [h y (List.mem_cons_of_mem _ List.mem_cons_self)] at hx
    have hnot := (List.nodup_cons.mp hnodup).1
    rw [← Option.some.inj hx] at hnot
    exact absurd List.mem_cons_self hnot

/-- In every interleaving, each game has one live timer at most. -/
theorem one_live_timer (intervalMs : Millis) (schedule : List DeadlineEvent) :
    OneLiveTimer ((deadlineServices intervalMs).events .initial schedule)
      ((deadlineServices intervalMs).run .initial schedule) := by
  have hsound := sound_run intervalMs schedule
  have hbefore : ∀ earlier e later,
      (deadlineServices intervalMs).events .initial schedule = earlier ++ e :: later →
      e.before.Sound (lastCall earlier) ∧
        e = (deadlineServices intervalMs).event e.before e.input := by
    intro earlier e later hsplit
    obtain ⟨pre,post,_,he,rfl,_⟩ := Machine.events_split _ hsplit
    rw [he]
    exact ⟨sound_run intervalMs pre,rfl⟩
  refine ⟨?_,?_,?_,?_,?_⟩
  · intro gameId
    have hnodup := hsound.nodup.filter fun t => decide (t.gameId = gameId)
    have hsame : ∀ timer ∈ ((deadlineServices intervalMs).run .initial schedule).armed.filter
        (fun t => decide (t.gameId = gameId)),
        ((deadlineServices intervalMs).run .initial schedule).timers gameId = some timer := by
      intro timer hmem
      obtain ⟨harmed,hid⟩ := List.mem_filter.mp hmem
      exact of_decide_eq_true hid ▸ hsound.armed timer harmed
    exact length_le_one hnodup hsame
  · intro timer
    exact ⟨hsound.armed timer,fun hstored => (hsound.stored _ timer hstored).1⟩
  · intro timer hmem
    exact (hsound.stored _ timer (hsound.armed timer hmem)).2.2.2
  · intro earlier e later gameId hsplit hmem hlater
    obtain ⟨hbefore_e,he⟩ := hbefore earlier e later hsplit
    have hcancelled : e.answer = [.cancelled gameId] := by
      rw [he] at hmem ⊢
      exact (hbefore_e.step_actions e.input).2 gameId hmem
    constructor
    · intro timer harmed hid
      have hlast := (hsound.stored _ timer (hsound.armed timer harmed)).2.2.2
      rw [hsplit,hid] at hlast
      exact lastCall_cancelled hcancelled hlater _ hlast
    · intro e' he' generation hadjudicated
      obtain ⟨between,rest,rfl⟩ := List.append_of_mem he'
      obtain ⟨hbefore',heq⟩ := hbefore (earlier ++ e :: between) e' rest (by
        rw [hsplit,List.append_assoc]
        rfl)
      rw [heq] at hadjudicated
      have hlast := (hbefore'.step_actions e'.input).1 gameId generation hadjudicated
      refine lastCall_cancelled hcancelled (fun e'' he'' => ?_) generation hlast
      exact hlater e'' (List.mem_append_left _ he'')
  · intro e he timer hinput hgeneration
    obtain ⟨earlier,later,hsplit⟩ := List.append_of_mem he
    obtain ⟨hbefore_e,heq⟩ := hbefore earlier e later hsplit
    obtain ⟨hanswer,htimers,harmed⟩ := hbefore_e.step_stale intervalMs hgeneration
    rw [heq,hinput]
    refine ⟨hanswer,htimers,fun other _ => ?_⟩
    exact iff_of_eq (congrArg (other ∈ ·) harmed)

/-- The second call supersedes the first, whose deadline comes later, and arms its own timer. -/
example : ((deadlineServices 1000).run .initial [.scheduleGame 7 0,.scheduleGame 7 500,
    .settle 1 (.deadline (some 5000) 4800),.settle 0 (.deadline (some 5000) 4900)]).armed =
      [⟨7,2,500⟩] := by decide

end CluChess
