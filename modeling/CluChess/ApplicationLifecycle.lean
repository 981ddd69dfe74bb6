import CluChess.AnsweringMachine
import CluChess.DeadlineTimers

/-! `application-lifecycle.service.ts`: the work in flight, and those who wait for it to end while
the process is drained. Works and waiters are numbered in the order in which they come. -/
namespace CluChess

inductive InFlightWorkKind
  | http | realtime
  deriving DecidableEq, Repr

structure TrackedWork where
  kind : InFlightWorkKind
  finished : Bool
  deriving DecidableEq, Repr

/-- What a call of `waitForIdle` holds: when it was made and with which timeout, whether its
promise is settled, and whether its timer is set. -/
structure IdleWaiter where
  registeredAt : Millis
  timeoutMs : Millis
  settled : Bool
  timer : Bool
  deriving DecidableEq, Repr

structure ApplicationLifecycle where
  clock : Millis
  inFlightByKind : InFlightWorkKind → ℕ
  works : List TrackedWork
  waiters : List IdleWaiter
  idleWaiters : List ℕ

/-- The delay of `setTimeout`: one that does not fit a timer becomes a millisecond. -/
def timerDelay (timeoutMs : Millis) : Millis :=
  if 1 ≤ timeoutMs ∧ timeoutMs ≤ maxTimerDelayMs then timeoutMs else 1

abbrev Settlements := List (ℕ × Bool)

namespace ApplicationLifecycle

def initial (clock : Millis) : ApplicationLifecycle := ⟨clock,fun _ => 0,[],[],[]⟩

variable (s : ApplicationLifecycle)

def inFlightWork : ℕ := s.inFlightByKind .http + s.inFlightByKind .realtime

def unfinished (kind : InFlightWorkKind) : ℕ :=
  s.works.countP fun work => work.kind = kind && !work.finished

def trackWork (kind : InFlightWorkKind) : ApplicationLifecycle :=
  let count := s.inFlightByKind kind + 1
  { s with
    inFlightByKind := Function.update s.inFlightByKind kind count
    works := s.works ++ [⟨kind,false⟩] }

def settle (waiter : ℕ) (idle : Bool) : Settlements × ApplicationLifecycle :=
  match s.waiters[waiter]? with
  | none => ([],s)
  | some values =>
    if values.settled then ([],s)
    else
      let settled := { values with settled := true, timer := false }
      ([(waiter,idle)],{ s with
        waiters := s.waiters.set waiter settled
        idleWaiters := s.idleWaiters.erase waiter })

/-- One turn of the loop over `idleWaiters`. A set that is iterated skips what was deleted. -/
def resolveNext (acc : Settlements × ApplicationLifecycle) (waiter : ℕ) :
    Settlements × ApplicationLifecycle :=
  if waiter ∈ acc.2.idleWaiters then
    let (settled,s) := acc.2.settle waiter true
    (acc.1 ++ settled,s)
  else acc

def resolveIdle : Settlements × ApplicationLifecycle :=
  let (settled,s) := s.idleWaiters.foldl resolveNext ([],s)
  (settled,{ s with idleWaiters := [] })

/-- A call of a finish function that `trackWork` has returned. -/
def finishWork (work : ℕ) : Settlements × ApplicationLifecycle :=
  match s.works[work]? with
  | none => ([],s)
  | some values =>
    if values.finished then ([],s)
    else
      let remaining := s.inFlightByKind values.kind - 1
      let s := { s with
        inFlightByKind := Function.update s.inFlightByKind values.kind remaining
        works := s.works.set work { values with finished := true } }
      if s.inFlightWork = 0 then s.resolveIdle else ([],s)

def waitForIdle (timeoutMs : Millis) : Settlements × ApplicationLifecycle :=
  let waiter := s.waiters.length
  if s.inFlightWork = 0 then
    ([(waiter,true)],{ s with waiters := s.waiters ++ [⟨s.clock,timeoutMs,true,false⟩] })
  else
    ([],{ s with
      waiters := s.waiters ++ [⟨s.clock,timeoutMs,false,true⟩]
      idleWaiters := s.idleWaiters ++ [waiter] })

/-- The event loop runs the timer of a waiter, when it is set and due. -/
def fireTimeout (waiter : ℕ) : Settlements × ApplicationLifecycle :=
  match s.waiters[waiter]? with
  | none => ([],s)
  | some values =>
    if values.timer ∧ values.registeredAt + timerDelay values.timeoutMs ≤ s.clock then
      let fired := { s with waiters := s.waiters.set waiter { values with timer := false } }
      fired.settle waiter false
    else ([],s)

end ApplicationLifecycle

inductive LifecycleCall
  | trackWork (kind : InFlightWorkKind)
  | finishWork (work : ℕ)
  | waitForIdle (timeoutMs : Millis)
  | fireTimeout (waiter : ℕ)
  | elapse (ms : ℕ)
  deriving DecidableEq, Repr

def applicationLifecycle : Machine ApplicationLifecycle LifecycleCall Settlements where
  step s call :=
    match call with
    | .trackWork kind => ([],s.trackWork kind)
    | .finishWork work => s.finishWork work
    | .waitForIdle timeoutMs => s.waitForIdle timeoutMs
    | .fireTimeout waiter => s.fireTimeout waiter
    | .elapse ms => ([],{ s with clock := s.clock + ms })

namespace ApplicationLifecycle

/-! ### What settles a waiter -/

section Settling

variable {s s' : ApplicationLifecycle} {log log' : Settlements} {waiter : ℕ} {idle : Bool}
  {values : IdleWaiter}

def done (values : IdleWaiter) : IdleWaiter := { values with settled := true, timer := false }

/-- The waiters of the log were not settled before, are settled now, and no others are. -/
structure Settles (s s' : ApplicationLifecycle) (log : Settlements) : Prop where
  waiters : ∀ w, s'.waiters[w]? = if w ∈ log.map Prod.fst then (s.waiters[w]?).map done
    else s.waiters[w]?
  unsettled : ∀ w ∈ log.map Prod.fst, ∃ values, s.waiters[w]? = some values ∧
    values.settled = false
  distinct : (log.map Prod.fst).Nodup

theorem Settles.of_eq (h : s'.waiters = s.waiters) : s.Settles s' [] :=
  ⟨fun w => by rw [h]; rfl,fun w hw => absurd hw List.not_mem_nil,List.nodup_nil⟩

theorem settle_of_unsettled (hfound : s.waiters[waiter]? = some values)
    (hopen : values.settled = false) :
    s.settle waiter idle = ([(waiter,idle)],{ s with
      waiters := s.waiters.set waiter (done values)
      idleWaiters := s.idleWaiters.erase waiter }) := by
  unfold settle
  rw [hfound]
  simp only [hopen,Bool.false_eq_true,if_false]
  rfl

theorem getElem?_set_done (hfound : s.waiters[waiter]? = some values) (w : ℕ) :
    (s.waiters.set waiter (done values))[w]? =
      if w = waiter then (s.waiters[w]?).map done else s.waiters[w]? := by
  rw [List.getElem?_set]
  by_cases hw : waiter = w
  · subst hw
    have hlt := (List.getElem?_eq_some_iff.mp hfound).1
    rw [if_pos rfl,if_pos hlt,if_pos rfl,hfound]
    rfl
  · rw [if_neg hw,if_neg (Ne.symm hw)]

/-- The loop settles the waiters that are left, in their order, and tells them that all is idle. -/
theorem resolveNext_foldl (s : ApplicationLifecycle) (log : Settlements) (left : List ℕ)
    (hleft : s.idleWaiters = left) (hnodup : left.Nodup)
    (hopen : ∀ w ∈ left, ∃ values, s.waiters[w]? = some values ∧ values.settled = false) :
    ∃ waiters, left.foldl resolveNext (log,s) =
        (log ++ left.map (·,true),{ s with waiters := waiters, idleWaiters := [] }) ∧
      ∀ w, waiters[w]? = if w ∈ left then (s.waiters[w]?).map done else s.waiters[w]? := by
  induction left generalizing s log with
  | nil =>
    refine ⟨s.waiters,?_,fun w => rfl⟩
    have hsame : { s with waiters := s.waiters, idleWaiters := [] } = s := by rw [← hleft]
    rw [List.map_nil,List.append_nil,hsame]
    rfl
  | cons w left ih =>
    obtain ⟨values,hfound,hvalues⟩ := hopen w List.mem_cons_self
    have hmem : w ∈ s.idleWaiters := hleft ▸ List.mem_cons_self
    have hnotin := (List.nodup_cons.mp hnodup).1
    have hfirst : resolveNext (log,s) w = (log ++ [(w,true)],{ s with
        waiters := s.waiters.set w (done values)
        idleWaiters := left }) := by
      have herase : s.idleWaiters.erase w = left := by rw [hleft,List.erase_cons_head]
      unfold resolveNext
      rw [if_pos hmem,settle_of_unsettled hfound hvalues,herase]
    have hset := getElem?_set_done hfound
    have hrest : ∀ v ∈ left, ∃ values', (s.waiters.set w (done values))[v]? = some values' ∧
        values'.settled = false := by
      intro v hv
      obtain ⟨values',hfound',hopen'⟩ := hopen v (List.mem_cons_of_mem w hv)
      have hne : v ≠ w := fun h => hnotin (h ▸ hv)
      exact ⟨values',by rw [hset,if_neg hne,hfound'],hopen'⟩
    rw [List.foldl_cons,hfirst]
    let next : ApplicationLifecycle := { s with
      waiters := s.waiters.set w (done values), idleWaiters := left }
    obtain ⟨waiters,hloop,hwaiters⟩ := ih next (log ++ [(w,true)]) rfl
      (List.nodup_cons.mp hnodup).2 hrest
    refine ⟨waiters,?_,fun v => ?_⟩
    · rw [hloop,List.append_assoc]
      rfl
    · rw [hwaiters,hset]
      by_cases hv : v = w
      · subst hv
        rw [if_neg hnotin,if_pos rfl,if_pos List.mem_cons_self]
      · rw [if_neg hv]
        by_cases hl : v ∈ left
        · rw [if_pos hl,if_pos (List.mem_cons_of_mem w hl)]
        · rw [if_neg hl,if_neg fun h => hl ((List.mem_cons.mp h).resolve_left hv)]

end Settling

/-! ### The invariant -/

/-- The counts are those of the unfinished works, the registered waiters are those that are not
settled, and none is registered while all is idle. -/
structure Sound (s : ApplicationLifecycle) : Prop where
  counts : ∀ kind, s.inFlightByKind kind = s.unfinished kind
  registered : ∀ w, w ∈ s.idleWaiters ↔
    ∃ values, s.waiters[w]? = some values ∧ values.settled = false
  distinct : s.idleWaiters.Nodup
  idle : s.inFlightWork = 0 → s.idleWaiters = []
  timers : ∀ (w : ℕ) (values : IdleWaiter), s.waiters[w]? = some values →
    values.timer = !values.settled

theorem initial_sound (clock : Millis) : (initial clock).Sound where
  counts _ := rfl
  registered w := by simp [initial]
  distinct := List.nodup_nil
  idle _ := rfl
  timers w values h := by simp [initial] at h

section Steps

variable {s : ApplicationLifecycle}

theorem resolveIdle_eq (s : ApplicationLifecycle)
    (hregistered : ∀ w, w ∈ s.idleWaiters ↔
      ∃ values, s.waiters[w]? = some values ∧ values.settled = false)
    (hdistinct : s.idleWaiters.Nodup) :
    ∃ waiters, s.resolveIdle =
        (s.idleWaiters.map (·,true),{ s with waiters := waiters, idleWaiters := [] }) ∧
      ∀ w, waiters[w]? = if w ∈ s.idleWaiters then (s.waiters[w]?).map done
        else s.waiters[w]? := by
  obtain ⟨waiters,hloop,hwaiters⟩ := resolveNext_foldl s [] s.idleWaiters rfl hdistinct
    fun w hw => (hregistered w).mp hw
  refine ⟨waiters,?_,hwaiters⟩
  unfold ApplicationLifecycle.resolveIdle
  rw [hloop]
  rfl

theorem unfinished_trackWork (kind other : InFlightWorkKind) :
    (s.trackWork kind).unfinished other =
      if other = kind then s.unfinished other + 1 else s.unfinished other := by
  unfold unfinished trackWork
  rw [List.countP_append,List.countP_singleton]
  by_cases hk : other = kind
  · subst hk
    simp
  · have hne : kind ≠ other := Ne.symm hk
    simp [hk,hne]

theorem Sound.trackWork (h : s.Sound) (kind : InFlightWorkKind) : (s.trackWork kind).Sound where
  counts other := by
    rw [unfinished_trackWork]
    by_cases hk : other = kind
    · subst hk
      rw [if_pos rfl,← h.counts other]
      exact Function.update_self ..
    · rw [if_neg hk,← h.counts other]
      exact Function.update_of_ne hk ..
  registered := h.registered
  distinct := h.distinct
  idle hzero := by
    have hcount : (s.trackWork kind).inFlightByKind kind = s.inFlightByKind kind + 1 :=
      Function.update_self ..
    unfold inFlightWork at hzero
    cases kind <;> omega
  timers := h.timers

/-- The state in which a work is finished, before anyone is told. -/
def withoutWork (s : ApplicationLifecycle) (work : ℕ) (values : TrackedWork) :
    ApplicationLifecycle :=
  { s with
    inFlightByKind := Function.update s.inFlightByKind values.kind
      (s.inFlightByKind values.kind - 1)
    works := s.works.set work { values with finished := true } }

theorem unfinished_withoutWork {work : ℕ} {values : TrackedWork}
    (hfound : s.works[work]? = some values) (hopen : values.finished = false)
    (other : InFlightWorkKind) :
    (s.withoutWork work values).unfinished other =
      if other = values.kind then s.unfinished other - 1 else s.unfinished other := by
  obtain ⟨hlt,hvalues⟩ := List.getElem?_eq_some_iff.mp hfound
  unfold unfinished withoutWork
  rw [List.countP_set hlt,hvalues]
  by_cases hk : other = values.kind
  · subst hk
    simp [hopen]
  · have hne : values.kind ≠ other := Ne.symm hk
    simp [hk,hne]

theorem counts_withoutWork (h : s.Sound) {work : ℕ} {values : TrackedWork}
    (hfound : s.works[work]? = some values) (hopen : values.finished = false)
    (other : InFlightWorkKind) :
    (s.withoutWork work values).inFlightByKind other =
      (s.withoutWork work values).unfinished other := by
  rw [unfinished_withoutWork hfound hopen]
  by_cases hk : other = values.kind
  · subst hk
    rw [if_pos rfl,← h.counts]
    exact Function.update_self ..
  · rw [if_neg hk,← h.counts]
    exact Function.update_of_ne hk ..

theorem finishWork_first {work : ℕ} {values : TrackedWork}
    (hfound : s.works[work]? = some values) (hopen : values.finished = false) :
    s.finishWork work = if (s.withoutWork work values).inFlightWork = 0 then
      (s.withoutWork work values).resolveIdle else ([],s.withoutWork work values) := by
  unfold finishWork
  rw [hfound]
  simp only [hopen,Bool.false_eq_true,if_false]
  rfl

theorem resolveIdle_sound (s : ApplicationLifecycle)
    (hcounts : ∀ kind, s.inFlightByKind kind = s.unfinished kind)
    (hregistered : ∀ w, w ∈ s.idleWaiters ↔
      ∃ values, s.waiters[w]? = some values ∧ values.settled = false)
    (hdistinct : s.idleWaiters.Nodup)
    (htimers : ∀ (w : ℕ) (values : IdleWaiter), s.waiters[w]? = some values →
      values.timer = !values.settled) :
    s.resolveIdle.2.Sound ∧ s.Settles s.resolveIdle.2 s.resolveIdle.1 := by
  obtain ⟨waiters,heq,hwaiters⟩ := resolveIdle_eq s hregistered hdistinct
  have hlog : (s.idleWaiters.map (·,true)).map Prod.fst = s.idleWaiters := by
    rw [List.map_map]
    exact (List.map_congr_left fun _ _ => rfl).trans (List.map_id _)
  rw [heq]
  constructor
  · refine ⟨hcounts,fun w => ?_,List.nodup_nil,fun _ => rfl,fun w values hfound => ?_⟩
    · constructor
      · intro hw
        exact absurd hw List.not_mem_nil
      · rintro ⟨values,hfound,hopen⟩
        have hfound : waiters[w]? = some values := hfound
        rw [hwaiters] at hfound
        split_ifs at hfound with hw
        · obtain ⟨values',_,rfl⟩ := Option.map_eq_some_iff.mp hfound
          cases hopen
        · exact absurd ((hregistered w).mpr ⟨values,hfound,hopen⟩) hw
    · have hfound : waiters[w]? = some values := hfound
      rw [hwaiters] at hfound
      split_ifs at hfound
      · obtain ⟨values',_,rfl⟩ := Option.map_eq_some_iff.mp hfound
        rfl
      · exact htimers w values hfound
  · refine ⟨fun w => ?_,fun w hw => ?_,?_⟩
    · rw [hlog]
      exact hwaiters w
    · rw [hlog] at hw
      exact (hregistered w).mp hw
    · rw [hlog]
      exact hdistinct

theorem Sound.finishWork (h : s.Sound) (work : ℕ) :
    (s.finishWork work).2.Sound ∧ s.Settles (s.finishWork work).2 (s.finishWork work).1 := by
  have hsame : s.Sound ∧ s.Settles s [] := ⟨h,.of_eq rfl⟩
  cases hfound : s.works[work]? with
  | none => simpa [ApplicationLifecycle.finishWork,hfound] using hsame
  | some values =>
    cases hopen : values.finished with
    | true => simpa [ApplicationLifecycle.finishWork,hfound,hopen] using hsame
    | false =>
      rw [finishWork_first hfound hopen]
      have hcounts := counts_withoutWork h hfound hopen
      split_ifs with hidle
      · obtain ⟨hsound,hsettles⟩ :=
          resolveIdle_sound _ hcounts h.registered h.distinct h.timers
        exact ⟨hsound,hsettles.waiters,hsettles.unsettled,hsettles.distinct⟩
      · exact ⟨⟨hcounts,h.registered,h.distinct,fun hzero => absurd hzero hidle,h.timers⟩,
          .of_eq rfl⟩

theorem Sound.settled (h : s.Sound) {w : ℕ} {values : IdleWaiter}
    (hfound : s.waiters[w]? = some values) :
    ApplicationLifecycle.Sound { s with
      waiters := s.waiters.set w (done values), idleWaiters := s.idleWaiters.erase w } := by
  have hset := getElem?_set_done hfound
  refine ⟨h.counts,fun v => ?_,h.distinct.erase w,fun hzero => ?_,fun v values' hfound' => ?_⟩
  · have hget : (s.waiters.set w (done values))[v]? =
        if v = w then (s.waiters[v]?).map done else s.waiters[v]? := hset v
    rw [h.distinct.mem_erase_iff,h.registered]
    simp only [hget]
    by_cases hv : v = w
    · subst hv
      simp [hfound,done]
    · simp [hv]
  · have hempty := h.idle hzero
    simp [hempty]
  · have hfound' : (s.waiters.set w (done values))[v]? = some values' := hfound'
    rw [hset] at hfound'
    split_ifs at hfound'
    · obtain ⟨values'',_,rfl⟩ := Option.map_eq_some_iff.mp hfound'
      rfl
    · exact h.timers v values' hfound'

theorem Sound.unsettled_of_timer (h : s.Sound) {w : ℕ} {values : IdleWaiter}
    (hfound : s.waiters[w]? = some values) (htimer : values.timer = true) :
    values.settled = false := by
  have hsettled := h.timers w values hfound
  rw [htimer] at hsettled
  simpa using hsettled.symm

theorem Sound.fireTimeout_eq (h : s.Sound) {w : ℕ} {values : IdleWaiter}
    (hfound : s.waiters[w]? = some values)
    (hdue : values.timer = true ∧
      values.registeredAt + timerDelay values.timeoutMs ≤ s.clock) :
    s.fireTimeout w = ([(w,false)],{ s with
      waiters := s.waiters.set w (done values), idleWaiters := s.idleWaiters.erase w }) := by
  have hopen := h.unsettled_of_timer hfound hdue.1
  have hlt := (List.getElem?_eq_some_iff.mp hfound).1
  unfold fireTimeout
  rw [hfound]
  simp only
  rw [if_pos hdue]
  have hfired : (s.waiters.set w { values with timer := false })[w]? =
      some { values with timer := false } := by rw [List.getElem?_set_self hlt]
  have hunsettled : IdleWaiter.settled { values with timer := false } = false := hopen
  rw [settle_of_unsettled hfired hunsettled]
  simp [done,List.set_set]

theorem Sound.fireTimeout (h : s.Sound) (w : ℕ) :
    (s.fireTimeout w).2.Sound ∧ s.Settles (s.fireTimeout w).2 (s.fireTimeout w).1 := by
  have hsame : s.Sound ∧ s.Settles s [] := ⟨h,.of_eq rfl⟩
  cases hfound : s.waiters[w]? with
  | none => simpa [ApplicationLifecycle.fireTimeout,hfound] using hsame
  | some values =>
    by_cases hdue : values.timer = true ∧
        values.registeredAt + timerDelay values.timeoutMs ≤ s.clock
    · have hopen := h.unsettled_of_timer hfound hdue.1
      rw [h.fireTimeout_eq hfound hdue]
      refine ⟨h.settled hfound,fun v => ?_,fun v hv => ?_,List.nodup_singleton w⟩
      · refine (getElem?_set_done hfound v).trans ?_
        by_cases hv : v = w <;> simp [hv]
      · have hv : v = w := by simpa using hv
        exact ⟨values,hv ▸ hfound,hopen⟩
    · simpa [ApplicationLifecycle.fireTimeout,hfound,hdue] using hsame

theorem getElem?_append_waiter (waiters : List IdleWaiter) (values : IdleWaiter) (w : ℕ) :
    (waiters ++ [values])[w]? = if w = waiters.length then some values else waiters[w]? := by
  by_cases hw : w = waiters.length
  · subst hw
    simp
  · rw [if_neg hw]
    rcases Nat.lt_or_gt_of_ne hw with hlt | hlt
    · exact List.getElem?_append_left hlt
    · rw [List.getElem?_eq_none (Nat.le_of_lt hlt)]
      exact List.getElem?_eq_none (by simp; omega)

theorem Sound.waitForIdle (h : s.Sound) (timeoutMs : Millis) :
    (s.waitForIdle timeoutMs).2.Sound := by
  have hnew : s.waiters[s.waiters.length]? = none := List.getElem?_eq_none (Nat.le_refl _)
  unfold ApplicationLifecycle.waitForIdle
  split_ifs with hidle
  · refine ⟨h.counts,fun w => ?_,h.distinct,h.idle,fun w values hfound => ?_⟩
    · simp only [getElem?_append_waiter]
      rw [h.registered]
      by_cases hw : w = s.waiters.length
      · subst hw
        simp
      · simp [hw]
    · simp only [getElem?_append_waiter] at hfound
      split_ifs at hfound
      · cases hfound
        rfl
      · exact h.timers w values hfound
  · refine ⟨h.counts,fun w => ?_,?_,fun hzero => absurd hzero hidle,fun w values hfound => ?_⟩
    · simp only [getElem?_append_waiter,List.mem_append,List.mem_singleton]
      rw [h.registered]
      by_cases hw : w = s.waiters.length
      · subst hw
        simp
      · simp [hw]
    · refine List.nodup_append.mpr ⟨h.distinct,List.nodup_singleton _,fun a ha b hb hab => ?_⟩
      obtain ⟨values,hfound,_⟩ := (h.registered a).mp ha
      have hb : b = s.waiters.length := by simpa using hb
      rw [hab,hb,hnew] at hfound
      cases hfound
    · simp only [getElem?_append_waiter] at hfound
      split_ifs at hfound
      · cases hfound
        rfl
      · exact h.timers w values hfound

/-! ### What has been told -/

def Recorded (s : ApplicationLifecycle) (log : Settlements) : Prop :=
  (log.map Prod.fst).Nodup ∧ ∀ w, w ∈ log.map Prod.fst ↔
    ∃ values, s.waiters[w]? = some values ∧ values.settled = true

theorem Recorded.settles {s' : ApplicationLifecycle} {log log' : Settlements}
    (h : s.Recorded log) (hsettles : s.Settles s' log') : s'.Recorded (log ++ log') := by
  constructor
  · rw [List.map_append,List.nodup_append]
    refine ⟨h.1,hsettles.distinct,fun a ha b hb hab => ?_⟩
    obtain ⟨values,hfound,hsettled⟩ := (h.2 a).mp ha
    obtain ⟨values',hfound',hopen⟩ := hsettles.unsettled b hb
    rw [hab,hfound'] at hfound
    cases hfound
    rw [hopen] at hsettled
    cases hsettled
  · intro w
    rw [List.map_append,List.mem_append,h.2,hsettles.waiters]
    by_cases hw : w ∈ log'.map Prod.fst
    · obtain ⟨values,hfound,_⟩ := hsettles.unsettled w hw
      simp [hw,hfound,done]
    · simp [hw]

theorem Recorded.waitForIdle {log : Settlements} (h : s.Recorded log) (timeoutMs : Millis) :
    (s.waitForIdle timeoutMs).2.Recorded (log ++ (s.waitForIdle timeoutMs).1) := by
  have hnew : s.waiters[s.waiters.length]? = none := List.getElem?_eq_none (Nat.le_refl _)
  have hfresh : s.waiters.length ∉ log.map Prod.fst := by
    rw [h.2,hnew]
    rintro ⟨values,hfound,_⟩
    cases hfound
  unfold ApplicationLifecycle.waitForIdle
  split_ifs with hidle
  · constructor
    · rw [List.map_append,List.nodup_append]
      refine ⟨h.1,List.nodup_singleton _,fun a ha b hb hab => hfresh ?_⟩
      have hb : b = s.waiters.length := by simpa using hb
      rw [← hb,← hab]
      exact ha
    · intro w
      simp only [List.map_append,List.mem_append,getElem?_append_waiter]
      rw [h.2]
      by_cases hw : w = s.waiters.length
      · subst hw
        simp
      · simp [hw]
  · rw [List.append_nil]
    refine ⟨h.1,fun w => ?_⟩
    simp only [getElem?_append_waiter]
    rw [h.2]
    by_cases hw : w = s.waiters.length
    · subst hw
      simp
    · simp [hw]

/-- Calls other than `waitForIdle` change waiters only by settling them. -/
theorem Sound.next (h : s.Sound) (call : LifecycleCall) :
    (applicationLifecycle.next s call).Sound ∧
      ∀ log, s.Recorded log →
        (applicationLifecycle.next s call).Recorded
          (log ++ (applicationLifecycle.step s call).1) := by
  cases call with
  | trackWork kind =>
    exact ⟨h.trackWork kind,fun log hlog => hlog.settles (.of_eq rfl)⟩
  | finishWork work =>
    exact ⟨(h.finishWork work).1,fun log hlog => hlog.settles (h.finishWork work).2⟩
  | waitForIdle timeoutMs =>
    exact ⟨h.waitForIdle timeoutMs,fun log hlog => hlog.waitForIdle timeoutMs⟩
  | fireTimeout waiter =>
    exact ⟨(h.fireTimeout waiter).1,fun log hlog => hlog.settles (h.fireTimeout waiter).2⟩
  | elapse ms =>
    exact ⟨⟨h.counts,h.registered,h.distinct,h.idle,h.timers⟩,
      fun log hlog => hlog.settles (.of_eq rfl)⟩

theorem Sound.told (h : s.Sound) {call : LifecycleCall} {w : ℕ} {idle : Bool}
    (htold : (w,idle) ∈ (applicationLifecycle.step s call).1) :
    idle = true ∧ (applicationLifecycle.next s call).inFlightWork = 0 ∨
      idle = false ∧ ∃ values, s.waiters[w]? = some values ∧ values.settled = false ∧
        values.registeredAt + timerDelay values.timeoutMs ≤ s.clock := by
  cases call with
  | trackWork kind => cases htold
  | finishWork work =>
    have htold : (w,idle) ∈ (s.finishWork work).1 := htold
    refine Or.inl ?_
    show idle = true ∧ (s.finishWork work).2.inFlightWork = 0
    cases hfound : s.works[work]? with
    | none => simp [ApplicationLifecycle.finishWork,hfound] at htold
    | some values =>
      cases hopen : values.finished with
      | true => simp [ApplicationLifecycle.finishWork,hfound,hopen] at htold
      | false =>
        rw [finishWork_first hfound hopen] at htold ⊢
        split_ifs at htold ⊢ with hidle
        · obtain ⟨waiters,heq,_⟩ :=
            resolveIdle_eq (s.withoutWork work values) h.registered h.distinct
          rw [heq] at htold ⊢
          obtain ⟨_,_,hpair⟩ := List.mem_map.mp htold
          cases hpair
          exact ⟨rfl,hidle⟩
        · cases htold
  | waitForIdle timeoutMs =>
    have htold : (w,idle) ∈ (s.waitForIdle timeoutMs).1 := htold
    refine Or.inl ?_
    show idle = true ∧ (s.waitForIdle timeoutMs).2.inFlightWork = 0
    unfold ApplicationLifecycle.waitForIdle at htold ⊢
    split_ifs at htold ⊢ with hidle
    · cases List.mem_singleton.mp htold
      exact ⟨rfl,hidle⟩
    · cases htold
  | fireTimeout waiter =>
    have htold : (w,idle) ∈ (s.fireTimeout waiter).1 := htold
    refine Or.inr ?_
    cases hfound : s.waiters[waiter]? with
    | none => simp [ApplicationLifecycle.fireTimeout,hfound] at htold
    | some values =>
      by_cases hdue : values.timer = true ∧
          values.registeredAt + timerDelay values.timeoutMs ≤ s.clock
      · rw [h.fireTimeout_eq hfound hdue] at htold
        cases List.mem_singleton.mp htold
        exact ⟨rfl,values,hfound,h.unsettled_of_timer hfound hdue.1,hdue.2⟩
      · simp [ApplicationLifecycle.fireTimeout,hfound,hdue] at htold
  | elapse ms => cases htold

/-! ### Timeouts that fit a timer -/

/-- The waiters that are not settled have timeouts that a timer can hold. -/
def Fits (s : ApplicationLifecycle) : Prop :=
  ∀ (w : ℕ) (values : IdleWaiter), s.waiters[w]? = some values → values.settled = false →
    values.timeoutMs ≤ maxTimerDelayMs

theorem le_timerDelay {timeoutMs : Millis} (h : timeoutMs ≤ maxTimerDelayMs) :
    timeoutMs ≤ timerDelay timeoutMs := by
  unfold timerDelay
  split_ifs with hfits
  · exact le_rfl
  · have hlt : ¬ 1 ≤ timeoutMs := fun hle => hfits ⟨hle,h⟩
    exact le_of_lt (not_le.mp hlt)

theorem Fits.settles {s' : ApplicationLifecycle} {log : Settlements} (h : s.Fits)
    (hsettles : s.Settles s' log) : s'.Fits := by
  intro w values hfound hopen
  rw [hsettles.waiters] at hfound
  split_ifs at hfound
  · obtain ⟨values',_,rfl⟩ := Option.map_eq_some_iff.mp hfound
    cases hopen
  · exact h w values hfound hopen

theorem Fits.waitForIdle {timeoutMs : Millis} (h : s.Fits)
    (htimeout : s.inFlightWork ≠ 0 → timeoutMs ≤ maxTimerDelayMs) :
    (s.waitForIdle timeoutMs).2.Fits := by
  unfold ApplicationLifecycle.waitForIdle
  split_ifs with hidle
  · intro w values hfound hopen
    simp only [getElem?_append_waiter] at hfound
    split_ifs at hfound
    · cases hfound
      cases hopen
    · exact h w values hfound hopen
  · intro w values hfound hopen
    simp only [getElem?_append_waiter] at hfound
    split_ifs at hfound
    · cases hfound
      exact htimeout hidle
    · exact h w values hfound hopen

end Steps
end ApplicationLifecycle

def LifecycleCall.FitsTimer (s : ApplicationLifecycle) : LifecycleCall → Prop
  | .waitForIdle timeoutMs => s.inFlightWork ≠ 0 → timeoutMs ≤ maxTimerDelayMs
  | _ => True

instance (s : ApplicationLifecycle) (call : LifecycleCall) : Decidable (call.FitsTimer s) :=
  match call with
  | .waitForIdle timeoutMs =>
    inferInstanceAs (Decidable (s.inFlightWork ≠ 0 → timeoutMs ≤ maxTimerDelayMs))
  | .trackWork _ | .finishWork _ | .fireTimeout _ | .elapse _ => inferInstanceAs (Decidable True)

theorem ApplicationLifecycle.Fits.next {s : ApplicationLifecycle} {call : LifecycleCall}
    (h : s.Fits) (hs : s.Sound) (hcall : call.FitsTimer s) :
    (applicationLifecycle.next s call).Fits := by
  cases call with
  | trackWork kind => exact h
  | finishWork work => exact h.settles (hs.finishWork work).2
  | waitForIdle timeoutMs => exact h.waitForIdle hcall
  | fireTimeout waiter => exact h.settles (hs.fireTimeout waiter).2
  | elapse ms => exact h

/-! ### Runs -/

section Runs

variable {s : ApplicationLifecycle} {clock : Millis} {calls : List LifecycleCall}

abbrev LifecycleEvent := Machine.Event ApplicationLifecycle LifecycleCall Settlements

def settlements (events : List LifecycleEvent) : Settlements :=
  events.flatMap Machine.Event.answer

/-- The drain waits for exactly the outstanding work. The counts are those of the unfinished
works; a waiter is settled at most once, with true only while no work is outstanding and with
false only after its timeout; and when no work is outstanding all are settled and none is
registered. -/
structure WaitsExactly (clock : Millis) (calls : List LifecycleCall) : Prop where
  counts : ∀ kind, (applicationLifecycle.run (.initial clock) calls).inFlightByKind kind =
    (applicationLifecycle.run (.initial clock) calls).unfinished kind
  once : ((settlements (applicationLifecycle.events (.initial clock) calls)).map Prod.fst).Nodup
  idle : ∀ e ∈ applicationLifecycle.events (.initial clock) calls, ∀ w, (w,true) ∈ e.answer →
    e.after.inFlightWork = 0
  late : ∀ e ∈ applicationLifecycle.events (.initial clock) calls, ∀ w, (w,false) ∈ e.answer →
    ∃ values, e.before.waiters[w]? = some values ∧
      values.registeredAt + values.timeoutMs ≤ e.before.clock
  released : (applicationLifecycle.run (.initial clock) calls).inFlightWork = 0 →
    (applicationLifecycle.run (.initial clock) calls).idleWaiters = [] ∧
      ∀ w < (applicationLifecycle.run (.initial clock) calls).waiters.length,
        w ∈ (settlements (applicationLifecycle.events (.initial clock) calls)).map Prod.fst

def TimeoutsFit (clock : Millis) (calls : List LifecycleCall) : Prop :=
  ∀ e ∈ applicationLifecycle.events (.initial clock) calls, e.input.FitsTimer e.before

instance (clock : Millis) (calls : List LifecycleCall) : Decidable (TimeoutsFit clock calls) :=
  inferInstanceAs (Decidable (∀ e ∈ applicationLifecycle.events (.initial clock) calls,
    e.input.FitsTimer e.before))

theorem recorded_run {log : Settlements} (hs : s.Sound) (hlog : s.Recorded log)
    (calls : List LifecycleCall) :
    (applicationLifecycle.run s calls).Sound ∧
      (applicationLifecycle.run s calls).Recorded
        (log ++ settlements (applicationLifecycle.events s calls)) := by
  induction calls generalizing s log with
  | nil => exact ⟨hs,by simpa [settlements] using hlog⟩
  | cons call calls ih =>
    obtain ⟨hnext,hrecorded⟩ := hs.next call
    have hrest := ih hnext (hrecorded log hlog)
    rw [List.append_assoc] at hrest
    exact hrest

theorem recorded_initial (clock : Millis) : (ApplicationLifecycle.initial clock).Recorded [] := by
  constructor
  · exact List.nodup_nil
  · intro w
    simp [ApplicationLifecycle.initial]

theorem sound_before {e : LifecycleEvent}
    (he : e ∈ applicationLifecycle.events (.initial clock) calls) : e.before.Sound :=
  Machine.Stable.before (fun _ call h => (h.next call).1)
    (ApplicationLifecycle.initial_sound clock) he

theorem fits_before (hfit : TimeoutsFit clock calls) {e : LifecycleEvent}
    (he : e ∈ applicationLifecycle.events (.initial clock) calls) : e.before.Fits := by
  have hstart : (ApplicationLifecycle.initial clock).Fits := fun w values hfound _ => by
    simp [ApplicationLifecycle.initial] at hfound
  have hboth : e.before.Sound ∧ e.before.Fits := applicationLifecycle.before_of_events
    (P := fun s => s.Sound ∧ s.Fits) (C := fun s call => call.FitsTimer s)
    (fun _ call hcall h => ⟨(h.1.next call).1,h.2.next h.1 hcall⟩)
    ⟨ApplicationLifecycle.initial_sound clock,hstart⟩ hfit he
  exact hboth.2

/-- The drain waits for exactly the outstanding work in every run whose timeouts fit a timer. -/
theorem lifecycle_waits_exactly (clock : Millis) (calls : List LifecycleCall)
    (hfit : TimeoutsFit clock calls) : WaitsExactly clock calls := by
  obtain ⟨hsound,hrecorded⟩ := recorded_run (ApplicationLifecycle.initial_sound clock)
    (recorded_initial clock) calls
  rw [List.nil_append] at hrecorded
  refine ⟨hsound.counts,hrecorded.1,fun e he w htold => ?_,fun e he w htold => ?_,
    fun hzero => ?_⟩
  · have hevent := applicationLifecycle.mem_events_eq he
    rw [hevent] at htold ⊢
    rcases (sound_before he).told htold with ⟨_,hidle⟩ | ⟨hfalse,_⟩
    · exact hidle
    · cases hfalse
  · have hevent := applicationLifecycle.mem_events_eq he
    have hanswer : (w,false) ∈ (applicationLifecycle.step e.before e.input).1 := by
      rw [hevent] at htold
      exact htold
    rcases (sound_before he).told hanswer with ⟨htrue,_⟩ | ⟨_,values,hfound,hopen,hdue⟩
    · cases htrue
    · have hdelay := ApplicationLifecycle.le_timerDelay (fits_before hfit he w values hfound hopen)
      exact ⟨values,hfound,le_trans (Int.add_le_add_left hdelay _) hdue⟩
  · have hempty := hsound.idle hzero
    refine ⟨hempty,fun w hw => (hrecorded.2 w).mpr ⟨_,List.getElem?_eq_getElem hw,?_⟩⟩
    by_contra hopen
    have hregistered := (hsound.registered w).mpr
      ⟨_,List.getElem?_eq_getElem hw,Bool.eq_false_iff.mpr hopen⟩
    rw [hempty] at hregistered
    cases hregistered

end Runs

/-- A work that ends after the first of two waiters has given up. -/
def sampleDrain : List LifecycleCall :=
  [.trackWork .http,.trackWork .realtime,.waitForIdle 1000,.waitForIdle 5000,.finishWork 0,
    .elapse 1000,.fireTimeout 0,.finishWork 0,.finishWork 1,.fireTimeout 1]

theorem lifecycle_waits_exactly_sample : WaitsExactly 0 sampleDrain :=
  lifecycle_waits_exactly 0 sampleDrain (by decide)

def longWait : List LifecycleCall :=
  [.trackWork .http,.waitForIdle 2147483648,.elapse 1,.fireTimeout 0]

/-- A waiter with a timeout that no timer can hold gives up after a millisecond. -/
theorem long_wait_is_cut : ¬ ∀ clock calls, WaitsExactly clock calls := by
  intro h
  have hlate : ∀ e ∈ applicationLifecycle.events (.initial 0) longWait, (0,false) ∈ e.answer →
      ∀ values ∈ e.before.waiters[0]?,
        values.registeredAt + values.timeoutMs ≤ e.before.clock := by
    intro e he htold values hvalues
    obtain ⟨values',hfound,hle⟩ := (h 0 longWait).late e he 0 htold
    rw [hfound] at hvalues
    cases hvalues
    exact hle
  revert hlate
  decide

end CluChess
