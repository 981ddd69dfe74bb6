import CluChess.ConcurrentAllocation
import CluChess.LockOrder
import Mathlib.Algebra.Group.Action.Defs
import Mathlib.Algebra.Order.BigOperators.Group.List

/-! The calls of `allocate` do not deadlock: `lockGuestSessions` locks the rows of the guests in the
order of their identifiers. -/
namespace CluChess

namespace AllocateCall

def pending (call : AllocateCall) : List GuestSessionId :=
  match call.phase with
  | .lockGuestSessions guests => guests
  | _ => []

def lockUse (call : AllocateCall) : LockUse GuestSessionId := ⟨call.held,call.pending.head?⟩

def remaining (call : AllocateCall) : ℕ :=
  match call.phase with
  | .lockGuestSessions guests => guests.length + 5
  | .findExisting => 4
  | .countEligible => 3
  | .findAssignment => 2
  | .create => 1

structure Sorted (call : AllocateCall) : Prop where
  pending : call.pending.Pairwise (· < ·)
  held : ∀ lock ∈ call.held, ∀ guest ∈ call.pending, lock < guest
  few : call.pending.length ≤ 2

theorem Sorted.inOrder {call : AllocateCall} (h : call.Sorted) : call.lockUse.InOrder :=
  fun lock hlock other hother => h.held other hother lock (List.mem_of_mem_head? hlock)

theorem start_sorted {input : AllocateGame} : (start input).Sorted where
  pending := by
    have hnodup : (sortedIds (guestIds input)).Nodup :=
      (List.perm_insertionSort _ _).nodup_iff.mpr (List.nodup_dedup _)
    exact ((List.pairwise_insertionSort _ _).and hnodup).imp fun h => lt_of_le_of_ne h.1 h.2
  held lock hlock := absurd hlock List.not_mem_nil
  few := by
    show (sortedIds (guestIds input)).length ≤ 2
    rw [sortedIds,List.length_insertionSort]
    exact (List.dedup_sublist _).length_le

theorem remaining_pos (call : AllocateCall) : 0 < call.remaining := by
  unfold remaining
  split <;> omega

theorem Sorted.remaining_le {call : AllocateCall} (h : call.Sorted) : call.remaining ≤ 7 := by
  obtain ⟨input,phase,held⟩ := call
  have hfew := h.few
  cases phase with
  | lockGuestSessions guests => exact Nat.add_le_add_right hfew 5
  | _ => simp [remaining]

theorem sorted_of_pending {call : AllocateCall} (h : call.pending = []) : call.Sorted where
  pending := by rw [h]; exact .nil
  held _ _ guest hguest := by rw [h] at hguest; cases hguest
  few := by simp [h]

theorem statement_next {s : AllocationState} {call call' : AllocateCall}
    (h : call.statement s = .next call') (hs : call.Sorted) :
    call'.Sorted ∧ call'.remaining < call.remaining := by
  obtain ⟨input,phase,held⟩ := call
  cases phase with
  | lockGuestSessions guests =>
    cases guests with
    | nil =>
      cases h
      exact ⟨sorted_of_pending rfl,by simp [remaining]⟩
    | cons guest guests =>
      obtain ⟨hfirst,hrest⟩ := List.pairwise_cons.mp hs.pending
      have hfew : guests.length ≤ 2 := (Nat.le_succ _).trans hs.few
      have hafter : ∀ lock ∈ held, ∀ other ∈ guests, lock < other := fun lock hlock other hother =>
        hs.held lock hlock other (List.mem_cons_of_mem _ hother)
      simp only [statement] at h
      split_ifs at h
      · cases h
        exact ⟨⟨hrest,hafter,hfew⟩,by simp [remaining]⟩
      · cases h
        refine ⟨⟨hrest,fun lock hlock other hother => ?_,hfew⟩,by simp [remaining]⟩
        rcases List.mem_cons.mp hlock with rfl | hlock
        · exact hfirst other hother
        · exact hafter lock hlock other hother
  | findExisting =>
    simp only [statement] at h
    split at h
    · cases h
    · cases h
      exact ⟨sorted_of_pending rfl,by simp [remaining]⟩
  | countEligible =>
    simp only [statement] at h
    split_ifs at h
    cases h
    exact ⟨sorted_of_pending rfl,by simp [remaining]⟩
  | findAssignment =>
    simp only [statement] at h
    split_ifs at h
    cases h
    exact ⟨sorted_of_pending rfl,by simp [remaining]⟩
  | create => cases h

theorem statement_granted {s : AllocationState} {call : AllocateCall}
    (h : ∀ lock ∈ call.lockUse.wants, lock ∉ s.locked) : call.statement s ≠ .waits := by
  obtain ⟨input,phase,held⟩ := call
  cases phase with
  | lockGuestSessions guests =>
    cases guests with
    | nil => simp [statement]
    | cons guest guests =>
      have hfree : guest ∉ s.locked := h guest rfl
      simp only [statement,if_neg hfree]
      split_ifs <;> simp
  | findExisting =>
    simp only [statement]
    split <;> simp
  | countEligible =>
    simp only [statement]
    split_ifs <;> simp
  | findAssignment =>
    simp only [statement]
    split_ifs <;> simp
  | create => simp [statement]

end AllocateCall

namespace AllocationState

def work (s : AllocationState) : ℕ := (s.calls.map AllocateCall.remaining).sum

/-- At most so many calls are open, and each locks in the order of the identifiers. -/
structure Orderly (bound : ℕ) (s : AllocationState) : Prop where
  sorted : ∀ call ∈ s.calls, call.Sorted
  bounded : s.calls.length ≤ bound

theorem work_eq_zero {s : AllocationState} (h : s.work = 0) : s.calls = [] := by
  cases hcalls : s.calls with
  | nil => rfl
  | cons call calls =>
    have hpos := call.remaining_pos
    rw [work,hcalls,List.map_cons,List.sum_cons] at h
    omega

theorem Orderly.work_le {bound : ℕ} {s : AllocationState} (h : s.Orderly bound) :
    s.work ≤ 7*s.calls.length := by
  have hle := List.sum_le_card_nsmul (s.calls.map AllocateCall.remaining) 7 fun n hn => by
    obtain ⟨call,hcall,rfl⟩ := List.mem_map.mp hn
    exact (h.sorted call hcall).remaining_le
  rw [List.length_map,smul_eq_mul,Nat.mul_comm] at hle
  exact hle

theorem sum_map_set_lt {α : Type*} {f : α → ℕ} {l : List α} {k : ℕ} {a b : α} (h : l[k]? = some a)
    (hlt : f b < f a) : ((l.set k b).map f).sum < (l.map f).sum := by
  induction l generalizing k with
  | nil => cases h
  | cons x l ih =>
    cases k with
    | zero =>
      cases h
      simpa using hlt
    | succ k =>
      have hrest := ih h
      simp only [List.set_cons_succ,List.map_cons,List.sum_cons]
      omega

theorem sum_map_eraseIdx {α : Type*} {f : α → ℕ} {l : List α} {k : ℕ} {a : α} (h : l[k]? = some a) :
    ((l.eraseIdx k).map f).sum + f a = (l.map f).sum := by
  induction l generalizing k with
  | nil => cases h
  | cons x l ih =>
    cases k with
    | zero =>
      cases h
      simp [Nat.add_comm]
    | succ k =>
      have hrest := ih h
      simp only [List.eraseIdx_cons_succ,List.map_cons,List.sum_cons]
      omega

variable {bound : ℕ} {s : AllocationState}

theorem Orderly.finish (h : s.Orderly bound) {index : ℕ} {call : AllocateCall}
    (hcall : s.calls[index]? = some call) {s' : AllocationState}
    (hs' : s'.calls = s.calls.eraseIdx index) : s'.Orderly bound ∧ s'.work < s.work := by
  refine ⟨⟨fun other hother => ?_,?_⟩,?_⟩
  · rw [hs'] at hother
    exact h.sorted other (List.mem_of_mem_eraseIdx hother)
  · rw [hs']
    exact (List.eraseIdx_sublist _ _).length_le.trans h.bounded
  · have hsum := sum_map_eraseIdx (f := AllocateCall.remaining) hcall
    have hpos := call.remaining_pos
    rw [work,hs',work]
    omega

theorem Orderly.advance (chess : ChessEngine) (h : s.Orderly bound) {index : ℕ}
    {call : AllocateCall} (hcall : s.calls[index]? = some call)
    (hgranted : call.statement s ≠ .waits) :
    (s.step chess (.advance index)).2.Orderly bound ∧
      (s.step chess (.advance index)).2.work < s.work := by
  have hmem : call ∈ s.calls := List.mem_of_getElem? hcall
  simp only [step,hcall]
  cases hstatement : call.statement s with
  | waits => exact absurd hstatement hgranted
  | next call' =>
    obtain ⟨hsorted,hlt⟩ := AllocateCall.statement_next hstatement (h.sorted call hmem)
    refine ⟨⟨fun other hother => ?_,?_⟩,sum_map_set_lt hcall hlt⟩
    · rcases List.mem_or_eq_of_mem_set hother with hold | rfl
      · exact h.sorted other hold
      · exact hsorted
    · rw [List.length_set]
      exact h.bounded
  | ends work => exact h.finish hcall rfl

/-- Apart from new calls, whatever happens leaves less to do, or leaves the calls as they are. -/
theorem Orderly.next (chess : ChessEngine) (h : s.Orderly bound) {event : AllocationEvent}
    (he : ∀ input, event ≠ .call input) : ((allocations chess).next s event).Orderly bound ∧
      Machine.NoWorse AllocationState.work AllocationState.calls s
        ((allocations chess).next s event) := by
  have hsame : ∀ {s' : AllocationState}, s'.calls = s.calls → s'.Orderly bound ∧
      Machine.NoWorse AllocationState.work AllocationState.calls s s' := fun hcalls =>
    ⟨⟨hcalls ▸ h.sorted,hcalls ▸ h.bounded⟩,Or.inr ⟨by rw [work,work,hcalls],hcalls⟩⟩
  change (s.step chess event).2.Orderly bound ∧
    Machine.NoWorse AllocationState.work AllocationState.calls s (s.step chess event).2
  cases event with
  | call input => exact absurd rfl (he input)
  | advance index =>
    cases hcall : s.calls[index]? with
    | none =>
      simp only [step,hcall]
      exact hsame rfl
    | some call =>
      by_cases hwaits : call.statement s = .waits
      · simp only [step,hcall,hwaits]
        exact hsame rfl
      · exact (h.advance chess hcall hwaits).imp_right Or.inl
  | abort index kind =>
    cases hcall : s.calls[index]? with
    | none =>
      simp only [step,hcall]
      exact hsame rfl
    | some call =>
      simp only [step,hcall]
      exact (h.finish hcall rfl).imp_right Or.inl
  | execute operation =>
    simp only [step]
    split_ifs
    · exact hsame rfl
    · exact hsame rfl

/-- While a call is open, some call is not kept waiting by what the others have locked. -/
theorem Orderly.urgent (chess : ChessEngine) (h : s.Orderly bound) (hwork : s.work ≠ 0) :
    ∃ index < s.calls.length, (allocations chess).Urgent (Orderly bound) AllocationState.work
      AllocationState.calls s (.advance index) := by
  have hne : s.calls.map AllocateCall.lockUse ≠ [] := by
    intro hnil
    rw [List.map_eq_nil_iff] at hnil
    exact hwork (by rw [work,hnil]; rfl)
  have hinOrder : ∀ p ∈ s.calls.map AllocateCall.lockUse, p.InOrder := by
    intro p hp
    obtain ⟨call,hcall,rfl⟩ := List.mem_map.mp hp
    exact (h.sorted call hcall).inOrder
  obtain ⟨p,hp,hgranted⟩ := LockUse.exists_granted hne hinOrder
  obtain ⟨call,hmem,rfl⟩ := List.mem_map.mp hp
  obtain ⟨index,hlt,hcall⟩ := List.getElem_of_mem hmem
  refine ⟨index,hlt,fun s' hs' hcalls => ?_⟩
  have hget : s'.calls[index]? = some call := by
    rw [hcalls,List.getElem?_eq_getElem hlt,hcall]
  have hfree : call.statement s' ≠ .waits := by
    refine AllocateCall.statement_granted fun lock hlock hlocked => ?_
    rw [locked,hcalls] at hlocked
    obtain ⟨other,hother,hheld⟩ := List.mem_flatMap.mp hlocked
    exact hgranted lock hlock other.lockUse (List.mem_map_of_mem hother) hheld
  exact (hs'.advance chess hget hfree).2

theorem sorted_of_run (chess : ChessEngine) (guestSessions : Table GuestSession.id)
    (sessionCommands : Table SessionCommand.idempotencyHash) (schedule : List AllocationEvent) :
    ∀ call ∈ ((allocations chess).run (initial guestSessions sessionCommands) schedule).calls,
      call.Sorted := by
  refine (allocations chess).run_invariant (P := fun s => ∀ call ∈ s.calls, call.Sorted)
    (Q := fun _ => True) (fun s event _ hs => ?_) (by simp [initial]) (by simp)
  have horderly : s.Orderly s.calls.length := ⟨hs,le_rfl⟩
  by_cases hcall : ∃ input, event = .call input
  · obtain ⟨input,rfl⟩ := hcall
    change ∀ call ∈ (s.step chess (.call input)).2.calls, call.Sorted
    simp only [step]
    split_ifs
    · exact hs
    · intro call hmem
      rcases List.mem_append.mp hmem with hold | hnew
      · exact hs call hold
      · rw [List.mem_singleton.mp hnew]
        exact AllocateCall.start_sorted
  · exact (horderly.next chess fun input hinput => hcall ⟨input,hinput⟩).1.sorted

end AllocationState

/-- The calls of `allocate` never deadlock. Whatever calls are open after whatever run, seven rounds
for each call end all of them, if every round gives each of them a turn and no further call is made.
Within a round the turns come in any order, and between them any transaction may fail and any other
operation may run. -/
theorem allocations_complete (chess : ChessEngine) (guestSessions : Table GuestSession.id)
    (sessionCommands : Table SessionCommand.idempotencyHash) (schedule : List AllocationEvent)
    {s : AllocationState}
    (hs : (allocations chess).run (.initial guestSessions sessionCommands) schedule = s)
    {rounds : List (List AllocationEvent)}
    (hcalls : ∀ round ∈ rounds, ∀ input, .call input ∉ round)
    (hturns : ∀ round ∈ rounds, ∀ index < s.calls.length, .advance index ∈ round)
    (hlength : 7*s.calls.length ≤ rounds.length) :
    ((allocations chess).run s rounds.flatten).calls = [] := by
  have horderly : s.Orderly s.calls.length :=
    ⟨hs ▸ AllocationState.sorted_of_run chess guestSessions sessionCommands schedule,le_rfl⟩
  refine AllocationState.work_eq_zero ((allocations chess).run_rounds
    (Q := fun event => ∀ input, event ≠ .call input)
    (fun _ _ he h => h.next chess he) horderly (fun round hround event hevent input hinput =>
      hcalls round hround input (hinput ▸ hevent)) (fun round hround s' hs' hwork => ?_)
    (horderly.work_le.trans hlength))
  obtain ⟨index,hlt,hurgent⟩ := hs'.urgent chess hwork
  exact ⟨_,hturns round hround index (hlt.trans_le hs'.bounded),hurgent⟩

section Sample

/-- Two matches of the same guests, whose colours are exchanged. -/
def sampleCrossed : List AllocationEvent :=
  [.call sampleAllocation,
    .call { sampleAllocation with
      blackGuestSessionId := sampleId 1
      gameId := sampleId 11
      matchId := sampleId 21
      whiteGuestSessionId := sampleId 2 },
    .advance 0,.advance 1]

end Sample

/-- The second call waits for the row that the first one has locked, and both end. -/
theorem allocations_complete_sample :
    ((allocations sampleEngine).run (.initial sampleSessions .empty) sampleCrossed).calls.map
      AllocateCall.held = [[sampleId 1],[]] ∧
    ((allocations sampleEngine).run
      ((allocations sampleEngine).run (.initial sampleSessions .empty) sampleCrossed)
      (List.replicate 14 [.advance 1,.advance 0]).flatten).calls = [] := by
  have hlength : ((allocations sampleEngine).run (.initial sampleSessions .empty)
      sampleCrossed).calls.length = 2 := rfl
  refine ⟨rfl,allocations_complete sampleEngine sampleSessions .empty sampleCrossed rfl ?_ ?_ ?_⟩
  · intro round hround input
    rw [List.eq_of_mem_replicate hround]
    simp
  · intro round hround index hindex
    rw [List.eq_of_mem_replicate hround]
    rw [hlength] at hindex
    rcases (by omega : index = 0 ∨ index = 1) with rfl | rfl
    · exact List.mem_cons_of_mem _ List.mem_cons_self
    · exact List.mem_cons_self
  · rw [hlength,List.length_replicate]

end CluChess
