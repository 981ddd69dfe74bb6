import Mathlib.Data.List.Dedup
import CluChess.DurableDatabase
import CluChess.TerminalOutcome

/-! Calls of `allocate` statement by statement. Any number of them and any other repository
operations interleave; a statement sees what is committed when it runs, the guest rows stay
locked until the transaction ends, and the insert and the commit are one step because an
insert that clashes with an uncommitted one waits for it. -/
namespace CluChess

inductive AllocatePhase
  | lockGuestSessions (guests : List GuestSessionId)
  | findExisting
  | countEligible
  | findAssignment
  | create
  deriving DecidableEq, Repr

/-- A call of `allocate` whose transaction is open, with the guest rows it has locked. -/
structure AllocateCall where
  input : AllocateGame
  phase : AllocatePhase
  held : List GuestSessionId
  deriving DecidableEq, Repr

structure AllocationState where
  db : Db
  calls : List AllocateCall

def AllocationState.locked (s : AllocationState) : List GuestSessionId :=
  s.calls.flatMap AllocateCall.held

/-- What a statement leads to: it waits for a row lock, the call goes on, or the transaction
ends with its result. -/
inductive AllocateStatement
  | waits
  | next (call : AllocateCall)
  | ends (work : Except DatabaseErrorKind (AllocationTransactionResult × Db))

namespace AllocateCall

def guestIds (input : AllocateGame) : List GuestSessionId :=
  [input.whiteGuestSessionId,input.blackGuestSessionId]

def start (input : AllocateGame) : AllocateCall :=
  ⟨input,.lockGuestSessions (sortedIds (guestIds input)),[]⟩

def statement (s : AllocationState) (call : AllocateCall) : AllocateStatement :=
  match call.phase with
  | .lockGuestSessions [] => .next { call with phase := .findExisting }
  | .lockGuestSessions (guest :: guests) =>
    if s.db.guestSessions.find guest = none then
      .next { call with phase := .lockGuestSessions guests }
    else if guest ∈ s.locked then .waits
    else .next { call with phase := .lockGuestSessions guests, held := guest :: call.held }
  | .findExisting =>
    match s.db.gameByMatchId call.input.matchId with
    | some existing =>
      .ends (.ok (if matchesReservation existing call.input then .allocated existing
        else .mismatch,s.db))
    | none => .next { call with phase := .countEligible }
  | .countEligible =>
    if s.db.eligibleGuests (guestIds call.input) call.input.observedAt ≠ 2 then
      .ends (.ok (.ineligible,s.db))
    else .next { call with phase := .findAssignment }
  | .findAssignment =>
    if (s.db.findAssignment (guestIds call.input)).isSome then .ends (.ok (.conflict,s.db))
    else .next { call with phase := .create }
  | .create => .ends (s.db.createAllocation call.input)

end AllocateCall

def Operation.lockedGuest : Operation → Option GuestSessionId
  | .session (.renew _ input) => some input.guestSessionId
  | .session (.reset _ input) => some input.guestSessionId
  | _ => none

/-- A choice of the scheduler: a new call, the next statement of the call at a position, the
failure of that call's transaction, or another repository operation. -/
inductive AllocationEvent
  | call (input : AllocateGame)
  | advance (index : ℕ)
  | abort (index : ℕ) (kind : DatabaseErrorKind)
  | execute (operation : Operation)

abbrev AllocationAnswer := AllocateGame × Except RepositoryError GameAllocation

namespace AllocationState

/-- The answer of an operation that is itself an allocation. -/
def answerOf : Operation → Answer → Option AllocationAnswer
  | .allocate input,.allocation result => some (input,result)
  | _,_ => none

def finish (s : AllocationState) (index : ℕ) (input : AllocateGame)
    (work : Except DatabaseErrorKind (AllocationTransactionResult × Db)) :
    Option AllocationAnswer × AllocationState :=
  let (result,db) := Db.answered (s.db.transaction work) Db.allocationAnswer
  (some (input,result),⟨db,s.calls.eraseIdx index⟩)

def step (chess : ChessEngine) (s : AllocationState) :
    AllocationEvent → Option AllocationAnswer × AllocationState
  | .call input =>
    if input.whiteGuestSessionId = input.blackGuestSessionId then
      (some (input,(s.db.allocate input).1),s)
    else (none,{ s with calls := s.calls ++ [AllocateCall.start input] })
  | .advance index =>
    match s.calls[index]? with
    | none => (none,s)
    | some call =>
      match call.statement s with
      | .waits => (none,s)
      | .next call => (none,{ s with calls := s.calls.set index call })
      | .ends work => s.finish index call.input work
  | .abort index kind =>
    match s.calls[index]? with
    | none => (none,s)
    | some call => s.finish index call.input (.error kind)
  | .execute operation =>
    if operation.lockedGuest.any (· ∈ s.locked) then (none,s)
    else
      let (answer,db) := execute chess s.db operation
      (answerOf operation answer,{ s with db := db })

end AllocationState

def allocations (chess : ChessEngine) :
    Machine AllocationState AllocationEvent (Option AllocationAnswer) :=
  ⟨AllocationState.step chess⟩

section Alone

/-! A call that runs alone is the atomic `allocate` of the repositories. -/

variable {chess : ChessEngine} {db : Db} {input : AllocateGame}

/-- What a schedule answers, and the state it leads to. -/
def outcome (chess : ChessEngine) (s : AllocationState) (schedule : List AllocationEvent) :
    List AllocationAnswer × AllocationState :=
  (((allocations chess).events s schedule).filterMap Machine.Event.answer,
    (allocations chess).run s schedule)

theorem outcome_cons {s s' : AllocationState} {event : AllocationEvent}
    {answer : Option AllocationAnswer} (h : s.step chess event = (answer,s'))
    (schedule : List AllocationEvent) :
    outcome chess s (event :: schedule) =
      (answer.toList ++ (outcome chess s' schedule).1,(outcome chess s' schedule).2) := by
  have hnext : (allocations chess).next s event = s' := congrArg Prod.snd h
  have hanswer : ((allocations chess).event s event).answer = answer := congrArg Prod.fst h
  simp only [outcome,Machine.events_cons,Machine.run_cons,hnext,List.filterMap_cons,hanswer]
  cases answer <;> rfl

theorem outcome_idle (db : Db) (n : ℕ) :
    outcome chess ⟨db,[]⟩ (List.replicate n (.advance 0)) = ([],⟨db,[]⟩) := by
  induction n with
  | zero => rfl
  | succ n ih =>
    have hstep : AllocationState.step chess ⟨db,[]⟩ (.advance 0) = (none,⟨db,[]⟩) := rfl
    rw [List.replicate_succ,outcome_cons hstep,ih]
    rfl

theorem outcome_next {call call' : AllocateCall} (h : call.statement ⟨db,[call]⟩ = .next call')
    (n : ℕ) : outcome chess ⟨db,[call]⟩ (List.replicate (n + 1) (.advance 0)) =
      outcome chess ⟨db,[call']⟩ (List.replicate n (.advance 0)) := by
  have hstep : AllocationState.step chess ⟨db,[call]⟩ (.advance 0) = (none,⟨db,[call']⟩) := by
    simp [AllocationState.step,h]
  rw [List.replicate_succ,outcome_cons hstep]
  rfl

theorem outcome_ends {call : AllocateCall}
    {work : Except DatabaseErrorKind (AllocationTransactionResult × Db)}
    (h : call.statement ⟨db,[call]⟩ = .ends work) (n : ℕ) :
    outcome chess ⟨db,[call]⟩ (List.replicate (n + 1) (.advance 0)) =
      ([(call.input,(Db.answered (db.transaction work) Db.allocationAnswer).1)],
        ⟨(Db.answered (db.transaction work) Db.allocationAnswer).2,[]⟩) := by
  have hstep : AllocationState.step chess ⟨db,[call]⟩ (.advance 0) =
      (some (call.input,(Db.answered (db.transaction work) Db.allocationAnswer).1),
        ⟨(Db.answered (db.transaction work) Db.allocationAnswer).2,[]⟩) := by
    simp [AllocationState.step,h,AllocationState.finish]
  rw [List.replicate_succ,outcome_cons hstep,outcome_idle]
  rfl

theorem outcome_locks {guests held : List GuestSessionId} (hg : guests.Nodup)
    (hh : ∀ guest ∈ guests, guest ∉ held) (n : ℕ) :
    ∃ held', outcome chess ⟨db,[⟨input,.lockGuestSessions guests,held⟩]⟩
        (List.replicate (guests.length + 1 + n) (.advance 0)) =
      outcome chess ⟨db,[⟨input,.findExisting,held'⟩]⟩ (List.replicate n (.advance 0)) := by
  induction guests generalizing held with
  | nil =>
    refine ⟨held,?_⟩
    rw [List.length_nil,Nat.zero_add,Nat.add_comm]
    exact outcome_next rfl n
  | cons guest guests ih =>
    obtain ⟨hnew,hrest⟩ := List.nodup_cons.mp hg
    have hlen : (guest :: guests).length + 1 + n = guests.length + 1 + n + 1 := by
      rw [List.length_cons]
      omega
    rw [hlen]
    by_cases hrow : db.guestSessions.find guest = none
    · obtain ⟨held',h⟩ := ih hrest fun x hx => hh x (List.mem_cons_of_mem _ hx)
      refine ⟨held',(outcome_next ?_ _).trans h⟩
      simp [AllocateCall.statement,hrow]
    · have hfree : ∀ x ∈ guests, x ∉ guest :: held := by
        intro x hx hmem
        rcases List.mem_cons.mp hmem with rfl | hmem
        · exact hnew hx
        · exact hh x (List.mem_cons_of_mem _ hx) hmem
      obtain ⟨held',h⟩ := ih hrest hfree
      refine ⟨held',(outcome_next ?_ _).trans h⟩
      have hgranted : guest ∉ held := hh guest List.mem_cons_self
      simp [AllocateCall.statement,hrow,AllocationState.locked,hgranted]

/-- The statements after the locks, one after the other, are `allocateInTransaction`. -/
theorem outcome_statements (db : Db) (input : AllocateGame) (held : List GuestSessionId) :
    outcome chess ⟨db,[⟨input,.findExisting,held⟩]⟩ (List.replicate 4 (.advance 0)) =
      ([(input,(Db.answered (db.transaction (db.allocateInTransaction input))
          Db.allocationAnswer).1)],
        ⟨(Db.answered (db.transaction (db.allocateInTransaction input))
          Db.allocationAnswer).2,[]⟩) := by
  unfold Db.allocateInTransaction
  cases hm : db.gameByMatchId input.matchId with
  | some existing =>
    refine outcome_ends ?_ 3
    simp [AllocateCall.statement,hm]
  | none =>
    have hcount : AllocateCall.statement ⟨db,[⟨input,.findExisting,held⟩]⟩
        ⟨input,.findExisting,held⟩ = .next ⟨input,.countEligible,held⟩ := by
      simp [AllocateCall.statement,hm]
    rw [outcome_next hcount 3]
    by_cases he : db.eligibleGuests (AllocateCall.guestIds input) input.observedAt ≠ 2
    · have hineligible : AllocateCall.statement ⟨db,[⟨input,.countEligible,held⟩]⟩
          ⟨input,.countEligible,held⟩ = .ends (.ok (.ineligible,db)) := by
        simp [AllocateCall.statement,he]
      rw [outcome_ends hineligible 2]
      simp only [AllocateCall.guestIds] at he
      simp [he]
    · have hassignment : AllocateCall.statement ⟨db,[⟨input,.countEligible,held⟩]⟩
          ⟨input,.countEligible,held⟩ = .next ⟨input,.findAssignment,held⟩ := by
        simp [AllocateCall.statement,he]
      rw [outcome_next hassignment 2]
      simp only [AllocateCall.guestIds] at he
      by_cases ha : (db.findAssignment (AllocateCall.guestIds input)).isSome = true
      · have hconflict : AllocateCall.statement ⟨db,[⟨input,.findAssignment,held⟩]⟩
            ⟨input,.findAssignment,held⟩ = .ends (.ok (.conflict,db)) := by
          simp [AllocateCall.statement,ha]
        rw [outcome_ends hconflict 1]
        simp only [AllocateCall.guestIds] at ha
        simp [he,ha]
      · have hcreate : AllocateCall.statement ⟨db,[⟨input,.findAssignment,held⟩]⟩
            ⟨input,.findAssignment,held⟩ = .next ⟨input,.create,held⟩ := by
          simp [AllocateCall.statement,ha]
        have hends : AllocateCall.statement ⟨db,[⟨input,.create,held⟩]⟩
            ⟨input,.create,held⟩ = .ends (db.createAllocation input) := rfl
        rw [outcome_next hcreate 1,outcome_ends hends 0]
        simp only [AllocateCall.guestIds] at ha
        simp [he,ha]

theorem allocate_alone (chess : ChessEngine) (db : Db) (input : AllocateGame) :
    outcome chess ⟨db,[]⟩ (.call input :: List.replicate 7 (.advance 0)) =
      ([(input,(db.allocate input).1)],⟨(db.allocate input).2,[]⟩) := by
  by_cases hd : input.whiteGuestSessionId = input.blackGuestSessionId
  · have hstep : AllocationState.step chess ⟨db,[]⟩ (.call input) =
        (some (input,(db.allocate input).1),⟨db,[]⟩) := by simp [AllocationState.step,hd]
    rw [outcome_cons hstep,outcome_idle]
    simp [Db.allocate,hd]
  · have hstep : AllocationState.step chess ⟨db,[]⟩ (.call input) =
        (none,⟨db,[AllocateCall.start input]⟩) := by simp [AllocationState.step,hd]
    have hsorted : (sortedIds (AllocateCall.guestIds input)).Nodup :=
      (List.perm_insertionSort _ _).nodup_iff.mpr (List.nodup_dedup _)
    have hlen : (sortedIds (AllocateCall.guestIds input)).length + 1 + 4 = 7 := by
      have hnodup : (AllocateCall.guestIds input).Nodup := by simp [AllocateCall.guestIds,hd]
      rw [sortedIds,List.length_insertionSort,hnodup.dedup]
      rfl
    obtain ⟨held,hlocks⟩ : ∃ held, outcome chess ⟨db,[AllocateCall.start input]⟩
        (List.replicate ((sortedIds (AllocateCall.guestIds input)).length + 1 + 4) (.advance 0)) =
        outcome chess ⟨db,[⟨input,.findExisting,held⟩]⟩ (List.replicate 4 (.advance 0)) :=
      outcome_locks hsorted (by simp) 4
    rw [hlen] at hlocks
    rw [outcome_cons hstep,hlocks,outcome_statements]
    simp [Db.allocate,hd]

end Alone

section Steps

variable {chess : ChessEngine} {s : AllocationState}

/-- The guests of an allocation are distinct, because their assignments are. -/
theorem Db.Allocated.distinct {db db' : Db} {input : AllocateGame} (h : db.Allocated input db') :
    input.whiteGuestSessionId ≠ input.blackGuestSessionId := by
  have hkeys := db'.assignments.nodup
  rw [(createAssignments_ok h.assignments).1,List.map_append,List.map_map] at hkeys
  have hguests : ([input.whiteGuestSessionId,input.blackGuestSessionId].insertionSort
      (· ≤ ·)).Nodup := by
    simpa [Function.comp_def] using (List.nodup_append.mp hkeys).2.1
  have hpair := (List.perm_insertionSort (· ≤ ·)
    [input.whiteGuestSessionId,input.blackGuestSessionId]).nodup_iff.mp hguests
  simpa using hpair

/-- However its statements interleave with others, a call ends in one of the ways in which
the whole transaction ends. -/
theorem AllocateCall.statement_ends {call : AllocateCall}
    {work : Except DatabaseErrorKind (AllocationTransactionResult × Db)}
    {r : AllocationTransactionResult} {db' : Db} (h : call.statement s = .ends work)
    (hw : work = .ok (r,db')) :
    (∃ g, s.db.gameByMatchId call.input.matchId = some g ∧ db' = s.db ∧
      r = if matchesReservation g call.input then .allocated g else .mismatch) ∨
    (db' = s.db ∧ (r = .ineligible ∨ r = .conflict)) ∨
    (call.phase = .create ∧ s.db.Allocated call.input db' ∧
      r = .allocated (newGameRow call.input)) := by
  unfold AllocateCall.statement at h
  cases hp : call.phase with
  | lockGuestSessions guests =>
    cases guests with
    | nil => simp [hp] at h
    | cons guest guests =>
      simp only [hp] at h
      split_ifs at h
  | findExisting =>
    simp only [hp] at h
    cases hm : s.db.gameByMatchId call.input.matchId with
    | none => simp [hm] at h
    | some g =>
      simp only [hm] at h
      cases h
      cases hw
      exact Or.inl ⟨g,rfl,rfl,rfl⟩
  | countEligible =>
    simp only [hp] at h
    split_ifs at h
    cases h
    cases hw
    exact Or.inr (Or.inl ⟨rfl,Or.inl rfl⟩)
  | findAssignment =>
    simp only [hp] at h
    split_ifs at h
    cases h
    cases hw
    exact Or.inr (Or.inl ⟨rfl,Or.inr rfl⟩)
  | create =>
    simp only [hp] at h
    cases h
    exact Or.inr (Or.inr ⟨rfl,createAllocation_ok hw⟩)

theorem AllocationState.finish_change {index : ℕ} {input : AllocateGame}
    {work : Except DatabaseErrorKind (AllocationTransactionResult × Db)}
    (h : ∀ r db', work = .ok (r,db') → DbChange chess s.db db') :
    DbChange chess s.db (s.finish index input work).2.db :=
  transaction_keeps (P := DbChange chess s.db) DbChange.refl h

theorem AllocationState.step_change (chess : ChessEngine) (s : AllocationState)
    (event : AllocationEvent) : DbChange chess s.db (s.step chess event).2.db := by
  cases event with
  | call input =>
    simp only [step]
    split_ifs
    · exact DbChange.refl
    · exact DbChange.refl
  | advance index =>
    simp only [step]
    cases hc : s.calls[index]? with
    | none => exact DbChange.refl
    | some call =>
      simp only
      cases hs : call.statement s with
      | waits => exact DbChange.refl
      | next call => exact DbChange.refl
      | ends work =>
        refine AllocationState.finish_change fun r db' hw => ?_
        rcases call.statement_ends hs hw with ⟨_,_,rfl,_⟩ | ⟨rfl,_⟩ | ⟨_,ha,_⟩
        · exact DbChange.refl
        · exact DbChange.refl
        · exact DbChange.allocate ha.distinct ha
  | abort index kind =>
    simp only [step]
    cases hc : s.calls[index]? with
    | none => exact DbChange.refl
    | some call => exact AllocationState.finish_change fun r db' hw => by cases hw
  | execute operation =>
    simp only [step]
    split_ifs
    · exact DbChange.refl
    · exact execute_change chess s.db operation

theorem allocations_sound (chess : ChessEngine) :
    (allocations chess).Stable fun s => s.db.Sound :=
  fun s event hs => (s.step_change chess event).sound hs

end Steps

section Matches

variable {chess : ChessEngine} {db db' : Db}

theorem Db.Sound.gameByMatchId_iff (h : db.Sound) {matchId : MatchId} {g : PersistedGame} :
    db.gameByMatchId matchId = some g ↔ db.games.find g.id = some g ∧ g.matchId = matchId := by
  constructor
  · intro hg
    have hmem := List.mem_of_find?_eq_some hg
    exact ⟨Table.find_of_mem hmem,by simpa using List.find?_some hg⟩
  · rintro ⟨hg,rfl⟩
    cases hm : db.gameByMatchId g.matchId with
    | none =>
      have hnone := List.find?_eq_none.mp hm g (Table.find_mem hg)
      simp at hnone
    | some g' =>
      have hg' := Table.find_of_mem (List.mem_of_find?_eq_some hm)
      have hmatch : g'.matchId = g.matchId := by simpa using List.find?_some hm
      have hid := h.matches_ _ _ g' g hg' hg hmatch
      rw [hid,hg] at hg'
      rw [Option.some.inj hg']

theorem guests_of_seats {g g' : PersistedGame}
    (h : g'.players.map GamePlayer.seat = g.players.map GamePlayer.seat) :
    g'.guests = g.guests := by
  have hseat : ∀ g : PersistedGame, g.guests = (g.players.map GamePlayer.seat).map (·.2.1) := by
    intro g
    rw [List.map_map]
    rfl
  rw [hseat,hseat,h]

theorem DbChange.gameByMatchId_keep (h : DbChange chess db db') (hs : db.Sound)
    {matchId : MatchId} {g : PersistedGame} (hg : db.gameByMatchId matchId = some g) :
    ∃ g', db'.gameByMatchId matchId = some g' ∧ g'.id = g.id ∧ g'.guests = g.guests := by
  obtain ⟨hfind,hmatch⟩ := hs.gameByMatchId_iff.mp hg
  have hs' := h.sound hs
  rcases h.find_some hfind with hkeep | ⟨g',hg',hchange⟩
  · exact ⟨g,hs'.gameByMatchId_iff.mpr ⟨hkeep,hmatch⟩,rfl,rfl⟩
  · refine ⟨g',hs'.gameByMatchId_iff.mpr ⟨?_,hchange.matchId_eq.trans hmatch⟩,hchange.id_eq,
      guests_of_seats hchange.seats_eq⟩
    rw [hchange.id_eq]
    exact hg'

/-- Two guests that agree with the expected ones, position by position in sorted order. -/
theorem perm_of_zipIdx_all {actual expected : List GuestSessionId} (he : expected.length = 2)
    (hlen : (actual.insertionSort (· ≤ ·)).length = 2)
    (hall : ((actual.insertionSort (· ≤ ·)).zipIdx.all fun (guestSessionId,index) =>
      (expected.insertionSort (· ≤ ·))[index]? = some guestSessionId) = true) :
    expected.Perm actual := by
  have hactual := List.perm_insertionSort (· ≤ ·) actual
  have hexpected := List.perm_insertionSort (· ≤ ·) expected
  have hsorted : actual.insertionSort (· ≤ ·) = expected.insertionSort (· ≤ ·) := by
    apply List.ext_getElem?
    intro i
    by_cases hi : i < (actual.insertionSort (· ≤ ·)).length
    · have hzip : ((actual.insertionSort (· ≤ ·))[i],i) ∈
          (actual.insertionSort (· ≤ ·)).zipIdx := by
        rw [List.mk_mem_zipIdx_iff_getElem?]
        exact List.getElem?_eq_getElem hi
      have hmem := List.all_eq_true.mp hall _ hzip
      rw [List.getElem?_eq_getElem hi]
      exact (of_decide_eq_true hmem).symm
    · have hlen' : (expected.insertionSort (· ≤ ·)).length = 2 := hexpected.length_eq.trans he
      rw [List.getElem?_eq_none (by omega),List.getElem?_eq_none (by omega)]
  exact hexpected.symm.trans (hsorted ▸ hactual)

theorem matchesReservation_ok {g : PersistedGame} {input : AllocateGame}
    (h : matchesReservation g input = true) :
    g.id = input.gameId ∧ (AllocateCall.guestIds input).Perm g.guests := by
  simp only [matchesReservation,Bool.and_eq_true,decide_eq_true_eq] at h
  obtain ⟨⟨⟨hid,_⟩,hlen⟩,hall⟩ := h
  exact ⟨hid,perm_of_zipIdx_all rfl hlen hall⟩

/-- What a successful call answers is the game of its match, and the call asked for it. -/
def AnswersMatch (db : Db) (input : AllocateGame) (a : GameAllocation) : Prop :=
  ∃ g, db.gameByMatchId input.matchId = some g ∧ a.game.id = g.id ∧ a.guests = g.guests ∧
    input.gameId = g.id ∧ (AllocateCall.guestIds input).Perm g.guests

theorem allocated_answer (db : Db) {input : AllocateGame} {r : AllocationTransactionResult}
    {a : GameAllocation} (hs : db'.Sound)
    (h : (∃ g, db'.gameByMatchId input.matchId = some g ∧
        r = if matchesReservation g input then .allocated g else .mismatch) ∨
      r = .ineligible ∨ r = .conflict ∨
      (db.Allocated input db' ∧ r = .allocated (newGameRow input)))
    (ha : Db.allocationAnswer r = .ok a) : AnswersMatch db' input a := by
  rcases h with ⟨g,hg,rfl⟩ | rfl | rfl | ⟨hnew,rfl⟩
  · split_ifs at ha with hm
    · obtain ⟨hid,hguests⟩ := mapAllocation_ok ha
      obtain ⟨hgame,hperm⟩ := matchesReservation_ok hm
      exact ⟨g,hg,hid,hguests,hgame.symm,hperm⟩
    · cases ha
  · cases ha
  · cases ha
  · obtain ⟨hid,hguests⟩ := mapAllocation_ok ha
    refine ⟨newGameRow input,hs.gameByMatchId_iff.mpr ⟨?_,rfl⟩,hid,hguests,rfl,List.Perm.refl _⟩
    rw [hnew.find]
    exact if_pos rfl

end Matches

section Answers

variable {chess : ChessEngine} {s : AllocationState}

theorem AllocationState.finish_answer {index : ℕ} {input i : AllocateGame} {a : GameAllocation}
    {work : Except DatabaseErrorKind (AllocationTransactionResult × Db)}
    (h : (s.finish index input work).1 = some (i,.ok a)) :
    i = input ∧ ∃ r db', work = .ok (r,db') ∧ Db.allocationAnswer r = .ok a ∧
      (s.finish index input work).2.db = db' := by
  have hanswer : (input,(Db.answered (s.db.transaction work) Db.allocationAnswer).1) =
      (i,Except.ok a) := Option.some.inj h
  obtain ⟨hi,hok⟩ := Prod.mk.inj hanswer
  obtain ⟨r,db',hw,ha,hdb⟩ := Db.answered_cases hok
  exact ⟨hi.symm,r,db',hw,ha,hdb⟩

theorem allocate_answer {db : Db} {input : AllocateGame} {a : GameAllocation}
    (hs : (db.allocate input).2.Sound) (h : (db.allocate input).1 = .ok a) :
    AnswersMatch (db.allocate input).2 input a := by
  unfold Db.allocate at h hs ⊢
  split_ifs at h hs ⊢
  obtain ⟨r,db',hw,ha,hdb⟩ := Db.answered_cases h
  rw [hdb] at hs ⊢
  refine allocated_answer db hs ?_ ha
  rcases allocateInTransaction_ok hw with ⟨g,hg,rfl,hr⟩ | ⟨_,hr | hr⟩ | hnew
  · exact Or.inl ⟨g,hg,hr⟩
  · exact Or.inr (Or.inl hr)
  · exact Or.inr (Or.inr (Or.inl hr))
  · exact Or.inr (Or.inr (Or.inr hnew))

theorem AllocationState.step_answer {event : AllocationEvent} {input : AllocateGame}
    {a : GameAllocation} (hs : s.db.Sound)
    (h : (s.step chess event).1 = some (input,.ok a)) :
    AnswersMatch (s.step chess event).2.db input a := by
  have hs' : (s.step chess event).2.db.Sound := (s.step_change chess event).sound hs
  cases event with
  | call i =>
    simp only [step] at h
    split_ifs at h with hd
    have hrefused : (s.db.allocate i).1 = .ok a := (Prod.mk.inj (Option.some.inj h)).2
    rw [Db.allocate,if_pos hd] at hrefused
    cases hrefused
  | advance index =>
    simp only [step] at h hs' ⊢
    cases hc : s.calls[index]? with
    | none => simp [hc] at h
    | some call =>
      simp only [hc] at h hs' ⊢
      cases hst : call.statement s with
      | waits => simp [hst] at h
      | next call => simp [hst] at h
      | ends work =>
        simp only [hst] at h hs' ⊢
        obtain ⟨rfl,r,db',hw,ha,hdb⟩ := AllocationState.finish_answer h
        rw [hdb] at hs' ⊢
        refine allocated_answer s.db hs' ?_ ha
        rcases call.statement_ends hst hw with ⟨g,hg,rfl,hr⟩ | ⟨_,hr | hr⟩ | ⟨_,hnew⟩
        · exact Or.inl ⟨g,hg,hr⟩
        · exact Or.inr (Or.inl hr)
        · exact Or.inr (Or.inr (Or.inl hr))
        · exact Or.inr (Or.inr (Or.inr hnew))
  | abort index kind =>
    simp only [step] at h
    cases hc : s.calls[index]? with
    | none => simp [hc] at h
    | some call =>
      simp only [hc] at h
      obtain ⟨_,r,db',hw,_⟩ := AllocationState.finish_answer h
      cases hw
  | execute operation =>
    simp only [step] at h hs' ⊢
    split_ifs at h hs' ⊢
    cases operation with
    | allocate i =>
      obtain ⟨rfl,hok⟩ := Prod.mk.inj (Option.some.inj h)
      exact allocate_answer hs' hok
    | _ => cases h

def allocationReply (e : Machine.Event AllocationState AllocationEvent (Option AllocationAnswer)) :
    Option (MatchId × (GameId × List GuestSessionId) × Bool) :=
  match e.answer with
  | some (input,.ok a) => some (input.matchId,(a.game.id,a.guests),true)
  | _ => none

def AllocationState.recordedMatch (s : AllocationState) (matchId : MatchId) :
    Option (GameId × List GuestSessionId) :=
  (s.db.gameByMatchId matchId).map fun g => (g.id,g.guests)

theorem AnswersMatch.recorded {input : AllocateGame} {a : GameAllocation}
    (h : AnswersMatch s.db input a) :
    s.recordedMatch input.matchId = some (a.game.id,a.guests) := by
  obtain ⟨g,hg,hid,hguests,_⟩ := h
  rw [AllocationState.recordedMatch,hg,hid,hguests]
  rfl

theorem recordedMatch_keep {matchId : MatchId} {r : GameId × List GuestSessionId}
    (event : AllocationEvent) (hs : s.db.Sound) (h : s.recordedMatch matchId = some r) :
    (s.step chess event).2.recordedMatch matchId = some r := by
  obtain ⟨g,hg,rfl⟩ := Option.map_eq_some_iff.mp h
  obtain ⟨g',hg',hid,hguests⟩ := (s.step_change chess event).gameByMatchId_keep hs hg
  rw [AllocationState.recordedMatch,hg',Option.map_some,hid,hguests]

theorem answersMatch_stable (chess : ChessEngine) (input : AllocateGame) (a : GameAllocation) :
    (allocations chess).Stable fun s => s.db.Sound ∧ AnswersMatch s.db input a := by
  rintro s event ⟨hs,g,hg,hid,hguests,hgame,hperm⟩
  obtain ⟨g',hg',hid',hguests'⟩ := (s.step_change chess event).gameByMatchId_keep hs hg
  exact ⟨allocations_sound chess s event hs,g',hg',hid.trans hid'.symm,
    hguests.trans hguests'.symm,hgame.trans hid'.symm,hguests' ▸ hperm⟩

theorem matches_recorded (chess : ChessEngine) :
    (allocations chess).Recorded (fun s => s.db.Sound) AllocationState.recordedMatch
      allocationReply where
  inv := allocations_sound chess
  keep _ event _ _ hs h := recordedMatch_keep event hs h
  answered s event matchId r duplicate hs h := by
    unfold allocationReply at h
    split at h
    · rename_i input a hanswer
      cases h
      exact (AllocationState.step_answer hs hanswer).recorded
    · cases h
  fresh s event matchId r hs h := by
    unfold allocationReply at h
    split at h <;> cases h

end Answers

def AllocationState.initial (guestSessions : Table GuestSession.id)
    (sessionCommands : Table SessionCommand.idempotencyHash) : AllocationState :=
  ⟨.initial guestSessions sessionCommands,[]⟩

theorem AllocationState.initial_sound (guestSessions : Table GuestSession.id)
    (sessionCommands : Table SessionCommand.idempotencyHash) :
    (initial guestSessions sessionCommands).db.Sound := Db.initial_sound _ _

def Db.OneGamePerGuest (db : Db) : Prop :=
  ∀ guest, ∀ g ∈ db.games.rows, ∀ g' ∈ db.games.rows, g.status.terminal = false →
    g'.status.terminal = false → guest ∈ g.guests → guest ∈ g'.guests → g = g'

def Db.OneGamePerMatch (db : Db) : Prop :=
  ∀ g ∈ db.games.rows, ∀ g' ∈ db.games.rows, g.matchId = g'.matchId → g = g'

theorem Db.eq_of_id {db : Db} {g g' : PersistedGame} (hg : g ∈ db.games.rows)
    (hg' : g' ∈ db.games.rows) (hid : g.id = g'.id) : g = g' := by
  have hfind := Table.find_of_mem hg
  rw [hid,Table.find_of_mem hg'] at hfind
  exact (Option.some.inj hfind).symm

theorem Db.Sound.oneGamePerGuest {db : Db} (h : db.Sound) : db.OneGamePerGuest := by
  intro guest g hg g' hg' ht ht' hp hp'
  obtain ⟨p,hmem,rfl⟩ := List.mem_map.mp hp
  obtain ⟨p',hmem',hguest⟩ := List.mem_map.mp hp'
  have ha := h.players _ g (Table.find_of_mem hg) ht p hmem
  have ha' := h.players _ g' (Table.find_of_mem hg') ht' p' hmem'
  rw [hguest,ha] at ha'
  have hid : g.id = g'.id := congrArg ActiveGameAssignment.gameId (Option.some.inj ha')
  exact Db.eq_of_id hg hg' hid

theorem Db.Sound.oneGamePerMatch {db : Db} (h : db.Sound) : db.OneGamePerMatch :=
  fun g hg g' hg' hm => Db.eq_of_id hg hg'
    (h.matches_ _ _ g g' (Table.find_of_mem hg) (Table.find_of_mem hg') hm)

/-- However calls of `allocate` interleave, statement by statement, with each other and with
the other repository operations: a guest plays in at most one game that has not ended; a match
has at most one game; all answers to one match name the same game and the same players; and a
call that is answered with a game has asked for the one game of its match and its players, so
a call that reuses a match with another game or other members is never answered with one. -/
theorem allocation_safety (chess : ChessEngine) (guestSessions : Table GuestSession.id)
    (sessionCommands : Table SessionCommand.idempotencyHash) (schedule : List AllocationEvent) :
    ((allocations chess).run (.initial guestSessions sessionCommands)
      schedule).db.OneGamePerGuest ∧
    ((allocations chess).run (.initial guestSessions sessionCommands)
      schedule).db.OneGamePerMatch ∧
    (∀ e ∈ (allocations chess).events (.initial guestSessions sessionCommands) schedule,
      ∀ e' ∈ (allocations chess).events (.initial guestSessions sessionCommands) schedule,
      ∀ input input' a a', e.answer = some (input,.ok a) → e'.answer = some (input',.ok a') →
      input.matchId = input'.matchId → a.game.id = a'.game.id ∧ a.guests = a'.guests) ∧
    ∀ e ∈ (allocations chess).events (.initial guestSessions sessionCommands) schedule,
      ∀ input a, e.answer = some (input,.ok a) →
      AnswersMatch ((allocations chess).run (.initial guestSessions sessionCommands) schedule).db
        input a := by
  have hinit := AllocationState.initial_sound guestSessions sessionCommands
  have hsound := (allocations_sound chess).run hinit schedule
  refine ⟨hsound.oneGamePerGuest,hsound.oneGamePerMatch,?_,?_⟩
  · intro e he e' he' input input' a a' ha ha' hm
    have hreply : allocationReply e = some (input.matchId,(a.game.id,a.guests),true) := by
      rw [allocationReply,ha]
    have hreply' : allocationReply e' = some (input.matchId,(a'.game.id,a'.guests),true) := by
      rw [allocationReply,ha',hm]
    exact Prod.mk.inj ((matches_recorded chess).replies_agree hinit he he' hreply hreply')
  · intro e he input a ha
    have hbefore := (allocations_sound chess).before hinit he
    have hafter := (allocations_sound chess).after hinit he
    refine ((answersMatch_stable chess input a).final he ⟨hafter,?_⟩).2
    obtain ⟨pre,_,_,hev⟩ := (allocations chess).mem_events_split he
    rw [hev] at ha hbefore ⊢
    exact AllocationState.step_answer hbefore ha

end CluChess
