import CluChess.GuestReset

/-! A reset frees its guest for good. The row lock of the guest orders the revocation and the
allocations: a call of `allocate` that has found the guest eligible holds the lock until it ends,
and one that takes the lock later finds the session revoked. So once the session is revoked
nothing assigns a game to the guest, and the transaction that abandons the game finds it. -/
namespace CluChess

def Operation.createdGuest : Operation → Option GuestSessionId
  | .session (.create _ input) => some input.guestSessionId
  | _ => none

def Db.Revoked (db : Db) (guest : GuestSessionId) : Prop :=
  ∀ session, db.guestSessions.find guest = some session → session.revokedAt ≠ none

section Sessions

variable {chess : ChessEngine} {db db' : Db} {guest : GuestSessionId}

/-- How the row of a guest goes on: it is never reinstated, and revoked only if `revoker`. -/
def SessionKept (guest : GuestSessionId) (revoker : Prop) (db db' : Db) : Prop :=
  ∀ session', db'.guestSessions.find guest = some session' →
    ∃ session, db.guestSessions.find guest = some session ∧
      (session.revokedAt ≠ none → session'.revokedAt ≠ none) ∧
      (session'.revokedAt ≠ none → session.revokedAt ≠ none ∨ revoker)

theorem SessionKept.of_eq {revoker : Prop} (h : db'.guestSessions = db.guestSessions) :
    SessionKept guest revoker db db' := by
  intro session' hs'
  rw [h] at hs'
  exact ⟨session',hs',id,Or.inl⟩

theorem SessionKept.mono {p q : Prop} (h : SessionKept guest p db db') (hpq : p → q) :
    SessionKept guest q db db' := by
  intro session' hs'
  obtain ⟨session,hs,hkeep,hrevoked⟩ := h session' hs'
  exact ⟨session,hs,hkeep,fun hn => (hrevoked hn).imp_right hpq⟩

theorem SessionKept.revoked {revoker : Prop} (h : SessionKept guest revoker db db')
    (hdb : db.Revoked guest) : db'.Revoked guest := by
  intro session' hs'
  obtain ⟨session,hs,hkeep,_⟩ := h session' hs'
  exact hkeep (hdb session hs)

theorem changeSession_kept {id : GuestSessionId} {t : Millis}
    {change : GuestSession → GuestSession} {command : SessionCommand}
    {r : SessionMutationResult} {revoker : Prop} (hid : ∀ session, (change session).id = session.id)
    (hchange : id = guest → ¬ revoker → ∀ session, (change session).revokedAt = session.revokedAt)
    (h : db.changeSession id t change command = .ok (r,db')) :
    SessionKept guest revoker db db' := by
  obtain ⟨current,hcurrent,_,hput,_⟩ := Db.changeSession_ok h
  obtain ⟨hfind,hopen,_⟩ := Db.availableSession_ok hcurrent
  have hkey : (change current).id = id := (hid current).trans (Table.find_key hfind)
  intro session' hs'
  rw [hput] at hs'
  by_cases he : guest = (change current).id
  · have hself : db.guestSessions.find guest = some current := by rw [he,hkey,hfind]
    have hput := Table.find_put_self (r := change current) (he ▸ hself)
    rw [he,hput] at hs'
    cases hs'
    refine ⟨current,hself,fun hn => absurd hopen hn,fun hn => ?_⟩
    by_cases hr : revoker
    · exact Or.inr hr
    · rw [hchange (hkey.symm.trans he.symm) hr] at hn
      exact absurd hopen hn
  · rw [Table.find_put_of_ne _ he] at hs'
    exact ⟨session',hs',fun hn => hn,Or.inl⟩

theorem sessionTransaction_kept {work : Except SessionFailure (SessionMutationResult × Db)}
    {revoker : Prop} (h : ∀ r db', work = .ok (r,db') → SessionKept guest revoker db db') :
    SessionKept guest revoker db (db.sessionTransaction work).2 := by
  cases work with
  | error e => exact .of_eq rfl
  | ok r => exact h r.1 r.2 rfl

/-- An operation that does not create the guest anew keeps its session, or revokes it under the
row lock. -/
theorem execute_session_kept (chess : ChessEngine) (db : Db) {op : Operation}
    (hop : op.createdGuest ≠ some guest) :
    SessionKept guest (op.lockedGuest = some guest) db (execute chess db op).2 := by
  by_cases hsession : ∃ operation, op = .session operation
  · obtain ⟨operation,rfl⟩ := hsession
    change SessionKept guest _ db (db.executeSession operation).2
    cases operation with
    | create existing input =>
      refine sessionTransaction_kept fun r db' hw => ?_
      cases existing with
      | some command =>
        rw [Db.toCommandReplay_frame hw]
        exact .of_eq rfl
      | none =>
        obtain ⟨row,hid,_,hrow,_⟩ := Db.createSession_ok hw
        intro session' hs'
        have hne : guest ≠ row.id := by
          intro he
          exact hop (congrArg some (hid.symm.trans he.symm))
        rw [Table.find_insert hrow,if_neg hne] at hs'
        exact ⟨session',hs',id,Or.inl⟩
    | renew existing input =>
      refine sessionTransaction_kept fun r db' hw => ?_
      cases existing with
      | some command =>
        rw [Db.toCommandReplay_frame hw]
        exact .of_eq rfl
      | none =>
        refine changeSession_kept ?_ ?_ hw
        · exact fun _ => rfl
        · exact fun _ _ _ => rfl
    | reset existing input =>
      refine sessionTransaction_kept fun r db' hw => ?_
      cases existing with
      | some command =>
        rw [Db.toCommandReplay_frame hw]
        exact .of_eq rfl
      | none =>
        refine changeSession_kept ?_ ?_ hw
        · exact fun _ => rfl
        · exact fun he hn => absurd (congrArg some he) hn
    | cleanupExpired cutoff limit locked =>
      intro session' hs'
      have hfind : ((db.cleanupExpired cutoff limit locked).2.guestSessions.find guest) =
          some session' := hs'
      unfold Db.cleanupExpired at hfind
      rw [Table.find_deleteWhere] at hfind
      obtain ⟨hold,_⟩ := Option.filter_eq_some_iff.mp hfind
      exact ⟨session',hold,id,Or.inl⟩
  · exact .of_eq (execute_sessions chess db fun operation he => hsession ⟨operation,he⟩).1

end Sessions

section Assignments

variable {chess : ChessEngine} {db db' : Db} {guest : GuestSessionId} {input : AllocateGame}
  {a : ActiveGameAssignment}

theorem Db.Revoked.not_eligible (h : db.Revoked guest)
    (hmem : guest ∈ AllocateCall.guestIds input) (t : Millis) :
    db.eligibleGuests (AllocateCall.guestIds input) t ≠ 2 := by
  unfold Db.eligibleGuests
  rw [List.countP_eq_length_filter]
  set eligible := db.guestSessions.rows.filter fun g => decide (t < g.expiresAt) &&
    decide (g.id ∈ AllocateCall.guestIds input) && decide (g.revokedAt = none) with heligible
  have hnodup : (eligible.map GuestSession.id).Nodup :=
    (List.filter_sublist.map GuestSession.id).nodup db.guestSessions.nodup
  -- every other eligible guest is the opponent
  obtain ⟨other,hother⟩ : ∃ other, ∀ id ∈ AllocateCall.guestIds input, id ≠ guest → id = other := by
    simp only [AllocateCall.guestIds,List.mem_cons,List.not_mem_nil,or_false] at hmem ⊢
    rcases hmem with rfl | rfl
    · exact ⟨input.blackGuestSessionId,fun id hid hne => hid.resolve_left hne⟩
    · exact ⟨input.whiteGuestSessionId,fun id hid hne => hid.resolve_right hne⟩
  have hsub : eligible.map GuestSession.id ⊆ [other] := by
    intro id hid
    obtain ⟨session,hsession,rfl⟩ := List.mem_map.mp hid
    obtain ⟨hrow,hchecks⟩ := List.mem_filter.mp (heligible ▸ hsession)
    simp only [Bool.and_eq_true,decide_eq_true_eq] at hchecks
    obtain ⟨⟨_,hguest⟩,hopen⟩ := hchecks
    have hne : session.id ≠ guest := by
      rintro rfl
      exact h session (Table.find_of_mem hrow) hopen
    exact List.mem_singleton.mpr (hother session.id hguest hne)
  have hlen := (List.subperm_of_subset hnodup hsub).length_le
  rw [List.length_map,List.length_singleton] at hlen
  omega

theorem Db.Allocated.assignment (h : db.Allocated input db')
    (hne : guest ∉ AllocateCall.guestIds input) (ha : db'.assignments.find guest = some a) :
    db.assignments.find guest = some a := by
  have hkey := Table.find_key ha
  have hmem := Table.find_mem ha
  rw [(createAssignments_ok h.assignments).1] at hmem
  rcases List.mem_append.mp hmem with hold | hnew
  · rw [← hkey]
    exact Table.find_of_mem hold
  · obtain ⟨id,hid,rfl⟩ := List.mem_map.mp hnew
    have hguest : guest ∈ AllocateCall.guestIds input :=
      hkey ▸ (List.perm_insertionSort _ _).mem_iff.mp hid
    exact absurd hguest hne

theorem Db.Wrote.assignment {id : GameId} {g g' : PersistedGame}
    (h : db.Wrote chess id g g' db') (ha : db'.assignments.find guest = some a) :
    db.assignments.find guest = some a := by
  rw [h.result] at ha
  cases ht : g'.status.terminal with
  | false => rwa [settle_assignments_of_not_terminal ht] at ha
  | true =>
    rw [settle_assignments_of_terminal ht,Table.find_deleteWhere] at ha
    exact (Option.filter_eq_some_iff.mp ha).1

theorem Db.Revoked.allocateInTransaction (h : db.Revoked guest)
    (hmem : guest ∈ AllocateCall.guestIds input) {r : AllocationTransactionResult}
    (hok : db.allocateInTransaction input = .ok (r,db')) : db' = db := by
  unfold Db.allocateInTransaction at hok
  have hineligible := h.not_eligible hmem input.observedAt
  simp only [AllocateCall.guestIds] at hineligible
  cases hm : db.gameByMatchId input.matchId with
  | some existing =>
    simp only [hm] at hok
    cases hok
    rfl
  | none =>
    simp only [hm,hineligible,ne_eq,not_false_eq_true,if_true] at hok
    cases hok
    rfl

theorem execute_assignment (h : db.Revoked guest) (op : Operation)
    (ha : (execute chess db op).2.assignments.find guest = some a) :
    db.assignments.find guest = some a := by
  have houtcome := execute_outcome chess db op
  generalize hdb : (execute chess db op).2 = db' at ha houtcome
  cases houtcome with
  | session _ _ hs => rwa [(Outcome.frame_session hs).2] at ha
  | kept hk _ => rwa [hk] at ha
  | wrote _ hw _ => exact hw.assignment ha
  | @allocated input _ hop hd hallocated _ =>
    by_cases hmem : guest ∈ AllocateCall.guestIds input
    · have hsame : (db.allocate input).2 = db := by
        unfold Db.allocate
        rw [if_neg hd]
        exact transaction_keeps (P := fun x => x = db) rfl fun _ _ => h.allocateInTransaction hmem
      subst hop
      rwa [← hdb,show (execute chess db (.allocate input)).2 = (db.allocate input).2 from rfl,
        hsame] at ha
    · exact hallocated.assignment hmem ha

end Assignments

section Calls

/-- The call has not found its guests eligible yet. -/
def AllocateCall.Early (call : AllocateCall) : Prop :=
  match call.phase with
  | .lockGuestSessions _ | .findExisting | .countEligible => True
  | .findAssignment | .create => False

/-- The call holds the row lock of the guest, or has still to take it. -/
def AllocateCall.Guards (guest : GuestSessionId) (call : AllocateCall) : Prop :=
  guest ∈ call.held ∨ ∃ guests, call.phase = .lockGuestSessions guests ∧ guest ∈ guests

/-- The open calls that include the guest guard its row while it is not revoked, and have not
found it eligible once it is. -/
structure AllocationState.Guarded (guest : GuestSessionId) (s : AllocationState) : Prop where
  guards : ∀ session, s.db.guestSessions.find guest = some session → session.revokedAt = none →
    ∀ call ∈ s.calls, guest ∈ AllocateCall.guestIds call.input → call.Guards guest
  early : ∀ session, s.db.guestSessions.find guest = some session → session.revokedAt ≠ none →
    ∀ call ∈ s.calls, guest ∈ AllocateCall.guestIds call.input → call.Early

/-- Nothing will assign a game to the guest. -/
structure AllocationState.Gone (guest : GuestSessionId) (s : AllocationState) : Prop where
  revoked : s.db.Revoked guest
  early : ∀ call ∈ s.calls, guest ∈ AllocateCall.guestIds call.input → call.Early

/-- What a step does to the guest: its session is kept or revoked under the row lock, a call is
new or goes on by one statement, and nothing is assigned to a guest that is gone. -/
structure AllocationState.Moves (guest : GuestSessionId) (s s' : AllocationState) : Prop where
  session : SessionKept guest (guest ∉ s.locked) s.db s'.db
  calls : ∀ call' ∈ s'.calls, call' ∈ s.calls ∨ (∃ input, call' = AllocateCall.start input) ∨
    ∃ call ∈ s.calls, call.statement s = .next call'
  assignment : s.Gone guest → ∀ a, s'.db.assignments.find guest = some a →
    s.db.assignments.find guest = some a

variable {chess : ChessEngine} {s s' : AllocationState} {guest : GuestSessionId}
  {call call' : AllocateCall}

theorem AllocateCall.mem_sortedIds {input : AllocateGame} (h : guest ∈ guestIds input) :
    guest ∈ sortedIds (guestIds input) :=
  (List.perm_insertionSort _ _).mem_iff.mpr (List.mem_dedup.mpr h)

theorem AllocateCall.start_guards {input : AllocateGame} (h : guest ∈ guestIds input) :
    (start input).Guards guest := Or.inr ⟨_,rfl,mem_sortedIds h⟩

theorem AllocateCall.statement_input (h : call.statement s = .next call') :
    call'.input = call.input := by
  unfold statement at h
  repeat' split at h
  all_goals cases h
  all_goals rfl

theorem AllocateCall.statement_guards (h : call.statement s = .next call')
    (hrow : s.db.guestSessions.find guest ≠ none) (hg : call.Guards guest) :
    call'.Guards guest := by
  rcases hg with hheld | ⟨guests,hphase,hmem⟩
  · left
    unfold statement at h
    repeat' split at h
    all_goals cases h
    all_goals first
      | exact hheld
      | exact List.mem_cons_of_mem _ hheld
  · cases guests with
    | nil => cases hmem
    | cons next guests =>
      simp only [statement,hphase] at h
      split_ifs at h with hmissing
      · cases h
        refine Or.inr ⟨guests,rfl,(List.mem_cons.mp hmem).resolve_left ?_⟩
        rintro rfl
        exact hrow hmissing
      · cases h
        rcases List.mem_cons.mp hmem with rfl | hmem
        · exact Or.inl List.mem_cons_self
        · exact Or.inr ⟨guests,rfl,hmem⟩

theorem AllocateCall.statement_early (h : call.statement s = .next call') (he : call.Early)
    (hguest : guest ∈ guestIds call.input)
    (hrevoked : call.phase = .countEligible → s.db.Revoked guest) : call'.Early := by
  unfold Early at he
  cases hphase : call.phase with
  | lockGuestSessions guests =>
    cases guests with
    | nil =>
      simp only [statement,hphase] at h
      cases h
      exact trivial
    | cons next guests =>
      simp only [statement,hphase] at h
      split_ifs at h
      all_goals cases h
      all_goals exact trivial
  | findExisting =>
    simp only [statement,hphase] at h
    split at h
    · cases h
    · cases h
      exact trivial
  | countEligible =>
    simp only [statement,hphase] at h
    rw [if_pos ((hrevoked hphase).not_eligible hguest _)] at h
    cases h
  | findAssignment => simp only [hphase] at he
  | create => simp only [hphase] at he

/-- A guest whose row lock is free is only guarded by calls that wait for the lock. -/
theorem AllocateCall.Guards.waiting (h : call.Guards guest) (hcall : call ∈ s.calls)
    (hfree : guest ∉ s.locked) : ∃ guests, call.phase = .lockGuestSessions guests :=
  match h with
  | .inl hheld => absurd (List.mem_flatMap.mpr ⟨call,hcall,hheld⟩) hfree
  | .inr ⟨guests,hphase,_⟩ => ⟨guests,hphase⟩

namespace AllocationState

theorem Guarded.moves (h : s.Guarded guest) (hm : s.Moves guest s') : s'.Guarded guest := by
  constructor
  · intro session' hs' hopen call' hcall' hguest
    obtain ⟨session,hs,hkeep,_⟩ := hm.session session' hs'
    have hopen : session.revokedAt = none := by
      by_contra hn
      exact hkeep hn hopen
    rcases hm.calls call' hcall' with hold | ⟨input,rfl⟩ | ⟨call,hcall,hnext⟩
    · exact h.guards session hs hopen call' hold hguest
    · exact AllocateCall.start_guards hguest
    · rw [AllocateCall.statement_input hnext] at hguest
      refine AllocateCall.statement_guards hnext ?_ (h.guards session hs hopen call hcall hguest)
      rw [hs]
      exact nofun
  · intro session' hs' hrevoked call' hcall' hguest
    obtain ⟨session,hs,_,hrevoker⟩ := hm.session session' hs'
    -- before the step the guest was revoked, or no call had its lock
    have hbefore : ∀ call ∈ s.calls, guest ∈ AllocateCall.guestIds call.input →
        call.Early ∧ (call.phase = .countEligible → s.db.Revoked guest) := by
      intro call hcall hguest
      by_cases hopen : session.revokedAt = none
      · have hfree := (hrevoker hrevoked).resolve_left fun hn => hn hopen
        obtain ⟨guests,hphase⟩ := (h.guards session hs hopen call hcall hguest).waiting hcall hfree
        unfold AllocateCall.Early
        rw [hphase]
        exact ⟨trivial,nofun⟩
      · refine ⟨h.early session hs hopen call hcall hguest,fun _ other hother => ?_⟩
        rw [hs] at hother
        cases hother
        exact hopen
    rcases hm.calls call' hcall' with hold | ⟨input,rfl⟩ | ⟨call,hcall,hnext⟩
    · exact (hbefore call' hold hguest).1
    · exact trivial
    · rw [AllocateCall.statement_input hnext] at hguest
      obtain ⟨hearly,hcount⟩ := hbefore call hcall hguest
      exact AllocateCall.statement_early hnext hearly hguest hcount

theorem Gone.moves (h : s.Gone guest) (hm : s.Moves guest s') : s'.Gone guest := by
  refine ⟨hm.session.revoked h.revoked,fun call' hcall' hguest => ?_⟩
  rcases hm.calls call' hcall' with hold | ⟨input,rfl⟩ | ⟨call,hcall,hnext⟩
  · exact h.early call' hold hguest
  · exact trivial
  · rw [AllocateCall.statement_input hnext] at hguest
    exact AllocateCall.statement_early hnext (h.early call hcall hguest) hguest fun _ => h.revoked

/-- A guarded guest whose session is revoked is gone. -/
theorem Guarded.gone (h : s.Guarded guest) (hrow : s.db.guestSessions.find guest ≠ none)
    (hrevoked : s.db.Revoked guest) : s.Gone guest := by
  obtain ⟨session,hs⟩ := Option.ne_none_iff_exists'.mp hrow
  exact ⟨hrevoked,h.early session hs (hrevoked session hs)⟩

end AllocationState

end Calls

section Moves

def AllocationEvent.createdGuest : AllocationEvent → Option GuestSessionId
  | .execute operation => operation.createdGuest
  | _ => none

def ResetEvent.createdGuest : ResetEvent → Option GuestSessionId
  | .allocation event => event.createdGuest
  | _ => none

variable {chess : ChessEngine} {config : SessionConfig} {s : AllocationState} {db : Db}
  {guest : GuestSessionId}

namespace AllocationState

theorem Moves.of_execute {op : Operation} (hop : op.createdGuest ≠ some guest)
    (hlock : op.lockedGuest.any (· ∈ s.locked) = false) :
    s.Moves guest { s with db := (execute chess s.db op).2 } := by
  refine ⟨(execute_session_kept chess s.db hop).mono fun he hmem => ?_,
    fun call hcall => Or.inl hcall,fun hgone a ha => execute_assignment hgone.revoked op ha⟩
  rw [he] at hlock
  simp [hmem] at hlock

theorem Moves.of_same {calls : List AllocateCall}
    (hcalls : ∀ call' ∈ calls, call' ∈ s.calls ∨
      (∃ input, call' = AllocateCall.start input) ∨
      ∃ call ∈ s.calls, call.statement s = .next call') :
    s.Moves guest { s with calls := calls } :=
  ⟨.of_eq rfl,hcalls,fun _ _ ha => ha⟩

theorem Moves.of_finish {index : ℕ} {call : AllocateCall}
    {work : Except DatabaseErrorKind (AllocationTransactionResult × Db)} (hcall : call ∈ s.calls)
    (hwork : ∀ r db', work = .ok (r,db') → db' = s.db ∨
      call.phase = .create ∧ s.db.Allocated call.input db') :
    s.Moves guest (s.finish index call.input work).2 := by
  have hdb : (s.finish index call.input work).2.db = s.db ∨ call.phase = .create ∧
      s.db.Allocated call.input (s.finish index call.input work).2.db :=
    transaction_keeps (P := fun db' => db' = s.db ∨
      call.phase = .create ∧ s.db.Allocated call.input db') (Or.inl rfl) hwork
  refine ⟨.of_eq ?_,fun call' hmem => Or.inl (List.mem_of_mem_eraseIdx hmem),
    fun hgone a ha => ?_⟩
  · rcases hdb with hsame | ⟨_,hallocated⟩
    · rw [hsame]
    · exact hallocated.guestSessions
  · rcases hdb with hsame | ⟨hphase,hallocated⟩
    · rwa [hsame] at ha
    · refine hallocated.assignment (fun hguest => ?_) ha
      have hearly := hgone.early call hcall hguest
      unfold AllocateCall.Early at hearly
      simp only [hphase] at hearly

theorem step_moves (chess : ChessEngine) (s : AllocationState) {event : AllocationEvent}
    (hevent : event.createdGuest ≠ some guest) : s.Moves guest (s.step chess event).2 := by
  have hrefl : s.Moves guest s := .of_same fun call hcall => Or.inl hcall
  cases event with
  | call input =>
    simp only [step]
    split_ifs
    · exact hrefl
    · refine .of_same fun call' hmem => ?_
      rcases List.mem_append.mp hmem with hold | hnew
      · exact Or.inl hold
      · exact Or.inr (Or.inl ⟨input,List.mem_singleton.mp hnew⟩)
  | advance index =>
    simp only [step]
    cases hc : s.calls[index]? with
    | none => exact hrefl
    | some call =>
      have hcall : call ∈ s.calls := List.mem_of_getElem? hc
      simp only
      cases hs : call.statement s with
      | waits => exact hrefl
      | next call' =>
        refine .of_same fun x hmem => ?_
        rcases List.mem_or_eq_of_mem_set hmem with hold | rfl
        · exact Or.inl hold
        · exact Or.inr (Or.inr ⟨call,hcall,hs⟩)
      | ends work =>
        refine .of_finish hcall fun r db' hw => ?_
        rcases call.statement_ends hs hw with ⟨_,_,hsame,_⟩ | ⟨hsame,_⟩ | ⟨hphase,hallocated,_⟩
        · exact Or.inl hsame
        · exact Or.inl hsame
        · exact Or.inr ⟨hphase,hallocated⟩
  | abort index kind =>
    simp only [step]
    cases hc : s.calls[index]? with
    | none => exact hrefl
    | some call => exact .of_finish (List.mem_of_getElem? hc) fun r db' hw => by cases hw
  | execute operation =>
    simp only [step]
    by_cases hlock : operation.lockedGuest.any (· ∈ s.locked) = true
    · rw [if_pos hlock]
      exact hrefl
    · rw [if_neg hlock]
      exact .of_execute hevent (Bool.eq_false_iff.mpr hlock)

end AllocationState

end Moves

section Revocation

variable {chess : ChessEngine} {config : SessionConfig} {db db' : Db} {request : SessionRequest}
  {r : SessionMutationResult}

theorem SessionRequest.Advanced.succeeds {refused : Bool}
    (h : request.Advanced config db refused (.done (.ok r)) db') :
    ∃ command, db'.sessionCommands.find request.idempotencyHash = some command ∧
      request.Repeats command ∧ Replays command (.ok r) := by
  cases h with
  | waits hopen _ => cases hopen
  | @answers _ command _ hhash hanswers hstored =>
    have hrepeats : request.Repeats command := by
      by_contra hn
      obtain ⟨e,he,_⟩ := hanswers.2 hn
      cases he
    refine ⟨command,?_,hrepeats,hanswers.1 hrepeats⟩
    rcases hstored with ⟨rfl,hc⟩ | ⟨_,hinsert⟩
    · exact hc
    · rw [Table.find_insert hinsert,if_pos hhash.symm]

theorem SessionRequest.advance_succeeds (hdb : db.SessionsSound) {choice : SessionChoice}
    {phase : SessionPhase} (hopen : phase.result = none)
    (hprepared : request.Prepared config phase)
    (h : request.advance config choice db phase = (.done (.ok r),db')) :
    ∃ command, db'.sessionCommands.find request.idempotencyHash = some command ∧
      request.Repeats command ∧ Replays command (.ok r) := by
  cases phase with
  | done result => cases hopen
  | mutate mutation attempts =>
    obtain ⟨chosen,rfl⟩ := hprepared
    have hadvanced := request.advance_mutate config hdb attempts chosen choice
    rw [h] at hadvanced
    exact hadvanced.succeeds
  | _ =>
    rcases Db.findCommand_cases hdb request.idempotencyHash with ⟨_,hf⟩ | ⟨value,hv⟩
    · simp only [SessionRequest.advance,hf] at h
      repeat' split at h
      all_goals cases h
    · obtain ⟨_,_,hadvanced⟩ := Advanced.of_found config hdb hv
      simp only [SessionRequest.advance,hv] at h
      obtain ⟨hphase,rfl⟩ := Prod.mk.inj h
      rw [hphase] at hadvanced
      exact hadvanced.succeeds

theorem ResetCall.command_revokes {call : ResetCall} (hdb : db.SessionsSound)
    {choice : SessionChoice} {phase : SessionPhase} (hopen : phase.result = none)
    (hprepared : call.request.Prepared config phase)
    (h : call.request.advance config choice db phase = (.done (.ok r),db')) :
    r.value.guestSession.id = call.guestSessionId ∧
      db'.guestSessions.find call.guestSessionId ≠ none ∧ db'.Revoked call.guestSessionId := by
  have hdb' : db'.SessionsSound := by
    have hexecute := call.request.advance_execute config choice db phase
    rw [h] at hexecute
    rcases hexecute with rfl | ⟨mutation,_,_,rfl⟩
    · exact hdb
    · exact hdb.session mutation.operation
  obtain ⟨command,hc,⟨htype,hguest⟩,r',hr,hid,_⟩ :=
    SessionRequest.advance_succeeds hdb hopen hprepared h
  cases hr
  have hmem := Table.find_mem hc
  have hguest : command.guestSessionId = call.guestSessionId := hguest _ rfl
  rw [← hguest]
  exact ⟨hid,hdb'.joined command hmem,hdb'.revoked command hmem htype⟩

/-- The transaction of a reset that knows the assignment of the guest takes it away. -/
theorem Db.terminateForReset_frees (chess : ChessEngine) {guest : GuestSessionId}
    {assignment : Option GameId} {observation : Micros} {submission : Option TerminalSubmission}
    (hdb : db.Sound) (hassigned : ∀ a, db.assignments.find guest = some a →
      assignment = some a.gameId)
    (h : db.terminateForReset guest assignment observation = (.ok submission,db')) :
    db'.assignments.find guest = none := by
  obtain ⟨r,db₁,hw,_,hdb'⟩ := Db.answered_cases (congrArg Prod.fst h)
  obtain rfl : db₁ = db' := hdb'.symm.trans (congrArg Prod.snd h)
  by_contra hne
  obtain ⟨a,ha⟩ := Option.ne_none_iff_exists'.mp hne
  rcases terminateForResetInTransaction_ok chess hw with
    ⟨rfl,_,hnothing⟩ | ⟨id,g,player,outcome,guests,rfl,_,_,_,hwrote,_⟩
  · obtain ⟨g,hg,hlive,p,hp,hguest⟩ := hdb.assigned a (Table.find_mem ha)
    rw [Table.find_key ha] at hguest
    rcases hnothing a.gameId g (hassigned a ha) hg with hstatus | hplayer
    · have hcreated := (hdb.games _ g hg).created
      cases hs : g.status <;> simp_all [Db.resettable,GameStatus.terminal]
    · have hother := List.find?_eq_none.mp hplayer p hp
      simp [hguest] at hother
  · have hid : a.gameId = id := (Option.some.inj (hassigned a (hwrote.assignment ha))).symm
    rw [hwrote.result,settle_assignments_of_terminal (ended_terminal g observation outcome),
      Table.find_deleteWhere] at ha
    have hkept := (Option.filter_eq_some_iff.mp ha).2
    have hgame : (g.ended observation outcome).id = id :=
      (Table.find_key hwrote.found : g.id = id)
    simp [hgame,hid] at hkept

end Revocation

section Resets

variable {chess : ChessEngine} {config : SessionConfig} {guest : GuestSessionId}
  {s s' : AllocationState} {call : ResetCall}

structure AllocationState.Freed (guest : GuestSessionId) (s : AllocationState) : Prop where
  gone : s.Gone guest
  unassigned : s.db.assignments.find guest = none

theorem AllocationState.Freed.moves (h : s.Freed guest) (hm : s.Moves guest s') :
    s'.Freed guest := by
  refine ⟨h.gone.moves hm,?_⟩
  by_contra hne
  obtain ⟨a,ha⟩ := Option.ne_none_iff_exists'.mp hne
  have hbefore := hm.assignment h.gone a ha
  rw [h.unassigned] at hbefore
  cases hbefore

/-- What a reset of the guest has achieved before each of its steps. -/
def ResetCall.Holds (config : SessionConfig) (guest : GuestSessionId) (s : AllocationState)
    (call : ResetCall) : Prop :=
  match call.phase with
  | .command phase => phase.result = none ∧ call.request.Prepared config phase
  | .findAssignment session => session.id = call.guestSessionId ∧
    (call.guestSessionId = guest → s.Gone guest)
  | .terminate session assignment => session.id = call.guestSessionId ∧
    (call.guestSessionId = guest → s.Gone guest ∧
      ∀ a, s.db.assignments.find guest = some a → assignment = some a.gameId)
  | .completeTerminal _ _ | .revoke _ | .disconnectGuest _ | .returned (.ok _) =>
    call.guestSessionId = guest → s.Freed guest
  | .returned (.error _) => True

theorem ResetCall.Holds.moves (h : call.Holds config guest s) (hm : s.Moves guest s') :
    call.Holds config guest s' := by
  unfold Holds at h ⊢
  split
  · simp_all
  · rename_i session hphase
    simp only [hphase] at h
    exact ⟨h.1,fun hguest => (h.2 hguest).moves hm⟩
  · rename_i session assignment hphase
    simp only [hphase] at h
    refine ⟨h.1,fun hguest => ?_⟩
    obtain ⟨hgone,hassigned⟩ := h.2 hguest
    exact ⟨hgone.moves hm,fun a ha => hassigned a (hm.assignment hgone a ha)⟩
  all_goals first
    | exact trivial
    | (rename_i hphase; simp only [hphase] at h; exact fun hguest => (h hguest).moves hm)

/-- A step of a reset is an operation of the repositories that creates no guest. -/
theorem ResetCall.advance_execute (chess : ChessEngine) (h : call.Holds config guest s)
    (choice : SessionChoice) (observation : Micros) :
    (call.advance config choice observation s.db).2 = s.db ∨
    ∃ op, op.createdGuest = none ∧ op.lockedGuest = call.lockedGuest ∧
      (call.advance config choice observation s.db).2 = (execute chess s.db op).2 := by
  unfold advance lockedGuest
  unfold Holds at h
  cases hphase : call.phase with
  | command phase =>
    simp only [hphase] at h
    rcases call.request.advance_execute config choice s.db phase with
      hsame | ⟨mutation,attempts,rfl,hexecute⟩
    · exact Or.inl hsame
    · obtain ⟨chosen,rfl⟩ := h.2
      exact Or.inr ⟨.session (call.request.mutation config chosen).operation,rfl,rfl,hexecute⟩
  | terminate session assignment =>
    exact Or.inr ⟨.terminateForReset session.id assignment observation,rfl,rfl,rfl⟩
  | _ => exact Or.inl rfl

theorem ResetCall.advance_holds (chess : ChessEngine) (hdb : s.db.Sound)
    (hsessions : s.db.SessionsSound) (h : call.Holds config guest s) {choice : SessionChoice}
    {observation : Micros} {phase : ResetPhase} {db : Db}
    (hadvance : call.advance config choice observation s.db = (phase,db))
    (hm : s.Moves guest { s with db := db })
    (hguarded : AllocationState.Guarded guest { s with db := db }) :
    ResetCall.Holds config guest { s with db := db } { call with phase := phase } := by
  unfold advance at hadvance
  unfold Holds at h
  cases hphase : call.phase with
  | command command =>
    simp only [hphase] at h hadvance
    obtain ⟨hopen,hprepared⟩ := h
    have hnext := hprepared.advance choice s.db
    cases hcommand : call.request.advance config choice s.db command with
    | mk next db' =>
      rw [hcommand] at hadvance hnext
      obtain ⟨rfl,rfl⟩ := Prod.mk.inj hadvance
      cases next with
      | done result =>
        cases result with
        | error e => exact trivial
        | ok r =>
          obtain ⟨hid,hrow,hrevoked⟩ := command_revokes hsessions hopen hprepared hcommand
          refine ⟨hid,fun hguest => hguarded.gone ?_ ?_⟩
          · exact hguest ▸ hrow
          · exact hguest ▸ hrevoked
      | _ => exact ⟨rfl,hnext⟩
  | findAssignment session =>
    simp only [hphase] at h hadvance
    obtain ⟨rfl,rfl⟩ := Prod.mk.inj hadvance
    refine ⟨h.1,fun hguest => ⟨h.2 hguest,fun a ha => ?_⟩⟩
    rw [h.1,hguest,ha]
    rfl
  | terminate session assignment =>
    simp only [hphase] at h hadvance
    cases hterminate : s.db.terminateForReset session.id assignment observation with
    | mk result db' =>
      rw [hterminate] at hadvance
      obtain ⟨rfl,rfl⟩ := Prod.mk.inj hadvance
      cases result with
      | error e => exact trivial
      | ok submission =>
        have hfreed : call.guestSessionId = guest →
            AllocationState.Freed guest { s with db := db' } := by
          intro hguest
          obtain ⟨hgone,hassigned⟩ := h.2 hguest
          refine ⟨hgone.moves hm,?_⟩
          rw [← hguest,← h.1] at hassigned ⊢
          exact Db.terminateForReset_frees chess hdb hassigned hterminate
        cases submission with
        | none => exact hfreed
        | some submission => exact hfreed
  | returned result =>
    simp only [hphase] at h hadvance
    obtain ⟨rfl,rfl⟩ := Prod.mk.inj hadvance
    exact h
  | _ =>
    simp only [hphase] at h hadvance
    obtain ⟨rfl,rfl⟩ := Prod.mk.inj hadvance
    exact h

end Resets

section Runs

variable {chess : ChessEngine} {config : SessionConfig} {guest : GuestSessionId} {s : ResetState}

theorem AllocateCall.statement_commands {s : AllocationState} {call : AllocateCall}
    {work : Except DatabaseErrorKind (AllocationTransactionResult × Db)}
    {r : AllocationTransactionResult} {db : Db} (h : call.statement s = .ends work)
    (hw : work = .ok (r,db)) : db.sessionCommands = s.db.sessionCommands := by
  subst hw
  unfold statement at h
  repeat' split at h
  all_goals try cases h
  all_goals try rfl
  exact Db.createAllocation_commands (AllocateStatement.ends.inj h)

theorem AllocationState.step_sessions (chess : ChessEngine) {s : AllocationState}
    (h : s.db.SessionsSound) (event : AllocationEvent) :
    (s.step chess event).2.db.SessionsSound := by
  cases event with
  | call input =>
    simp only [step]
    split_ifs
    · exact h
    · exact h
  | advance index =>
    simp only [step]
    cases hc : s.calls[index]? with
    | none => exact h
    | some call =>
      simp only
      cases hs : call.statement s with
      | waits => exact h
      | next call => exact h
      | ends work =>
        refine transaction_keeps (P := Db.SessionsSound) h fun r db hw => ?_
        refine h.of_tables ?_ (call.statement_commands hs hw)
        rcases call.statement_ends hs hw with ⟨_,_,rfl,_⟩ | ⟨rfl,_⟩ | ⟨_,hallocated,_⟩
        · rfl
        · rfl
        · exact hallocated.guestSessions
  | abort index kind =>
    simp only [step]
    cases hc : s.calls[index]? with
    | none => exact h
    | some call => exact h
  | execute operation =>
    simp only [step]
    split_ifs
    · exact h
    · exact h.execute operation

structure ResetState.Sound (config : SessionConfig) (guest : GuestSessionId) (s : ResetState) :
    Prop where
  db : s.allocation.db.Sound
  sessions : s.allocation.db.SessionsSound
  guarded : s.allocation.Guarded guest
  resets : ∀ call ∈ s.resets, call.Holds config guest s.allocation

theorem ResetState.pending_eq {index : ℕ} {call : ResetCall}
    (h : s.pending index = some call) :
    s.resets[index]? = some call ∧ call.phase.isReturned = false := by
  unfold pending at h
  obtain ⟨hc,hp⟩ := Option.filter_eq_some_iff.mp h
  exact ⟨hc,by simpa using hp⟩

theorem ResetCall.advance_moves (chess : ChessEngine) {s : AllocationState} {call : ResetCall}
    (h : call.Holds config guest s) (choice : SessionChoice) (observation : Micros)
    (hlock : ¬ call.lockedGuest.any (· ∈ s.locked) = true) :
    s.Moves guest { s with db := (call.advance config choice observation s.db).2 } := by
  rcases call.advance_execute chess h choice observation with
    hsame | ⟨op,hcreated,hlocked,hexecute⟩
  · rw [hsame]
    exact .of_same fun call hmem => Or.inl hmem
  · rw [hexecute]
    refine .of_execute ?_ ?_
    · rw [hcreated]
      exact nofun
    · rw [hlocked]
      exact Bool.eq_false_iff.mpr hlock

theorem ResetState.Sound.step_moves (chess : ChessEngine) (h : s.Sound config guest)
    {event : ResetEvent} (hevent : event.createdGuest ≠ some guest) :
    s.allocation.Moves guest (s.step chess config event).2.allocation := by
  have hrefl : s.allocation.Moves guest s.allocation := .of_same fun call hmem => Or.inl hmem
  cases event with
  | reset guestSessionId idempotencyHash tokenWasRevoked => exact hrefl
  | advance index choice observation =>
    simp only [ResetState.step]
    cases hcall : s.pending index with
    | none => exact hrefl
    | some call =>
      simp only
      split_ifs with hlock
      · exact hrefl
      · have hholds := h.resets call (List.mem_of_getElem? (pending_eq hcall).1)
        exact call.advance_moves chess hholds choice observation hlock
  | abort index error =>
    simp only [ResetState.step]
    cases hcall : s.pending index with
    | none => exact hrefl
    | some call => exact hrefl
  | allocation event => exact s.allocation.step_moves chess hevent

theorem ResetState.Sound.step_change (chess : ChessEngine) (h : s.Sound config guest)
    (event : ResetEvent) :
    DbChange chess s.allocation.db (s.step chess config event).2.allocation.db ∧
      (s.step chess config event).2.allocation.db.SessionsSound := by
  have hrefl : DbChange chess s.allocation.db s.allocation.db ∧ s.allocation.db.SessionsSound :=
    ⟨DbChange.refl,h.sessions⟩
  cases event with
  | reset guestSessionId idempotencyHash tokenWasRevoked => exact hrefl
  | advance index choice observation =>
    simp only [ResetState.step]
    cases hcall : s.pending index with
    | none => exact hrefl
    | some call =>
      simp only
      split_ifs
      · exact hrefl
      · have hholds := h.resets call (List.mem_of_getElem? (pending_eq hcall).1)
        change DbChange chess _ (call.advance config choice observation s.allocation.db).2 ∧
          (call.advance config choice observation s.allocation.db).2.SessionsSound
        rcases call.advance_execute chess hholds choice observation with
          hsame | ⟨op,_,_,hexecute⟩
        · rw [hsame]
          exact hrefl
        · rw [hexecute]
          exact ⟨execute_change chess _ op,h.sessions.execute op⟩
  | abort index error =>
    simp only [ResetState.step]
    cases hcall : s.pending index with
    | none => exact hrefl
    | some call => exact hrefl
  | allocation event =>
    exact ⟨s.allocation.step_change chess event,s.allocation.step_sessions chess h.sessions event⟩

theorem ResetState.Sound.step_resets (chess : ChessEngine) (h : s.Sound config guest)
    {event : ResetEvent} (hevent : event.createdGuest ≠ some guest) :
    ∀ call ∈ (s.step chess config event).2.resets,
      call.Holds config guest (s.step chess config event).2.allocation := by
  have hmoves := h.step_moves chess hevent
  have hguarded := h.guarded.moves hmoves
  have hkeep : ∀ call ∈ s.resets,
      call.Holds config guest (s.step chess config event).2.allocation :=
    fun call hmem => (h.resets call hmem).moves hmoves
  cases event with
  | reset guestSessionId idempotencyHash tokenWasRevoked =>
    intro call hmem
    rcases List.mem_append.mp hmem with hold | hnew
    · exact hkeep call hold
    · rw [List.mem_singleton.mp hnew]
      exact ⟨rfl,trivial⟩
  | advance index choice observation =>
    simp only [ResetState.step] at hmoves hguarded hkeep ⊢
    cases hcall : s.pending index with
    | none => exact h.resets
    | some call =>
      simp only [hcall] at hmoves hguarded hkeep ⊢
      split_ifs at hmoves hguarded hkeep ⊢
      · exact h.resets
      · intro other hmem
        rcases List.mem_or_eq_of_mem_set hmem with hold | rfl
        · exact hkeep other hold
        · have hholds := h.resets call (List.mem_of_getElem? (pending_eq hcall).1)
          exact ResetCall.advance_holds chess h.db h.sessions hholds rfl hmoves hguarded
  | abort index error =>
    simp only [ResetState.step]
    cases hcall : s.pending index with
    | none => exact h.resets
    | some call =>
      intro other hmem
      rcases List.mem_or_eq_of_mem_set hmem with hold | rfl
      · exact h.resets other hold
      · exact trivial
  | allocation event => exact hkeep

theorem ResetState.Sound.step (chess : ChessEngine) (h : s.Sound config guest)
    {event : ResetEvent} (hevent : event.createdGuest ≠ some guest) :
    (s.step chess config event).2.Sound config guest :=
  ⟨(h.step_change chess event).1.sound h.db,(h.step_change chess event).2,
    h.guarded.moves (h.step_moves chess hevent),h.step_resets chess hevent⟩

end Runs

section Abandoned

variable {chess : ChessEngine} {config : SessionConfig} {guest : GuestSessionId} {db db' : Db}
  {s : ResetState} {id : GameId}

def PersistedGame.AbandonedBy (guest : GuestSessionId) (g : PersistedGame) : Prop :=
  g.status = .abandoned ∧ g.termination = some "ABANDONMENT" ∧
    ∃ p ∈ g.players, p.guestSessionId = guest ∧
      g.result = some (if p.color = .w then "0-1" else "1-0")

theorem PersistedGame.ended_abandonedBy {g : PersistedGame} {player : GamePlayer}
    {outcome : TerminalOutcome} (observation : Micros) (hp : g.playerFor guest = some player)
    (ho : deriveTerminalOutcome (.abandonment [player.color]) = .ok outcome) :
    (g.ended observation outcome).AbandonedBy guest := by
  obtain ⟨hmem,hguest⟩ := playerFor_mem hp
  have houtcome : outcome = winnerOutcome (oppositeColor player.color) .abandoned .abandonment := by
    simp [deriveTerminalOutcome,deriveAbandonment] at ho
    exact ho.symm
  subst houtcome
  refine ⟨rfl,rfl,player.clearGrace,List.mem_map_of_mem hmem,hguest,?_⟩
  cases hcolor : player.color <;>
    simp [PersistedGame.ended,PersistedGame.mapPlayers,PersistedGame.finalized,winnerOutcome,
      persistedResult,GamePlayer.clearGrace,oppositeColor,hcolor]

theorem Db.terminateForReset_abandons (chess : ChessEngine) {assignment : Option GameId}
    {observation : Micros} {result : Except RepositoryError (Option TerminalSubmission)}
    (h : db.terminateForReset guest assignment observation = (result,db'))
    (hlive : ¬ Ended id db) {g : PersistedGame} (hg : db'.games.find id = some g)
    (ht : g.status.terminal = true) : g.AbandonedBy guest := by
  have hkept : db' ≠ db := by
    rintro rfl
    exact hlive ⟨g,hg,ht⟩
  have hdb : db' = db ∨ ∃ r, db.terminateForResetInTransaction guest assignment observation =
      .ok (r,db') := by
    have hsnd := congrArg Prod.snd h
    unfold Db.terminateForReset at hsnd
    rcases Db.transaction_cases db
      (db.terminateForResetInTransaction guest assignment observation) with
      ⟨kind,hw⟩ | ⟨r,db₁,hw,hw'⟩
    · rw [hw] at hsnd
      exact Or.inl hsnd.symm
    · rw [hw'] at hsnd
      obtain rfl : db₁ = db' := hsnd
      exact Or.inr ⟨r,hw⟩
  obtain ⟨r,hw⟩ := hdb.resolve_left hkept
  rcases terminateForResetInTransaction_ok chess hw with
    ⟨hsame,_⟩ | ⟨id',x,player,outcome,guests,_,hp,ho,_,hwrote,_⟩
  · exact absurd hsame hkept
  · rw [hwrote.find] at hg
    split_ifs at hg with hid
    · cases hg
      exact PersistedGame.ended_abandonedBy observation hp ho
    · exact absurd ⟨g,hg,ht⟩ hlive

/-- The step is the transaction with which a reset of the guest abandons its game. -/
def TerminatesFor (guest : GuestSessionId)
    (e : Machine.Event ResetState ResetEvent (Option ResetAnswer)) : Prop :=
  ∃ index choice observation call session assignment,
    e.input = .advance index choice observation ∧ e.before.pending index = some call ∧
    call.guestSessionId = guest ∧ call.phase = .terminate session assignment

theorem TerminatesFor.abandons (chess : ChessEngine) (hs : s.Sound config guest)
    {input : ResetEvent} (h : TerminatesFor guest ((guestResets chess config).event s input))
    (hlive : ¬ Ended id s.allocation.db) {g : PersistedGame}
    (hg : ((guestResets chess config).next s input).allocation.db.games.find id = some g)
    (ht : g.status.terminal = true) : g.AbandonedBy guest := by
  obtain ⟨index,choice,observation,call,session,assignment,rfl,hcall,hguest,hphase⟩ := h
  have hcall : s.pending index = some call := hcall
  have hholds := hs.resets call (List.mem_of_getElem? (ResetState.pending_eq hcall).1)
  unfold ResetCall.Holds at hholds
  simp only [hphase] at hholds
  have hid : session.id = guest := hholds.1.trans hguest
  have hlock : call.lockedGuest = none := by
    unfold ResetCall.lockedGuest
    rw [hphase]
  have hnext : ((guestResets chess config).next s (.advance index choice observation)) =
      (s.goOn index call (call.advance config choice observation s.allocation.db).1
        (call.advance config choice observation s.allocation.db).2).2 := by
    simp [guestResets,Machine.next,ResetState.step,hcall,hlock]
  rw [hnext] at hg
  have hadvance : (call.advance config choice observation s.allocation.db).2 =
      (s.allocation.db.terminateForReset guest assignment observation).2 := by
    unfold ResetCall.advance
    simp only [hphase,hid]
    rfl
  have hg : (call.advance config choice observation s.allocation.db).2.games.find id = some g := hg
  rw [hadvance] at hg
  exact Db.terminateForReset_abandons chess rfl hlive hg ht

end Abandoned

section Reset

variable {chess : ChessEngine} {config : SessionConfig} {guest : GuestSessionId} {s : ResetState}
  {id : GameId} {schedule : List ResetEvent}

def Succeeds (guest : GuestSessionId)
    (e : Machine.Event ResetState ResetEvent (Option ResetAnswer)) : Prop :=
  e.answer = some (guest,.ok ())

theorem ResetState.step_answer {event : ResetEvent} {answer : ResetAnswer}
    (h : (s.step chess config event).1 = some answer) :
    ∃ index call phase db, s.pending index = some call ∧
      s.step chess config event = s.goOn index call phase db := by
  cases event with
  | reset guestSessionId idempotencyHash tokenWasRevoked => cases h
  | allocation event => cases h
  | advance index choice observation =>
    unfold ResetState.step at h ⊢
    cases hcall : s.pending index with
    | none =>
      simp only [hcall] at h
      cases h
    | some call =>
      simp only [hcall] at h ⊢
      split_ifs at h ⊢
      exact ⟨index,call,_,_,hcall,rfl⟩
  | abort index error =>
    unfold ResetState.step at h ⊢
    cases hcall : s.pending index with
    | none =>
      simp only [hcall] at h
      cases h
    | some call =>
      simp only [hcall]
      exact ⟨index,call,_,_,hcall,rfl⟩

theorem Succeeds.freed (hs : s.Sound config guest) {event : ResetEvent}
    (hevent : event.createdGuest ≠ some guest)
    (h : Succeeds guest ((guestResets chess config).event s event)) :
    ((guestResets chess config).next s event).allocation.Freed guest := by
  have hnext : (s.step chess config event).2.Sound config guest := hs.step chess hevent
  have hanswer : (s.step chess config event).1 = some (guest,.ok ()) := h
  change (s.step chess config event).2.allocation.Freed guest
  obtain ⟨index,call,phase,db,hcall,hstep⟩ := ResetState.step_answer hanswer
  rw [hstep] at hanswer hnext ⊢
  -- the call stays in the list with what it has returned
  have hindex := (List.getElem?_eq_some_iff.mp (ResetState.pending_eq hcall).1).1
  have hholds := hnext.resets _ (List.mem_set hindex { call with phase := phase })
  cases phase with
  | returned result =>
    cases hanswer
    exact hholds rfl
  | _ => cases hanswer

theorem ResetState.Sound.next (s : ResetState) (event : ResetEvent)
    (hevent : event.createdGuest ≠ some guest) (h : s.Sound config guest) :
    ((guestResets chess config).next s event).Sound config guest := h.step chess hevent

theorem freed_final (hs : s.Sound config guest)
    (hschedule : ∀ event ∈ schedule, event.createdGuest ≠ some guest)
    {e : Machine.Event ResetState ResetEvent (Option ResetAnswer)}
    (he : e ∈ (guestResets chess config).events s schedule) (h : Succeeds guest e) :
    ((guestResets chess config).run s schedule).allocation.Freed guest := by
  have hkeep : ∀ (s : ResetState) (event : ResetEvent), event.createdGuest ≠ some guest →
      s.Sound config guest ∧ s.allocation.Freed guest →
      ((guestResets chess config).next s event).Sound config guest ∧
        ((guestResets chess config).next s event).allocation.Freed guest :=
    fun s event hevent hs =>
      ⟨hs.1.next s event hevent,hs.2.moves (hs.1.step_moves chess hevent)⟩
  obtain ⟨hbefore,hevent⟩ :=
    (guestResets chess config).events_invariant ResetState.Sound.next hs hschedule he
  have hsucceeds : Succeeds guest ((guestResets chess config).event e.before e.input) := by
    rw [← Machine.mem_events_eq _ he]
    exact h
  have hafter : e.after = (guestResets chess config).next e.before e.input := by
    rw [Machine.mem_events_eq _ he]
    rfl
  refine ((guestResets chess config).final_invariant hkeep hschedule he ?_).2
  rw [hafter]
  exact ⟨hbefore.next _ _ hevent,hsucceeds.freed hbefore hevent⟩

theorem player_final (chess : ChessEngine) (hs : s.Sound config guest)
    (hschedule : ∀ event ∈ schedule, event.createdGuest ≠ some guest) {g : PersistedGame}
    (hg : s.allocation.db.games.find id = some g) (hguest : guest ∈ g.guests) :
    ∃ g', ((guestResets chess config).run s schedule).allocation.db.games.find id = some g' ∧
      guest ∈ g'.guests := by
  have hkeep : ∀ (s : ResetState) (event : ResetEvent), event.createdGuest ≠ some guest →
      (s.Sound config guest ∧
        ∃ g, s.allocation.db.games.find id = some g ∧ guest ∈ g.guests) →
      ((guestResets chess config).next s event).Sound config guest ∧
        ∃ g, ((guestResets chess config).next s event).allocation.db.games.find id = some g ∧
          guest ∈ g.guests := by
    rintro s event hevent ⟨hs,g,hg,hguest⟩
    refine ⟨hs.next s event hevent,?_⟩
    obtain ⟨g',hg',hsame⟩ := (hs.step_change chess event).1.row hg
    refine ⟨g',hg',?_⟩
    rcases hsame with rfl | hchange
    · exact hguest
    · rw [guests_of_seats hchange.seats_eq]
      exact hguest
  exact ((guestResets chess config).run_invariant hkeep ⟨hs,g,hg,hguest⟩ hschedule).2

theorem ended_row_final (hs : s.Sound config guest)
    (hschedule : ∀ event ∈ schedule, event.createdGuest ≠ some guest)
    {e : Machine.Event ResetState ResetEvent (Option ResetAnswer)}
    (he : e ∈ (guestResets chess config).events s schedule) {g : PersistedGame}
    (hg : e.after.allocation.db.games.find id = some g) (ht : g.status.terminal = true) :
    ((guestResets chess config).run s schedule).allocation.db.games.find id = some g := by
  have hkeep : ∀ (s : ResetState) (event : ResetEvent), event.createdGuest ≠ some guest →
      s.Sound config guest ∧ s.allocation.db.games.find id = some g →
      ((guestResets chess config).next s event).Sound config guest ∧
        ((guestResets chess config).next s event).allocation.db.games.find id = some g :=
    fun s event hevent hs =>
      ⟨hs.1.next s event hevent,(hs.1.step_change chess event).1.find_ended hs.2 ht⟩
  obtain ⟨hbefore,hevent⟩ :=
    (guestResets chess config).events_invariant ResetState.Sound.next hs hschedule he
  have hafter : e.after.Sound config guest := by
    rw [Machine.mem_events_eq _ he]
    exact hbefore.next _ _ hevent
  exact ((guestResets chess config).final_invariant hkeep hschedule he ⟨hafter,hg⟩).2

/-- A live game of a guest whose reset succeeds has ended: abandoned by the guest, or by another
transaction. -/
theorem live_game_ends (hs : s.Sound config guest)
    (hschedule : ∀ event ∈ schedule, event.createdGuest ≠ some guest) {g : PersistedGame}
    (hg : s.allocation.db.games.find id = some g) (hlive : g.status.terminal = false)
    (hguest : guest ∈ g.guests)
    (hsucceeds : ∃ e ∈ (guestResets chess config).events s schedule, Succeeds guest e) :
    ∃ g', ((guestResets chess config).run s schedule).allocation.db.games.find id = some g' ∧
      g'.status.terminal = true ∧ (g'.AbandonedBy guest ∨
        ∃ e ∈ (guestResets chess config).events s schedule, ¬ TerminatesFor guest e ∧
          ¬ Ended id e.before.allocation.db ∧
          e.after.allocation.db.games.find id = some g') := by
  obtain ⟨e,he,hsuccess⟩ := hsucceeds
  have hfreed := freed_final hs hschedule he hsuccess
  have hfinal := (guestResets chess config).run_invariant ResetState.Sound.next hs hschedule
  obtain ⟨g',hg',hplayer⟩ := player_final chess hs hschedule hg hguest
  have hended : g'.status.terminal = true := by
    by_contra hn
    obtain ⟨p,hp,hid⟩ := List.mem_map.mp hplayer
    have hassigned := hfinal.db.players id g' hg' (Bool.eq_false_iff.mpr hn) p hp
    rw [hid,hfreed.unassigned] at hassigned
    cases hassigned
  refine ⟨g',hg',hended,?_⟩
  have hstart : ¬ Ended id s.allocation.db := by
    rintro ⟨x,hx,hxt⟩
    rw [hg] at hx
    cases hx
    rw [hlive] at hxt
    cases hxt
  obtain ⟨e',he',hbefore,x,hx,hxt⟩ := (guestResets chess config).exists_enters
    (P := fun s => Ended id s.allocation.db) hstart ⟨g',hg',hended⟩
  have hrow := ended_row_final hs hschedule he' hx hxt
  rw [hg'] at hrow
  obtain rfl := Option.some.inj hrow
  by_cases hterminates : TerminatesFor guest e'
  · left
    have hsound := ((guestResets chess config).events_invariant ResetState.Sound.next hs
      hschedule he').1
    rw [Machine.mem_events_eq _ he'] at hterminates hx
    exact hterminates.abandons chess hsound hbefore hx hended
  · exact Or.inr ⟨e',he',hterminates,hbefore,hx⟩

/-- However a reset of a guest interleaves with calls of `allocate`, with other resets and with
every other operation: once it has returned success the guest has no active assignment, in any
continuation; and a live game that the guest was in before that has ended, abandoned with the
opponent as the winner, or with the outcome of another transaction. The identifier of a session is
a random UUID, so nothing creates the guest anew. -/
theorem reset_frees_guest (chess : ChessEngine) (config : SessionConfig) {guest : GuestSessionId}
    {s : ResetState} (hdb : s.allocation.db.Grown chess)
    (hcalls : ∀ call ∈ s.allocation.calls, guest ∉ AllocateCall.guestIds call.input)
    (hresets : s.resets = []) {schedule : List ResetEvent}
    (hschedule : ∀ event ∈ schedule, event.createdGuest ≠ some guest) :
    (∀ e ∈ (guestResets chess config).events s schedule, Succeeds guest e →
      ((guestResets chess config).run s schedule).allocation.db.assignments.find guest = none) ∧
    ∀ earlier later, schedule = earlier ++ later → ∀ id g,
      ((guestResets chess config).run s earlier).allocation.db.games.find id = some g →
      g.status.terminal = false → guest ∈ g.guests →
      (∃ e ∈ (guestResets chess config).events ((guestResets chess config).run s earlier) later,
        Succeeds guest e) →
      ∃ g', ((guestResets chess config).run s schedule).allocation.db.games.find id = some g' ∧
        g'.status.terminal = true ∧ (g'.AbandonedBy guest ∨
          ∃ e ∈ (guestResets chess config).events ((guestResets chess config).run s earlier) later,
            ¬ TerminatesFor guest e ∧ ¬ Ended id e.before.allocation.db ∧
            e.after.allocation.db.games.find id = some g') := by
  have hs : s.Sound config guest := by
    refine ⟨hdb.reachable.sound,hdb.sessions,⟨?_,?_⟩,?_⟩
    · exact fun _ _ _ call hmem hguest => absurd hguest (hcalls call hmem)
    · exact fun _ _ _ call hmem hguest => absurd hguest (hcalls call hmem)
    · rw [hresets]
      exact fun call hmem => absurd hmem List.not_mem_nil
  refine ⟨fun e he h => (freed_final hs hschedule he h).unassigned,?_⟩
  rintro earlier later rfl id g hg hlive hguest hsucceeds
  have hearlier : ∀ event ∈ earlier, event.createdGuest ≠ some guest :=
    fun event hmem => hschedule event (List.mem_append_left _ hmem)
  have hlater : ∀ event ∈ later, event.createdGuest ≠ some guest :=
    fun event hmem => hschedule event (List.mem_append_right _ hmem)
  rw [Machine.run_append]
  exact live_game_ends ((guestResets chess config).run_invariant ResetState.Sound.next hs hearlier)
    hlater hg hlive hguest hsucceeds

end Reset

section Sample

def sampleGuests : ResetState :=
  let claims : IssuedSessionClaims := ⟨sampleId 21,0,10000000⟩
  ⟨⟨(repositories sampleEngine).run (.initial .empty .empty)
    [.session (.create none ⟨"knight","Ada",sampleId 1,"first",claims⟩),
      .session (.create none ⟨"rook","Grace",sampleId 2,"second",claims⟩)],[]⟩,[]⟩

def sampleResetStep : ResetEvent := .advance 0 (sampleSessionChoice 2000 2) 5000000

/-- The first guest resets while a match is being allocated, and waits for the row lock. -/
def sampleResetRun : List ResetEvent :=
  let allocate : ResetEvent := .allocation (.advance 0)
  [.allocation (.call sampleAllocation),allocate,allocate,allocate,allocate,
    .reset (sampleId 1) "third" false,sampleResetStep,sampleResetStep,sampleResetStep,
    allocate,allocate,allocate,sampleResetStep,sampleResetStep,sampleResetStep,
    sampleResetStep,sampleResetStep]

end Sample

theorem reset_frees_guest_sample :
    ((guestResets sampleEngine sampleSessionConfig).run sampleGuests
      (sampleResetRun ++ [sampleResetStep])).allocation.db.assignments.find (sampleId 1) =
        none := by
  have hgrown : sampleGuests.allocation.db.Grown sampleEngine := ⟨_,rfl⟩
  have hschedule : ∀ event ∈ sampleResetRun ++ [sampleResetStep],
      event.createdGuest ≠ some (sampleId 1) := by
    decide
  have hanswer : (((guestResets sampleEngine sampleSessionConfig).event
      ((guestResets sampleEngine sampleSessionConfig).run sampleGuests sampleResetRun)
      sampleResetStep).answer.map fun answer => (answer.1,answer.2.toOption)) =
        some (sampleId 1,some ()) := by
    decide +kernel
  have hsucceeds : Succeeds (sampleId 1) ((guestResets sampleEngine sampleSessionConfig).event
      ((guestResets sampleEngine sampleSessionConfig).run sampleGuests sampleResetRun)
      sampleResetStep) := by
    obtain ⟨⟨guest,result⟩,ha,hvalue⟩ := Option.map_eq_some_iff.mp hanswer
    obtain ⟨rfl,hresult⟩ := Prod.mk.inj hvalue
    cases result with
    | error e => cases hresult
    | ok u => exact ha
  refine (reset_frees_guest sampleEngine sampleSessionConfig hgrown
    (fun call hmem => absurd hmem List.not_mem_nil) rfl hschedule).1 _ ?_ hsucceeds
  rw [Machine.events_append]
  exact List.mem_append_right _ List.mem_cons_self

end CluChess
