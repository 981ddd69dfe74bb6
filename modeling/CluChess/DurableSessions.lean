import CluChess.ConstraintChecks

/-! The invariant of the guest sessions and of their commands: a command belongs to a session
that exists, a command that has issued a token has kept its claims, and the session of a reset
is revoked. -/
namespace CluChess

/-- What holds of the tables of the sessions in every database that grew from an empty one. -/
structure Db.SessionsSound (db : Db) : Prop where
  checked : db.SessionsChecked
  joined : ∀ c ∈ db.sessionCommands.rows, db.guestSessions.find c.guestSessionId ≠ none
  claims : ∀ c ∈ db.sessionCommands.rows, c.commandType ≠ .reset → c.issuedClaims ≠ none
  revoked : ∀ c ∈ db.sessionCommands.rows, c.commandType = .reset →
    ∀ session, db.guestSessions.find c.guestSessionId = some session → session.revokedAt ≠ none

/-- A database that some run of the repositories leads to from an empty one. -/
def Db.Grown (chess : ChessEngine) (db : Db) : Prop :=
  ∃ operations, db = (repositories chess).run (.initial .empty .empty) operations

variable {chess : ChessEngine} {db db' : Db}

theorem Db.Grown.reachable (h : db.Grown chess) : db.Reachable chess := by
  obtain ⟨operations,rfl⟩ := h
  exact ⟨.empty,.empty,operations,rfl⟩

namespace Db

section Statements

theorem createSessionCommand_ok {row : SessionCommand}
    (h : db.createSessionCommand row = .ok db') :
    db.sessionCommands.insert row = some db'.sessionCommands ∧
      db'.guestSessions = db.guestSessions := by
  refine ⟨?_,createSessionCommand_sessions h⟩
  unfold createSessionCommand at h
  cases hi : db.sessionCommands.insert row with
  | none => simp [hi] at h
  | some sessionCommands =>
    simp only [hi] at h
    cases h
    rfl

theorem createGuestSession_ok {row : GuestSession} (h : db.createGuestSession row = .ok db') :
    db.guestSessions.insert row = some db'.guestSessions ∧
      db'.sessionCommands = db.sessionCommands := by
  unfold createGuestSession at h
  split_ifs at h
  cases hi : db.guestSessions.insert row with
  | none => simp [hi] at h
  | some guestSessions =>
    simp only [hi] at h
    cases h
    exact ⟨rfl,rfl⟩

theorem updateGuestSession_ok {row : GuestSession} (h : db.updateGuestSession row = .ok db') :
    row.rowChecks ∧ db'.guestSessions = db.guestSessions.put row ∧
      db'.sessionCommands = db.sessionCommands := by
  unfold updateGuestSession at h
  split_ifs at h with hchecks
  cases h
  exact ⟨hchecks,rfl,rfl⟩

theorem createSession_ok {input : CreateGuestSession} {r : SessionMutationResult}
    (h : db.createSession none input = .ok (r,db')) :
    ∃ row : GuestSession, row.id = input.guestSessionId ∧ row.revokedAt = none ∧
      db.guestSessions.insert row = some db'.guestSessions ∧
      db.sessionCommands.insert ⟨input.idempotencyHash,.create,input.guestSessionId,
        some input.issuedClaims⟩ = some db'.sessionCommands ∧
      r = ⟨false,⟨.create,row,some input.issuedClaims⟩⟩ := by
  obtain ⟨db₁,h₁,h⟩ := bind_eq_ok.mp h
  obtain ⟨db₂,h₂,h⟩ := bind_eq_ok.mp h
  cases h
  obtain ⟨hrow,hcommands⟩ := createGuestSession_ok h₁
  obtain ⟨hcommand,hsessions⟩ := createSessionCommand_ok h₂
  rw [hcommands] at hcommand
  rw [← hsessions] at hrow
  exact ⟨_,rfl,rfl,hrow,hcommand,rfl⟩

theorem changeSession_ok {id : GuestSessionId} {t : Millis} {change : GuestSession → GuestSession}
    {command : SessionCommand} {r : SessionMutationResult}
    (h : db.changeSession id t change command = .ok (r,db')) :
    ∃ current, db.availableSession id t = .ok current ∧ (change current).rowChecks ∧
      db'.guestSessions = db.guestSessions.put (change current) ∧
      db.sessionCommands.insert command = some db'.sessionCommands ∧
      r = ⟨false,⟨command.commandType,change current,command.issuedClaims⟩⟩ := by
  obtain ⟨current,hcurrent,h⟩ := bind_eq_ok.mp h
  obtain ⟨db₁,h₁,h⟩ := bind_eq_ok.mp h
  obtain ⟨db₂,h₂,h⟩ := bind_eq_ok.mp h
  cases h
  obtain ⟨hchecks,hput,hcommands⟩ := updateGuestSession_ok h₁
  obtain ⟨hcommand,hsessions⟩ := createSessionCommand_ok h₂
  rw [hcommands] at hcommand
  exact ⟨current,hcurrent,hchecks,hsessions.trans hput,hcommand,rfl⟩

end Statements

namespace SessionsSound

theorem initial : (Db.initial .empty .empty).SessionsSound :=
  ⟨fun _ h => absurd h List.not_mem_nil,fun _ h => absurd h List.not_mem_nil,
    fun _ h => absurd h List.not_mem_nil,fun _ h => absurd h List.not_mem_nil⟩

theorem create (h : db.SessionsSound) (hchecked : db'.SessionsChecked) {row : GuestSession}
    {command : SessionCommand} (hrow : db.guestSessions.insert row = some db'.guestSessions)
    (hcommand : db.sessionCommands.insert command = some db'.sessionCommands)
    (hid : command.guestSessionId = row.id) (hclaims : command.issuedClaims ≠ none)
    (htype : command.commandType ≠ .reset) : db'.SessionsSound := by
  have hfresh := (Table.insert_fresh hrow).1
  have hold : ∀ c ∈ db.sessionCommands.rows, db'.guestSessions.find c.guestSessionId =
      db.guestSessions.find c.guestSessionId := by
    intro c hc
    have hne : c.guestSessionId ≠ row.id := by
      intro he
      exact h.joined c hc (he ▸ hfresh)
    rw [Table.find_insert hrow,if_neg hne]
  refine ⟨hchecked,?_,?_,?_⟩
  · intro c hc
    rcases (Table.mem_insert hcommand).mp hc with hc | rfl
    · rw [hold c hc]
      exact h.joined c hc
    · rw [Table.find_insert hrow,if_pos hid]
      exact nofun
  · intro c hc hnot
    rcases (Table.mem_insert hcommand).mp hc with hc | rfl
    · exact h.claims c hc hnot
    · exact hclaims
  · intro c hc hreset session hs
    rcases (Table.mem_insert hcommand).mp hc with hc | rfl
    · rw [hold c hc] at hs
      exact h.revoked c hc hreset session hs
    · exact absurd hreset htype

theorem change (h : db.SessionsSound) (hchecked : db'.SessionsChecked)
    {current row : GuestSession} {command : SessionCommand}
    (hcurrent : db.guestSessions.find row.id = some current) (hopen : current.revokedAt = none)
    (hput : db'.guestSessions = db.guestSessions.put row)
    (hcommand : db.sessionCommands.insert command = some db'.sessionCommands)
    (hid : command.guestSessionId = row.id)
    (hclaims : command.commandType ≠ .reset → command.issuedClaims ≠ none)
    (hrevoked : command.commandType = .reset → row.revokedAt ≠ none) : db'.SessionsSound := by
  have hself : db'.guestSessions.find row.id = some row := by
    rw [hput]
    exact Table.find_put_self hcurrent
  have hother : ∀ id, id ≠ row.id → db'.guestSessions.find id = db.guestSessions.find id := by
    intro id hne
    rw [hput]
    exact Table.find_put_of_ne _ hne
  refine ⟨hchecked,?_,?_,?_⟩
  · intro c hc
    by_cases he : c.guestSessionId = row.id
    · rw [he,hself]
      exact nofun
    · rw [hother _ he]
      rcases (Table.mem_insert hcommand).mp hc with hc | rfl
      · exact h.joined c hc
      · exact absurd hid he
  · intro c hc hnot
    rcases (Table.mem_insert hcommand).mp hc with hc | rfl
    · exact h.claims c hc hnot
    · exact hclaims hnot
  · intro c hc hreset session hs
    rcases (Table.mem_insert hcommand).mp hc with hc | rfl
    · by_cases he : c.guestSessionId = row.id
      · exact absurd hopen (h.revoked c hc hreset current (he ▸ hcurrent))
      · rw [hother _ he] at hs
        exact h.revoked c hc hreset session hs
    · rw [hid,hself] at hs
      cases hs
      exact hrevoked hreset

theorem transaction (h : db.SessionsSound)
    {work : Except SessionFailure (SessionMutationResult × Db)}
    (hchecked : (db.sessionTransaction work).2.SessionsChecked)
    (hw : ∀ r db', work = .ok (r,db') → db'.SessionsChecked → db'.SessionsSound) :
    (db.sessionTransaction work).2.SessionsSound := by
  cases work with
  | error e => exact h
  | ok r => exact hw r.1 r.2 rfl hchecked

/-- Deleted sessions take their commands with them. -/
theorem cleanup (h : db.SessionsSound) (cutoff : Millis) (limit : ℕ)
    (locked : List GuestSessionId) : (db.cleanupExpired cutoff limit locked).2.SessionsSound := by
  unfold Db.cleanupExpired
  simp only
  generalize List.map GuestSession.id _ = candidates
  have hkeep : ∀ c : SessionCommand, decide (c.guestSessionId ∈ candidates) = false →
      (db.guestSessions.deleteWhere fun g => g.id ∈ candidates).find c.guestSessionId =
        db.guestSessions.find c.guestSessionId := by
    intro c hc
    rw [Table.find_deleteWhere]
    cases hf : db.guestSessions.find c.guestSessionId with
    | none => rfl
    | some session =>
      have hid := Table.find_key hf
      simp only [Option.filter,hid,hc]
      rfl
  constructor
  · exact fun session hmem => h.checked session (Table.mem_deleteWhere.mp hmem).1
  · intro c hc
    obtain ⟨hmem,hnot⟩ := Table.mem_deleteWhere.mp hc
    simp only [hkeep c hnot]
    exact h.joined c hmem
  · intro c hc
    exact h.claims c (Table.mem_deleteWhere.mp hc).1
  · intro c hc hreset session hs
    obtain ⟨hmem,hnot⟩ := Table.mem_deleteWhere.mp hc
    simp only [hkeep c hnot] at hs
    exact h.revoked c hmem hreset session hs

theorem session (h : db.SessionsSound) (operation : SessionOperation) :
    (db.executeSession operation).2.SessionsSound := by
  have hchecked := h.checked.session operation
  cases operation with
  | create existing input =>
    refine h.transaction hchecked fun r db' hw hkept => ?_
    cases existing with
    | some command => rwa [toCommandReplay_frame hw]
    | none =>
      obtain ⟨row,hid,_,hrow,hcommand,_⟩ := createSession_ok hw
      exact h.create hkept hrow hcommand hid.symm nofun nofun
  | renew existing input =>
    refine h.transaction hchecked fun r db' hw hkept => ?_
    cases existing with
    | some command => rwa [toCommandReplay_frame hw]
    | none =>
      obtain ⟨current,hcurrent,_,hput,hcommand,_⟩ := changeSession_ok hw
      obtain ⟨hfind,hopen,_⟩ := availableSession_ok hcurrent
      have hid := Table.find_key hfind
      exact h.change hkept (hid.symm ▸ hfind) hopen hput hcommand hid.symm (fun _ => nofun) nofun
  | reset existing input =>
    refine h.transaction hchecked fun r db' hw hkept => ?_
    cases existing with
    | some command => rwa [toCommandReplay_frame hw]
    | none =>
      obtain ⟨current,hcurrent,_,hput,hcommand,_⟩ := changeSession_ok hw
      obtain ⟨hfind,hopen,_⟩ := availableSession_ok hcurrent
      have hid := Table.find_key hfind
      exact h.change hkept (hid.symm ▸ hfind) hopen hput hcommand hid.symm
        (fun hn => absurd rfl hn) (fun _ => nofun)
  | cleanupExpired cutoff limit locked => exact h.cleanup cutoff limit locked

theorem of_tables (h : db.SessionsSound) (hs : db'.guestSessions = db.guestSessions)
    (hc : db'.sessionCommands = db.sessionCommands) : db'.SessionsSound := by
  obtain ⟨hchecked,hjoined,hclaims,hrevoked⟩ := h
  unfold SessionsChecked at hchecked
  rw [← hs] at hchecked hjoined hrevoked
  rw [← hc] at hjoined hclaims hrevoked
  exact ⟨hchecked,hjoined,hclaims,hrevoked⟩

end SessionsSound

theorem createAllocation_commands {input : AllocateGame} {r : AllocationTransactionResult}
    (h : db.createAllocation input = .ok (r,db')) : db'.sessionCommands = db.sessionCommands := by
  obtain ⟨db₁,hc,h⟩ := bind_eq_ok.mp h
  obtain ⟨_,rfl,rfl⟩ := commit_ok h
  unfold createGame at hc
  split_ifs at hc
  cases hg : db.games.insert (newGameRow input) with
  | none => simp [hg] at hc
  | some games =>
    simp only [hg] at hc
    obtain ⟨assignments,_,he⟩ := map_eq_ok.mp hc
    rw [← he]

theorem allocateInTransaction_commands {input : AllocateGame} {r : AllocationTransactionResult}
    (h : db.allocateInTransaction input = .ok (r,db')) :
    db'.sessionCommands = db.sessionCommands := by
  unfold allocateInTransaction at h
  simp only at h
  split at h
  · cases h
    rfl
  · split_ifs at h
    · cases h
      rfl
    · cases h
      rfl
    · exact createAllocation_commands h

end Db

/-- Only the mutations of the sessions touch their tables. -/
theorem execute_sessions (chess : ChessEngine) (db : Db) {op : Operation}
    (h : ∀ operation, op ≠ .session operation) :
    (execute chess db op).2.guestSessions = db.guestSessions ∧
      (execute chess db op).2.sessionCommands = db.sessionCommands := by
  cases execute_outcome chess db op with
  | @session operation _ hop _ _ => exact absurd hop (h operation)
  | kept hdb _ =>
    rw [hdb]
    exact ⟨rfl,rfl⟩
  | @allocated input _ hop _ ha _ =>
    refine ⟨ha.guestSessions,?_⟩
    subst hop
    simp only [execute,Db.allocate]
    split_ifs
    · rfl
    · exact transaction_keeps (P := fun db' => db'.sessionCommands = db.sessionCommands) rfl
        fun _ _ => Db.allocateInTransaction_commands
  | wrote _ hw _ =>
    rw [hw.result]
    unfold Db.settle
    split <;> exact ⟨rfl,rfl⟩

theorem Db.SessionsSound.execute (h : db.SessionsSound) (op : Operation) :
    (execute chess db op).2.SessionsSound := by
  by_cases hop : ∃ operation, op = .session operation
  · obtain ⟨operation,rfl⟩ := hop
    exact h.session operation
  · obtain ⟨hs,hc⟩ := execute_sessions chess db fun operation he => hop ⟨operation,he⟩
    exact h.of_tables hs hc

def Db.AssignmentsJoined (db : Db) : Prop :=
  ∀ a ∈ db.assignments.rows, db.guestSessions.find a.guestSessionId ≠ none

namespace Db.AssignmentsJoined

/-- The sessions of the guests with a game outlive every mutation of the sessions. -/
theorem session (h : db.AssignmentsJoined) (operation : SessionOperation) :
    (db.executeSession operation).2.AssignmentsJoined := by
  unfold AssignmentsJoined
  rw [(db.executeSession_frame operation).2]
  intro a ha
  have hold := h a ha
  have htransaction : ∀ work : Except SessionFailure (SessionMutationResult × Db),
      (∀ r db', work = .ok (r,db') → db'.guestSessions.find a.guestSessionId ≠ none) →
      (db.sessionTransaction work).2.guestSessions.find a.guestSessionId ≠ none := by
    intro work hw
    cases work with
    | error e => exact hold
    | ok r => exact hw r.1 r.2 rfl
  have hput : ∀ row : GuestSession,
      (db.guestSessions.put row).find a.guestSessionId ≠ none := by
    intro row
    by_cases hid : a.guestSessionId = row.id
    · obtain ⟨current,hcurrent⟩ := Option.ne_none_iff_exists'.mp hold
      rw [hid] at hcurrent ⊢
      rw [Table.find_put_self hcurrent]
      exact Option.some_ne_none _
    · rw [Table.find_put_of_ne _ hid]
      exact hold
  cases operation with
  | create existing input =>
    refine htransaction _ fun r db' hw => ?_
    cases existing with
    | some command => rwa [toCommandReplay_frame hw]
    | none =>
      obtain ⟨row,_,_,hrow,_⟩ := createSession_ok hw
      rw [Table.find_insert hrow]
      split_ifs
      · exact Option.some_ne_none _
      · exact hold
  | renew existing input =>
    refine htransaction _ fun r db' hw => ?_
    cases existing with
    | some command => rwa [toCommandReplay_frame hw]
    | none =>
      obtain ⟨current,_,_,hsessions,_⟩ := changeSession_ok hw
      rw [hsessions]
      exact hput _
  | reset existing input =>
    refine htransaction _ fun r db' hw => ?_
    cases existing with
    | some command => rwa [toCommandReplay_frame hw]
    | none =>
      obtain ⟨current,_,_,hsessions,_⟩ := changeSession_ok hw
      rw [hsessions]
      exact hput _
  | cleanupExpired cutoff limit locked =>
    have hreferenced : db.guestReferenced a.guestSessionId = true := by
      unfold guestReferenced
      rw [Bool.or_eq_true]
      exact Or.inr (List.any_eq_true.mpr ⟨a,ha,decide_eq_true rfl⟩)
    obtain ⟨current,hcurrent⟩ := Option.ne_none_iff_exists'.mp hold
    change (db.guestSessions.deleteWhere _).find a.guestSessionId ≠ none
    rw [Table.find_deleteWhere,hcurrent]
    have hkept : current.id ∉ (((db.guestSessions.rows.filter fun g =>
        decide (g.expiresAt < cutoff) && !db.guestReferenced g.id &&
          decide (g.id ∉ locked)).insertionSort
            fun a b => a.expiresAt ≤ b.expiresAt).take limit).map GuestSession.id := by
      intro hmem
      obtain ⟨candidate,hcandidate,hid⟩ := List.mem_map.mp hmem
      have hfilter := (List.mem_insertionSort _).mp (List.mem_of_mem_take hcandidate)
      have hfree := (List.mem_filter.mp hfilter).2
      rw [hid,Table.find_key hcurrent,hreferenced] at hfree
      simp at hfree
    rw [Option.filter_some,if_pos (by simpa using hkept)]
    exact Option.some_ne_none _

theorem allocateInTransaction (h : db.AssignmentsJoined) {input : AllocateGame}
    {r : AllocationTransactionResult} (hok : db.allocateInTransaction input = .ok (r,db')) :
    db'.AssignmentsJoined := by
  unfold Db.allocateInTransaction at hok
  simp only at hok
  split at hok
  · cases hok
    exact h
  · split_ifs at hok
    · cases hok
      exact h
    · cases hok
      exact h
    · obtain ⟨db₁,hcreate,hcommit⟩ := bind_eq_ok.mp hok
      obtain ⟨_,rfl,rfl⟩ := commit_ok hcommit
      obtain ⟨_,_,_,_,hassignments,hsessions⟩ := createGame_ok hcreate
      have hfound : ∀ guest ∈ [input.whiteGuestSessionId,input.blackGuestSessionId].insertionSort
          (· ≤ ·), db.guestSessions.find guest ≠ none := by
        intro guest hguest hnone
        unfold createGame at hcreate
        rw [if_pos ⟨guest,hguest,hnone⟩] at hcreate
        cases hcreate
      intro a ha
      rw [hsessions]
      rw [(createAssignments_ok hassignments).1] at ha
      rcases List.mem_append.mp ha with hold | hnew
      · exact h a hold
      · obtain ⟨guest,hguest,rfl⟩ := List.mem_map.mp hnew
        exact hfound guest hguest

theorem execute (h : db.AssignmentsJoined) (op : Operation) :
    (execute chess db op).2.AssignmentsJoined := by
  cases execute_outcome chess db op with
  | session _ _ hdb =>
    rw [hdb]
    exact h.session _
  | kept hdb _ =>
    rw [hdb]
    exact h
  | @allocated input _ hop _ _ _ =>
    subst hop
    simp only [CluChess.execute,Db.allocate]
    split_ifs
    · exact h
    · exact transaction_keeps (P := Db.AssignmentsJoined) h fun _ _ => h.allocateInTransaction
  | wrote _ hw _ =>
    rw [hw.result]
    intro a ha
    rw [settle_guestSessions]
    unfold Db.settle at ha
    split at ha
    · exact h a (Table.mem_deleteWhere.mp ha).1
    · exact h a ha

end Db.AssignmentsJoined

theorem Db.Reachable.assignmentsJoined (h : db.Reachable chess) : db.AssignmentsJoined := by
  obtain ⟨guestSessions,sessionCommands,operations,rfl⟩ := h
  have hstable : (repositories chess).Stable Db.AssignmentsJoined := fun db op hdb => hdb.execute op
  exact hstable.run (fun _ ha => absurd ha List.not_mem_nil) operations

theorem Db.Grown.sessions (h : db.Grown chess) : db.SessionsSound := by
  obtain ⟨operations,rfl⟩ := h
  have hstable : (repositories chess).Stable Db.SessionsSound := fun db op hdb => hdb.execute op
  exact hstable.run .initial operations

end CluChess
