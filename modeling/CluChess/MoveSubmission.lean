import CluChess.TerminalOutcome

/-! A move is submitted exactly once: the recorded command of a move is never altered, it is
what every retry is answered with, and the rows of the moves grow only by the submission
that records it. -/
namespace CluChess

variable {chess : ChessEngine} {db db' : Db} {id : GameId}

def Db.movesOf (db : Db) (id : GameId) : List MoveRow :=
  ((db.games.find id).map PersistedGame.moves).getD []

def Db.recordedMove (db : Db) (key : GameId × EventId) : Option MoveSubmission :=
  ((db.games.find key.1).bind fun g => g.command key.2).bind fun c =>
    match c.response with
    | .move accepted ended guestSessionIds started =>
      some ⟨accepted,false,ended,guestSessionIds,started⟩
    | .terminal _ _ => none

abbrev RepositoryEvent := Machine.Event Db Operation Answer

/-- A successful `submitMove`, from its transaction or from its recovery: the command, the
submission without its duplicate flag, and the flag. -/
def moveReply (e : RepositoryEvent) : Option ((GameId × EventId) × MoveSubmission × Bool) :=
  match e.input,e.answer with
  | .submitMove input _,.move (.ok s) =>
    some ((input.gameId,input.clientMoveId),{ s with duplicate := false },s.duplicate)
  | .recoverMove input,.move (.ok s) =>
    some ((input.gameId,input.clientMoveId),{ s with duplicate := false },s.duplicate)
  | _,_ => none

/-- The event commits this move row, and no other, for the game. -/
def Commits (id : GameId) (r : MoveRow) (e : RepositoryEvent) : Prop :=
  (e.after.movesOf id).Perm (r :: e.before.movesOf id)

def CommitsMove (id : GameId) (clientMoveId : EventId) (e : RepositoryEvent) : Prop :=
  ∃ r, Commits id r e ∧ r.clientMoveId = clientMoveId

def CommitsAtVersion (id : GameId) (version : ℕ) (e : RepositoryEvent) : Prop :=
  (∃ r, Commits id r e) ∧
    ∃ input observation, e.input = .submitMove input observation ∧ input.gameId = id ∧
      input.expectedVersion = version

theorem Db.Wrote.movesOf {g g' : PersistedGame} (h : db.Wrote chess id g g' db') (k : GameId) :
    db'.movesOf k = if k = id then g'.moves else db.movesOf k := by
  unfold Db.movesOf
  rw [h.find]
  split_ifs <;> rfl

theorem Db.Wrote.movesOf_eq {g g' : PersistedGame} (h : db.Wrote chess id g g' db')
    (hm : g'.moves = g.moves) (k : GameId) : db'.movesOf k = db.movesOf k := by
  rw [h.movesOf]
  split_ifs with hk
  · rw [hk,hm,Db.movesOf,h.found]
    rfl
  · rfl

theorem Db.Allocated.movesOf_eq {input : AllocateGame} (h : db.Allocated input db') (k : GameId) :
    db'.movesOf k = db.movesOf k := by
  unfold Db.movesOf
  rw [Table.find_insert h.games]
  split_ifs with hk
  · rw [hk,(Table.insert_fresh h.games).1]
    rfl
  · rfl

/-- The submission of `input` is admitted and committed by this operation. -/
structure Submits (chess : ChessEngine) (db : Db) (op : Operation) (m : AdmittedMove)
    (guests : GuestSessionId × GuestSessionId) : Prop where
  input : ∃ observation, op = .submitMove m.input observation
  admitted : m.Admitted chess guests
  wrote : db.Wrote chess m.input.gameId m.game (m.row guests) (execute chess db op).2
  answer : (execute chess db op).1 = .move (.ok (m.submission guests))

theorem Writes.moves {op : Operation} {answer : Answer} {g g' : PersistedGame}
    (h : Writes chess g op answer g') : g'.moves = g.moves ∨
      ∃ (m : AdmittedMove) (guests : GuestSessionId × GuestSessionId) (observation : Micros),
        op = .submitMove m.input observation ∧ answer = .move (.ok (m.submission guests)) ∧
        m.Admitted chess guests ∧ m.game = g ∧
        m.input.gameId = g.id ∧ g' = m.row guests := by
  cases h with
  | submitMove hg hid _ hm => exact Or.inr ⟨_,_,_,rfl,rfl,hm,hg,hid,rfl⟩
  | _ => exact Or.inl rfl

theorem execute_movesOf (chess : ChessEngine) (db : Db) (op : Operation) :
    (∀ k, (execute chess db op).2.movesOf k = db.movesOf k) ∨
      ∃ m guests, Submits chess db op m guests := by
  cases execute_outcome chess db op with
  | session _ _ h =>
    exact Or.inl fun k => congrArg (fun games =>
      ((Table.find games k).map PersistedGame.moves).getD []) (Outcome.frame_session h).1
  | kept h _ => exact Or.inl fun k => congrArg (Db.movesOf · k) h
  | allocated _ _ h _ => exact Or.inl h.movesOf_eq
  | wrote _ hw hr =>
    rcases hr.moves with hm | ⟨m,guests,observation,hop,hanswer,hm,rfl,hid,hrow⟩
    · exact Or.inl (hw.movesOf_eq hm)
    · have hkey := Table.find_key hw.found
      refine Or.inr ⟨m,guests,⟨observation,hop⟩,hm,?_,hanswer⟩
      rw [hid,hkey,← hrow]
      exact hw

section Submits

variable {op : Operation} {m : AdmittedMove} {guests : GuestSessionId × GuestSessionId}

theorem Submits.commits (h : Submits chess db op m guests) :
    Commits m.input.gameId m.moveRow ((repositories chess).event db op) := by
  have hafter := h.wrote.movesOf m.input.gameId
  rw [if_pos rfl] at hafter
  have hbefore : db.movesOf m.input.gameId = m.game.moves := by
    rw [Db.movesOf,h.wrote.found]
    rfl
  change ((execute chess db op).2.movesOf m.input.gameId).Perm
    (m.moveRow :: db.movesOf m.input.gameId)
  rw [hafter,hbefore]
  exact List.perm_orderedInsert _ _ _

theorem Submits.movesOf_ne (h : Submits chess db op m guests) {k : GameId}
    (hk : k ≠ m.input.gameId) : (execute chess db op).2.movesOf k = db.movesOf k := by
  rw [h.wrote.movesOf,if_neg hk]

theorem Submits.reply (h : Submits chess db op m guests) :
    moveReply ((repositories chess).event db op) =
      some ((m.input.gameId,m.input.clientMoveId),m.submission guests,false) := by
  obtain ⟨observation,rfl⟩ := h.input
  have hanswer := h.answer
  simp only [Machine.event,repositories,moveReply,hanswer]
  rfl

end Submits

theorem Commits.ne {e : RepositoryEvent} {r : MoveRow} (h : Commits id r e) :
    e.after.movesOf id ≠ e.before.movesOf id := by
  intro heq
  have hlen := h.length_eq
  rw [heq,List.length_cons] at hlen
  omega

theorem Commits.submits {op : Operation} {r : MoveRow}
    (h : Commits id r ((repositories chess).event db op)) :
    ∃ m guests, Submits chess db op m guests ∧ m.input.gameId = id ∧ m.moveRow = r := by
  rcases execute_movesOf chess db op with hkeep | ⟨m,guests,hs⟩
  · exact absurd (hkeep id) h.ne
  · by_cases hid : m.input.gameId = id
    · subst hid
      refine ⟨m,guests,hs,rfl,?_⟩
      have hrows := hs.commits.symm.trans h
      have hmem := hrows.subset (List.mem_cons_self (a := m.moveRow))
      rcases List.mem_cons.mp hmem with heq | hbefore
      · exact heq
      · have hold : m.moveRow ∈ m.game.moves := by
          simpa [Machine.event,Db.movesOf,hs.wrote.found] using hbefore
        exact absurd rfl (hs.admitted.moves _ hold).1
    · exact absurd (hs.movesOf_ne (Ne.symm hid)) h.ne

theorem moves_or_commits (chess : ChessEngine) (db : Db) (op : Operation) (id : GameId) :
    (execute chess db op).2.movesOf id = db.movesOf id ∨
      ∃ r, Commits id r ((repositories chess).event db op) := by
  rcases execute_movesOf chess db op with hkeep | ⟨m,guests,hs⟩
  · exact Or.inl (hkeep id)
  · by_cases hid : m.input.gameId = id
    · subst hid
      exact Or.inr ⟨m.moveRow,hs.commits⟩
    · exact Or.inl (hs.movesOf_ne (Ne.symm hid))

theorem movesOf_subset (chess : ChessEngine) (db : Db) (op : Operation) (id : GameId) :
    db.movesOf id ⊆ (execute chess db op).2.movesOf id := by
  rcases moves_or_commits chess db op id with h | ⟨r,h⟩
  · exact h ▸ List.Subset.refl _
  · exact fun x hx => h.symm.subset (List.mem_cons_of_mem r hx)

def MoveRecorded (id : GameId) (clientMoveId : EventId) (db : Db) : Prop :=
  ∃ r ∈ db.movesOf id, r.clientMoveId = clientMoveId

theorem moveRecorded_stable (chess : ChessEngine) (id : GameId) (clientMoveId : EventId) :
    (repositories chess).Stable (MoveRecorded id clientMoveId) := by
  rintro db op ⟨r,hr,hc⟩
  exact ⟨r,movesOf_subset chess db op id hr,hc⟩

/-- A row is committed under an identifier that no row of the game carries. -/
theorem CommitsMove.enters {op : Operation} {clientMoveId : EventId}
    (h : CommitsMove id clientMoveId ((repositories chess).event db op)) :
    ((repositories chess).event db op).enters (MoveRecorded id clientMoveId) := by
  obtain ⟨r,hr,hc⟩ := h
  obtain ⟨m,guests,hs,rfl,rfl⟩ := hr.submits
  refine ⟨?_,m.moveRow,?_,hc⟩
  · rintro ⟨r,hmem,hrc⟩
    have hmem : r ∈ db.movesOf m.input.gameId := hmem
    rw [Db.movesOf,hs.wrote.found] at hmem
    exact (hs.admitted.moves r hmem).1 (hrc.trans hc.symm)
  · exact hr.symm.subset List.mem_cons_self

section Version

def PastVersion (id : GameId) (version : ℕ) (db : Db) : Prop :=
  ∃ g, db.games.find id = some g ∧ version < g.version

theorem pastVersion_stable (chess : ChessEngine) (id : GameId) (version : ℕ) :
    (repositories chess).Stable (PastVersion id version) := by
  rintro db op ⟨g,hg,hv⟩
  obtain ⟨g',hg',hle⟩ : ∃ g', (execute chess db op).2.games.find id = some g' ∧
      g.version ≤ g'.version := by
    rcases (execute_change chess db op).find_some hg with h | ⟨g',h,hc⟩
    · exact ⟨g,h,le_rfl⟩
    · exact ⟨g',h,hc.version_le⟩
  exact ⟨g',hg',lt_of_lt_of_le hv hle⟩

theorem CommitsAtVersion.enters {op : Operation} {version : ℕ}
    (h : CommitsAtVersion id version ((repositories chess).event db op)) :
    ((repositories chess).event db op).enters (PastVersion id version) := by
  obtain ⟨⟨r,hr⟩,input,observation,hin,hid,hv⟩ := h
  obtain ⟨m,guests,hs,hmid,_⟩ := hr.submits
  obtain ⟨observation',hop⟩ := hs.input
  have hinput : m.input = input := by
    have := hop.symm.trans (show op = _ from hin)
    injection this
  subst hinput
  have hversion : m.game.version = version :=
    ((admitMove_ok hs.admitted.admitted).2.2.1.symm).trans hv
  subst hid
  refine ⟨?_,m.row guests,hs.wrote.find_self,hversion ▸ m.version_lt guests⟩
  rintro ⟨g,hg,hlt⟩
  cases hg.symm.trans hs.wrote.found
  omega

end Version

section Replies

theorem recordedMove_keep {op : Operation} {key : GameId × EventId} {s : MoveSubmission}
    (h : db.recordedMove key = some s) : (execute chess db op).2.recordedMove key = some s := by
  unfold Db.recordedMove at h
  obtain ⟨c,hc,hs⟩ := Option.bind_eq_some_iff.mp h
  obtain ⟨g,hg,hgc⟩ := Option.bind_eq_some_iff.mp hc
  unfold Db.recordedMove
  rcases (execute_change chess db op).find_some hg with hk | ⟨g',hk,hchange⟩
  · simp only [hk,Option.bind_some,hgc,hs]
  · simp only [hk,Option.bind_some,hchange.command_keep hgc,hs]

theorem replayResult_recorded {input : SubmitMove} {g : PersistedGame} {c : GameCommand}
    {s : MoveSubmission} (hg : db.games.find input.gameId = some g)
    (hc : g.command input.clientMoveId = some c) (h : replayResult c input = .accepted s) :
    db.recordedMove (input.gameId,input.clientMoveId) = some { s with duplicate := false } := by
  unfold replayResult at h
  split_ifs at h
  simp only [Db.recordedMove,hg,Option.bind_some,hc]
  cases hr : c.response with
  | terminal _ _ => simp [hr,persistedSubmissionSchema] at h
  | move accepted ended guests started =>
    simp only [hr,persistedSubmissionSchema] at h
    split_ifs at h
    · cases h
      rfl

/-- Everything that a submission answers from a record is in the record. -/
theorem recoverMove_recorded {input : SubmitMove} {s : MoveSubmission}
    (h : db.recoverMove input = .ok s) :
    db.recordedMove (input.gameId,input.clientMoveId) = some { s with duplicate := false } := by
  unfold Db.recoverMove Db.findReplay at h
  cases hc : (db.games.find input.gameId).bind fun g => g.command input.clientMoveId with
  | none => simp [hc] at h
  | some c =>
    simp only [hc] at h
    cases hr : Db.moveAnswer (replayResult c input) with
    | error e => simp [hr,Except.map] at h
    | ok s' =>
      simp only [hr,Except.map] at h
      cases h
      obtain ⟨g,hg,hgc⟩ := Option.bind_eq_some_iff.mp hc
      exact replayResult_recorded hg hgc (moveAnswer_ok hr)

theorem Submits.recorded {op : Operation} {m : AdmittedMove}
    {guests : GuestSessionId × GuestSessionId} (h : Submits chess db op m guests) :
    (execute chess db op).2.recordedMove (m.input.gameId,m.input.clientMoveId) =
      some (m.submission guests) := by
  have hcommand : (m.row guests).command m.input.clientMoveId = some (m.command guests) := by
    have hfresh := h.admitted.fresh
    unfold PersistedGame.command at hfresh ⊢
    change List.find? _ (m.game.commands ++ [m.command guests]) = _
    rw [List.find?_append,hfresh]
    simp [AdmittedMove.command]
  simp only [Db.recordedMove,h.wrote.find_self,Option.bind_some,hcommand]
  rfl

theorem moveReply_cases {op : Operation} {key : GameId × EventId} {s : MoveSubmission}
    {duplicate : Bool} (h : moveReply ((repositories chess).event db op) = some (key,s,duplicate)) :
    (∃ m guests, Submits chess db op m guests ∧
      key = (m.input.gameId,m.input.clientMoveId) ∧ s = m.submission guests ∧ duplicate = false) ∨
    (execute chess db op).2 = db ∧ db.recordedMove key = some s ∧ duplicate = true := by
  cases op with
  | submitMove input observation =>
    cases hr : (db.submitMove chess input observation).1 with
    | error e => simp [Machine.event,repositories,execute,hr,moveReply,Prod.map] at h
    | ok s' =>
      obtain ⟨r,db',hw,ha,hdb⟩ := Db.answered_cases hr
      obtain rfl := moveAnswer_ok ha
      have hkey : key = (input.gameId,input.clientMoveId) ∧
          { s' with duplicate := false } = s ∧ s'.duplicate = duplicate := by
        simp [Machine.event,repositories,execute,hr,moveReply,Prod.map] at h
        exact ⟨h.1.symm,h.2⟩
      obtain ⟨rfl,rfl,rfl⟩ := hkey
      rcases submitInTransaction_ok hw with ⟨_,_,hrej⟩ | ⟨g,c,hg,hc,rfl,hrep⟩ |
        ⟨m,guests,rfl,_,hm,hwrote,hacc⟩
      · cases hrej
      · exact Or.inr ⟨hdb,replayResult_recorded hg hc hrep.symm,
          replayResult_duplicate hrep.symm⟩
      · cases hacc
        refine Or.inl ⟨m,guests,⟨⟨observation,rfl⟩,hm,?_,?_⟩,rfl,rfl,rfl⟩
        · change db.Wrote chess m.input.gameId m.game (m.row guests)
            (Db.answered _ Db.moveAnswer).2
          rw [hdb]
          exact hwrote
        · exact congrArg Answer.move hr
  | recoverMove input =>
    cases hr : db.recoverMove input with
    | error e => simp [Machine.event,repositories,execute,hr,moveReply] at h
    | ok s' =>
      simp [Machine.event,repositories,execute,hr,moveReply] at h
      obtain ⟨rfl,rfl,rfl⟩ := h
      exact Or.inr ⟨rfl,recoverMove_recorded hr,recoverMove_duplicate hr⟩
  | _ => simp [Machine.event,repositories,execute,moveReply,Prod.map] at h

theorem moves_recorded (chess : ChessEngine) :
    (repositories chess).Recorded (fun _ => True) Db.recordedMove moveReply where
  inv _ _ _ := trivial
  keep _ _ _ _ _ h := recordedMove_keep h
  answered db op key s duplicate _ h := by
    rcases moveReply_cases h with ⟨m,guests,hs,rfl,rfl,_⟩ | ⟨hdb,hrec,_⟩
    · exact hs.recorded
    · change (execute chess db op).2.recordedMove key = some s
      rw [hdb,hrec]
  fresh db op key s _ h := by
    rcases moveReply_cases h with ⟨m,guests,hs,rfl,_,_⟩ | ⟨_,_,hd⟩
    · simp [Db.recordedMove,hs.wrote.found,hs.admitted.fresh]
    · cases hd

theorem moveReply_fresh_iff {op : Operation} {clientMoveId : EventId} :
    (∃ s, moveReply ((repositories chess).event db op) = some ((id,clientMoveId),s,false)) ↔
      CommitsMove id clientMoveId ((repositories chess).event db op) := by
  constructor
  · rintro ⟨s,h⟩
    rcases moveReply_cases h with ⟨m,guests,hs,hkey,_,_⟩ | ⟨_,_,hd⟩
    · cases hkey
      exact ⟨m.moveRow,hs.commits,rfl⟩
    · cases hd
  · rintro ⟨r,hr,hc⟩
    obtain ⟨m,guests,hs,rfl,rfl⟩ := hr.submits
    exact ⟨m.submission guests,hc ▸ hs.reply⟩

end Replies

open Classical in
/-- Move submission is exactly-once in every run, whatever the state it starts from: an event
commits at most one row; a client's move is committed at most once; one version of the game
is moved from at most once; all answers to a move agree but for the duplicate flag; and the
one answer that is not a duplicate is that of the transaction that committed the move. -/
theorem move_submission_exactly_once (chess : ChessEngine) (db : Db)
    (operations : List Operation) (id : GameId) :
    (∀ e ∈ (repositories chess).events db operations,
      e.after.movesOf id = e.before.movesOf id ∨ ∃ r, Commits id r e) ∧
    (∀ clientMoveId, (((repositories chess).events db operations).countP fun e =>
      decide (CommitsMove id clientMoveId e)) ≤ 1) ∧
    (∀ version, (((repositories chess).events db operations).countP fun e =>
      decide (CommitsAtVersion id version e)) ≤ 1) ∧
    (∀ clientMoveId, ∀ e ∈ (repositories chess).events db operations,
      ∀ e' ∈ (repositories chess).events db operations, ∀ s s' duplicate duplicate',
      moveReply e = some ((id,clientMoveId),s,duplicate) →
      moveReply e' = some ((id,clientMoveId),s',duplicate') → s = s') ∧
    (∀ clientMoveId, (((repositories chess).events db operations).countP fun e =>
      decide (∃ s, moveReply e = some ((id,clientMoveId),s,false))) ≤ 1) ∧
    (∀ clientMoveId, ∀ e ∈ (repositories chess).events db operations,
      (∃ s, moveReply e = some ((id,clientMoveId),s,false)) ↔ CommitsMove id clientMoveId e) := by
  refine ⟨?_,?_,?_,?_,?_,?_⟩
  · intro e he
    obtain ⟨pre,_,_,hev⟩ := (repositories chess).mem_events_split he
    rw [hev]
    exact moves_or_commits chess _ _ id
  · intro clientMoveId
    refine (moveRecorded_stable chess id clientMoveId).countP_le_one _ ?_
    intro e he h
    obtain ⟨pre,_,_,hev⟩ := (repositories chess).mem_events_split he
    rw [hev] at h ⊢
    exact h.enters
  · intro version
    refine (pastVersion_stable chess id version).countP_le_one _ ?_
    intro e he h
    obtain ⟨pre,_,_,hev⟩ := (repositories chess).mem_events_split he
    rw [hev] at h ⊢
    exact h.enters
  · intro clientMoveId e he e' he' s s' duplicate duplicate' h h'
    exact (moves_recorded chess).replies_agree trivial he he' h h'
  · intro clientMoveId
    exact (moves_recorded chess).fresh_once trivial operations (id,clientMoveId)
  · intro clientMoveId e he
    obtain ⟨pre,_,_,hev⟩ := (repositories chess).mem_events_split he
    rw [hev]
    exact moveReply_fresh_iff

end CluChess
