import CluChess.RepositoryMachine

/-! One terminal outcome for ever: the states in which a game has ended absorb every
operation, and an operation that announces an end takes the game into them. -/
namespace CluChess

variable {chess : ChessEngine} {db db' : Db} {id : GameId}

def Ended (id : GameId) (db : Db) : Prop :=
  ∃ g, db.games.find id = some g ∧ g.status.terminal = true

theorem DbChange.find_ended (h : DbChange chess db db') {g : PersistedGame}
    (hg : db.games.find id = some g) (ht : g.status.terminal = true) :
    db'.games.find id = some g := by
  rcases h.find_some hg with hkeep | ⟨g',_,hchange⟩
  · exact hkeep
  · rw [hchange.not_terminal] at ht
    cases ht

theorem ended_stable (chess : ChessEngine) (id : GameId) :
    (repositories chess).Stable (Ended id) := by
  rintro db op ⟨g,hg,ht⟩
  exact ⟨g,(execute_change chess db op).find_ended hg ht,ht⟩

theorem Db.Wrote.enters {g g' : PersistedGame} (h : db.Wrote chess id g g' db')
    (ht : g'.status.terminal = true) : ¬ Ended id db ∧ Ended id db' := by
  refine ⟨?_,g',h.find_self,ht⟩
  rintro ⟨x,hx,hxt⟩
  cases h.found.symm.trans hx
  rw [h.change.not_terminal] at hxt
  cases hxt

theorem Writes.endsGame {op : Operation} {answer : Answer} {g g' : PersistedGame}
    (h : Writes chess g op answer g') (he : answer.endsGame id) :
    g.id = id ∧ g'.status.terminal = true := by
  cases h with
  | @submitMove m guests _ hg _ _ hm =>
    subst hg
    refine ⟨he.2.2,?_⟩
    rw [hm.row_terminal]
    cases ht : m.terminal with
    | none => exact absurd he.2.1 (by simp [AdmittedMove.submission,AdmittedMove.ended,ht])
    | some t => rfl
  | @resign _ _ observation outcome _ _ _ _ _ => exact ⟨he.2,ended_terminal g observation outcome⟩
  | reset _ _ _ => exact ⟨he.2,ended_terminal g _ _⟩
  | adjudicate _ _ _ => exact ⟨he.2,ended_terminal g _ _⟩
  | _ => exact absurd he not_false

theorem execute_endsGame {op : Operation}
    (h : (execute chess db op).1.endsGame id) :
    ¬ Ended id db ∧ Ended id (execute chess db op).2 := by
  have houtcome := execute_outcome chess db op
  generalize (execute chess db op).1 = answer at h houtcome
  generalize (execute chess db op).2 = db' at houtcome
  cases houtcome with
  | session _ hanswer _ =>
    rw [hanswer] at h
    exact absurd h not_false
  | kept _ hr => exact absurd h hr.not_endsGame
  | allocated _ _ _ hanswer =>
    rw [hanswer] at h
    exact absurd h not_false
  | wrote _ hw hr =>
    obtain ⟨hid,ht⟩ := hr.endsGame h
    obtain rfl := (Table.find_key hw.found).symm.trans hid
    exact hw.enters ht

/-- The outcome, the position and the moves of a game. -/
def PersistedGame.outcomeRecord (g : PersistedGame) : GameStatus × Option String × Option String ×
    Option Millis × String × String × PlayerColor × ℤ × ℤ × Option Millis × ℕ × List MoveRow :=
  (g.status,g.result,g.termination,g.endedAt,g.currentFen,g.pgn,g.turnColor,g.whiteClockMs,
    g.blackClockMs,g.turnStartedAt,g.version,g.moves)

open Classical in
/-- In every run, whatever the state it starts from, a game is ended at most once, its end is
announced at most once, and from its end on nothing of its outcome changes. -/
theorem one_terminal_outcome (chess : ChessEngine) (db : Db) (operations : List Operation)
    (id : GameId) :
    (((repositories chess).events db operations).countP fun e => decide (e.enters (Ended id))) ≤ 1 ∧
    (((repositories chess).events db operations).countP fun e =>
      decide (e.answer.endsGame id)) ≤ 1 ∧
    ∀ before after, operations = before ++ after →
      Ended id ((repositories chess).run db before) →
      (((repositories chess).run db operations).games.find id).map PersistedGame.outcomeRecord =
        (((repositories chess).run db before).games.find id).map PersistedGame.outcomeRecord := by
  have hstable := ended_stable chess id
  refine ⟨hstable.countP_enters_le_one db operations,?_,?_⟩
  · refine hstable.countP_le_one _ ?_
    intro e he hends
    obtain ⟨pre,_,_,hev⟩ := (repositories chess).mem_events_split he
    rw [hev] at hends ⊢
    exact execute_endsGame hends
  · rintro before after rfl hended
    rw [Machine.run_append]
    refine hstable.frozen (fun db => (db.games.find id).map PersistedGame.outcomeRecord) ?_
      hended after
    rintro s op ⟨g,hg,ht⟩
    have hkeep := (execute_change chess s op).find_ended hg ht
    exact congrArg (Option.map PersistedGame.outcomeRecord) (hkeep.trans hg.symm)

end CluChess
