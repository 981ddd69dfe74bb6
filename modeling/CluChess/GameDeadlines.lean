import CluChess.DurableDatabase

/-! The deadline machinery: which games that have not ended have a deadline, and that a game
with a deadline is due from it on. -/
namespace CluChess

variable {g : PersistedGame}

theorem due_iff {now : Micros} :
    g.due now = true ↔ ∃ d ∈ g.deadlineCandidates, d*1000 ≤ now := by
  simp only [PersistedGame.due,PersistedGame.deadlineCandidates,Bool.or_eq_true,Bool.and_eq_true,
    decide_eq_true_eq,List.mem_append,or_and_right,exists_or]
  refine or_congr (or_congr ?_ ?_) ?_
  · by_cases hs : g.status = .waitingForPlayers
    · cases hd : g.joinDeadlineAt <;> simp [hs]
    · simp [hs]
  · by_cases hs : g.status.started = true
    · cases ht : g.turnStartedAt <;> simp [hs]
    · simp [hs]
  · by_cases hs : g.status = .reconnecting
    · simp only [hs,true_and,if_true,List.any_eq_true,Option.any_eq_true,decide_eq_true_eq,
        List.mem_filterMap]
      constructor
      · rintro ⟨p,hp,d,hd,hle⟩
        exact ⟨d,⟨p,hp,hd⟩,hle⟩
      · rintro ⟨d,⟨p,hp,hd⟩,hle⟩
        exact ⟨p,hp,d,hd,hle⟩
    · simp [hs]

theorem PersistedGame.Sound.deadlineCandidates_eq_nil (h : g.Sound)
    (ht : g.status.terminal = false) : g.deadlineCandidates = [] ↔ g.status = .ready := by
  have hturn := h.turn
  constructor
  · intro hnil
    simp only [PersistedGame.deadlineCandidates,List.append_eq_nil_iff] at hnil
    obtain ⟨⟨hwaiting,hstarted⟩,_⟩ := hnil
    cases hs : g.status with
    | created => exact absurd hs h.created
    | ready => rfl
    | waitingForPlayers =>
      obtain ⟨d,hd⟩ := Option.isSome_iff_exists.mp (h.waiting hs).2
      simp [hs,hd] at hwaiting
    | inProgress =>
      rw [hs] at hturn
      obtain ⟨t,htt⟩ := Option.isSome_iff_exists.mp hturn
      simp [hs,htt,GameStatus.started] at hstarted
    | reconnecting =>
      rw [hs] at hturn
      obtain ⟨t,htt⟩ := Option.isSome_iff_exists.mp hturn
      simp [hs,htt,GameStatus.started] at hstarted
    | completed => rw [hs] at ht; cases ht
    | abandoned => rw [hs] at ht; cases ht
    | expired => rw [hs] at ht; cases ht
  · intro hs
    simp [PersistedGame.deadlineCandidates,hs,GameStatus.started]

/-- The deadline machinery drives the game: it has a deadline, and from the deadline on every
sweep that is not cut off by its limit finds the game. -/
def Driven (db : Db) (g : PersistedGame) : Prop :=
  ∃ deadline, db.findDeadline g.id = some ⟨deadline,g.id⟩ ∧
    ∀ limit now, db.games.rows.length ≤ limit → deadline*1000 ≤ now →
      g.id ∈ db.findDueGameIds limit now

theorem mem_findDueGameIds {db : Db} {limit : ℕ} {now : Micros} (hg : g ∈ db.games.rows)
    (hl : db.games.rows.length ≤ limit) (hd : g.due now = true) :
    g.id ∈ db.findDueGameIds limit now := by
  have hlen : (((db.games.rows.filter fun g => g.due now).map PersistedGame.id).insertionSort
      (· ≤ ·)).length ≤ limit := by
    rw [List.length_insertionSort,List.length_map]
    exact (List.length_filter_le _ _).trans hl
  rw [Db.findDueGameIds,List.take_of_length_le hlen,List.mem_insertionSort]
  exact List.mem_map.mpr ⟨g,List.mem_filter.mpr ⟨hg,hd⟩,rfl⟩

theorem Db.Sound.driven_iff {db : Db} (h : db.Sound) (hg : g ∈ db.games.rows)
    (ht : g.status.terminal = false) : Driven db g ↔ g.status ≠ .ready := by
  have hfind := Table.find_of_mem hg
  have hnil := (h.games g.id g hfind).deadlineCandidates_eq_nil ht
  rw [Ne,← hnil,← earliest_eq_none]
  constructor
  · rintro ⟨deadline,hd,_⟩ hnone
    simp [Db.findDeadline,hfind,hnone] at hd
  · intro hne
    obtain ⟨d,hd⟩ := Option.ne_none_iff_exists'.mp hne
    refine ⟨d,by simp [Db.findDeadline,hfind,hd],fun limit now hl hnow => ?_⟩
    exact mem_findDueGameIds hg hl (due_iff.mpr ⟨d,(earliest_eq_some.mp hd).1,hnow⟩)

def Db.DrivenUnlessReady (db : Db) : Prop :=
  ∀ g ∈ db.games.rows, g.status.terminal = false → (Driven db g ↔ g.status ≠ .ready)

end CluChess
