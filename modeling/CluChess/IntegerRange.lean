import CluChess.CommittedWrites

/-! The `INTEGER` columns and casts of the games. The TypeScript computes with safe integers, the
configuration has no upper bounds and a game may be observed at any later instant, so what keeps a
transaction within 32 bits is a condition on its arguments and on the row that it locks. -/
namespace CluChess

def PersistedGame.shownMs (g : PersistedGame) (color : PlayerColor) (observation : Micros) : ℤ :=
  runningClockMs g color (g.clockMs color) observation

/-- An operation is observed no earlier than the start of the game that it locks, and no earlier
than the turn of that game. -/
def Operation.Later (db : Db) (op : Operation) : Prop :=
  ∀ id ∈ op.gameId, ∀ observation ∈ op.observation, ∀ g ∈ db.games.find id,
    (∀ t ∈ g.turnStartedAt, t ≤ truncatedToMillis observation) ∧
      ∀ s ∈ g.startedAt, s ≤ truncatedToMillis observation

/-- An operation stays within 32 bits: the times of an allocation are at most 2³¹ - 1 milliseconds,
at most as many have passed in the turn of a game that is locked, and the clock of a player whose
move passes its checks has room for the increment. -/
def Operation.InRange (chess : ChessEngine) (db : Db) (op : Operation) : Prop :=
  (∀ id ∈ op.gameId, ∀ observation ∈ op.observation, ∀ g ∈ db.games.find id,
    g.status.started = true → ∀ t ∈ g.turnStartedAt, elapsedMs observation t ≤ 2147483647) ∧
  match op with
  | .allocate input => input.timeInitialMs ≤ 2147483647 ∧ input.timeIncrementMs ≤ 2147483647
  | .submitMove input observation =>
    ∀ g ∈ db.games.find input.gameId, ∀ player ∈ g.playerFor input.guestSessionId,
      (admitMove chess g player input (truncatedToMillis observation)).toOption.isSome = true →
        g.shownMs player.color observation + g.incrementMs ≤ 2147483647
  | _ => True

instance (db : Db) (op : Operation) : Decidable (op.Later db) := by
  unfold Operation.Later; infer_instance
instance (chess : ChessEngine) (db : Db) (op : Operation) : Decidable (op.InRange chess db) := by
  unfold Operation.InRange; split <;> infer_instance

/-- 32 bits suffice for a step: the casts of the lock fit, the operation does not fail with the
error of an integer that is out of range, what is stored fits, and an adjudication that is due
is committed. -/
structure IntegersSuffice (e : Machine.Event Db Operation Answer) : Prop where
  casts : ∀ id ∈ e.input.gameId, ∀ observation ∈ e.input.observation,
    ∀ g ∈ e.before.games.find id, g.ClockCasts observation
  answered : ¬ e.answer.failsWith .unknown
  stored : ∀ id, ∀ g ∈ e.after.games.find id, g.integersFit
  overdue : ∀ id ∈ e.input.gameId, ∀ g ∈ e.before.games.find id,
    (e.input.adjudication g).isSome → ∃ submission, e.answer = .terminal (.ok (some submission))

section Version

variable {chess : ChessEngine}

theorem GameChange.version_le_add {g g' : PersistedGame} (h : GameChange chess g g') :
    g'.version ≤ g.version + 2 := by
  cases h with
  | move hg _ =>
    subst hg
    show _ + (if _ then 2 else 1) ≤ _
    split_ifs
    · exact le_refl _
    · exact Nat.le_succ _
  | join _ _ _ => exact Nat.le_add_right _ _
  | leave _ _ => exact Nat.le_add_right _ _
  | _ => exact Nat.le_succ _

def Db.VersionsAtMost (n : ℕ) (db : Db) : Prop :=
  ∀ id, ∀ g ∈ db.games.find id, g.version ≤ n

theorem DbChange.versionsAtMost {db db' : Db} {n : ℕ} (h : DbChange chess db db')
    (hn : db.VersionsAtMost n) : db'.VersionsAtMost (n + 2) := by
  intro id g hg
  cases h with
  | frame hgames _ => exact (hn id g (hgames ▸ hg)).trans (Nat.le_add_right _ _)
  | @allocate input _ _ ha =>
    rw [Table.find_insert ha.games] at hg
    split_ifs at hg
    · cases hg
      exact Nat.zero_le _
    · exact (hn id g hg).trans (Nat.le_add_right _ _)
  | game hw =>
    rw [hw.find] at hg
    split_ifs at hg
    · cases hg
      exact hw.change.version_le_add.trans (Nat.add_le_add_right (hn _ _ hw.found) 2)
    · exact (hn id g hg).trans (Nat.le_add_right _ _)

theorem run_versionsAtMost {db : Db} {n : ℕ} (h : db.VersionsAtMost n)
    (operations : List Operation) :
    ((repositories chess).run db operations).VersionsAtMost (n + 2*operations.length) := by
  induction operations generalizing db n with
  | nil => exact h
  | cons op operations ih =>
    have hstep := ih ((execute_change chess db op).versionsAtMost h)
    have hlength : n + 2 + 2*operations.length = n + 2*(op :: operations).length := by
      rw [List.length_cons]
      omega
    exact hlength ▸ hstep

end Version

section Steps

variable {chess : ChessJs} {db : Db} {g : PersistedGame} {op : Operation} {observation : Micros}

theorem PersistedGame.clockMs_fits (hi : g.integersFit) (color : PlayerColor) :
    fitsInteger (g.clockMs color) := by
  unfold PersistedGame.clockMs
  split_ifs
  · exact hi.2.2.2.1
  · exact hi.2.2.2.2

theorem Operation.InRange.casts (h : op.InRange chess.engine db) (hlater : op.Later db)
    {id : GameId} (hid : id ∈ op.gameId) (ho : observation ∈ op.observation)
    (hg : db.games.find id = some g) (hi : g.integersFit) (hc : g.rowChecks) :
    g.ClockCasts observation := by
  intro t ht hs
  have hmost := h.1 id hid observation ho g hg hs t ht
  have hstarted := (hlater id hid observation ho g hg).1 t ht
  have hleast : 0 ≤ elapsedMs observation t := by
    rw [elapsedMs_eq]
    exact Int.sub_nonneg_of_le hstarted
  have hclock : 0 ≤ g.turnClockMs ∧ fitsInteger g.turnClockMs := by
    unfold PersistedGame.turnClockMs
    split_ifs
    · exact ⟨hc.1.2.2.1,hi.2.2.2.1⟩
    · exact ⟨hc.1.2.2.2,hi.2.2.2.2⟩
  unfold fitsInteger at hclock ⊢
  omega

theorem shownMs_ge {color : PlayerColor} {elapsed : ℤ} (he : 0 ≤ elapsed)
    (ht : g.status ≠ .ready → ∃ t, g.turnStartedAt = some t ∧
      elapsed = max 0 (truncatedToMillis observation - t)) :
    g.clockMs color - elapsed ≤ g.shownMs color observation := by
  unfold PersistedGame.shownMs runningClockMs
  cases hstart : g.turnStartedAt with
  | none => exact Int.sub_le_self _ he
  | some t =>
    simp only
    split_ifs with hrunning
    · have hne : g.status ≠ .ready := by
        intro hs
        rw [hs] at hrunning
        cases hrunning.1
      obtain ⟨t',ht',helapsed⟩ := ht hne
      obtain rfl : t = t' := Option.some.inj (hstart.symm.trans ht')
      have hle : truncatedToMillis observation - t ≤ elapsed := helapsed ▸ le_max_right _ _
      rw [elapsedMs_eq]
      exact (Int.sub_le_sub_left hle _).trans (le_max_right _ _)
    · exact Int.sub_le_self _ he

theorem Operation.InRange.clocksFit (hrows : db.RowsChecked) {input : SubmitMove}
    (h : (Operation.submitMove input observation).InRange chess.engine db) :
    input.ClocksFit chess.engine db observation := by
  intro g hg player hp clock evaluation hadmitted
  have hroom := h.2 g hg player hp (by rw [hadmitted]; rfl)
  obtain ⟨_,_,_,_,⟨elapsed,hadm⟩,_,_⟩ := admitMove_ok hadmitted
  obtain ⟨hmover,hother,hnonneg,hlt,_,hstarted⟩ := admission_accepted hadm
  have hshown : g.clockMs player.color - elapsed ≤ g.shownMs player.color observation :=
    shownMs_ge hnonneg hstarted
  have hincrement : 0 ≤ g.incrementMs := (hrows _ g hg).2.1.2.1
  have hpositive : fitsInteger (remainingFor clock player.color) := by
    unfold fitsInteger
    omega
  have hkept := PersistedGame.clockMs_fits (hrows _ g hg).1 (oppositeColor player.color)
  rw [← hother] at hkept
  cases hc : player.color with
  | w =>
    rw [hc] at hpositive hkept
    exact ⟨hpositive,hkept⟩
  | b =>
    rw [hc] at hpositive hkept
    exact ⟨hkept,hpositive⟩

theorem allocation_fits {input : AllocateGame}
    (hserved : (Operation.allocate input).argumentsServed chess.engine)
    (h : input.timeInitialMs ≤ 2147483647 ∧ input.timeIncrementMs ≤ 2147483647) :
    (newGameRow input).integersFit := by
  obtain ⟨_,htime,hincrement,_,_,_⟩ := hserved
  obtain ⟨hmost,hmost'⟩ := h
  have hclock : fitsInteger input.timeInitialMs := by
    unfold fitsInteger
    omega
  have hinc : fitsInteger input.timeIncrementMs := by
    unfold fitsInteger
    omega
  have hversion : fitsInteger ((0 : ℕ) : ℤ) := by decide
  exact ⟨hversion,hclock,hinc,hclock,hclock⟩

/-- An adjudication that is due is committed when the casts fit, the version can grow and the
observation is not before the start. -/
theorem due_adjudication_commits (h : db.Checked) (hgrow : db.Roomy .unknown)
    (hcasts : ∀ id ∈ op.gameId, ∀ observation ∈ op.observation, ∀ g ∈ db.games.find id,
      g.ClockCasts observation) (hlater : op.Later db) {id : GameId} (hid : id ∈ op.gameId)
    (hg : g ∈ db.games.find id) (hdue : (op.adjudication g).isSome) :
    ∃ submission, (execute chess.engine db op).1 = .terminal (.ok (some submission)) := by
  have hevent : ∀ (event : LockedGameClock → PersistedGame → Option TerminalEvent) (e : TerminalEvent)
      (observation : Micros), observation ∈ op.observation → JudgesLive event observation →
      event (g.locked observation) g = some e → ∃ submission,
        (Db.answered (db.transaction (db.adjudicate id observation event)) .ok).1 =
          .ok (some submission) := by
    intro event e observation ho hjudges he
    obtain ⟨outcome,houtcome⟩ := hjudges.derives g e (h.sound.games id g hg) he
    have hcast := hcasts id hid observation ho g hg
    obtain ⟨hfits,hversion⟩ := hgrow rfl id g hg
    have hi := PersistedGame.ended_integersFit hfits hcast (by omega) outcome
    have hr : (g.ended observation outcome).rowChecks := PersistedGame.rowChecks_finalized
      (h.rows id g hg) (hlater id hid observation ho g hg).2 outcome
    obtain ⟨guests,hrun⟩ := Db.adjudicate_commits chess.engine h.sound hg
      (hjudges.live g e he) hcast he houtcome hi hr
    exact ⟨_,congrArg Prod.fst hrun⟩
  cases op with
  | adjudicateTimeout gameId observation =>
    obtain rfl : id = gameId := (Option.some.inj hid).symm
    obtain ⟨e,he⟩ := Option.isSome_iff_exists.mp (Option.isSome_map ▸ hdue)
    obtain ⟨submission,hanswer⟩ := hevent _ e observation rfl (timeoutEvent_judgesLive _) he
    exact ⟨submission,congrArg Answer.terminal hanswer⟩
  | adjudicateNoShow gameId observation =>
    obtain rfl : id = gameId := (Option.some.inj hid).symm
    obtain ⟨e,he⟩ := Option.isSome_iff_exists.mp (Option.isSome_map ▸ hdue)
    obtain ⟨submission,hanswer⟩ := hevent _ e observation rfl (noShowEvent_judgesLive _) he
    exact ⟨submission,congrArg Answer.terminal hanswer⟩
  | adjudicateAbandonment gameId absent observation =>
    obtain rfl : id = gameId := (Option.some.inj hid).symm
    obtain ⟨e,he⟩ := Option.isSome_iff_exists.mp (Option.isSome_map ▸ hdue)
    obtain ⟨submission,hanswer⟩ := hevent _ e observation rfl (abandonmentEvent_judgesLive _ _) he
    exact ⟨submission,congrArg Answer.terminal hanswer⟩
  | _ => cases hdue

theorem integersSuffice_step (h : db.ServedReachable chess.engine) {n : ℕ}
    (hn : db.VersionsAtMost n) (hroom : n + 2 ≤ 2147483647) (hop : op.Served chess.engine)
    (hlater : op.Later db) (hrange : op.InRange chess.engine db) :
    IntegersSuffice ((repositories chess.engine).event db op) := by
  have hrows := h.reachable.rowsChecked
  have hcasts : ∀ id ∈ op.gameId, ∀ observation ∈ op.observation, ∀ g ∈ db.games.find id,
      g.ClockCasts observation := fun id hid observation ho g hg =>
    hrange.casts hlater hid ho hg (hrows id g hg).1 (hrows id g hg).2
  have hgrow : db.Roomy .unknown := fun _ id g hg =>
    ⟨(hrows id g hg).1,(Nat.add_le_add_right (hn id g hg) 2).trans hroom⟩
  have hpass : op.Passes chess.engine .unknown db := by
    refine ⟨fun id hid observation ho => ?_,fun _ input hinput => ?_,
      fun _ input observation hsubmit => ?_,nofun⟩
    · cases hg : db.games.find id with
      | none =>
        rw [Db.lockGameClock,hg]
        exact avoids_ok _
      | some g =>
        rw [Db.lockGameClock_eq hg (hcasts id hid observation ho g hg)]
        exact avoids_ok _
    · subst hinput
      exact allocation_fits hop.arguments hrange.2
    · subst hsubmit
      exact hrange.clocksFit hrows
  have hafter : (execute chess.engine db op).2.RowsChecked := (h.reachable.run [op]).rowsChecked
  exact ⟨hcasts,execute_not_failsWith (by decide) h.checked hgrow hop hpass,
    fun id g hg => (hafter id g hg).1,fun id hid g hg hdue =>
      due_adjudication_commits h.checked hgrow hcasts hlater hid hg hdue⟩

end Steps

/-- In a run of fewer than 2³⁰ served operations that are not too early and stay within 32 bits,
the integers of every step suffice. -/
theorem integers_suffice {chess : ChessJs} {guestSessions : Table GuestSession.id}
    {sessionCommands : Table SessionCommand.idempotencyHash} {operations : List Operation}
    (hsessions : ∀ session ∈ guestSessions.rows, session.rowChecks)
    (hserved : ∀ op ∈ operations, op.Served chess.engine) (hlength : operations.length < 2^30)
    (hlater : ∀ e ∈ (repositories chess.engine).events (.initial guestSessions sessionCommands)
      operations, e.input.Later e.before)
    (hrange : ∀ e ∈ (repositories chess.engine).events (.initial guestSessions sessionCommands)
      operations, e.input.InRange chess.engine e.before) :
    ∀ e ∈ (repositories chess.engine).events (.initial guestSessions sessionCommands) operations,
      IntegersSuffice e := by
  intro e he
  obtain ⟨before,after,hsplit,hevent⟩ := Machine.mem_events_split _ he
  have hbefore : ∀ op ∈ before, op.Served chess.engine := fun op hop =>
    hserved op (hsplit ▸ List.mem_append_left _ hop)
  have hop : e.input.Served chess.engine :=
    hserved _ (hsplit ▸ List.mem_append_right _ List.mem_cons_self)
  have hversions : ((repositories chess.engine).run (.initial guestSessions sessionCommands)
      before).VersionsAtMost (0 + 2*before.length) :=
    run_versionsAtMost (fun _ _ hg => by simp [Db.initial] at hg) before
  have hroom : 0 + 2*before.length + 2 ≤ 2147483647 := by
    rw [hsplit,List.length_append,List.length_cons] at hlength
    omega
  have hstate : e.before = (repositories chess.engine).run (.initial guestSessions sessionCommands)
      before := by
    rw [hevent]
    rfl
  have hlater' := hlater e he
  have hrange' := hrange e he
  rw [hevent]
  rw [hstate] at hlater' hrange'
  exact integersSuffice_step ⟨guestSessions,sessionCommands,before,hsessions,hbefore,rfl⟩
    hversions hroom hop hlater' hrange'

section Sample

def sampleLong : List Operation := [.allocate { sampleAllocation with timeInitialMs := 2147483648 }]

/-- The clock of white is judged 2³¹ milliseconds after the start of the game. -/
def sampleOverdue : List Operation :=
  sampleStart ++ [.adjudicateTimeout (sampleId 10) 2147488648000]

/-- White moves at once in a game whose initial time is the greatest that its column holds. -/
def sampleFull : List Operation :=
  [.allocate { sampleAllocation with timeInitialMs := 2147483647 },
    .markReady ⟨0,sampleId 10,sampleId 1,1000⟩,.markReady ⟨0,sampleId 10,sampleId 2,2000⟩,
    .startIfReady (sampleId 10) 5000000,.submitMove sampleMove 5000000]

theorem sampleAllocate_served {timeInitialMs : Millis} (h : 0 < timeInitialMs) :
    (Operation.allocate { sampleAllocation with timeInitialMs := timeInitialMs }).Served
      sampleChess.engine := by
  have hnew : sampleChess.engine.newGame = .ok samplePosition := rfl
  have hincrement : (0 : ℤ) ≤ 2000 := by decide
  have hids : ∀ n ∈ [10,1,2], isUuidV4 (sampleId n) = true := by decide
  exact ⟨⟨⟨_,hnew,rfl,rfl⟩,h,hincrement,hids 10 (by decide),hids 1 (by decide),
    hids 2 (by decide)⟩,nofun⟩

theorem sampleLong_served : ∀ op ∈ sampleLong, op.Served sampleChess.engine := by
  intro op hop
  rw [List.mem_singleton.mp hop]
  exact sampleAllocate_served (by decide)

theorem sampleOverdue_served : ∀ op ∈ sampleOverdue, op.Served sampleChess.engine := by
  intro op hop
  rcases List.mem_append.mp hop with hop | hop
  · exact sampleStart_served op hop
  · rw [List.mem_singleton.mp hop]
    exact .of_observation trivial rfl ⟨by decide,by decide⟩

theorem sampleFull_served : ∀ op ∈ sampleFull, op.Served sampleChess.engine := by
  simp only [sampleFull,List.forall_mem_cons]
  refine ⟨sampleAllocate_served (by decide),⟨trivial,nofun⟩,⟨trivial,nofun⟩,?_,?_,nofun⟩
  · exact .of_observation trivial rfl ⟨by decide,by decide⟩
  · exact .of_observation (by decide : isUuidV4 (sampleId 30) = true) rfl ⟨by decide,by decide⟩

end Sample

theorem integers_suffice_sample : IntegersSuffice ((repositories sampleChess.engine).event
    (sampleDb sampleMoved) (.submitMove sampleReply 9000000)) := by
  have hall : ∀ e ∈ (repositories sampleChess.engine).events (.initial sampleSessions .empty)
      samplePlay, IntegersSuffice e :=
    integers_suffice (by decide) samplePlay_served (by decide) (by decide) (by decide)
  exact hall _ ((repositories sampleChess.engine).event_mem_events (.initial sampleSessions .empty)
    sampleMoved (.submitMove sampleReply 9000000))

/-- 32 bits do not suffice for an initial time of 2³¹ milliseconds, for an observation 2³¹
milliseconds after the start of a turn, and for an increment that is added to a full clock. -/
theorem integers_overflow :
    (∃ e ∈ (repositories sampleChess.engine).events (.initial sampleSessions .empty) sampleLong,
      e.answer.failsWith .unknown ∧ ¬ IntegersSuffice e) ∧
    (∃ e ∈ (repositories sampleChess.engine).events (.initial sampleSessions .empty) sampleOverdue,
      e.answer.failsWith .unknown ∧ ¬ IntegersSuffice e) ∧
    (∃ e ∈ (repositories sampleChess.engine).events (.initial sampleSessions .empty) sampleFull,
      e.answer.failsWith .unknown ∧ ¬ IntegersSuffice e) ∧
    ∀ operations ∈ [sampleLong,sampleOverdue,sampleFull],
      (∀ op ∈ operations, op.Served sampleChess.engine) ∧
      ∀ e ∈ (repositories sampleChess.engine).events (.initial sampleSessions .empty) operations,
        e.input.Later e.before := by
  have hlast : ∀ before op, (execute sampleChess.engine (sampleDb before) op).1.failsWith .unknown →
      ∃ e ∈ (repositories sampleChess.engine).events (.initial sampleSessions .empty)
        (before ++ [op]), e.answer.failsWith .unknown ∧ ¬ IntegersSuffice e :=
    fun before op hfailed =>
      ⟨_,Machine.event_mem_events _ _ before op,hfailed,fun h => h.answered hfailed⟩
  refine ⟨hlast [] _ rfl,hlast sampleStart _ rfl,hlast (sampleFull.take 4) _ rfl,?_⟩
  simp only [List.forall_mem_cons]
  exact ⟨⟨sampleLong_served,by decide⟩,⟨sampleOverdue_served,by decide⟩,
    ⟨sampleFull_served,by decide⟩,nofun⟩

end CluChess
