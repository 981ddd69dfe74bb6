import CluChess.Adjudication

/-! `adjudicateGame` with a game whose players have left: the graces that have passed, the presence
of the players between the two transactions, and the guard of the second transaction. -/
namespace CluChess

/-- The rows of the table of outcomes about players who are absent after their grace. -/
def frozenAbandonment (whiteAbsent blackAbsent : Bool) : Option (GameResult × GameTermination) :=
  match whiteAbsent,blackAbsent with
  | true,true => some (.void,.doubleAbandon)
  | true,false => some (.blackWin,.abandonment)
  | false,true => some (.whiteWin,.abandonment)
  | false,false => none

namespace PersistedGame

def absentees (g : PersistedGame) (present : List GuestSessionId) : List GamePlayer :=
  g.players.filter fun p => p.guestSessionId ∉ present

def absent (g : PersistedGame) (present : List GuestSessionId) (color : PlayerColor) : Bool :=
  (g.absentees present).any fun p => p.color = color

def Overdue (g : PersistedGame) (present : List GuestSessionId) (now : Micros) : Prop :=
  ∃ p ∈ g.absentees present, ∃ e ∈ p.reconnectGraceEndsAt, e*1000 ≤ now

/-- The departure of every absent player has been recorded. -/
def DeparturesRecorded (g : PersistedGame) (present : List GuestSessionId) : Prop :=
  ∀ p ∈ g.absentees present, p.disconnectedAt ≠ none

end PersistedGame

/-- The instants of a call are in their order and fall into the turn that is being played: the
running clock has not reached zero at any of them. -/
structure AdjudicationInput.During (input : AdjudicationInput) (g : PersistedGame) : Prop where
  timeoutAt : input.noShowAt ≤ input.timeoutAt
  graceAt : input.timeoutAt ≤ input.graceAt
  abandonmentAt : input.graceAt ≤ input.abandonmentAt
  started : ∀ s ∈ g.startedAt, s*1000 ≤ input.noShowAt
  turn : ∀ t ∈ g.turnStartedAt, t*1000 ≤ input.noShowAt
  running : ∀ t ∈ g.turnStartedAt, input.abandonmentAt < (t + g.turnClockMs)*1000

def Db.Abandons (db : Db) (gameId : GameId) (input : AdjudicationInput)
    (row : GameResult × GameTermination) : Prop :=
  ∃ submission db' g', db.adjudicateGame gameId input = (completed submission input.stamp,db') ∧
    submission.duplicate = false ∧ submission.ended.gameId = gameId ∧
    submission.ended.result = row.1 ∧ submission.ended.termination = row.2 ∧
    db'.games.find gameId = some g' ∧ g'.status = .abandoned ∧
    g'.result = some (persistedResult row.1) ∧
    g'.termination = some (persistedTermination row.2)

structure Db.FollowsTable (db : Db) (gameId : GameId) (g : PersistedGame)
    (input : AdjudicationInput) (present : List GuestSessionId) : Prop where
  abandons : g.Overdue present input.graceAt → g.DeparturesRecorded present →
    ∃ row, frozenAbandonment (g.absent present .w) (g.absent present .b) = some row ∧
      db.Abandons gameId input row
  unrecorded : ¬ g.DeparturesRecorded present → db.adjudicateGame gameId input = (.ok none,db)
  undue : ¬ g.Overdue present input.graceAt → db.adjudicateGame gameId input = (.ok none,db)

section Grace

variable {g : PersistedGame} {db : Db} {id : GameId} {input : AdjudicationInput}
  {present : List GuestSessionId} {observation : Micros}

/-- An instant within the turn that is being played. -/
structure PersistedGame.Runs (g : PersistedGame) (observation : Micros) : Prop where
  started : ∀ s ∈ g.startedAt, s ≤ truncatedToMillis observation
  turn : ∀ t ∈ g.turnStartedAt, t ≤ truncatedToMillis observation
  running : ∀ t ∈ g.turnStartedAt, truncatedToMillis observation < t + g.turnClockMs

theorem AdjudicationInput.During.runs (h : input.During g) (hfrom : input.noShowAt ≤ observation)
    (hto : observation ≤ input.abandonmentAt) : g.Runs observation := by
  refine ⟨fun s hs => ?_,fun t ht => ?_,fun t ht => ?_⟩
  · exact truncatedToMillis_le.mpr ((h.started s hs).trans hfrom)
  · exact truncatedToMillis_le.mpr ((h.turn t ht).trans hfrom)
  · apply lt_of_not_ge
    intro hpassed
    have hlate := truncatedToMillis_le.mp hpassed
    exact absurd (h.running t ht) (not_lt.mpr (hlate.trans hto))

theorem PersistedGame.turnClockMs_fits (hi : g.integersFit) : fitsInteger g.turnClockMs := by
  unfold PersistedGame.turnClockMs
  split_ifs
  · exact hi.2.2.2.1
  · exact hi.2.2.2.2

theorem PersistedGame.Runs.casts (h : g.Runs observation) (hi : g.integersFit) :
    g.ClockCasts observation := by
  intro t ht hs
  have hclock := PersistedGame.turnClockMs_fits hi
  have hturn : 0 ≤ elapsedMs observation t := by
    rw [elapsedMs_eq]
    exact Int.sub_nonneg_of_le (h.turn t ht)
  have hrunning : elapsedMs observation t < g.turnClockMs := by
    rw [elapsedMs_eq]
    exact Int.sub_left_lt_of_lt_add (h.running t ht)
  unfold fitsInteger at hclock ⊢
  omega

theorem noShowEvent_reconnecting (hs : g.status = .reconnecting) :
    Db.noShowEvent (g.locked observation) g = none := by
  refine if_pos fun hwaiting => ?_
  have hstatus : g.status = .waitingForPlayers := hwaiting
  rw [hs] at hstatus
  cases hstatus

theorem PersistedGame.Runs.timeoutEvent (h : g.Runs observation)
    (hs : g.status = .reconnecting) (hturn : g.turnStartedAt.isSome) :
    Db.timeoutEvent (g.locked observation) g = none := by
  obtain ⟨t,ht⟩ := Option.isSome_iff_exists.mp hturn
  have hstarted : g.status.started = true := by
    rw [hs]
    rfl
  have hlocked : ¬ ((g.locked observation).status ≠ .inProgress ∧
      (g.locked observation).status ≠ .reconnecting) := fun hne => hne.2 hs
  have hrunning : 0 < g.turnClockMs - (truncatedToMillis observation - t) := by
    have hlt : truncatedToMillis observation - t < g.turnClockMs :=
      Int.sub_left_lt_of_lt_add (h.running t ht)
    exact Int.sub_pos_of_lt hlt
  have hremaining : 0 < (if (g.locked observation).turnColor = .w then
      (g.locked observation).whiteClockMs else (g.locked observation).blackClockMs) := by
    show 0 < (if g.turnColor = .w then runningClockMs g .w g.whiteClockMs observation
      else runningClockMs g .b g.blackClockMs observation)
    rw [runningClockMs_started hstarted ht,runningClockMs_started hstarted ht]
    unfold PersistedGame.turnClockMs at hrunning
    cases hc : g.turnColor with
    | w =>
      simp only [hc,if_true] at hrunning ⊢
      exact lt_max_of_lt_right hrunning
    | b =>
      simp only [hc,reduceCtorEq,if_false,if_true] at hrunning ⊢
      exact lt_max_of_lt_right hrunning
  unfold Db.timeoutEvent
  rw [if_neg hlocked]
  exact if_pos hremaining

theorem Db.adjudicate_none (hg : db.games.find id = some g) (hcasts : g.ClockCasts observation)
    {event : LockedGameClock → PersistedGame → Option TerminalEvent}
    (he : event (g.locked observation) g = none) :
    Db.answered (db.transaction (db.adjudicate id observation event)) .ok = (.ok none,db) := by
  rw [Db.adjudicate_eq hg hcasts,he]
  rfl

theorem adjudicateGame_reconnecting (hg : db.games.find id = some g) (hsound : g.Sound)
    (hi : g.integersFit) (hs : g.status = .reconnecting) (hinput : input.During g) :
    db.adjudicateGame id input = db.adjudicateGrace id input := by
  have hfirst := hinput.runs (le_refl _)
    ((hinput.timeoutAt.trans hinput.graceAt).trans hinput.abandonmentAt)
  have hsecond := hinput.runs hinput.timeoutAt (hinput.graceAt.trans hinput.abandonmentAt)
  have hturn : g.turnStartedAt.isSome := by
    rw [hsound.turn,hs]
    rfl
  have hnoShow : db.adjudicateNoShow id input.noShowAt = (.ok none,db) :=
    Db.adjudicate_none hg (hfirst.casts hi) (noShowEvent_reconnecting hs)
  have htimeout : db.adjudicateTimeout id input.timeoutAt = (.ok none,db) :=
    Db.adjudicate_none hg (hsecond.casts hi) (hsecond.timeoutEvent hs hturn)
  rw [Db.adjudicateGame,hnoShow]
  simp only [htimeout]

theorem absentees_guests {p q : GamePlayer} (hpair : g.players = [p,q]) :
    [p.guestSessionId,q.guestSessionId].filter (· ∉ present) =
      (g.absentees present).map GamePlayer.guestSessionId := by
  have hmap : [p.guestSessionId,q.guestSessionId] =
      g.players.map GamePlayer.guestSessionId := by
    rw [hpair]
    rfl
  rw [hmap,List.filter_map]
  rfl

theorem absentees_eq_filter : g.players.filter (fun p => p.guestSessionId ∈
    (g.absentees present).map GamePlayer.guestSessionId) = g.absentees present := by
  apply List.filter_congr
  intro p hp
  rw [decide_eq_decide,List.mem_map]
  constructor
  · rintro ⟨q,hq,he⟩
    have habsent := of_decide_eq_true (List.mem_filter.mp hq).2
    rwa [he] at habsent
  · intro habsent
    exact ⟨p,List.mem_filter.mpr ⟨hp,decide_eq_true habsent⟩,rfl⟩

def PersistedGame.dueGuests (g : PersistedGame) (now : Micros) : List GuestSessionId :=
  (g.players.filter fun p =>
    p.reconnectGraceEndsAt.any fun e => e ≤ truncatedToMillis now).map GamePlayer.guestSessionId

theorem due_any_iff {now : Micros} : ((g.dueGuests now).any fun guest =>
      guest ∈ (g.absentees present).map GamePlayer.guestSessionId) = true ↔
    g.Overdue present now := by
  rw [List.any_eq_true]
  constructor
  · rintro ⟨guest,hguest,habsent⟩
    obtain ⟨p,hp,rfl⟩ := List.mem_map.mp hguest
    obtain ⟨hplayer,hdue⟩ := List.mem_filter.mp hp
    simp only [Option.any_eq_true,decide_eq_true_eq] at hdue
    obtain ⟨e,he,hle⟩ := hdue
    have hmem : p ∈ g.absentees present := by
      rw [← absentees_eq_filter]
      exact List.mem_filter.mpr ⟨hplayer,habsent⟩
    exact ⟨p,hmem,e,he,truncatedToMillis_le.mp hle⟩
  · rintro ⟨p,hp,e,he,hle⟩
    have hplayer := (List.mem_filter.mp hp).1
    refine ⟨p.guestSessionId,List.mem_map.mpr ⟨p,List.mem_filter.mpr ⟨hplayer,?_⟩,rfl⟩,?_⟩
    · rw [Option.mem_def.mp he]
      exact decide_eq_true (truncatedToMillis_le.mpr hle)
    · exact decide_eq_true (List.mem_map.mpr ⟨p,hp,rfl⟩)

theorem adjudicateGrace_eq (hg : db.games.find id = some g) (hsound : g.Sound)
    (hs : g.status = .reconnecting) (hpresent : input.present = some present) :
    (¬ g.Overdue present input.graceAt → db.adjudicateGrace id input = (.ok none,db)) ∧
    (g.Overdue present input.graceAt → db.adjudicateGrace id input =
      match db.adjudicateAbandonment id
          ((g.absentees present).map GamePlayer.guestSessionId) input.abandonmentAt with
      | (.error e,db) => (.error (.repository e),db)
      | (.ok none,db) => (.ok none,db)
      | (.ok (some abandonment),db) => (completed abandonment input.stamp,db)) := by
  obtain ⟨p,q,hpair,_⟩ := hsound.pair
  have hguests := guestPair_of_players hpair
  have hstate : db.findGraceState id input.graceAt =
      if g.dueGuests input.graceAt = [] then .ok none
      else .ok (some ⟨g.dueGuests input.graceAt,(p.guestSessionId,q.guestSessionId)⟩) := by
    unfold Db.findGraceState
    simp only [hg,hs,ne_eq,not_true_eq_false,if_false,hguests]
    rfl
  have hdue : g.Overdue present input.graceAt → g.dueGuests input.graceAt ≠ [] := by
    intro hoverdue hnil
    have hany := due_any_iff.mpr hoverdue
    rw [hnil] at hany
    cases hany
  unfold Db.adjudicateGrace
  rw [hstate,hpresent]
  constructor
  · intro hundue
    split_ifs with hnil
    · rfl
    · show (if ¬ _ then _ else _) = _
      rw [absentees_guests hpair]
      exact if_pos fun hany => hundue (due_any_iff.mp hany)
  · intro hoverdue
    rw [if_neg (hdue hoverdue)]
    show (if ¬ _ then _ else _) = _
    rw [absentees_guests hpair]
    exact if_neg (not_not.mpr (due_any_iff.mpr hoverdue))

theorem PersistedGame.Overdue.mono {now now' : Micros} (h : g.Overdue present now)
    (hle : now ≤ now') : g.Overdue present now' := by
  obtain ⟨p,hp,e,he,hd⟩ := h
  exact ⟨p,hp,e,he,hd.trans hle⟩

/-- The guard of the second transaction. -/
theorem abandonmentEvent_recorded (hsound : g.Sound) (hs : g.status = .reconnecting)
    (hdue : g.Overdue present observation) :
    (¬ g.DeparturesRecorded present → Db.abandonmentEvent
      ((g.absentees present).map GamePlayer.guestSessionId) (g.locked observation) g = none) ∧
    (g.DeparturesRecorded present → Db.abandonmentEvent
      ((g.absentees present).map GamePlayer.guestSessionId) (g.locked observation) g =
        some (.abandonment ((g.absentees present).map GamePlayer.color))) := by
  have hlocked : (g.locked observation).status = .reconnecting := hs
  unfold Db.abandonmentEvent
  rw [if_neg (not_not.mpr hlocked)]
  simp only [absentees_eq_filter]
  constructor
  · intro hrecorded
    refine if_pos (Or.inr (Or.inl ?_))
    simp only [PersistedGame.DeparturesRecorded,not_forall,not_not] at hrecorded
    obtain ⟨p,hp,hnone⟩ := hrecorded
    exact List.any_eq_true.mpr ⟨p,hp,decide_eq_true (Or.inl hnone)⟩
  · intro hrecorded
    refine if_neg ?_
    obtain ⟨p,hp,e,he,hle⟩ := hdue
    rintro (hnil | hany | hundue)
    · rw [hnil] at hp
      exact List.not_mem_nil hp
    · obtain ⟨r,hr,hnone⟩ := List.any_eq_true.mp hany
      have hleft := hrecorded r hr
      have htogether := hsound.grace.together r (List.mem_filter.mp hr).1
      have hsome : r.reconnectGraceEndsAt.isSome = true := by
        rw [← htogether]
        exact Option.isSome_iff_ne_none.mpr hleft
      rcases of_decide_eq_true hnone with h | h
      · exact hleft h
      · rw [h] at hsome
        cases hsome
    · refine hundue (List.any_eq_true.mpr ⟨p,hp,?_⟩)
      rw [Option.mem_def.mp he]
      exact decide_eq_true (truncatedToMillis_le.mpr hle)

theorem deriveAbandonment_eq (hsound : g.Sound) (hne : g.absentees present ≠ []) :
    ∃ outcome, deriveTerminalOutcome (.abandonment ((g.absentees present).map GamePlayer.color)) =
        .ok outcome ∧ outcome.status = .abandoned ∧
      frozenAbandonment (g.absent present .w) (g.absent present .b) =
        some (outcome.result,outcome.termination) := by
  obtain ⟨p,q,hpair,_,_,hpw,hqb,_⟩ := hsound.pair
  unfold PersistedGame.absent
  by_cases hp : p.guestSessionId ∈ present
  · by_cases hq : q.guestSessionId ∈ present
    · simp [PersistedGame.absentees,hpair,hp,hq] at hne
    · have habsent : g.absentees present = [q] := by simp [PersistedGame.absentees,hpair,hp,hq]
      refine ⟨winnerOutcome .w .abandoned .abandonment,?_,rfl,?_⟩
      · rw [habsent,List.map_singleton,hqb]
        rfl
      · simp [habsent,hqb,frozenAbandonment,winnerOutcome]
  · by_cases hq : q.guestSessionId ∈ present
    · have habsent : g.absentees present = [p] := by simp [PersistedGame.absentees,hpair,hp,hq]
      refine ⟨winnerOutcome .b .abandoned .abandonment,?_,rfl,?_⟩
      · rw [habsent,List.map_singleton,hpw]
        rfl
      · simp [habsent,hpw,frozenAbandonment,winnerOutcome]
    · have habsent : g.absentees present = [p,q] := by simp [PersistedGame.absentees,hpair,hp,hq]
      refine ⟨⟨.void,.abandoned,.doubleAbandon,none⟩,?_,rfl,?_⟩
      · rw [habsent,List.map_cons,List.map_singleton,hpw,hqb]
        rfl
      · simp [habsent,hpw,hqb,frozenAbandonment]

end Grace

/-- A game of which a player has left ends as the table says once the grace of an absent player
has passed, unless an absent player has not been recorded as gone; otherwise nothing changes. -/
theorem grace_follows_table {chess : ChessEngine} {db : Db} (hdb : db.Reachable chess)
    {gameId : GameId} {g : PersistedGame} (hg : db.games.find gameId = some g)
    (hs : g.status = .reconnecting) (hversion : g.version < 2147483647)
    {input : AdjudicationInput} (hinput : input.During g) {present : List GuestSessionId}
    (hpresent : input.present = some present) : db.FollowsTable gameId g input present := by
  have hsound := hdb.sound.games gameId g hg
  obtain ⟨hi,hc⟩ := hdb.rowsChecked gameId g hg
  have hgame := adjudicateGame_reconnecting hg hsound hi hs hinput
  obtain ⟨hundue,hoverdue⟩ := adjudicateGrace_eq hg hsound hs hpresent
  have hruns := hinput.runs ((hinput.timeoutAt.trans hinput.graceAt).trans hinput.abandonmentAt)
    (le_refl _)
  have hcasts := hruns.casts hi
  refine ⟨fun hdue hrecorded => ?_,fun hrecorded => ?_,fun hdue => ?_⟩
  · have hlater := hdue.mono hinput.abandonmentAt
    have hevent := (abandonmentEvent_recorded hsound hs hlater).2 hrecorded
    have hne : g.absentees present ≠ [] := by
      obtain ⟨p,hp,_⟩ := hdue
      exact List.ne_nil_of_mem hp
    obtain ⟨outcome,ho,hstatus,htable⟩ := deriveAbandonment_eq hsound hne
    have hlive : g.status.terminal = false := by
      rw [hs]
      rfl
    have hrow : (g.ended input.abandonmentAt outcome).integersFit ∧
        (g.ended input.abandonmentAt outcome).rowChecks :=
      (ended_checks_iff hi hc hcasts outcome).mpr ⟨hversion,hruns.started⟩
    obtain ⟨guests,hrun⟩ := Db.adjudicate_commits chess hdb.sound hg hlive hcasts hevent ho
      hrow.1 hrow.2
    have hid : g.id = gameId := Table.find_key hg
    have hfind := find_settle_ended hg input.abandonmentAt outcome
    refine ⟨_,htable,terminalSubmission g (g.locked input.abandonmentAt) outcome guests,_,_,?_,rfl,
      hid,rfl,rfl,hfind,?_,rfl,rfl⟩
    · rw [hgame,hoverdue hdue,Db.adjudicateAbandonment,hrun]
    · show outcome.status.toGameStatus = .abandoned
      rw [hstatus]
      rfl
  · by_cases hdue : g.Overdue present input.graceAt
    · have hlater := hdue.mono hinput.abandonmentAt
      have hevent := (abandonmentEvent_recorded hsound hs hlater).1 hrecorded
      have hnone := Db.adjudicate_none hg hcasts hevent
      rw [hgame,hoverdue hdue,Db.adjudicateAbandonment,hnone]
    · rw [hgame,hundue hdue]
  · rw [hgame,hundue hdue]

section Sample

def sampleAbsent : List Operation :=
  sampleStart ++ [.markDisconnected (sampleId 1) (some (sampleId 10)) 30000 8000000]

def sampleGraceCall (present : List GuestSessionId) : AdjudicationInput :=
  { sampleAdjudication 40000000 with present := some present }

theorem sampleAbsent_found : (sampleRun sampleAbsent).games.find (sampleId 10) =
    some (sampleGame sampleAbsent) := rfl

theorem sampleGraceCall_during (present : List GuestSessionId) :
    (sampleGraceCall present).During (sampleGame sampleAbsent) := by
  have hstarted : ∀ s ∈ (sampleGame sampleAbsent).startedAt, s*1000 ≤ 40000000 := by decide
  have hturn : ∀ t ∈ (sampleGame sampleAbsent).turnStartedAt, t*1000 ≤ 40000000 := by decide
  have hrunning : ∀ t ∈ (sampleGame sampleAbsent).turnStartedAt,
      40000000 < (t + (sampleGame sampleAbsent).turnClockMs)*1000 := by decide
  exact ⟨le_refl _,le_refl _,le_refl _,hstarted,hturn,hrunning⟩

end Sample

theorem grace_follows_table_sample : (sampleRun sampleAbsent).FollowsTable (sampleId 10)
    (sampleGame sampleAbsent) (sampleGraceCall [sampleId 2]) [sampleId 2] :=
  grace_follows_table (sampleRun_reachable sampleAbsent) sampleAbsent_found rfl (by decide)
    (sampleGraceCall_during _) rfl

/-- Presence shows neither player, but only the departure of white has been recorded: the grace of
white has passed and the game goes on. -/
theorem unrecorded_departure_waits : ∃ g input present, (sampleRun sampleAbsent).Reachable
      sampleEngine ∧ (sampleRun sampleAbsent).games.find (sampleId 10) = some g ∧
    g.status = .reconnecting ∧ AdjudicationInput.During input g ∧ input.present = some present ∧
    g.Overdue present input.graceAt ∧ g.absent present .w = true ∧ g.absent present .b = true ∧
    (sampleRun sampleAbsent).adjudicateGame (sampleId 10) input =
        (.ok none,sampleRun sampleAbsent) ∧
    ¬ (sampleRun sampleAbsent).Abandons (sampleId 10) input (.void,.doubleAbandon) := by
  have hrun : (sampleRun sampleAbsent).adjudicateGame (sampleId 10) (sampleGraceCall []) =
      (.ok none,sampleRun sampleAbsent) := rfl
  refine ⟨sampleGame sampleAbsent,sampleGraceCall [],[],sampleRun_reachable sampleAbsent,
    sampleAbsent_found,rfl,sampleGraceCall_during [],rfl,?_,by decide,by decide,hrun,?_⟩
  · exact ⟨(sampleGame sampleAbsent).players.head (by decide),by decide,38000,by decide,by decide⟩
  · rintro ⟨submission,db',g',hended,_⟩
    rw [hrun] at hended
    unfold completed at hended
    split at hended <;> cases hended

end CluChess
