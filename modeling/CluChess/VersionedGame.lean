import CluChess.ClockAccounting
import CluChess.GameRoom

/-! The version of a game identifies its state. Every committed change of what a client sees of
a game increases the version, so two snapshots of the same version agree, and an operation
answers with the version of the row it has committed. -/
namespace CluChess

/-- What the version of a game stands for; the results are codes of the database or of the
domain. -/
structure GameState (ρ τ : Type) where
  status : GameStatus
  currentFen : String
  turnColor : PlayerColor
  moves : List MoveRow
  whiteClockMs : ℤ
  blackClockMs : ℤ
  turnStartedAt : Option Millis
  result : Option ρ
  termination : Option τ
  disconnections : List (Option Millis × Option Millis)
  deriving DecidableEq

def GameState.mapped (s : GameState String String) : GameState GameResult GameTermination where
  status := s.status
  currentFen := s.currentFen
  turnColor := s.turnColor
  moves := s.moves
  whiteClockMs := s.whiteClockMs
  blackClockMs := s.blackClockMs
  turnStartedAt := s.turnStartedAt
  result := s.result.bind domainResult
  termination := s.termination.bind domainTermination
  disconnections := s.disconnections

def PersistedGame.state (g : PersistedGame) : GameState String String where
  status := g.status
  currentFen := g.currentFen
  turnColor := g.turnColor
  moves := g.moves
  whiteClockMs := g.whiteClockMs
  blackClockMs := g.blackClockMs
  turnStartedAt := g.turnStartedAt
  result := g.result
  termination := g.termination
  disconnections := g.players.map fun p => (p.disconnectedAt,p.reconnectGraceEndsAt)

def GameSnapshotRecord.state (s : GameSnapshotRecord) : GameState GameResult GameTermination where
  status := s.allocation.game.status
  currentFen := s.allocation.game.currentFen
  turnColor := s.allocation.game.turnColor
  moves := s.moves
  whiteClockMs := s.allocation.game.whiteClockMs
  blackClockMs := s.allocation.game.blackClockMs
  turnStartedAt := s.allocation.game.turnStartedAt
  result := s.allocation.game.result
  termination := s.allocation.game.termination
  disconnections := [s.allocation.players.1,s.allocation.players.2].map fun p =>
    (p.disconnectedAt,p.reconnectGraceEndsAt)

namespace Db

def gameVersion (id : GameId) (db : Db) : Option ℕ :=
  (db.games.find id).map PersistedGame.version

def gameState (id : GameId) (db : Db) : Option (GameState String String) :=
  (db.games.find id).map PersistedGame.state

end Db

/-- The versions of a game that an answer carries as those of the state it reports. -/
def Answer.versions (id : GameId) : Answer → List ℕ
  | .allocation (.ok a) => if a.game.id = id then [a.game.version] else []
  | .start (.ok r) => if r.allocation.game.id = id then [r.allocation.game.version] else []
  | .move (.ok s) =>
    if s.accepted.gameId = id then
      s.accepted.gameVersion :: (s.ended.map EndedGame.gameVersion).toList
    else []
  | .resignation (.ok s) => if s.ended.gameId = id then [s.ended.gameVersion] else []
  | .terminal (.ok (some s)) => if s.ended.gameId = id then [s.ended.gameVersion] else []
  | .disconnected (.ok (some d)) => if d.gameId = id then [d.gameVersion] else []
  | .reconnected (.ok (some r)) => if r.gameId = id then [r.gameVersion] else []
  | _ => []

/-- The answer of the execution that a replay repeats. -/
def Answer.original : Answer → Answer
  | .move (.ok s) => .move (.ok { s with duplicate := false })
  | .resignation (.ok s) => .resignation (.ok { s with duplicate := false })
  | answer => answer

section Changes

variable {chess : ChessEngine} {db db' : Db} {g g' : PersistedGame} {id : GameId}
  {op : Operation} {answer : Answer}

theorem mapPlayer_disconnections (slot : ℕ) {data : GamePlayer → GamePlayer}
    (h : ∀ p, (data p).disconnectedAt = p.disconnectedAt ∧
      (data p).reconnectGraceEndsAt = p.reconnectGraceEndsAt) :
    (g.mapPlayer slot data).state = g.state := by
  have hplayers : (g.mapPlayer slot data).players.map
      (fun p => (p.disconnectedAt,p.reconnectGraceEndsAt)) =
        g.players.map fun p => (p.disconnectedAt,p.reconnectGraceEndsAt) := by
    simp only [PersistedGame.mapPlayer,List.map_map]
    apply List.map_congr_left
    intro p _
    simp only [Function.comp_apply]
    split
    · rw [(h p).1,(h p).2]
    · rfl
  unfold PersistedGame.state
  rw [hplayers]
  rfl

/-- A change of the state increases the version. A player who joins or leaves before the start
changes neither. -/
theorem GameChange.state_or_version (h : GameChange chess g g') :
    g'.state = g.state ∨ g.version < g'.version := by
  cases h with
  | join _ _ _ => exact Or.inl (mapPlayer_disconnections _ fun _ => ⟨rfl,rfl⟩)
  | leave _ _ => exact Or.inl (mapPlayer_disconnections _ fun _ => ⟨rfl,rfl⟩)
  | move hg _ =>
    subst hg
    exact Or.inr (AdmittedMove.version_lt _ _)
  | ready _ _ _ => exact Or.inr (Nat.lt_succ_self _)
  | start _ => exact Or.inr (Nat.lt_succ_self _)
  | disconnect _ _ _ _ => exact Or.inr (Nat.lt_succ_self _)
  | reconnect _ _ _ => exact Or.inr (Nat.lt_succ_self _)
  | finish _ _ => exact Or.inr (Nat.lt_succ_self _)
  | resign _ _ _ _ _ => exact Or.inr (Nat.lt_succ_self _)

theorem game_versioned (chess : ChessEngine) (id : GameId) :
    (repositories chess).Versioned (fun db => ∃ g, db.games.find id = some g)
      (fun db => (db.gameVersion id).getD 0) (fun db => db.gameState id) := by
  constructor
  · rintro db op ⟨g,hg⟩
    obtain ⟨g',hg',_⟩ := (execute_change chess db op).row hg
    exact ⟨g',hg'⟩
  · rintro db op ⟨g,hg⟩
    obtain ⟨g',hg',hr⟩ := (execute_change chess db op).row hg
    have hnext : ((repositories chess).next db op).games.find id = some g' := hg'
    simp only [Db.gameVersion,hg,hnext,Option.map_some,Option.getD_some]
    rcases hr with rfl | hc
    · exact le_rfl
    · exact hc.version_le
  · rintro db op ⟨g,hg⟩ hne
    obtain ⟨g',hg',hr⟩ := (execute_change chess db op).row hg
    have hnext : ((repositories chess).next db op).games.find id = some g' := hg'
    simp only [Db.gameVersion,Db.gameState,hg,hnext,Option.map_some,Option.getD_some] at hne ⊢
    rcases hr with rfl | hc
    · exact absurd rfl hne
    · exact hc.state_or_version.resolve_left fun hs => hne (congrArg some hs)

theorem findSnapshot_state {observation : Micros} {s : GameSnapshotRecord}
    (h : db.findSnapshot id observation = .ok (some s)) : ∃ g, db.games.find id = some g ∧
      s.allocation.game.version = g.version ∧ s.state = g.state.mapped := by
  unfold Db.findSnapshot Db.mapSnapshot at h
  cases hg : db.games.find id with
  | none =>
    rw [hg] at h
    cases h
  | some g =>
    simp only [hg] at h
    cases ha : mapAllocation g with
    | error e =>
      rw [ha] at h
      cases h
    | ok a =>
      rw [ha] at h
      obtain rfl := Option.some.inj (Except.ok.inj h)
      obtain ⟨hgame,hplayers⟩ := mapAllocation_eq ha
      have hshown : [a.players.1,a.players.2].map
          (fun p => (p.disconnectedAt,p.reconnectGraceEndsAt)) =
            g.players.map fun p => (p.disconnectedAt,p.reconnectGraceEndsAt) := by
        refine mapPlayers_map (fun p r hr => ?_) hplayers
        rw [mapPlayer_ok hr]
      refine ⟨g,rfl,by rw [hgame]; rfl,?_⟩
      unfold GameSnapshotRecord.state
      rw [hshown,hgame]
      rfl

theorem allocationResult_versions {v : ℕ} {row : PersistedGame}
    (h : v ∈ (Answer.allocation (allocationResult row)).versions id) :
    row.id = id ∧ row.version = v := by
  cases hr : allocationResult row with
  | error e =>
    rw [hr] at h
    cases h
  | ok a =>
    rw [hr] at h
    obtain ⟨hgame,_⟩ := mapAllocation_eq (allocationResult_ok hr)
    simp only [Answer.versions,hgame] at h
    split_ifs at h with hid
    · exact ⟨hid,(List.mem_singleton.mp h).symm⟩
    · cases h

theorem startResult_versions {started : Bool} {v : ℕ} {row : PersistedGame}
    (h : v ∈ (Answer.start (startResult row started)).versions id) :
    row.id = id ∧ row.version = v := by
  cases hr : startResult row started with
  | error e =>
    rw [hr] at h
    cases h
  | ok r =>
    rw [hr] at h
    obtain ⟨hgame,_⟩ := mapAllocation_eq (startResult_ok hr).1
    simp only [Answer.versions,hgame] at h
    split_ifs at h with hid
    · exact ⟨hid,(List.mem_singleton.mp h).symm⟩
    · cases h

theorem submission_versions {m : AdmittedMove} {guests : GuestSessionId × GuestSessionId} {v : ℕ}
    (h : v ∈ (Answer.move (.ok (m.submission guests))).versions id) :
    m.game.id = id ∧ (m.row guests).version = v := by
  simp only [Answer.versions] at h
  split_ifs at h with hid
  · refine ⟨hid,?_⟩
    rw [m.row_version]
    rcases List.mem_cons.mp h with hv | hv
    · exact hv.symm
    · simp only [AdmittedMove.submission,AdmittedMove.ended,Option.map_map,Option.mem_toList,
        Option.map_eq_some_iff,Function.comp_apply] at hv
      obtain ⟨_,_,hv⟩ := hv
      exact hv
  · cases h

theorem Writes.versions (h : Writes chess g op answer g') {v : ℕ} (hv : v ∈ answer.versions id) :
    g.id = id ∧ g'.version = v := by
  cases h with
  | join _ =>
    have hrow := allocationResult_versions hv
    exact hrow
  | ready _ _ =>
    have hrow := allocationResult_versions hv
    exact hrow
  | startIfReady _ =>
    have hrow := startResult_versions hv
    exact hrow
  | submitMove hg _ _ _ =>
    subst hg
    exact submission_versions hv
  | leave _ _ => cases hv
  | _ =>
    simp only [Answer.versions] at hv
    split_ifs at hv with hid
    · exact ⟨hid,(List.mem_singleton.mp hv).symm⟩
    · cases hv

def GameCommand.records (c : GameCommand) : Option Answer :=
  match c.commandType,c.response with
  | .move,.move accepted ended guests started =>
    some (.move (.ok ⟨accepted,false,ended,guests,started⟩))
  | .resign,.terminal ended guests => some (.resignation (.ok ⟨false,ended,guests⟩))
  | _,_ => none

theorem replayResult_records {c : GameCommand} {input : SubmitMove} {s : MoveSubmission}
    (h : replayResult c input = .accepted s) :
    c.records = some (Answer.original (.move (.ok s))) := by
  unfold replayResult at h
  split_ifs at h with hmine
  have htype : c.commandType = .move := by
    by_contra hn
    exact hmine (Or.inl hn)
  cases hr : c.response with
  | terminal ended guests => simp [hr,persistedSubmissionSchema] at h
  | move accepted ended guests started =>
    simp only [hr,persistedSubmissionSchema] at h
    split_ifs at h
    · cases h
      simp only [GameCommand.records,htype,hr]
      rfl

theorem replayResignation_records {c : GameCommand} {input : ResignGame} {s : TerminalSubmission}
    (h : replayResignation c input = .accepted s) :
    c.records = some (Answer.original (.resignation (.ok s))) := by
  unfold replayResignation at h
  split_ifs at h with hmine
  have htype : c.commandType = .resign := by
    by_contra hn
    exact hmine (Or.inl hn)
  cases hr : c.response with
  | move accepted ended guests started => simp [hr,storedTerminalSchema] at h
  | terminal ended guests =>
    simp only [hr,storedTerminalSchema] at h
    split_ifs at h
    · cases h
      simp only [GameCommand.records,htype,hr]
      rfl

/-- An operation that only reads answers with the version of the row, or repeats the answer that
a command has recorded. -/
theorem Reads.versions (h : Reads db op answer) {v : ℕ} (hv : v ∈ answer.versions id) :
    db.gameVersion id = some v ∨
      ∃ k g eventId c, db.games.find k = some g ∧ g.command eventId = some c ∧
        c.records = some answer.original ∧ answer.original ≠ answer := by
  cases h with
  | rejected hr =>
    exfalso
    unfold Answer.rejected at hr
    unfold Answer.versions at hv
    split at hr <;> simp_all
  | @allocated input g hg =>
    left
    obtain ⟨hid,rfl⟩ := allocationResult_versions hv
    have hmem : g ∈ db.games.rows := List.mem_of_find?_eq_some hg
    rw [Db.gameVersion,← hid,Table.find_of_mem hmem]
    rfl
  | found hg _ =>
    left
    obtain ⟨hid,rfl⟩ := startResult_versions hv
    rw [Db.gameVersion,← hid,Table.find_key hg,hg]
    rfl
  | @move _ input g c s _ hg hc hr =>
    refine Or.inr ⟨_,g,_,c,hg,hc,replayResult_records hr,fun he => ?_⟩
    have hduplicate := replayResult_duplicate hr
    have hflag := congrArg MoveSubmission.duplicate (Except.ok.inj (Answer.move.inj he))
    rw [hduplicate] at hflag
    cases hflag
  | @resignation _ input g c s _ hg hc hr =>
    refine Or.inr ⟨_,g,_,c,hg,hc,replayResignation_records hr,fun he => ?_⟩
    have hduplicate := replayResignation_duplicate hr
    have hflag := congrArg TerminalSubmission.duplicate
      (Except.ok.inj (Answer.resignation.inj he))
    rw [hduplicate] at hflag
    cases hflag

theorem command_addCommand {eventId : EventId} {row c : GameCommand}
    (h : (g.addCommand row).command eventId = some c) :
    g.command eventId = some c ∨ c = row := by
  have hfind : (g.commands ++ [row]).find? (fun c => c.eventId = eventId) = some c := h
  rw [List.find?_append] at hfind
  cases hold : g.commands.find? (fun c => c.eventId = eventId) with
  | some c' =>
    rw [hold] at hfind
    exact Or.inl (hold.trans hfind)
  | none =>
    rw [hold,Option.none_or] at hfind
    exact Or.inr (List.mem_singleton.mp (List.mem_of_find?_eq_some hfind))

theorem Writes.records (h : Writes chess g op answer g') {eventId : EventId} {c : GameCommand}
    (hn : g.command eventId ≠ some c) (hc : g'.command eventId = some c) :
    c.records = some answer := by
  cases h with
  | @submitMove m guests _ hg _ _ _ =>
    subst hg
    have hadded := command_addCommand (g := (m.updateRow m.game).addMove m.moveRow) hc
    obtain rfl := hadded.resolve_left hn
    rfl
  | @resign input player observation outcome guests _ _ _ _ =>
    have hadded := command_addCommand (g := g.ended observation outcome) hc
    obtain rfl := hadded.resolve_left hn
    rfl
  | _ => exact absurd hc hn

theorem Outcome.versions (h : Outcome chess db op answer db') {v : ℕ}
    (hv : v ∈ answer.versions id) : db'.gameVersion id = some v ∨ db' = db ∧
      ∃ k g eventId c, db.games.find k = some g ∧ g.command eventId = some c ∧
        c.records = some answer.original ∧ answer.original ≠ answer := by
  cases h with
  | session _ hanswer _ =>
    rw [hanswer] at hv
    cases hv
  | kept hdb hr =>
    subst hdb
    rcases hr.versions hv with hrow | hreplay
    · exact Or.inl hrow
    · exact Or.inr ⟨rfl,hreplay⟩
  | @allocated input _ _ _ ha hanswer =>
    rw [hanswer] at hv
    obtain ⟨rfl,rfl⟩ := allocationResult_versions hv
    left
    have hfound : db'.games.find (newGameRow input).id = some (newGameRow input) :=
      (ha.find _).trans (if_pos rfl)
    rw [Db.gameVersion,hfound]
    rfl
  | @wrote key g g' _ _ hw hwrites =>
    obtain ⟨rfl,rfl⟩ := hwrites.versions hv
    left
    have hkey : g.id = key := Table.find_key hw.found
    rw [Db.gameVersion,hkey,hw.find_self]
    rfl

theorem original_versions (answer : Answer) (id : GameId) :
    answer.original.versions id = answer.versions id := by
  unfold Answer.original
  split <;> rfl

/-- A command has been recorded by the operation whose answer it keeps. -/
theorem command_source (guestSessions : Table GuestSession.id)
    (sessionCommands : Table SessionCommand.idempotencyHash) (operations : List Operation)
    {k : GameId} {eventId : EventId} {c : GameCommand}
    (hg : ((repositories chess).run (.initial guestSessions sessionCommands)
      operations).games.find k = some g) (hc : g.command eventId = some c) :
    ∃ e ∈ (repositories chess).events (.initial guestSessions sessionCommands) operations,
      c.records = some e.answer ∧
        ∀ id v, v ∈ e.answer.versions id → e.after.gameVersion id = some v := by
  have hinitial : ¬ ∃ g, (Db.initial guestSessions sessionCommands).games.find k = some g ∧
      g.command eventId = some c := by simp [Db.initial]
  obtain ⟨e,he,hbefore,x',hx',hxc⟩ := (repositories chess).exists_enters
    (P := fun db => ∃ g, db.games.find k = some g ∧ g.command eventId = some c) hinitial
    ⟨g,hg,hc⟩
  refine ⟨e,he,?_⟩
  rw [(repositories chess).mem_events_eq he] at hbefore hx' ⊢
  change (execute chess e.before e.input).2.games.find k = some x' at hx'
  change ¬ ∃ g, e.before.games.find k = some g ∧ g.command eventId = some c at hbefore
  change c.records = some (execute chess e.before e.input).1 ∧ ∀ id v,
    v ∈ (execute chess e.before e.input).1.versions id →
      (execute chess e.before e.input).2.gameVersion id = some v
  have houtcome := execute_outcome chess e.before e.input
  generalize (execute chess e.before e.input).1 = answer at houtcome ⊢
  generalize (execute chess e.before e.input).2 = db' at hx' houtcome ⊢
  have hold : ∀ x, e.before.games.find k = some x → x.command eventId ≠ some c :=
    fun x hx hcommand => hbefore ⟨x,hx,hcommand⟩
  cases houtcome with
  | session _ _ hdb =>
    rw [(Outcome.frame_session hdb).1] at hx'
    exact absurd hxc (hold x' hx')
  | kept hdb _ =>
    rw [hdb] at hx'
    exact absurd hxc (hold x' hx')
  | allocated _ _ ha _ =>
    rw [ha.find] at hx'
    split_ifs at hx'
    · cases hx'
      cases hxc
    · exact absurd hxc (hold x' hx')
  | @wrote key x y _ _ hw hwrites =>
    rw [hw.find] at hx'
    split_ifs at hx' with hkey
    · cases hx'
      refine ⟨hwrites.records (hold x (hkey ▸ hw.found)) hxc,fun id v hv => ?_⟩
      obtain ⟨rfl,rfl⟩ := hwrites.versions hv
      rw [Db.gameVersion,Table.find_key hw.found,hw.find_self]
      rfl
    · exact absurd hxc (hold x' hx')

/-- The version identifies the state. In every run of the repositories the version of a game
never decreases, and every committed change of its state increases it; two states of one
version agree, and so do two snapshots; an operation that succeeds answers with the version
of the state it has committed, and one that is replayed repeats the answer of an operation
that had committed that version. -/
theorem version_identifies_state (chess : ChessEngine) (guestSessions : Table GuestSession.id)
    (sessionCommands : Table SessionCommand.idempotencyHash) (operations : List Operation)
    (id : GameId) :
    (∀ e ∈ (repositories chess).events (.initial guestSessions sessionCommands) operations,
      ∀ g, e.before.games.find id = some g → ∃ g', e.after.games.find id = some g' ∧
        g.version ≤ g'.version ∧ (g'.state ≠ g.state → g.version < g'.version)) ∧
    (∀ m n g g',
      ((repositories chess).run (.initial guestSessions sessionCommands)
        (operations.take m)).games.find id = some g →
      ((repositories chess).run (.initial guestSessions sessionCommands)
        (operations.take n)).games.find id = some g' →
      g.version = g'.version → g.state = g'.state) ∧
    (∀ m n observation observation' s s',
      ((repositories chess).run (.initial guestSessions sessionCommands)
        (operations.take m)).findSnapshot id observation = .ok (some s) →
      ((repositories chess).run (.initial guestSessions sessionCommands)
        (operations.take n)).findSnapshot id observation' = .ok (some s') →
      s.allocation.game.version = s'.allocation.game.version → s.state = s'.state) ∧
    ∀ e ∈ (repositories chess).events (.initial guestSessions sessionCommands) operations,
      ∀ v ∈ e.answer.versions id, e.after.gameVersion id = some v ∨ e.answer.original ≠ e.answer ∧
        ∃ e₀ ∈ (repositories chess).events (.initial guestSessions sessionCommands) operations,
          e₀.answer = e.answer.original ∧ e₀.after.gameVersion id = some v := by
  have hversioned := game_versioned chess id
  have hagree : ∀ m n g g',
      ((repositories chess).run (.initial guestSessions sessionCommands)
        (operations.take m)).games.find id = some g →
      ((repositories chess).run (.initial guestSessions sessionCommands)
        (operations.take n)).games.find id = some g' →
      g.version = g'.version → g.state = g'.state := by
    intro m n g g' hg hg' hv
    have hsame := hversioned.agree ⟨g,hg⟩ ⟨g',hg'⟩ (by simp [Db.gameVersion,hg,hg',hv])
    simpa [Db.gameState,hg,hg'] using hsame
  refine ⟨?_,hagree,?_,?_⟩
  · intro e he g hg
    rw [(repositories chess).mem_events_eq he]
    obtain ⟨g',hg',hrow⟩ := (execute_change chess e.before e.input).row hg
    refine ⟨g',hg',?_⟩
    rcases hrow with rfl | hc
    · exact ⟨le_rfl,fun hne => absurd rfl hne⟩
    · exact ⟨hc.version_le,fun hne => hc.state_or_version.resolve_left hne⟩
  · intro m n observation observation' s s' hs hs' hv
    obtain ⟨g,hg,hversion,hstate⟩ := findSnapshot_state hs
    obtain ⟨g',hg',hversion',hstate'⟩ := findSnapshot_state hs'
    rw [hversion,hversion'] at hv
    rw [hstate,hstate',hagree m n g g' hg hg' hv]
  · intro e he v hv
    obtain ⟨pre,post,hsplit,hev⟩ := (repositories chess).mem_events_split he
    have hbefore : e.before =
        (repositories chess).run (.initial guestSessions sessionCommands) pre := by
      rw [hev]
      rfl
    have houtcome := execute_outcome chess e.before e.input
    have hanswer : e.answer = (execute chess e.before e.input).1 := by
      rw [(repositories chess).mem_events_eq he]
      rfl
    have hafter : e.after = (execute chess e.before e.input).2 := by
      rw [(repositories chess).mem_events_eq he]
      rfl
    rw [← hanswer,← hafter] at houtcome
    rcases houtcome.versions hv with hrow | ⟨_,k,g,eventId,c,hg,hc,hrecords,hne⟩
    · exact Or.inl hrow
    · rw [hbefore] at hg
      obtain ⟨e₀,he₀,hsource,hversions⟩ :=
        command_source guestSessions sessionCommands pre hg hc
      have hsame : e₀.answer = e.answer.original :=
        Option.some.inj (hsource.symm.trans hrecords)
      refine Or.inr ⟨hne,e₀,?_,hsame,hversions id v ?_⟩
      · rw [hsplit,(repositories chess).events_append]
        exact List.mem_append_left _ he₀
      · rw [hsame,original_versions]
        exact hv

end Changes

end CluChess
