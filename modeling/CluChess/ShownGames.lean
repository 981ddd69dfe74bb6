import CluChess.GameFeed
import CluChess.GuestNames
import CluChess.Adjudication
import CluChess.SingleStart

/-! Every player of every game that the repositories lead to can be shown it: the avatars and the
names of both players are found and pass the schemas, and so does every move. -/
namespace CluChess

/-- A session is created with an identity that `generate` has drawn. -/
def Operation.Drawn : Operation → Prop
  | .session (.create _ input) => ∃ (draw : IdentityDraw) (attempt : ℕ),
      (⟨input.avatarKey,input.displayName⟩ : Identity) = draw.identity attempt
  | _ => True

def Db.SessionsShown (db : Db) : Prop :=
  ∀ session ∈ db.guestSessions.rows, identitySchema session.identity = true

def Db.PlayersKnown (db : Db) : Prop :=
  ∀ id g, db.games.find id = some g → ∀ guest ∈ g.guests, ∃ identity,
    db.identity guest = some identity

def Db.MovesListed (db : Db) : Prop :=
  ∀ id, ∀ r ∈ db.movesOf id, snapshotMoveSchema r.listed = true

section Sessions

variable {chess : ChessEngine} {db db' : Db} {op : Operation}

namespace Db.SessionsShown

theorem insert (h : db.SessionsShown) {row : GuestSession}
    (hrow : db.guestSessions.insert row = some db'.guestSessions)
    (hshown : identitySchema row.identity = true) : db'.SessionsShown := by
  intro session hsession
  rcases (Table.mem_insert hrow).mp hsession with hold | rfl
  · exact h session hold
  · exact hshown

theorem put (h : db.SessionsShown) {row : GuestSession}
    (hput : db'.guestSessions = db.guestSessions.put row)
    (hshown : identitySchema row.identity = true) : db'.SessionsShown := by
  intro session hsession
  rw [hput] at hsession
  obtain ⟨old,hold,rfl⟩ := List.mem_map.mp hsession
  split_ifs
  · exact hshown
  · exact h old hold

theorem change (h : db.SessionsShown) {id : GuestSessionId} {t : Millis}
    {change : GuestSession → GuestSession} {command : SessionCommand} {r : SessionMutationResult}
    (hidentity : ∀ session, (change session).identity = session.identity)
    (hok : db.changeSession id t change command = .ok (r,db')) : db'.SessionsShown := by
  obtain ⟨current,hcurrent,_,hput,_⟩ := changeSession_ok hok
  obtain ⟨hfind,_,_⟩ := availableSession_ok hcurrent
  refine h.put hput ?_
  rw [hidentity]
  exact h current (Table.find_mem hfind)

theorem create (h : db.SessionsShown) {input : CreateGuestSession} {r : SessionMutationResult}
    (hshown : identitySchema ⟨input.avatarKey,input.displayName⟩ = true)
    (hok : db.createSession none input = .ok (r,db')) : db'.SessionsShown := by
  obtain ⟨db₁,hrow,hok⟩ := bind_eq_ok.mp hok
  obtain ⟨db₂,hcommand,hok⟩ := bind_eq_ok.mp hok
  cases hok
  have hinsert := (createGuestSession_ok hrow).1
  rw [← (createSessionCommand_ok hcommand).2] at hinsert
  exact h.insert hinsert hshown

theorem transaction (h : db.SessionsShown)
    {work : Except SessionFailure (SessionMutationResult × Db)}
    (hw : ∀ r db', work = .ok (r,db') → db'.SessionsShown) :
    (db.sessionTransaction work).2.SessionsShown := by
  cases work with
  | error e => exact h
  | ok r => exact hw r.1 r.2 rfl

theorem session (h : db.SessionsShown) {operation : SessionOperation}
    (hop : (Operation.session operation).Drawn) :
    (db.executeSession operation).2.SessionsShown := by
  cases operation with
  | create existing input =>
    obtain ⟨draw,attempt,hdraw⟩ := hop
    refine h.transaction fun r db' hw => ?_
    cases existing with
    | some command => rwa [toCommandReplay_frame hw]
    | none => exact h.create (hdraw ▸ identity_valid draw attempt) hw
  | renew existing input =>
    refine h.transaction fun r db' hw => ?_
    cases existing with
    | some command => rwa [toCommandReplay_frame hw]
    | none =>
      refine h.change ?_ hw
      exact fun _ => rfl
  | reset existing input =>
    refine h.transaction fun r db' hw => ?_
    cases existing with
    | some command => rwa [toCommandReplay_frame hw]
    | none =>
      refine h.change ?_ hw
      exact fun _ => rfl
  | cleanupExpired cutoff limit locked =>
    exact fun session hsession => h session (Table.mem_deleteWhere.mp hsession).1

theorem execute (h : db.SessionsShown) (hop : op.Drawn) :
    (execute chess db op).2.SessionsShown := by
  by_cases hsession : ∃ operation, op = .session operation
  · obtain ⟨operation,rfl⟩ := hsession
    exact h.session hop
  · obtain ⟨hsessions,_⟩ := execute_sessions chess db fun operation he => hsession ⟨operation,he⟩
    intro session hmem
    rw [hsessions] at hmem
    exact h session hmem

end Db.SessionsShown

namespace Db.PlayersKnown

theorem allocated (hjoined : db'.AssignmentsJoined) {input : AllocateGame}
    (ha : db.Allocated input db') {guest : GuestSessionId}
    (hguest : guest ∈ (newGameRow input).guests) :
    ∃ identity, db'.identity guest = some identity := by
  have hmem : (⟨guest,input.gameId⟩ : ActiveGameAssignment) ∈ db'.assignments.rows := by
    rw [(createAssignments_ok ha.assignments).1]
    refine List.mem_append_right _ (List.mem_map.mpr ⟨guest,?_,rfl⟩)
    exact (List.mem_insertionSort _).mpr hguest
  obtain ⟨session,hsession⟩ := Option.ne_none_iff_exists'.mp (hjoined _ hmem)
  refine ⟨session.identity,?_⟩
  unfold Db.identity
  rw [hsession]
  rfl

theorem execute (h : db.PlayersKnown) (hjoined : db.AssignmentsJoined) (op : Operation) :
    (execute chess db op).2.PlayersKnown := by
  have hkeep : ∀ id g, db.games.find id = some g → ∀ guest ∈ g.guests,
      ∃ identity, (CluChess.execute chess db op).2.identity guest = some identity := by
    intro id g hg guest hguest
    obtain ⟨identity,hidentity⟩ := h id g hg guest hguest
    obtain ⟨p,hp,rfl⟩ := List.mem_map.mp hguest
    exact ⟨identity,execute_identity chess hidentity (guestReferenced_of_player hg hp) op⟩
  have hafter : (CluChess.execute chess db op).2.AssignmentsJoined := hjoined.execute op
  intro id g hg guest hguest
  cases execute_outcome chess db op with
  | session _ _ hdb =>
    rw [(Outcome.frame_session hdb).1] at hg
    exact hkeep id g hg guest hguest
  | kept hdb _ =>
    rw [hdb] at hg
    exact hkeep id g hg guest hguest
  | allocated _ _ ha _ =>
    rw [Table.find_insert ha.games] at hg
    split_ifs at hg
    · cases hg
      exact allocated hafter ha hguest
    · exact hkeep id g hg guest hguest
  | wrote _ hw _ =>
    rw [hw.find] at hg
    split_ifs at hg
    · cases hg
      rw [guests_of_seats hw.change.seats_eq] at hguest
      exact hkeep _ _ hw.found guest hguest
    · exact hkeep id g hg guest hguest

end Db.PlayersKnown

end Sessions

section Moves

variable {chess : ChessJs} {db : Db} {op : Operation}

theorem AcceptedMove.Valid.listed {accepted : AcceptedMove} (h : accepted.Valid) {r : MoveRow}
    (hr : accepted.shown = r.shown) : snapshotMoveSchema r.listed = true := by
  have hschema := h.schema
  simp only [acceptedMoveSchema,Bool.and_eq_true] at hschema
  obtain ⟨⟨⟨⟨_,hply⟩,hpositive⟩,hsan⟩,huci⟩ := hschema
  have hply' : accepted.ply = r.ply := congrArg ShownMove.ply hr
  have hsan' : accepted.san = r.san := congrArg ShownMove.san hr
  have huci' : accepted.uci = r.uci := congrArg ShownMove.uci hr
  have htext := isText_one hsan h.san
  have htext' := isText_uci huci
  rw [hsan'] at htext
  rw [huci'] at htext'
  rw [hply'] at hply hpositive
  simp [snapshotMoveSchema,MoveRow.listed,hply,of_decide_eq_true hpositive,htext,htext']

theorem Db.MovesListed.execute (h : db.MovesListed) (rules : chess.Rules) (texts : chess.TextBounds)
    (hdb : db.ServedReachable chess.engine) (hop : op.Served chess.engine) :
    (execute chess.engine db op).2.MovesListed := by
  intro id r hr
  rcases execute_movesOf chess.engine db op with hkeep | ⟨m,guests,hs⟩
  · rw [hkeep] at hr
    exact h id r hr
  · by_cases hid : id = m.input.gameId
    · subst hid
      rcases List.mem_cons.mp (hs.commits.mem_iff.mp hr) with rfl | hold
      · have hvalid := execute_valid rules texts hdb hop
        rw [hs.answer] at hvalid
        exact hvalid.accepted.listed hs.shown.1
      · exact h _ r hold
    · rw [hs.movesOf_ne hid] at hr
      exact h id r hr

end Moves

section Shown

variable {chess : ChessJs} {db : Db} {id : GameId} {g : PersistedGame} {guest : GuestSessionId}
  {observation : Micros}

/-- What the snapshots of a database rest on. -/
structure Db.Shown (chess : ChessJs) (db : Db) : Prop where
  served : db.ServedReachable chess.engine
  sessions : db.SessionsShown
  joined : db.AssignmentsJoined
  players : db.PlayersKnown
  moves : db.MovesListed

theorem Db.Shown.execute {op : Operation} (rules : chess.Rules) (texts : chess.TextBounds)
    (h : db.Shown chess) (hop : op.Served chess.engine) (hdrawn : op.Drawn) :
    (execute chess.engine db op).2.Shown chess :=
  ⟨h.served.next hop,h.sessions.execute hdrawn,h.joined.execute op,h.players.execute h.joined op,
    h.moves.execute rules texts h.served hop⟩

theorem Db.Shown.run (rules : chess.Rules) (texts : chess.TextBounds)
    {guestSessions : Table GuestSession.id} {sessionCommands : Table SessionCommand.idempotencyHash}
    {operations : List Operation} (hsessions : ∀ session ∈ guestSessions.rows,
      session.rowChecks ∧ identitySchema session.identity = true)
    (hserved : ∀ op ∈ operations, op.Served chess.engine ∧ op.Drawn) :
    ((repositories chess.engine).run (.initial guestSessions sessionCommands) operations).Shown
      chess := by
  have hinitial : (Db.initial guestSessions sessionCommands).Shown chess :=
    ⟨⟨guestSessions,sessionCommands,[],fun s hs => (hsessions s hs).1,fun _ h => by simp at h,rfl⟩,
      fun s hs => (hsessions s hs).2,fun _ h => absurd h List.not_mem_nil,
      fun _ _ h => by simp [Db.initial] at h,fun _ _ h => by simp [Db.initial,Db.movesOf] at h⟩
  exact (repositories chess.engine).run_invariant (P := fun db => db.Shown chess)
    (fun db op hop hdb => hdb.execute rules texts hop.1 hop.2) hinitial hserved

theorem presentNamed_isSome {s : NamedSnapshot}
    (hne : s.allocation.players.1.guestSessionId ≠ s.allocation.players.2.guestSessionId)
    (hguest : guest ∈ s.allocation.guests) : ∃ payload, presentNamed s guest = some payload := by
  obtain ⟨⟨⟨⟨game,first,second⟩,moves,observed⟩,clocks⟩,identities⟩ := s
  simp only [NamedSnapshot.allocation,GameAllocation.guests,List.mem_cons,List.not_mem_nil,
    or_false] at hne hguest
  rw [← Option.isSome_iff_exists]
  rcases hguest with rfl | rfl
  · simp [presentNamed,present,GameSnapshotView.players,NamedSnapshot.cards,
      NamedSnapshot.allocation,hne.symm]
  · simp [presentNamed,present,GameSnapshotView.players,NamedSnapshot.cards,
      NamedSnapshot.allocation,hne]

theorem presentNamed_ok {s : NamedSnapshot} {p : RecoveredPayload}
    (h : presentNamed s guest = some p) :
    p.payload.clocks.blackMs = s.view.clocks.blackMs ∧
      p.payload.clocks.whiteMs = s.view.clocks.whiteMs ∧
      p.payload.clocks.serverTime = s.view.clocks.observedAt.getTime.getD 0 ∧
      p.payload.currentFen = s.allocation.game.currentFen ∧
      p.payload.initialFen = s.allocation.game.initialFen ∧
      p.payload.moves = s.view.snapshot.moves.map MoveRow.listed ∧
      (∃ you ∈ s.cards, you.1 = guest ∧ you.2 = p.you) ∧
      ∃ opponent ∈ s.cards, opponent.1 ≠ guest ∧ opponent.2 = p.opponent := by
  obtain ⟨payload,hpayload,h⟩ := Option.bind_eq_some_iff.mp h
  obtain ⟨you,hyou,h⟩ := Option.bind_eq_some_iff.mp h
  obtain ⟨opponent,hopponent,h⟩ := Option.bind_eq_some_iff.mp h
  cases h
  have hfound := List.find?_some hyou
  have hother := List.find?_some hopponent
  have hcards : (∃ card ∈ s.cards, card.1 = guest ∧ card.2 = you.2) ∧
      ∃ card ∈ s.cards, card.1 ≠ guest ∧ card.2 = opponent.2 :=
    ⟨⟨you,List.mem_of_find?_eq_some hyou,of_decide_eq_true hfound,rfl⟩,
      ⟨opponent,List.mem_of_find?_eq_some hopponent,of_decide_eq_true hother,rfl⟩⟩
  unfold present at hpayload
  split at hpayload
  · cases hpayload
    exact ⟨rfl,rfl,rfl,rfl,rfl,rfl,hcards.1,hcards.2⟩
  · cases hpayload

theorem Db.SessionsShown.identity (h : db.SessionsShown) {identity : Identity}
    (hidentity : db.identity guest = some identity) : identitySchema identity = true := by
  obtain ⟨session,hsession,rfl⟩ := Option.map_eq_some_iff.mp hidentity
  exact h session (Table.find_mem hsession)

theorem clockViewAt_observed {clock : GameClock} {t : Millis} {view : ClockView}
    (h : clockViewAt clock (.valid t) = .ok view) : view.observedAt = .valid t := by
  obtain ⟨_,_,h⟩ := bind_eq_ok.mp h
  obtain ⟨observed,hobserved,h⟩ := bind_eq_ok.mp h
  cases hobserved
  split at h
  · cases h
    rfl
  · obtain ⟨_,_,h⟩ := bind_eq_ok.mp h
    cases h
    rfl

theorem clockView_schema (hi : g.integersFit) (hc : g.rowChecks) {t : Millis} {view : ClockView}
    (h : clockViewAt (storedClock g) (.valid t) = .ok view) :
    isNonnegativeInt view.whiteMs = true ∧ isNonnegativeInt view.blackMs = true := by
  obtain ⟨view',hview,hshown⟩ := clockViewAt_shown hi hc t
  rw [h] at hview
  cases hview
  obtain ⟨_,_,_,hwhite,hblack⟩ := hi
  obtain ⟨⟨_,_,hw,hb⟩,_⟩ := hc
  have hbounds : ∀ color, 0 ≤ g.clockMs color → 0 ≤ view.shown color ∧
      view.shown color ≤ g.clockMs color := by
    intro color hpos
    rw [hshown color]
    split_ifs <;> omega
  have hshow : view.shown .w = view.whiteMs ∧ view.shown .b = view.blackMs := ⟨rfl,rfl⟩
  obtain ⟨hw₀,hw₁⟩ := hbounds .w hw
  obtain ⟨hb₀,hb₁⟩ := hbounds .b hb
  rw [hshow.1] at hw₀ hw₁
  rw [hshow.2] at hb₀ hb₁
  exact ⟨isNonnegativeInt_of_le hw₀ ((hw₁.trans hwhite.2).trans (by decide)),
    isNonnegativeInt_of_le hb₀ ((hb₁.trans hblack.2).trans (by decide))⟩

/-- The snapshot that a player of a stored game is read has the cards of its two players. -/
theorem Db.Shown.named (h : db.Shown chess) (hg : db.games.find id = some g)
    (hguest : guest ∈ g.guests) (observation : Micros) :
    ∃ named, db.namedSnapshot id guest observation = .ok named ∧
      db.snapshot id guest observation = .ok named.view ∧
      mapAllocation g = .ok named.allocation ∧
      named.allocation.players.1.guestSessionId ≠ named.allocation.players.2.guestSessionId ∧
      guest ∈ named.allocation.guests ∧
      ∀ card ∈ named.cards, card.1 ∈ g.guests ∧ db.identity card.1 = some card.2 := by
  obtain ⟨view,hview⟩ := snapshot_ok h.served.reachable hg hguest observation
  obtain ⟨g',hg',ha,_,hmember,_⟩ := snapshot_of_ok hview
  rw [hg] at hg'
  cases hg'
  have hguests := (mapAllocation_ok ha).2
  have hknown : ∀ guest ∈ view.snapshot.allocation.guests, ∃ identity,
      db.identity guest = some identity := by
    intro guest hguest
    exact h.players id g hg guest (hguests ▸ hguest)
  obtain ⟨white,hwhite⟩ := hknown _ List.mem_cons_self
  obtain ⟨black,hblack⟩ := hknown _ (List.mem_cons_of_mem _ List.mem_cons_self)
  refine ⟨⟨view,(white,black)⟩,?_,hview,ha,?_,hmember,fun card hcard => ?_⟩
  · unfold Db.namedSnapshot
    rw [hview]
    simp only [hwhite,hblack]
  · obtain ⟨p,q,hpair,_,_,_,_,hpq⟩ := (h.served.reachable.sound.games id g hg).pair
    unfold GameAllocation.guests PersistedGame.guests at hguests
    rw [hpair] at hguests
    obtain ⟨hp,hq⟩ := List.cons.inj hguests
    change view.snapshot.allocation.players.1.guestSessionId ≠ _
    rw [hp]
    change p.guestSessionId ≠ view.snapshot.allocation.players.2.guestSessionId
    rw [(List.cons.inj hq).1]
    exact hpq
  · rw [← hguests]
    rcases List.mem_cons.mp hcard with rfl | hcard
    · exact ⟨List.mem_cons_self,hwhite⟩
    · rw [List.mem_singleton.mp hcard]
      exact ⟨List.mem_cons_of_mem _ List.mem_cons_self,hblack⟩

/-- What is presented of the view of a stored game passes `gameSnapshotPayloadSchema`, if the
cards of its players do. -/
theorem Db.Shown.payload_schema (rules : chess.Rules) (texts : chess.TextBounds)
    (h : db.Shown chess) (hg : db.games.find id = some g) (ho : Micros.isInstant observation)
    {named : NamedSnapshot} (hview : db.snapshot id guest observation = .ok named.view)
    {payload : RecoveredPayload} (hpayload : presentNamed named guest = some payload)
    (hyou : identitySchema payload.you = true)
    (hopponent : identitySchema payload.opponent = true) :
    gameSnapshotPayloadSchema payload = true := by
  obtain ⟨hi,hc⟩ := h.served.reachable.rowsChecked id g hg
  have hbounded := h.served.bounded rules texts id g hg
  have hhistory := (h.served.recorded rules id g hg).history
  obtain ⟨g',hg',ha,hmoves,_,hclocks⟩ := snapshot_of_ok hview
  rw [hg] at hg'
  cases hg'
  obtain ⟨hgame,_⟩ := mapAllocation_eq ha
  rw [hgame,snapshotClock_mapGame] at hclocks
  obtain ⟨hblackMs,hwhiteMs,htime,hcurrent,hinitial,hlisted,_,_⟩ := presentNamed_ok hpayload
  obtain ⟨hw,hb⟩ := clockView_schema hi hc hclocks
  have hserver : isNonnegativeInt payload.payload.clocks.serverTime = true := by
    rw [htime,clockViewAt_observed hclocks]
    exact isNonnegativeInt_of_le (Int.ediv_nonneg ho.1 (by decide)) (ho.2.trans (by decide))
  have hcurrentFen : isText 1 256 payload.payload.currentFen = true := by
    obtain ⟨position,_,hposition,_⟩ := hhistory.replayed
    have hne : g.currentFen ≠ "" := hposition ▸ rules.fenText position
    rw [hcurrent]
    change isText 1 256 named.view.snapshot.allocation.game.currentFen = true
    rw [hgame]
    exact isText_one (decide_eq_true hne) hbounded.currentFen
  have hinitialFen : isText 1 256 payload.payload.initialFen = true := by
    rw [hinitial]
    change isText 1 256 named.view.snapshot.allocation.game.initialFen = true
    rw [hgame]
    exact isText_one (decide_eq_true hhistory.initialText) hbounded.initialFen
  have hall : payload.payload.moves.all snapshotMoveSchema = true := by
    rw [hlisted,List.all_eq_true]
    intro move hmove
    obtain ⟨r,hr,rfl⟩ := List.mem_map.mp hmove
    refine h.moves id r ?_
    rw [Db.movesOf,hg,Option.map_some,Option.getD_some,← hmoves]
    exact hr
  rw [← hwhiteMs] at hw
  rw [← hblackMs] at hb
  simp only [gameSnapshotPayloadSchema,hw,hb,hserver,hcurrentFen,hinitialFen,hall,hyou,hopponent,
    Bool.and_self]

/-- A player of a stored game is given a snapshot of it that passes the schemas. -/
theorem Db.Shown.freshSnapshot (rules : chess.Rules) (texts : chess.TextBounds)
    (h : db.Shown chess) (hg : db.games.find id = some g) (hguest : guest ∈ g.guests)
    (ho : Micros.isInstant observation) :
    ∃ recovered, db.freshSnapshot id guest observation = .ok recovered ∧
      recovered.gameId = id ∧ recovered.gameVersion = g.version ∧
      (RealtimeCommandResult.gameSnapshot recovered.gameVersion recovered.payload).schema = true ∧
      recovered.payload.payload.moves = g.moves.map MoveRow.listed ∧
      db.identity guest = some recovered.payload.you ∧
      ∃ opponent ∈ g.guests, opponent ≠ guest ∧
        db.identity opponent = some recovered.payload.opponent := by
  obtain ⟨named,hnamed,hview,ha,hne,hmember,hcards⟩ := h.named hg hguest observation
  obtain ⟨payload,hpayload⟩ := presentNamed_isSome hne hmember
  have hok : db.freshSnapshot id guest observation =
      .ok ⟨id,named.allocation.game.version,payload⟩ := by
    unfold Db.freshSnapshot
    rw [hnamed]
    simp only [hpayload]
  obtain ⟨_,_,_,_,_,hlisted,⟨you,hyou,rfl,he⟩,opponent,hopponent,hother,he'⟩ :=
    presentNamed_ok hpayload
  have hidentity := (hcards you hyou).2
  have hidentity' := (hcards opponent hopponent).2
  rw [he] at hidentity
  rw [he'] at hidentity'
  obtain ⟨g',hg',_,hmoves,_⟩ := snapshot_of_ok hview
  rw [hg] at hg'
  cases hg'
  have hversion : named.allocation.game.version = g.version := by
    rw [(mapAllocation_eq ha).1]
    rfl
  refine ⟨_,hok,rfl,hversion,?_,?_,hidentity,opponent.1,(hcards opponent hopponent).1,hother,
    hidentity'⟩
  · have hsafe : isNonnegativeInt g.version = true := isNonnegativeInt_of_fits
      (Int.natCast_nonneg _) (h.served.reachable.rowsChecked id g hg).1.1
    have hschema := h.payload_schema rules texts hg ho hview hpayload
      (h.sessions.identity hidentity) (h.sessions.identity hidentity')
    change (isNonnegativeInt named.allocation.game.version &&
      gameSnapshotPayloadSchema payload) = true
    rw [hversion,hsafe,hschema]
    rfl
  · rw [← hmoves]
    exact hlisted

/-- After any run of the repositories whose sessions carry identities that can be shown, and at any
instant, a player of a stored game is given a snapshot of it that passes the schemas, lists its
moves, and shows the avatars and the names of the two players. -/
theorem players_are_shown_games (rules : chess.Rules) (texts : chess.TextBounds)
    {guestSessions : Table GuestSession.id} {sessionCommands : Table SessionCommand.idempotencyHash}
    {operations : List Operation} (hsessions : ∀ session ∈ guestSessions.rows,
      session.rowChecks ∧ identitySchema session.identity = true)
    (hserved : ∀ op ∈ operations, op.Served chess.engine ∧ op.Drawn)
    (hdb : db = (repositories chess.engine).run (.initial guestSessions sessionCommands) operations)
    (hg : db.games.find id = some g) (hguest : guest ∈ g.guests)
    (ho : Micros.isInstant observation) :
    ∃ recovered, db.freshSnapshot id guest observation = .ok recovered ∧
      recovered.gameId = id ∧ recovered.gameVersion = g.version ∧
      (RealtimeCommandResult.gameSnapshot recovered.gameVersion recovered.payload).schema = true ∧
      recovered.payload.payload.moves = g.moves.map MoveRow.listed ∧
      db.identity guest = some recovered.payload.you ∧
      ∃ opponent ∈ g.guests, opponent ≠ guest ∧
        db.identity opponent = some recovered.payload.opponent := by
  subst hdb
  exact (Db.Shown.run rules texts hsessions hserved).freshSnapshot rules texts hg hguest ho

/-- A game that has started, shown to White. -/
theorem players_are_shown_games_sample : ∃ recovered,
    (sampleDb sampleStart).freshSnapshot (sampleId 10) (sampleId 1) 9000000 = .ok recovered ∧
      recovered.gameVersion = 2 ∧
      (RealtimeCommandResult.gameSnapshot recovered.gameVersion recovered.payload).schema = true ∧
      (sampleDb sampleStart).identity (sampleId 1) = some recovered.payload.you := by
  have hsessions : ∀ session ∈ sampleSessions.rows,
      session.rowChecks ∧ identitySchema session.identity = true := by decide
  have hserved : ∀ op ∈ sampleStart, op.Served sampleChess.engine ∧ op.Drawn := by
    intro op hop
    refine ⟨sampleStart_served op hop,?_⟩
    have hall : ∀ op ∈ sampleStart, ∀ operation, op ≠ .session operation := by
      simp [sampleStart,sampleJoins]
    cases op with
    | session operation => exact absurd rfl (hall _ hop operation)
    | _ => trivial
  have hguest : sampleId 1 ∈ sampleStarted.guests := by decide
  have ho : Micros.isInstant 9000000 := ⟨by decide,by decide⟩
  obtain ⟨recovered,hok,_,hversion,hschema,_,hyou,_⟩ := players_are_shown_games sampleChess_rules
    sampleChess_texts hsessions hserved rfl sampleStarted_found hguest ho
  exact ⟨recovered,hok,hversion,hschema,hyou⟩

end Shown
end CluChess
