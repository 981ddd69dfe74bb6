import CluChess.AnsweringMachine
import CluChess.RepositoryOperations

/-! The repositories as one machine. A run of it is the order in which the transactions
obtain their row locks and commit; what a transaction read before its lock (the
observation, an assignment, a recorded command) comes with the operation and is arbitrary. -/
namespace CluChess

def repositories (chess : ChessEngine) : Machine Db Operation Answer := ⟨execute chess⟩

/-- A database without games; the guest sessions are arbitrary. -/
def Db.initial (guestSessions : Table GuestSession.id)
    (sessionCommands : Table SessionCommand.idempotencyHash) : Db :=
  ⟨guestSessions,sessionCommands,.empty,.empty⟩

def Db.Reachable (chess : ChessEngine) (db : Db) : Prop :=
  ∃ guestSessions sessionCommands operations,
    db = (repositories chess).run (.initial guestSessions sessionCommands) operations

/-- What one operation may commit. -/
inductive DbChange (chess : ChessEngine) (db : Db) : Db → Prop
  | frame {db' : Db} (hg : db'.games = db.games) (ha : db'.assignments = db.assignments) :
      DbChange chess db db'
  | allocate {input : AllocateGame} {db' : Db}
      (hd : input.whiteGuestSessionId ≠ input.blackGuestSessionId)
      (h : db.Allocated input db') : DbChange chess db db'
  | game {id : GameId} {g g' : PersistedGame} {db' : Db} (h : db.Wrote chess id g g' db') :
      DbChange chess db db'

variable {chess : ChessEngine} {db : Db}

theorem DbChange.refl : DbChange chess db db := .frame rfl rfl

theorem DbChange.find_some {db' : Db} (h : DbChange chess db db') {id : GameId}
    {g : PersistedGame}
    (hg : db.games.find id = some g) :
    db'.games.find id = some g ∨ ∃ g', db'.games.find id = some g' ∧ GameChange chess g g' := by
  cases h with
  | frame hgames _ => exact Or.inl (hgames ▸ hg)
  | @allocate input _ _ h =>
    left
    rw [Table.find_insert h.games,hg,if_neg]
    intro he
    have hfresh := (Table.insert_fresh h.games).1
    rw [show (newGameRow input).id = id from he.symm,hg] at hfresh
    cases hfresh
  | @game id' x x' _ h =>
    rw [h.find]
    split_ifs with hk
    · subst hk
      cases hg.symm.trans h.found
      exact Or.inr ⟨x',rfl,h.change⟩
    · exact Or.inl hg

theorem DbChange.row {db' : Db} (h : DbChange chess db db') {id : GameId} {g : PersistedGame}
    (hg : db.games.find id = some g) :
    ∃ g', db'.games.find id = some g' ∧ (g' = g ∨ GameChange chess g g') := by
  rcases h.find_some hg with hkeep | ⟨g',hg',hchange⟩
  · exact ⟨g,hkeep,Or.inl rfl⟩
  · exact ⟨g',hg',Or.inr hchange⟩

theorem Outcome.row {op : Operation} {answer : Answer} {db' : Db} {id : GameId}
    {g g' : PersistedGame} (h : Outcome chess db op answer db') (hg : db.games.find id = some g)
    (hg' : db'.games.find id = some g') : g' = g ∨
      GameChange chess g g' ∧ op.gameId = some id ∧ Writes chess g op answer g' := by
  cases h with
  | session _ _ hdb =>
    rw [(Outcome.frame_session hdb).1,hg] at hg'
    exact Or.inl (Option.some.inj hg').symm
  | kept hdb _ =>
    rw [hdb,hg] at hg'
    exact Or.inl (Option.some.inj hg').symm
  | @allocated input _ hop hd ha hanswer =>
    rw [Table.find_insert ha.games] at hg'
    split_ifs at hg' with hid
    · have hfresh : db.games.find id = none := hid ▸ (Table.insert_fresh ha.games).1
      rw [hg] at hfresh
      cases hfresh
    · rw [hg] at hg'
      exact Or.inl (Option.some.inj hg').symm
  | @wrote key x x' _ hop hw hwrites =>
    rw [hw.find] at hg'
    split_ifs at hg' with hid
    · subst hid
      cases hg'
      obtain rfl : x = g := Option.some.inj (hw.found.symm.trans hg)
      exact Or.inr ⟨hw.change,hop,hwrites⟩
    · rw [hg] at hg'
      exact Or.inl (Option.some.inj hg').symm

theorem Outcome.new {op : Operation} {answer : Answer} {db' : Db} {id : GameId}
    {g : PersistedGame} (h : Outcome chess db op answer db') (hn : db.games.find id = none)
    (hg : db'.games.find id = some g) : ∃ input, op = .allocate input ∧ g = newGameRow input := by
  cases h with
  | session _ _ hdb =>
    rw [(Outcome.frame_session hdb).1,hn] at hg
    cases hg
  | kept hdb _ =>
    rw [hdb,hn] at hg
    cases hg
  | @allocated input _ hop _ ha _ =>
    rw [Table.find_insert ha.games] at hg
    split_ifs at hg
    · exact ⟨input,hop,(Option.some.inj hg).symm⟩
    · rw [hn] at hg
      cases hg
  | wrote _ hw _ =>
    rw [hw.find] at hg
    split_ifs at hg with hid
    · rw [hid,hw.found] at hn
      cases hn
    · rw [hn] at hg
      cases hg

theorem execute_change (chess : ChessEngine) (db : Db) (op : Operation) :
    DbChange chess db (execute chess db op).2 := by
  cases execute_outcome chess db op with
  | session _ _ h =>
    obtain ⟨hg,ha⟩ := Outcome.frame_session h
    exact .frame hg ha
  | kept h _ => exact .frame (congrArg Db.games h) (congrArg Db.assignments h)
  | allocated _ hd h _ => exact .allocate hd h
  | wrote _ hw _ => exact .game hw

theorem Db.Reachable.invariant {I : Db → Prop} (h : db.Reachable chess)
    (hinitial : ∀ guestSessions sessionCommands, I (.initial guestSessions sessionCommands))
    (hchange : ∀ db db', DbChange chess db db' → I db → I db') : I db := by
  obtain ⟨guestSessions,sessionCommands,operations,rfl⟩ := h
  have hstable : (repositories chess).Stable I := fun s op hs =>
    hchange s _ (execute_change chess s op) hs
  exact hstable.run (hinitial _ _) operations

theorem Db.Reachable.run (h : db.Reachable chess) (operations : List Operation) :
    ((repositories chess).run db operations).Reachable chess := by
  obtain ⟨guestSessions,sessionCommands,before,rfl⟩ := h
  exact ⟨guestSessions,sessionCommands,before ++ operations,
    ((repositories chess).run_append _ before operations).symm⟩

section Served

/-! The arguments that the services pass. Identifiers are random UUIDs or have passed the schema
of a command, durations come from the checked configuration, a game starts from the position of
`newGame`, and an observation is an instant after the epoch. -/

/-- The instant that an operation was given, or read before it waited for the row lock. -/
def Operation.observation : Operation → Option Micros
  | .startIfReady _ observation | .submitMove _ observation | .resign _ observation
  | .terminateForReset _ _ observation | .markDisconnected _ _ _ observation
  | .markReconnected _ _ observation | .adjudicateTimeout _ observation
  | .adjudicateNoShow _ observation | .adjudicateAbandonment _ _ observation => some observation
  | _ => none

def Micros.isInstant (observation : Micros) : Prop :=
  0 ≤ observation ∧ truncatedToMillis observation ≤ maxDateTime

/-- `createIssuedClaims`: a token lives for a positive time. -/
def IssuedSessionClaims.lasting (claims : IssuedSessionClaims) : Prop :=
  claims.issuedAt < claims.expiresAt

def Operation.argumentsServed (chess : ChessEngine) : Operation → Prop
  | .session (.create _ input) => input.issuedClaims.lasting
  | .session (.renew _ input) => input.issuedClaims.lasting
  | .allocate input =>
    (∃ initial, chess.newGame = .ok initial ∧ input.initialFen = initial.fen ∧
      input.pgn = initial.pgn) ∧ 0 < input.timeInitialMs ∧ 0 ≤ input.timeIncrementMs ∧
      isUuidV4 input.gameId = true ∧ isUuidV4 input.whiteGuestSessionId = true ∧
      isUuidV4 input.blackGuestSessionId = true
  | .submitMove input _ => isUuidV4 input.clientMoveId = true
  | .markDisconnected _ _ graceMs _ => 0 ≤ graceMs
  | _ => True

structure Operation.Served (chess : ChessEngine) (op : Operation) : Prop where
  arguments : op.argumentsServed chess
  observed : ∀ observation ∈ op.observation, Micros.isInstant observation

theorem Operation.Served.of_observation {op : Operation} {observation : Micros}
    (h : op.argumentsServed chess) (ho : op.observation = some observation)
    (hinstant : Micros.isInstant observation) : op.Served chess := by
  refine ⟨h,fun o hmem => ?_⟩
  rw [ho] at hmem
  cases hmem
  exact hinstant

/-- A database that some run of served operations leads to, from guest sessions that satisfy
the checks of their table. -/
def Db.ServedReachable (chess : ChessEngine) (db : Db) : Prop :=
  ∃ guestSessions sessionCommands operations,
    (∀ session ∈ guestSessions.rows, session.rowChecks) ∧ (∀ op ∈ operations, op.Served chess) ∧
    db = (repositories chess).run (.initial guestSessions sessionCommands) operations

theorem Db.ServedReachable.reachable (h : db.ServedReachable chess) : db.Reachable chess := by
  obtain ⟨guestSessions,sessionCommands,operations,_,_,h⟩ := h
  exact ⟨guestSessions,sessionCommands,operations,h⟩

theorem Db.ServedReachable.next (h : db.ServedReachable chess) {op : Operation}
    (hop : op.Served chess) : ((repositories chess).next db op).ServedReachable chess := by
  obtain ⟨guestSessions,sessionCommands,operations,hchecks,hserved,rfl⟩ := h
  refine ⟨guestSessions,sessionCommands,operations ++ [op],hchecks,fun o ho => ?_,?_⟩
  · rcases List.mem_append.mp ho with ho | ho
    · exact hserved o ho
    · rw [List.mem_singleton.mp ho]
      exact hop
  · rw [Machine.run_append]
    rfl

theorem Db.ServedReachable.invariant {I : Db → Prop} (h : db.ServedReachable chess)
    (hinitial : ∀ guestSessions sessionCommands,
      (∀ session ∈ guestSessions.rows, session.rowChecks) →
        I (.initial guestSessions sessionCommands))
    (hstep : ∀ db op, db.Reachable chess → op.Served chess → I db → I (execute chess db op).2) :
    I db := by
  obtain ⟨guestSessions,sessionCommands,operations,hchecks,hserved,rfl⟩ := h
  have hinit : (Db.initial guestSessions sessionCommands).Reachable chess :=
    ⟨guestSessions,sessionCommands,[],rfl⟩
  exact ((repositories chess).run_invariant (P := fun db => db.Reachable chess ∧ I db)
    (fun db op hop hdb => ⟨hdb.1.run [op],hstep db op hdb.1 hop hdb.2⟩)
    ⟨hinit,hinitial _ _ hchecks⟩ hserved).2

end Served

section Rows

/-- The rows of the table `games` satisfy its column types and its `CHECK` constraints. -/
def Db.RowsChecked (db : Db) : Prop :=
  ∀ id g, db.games.find id = some g → g.integersFit ∧ g.rowChecks

theorem DbChange.rowsChecked {db' : Db} (h : DbChange chess db db') (hc : db.RowsChecked) :
    db'.RowsChecked := by
  intro k x hx
  cases h with
  | frame hg _ =>
    rw [hg] at hx
    exact hc k x hx
  | allocate _ h =>
    rw [Table.find_insert h.games] at hx
    split_ifs at hx
    · cases hx
      exact ⟨h.integers,h.checks⟩
    · exact hc k x hx
  | @game id g _ _ h =>
    rw [h.find] at hx
    split_ifs at hx
    · cases hx
      exact h.checked (hc id g h.found)
    · exact hc k x hx

theorem Db.Reachable.rowsChecked (h : db.Reachable chess) : db.RowsChecked :=
  h.invariant (fun _ _ _ _ hx => by simp [Db.initial] at hx) fun _ _ => DbChange.rowsChecked

end Rows

section Sample

/-! A game of two guests, on which concrete runs are evaluated. -/

def sampleId (n : ℕ) : Uuid := 4*2^76 + 2*2^62 + n

def sampleSessions : Table GuestSession.id :=
  ⟨[⟨sampleId 1,"Ada","knight",none,0,10000000,none⟩,
    ⟨sampleId 2,"Grace","rook",none,0,10000000,none⟩],by decide⟩

def sampleFen : String := "rnbqkbnr/pppppppp/8/8/8/8/PPPPPPPP/RNBQKBNR w KQkq - 0 1"

/-- The moves begin with an empty line, which the initial position does not have. -/
def samplePgn (moves : String) : String :=
  "[Event \"?\"]\n[Site \"?\"]\n[Date \"????.??.??\"]\n[Round \"?\"]\n[White \"?\"]\n" ++
    "[Black \"?\"]\n[Result \"*\"]\n" ++ moves

def samplePosition : ReplayedPosition := ⟨sampleFen,.ongoing,samplePgn " *",0,.w⟩

def sampleEvaluation : MoveEvaluation where
  applied := {
    capture := false
    check := false
    color := .w
    fenAfter := "rnbqkbnr/pppppppp/8/8/4P3/8/PPPP1PPP/RNBQKBNR b KQkq - 0 1"
    fenBefore := sampleFen
    plyNumber := 1
    san := "e4"
    uci := "e2e4" }
  gameOver := .ongoing
  pgn := samplePgn "\n1. e4 *"

/-- An engine that knows the initial position and one move. -/
def sampleEngine : ChessEngine where
  evaluateMove input :=
    if input = ⟨sampleFen,[],sampleFen,⟨"e2",none,"e4"⟩⟩ then .ok sampleEvaluation
    else .error ⟨.illegalMove,"The move is not legal in the current position."⟩
  newGame := .ok samplePosition
  replay fen history :=
    if fen = sampleFen ∧ history = [] then .ok samplePosition
    else .error ⟨.gameStateCorrupt,"Persisted move 1 is illegal for its replayed position."⟩

def sampleAllocation : AllocateGame where
  blackGuestSessionId := sampleId 2
  gameId := sampleId 10
  initialFen := sampleFen
  joinDeadlineAt := 30000
  matchId := sampleId 20
  mode := .blitz
  observedAt := 0
  pgn := samplePgn " *"
  timeIncrementMs := 2000
  timeInitialMs := 300000
  whiteGuestSessionId := sampleId 1

/-- The two reports after which the game is ready. -/
def sampleJoins : List Operation :=
  [.allocate sampleAllocation,.markReady ⟨0,sampleId 10,sampleId 1,1000⟩,
    .markReady ⟨0,sampleId 10,sampleId 2,2000⟩]

def sampleStart : List Operation := sampleJoins ++ [.startIfReady (sampleId 10) 5000000]

/-- White plays e4 three seconds after the start. -/
def sampleMove : SubmitMove :=
  ⟨sampleId 30,2,sampleId 10,sampleId 1,⟨"e2",none,"e4"⟩⟩

def sampleMoved : List Operation := sampleStart ++ [.submitMove sampleMove 8000000]

def sampleRun (operations : List Operation) : Db :=
  (repositories sampleEngine).run (.initial sampleSessions .empty) operations

theorem sampleRun_reachable (operations : List Operation) :
    (sampleRun operations).Reachable sampleEngine := ⟨_,_,operations,rfl⟩

def sampleGame (operations : List Operation) : PersistedGame :=
  ((sampleRun operations).games.find (sampleId 10)).getD (newGameRow sampleAllocation)

end Sample

end CluChess
