import CluChess.WireProtocol
import CluChess.RealtimeCommands

/-! The errors of the repositories as they reach a client: each has a message within the limits of
the protocol, and a version that the protocol can carry. -/
namespace CluChess

/-- An error whose message and version pass the schemas of the protocol. -/
structure GameServiceError.Plain (e : GameServiceError) : Prop where
  message : isText 1 256 e.message = true
  version : ∀ v ∈ e.authoritativeVersion, isNonnegativeInt v = true

/-- The same for the rejection of a transaction. -/
structure Rejection.Plain (r : Rejection) : Prop where
  message : isText 1 256 r.message = true
  version : ∀ v ∈ r.authoritativeVersion, isNonnegativeInt v = true

/-- The `INTEGER` columns of the games hold what is stored in them. -/
def Db.Fits (db : Db) : Prop := ∀ id g, db.games.find id = some g → g.integersFit

/-- All the errors of a call that come from a service are plain. -/
def PlainErrors {α : Type} (answer : Except RepositoryError α) : Prop :=
  ∀ e, answer = .error (.service e) → e.Plain

section Errors

theorem gameServiceError_plain {code : GameServiceErrorCode} {message : String} {retryable : Bool}
    {version : Option ℕ} (hmessage : isText 1 256 message = true)
    (hversion : ∀ v ∈ version, isNonnegativeInt v = true) :
    (gameServiceError code message retryable version).Plain := ⟨hmessage,hversion⟩

theorem Rejection.Plain.moveError {r : Rejection} (h : r.Plain) : (moveError r).Plain :=
  ⟨h.message,h.version⟩

/-- A version, or the one after it, is far below the integers that the protocol cannot carry. -/
theorem PersistedGame.integersFit.version {g : PersistedGame} (h : g.integersFit) {v : ℕ}
    (hv : v ≤ g.version + 1) : isNonnegativeInt v = true := by
  have hle : (g.version : ℤ) ≤ 2147483647 := h.1.2
  simp only [isNonnegativeInt,isSafeInteger,Bool.and_eq_true,decide_eq_true_eq]
  omega

theorem jsLength_append (s t : String) : jsLength (s ++ t) = jsLength s + jsLength t := by
  simp [jsLength]

theorem jsLength_square {s : String} (h : isSquare s = true) : jsLength s = 2 := by
  unfold isSquare at h
  split at h
  · rename_i a b hs
    obtain ⟨ha,hb⟩ := Bool.and_eq_true_iff.mp h
    simp [jsLength,hs,utf16Units_square (Or.inl ha),utf16Units_square (Or.inr (Or.inl hb))]
  · cases h

/-- The text of an illegal move names two squares and a piece at most. -/
theorem illegalMove_message {chess : ChessJs} {position : chess.Position} {proposal : MoveInput}
    {plyNumber : ℕ} {fenBefore : String} {e : ChessEngineError}
    (h : chess.applyProposal position proposal plyNumber fenBefore = .error e) :
    isText 1 256 e.message = true := by
  unfold ChessJs.applyProposal at h
  split_ifs at h with hsquare hpromotion
  · cases h
    decide
  · cases h
    decide
  · simp only at h
    split at h
    · cases h
      simp only [not_or,Bool.not_eq_false] at hsquare
      have hpiece : jsLength ((proposal.promotion.map PromotionPiece.toText).getD "") ≤ 1 := by
        cases proposal.promotion with
        | none => decide
        | some piece => cases piece <;> decide
      have hbefore : jsLength "The move " = 9 := by decide
      have hafter : jsLength " is not legal in the current position." = 38 := by decide
      simp only [illegalMove,isText,uciText,jsLength_append,jsLength_square hsquare.1,
        jsLength_square hsquare.2,hbefore,hafter,Bool.and_eq_true,decide_eq_true_eq]
      omega
    · cases h

theorem replayMoves_code {chess : ChessJs} {history : List String} {position : chess.Position}
    {index : ℕ} {e : ChessEngineError} (h : chess.replayMoves position index history = .error e) :
    e.code ≠ .illegalMove := by
  induction history generalizing position index with
  | nil => cases h
  | cons uci history ih =>
    rw [ChessJs.replayMoves] at h
    split at h
    · cases h
      exact ChessEngineErrorCode.noConfusion
    · split at h
      · cases h
        exact ChessEngineErrorCode.noConfusion
      · exact ih h

theorem replayHistory_code {chess : ChessJs} {initialFen : String} {history : List String}
    {e : ChessEngineError} (h : chess.replayHistory initialFen history = .error e) :
    e.code ≠ .illegalMove := by
  unfold ChessJs.replayHistory at h
  cases hposition : chess.createPosition initialFen with
  | error e' =>
    rw [hposition] at h
    cases h
    unfold ChessJs.createPosition at hposition
    split at hposition
    · cases hposition
      exact ChessEngineErrorCode.noConfusion
    · split at hposition
      · cases hposition
        exact ChessEngineErrorCode.noConfusion
      · cases hposition
  | ok position =>
    rw [hposition] at h
    exact replayMoves_code h

/-- Only the message of an illegal move is passed on. -/
theorem evaluateMove_message {chess : ChessJs} {input : EvaluateMoveInput} {e : ChessEngineError}
    (h : chess.evaluateMove input = .error e) (hcode : e.code = .illegalMove) :
    isText 1 256 e.message = true := by
  unfold ChessJs.evaluateMove at h
  cases hreplay : chess.replayHistory input.initialFen input.history with
  | error e' =>
    rw [hreplay] at h
    cases h
    exact absurd hcode (replayHistory_code hreplay)
  | ok position =>
    rw [hreplay] at h
    simp only [bind,Except.bind] at h
    split_ifs at h
    · cases h
      cases hcode
    · split at h
      · rename_i e' happly
        cases h
        exact illegalMove_message happly
      · cases h

end Errors

section Repositories

variable {db : Db}

theorem answered_plain {α β : Type} {work : Except DatabaseErrorKind (α × Db)}
    {answer : α → Except GameServiceError β}
    (h : ∀ r db', work = .ok (r,db') → ∀ e, answer r = .error e → e.Plain) :
    PlainErrors (Db.answered (db.transaction work) answer).1 := by
  intro e he
  unfold Db.answered Db.transaction at he
  cases hwork : work with
  | error kind =>
    rw [hwork] at he
    cases he
  | ok result =>
    obtain ⟨r,db'⟩ := result
    rw [hwork] at he
    simp only at he
    cases hanswer : answer r with
    | ok b =>
      rw [hanswer] at he
      cases he
    | error e' =>
      rw [hanswer] at he
      cases he
      exact h r db' hwork e hanswer

theorem mapPlayer_plain {gameId : GameId} {player : GamePlayer} {e : GameServiceError}
    (h : mapPlayer gameId player = .error e) : e.Plain := by
  unfold mapPlayer at h
  split_ifs at h
  cases h
  exact gameServiceError_plain (by decide) (by simp)

theorem mapAllocation_plain {g : PersistedGame} {e : GameServiceError}
    (h : mapAllocation g = .error e) : e.Plain := by
  have hplayers : ∀ players : List GamePlayer, ∀ e', players.mapM (mapPlayer g.id) = .error e' →
      e'.Plain := by
    intro players
    induction players with
    | nil => exact fun _ h => by cases h
    | cons player players ih =>
      intro e' h
      rw [List.mapM_cons] at h
      cases hplayer : mapPlayer g.id player with
      | error e'' =>
        rw [hplayer] at h
        cases h
        exact mapPlayer_plain hplayer
      | ok record =>
        rw [hplayer] at h
        cases hrest : players.mapM (mapPlayer g.id) with
        | error e'' =>
          simp only [hrest,bind,Except.bind] at h
          cases h
          exact ih _ hrest
        | ok records =>
          simp only [hrest,bind,Except.bind] at h
          cases h
  unfold mapAllocation at h
  cases hmap : g.players.mapM (mapPlayer g.id) with
  | error e' =>
    simp only [hmap,bind,Except.bind] at h
    cases h
    exact hplayers _ _ hmap
  | ok records =>
    simp only [hmap,bind,Except.bind] at h
    split at h
    · cases h
    · cases h
      exact gameServiceError_plain (by decide) (by simp)

theorem allocationAnswer_plain {r : AllocationTransactionResult} {e : GameServiceError}
    (h : Db.allocationAnswer r = .error e) : e.Plain := by
  cases r with
  | allocated allocation => exact mapAllocation_plain h
  | conflict =>
    cases h
    exact gameServiceError_plain (by decide) (by simp)
  | ineligible =>
    cases h
    exact gameServiceError_plain (by decide) (by simp)
  | mismatch =>
    cases h
    exact gameServiceError_plain (by decide) (by simp)

theorem allocate_plain (input : AllocateGame) : PlainErrors (db.allocate input).1 := by
  unfold Db.allocate
  split_ifs
  · intro e he
    cases he
    exact gameServiceError_plain (by decide) (by simp)
  · exact answered_plain fun _ _ _ _ he => allocationAnswer_plain he

theorem readyAnswer_plain {r : ReadyTransactionResult}
    (hversion : ∀ v, r = .stale v → isNonnegativeInt v = true) {e : GameServiceError}
    (h : Db.readyAnswer r = .error e) : e.Plain := by
  cases r with
  | ready allocation => exact mapAllocation_plain h
  | missing =>
    cases h
    exact gameServiceError_plain (by decide) (by simp)
  | notPlayer =>
    cases h
    exact gameServiceError_plain (by decide) (by simp)
  | stale version =>
    cases h
    exact gameServiceError_plain (by decide) (by simpa using hversion version rfl)
  | unavailable =>
    cases h
    exact gameServiceError_plain (by decide) (by simp)

theorem readyAllocation_ne_stale (db : Db) (id : GameId) (v : ℕ) :
    db.readyAllocation id ≠ .stale v := by
  unfold Db.readyAllocation
  split <;> simp

/-- The version of a stale report is the one that the transaction has read. -/
theorem markReadyInTransaction_stale {input : MarkGameReady} {v : ℕ} {db' : Db}
    (h : db.markReadyInTransaction input = .ok (.stale v,db')) :
    ∃ g, db.games.find input.gameId = some g ∧ v = g.version := by
  unfold Db.markReadyInTransaction at h
  cases hg : db.games.find input.gameId with
  | none =>
    simp only [hg] at h
    cases h
  | some g =>
    simp only [hg] at h
    cases hp : g.playerFor input.guestSessionId with
    | none =>
      simp only [hp] at h
      cases h
    | some player =>
      simp only [hp] at h
      split_ifs at h with hstale hun
      · cases h
        exact ⟨g,rfl,rfl⟩
      · cases h
      · obtain ⟨db₁,_,h⟩ := bind_eq_ok.mp h
        split_ifs at h with hcount
        · obtain ⟨⟨version,db₂⟩,_,h⟩ := bind_eq_ok.mp h
          cases version with
          | none =>
            obtain ⟨_,hr,_⟩ := Db.commit_ok h
            cases hr
            exact ⟨g,rfl,rfl⟩
          | some version =>
            obtain ⟨_,hr,_⟩ := Db.commit_ok h
            exact absurd hr.symm (readyAllocation_ne_stale _ _ _)
        · obtain ⟨_,hr,_⟩ := Db.commit_ok h
          exact absurd hr.symm (readyAllocation_ne_stale _ _ _)

theorem markReady_plain (hfits : db.Fits) (input : MarkGameReady) :
    PlainErrors (db.markReady input).1 := by
  refine answered_plain fun r db' h e he => readyAnswer_plain (fun v hv => ?_) he
  subst hv
  obtain ⟨g,hg,rfl⟩ := markReadyInTransaction_stale h
  exact (hfits _ g hg).version (Nat.le_succ _)

/-- A start under the row lock is never stale. -/
theorem startIfReady_plain (gameId : GameId) (observation : Micros) :
    PlainErrors (db.startIfReady gameId observation).1 := by
  refine answered_plain fun r db' h e he => ?_
  cases r with
  | found allocation started =>
    cases hmap : mapAllocation allocation with
    | error e' =>
      simp only [Db.startAnswer,hmap] at he
      cases he
      exact mapAllocation_plain hmap
    | ok allocation =>
      simp only [Db.startAnswer,hmap] at he
      cases he
  | missing =>
    cases he
    exact gameServiceError_plain (by decide) (by simp)
  | stale version =>
    obtain ⟨locked,hl,h⟩ := bind_eq_ok.mp h
    rcases lockGameClock_ok hl with ⟨hg,rfl⟩ | ⟨g,hg,rfl⟩
    · cases h
    · simp only at h
      split_ifs at h with hs
      · obtain ⟨⟨version,db₁⟩,hv,h⟩ := bind_eq_ok.mp h
        obtain ⟨rfl,_⟩ := Db.updateGameAtVersion_ok (g := g) hg hv
        cases hfind : db₁.games.find gameId with
        | none =>
          simp only [hfind] at h
          cases h
        | some allocation =>
          simp only [hfind] at h
          obtain ⟨_,hr,_⟩ := Db.commit_ok h
          cases hr
      · simp only [hg] at h
        cases h

theorem rejected_plain {code : GameServiceErrorCode} {message : String} {retryable : Bool}
    {version : Option ℕ} (hmessage : isText 1 256 message = true)
    (hversion : ∀ v ∈ version, isNonnegativeInt v = true) :
    (rejected code message retryable version).Plain := ⟨hmessage,hversion⟩

/-- A rejection or a version that can be shown. -/
def MoveTransactionResult.Plain : MoveTransactionResult → Prop
  | .accepted _ => True
  | .rejected rejection => rejection.Plain
  | .staleWrite version => isNonnegativeInt version = true

def ResignTransactionResult.Plain : ResignTransactionResult → Prop
  | .accepted _ => True
  | .rejected rejection => rejection.Plain

theorem moveAnswer_plain {r : MoveTransactionResult} (hr : r.Plain) {e : GameServiceError}
    (h : Db.moveAnswer r = .error e) : e.Plain := by
  cases r with
  | accepted submission => cases h
  | rejected rejection =>
    cases h
    exact hr.moveError
  | staleWrite version =>
    cases h
    exact (rejected_plain (by decide) (by simpa [MoveTransactionResult.Plain] using hr)).moveError

theorem resignAnswer_plain {r : ResignTransactionResult} (hr : r.Plain) {e : GameServiceError}
    (h : Db.resignAnswer r = .error e) : e.Plain := by
  cases r with
  | accepted submission => cases h
  | rejected rejection =>
    cases h
    exact ⟨hr.message,hr.version⟩

theorem replayResult_plain (command : GameCommand) (input : SubmitMove) :
    (replayResult command input).Plain := by
  unfold replayResult
  split_ifs
  · exact rejected_plain (by decide) (by simp)
  · split
    · exact rejected_plain (by decide) (by simp)
    · trivial

theorem replayResignation_plain (command : GameCommand) (input : ResignGame) :
    (replayResignation command input).Plain := by
  unfold replayResignation
  split_ifs
  · exact rejected_plain (by decide) (by simp)
  · split
    · exact rejected_plain (by decide) (by simp)
    · trivial

section Submit

variable {chess : ChessJs}

theorem admitMove_plain {game : PersistedGame} {player : GamePlayer} {input : SubmitMove}
    {observedAt : Millis} {rejection : Rejection} (hfits : game.integersFit)
    (h : admitMove chess.engine game player input observedAt = .error rejection) :
    rejection.Plain := by
  have hversion : ∀ v ∈ some game.version, isNonnegativeInt v = true := by
    simpa using hfits.version (Nat.le_succ _)
  simp only [admitMove] at h
  split_ifs at h
  · cases h
    exact rejected_plain (by decide) hversion
  · cases h
    exact rejected_plain (by decide) hversion
  · cases h
    exact rejected_plain (by decide) hversion
  · cases h
    exact rejected_plain (by decide) hversion
  · cases h
    exact rejected_plain (by decide) hversion
  · split at h
    · cases h
      exact rejected_plain (by decide) hversion
    · cases h
      exact rejected_plain (by decide) hversion
    · split at h
      · rename_i e hevaluate
        split_ifs at h with hcode
        · cases h
          exact rejected_plain (evaluateMove_message hevaluate hcode) hversion
        · cases h
          exact rejected_plain (by decide) hversion
      · split_ifs at h
        · cases h
          exact rejected_plain (by decide) hversion

theorem commitMove_plain {m : AdmittedMove} (hfits : m.game.integersFit) {r : MoveTransactionResult}
    {db' : Db} (h : db.commitMove m = .ok (r,db')) : r.Plain := by
  unfold Db.commitMove at h
  cases hguests : guestPair m.game with
  | none =>
    simp only [hguests] at h
    cases h
    exact rejected_plain (by decide) (by simpa using hfits.version (Nat.le_succ _))
  | some guests =>
    simp only [hguests] at h
    obtain ⟨⟨count,db₁⟩,_,h⟩ := bind_eq_ok.mp h
    split at h
    · cases h
      exact hfits.version (Nat.le_succ _)
    · obtain ⟨db₂,_,h⟩ := bind_eq_ok.mp h
      obtain ⟨db₃,_,h⟩ := bind_eq_ok.mp h
      obtain ⟨_,rfl,_⟩ := Db.commit_ok h
      trivial

theorem submitInTransaction_plain (hfits : db.Fits) {input : SubmitMove} {observation : Micros}
    {r : MoveTransactionResult} {db' : Db}
    (h : db.submitInTransaction chess.engine input observation = .ok (r,db')) : r.Plain := by
  obtain ⟨locked,hl,h⟩ := bind_eq_ok.mp h
  rcases lockGameClock_ok hl with ⟨hg,rfl⟩ | ⟨g,hg,rfl⟩
  · cases h
    exact rejected_plain (by decide) (by simp)
  have hfit := hfits _ g hg
  simp only [hg] at h
  cases hp : g.playerFor input.guestSessionId with
  | none =>
    simp only [hp] at h
    cases h
    exact rejected_plain (by decide) (by simpa using hfit.version (Nat.le_succ _))
  | some player =>
    simp only [hp] at h
    cases hc : g.command input.clientMoveId with
    | some c =>
      simp only [hc] at h
      cases h
      exact replayResult_plain c input
    | none =>
      simp only [hc] at h
      cases ha : admitMove chess.engine g player input (g.locked observation).observedAt with
      | error rejection =>
        simp only [ha] at h
        cases h
        exact admitMove_plain hfit ha
      | ok admitted =>
        obtain ⟨clock,evaluation⟩ := admitted
        simp only [ha] at h
        cases ht : terminalOutcome evaluation.gameOver with
        | error e =>
          simp only [ht] at h
          cases h
        | ok terminal =>
          simp only [ht] at h
          exact commitMove_plain hfit h

theorem submitMove_plain (hfits : db.Fits) (input : SubmitMove) (observation : Micros) :
    PlainErrors (db.submitMove chess.engine input observation).1 :=
  answered_plain fun _ _ h _ he => moveAnswer_plain (submitInTransaction_plain hfits h) he

end Submit

/-- What a read after a unique violation refuses. -/
theorem recoverMove_plain (input : SubmitMove) : PlainErrors (db.recoverMove input) := by
  intro e h
  unfold Db.recoverMove Db.findReplay at h
  cases hc : (db.games.find input.gameId).bind fun g => g.command input.clientMoveId with
  | none =>
    rw [hc] at h
    cases h
  | some c =>
    rw [hc] at h
    cases ha : Db.moveAnswer (replayResult c input) with
    | error e' =>
      simp only [ha,Except.map] at h
      cases h
      exact moveAnswer_plain (replayResult_plain c input) ha
    | ok submission =>
      simp only [ha,Except.map] at h
      cases h

theorem resignInTransaction_plain (hfits : db.Fits) {input : ResignGame} {observation : Micros}
    {r : ResignTransactionResult} {db' : Db}
    (h : db.resignInTransaction input observation = .ok (r,db')) : r.Plain := by
  obtain ⟨locked,hl,h⟩ := bind_eq_ok.mp h
  rcases lockGameClock_ok hl with ⟨hg,rfl⟩ | ⟨g,hg,rfl⟩
  · cases h
    exact rejected_plain (by decide) (by simp)
  have hfit := hfits _ g hg
  have hversion : ∀ v ∈ some g.version, isNonnegativeInt v = true := by
    simpa using hfit.version (Nat.le_succ _)
  simp only [hg] at h
  cases hp : g.playerFor input.guestSessionId with
  | none =>
    simp only [hp] at h
    cases h
    exact rejected_plain (by decide) hversion
  | some player =>
    simp only [hp] at h
    cases hc : g.command input.eventId with
    | some c =>
      simp only [hc] at h
      cases h
      exact replayResignation_plain c input
    | none =>
      simp only [hc] at h
      split_ifs at h
      · cases h
        exact rejected_plain (by decide) hversion
      · cases h
        exact rejected_plain (by decide) hversion
      · cases ho : deriveTerminalOutcome (.resignation player.color) with
        | error e =>
          simp only [ho] at h
          cases h
        | ok outcome =>
          simp only [ho] at h
          obtain ⟨⟨submission,db₁⟩,_,h⟩ := bind_eq_ok.mp h
          cases submission with
          | none =>
            cases h
            exact rejected_plain (by decide) (by simpa using hfit.version (Nat.le_refl _))
          | some submission =>
            obtain ⟨db₂,_,h⟩ := bind_eq_ok.mp h
            obtain ⟨_,rfl,_⟩ := Db.commit_ok h
            trivial

theorem resign_plain (hfits : db.Fits) (input : ResignGame) (observation : Micros) :
    PlainErrors (db.resign input observation).1 :=
  answered_plain fun _ _ h _ he => resignAnswer_plain (resignInTransaction_plain hfits h) he

theorem recoverResignation_plain (input : ResignGame) :
    PlainErrors (db.recoverResignation input) := by
  intro e h
  unfold Db.recoverResignation Db.findResignReplay at h
  cases hc : (db.games.find input.gameId).bind fun g => g.command input.eventId with
  | none =>
    rw [hc] at h
    cases h
  | some c =>
    rw [hc] at h
    cases ha : Db.resignAnswer (replayResignation c input) with
    | error e' =>
      simp only [ha,Except.map] at h
      cases h
      exact resignAnswer_plain (replayResignation_plain c input) ha
    | ok submission =>
      simp only [ha,Except.map] at h
      cases h

theorem findById_plain {gameId : GameId} {e : GameServiceError}
    (h : db.findById gameId = .error e) : e.Plain := by
  unfold Db.findById at h
  cases hg : db.games.find gameId with
  | none =>
    rw [hg] at h
    cases h
  | some g =>
    rw [hg] at h
    cases hmap : mapAllocation g with
    | error e' =>
      simp only [hmap,Except.map] at h
      cases h
      exact mapAllocation_plain hmap
    | ok allocation =>
      simp only [hmap,Except.map] at h
      cases h

theorem findByMatchId_plain {matchId : MatchId} {e : GameServiceError}
    (h : db.findByMatchId matchId = .error e) : e.Plain := by
  unfold Db.findByMatchId at h
  split at h
  · cases h
  · rename_i g _
    cases hmap : mapAllocation g with
    | error e' =>
      rw [hmap] at h
      cases h
      exact mapAllocation_plain hmap
    | ok allocation =>
      rw [hmap] at h
      cases h

theorem authorize_plain {gameId : GameId} {guest : GuestSessionId} {e : GameServiceError}
    (h : db.authorize gameId guest = .error e) : e.Plain := by
  unfold Db.authorize at h
  cases hfind : db.findById gameId with
  | error e' =>
    simp only [hfind,bind,Except.bind] at h
    cases h
    exact findById_plain hfind
  | ok found =>
    simp only [hfind,bind,Except.bind] at h
    cases found with
    | none =>
      cases h
      exact gameServiceError_plain (by decide) (by simp)
    | some allocation =>
      simp only at h
      split_ifs at h
      cases h
      exact gameServiceError_plain (by decide) (by simp)

theorem findSnapshot_plain {gameId : GameId} {observation : Micros} {e : GameServiceError}
    (h : db.findSnapshot gameId observation = .error e) : e.Plain := by
  unfold Db.findSnapshot Db.mapSnapshot at h
  cases hg : db.games.find gameId with
  | none =>
    rw [hg] at h
    cases h
  | some g =>
    rw [hg] at h
    cases hmap : mapAllocation g with
    | error e' =>
      simp only [hmap,Except.map] at h
      cases h
      exact mapAllocation_plain hmap
    | ok allocation =>
      simp only [hmap,Except.map] at h
      cases h

theorem snapshot_plain {gameId : GameId} {guest : GuestSessionId} {observation : Micros}
    {e : GameServiceError} (h : db.snapshot gameId guest observation = .error e) : e.Plain := by
  unfold Db.snapshot at h
  cases hfind : db.findSnapshot gameId observation with
  | error e' =>
    simp only [hfind,bind,Except.bind] at h
    cases h
    exact findSnapshot_plain hfind
  | ok found =>
    simp only [hfind,bind,Except.bind] at h
    cases found with
    | none =>
      cases h
      exact gameServiceError_plain (by decide) (by simp)
    | some snapshot =>
      simp only at h
      split_ifs at h
      · split at h
        · cases h
          exact gameServiceError_plain (by decide) (by simp)
        · cases h
      · cases h
        exact gameServiceError_plain (by decide) (by simp)

theorem namedSnapshot_plain (gameId : GameId) (guest : GuestSessionId) (observation : Micros) :
    PlainErrors (db.namedSnapshot gameId guest observation) := by
  intro e h
  unfold Db.namedSnapshot at h
  cases hsnapshot : db.snapshot gameId guest observation with
  | error e' =>
    simp only [hsnapshot] at h
    cases h
    exact snapshot_plain hsnapshot
  | ok view =>
    simp only [hsnapshot] at h
    split at h <;> cases h

theorem cachedSnapshot_plain (cached : Option CachedGameSnapshot) (gameId : GameId)
    (guest : GuestSessionId) : PlainErrors (db.cachedSnapshot cached gameId guest) := by
  intro e h
  unfold Db.cachedSnapshot at h
  cases cached with
  | none => cases h
  | some cached =>
    simp only at h
    split_ifs at h
    · cases hauthorize : db.authorize gameId guest with
      | error e' =>
        simp only [hauthorize] at h
        cases h
        exact authorize_plain hauthorize
      | ok allocation =>
        simp only [hauthorize] at h
        split_ifs at h

end Repositories

end CluChess
