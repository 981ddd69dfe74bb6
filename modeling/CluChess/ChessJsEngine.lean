import CluChess.GameplayRepository

/-! `chessjs.engine.ts`: the engine of the game over `chess.js`. The library is a parameter:
`ChessJs` lists the calls the engine makes, `ChessJs.Rules` what it relies on. -/
namespace CluChess

structure ChessMove where
  capture : Bool
  color : PlayerColor
  enPassant : Bool
  promotion : Option String
  san : String
  source : String
  target : String
  deriving DecidableEq, Repr

/-- The calls on `chess.js`. A position is the whole state of a `Chess` object, with the moves
played on it. A constructor or a move that throws gives `none`. -/
structure ChessJs where
  Position : Type
  defaultPosition : String
  validateFen : String → Except (Option String) Unit
  load : String → Option Position
  fen : Position → String
  turn : Position → PlayerColor
  pawnAt : Position → String → Bool
  move : Position → String → Option String → String → Option (Position × ChessMove)
  isCheck : Position → Bool
  isCheckmate : Position → Bool
  isStalemate : Position → Bool
  isInsufficientMaterial : Position → Bool
  isThreefoldRepetition : Position → Bool
  isDrawByFiftyMoves : Position → Bool
  /-- `setHeader('Result', result)` and then `pgn()`. -/
  pgn : Position → String → String

/-- What the engine relies on. A legal move is determined by the two squares and the promotion,
which the move returns; it is made by the side to move, and the other side moves next. -/
structure ChessJs.Rules (chess : ChessJs) : Prop where
  start : ∃ p, chess.validateFen chess.defaultPosition = .ok () ∧
    chess.load chess.defaultPosition = some p ∧ chess.fen p = chess.defaultPosition ∧
    chess.turn p = .w
  components : ∀ {p source promotion target p' m},
    chess.move p source promotion target = some (p',m) →
      m.source = source ∧ m.target = target ∧ (m.promotion = none ∨ m.promotion = promotion) ∧
      chess.move p m.source m.promotion m.target = some (p',m)
  alternates : ∀ {p source promotion target p' m},
    chess.move p source promotion target = some (p',m) →
      m.color = chess.turn p ∧ chess.turn p' = oppositeColor m.color
  fenText : ∀ p, chess.fen p ≠ ""
  sanText : ∀ {p source promotion target p' m},
    chess.move p source promotion target = some (p',m) → m.san ≠ ""

def PromotionPiece.toText : PromotionPiece → String
  | .b => "b"
  | .n => "n"
  | .q => "q"
  | .r => "r"

def isSquare (s : String) : Bool :=
  match s.toList with
  | [a,b] => isFile a && isRank b
  | _ => false

/-- `s.slice(start, stop)` of a text without surrogates. -/
def slice (s : String) (start stop : ℕ) : String :=
  String.ofList ((s.toList.take stop).drop start)

def uciText (source target : String) (promotion : Option String) : String :=
  source ++ target ++ promotion.getD ""

def illegalMove (message : String) : ChessEngineError := ⟨.illegalMove,message⟩

def gameStateCorrupt (message : String) : ChessEngineError := ⟨.gameStateCorrupt,message⟩

def invalidInitialPosition (message : String) : ChessEngineError :=
  ⟨.invalidInitialPosition,message⟩

namespace ChessJs

variable (chess : ChessJs)

def createPosition (initialFen : String) : Except ChessEngineError chess.Position :=
  match chess.validateFen initialFen with
  | .error error => .error (invalidInitialPosition
      ("The configured initial chess position is invalid: " ++ error.getD "unknown FEN error" ++
        "."))
  | .ok () =>
    match chess.load initialFen with
    | none => .error (invalidInitialPosition "The configured initial chess position is invalid.")
    | some position => .ok position

/-- The loop of `replayHistory` from the move at `index`. -/
def replayMoves (position : chess.Position) (index : ℕ) :
    List String → Except ChessEngineError chess.Position
  | [] => .ok position
  | uci :: history =>
    if isUci uci = false then
      .error (gameStateCorrupt ("Persisted move " ++ toString (index + 1) ++ " is not valid UCI."))
    else
      match chess.move position (slice uci 0 2)
          (if uci.length = 5 then some (slice uci 4 uci.length) else none) (slice uci 2 4) with
      | none => .error (gameStateCorrupt ("Persisted move " ++ toString (index + 1) ++
          " is illegal for its replayed position."))
      | some (position,_) => replayMoves position (index + 1) history

def replayHistory (initialFen : String) (history : List String) :
    Except ChessEngineError chess.Position := do
  chess.replayMoves (← chess.createPosition initialFen) 0 history

def getGameOver (position : chess.Position) : GameOver :=
  if chess.isCheckmate position then .over .checkmate (some (oppositeColor (chess.turn position)))
  else if chess.isStalemate position then .over .stalemate none
  else if chess.isInsufficientMaterial position then .over .insufficientMaterial none
  else if chess.isThreefoldRepetition position then .over .threefoldRepetition none
  else if chess.isDrawByFiftyMoves position then .over .fiftyMove none
  else .ongoing

def resultHeader : GameOver → String
  | .ongoing => "*"
  | .over _ none => "1/2-1/2"
  | .over _ (some .w) => "1-0"
  | .over _ (some .b) => "0-1"

def getPgn (position : chess.Position) (gameOver : GameOver) : String :=
  chess.pgn position (resultHeader gameOver)

/-- `applyProposal`, with the position after the move; `fenBefore` is filled in by the caller. -/
def applyProposal (position : chess.Position) (proposal : MoveInput) (plyNumber : ℕ)
    (fenBefore : String) : Except ChessEngineError (chess.Position × AppliedMove) :=
  if isSquare proposal.source = false ∨ isSquare proposal.target = false then
    .error (illegalMove "The move must contain valid board squares.")
  else if proposal.promotion ≠ none ∧ (chess.pawnAt position proposal.source = false ∨
      slice proposal.target 1 2 ∉ ["1","8"]) then
    .error (illegalMove "A promotion piece is only valid for a pawn reaching the back rank.")
  else
    let promotion := proposal.promotion.map PromotionPiece.toText
    match chess.move position proposal.source promotion proposal.target with
    | none => .error (illegalMove
        ("The move " ++ uciText proposal.source proposal.target promotion ++
          " is not legal in the current position."))
    | some (position,move) => .ok (position,{
        capture := move.capture || move.enPassant
        check := chess.isCheck position
        color := move.color
        fenAfter := chess.fen position
        fenBefore := fenBefore
        plyNumber := plyNumber
        san := move.san
        uci := uciText move.source move.target move.promotion })

def replay (initialFen : String) (history : List String) :
    Except ChessEngineError ReplayedPosition := do
  let position ← chess.replayHistory initialFen history
  let gameOver := chess.getGameOver position
  .ok {
    fen := chess.fen position
    gameOver := gameOver
    pgn := chess.getPgn position gameOver
    plyCount := history.length
    turn := chess.turn position }

def evaluateMove (input : EvaluateMoveInput) : Except ChessEngineError MoveEvaluation := do
  let position ← chess.replayHistory input.initialFen input.history
  let replayedFen := chess.fen position
  if replayedFen ≠ input.expectedCurrentFen then
    .error (gameStateCorrupt
      "The replayed chess position does not match the persisted current position.")
  else
    let (position,applied) ←
      chess.applyProposal position input.move (input.history.length + 1) replayedFen
    let gameOver := chess.getGameOver position
    .ok ⟨applied,gameOver,chess.getPgn position gameOver⟩

def engine : ChessEngine where
  evaluateMove := chess.evaluateMove
  newGame := chess.replay chess.defaultPosition []
  replay := chess.replay

section Uci

/-! The text of a move that was made, and the components that the replay reads from it. -/

theorem isSquare_chars {s : String} (h : isSquare s = true) :
    ∃ a b, s.toList = [a,b] ∧ isFile a = true ∧ isRank b = true := by
  unfold isSquare at h
  split at h
  · rename_i a b hs
    exact ⟨a,b,hs,by simpa using h⟩
  · cases h

theorem slice_eq {s t : String} {start stop : ℕ} (h : (s.toList.take stop).drop start = t.toList) :
    slice s start stop = t := by
  unfold slice
  rw [h,String.ofList_toList]

theorem uciText_parts {source target : String} {promotion : Option String}
    (hs : isSquare source = true) (ht : isSquare target = true)
    (hp : promotion = none ∨ ∃ piece : PromotionPiece, promotion = some piece.toText) :
    isUci (uciText source target promotion) = true ∧
      slice (uciText source target promotion) 0 2 = source ∧
      slice (uciText source target promotion) 2 4 = target ∧
      (if (uciText source target promotion).length = 5 then
        some (slice (uciText source target promotion) 4 (uciText source target promotion).length)
        else none) = promotion := by
  obtain ⟨a,b,hab,ha,hb⟩ := isSquare_chars hs
  obtain ⟨c,d,hcd,hc,hd⟩ := isSquare_chars ht
  rcases hp with rfl | ⟨piece,rfl⟩
  · have hlist : (uciText source target none).toList = [a,b,c,d] := by simp [uciText,hab,hcd]
    have hlength : (uciText source target none).length = 4 := by
      rw [← String.length_toList,hlist]
      rfl
    refine ⟨?_,slice_eq (by rw [hlist,hab]; rfl),slice_eq (by rw [hlist,hcd]; rfl),?_⟩
    · simp [isUci,hlist,ha,hb,hc,hd]
    · rw [hlength]
      rfl
  · obtain ⟨e,he,hmem⟩ : ∃ e, piece.toText.toList = [e] ∧ e ∈ ['b','n','q','r'] := by
      cases piece with
      | b => exact ⟨'b',rfl,by decide⟩
      | n => exact ⟨'n',rfl,by decide⟩
      | q => exact ⟨'q',rfl,by decide⟩
      | r => exact ⟨'r',rfl,by decide⟩
    have hlist : (uciText source target (some piece.toText)).toList = [a,b,c,d,e] := by
      simp [uciText,hab,hcd,he]
    have hlength : (uciText source target (some piece.toText)).length = 5 := by
      rw [← String.length_toList,hlist]
      rfl
    refine ⟨?_,slice_eq (by rw [hlist,hab]; rfl),slice_eq (by rw [hlist,hcd]; rfl),?_⟩
    · simp only [isUci,hlist,ha,hb,hc,hd,Bool.true_and,decide_eq_true_eq]
      exact hmem
    · rw [hlength,if_pos rfl]
      exact congrArg some (slice_eq (by rw [hlist,he]; rfl))

end Uci

section Replay

variable {chess} {position : chess.Position}

theorem replayMoves_append (history : List String) (uci : String) (index : ℕ) :
    chess.replayMoves position index (history ++ [uci]) =
      (chess.replayMoves position index history).bind fun position =>
        chess.replayMoves position (index + history.length) [uci] := by
  induction history generalizing position index with
  | nil => rfl
  | cons first history ih =>
    simp only [List.cons_append,replayMoves]
    by_cases huci : isUci first = false
    · simp only [if_pos huci]
      rfl
    · simp only [if_neg huci]
      cases chess.move position (slice first 0 2)
          (if first.length = 5 then some (slice first 4 first.length) else none)
          (slice first 2 4) with
      | none => rfl
      | some moved =>
        rw [List.length_cons,Nat.add_comm history.length,← Nat.add_assoc]
        exact ih (index + 1)

theorem replayHistory_append {initialFen uci : String} {history : List String}
    (h : chess.replayHistory initialFen history = .ok position) :
    chess.replayHistory initialFen (history ++ [uci]) =
      chess.replayMoves position history.length [uci] := by
  obtain ⟨first,hc,hm⟩ := bind_eq_ok.mp h
  unfold replayHistory
  rw [hc]
  show chess.replayMoves first 0 (history ++ [uci]) = _
  rw [replayMoves_append,hm,Nat.zero_add]
  rfl

/-- A proposal that is applied made a legal move, whose text the replay reads as that move. -/
theorem applyProposal_ok (rules : chess.Rules) {proposal : MoveInput} {plyNumber : ℕ}
    {fenBefore : String} {after : chess.Position} {applied : AppliedMove} (index : ℕ)
    (h : chess.applyProposal position proposal plyNumber fenBefore = .ok (after,applied)) :
    applied.fenBefore = fenBefore ∧ applied.fenAfter = chess.fen after ∧
      applied.plyNumber = plyNumber ∧ applied.color = chess.turn position ∧
      chess.turn after = oppositeColor applied.color ∧ applied.san ≠ "" ∧
      isUci applied.uci = true ∧
      chess.replayMoves position index [applied.uci] = .ok after := by
  unfold applyProposal at h
  split_ifs at h with hsquare hpromotion
  simp only at h
  split at h
  · cases h
  · rename_i after' move hmove
    cases h
    obtain ⟨hsource,htarget,hpiece,hagain⟩ := rules.components hmove
    obtain ⟨hcolor,hturn⟩ := rules.alternates hmove
    have hs : isSquare move.source = true := by
      rw [hsource]
      exact Bool.not_eq_false _ ▸ fun he => hsquare (Or.inl he)
    have ht : isSquare move.target = true := by
      rw [htarget]
      exact Bool.not_eq_false _ ▸ fun he => hsquare (Or.inr he)
    have hp : move.promotion = none ∨ ∃ piece : PromotionPiece,
        move.promotion = some piece.toText := by
      rcases hpiece with hnone | hsame
      · exact Or.inl hnone
      · rw [hsame]
        cases proposal.promotion with
        | none => exact Or.inl rfl
        | some piece => exact Or.inr ⟨piece,rfl⟩
    obtain ⟨huci,hfirst,hsecond,hthird⟩ := uciText_parts hs ht hp
    refine ⟨rfl,rfl,rfl,hcolor,hturn,rules.sanText hmove,huci,?_⟩
    simp only [replayMoves,huci,Bool.true_eq_false,if_false,hfirst,hsecond,hthird,hagain]

/-- What an evaluation that succeeds has replayed and applied. -/
structure Evaluated (chess : ChessJs) (input : EvaluateMoveInput) (evaluation : MoveEvaluation)
    (before after : chess.Position) : Prop where
  replayed : chess.replayHistory input.initialFen input.history = .ok before
  extended : chess.replayHistory input.initialFen (input.history ++ [evaluation.applied.uci]) =
    .ok after
  current : chess.fen before = input.expectedCurrentFen
  fenBefore : evaluation.applied.fenBefore = input.expectedCurrentFen
  fenAfter : evaluation.applied.fenAfter = chess.fen after
  ply : evaluation.applied.plyNumber = input.history.length + 1
  color : evaluation.applied.color = chess.turn before
  turn : chess.turn after = oppositeColor evaluation.applied.color
  san : evaluation.applied.san ≠ ""
  uci : isUci evaluation.applied.uci = true
  gameOver : evaluation.gameOver = chess.getGameOver after
  pgn : evaluation.pgn = chess.getPgn after evaluation.gameOver

theorem evaluateMove_ok (rules : chess.Rules) {input : EvaluateMoveInput}
    {evaluation : MoveEvaluation} (h : chess.evaluateMove input = .ok evaluation) :
    ∃ before after, chess.Evaluated input evaluation before after := by
  obtain ⟨before,hbefore,h⟩ := bind_eq_ok.mp h
  simp only at h
  split_ifs at h with hfen
  have hfen : chess.fen before = input.expectedCurrentFen := not_not.mp hfen
  obtain ⟨⟨after,applied⟩,happly,h⟩ := bind_eq_ok.mp h
  cases h
  obtain ⟨hb,ha,hply,hcolor,hturn,hsan,huci,hreplay⟩ :=
    applyProposal_ok rules input.history.length happly
  have hextended : chess.replayHistory input.initialFen (input.history ++ [applied.uci]) =
      .ok after := (replayHistory_append hbefore).trans hreplay
  exact ⟨before,after,hbefore,hextended,hfen,hb.trans hfen,ha,hply,hcolor,hturn,hsan,huci,rfl,rfl⟩

theorem evaluateMove_san {input : EvaluateMoveInput} {evaluation : MoveEvaluation}
    (h : chess.evaluateMove input = .ok evaluation) : ∃ p source promotion target p' m,
      chess.move p source promotion target = some (p',m) ∧ evaluation.applied.san = m.san := by
  obtain ⟨before,_,h⟩ := bind_eq_ok.mp h
  simp only at h
  split_ifs at h
  obtain ⟨⟨after,applied⟩,happly,h⟩ := bind_eq_ok.mp h
  cases h
  unfold applyProposal at happly
  split_ifs at happly
  simp only at happly
  split at happly
  · cases happly
  · rename_i after' move hmove
    cases happly
    exact ⟨_,_,_,_,_,_,hmove,rfl⟩

theorem applyProposal_error {proposal : MoveInput} {plyNumber : ℕ} {fenBefore : String}
    {e : ChessEngineError}
    (h : chess.applyProposal position proposal plyNumber fenBefore = .error e) :
    e.code = .illegalMove := by
  unfold applyProposal at h
  split_ifs at h with hsquare hpromotion
  · cases h
    rfl
  · cases h
    rfl
  · simp only at h
    split at h
    · cases h
      rfl
    · cases h

/-- A move on the stored position is rejected only because it is illegal. -/
theorem evaluateMove_error {input : EvaluateMoveInput} {e : ChessEngineError}
    (hreplay : chess.replayHistory input.initialFen input.history = .ok position)
    (hfen : chess.fen position = input.expectedCurrentFen)
    (h : chess.evaluateMove input = .error e) : e.code = .illegalMove := by
  unfold evaluateMove at h
  rw [hreplay] at h
  simp only [bind,Except.bind,hfen,ne_eq,not_true_eq_false,if_false] at h
  split at h
  · rename_i e' happly
    cases h
    exact applyProposal_error happly
  · cases h

theorem newGame_ok (rules : chess.Rules) {initial : ReplayedPosition}
    (h : chess.engine.newGame = .ok initial) :
    ∃ position, chess.replayHistory initial.fen [] = .ok position ∧
      chess.fen position = initial.fen ∧ chess.turn position = .w := by
  obtain ⟨p,hvalid,hload,hfen,hturn⟩ := rules.start
  have hreplay : chess.replayHistory chess.defaultPosition [] = .ok p := by
    unfold replayHistory createPosition
    rw [hvalid,hload]
    rfl
  obtain ⟨position,hposition,h⟩ := bind_eq_ok.mp h
  obtain rfl : p = position := Except.ok.inj (hreplay.symm.trans hposition)
  cases h
  exact ⟨p,by rw [hfen]; exact hreplay,rfl,hturn⟩

end Replay

end ChessJs

end CluChess
