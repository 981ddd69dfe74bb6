import CluChess.MoveHistory
import CluChess.Rejections
import Mathlib.Data.List.Induction

/-! The clocks of a whole game. What a clock shows is the initial time with the increments of the
moves and without the turns of its player, however often players disconnect and reconnect. -/
namespace CluChess

section TurnTime

/-! Turns that begin one after the other. Turn `n` belongs to `owner n`, and lasts from one
instant of a list to the next. -/

variable {κ : Type*} [DecidableEq κ]

/-- The total duration of the turns of one owner, from turn `n`, which began at `start`. -/
def turnTime (owner : ℕ → κ) (k : κ) : ℕ → Millis → List Millis → ℤ
  | _,_,[] => 0
  | n,start,instant :: instants =>
    (if owner n = k then instant - start else 0) + turnTime owner k (n + 1) instant instants

@[simp] theorem turnTime_nil (owner : ℕ → κ) (k : κ) (n : ℕ) (start : Millis) :
    turnTime owner k n start [] = 0 := rfl

theorem turnTime_snoc (owner : ℕ → κ) (k : κ) (n : ℕ) (start : Millis) (instants : List Millis)
    (instant : Millis) : turnTime owner k n start (instants ++ [instant]) =
      turnTime owner k n start instants +
        if owner (n + instants.length) = k then instant - instants.getLastD start else 0 := by
  induction instants generalizing n start with
  | nil => simp [turnTime]
  | cons i is ih =>
    have hturn : n + 1 + is.length = n + (i :: is).length := by
      rw [List.length_cons]
      omega
    simp only [List.cons_append,turnTime,ih,hturn,List.getLastD_cons]
    omega

end TurnTime

section Ledger

def startInstant (id : GameId) (op : Operation) (answer : Answer) : Option Millis :=
  match op,answer with
  | .startIfReady gameId observation,.start (.ok result) =>
    if gameId = id ∧ result.started = true then some (truncatedToMillis observation) else none
  | .submitMove input observation,.move (.ok submission) =>
    if input.gameId = id ∧ submission.duplicate = false ∧ submission.started.isSome then
      some (truncatedToMillis observation)
    else none
  | _,_ => none

def acceptedMove (id : GameId) (op : Operation) (answer : Answer) : Option (PlayerColor × Millis) :=
  match op,answer with
  | .submitMove input observation,.move (.ok submission) =>
    if input.gameId = id ∧ submission.duplicate = false then
      some (oppositeColor submission.accepted.turn,truncatedToMillis observation)
    else none
  | _,_ => none

/-- When a game was started and who moved when, according to the answers of a run. -/
structure Ledger where
  starts : List Millis
  moves : List (PlayerColor × Millis)

def ledger (id : GameId) (events : List (Machine.Event Db Operation Answer)) : Ledger :=
  ⟨events.filterMap fun e => startInstant id e.input e.answer,
    events.filterMap fun e => acceptedMove id e.input e.answer⟩

namespace Ledger

def moveCount (l : Ledger) (color : PlayerColor) : ℕ := l.moves.countP fun m => m.1 = color

theorem moveCount_snoc (l : Ledger) (starts : List Millis) (move : PlayerColor × Millis)
    (color : PlayerColor) : ((⟨starts,l.moves ++ [move]⟩ : Ledger).moveCount color : ℤ) =
      l.moveCount color + if move.1 = color then 1 else 0 := by
  unfold moveCount
  rw [List.countP_append,List.countP_singleton]
  by_cases hc : move.1 = color
  · simp [hc]
  · simp [hc]

/-- The total duration of the turns of a colour up to an instant. White has the first turn. -/
def turnTimeAt (l : Ledger) (color : PlayerColor) (t : Millis) : ℤ :=
  match l.starts with
  | [] => 0
  | start :: _ => turnTime turnAt color 0 start (l.moves.map Prod.snd ++ [t])

end Ledger

def gameObservations (id : GameId) (operations : List Operation) : List Micros :=
  (operations.filter fun op => op.gameId = some id).filterMap Operation.observation

def ClockView.shown (view : ClockView) (color : PlayerColor) : ℤ :=
  if color = .w then view.whiteMs else view.blackMs

end Ledger

section Entries

variable {id : GameId} {op : Operation} {answer : Answer}

theorem startInstant_eq {t : Millis} (h : startInstant id op answer = some t) :
    ∃ o, op.gameId = some id ∧ op.observation = some o ∧ t = truncatedToMillis o := by
  unfold startInstant at h
  split at h
  · split_ifs at h with hid
    cases h
    exact ⟨_,congrArg some hid.1,rfl,rfl⟩
  · split_ifs at h with hid
    cases h
    exact ⟨_,congrArg some hid.1,rfl,rfl⟩
  · cases h

theorem acceptedMove_eq {m : PlayerColor × Millis} (h : acceptedMove id op answer = some m) :
    ∃ o, op.gameId = some id ∧ op.observation = some o ∧ m.2 = truncatedToMillis o := by
  unfold acceptedMove at h
  split at h
  · split_ifs at h with hid
    cases h
    exact ⟨_,congrArg some hid.1,rfl,rfl⟩
  · cases h

theorem entries_of_ne (h : op.gameId ≠ some id) :
    startInstant id op answer = none ∧ acceptedMove id op answer = none := by
  constructor
  · by_contra hne
    obtain ⟨t,ht⟩ := Option.ne_none_iff_exists'.mp hne
    obtain ⟨_,hid,_⟩ := startInstant_eq ht
    exact h hid
  · by_contra hne
    obtain ⟨m,hm⟩ := Option.ne_none_iff_exists'.mp hne
    obtain ⟨_,hid,_⟩ := acceptedMove_eq hm
    exact h hid

theorem entries_of_rejected (h : answer.rejected) :
    startInstant id op answer = none ∧ acceptedMove id op answer = none := by
  cases answer with
  | start result =>
    cases result with
    | error e => cases op <;> exact ⟨rfl,rfl⟩
    | ok r => exact absurd h fun hr => hr
  | move result =>
    cases result with
    | error e => cases op <;> exact ⟨rfl,rfl⟩
    | ok s => exact absurd h fun hr => hr
  | _ => cases op <;> exact ⟨rfl,rfl⟩

theorem Reads.entries {db : Db} (h : Reads db op answer) :
    startInstant id op answer = none ∧ acceptedMove id op answer = none := by
  cases h with
  | rejected h => exact entries_of_rejected h
  | allocated hg => exact ⟨rfl,rfl⟩
  | found hg hs =>
    refine ⟨?_,rfl⟩
    cases hr : startResult _ false with
    | error e => rfl
    | ok r =>
      have hstarted := (startResult_ok hr).2
      simp [startInstant,hstarted]
  | @move _ input g c s hop hg hc hr =>
    have hd := replayResult_duplicate hr
    rcases hop with rfl | ⟨observation,rfl⟩
    · exact ⟨rfl,rfl⟩
    · simp [startInstant,acceptedMove,hd]
  | resignation hop hg hc hr =>
    rcases hop with rfl | ⟨observation,rfl⟩
    · exact ⟨rfl,rfl⟩
    · exact ⟨rfl,rfl⟩

end Entries

/-- The row of a game that has not ended agrees with what has been answered. -/
inductive Balanced (l : Ledger) (g : PersistedGame) : Prop
  | unstarted (hs : g.status.started = false) (hstarts : l.starts = []) (hmoves : l.moves = [])
      (hclocks : ∀ color, g.clockMs color = g.timeInitialMs)
      (hturn : g.turnColor = .w) : Balanced l g
  | started {start : Millis} (hs : g.status.started = true) (hstarts : l.starts = [start])
      (hturn : g.turnColor = turnAt l.moves.length)
      (hlast : g.turnStartedAt = some ((l.moves.map Prod.snd).getLastD start))
      (hclocks : ∀ color, g.clockMs color = g.timeInitialMs + g.incrementMs * l.moveCount color -
        turnTime turnAt color 0 start (l.moves.map Prod.snd)) : Balanced l g

namespace Balanced

variable {l : Ledger} {g g' : PersistedGame}

theorem congr (h : Balanced l g) (hs : g'.status.started = g.status.started)
    (hturn : g'.turnColor = g.turnColor) (hlast : g'.turnStartedAt = g.turnStartedAt)
    (hclocks : ∀ color, g'.clockMs color = g.clockMs color)
    (hinitial : g'.timeInitialMs = g.timeInitialMs) (hinc : g'.incrementMs = g.incrementMs) :
    Balanced l g' := by
  cases h with
  | unstarted h₁ h₂ h₃ h₄ h₅ =>
    refine .unstarted (hs.trans h₁) h₂ h₃ (fun color => ?_) (hturn.trans h₅)
    rw [hclocks,hinitial]
    exact h₄ color
  | started h₁ h₂ h₃ h₄ h₅ =>
    refine .started (hs.trans h₁) h₂ (hturn.trans h₃) (hlast.trans h₄) fun color => ?_
    rw [hclocks,hinitial,hinc]
    exact h₅ color

theorem start (h : Balanced l g) (hs : g.status = .ready) (observedAt : Millis) :
    Balanced ⟨l.starts ++ [observedAt],l.moves⟩ (g.start observedAt) := by
  cases h with
  | started h₁ =>
    rw [hs] at h₁
    cases h₁
  | unstarted h₁ h₂ h₃ h₄ h₅ =>
    refine .started rfl (congrArg (· ++ [observedAt]) h₂) ?_ ?_ fun color => ?_
    · rw [h₃]
      exact h₅
    · rw [h₃]
      rfl
    · have hclock : (g.start observedAt).clockMs color = g.timeInitialMs := h₄ color
      have hinitial : (g.start observedAt).timeInitialMs = g.timeInitialMs := rfl
      rw [hclock,hinitial]
      simp [h₃,Ledger.moveCount]

/-- An admitted move ends the turn of its player. The first move of a ready game starts it too. -/
theorem move {chess : ChessEngine} {m : AdmittedMove} {guests : GuestSessionId × GuestSessionId}
    (h : Balanced l m.game) (hm : m.Admitted chess guests) (ht : m.terminal = none)
    (hlate : ∀ t ∈ l.starts ++ l.moves.map Prod.snd, t ≤ m.observedAt) :
    Balanced ⟨l.starts ++ if m.game.status = .ready then [m.observedAt] else [],
      l.moves ++ [(m.player.color,m.observedAt)]⟩ (m.row guests) := by
  obtain ⟨hstatus,hturn,_,_,⟨elapsed,hadm⟩,_,_⟩ := admitMove_ok hm.admitted
  obtain ⟨hmover,hother,_,_,hready,hrunning⟩ := admission_accepted hadm
  obtain ⟨start,hstarts,hplies,helapsed,hclocks⟩ : ∃ start,
      (l.starts ++ if m.game.status = .ready then [m.observedAt] else []) = [start] ∧
      m.game.turnColor = turnAt l.moves.length ∧
      elapsed = m.observedAt - (l.moves.map Prod.snd).getLastD start ∧
      ∀ color, m.game.clockMs color = m.game.timeInitialMs +
        m.game.incrementMs * l.moveCount color -
          turnTime turnAt color 0 start (l.moves.map Prod.snd) := by
    cases h with
    | unstarted h₁ h₂ h₃ h₄ h₅ =>
      have hr : m.game.status = .ready := by
        rcases hstatus with hi | hr
        · rw [hi] at h₁
          cases h₁
        · exact hr
      refine ⟨m.observedAt,by rw [h₂,if_pos hr]; rfl,by rw [h₃]; exact h₅,?_,fun color => ?_⟩
      · rw [(hready hr).2,h₃]
        simp
      · rw [h₄ color]
        simp [h₃,Ledger.moveCount]
    | @started start h₁ h₂ h₃ h₄ h₅ =>
      have hr : m.game.status ≠ .ready := by
        intro hr
        rw [hr] at h₁
        cases h₁
      refine ⟨start,by rw [h₂,if_neg hr]; rfl,h₃,?_,h₅⟩
      obtain ⟨t,hturnStart,he⟩ := hrunning hr
      obtain rfl : (l.moves.map Prod.snd).getLastD start = t :=
        Option.some.inj (h₄.symm.trans hturnStart)
      have hle : (l.moves.map Prod.snd).getLastD start ≤ m.observedAt := by
        refine hlate _ ?_
        rw [h₂]
        exact List.getLastD_mem_cons
      rw [he]
      exact max_eq_right (Int.sub_nonneg_of_le hle)
  have hrow : (m.row guests).status = .inProgress := by
    rw [AdmittedMove.row_status,ht]
    rcases hstatus with hi | hr
    · simp [hi]
    · simp [hr]
  refine .started (by rw [hrow]; rfl) hstarts ?_ ?_ fun color => ?_
  · have hnext : (m.row guests).turnColor = oppositeColor m.player.color := rfl
    rw [hnext,← hturn,hplies,List.length_append]
    exact (turnAt_succ _).symm
  · have hlast : (m.row guests).turnStartedAt = some m.observedAt := by
      show (if m.terminal = none then some m.observedAt else none) = _
      rw [if_pos ht]
    rw [hlast]
    simp
  · have hclock : (m.row guests).clockMs color = remainingFor m.clock color := by
      cases color <;> rfl
    have howner : turnAt (0 + (l.moves.map Prod.snd).length) = m.player.color := by
      rw [Nat.zero_add,List.length_map,← hplies,hturn]
    rw [hclock,l.moveCount_snoc,List.map_append,List.map_singleton,turnTime_snoc,howner,← helapsed]
    by_cases hc : m.player.color = color
    · subst hc
      rw [hmover,hclocks]
      simp only [if_true]
      have hinc : (m.row guests).incrementMs = m.game.incrementMs := rfl
      have hinitial : (m.row guests).timeInitialMs = m.game.timeInitialMs := rfl
      rw [hinc,hinitial,Int.mul_add,Int.mul_one]
      omega
    · have hcolor : color = oppositeColor m.player.color := by
        cases hp : m.player.color <;> cases color <;> simp_all [oppositeColor]
      rw [if_neg hc,if_neg hc,hcolor,hother,hclocks]
      have hinc : (m.row guests).incrementMs = m.game.incrementMs := rfl
      have hinitial : (m.row guests).timeInitialMs = m.game.timeInitialMs := rfl
      rw [hinc,hinitial]
      simp

end Balanced

structure Accounts (db : Db) (id : GameId) (l : Ledger) : Prop where
  absent : db.games.find id = none → l.starts = [] ∧ l.moves = []
  balanced : ∀ g, db.games.find id = some g → g.status.terminal = false → Balanced l g

namespace Ledger

def record (l : Ledger) (id : GameId) (op : Operation) (answer : Answer) : Ledger :=
  ⟨l.starts ++ (startInstant id op answer).toList,l.moves ++ (acceptedMove id op answer).toList⟩

theorem record_of_none {l : Ledger} {id : GameId} {op : Operation} {answer : Answer}
    (h : startInstant id op answer = none ∧ acceptedMove id op answer = none) :
    l.record id op answer = l := by
  unfold record
  rw [h.1,h.2]
  simp

theorem ledger_snoc (id : GameId) (events : List (Machine.Event Db Operation Answer))
    (e : Machine.Event Db Operation Answer) :
    ledger id (events ++ [e]) = (ledger id events).record id e.input e.answer := by
  have hsnoc : ∀ {α : Type} (f : Machine.Event Db Operation Answer → Option α),
      (events ++ [e]).filterMap f = events.filterMap f ++ (f e).toList := by
    intro α f
    rw [List.filterMap_append]
    cases hf : f e <;> simp [hf]
  unfold ledger record
  rw [hsnoc,hsnoc]

end Ledger

section Step

variable {chess : ChessEngine} {db db' : Db} {id : GameId} {l : Ledger} {g g' : PersistedGame}
  {op : Operation} {answer : Answer}

theorem Accounts.of_games (h : Accounts db id l) (hg : db'.games = db.games) :
    Accounts db' id l :=
  ⟨fun hn => h.absent (hg ▸ hn),fun g hf => h.balanced g (hg ▸ hf)⟩

theorem startResult_of_sound (h : g.Sound) (started : Bool) :
    ∃ a, startResult g started = .ok ⟨a,started⟩ := by
  obtain ⟨a,ha⟩ := mapAllocation_of_sound h
  refine ⟨a,?_⟩
  unfold startResult
  rw [ha]
  rfl

theorem Writes.balanced (h : Writes chess g op answer g') (hl : Balanced l g) (hsound : g'.Sound)
    (hid : op.gameId = some g.id) (hlive : g'.status.terminal = false)
    (hlate : ∀ t ∈ l.starts ++ l.moves.map Prod.snd, ∀ o ∈ op.observation,
      t ≤ truncatedToMillis o) : Balanced (l.record g.id op answer) g' := by
  cases h with
  | join hp =>
    rw [Ledger.record_of_none ⟨rfl,rfl⟩]
    exact hl.congr rfl rfl rfl (fun _ => rfl) rfl rfl
  | ready hp hs =>
    rw [Ledger.record_of_none ⟨rfl,rfl⟩]
    exact hl.congr (by rw [hs]; rfl) rfl rfl (fun _ => rfl) rfl rfl
  | @startIfReady gameId observation hs =>
    obtain ⟨a,ha⟩ := startResult_of_sound hsound true
    have hgame : gameId = g.id := Option.some.inj hid
    have hrecord : l.record g.id (.startIfReady gameId observation)
        (.start (startResult (g.start (truncatedToMillis observation)) true)) =
          ⟨l.starts ++ [truncatedToMillis observation],l.moves⟩ := by
      rw [ha]
      simp [Ledger.record,startInstant,acceptedMove,hgame]
    rw [hrecord]
    exact hl.start hs _
  | @submitMove m guests observation hg hgame ho hm =>
    subst hg
    have hterminal : m.terminal = none := by
      cases ht : m.terminal with
      | none => rfl
      | some t =>
        rw [AdmittedMove.row_status,ht] at hlive
        simp at hlive
    have hcolor : oppositeColor (oppositeColor m.player.color) = m.player.color := by
      cases m.player.color <;> rfl
    have hrecord : l.record m.game.id (.submitMove m.input observation)
        (.move (.ok (m.submission guests))) =
          ⟨l.starts ++ if m.game.status = .ready then [m.observedAt] else [],
            l.moves ++ [(m.player.color,m.observedAt)]⟩ := by
      have hmove : acceptedMove m.game.id (.submitMove m.input observation)
          (.move (.ok (m.submission guests))) = some (m.player.color,m.observedAt) := by
        simp [acceptedMove,AdmittedMove.submission,AdmittedMove.accepted,AdmittedMove.nextTurn,
          hgame,hcolor,ho]
      have hstart : startInstant m.game.id (.submitMove m.input observation)
          (.move (.ok (m.submission guests))) =
            if m.game.status = .ready then some m.observedAt else none := by
        by_cases hr : m.game.status = .ready
        · simp [startInstant,AdmittedMove.submission,AdmittedMove.started,hgame,hr,ho]
        · simp [startInstant,AdmittedMove.submission,AdmittedMove.started,hr]
      unfold Ledger.record
      rw [hmove,hstart]
      by_cases hr : m.game.status = .ready
      · simp [hr]
      · simp [hr]
    rw [hrecord]
    refine hl.move hm hterminal fun t ht => ?_
    rw [ho]
    exact hlate t ht observation rfl
  | leave hp hs =>
    rw [Ledger.record_of_none ⟨rfl,rfl⟩]
    exact hl.congr rfl rfl rfl (fun _ => rfl) rfl rfl
  | disconnect hp hs =>
    rw [Ledger.record_of_none ⟨rfl,rfl⟩]
    exact hl.congr hs.symm rfl rfl (fun _ => rfl) rfl rfl
  | reconnect hp hs =>
    rw [Ledger.record_of_none ⟨rfl,rfl⟩]
    refine hl.congr ?_ rfl rfl (fun _ => rfl) rfl rfl
    rw [hs]
    simp only [PersistedGame.resumed]
    split_ifs <;> rfl
  | @resign input player observation outcome guests hplayer hs ho hp =>
    have hended := ended_terminal g observation outcome
    exact absurd (hended.symm.trans hlive) (by decide)
  | @reset guest gameId player observation outcome guests hplayer ho hp =>
    have hended := ended_terminal g observation outcome
    exact absurd (hended.symm.trans hlive) (by decide)
  | @adjudicate op observation event outcome guests he ho hp =>
    have hended := ended_terminal g observation outcome
    exact absurd (hended.symm.trans hlive) (by decide)

theorem Accounts.step (h : Accounts db id l) (hr : db.Reachable chess)
    (hlate : op.gameId = some id → ∀ t ∈ l.starts ++ l.moves.map Prod.snd, ∀ o ∈ op.observation,
      t ≤ truncatedToMillis o) :
    Accounts (execute chess db op).2 id (l.record id op (execute chess db op).1) := by
  cases execute_outcome chess db op with
  | session hop hanswer hdb =>
    have hnone : op.gameId ≠ some id := by
      rw [hop]
      exact nofun
    rw [Ledger.record_of_none (entries_of_ne hnone)]
    exact h.of_games (Outcome.frame_session hdb).1
  | kept hdb hreads =>
    rw [Ledger.record_of_none hreads.entries,hdb]
    exact h
  | @allocated input _ hop hd ha hanswer =>
    have hnone : op.gameId ≠ some id := by
      rw [hop]
      exact nofun
    rw [Ledger.record_of_none (entries_of_ne hnone)]
    constructor
    · intro hn
      rw [ha.find] at hn
      split_ifs at hn
      exact h.absent hn
    · intro g hg hlive
      rw [ha.find] at hg
      split_ifs at hg with hid
      · cases hg
        have hfresh : db.games.find id = none := hid ▸ (Table.insert_fresh ha.games).1
        obtain ⟨hstarts,hmoves⟩ := h.absent hfresh
        exact .unstarted rfl hstarts hmoves (fun color => by cases color <;> rfl) rfl
      · exact h.balanced g hg hlive
  | @wrote key g g' _ hop hw hwrites =>
    have hkey : g.id = key := Table.find_key hw.found
    by_cases hid : key = id
    · subst hid
      constructor
      · intro hn
        rw [hw.find_self] at hn
        cases hn
      · intro x hx hlive
        obtain rfl : g' = x := Option.some.inj (hw.find_self.symm.trans hx)
        have hbalanced := h.balanced g hw.found hw.change.not_terminal
        have hsound : g'.Sound := hw.change.sound (hr.sound.games key g hw.found)
        rw [← hkey]
        exact hwrites.balanced hbalanced hsound (hkey ▸ hop) hlive (hlate hop)
    · have hne : op.gameId ≠ some id := by
        rw [hop]
        exact fun he => hid (Option.some.inj he)
      rw [Ledger.record_of_none (entries_of_ne hne)]
      constructor
      · intro hn
        rw [hw.find,if_neg (Ne.symm hid)] at hn
        exact h.absent hn
      · intro x hx hlive
        rw [hw.find,if_neg (Ne.symm hid)] at hx
        exact h.balanced x hx hlive

end Step

section Run

variable {chess : ChessEngine} {id : GameId}

theorem truncatedToMillis_mono {o o' : Micros} (h : o ≤ o') :
    truncatedToMillis o ≤ truncatedToMillis o' := Int.ediv_le_ediv (by decide) h

theorem gameObservations_append (id : GameId) (operations more : List Operation) :
    gameObservations id (operations ++ more) =
      gameObservations id operations ++ gameObservations id more := by
  simp [gameObservations]

theorem mem_gameObservations {operations : List Operation} {op : Operation} {o : Micros}
    (hop : op ∈ operations) (hid : op.gameId = some id) (ho : op.observation = some o) :
    o ∈ gameObservations id operations :=
  List.mem_filterMap.mpr ⟨op,List.mem_filter.mpr ⟨hop,decide_eq_true hid⟩,ho⟩

/-- Every instant of the ledger is one that an operation has observed. -/
theorem ledger_observed {db : Db} {operations : List Operation} {t : Millis}
    (ht : t ∈ (ledger id ((repositories chess).events db operations)).starts ++
      (ledger id ((repositories chess).events db operations)).moves.map Prod.snd) :
    ∃ o ∈ gameObservations id operations, t = truncatedToMillis o := by
  have hinput : ∀ e ∈ (repositories chess).events db operations, e.input ∈ operations := by
    intro e he
    obtain ⟨before,later,hsplit,_⟩ := Machine.mem_events_split _ he
    rw [hsplit]
    exact List.mem_append_right _ List.mem_cons_self
  rcases List.mem_append.mp ht with ht | ht
  · obtain ⟨e,he,hstart⟩ := List.mem_filterMap.mp ht
    obtain ⟨o,hid,ho,rfl⟩ := startInstant_eq hstart
    exact ⟨o,mem_gameObservations (hinput e he) hid ho,rfl⟩
  · obtain ⟨m,hm,rfl⟩ := List.mem_map.mp ht
    obtain ⟨e,he,hmove⟩ := List.mem_filterMap.mp hm
    obtain ⟨o,hid,ho,heq⟩ := acceptedMove_eq hmove
    exact ⟨o,mem_gameObservations (hinput e he) hid ho,heq⟩

theorem accounts_run (guestSessions : Table GuestSession.id)
    (sessionCommands : Table SessionCommand.idempotencyHash) {operations : List Operation}
    (htimes : (gameObservations id operations).Pairwise (· ≤ ·)) :
    Accounts ((repositories chess).run (.initial guestSessions sessionCommands) operations) id
      (ledger id
        ((repositories chess).events (.initial guestSessions sessionCommands) operations)) := by
  induction operations using List.reverseRecOn with
  | nil => exact ⟨fun _ => ⟨rfl,rfl⟩,fun g hg => by simp [Db.initial] at hg⟩
  | append_singleton operations op ih =>
    rw [gameObservations_append,List.pairwise_append] at htimes
    obtain ⟨hbefore,_,hcross⟩ := htimes
    rw [Machine.run_append,Machine.events_append,Machine.events_cons,Machine.events_nil,
      Ledger.ledger_snoc]
    refine (ih hbefore).step ⟨guestSessions,sessionCommands,operations,rfl⟩ ?_
    intro hid t ht o ho
    obtain ⟨o',ho',rfl⟩ := ledger_observed ht
    exact truncatedToMillis_mono
      (hcross o' ho' o (mem_gameObservations List.mem_cons_self hid ho))

end Run

section Shown

variable {chess : ChessEngine} {db db' : Db} {id : GameId} {l : Ledger} {g g' : PersistedGame}
  {op : Operation} {answer : Answer}

theorem clockViewAt_shown (hi : g.integersFit) (hc : g.rowChecks) (t : Millis) :
    ∃ view, clockViewAt (storedClock g) (.valid t) = .ok view ∧ ∀ color, view.shown color =
      if g.status.started ∧ g.turnColor = color then
        max 0 (g.clockMs color - max 0 (t - g.turnStartedAt.getD 0))
      else g.clockMs color := by
  cases hs : g.status.started with
  | true =>
    have hturn := hc.2.2.2.1
    simp only [PersistedGame.turnClockStateCheck,hs,if_true] at hturn
    obtain ⟨start,hstart⟩ := Option.isSome_iff_exists.mp hturn.1
    obtain ⟨view,hview,hwhite,hblack⟩ := clockViewAt_started hi hc hs hstart t
    refine ⟨view,hview,fun color => ?_⟩
    cases color with
    | w => simp [ClockView.shown,hwhite,hstart,PersistedGame.clockMs]
    | b => simp [ClockView.shown,hblack,hstart,PersistedGame.clockMs]
  | false =>
    obtain ⟨_,_,hinc,hw,hb⟩ := hi
    obtain ⟨⟨_,hinc',hw',hb'⟩,_⟩ := hc
    have hclock : assertClock (storedClock g) = .ok () := by
      simp only [assertClock,storedClock,hs,Bool.false_eq_true,if_false,
        assertDuration_ok "whiteMs" hw hw',assertDuration_ok "blackMs" hb hb',
        assertDuration_ok "incrementMs" hinc hinc']
      rfl
    have hstopped : (storedClock g).running = none := by simp [storedClock,hs]
    unfold clockViewAt
    rw [hclock]
    simp only [hstopped]
    refine ⟨_,rfl,fun color => ?_⟩
    cases color <;> simp [ClockView.shown,storedClock,PersistedGame.clockMs]

theorem Balanced.shown (h : Balanced l g) (hi : g.integersFit) (hc : g.rowChecks) {t : Millis}
    (hlate : ∀ i ∈ l.starts ++ l.moves.map Prod.snd, i ≤ t) :
    ∃ view, clockViewAt (storedClock g) (.valid t) = .ok view ∧ ∀ color, view.shown color =
      max 0 (g.timeInitialMs + g.incrementMs * l.moveCount color - l.turnTimeAt color t) := by
  obtain ⟨view,hview,hshown⟩ := clockViewAt_shown hi hc t
  refine ⟨view,hview,fun color => ?_⟩
  rw [hshown color]
  have hstored : 0 ≤ g.clockMs color := by
    obtain ⟨_,_,hw,hb⟩ := hc.1
    cases color with
    | w => exact hw
    | b => exact hb
  cases h with
  | unstarted hs hstarts hmoves hclocks hturn =>
    have hnot : ¬ (g.status.started = true ∧ g.turnColor = color) := by
      rw [hs]
      exact fun hn => by cases hn.1
    rw [if_neg hnot]
    have hzero : l.turnTimeAt color t = 0 := by
      unfold Ledger.turnTimeAt
      rw [hstarts]
    have hcount : l.moveCount color = 0 := by
      unfold Ledger.moveCount
      rw [hmoves]
      rfl
    rw [hzero,hcount,← hclocks color]
    simp [hstored]
  | @started start hs hstarts hturn hlast hclocks =>
    have htime : l.turnTimeAt color t = turnTime turnAt color 0 start (l.moves.map Prod.snd) +
        if g.turnColor = color then t - (l.moves.map Prod.snd).getLastD start else 0 := by
      unfold Ledger.turnTimeAt
      rw [hstarts]
      simp only
      rw [turnTime_snoc,Nat.zero_add,List.length_map,← hturn]
    have hle : (l.moves.map Prod.snd).getLastD start ≤ t := by
      refine hlate _ ?_
      rw [hstarts]
      exact List.getLastD_mem_cons
    have hclock := hclocks color
    rw [htime,hlast,Option.getD_some]
    by_cases hc : g.turnColor = color
    · rw [if_pos ⟨hs,hc⟩,if_pos hc,max_eq_right (Int.sub_nonneg_of_le hle),hclock]
      congr 1
      omega
    · rw [if_neg fun hn => hc hn.2,if_neg hc]
      omega

theorem Writes.grace_clock (h : Writes chess g op answer g') (hop : op.isGrace = true) :
    storedClock g' = storedClock g := by
  cases h with
  | leave hp hs => rfl
  | disconnect hp hs =>
    unfold storedClock
    rw [hs]
    rfl
  | reconnect hp hs =>
    have hstarted : ∀ deadlines, (if deadlines = ([] : List Millis) then GameStatus.inProgress
        else .reconnecting).started = true := by
      intro deadlines
      split_ifs <;> rfl
    unfold storedClock
    rw [hs]
    simp only [PersistedGame.resumed,hstarted]
    rfl
  | @adjudicate op observation event outcome guests he ho hp =>
    cases op with
    | markDisconnected => cases he
    | markReconnected => cases he
    | _ => cases hop
  | _ => cases hop

/-- A write that adds a move was answered by an acceptance, before the clock of the mover shows
no time. -/
theorem Writes.move_in_time (h : Writes chess g op answer g') (hid : g.id = id)
    (hi : g.integersFit) (hc : g.rowChecks) (hs : g.Sound) (hmoves : g'.moves ≠ g.moves) :
    ∃ m, acceptedMove id op answer = some m ∧ ∀ t view,
      clockViewAt (storedClock g) (.valid t) = .ok view → view.shown m.1 = 0 → m.2 < t := by
  cases h with
  | @submitMove m guests observation hg hgame ho hm =>
    subst hg hid
    have hcolor : oppositeColor (oppositeColor m.player.color) = m.player.color := by
      cases m.player.color <;> rfl
    refine ⟨(m.player.color,m.observedAt),?_,fun t view hview hzero => ?_⟩
    · simp [acceptedMove,AdmittedMove.submission,AdmittedMove.accepted,AdmittedMove.nextTurn,
        hgame,hcolor,ho]
    · obtain ⟨hstatus,hturn,_,_,⟨elapsed,hadm⟩,_,_⟩ := admitMove_ok hm.admitted
      obtain ⟨_,_,_,hleft,hready,hrunning⟩ := admission_accepted hadm
      obtain ⟨view',hview',hshown⟩ := clockViewAt_shown hi hc t
      cases hview.symm.trans hview'
      change m.observedAt < t
      change view.shown m.player.color = 0 at hzero
      rw [hshown] at hzero
      rcases hstatus with hinProgress | hr
      · have hne : m.game.status ≠ .ready := by
          rw [hinProgress]
          decide
        obtain ⟨start,hstart,helapsed⟩ := hrunning hne
        have hstarted : m.game.status.started = true := by
          rw [hinProgress]
          rfl
        rw [if_pos ⟨hstarted,hturn⟩,hstart,Option.getD_some] at hzero
        have hreached := le_max_right 0 (m.game.clockMs m.player.color - max 0 (t - start))
        rw [hzero] at hreached
        have hlonger : max 0 (m.observedAt - start) < max 0 (t - start) := by
          rw [← helapsed]
          exact lt_of_lt_of_le hleft (Int.le_of_sub_nonpos hreached)
        by_contra hle
        have hturns : max 0 (t - start) ≤ max 0 (m.observedAt - start) :=
          max_le_max le_rfl (Int.sub_le_sub_right (not_lt.mp hle) start)
        exact absurd hlonger (not_lt.mpr hturns)
      · have hnot : ¬ (m.game.status.started = true ∧ m.game.turnColor = m.player.color) := by
          rw [hr]
          exact fun hn => by cases hn.1
        rw [if_neg hnot] at hzero
        have hpositive := hs.clocks (by rw [hr]; rfl)
        have hclock : 0 < m.game.clockMs m.player.color := by
          cases m.player.color with
          | w => exact hpositive.1
          | b => exact hpositive.2
        omega
  | _ => exact absurd rfl hmoves

end Shown

/-- Clock accounting. In a run whose observations of a game are not decreasing, the clock that is
shown of a colour before the end is the initial time with the increments of its moves, without
its turns, and cut off at zero. A grace operation does not change what any clock shows. A move is
committed only before the clock of its player shows no time. -/
theorem clock_accounting (chess : ChessEngine) (guestSessions : Table GuestSession.id)
    (sessionCommands : Table SessionCommand.idempotencyHash) (operations : List Operation)
    (id : GameId) (htimes : (gameObservations id operations).Pairwise (· ≤ ·)) :
    let db := (repositories chess).run (.initial guestSessions sessionCommands) operations
    let events := (repositories chess).events (.initial guestSessions sessionCommands) operations
    (∀ g, db.games.find id = some g → g.status.terminal = false → ∀ t,
      (∀ o ∈ gameObservations id operations, truncatedToMillis o ≤ t) →
        ∃ view, clockViewAt (storedClock g) (.valid t) = .ok view ∧
          ∀ color, view.shown color = max 0 (g.timeInitialMs +
            g.incrementMs * (ledger id events).moveCount color -
              (ledger id events).turnTimeAt color t)) ∧
    ∀ e ∈ events, ∀ g g', e.before.games.find id = some g → e.after.games.find id = some g' →
      (e.input.isGrace = true → ∀ d, clockViewAt (storedClock g') d = clockViewAt (storedClock g) d) ∧
      (g'.moves ≠ g.moves → ∃ m, acceptedMove id e.input e.answer = some m ∧ ∀ t view,
        clockViewAt (storedClock g) (.valid t) = .ok view → view.shown m.1 = 0 → m.2 < t) := by
  intro db events
  constructor
  · intro g hg hlive t ht
    have hreachable : db.Reachable chess := ⟨guestSessions,sessionCommands,operations,rfl⟩
    obtain ⟨hi,hc⟩ := hreachable.rowsChecked id g hg
    have haccounts := @accounts_run chess id guestSessions sessionCommands operations htimes
    refine (haccounts.balanced g hg hlive).shown hi hc fun i hi => ?_
    obtain ⟨o,ho,rfl⟩ := ledger_observed hi
    exact ht o ho
  · intro e he g g' hg hg'
    obtain ⟨before,_,_,hevent⟩ := Machine.mem_events_split _ he
    have hreachable : e.before.Reachable chess := by
      rw [hevent]
      exact ⟨guestSessions,sessionCommands,before,rfl⟩
    obtain ⟨hi,hc⟩ := hreachable.rowsChecked id g hg
    have hsound := hreachable.sound.games id g hg
    have houtcome : Outcome chess e.before e.input e.answer e.after := by
      rw [hevent]
      exact execute_outcome chess _ _
    rcases houtcome.row hg hg' with rfl | ⟨_,_,hwrites⟩
    · exact ⟨fun _ _ => rfl,fun hne => absurd rfl hne⟩
    · refine ⟨fun hgrace d => ?_,fun hne => ?_⟩
      · rw [hwrites.grace_clock hgrace]
      · exact hwrites.move_in_time (Table.find_key hg) hi hc hsound hne

theorem clock_accounting_sample : ∃ view,
    clockViewAt (storedClock (sampleGame sampleMoved)) (.valid 10000) = .ok view ∧
      view.shown .w = 300000 + 2000 - 3000 ∧ view.shown .b = 300000 - 2000 := by
  have htimes : (gameObservations (sampleId 10) sampleMoved).Pairwise (· ≤ ·) := by decide
  have hlater : ∀ o ∈ gameObservations (sampleId 10) sampleMoved, truncatedToMillis o ≤ 10000 := by
    decide
  obtain ⟨hclock,_⟩ := clock_accounting sampleEngine sampleSessions .empty sampleMoved _ htimes
  obtain ⟨view,hview,hshown⟩ :=
    hclock (sampleGame sampleMoved) (by decide) (by decide) 10000 hlater
  refine ⟨view,hview,?_,?_⟩
  · rw [hshown]
    decide
  · rw [hshown]
    decide

end CluChess
