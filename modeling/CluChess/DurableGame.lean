import CluChess.RepositoryMachine
import Mathlib.Data.List.Perm.Basic

/-! The durable game invariant: what holds of every game row, and of the assignments, in
every database that the repositories can reach. -/
namespace CluChess

section Earliest

theorem earliest_foldl (values : List Millis) (e : Millis) :
    ∃ d, values.foldl (fun earliest value =>
      match earliest with
      | none => some value
      | some e => if value < e then some value else some e) (some e) = some d ∧
        (d = e ∨ d ∈ values) ∧ d ≤ e ∧ ∀ v ∈ values, d ≤ v := by
  induction values generalizing e with
  | nil => exact ⟨e,rfl,Or.inl rfl,le_refl e,by simp⟩
  | cons v vs ih =>
    simp only [List.foldl_cons]
    by_cases hv : v < e
    · obtain ⟨d,hd,hmem,hle,hall⟩ := ih v
      refine ⟨d,by simpa [hv] using hd,?_,hle.trans hv.le,?_⟩
      · rcases hmem with rfl | hmem
        · exact Or.inr List.mem_cons_self
        · exact Or.inr (List.mem_cons_of_mem v hmem)
      · intro w hw
        rcases List.mem_cons.mp hw with rfl | hw
        · exact hle
        · exact hall w hw
    · obtain ⟨d,hd,hmem,hle,hall⟩ := ih e
      refine ⟨d,by simpa [hv] using hd,?_,hle,?_⟩
      · rcases hmem with rfl | hmem
        · exact Or.inl rfl
        · exact Or.inr (List.mem_cons_of_mem v hmem)
      · intro w hw
        rcases List.mem_cons.mp hw with rfl | hw
        · exact hle.trans (not_lt.mp hv)
        · exact hall w hw

@[simp] theorem earliest_nil : earliest [] = none := rfl

theorem earliest_cons (v : Millis) (vs : List Millis) :
    ∃ d, earliest (v :: vs) = some d ∧ d ∈ v :: vs ∧ ∀ w ∈ v :: vs, d ≤ w := by
  obtain ⟨d,hd,hmem,hle,hall⟩ := earliest_foldl vs v
  refine ⟨d,hd,?_,?_⟩
  · rcases hmem with rfl | hmem
    · exact List.mem_cons_self
    · exact List.mem_cons_of_mem v hmem
  · intro w hw
    rcases List.mem_cons.mp hw with rfl | hw
    · exact hle
    · exact hall w hw

theorem earliest_eq_none {values : List Millis} : earliest values = none ↔ values = [] := by
  cases values with
  | nil => simp
  | cons v vs =>
    obtain ⟨d,hd,_⟩ := earliest_cons v vs
    simp [hd]

theorem earliest_eq_some {values : List Millis} {d : Millis} :
    earliest values = some d ↔ d ∈ values ∧ ∀ v ∈ values, d ≤ v := by
  cases values with
  | nil => simp
  | cons v vs =>
    obtain ⟨e,he,hmem,hle⟩ := earliest_cons v vs
    rw [he]
    constructor
    · intro h
      cases h
      exact ⟨hmem,hle⟩
    · rintro ⟨hd,hall⟩
      rw [le_antisymm (hle d hd) (hall e hmem)]

theorem earliest_congr {values values' : List Millis} (h : ∀ v, v ∈ values ↔ v ∈ values') :
    earliest values = earliest values' := by
  cases he : earliest values' with
  | none =>
    rw [earliest_eq_none] at he ⊢
    rw [List.eq_nil_iff_forall_not_mem]
    intro v hv
    rw [h,he] at hv
    exact List.not_mem_nil hv
  | some d =>
    rw [earliest_eq_some] at he ⊢
    exact ⟨(h d).mpr he.1,fun v hv => he.2 v ((h v).mp hv)⟩

end Earliest

section Grace

/-- The grace of the players fits the status and the deadline of their game. -/
structure GraceSound (status : GameStatus) (deadline : Option Millis)
    (players : List GamePlayer) : Prop where
  together : ∀ p ∈ players, p.disconnectedAt.isSome = p.reconnectGraceEndsAt.isSome
  reconnecting : status = .reconnecting ↔ ∃ p ∈ players, p.disconnectedAt.isSome
  deadline : deadline = earliest (players.filterMap GamePlayer.reconnectGraceEndsAt)

variable {status : GameStatus} {deadline : Option Millis} {players : List GamePlayer}

theorem GraceSound.congr {players' : List GamePlayer} (h : GraceSound status deadline players)
    (hp : players'.map (fun p => (p.disconnectedAt,p.reconnectGraceEndsAt)) =
      players.map fun p => (p.disconnectedAt,p.reconnectGraceEndsAt)) :
    GraceSound status deadline players' := by
  have hview : ∀ x, (∃ p ∈ players', (p.disconnectedAt,p.reconnectGraceEndsAt) = x) ↔
      ∃ p ∈ players, (p.disconnectedAt,p.reconnectGraceEndsAt) = x := by
    intro x
    rw [← List.mem_map,← List.mem_map,hp]
  constructor
  · intro p hmem
    obtain ⟨q,hq,he⟩ := (hview _).mp ⟨p,hmem,rfl⟩
    have hq' := h.together q hq
    simp only [Prod.mk.injEq] at he
    rw [← he.1,← he.2]
    exact hq'
  · rw [h.reconnecting]
    constructor
    · rintro ⟨p,hmem,hd⟩
      obtain ⟨q,hq,he⟩ := (hview _).mpr ⟨p,hmem,rfl⟩
      exact ⟨q,hq,by rw [(Prod.mk.inj he).1]; exact hd⟩
    · rintro ⟨p,hmem,hd⟩
      obtain ⟨q,hq,he⟩ := (hview _).mp ⟨p,hmem,rfl⟩
      exact ⟨q,hq,by rw [(Prod.mk.inj he).1]; exact hd⟩
  · have hf : ∀ l : List GamePlayer, l.filterMap GamePlayer.reconnectGraceEndsAt =
        (l.map fun p => (p.disconnectedAt,p.reconnectGraceEndsAt)).filterMap Prod.snd := by
      intro l
      rw [List.filterMap_map]
      rfl
    rw [h.deadline,hf,hf,hp]

theorem GraceSound.mapPlayer {g : PersistedGame} {slot : ℕ} {data : GamePlayer → GamePlayer}
    (h : GraceSound status deadline g.players)
    (hd : ∀ p, (data p).disconnectedAt = p.disconnectedAt ∧
      (data p).reconnectGraceEndsAt = p.reconnectGraceEndsAt) :
    GraceSound status deadline (g.mapPlayer slot data).players := by
  refine h.congr ?_
  simp only [PersistedGame.mapPlayer,List.map_map]
  apply List.map_congr_left
  intro p _
  simp only [Function.comp_apply]
  split
  · rw [(hd p).1,(hd p).2]
  · rfl

theorem GraceSound.withStatus {status' : GameStatus} (h : GraceSound status deadline players)
    (hs : status ≠ .reconnecting) (hs' : status' ≠ .reconnecting) :
    GraceSound status' deadline players :=
  ⟨h.together,⟨fun he => absurd he hs',fun he => absurd (h.reconnecting.mpr he) hs⟩,h.deadline⟩

theorem GraceSound.cleared (hs : status ≠ .reconnecting) :
    GraceSound status none (players.map GamePlayer.clearGrace) := by
  constructor
  · intro p hp
    obtain ⟨q,_,rfl⟩ := List.mem_map.mp hp
    rfl
  · constructor
    · exact fun he => absurd he hs
    · rintro ⟨p,hp,hd⟩
      obtain ⟨q,_,rfl⟩ := List.mem_map.mp hp
      cases hd
  · rw [eq_comm,earliest_eq_none,List.filterMap_eq_nil_iff]
    intro p hp
    obtain ⟨q,_,rfl⟩ := List.mem_map.mp hp
    rfl

end Grace

namespace PersistedGame

/-- What holds of the row of a game in every reachable database. -/
structure Sound (g : PersistedGame) : Prop where
  seats : ∃ w b, w ≠ b ∧ g.players.map GamePlayer.seat = [(0,w,.w),(1,b,.b)]
  clocks : g.status.terminal = false → 0 < g.whiteClockMs ∧ 0 < g.blackClockMs
  increment : 0 ≤ g.incrementMs
  created : g.status ≠ .created
  waiting : g.status = .waitingForPlayers → g.joinedPlayers ≠ 2 ∧ g.joinDeadlineAt.isSome
  joined : g.status.joined = true → g.joinedPlayers = 2
  grace : GraceSound g.status g.reconnectDeadlineAt g.players
  turn : g.turnStartedAt.isSome = g.status.started
  result : g.result.isSome = g.status.terminal
  termination : g.termination.isSome = g.status.terminal
  ended : g.endedAt.isSome = g.status.terminal

variable {g : PersistedGame}

theorem Sound.pair (h : g.Sound) : ∃ p q, g.players = [p,q] ∧ p.slot = 0 ∧ q.slot = 1 ∧
    p.color = .w ∧ q.color = .b ∧ p.guestSessionId ≠ q.guestSessionId := by
  obtain ⟨w,b,hne,hs⟩ := h.seats
  match hp : g.players with
  | [] => simp [hp] at hs
  | [p] => simp [hp] at hs
  | p :: q :: r :: rest => simp [hp] at hs
  | [p,q] =>
    simp only [hp,List.map_cons,List.map_nil,GamePlayer.seat,List.cons.injEq,Prod.mk.injEq,
      and_true] at hs
    obtain ⟨⟨h₁,rfl,h₃⟩,h₄,rfl,h₆⟩ := hs
    exact ⟨p,q,rfl,h₁,h₄,h₃,h₆,hne⟩

/-- A player of the pair, with what a write of that player makes of the pair. -/
theorem Sound.player_cases (h : g.Sound) {player : GamePlayer} (hp : player ∈ g.players)
    (data : GamePlayer → GamePlayer) :
    ∃ other, player.guestSessionId ≠ other.guestSessionId ∧
      (∀ x, x ∈ g.players ↔ x = player ∨ x = other) ∧
      (∀ x, x ∈ (g.mapPlayer player.slot data).players ↔ x = data player ∨ x = other) ∧
      g.otherDeadlines player.slot = other.reconnectGraceEndsAt.toList := by
  obtain ⟨p,q,hpair,hp0,hq1,_,_,hne⟩ := h.pair
  rw [hpair] at hp
  simp only [List.mem_cons,List.not_mem_nil,or_false] at hp
  rcases hp with rfl | rfl
  · refine ⟨q,hne,by simp [hpair],by simp [mapPlayer,hpair,hp0,hq1],?_⟩
    cases hq : q.reconnectGraceEndsAt <;> simp [otherDeadlines,hpair,hp0,hq1,hq]
  · refine ⟨p,hne.symm,by simp [hpair,or_comm],by simp [mapPlayer,hpair,hp0,hq1,or_comm],?_⟩
    cases hq : p.reconnectGraceEndsAt <;> simp [otherDeadlines,hpair,hp0,hq1,hq]

theorem joinedPlayers_map_join (slot : ℕ) (observedAt : Millis) :
    (g.mapPlayer slot (GamePlayer.join observedAt)).joinedPlayers ≥ g.joinedPlayers := by
  simp only [joinedPlayers,mapPlayer,List.countP_map]
  apply List.countP_mono_left
  intro p _ hj
  simp only [Function.comp_apply]
  split
  · rfl
  · exact hj

theorem Sound.seats_of (h : g.Sound) {g' : PersistedGame}
    (hs : g'.players.map GamePlayer.seat = g.players.map GamePlayer.seat) :
    ∃ w b, w ≠ b ∧ g'.players.map GamePlayer.seat = [(0,w,.w),(1,b,.b)] := by
  rw [hs]
  exact h.seats

theorem joinedPlayers_le {g' : PersistedGame} (h : g.Sound)
    (hs : g'.players.map GamePlayer.seat = g.players.map GamePlayer.seat) :
    g'.joinedPlayers ≤ 2 := by
  have hlen : g'.players.length = 2 := by
    obtain ⟨_,_,_,hseats⟩ := h.seats
    rw [← List.length_map (f := GamePlayer.seat),hs,hseats]
    rfl
  rw [← hlen]
  exact List.countP_le_length

theorem joinedPlayers_congr {g' : PersistedGame}
    (h : g'.players.map GamePlayer.joinedAt = g.players.map GamePlayer.joinedAt) :
    g'.joinedPlayers = g.joinedPlayers := by
  have hcount : ∀ l : List GamePlayer, l.countP (fun p => p.joinedAt.isSome) =
      (l.map GamePlayer.joinedAt).countP Option.isSome := by
    intro l
    rw [List.countP_map]
    rfl
  rw [joinedPlayers,joinedPlayers,hcount,hcount,h]

theorem joinedPlayers_mapPlayer {slot : ℕ} (data : GamePlayer → GamePlayer)
    (h : ∀ p, (data p).joinedAt = p.joinedAt) :
    (g.mapPlayer slot data).joinedPlayers = g.joinedPlayers := by
  apply joinedPlayers_congr
  simp only [mapPlayer,List.map_map]
  apply List.map_congr_left
  intro p _
  simp only [Function.comp_apply]
  split
  · exact h p
  · rfl

def clockMs (g : PersistedGame) (color : PlayerColor) : ℤ :=
  if color = .w then g.whiteClockMs else g.blackClockMs

end PersistedGame

section Admission

variable {g : PersistedGame}

/-- The clock of an admitted move: the mover had time left and got the increment, the clock
of the opponent is the stored one. -/
theorem admission_accepted {color : PlayerColor} {observedAt : Millis} {clock : GameClock}
    {elapsed : ℤ} (h : admission g color observedAt = .ok (.accepted clock elapsed)) :
    remainingFor clock color = g.clockMs color - elapsed + g.incrementMs ∧
      remainingFor clock (oppositeColor color) = g.clockMs (oppositeColor color) ∧
      0 ≤ elapsed ∧ elapsed < g.clockMs color ∧
      (g.status = .ready → color = .w ∧ elapsed = 0) ∧
      (g.status ≠ .ready → ∃ t, g.turnStartedAt = some t ∧ elapsed = max 0 (observedAt - t)) := by
  obtain ⟨running,hr,h⟩ := bind_eq_ok.mp h
  obtain ⟨hrun,⟨started,hstart,helapsed⟩,hlt,rfl⟩ := admitMoveOnClock_accepted h
  unfold runningClock at hr
  split_ifs at hr with hready
  · obtain ⟨_,rfl⟩ := resumeClock_ok hr
    have hw : color = .w := (Option.some.inj hrun).symm
    have hs : observedAt = started := by simpa using hstart
    subst hw hs
    refine ⟨rfl,rfl,?_,hlt,fun _ => ⟨rfl,?_⟩,fun hn => absurd hready hn⟩
    · rw [helapsed]
      exact le_max_left 0 _
    · rw [helapsed]
      simp
  · cases hr
    refine ⟨?_,?_,?_,hlt,fun he => absurd he hready,fun _ => ?_⟩
    · exact remainingFor_withRemaining _ _ _
    · exact remainingFor_withRemaining_opposite _ _ _
    · rw [helapsed]
      exact le_max_left 0 _
    · simp only [baseClock,hready,if_false,Option.map_eq_some_iff] at hstart
      obtain ⟨t,ht,he⟩ := hstart
      cases he
      exact ⟨_,ht,helapsed⟩

theorem admission_positive {color : PlayerColor} {observedAt : Millis} {clock : GameClock}
    {elapsed : ℤ} (hi : 0 ≤ g.incrementMs) (hw : 0 < g.whiteClockMs) (hb : 0 < g.blackClockMs)
    (h : admission g color observedAt = .ok (.accepted clock elapsed)) :
    0 < clock.whiteMs ∧ 0 < clock.blackMs := by
  obtain ⟨hmover,hother,_,hlt,_⟩ := admission_accepted h
  cases color with
  | w =>
    have hm : clock.whiteMs = g.whiteClockMs - elapsed + g.incrementMs := hmover
    have ho : clock.blackMs = g.blackClockMs := hother
    have hl : elapsed < g.whiteClockMs := hlt
    omega
  | b =>
    have hm : clock.blackMs = g.blackClockMs - elapsed + g.incrementMs := hmover
    have ho : clock.whiteMs = g.whiteClockMs := hother
    have hl : elapsed < g.blackClockMs := hlt
    omega

end Admission

namespace PersistedGame

variable {g g' : PersistedGame}

theorem Sound.join (h : g.Sound) {slot : ℕ} {observedAt : Millis}
    (hn : ¬ (g.status = .waitingForPlayers ∧
      (g.mapPlayer slot (GamePlayer.join observedAt)).joinedPlayers = 2)) :
    (g.mapPlayer slot (GamePlayer.join observedAt)).Sound where
  seats := h.seats_of (mapPlayer_seats _ _ fun _ => rfl)
  clocks := h.clocks
  increment := h.increment
  created := h.created
  waiting hw := ⟨fun hj => hn ⟨hw,hj⟩,(h.waiting hw).2⟩
  joined hj := by
    have hge : (g.mapPlayer slot (GamePlayer.join observedAt)).joinedPlayers ≥ 2 :=
      h.joined hj ▸ joinedPlayers_map_join slot observedAt
    have hle := joinedPlayers_le h
      (mapPlayer_seats slot (GamePlayer.join observedAt) fun _ => rfl)
    omega
  grace := h.grace.mapPlayer fun _ => ⟨rfl,rfl⟩
  turn := h.turn
  result := h.result
  termination := h.termination
  ended := h.ended

theorem Sound.ready (h : g.Sound) {slot : ℕ} {observedAt : Millis}
    (hs : g.status = .waitingForPlayers)
    (hn : (g.mapPlayer slot (GamePlayer.join observedAt)).joinedPlayers = 2) :
    (g.mapPlayer slot (GamePlayer.join observedAt)).readied.Sound where
  seats := h.seats_of (mapPlayer_seats _ _ fun _ => rfl)
  clocks _ := h.clocks (by rw [hs]; rfl)
  increment := h.increment
  created := by simp [readied]
  waiting hw := by cases hw
  joined _ := hn
  grace := by
    have hg : GraceSound g.status g.reconnectDeadlineAt
        (g.mapPlayer slot (GamePlayer.join observedAt)).players :=
      h.grace.mapPlayer fun _ => ⟨rfl,rfl⟩
    exact hg.withStatus (by rw [hs]; decide) (by simp [readied])
  turn := h.turn.trans (by rw [hs]; rfl)
  result := h.result.trans (by rw [hs]; rfl)
  termination := h.termination.trans (by rw [hs]; rfl)
  ended := h.ended.trans (by rw [hs]; rfl)

theorem Sound.start (h : g.Sound) (hs : g.status = .ready) (observedAt : Millis) :
    (g.start observedAt).Sound where
  seats := h.seats
  clocks _ := h.clocks (by rw [hs]; rfl)
  increment := h.increment
  created := by simp [PersistedGame.start]
  waiting hw := by cases hw
  joined _ := h.joined (by rw [hs]; rfl)
  grace := h.grace.withStatus (by simp [hs]) (by simp [PersistedGame.start])
  turn := rfl
  result := h.result.trans (by rw [hs]; rfl)
  termination := h.termination.trans (by rw [hs]; rfl)
  ended := h.ended.trans (by rw [hs]; rfl)

theorem Sound.leave (h : g.Sound) {slot : ℕ} :
    (g.mapPlayer slot GamePlayer.leave).Sound where
  seats := h.seats_of (mapPlayer_seats _ _ fun _ => rfl)
  clocks := h.clocks
  increment := h.increment
  created := h.created
  waiting hw := by
    rw [joinedPlayers_mapPlayer GamePlayer.leave fun _ => rfl]
    exact h.waiting hw
  joined hj := (joinedPlayers_mapPlayer GamePlayer.leave fun _ => rfl).trans (h.joined hj)
  grace := h.grace.mapPlayer fun _ => ⟨rfl,rfl⟩
  turn := h.turn
  result := h.result
  termination := h.termination
  ended := h.ended

theorem joinedPlayers_pair {p q : GamePlayer} (h : g.players = [p,q]) :
    g.joinedPlayers = 2 ↔ p.joinedAt.isSome ∧ q.joinedAt.isSome := by
  rw [joinedPlayers,h]
  cases hp : p.joinedAt <;> cases hq : q.joinedAt <;> simp [hp,hq]

/-- A player enters grace. The deadline of the game is the earlier of the two. -/
theorem Sound.disconnect (h : g.Sound) {player : GamePlayer} {observedAt graceDeadline : Millis}
    (hp : player ∈ g.players) (hs : g.status.started = true) :
    ((g.mapPlayer player.slot (GamePlayer.disconnect observedAt graceDeadline)).paused
      (earliest (graceDeadline :: g.otherDeadlines player.slot))).Sound where
  seats := h.seats_of (mapPlayer_seats _ _ fun _ => rfl)
  clocks _ := h.clocks (GameStatus.not_terminal_of_started hs)
  increment := h.increment
  created := by simp [paused]
  waiting hw := by cases hw
  joined _ := by
    have hj : g.status.joined = true := by
      cases hst : g.status <;> simp_all [GameStatus.started,GameStatus.joined]
    exact (joinedPlayers_mapPlayer (GamePlayer.disconnect observedAt graceDeadline)
      fun _ => rfl).trans (h.joined hj)
  grace := by
    obtain ⟨other,_,hmem,hmem',hothers⟩ :=
      h.player_cases hp (GamePlayer.disconnect observedAt graceDeadline)
    constructor
    · intro p hp'
      rcases (hmem' p).mp hp' with rfl | rfl
      · rfl
      · exact h.grace.together _ ((hmem p).mpr (Or.inr rfl))
    · exact ⟨fun _ => ⟨_,(hmem' _).mpr (Or.inl rfl),rfl⟩,fun _ => rfl⟩
    · rw [hothers]
      refine earliest_congr fun v => ?_
      simp only [List.mem_cons,List.mem_filterMap,Option.mem_toList]
      constructor
      · rintro (rfl | hv)
        · exact ⟨_,(hmem' _).mpr (Or.inl rfl),rfl⟩
        · exact ⟨other,(hmem' _).mpr (Or.inr rfl),hv⟩
      · rintro ⟨p,hp',hv⟩
        rcases (hmem' p).mp hp' with rfl | rfl
        · exact Or.inl (Option.some.inj hv).symm
        · exact Or.inr hv
  turn := h.turn.trans hs
  result := h.result.trans (GameStatus.not_terminal_of_started hs)
  termination := h.termination.trans (GameStatus.not_terminal_of_started hs)
  ended := h.ended.trans (GameStatus.not_terminal_of_started hs)

/-- A player leaves grace. The game goes on unless the other player is still in grace. -/
theorem Sound.reconnect (h : g.Sound) {player : GamePlayer} {observedAt : Millis}
    (hp : player ∈ g.players) (hs : g.status = .reconnecting) :
    ((g.mapPlayer player.slot (GamePlayer.reconnect observedAt)).resumed
      (g.otherDeadlines player.slot)).Sound := by
  obtain ⟨other,_,hmem,hmem',hothers⟩ := h.player_cases hp (GamePlayer.reconnect observedAt)
  have hstatus : ∀ l : List Millis, (if l = [] then GameStatus.inProgress
      else .reconnecting).started = true := by
    intro l
    split_ifs <;> rfl
  refine {
    seats := h.seats_of (mapPlayer_seats _ _ fun _ => rfl)
    clocks := fun _ => h.clocks (by rw [hs]; rfl)
    increment := h.increment
    created := ?_
    waiting := ?_
    joined := ?_
    grace := ?_
    turn := h.turn.trans (by rw [hs]; exact (hstatus _).symm)
    result := ?_
    termination := ?_
    ended := ?_ }
  · simp only [resumed]
    split_ifs <;> simp
  · intro hw
    simp only [resumed] at hw
    split_ifs at hw
  · intro _
    exact (joinedPlayers_mapPlayer (GamePlayer.reconnect observedAt)
      fun _ => rfl).trans (h.joined (by rw [hs]; rfl))
  · have htogether := h.grace.together other ((hmem other).mpr (Or.inr rfl))
    constructor
    · intro p hp'
      rcases (hmem' p).mp hp' with rfl | rfl
      · rfl
      · exact htogether
    · simp only [resumed,hothers]
      constructor
      · intro hr
        refine ⟨other,(hmem' _).mpr (Or.inr rfl),?_⟩
        rw [htogether]
        cases hg : other.reconnectGraceEndsAt with
        | none => simp [hg] at hr
        | some d => rfl
      · rintro ⟨p,hp',hd⟩
        rcases (hmem' p).mp hp' with rfl | rfl
        · cases hd
        · rw [htogether] at hd
          obtain ⟨d,hd⟩ := Option.isSome_iff_exists.mp hd
          simp [hd]
    · simp only [resumed,hothers]
      refine earliest_congr fun v => ?_
      simp only [List.mem_filterMap,Option.mem_toList]
      constructor
      · exact fun hv => ⟨other,(hmem' _).mpr (Or.inr rfl),hv⟩
      · rintro ⟨p,hp',hv⟩
        rcases (hmem' p).mp hp' with rfl | rfl
        · cases hv
        · exact hv
  · exact h.result.trans (by rw [hs]; exact (GameStatus.not_terminal_of_started (hstatus _)).symm)
  · exact h.termination.trans
      (by rw [hs]; exact (GameStatus.not_terminal_of_started (hstatus _)).symm)
  · exact h.ended.trans (by rw [hs]; exact (GameStatus.not_terminal_of_started (hstatus _)).symm)

theorem Sound.addCommand (h : g.Sound) (c : GameCommand) : (g.addCommand c).Sound :=
  ⟨h.seats,h.clocks,h.increment,h.created,h.waiting,h.joined,h.grace,h.turn,h.result,
    h.termination,h.ended⟩

theorem Sound.addMove (h : g.Sound) (r : MoveRow) : (g.addMove r).Sound :=
  ⟨h.seats,h.clocks,h.increment,h.created,h.waiting,h.joined,h.grace,h.turn,h.result,
    h.termination,h.ended⟩

theorem Sound.finish (h : g.Sound) (observation : Micros) (outcome : TerminalOutcome) :
    (g.ended observation outcome).Sound where
  seats := h.seats_of (ended_seats g observation outcome)
  clocks hs := by
    rw [ended_terminal] at hs
    cases hs
  increment := h.increment
  created := by cases hs : outcome.status <;> simp [PersistedGame.ended,finalized,mapPlayers,hs,
    TerminalStatus.toGameStatus]
  waiting hw := by
    have ht := ended_terminal g observation outcome
    rw [hw] at ht
    cases ht
  joined hj := by
    have ht := ended_terminal g observation outcome
    rw [GameStatus.joined_not_terminal hj] at ht
    cases ht
  grace := by
    have hn : outcome.status.toGameStatus ≠ .reconnecting := by
      cases outcome.status <;> simp [TerminalStatus.toGameStatus]
    exact GraceSound.cleared hn
  turn := outcome.status.toGameStatus_started.symm
  result := (ended_terminal g observation outcome).symm
  termination := (ended_terminal g observation outcome).symm
  ended := (ended_terminal g observation outcome).symm

/-- A move is played on a game without grace, and leaves none. -/
theorem Sound.updateRow {chess : ChessEngine} {m : AdmittedMove}
    {guests : GuestSessionId × GuestSessionId} (h : m.game.Sound) (hm : m.Admitted chess guests) :
    (m.updateRow m.game).Sound := by
  obtain ⟨hstatus,_,_,_,⟨elapsed,hadm⟩,_,_⟩ := admitMove_ok hm.admitted
  have hterminal : m.game.status.terminal = false := by
    rcases hstatus with hs | hs <;> rw [hs] <;> rfl
  have hpositive := admission_positive h.increment (h.clocks hterminal).1 (h.clocks hterminal).2 hadm
  have hgrace : m.game.status ≠ .reconnecting := by
    rcases hstatus with hs | hs <;> rw [hs] <;> decide
  have hjoined : m.game.joinedPlayers = 2 := by
    apply h.joined
    rcases hstatus with hs | hs <;> rw [hs] <;> rfl
  have hresult : m.game.result = none := by
    simpa [hterminal] using h.result
  have htermination : m.game.termination = none := by
    simpa [hterminal] using h.termination
  have hended : m.game.endedAt = none := by
    simpa [hterminal] using h.ended
  cases ht : m.terminal with
  | none =>
    have hrow : (m.updateRow m.game).status = .inProgress := by
      rcases hstatus with hs | hs <;> simp [AdmittedMove.updateRow,ht,hs]
    refine {
      seats := h.seats
      clocks := fun _ => hpositive
      increment := h.increment
      created := by rw [hrow]; decide
      waiting := fun hw => by rw [hrow] at hw; cases hw
      joined := fun _ => hjoined
      grace := h.grace.withStatus hgrace (by rw [hrow]; decide)
      turn := by rw [hrow]; simp [AdmittedMove.updateRow,ht,GameStatus.started]
      result := by rw [hrow]; simp [AdmittedMove.updateRow,ht,hresult,GameStatus.terminal]
      termination := by
        rw [hrow]; simp [AdmittedMove.updateRow,ht,htermination,GameStatus.terminal]
      ended := by rw [hrow]; simp [AdmittedMove.updateRow,ht,hended,GameStatus.terminal] }
  | some t =>
    have hrow : (m.updateRow m.game).status = t.status.toGameStatus := by
      simp [AdmittedMove.updateRow,ht]
    have hn : t.status.toGameStatus ≠ .reconnecting := by
      cases t.status <;> simp [TerminalStatus.toGameStatus]
    refine {
      seats := h.seats
      clocks := fun _ => hpositive
      increment := h.increment
      created := by rw [hrow]; cases t.status <;> simp [TerminalStatus.toGameStatus]
      waiting := fun hw => by
        rw [hrow] at hw
        cases hts : t.status <;> simp [hts,TerminalStatus.toGameStatus] at hw
      joined := fun _ => hjoined
      grace := h.grace.withStatus hgrace (by rw [hrow]; exact hn)
      turn := by rw [hrow]; simp [AdmittedMove.updateRow,ht]
      result := by rw [hrow]; simp [AdmittedMove.updateRow,ht]
      termination := by rw [hrow]; simp [AdmittedMove.updateRow,ht]
      ended := by rw [hrow]; simp [AdmittedMove.updateRow,ht] }

end PersistedGame

/-- Every change of a game row keeps the invariant. -/
theorem GameChange.sound {chess : ChessEngine} {g g' : PersistedGame}
    (h : GameChange chess g g') (hg : g.Sound) : g'.Sound := by
  cases h with
  | join _ _ hn => exact hg.join hn
  | ready _ hs hn => exact hg.ready hs hn
  | start hs => exact hg.start hs _
  | move he hm =>
    subst he
    exact ((hg.updateRow hm).addMove _).addCommand _
  | leave _ _ => exact hg.leave
  | disconnect hp hs _ _ => exact hg.disconnect hp hs
  | reconnect hp hs _ => exact hg.reconnect hp hs
  | finish _ _ => exact hg.finish _ _
  | resign _ _ _ _ _ => exact (hg.finish _ _).addCommand _

theorem newGameRow_sound {input : AllocateGame}
    (hd : input.whiteGuestSessionId ≠ input.blackGuestSessionId)
    (hc : (newGameRow input).rowChecks) : (newGameRow input).Sound where
  seats := ⟨_,_,hd,rfl⟩
  clocks _ := ⟨hc.1.1,hc.1.1⟩
  increment := hc.1.2.1
  created := by simp [newGameRow]
  waiting _ := ⟨by simp [PersistedGame.joinedPlayers,newGameRow],rfl⟩
  joined hj := by cases hj
  grace := ⟨by simp [newGameRow],by simp [newGameRow],rfl⟩
  turn := rfl
  result := rfl
  termination := rfl
  ended := rfl

end CluChess
