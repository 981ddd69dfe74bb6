import CluChess.DurableDatabase

/-! Refused operations. An operation that throws or answers `null` leaves the games and the
assignments as they are, because the guarded write of a game row, once it is reached, finds the
version that the transaction has read under the lock. -/
namespace CluChess

variable {chess : ChessEngine} {db db' : Db} {g g' : PersistedGame}

section Mapping

theorem mapPlayer_of_slot (gameId : GameId) {p : GamePlayer} (h : p.slot = 0 ∨ p.slot = 1) :
    ∃ r, mapPlayer gameId p = .ok r := by
  have hslot : ¬ (p.slot ≠ 0 ∧ p.slot ≠ 1) := fun hn => h.elim hn.1 hn.2
  unfold mapPlayer
  rw [if_neg hslot]
  exact ⟨_,rfl⟩

theorem mapAllocation_of_sound (h : g.Sound) : ∃ a, mapAllocation g = .ok a := by
  obtain ⟨p,q,hpair,hp,hq,_⟩ := h.pair
  obtain ⟨white,hwhite⟩ := mapPlayer_of_slot g.id (Or.inl hp)
  obtain ⟨black,hblack⟩ := mapPlayer_of_slot g.id (Or.inr hq)
  refine ⟨⟨mapGame g,(white,black)⟩,?_⟩
  have hplayers : g.players.mapM (mapPlayer g.id) = .ok [white,black] := by
    rw [hpair]
    simp only [List.mapM_cons,List.mapM_nil,hwhite,hblack]
    rfl
  unfold mapAllocation
  rw [hplayers]
  rfl

theorem allocationResult_not_rejected (h : g.Sound) :
    ¬ (Answer.allocation (allocationResult g)).rejected := by
  obtain ⟨a,ha⟩ := mapAllocation_of_sound h
  have hr : allocationResult g = .ok a := by
    unfold allocationResult
    rw [ha]
    rfl
  rw [hr]
  exact fun h => h

theorem startResult_not_rejected (h : g.Sound) (started : Bool) :
    ¬ (Answer.start (startResult g started)).rejected := by
  obtain ⟨a,ha⟩ := mapAllocation_of_sound h
  have hr : startResult g started = .ok ⟨a,started⟩ := by
    unfold startResult
    rw [ha]
    rfl
  rw [hr]
  exact fun h => h

end Mapping

section Guard

/-- Whatever other transactions have committed in the meantime, they have not touched the row
that this one has locked: after a write of a player the guarded write finds its version. -/
theorem guarded_update_matches {id : GameId} {slot count : ℕ} {data : GamePlayer → GamePlayer}
    {row : PersistedGame → PersistedGame} {db₁ db₂ db₃ : Db} (hg : db.games.find id = some g)
    (hp : db.updatePlayer id slot data = .ok db₁)
    (hlock : db₂.games.find id = db₁.games.find id)
    (hu : db₂.updateGameMany id g.version row = .ok (count,db₃)) : count = 1 := by
  obtain ⟨_,rfl⟩ := Db.updatePlayer_ok hg hp
  have hid : g.id = id := Table.find_key hg
  subst hid
  have hfound : (db.replaceGame (g.mapPlayer slot data)).games.find g.id =
      some (g.mapPlayer slot data) := find_replaceGame_self hg rfl
  rw [hfound] at hlock
  exact (Db.updateGameMany_ok (g := g.mapPlayer slot data) hlock hu).1

end Guard

/-- The one write of a refused operation: the player of a game that waits for its players has
disconnected, and is no longer connected. -/
inductive Leaves (db : Db) : Operation → Db → Prop
  | leave {guest : GuestSessionId} {id : GameId} {graceMs : ℤ} {observation : Micros}
      {g : PersistedGame} {player : GamePlayer} (hg : db.games.find id = some g)
      (hs : g.status = .waitingForPlayers) (hp : g.playerFor guest = some player) :
      Leaves db (.markDisconnected guest (some id) graceMs observation)
        (db.replaceGame (g.mapPlayer player.slot GamePlayer.leave))

theorem Writes.of_rejected {op : Operation} {answer : Answer} (h : Writes chess g op answer g')
    (hs : g'.Sound) (hr : answer.rejected) : ∃ guest gameId graceMs observation player,
      op = .markDisconnected guest (some gameId) graceMs observation ∧
      g.status = .waitingForPlayers ∧ g.playerFor guest = some player ∧
      g' = g.mapPlayer player.slot GamePlayer.leave := by
  cases h with
  | join hp => exact absurd hr (allocationResult_not_rejected hs)
  | ready hp hw => exact absurd hr (allocationResult_not_rejected hs)
  | startIfReady hw => exact absurd hr (startResult_not_rejected hs true)
  | leave hp hw => exact ⟨_,_,_,_,_,rfl,hw,hp,rfl⟩
  | _ => exact absurd hr fun h => h

theorem rejected_outcome (hdb : db.Sound) {op : Operation} {answer : Answer}
    (h : Outcome chess db op answer db') (hr : answer.rejected) :
    (db'.games = db.games ∧ db'.assignments = db.assignments) ∨ Leaves db op db' := by
  cases h with
  | session _ _ h => exact Or.inl (Outcome.frame_session h)
  | kept h _ => exact Or.inl ⟨congrArg Db.games h,congrArg Db.assignments h⟩
  | allocated hop hd h hanswer =>
    have hrow := newGameRow_sound hd h.checks
    rw [hanswer] at hr
    exact absurd hr (allocationResult_not_rejected hrow)
  | @wrote id g g' _ hid hw hwrites =>
    have hsound : g'.Sound := hw.change.sound (hdb.games id g hw.found)
    obtain ⟨guest,gameId,graceMs,observation,player,rfl,hwaiting,hp,rfl⟩ :=
      hwrites.of_rejected hsound hr
    cases hid
    have hterminal : (g.mapPlayer player.slot GamePlayer.leave).status.terminal = false := by
      show g.status.terminal = false
      rw [hwaiting]
      rfl
    rw [hw.result,settle_of_not_terminal hterminal]
    exact Or.inr (.leave hw.found hwaiting hp)

/-- Rejections write nothing. Whatever has been committed before, an operation that throws or
answers `null` leaves the games and the assignments as they were, or clears the connection of
a player who waits for the start. After the write of a player the guarded write of the game
always matches. -/
theorem rejections_write_nothing (h : db.Reachable chess) :
    (∀ op, (execute chess db op).1.rejected →
      ((execute chess db op).2.games = db.games ∧
        (execute chess db op).2.assignments = db.assignments) ∨
      Leaves db op (execute chess db op).2) ∧
    ∀ id g slot data row (db₁ db₂ db₃ : Db) count, db.games.find id = some g →
      db.updatePlayer id slot data = .ok db₁ → db₂.games.find id = db₁.games.find id →
      db₂.updateGameMany id g.version row = .ok (count,db₃) → count = 1 :=
  ⟨fun op hr => rejected_outcome h.sound (execute_outcome chess db op) hr,
    fun _ _ _ _ _ _ _ _ _ hg hp hlock hu => guarded_update_matches hg hp hlock hu⟩

section Sample

def sampleResign : Operation :=
  .resign ⟨sampleId 40,2,sampleId 10,sampleId 1⟩ 3000000

def sampleLeave : Operation := .markDisconnected (sampleId 1) (some (sampleId 10)) 30000 1500000

end Sample

theorem rejections_write_nothing_sample :
    (execute sampleEngine (sampleRun sampleJoins) sampleResign).2.games =
        (sampleRun sampleJoins).games ∧
      Leaves (sampleRun (sampleJoins.take 2)) sampleLeave
        (execute sampleEngine (sampleRun (sampleJoins.take 2)) sampleLeave).2 := by
  constructor
  · have hrejected : (execute sampleEngine (sampleRun sampleJoins) sampleResign).1.rejected := trivial
    rcases (rejections_write_nothing (sampleRun_reachable sampleJoins)).1 sampleResign hrejected with
      hkept | hleaves
    · exact hkept.1
    · exact nomatch hleaves
  · have hrejected : (execute sampleEngine (sampleRun (sampleJoins.take 2)) sampleLeave).1.rejected :=
      trivial
    rcases (rejections_write_nothing (sampleRun_reachable _)).1 sampleLeave hrejected with
      hkept | hleaves
    · have hconnected : ∀ db : Db, db.games = (sampleRun (sampleJoins.take 2)).games →
          ((db.games.find (sampleId 10)).map PersistedGame.players) ≠
            some [⟨0,sampleId 1,.w,some 1000,none,none,none⟩,
              ⟨1,sampleId 2,.b,none,none,none,none⟩] := by
        intro db he
        rw [he]
        decide
      exact absurd rfl (hconnected _ hkept.1)
    · exact hleaves

end CluChess
