import CluChess.DurableSessions

/-! The cleanup of expired guest sessions, which `session-maintenance.service.ts` runs in batches.
It takes the sessions that expired first, so the sessions that expire meanwhile never hold up an
older one, and a session that some row references is never taken. -/
namespace CluChess

section Taken

variable {α : Type*} {r : α → α → Prop} [DecidableRel r] [Std.Total r] [IsTrans α r]

theorem taken_of_left {xs : List α} {n : ℕ} {x : α} (hx : x ∈ xs)
    (hleft : x ∉ (xs.insertionSort r).take n) :
    ((xs.insertionSort r).take n).length = n ∧ ∀ y ∈ (xs.insertionSort r).take n, r y x := by
  have hsorted := List.pairwise_insertionSort r xs
  have hmem : x ∈ xs.insertionSort r := (List.mem_insertionSort r).mpr hx
  rw [← List.take_append_drop n (xs.insertionSort r)] at hsorted hmem
  have hdrop : x ∈ (xs.insertionSort r).drop n := (List.mem_append.mp hmem).resolve_left hleft
  refine ⟨?_,fun y hy => (List.pairwise_append.mp hsorted).2.2 y hy x hdrop⟩
  have hpos := List.length_pos_of_mem hdrop
  rw [List.length_drop] at hpos
  rw [List.length_take]
  omega

end Taken

def PersistedGame.Refers (g : PersistedGame) (guest : GuestSessionId) : Prop :=
  (∃ p ∈ g.players, p.guestSessionId = guest) ∨ (∃ m ∈ g.moves, m.guestSessionId = guest) ∨
    ∃ c ∈ g.commands, c.guestSessionId = guest

section References

variable {chess : ChessEngine} {db db' : Db} {g g' : PersistedGame} {guest : GuestSessionId}

theorem GameChange.moves_subset (h : GameChange chess g g') : g.moves ⊆ g'.moves := by
  cases h with
  | move hg _ =>
    subst hg
    exact fun _ hm => (List.mem_orderedInsert _).mpr (Or.inr hm)
  | _ => exact fun _ => id

theorem GameChange.refers (h : GameChange chess g g') (hr : g.Refers guest) : g'.Refers guest := by
  rcases hr with ⟨p,hp,hguest⟩ | ⟨m,hm,hguest⟩ | ⟨c,hc,hguest⟩
  · have hmem := List.mem_map_of_mem (f := GamePlayer.seat) hp
    rw [← h.seats_eq] at hmem
    obtain ⟨p',hp',hseat⟩ := List.mem_map.mp hmem
    exact Or.inl ⟨p',hp',(congrArg (fun seat => seat.2.1) hseat).trans hguest⟩
  · exact Or.inr (Or.inl ⟨m,h.moves_subset hm,hguest⟩)
  · exact Or.inr (Or.inr ⟨c,h.commands_prefix.subset hc,hguest⟩)

theorem guestReferenced_of_refers {id : GameId} (hg : db.games.find id = some g)
    (hr : g.Refers guest) : db.guestReferenced guest = true := by
  have hrow : ((g.players.any fun p => decide (p.guestSessionId = guest)) ||
      (g.moves.any fun m => decide (m.guestSessionId = guest)) ||
      g.commands.any fun c => decide (c.guestSessionId = guest)) = true := by
    simp only [Bool.or_eq_true,List.any_eq_true,decide_eq_true_eq,or_assoc]
    exact hr
  unfold Db.guestReferenced
  rw [Bool.or_eq_true]
  exact Or.inl (List.any_eq_true.mpr ⟨g,Table.find_mem hg,hrow⟩)

theorem Db.Sound.refers (hs : db.Sound) (h : db.guestReferenced guest = true) :
    ∃ id g, db.games.find id = some g ∧ g.Refers guest := by
  unfold Db.guestReferenced at h
  rcases Bool.or_eq_true _ _ |>.mp h with hgame | hassigned
  · obtain ⟨g,hg,hr⟩ := List.any_eq_true.mp hgame
    simp only [Bool.or_eq_true,List.any_eq_true,decide_eq_true_eq,or_assoc] at hr
    exact ⟨g.id,g,Table.find_of_mem hg,hr⟩
  · obtain ⟨a,ha,hguest⟩ := List.any_eq_true.mp hassigned
    obtain ⟨g,hg,_,p,hp,hplayer⟩ := hs.assigned a ha
    exact ⟨a.gameId,g,hg,Or.inl ⟨p,hp,hplayer.trans (of_decide_eq_true hguest)⟩⟩

theorem DbChange.guestReferenced (h : DbChange chess db db') (hs : db.Sound)
    (hr : db.guestReferenced guest = true) : db'.guestReferenced guest = true := by
  obtain ⟨id,g,hg,hrefers⟩ := hs.refers hr
  obtain ⟨g',hg',rfl | hchange⟩ := h.row hg
  · exact guestReferenced_of_refers hg' hrefers
  · exact guestReferenced_of_refers hg' (hchange.refers hrefers)

end References

/-- The operation reads the clock at the instant or later. Tokens are issued for a positive time. -/
def Operation.From (e : Millis) : Operation → Prop
  | .session (.create _ input) => e ≤ input.issuedClaims.issuedAt ∧ input.issuedClaims.lasting
  | .session (.renew _ input) => e ≤ input.issuedClaims.issuedAt ∧ input.issuedClaims.lasting
  | .session (.reset _ input) => e ≤ input.revokedAt
  | _ => True

/-- How many sessions a cleanup may delete that comes after the instant and does not find the
session of the guest locked. -/
def Operation.cleanupLimit (e : Millis) (guest : GuestSessionId) : Operation → ℕ
  | .session (.cleanupExpired cutoff limit locked) =>
    if e < cutoff ∧ guest ∉ locked then limit else 0
  | _ => 0

/-- The number of the sessions that had expired at the instant and that no row references. -/
def Db.expiredSessions (db : Db) (e : Millis) : ℕ :=
  db.guestSessions.rows.countP fun s => decide (s.expiresAt ≤ e) && !db.guestReferenced s.id

/-- What an operation does to the sessions. What it writes outlives the clock that it reads. -/
inductive SessionsChange (op : Operation) (db db' : Db) : Prop
  | kept (h : db'.guestSessions = db.guestSessions)
  | created (row : GuestSession) (h : db.guestSessions.insert row = some db'.guestSessions)
      (he : ∀ e, op.From e → e < row.expiresAt)
  | changed (row : GuestSession) (h : db'.guestSessions = db.guestSessions.put row)
      (he : ∀ e, op.From e → e < row.expiresAt)
  | cleaned (cutoff : Millis) (limit : ℕ) (locked : List GuestSessionId)
      (hop : op = .session (.cleanupExpired cutoff limit locked))
      (h : db' = (db.cleanupExpired cutoff limit locked).2)

section Sessions

variable {chess : ChessEngine} {db db' : Db} {e : Millis} {guest : GuestSessionId} {op : Operation}

theorem SessionsChange.of_transaction {work : Except SessionFailure (SessionMutationResult × Db)}
    (hw : ∀ r db', work = .ok (r,db') → SessionsChange op db db') :
    SessionsChange op db (db.sessionTransaction work).2 := by
  cases work with
  | error _ => exact .kept rfl
  | ok r => exact hw r.1 r.2 rfl

theorem SessionsChange.of_changeSession {id : GuestSessionId} {t : Millis}
    {change : GuestSession → GuestSession} {command : SessionCommand} {r : SessionMutationResult}
    (hlater : ∀ (s : GuestSession) (e : Millis), op.From e → t < s.expiresAt →
      e < (change s).expiresAt)
    (h : db.changeSession id t change command = .ok (r,db')) : SessionsChange op db db' := by
  obtain ⟨current,hcurrent,_,hput,_⟩ := Db.changeSession_ok h
  refine .changed _ hput fun e hop => hlater current e hop ?_
  have havailable := (Db.availableSession_ok hcurrent).2.2
  omega

theorem execute_sessionsChange (chess : ChessEngine) (db : Db) (op : Operation) :
    SessionsChange op db (execute chess db op).2 := by
  by_cases hsession : ∃ operation, op = .session operation
  · obtain ⟨operation,rfl⟩ := hsession
    have hreplay : ∀ (command : SessionCommand) (r : SessionMutationResult) (db' : Db),
        (db.toCommandReplay command).map (·,db) = .ok (r,db') →
          SessionsChange (.session operation) db db' :=
      fun command r db' hw => .kept (by rw [Db.toCommandReplay_frame hw])
    cases operation with
    | create existing input =>
      refine .of_transaction fun r db' hw => ?_
      cases existing with
      | some command => exact hreplay command r db' hw
      | none =>
        obtain ⟨db₁,hrow,hw⟩ := bind_eq_ok.mp hw
        obtain ⟨db₂,hcommand,hw⟩ := bind_eq_ok.mp hw
        cases hw
        have hinsert := (Db.createGuestSession_ok hrow).1
        rw [← (Db.createSessionCommand_ok hcommand).2] at hinsert
        exact .created _ hinsert fun _ hop => lt_of_le_of_lt hop.1 hop.2
    | renew existing input =>
      refine .of_transaction fun r db' hw => ?_
      cases existing with
      | some command => exact hreplay command r db' hw
      | none =>
        refine .of_changeSession ?_ hw
        exact fun _ _ hop _ => lt_of_le_of_lt hop.1 hop.2
    | reset existing input =>
      refine .of_transaction fun r db' hw => ?_
      cases existing with
      | some command => exact hreplay command r db' hw
      | none =>
        refine .of_changeSession ?_ hw
        exact fun _ _ hop hs => lt_of_le_of_lt hop hs
    | cleanupExpired cutoff limit locked => exact .cleaned cutoff limit locked rfl rfl
  · exact .kept (execute_sessions chess db fun operation he => hsession ⟨operation,he⟩).1

theorem SessionsChange.gone (h : SessionsChange op db db') {s : GuestSession}
    (hs : db.guestSessions.find guest = some s) (hgone : db'.guestSessions.find guest = none) :
    ∃ cutoff limit locked, op = .session (.cleanupExpired cutoff limit locked) ∧
      db' = (db.cleanupExpired cutoff limit locked).2 := by
  cases h with
  | kept h =>
    rw [h,hs] at hgone
    cases hgone
  | created row h _ =>
    rw [Table.find_insert_of_found h hs] at hgone
    cases hgone
  | changed row h _ =>
    rw [h,Table.find_put,hs] at hgone
    split_ifs at hgone
    cases hgone
  | cleaned cutoff limit locked hop h => exact ⟨cutoff,limit,locked,hop,h⟩

theorem SessionsChange.before (h : SessionsChange op db db') (hop : op.From e) {s : GuestSession}
    (hs : db'.guestSessions.find guest = some s) (he : s.expiresAt ≤ e) :
    db.guestSessions.find guest = some s := by
  cases h with
  | kept h => rwa [h] at hs
  | created row h hrow =>
    rw [Table.find_insert h] at hs
    split_ifs at hs
    · cases hs
      exact absurd (hrow e hop) (not_lt.mpr he)
    · exact hs
  | changed row h hrow =>
    rw [h,Table.find_put] at hs
    split_ifs at hs
    · obtain ⟨_,_,rfl⟩ := Option.map_eq_some_iff.mp hs
      exact absurd (hrow e hop) (not_lt.mpr he)
    · exact hs
  | cleaned cutoff limit locked _ h =>
    subst h
    have hs : (db.guestSessions.deleteWhere _).find guest = some s := hs
    rw [Table.find_deleteWhere] at hs
    exact (Option.filter_eq_some_iff.mp hs).1

theorem SessionsChange.expiredSessions_le (h : SessionsChange op db db') (hop : op.From e)
    (hr : ∀ guest, db.guestReferenced guest = true → db'.guestReferenced guest = true) :
    db'.expiredSessions e ≤ db.expiredSessions e := by
  have hle : ∀ s : GuestSession,
      (decide (s.expiresAt ≤ e) && !db'.guestReferenced s.id) = true →
      (decide (s.expiresAt ≤ e) && !db.guestReferenced s.id) = true := by
    intro s hs
    rw [Bool.and_eq_true,Bool.not_eq_true'] at hs ⊢
    refine ⟨hs.1,Bool.eq_false_iff.mpr fun hreferenced => ?_⟩
    rw [hr _ hreferenced] at hs
    cases hs.2
  have hlate : ∀ row : GuestSession, e < row.expiresAt →
      (decide (row.expiresAt ≤ e) && !db'.guestReferenced row.id) = false := by
    intro row hrow
    rw [decide_eq_false (not_le.mpr hrow),Bool.false_and]
  unfold Db.expiredSessions
  cases h with
  | kept h =>
    rw [h]
    exact List.countP_mono_left fun s _ => hle s
  | created row h hrow =>
    rw [(Table.insert_fresh h).2,List.countP_append,List.countP_singleton,hlate row (hrow e hop)]
    exact List.countP_mono_left fun s _ => hle s
  | changed row h hrow =>
    rw [h]
    show List.countP _ (db.guestSessions.rows.map _) ≤ _
    rw [List.countP_map]
    refine List.countP_mono_left fun s _ hs => ?_
    simp only [Function.comp_apply] at hs
    split_ifs at hs
    · rw [hlate row (hrow e hop)] at hs
      cases hs
    · exact hle s hs
  | cleaned cutoff limit locked _ h =>
    subst h
    exact (List.countP_mono_left fun s _ => hle s).trans List.filter_sublist.countP_le

theorem cleanupExpired_deleted {cutoff : Millis} {limit : ℕ} {locked : List GuestSessionId}
    {s : GuestSession} (hs : db.guestSessions.find guest = some s)
    (hgone : (db.cleanupExpired cutoff limit locked).2.guestSessions.find guest = none) :
    s.expiresAt < cutoff ∧ db.guestReferenced guest = false ∧ guest ∉ locked ∧
      ∀ command ∈ (db.cleanupExpired cutoff limit locked).2.sessionCommands.rows,
        command.guestSessionId ≠ guest := by
  have hkey : s.id = guest := Table.find_key hs
  unfold Db.cleanupExpired at hgone ⊢
  simp only at hgone ⊢
  rw [Table.find_deleteWhere,hs,Option.filter_eq_none_iff] at hgone
  have hcandidate := hgone s rfl
  rw [Bool.not_eq_true,Bool.not_eq_false',decide_eq_true_eq] at hcandidate
  obtain ⟨row,hrow,hid⟩ := List.mem_map.mp hcandidate
  have hmem := (List.mem_insertionSort _).mp (List.mem_of_mem_take hrow)
  obtain ⟨hstored,heligible⟩ := List.mem_filter.mp hmem
  have hrow : row = s := by
    have hfind := Table.find_of_mem hstored
    rw [hid,hkey,hs] at hfind
    exact (Option.some.inj hfind).symm
  subst hrow
  simp only [Bool.and_eq_true,decide_eq_true_eq,Bool.not_eq_true',hkey] at heligible
  obtain ⟨⟨hexpired,hfree⟩,hlocked⟩ := heligible
  refine ⟨hexpired,hfree,hlocked,fun command hcommand heq => ?_⟩
  have hkept := (Table.mem_deleteWhere.mp hcommand).2
  rw [heq,← hkey] at hkept
  exact of_decide_eq_false hkept hcandidate

/-- A cleanup that comes to an expired session deletes it, or as many that expired before. -/
theorem cleanupExpired_progress {cutoff : Millis} {limit : ℕ} {locked : List GuestSessionId}
    {s : GuestSession} (hcutoff : e < cutoff) (hunlocked : guest ∉ locked)
    (hs : (db.cleanupExpired cutoff limit locked).2.guestSessions.find guest = some s)
    (he : s.expiresAt ≤ e) (hfree : db.guestReferenced guest = false) :
    (db.cleanupExpired cutoff limit locked).2.expiredSessions e + limit ≤
      db.expiredSessions e := by
  set eligible := db.guestSessions.rows.filter fun g =>
    decide (g.expiresAt < cutoff) && !db.guestReferenced g.id && decide (g.id ∉ locked)
    with heligible
  set taken := (eligible.insertionSort fun a b => a.expiresAt ≤ b.expiresAt).take limit with htaken
  set candidates := taken.map GuestSession.id with hcandidates
  set stale : GuestSession → Bool := fun g =>
    decide (g.expiresAt ≤ e) && !db.guestReferenced g.id with hstale
  have hrows : (db.cleanupExpired cutoff limit locked).2.guestSessions.rows =
      db.guestSessions.rows.filter fun g => !decide (g.id ∈ candidates) := rfl
  obtain ⟨hmem,hkept⟩ := Table.mem_deleteWhere.mp (Table.find_mem hs)
  have hkey : s.id = guest := Table.find_key hs
  have hin : s ∈ eligible := by
    rw [heligible,List.mem_filter]
    simp [hmem,hkey,hfree,hunlocked,lt_of_le_of_lt he hcutoff]
  have hleft : s ∉ taken := fun ht =>
    absurd (List.mem_map_of_mem ht) (of_decide_eq_false hkept)
  obtain ⟨hlength,hearlier⟩ := taken_of_left hin hleft
  have htakenIn : ∀ y ∈ taken, y ∈ eligible := fun y hy =>
    (List.mem_insertionSort _).mp (List.mem_of_mem_take hy)
  have hstaleTaken : ∀ y ∈ taken, stale y = true := by
    intro y hy
    have heligibleY := (List.mem_filter.mp (htakenIn y hy)).2
    simp only [Bool.and_eq_true] at heligibleY
    rw [hstale,Bool.and_eq_true]
    exact ⟨decide_eq_true ((hearlier y hy).trans he),heligibleY.1.2⟩
  have hnodup : taken.Nodup := by
    have hsessions := List.Nodup.of_map _ db.guestSessions.nodup
    exact ((List.perm_insertionSort _ _).nodup_iff.mpr (hsessions.filter _)).sublist
      (List.take_sublist _ _)
  have hcount : limit ≤ (db.guestSessions.rows.filter fun g =>
      decide (g.id ∈ candidates)).countP stale := by
    rw [← hlength,List.countP_eq_length_filter]
    refine (List.subperm_of_subset hnodup fun y hy => ?_).length_le
    exact List.mem_filter.mpr ⟨List.mem_filter.mpr ⟨(List.mem_filter.mp (htakenIn y hy)).1,
      decide_eq_true (List.mem_map_of_mem hy)⟩,hstaleTaken y hy⟩
  have hsplit := List.countP_eq_countP_filter_add db.guestSessions.rows stale
    fun g => decide (g.id ∈ candidates)
  unfold Db.expiredSessions
  rw [hrows]
  change List.countP stale _ + limit ≤ List.countP stale db.guestSessions.rows
  omega

theorem expiredSessions_step (chess : ChessEngine) (hdb : db.Sound) (hop : op.From e)
    {s : GuestSession} (hs : (execute chess db op).2.guestSessions.find guest = some s)
    (he : s.expiresAt ≤ e) (hfree : (execute chess db op).2.guestReferenced guest = false) :
    db.guestSessions.find guest = some s ∧ db.guestReferenced guest = false ∧
      (execute chess db op).2.expiredSessions e + op.cleanupLimit e guest ≤
        db.expiredSessions e := by
  have hchange := execute_sessionsChange chess db op
  have hrefers : ∀ guest, db.guestReferenced guest = true →
      (execute chess db op).2.guestReferenced guest = true := fun _ hr =>
    (execute_change chess db op).guestReferenced hdb hr
  have hfree' : db.guestReferenced guest = false := by
    rw [Bool.eq_false_iff]
    intro hr
    rw [hrefers guest hr] at hfree
    cases hfree
  refine ⟨hchange.before hop hs he,hfree',?_⟩
  by_cases hcleanup : ∃ cutoff limit locked, op = .session (.cleanupExpired cutoff limit locked) ∧
      e < cutoff ∧ guest ∉ locked
  · obtain ⟨cutoff,limit,locked,rfl,hcutoff,hlocked⟩ := hcleanup
    have hlimit : (Operation.session (.cleanupExpired cutoff limit locked)).cleanupLimit e guest =
        limit := if_pos ⟨hcutoff,hlocked⟩
    rw [hlimit]
    exact cleanupExpired_progress hcutoff hlocked hs he hfree'
  · have hlimit : op.cleanupLimit e guest = 0 := by
      unfold Operation.cleanupLimit
      split
      · rename_i cutoff limit locked
        rw [if_neg]
        exact fun h => hcleanup ⟨cutoff,limit,locked,rfl,h⟩
      · rfl
    rw [hlimit]
    exact hchange.expiredSessions_le hop hrefers

theorem expiredSessions_run (chess : ChessEngine) {operations : List Operation}
    (hdb : db.Sound) (hops : ∀ op ∈ operations, op.From e) {s : GuestSession}
    (hs : ((repositories chess).run db operations).guestSessions.find guest = some s)
    (he : s.expiresAt ≤ e)
    (hfree : ((repositories chess).run db operations).guestReferenced guest = false) :
    db.guestSessions.find guest = some s ∧ db.guestReferenced guest = false ∧
      ((repositories chess).run db operations).expiredSessions e +
        (operations.map (Operation.cleanupLimit e guest)).sum ≤ db.expiredSessions e := by
  induction operations generalizing db with
  | nil => exact ⟨hs,hfree,le_rfl⟩
  | cons op operations ih =>
    have hnext : (execute chess db op).2.Sound := (execute_change chess db op).sound hdb
    obtain ⟨hs',hfree',hle⟩ := ih hnext (fun op hmem => hops op (List.mem_cons_of_mem _ hmem)) hs
      hfree
    obtain ⟨hs₀,hfree₀,hstep⟩ := expiredSessions_step chess hdb (hops op List.mem_cons_self) hs'
      he hfree'
    refine ⟨hs₀,hfree₀,?_⟩
    rw [List.map_cons,List.sum_cons]
    change ((repositories chess).run (execute chess db op).2 operations).expiredSessions e + _ ≤ _
    change ((repositories chess).run (execute chess db op).2 operations).expiredSessions e + _ ≤ _
      at hle
    omega

end Sessions

/-- A session is deleted by a cleanup only, after it has expired, while no row references it and no
transaction holds it, and its commands go with it. And no session that has expired is held up: once
the cleanups of a run may delete as many sessions as had expired when the run began, it is gone or
referenced, whatever the other operations do and however many sessions expire meanwhile. -/
theorem expired_sessions_cleaned (chess : ChessEngine) {db : Db} (hdb : db.Reachable chess)
    (guest : GuestSessionId) :
    (∀ op s, db.guestSessions.find guest = some s →
      (execute chess db op).2.guestSessions.find guest = none → ∃ cutoff limit locked,
        op = .session (.cleanupExpired cutoff limit locked) ∧ s.expiresAt < cutoff ∧
          db.guestReferenced guest = false ∧ guest ∉ locked ∧
          ∀ command ∈ (execute chess db op).2.sessionCommands.rows,
            command.guestSessionId ≠ guest) ∧
    ∀ e operations, (∀ op ∈ operations, op.From e) →
      db.expiredSessions e ≤ (operations.map (Operation.cleanupLimit e guest)).sum →
      ∀ s, ((repositories chess).run db operations).guestSessions.find guest = some s →
        s.expiresAt ≤ e →
          ((repositories chess).run db operations).guestReferenced guest = true := by
  constructor
  · intro op s hs hgone
    obtain ⟨cutoff,limit,locked,rfl,hdb'⟩ := (execute_sessionsChange chess db op).gone hs hgone
    rw [hdb'] at hgone ⊢
    refine ⟨cutoff,limit,locked,rfl,cleanupExpired_deleted hs hgone⟩
  · intro e operations hops hmany s hs he
    by_contra hfree
    rw [Bool.not_eq_true] at hfree
    obtain ⟨_,_,hle⟩ := expiredSessions_run chess hdb.sound hops hs he hfree
    have hpos : 0 < ((repositories chess).run db operations).expiredSessions e := by
      refine List.countP_pos_iff.mpr ⟨s,Table.find_mem hs,?_⟩
      rw [Table.find_key hs,hfree]
      simp [he]
    omega

def sampleCleanup (limit : ℕ) : Operation := .session (.cleanupExpired 20000000 limit [])

theorem expired_sessions_cleaned_sample :
    (∃ cutoff limit locked, sampleCleanup 1 = .session (.cleanupExpired cutoff limit locked) ∧
      10000000 < cutoff ∧ (sampleRun []).guestReferenced (sampleId 1) = false ∧
      sampleId 1 ∉ locked ∧
      ∀ command ∈ (execute sampleEngine (sampleRun []) (sampleCleanup 1)).2.sessionCommands.rows,
        command.guestSessionId ≠ sampleId 1) ∧
    ((repositories sampleEngine).run (sampleRun sampleStart)
      [sampleCleanup 2]).guestReferenced (sampleId 1) = true := by
  have hfrom : ∀ op ∈ [sampleCleanup 2], op.From 10000000 := by
    intro op hop
    rw [List.mem_singleton.mp hop]
    trivial
  exact ⟨(expired_sessions_cleaned sampleEngine (sampleRun_reachable []) (sampleId 1)).1
      (sampleCleanup 1) ⟨sampleId 1,"Ada","knight",none,0,10000000,none⟩ rfl rfl,
    (expired_sessions_cleaned sampleEngine (sampleRun_reachable sampleStart) (sampleId 1)).2
      10000000 [sampleCleanup 2] hfrom (by decide)
      ⟨sampleId 1,"Ada","knight",none,0,10000000,none⟩ rfl le_rfl⟩

end CluChess
