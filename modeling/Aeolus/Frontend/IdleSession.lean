/-
# Aeolus.Frontend.IdleSession — is an active operator kept signed in?

The server counts idleness from the last refresh that reported activity
(`validateRefreshToken`, `touchRefreshActivity`).  The page reports it with the refreshes of
its store: every thirteen minutes by a timer that a login or a page load starts, and when a
request is answered 401; a gesture counts for fourteen minutes.  The refresh of a page load
reports nothing, and the timer starts again: an operator who loads the page every few minutes
and uses it all the time is signed out as idle (`busy_operator_signed_out`).

Over every schedule in which thirteen minutes never pass without a gesture, no refresh is
refused as idle exactly when none comes later than the user's limit after the login or the
last refresh that a visible page's store sent (`never_idle_iff`).
-/
import Aeolus.Frontend.LogoutRevocation

namespace Aeolus.Frontend

open Aeolus.Core Aeolus.Auth Aeolus.Theory
open Handler

/-! ## Schedules -/

inductive ScheduleEvent where
  /-- a gesture in the visible page -/
  | interaction (now : Nat)
  | load (now : Nat)
  | timer (now : Nat) (visible : Bool)
  /-- a request of the page is answered 401 -/
  | request (now : Nat) (visible : Bool)
  deriving DecidableEq

def ScheduleEvent.now : ScheduleEvent → Nat
  | .interaction now => now
  | .load now => now
  | .timer now _ => now
  | .request now _ => now

/-- A page and the server, which answers at once. -/
structure Sitting where
  store : AuthStore
  db : AuthDb

namespace Sitting

section Steps

variable (client : Client) (site : Site) (token : String)

/-- The server handles the refresh that has been sent, if one has, with the token in the
cookie, and the store reads its answer. -/
def exchange (s : Sitting) (now : Nat) : Sitting :=
  let handled (active : Bool) : Sitting :=
    let answer := serveRefresh site false now (some token) active s.db
    { store := s.store.answered client 0 (Visit.answerOf answer.1), db := answer.2 }
  match s.store.requests.head? with
  | some (.refresh active _ _) => handled active
  | some (.bootRefresh _) => handled false
  | _ => s

def step (s : Sitting) : ScheduleEvent → Sitting
  | .interaction now => { s with store := s.store.step client (.interaction now) }
  | .load now =>
      let loaded : AuthStore := { lastUserInteraction := now }
      exchange client site token { s with store := loaded.step client .checkSetupNeeded } now
  | .timer now visible =>
      exchange client site token { s with store := s.store.step client (.timerFires now visible) }
        now
  | .request now visible =>
      exchange client site token
        { s with store := s.store.step client (.unauthorized now visible) } now

end Steps

/-- The row of the token at the server. -/
def rowOf (site : Site) (token : String) (db : AuthDb) : Option RefreshTokenRow :=
  db.refreshTokens.values.find? fun row => row.tokenHash = site.crypto.hashToken token

/-- `last_activity_at ?? created_at` -/
def activeAt (row : RefreshTokenRow) : Nat := row.lastActivityAt.getD row.createdAt

/-- The event sends a refresh that is refused because of inactivity: the server answers 401
to the token although it is not too old, for it has been idle too long. -/
def RefusedAsIdle (site : Site) (token : String) (s : Sitting) : ScheduleEvent → Prop
  | .interaction _ => False
  | event => ∃ row, rowOf site token s.db = some row ∧
      (∀ active, (serveRefresh site false event.now (some token) active s.db).1.status = 401) ∧
      0 < (dbSessionPolicy row.userId s.db).2 ∧
      (dbSessionPolicy row.userId s.db).2 * 60000 < event.now - activeAt row

end Sitting

/-! ## Statement and condition -/

/-- In order, from a time on. -/
def Ordered (start : Nat) (schedule : List ScheduleEvent) : Prop :=
  (∀ event ∈ schedule, start ≤ event.now) ∧ schedule.Pairwise fun a b => a.now ≤ b.now

/-- Every thirteen minutes of the session have a gesture. -/
def Attended (start : Nat) (schedule : List ScheduleEvent) : Prop :=
  ∀ first, start ≤ first → (∃ event ∈ schedule, first + refreshIntervalMs ≤ event.now) →
    ∃ now, .interaction now ∈ schedule ∧ first ≤ now ∧ now ≤ first + refreshIntervalMs

/-- The timer fires when it is due, and is started by a page load. -/
def Timed : Nat → List ScheduleEvent → Prop
  | _, [] => True
  | due, .timer now _ :: rest => now = due ∧ Timed (due + refreshIntervalMs) rest
  | due, .load now :: rest => now ≤ due ∧ Timed (now + refreshIntervalMs) rest
  | due, event :: rest => event.now ≤ due ∧ Timed due rest

/-- No refresh comes later than the limit after the login or the last refresh that the store
of a visible page has sent. -/
def ReportsInTime (limit : Nat) : Nat → List ScheduleEvent → Prop
  | _, [] => True
  | reported, .interaction _ :: rest => ReportsInTime limit reported rest
  | reported, .load now :: rest => now ≤ reported + limit ∧ ReportsInTime limit reported rest
  | reported, .timer now visible :: rest =>
      now ≤ reported + limit ∧ ReportsInTime limit (if visible then now else reported) rest
  | reported, .request now visible :: rest =>
      now ≤ reported + limit ∧ ReportsInTime limit (if visible then now else reported) rest

/-! ## The server's answer -/

section Server

open Sitting

variable {site : Site} {token : String} {db : AuthDb} {row : RefreshTokenRow} {user : User}

/-- A row of a user that is not too old yet. -/
structure Current (site : Site) (token : String) (user : User) (row : RefreshTokenRow)
    (now : Nat) (db : AuthDb) : Prop where
  found : rowOf site token db = some row
  owned : db.users.get row.userId = some user
  fresh : now ≤ row.expiresAt
  young : now ≤ row.createdAt + user.sessionDays * dayMs

theorem Current.policy {now : Nat} (current : Current site token user row now db) :
    dbSessionPolicy row.userId db = (user.sessionDays, user.inactivityMinutes) := by
  unfold dbSessionPolicy
  rw [current.owned]

theorem Current.expired_iff {now : Nat} (current : Current site token user row now db) :
    tokenExpired row (user.sessionDays, user.inactivityMinutes) now = true ↔
      0 < user.inactivityMinutes ∧ user.inactivityMinutes * 60000 < now - activeAt row := by
  have fresh := current.fresh
  have young := current.young
  unfold tokenExpired activeAt
  simp only [Bool.or_eq_true, Bool.and_eq_true, decide_eq_true_eq]
  constructor
  · rintro ((old | old) | idle)
    · omega
    · omega
    · exact idle
  · exact Or.inr

/-- An idle token is refused. -/
theorem Current.refused {now : Nat} (current : Current site token user row now db)
    (nonempty : token ≠ "")
    (idle : 0 < user.inactivityMinutes ∧ user.inactivityMinutes * 60000 < now - activeAt row)
    (active : Bool) :
    (serveRefresh site false now (some token) active db).1 = { status := 401 } := by
  have held : truthy (some token) = some token := truthy_eq_some.mpr ⟨rfl, nonempty⟩
  have found : (db.refreshTokens.values.find? fun row =>
    row.tokenHash = site.crypto.hashToken token) = some row := current.found
  have expired := current.expired_iff.mpr idle
  unfold serveRefresh serve
  simp only [beforeHandler_refresh]
  unfold respond postRefresh refreshRequest refresh validateRefreshToken
  simp only [held, bind_apply, asks_apply, found, current.policy, expired, if_true]
  rfl

/-- A token that is not is good for an access token; its activity is noted when the refresh
reports it. -/
theorem Current.refresh_ok {now : Nat} (current : Current site token user row now db)
    (awake : ¬(0 < user.inactivityMinutes ∧
      user.inactivityMinutes * 60000 < now - activeAt row)) (active : Bool) :
    refresh site.crypto token active now db =
      (.ok (.returned (.accessToken ⟨user.id, user.username, user.role, user.groupId⟩)),
        if active then (touchRefreshActivity site.crypto token now db).2 else db) := by
  have found : (db.refreshTokens.values.find? fun row =>
    row.tokenHash = site.crypto.hashToken token) = some row := current.found
  have alive : tokenExpired row (user.sessionDays, user.inactivityMinutes) now = false :=
    Bool.eq_false_iff.mpr fun expired => awake (current.expired_iff.mp expired)
  have validated : validateRefreshToken site.crypto token now db = (.ok (some row), db) := by
    unfold validateRefreshToken
    simp only [bind_apply, asks_apply, found, current.policy, alive, Bool.false_eq_true, if_false]
    rfl
  unfold refresh
  rw [bind_of_ok validated]
  simp only [bind_apply, asks_apply, getUser, current.owned]
  cases active <;> rfl

theorem Current.accepted {now : Nat} (current : Current site token user row now db)
    (nonempty : token ≠ "")
    (awake : ¬(0 < user.inactivityMinutes ∧
      user.inactivityMinutes * 60000 < now - activeAt row)) (active : Bool) :
    ∃ accessToken, serveRefresh site false now (some token) active db =
      ({ status := 200, accessToken := some accessToken },
        if active then (touchRefreshActivity site.crypto token now db).2 else db) := by
  have held : truthy (some token) = some token := truthy_eq_some.mpr ⟨rfl, nonempty⟩
  unfold serveRefresh serve
  simp only [beforeHandler_refresh]
  refine ⟨site.generateAccessToken ⟨user.id, user.username, user.role, user.groupId⟩ now, ?_⟩
  show respond (postRefresh site now (refreshRequest (some token) active)) db = _
  unfold respond postRefresh refreshRequest
  simp only [held]
  rw [bind_of_ok (current.refresh_ok awake active)]
  rfl

/-- What is noted: the row as it was, with the time. -/
theorem rowOf_touched (now : Nat) (found : rowOf site token db = some row) :
    rowOf site token (touchRefreshActivity site.crypto token now db).2 =
      some { row with lastActivityAt := some now } := by
  unfold rowOf at found ⊢
  show ((db.refreshTokens.map _).values).find? _ = _
  have hashed := List.find?_some found
  rw [OrderedMap.values_map, List.find?_map]
  have same : ((fun row => decide (row.tokenHash = site.crypto.hashToken token)) ∘ fun row =>
      if row.tokenHash = site.crypto.hashToken token then { row with lastActivityAt := some now }
      else row) =
        fun row : RefreshTokenRow => decide (row.tokenHash = site.crypto.hashToken token) := by
    funext other
    dsimp only [Function.comp]
    split <;> simp_all
  rw [same, found]
  exact congrArg some (if_pos (of_decide_eq_true hashed))

end Server

/-! ## Along a schedule -/

section Schedule

open Sitting

variable {client : Client} {site : Site} {token : String} {user : User}

/-- Signed in, with nothing under way: the last gesture or page load, and what the server
has noted. -/
structure Signed (site : Site) (token : String) (user : User) (start gesture reported : Nat)
    (s : Sitting) : Prop where
  stored : ∃ row, rowOf site token s.db = some row ∧ s.db.users.get row.userId = some user ∧
    activeAt row = reported ∧ row.expiresAt = start + user.sessionDays * dayMs ∧
    row.createdAt = start
  requests : s.store.requests = []
  timer : s.store.refreshTimer = some .refresh
  free : s.store.isRefreshing = false
  used : s.store.lastUserInteraction = gesture

theorem Signed.current {start gesture reported now : Nat} {s : Sitting}
    (signed : Signed site token user start gesture reported s)
    (lasting : now ≤ start + user.sessionDays * dayMs) :
    ∃ row, Current site token user row now s.db ∧ activeAt row = reported ∧
      row.expiresAt = start + user.sessionDays * dayMs ∧ row.createdAt = start := by
  obtain ⟨row, found, owned, active, expires, created⟩ := signed.stored
  exact ⟨row, ⟨found, owned, expires ▸ lasting, created ▸ lasting⟩, active, expires, created⟩

/-- Refused as idle is: the limit has passed since the last report. -/
theorem Signed.refused_iff {start gesture reported : Nat} {s : Sitting} {event : ScheduleEvent}
    (signed : Signed site token user start gesture reported s) (nonempty : token ≠ "")
    (limited : 0 < user.inactivityMinutes)
    (lasting : event.now ≤ start + user.sessionDays * dayMs)
    (refreshes : ∀ now, event ≠ .interaction now) :
    ¬RefusedAsIdle site token s event ↔
      event.now ≤ reported + user.inactivityMinutes * 60000 := by
  obtain ⟨row, current, active, -, -⟩ := signed.current lasting
  have policy := current.policy
  have refused : RefusedAsIdle site token s event ↔
      user.inactivityMinutes * 60000 < event.now - reported := by
    have unfolded : RefusedAsIdle site token s event ↔
        ∃ row, rowOf site token s.db = some row ∧
          (∀ active, (serveRefresh site false event.now (some token) active s.db).1.status = 401) ∧
          0 < (dbSessionPolicy row.userId s.db).2 ∧
          (dbSessionPolicy row.userId s.db).2 * 60000 < event.now - activeAt row := by
      cases event with
      | interaction now => exact absurd rfl (refreshes now)
      | _ => exact Iff.rfl
    rw [unfolded]
    constructor
    · rintro ⟨other, found, -, -, idle⟩
      obtain rfl : row = other := Option.some.inj (current.found.symm.trans found)
      rwa [policy, active] at idle
    · intro idle
      rw [← active] at idle
      refine ⟨row, current.found, fun active => ?_, ?_, ?_⟩
      · rw [current.refused nonempty ⟨limited, idle⟩ active]
      · rw [policy]
        exact limited
      · rw [policy]
        exact idle
  rw [refused]
  omega

/-- What a refresh that is granted leaves as it is. -/
theorem refreshSettles_keeps {store : AuthStore} {body : AnswerBody} :
    (store.refreshSettles client (.ok body)).requests = store.requests ∧
      (store.refreshSettles client (.ok body)).refreshTimer = store.refreshTimer ∧
      (store.refreshSettles client (.ok body)).isRefreshing = store.isRefreshing ∧
      (store.refreshSettles client (.ok body)).lastUserInteraction =
        store.lastUserInteraction := by
  unfold AuthStore.refreshSettles
  dsimp only
  split <;> exact ⟨rfl, rfl, rfl, rfl⟩

/-- A refresh that is not refused: the store goes on, and the server has noted what it
reported. -/
theorem Signed.exchanged {start gesture reported now : Nat} {s sending : Sitting} {active : Bool}
    (signed : Signed site token user start gesture reported s) (nonempty : token ≠ "")
    (lasting : now ≤ start + user.sessionDays * dayMs)
    (awake : now ≤ reported + user.inactivityMinutes * 60000) (db : sending.db = s.db)
    (asked : ∃ shared begun, sending.store.requests = [.refresh active shared begun] ∧
      (sending.store.isRefreshing = true → shared = true))
    (timer : sending.store.refreshTimer = some .refresh)
    (used : sending.store.lastUserInteraction = gesture) :
    Signed site token user start gesture (if active then now else reported)
      (sending.exchange client site token now) := by
  obtain ⟨row, current, noted, expires, created⟩ := signed.current lasting
  obtain ⟨shared, begun, requests, own⟩ := asked
  have idle : ¬(0 < user.inactivityMinutes ∧
      user.inactivityMinutes * 60000 < now - activeAt row) := by omega
  obtain ⟨accessToken, answer⟩ := current.accepted nonempty idle active
  have handled : sending.exchange client site token now =
      { store := sending.store.answered client 0 (.ok { accessToken := some accessToken })
        db := if active then (touchRefreshActivity site.crypto token now s.db).2 else s.db } := by
    unfold Sitting.exchange
    rw [requests, db]
    simp only [List.head?_cons, answer]
    rfl
  rw [handled]
  have settled : sending.store.answered client 0 (.ok { accessToken := some accessToken }) =
      ({ sending.store with
          requests := []
          isRefreshing := sending.store.isRefreshing && !shared }).refreshSettles client
        (.ok { accessToken := some accessToken }) := by
    unfold AuthStore.answered
    simp only [requests]
    rfl
  obtain ⟨none_left, same_timer, same_flag, same_use⟩ :=
    @refreshSettles_keeps client { sending.store with
      requests := []
      isRefreshing := sending.store.isRefreshing && !shared } { accessToken := some accessToken }
  refine ⟨?_, ?_, ?_, ?_, ?_⟩
  · cases active with
    | true =>
        exact ⟨_, rowOf_touched now current.found, current.owned, rfl, expires, created⟩
    | false => exact ⟨row, current.found, current.owned, noted, expires, created⟩
  · rw [settled, none_left]
  · rw [settled, same_timer, timer]
  · rw [settled, same_flag]
    cases refreshing : sending.store.isRefreshing with
    | false => rfl
    | true => rw [own refreshing]; rfl
  · rw [settled, same_use, used]

theorem Signed.interaction {start gesture reported : Nat} {s : Sitting}
    (signed : Signed site token user start gesture reported s) (now : Nat) :
    Signed site token user start now reported (s.step client site token (.interaction now)) :=
  ⟨signed.stored, signed.requests, signed.timer, signed.free, rfl⟩

section Awake

variable {start gesture reported now : Nat} {s : Sitting} {visible : Bool}
  (signed : Signed site token user start gesture reported s) (nonempty : token ≠ "")
  (lasting : now ≤ start + user.sessionDays * dayMs)
  (awake : now ≤ reported + user.inactivityMinutes * 60000)
  (recent : now < gesture + activityWindowMs)

include signed recent

theorem Signed.active : s.store.active now visible = visible := by
  unfold AuthStore.active
  rw [signed.used, decide_eq_true recent, Bool.and_true]

include nonempty lasting awake

theorem Signed.fired :
    Signed site token user start gesture (if visible then now else reported)
      (s.step client site token (.timer now visible)) := by
  have sent : s.store.step client (.timerFires now visible) =
      s.store.send (.refresh visible false s.store.turn) := by
    simp only [AuthStore.step, AuthStore.timerFires, signed.timer, AuthStore.refresh,
      signed.active recent]
  simp only [Sitting.step, sent]
  refine signed.exchanged nonempty lasting awake rfl ⟨false, s.store.turn, ?_, ?_⟩ ?_ ?_
  · show s.store.requests ++ [_] = _
    rw [signed.requests]
    rfl
  · intro refreshing
    exact absurd (signed.free.symm.trans refreshing) nofun
  · exact signed.timer
  · exact signed.used

theorem Signed.requested :
    Signed site token user start gesture (if visible then now else reported)
      (s.step client site token (.request now visible)) := by
  have sent : s.store.step client (.unauthorized now visible) =
      ({ s.store with isRefreshing := true }).send (.refresh visible true s.store.turn) := by
    simp only [AuthStore.step, AuthStore.attemptRefresh, signed.free,
      signed.active recent]
    rfl
  simp only [Sitting.step, sent]
  refine signed.exchanged nonempty lasting awake rfl ⟨true, s.store.turn, ?_, fun _ => rfl⟩ ?_ ?_
  · show s.store.requests ++ [_] = _
    rw [signed.requests]
    rfl
  · exact signed.timer
  · exact signed.used

end Awake

/-- A page load reports nothing; the timer starts again. -/
theorem Signed.loaded {start gesture reported now : Nat} {s : Sitting}
    (signed : Signed site token user start gesture reported s) (nonempty : token ≠ "")
    (lasting : now ≤ start + user.sessionDays * dayMs)
    (awake : now ≤ reported + user.inactivityMinutes * 60000)
    (normal : client.publicDemo = false) :
    Signed site token user start now reported (s.step client site token (.load now)) := by
  obtain ⟨row, current, noted, expires, created⟩ := signed.current lasting
  have idle : ¬(0 < user.inactivityMinutes ∧
      user.inactivityMinutes * 60000 < now - activeAt row) := by omega
  obtain ⟨accessToken, answer⟩ := current.accepted nonempty idle false
  have sent : ({ lastUserInteraction := now } : AuthStore).step client .checkSetupNeeded =
      ({ lastUserInteraction := now } : AuthStore).send (.bootRefresh 0) := by
    simp only [AuthStore.step, AuthStore.checkSetupNeeded, normal]
    rfl
  simp only [Sitting.step, sent]
  unfold Sitting.exchange
  simp only [AuthStore.send, List.nil_append, List.head?_cons, answer]
  exact ⟨⟨row, current.found, current.owned, noted, expires, created⟩, rfl, rfl, rfl, rfl⟩

/-- At every refresh the last gesture or page load counts as activity. -/
def Recent : Nat → List ScheduleEvent → Prop
  | _, [] => True
  | _, .interaction now :: rest => Recent now rest
  | _, .load now :: rest => Recent now rest
  | gesture, .timer now _ :: rest => now < gesture + activityWindowMs ∧ Recent gesture rest
  | gesture, .request now _ :: rest => now < gesture + activityWindowMs ∧ Recent gesture rest

/-- A gesture in every thirteen minutes is one in the last fourteen. -/
theorem gesture_recent {start gesture : Nat} {past rest : List ScheduleEvent}
    {event : ScheduleEvent} (ordered : Ordered start (past ++ event :: rest))
    (attended : Attended start (past ++ event :: rest)) (begun : start ≤ gesture)
    (last : ∀ now, .interaction now ∈ past → now ≤ gesture)
    (refreshes : ∀ now, event ≠ .interaction now) : event.now < gesture + activityWindowMs := by
  have minutes : refreshIntervalMs + 60000 = activityWindowMs := rfl
  by_cases early : event.now ≤ start + refreshIntervalMs
  · omega
  · -- thirteen minutes that end just before the refresh, so that their gesture comes before it
    obtain ⟨now, member, late, soon⟩ := attended (event.now - refreshIntervalMs - 1) (by omega)
      ⟨event, by simp, by omega⟩
    rcases List.mem_append.mp member with before | after
    · have bound := last now before
      omega
    · rcases List.mem_cons.mp after with same | later
      · exact absurd same.symm (refreshes now)
      · have sorted := (List.pairwise_append.mp ordered.2).2.1
        have behind : event.now ≤ now := List.rel_of_pairwise_cons sorted later
        omega

theorem Attended.recent {start gesture : Nat} {past rest : List ScheduleEvent}
    (ordered : Ordered start (past ++ rest)) (attended : Attended start (past ++ rest))
    (begun : start ≤ gesture) (last : ∀ now, .interaction now ∈ past → now ≤ gesture) :
    Recent gesture rest := by
  induction rest generalizing past gesture with
  | nil => trivial
  | cons event rest ih =>
      have split : past ++ event :: rest = (past ++ [event]) ++ rest := by simp
      have onward {next : Nat} (later : start ≤ next)
          (latest : ∀ now, .interaction now ∈ past ++ [event] → now ≤ next) : Recent next rest :=
        ih (split ▸ ordered) (split ▸ attended) later latest
      have from_start : start ≤ event.now := ordered.1 event (by simp)
      have before (earlier : ScheduleEvent) (member : earlier ∈ past) : earlier.now ≤ event.now :=
        (List.pairwise_append.mp ordered.2).2.2 earlier member event List.mem_cons_self
      have kept (refreshes : ∀ now, event ≠ .interaction now) (now : Nat)
          (member : .interaction now ∈ past ++ [event]) : now ≤ gesture := by
        rcases List.mem_append.mp member with old | new
        · exact last now old
        · exact absurd (List.mem_singleton.mp new).symm (refreshes now)
      have latest (now : Nat) (member : .interaction now ∈ past ++ [event]) : now ≤ event.now := by
        rcases List.mem_append.mp member with old | new
        · exact before _ old
        · rw [← List.mem_singleton.mp new]
          exact Nat.le_refl _
      cases event with
      | interaction now => exact onward from_start latest
      | load now => exact onward from_start latest
      | timer now visible =>
          exact ⟨gesture_recent ordered attended begun last nofun, onward begun (kept nofun)⟩
      | request now visible =>
          exact ⟨gesture_recent ordered attended begun last nofun, onward begun (kept nofun)⟩

/-- From a state on in which the last gesture and the last report are these. -/
theorem Signed.along_iff (normal : client.publicDemo = false) (nonempty : token ≠ "")
    (limited : 0 < user.inactivityMinutes) {start gesture reported : Nat} {s : Sitting}
    (signed : Signed site token user start gesture reported s) {schedule : List ScheduleEvent}
    (recent : Recent gesture schedule)
    (lasting : ∀ event ∈ schedule, event.now ≤ start + user.sessionDays * dayMs) :
    Along (Sitting.step client site token) (fun s event => ¬RefusedAsIdle site token s event) s
        schedule ↔ ReportsInTime (user.inactivityMinutes * 60000) reported schedule := by
  induction schedule generalizing s gesture reported with
  | nil => exact Iff.rfl
  | cons event rest ih =>
      have now := lasting event List.mem_cons_self
      have after : ∀ event ∈ rest, event.now ≤ start + user.sessionDays * dayMs :=
        fun event member => lasting event (List.mem_cons_of_mem _ member)
      cases event with
      | interaction time =>
          have next := @Signed.interaction client site token user start gesture reported s signed
            time
          exact (and_iff_right id).trans (ih next recent after)
      | load time =>
          have first := signed.refused_iff nonempty limited now nofun
          exact (and_congr_left' first).trans (and_congr_right fun awake =>
            ih (signed.loaded nonempty now awake normal) recent after)
      | timer time visible =>
          have first := signed.refused_iff nonempty limited now nofun
          exact (and_congr_left' first).trans (and_congr_right fun awake =>
            ih (signed.fired nonempty now awake recent.1) recent.2 after)
      | request time visible =>
          have first := signed.refused_iff nonempty limited now nofun
          exact (and_congr_left' first).trans (and_congr_right fun awake =>
            ih (signed.requested nonempty now awake recent.1) recent.2 after)

/-! ## A session -/

/-- The page after a login that was submitted by a gesture. -/
def signedInAt (client : Client) (accessToken : String) (now : Nat) : AuthStore :=
  (({ lastUserInteraction := now } : AuthStore).step client .login).step client
    (.answered 0 (.ok { accessToken := some accessToken }))

/-- The row of a new token, and its user. -/
theorem generateRefreshToken_ok {crypto : AuthCrypto} {draw : Draw} {userId token : String}
    {presented : Option String} {db db' : AuthDb}
    (issued : generateRefreshToken crypto draw userId presented db = (.ok token, db')) :
    token = draw.rawToken ∧ db'.users = db.users ∧
      (db'.refreshTokens.values.find? fun row => row.tokenHash = crypto.hashToken token) =
        some (newRefreshToken crypto draw userId presented db) := by
  unfold generateRefreshToken at issued
  obtain ⟨row, middle, read, rest⟩ := bind_ok issued
  cases read
  obtain ⟨done, after, inserted, returned⟩ := bind_ok rest
  cases returned
  unfold insertRefreshToken at inserted
  split at inserted
  · cases inserted
  split at inserted
  · cases inserted
  split at inserted
  · cases inserted
  rename_i free unique owned
  cases inserted
  refine ⟨rfl, rfl, ?_⟩
  have before : (db.refreshTokens.values.find? fun row =>
      row.tokenHash = crypto.hashToken draw.rawToken) = none :=
    List.find?_eq_none.mpr fun other member same => unique
      (List.any_eq_true.mpr ⟨other, member, same⟩)
  show ((db.refreshTokens.set _ _).values).find? _ = _
  rw [OrderedMap.values_set_of_absent (Option.not_isSome_iff_eq_none.mp free), List.find?_append,
    before]
  simp [newRefreshToken]

theorem signed_of_login {db db' : AuthDb} {draw : Draw} {presented : Option String}
    (issued : generateRefreshToken site.crypto draw user.id presented db = (.ok token, db'))
    (stored : db.users.get user.id = some user) (accessToken : String) :
    Signed site token user draw.now draw.now draw.now
      ⟨signedInAt client accessToken draw.now, db'⟩ := by
  obtain ⟨-, users, found⟩ := generateRefreshToken_ok issued
  have policy : dbSessionPolicy user.id db = (user.sessionDays, user.inactivityMinutes) := by
    unfold dbSessionPolicy
    rw [stored]
  refine ⟨⟨_, found, ?_, rfl, ?_, rfl⟩, rfl, rfl, rfl, rfl⟩
  · show db'.users.get user.id = some user
    rw [users, stored]
  · unfold newRefreshToken
    rw [policy]

/-- **Never refused as idle**, over every schedule of page loads, gestures and refreshes from
a login on in which thirteen minutes never pass without a gesture: exactly when no refresh
comes later than the user's limit after the login or the last refresh that the store of a
visible page has sent. -/
theorem never_idle_iff (normal : client.publicDemo = false) {db db' : AuthDb} {draw : Draw}
    {presented : Option String} (drawn : draw.rawToken ≠ "")
    (issued : generateRefreshToken site.crypto draw user.id presented db = (.ok token, db'))
    (stored : db.users.get user.id = some user) (limited : user.inactivityMinutes ≠ 0)
    {schedule : List ScheduleEvent} (ordered : Ordered draw.now schedule)
    (attended : Attended draw.now schedule)
    (lasting : ∀ event ∈ schedule, event.now ≤ draw.now + user.sessionDays * dayMs)
    (accessToken : String) :
    Along (Sitting.step client site token) (fun s event => ¬RefusedAsIdle site token s event)
        ⟨signedInAt client accessToken draw.now, db'⟩ schedule ↔
      ReportsInTime (user.inactivityMinutes * 60000) draw.now schedule := by
  obtain ⟨rfl, -, -⟩ := generateRefreshToken_ok issued
  have signed : Signed site draw.rawToken user draw.now draw.now draw.now
      ⟨signedInAt client accessToken draw.now, db'⟩ := signed_of_login issued stored accessToken
  have recent : Recent draw.now schedule :=
    @Attended.recent draw.now draw.now [] schedule ordered attended (Nat.le_refl _) nofun
  exact signed.along_iff normal drawn (Nat.pos_of_ne_zero limited) recent lasting

end Schedule

/-! ## Pages that are kept -/

/-- The timer fires when it is due, in a visible page, and no page is loaded again before. -/
def Kept : Nat → Bool → List ScheduleEvent → Prop
  | _, _, [] => True
  | due, fired, .interaction now :: rest => now ≤ due ∧ Kept due fired rest
  | due, fired, .request now _ :: rest => now ≤ due ∧ Kept due fired rest
  | due, _, .timer now visible :: rest =>
      now = due ∧ visible = true ∧ Kept (due + refreshIntervalMs) true rest
  | due, fired, .load now :: rest =>
      now ≤ due ∧ fired = true ∧ Kept (now + refreshIntervalMs) false rest

/-- Twice the interval of the timer is the longest that such pages do not report for. -/
theorem Kept.reportsInTime {limit due reported : Nat} {fired : Bool} {schedule : List ScheduleEvent}
    (kept : Kept due fired schedule) (enough : 2 * refreshIntervalMs ≤ limit)
    (ordered : Ordered reported schedule) (soon : due ≤ reported + 2 * refreshIntervalMs)
    (sooner : fired = true → due ≤ reported + refreshIntervalMs) :
    ReportsInTime limit reported schedule := by
  induction schedule generalizing due fired reported with
  | nil => trivial
  | cons event rest ih =>
      have now := ordered.1 event List.mem_cons_self
      have after : Ordered reported rest :=
        ⟨fun later member => ordered.1 later (List.mem_cons_of_mem _ member), ordered.2.of_cons⟩
      have behind : Ordered event.now rest :=
        ⟨fun later member => List.rel_of_pairwise_cons ordered.2 member, ordered.2.of_cons⟩
      cases event with
      | interaction time => exact ih kept.2 after soon sooner
      | load time =>
          obtain ⟨early, rfl, further⟩ := kept
          have due_soon := sooner rfl
          refine ⟨by omega, ih further after ?_ nofun⟩
          omega
      | timer time visible =>
          obtain ⟨rfl, rfl, further⟩ := kept
          refine ⟨by omega, ih further behind ?_ fun _ => ?_⟩
          · show _ ≤ time + _
            omega
          · exact Nat.le_refl _
      | request time visible =>
          obtain ⟨early, further⟩ := kept
          have later : reported ≤ time := now
          refine ⟨by omega, ?_⟩
          cases visible with
          | false => exact ih further after soon sooner
          | true =>
              refine ih further behind ?_ fun fires => ?_
              · show _ ≤ time + _
                omega
              · have due_soon := sooner fires
                show _ ≤ time + _
                omega

/-- Every limit of the user schema is longer than that. -/
theorem kept_reportsInTime {user : User}
    (accepted : validateSessionPolicy user.sessionDays user.inactivityMinutes = .ok ())
    (limited : user.inactivityMinutes ≠ 0) {start : Nat} {schedule : List ScheduleEvent}
    (ordered : Ordered start schedule) (kept : Kept (start + refreshIntervalMs) false schedule) :
    ReportsInTime (user.inactivityMinutes * 60000) start schedule := by
  have half_hour : 30 ≤ user.inactivityMinutes := by
    unfold validateSessionPolicy at accepted
    split at accepted
    · cases accepted
    · rename_i valid
      have listed : [0, 30, 120, 480].contains user.inactivityMinutes = true := by
        by_contra unlisted
        exact valid (Or.inr unlisted)
      simp at listed
      omega
  have minutes : refreshIntervalMs = 780000 := rfl
  exact kept.reportsInTime (by omega) ordered (by omega) nofun

/-! An operator with the shortest limit, who loads the page every ten minutes. -/

def operator : User := { ann with inactivityMinutes := 30 }

def operatorDb : AuthDb := { users := OrderedMap.empty.set "1" operator }

def minute : Nat := 60000

/-- A gesture and a page load at these minutes. -/
def loads (minutes : List Nat) : List ScheduleEvent :=
  minutes.flatMap fun n => [.interaction (n * minute), .load (n * minute)]

def operatorSitting : Sitting where
  store := signedInAt annClient "jwt" 0
  db := (generateRefreshToken plainCrypto (annDraw "t") "1" none operatorDb).2

theorem loads_ordered : Ordered 0 (loads [10, 20, 31]) :=
  ⟨fun _ _ => Nat.zero_le _, by decide⟩

theorem loads_attended : Attended 0 (loads [10, 20, 31]) := by
  have minutes : refreshIntervalMs = 780000 := rfl
  have last : ∀ event ∈ loads [10, 20, 31], event.now ≤ 1860000 := by decide
  rintro first - ⟨event, member, late⟩
  have bound := last event member
  by_cases early : first ≤ 600000
  · exact ⟨600000, by decide, early, by omega⟩
  · exact ⟨1200000, by decide, by omega, by omega⟩

/-- A page that stays for its timer is never refused. -/
def keptPage : List ScheduleEvent :=
  [.interaction (5 * minute), .timer (13 * minute) true, .interaction (15 * minute),
    .timer (26 * minute) true, .interaction (27 * minute), .load (35 * minute)]

theorem never_idle_iff_kept :
    Along (Sitting.step annClient annSite "t") (fun s event => ¬s.RefusedAsIdle annSite "t" event)
      operatorSitting keptPage := by
  have ordered : Ordered 0 keptPage := ⟨fun _ _ => Nat.zero_le _, by decide⟩
  have attended : Attended 0 keptPage := by
    have minutes : refreshIntervalMs = 780000 := rfl
    have last : ∀ event ∈ keptPage, event.now ≤ 2100000 := by decide
    rintro first - ⟨event, member, late⟩
    have bound := last event member
    by_cases early : first ≤ 300000
    · exact ⟨300000, by decide, early, by omega⟩
    · by_cases next : first ≤ 900000
      · exact ⟨900000, by decide, next, by omega⟩
      · exact ⟨1620000, by decide, by omega, by omega⟩
  have kept : Kept (0 + refreshIntervalMs) false keptPage :=
    ⟨by decide, by decide, rfl, by decide, by decide, rfl, by decide, by decide, rfl, trivial⟩
  have issued : generateRefreshToken annSite.crypto (annDraw "t") operator.id none operatorDb =
    (.ok "t", operatorSitting.db) := rfl
  have reports : ReportsInTime (operator.inactivityMinutes * 60000) 0 keptPage :=
    kept_reportsInTime rfl (by decide) ordered kept
  exact (never_idle_iff rfl (by decide) issued rfl (by decide) ordered attended (by decide)
    "jwt").mpr reports

/-- At the thirty-first minute the page load is refused as idle. -/
theorem busy_operator_signed_out :
    ¬∀ (client : Client) (site : Site) (token : String) (user : User) (db db' : AuthDb)
      (draw : Draw) (presented : Option String) (schedule : List ScheduleEvent)
      (accessToken : String), client.publicDemo = false → draw.rawToken ≠ "" →
      generateRefreshToken site.crypto draw user.id presented db = (.ok token, db') →
      db.users.get user.id = some user → user.inactivityMinutes ∈ [30, 120, 480] →
      Ordered draw.now schedule → Attended draw.now schedule →
      Timed (draw.now + refreshIntervalMs) schedule →
      (∀ event ∈ schedule, event.now ≤ draw.now + user.sessionDays * dayMs) →
      Along (Sitting.step client site token)
        (fun s event => ¬s.RefusedAsIdle site token event)
        ⟨signedInAt client accessToken draw.now, db'⟩ schedule := by
  intro always
  have along := always annClient annSite "t" operator operatorDb _ (annDraw "t") none
    (loads [10, 20, 31]) "jwt" rfl (by decide) rfl rfl (by decide) loads_ordered loads_attended
    ⟨by decide, by decide, by decide, by decide, by decide, by decide, trivial⟩ (by decide)
  have issued : generateRefreshToken annSite.crypto (annDraw "t") operator.id none operatorDb =
    (.ok "t", operatorSitting.db) := rfl
  have signed : Signed annSite "t" operator 0 0 0 operatorSitting :=
    signed_of_login issued rfl "jwt"
  have recent : Recent 0 (loads [10, 20, 31]) := trivial
  have reports := (signed.along_iff rfl (by decide) (by decide) recent (by decide)).mp along
  exact absurd reports.2.2.1 (by decide)

end Aeolus.Frontend
