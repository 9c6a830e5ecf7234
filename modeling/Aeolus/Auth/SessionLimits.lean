/-
# Aeolus.Auth.SessionLimits — how long a refresh token is good for

A token's row keeps the end of its session as it was set at the issue.  `validateRefreshToken`
computes that end again from the user's current session length, looks at the time of the last
activity, and deletes the row of a token that it refuses.

What happened to the tokens is a log (`sessionFacts`), and a session is what follows from the log
(`SessionFact.apply`).

* `accounts` — after each event the row of a token is the session that the log gives;
* `session_limits` — when a refresh succeeds, and that a refused token does not come back.
-/
import Mathlib.Data.List.Induction
import Mathlib.Data.Set.Function
import Aeolus.Auth.AuthRequests
import Aeolus.Theory.Replica

namespace Aeolus.Auth

open Aeolus.Core Aeolus.Theory
open Handler

/-! ## Events -/

/-- What runs without interruption on users and tokens: the end of a login or of the setup, a
refresh, a logout, and the writes of the user service. -/
inductive SessionEvent where
  | issue (userId : String) (presented : Option String) (draw : Draw)
  | refresh (token : String) (active : Bool) (now : Nat)
  | logout (token : String)
  | updateUser (id : String) (updates : UserUpdates)
  | writePassword (id passwordHash : String) (verified : Option String)
  | insertUser (user : User)
  | deleteUser (id : String)

namespace SessionEvent

def step (crypto : AuthCrypto) (db : AuthDb) : SessionEvent → AuthDb
  | issue userId presented draw => (generateRefreshToken crypto draw userId presented db).2
  | refresh token active now => (Auth.refresh crypto token active now db).2
  | logout token => (Auth.logout crypto token db).2
  | updateUser id updates => (Auth.updateUser id updates db).2
  | writePassword id passwordHash verified => (Auth.writePassword id passwordHash verified db).2
  | insertUser user => (Auth.insertUser user db).2
  | deleteUser id => (Auth.deleteUser id db).2

/-- The time at which a token is issued or presented. -/
def now : SessionEvent → Option Nat
  | issue _ _ draw => some draw.now
  | refresh _ _ now => some now
  | _ => none

/-- The token that is drawn or presented. -/
def token : SessionEvent → Option String
  | issue _ _ draw => some draw.rawToken
  | refresh token _ _ => some token
  | logout token => some token
  | _ => none

end SessionEvent

/-! ## The log -/

inductive SessionFact where
  /-- with the session length of the user at the time -/
  | issued (token userId : String) (issuedAt sessionDays : Nat)
  | refreshed (token : String) (active : Bool) (now : Nat)
  | refused (token : String)
  | revoked (token : String)
  /-- all sessions of a user -/
  | ended (userId : String)

/-- The facts of a handler that returned, or of one that threw. -/
def logged {α : Type} (returned : α → List SessionFact) (threw : List SessionFact) :
    Except AuthError α → List SessionFact
  | .ok a => returned a
  | .error _ => threw

def sessionFacts (crypto : AuthCrypto) (db : AuthDb) : SessionEvent → List SessionFact
  | .issue userId presented draw =>
      logged (fun token => [.issued token userId draw.now (dbSessionPolicy userId db).1]) []
        (generateRefreshToken crypto draw userId presented db).1
  | .refresh token active now =>
      logged (fun _ => [.refreshed token active now]) [.refused token]
        (refresh crypto token active now db).1
  | .logout token => [.revoked token]
  | .updateUser _ _ => []
  | .writePassword id _ _ => [.ended id]
  | .insertUser _ => []
  | .deleteUser id => logged (fun _ => [.ended id]) [] (deleteUser id db).1

namespace SessionFact

def now : SessionFact → Option Nat
  | issued _ _ issuedAt _ => some issuedAt
  | refreshed _ _ now => some now
  | _ => none

/-- The time of an active refresh of the token. -/
def activeAt (token : String) : SessionFact → Option Nat
  | refreshed token' active now => if token' = token ∧ active then some now else none
  | _ => none

/-- The session that was issued with the token is no more; a new issue starts another. -/
def Ends (token userId : String) : SessionFact → Prop
  | issued token' _ _ _ => token' = token
  | refreshed _ _ _ => False
  | refused token' => token' = token
  | revoked token' => token' = token
  | ended userId' => userId' = userId

end SessionFact

/-- The token's last issue, and what was since: nothing that ended it. -/
structure SinceIssue (log : List SessionFact) (token userId : String)
    (issuedAt sessionDays : Nat) (since : List SessionFact) : Prop where
  issued : ∃ before, log = before ++ .issued token userId issuedAt sessionDays :: since
  kept : ∀ fact ∈ since, ¬fact.Ends token userId

/-- The last active refresh that succeeded. -/
def lastActive (token : String) (since : List SessionFact) : Option Nat :=
  (since.filterMap (SessionFact.activeAt token)).getLast?

/-! ## Sessions -/

/-- What a row says of its session. -/
structure Session where
  userId : String
  createdAt : Nat
  expiresAt : Nat
  lastActivityAt : Option Nat

def RefreshTokenRow.session (row : RefreshTokenRow) : Session :=
  ⟨row.userId, row.createdAt, row.expiresAt, row.lastActivityAt⟩

/-- What a fact makes of the token's session. -/
def SessionFact.apply (token : String) (session : Option Session) : SessionFact → Option Session
  | .issued token' userId issuedAt sessionDays =>
      if token' = token then
        some ⟨userId, issuedAt, issuedAt + sessionDays * dayMs, some issuedAt⟩
      else session
  | .refreshed token' active now =>
      if token' = token ∧ active then
        session.map fun session => { session with lastActivityAt := some now }
      else session
  | .refused token' => if token' = token then none else session
  | .revoked token' => if token' = token then none else session
  | .ended userId => session.filter fun session => session.userId ≠ userId

/-- A fact starts a session, or it leaves one with its last activity. -/
theorem apply_eq_some_iff (token : String) (session : Option Session) (fact : SessionFact)
    (after : Session) :
    fact.apply token session = some after ↔
      (∃ userId issuedAt sessionDays, fact = .issued token userId issuedAt sessionDays ∧
        after = ⟨userId, issuedAt, issuedAt + sessionDays * dayMs, some issuedAt⟩) ∨
      ∃ before, session = some before ∧ ¬fact.Ends token before.userId ∧
        after = { before with
          lastActivityAt := (fact.activeAt token).or before.lastActivityAt } := by
  unfold SessionFact.apply SessionFact.Ends SessionFact.activeAt
  cases fact with
  | issued token' userId issuedAt sessionDays =>
      dsimp only
      by_cases same : token' = token
      · subst same
        rw [if_pos rfl]
        constructor
        · rintro ⟨⟩
          exact .inl ⟨_, _, _, rfl, rfl⟩
        · rintro (⟨_, _, _, ⟨⟩, rfl⟩ | ⟨before, -, other, -⟩)
          · rfl
          · exact absurd rfl other
      · rw [if_neg same]
        constructor
        · exact fun held => .inr ⟨after, held, same, rfl⟩
        · rintro (⟨_, _, _, ⟨⟩, rfl⟩ | ⟨before, held, -, rfl⟩)
          · exact absurd rfl same
          · exact held
  | refreshed token' active now =>
      dsimp only
      by_cases same : token' = token ∧ active
      · rw [if_pos same, if_pos same, Option.map_eq_some_iff]
        constructor
        · rintro ⟨before, held, rfl⟩
          exact .inr ⟨before, held, id, rfl⟩
        · rintro (⟨_, _, _, ⟨⟩, -⟩ | ⟨before, held, -, rfl⟩)
          exact ⟨before, held, rfl⟩
      · rw [if_neg same, if_neg same]
        constructor
        · exact fun held => .inr ⟨after, held, id, rfl⟩
        · rintro (⟨_, _, _, ⟨⟩, -⟩ | ⟨before, held, -, rfl⟩)
          exact held
  | refused token' =>
      dsimp only
      by_cases same : token' = token
      · simp [same]
      · simp [same, eq_comm]
  | revoked token' =>
      dsimp only
      by_cases same : token' = token
      · simp [same]
      · simp [same, eq_comm]
  | ended userId =>
      dsimp only
      rw [Option.filter_eq_some_iff]
      constructor
      · rintro ⟨held, other⟩
        exact .inr ⟨after, held, fun same => of_decide_eq_true other same.symm, rfl⟩
      · rintro (⟨_, _, _, ⟨⟩, -⟩ | ⟨before, held, other, rfl⟩)
        exact ⟨held, decide_eq_true fun same => other same.symm⟩

theorem sinceIssue_snoc {log : List SessionFact} {fact : SessionFact} {token userId : String}
    {issuedAt sessionDays : Nat} {since : List SessionFact} :
    SinceIssue (log ++ [fact]) token userId issuedAt sessionDays since ↔
      (since = [] ∧ fact = .issued token userId issuedAt sessionDays) ∨
      ∃ earlier, since = earlier ++ [fact] ∧
        SinceIssue log token userId issuedAt sessionDays earlier ∧ ¬fact.Ends token userId := by
  constructor
  · rintro ⟨⟨before, same⟩, kept⟩
    rcases since.eq_nil_or_concat' with rfl | ⟨earlier, last, rfl⟩
    · obtain ⟨-, last⟩ := List.append_inj' same rfl
      exact .inl ⟨rfl, List.singleton_inj.mp last⟩
    · rw [← List.cons_append, ← List.append_assoc] at same
      obtain ⟨first, last⟩ := List.append_inj' same rfl
      cases List.singleton_inj.mp last
      rw [List.forall_mem_append, List.forall_mem_singleton] at kept
      exact .inr ⟨earlier, rfl, ⟨⟨before, first⟩, kept.1⟩, kept.2⟩
  · rintro (⟨rfl, rfl⟩ | ⟨earlier, rfl, ⟨⟨before, rfl⟩, kept⟩, still⟩)
    · exact ⟨⟨log, rfl⟩, by simp⟩
    · refine ⟨⟨before, by simp⟩, ?_⟩
      rw [List.forall_mem_append, List.forall_mem_singleton]
      exact ⟨kept, still⟩

theorem lastActive_snoc (token : String) (since : List SessionFact) (fact : SessionFact) :
    lastActive token (since ++ [fact]) = (fact.activeAt token).or (lastActive token since) := by
  unfold lastActive
  rw [List.filterMap_append, List.getLast?_append]
  cases active : fact.activeAt token <;> simp [active]

/-- A session is that of the token's last issue. -/
theorem foldl_apply_iff (token : String) (log : List SessionFact) (session : Session) :
    log.foldl (SessionFact.apply token) none = some session ↔
      ∃ userId issuedAt sessionDays since,
        SinceIssue log token userId issuedAt sessionDays since ∧
          session = ⟨userId, issuedAt, issuedAt + sessionDays * dayMs,
            some ((lastActive token since).getD issuedAt)⟩ := by
  induction log using List.reverseRecOn generalizing session with
  | nil =>
      refine iff_of_false (fun absent => by cases absent) ?_
      rintro ⟨_, _, _, _, ⟨⟨before, same⟩, -⟩, -⟩
      cases before <;> cases same
  | append_singleton log fact ih =>
      rw [List.foldl_append, List.foldl_cons, List.foldl_nil, apply_eq_some_iff]
      constructor
      · rintro (⟨userId, issuedAt, sessionDays, rfl, rfl⟩ | ⟨before, held, kept, rfl⟩)
        · exact ⟨userId, issuedAt, sessionDays, [], sinceIssue_snoc.mpr (.inl ⟨rfl, rfl⟩), rfl⟩
        · obtain ⟨userId, issuedAt, sessionDays, since, issued, rfl⟩ := (ih before).mp held
          refine ⟨userId, issuedAt, sessionDays, since ++ [fact],
            sinceIssue_snoc.mpr (.inr ⟨since, rfl, issued, kept⟩), ?_⟩
          rw [lastActive_snoc]
          cases fact.activeAt token <;> rfl
      · rintro ⟨userId, issuedAt, sessionDays, since, issued, rfl⟩
        rcases sinceIssue_snoc.mp issued with ⟨rfl, rfl⟩ | ⟨earlier, rfl, issued, kept⟩
        · exact .inl ⟨userId, issuedAt, sessionDays, rfl, rfl⟩
        · refine .inr ⟨_, (ih _).mpr ⟨userId, issuedAt, sessionDays, earlier, issued, rfl⟩,
            kept, ?_⟩
          rw [lastActive_snoc]
          cases fact.activeAt token <;> rfl

/-! ## Rows -/

/-- The rows that are found by hash, as `validateRefreshToken` does. -/
def tokenRow (crypto : AuthCrypto) (token : String) (rows : OrderedMap String RefreshTokenRow) :
    Option RefreshTokenRow :=
  rows.values.find? fun row => row.tokenHash = crypto.hashToken token

/-- What the table's constraints keep. -/
structure SessionRows (db : AuthDb) : Prop where
  keyed : db.refreshTokens.KeyedBy RefreshTokenRow.id
  hashes : (db.refreshTokens.values.map RefreshTokenRow.tokenHash).Nodup
  users : ∀ row ∈ db.refreshTokens.values, (db.users.get row.userId).isSome

section Rows

variable {crypto : AuthCrypto} {token : String} {rows : OrderedMap String RefreshTokenRow}

/-- Rows have hashes of their own: the row that is found is the only one. -/
theorem tokenRow_eq_some_iff (hashes : (rows.values.map RefreshTokenRow.tokenHash).Nodup)
    (row : RefreshTokenRow) :
    tokenRow crypto token rows = some row ↔
      row ∈ rows.values ∧ row.tokenHash = crypto.hashToken token := by
  constructor
  · intro found
    exact ⟨List.mem_of_find?_eq_some found, by simpa using List.find?_some found⟩
  · rintro ⟨member, same⟩
    cases found : tokenRow crypto token rows with
    | none => simpa [same] using List.find?_eq_none.mp found row member
    | some other =>
        have hash : other.tokenHash = crypto.hashToken token := by simpa using List.find?_some found
        exact congrArg some (List.inj_on_of_nodup_map hashes
          (List.mem_of_find?_eq_some found) member (hash.trans same.symm))

theorem values_filter (keep : RefreshTokenRow → Bool) :
    (rows.filter keep).values = rows.values.filter keep := by
  rw [OrderedMap.values, OrderedMap.values, OrderedMap.filter, List.filter_map]
  rfl

theorem hashes_filter (hashes : (rows.values.map RefreshTokenRow.tokenHash).Nodup)
    (keep : RefreshTokenRow → Bool) :
    ((rows.filter keep).values.map RefreshTokenRow.tokenHash).Nodup := by
  rw [values_filter]
  exact hashes.sublist (List.filter_sublist.map _)

theorem tokenRow_filter (hashes : (rows.values.map RefreshTokenRow.tokenHash).Nodup)
    (keep : RefreshTokenRow → Bool) :
    tokenRow crypto token (rows.filter keep) = (tokenRow crypto token rows).filter keep := by
  ext row
  rw [tokenRow_eq_some_iff (hashes_filter hashes keep), Option.filter_eq_some_iff,
    tokenRow_eq_some_iff hashes, values_filter, List.mem_filter]
  exact and_right_comm

/-- A change of the rows that leaves their hashes. -/
theorem tokenRow_map {change : RefreshTokenRow → RefreshTokenRow}
    (same : ∀ row, (change row).tokenHash = row.tokenHash) :
    tokenRow crypto token (rows.map change) = (tokenRow crypto token rows).map change := by
  unfold tokenRow
  rw [OrderedMap.values_map, List.find?_map]
  simp [Function.comp_def, same]

theorem tokenRow_set (row : RefreshTokenRow) (absent : rows.get row.id = none)
    (apart : ∀ other ∈ rows.values, other.tokenHash ≠ row.tokenHash) :
    tokenRow crypto token (rows.set row.id row) =
      if row.tokenHash = crypto.hashToken token then some row else tokenRow crypto token rows := by
  unfold tokenRow
  rw [OrderedMap.values_set_of_absent absent, List.find?_append]
  split
  · rename_i own
    have nobody : (rows.values.find? fun row => row.tokenHash = crypto.hashToken token) = none := by
      rw [List.find?_eq_none]
      intro other member same
      exact apart other member ((of_decide_eq_true same).trans own.symm)
    simp [nobody, own]
  · rename_i other
    simp [other]

end Rows

/-! ## What events do to the rows -/

/-- The tokens are untouched, and no user is gone. -/
def SameSessions (db db' : AuthDb) : Prop :=
  db'.refreshTokens = db.refreshTokens ∧
    ∀ id, (db.users.get id).isSome → (db'.users.get id).isSome

section Users

variable {db : AuthDb}

theorem isSome_set {users : OrderedMap String User} {id key : String} (user : User)
    (there : (users.get id).isSome) : ((users.set key user).get id).isSome := by
  rw [OrderedMap.get_set]
  split
  · rfl
  · exact there

theorem sameSessions_insertUser (user : User) :
    Preserves (SameSessions db) (insertUser user) := by
  intro mid same
  unfold insertUser
  split
  · exact same
  · split
    · exact same
    · split
      · exact same
      · exact ⟨same.1, fun id there => isSome_set user (same.2 id there)⟩

theorem sameSessions_updateUserRow (id : String) (change : User → User) :
    Preserves (SameSessions db) (updateUserRow id change) := by
  refine preserves_modify fun mid same => ?_
  split
  · exact same
  · exact ⟨same.1, fun other there => isSome_set _ (same.2 other there)⟩

theorem sameSessions_changeGroup (id : String) (groupId : Option (Option String)) :
    Preserves (SameSessions db) (changeGroup id groupId) := by
  cases groupId with
  | none => exact preserves_pure _
  | some groupId =>
      intro mid same
      unfold changeGroup updateGroup
      dsimp only
      split
      · exact same
      · split
        · exact same
        · exact ⟨same.1, fun other there => isSome_set _ (same.2 other there)⟩

theorem sameSessions_updateUser (id : String) (updates : UserUpdates) :
    Preserves (SameSessions db) (updateUser id updates) := by
  refine Preserves.bind (readOnly_asks _).preserves fun existing => ?_
  cases existing with
  | none => exact preserves_throw _
  | some existing =>
      have role : Preserves (SameSessions db) (changeRole id existing updates.role) := by
        unfold changeRole
        split
        · exact preserves_pure _
        · refine Preserves.ite (fun _ => ?_) fun _ => preserves_pure _
          refine Preserves.ite (fun _ => ?_) fun _ => sameSessions_updateUserRow id _
          exact Preserves.bind readOnly_assertNotLastAdmin.preserves fun _ =>
            sameSessions_updateUserRow id _
      have policy : Preserves (SameSessions db) (changePolicy id existing updates) := by
        refine Preserves.ite (fun _ => ?_) fun _ => preserves_pure _
        exact Preserves.bind (readOnly_check _).preserves fun _ => sameSessions_updateUserRow id _
      refine Preserves.bind role fun _ => Preserves.bind policy fun _ => ?_
      split
      · exact Preserves.bind (readOnly_check _).preserves fun _ => preserves_pure _
      · refine Preserves.bind (sameSessions_changeGroup id _) fun _ => ?_
        exact Preserves.bind (readOnly_asks _).preserves fun _ => preserves_pure _

theorem SessionRows.same {db' : AuthDb} (rows : SessionRows db) (same : SameSessions db db') :
    SessionRows db' where
  keyed := same.1 ▸ rows.keyed
  hashes := same.1 ▸ rows.hashes
  users row stored := same.2 _ (rows.users row (same.1 ▸ stored))

theorem SessionRows.filter (rows : SessionRows db) (keep : RefreshTokenRow → Bool) :
    SessionRows { db with refreshTokens := db.refreshTokens.filter keep } where
  keyed id row found := by
    rw [show (db.refreshTokens.filter keep).get id = _ from OrderedMap.get_filter _ _ _,
      Option.filter_eq_some_iff] at found
    exact rows.keyed id row found.1
  hashes := hashes_filter rows.hashes keep
  users row stored := by
    rw [values_filter] at stored
    exact rows.users row (List.mem_of_mem_filter stored)

theorem SessionRows.map (rows : SessionRows db) {change : RefreshTokenRow → RefreshTokenRow}
    (ids : ∀ row, (change row).id = row.id) (userIds : ∀ row, (change row).userId = row.userId)
    (hashes : ∀ row, (change row).tokenHash = row.tokenHash) :
    SessionRows { db with refreshTokens := db.refreshTokens.map change } where
  keyed id row found := by
    rw [show (db.refreshTokens.map change).get id = _ from OrderedMap.get_map _ _ _] at found
    obtain ⟨old, there, rfl⟩ := Option.map_eq_some_iff.mp found
    exact (ids old).trans (rows.keyed id old there)
  hashes := by
    rw [OrderedMap.values_map, List.map_map]
    exact (List.map_congr_left fun row _ => hashes row) ▸ rows.hashes
  users row stored := by
    rw [OrderedMap.values_map] at stored
    obtain ⟨old, there, rfl⟩ := List.mem_map.mp stored
    exact userIds old ▸ rows.users old there

theorem SessionRows.set (rows : SessionRows db) (row : RefreshTokenRow)
    (absent : db.refreshTokens.get row.id = none)
    (apart : ∀ other ∈ db.refreshTokens.values, other.tokenHash ≠ row.tokenHash)
    (user : (db.users.get row.userId).isSome) :
    SessionRows { db with refreshTokens := db.refreshTokens.set row.id row } where
  keyed := rows.keyed.set row
  hashes := by
    rw [OrderedMap.values_set_of_absent absent, List.map_append, List.map_singleton,
      List.nodup_append]
    refine ⟨rows.hashes, List.nodup_singleton _, fun hash member other single => ?_⟩
    obtain ⟨old, stored, rfl⟩ := List.mem_map.mp member
    rw [List.mem_singleton.mp single]
    exact apart old stored
  users other stored := by
    rw [OrderedMap.values_set_of_absent absent, List.mem_append, List.mem_singleton] at stored
    rcases stored with stored | rfl
    · exact rows.users other stored
    · exact user

/-- A token that is issued has a row of its own. -/
theorem generateRefreshToken_cases (crypto : AuthCrypto) (draw : Draw) (userId : String)
    (presented : Option String) (db : AuthDb) :
    (∃ e, generateRefreshToken crypto draw userId presented db = (.error e, db)) ∨
    (generateRefreshToken crypto draw userId presented db =
        (.ok draw.rawToken, { db with
          refreshTokens := db.refreshTokens.set draw.tokenId
            (newRefreshToken crypto draw userId presented db) }) ∧
      db.refreshTokens.get draw.tokenId = none ∧
      (∀ other ∈ db.refreshTokens.values, other.tokenHash ≠ crypto.hashToken draw.rawToken) ∧
      (db.users.get userId).isSome) := by
  have refused {e : AuthError} (failed : insertRefreshToken
      (newRefreshToken crypto draw userId presented db) db = (.error e, db)) :
      ∃ e, generateRefreshToken crypto draw userId presented db = (.error e, db) :=
    ⟨e, (bind_of_ok (asks_apply _ _)).trans (bind_of_error failed)⟩
  by_cases taken : (db.refreshTokens.get draw.tokenId).isSome
  · exact .inl (refused (if_pos taken))
  by_cases same : db.refreshTokens.values.any fun other =>
      other.tokenHash = crypto.hashToken draw.rawToken
  · exact .inl (refused ((if_neg taken).trans (if_pos same)))
  by_cases nobody : (db.users.get userId).isNone
  · exact .inl (refused ((if_neg taken).trans ((if_neg same).trans (if_pos nobody))))
  refine .inr ⟨?_, Option.not_isSome_iff_eq_none.mp taken, fun other stored hash => ?_, ?_⟩
  · have inserted : insertRefreshToken (newRefreshToken crypto draw userId presented db) db =
        (.ok (), { db with
          refreshTokens := db.refreshTokens.set draw.tokenId
            (newRefreshToken crypto draw userId presented db) }) :=
      (if_neg taken).trans ((if_neg same).trans (if_neg nobody))
    exact (bind_of_ok (asks_apply _ _)).trans (bind_of_ok inserted)
  · exact same (List.any_eq_true.mpr ⟨other, stored, decide_eq_true hash⟩)
  · exact Option.isSome_iff_ne_none.mpr (by simpa using nobody)

/-- The row after an active refresh. -/
def touched (tokenHash : String) (now : Nat) (row : RefreshTokenRow) : RefreshTokenRow :=
  if row.tokenHash = tokenHash then { row with lastActivityAt := some now } else row

/-- What a refresh finds, and what it leaves. -/
theorem refresh_cases (rows : SessionRows db) (crypto : AuthCrypto) (token : String)
    (active : Bool) (now : Nat) :
    (tokenRow crypto token db.refreshTokens = none ∧
      ∃ e, refresh crypto token active now db = (.error e, db)) ∨
    ∃ row user, tokenRow crypto token db.refreshTokens = some row ∧
      db.users.get row.userId = some user ∧
      ((tokenExpired row (user.sessionDays, user.inactivityMinutes) now = true ∧
        ∃ e, refresh crypto token active now db = (.error e, { db with
          refreshTokens := db.refreshTokens.filter fun other => !decide (other.id = row.id) })) ∨
      (tokenExpired row (user.sessionDays, user.inactivityMinutes) now = false ∧
        ∃ result, refresh crypto token active now db = (.ok result,
          if active then { db with
            refreshTokens := db.refreshTokens.map (touched (crypto.hashToken token) now) }
          else db))) := by
  cases found : tokenRow crypto token db.refreshTokens with
  | none =>
      refine .inl ⟨rfl, .unauthorized "Invalid or expired refresh token", ?_⟩
      unfold tokenRow at found
      simp only [refresh, validateRefreshToken, bind_apply, asks_apply, found]
      rfl
  | some row =>
      have stored := ((tokenRow_eq_some_iff rows.hashes row).mp found).1
      obtain ⟨user, there⟩ := Option.isSome_iff_exists.mp (rows.users row stored)
      have policy : dbSessionPolicy row.userId db = (user.sessionDays, user.inactivityMinutes) := by
        unfold dbSessionPolicy
        rw [there]
      refine .inr ⟨row, user, rfl, there, ?_⟩
      unfold tokenRow at found
      cases expired : tokenExpired row (user.sessionDays, user.inactivityMinutes) now with
      | true =>
          refine .inl ⟨rfl, .unauthorized "Invalid or expired refresh token", ?_⟩
          simp only [refresh, validateRefreshToken, bind_apply, asks_apply, found, policy, expired]
          rfl
      | false =>
          have validated : validateRefreshToken crypto token now db = (.ok (some row), db) := by
            simp only [validateRefreshToken, bind_apply, asks_apply, found, policy, expired]
            rfl
          have read : getUser row.userId db = some user := there
          refine .inr ⟨rfl, .returned
            (.accessToken ⟨user.id, user.username, user.role, user.groupId⟩), ?_⟩
          unfold refresh
          rw [bind_of_ok validated]
          dsimp only
          rw [bind_apply, asks_apply, read]
          cases active <;> rfl

end Users

theorem deleteUser_cases (id : String) (db : AuthDb) :
    (∃ e, deleteUser id db = (.error e, db)) ∨
    ∃ result, deleteUser id db = (.ok result, { db with
      users := db.users.delete id
      refreshTokens := db.refreshTokens.filter fun row => !decide (row.userId = id) }) := by
  cases found : getUser id db with
  | none =>
      refine .inl ⟨.notFound "User not found", ?_⟩
      simp only [deleteUser, bind_apply, asks_apply, found]
      rfl
  | some user =>
      by_cases admin : user.role = .admin
      · by_cases last : adminCount db ≤ 1
        · refine .inl ⟨.conflict "Cannot remove the last admin user", ?_⟩
          simp only [deleteUser, bind_apply, asks_apply, found, if_pos admin, assertNotLastAdmin,
            if_pos last]
          rfl
        · refine .inr ⟨.returned .none, ?_⟩
          simp only [deleteUser, bind_apply, asks_apply, found, if_pos admin, assertNotLastAdmin,
            if_neg last]
          simp [deleteUserRow, pure]
      · refine .inr ⟨.returned .none, ?_⟩
        simp only [deleteUser, bind_apply, asks_apply, found, if_neg admin]
        simp [deleteUserRow, pure]

/-! ## One event -/

/-- The session of a token's row. -/
def storedSession (crypto : AuthCrypto) (token : String) (db : AuthDb) : Option Session :=
  (tokenRow crypto token db.refreshTokens).map RefreshTokenRow.session

/-- What an event with this token makes of the rows, and the facts that it logs. -/
inductive SessionChange (crypto : AuthCrypto) (db : AuthDb) :
    Option String → List SessionFact → AuthDb → Prop where
  | still {token : Option String} {db' : AuthDb} (same : SameSessions db db') :
      SessionChange crypto db token [] db'
  | issue (userId : String) (presented : Option String) (draw : Draw)
      (absent : db.refreshTokens.get draw.tokenId = none)
      (apart : ∀ other ∈ db.refreshTokens.values,
        other.tokenHash ≠ crypto.hashToken draw.rawToken)
      (user : (db.users.get userId).isSome) :
      SessionChange crypto db (some draw.rawToken)
        [.issued draw.rawToken userId draw.now (dbSessionPolicy userId db).1]
        { db with
          refreshTokens := db.refreshTokens.set draw.tokenId
            (newRefreshToken crypto draw userId presented db) }
  | unknown (token : String) (absent : tokenRow crypto token db.refreshTokens = none) :
      SessionChange crypto db (some token) [.refused token] db
  | refuse (token : String) (row : RefreshTokenRow)
      (found : tokenRow crypto token db.refreshTokens = some row) :
      SessionChange crypto db (some token) [.refused token] { db with
        refreshTokens := db.refreshTokens.filter fun other => !decide (other.id = row.id) }
  | refresh (token : String) (active : Bool) (now : Nat) :
      SessionChange crypto db (some token) [.refreshed token active now]
        (if active then { db with
          refreshTokens := db.refreshTokens.map (touched (crypto.hashToken token) now) } else db)
  | revoke (token : String) :
      SessionChange crypto db (some token) [.revoked token] { db with
        refreshTokens := db.refreshTokens.filter fun row =>
          !decide (row.tokenHash = crypto.hashToken token) }
  | all {token : Option String} (userId : String) {db' : AuthDb}
      (rows : db'.refreshTokens = db.refreshTokens.filter fun row => !decide (row.userId = userId))
      (users : ∀ id, id ≠ userId → (db.users.get id).isSome → (db'.users.get id).isSome) :
      SessionChange crypto db token [.ended userId] db'

section Step

variable {crypto : AuthCrypto} {db : AuthDb}

theorem sessionChange_step (rows : SessionRows db) (e : SessionEvent) :
    SessionChange crypto db e.token (sessionFacts crypto db e) (e.step crypto db) := by
  cases e with
  | issue userId presented draw =>
      change SessionChange crypto db (some draw.rawToken)
        (logged _ _ (generateRefreshToken crypto draw userId presented db).1)
        (generateRefreshToken crypto draw userId presented db).2
      rcases generateRefreshToken_cases crypto draw userId presented db with
        ⟨e, refused⟩ | ⟨issued, absent, apart, user⟩
      · rw [refused]
        exact .still ⟨rfl, fun _ there => there⟩
      · rw [issued]
        exact .issue userId presented draw absent apart user
  | refresh token active now =>
      change SessionChange crypto db (some token)
        (logged _ _ (refresh crypto token active now db).1)
        (refresh crypto token active now db).2
      rcases refresh_cases rows crypto token active now with
        ⟨absent, e, refused⟩ | ⟨row, user, found, -, ⟨-, e, refused⟩ | ⟨-, result, returned⟩⟩
      · rw [refused]
        exact .unknown token absent
      · rw [refused]
        exact .refuse token row found
      · rw [returned]
        exact .refresh token active now
  | logout token => exact .revoke token
  | updateUser id updates =>
      exact .still (sameSessions_updateUser id updates db ⟨rfl, fun _ there => there⟩)
  | writePassword id passwordHash verified =>
      refine .all id ?_ fun other _ there => ?_
      · simp only [SessionEvent.step, writePassword, updatePasswordHash, deleteRefreshTokens,
          bind_apply, modify_apply]
        cases db.users.get id <;> rfl
      · simp only [SessionEvent.step, writePassword, updatePasswordHash, deleteRefreshTokens,
          bind_apply, modify_apply]
        cases db.users.get id with
        | none => exact there
        | some user => exact isSome_set _ there
  | insertUser user =>
      exact .still (sameSessions_insertUser user db ⟨rfl, fun _ there => there⟩)
  | deleteUser id =>
      change SessionChange crypto db none (logged _ _ (deleteUser id db).1) (deleteUser id db).2
      rcases deleteUser_cases id db with ⟨e, refused⟩ | ⟨result, returned⟩
      · rw [refused]
        exact .still ⟨rfl, fun _ there => there⟩
      · rw [returned]
        refine .all id rfl fun other ne there => ?_
        rw [OrderedMap.get_delete_of_ne _ ne]
        exact there

theorem SessionChange.rows {presented : Option String} {facts : List SessionFact} {db' : AuthDb}
    (change : SessionChange crypto db presented facts db') (rows : SessionRows db) :
    SessionRows db' := by
  cases change with
  | still same => exact rows.same same
  | issue userId presented draw absent apart user =>
      exact rows.set (newRefreshToken crypto draw userId presented db) absent apart user
  | unknown token absent => exact rows
  | refuse token row found => exact rows.filter _
  | refresh token active now =>
      split
      · refine rows.map ?_ ?_ ?_ <;>
        · intro row
          unfold touched
          split <;> rfl
      · exact rows
  | revoke token => exact rows.filter _
  | all userId same users =>
      have others := rows.filter fun row => !decide (row.userId = userId)
      refine ⟨same ▸ others.keyed, same ▸ others.hashes, fun row stored => ?_⟩
      rw [same, values_filter, List.mem_filter] at stored
      exact users _ (by simpa using stored.2) (rows.users row stored.1)

/-- **Every event accounts for what it does.**  The row of a token after it is the session that
the facts make of the row before, if no other token that is presented has its hash. -/
theorem SessionChange.accounts {presented : Option String} {facts : List SessionFact}
    {db' : AuthDb} (change : SessionChange crypto db presented facts db') (rows : SessionRows db)
    {token : String}
    (apart : ∀ other ∈ presented, crypto.hashToken other = crypto.hashToken token →
      other = token) :
    facts.foldl (SessionFact.apply token) (storedSession crypto token db) =
      storedSession crypto token db' := by
  unfold storedSession
  cases change with
  | still same =>
      rw [same.1]
      rfl
  | issue userId presented draw absent others user =>
      have row : tokenRow crypto token (db.refreshTokens.set draw.tokenId
          (newRefreshToken crypto draw userId presented db)) =
            if crypto.hashToken draw.rawToken = crypto.hashToken token then
              some (newRefreshToken crypto draw userId presented db)
            else tokenRow crypto token db.refreshTokens :=
        tokenRow_set (newRefreshToken crypto draw userId presented db) absent others
      rw [row]
      by_cases own : draw.rawToken = token
      · simp [SessionFact.apply, own, newRefreshToken, RefreshTokenRow.session]
      · rw [if_neg fun same => own (apart _ rfl same)]
        simp [SessionFact.apply, own]
  | unknown other absent =>
      by_cases own : other = token
      · subst own
        simp [SessionFact.apply, absent]
      · simp [SessionFact.apply, own]
  | refuse other row found =>
      rw [tokenRow_filter rows.hashes]
      by_cases own : other = token
      · subst own
        simp [SessionFact.apply, found, Option.filter]
      · cases found' : tokenRow crypto token db.refreshTokens with
        | none => simp [SessionFact.apply]
        | some row' =>
            obtain ⟨stored, hash⟩ := (tokenRow_eq_some_iff rows.hashes row).mp found
            obtain ⟨stored', hash'⟩ := (tokenRow_eq_some_iff rows.hashes row').mp found'
            have apart' : ¬row'.id = row.id := by
              intro same
              cases List.inj_on_of_nodup_map rows.keyed.values_nodup stored' stored same
              exact own (apart _ rfl (hash.symm.trans hash'))
            simp [SessionFact.apply, own, apart', Option.filter]
  | refresh other active now =>
      cases active with
      | false => simp [SessionFact.apply]
      | true =>
          rw [if_pos rfl, tokenRow_map fun row => by unfold touched; split <;> rfl]
          by_cases own : other = token
          · subst own
            cases found : tokenRow crypto other db.refreshTokens with
            | none => simp [SessionFact.apply]
            | some row =>
                have hash := ((tokenRow_eq_some_iff rows.hashes row).mp found).2
                simp [SessionFact.apply, touched, hash, RefreshTokenRow.session]
          · cases found : tokenRow crypto token db.refreshTokens with
            | none => simp [SessionFact.apply]
            | some row =>
                have hash := ((tokenRow_eq_some_iff rows.hashes row).mp found).2
                have apart' : ¬row.tokenHash = crypto.hashToken other := fun same =>
                  own (apart _ rfl (same.symm.trans hash))
                simp [SessionFact.apply, touched, own, apart']
  | revoke other =>
      rw [tokenRow_filter rows.hashes]
      cases found : tokenRow crypto token db.refreshTokens with
      | none => simp [SessionFact.apply]
      | some row =>
          have hash := ((tokenRow_eq_some_iff rows.hashes row).mp found).2
          by_cases own : other = token
          · simp [SessionFact.apply, own, hash, Option.filter]
          · have apart' : ¬crypto.hashToken token = crypto.hashToken other := fun same =>
              own (apart _ rfl same.symm)
            simp [SessionFact.apply, own, hash, apart', Option.filter]
  | all userId same users =>
      rw [same, tokenRow_filter rows.hashes]
      cases tokenRow crypto token db.refreshTokens with
      | none => rfl
      | some row =>
          by_cases own : row.userId = userId
          · simp [SessionFact.apply, own, RefreshTokenRow.session, Option.filter]
          · simp [SessionFact.apply, own, RefreshTokenRow.session, Option.filter]

end Step

/-! ## Runs -/

/-- What happened to the tokens in a run. -/
abbrev sessionLog (crypto : AuthCrypto) (db : AuthDb) (events : List SessionEvent) :
    List SessionFact :=
  Replica.announced (SessionEvent.step crypto) (sessionFacts crypto) db events

/-- The refresh returns an access token. -/
def RefreshSucceeds (crypto : AuthCrypto) (token : String) (active : Bool) (now : Nat)
    (db : AuthDb) : Prop :=
  ∃ result, (refresh crypto token active now db).1 = .ok result

section Runs

variable {crypto : AuthCrypto} {db : AuthDb} {token : String}

theorem sessionRows_run (rows : SessionRows db) (events : List SessionEvent) :
    SessionRows (run (SessionEvent.step crypto) db events) :=
  run_invariant (fun db e (rows : SessionRows db) => (sessionChange_step rows e).rows rows) rows
    events

/-- The row of a token after a run is the session that the log gives. -/
theorem foldl_sessionLog (rows : SessionRows db) {events : List SessionEvent}
    (apart : ∀ other ∈ events.filterMap SessionEvent.token,
      crypto.hashToken other = crypto.hashToken token → other = token) :
    (sessionLog crypto db events).foldl (SessionFact.apply token) (storedSession crypto token db) =
      storedSession crypto token (run (SessionEvent.step crypto) db events) := by
  refine Replica.foldl_announced ?_
  induction events generalizing db with
  | nil => trivial
  | cons e events ih =>
      have change : SessionChange crypto db e.token (sessionFacts crypto db e) (e.step crypto db) :=
        sessionChange_step rows e
      refine ⟨change.accounts rows fun other drawn => apart other ?_,
        ih (change.rows rows) fun other later => apart other ?_⟩
      · exact List.mem_filterMap.mpr ⟨e, List.mem_cons_self, drawn⟩
      · obtain ⟨e', member, drawn⟩ := List.mem_filterMap.mp later
        exact List.mem_filterMap.mpr ⟨e', List.mem_cons_of_mem _ member, drawn⟩

/-- The log keeps the times of the events. -/
theorem now_sessionFacts (db : AuthDb) (e : SessionEvent) :
    ((sessionFacts crypto db e).filterMap SessionFact.now).Sublist e.now.toList := by
  unfold sessionFacts logged
  cases e <;> dsimp only <;> first
    | exact List.Sublist.refl _
    | split <;> first
      | exact List.Sublist.refl _
      | exact List.nil_sublist _

theorem now_sessionLog (db : AuthDb) (events : List SessionEvent) :
    ((sessionLog crypto db events).filterMap SessionFact.now).Sublist
      (events.filterMap SessionEvent.now) := by
  induction events generalizing db with
  | nil => exact List.Sublist.refl _
  | cons e events ih =>
      have split : (e :: events).filterMap SessionEvent.now =
          e.now.toList ++ events.filterMap SessionEvent.now := by
        rw [List.filterMap_cons]
        cases e.now <;> rfl
      rw [split, sessionLog, Replica.announced, List.filterMap_append]
      exact (now_sessionFacts db e).append (ih _)

/-- An active refresh is no earlier than the issue. -/
theorem issuedAt_le_lastActive {log : List SessionFact} {userId : String}
    {issuedAt sessionDays : Nat} {since : List SessionFact}
    (clock : (log.filterMap SessionFact.now).Pairwise (· ≤ ·))
    (issued : SinceIssue log token userId issuedAt sessionDays since) :
    issuedAt ≤ (lastActive token since).getD issuedAt := by
  obtain ⟨⟨before, rfl⟩, -⟩ := issued
  rw [List.filterMap_append, List.filterMap_cons, SessionFact.now, List.pairwise_append] at clock
  have later := (List.pairwise_cons.mp clock.2.1).1
  cases active : lastActive token since with
  | none => exact Nat.le_refl _
  | some time =>
      obtain ⟨fact, member, found⟩ := List.mem_filterMap.mp (List.mem_of_getLast? active)
      refine later time (List.mem_filterMap.mpr ⟨fact, member, ?_⟩)
      unfold SessionFact.activeAt at found
      split at found
      · split at found <;> cases found
        rfl
      · cases found

theorem tokenExpired_eq_false_iff (row : RefreshTokenRow)
    (sessionDays inactivityMinutes now : Nat) :
    tokenExpired row (sessionDays, inactivityMinutes) now = false ↔
      now ≤ row.expiresAt ∧ now ≤ row.createdAt + sessionDays * dayMs ∧
        (inactivityMinutes ≠ 0 →
          now ≤ row.lastActivityAt.getD row.createdAt + inactivityMinutes * 60000) := by
  simp only [tokenExpired, Bool.or_eq_false_iff, Bool.and_eq_false_iff, decide_eq_false_iff_not]
  omega

/-- Of two session lengths the smaller one counts. -/
theorem within_both_iff (now issuedAt first second : Nat) :
    now ≤ issuedAt + first * dayMs ∧ now ≤ issuedAt + second * dayMs ↔
      now ≤ issuedAt + min first second * dayMs := by
  rcases Nat.le_total first second with le | le
  · have longer := Nat.mul_le_mul_right dayMs le
    rw [Nat.min_eq_left le]
    omega
  · have longer := Nat.mul_le_mul_right dayMs le
    rw [Nat.min_eq_right le]
    omega

/-- No fact but an issue starts a session. -/
theorem foldl_apply_none {since : List SessionFact}
    (unissued : ∀ userId issuedAt sessionDays, .issued token userId issuedAt sessionDays ∉ since) :
    since.foldl (SessionFact.apply token) none = none := by
  cases held : since.foldl (SessionFact.apply token) none with
  | none => rfl
  | some session =>
      obtain ⟨userId, issuedAt, sessionDays, later, ⟨⟨before, rfl⟩, -⟩, -⟩ :=
        (foldl_apply_iff token since session).mp held
      exact absurd (by simp) (unissued userId issuedAt sessionDays)

/-- A refresh succeeds when the token has a row that is not expired. -/
theorem refreshSucceeds_iff (rows : SessionRows db) (active : Bool) (now : Nat) :
    RefreshSucceeds crypto token active now db ↔
      ∃ row user, tokenRow crypto token db.refreshTokens = some row ∧
        db.users.get row.userId = some user ∧
        tokenExpired row (user.sessionDays, user.inactivityMinutes) now = false := by
  unfold RefreshSucceeds
  rcases refresh_cases rows crypto token active now with
    ⟨absent, e, refused⟩ | ⟨row, user, found, there, outcome⟩
  · rw [refused]
    constructor
    · rintro ⟨_, failed⟩
      cases failed
    · rintro ⟨row, -, found, -⟩
      rw [absent] at found
      cases found
  · rcases outcome with ⟨expired, e, refused⟩ | ⟨valid, result, returned⟩
    · rw [refused]
      constructor
      · rintro ⟨_, failed⟩
        cases failed
      · rintro ⟨row', user', found', there', valid⟩
        rw [found] at found'
        cases found'
        rw [there] at there'
        cases there'
        rw [expired] at valid
        cases valid
    · rw [returned]
      exact iff_of_true ⟨result, rfl⟩ ⟨row, user, found, there, valid⟩

/-- **Session limits.**  After a run from an empty table, a refresh succeeds if and only if the
token was issued and its session was not ended since, the user exists, the absolute limits of the
issue and of now are not passed, and the user was active within the limit of now.  A refused token
does not come back. -/
theorem session_limits (empty : db.refreshTokens = .empty) {events : List SessionEvent} {now : Nat}
    (clock : (events.filterMap SessionEvent.now ++ [now]).Pairwise (· ≤ ·))
    (collisionFree : Set.InjOn crypto.hashToken
      {other | other = token ∨ other ∈ events.filterMap SessionEvent.token}) (active : Bool) :
    (RefreshSucceeds crypto token active now (run (SessionEvent.step crypto) db events) ↔
      ∃ userId issuedAt sessionDays since user,
        SinceIssue (sessionLog crypto db events) token userId issuedAt sessionDays since ∧
        (run (SessionEvent.step crypto) db events).users.get userId = some user ∧
        now ≤ issuedAt + min sessionDays user.sessionDays * dayMs ∧
        (user.inactivityMinutes ≠ 0 → now ≤
          max issuedAt ((lastActive token since).getD issuedAt) +
            user.inactivityMinutes * 60000)) ∧
    ∀ before since, sessionLog crypto db events = before ++ .refused token :: since →
      (∀ userId issuedAt sessionDays, .issued token userId issuedAt sessionDays ∉ since) →
      ¬RefreshSucceeds crypto token active now (run (SessionEvent.step crypto) db events) := by
  have start : SessionRows db := by
    constructor <;> rw [empty]
    · exact OrderedMap.keyedBy_empty _
    · exact List.nodup_nil
    · exact fun row stored => nomatch stored
  have rows : SessionRows (run (SessionEvent.step crypto) db events) :=
    sessionRows_run start events
  -- the row is the session of the log
  have stored : (sessionLog crypto db events).foldl (SessionFact.apply token) none =
      storedSession crypto token (run (SessionEvent.step crypto) db events) := by
    have nothing : storedSession crypto token db = none := by
      unfold storedSession
      rw [empty]
      rfl
    rw [← nothing]
    exact foldl_sessionLog start fun other drawn same =>
      collisionFree (.inr drawn) (.inl rfl) same
  have ordered : ((sessionLog crypto db events).filterMap SessionFact.now).Pairwise (· ≤ ·) :=
    (List.pairwise_append.mp clock).1.sublist (now_sessionLog db events)
  rw [refreshSucceeds_iff rows active now]
  refine ⟨⟨?_, ?_⟩, ?_⟩
  · rintro ⟨row, user, found, there, valid⟩
    rw [storedSession, found, Option.map_some, foldl_apply_iff] at stored
    obtain ⟨userId, issuedAt, sessionDays, since, issued, session⟩ := stored
    simp only [RefreshTokenRow.session, Session.mk.injEq] at session
    obtain ⟨userId_eq, createdAt_eq, expiresAt_eq, lastActivityAt_eq⟩ := session
    rw [tokenExpired_eq_false_iff, expiresAt_eq, createdAt_eq, lastActivityAt_eq] at valid
    refine ⟨userId, issuedAt, sessionDays, since, user, issued, userId_eq ▸ there,
      (within_both_iff _ _ _ _).mp ⟨valid.1, valid.2.1⟩, ?_⟩
    rw [max_eq_right (issuedAt_le_lastActive ordered issued)]
    exact valid.2.2
  · rintro ⟨userId, issuedAt, sessionDays, since, user, issued, there, limit, idle⟩
    rw [(foldl_apply_iff _ _ _).mpr ⟨_, _, _, _, issued, rfl⟩] at stored
    obtain ⟨row, found, session⟩ := Option.map_eq_some_iff.mp stored.symm
    simp only [RefreshTokenRow.session, Session.mk.injEq] at session
    obtain ⟨userId_eq, createdAt_eq, expiresAt_eq, lastActivityAt_eq⟩ := session
    refine ⟨row, user, found, userId_eq ▸ there, ?_⟩
    rw [tokenExpired_eq_false_iff, expiresAt_eq, createdAt_eq, lastActivityAt_eq]
    obtain ⟨atIssue, current⟩ := (within_both_iff _ _ _ _).mpr limit
    rw [max_eq_right (issuedAt_le_lastActive ordered issued)] at idle
    exact ⟨atIssue, current, idle⟩
  · rintro before since log unissued ⟨row, user, found, -⟩
    rw [log, List.foldl_append, List.foldl_cons] at stored
    rw [show (SessionFact.refused token).apply token _ = none from if_pos rfl,
      foldl_apply_none unissued, storedSession, found] at stored
    cases stored

end Runs

/-- A user with a week for a session and half an hour of inactivity. -/
def marthaDb : AuthDb where
  users := OrderedMap.empty.set "u1" {
    id := "u1", username := "martha", passwordHash := "", role := .admin, groupId := none
    createdAt := 0, sessionDays := 7, inactivityMinutes := 30 }

/-- A login, an active refresh twenty minutes later, and a day for a session from then on. -/
def marthaEvents : List SessionEvent :=
  [.issue "u1" none ⟨"", "t1", "raw", "", 0⟩, .refresh "raw" true 1200000,
    .updateUser "u1" { sessionDays := some 1 }]

/-- At three quarters of an hour. -/
theorem session_limits_martha :
    (RefreshSucceeds plainCrypto "raw" false 2700000
        (run (SessionEvent.step plainCrypto) marthaDb marthaEvents) ↔
      ∃ userId issuedAt sessionDays since user,
        SinceIssue (sessionLog plainCrypto marthaDb marthaEvents) "raw" userId issuedAt sessionDays
          since ∧
        (run (SessionEvent.step plainCrypto) marthaDb marthaEvents).users.get userId = some user ∧
        2700000 ≤ issuedAt + min sessionDays user.sessionDays * dayMs ∧
        (user.inactivityMinutes ≠ 0 → 2700000 ≤
          max issuedAt ((lastActive "raw" since).getD issuedAt) +
            user.inactivityMinutes * 60000)) ∧
    ∀ before since, sessionLog plainCrypto marthaDb marthaEvents =
        before ++ .refused "raw" :: since →
      (∀ userId issuedAt sessionDays, .issued "raw" userId issuedAt sessionDays ∉ since) →
      ¬RefreshSucceeds plainCrypto "raw" false 2700000
        (run (SessionEvent.step plainCrypto) marthaDb marthaEvents) :=
  session_limits rfl (by decide) (fun _ _ _ _ same => same) false

end Aeolus.Auth
