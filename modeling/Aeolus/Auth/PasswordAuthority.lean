/-
# Aeolus.Auth.PasswordAuthority — what an earlier password can still do

`login` and `changePassword` read the stored hash, await bcrypt and act on what they
read.  A password change that is written in between ends every session there is, but
not the one `login` is about to open, and `changePassword` then replaces a password it
has never seen (`stale_login_outlives_change`).

When no password of the same user is written between a request's read and its last
segment (`Undisturbed`), the old password has no authority left: a token that is
accepted was given for the password that is stored, and a password is replaced only by
one who knew it.
-/
import Aeolus.Auth.AuthRequests

namespace Aeolus.Auth

open Aeolus.Core Aeolus.Theory
open Handler

/-- The password is the one that is stored for the user. -/
def IsCurrent (crypto : AuthCrypto) (db : AuthDb) (userId password : String) : Prop :=
  ∃ user, db.users.get userId = some user ∧ crypto.bcrypt.compare password user.passwordHash = true

/-- `refresh` gives out an access token for this one. -/
def Accepted (crypto : AuthCrypto) (db : AuthDb) (token : String) (now : Nat) : Prop :=
  ∃ active payload db', refresh crypto token active now db =
    (.ok (.returned (.accessToken payload)), db')

/-- No earlier password has authority. -/
structure OldPasswordEnded (crypto : AuthCrypto) (db : AuthDb) : Prop where
  /-- A token that is accepted was given for the password that is stored now. -/
  tokens : ∀ token now, Accepted crypto db token now →
    ∀ row ∈ db.refreshTokens.values, row.tokenHash = crypto.hashToken token →
      ∀ password, row.presented = some password → IsCurrent crypto db row.userId password
  /-- A request that verified a password replaced just that one. -/
  writes : ∀ write ∈ db.passwordWrites, ∀ password, write.verified = some password →
    crypto.bcrypt.compare password write.replacedHash = true

/-- Tokens from before the run, and no password written yet. -/
structure AuthDb.Untracked (db : AuthDb) : Prop where
  tokens : ∀ id row, db.refreshTokens.get id = some row → row.presented = none
  writes : db.passwordWrites = []

/-- A login or a password change about to act finds the hash that it read when it began:
no password of its user was written in between. -/
def Suspended.Undisturbed (db : AuthDb) : Suspended → Prop
  | .loginCompare user _ =>
      ∀ row, db.users.get user.id = some row → row.passwordHash = user.passwordHash
  | .changeHash userId user _ _ =>
      ∀ row, db.users.get userId = some row → row.passwordHash = user.passwordHash
  | _ => True

def Undisturbed (s : AuthState) : AuthEvent → Prop
  | .arrives _ _ => True
  | .resumes index _ => ∀ job, s.suspended[index]? = some job → job.Undisturbed s.db

/-! ## The tables -/

/-- Every stored token was given for the stored password, and every write was entitled. -/
structure Honest (crypto : AuthCrypto) (db : AuthDb) : Prop where
  tokens : ∀ id row, db.refreshTokens.get id = some row → ∀ password,
    row.presented = some password → IsCurrent crypto db row.userId password
  writes : ∀ write ∈ db.passwordWrites, ∀ password, write.verified = some password →
    crypto.bcrypt.compare password write.replacedHash = true

variable {crypto : AuthCrypto}

theorem Honest.ended {db : AuthDb} (honest : Honest crypto db) : OldPasswordEnded crypto db where
  tokens _ _ _ row stored _ password given := by
    obtain ⟨id, found⟩ := OrderedMap.mem_values.mp stored
    exact honest.tokens id row found password given
  writes := honest.writes

theorem AuthDb.Untracked.honest {db : AuthDb} (untracked : db.Untracked) : Honest crypto db where
  tokens id row found password given := by
    rw [untracked.tokens id row found] at given
    cases given
  writes write mem := by
    rw [untracked.writes] at mem
    cases mem

/-- Fewer tokens, and the hashes of their users kept. -/
theorem Honest.frame {db db' : AuthDb} (honest : Honest crypto db)
    (fewer : ∀ id row, db'.refreshTokens.get id = some row →
      ∃ old, db.refreshTokens.get id = some old ∧ row.userId = old.userId ∧
        row.presented = old.presented)
    (kept : ∀ id row user, db'.refreshTokens.get id = some row →
      db.users.get row.userId = some user →
        ∃ user', db'.users.get row.userId = some user' ∧ user'.passwordHash = user.passwordHash)
    (writes : db'.passwordWrites = db.passwordWrites) : Honest crypto db' := by
  refine ⟨fun id row found password given => ?_, writes ▸ honest.writes⟩
  obtain ⟨old, there, sameUser, samePresented⟩ := fewer id row found
  obtain ⟨user, stored, right⟩ := honest.tokens id old there password (samePresented ▸ given)
  rw [← sameUser] at stored
  obtain ⟨user', stored', sameHash⟩ := kept id row user found stored
  exact ⟨user', stored', by rw [sameHash]; exact right⟩

/-- The rows of users changed, no hash and no token. -/
theorem Honest.users {db : AuthDb} (honest : Honest crypto db) {users : OrderedMap String User}
    (kept : ∀ id user, db.users.get id = some user →
      ∃ user', users.get id = some user' ∧ user'.passwordHash = user.passwordHash) :
    Honest crypto { db with users := users } :=
  honest.frame (fun _ row found => ⟨row, found, rfl, rfl⟩)
    (fun _ row user _ stored => kept row.userId user stored) rfl

theorem kept_set {users : OrderedMap String User} {id : String} {user row : User}
    (found : users.get id = some user) (same : row.passwordHash = user.passwordHash) :
    ∀ other stored, users.get other = some stored →
      ∃ user', (users.set id row).get other = some user' ∧
        user'.passwordHash = stored.passwordHash := by
  intro other stored there
  by_cases here : other = id
  · subst here
    obtain rfl : user = stored := Option.some.inj (found.symm.trans there)
    exact ⟨row, OrderedMap.get_set_self _ _ _, same⟩
  · exact ⟨stored, (OrderedMap.get_set_of_ne _ _ here).trans there, rfl⟩

theorem honest_insertUser (user : User) : Preserves (Honest crypto) (insertUser user) := by
  intro db honest
  unfold insertUser
  split
  · exact honest
  · split
    · exact honest
    · split
      · exact honest
      · rename_i free _ _
        refine honest.users fun id stored there => ⟨stored, ?_, rfl⟩
        refine (OrderedMap.get_set_of_ne _ _ ?_).trans there
        rintro rfl
        rw [there] at free
        exact free rfl

theorem honest_updateUserRow (id : String) {change : User → User}
    (same : ∀ user, (change user).passwordHash = user.passwordHash) :
    Preserves (Honest crypto) (updateUserRow id change) := by
  refine preserves_modify fun db honest => ?_
  cases found : db.users.get id with
  | none => exact honest
  | some user => exact honest.users (kept_set found (same user))

theorem honest_updateGroup (id : String) (groupId : Option String) :
    Preserves (Honest crypto) (updateGroup id groupId) := by
  intro db honest
  unfold updateGroup
  cases found : db.users.get id with
  | none => exact honest
  | some user =>
      simp only
      split
      · exact honest
      · exact honest.users (kept_set found rfl)

theorem honest_guarded {α : Type} {write : AuthStatement α}
    (writes : Preserves (Honest crypto) write) :
    Preserves (Honest crypto) (assertNotLastAdmin >>= fun _ => write) :=
  Preserves.bind readOnly_assertNotLastAdmin.preserves fun _ => writes

theorem honest_changeRole (id : String) (existing : User) (role : Option Role) :
    Preserves (Honest crypto) (changeRole id existing role) := by
  cases role with
  | none => exact preserves_pure _
  | some role =>
      have write : Preserves (Honest crypto) (updateUserRow id fun user => { user with role }) :=
        honest_updateUserRow id fun _ => rfl
      refine Preserves.ite (fun _ => ?_) fun _ => preserves_pure _
      exact Preserves.ite (fun _ => honest_guarded write) fun _ => write

theorem honest_changePolicy (id : String) (existing : User) (updates : UserUpdates) :
    Preserves (Honest crypto) (changePolicy id existing updates) := by
  refine Preserves.ite (fun _ => ?_) fun _ => preserves_pure _
  exact Preserves.bind (readOnly_check _).preserves fun _ => honest_updateUserRow id fun _ => rfl

theorem get_filter_some {keep : RefreshTokenRow → Bool} {rows : OrderedMap String RefreshTokenRow}
    {id : String} {row : RefreshTokenRow} (found : (rows.filter keep).get id = some row) :
    rows.get id = some row ∧ keep row = true := by
  rw [OrderedMap.get_filter] at found
  exact ⟨(Option.filter_eq_some_iff.mp found).1, (Option.filter_eq_some_iff.mp found).2⟩

theorem honest_deleteUserRow (id : String) : Preserves (Honest crypto) (deleteUserRow id) := by
  refine preserves_modify fun db honest => honest.frame ?_ ?_ rfl
  · intro key row found
    exact ⟨row, (get_filter_some found).1, rfl, rfl⟩
  · intro key row user found stored
    have other : row.userId ≠ id := by simpa using (get_filter_some found).2
    exact ⟨user, (OrderedMap.get_delete_of_ne _ other).trans stored, rfl⟩

theorem honest_deleteUser (id : String) : Preserves (Honest crypto) (deleteUser id) := by
  refine Preserves.bind (readOnly_asks _).preserves fun found => ?_
  cases found with
  | none => exact preserves_throw _
  | some user =>
      have write : Preserves (Honest crypto) (deleteUserRow id >>= fun _ =>
          pure (Progress.returned .none)) :=
        Preserves.bind (honest_deleteUserRow id) fun _ => preserves_pure _
      exact Preserves.ite (fun _ => honest_guarded write) fun _ => write

theorem honest_deleteRefreshTokens (gone : RefreshTokenRow → Bool) :
    Preserves (Honest crypto) (deleteRefreshTokens gone) := by
  refine preserves_modify fun db honest => honest.frame ?_ ?_ rfl
  · intro key row found
    exact ⟨row, (get_filter_some found).1, rfl, rfl⟩
  · intro key row user _ stored
    exact ⟨user, stored, rfl⟩

theorem honest_touchTokens (tokenHash : String) (now : Nat) :
    Preserves (Honest crypto) (touchTokens tokenHash now) := by
  refine preserves_modify fun db honest => honest.frame ?_ ?_ rfl
  · intro key row found
    have found : (db.refreshTokens.map _).get key = some row := found
    rw [OrderedMap.get_map] at found
    obtain ⟨old, there, rfl⟩ := Option.map_eq_some_iff.mp found
    refine ⟨old, there, ?_⟩
    split <;> exact ⟨rfl, rfl⟩
  · intro key row user _ stored
    exact ⟨user, stored, rfl⟩

theorem stable_honest : Stable (Honest crypto) where
  insertUser := honest_insertUser
  changeRole := honest_changeRole
  changePolicy := honest_changePolicy
  updateGroup := honest_updateGroup
  deleteUser := honest_deleteUser
  deleteRefreshTokens := honest_deleteRefreshTokens
  touchTokens := honest_touchTokens

/-! ## New passwords and new tokens -/

/-- A password written by one who was entitled ends the user's tokens. -/
theorem honest_writePassword {db : AuthDb} (honest : Honest crypto db) {id passwordHash : String}
    {verified : Option String}
    (entitled : ∀ row, db.users.get id = some row → ∀ password, verified = some password →
      crypto.bcrypt.compare password row.passwordHash = true) :
    Honest crypto (writePassword id passwordHash verified db).2 := by
  have gone : ∀ {rows : OrderedMap String RefreshTokenRow} {key : String} {row : RefreshTokenRow},
      (rows.filter fun row => !decide (row.userId = id)).get key = some row →
        rows.get key = some row ∧ row.userId ≠ id := by
    intro rows key row found
    obtain ⟨there, other⟩ := get_filter_some found
    exact ⟨there, by simpa using other⟩
  simp only [writePassword, bind_apply, updatePasswordHash, deleteRefreshTokens, modify_apply]
  cases stored : db.users.get id with
  | none => exact honest_deleteRefreshTokens _ db honest
  | some user =>
      refine ⟨fun key row found password given => ?_, fun write mem password given => ?_⟩
      · obtain ⟨there, other⟩ := gone found
        obtain ⟨owner, has, right⟩ := honest.tokens key row there password given
        exact ⟨owner, (OrderedMap.get_set_of_ne _ _ other).trans has, right⟩
      · rcases List.mem_append.mp mem with old | new
        · exact honest.writes write old password given
        · obtain rfl := List.mem_singleton.mp new
          exact entitled user stored password given

/-- A token given for the stored password. -/
theorem honest_insertRefreshToken {db : AuthDb} (honest : Honest crypto db) {row : RefreshTokenRow}
    (right : ∀ password, row.presented = some password → ∀ user,
      db.users.get row.userId = some user →
        crypto.bcrypt.compare password user.passwordHash = true) :
    Honest crypto (insertRefreshToken row db).2 := by
  unfold insertRefreshToken
  split
  · exact honest
  · split
    · exact honest
    · split
      · exact honest
      · rename_i owned
        refine ⟨fun id other found password given => ?_, honest.writes⟩
        by_cases here : id = row.id
        · subst here
          obtain rfl : row = other := Option.some.inj
            ((OrderedMap.get_set_self db.refreshTokens _ _).symm.trans found)
          cases stored : db.users.get row.userId with
          | none =>
              rw [stored] at owned
              exact absurd rfl owned
          | some user => exact ⟨user, stored, right password given user stored⟩
        · have there := (OrderedMap.get_set_of_ne db.refreshTokens row here).symm.trans found
          exact honest.tokens id other there password given

theorem honest_generateRefreshToken {db : AuthDb} (honest : Honest crypto db) (draw : Draw)
    {userId password : String}
    (right : ∀ user, db.users.get userId = some user →
      crypto.bcrypt.compare password user.passwordHash = true) :
    Honest crypto (generateRefreshToken crypto draw userId (some password) db).2 := by
  refine bind_holds honest fun row mid looked _ => ?_
  cases looked
  refine bind_holds (honest_insertRefreshToken honest ?_) fun _ _ _ inserted => inserted
  intro given same user stored
  cases same
  exact right user stored

/-! ## Segments -/

/-- A setup gives its token for the password it has stored. -/
theorem honest_setupAdminHashed (draw : Draw) (username password : String) :
    Preserves (Honest crypto) (setupAdminHashed crypto draw username password) := by
  refine Preserves.bind_of (stable_honest.insertFirstAdmin _) fun db _ mid inserted honest => ?_
  refine bind_holds (honest_generateRefreshToken honest draw ?_) fun _ _ _ issued => issued
  obtain ⟨_, rfl⟩ := insertFirstAdmin_ok inserted
  intro user stored
  obtain rfl := Option.some.inj ((OrderedMap.get_set_self db.users _ _).symm.trans stored)
  rw [crypto.bcrypt.correct]
  exact decide_eq_true rfl

/-- What a password change has verified before it hashes. -/
def Suspended.Verified (crypto : AuthCrypto) : Suspended → Prop
  | .changeHash _ user currentPassword _ =>
      crypto.bcrypt.compare currentPassword user.passwordHash = true
  | _ => True

def Progress.Verified (crypto : AuthCrypto) : Progress → Prop
  | .awaiting job => job.Verified crypto
  | .returned _ => True

/-- A resumed request keeps the tables honest when it is undisturbed. -/
theorem honest_resumed {db : AuthDb} (honest : Honest crypto db) (draw : Draw) {job : Suspended}
    (verified : job.Verified crypto)
    (undisturbed : job.Undisturbed db) :
    Honest crypto (job.segment crypto draw db).2 := by
  cases job with
  | setupHash username password => exact honest_setupAdminHashed draw username password db honest
  | createHash row password => exact stable_honest.createUserHashed crypto draw row password db honest
  | updateHash id password groupId =>
      refine bind_holds (honest_writePassword honest ?_) fun _ mid _ written =>
        stable_honest.finishUpdate id groupId mid written
      intro row stored password none_verified
      cases none_verified
  | loginUnknown => exact honest
  | loginCompare user password =>
      simp only [Suspended.segment, loginCompared]
      split
      · exact honest
      · rename_i right
        refine bind_holds (honest_generateRefreshToken honest draw fun row stored => ?_)
          fun _ _ _ issued => issued
        rw [undisturbed row stored]
        exact not_not.mp right
  | changeCompare userId user currentPassword newPassword =>
      simp only [Suspended.segment, changePasswordCompared]
      split
      · exact honest
      · exact bind_holds honest fun _ _ _ same => same
  | changeHash userId user currentPassword newPassword =>
      refine bind_holds (honest_writePassword honest ?_) fun _ _ _ written => written
      intro row stored password same
      cases same
      rw [undisturbed row stored]
      exact verified

/-- Only a comparison that succeeded leads to a hash of a new password. -/
theorem yields_request (draw : Draw) (request : Request) :
    Yields (Progress.Verified crypto) (request.segment crypto draw) := by
  cases request with
  | setupAdmin username password =>
      refine Yields.bind fun _ => Yields.ite (fun _ => yields_throw _) fun _ => ?_
      refine Yields.ite (fun _ => yields_throw _) fun _ => ?_
      exact Yields.bind fun _ => yields_pure trivial
  | createUser username password groupId role sessionDays inactivityMinutes =>
      exact Yields.bind fun _ => Yields.bind fun _ => yields_pure trivial
  | updateUser id updates =>
      refine Yields.bind fun existing => ?_
      cases existing with
      | none => exact yields_throw _
      | some existing =>
          refine Yields.bind fun _ => Yields.bind fun _ => ?_
          cases updates.password with
          | none => exact Yields.bind fun _ => Yields.bind fun _ => yields_pure trivial
          | some password => exact Yields.bind fun _ => yields_pure trivial
  | deleteUser id =>
      refine Yields.bind fun user => ?_
      cases user with
      | none => exact yields_throw _
      | some user =>
          refine Yields.ite (fun _ => Yields.bind fun _ => ?_) fun _ => ?_ <;>
            exact Yields.bind fun _ => yields_pure trivial
  | login username password =>
      refine Yields.bind fun user => ?_
      cases user <;> exact yields_pure trivial
  | refresh token active =>
      refine Yields.bind fun row => ?_
      cases row with
      | none => exact yields_throw _
      | some row =>
          refine Yields.bind fun user => ?_
          cases user with
          | none => exact yields_throw _
          | some user =>
              refine Yields.ite (fun _ => Yields.bind fun _ => ?_) fun _ => ?_ <;>
                exact yields_pure trivial
  | logout token => exact Yields.bind fun _ => yields_pure trivial
  | changePassword userId currentPassword newPassword =>
      refine Yields.bind fun user => ?_
      cases user with
      | none => exact yields_throw _
      | some user => exact yields_pure trivial

theorem yields_resumed (draw : Draw) (job : Suspended) :
    Yields (Progress.Verified crypto) (job.segment crypto draw) := by
  cases job with
  | setupHash username password =>
      exact Yields.bind fun _ => Yields.bind fun _ => yields_pure trivial
  | createHash row password => exact Yields.bind fun _ => yields_pure trivial
  | updateHash id password groupId =>
      exact Yields.bind fun _ => Yields.bind fun _ => Yields.bind fun _ => yields_pure trivial
  | loginUnknown => exact yields_throw _
  | loginCompare user password =>
      refine Yields.ite (fun _ => yields_throw _) fun _ => ?_
      exact Yields.bind fun _ => yields_pure trivial
  | changeCompare userId user currentPassword newPassword =>
      refine Yields.ite (fun _ => yields_throw _) fun right => ?_
      exact Yields.bind fun _ => yields_pure (not_not.mp right)
  | changeHash userId user currentPassword newPassword =>
      exact Yields.bind fun _ => yields_pure trivial

/-! ## Runs -/

/-- Honest tables, and every waiting request has verified what it relies on. -/
def Entitled (crypto : AuthCrypto) (s : AuthState) : Prop :=
  Honest crypto s.db ∧ ∀ job ∈ s.suspended, job.Verified crypto

theorem advance_entitled {s : AuthState} {isSetup : Bool} {segment : Segment}
    (yields : Yields (Progress.Verified crypto) segment)
    (honest : Honest crypto (segment s.db).2) (verified : ∀ job ∈ s.suspended, job.Verified crypto) :
    Entitled crypto (s.advance isSetup segment) := by
  unfold AuthState.advance
  split <;> rename_i outcome <;> rw [outcome] at honest
  · refine ⟨honest, fun job mem => ?_⟩
    rcases List.mem_append.mp mem with old | new
    · exact verified job old
    · obtain rfl := List.mem_singleton.mp new
      exact yields _ _ _ outcome
  · exact ⟨honest, verified⟩
  · exact ⟨honest, verified⟩

theorem step_entitled (s : AuthState) (e : AuthEvent) (entitled : Entitled crypto s)
    (undisturbed : Undisturbed s e) : Entitled crypto (s.step crypto e) := by
  obtain ⟨honest, verified⟩ := entitled
  cases e with
  | arrives request draw =>
      exact advance_entitled (yields_request draw request)
        (stable_honest.request crypto draw request s.db honest) verified
  | resumes index draw =>
      simp only [AuthState.step]
      split
      · exact ⟨honest, verified⟩
      · rename_i job found
        refine advance_entitled (yields_resumed draw job) ?_ fun other mem =>
          verified other (List.mem_of_mem_eraseIdx mem)
        exact honest_resumed honest draw (verified job (List.mem_of_getElem? found))
          (undisturbed job found)

/-- **The old password ends.**  In every state of every run in which no password is
written between a request's read of it and the request's last segment. -/
theorem old_password_ended (crypto : AuthCrypto) {db : AuthDb} (untracked : db.Untracked)
    {events : List AuthEvent}
    (undisturbed : Along (AuthState.step crypto) Undisturbed ⟨db, [], 0⟩ events) :
    ∀ p, p <+: events →
      OldPasswordEnded crypto (run (AuthState.step crypto) ⟨db, [], 0⟩ p).db := by
  intro p initial
  have start : Entitled crypto ⟨db, [], 0⟩ := by
    refine ⟨untracked.honest, fun job mem => ?_⟩
    cases mem
  exact (invariant_throughout step_entitled start undisturbed p initial).1.ended

/-! A user with one password, and a second one to come. -/

def ann : User where
  id := "1"
  username := "ann"
  passwordHash := "$2b$12$first-password"
  role := .user
  groupId := none
  createdAt := 0

def annDb : AuthDb := { users := OrderedMap.empty.set "1" ann }

def annDraw (token : String) : Draw := ⟨token, token, token, "", 0⟩

def annLogin : AuthEvent := .arrives (.login "ann" "first-password") (annDraw "")

def annChange : AuthEvent :=
  .arrives (.changePassword "1" "first-password" "second-password") (annDraw "")

theorem annDb_untracked : annDb.Untracked where
  tokens _ _ found := by cases found
  writes := rfl

/-- Logged in, then the password changed: its run is undisturbed, and the token that the
first password got is gone. -/
theorem old_password_ended_in_turn :
    let events := [annLogin, .resumes 0 (annDraw "t"), annChange, .resumes 0 (annDraw ""),
      .resumes 0 (annDraw "")]
    (run (AuthState.step plainCrypto) ⟨annDb, [], 0⟩ events).db.refreshTokens.size = 0 ∧
      OldPasswordEnded plainCrypto (run (AuthState.step plainCrypto) ⟨annDb, [], 0⟩ events).db := by
  intro events
  have undisturbed : Along (AuthState.step plainCrypto) Undisturbed ⟨annDb, [], 0⟩ events := by
    refine ⟨trivial, ?_, trivial, ?_, ?_, trivial⟩
    · intro job found
      cases found
      intro row stored
      cases stored
      rfl
    · intro job found
      cases found
      trivial
    · intro job found
      cases found
      intro row stored
      cases stored
      rfl
  exact ⟨by decide,
    old_password_ended plainCrypto annDb_untracked undisturbed events (List.prefix_refl _)⟩

/-- A login that compared before the change and goes on after it: the token it gets for
the first password is accepted although the second one is stored. -/
theorem stale_login_outlives_change :
    ¬ ∀ events, OldPasswordEnded plainCrypto
      (run (AuthState.step plainCrypto) ⟨annDb, [], 0⟩ events).db := by
  intro always
  have ended := always [annLogin, annChange, .resumes 1 (annDraw ""), .resumes 1 (annDraw ""),
    .resumes 0 (annDraw "t")]
  have accepted : Accepted plainCrypto (run (AuthState.step plainCrypto) ⟨annDb, [], 0⟩
      [annLogin, annChange, .resumes 1 (annDraw ""), .resumes 1 (annDraw ""),
        .resumes 0 (annDraw "t")]).db "t" 0 := ⟨false, _, _, rfl⟩
  obtain ⟨user, stored, right⟩ := ended.tokens "t" 0 accepted _ List.mem_cons_self rfl
    "first-password" rfl
  cases stored
  exact absurd right (by decide)

end Aeolus.Auth
