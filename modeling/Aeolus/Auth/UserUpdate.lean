/-
# Aeolus.Auth.UserUpdate — what a failed user update leaves behind

`updateUser` of `src/auth/user-service.ts` writes the role, the session policy, the
password and the group one after the other, and no transaction holds the four together.
A step that fails leaves what the steps before it have written.

Of an update that `updateUserSchema` accepts only three steps can fail: the demotion of
the last administrator, which comes first, a session policy that the stored half makes
unsupported, and a group that does not exist, which comes last.  `changeRole_cases`,
`changePolicy_cases` and `changeGroup_cases` say what each leaves, and
`updateUser_atomic_iff` when a failure leaves nothing (`FailsClean`): the steps before the
one that fails must have nothing to change.

Pole: `half_reset` (a new password with an unknown group: the update is refused, the
password is changed and the sessions are gone).
-/
import Aeolus.Auth.AuthRequests

namespace Aeolus.Auth

open Aeolus.Core Aeolus.Theory
open Handler

/-- `updateUserSchema`: the role is one of the two by its type. -/
def updateUserSchema (updates : UserUpdates) : Bool :=
  (updates.password.all fun password => 8 ≤ utf16Length password) &&
    (updates.sessionDays.all fun days => [1, 7, 30].contains days) &&
    updates.inactivityMinutes.all fun minutes => [0, 30, 120, 480].contains minutes

/-- A whole call, when no other request comes between its parts. -/
def updateUserThrough (crypto : AuthCrypto) (draw : Draw) (id : String) (updates : UserUpdates) :
    Segment := do
  match ← updateUser id updates with
  | .awaiting suspended => suspended.segment crypto draw
  | .returned result => return .returned result

/-! ## When a failure leaves nothing -/

def DemotesLastAdmin (db : AuthDb) (user : User) (updates : UserUpdates) : Prop :=
  updates.role = some .user ∧ user.role = .admin ∧ adminCount db ≤ 1

/-- The policy that is asked for, with the stored value where one is left out. -/
def askedPolicy (user : User) (updates : UserUpdates) : Nat × Nat :=
  (updates.sessionDays.getD user.sessionDays,
    updates.inactivityMinutes.getD user.inactivityMinutes)

def PolicyUnsupported (user : User) (updates : UserUpdates) : Prop :=
  (updates.sessionDays.isSome ∨ updates.inactivityMinutes.isSome) ∧
    validateSessionPolicy (askedPolicy user updates).1 (askedPolicy user updates).2 ≠ .ok ()

def GroupMissing (db : AuthDb) (updates : UserUpdates) : Prop :=
  ∃ groupId, updates.groupId = some groupId ∧ db.groupExists groupId = false

def KeepsRole (user : User) (updates : UserUpdates) : Prop :=
  updates.role.getD user.role = user.role

def KeepsPolicy (user : User) (updates : UserUpdates) : Prop :=
  askedPolicy user updates = (user.sessionDays, user.inactivityMinutes)

/-- No password, or one that has the stored hash already, without a session to end. -/
def KeepsPassword (crypto : AuthCrypto) (draw : Draw) (db : AuthDb) (id : String) (user : User)
    (updates : UserUpdates) : Prop :=
  ∀ password, updates.password = some password →
    crypto.bcrypt.hash draw.salt password = user.passwordHash ∧
      ∀ row ∈ db.refreshTokens.values, row.userId ≠ id

/-- The steps before the one that fails have nothing to change. -/
def FailsClean (crypto : AuthCrypto) (draw : Draw) (db : AuthDb) (id : String) (user : User)
    (updates : UserUpdates) : Prop :=
  ¬DemotesLastAdmin db user updates →
    (PolicyUnsupported user updates → KeepsRole user updates) ∧
      (¬PolicyUnsupported user updates → GroupMissing db updates →
        KeepsRole user updates ∧ KeepsPolicy user updates ∧
          KeepsPassword crypto draw db id user updates)

/-! ## The steps -/

/-- What the tables hold for a user. -/
structure Has (id : String) (row : User) (tokens : OrderedMap String RefreshTokenRow)
    (groups : List String) (db : AuthDb) : Prop where
  found : db.users.get id = some row
  tokens : db.refreshTokens = tokens
  groups : db.groups = groups

variable {crypto : AuthCrypto} {draw : Draw} {id : String} {user row : User}
  {updates : UserUpdates} {tokens : OrderedMap String RefreshTokenRow} {groups : List String}
  {db : AuthDb}

theorem updateUserRow_has (change : User → User) (held : Has id row tokens groups db) :
    ∃ after, updateUserRow id change db = (.ok (), after) ∧
      Has id (change row) tokens groups after := by
  refine ⟨_, rfl, ?_⟩
  simp only [held.found]
  exact ⟨OrderedMap.get_set_self _ _ _, held.tokens, held.groups⟩

theorem writePassword_has (passwordHash : String) (held : Has id row tokens groups db) :
    ∃ after, writePassword id passwordHash none db = (.ok (), after) ∧
      Has id { row with passwordHash } (tokens.filter fun token => token.userId ≠ id) groups
        after := by
  refine ⟨_, rfl, ?_⟩
  simp only [held.found]
  refine ⟨OrderedMap.get_set_self _ _ _, ?_, held.groups⟩
  simp [held.tokens]

theorem changeRole_cases (updates : UserUpdates) (held : Has id user tokens groups db) :
    (DemotesLastAdmin db user updates ∧
        ∃ e, changeRole id user updates.role db = (.error e, db)) ∨
      (¬DemotesLastAdmin db user updates ∧
        ∃ after, changeRole id user updates.role db = (.ok (), after) ∧
          Has id { user with role := updates.role.getD user.role } tokens groups after) := by
  cases asked : updates.role with
  | none => exact .inr ⟨fun demotes => (nomatch asked.symm.trans demotes.1), db, rfl, held⟩
  | some role =>
      by_cases same : role = user.role
      · refine .inr ⟨?_, db, by simp [changeRole, same]; rfl, by simpa [same] using held⟩
        rintro ⟨demoted, admin, -⟩
        cases asked.symm.trans demoted
        cases same.trans admin
      · by_cases demotion : user.role = .admin ∧ role = .user
        · by_cases last : adminCount db ≤ 1
          · refine .inl ⟨⟨by rw [asked, demotion.2], demotion.1, last⟩,
              .conflict "Cannot remove the last admin user", ?_⟩
            simp only [changeRole, ne_eq, same, not_false_eq_true, if_true, if_pos demotion]
            simp [assertNotLastAdmin, bind_apply, last]
            rfl
          · refine .inr ⟨fun demotes => last demotes.2.2, ?_⟩
            obtain ⟨after, wrote, now⟩ := updateUserRow_has (fun row => { row with role }) held
            refine ⟨after, ?_, now⟩
            rw [← wrote]
            simp only [changeRole, ne_eq, same, not_false_eq_true, if_true, if_pos demotion]
            simp [assertNotLastAdmin, bind_apply, last]
            rfl
        · refine .inr ⟨fun demotes => ?_, ?_⟩
          · exact demotion ⟨demotes.2.1, Option.some.inj (asked.symm.trans demotes.1)⟩
          · obtain ⟨after, wrote, now⟩ := updateUserRow_has (fun row => { row with role }) held
            refine ⟨after, ?_, now⟩
            rw [← wrote]
            simp only [changeRole, ne_eq, same, not_false_eq_true, if_true, if_neg demotion]

/-- The row's own policy is still the one that was read. -/
theorem changePolicy_cases (user : User) (updates : UserUpdates)
    (held : Has id row tokens groups db)
    (days : row.sessionDays = user.sessionDays)
    (minutes : row.inactivityMinutes = user.inactivityMinutes) :
    (PolicyUnsupported user updates ∧ ∃ e, changePolicy id user updates db = (.error e, db)) ∨
      (¬PolicyUnsupported user updates ∧
        ∃ after, changePolicy id user updates db = (.ok (), after) ∧
          Has id
            { row with
              sessionDays := (askedPolicy user updates).1
              inactivityMinutes := (askedPolicy user updates).2 }
            tokens groups after) := by
  by_cases given : updates.sessionDays.isSome ∨ updates.inactivityMinutes.isSome
  · cases valid :
        validateSessionPolicy (askedPolicy user updates).1 (askedPolicy user updates).2 with
    | error e =>
        refine .inl ⟨⟨given, by simp [valid]⟩, e, ?_⟩
        simp only [askedPolicy] at valid
        simp only [changePolicy, if_pos given, valid]
        rfl
    | ok _ =>
        refine .inr ⟨fun unsupported => unsupported.2 valid, ?_⟩
        obtain ⟨after, wrote, now⟩ := updateUserRow_has (fun row =>
          { row with
            sessionDays := (askedPolicy user updates).1
            inactivityMinutes := (askedPolicy user updates).2 }) held
        refine ⟨after, ?_, now⟩
        rw [← wrote]
        simp only [askedPolicy] at valid
        simp only [changePolicy, if_pos given, valid]
        rfl
  · refine .inr ⟨fun unsupported => given unsupported.1, db, ?_, ?_⟩
    · rw [changePolicy, if_neg given]
      rfl
    · obtain ⟨noDays, noMinutes⟩ := not_or.mp given
      simp only [Option.not_isSome_iff_eq_none] at noDays noMinutes
      simpa [askedPolicy, noDays, noMinutes, ← days, ← minutes] using held

theorem changeGroup_cases (updates : UserUpdates) (held : Has id row tokens groups db) :
    (GroupMissing db updates ∧ ∃ e, changeGroup id updates.groupId db = (.error e, db)) ∨
      (¬GroupMissing db updates ∧
        ∃ after, changeGroup id updates.groupId db = (.ok (), after)) := by
  cases asked : updates.groupId with
  | none => exact .inr ⟨fun missing => by simp [GroupMissing, asked] at missing, db, rfl⟩
  | some groupId =>
      cases known : db.groupExists groupId with
      | false =>
          refine .inl ⟨⟨groupId, asked, known⟩, .foreignKey, ?_⟩
          simp [changeGroup, updateGroup, held.found, known]
      | true =>
          refine .inr ⟨?_, _, by simp [changeGroup, updateGroup, held.found, known]; rfl⟩
          rintro ⟨other, same, missing⟩
          cases asked.symm.trans same
          simp [known] at missing

/-! ## The whole call -/

theorem finishUpdate_error {groupId : Option (Option String)} {e : AuthError}
    (threw : changeGroup id groupId db = (.error e, db)) :
    finishUpdate id groupId db = (.error e, db) :=
  bind_of_error threw

theorem finishUpdate_ok {groupId : Option (Option String)} {after : AuthDb}
    (wrote : changeGroup id groupId db = (.ok (), after)) :
    finishUpdate id groupId db = (.ok (.returned (.user (getUser id after))), after) :=
  bind_of_ok wrote

theorem updateUser_missing (absent : getUser id db = none) :
    updateUserThrough crypto draw id updates db = (.error (.notFound "User not found"), db) := by
  simp [updateUserThrough, updateUser, bind_apply, absent]
  rfl

section Parts

variable {roleDone policyDone : AuthDb} {e : AuthError}

/-- The steps of the first part, for a user that is there. -/
theorem updateUser_found (there : getUser id db = some user) : updateUser id updates db =
    (do
      changeRole id user updates.role
      changePolicy id user updates
      match updates.password with
      | some password =>
          check (validatePassword password)
          return .awaiting (.updateHash id password updates.groupId)
      | none => finishUpdate id updates.groupId : Segment) db := by
  refine (bind_of_ok (asks_apply _ _)).trans ?_
  generalize getUser id db = found at there
  subst there
  rfl

theorem updateUser_role_error (there : getUser id db = some user)
    (threw : changeRole id user updates.role db = (.error e, db)) :
    updateUserThrough crypto draw id updates db = (.error e, db) := by
  refine bind_of_error ?_
  rw [updateUser_found there]
  exact bind_of_error threw

theorem updateUser_policy_error (there : getUser id db = some user)
    (role : changeRole id user updates.role db = (.ok (), roleDone))
    (threw : changePolicy id user updates roleDone = (.error e, roleDone)) :
    updateUserThrough crypto draw id updates db = (.error e, roleDone) := by
  refine bind_of_error ?_
  rw [updateUser_found there, bind_of_ok role]
  exact bind_of_error threw

/-- Without a password the group is next. -/
theorem updateUser_without_password (there : getUser id db = some user)
    (role : changeRole id user updates.role db = (.ok (), roleDone))
    (policy : changePolicy id user updates roleDone = (.ok (), policyDone))
    (absent : updates.password = none) :
    updateUser id updates db = finishUpdate id updates.groupId policyDone := by
  rw [updateUser_found there, bind_of_ok role, bind_of_ok policy, absent]

/-- A password that the schema has let through is hashed and written. -/
theorem updateUser_with_password (there : getUser id db = some user) {password : String}
    (role : changeRole id user updates.role db = (.ok (), roleDone))
    (policy : changePolicy id user updates roleDone = (.ok (), policyDone))
    (given : updates.password = some password) (accepted : updateUserSchema updates = true) :
    updateUserThrough crypto draw id updates db =
      updateUserHashed crypto draw id password updates.groupId policyDone := by
  have long : ¬utf16Length password < minPasswordLength := by
    simp only [updateUserSchema, given, Option.all_some, Bool.and_eq_true, decide_eq_true_eq]
      at accepted
    exact Nat.not_lt.mpr accepted.1.1
  have waits : updateUser id updates db =
      (.ok (.awaiting (.updateHash id password updates.groupId)), policyDone) := by
    rw [updateUser_found there, bind_of_ok role, bind_of_ok policy, given]
    have valid : validatePassword password = .ok () := if_neg long
    exact bind_of_ok (check_of_ok valid)
  exact bind_of_ok waits

end Parts

/-! ## The law -/

/-- When a call throws, the row and the tokens are as they were. -/
def FailureLeavesAll (crypto : AuthCrypto) (draw : Draw) (db : AuthDb) (id : String)
    (updates : UserUpdates) : Prop :=
  ∀ e after, updateUserThrough crypto draw id updates db = (.error e, after) →
    after.users.get id = db.users.get id ∧ after.refreshTokens = db.refreshTokens

/-- A call that throws leaves all exactly when the tables hold for the user what they held. -/
theorem failureLeavesAll_iff {e : AuthError} {after : AuthDb}
    {left : OrderedMap String RefreshTokenRow} (there : getUser id db = some user)
    (threw : updateUserThrough crypto draw id updates db = (.error e, after))
    (held : Has id row left groups after) :
    FailureLeavesAll crypto draw db id updates ↔ row = user ∧ left = db.refreshTokens := by
  have before : db.users.get id = some user := there
  constructor
  · intro leaves
    obtain ⟨users, tokens⟩ := leaves e after threw
    rw [held.found, before] at users
    exact ⟨Option.some.inj users, held.tokens.symm.trans tokens⟩
  · rintro ⟨rfl, same⟩ e' after' threw'
    cases threw.symm.trans threw'
    exact ⟨held.found.trans before.symm, held.tokens.trans same⟩

theorem failureLeavesAll_of_ok {progress : Progress} {after : AuthDb}
    (returned : updateUserThrough crypto draw id updates db = (.ok progress, after)) :
    FailureLeavesAll crypto draw db id updates :=
  fun _ _ threw => nomatch returned.symm.trans threw

section Clean

theorem failsClean_unsupported (allowed : ¬DemotesLastAdmin db user updates)
    (unsupported : PolicyUnsupported user updates) :
    FailsClean crypto draw db id user updates ↔ KeepsRole user updates :=
  ⟨fun clean => (clean allowed).1 unsupported,
    fun keeps _ => ⟨fun _ => keeps, fun supported => absurd unsupported supported⟩⟩

theorem failsClean_missing (allowed : ¬DemotesLastAdmin db user updates)
    (supported : ¬PolicyUnsupported user updates) (missing : GroupMissing db updates) :
    FailsClean crypto draw db id user updates ↔
      KeepsRole user updates ∧ KeepsPolicy user updates ∧
        KeepsPassword crypto draw db id user updates :=
  ⟨fun clean => (clean allowed).2 supported missing,
    fun keeps _ => ⟨fun unsupported => absurd unsupported supported, fun _ _ => keeps⟩⟩

theorem failsClean_known (supported : ¬PolicyUnsupported user updates)
    (known : ¬GroupMissing db updates) : FailsClean crypto draw db id user updates :=
  fun _ => ⟨fun unsupported => absurd unsupported supported, fun _ missing => absurd missing known⟩

theorem groupMissing_congr {other : AuthDb} (same : other.groups = db.groups) :
    GroupMissing other updates ↔ GroupMissing db updates := by
  simp only [GroupMissing, AuthDb.groupExists, same]

theorem role_kept_iff : { user with role := updates.role.getD user.role } = user ↔
    KeepsRole user updates := by
  cases user
  simp [KeepsRole]

/-- The row before the password and the group. -/
def settled (user : User) (updates : UserUpdates) : User :=
  { user with
    role := updates.role.getD user.role
    sessionDays := (askedPolicy user updates).1
    inactivityMinutes := (askedPolicy user updates).2 }

theorem settled_eq_iff : settled user updates = user ↔
    KeepsRole user updates ∧ KeepsPolicy user updates := by
  cases user
  simp [settled, KeepsRole, KeepsPolicy, askedPolicy]

theorem settled_password_eq_iff {passwordHash : String} :
    { settled user updates with passwordHash } = user ↔
      settled user updates = user ∧ passwordHash = user.passwordHash := by
  cases user
  simp [settled, askedPolicy]
  tauto

end Clean

/-- **A failed update leaves nothing** exactly when the steps before the one that fails had
nothing to change. -/
theorem updateUser_atomic_iff (crypto : AuthCrypto) (draw : Draw) (db : AuthDb) (id : String)
    (updates : UserUpdates) (accepted : updateUserSchema updates = true) :
    FailureLeavesAll crypto draw db id updates ↔
      ∀ user, getUser id db = some user → FailsClean crypto draw db id user updates := by
  cases there : getUser id db with
  | none =>
      refine iff_of_true ?_ fun _ found => nomatch found
      intro e after threw
      cases (updateUser_missing there).symm.trans threw
      exact ⟨rfl, rfl⟩
  | some user =>
      simp only [Option.some.injEq, forall_eq']
      have start : Has id user db.refreshTokens db.groups db := ⟨there, rfl, rfl⟩
      obtain ⟨demotes, e, threw⟩ | ⟨allowed, roleDone, role, roleHeld⟩ :=
        changeRole_cases updates start
      · refine iff_of_true ?_ fun allowed => absurd demotes allowed
        exact (failureLeavesAll_iff there (updateUser_role_error there threw) start).mpr ⟨rfl, rfl⟩
      obtain ⟨unsupported, e, threw⟩ | ⟨supported, policyDone, policy, policyHeld⟩ :=
        changePolicy_cases user updates roleHeld rfl rfl
      · rw [failureLeavesAll_iff there (updateUser_policy_error there role threw) roleHeld,
          failsClean_unsupported allowed unsupported, role_kept_iff]
        exact and_iff_left rfl
      change Has id (settled user updates) db.refreshTokens db.groups policyDone at policyHeld
      cases given : updates.password with
      | none =>
          have through := updateUser_without_password there role policy given
          obtain ⟨missing, e, threw⟩ | ⟨known, after, wrote⟩ :=
            changeGroup_cases updates policyHeld
          · have threw : updateUserThrough crypto draw id updates db = (.error e, policyDone) :=
              bind_of_error (through.trans (finishUpdate_error threw))
            rw [groupMissing_congr policyHeld.groups] at missing
            rw [failureLeavesAll_iff there threw policyHeld,
              failsClean_missing allowed supported missing, settled_eq_iff, and_assoc]
            simp [KeepsPassword, given]
          · rw [groupMissing_congr policyHeld.groups] at known
            refine iff_of_true ?_ (failsClean_known supported known)
            exact failureLeavesAll_of_ok (bind_of_ok (through.trans (finishUpdate_ok wrote)))
      | some password =>
          have through : updateUserThrough crypto draw id updates db =
              updateUserHashed crypto draw id password updates.groupId policyDone :=
            updateUser_with_password there role policy given accepted
          obtain ⟨written, wrote, held⟩ :=
            writePassword_has (crypto.bcrypt.hash draw.salt password) policyHeld
          obtain ⟨missing, e, threw⟩ | ⟨known, after, done⟩ :=
            changeGroup_cases updates held
          · have threw := through.trans ((bind_of_ok wrote).trans (finishUpdate_error threw))
            rw [groupMissing_congr held.groups] at missing
            rw [failureLeavesAll_iff there threw held, failsClean_missing allowed supported missing,
              settled_password_eq_iff, settled_eq_iff, OrderedMap.filter_eq_self_iff]
            simp [KeepsPassword, given, and_assoc]
          · rw [groupMissing_congr held.groups] at known
            refine iff_of_true ?_ (failsClean_known supported known)
            exact failureLeavesAll_of_ok
              (through.trans ((bind_of_ok wrote).trans (finishUpdate_ok done)))

/-! ## Poles -/

def aliceRow : User where
  id := "alice-id"
  username := "alice"
  passwordHash := "$2b$12$first-password"
  role := .user
  groupId := none
  createdAt := 0

def aliceToken : RefreshTokenRow where
  id := "token-id"
  userId := "alice-id"
  tokenHash := "token"
  expiresAt := 604800000
  createdAt := 0
  lastActivityAt := some 0
  presented := some "first-password"

/-- One user with one session, and no group. -/
def aliceDb : AuthDb where
  users := .set .empty "alice-id" aliceRow
  refreshTokens := .set .empty "token-id" aliceToken

def resetDraw : Draw := ⟨"", "", "", "salt", 1⟩

/-- A new password and a group that is not there. -/
def halfResetUpdates : UserUpdates where
  password := some "second-password"
  groupId := some (some "gone")

/-- A group that is not there, and nothing else: the update throws and leaves all. -/
theorem updateUser_atomic_iff_group :
    (updateUserThrough plainCrypto resetDraw "alice-id" { groupId := some (some "gone") }
      aliceDb).1 = .error .foreignKey ∧
    FailureLeavesAll plainCrypto resetDraw aliceDb "alice-id" { groupId := some (some "gone") } := by
  refine ⟨rfl, (updateUser_atomic_iff _ _ _ _ _ (by decide)).mpr fun user found => ?_⟩
  cases found
  exact fun _ => ⟨fun _ => rfl, fun _ _ => ⟨rfl, rfl, fun password given => by cases given⟩⟩

/-- The update is refused for its group when the password is changed already. -/
theorem half_reset : updateUserSchema halfResetUpdates = true ∧
    (updateUserThrough plainCrypto resetDraw "alice-id" halfResetUpdates aliceDb).1 =
      .error .foreignKey ∧
    ¬FailureLeavesAll plainCrypto resetDraw aliceDb "alice-id" halfResetUpdates := by
  refine ⟨by decide, rfl, fun leaves => ?_⟩
  have tokens := (leaves .foreignKey _ rfl).2
  have sizes := congrArg OrderedMap.size tokens
  revert sizes
  decide

end Aeolus.Auth
