/-
# Aeolus.Auth.AuthRequests — requests to the auth services, cut at their awaits

`auth-service.ts` and `user-service.ts`.  A request runs without interruption up to
an `await`; the only awaits are bcrypt's `hash` and `compare`, which look at nothing
but their arguments.  What a request holds across one is a `Suspended`; any suspended
request may go on next, so a run is any list of new requests and resumptions.
-/
import Aeolus.Auth.AuthStore

namespace Aeolus.Auth

open Aeolus.Core Aeolus.Theory
open Handler

structure AccessTokenPayload where
  userId : String
  username : String
  role : Role
  groupId : Option String
  deriving DecidableEq, Repr

/-- The access token is the payload it signs. -/
structure LoginResult where
  accessToken : AccessTokenPayload
  refreshToken : String
  user : User

/-- `undefined` is `none`; a group may also be set to `null`. -/
structure UserUpdates where
  groupId : Option (Option String) := none
  password : Option String := none
  role : Option Role := none
  sessionDays : Option Nat := none
  inactivityMinutes : Option Nat := none

/-- What a request holds while it waits for bcrypt. -/
inductive Suspended where
  /-- `setupAdmin`, hashing -/
  | setupHash (username password : String)
  /-- `createUser`, hashing; the row lacks only its hash and its time -/
  | createHash (row : User) (password : String)
  /-- `updateUser`, hashing -/
  | updateHash (id password : String) (groupId : Option (Option String))
  /-- `login` of an unknown name, comparing with the dummy hash -/
  | loginUnknown
  /-- `login`, comparing with the hash of the user it has read -/
  | loginCompare (user : User) (password : String)
  /-- `changePassword`, comparing -/
  | changeCompare (userId : String) (user : User) (currentPassword newPassword : String)
  /-- `changePassword`, hashing -/
  | changeHash (userId : String) (user : User) (currentPassword newPassword : String)

inductive Result where
  | login (result : LoginResult)
  | user (user : Option User)
  | accessToken (payload : AccessTokenPayload)
  | none

/-- Where a segment of a request stops. -/
inductive Progress where
  | awaiting (suspended : Suspended)
  | returned (result : Result)

abbrev Segment := AuthStatement Progress

/-! ## Checks -/

def minPasswordLength : Nat := 8

def validatePassword (password : String) : Except AuthError Unit :=
  if utf16Length password < minPasswordLength then
    .error (.badRequest s!"Password must be at least {minPasswordLength} characters")
  else .ok ()

def validateSessionPolicy (sessionDays inactivityMinutes : Nat) : Except AuthError Unit :=
  if ¬ [1, 7, 30].contains sessionDays ∨ ¬ [0, 30, 120, 480].contains inactivityMinutes then
    .error (.badRequest "Unsupported session policy")
  else .ok ()

def assertNotLastAdmin : AuthStatement Unit := do
  let count ← asks adminCount
  if count ≤ 1 then throw (.conflict "Cannot remove the last admin user") else return ()

def needsSetup (db : AuthDb) : Bool := adminCount db = 0

/-- The catch block of an insert into `users`. -/
def asConflict : AuthError → AuthError
  | .unique _ => .conflict "Username already exists"
  | e => e

/-! ## `setupAdmin` -/

def setupAdmin (username password : String) : Segment := do
  if ¬ (← asks needsSetup) then throw (.conflict "Setup already completed")
  else if username = "" ∨ utf16Length (trim username) = 0 then
    throw (.badRequest "Username must not be empty")
  else
    check (validatePassword password)
    return .awaiting (.setupHash username password)

/-- The transaction that looks again before it inserts. -/
def insertIfNoAdmin (user : User) : AuthStatement Unit := atomically do
  if 0 < (← asks adminCount) then throw (.conflict "Setup already completed")
  else insertUser user

def setupAdminHashed (crypto : AuthCrypto) (draw : Draw) (username password : String) :
    Segment := do
  let user : User :=
    { id := draw.uuid
      username := trim username
      passwordHash := crypto.bcrypt.hash draw.salt password
      role := .admin
      groupId := none
      createdAt := draw.now }
  tryCatch (insertIfNoAdmin user) fun err => throw (asConflict err)
  let refreshToken ← generateRefreshToken crypto draw user.id (some password)
  return .returned (.login ⟨⟨user.id, user.username, .admin, none⟩, refreshToken, user⟩)

/-! ## `createUser`, `updateUser`, `deleteUser` -/

def createUser (draw : Draw) (username password : String) (groupId : Option String) (role : Role)
    (sessionDays inactivityMinutes : Nat) : Segment := do
  check (validatePassword password)
  check (validateSessionPolicy sessionDays inactivityMinutes)
  let row : User :=
    { id := draw.uuid
      username
      passwordHash := ""
      role
      groupId
      createdAt := 0
      sessionDays
      inactivityMinutes }
  return .awaiting (.createHash row password)

def createUserHashed (crypto : AuthCrypto) (draw : Draw) (row : User) (password : String) :
    Segment := do
  let user :=
    { row with passwordHash := crypto.bcrypt.hash draw.salt password, createdAt := draw.now }
  tryCatch (insertUser user) fun err => throw (asConflict err)
  return .returned (.user (some user))

/-- The role of a user; the last administrator keeps it. -/
def changeRole (id : String) (existing : User) (role : Option Role) : AuthStatement Unit :=
  match role with
  | none => return ()
  | some role =>
      if role ≠ existing.role then do
        if existing.role = .admin ∧ role = .user then assertNotLastAdmin
        updateUserRow id fun user => { user with role }
      else return ()

def changePolicy (id : String) (existing : User) (updates : UserUpdates) : AuthStatement Unit :=
  if updates.sessionDays.isSome ∨ updates.inactivityMinutes.isSome then do
    let sessionDays := updates.sessionDays.getD existing.sessionDays
    let inactivityMinutes := updates.inactivityMinutes.getD existing.inactivityMinutes
    check (validateSessionPolicy sessionDays inactivityMinutes)
    updateUserRow id fun user => { user with sessionDays, inactivityMinutes }
  else return ()

def changeGroup (id : String) : Option (Option String) → AuthStatement Unit
  | some groupId => updateGroup id groupId
  | none => return ()

/-- The end of `updateUser`: the group, and the row as it is then. -/
def finishUpdate (id : String) (groupId : Option (Option String)) : Segment := do
  changeGroup id groupId
  let user ← asks (getUser id)
  return .returned (.user user)

def updateUser (id : String) (updates : UserUpdates) : Segment := do
  match ← asks (getUser id) with
  | none => throw (.notFound "User not found")
  | some existing =>
      changeRole id existing updates.role
      changePolicy id existing updates
      match updates.password with
      | some password =>
          check (validatePassword password)
          return .awaiting (.updateHash id password updates.groupId)
      | none => finishUpdate id updates.groupId

/-- A new hash, and the end of every session of the user. -/
def writePassword (id passwordHash : String) (verified : Option String) : AuthStatement Unit := do
  updatePasswordHash id passwordHash verified
  deleteRefreshTokens fun row => row.userId = id

def updateUserHashed (crypto : AuthCrypto) (draw : Draw) (id password : String)
    (groupId : Option (Option String)) : Segment := do
  writePassword id (crypto.bcrypt.hash draw.salt password) none
  finishUpdate id groupId

def deleteUser (id : String) : Segment := do
  match ← asks (getUser id) with
  | none => throw (.notFound "User not found")
  | some user =>
      if user.role = .admin then assertNotLastAdmin
      deleteUserRow id
      return .returned .none

/-! ## `login`, `refresh`, `logout`, `changePassword` -/

def login (username password : String) : Segment := do
  match ← asks (getUserByUsername username) with
  | none => return .awaiting .loginUnknown
  | some user => return .awaiting (.loginCompare user password)

def loginCompared (crypto : AuthCrypto) (draw : Draw) (user : User) (password : String) :
    Segment :=
  if ¬ crypto.bcrypt.compare password user.passwordHash then
    throw (.unauthorized "Invalid username or password")
  else do
    let refreshToken ← generateRefreshToken crypto draw user.id (some password)
    return .returned
      (.login ⟨⟨user.id, user.username, user.role, user.groupId⟩, refreshToken, user⟩)

def refresh (crypto : AuthCrypto) (token : String) (active : Bool) (now : Nat) : Segment := do
  match ← validateRefreshToken crypto token now with
  | none => throw (.unauthorized "Invalid or expired refresh token")
  | some row =>
      match ← asks (getUser row.userId) with
      | none => throw (.unauthorized "User not found")
      | some user =>
          if active then touchRefreshActivity crypto token now
          return .returned (.accessToken ⟨user.id, user.username, user.role, user.groupId⟩)

def logout (crypto : AuthCrypto) (token : String) : Segment := do
  revokeRefreshToken crypto token
  return .returned .none

def changePassword (userId currentPassword newPassword : String) : Segment := do
  match ← asks (getUser userId) with
  | none => throw (.notFound "User not found")
  | some user => return .awaiting (.changeCompare userId user currentPassword newPassword)

def changePasswordCompared (crypto : AuthCrypto) (userId : String) (user : User)
    (currentPassword newPassword : String) : Segment := do
  if ¬ crypto.bcrypt.compare currentPassword user.passwordHash then
    throw (.unauthorized "Current password is incorrect")
  else
    check (validatePassword newPassword)
    return .awaiting (.changeHash userId user currentPassword newPassword)

def changePasswordHashed (crypto : AuthCrypto) (draw : Draw)
    (userId currentPassword newPassword : String) : Segment := do
  writePassword userId (crypto.bcrypt.hash draw.salt newPassword) (some currentPassword)
  return .returned .none

/-! ## Runs -/

inductive Request where
  | setupAdmin (username password : String)
  | createUser (username password : String) (groupId : Option String) (role : Role)
      (sessionDays inactivityMinutes : Nat)
  | updateUser (id : String) (updates : UserUpdates)
  | deleteUser (id : String)
  | login (username password : String)
  | refresh (token : String) (active : Bool)
  | logout (token : String)
  | changePassword (userId currentPassword newPassword : String)

def Request.segment (crypto : AuthCrypto) (draw : Draw) : Request → Segment
  | .setupAdmin username password => Auth.setupAdmin username password
  | .createUser username password groupId role sessionDays inactivityMinutes =>
      Auth.createUser draw username password groupId role sessionDays inactivityMinutes
  | .updateUser id updates => Auth.updateUser id updates
  | .deleteUser id => Auth.deleteUser id
  | .login username password => Auth.login username password
  | .refresh token active => Auth.refresh crypto token active draw.now
  | .logout token => Auth.logout crypto token
  | .changePassword userId currentPassword newPassword =>
      Auth.changePassword userId currentPassword newPassword

/-- What a suspended request does when bcrypt is done. -/
def Suspended.segment (crypto : AuthCrypto) (draw : Draw) : Suspended → Segment
  | .setupHash username password => setupAdminHashed crypto draw username password
  | .createHash row password => createUserHashed crypto draw row password
  | .updateHash id password groupId => updateUserHashed crypto draw id password groupId
  | .loginUnknown => throw (.unauthorized "Invalid username or password")
  | .loginCompare user password => loginCompared crypto draw user password
  | .changeCompare userId user currentPassword newPassword =>
      changePasswordCompared crypto userId user currentPassword newPassword
  | .changeHash userId _ currentPassword newPassword =>
      changePasswordHashed crypto draw userId currentPassword newPassword

/-- `setups` counts the calls of `setupAdmin` that returned. -/
structure AuthState where
  db : AuthDb
  suspended : List Suspended := []
  setups : Nat := 0

/-- A new request, or a suspended one that goes on. -/
inductive AuthEvent where
  | arrives (request : Request) (draw : Draw)
  | resumes (index : Nat) (draw : Draw)

/-- The state after one segment. -/
def AuthState.advance (s : AuthState) (isSetup : Bool) (segment : Segment) : AuthState :=
  match segment s.db with
  | (.ok (.awaiting next), db) => { s with db := db, suspended := s.suspended ++ [next] }
  | (.ok (.returned _), db) => { s with db := db, setups := s.setups + if isSetup then 1 else 0 }
  | (.error _, db) => { s with db := db }

def Suspended.isSetup : Suspended → Bool
  | .setupHash _ _ => true
  | _ => false

def AuthState.step (crypto : AuthCrypto) (s : AuthState) : AuthEvent → AuthState
  | .arrives request draw => s.advance false (request.segment crypto draw)
  | .resumes index draw =>
      match s.suspended[index]? with
      | none => s
      | some job =>
          AuthState.advance { s with suspended := s.suspended.eraseIdx index } job.isSetup
            (job.segment crypto draw)

/-! ## Inserts that returned -/

theorem insertUser_ok {user : User} {db db' : AuthDb}
    (returned : insertUser user db = (.ok (), db')) :
    db.users.get user.id = none ∧ db' = { db with users := db.users.set user.id user } := by
  unfold insertUser at returned
  split at returned
  · cases returned
  · split at returned
    · cases returned
    · split at returned
      · cases returned
      · rename_i free _ _
        cases returned
        exact ⟨Option.not_isSome_iff_eq_none.mp free, rfl⟩

/-- The setup's insert counted no administrator. -/
theorem insertFirstAdmin_ok {user : User} {db db' : AuthDb}
    (returned : (tryCatch (insertIfNoAdmin user) fun err => throw (asConflict err)) db =
      (.ok (), db')) :
    adminCount db = 0 ∧ db' = { db with users := db.users.set user.id user } := by
  obtain ⟨count, _, counted, insertion⟩ := bind_ok (atomically_ok (tryCatch_throw_ok returned))
  cases counted
  split at insertion
  · cases insertion
  · rename_i nobody
    exact ⟨by omega, (insertUser_ok insertion).2⟩

/-! ## What every segment keeps -/

theorem readOnly_assertNotLastAdmin : ReadOnly assertNotLastAdmin := by
  refine ReadOnly.bind (readOnly_asks _) fun count => ?_
  split
  · exact readOnly_check _
  · exact readOnly_pure _

/-- A property of the tables that no statement breaks, except perhaps a new token or a
new password. -/
structure Stable (P : AuthDb → Prop) : Prop where
  insertUser : ∀ user, Preserves P (insertUser user)
  changeRole : ∀ id existing role, Preserves P (changeRole id existing role)
  changePolicy : ∀ id existing updates, Preserves P (changePolicy id existing updates)
  updateGroup : ∀ id groupId, Preserves P (updateGroup id groupId)
  deleteUser : ∀ id, Preserves P (deleteUser id)
  deleteRefreshTokens : ∀ gone, Preserves P (deleteRefreshTokens gone)
  touchTokens : ∀ tokenHash now, Preserves P (touchTokens tokenHash now)

namespace Stable

variable {P : AuthDb → Prop} (stable : Stable P)

include stable

theorem finishUpdate (id : String) (groupId : Option (Option String)) :
    Preserves P (finishUpdate id groupId) := by
  refine Preserves.bind ?_ fun _ => Preserves.bind (readOnly_asks _).preserves fun _ =>
    preserves_pure _
  cases groupId with
  | none => exact preserves_pure _
  | some groupId => exact stable.updateGroup id groupId

theorem updateUser (id : String) (updates : UserUpdates) : Preserves P (updateUser id updates) := by
  refine Preserves.bind (readOnly_asks _).preserves fun existing => ?_
  cases existing with
  | none => exact preserves_throw _
  | some existing =>
      refine Preserves.bind (stable.changeRole id existing _) fun _ =>
        Preserves.bind (stable.changePolicy id existing updates) fun _ => ?_
      cases updates.password with
      | none => exact stable.finishUpdate id _
      | some password =>
          exact Preserves.bind (readOnly_check _).preserves fun _ => preserves_pure _

/-- The insert of `setupAdmin`, with its catch block. -/
theorem insertFirstAdmin (user : User) :
    Preserves P (tryCatch (insertIfNoAdmin user) fun err => throw (asConflict err)) := by
  refine Preserves.tryCatch ?_ fun _ => preserves_throw _
  refine Preserves.atomically (Preserves.bind (readOnly_asks _).preserves fun count => ?_)
  exact Preserves.ite (fun _ => preserves_throw _) fun _ => stable.insertUser user

theorem createUserHashed (crypto : AuthCrypto) (draw : Draw) (row : User) (password : String) :
    Preserves P (createUserHashed crypto draw row password) := by
  refine Preserves.bind ?_ fun _ => preserves_pure _
  exact Preserves.tryCatch (stable.insertUser _) fun _ => preserves_throw _

theorem validateRefreshToken (crypto : AuthCrypto) (token : String) (now : Nat) :
    Preserves P (validateRefreshToken crypto token now) := by
  refine Preserves.bind (readOnly_asks _).preserves fun row => ?_
  cases row with
  | none => exact preserves_pure _
  | some row =>
      refine Preserves.bind (readOnly_asks _).preserves fun policy => ?_
      refine Preserves.ite (fun _ => ?_) fun _ => preserves_pure _
      exact Preserves.bind (stable.deleteRefreshTokens _) fun _ => preserves_pure _

theorem refresh (crypto : AuthCrypto) (token : String) (active : Bool) (now : Nat) :
    Preserves P (refresh crypto token active now) := by
  refine Preserves.bind (stable.validateRefreshToken crypto token now) fun row => ?_
  cases row with
  | none => exact preserves_throw _
  | some row =>
      refine Preserves.bind (readOnly_asks _).preserves fun user => ?_
      cases user with
      | none => exact preserves_throw _
      | some user =>
          refine Preserves.ite (fun _ => ?_) fun _ => preserves_pure _
          exact Preserves.bind (stable.touchTokens _ _) fun _ => preserves_pure _

/-- The first segment of every request keeps it. -/
theorem request (crypto : AuthCrypto) (draw : Draw) (request : Request) :
    Preserves P (request.segment crypto draw) := by
  cases request with
  | setupAdmin username password =>
      refine Preserves.bind (readOnly_asks _).preserves fun needed => ?_
      refine Preserves.ite (fun _ => preserves_throw _) fun _ => ?_
      refine Preserves.ite (fun _ => preserves_throw _) fun _ => ?_
      exact Preserves.bind (readOnly_check _).preserves fun _ => preserves_pure _
  | createUser username password groupId role sessionDays inactivityMinutes =>
      exact Preserves.bind (readOnly_check _).preserves fun _ =>
        Preserves.bind (readOnly_check _).preserves fun _ => preserves_pure _
  | updateUser id updates => exact stable.updateUser id updates
  | deleteUser id => exact stable.deleteUser id
  | login username password =>
      refine Preserves.bind (readOnly_asks _).preserves fun user => ?_
      cases user <;> exact preserves_pure _
  | refresh token active => exact stable.refresh crypto token active draw.now
  | logout token =>
      exact Preserves.bind (stable.deleteRefreshTokens _) fun _ => preserves_pure _
  | changePassword userId currentPassword newPassword =>
      refine Preserves.bind (readOnly_asks _).preserves fun user => ?_
      cases user with
      | none => exact preserves_throw _
      | some user => exact preserves_pure _

end Stable

end Aeolus.Auth
