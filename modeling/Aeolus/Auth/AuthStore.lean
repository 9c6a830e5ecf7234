/-
# Aeolus.Auth.AuthStore — users, refresh tokens and the statements on them

The tables `users` and `refresh_tokens` with the constraints their statements can
violate: primary keys, unique names and token hashes, the reference of a user to its
group and of a token to its user, whose deletion cascades.

Two things are kept that no table stores.  A token row remembers the password that
was presented for it (`presented`, none for a token from before the run), and every
write of a password hash is logged with the password its request had verified
(`passwordWrites`, none for a reset by an administrator).
-/
import Aeolus.Core.Text
import Aeolus.Theory.OrderedMap
import Aeolus.Theory.Transaction

namespace Aeolus.Auth

open Aeolus.Core Aeolus.Theory
open Handler

inductive Role where
  | admin
  | user
  deriving DecidableEq, Repr

structure User where
  id : String
  username : String
  passwordHash : String
  role : Role
  groupId : Option String
  createdAt : Nat
  sessionDays : Nat := 7
  inactivityMinutes : Nat := 0
  deriving DecidableEq, Repr

structure RefreshTokenRow where
  id : String
  userId : String
  tokenHash : String
  expiresAt : Nat
  createdAt : Nat
  lastActivityAt : Option Nat
  presented : Option String
  deriving DecidableEq, Repr

/-- A password hash that was replaced, and what its request had verified. -/
structure PasswordWrite where
  userId : String
  verified : Option String
  replacedHash : String
  deriving DecidableEq, Repr

structure AuthDb where
  users : OrderedMap String User := .empty
  refreshTokens : OrderedMap String RefreshTokenRow := .empty
  groups : List String := []
  passwordWrites : List PasswordWrite := []

inductive AuthError where
  | conflict (message : String)
  | badRequest (message : String)
  | unauthorized (message : String)
  | notFound (message : String)
  | unique (column : String)
  | foreignKey
  deriving DecidableEq, Repr

/-- A statement on these tables. -/
abbrev AuthStatement (α : Type) := Handler AuthError AuthDb α

/-! ## Statements on `users` -/

def getUser (id : String) (db : AuthDb) : Option User := db.users.get id

def getUserByUsername (username : String) (db : AuthDb) : Option User :=
  db.users.values.find? fun user => user.username = username

/-- `SELECT COUNT(*) FROM users WHERE role = 'admin'` -/
def adminCount (db : AuthDb) : Nat :=
  (db.users.values.filter fun user => user.role = .admin).length

def AuthDb.groupExists (db : AuthDb) (groupId : Option String) : Bool :=
  groupId.all fun id => db.groups.contains id

def insertUser (user : User) : AuthStatement Unit := fun db =>
  if (db.users.get user.id).isSome then (.error (.unique "users.id"), db)
  else if db.users.values.any fun other => other.username = user.username then
    (.error (.unique "users.username"), db)
  else if ¬ db.groupExists user.groupId then (.error .foreignKey, db)
  else (.ok (), { db with users := db.users.set user.id user })

/-- `UPDATE users SET … WHERE id = ?` on columns without a constraint. -/
def updateUserRow (id : String) (change : User → User) : AuthStatement Unit :=
  modify fun db =>
    match db.users.get id with
    | none => db
    | some user => { db with users := db.users.set id (change user) }

def updateGroup (id : String) (groupId : Option String) : AuthStatement Unit := fun db =>
  match db.users.get id with
  | none => (.ok (), db)
  | some user =>
      if ¬ db.groupExists groupId then (.error .foreignKey, db)
      else (.ok (), { db with users := db.users.set id { user with groupId } })

/-- `UPDATE users SET password_hash = ? WHERE id = ?` -/
def updatePasswordHash (id passwordHash : String) (verified : Option String) : AuthStatement Unit :=
  modify fun db =>
    match db.users.get id with
    | none => db
    | some user =>
        { db with
          users := db.users.set id { user with passwordHash }
          passwordWrites := db.passwordWrites ++ [⟨id, verified, user.passwordHash⟩] }

/-- `DELETE FROM users WHERE id = ?`, which takes the user's tokens with it. -/
def deleteUserRow (id : String) : AuthStatement Unit :=
  modify fun db =>
    { db with
      users := db.users.delete id
      refreshTokens := db.refreshTokens.filter fun row => row.userId ≠ id }

/-! ## Statements on `refresh_tokens` -/

def insertRefreshToken (row : RefreshTokenRow) : AuthStatement Unit := fun db =>
  if (db.refreshTokens.get row.id).isSome then (.error (.unique "refresh_tokens.id"), db)
  else if db.refreshTokens.values.any fun other => other.tokenHash = row.tokenHash then
    (.error (.unique "refresh_tokens.token_hash"), db)
  else if (db.users.get row.userId).isNone then (.error .foreignKey, db)
  else (.ok (), { db with refreshTokens := db.refreshTokens.set row.id row })

/-- `DELETE FROM refresh_tokens WHERE …` -/
def deleteRefreshTokens (gone : RefreshTokenRow → Bool) : AuthStatement Unit :=
  modify fun db => { db with refreshTokens := db.refreshTokens.filter fun row => !gone row }

/-- `UPDATE refresh_tokens SET last_activity_at = ? WHERE token_hash = ?` -/
def touchTokens (tokenHash : String) (now : Nat) : AuthStatement Unit :=
  modify fun db =>
    { db with
      refreshTokens := db.refreshTokens.map fun row =>
        if row.tokenHash = tokenHash then { row with lastActivityAt := some now } else row }

/-! ## Cryptography and chance -/

/-- `bcrypt`, taken as a correct password check. -/
structure Bcrypt where
  /-- the salt, then the password -/
  hash : String → String → String
  compare : String → String → Bool
  correct : ∀ salt password candidate,
    compare candidate (hash salt password) = decide (candidate = password)

/-- A check without salt, for concrete runs: it tells right from wrong as bcrypt does. -/
def plainBcrypt : Bcrypt where
  hash _ password := "$2b$12$" ++ password
  compare candidate stored := stored = "$2b$12$" ++ candidate
  correct salt password candidate := by
    refine decide_eq_decide.mpr ⟨fun same => ?_, fun same => by rw [same]⟩
    exact (String.append_right_inj _).mp same.symm

structure AuthCrypto where
  bcrypt : Bcrypt
  /-- `createHash("sha256").update(token).digest("hex")` -/
  hashToken : String → String

def plainCrypto : AuthCrypto where
  bcrypt := plainBcrypt
  hashToken token := token

/-- The clock and what is drawn at random in one step. -/
structure Draw where
  uuid : String
  tokenId : String
  rawToken : String
  salt : String
  now : Nat

/-! ## `token-service.ts` -/

def dayMs : Nat := 24 * 60 * 60 * 1000

def dbSessionPolicy (userId : String) (db : AuthDb) : Nat × Nat :=
  match db.users.get userId with
  | some user => (user.sessionDays, user.inactivityMinutes)
  | none => (7, 0)

/-- The row of a new token. -/
def newRefreshToken (crypto : AuthCrypto) (draw : Draw) (userId : String)
    (presented : Option String) (db : AuthDb) : RefreshTokenRow where
  id := draw.tokenId
  userId := userId
  tokenHash := crypto.hashToken draw.rawToken
  expiresAt := draw.now + (dbSessionPolicy userId db).1 * dayMs
  createdAt := draw.now
  lastActivityAt := some draw.now
  presented := presented

/-- Returns the raw token. -/
def generateRefreshToken (crypto : AuthCrypto) (draw : Draw) (userId : String)
    (presented : Option String) : AuthStatement String := do
  let row ← asks (newRefreshToken crypto draw userId presented)
  insertRefreshToken row
  return draw.rawToken

/-- A row that is past its expiry, past the user's session length, or idle too long. -/
def tokenExpired (row : RefreshTokenRow) (policy : Nat × Nat) (now : Nat) : Bool :=
  let idleExpired := 0 < policy.2 &&
    policy.2 * 60000 < now - row.lastActivityAt.getD row.createdAt
  row.expiresAt < now || row.createdAt + policy.1 * dayMs < now || idleExpired

/-- The row of a token that is valid now; an expired one is deleted. -/
def validateRefreshToken (crypto : AuthCrypto) (token : String) (now : Nat) :
    AuthStatement (Option RefreshTokenRow) := do
  match ← asks fun db => db.refreshTokens.values.find? fun row =>
      row.tokenHash = crypto.hashToken token with
  | none => return none
  | some row =>
      let policy ← asks (dbSessionPolicy row.userId)
      if tokenExpired row policy now then
        deleteRefreshTokens fun other => other.id = row.id
        return none
      else return some row

def revokeRefreshToken (crypto : AuthCrypto) (token : String) : AuthStatement Unit :=
  deleteRefreshTokens fun row => row.tokenHash = crypto.hashToken token

def touchRefreshActivity (crypto : AuthCrypto) (token : String) (now : Nat) : AuthStatement Unit :=
  touchTokens (crypto.hashToken token) now

end Aeolus.Auth
