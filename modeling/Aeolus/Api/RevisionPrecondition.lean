/-
# Aeolus.Api.RevisionPrecondition — the revision a write is based on, and who may write

`requireIfMatchRevision` of `src/api/middleware/revision-precondition.ts` reads the
revision out of the If-Match header: `7`, `"7"` or `W/"7"`.  With it stand the guards
of `src/auth/auth-middleware.ts` that run before the handlers of this directory.
-/
import Aeolus.Core.Text
import Aeolus.Db.Database

namespace Aeolus.Api

open Aeolus.Core Aeolus.Db Aeolus.Theory

/-! ## If-Match -/

/-- What stands between two double quotes. -/
def unquote : List Char → Option (List Char)
  | '"' :: rest => if rest.getLast? = some '"' then some rest.dropLast else none
  | _ => none

/-- The digits that `^(?:W\/"(\d+)"|"(\d+)"|(\d+))$` captures. -/
def matchRevision (text : List Char) : Option (List Char) :=
  let inner :=
    match text with
    | 'W' :: '/' :: rest => unquote rest
    | '"' :: rest => unquote ('"' :: rest)
    | digits => some digits
  inner.filter fun digits => digits ≠ [] && digits.all Char.isDigit

/-- The value of a string of digits. -/
def digitsValue (digits : List Char) : Nat :=
  digits.foldl (fun value c => 10 * value + (c.toNat - '0'.toNat)) 0

/-- `Number.MAX_SAFE_INTEGER` -/
def maxSafeInteger : Nat := 9007199254740991

/-- `requireIfMatchRevision`; a header that is absent and an empty one are alike. -/
def requireIfMatchRevision (ifMatch : Option String) : Except Failure Nat :=
  match truthy ifMatch with
  | none => .error .PreconditionRequiredError
  | some raw =>
    match matchRevision (trim raw).toList with
    | none => .error (.BadRequestError "If-Match must contain an integer revision")
    | some digits =>
      let revision := digitsValue digits
      if revision ≤ maxSafeInteger ∧ 1 ≤ revision then .ok revision
      else .error (.BadRequestError "If-Match must contain a positive integer revision")

example : requireIfMatchRevision (some "W/\"7\"") = .ok 7 := by decide

example : requireIfMatchRevision (some "W/7") =
    .error (.BadRequestError "If-Match must contain an integer revision") := by decide

/-! ## Who may write -/

inductive Role where
  | admin
  | user
  deriving DecidableEq

structure User where
  userId : String
  role : Role
  deriving DecidableEq

/-- `requireAdmin`, on a method that is not read-only: the exception for public-demo
sessions covers only GET and HEAD. -/
def requireAdmin : Option User → Except Failure Unit
  | none => .error .UnauthorizedError
  | some user => if user.role = .admin then .ok () else .error .ForbiddenError

/-- What the permission services decide. -/
structure Permissions where
  /-- `resolver.hasResourcePermission(userId, "automation", id, "write")` -/
  mayWriteAutomation : Database → String → String → Bool
  /-- `hasPermission(userId, tabId, "write")` -/
  mayWriteTab : Database → String → String → Bool

/-- `requireAutomationPermission("write")`: an administrator passes without a look at the
database; anyone else needs the automation to exist, then the permission. -/
def requireAutomation (permissions : Permissions) (user : Option User) (id : String)
    (db : Database) : Except Failure Unit :=
  match user with
  | none => .error .UnauthorizedError
  | some user =>
    if user.role = .admin then .ok ()
    else if (db.queryRuleById id).isNone then
      .error (.NotFoundError s!"automation not found: {id}")
    else if permissions.mayWriteAutomation db user.userId id then .ok ()
    else .error .ForbiddenError

/-- `requireTabPermission("write")` on the tab a request names. -/
def requireTabPermission (permissions : Permissions) (user : Option User)
    (tabId : Option String) (db : Database) : Except Failure Unit :=
  match user with
  | none => .error .UnauthorizedError
  | some user =>
    if user.role = .admin then .ok ()
    else
      match truthy tabId with
      | none => .error .ForbiddenError
      | some tabId =>
        if permissions.mayWriteTab db user.userId tabId then .ok () else .error .ForbiddenError

end Aeolus.Api
