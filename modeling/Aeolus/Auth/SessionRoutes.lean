/-
# Aeolus.Auth.SessionRoutes — POST /api/auth/refresh and POST /api/auth/logout

The way of a request to the two handlers of `auth.routes.ts`, as `index.ts` mounts it: the
rate limiter of the API, `authenticate`, the guard of the public demo, the handler.  A
refresh is public and goes by its cookie alone.  A logout is not: without an access token
that verifies, `authenticate` answers it, and the handler that would revoke the cookie's
token never runs (`serve_turnedAway`).

What `jsonwebtoken` makes of a token at a time is a parameter, and so is what the rate
limiter has counted.  A refresh token that has no row is refused for good, as long as none
is drawn anew (`step_unknown`, `refresh_unknown`).
-/
import Aeolus.Auth.PasswordAuthority
import Aeolus.Demo.DemoPolicy

namespace Aeolus.Auth

open Aeolus.Core Aeolus.Theory
open Handler

/-! ## Requests -/

inductive SessionType where
  | normal
  | publicDemo
  deriving DecidableEq

/-- What the server has beside its tables. -/
structure Site where
  crypto : AuthCrypto
  /-- `generateAccessToken`, at a time -/
  generateAccessToken : AccessTokenPayload → Nat → String
  /-- `verifyAccessToken`, at a time: `none` when it throws -/
  verifyAccessToken : String → Nat → Option (AccessTokenPayload × SessionType)
  /-- `config.publicDemo.enabled` -/
  publicDemo : Bool

/-- `active`: the body has `active: true`. -/
structure HttpRequest where
  method : String
  path : String
  authorization : Option String
  refreshCookie : Option String
  active : Bool := false

structure HttpResponse where
  status : Nat
  accessToken : Option String := none
  clearsCookie : Bool := false
  deriving DecidableEq

/-! ## Before the handlers -/

def publicRoutes : List (String × String) :=
  [("GET", "/api/health"), ("HEAD", "/api/health"), ("GET", "/api/auth/status"),
    ("POST", "/api/auth/login"), ("POST", "/api/auth/refresh"), ("POST", "/api/auth/setup"),
    ("POST", "/api/auth/demo-session"), ("GET", "/metrics")]

def isPublicRoute (method path : String) : Bool :=
  publicRoutes.any fun route => Demo.toUpperCase method = route.1 && path = route.2

/-- The token after `Bearer `, when there is one. -/
def bearerToken (authorization : Option String) : Option String :=
  authorization.bind fun header =>
    if "Bearer ".toList.isPrefixOf header.toList then
      truthy (some (String.ofList (header.toList.drop 7)))
    else none

/-- `authenticate`: who the request is from, if it has to say. -/
def authenticate (site : Site) (now : Nat) (request : HttpRequest) :
    Except Nat (Option (AccessTokenPayload × SessionType)) :=
  if isPublicRoute request.method request.path then .ok none
  else
    match (bearerToken request.authorization).bind (site.verifyAccessToken · now) with
    | some verified => .ok (some verified)
    | none => .error 401

/-- `publicDemoGuard`, where no entry of the policy has to look at the body. -/
def publicDemoGuard (site : Site) (user : Option (AccessTokenPayload × SessionType))
    (request : HttpRequest) : Except Nat Unit :=
  if ¬site.publicDemo ∨ user.map Prod.snd ≠ some .publicDemo then .ok ()
  else if (Demo.matchPolicy Demo.demoPolicy request.method request.path).isSome then .ok ()
  else .error 403

/-- The status of a request that does not come to its handler. -/
def beforeHandler (site : Site) (limited : Bool) (now : Nat) (request : HttpRequest) :
    Except Nat Unit :=
  if limited then .error 429
  else do
    let user ← authenticate site now request
    publicDemoGuard site user request

/-! ## The handlers -/

def AuthError.status : AuthError → Nat
  | .badRequest _ => 400
  | .unauthorized _ => 401
  | .notFound _ => 404
  | .conflict _ => 409
  | .unique _ => 500
  | .foreignKey => 500

def postRefresh (site : Site) (now : Nat) (request : HttpRequest) : AuthStatement HttpResponse :=
  match truthy request.refreshCookie with
  | none => return { status := 401 }
  | some token => do
      match ← refresh site.crypto token request.active now with
      | .returned (.accessToken payload) =>
          return { status := 200, accessToken := some (site.generateAccessToken payload now) }
      | _ => return { status := 500 }

def revokeCookie (site : Site) : Option String → AuthStatement Unit
  | some token => revokeRefreshToken site.crypto token
  | none => return ()

def postLogout (site : Site) (request : HttpRequest) : AuthStatement HttpResponse := do
  revokeCookie site (truthy request.refreshCookie)
  return { status := 200, clearsCookie := true }

/-- A handler with its errors answered. -/
def respond (handler : AuthStatement HttpResponse) (db : AuthDb) : HttpResponse × AuthDb :=
  match handler db with
  | (.ok response, db) => (response, db)
  | (.error e, db) => ({ status := e.status }, db)

/-- Does the request come to its handler, the handler's answer, or else the one before it. -/
def serve (site : Site) (limited : Bool) (now : Nat) (request : HttpRequest)
    (handler : AuthStatement HttpResponse) (db : AuthDb) : HttpResponse × AuthDb :=
  match beforeHandler site limited now request with
  | .error status => ({ status }, db)
  | .ok _ => respond handler db

def refreshRequest (refreshCookie : Option String) (active : Bool) : HttpRequest where
  method := "POST"
  path := "/api/auth/refresh"
  authorization := none
  refreshCookie
  active

/-- With the store's access token, when it has one. -/
def logoutRequest (accessToken refreshCookie : Option String) : HttpRequest where
  method := "POST"
  path := "/api/auth/logout"
  authorization := (truthy accessToken).map ("Bearer " ++ ·)
  refreshCookie

def serveRefresh (site : Site) (limited : Bool) (now : Nat) (refreshCookie : Option String)
    (active : Bool) : AuthDb → HttpResponse × AuthDb :=
  let request := refreshRequest refreshCookie active
  serve site limited now request (postRefresh site now request)

def serveLogout (site : Site) (limited : Bool) (now : Nat)
    (accessToken refreshCookie : Option String) : AuthDb → HttpResponse × AuthDb :=
  let request := logoutRequest accessToken refreshCookie
  serve site limited now request (postLogout site request)

/-! ## Who comes through -/

section Admitted

variable {site : Site} {limited : Bool} {now : Nat}

theorem bearerToken_sent (accessToken : Option String) :
    bearerToken ((truthy accessToken).map ("Bearer " ++ ·)) = truthy accessToken := by
  cases sent : truthy accessToken with
  | none => rfl
  | some token =>
      obtain ⟨-, nonempty⟩ := truthy_eq_some.mp sent
      have rest : ("Bearer " ++ token).toList.drop 7 = token.toList := by
        simp [String.toList_append]
      show (if "Bearer ".toList.isPrefixOf ("Bearer " ++ token).toList then _ else _) = _
      rw [rest, String.ofList_toList, String.toList_append, if_pos (by simp)]
      exact truthy_eq_some.mpr ⟨rfl, nonempty⟩

/-- A refresh needs no access token. -/
theorem beforeHandler_refresh (refreshCookie : Option String) (active : Bool) :
    beforeHandler site limited now (refreshRequest refreshCookie active) =
      if limited then .error 429 else .ok () := by
  have isPublic : isPublicRoute "POST" "/api/auth/refresh" = true := by decide
  unfold beforeHandler authenticate refreshRequest
  rw [if_pos isPublic]
  split
  · rfl
  · show publicDemoGuard site none _ = _
    unfold publicDemoGuard
    rw [if_pos (Or.inr (by simp))]

/-- The access token of a logout, where the server takes it: it verifies, and is not one of
the public demo. -/
def Verifies (site : Site) (now : Nat) (accessToken : Option String) : Prop :=
  ∃ token payload sessionType, truthy accessToken = some token ∧
    site.verifyAccessToken token now = some (payload, sessionType) ∧
    (site.publicDemo = true → sessionType = .normal)

theorem beforeHandler_logout (accessToken refreshCookie : Option String) :
    beforeHandler site limited now (logoutRequest accessToken refreshCookie) = .ok () ↔
      limited = false ∧ Verifies site now accessToken := by
  have isPrivate : isPublicRoute "POST" "/api/auth/logout" = false := by decide
  have unlisted : (Demo.matchPolicy Demo.demoPolicy "POST" "/api/auth/logout").isSome = false := by
    decide +kernel
  unfold beforeHandler authenticate logoutRequest Verifies
  simp only [isPrivate, bearerToken_sent]
  cases limited with
  | true => simp
  | false =>
      cases sent : truthy accessToken with
      | none => simp [bind, Except.bind]
      | some token =>
          cases verified : site.verifyAccessToken token now with
          | none => simp [verified, bind, Except.bind]
          | some user =>
              obtain ⟨payload, sessionType⟩ := user
              cases demo : site.publicDemo <;> cases sessionType <;>
                simp [verified, publicDemoGuard, unlisted, bind, Except.bind, demo]

end Admitted

/-! ## A token without a row -/

/-- No row has this token's hash. -/
def Unknown (tokenHash : String) (db : AuthDb) : Prop :=
  ∀ id row, db.refreshTokens.get id = some row → row.tokenHash ≠ tokenHash

section Tokens

variable {site : Site} {tokenHash : String}

theorem Unknown.frame {db db' : AuthDb} (unknown : Unknown tokenHash db)
    (fewer : ∀ id row, db'.refreshTokens.get id = some row →
      ∃ old, db.refreshTokens.get id = some old ∧ row.tokenHash = old.tokenHash) :
    Unknown tokenHash db' := by
  intro id row found
  obtain ⟨old, there, same⟩ := fewer id row found
  exact same ▸ unknown id old there

/-- The tokens as they were. -/
theorem Unknown.same {db db' : AuthDb} (unknown : Unknown tokenHash db)
    (same : db'.refreshTokens = db.refreshTokens) : Unknown tokenHash db' :=
  unknown.frame fun _ row found => ⟨row, same ▸ found, rfl⟩

theorem unknown_deleteRefreshTokens (gone : RefreshTokenRow → Bool) :
    Preserves (Unknown tokenHash) (deleteRefreshTokens gone) :=
  preserves_modify fun _ unknown => unknown.frame fun _ row found =>
    ⟨row, (get_filter_some found).1, rfl⟩

theorem unknown_touchTokens (touched : String) (now : Nat) :
    Preserves (Unknown tokenHash) (touchTokens touched now) := by
  refine preserves_modify fun db unknown => unknown.frame fun id row found => ?_
  rw [show (db.refreshTokens.map _).get id = _ from OrderedMap.get_map _ _ _] at found
  obtain ⟨old, there, rfl⟩ := Option.map_eq_some_iff.mp found
  refine ⟨old, there, ?_⟩
  split <;> rfl

theorem unknown_insertUser (user : User) : Preserves (Unknown tokenHash) (insertUser user) := by
  intro db unknown
  unfold insertUser
  split
  · exact unknown
  · split
    · exact unknown
    · split
      · exact unknown
      · exact unknown.same rfl

theorem unknown_updateUserRow (id : String) (change : User → User) :
    Preserves (Unknown tokenHash) (updateUserRow id change) := by
  refine preserves_modify fun db unknown => ?_
  cases db.users.get id with
  | none => exact unknown
  | some user => exact unknown.same rfl

theorem unknown_updateGroup (id : String) (groupId : Option String) :
    Preserves (Unknown tokenHash) (updateGroup id groupId) := by
  intro db unknown
  unfold updateGroup
  cases db.users.get id with
  | none => exact unknown
  | some user =>
      simp only
      split
      · exact unknown
      · exact unknown.same rfl

theorem unknown_deleteUser (id : String) : Preserves (Unknown tokenHash) (deleteUser id) := by
  have deletion : Preserves (Unknown tokenHash)
      (deleteUserRow id >>= fun _ => pure (Progress.returned .none)) := by
    refine Preserves.bind (preserves_modify fun _ unknown => ?_) fun _ => preserves_pure _
    exact unknown.frame fun _ row found => ⟨row, (get_filter_some found).1, rfl⟩
  refine Preserves.bind (readOnly_asks _).preserves fun found => ?_
  cases found with
  | none => exact preserves_throw _
  | some user =>
      refine Preserves.ite (fun _ => ?_) fun _ => deletion
      exact Preserves.bind readOnly_assertNotLastAdmin.preserves fun _ => deletion

theorem stable_unknown : Stable (Unknown tokenHash) where
  insertUser := unknown_insertUser
  changeRole id existing role := by
    have write (role : Role) : Preserves (Unknown tokenHash)
        (updateUserRow id fun user => { user with role }) := unknown_updateUserRow id _
    cases role with
    | none => exact preserves_pure _
    | some role =>
        refine Preserves.ite (fun _ => ?_) fun _ => preserves_pure _
        refine Preserves.ite (fun _ => ?_) fun _ => write role
        exact Preserves.bind readOnly_assertNotLastAdmin.preserves fun _ => write role
  changePolicy id existing updates := by
    refine Preserves.ite (fun _ => ?_) fun _ => preserves_pure _
    exact Preserves.bind (readOnly_check _).preserves fun _ => unknown_updateUserRow id _
  updateGroup := unknown_updateGroup
  deleteUser := unknown_deleteUser
  deleteRefreshTokens := unknown_deleteRefreshTokens
  touchTokens := unknown_touchTokens

theorem unknown_writePassword (id passwordHash : String) (verified : Option String) :
    Preserves (Unknown tokenHash) (writePassword id passwordHash verified) := by
  refine Preserves.bind (preserves_modify fun db unknown => ?_) fun _ =>
    unknown_deleteRefreshTokens _
  cases db.users.get id with
  | none => exact unknown
  | some user => exact unknown.same rfl

/-- A new token has a hash of its own. -/
theorem unknown_generateRefreshToken {crypto : AuthCrypto} {draw : Draw}
    (fresh : crypto.hashToken draw.rawToken ≠ tokenHash) (userId : String)
    (presented : Option String) :
    Preserves (Unknown tokenHash) (generateRefreshToken crypto draw userId presented) := by
  intro db unknown
  refine bind_holds unknown fun row mid looked before => ?_
  obtain ⟨rfl, rfl⟩ : newRefreshToken crypto draw userId presented db = row ∧ db = mid := by
    cases looked
    exact ⟨rfl, rfl⟩
  refine bind_holds ?_ fun _ _ _ inserted => inserted
  unfold insertRefreshToken
  split
  · exact before
  · split
    · exact before
    · split
      · exact before
      · intro id row found
        rw [show _ = _ from OrderedMap.get_set _ _ _ _] at found
        split at found
        · cases found
          exact fresh
        · exact before id row found

/-- What a resumed request leaves. -/
theorem unknown_resumed {crypto : AuthCrypto} {draw : Draw}
    (fresh : crypto.hashToken draw.rawToken ≠ tokenHash) (job : Suspended) :
    Preserves (Unknown tokenHash) (job.segment crypto draw) := by
  cases job with
  | setupHash username password =>
      refine Preserves.bind (stable_unknown.insertFirstAdmin _) fun _ => ?_
      exact Preserves.bind (unknown_generateRefreshToken fresh _ _) fun _ => preserves_pure _
  | createHash row password => exact stable_unknown.createUserHashed crypto draw row password
  | updateHash id password groupId =>
      exact Preserves.bind (unknown_writePassword _ _ _) fun _ => stable_unknown.finishUpdate _ _
  | loginUnknown => exact preserves_throw _
  | loginCompare user password =>
      refine Preserves.ite (fun _ => preserves_throw _) fun _ => ?_
      exact Preserves.bind (unknown_generateRefreshToken fresh _ _) fun _ => preserves_pure _
  | changeCompare userId user currentPassword newPassword =>
      refine Preserves.ite (fun _ => preserves_throw _) fun _ => ?_
      exact Preserves.bind (readOnly_check _).preserves fun _ => preserves_pure _
  | changeHash userId user currentPassword newPassword =>
      exact Preserves.bind (unknown_writePassword _ _ _) fun _ => preserves_pure _

def AuthEvent.draw : AuthEvent → Draw
  | .arrives _ draw => draw
  | .resumes _ draw => draw

theorem advance_db (s : AuthState) (isSetup : Bool) (segment : Segment) :
    (s.advance isSetup segment).db = (segment s.db).2 := by
  unfold AuthState.advance
  split <;> simp_all

/-- No step of the server brings a token back. -/
theorem step_unknown {crypto : AuthCrypto} {s : AuthState} {event : AuthEvent}
    (unknown : Unknown tokenHash s.db)
    (fresh : crypto.hashToken event.draw.rawToken ≠ tokenHash) :
    Unknown tokenHash (s.step crypto event).db := by
  cases event with
  | arrives request draw =>
      simp only [AuthState.step, advance_db]
      exact stable_unknown.request crypto draw request s.db unknown
  | resumes index draw =>
      simp only [AuthState.step]
      split
      · exact unknown
      · rename_i job found
        rw [advance_db]
        exact unknown_resumed fresh job s.db unknown

/-- A refresh of a token without a row is refused and writes nothing. -/
theorem refresh_unknown {crypto : AuthCrypto} {token : String} {db : AuthDb}
    (unknown : Unknown (crypto.hashToken token) db) (active : Bool) (now : Nat) :
    refresh crypto token active now db =
      (.error (.unauthorized "Invalid or expired refresh token"), db) := by
  have nothing : (db.refreshTokens.values.find? fun row =>
      row.tokenHash = crypto.hashToken token) = none := by
    refine List.find?_eq_none.mpr fun row stored => ?_
    obtain ⟨id, found⟩ := OrderedMap.mem_values.mp stored
    simpa using unknown id row found
  simp only [refresh, validateRefreshToken, bind_apply, asks_apply, nothing]
  rfl

theorem serveRefresh_unknown {token : String} {db : AuthDb} {limited : Bool}
    (unknown : Unknown (site.crypto.hashToken token) db) (active : Bool) (now : Nat) :
    ∃ status, serveRefresh site limited now (some token) active db = ({ status }, db) ∧
      status ≠ 200 := by
  unfold serveRefresh serve
  simp only [beforeHandler_refresh]
  cases limited with
  | true => exact ⟨429, rfl, by decide⟩
  | false =>
      refine ⟨401, ?_, by decide⟩
      show respond (postRefresh site now (refreshRequest (some token) active)) db = _
      unfold respond postRefresh refreshRequest
      cases sent : truthy (some token) with
      | none => rfl
      | some value =>
          obtain ⟨same, -⟩ := truthy_eq_some.mp sent
          cases same
          simp only [bind_apply, refresh_unknown unknown]
          rfl

/-! ## Logout -/

theorem unknown_revoked (crypto : AuthCrypto) (token : String) (db : AuthDb) :
    Unknown (crypto.hashToken token) (revokeRefreshToken crypto token db).2 := by
  intro id row found
  have kept := (get_filter_some found).2
  simpa using kept

/-- What a logout that comes to its handler has revoked. -/
theorem serveLogout_verified {limited : Bool} {now : Nat} {accessToken : Option String}
    {token : String} (verified : limited = false ∧ Verifies site now accessToken)
    (nonempty : token ≠ "") (db : AuthDb) :
    serveLogout site limited now accessToken (some token) db =
      ({ status := 200, clearsCookie := true }, (revokeRefreshToken site.crypto token db).2) := by
  have held : truthy (some token) = some token := truthy_eq_some.mpr ⟨rfl, nonempty⟩
  unfold serveLogout serve
  simp only [(beforeHandler_logout _ _).mpr verified]
  unfold respond postLogout logoutRequest
  simp only [held]
  rfl

theorem respond_db (handler : AuthStatement HttpResponse) (db : AuthDb) :
    (respond handler db).2 = (handler db).2 := by
  unfold respond
  split <;> simp_all

theorem serveLogout_unknown {limited : Bool} {now : Nat} {accessToken refreshCookie : Option String}
    {db : AuthDb} (unknown : Unknown tokenHash db) :
    Unknown tokenHash (serveLogout site limited now accessToken refreshCookie db).2 := by
  have handler : Preserves (Unknown tokenHash)
      (postLogout site (logoutRequest accessToken refreshCookie)) := by
    refine Preserves.bind ?_ fun _ => preserves_pure _
    unfold revokeCookie
    split
    · exact unknown_deleteRefreshTokens _
    · exact preserves_pure _
  unfold serveLogout serve
  split
  · exact unknown
  · rw [respond_db]
    exact handler db unknown

/-- Without an access token that verifies, nothing is revoked. -/
theorem serve_turnedAway {limited : Bool} {now : Nat} {accessToken refreshCookie : Option String}
    (refused : ¬(limited = false ∧ Verifies site now accessToken)) (db : AuthDb) :
    ∃ status, serveLogout site limited now accessToken refreshCookie db = ({ status }, db) := by
  unfold serveLogout serve
  cases outcome : beforeHandler site limited now (logoutRequest accessToken refreshCookie) with
  | error status => exact ⟨status, rfl⟩
  | ok done => exact absurd ((beforeHandler_logout _ _).mp outcome) refused

end Tokens

end Aeolus.Auth
