/-
# Aeolus.Frontend.AuthStore — the session a browser shows

`frontend/src/store/auth-store.ts`, with the refresh that `authFetch` asks for
(`frontend/src/lib/auth-fetch.ts`) and the retries of `App.tsx`.  Every action sends a
request and goes on when its answer arrives; requests are answered in any order.

`turn` and `loggedOut` are history that no code reads: how many logins, setups and demo
sessions have succeeded, and whether a logout has settled since the last of them.  A refresh
remembers the turn in which it began.
-/
import Aeolus.Auth.AuthStore

namespace Aeolus.Frontend

open Aeolus.Auth Aeolus.Theory

structure AuthUser where
  id : String
  username : String
  role : Role
  groupId : Option String
  deriving DecidableEq

/-- What the store takes from the build and the browser. -/
structure Client where
  /-- `PUBLIC_DEMO` -/
  publicDemo : Bool
  /-- `decodeTokenPayload`: the claims of a token, read without its key -/
  decodeTokenPayload : String → Option AuthUser

/-- What the timer calls. -/
inductive Renewal where
  | refresh
  | initDemoSession
  deriving DecidableEq

/-- A request that is not answered yet. -/
inductive AuthRequest where
  | login
  | setup
  | logout (accessToken : Option String)
  /-- `shared`: the refresh that `attemptRefresh` waits for -/
  | refresh (active shared : Bool) (begun : Nat)
  | demoSession (renewingExistingSession : Bool)
  /-- the refresh of `checkSetupNeeded`, which reports no activity -/
  | bootRefresh (begun : Nat)
  | bootStatus (begun : Nat)
  deriving DecidableEq

structure AnswerBody where
  accessToken : Option String := none
  needsSetup : Bool := false

inductive Answer where
  /-- the request failed, or its body cannot be read -/
  | lost
  | failed (status : Nat)
  | ok (body : AnswerBody)

/-- `401` or `403`: a definitive rejection. -/
def rejects (status : Nat) : Bool := status = 401 || status = 403

structure AuthStore where
  accessToken : Option String := none
  user : Option AuthUser := none
  isAuthenticated : Bool := false
  needsSetup : Bool := false
  loading : Bool := true
  connectionInterrupted : Bool := false
  refreshTimer : Option Renewal := none
  /-- when the page was loaded, or last used -/
  lastUserInteraction : Nat := 0
  /-- `isRefreshing` of `authFetch` -/
  isRefreshing : Bool := false
  requests : List AuthRequest := []
  turn : Nat := 0
  loggedOut : Bool := false

/-- `REFRESH_INTERVAL_MS` -/
def refreshIntervalMs : Nat := 13 * 60 * 1000

/-- How long a gesture counts as activity. -/
def activityWindowMs : Nat := 14 * 60000

namespace AuthStore

section Actions

variable (client : Client) (s : AuthStore)

/-- The session, as the rest of the page sees it. -/
def session : Option String × Option AuthUser × Bool := (s.accessToken, s.user, s.isAuthenticated)

def send (request : AuthRequest) : AuthStore := { s with requests := s.requests ++ [request] }

/-- The `active` flag of a refresh. -/
def active (now : Nat) (visible : Bool) : Bool :=
  visible && decide (now < s.lastUserInteraction + activityWindowMs)

/-- `logout`, up to its request. -/
def logout : AuthStore := { s with refreshTimer := none }.send (.logout s.accessToken)

/-- `refresh`, up to its request. -/
def refresh (now : Nat) (visible : Bool) : AuthStore :=
  s.send (.refresh (s.active now visible) false s.turn)

/-- `initDemoSession`, up to its request. -/
def initDemoSession : AuthStore :=
  s.send (.demoSession (s.isAuthenticated && (s.user.map AuthUser.username == some "demo")))

/-- The interval of `startRefreshTimer`. -/
def timerFires (now : Nat) (visible : Bool) : AuthStore :=
  match s.refreshTimer with
  | none => s
  | some .refresh => s.refresh now visible
  | some .initDemoSession => s.initDemoSession

/-- `attemptRefresh`, after a 401 to a request that carried a token: one refresh for all. -/
def attemptRefresh (now : Nat) (visible : Bool) : AuthStore :=
  if s.isRefreshing then s
  else { s with isRefreshing := true }.send (.refresh (s.active now visible) true s.turn)

/-- `checkSetupNeeded`, up to its request. -/
def checkSetupNeeded : AuthStore :=
  if client.publicDemo then s.initDemoSession else s.send (.bootRefresh s.turn)

/-- `recover` of `App.tsx`: on a timer, on focus and when the browser is online again. -/
def recover (now : Nat) (visible : Bool) : AuthStore :=
  if s.loading then s.checkSetupNeeded client
  else if s.connectionInterrupted then s.refresh now visible
  else s

/-- A login, a setup or a demo session has succeeded. -/
def signedIn : AuthStore := { s with turn := s.turn + 1, loggedOut := false }

/-- `login` and `setup` after their answer. -/
def loginSettles (answer : Answer) : AuthStore :=
  match answer with
  | .ok body =>
      { s with
        accessToken := body.accessToken
        user := body.accessToken.bind client.decodeTokenPayload
        isAuthenticated := true
        needsSetup := false
        connectionInterrupted := false
        refreshTimer := some .refresh }.signedIn
  | _ => s

/-- `logout` after its answer, whatever it is. -/
def logoutSettles : AuthStore :=
  { s with accessToken := none, user := none, isAuthenticated := false, loggedOut := true }

/-- `refresh` after its answer. -/
def refreshSettles (answer : Answer) : AuthStore :=
  match answer with
  | .lost => { s with connectionInterrupted := true }
  | .failed status =>
      if rejects status then
        { s with
          refreshTimer := none
          accessToken := none
          user := none
          isAuthenticated := false
          connectionInterrupted := false }
      else { s with connectionInterrupted := true }
  | .ok body =>
      match body.accessToken.bind client.decodeTokenPayload with
      | none => { s with connectionInterrupted := true }
      | some user =>
          { s with
            accessToken := body.accessToken
            user := some user
            isAuthenticated := true
            connectionInterrupted := false }

/-- `initDemoSession` after its answer. -/
def demoSessionSettles (renewingExistingSession : Bool) (answer : Answer) : AuthStore :=
  match answer with
  | .ok body =>
      { s with
        accessToken := body.accessToken
        user := body.accessToken.bind client.decodeTokenPayload
        isAuthenticated := true
        needsSetup := false
        loading := false
        refreshTimer := some .initDemoSession }.signedIn
  | _ =>
      if renewingExistingSession then s
      else { s with isAuthenticated := false, loading := false }

/-- `checkSetupNeeded` after the answer to its refresh. -/
def bootRefreshSettles (begun : Nat) (answer : Answer) : AuthStore :=
  match answer with
  | .lost => { s with connectionInterrupted := true, loading := true }
  | .failed status =>
      if rejects status then s.send (.bootStatus begun)
      else { s with connectionInterrupted := true, loading := true }
  | .ok body =>
      { s with
        accessToken := body.accessToken
        user := body.accessToken.bind client.decodeTokenPayload
        isAuthenticated := true
        needsSetup := false
        loading := false
        connectionInterrupted := false
        refreshTimer := some .refresh }

/-- `checkSetupNeeded` after the answer to its status request. -/
def bootStatusSettles (answer : Answer) : AuthStore :=
  match answer with
  | .ok body =>
      { s with
        needsSetup := body.needsSetup
        isAuthenticated := false
        loading := false
        connectionInterrupted := false }
  | _ => { s with connectionInterrupted := true, loading := true }

/-- The answer to the request at a position. -/
def answered (i : Nat) (answer : Answer) : AuthStore :=
  let rest := { s with requests := s.requests.eraseIdx i }
  match s.requests[i]? with
  | none => s
  | some .login => rest.loginSettles client answer
  | some .setup => rest.loginSettles client answer
  | some (.logout _) => rest.logoutSettles
  | some (.refresh _ shared _) =>
      { rest with isRefreshing := rest.isRefreshing && !shared }.refreshSettles client answer
  | some (.demoSession renewing) => rest.demoSessionSettles client renewing answer
  | some (.bootRefresh begun) => rest.bootRefreshSettles client begun answer
  | some (.bootStatus _) => rest.bootStatusSettles answer

end Actions

end AuthStore

inductive SessionEvent where
  | interaction (now : Nat)
  | login
  | setup
  | logout
  | timerFires (now : Nat) (visible : Bool)
  /-- a request that carried a token was answered 401 -/
  | unauthorized (now : Nat) (visible : Bool)
  | recover (now : Nat) (visible : Bool)
  | checkSetupNeeded
  | answered (i : Nat) (answer : Answer)

def AuthStore.step (client : Client) (s : AuthStore) : SessionEvent → AuthStore
  | .interaction now => { s with lastUserInteraction := now }
  | .login => s.send .login
  | .setup => s.send .setup
  | .logout => s.logout
  | .timerFires now visible => s.timerFires now visible
  | .unauthorized now visible => s.attemptRefresh now visible
  | .recover now visible => s.recover client now visible
  | .checkSetupNeeded => s.checkSetupNeeded client
  | .answered i answer => s.answered client i answer

end Aeolus.Frontend
