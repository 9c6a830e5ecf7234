/-
# Aeolus.Frontend.LogoutRevocation — does a logout end the session at the server?

A browser with its page, its cookie and the server.  The store's `logout` sends the access
token that it holds and the browser adds the cookie; whether the server revokes the cookie's
token depends on the access token, which is an older or younger one.  When that has expired,
`authenticate` answers 401, the store signs out all the same, and the next page load signs
in again with the cookie (`logout_leaves_session`).

In every run in which the logouts that the server handles are sent with an access token that
verifies, the refresh tokens of the logouts that have settled are refused for good
(`logout_ends_session`).
-/
import Aeolus.Auth.SessionRoutes
import Aeolus.Frontend.AuthStore

namespace Aeolus.Frontend

open Aeolus.Core Aeolus.Auth Aeolus.Theory

/-! ## The browser and the server -/

/-- What the browser keeps of a request of the page: the cookie that it was sent with, and
what the server has answered. -/
structure Flight where
  cookie : Option String
  response : Option HttpResponse := none

/-- `wire` goes along `store.requests`.  `ended` is history: the refresh tokens in the cookies
of the logouts that have settled with an answer of the server. -/
structure Visit where
  store : AuthStore := {}
  wire : List Flight := []
  cookie : Option String := none
  server : AuthState
  ended : List String := []

inductive VisitEvent where
  /-- what happens in the page; the answer to a logout is the server's -/
  | page (event : SessionEvent)
  /-- the page is loaded again -/
  | reload
  /-- a response has set the cookie or cleared it -/
  | setCookie (cookie : Option String)
  /-- the server handles anything but a logout of this page -/
  | server (event : AuthEvent)
  /-- the server handles the logout at this position -/
  | handled (i now : Nat) (limited : Bool)

namespace Visit

variable (client : Client) (site : Site)

/-- Requests that are new go out with the cookie. -/
def sent (s : Visit) (store : AuthStore) (wire : List Flight) : Visit :=
  { s with
    store
    wire := wire ++ List.replicate (store.requests.length - wire.length) ⟨s.cookie, none⟩ }

/-- The answer to the logout of a flight. -/
def logoutAnswered (s : Visit) (i : Nat) (flight : Flight) (answer : Answer) : Visit :=
  let settled := s.sent (s.store.answered client i answer) (s.wire.eraseIdx i)
  match answer, flight.response with
  | .lost, _ => settled
  | _, none => s
  | _, some response =>
      { settled with
        cookie := if response.clearsCookie then none else s.cookie
        ended := s.ended ++ (truthy flight.cookie).toList }

def page (s : Visit) (event : SessionEvent) : Visit :=
  match event with
  | .answered i answer =>
      match s.store.requests[i]?, s.wire[i]? with
      | some (.logout _), some flight => s.logoutAnswered client i flight answer
      | _, _ => s.sent (s.store.answered client i answer) (s.wire.eraseIdx i)
  | event => s.sent (s.store.step client event) s.wire

def handled (s : Visit) (i now : Nat) (limited : Bool) : Visit :=
  match s.store.requests[i]?, s.wire[i]? with
  | some (.logout accessToken), some flight =>
      let (response, db) := serveLogout site limited now accessToken flight.cookie s.server.db
      { s with
        wire := s.wire.set i { flight with response := some response }
        server := { s.server with db } }
  | _, _ => s

def step (s : Visit) : VisitEvent → Visit
  | .page event => s.page client event
  | .reload => { s with store := {}, wire := [] }
  | .setCookie cookie => { s with cookie }
  | .server event => { s with server := s.server.step site.crypto event }
  | .handled i now limited => s.handled site i now limited

/-- The server's answer, as the store reads it. -/
def answerOf (response : HttpResponse) : Answer :=
  if response.status = 200 then .ok { accessToken := response.accessToken }
  else .failed response.status

/-- A page that is loaded with this refresh token in the cookie. -/
def reloaded (token : String) (now : Nat) (limited : Bool) (db : AuthDb) : AuthStore :=
  let response := (serveRefresh site limited now (some token) false db).1
  (({} : AuthStore).checkSetupNeeded client).answered client 0 (answerOf response)

/-! ## Statement and condition -/

/-- No refresh accepts the token, and a page load does not sign in with it. -/
structure SessionOver (token : String) (db : AuthDb) : Prop where
  refused : ∀ limited now active,
    (serveRefresh site limited now (some token) active db).1.status ≠ 200
  signedOut : client.publicDemo = false → ∀ now limited,
    (reloaded client site token now limited db).accessToken = none ∧
      (reloaded client site token now limited db).isAuthenticated = false

/-- The server has handled a logout with this token in its cookie. -/
def LoggedOut (s : Visit) (token : String) : Prop :=
  token ∈ s.ended ∨
    ∃ flight ∈ s.wire, flight.response.isSome = true ∧ truthy flight.cookie = some token

/-- A random refresh token is not one that a logout has ended. -/
def Fresh (s : Visit) (event : AuthEvent) : Prop := ∀ token, s.LoggedOut token →
  site.crypto.hashToken event.draw.rawToken ≠ site.crypto.hashToken token

/-- * A logout that the server handles is not turned away by the rate limiter, and its access
  token verifies then; or no row is left of the token in its cookie.
* Random refresh tokens are fresh. -/
def Revokes (s : Visit) : VisitEvent → Prop
  | .handled i now limited => ∀ accessToken flight token,
      s.store.requests[i]? = some (.logout accessToken) → s.wire[i]? = some flight →
      truthy flight.cookie = some token →
        limited = false ∧ Verifies site now accessToken ∨
          Unknown (site.crypto.hashToken token) s.server.db
  | .server event => s.Fresh site event
  | _ => True

/-! ## Steps -/

section Steps

variable {client : Client} {site : Site} {s : Visit}

/-- Every token that a logout has ended is without a row. -/
def Revoked (site : Site) (s : Visit) : Prop :=
  ∀ token, s.LoggedOut token → Unknown (site.crypto.hashToken token) s.server.db

/-- Requests that are new have no answer. -/
theorem loggedOut_sent {store : AuthStore} {wire : List Flight} {token : String}
    (kept : ∀ flight ∈ wire, flight ∈ s.wire) (out : (s.sent store wire).LoggedOut token) :
    s.LoggedOut token := by
  rcases out with ended | ⟨flight, member, answered, holds⟩
  · exact Or.inl ended
  · rcases List.mem_append.mp member with old | new
    · exact Or.inr ⟨flight, kept flight old, answered, holds⟩
    · rw [List.eq_of_mem_replicate new] at answered
      cases answered

theorem mem_of_eraseIdx {i : Nat} : ∀ flight ∈ s.wire.eraseIdx i, flight ∈ s.wire :=
  fun _ member => List.mem_of_mem_eraseIdx member

/-- A logout that settles was handled before. -/
theorem loggedOut_logoutAnswered {i : Nat} {flight : Flight} {answer : Answer} {token : String}
    (flown : s.wire[i]? = some flight)
    (out : (s.logoutAnswered client i flight answer).LoggedOut token) : s.LoggedOut token := by
  unfold logoutAnswered at out
  dsimp only at out
  split at out
  · exact loggedOut_sent mem_of_eraseIdx out
  · exact out
  · rename_i response handled
    rcases out with ended | other
    · rcases List.mem_append.mp ended with old | new
      · exact Or.inl old
      · refine Or.inr ⟨flight, List.mem_of_getElem? flown, by rw [handled]; rfl, ?_⟩
        exact Option.mem_toList.mp new
    · exact loggedOut_sent mem_of_eraseIdx (Or.inr other)

theorem loggedOut_page {event : SessionEvent} {token : String}
    (out : (s.page client event).LoggedOut token) : s.LoggedOut token := by
  unfold page at out
  split at out
  · split at out
    · rename_i flown
      exact loggedOut_logoutAnswered flown out
    · exact loggedOut_sent mem_of_eraseIdx out
  · exact loggedOut_sent (fun _ => id) out

theorem page_server (event : SessionEvent) : (s.page client event).server = s.server := by
  unfold page
  split
  · split
    · unfold logoutAnswered
      dsimp only
      split <;> rfl
    · rfl
  · rfl

/-- The logout that is handled, and those before it. -/
theorem Revoked.handled (revoked : Revoked site s) {i now : Nat} {limited : Bool}
    (revokes : s.Revokes site (.handled i now limited)) :
    Revoked site (s.handled site i now limited) := by
  unfold Visit.handled
  split
  · rename_i accessToken flight asked flown
    intro token out
    have kept (before : Unknown (site.crypto.hashToken token) s.server.db) :
        Unknown (site.crypto.hashToken token)
          (serveLogout site limited now accessToken flight.cookie s.server.db).2 :=
      serveLogout_unknown before
    rcases out with ended | ⟨other, member, answered, holds⟩
    · exact kept (revoked token (Or.inl ended))
    · rcases List.mem_or_eq_of_mem_set member with old | rfl
      · exact kept (revoked token (Or.inr ⟨other, old, answered, holds⟩))
      · rcases revokes accessToken flight token asked flown holds with verified | unknown
        · obtain ⟨cookie, nonempty⟩ := truthy_eq_some.mp holds
          show Unknown _ (serveLogout site limited now accessToken flight.cookie s.server.db).2
          rw [show flight.cookie = some token from cookie, serveLogout_verified verified nonempty]
          exact unknown_revoked _ _ _
        · exact kept unknown
  · exact revoked

theorem step_revoked (s : Visit) (event : VisitEvent) (revoked : Revoked site s)
    (revokes : s.Revokes site event) : Revoked site (s.step client site event) := by
  cases event with
  | page event =>
      intro token out
      show Unknown _ (s.page client event).server.db
      rw [page_server]
      exact revoked token (loggedOut_page out)
  | reload =>
      rintro token (ended | ⟨flight, member, -⟩)
      · exact revoked token (Or.inl ended)
      · cases member
  | setCookie cookie => exact revoked
  | server event =>
      intro token out
      exact step_unknown (revoked token out) (revokes token out)
  | handled i now limited => exact revoked.handled revokes

theorem Revoked.over {token : String} {db : AuthDb}
    (unknown : Unknown (site.crypto.hashToken token) db) : SessionOver client site token db where
  refused limited now active := by
    obtain ⟨status, answer, refused⟩ :=
      @serveRefresh_unknown site token db limited unknown active now
    rw [answer]
    exact refused
  signedOut normal now limited := by
    obtain ⟨status, answer, refused⟩ :=
      @serveRefresh_unknown site token db limited unknown false now
    have loaded : reloaded client site token now limited db =
        (({} : AuthStore).send (.bootRefresh 0)).answered client 0 (.failed status) := by
      have failing : answerOf { status } = .failed status := if_neg refused
      unfold reloaded AuthStore.checkSetupNeeded
      rw [answer, if_neg (by simp [normal])]
      show AuthStore.answered client _ 0 (answerOf { status }) = _
      rw [failing]
    rw [loaded]
    show (AuthStore.bootRefreshSettles client _ _ (.failed status)).accessToken = none ∧
      (AuthStore.bootRefreshSettles client _ _ (.failed status)).isAuthenticated = false
    unfold AuthStore.bootRefreshSettles
    dsimp only
    split <;> exact ⟨rfl, rfl⟩

/-- A logout whose access token does not verify leaves the server as it is: its refresh token
is as good as before. -/
theorem turnedAway_keeps_session {i now : Nat} {limited : Bool} {accessToken : Option String}
    {flight : Flight} (asked : s.store.requests[i]? = some (.logout accessToken))
    (flown : s.wire[i]? = some flight)
    (refused : ¬(limited = false ∧ Verifies site now accessToken)) :
    (s.handled site i now limited).server = s.server := by
  obtain ⟨status, answer⟩ :=
    @serve_turnedAway site limited now accessToken flight.cookie refused s.server.db
  unfold Visit.handled
  simp only [asked, flown]
  rw [answer]

/-- In every run, whatever happened before a logout and whatever happens after it: the refresh
tokens of the logouts that have settled are refused, if the server handled each of them with an
access token that verified. -/
theorem logout_ends_session (client : Client) (site : Site) {visit : Visit}
    (unanswered : ∀ flight ∈ visit.wire, flight.response = none) (none_yet : visit.ended = [])
    {events : List VisitEvent}
    (revokes : Along (Visit.step client site) (Revokes site) visit events) :
    ∀ past, past <+: events →
      ∀ token ∈ (run (Visit.step client site) visit past).ended,
        SessionOver client site token (run (Visit.step client site) visit past).server.db := by
  intro past initial token ended
  have start : Revoked site visit := by
    rintro token (before | ⟨flight, member, answered, -⟩)
    · rw [none_yet] at before
      cases before
    · rw [unanswered flight member] at answered
      cases answered
  exact Revoked.over
    (invariant_throughout step_revoked start revokes past initial token (Or.inl ended))

end Steps

end Visit

/-! Ann signs in, and out again when her access token is so many minutes old. -/

open Visit

/-- Every access token of these runs is signed at the login, for a quarter of an hour. -/
def annSite : Site where
  crypto := plainCrypto
  generateAccessToken _ _ := "jwt"
  verifyAccessToken token now :=
    if token = "jwt" ∧ now / 1000 < 15 * 60 then some (⟨"1", "ann", .user, none⟩, .normal) else none
  publicDemo := false

def annClient : Client where
  publicDemo := false
  decodeTokenPayload _ := some ⟨"1", "ann", .user, none⟩

def annVisit : Visit := { server := ⟨annDb, [], 0⟩ }

def signedInAndOut (minutes : Nat) (answer : Answer) : List VisitEvent :=
  [.page .login, .server annLogin, .server (.resumes 0 (annDraw "t")), .setCookie (some "t"),
    .page (.answered 0 (.ok { accessToken := some "jwt" })),
    .page .logout, .handled 0 (minutes * 60000) false, .page (.answered 0 answer)]

theorem signedIn_fresh {server : AuthState} {event : AuthEvent} :
    (Visit.mk (({} : AuthStore).send .login) [⟨none, none⟩] none server []).Fresh annSite
      event := by
  rintro token (ended | ⟨flight, member, answered, -⟩)
  · cases ended
  · rw [List.mem_singleton.mp member] at answered
    cases answered

theorem logout_ends_session_in_time :
    let final := run (Visit.step annClient annSite) annVisit (signedInAndOut 10 (.ok {}))
    final.ended = ["t"] ∧ ∀ token ∈ final.ended,
      SessionOver annClient annSite token final.server.db := by
  intro final
  have revokes : Along (Visit.step annClient annSite) (Revokes annSite) annVisit
      (signedInAndOut 10 (.ok {})) := by
    refine ⟨trivial, ?_⟩
    refine ⟨signedIn_fresh, ?_⟩
    refine ⟨signedIn_fresh, ?_⟩
    refine ⟨trivial, ?_⟩
    refine ⟨trivial, ?_⟩
    refine ⟨trivial, ?_⟩
    refine ⟨?_, ?_⟩
    · intro accessToken flight token asked flown holds
      cases asked
      refine Or.inl ⟨rfl, "jwt", ⟨"1", "ann", .user, none⟩, .normal, ?_⟩
      exact ⟨by decide, by decide, fun _ => rfl⟩
    · exact ⟨trivial, trivial⟩
  exact ⟨by decide, logout_ends_session annClient annSite (by simp [annVisit]) rfl revokes _
    (List.prefix_refl _)⟩

/-- Twenty minutes after the login the logout is turned away, and the cookie still signs in. -/
theorem logout_leaves_session :
    ¬∀ (client : Client) (site : Site) (visit : Visit) (events : List VisitEvent),
      (∀ flight ∈ visit.wire, flight.response = none) → visit.ended = [] →
      Along (Visit.step client site)
        (fun s e => ∀ event, e = .server event → s.Fresh site event) visit events →
      ∀ token ∈ (run (Visit.step client site) visit events).ended,
        SessionOver client site token (run (Visit.step client site) visit events).server.db := by
  intro always
  have fresh : Along (Visit.step annClient annSite)
      (fun s e => ∀ event, e = .server event → s.Fresh annSite event) annVisit
      (signedInAndOut 20 (.failed 401)) := by
    have other : ∀ {s : Visit} {e : VisitEvent}, (∀ event, e ≠ .server event) →
        ∀ event, e = .server event → s.Fresh annSite event :=
      fun apart event same => absurd same (apart event)
    refine ⟨other (by simp), ?_⟩
    refine ⟨fun _ _ => signedIn_fresh, ?_⟩
    refine ⟨fun _ _ => signedIn_fresh, ?_⟩
    refine ⟨other (by simp), ?_⟩
    refine ⟨other (by simp), ?_⟩
    refine ⟨other (by simp), ?_⟩
    refine ⟨other (by simp), ?_⟩
    exact ⟨other (by simp), trivial⟩
  have session := always annClient annSite annVisit (signedInAndOut 20 (.failed 401))
    (by simp [annVisit]) rfl fresh "t" (by decide)
  exact session.refused false (20 * 60000) false (by decide)

end Aeolus.Frontend
