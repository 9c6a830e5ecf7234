/-
# Aeolus.Frontend.LogoutFinality — a refresh that outlives its session

A refresh writes the store whenever its answer arrives, and nothing ties it to the session
it was sent for.  `logout` stops the timer, so no later refresh is scheduled by it, but one
that is in flight, one that a failing request asks for, and one that a page offline at the
time of the logout sends when it is online again are still answered.

So the store stays signed out, and a login's session stays that login's, in runs in which
the decisive answers to refreshes are timely (`logout_final`), and not in every run
(`logout_undone`).
-/
import Aeolus.Frontend.AuthStore

namespace Aeolus.Frontend

open Aeolus.Auth Aeolus.Theory

/-- The turn in which a refresh began. -/
def AuthRequest.begun : AuthRequest → Option Nat
  | .refresh _ _ begun => some begun
  | .bootRefresh begun => some begun
  | .bootStatus begun => some begun
  | _ => none

namespace AuthStore

/-- Nobody is signed in. -/
def Unauthenticated (s : AuthStore) : Prop := s.accessToken = none ∧ s.isAuthenticated = false

/-- The request at a position is a refresh from before the last login. -/
def Outlived (s : AuthStore) (i : Nat) : Prop :=
  ∃ request begun, s.requests[i]? = some request ∧ request.begun = some begun ∧ begun < s.turn

/-- A step leaves the browser signed out after a logout, and an answer to an outlived refresh
does not touch the session. -/
structure Final (client : Client) (s : AuthStore) (event : SessionEvent) : Prop where
  signedOut : (s.step client event).loggedOut = true → (s.step client event).Unauthenticated
  untouched : ∀ i answer, event = .answered i answer → s.Outlived i →
    (s.step client event).session = s.session

/-- A token that can be read. -/
def Readable (client : Client) (body : AnswerBody) : Prop :=
  (body.accessToken.bind client.decodeTokenPayload).isSome = true

/-- Does the answer to a refresh grant one? -/
def Grants (client : Client) (request : AuthRequest) (answer : Answer) : Prop :=
  match request, answer with
  | .refresh _ _ _, .ok body => Readable client body
  | .bootRefresh _, .ok _ => True
  | _, _ => False

/-- Does the answer to a refresh decide about the session? -/
def Decides (client : Client) (request : AuthRequest) (answer : Answer) : Prop :=
  match request, answer with
  | .refresh _ _ _, .failed status => rejects status = true
  | .bootStatus _, .ok _ => True
  | _, _ => Grants client request answer

/-- A decisive answer arrives before another login succeeds, and one that grants the refresh
also while no logout has settled since the last login. -/
def Timely (client : Client) (s : AuthStore) : SessionEvent → Prop
  | .answered i answer => ∀ request, s.requests[i]? = some request →
      (Decides client request answer → ∀ begun, request.begun = some begun → s.turn ≤ begun) ∧
      (Grants client request answer → s.loggedOut = false)
  | _ => True

section Steps

variable {client : Client} {s : AuthStore}

/-- After a logout. -/
def SignedOut (s : AuthStore) : Prop := s.loggedOut = true → s.Unauthenticated

theorem SignedOut.refreshSettles (out : s.SignedOut) (answer : Answer)
    (granted : ∀ body, answer = .ok body → Readable client body → s.loggedOut = false) :
    (s.refreshSettles client answer).SignedOut := by
  unfold AuthStore.refreshSettles
  cases answer with
  | lost => exact out
  | failed status =>
      dsimp only
      split
      · exact fun _ => ⟨rfl, rfl⟩
      · exact out
  | ok body =>
      dsimp only
      split
      · exact out
      · rename_i user read
        intro after
        have before := granted body rfl (by rw [Readable, read]; rfl)
        rw [show s.loggedOut = true from after] at before
        cases before

theorem SignedOut.loginSettles (out : s.SignedOut) (answer : Answer) :
    (s.loginSettles client answer).SignedOut := by
  cases answer with
  | lost => exact out
  | failed status => exact out
  | ok body =>
      intro after
      cases after

theorem SignedOut.demoSessionSettles (out : s.SignedOut) (renewing : Bool) (answer : Answer) :
    (s.demoSessionSettles client renewing answer).SignedOut := by
  have failing : (if renewing then s else { s with isAuthenticated := false, loading := false }
      ).SignedOut := by
    split
    · exact out
    · exact fun after => ⟨(out after).1, rfl⟩
  cases answer with
  | lost => exact failing
  | failed status => exact failing
  | ok body =>
      intro after
      cases after

theorem SignedOut.bootRefreshSettles (out : s.SignedOut) (begun : Nat) (answer : Answer)
    (granted : ∀ body, answer = .ok body → s.loggedOut = false) :
    (s.bootRefreshSettles client begun answer).SignedOut := by
  cases answer with
  | lost => exact out
  | failed status =>
      unfold AuthStore.bootRefreshSettles
      dsimp only
      split
      · exact out
      · exact out
  | ok body =>
      intro after
      have before := granted body rfl
      rw [show s.loggedOut = true from after] at before
      cases before

theorem SignedOut.answered (out : s.SignedOut) (i : Nat) (answer : Answer)
    (timely : s.Timely client (.answered i answer)) : (s.answered client i answer).SignedOut := by
  have rest : SignedOut { s with requests := s.requests.eraseIdx i } := out
  unfold AuthStore.answered
  dsimp only
  cases found : s.requests[i]? with
  | none => exact out
  | some request =>
      obtain ⟨-, grants⟩ := timely request found
      cases request with
      | login => exact rest.loginSettles answer
      | setup => exact rest.loginSettles answer
      | logout accessToken => exact fun _ => ⟨rfl, rfl⟩
      | refresh active shared begun =>
          have rest : SignedOut { s with
              requests := s.requests.eraseIdx i
              isRefreshing := s.isRefreshing && !shared } := out
          refine rest.refreshSettles answer fun body given readable => grants ?_
          rw [given]
          exact readable
      | demoSession renewing => exact rest.demoSessionSettles renewing answer
      | bootRefresh begun =>
          refine rest.bootRefreshSettles begun answer fun body given => grants ?_
          rw [given]
          trivial
      | bootStatus begun =>
          cases answer with
          | ok body => exact fun after => ⟨(out after).1, rfl⟩
          | lost => exact out
          | failed status => exact out

theorem SignedOut.step (s : AuthStore) (event : SessionEvent) (out : s.SignedOut)
    (timely : s.Timely client event) : (s.step client event).SignedOut := by
  cases event with
  | answered i answer => exact out.answered i answer timely
  | timerFires now visible =>
      show (s.timerFires now visible).SignedOut
      unfold timerFires
      split <;> exact out
  | unauthorized now visible =>
      show (s.attemptRefresh now visible).SignedOut
      unfold attemptRefresh
      split <;> exact out
  | recover now visible =>
      show (s.recover client now visible).SignedOut
      unfold recover checkSetupNeeded
      split_ifs <;> exact out
  | checkSetupNeeded =>
      show (s.checkSetupNeeded client).SignedOut
      unfold checkSetupNeeded
      split <;> exact out
  | interaction now => exact out
  | login => exact out
  | setup => exact out
  | logout => exact out

/-- An answer to an outlived refresh that does not decide leaves the session alone. -/
theorem session_of_outlived {i : Nat} {answer : Answer} (timely : s.Timely client (.answered i answer))
    (outlived : s.Outlived i) : (s.answered client i answer).session = s.session := by
  obtain ⟨request, begun, found, began, before⟩ := outlived
  have idle : ¬ Decides client request answer := fun decides =>
    absurd ((timely request found).1 decides begun began) (Nat.not_le.mpr before)
  unfold AuthStore.answered
  rw [found]
  cases request with
  | login => cases began
  | setup => cases began
  | logout accessToken => cases began
  | demoSession renewing => cases began
  | refresh active shared begun =>
      cases answer with
      | lost => rfl
      | ok body =>
          have unread : body.accessToken.bind client.decodeTokenPayload = none := by
            simpa [Decides, Grants, Readable] using idle
          dsimp only [refreshSettles]
          rw [unread]
          rfl
      | failed status =>
          have kept : ¬ rejects status = true := idle
          dsimp only [refreshSettles]
          rw [if_neg kept]
          rfl
  | bootRefresh begun =>
      cases answer with
      | lost => rfl
      | ok body => exact absurd trivial idle
      | failed status =>
          dsimp only [bootRefreshSettles]
          split <;> rfl
  | bootStatus begun =>
      cases answer with
      | lost => rfl
      | ok body => exact absurd trivial idle
      | failed status => rfl

theorem final_of_timely (event : SessionEvent) (out : s.SignedOut) (timely : s.Timely client event) :
    Final client s event where
  signedOut := SignedOut.step s event out timely
  untouched i answer given outlived := by
    subst given
    exact session_of_outlived timely outlived

end Steps

end AuthStore

/-- **Logout is final**, and no refresh outlives its session to change the next one, in runs
in which the decisive answers to refreshes are timely. -/
theorem logout_final (client : Client) (events : List SessionEvent)
    (timely : Along (AuthStore.step client) (AuthStore.Timely client) {} events) :
    Along (AuthStore.step client) (AuthStore.Final client) {} events :=
  @Along.gives _ _ (AuthStore.step client) AuthStore.SignedOut _ _ AuthStore.SignedOut.step
    (fun _ event out => AuthStore.final_of_timely event out) _ (fun after => by cases after) _
    timely

section Pole

/-- Every token is the operator's. -/
def plainClient : Client := ⟨false, fun _ => some ⟨"u1", "operator", .admin, none⟩⟩

def granted (token : String) : Answer := .ok { accessToken := some token }

/-- A login, a refresh by its timer, and a logout. -/
def plainSession : List SessionEvent :=
  [.login, .answered 0 (granted "first"), .timerFires 780000 true, .answered 0 (granted "second"),
    .logout, .answered 0 (.ok {})]

theorem logout_final_plain_session :
    Along (AuthStore.step plainClient) (AuthStore.Final plainClient) {} plainSession := by
  refine logout_final plainClient plainSession ⟨trivial, ?_, trivial, ?_, trivial, ?_, trivial⟩
  · rintro request ⟨⟩
    exact ⟨fun decides => absurd decides id, fun grants => absurd grants id⟩
  · rintro request ⟨⟩
    exact ⟨fun _ begun began => by cases began; exact Nat.le_refl _, fun _ => rfl⟩
  · rintro request ⟨⟩
    exact ⟨fun decides => absurd decides id, fun grants => absurd grants id⟩

/-- The answer to the refresh comes after the logout has settled. -/
def lateRefresh : List SessionEvent :=
  [.login, .answered 0 (granted "first"), .timerFires 780000 true, .logout, .answered 1 (.ok {}),
    .answered 0 (granted "second")]

/-- A late answer signs the browser in again. -/
theorem logout_undone :
    ¬ ∀ (client : Client) (events : List SessionEvent),
      Along (AuthStore.step client) (AuthStore.Final client) {} events := by
  intro always
  obtain ⟨-, -, -, -, -, last, -⟩ := always plainClient lateRefresh
  have out := last.signedOut rfl
  cases out.1

end Pole

end Aeolus.Frontend
