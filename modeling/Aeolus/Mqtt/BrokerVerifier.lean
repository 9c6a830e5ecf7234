/-
# Aeolus.Mqtt.BrokerVerifier — asking the broker whether it has applied a change

`broker-verifier.ts`, and `verify` with the checks of each operation of
`mqtt-provisioning-service.ts`.  A reload is asynchronous: after an operation has written
its files the broker still goes by the old ones, until some moment of its own or for ever.
A check connects again and again, for as long as its budget lasts, until it has once seen
the outcome that it expects.

The broker is Mosquitto's: what it is relied on for is in `Broker.enforces`.
-/
import Aeolus.Mqtt.ProvisioningSteps

namespace Aeolus.Mqtt

open Aeolus.Core Aeolus.Db Aeolus.Theory

/-! ## The broker -/

/-- What a broker goes by: the files as it last read them. -/
inductive BrokerPolicy where
  | anonymous
  | passwords (lines : List String)
  deriving DecidableEq

/-- The policy of the files on disk. -/
def filesPolicy (store : ProvisioningStore) : BrokerPolicy :=
  if store.config = some openConfig then .anonymous
  else .passwords (store.passwordFile.getD [])

/-- Who gets in.  A username ends at the colon of its line. -/
def BrokerPolicy.Admits (d : Deployment) : BrokerPolicy → Option Credentials → Prop
  | .anonymous, _ => True
  | .passwords _, none => False
  | .passwords lines, some credentials => ':' ∉ credentials.username.toList ∧
      ∃ salt, buildPasswordLine d salt credentials.username credentials.password ∈ lines

/-- A broker over time. -/
structure Broker (d : Deployment) where
  admits : BrokerPolicy → Option Credentials → Bool
  enforces : ∀ policy credentials, admits policy credentials = true ↔ policy.Admits d credentials
  live : Nat → BrokerPolicy
  reachable : Nat → Bool

/-- The broker reads the new files at some moment, or never. -/
def Broker.Applies {d : Deployment} (broker : Broker d) (old new : BrokerPolicy) : Prop :=
  (∀ moment, broker.live moment = old) ∨
    ∃ reload, ∀ moment, broker.live moment = if moment < reload then old else new

/-- The two let the same clients in. -/
def BrokerPolicy.Equivalent (d : Deployment) (policy other : BrokerPolicy) : Prop :=
  ∀ credentials, policy.Admits d credentials ↔ other.Admits d credentials

/-! ## Probes -/

inductive ProbeOutcome where
  | accepted
  | rejected
  | unreachable
  deriving DecidableEq

section Verify

variable {d : Deployment} (broker : Broker d)

def probe (credentials : Option Credentials) (moment : Nat) : ProbeOutcome :=
  if ¬broker.reachable moment then .unreachable
  else if broker.admits (broker.live moment) credentials then .accepted
  else .rejected

/-- The attempts are those that fit in the budget. -/
def waitFor (credentials : Option Credentials) (expected : ProbeOutcome) : List Nat → Bool
  | [] => false
  | moment :: later =>
      if probe broker credentials moment = expected then true
      else waitFor credentials expected later

/-- `waitForAccepted` or `waitForRejected`. -/
structure Check where
  description : String
  credentials : Option Credentials
  accepted : Bool

def Check.expected (check : Check) : ProbeOutcome :=
  if check.accepted then .accepted else .rejected

/-- The first check that does not land is thrown. -/
def verifyChecks (operation : String) (attempts : Check → List Nat) :
    List Check → Except Failure Unit
  | [] => .ok ()
  | check :: checks =>
      if waitFor broker check.credentials check.expected (attempts check) then
        verifyChecks operation attempts checks
      else .error (.BrokerNotConfirmedError (notConfirmed operation check.description))

end Verify

/-! ## Operations -/

def backendCheck (description : String) (draws : Draws) (store : ProvisioningStore) : Check where
  description
  credentials := some ⟨backendUsername, backendPasswordOf draws store⟩
  accepted := true

/-- The name of the operation in the error. -/
def Operation.name : Operation → String
  | .setSecurityLevel level =>
      if level = "open" then "set-open"
      else if level = "shared_password" then "set-shared-password"
      else "set-per-device"
  | .regenerateSharedPassword => "regenerate-shared-password"
  | .createDeviceCredential _ => "create-device-credential"
  | .revokeDeviceCredential _ => "revoke-device-credential"

/-- What an operation asks of the broker.  A revoked credential is tried with the word
"revoked" for its password: the real one is not stored. -/
def Operation.checks (draws : Draws) (store : ProvisioningStore) : Operation → List Check
  | .setSecurityLevel level =>
      if level = "open" then [⟨"anonymous accepted", none, true⟩]
      else [⟨"anonymous rejected", none, false⟩,
        backendCheck "backend credential accepted" draws store]
  | .regenerateSharedPassword =>
      let username := (readSetting settingSharedUsername store).getD sharedUsername
      [⟨"new shared credential accepted", some ⟨username, draws.sharedPassword⟩, true⟩]
  | .createDeviceCredential deviceName =>
      [⟨"new device credential accepted",
        some ⟨sanitizeUsername deviceName, draws.devicePassword⟩, true⟩]
  | .revokeDeviceCredential username =>
      (if username ≠ "" then
        [⟨"revoked credential rejected", some ⟨username, "revoked"⟩, false⟩]
      else []) ++ [backendCheck "backend credential still accepted" draws store]

/-- A whole call with a verifier: every step is taken, and then every check. -/
def Operation.perform {d : Deployment} (broker : Broker d) (attempts : Check → List Nat)
    (draws : Draws) (operation : Operation) (store : ProvisioningStore) :
    Except Failure ProvisioningStore := do
  let steps ← operation.steps d draws store
  verifyChecks broker operation.name attempts (operation.checks draws store)
  return applySteps steps store

/-! ## What a confirmation says -/

/-- A broker with this policy answers as the check expects. -/
def Check.Passes (d : Deployment) (policy : BrokerPolicy) (check : Check) : Prop :=
  policy.Admits d check.credentials ↔ check.accepted = true

section Confirmed

variable {d : Deployment} {broker : Broker d}

/-- Only what the broker did at some attempt is confirmed. -/
theorem waitFor_iff {credentials : Option Credentials} {expected : ProbeOutcome}
    {attempts : List Nat} : waitFor broker credentials expected attempts = true ↔
      ∃ moment ∈ attempts, probe broker credentials moment = expected := by
  induction attempts with
  | nil => simp [waitFor]
  | cons moment later ih =>
      rw [waitFor]
      split <;> simp_all

theorem verifyChecks_ok {operation : String} {attempts : Check → List Nat} {checks : List Check} :
    verifyChecks broker operation attempts checks = .ok () ↔ ∀ check ∈ checks,
      ∃ moment ∈ attempts check, probe broker check.credentials moment = check.expected := by
  induction checks with
  | nil => simp [verifyChecks]
  | cons check checks ih =>
      rw [verifyChecks, List.forall_mem_cons, ← waitFor_iff, ← ih]
      split <;> simp_all

theorem perform_ok {attempts : Check → List Nat} {draws : Draws} {operation : Operation}
    {store after : ProvisioningStore} :
    operation.perform broker attempts draws store = .ok after ↔
      ∃ steps, operation.steps d draws store = .ok steps ∧
        verifyChecks broker operation.name attempts (operation.checks draws store) = .ok () ∧
        after = applySteps steps store := by
  unfold Operation.perform
  cases operation.steps d draws store with
  | error failure => exact ⟨nofun, nofun⟩
  | ok steps =>
      show (verifyChecks broker _ attempts _ >>= fun _ => pure (applySteps steps store)) = _ ↔ _
      generalize verifyChecks broker operation.name attempts (operation.checks draws store) =
        verified
      cases verified with
      | error failure =>
          refine ⟨nofun, ?_⟩
          rintro ⟨_, _, failed, _⟩
          cases failed
      | ok done =>
          refine ⟨fun returned => ?_, ?_⟩
          · cases returned
            exact ⟨steps, rfl, rfl, rfl⟩
          · rintro ⟨_, same, -, rfl⟩
            cases same
            rfl

/-- An answer as expected says what the policy at that moment is. -/
theorem probe_expected {check : Check} {moment : Nat}
    (answered : probe broker check.credentials moment = check.expected) :
    check.Passes d (broker.live moment) := by
  unfold probe Check.expected at answered
  unfold Check.Passes
  rw [← broker.enforces]
  cases accepted : check.accepted <;> rw [accepted] at answered
  · split at answered
    · cases answered
    split at answered
    · cases answered
    · rename_i refused
      simpa using refused
  · split at answered
    · cases answered
    split at answered
    · rename_i admitted
      simpa using admitted
    · cases answered

theorem probe_of_passes {check : Check} {moment : Nat} (reachable : broker.reachable moment = true)
    (passes : check.Passes d (broker.live moment)) :
    probe broker check.credentials moment = check.expected := by
  unfold Check.Passes at passes
  rw [← broker.enforces] at passes
  unfold probe Check.expected
  rw [if_neg (not_not.mpr reachable)]
  cases accepted : check.accepted <;> simp [accepted] at passes <;> simp [passes]

/-- By now it has read the new files, or up to now it has gone by the old ones. -/
theorem Broker.Applies.by_now {old new : BrokerPolicy} (applies : broker.Applies old new)
    (now : Nat) :
    broker.live now = new ∨ ∀ moment ≤ now, broker.live moment = old := by
  rcases applies with never | ⟨reload, live⟩
  · exact Or.inr fun moment _ => never moment
  · by_cases early : now < reload
    · exact Or.inr fun moment le => (live moment).trans (if_pos (lt_of_le_of_lt le early))
    · exact Or.inl ((live now).trans (if_neg early))

end Confirmed

/-! ## Soundness -/

/-- Whatever the broker does, a call that returns has its policy in force. -/
def Vouches (d : Deployment) (store : ProvisioningStore) (operation : Operation) : Prop :=
  ∀ (draws : Draws) (broker : Broker d) (attempts : Check → List Nat) (now : Nat)
    (after : ProvisioningStore), broker.Applies (filesPolicy store) (filesPolicy after) →
    (∀ check, ∀ moment ∈ attempts check, moment ≤ now) →
    operation.perform broker attempts draws store = .ok after →
    (broker.live now).Equivalent d (filesPolicy after)

/-- The checks tell the old policy from the new. -/
def Discriminates (d : Deployment) (store : ProvisioningStore) (operation : Operation) : Prop :=
  ∀ draws steps, operation.steps d draws store = .ok steps →
    (∀ check ∈ operation.checks draws store, check.Passes d (filesPolicy store)) →
    (filesPolicy store).Equivalent d (filesPolicy (applySteps steps store))

open Classical in
/-- A broker that never reads its files again. -/
noncomputable def idleBroker (d : Deployment) (policy : BrokerPolicy) : Broker d where
  admits policy credentials := decide (policy.Admits d credentials)
  enforces _ _ := decide_eq_true_iff
  live _ := policy
  reachable _ := true

/-- A broker that has not reloaded is the one that the checks have to find out. -/
theorem vouches_iff_discriminates {d : Deployment} {store : ProvisioningStore}
    {operation : Operation} :
    Vouches d store operation ↔ Discriminates d store operation := by
  refine ⟨fun vouches draws steps taken pass => ?_,
    fun discriminates draws broker attempts now after applies early returned => ?_⟩
  · refine vouches draws (idleBroker d (filesPolicy store)) (fun _ => [0]) 0 _
      (Or.inl fun _ => rfl) (fun _ moment member => by simpa using member) ?_
    refine perform_ok.mpr ⟨steps, taken, verifyChecks_ok.mpr fun check member => ?_, rfl⟩
    exact ⟨0, List.mem_singleton_self 0, probe_of_passes rfl (pass check member)⟩
  · obtain ⟨steps, taken, verified, rfl⟩ := perform_ok.mp returned
    rcases applies.by_now now with reloaded | old
    · rw [reloaded]
      exact fun _ => Iff.rfl
    · rw [old now le_rfl]
      refine discriminates draws steps taken fun check member => ?_
      obtain ⟨moment, attempted, answered⟩ := verifyChecks_ok.mp verified check member
      exact old moment (early check moment attempted) ▸ probe_expected answered

end Aeolus.Mqtt
