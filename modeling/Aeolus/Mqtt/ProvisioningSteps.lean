/-
# Aeolus.Mqtt.ProvisioningSteps — the provisioning operations, write by write

The four operations of `mqtt-provisioning-service.ts` with the credential functions of
`mqtt-credential-service.ts`, each as the list of what it does that may throw: file writes,
the reload, the reconnect, and writes to `system_settings` and `mqtt_credentials`.  Every
file is written beside its place and renamed into it, and every statement is one SQLite
statement, so a step that throws leaves no trace, and nothing undoes the steps before it.

`Operation.failedAt` is the store after such a call.
-/
import Aeolus.Db.Database
import Aeolus.Mqtt.ProvisioningAgreement

namespace Aeolus.Mqtt

open Aeolus.Core Aeolus.Db Aeolus.Theory

/-! ## Credentials -/

/-- `toLowerCase`, on the letters that have an ASCII letter for a lower case. -/
def lowerCase (c : Char) : List Char :=
  if c = Char.ofNat 0x212a then ['k'] else if c = 'İ' then ['i', '̇'] else [c.toLower]

/-- A run of hyphens becomes one. -/
def collapseHyphens : List Char → List Char
  | [] => []
  | c :: rest =>
      if c = '-' ∧ (collapseHyphens rest).head? = some '-' then collapseHyphens rest
      else c :: collapseHyphens rest

/-- A hyphen at either end goes. -/
def stripHyphens (text : List Char) : List Char :=
  let strip := fun text : List Char => if text.head? = some '-' then text.tail else text
  (strip (strip text).reverse).reverse

def sanitizeUsername (deviceName : String) : String :=
  let lowered := trim (String.ofList (deviceName.toList.flatMap lowerCase))
  let hyphened := lowered.toList.map fun c =>
    if ('a' ≤ c ∧ c ≤ 'z') ∨ ('0' ≤ c ∧ c ≤ '9') ∨ c = '-' then c else '-'
  "mqtt-" ++ String.ofList (stripHyphens (collapseHyphens hyphened))

example : sanitizeUsername " Living Room: Lamp! " = "mqtt-living-room-lamp" := by decide +kernel

/-- A salt in base 64. -/
abbrev Salt := { text : String // '$' ∉ text.toList }

/-- What `crypto.randomBytes` gives one operation. -/
structure Draws where
  sharedPassword : RandomPassword
  backendPassword : RandomPassword
  devicePassword : RandomPassword
  sharedSalt : Salt
  backendSalt : Salt
  deviceSalt : Salt

/-! ## Steps -/

/-- What a step writes or calls. -/
inductive Stage where
  | backendPassword
  | passwordFile
  | config
  | reload
  | reconnect
  | level
  | sharedUsername
  | sharedPassword
  | credential
  deriving DecidableEq

/-- One step, and what it leaves in the tables and files when it does not throw. -/
structure Step where
  stage : Stage
  write : ProvisioningStore → ProvisioningStore

def settingStep (stage : Stage) (key value : String) : Step where
  stage
  write store := { store with settings := store.settings.set key value }

def passwordFileStep (lines : List String) : Step where
  stage := .passwordFile
  write store := { store with passwordFile := some lines }

def configStep (text : String) : Step where
  stage := .config
  write store := { store with config := some text }

/-- The reload tells the broker and writes nothing. -/
def reloadStep : Step where
  stage := .reload
  write := id

def reconnectStep (credentials : Option Credentials) : Step where
  stage := .reconnect
  write store := { store with credentials }

def credentialsStep (change : List MqttCredentialRow → List MqttCredentialRow) : Step where
  stage := .credential
  write store := { store with mqttCredentials := change store.mqttCredentials }

def applySteps (steps : List Step) (store : ProvisioningStore) : ProvisioningStore :=
  steps.foldl (fun store step => step.write store) store

/-- The steps before the first one of this stage. -/
def stepsBefore (stage : Stage) (steps : List Step) : List Step :=
  steps.takeWhile fun step => step.stage ≠ stage

/-! ## Operations -/

/-- The backend's password, drawn when none is stored. -/
def backendPasswordOf (draws : Draws) (store : ProvisioningStore) : String :=
  (truthy (readSetting settingBackendPassword store)).getD draws.backendPassword

def ensureSteps (draws : Draws) (store : ProvisioningStore) : List Step :=
  if (truthy (readSetting settingBackendPassword store)).isSome then []
  else [settingStep .backendPassword settingBackendPassword draws.backendPassword]

def sharedUsername : String := "aeolus-shared"

def backendLine (d : Deployment) (draws : Draws) (password : String) : String :=
  buildPasswordLine d draws.backendSalt backendUsername password

def sharedLine (d : Deployment) (draws : Draws) (username : String) : String :=
  buildPasswordLine d draws.sharedSalt username draws.sharedPassword

def openSteps : List Step :=
  [configStep openConfig, reloadStep, reconnectStep none,
    settingStep .level settingSecurityLevel "open"]

def sharedSteps (d : Deployment) (draws : Draws) (store : ProvisioningStore) : List Step :=
  let backend := backendPasswordOf draws store
  ensureSteps draws store ++
    [passwordFileStep [sharedLine d draws sharedUsername, backendLine d draws backend],
      configStep (authenticatedConfig d.passwordFilePath), reloadStep,
      reconnectStep (some ⟨backendUsername, backend⟩),
      settingStep .level settingSecurityLevel "shared_password",
      settingStep .sharedUsername settingSharedUsername sharedUsername,
      settingStep .sharedPassword settingSharedPassword draws.sharedPassword]

def perDeviceSteps (d : Deployment) (draws : Draws) (store : ProvisioningStore) : List Step :=
  let backend := backendPasswordOf draws store
  ensureSteps draws store ++
    [passwordFileStep (backendLine d draws backend :: getDeviceCredentialLines store),
      configStep (authenticatedConfig d.passwordFilePath), reloadStep,
      reconnectStep (some ⟨backendUsername, backend⟩),
      settingStep .level settingSecurityLevel "per_device"]

def regenerateSteps (d : Deployment) (draws : Draws) (store : ProvisioningStore) : List Step :=
  let username := (readSetting settingSharedUsername store).getD sharedUsername
  ensureSteps draws store ++
    [passwordFileStep
        [sharedLine d draws username, backendLine d draws (backendPasswordOf draws store)],
      reloadStep, settingStep .sharedPassword settingSharedPassword draws.sharedPassword]

/-- `regeneratePasswordFile`, over the table as it will be. -/
def regeneratedLines (d : Deployment) (draws : Draws) (store : ProvisioningStore) :
    List String :=
  (match truthy (readSetting settingBackendPassword store) with
    | some password => [backendLine d draws password]
    | none => []) ++ getDeviceCredentialLines store

/-- A change of the table, then the password file from it.  Its own reload never throws. -/
def credentialSteps (d : Deployment) (draws : Draws) (store : ProvisioningStore)
    (change : List MqttCredentialRow → List MqttCredentialRow) : List Step :=
  [credentialsStep change,
    passwordFileStep (regeneratedLines d draws
      { store with mqttCredentials := change store.mqttCredentials })]

def newRow (d : Deployment) (draws : Draws) (username : String) : MqttCredentialRow where
  username
  passwordHash := hashMosquittoPassword d draws.deviceSalt draws.devicePassword

/-- An id names a row as its username does; both are unique in the table. -/
inductive Operation where
  | setSecurityLevel (level : String)
  | regenerateSharedPassword
  | createDeviceCredential (deviceName : String)
  | revokeDeviceCredential (username : String)
  deriving DecidableEq

def hasUsername (store : ProvisioningStore) (username : String) : Bool :=
  store.mqttCredentials.any (·.username = username)

/-- The steps that an operation takes, or the error it refuses with. -/
def Operation.steps (d : Deployment) (draws : Draws) (store : ProvisioningStore) :
    Operation → Except Failure (List Step)
  | .setSecurityLevel level =>
      if level = "open" then .ok openSteps
      else if level = "shared_password" then .ok (sharedSteps d draws store)
      else if level = "per_device" then .ok (perDeviceSteps d draws store)
      else .error (.BadRequestError (s!"Invalid security level: \"{level}\". " ++
        "Must be one of: open, shared_password, per_device"))
  | .regenerateSharedPassword =>
      if securityLevel store = "shared_password" then .ok (regenerateSteps d draws store)
      else .error (.ConflictError "Operation requires shared_password security level")
  | .createDeviceCredential deviceName =>
      if securityLevel store ≠ "per_device" then
        .error (.ConflictError "Operation requires per_device security level")
      else
        let username := sanitizeUsername deviceName
        if hasUsername store username then
          .error (.ConflictError s!"MQTT credential with username \"{username}\" already exists")
        else .ok (credentialSteps d draws store (· ++ [newRow d draws username]))
  | .revokeDeviceCredential username =>
      if securityLevel store ≠ "per_device" then
        .error (.ConflictError "Operation requires per_device security level")
      else if hasUsername store username then
        .ok (credentialSteps d draws store (·.filter (·.username ≠ username)) ++
          ensureSteps draws store)
      else .error (.NotFoundError "MQTT credential not found")

/-- The store when the step of this stage throws, if there is one. -/
def stopAt (stage : Stage) (steps : List Step) (store : ProvisioningStore) :
    Option ProvisioningStore :=
  if steps.any (·.stage = stage) then some (applySteps (stepsBefore stage steps) store) else none

/-- The store after the call whose step of this stage throws. -/
def Operation.failedAt (d : Deployment) (draws : Draws) (operation : Operation) (stage : Stage)
    (store : ProvisioningStore) : Option ProvisioningStore :=
  match operation.steps d draws store with
  | .ok steps => stopAt stage steps store
  | .error _ => none

/-! ## Calls that stop -/

theorem stopAt_nil (stage : Stage) (store : ProvisioningStore) : stopAt stage [] store = none :=
  rfl

/-- One step at a time: this is the one that throws, or it is taken. -/
theorem stopAt_cons (stage : Stage) (step : Step) (steps : List Step)
    (store : ProvisioningStore) : stopAt stage (step :: steps) store =
      if step.stage = stage then some store else stopAt stage steps (step.write store) := by
  unfold stopAt stepsBefore applySteps
  by_cases here : step.stage = stage <;> simp [here]

/-- What `ensureBackendPassword` leaves is where the later steps start. -/
theorem stopAt_ensure (draws : Draws) (store : ProvisioningStore) (stage : Stage)
    (later : List Step) : stopAt stage (ensureSteps draws store ++ later) store =
      if stage = .backendPassword ∧ ensureSteps draws store ≠ [] then some store
      else stopAt stage later (applySteps (ensureSteps draws store) store) := by
  unfold ensureSteps
  split
  · simp [applySteps]
  · rw [List.singleton_append, stopAt_cons]
    simp [settingStep, applySteps, eq_comm]

theorem ensureSteps_spec (draws : Draws) (store : ProvisioningStore) :
    Ensured store (applySteps (ensureSteps draws store) store)
      (backendPasswordOf draws store) := by
  unfold ensureSteps backendPasswordOf
  cases stored : truthy (readSetting settingBackendPassword store) with
  | some password =>
      obtain ⟨found, set⟩ := Option.filter_eq_some_iff.mp stored
      refine ⟨found, of_decide_eq_true set, fun _ _ => rfl, rfl, fun _ _ _ => rfl⟩
  | none =>
      refine ⟨?_, RandomPassword.ne_empty _, fun key other => ?_, rfl, fun password found set => ?_⟩
      · exact (readSetting_set ..).trans (if_pos rfl)
      · exact (readSetting_set ..).trans (if_neg other)
      · rw [truthy, found, Option.filter_some, if_pos (by simpa using set)] at stored
        cases stored

/-- Behind passwords there is always one for the backend. -/
theorem Agrees.ensureSteps {d : Deployment} {store : ProvisioningStore} (agrees : Agrees d store)
    (closed : securityLevel store ≠ "open") (draws : Draws) : ensureSteps draws store = [] := by
  obtain ⟨others, -, -, backend, salt, lines, stored, set, -⟩ := (if_neg closed).mp agrees
  refine if_pos ?_
  rw [stored, truthy, Option.filter_some, if_pos (by simpa using set)]
  rfl

/-! ## Stores that the service makes -/

/-- What every writer of the two tables keeps. -/
structure Provisioned (store : ProvisioningStore) : Prop where
  levels : securityLevel store ∈ ["open", "shared_password", "per_device"]
  shared : ∀ username, readSetting settingSharedUsername store = some username →
    username = sharedUsername
  named : ∀ row ∈ store.mqttCredentials,
    row.username = backendUsername ∨ row.username.toList.head? = some 'm'

/-- A step that keeps it. -/
def Step.Keeps (step : Step) : Prop :=
  ∀ store, Provisioned store → Provisioned (step.write store)

theorem settingStep_keeps {stage : Stage} {key value : String}
    (level : key = settingSecurityLevel → value ∈ ["open", "shared_password", "per_device"])
    (user : key = settingSharedUsername → value = sharedUsername) :
    (settingStep stage key value).Keeps := by
  intro store provisioned
  refine ⟨?_, fun username found => ?_, provisioned.named⟩
  · unfold settingStep securityLevel
    rw [readSetting_set]
    split
    · rename_i named
      exact level named.symm
    · exact provisioned.levels
  · unfold settingStep at found
    rw [readSetting_set] at found
    split at found
    · rename_i named
      cases found
      exact user named.symm
    · exact provisioned.shared _ found

theorem fileStep_keeps {step : Step}
    (same : ∀ store, (step.write store).settings = store.settings ∧
      (step.write store).mqttCredentials = store.mqttCredentials) : step.Keeps := by
  intro store provisioned
  obtain ⟨settings, rows⟩ := same store
  refine ⟨?_, fun username found => ?_, fun row member => provisioned.named row (rows ▸ member)⟩
  · unfold securityLevel readSetting
    rw [settings]
    exact provisioned.levels
  · unfold readSetting at found
    rw [settings] at found
    exact provisioned.shared username found

theorem ensureSteps_keep {draws : Draws} {store : ProvisioningStore} {step : Step}
    (member : step ∈ ensureSteps draws store) : step.Keeps := by
  unfold ensureSteps at member
  split at member
  · cases member
  · rw [List.mem_singleton.mp member]
    exact settingStep_keeps (fun named => absurd named (by decide))
      fun named => absurd named (by decide)

theorem credentialsStep_keeps {change : List MqttCredentialRow → List MqttCredentialRow}
    (named : ∀ rows, ∀ row ∈ change rows,
      row ∈ rows ∨ row.username.toList.head? = some 'm') : (credentialsStep change).Keeps := by
  intro store provisioned
  refine ⟨provisioned.levels, provisioned.shared, fun row member => ?_⟩
  rcases named _ row member with before | device
  · exact provisioned.named row before
  · exact Or.inr device

theorem sanitizeUsername_head (deviceName : String) :
    (sanitizeUsername deviceName).toList.head? = some 'm' := by
  simp [sanitizeUsername]

/-- Every step of every operation keeps it. -/
theorem steps_keep {d : Deployment} {draws : Draws} {operation : Operation}
    {store : ProvisioningStore} {steps : List Step}
    (taken : operation.steps d draws store = .ok steps) : ∀ step ∈ steps, step.Keeps := by
  have files {step : Step} (same : ∀ store, (step.write store).settings = store.settings ∧
      (step.write store).mqttCredentials = store.mqttCredentials) : step.Keeps := fileStep_keeps same
  have secret (value : String) :
      (settingStep .sharedPassword settingSharedPassword value).Keeps :=
    settingStep_keeps (fun named => absurd named (by decide)) fun named => absurd named (by decide)
  have level {value : String} (valid : value ∈ ["open", "shared_password", "per_device"]) :
      (settingStep .level settingSecurityLevel value).Keeps :=
    settingStep_keeps (fun _ => valid) fun named => absurd named (by decide)
  have user : (settingStep .sharedUsername settingSharedUsername sharedUsername).Keeps :=
    settingStep_keeps (fun named => absurd named (by decide)) fun _ => rfl
  have table {change : List MqttCredentialRow → List MqttCredentialRow}
      (named : ∀ rows, ∀ row ∈ change rows,
        row ∈ rows ∨ row.username.toList.head? = some 'm') :
      ∀ step ∈ credentialSteps d draws store change, step.Keeps := by
    simp only [credentialSteps, List.forall_mem_cons]
    exact ⟨credentialsStep_keeps named, files fun _ => ⟨rfl, rfl⟩, nofun⟩
  have ensured {later : List Step} (rest : ∀ step ∈ later, step.Keeps) :
      ∀ step ∈ ensureSteps draws store ++ later, step.Keeps := fun step member =>
    (List.mem_append.mp member).elim ensureSteps_keep (rest step)
  cases operation with
  | setSecurityLevel value =>
      simp only [Operation.steps] at taken
      split at taken
      · cases taken
        simp only [openSteps, List.forall_mem_cons]
        exact ⟨files fun _ => ⟨rfl, rfl⟩, files fun _ => ⟨rfl, rfl⟩, files fun _ => ⟨rfl, rfl⟩,
          level (by decide), nofun⟩
      split at taken
      · cases taken
        refine ensured ?_
        simp only [List.forall_mem_cons]
        exact ⟨files fun _ => ⟨rfl, rfl⟩, files fun _ => ⟨rfl, rfl⟩, files fun _ => ⟨rfl, rfl⟩,
          files fun _ => ⟨rfl, rfl⟩, level (by decide), user, secret _, nofun⟩
      split at taken
      · cases taken
        refine ensured ?_
        simp only [List.forall_mem_cons]
        exact ⟨files fun _ => ⟨rfl, rfl⟩, files fun _ => ⟨rfl, rfl⟩, files fun _ => ⟨rfl, rfl⟩,
          files fun _ => ⟨rfl, rfl⟩, level (by decide), nofun⟩
      · cases taken
  | regenerateSharedPassword =>
      simp only [Operation.steps] at taken
      split at taken
      · cases taken
        refine ensured ?_
        simp only [List.forall_mem_cons]
        exact ⟨files fun _ => ⟨rfl, rfl⟩, files fun _ => ⟨rfl, rfl⟩, secret _, nofun⟩
      · cases taken
  | createDeviceCredential deviceName =>
      simp only [Operation.steps] at taken
      split at taken
      · cases taken
      split at taken
      · cases taken
      · cases taken
        refine table fun rows row member => ?_
        rcases List.mem_append.mp member with before | new
        · exact Or.inl before
        · rw [List.mem_singleton.mp new]
          exact Or.inr (sanitizeUsername_head deviceName)
  | revokeDeviceCredential username =>
      simp only [Operation.steps] at taken
      split at taken
      · cases taken
      split at taken
      · cases taken
        intro step member
        rcases List.mem_append.mp member with inTable | ensure
        · exact table (fun rows row member => Or.inl (List.mem_of_mem_filter member)) step inTable
        · exact ensureSteps_keep ensure
      · cases taken

theorem stopAt_keeps {stage : Stage} {steps : List Step} {store after : ProvisioningStore}
    (keep : ∀ step ∈ steps, step.Keeps) (provisioned : Provisioned store)
    (stopped : stopAt stage steps store = some after) : Provisioned after := by
  induction steps generalizing store with
  | nil => cases stopped
  | cons step rest ih =>
      rw [stopAt_cons] at stopped
      split at stopped
      · cases stopped
        exact provisioned
      · exact ih (fun later member => keep later (List.mem_cons_of_mem _ member))
          (keep step List.mem_cons_self store provisioned) stopped

/-- A call that fails keeps it. -/
theorem failedAt_keeps {d : Deployment} {draws : Draws} {operation : Operation} {stage : Stage}
    {store after : ProvisioningStore} (provisioned : Provisioned store)
    (failed : operation.failedAt d draws stage store = some after) : Provisioned after := by
  unfold Operation.failedAt at failed
  split at failed
  · rename_i steps taken
    exact stopAt_keeps (steps_keep taken) provisioned failed
  · cases failed

end Aeolus.Mqtt
