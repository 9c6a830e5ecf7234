/-
# Aeolus.Mqtt.MqttProvisioning — the broker's security level, cut at the awaits

`mqtt-provisioning-service.ts`, with `mosquitto-config-writer.ts`, the password file of
`mqtt-credential-service.ts` and the hashes of `mosquitto-password-hash.ts`.  A change of
level writes the broker's files, awaits a reload and a reconnect, and only then writes
`system_settings`; what it holds meanwhile is a `Suspended`.

A reload never rejects and a disconnect always resolves; a file write may throw, a
connect may reject, and a probe of the broker may come back false.  All of that is in
the `Environment` of the event that runs the segment, with what `crypto.randomBytes`
gives.
-/
import Mathlib.Data.List.Sort
import Aeolus.Theory.OrderedMap
import Aeolus.Theory.Transaction
import Aeolus.Core.Text

namespace Aeolus.Mqtt

open Aeolus.Core Aeolus.Theory
open Handler

/-! ## Files -/

/-- `writeOpenConfig`, what it writes. -/
def openConfig : String := "\n".intercalate
  ["listener 1883",
   "allow_anonymous true",
   "persistence true",
   "persistence_location /mosquitto/data/",
   "log_dest stdout",
   ""]

/-- `writeAuthenticatedConfig`, what it writes. -/
def authenticatedConfig (passwordFilePath : String) : String := "\n".intercalate
  ["listener 1883",
   "allow_anonymous false",
   s!"password_file {passwordFilePath}",
   "persistence true",
   "persistence_location /mosquitto/data/",
   "log_dest stdout",
   ""]

/-- How the service is deployed.  `pbkdf2` gives the derived key, as the salt, in base 64. -/
structure Deployment where
  pbkdf2 : (password salt : String) → (rounds : Nat) → String
  rounds : Nat
  passwordFilePath : String
  verificationEnabled : Bool

def hashMosquittoPassword (d : Deployment) (salt password : String) : String :=
  "$".intercalate ["", "7", toString d.rounds, salt, d.pbkdf2 password salt d.rounds]

def buildPasswordLine (d : Deployment) (salt username password : String) : String :=
  username ++ ":" ++ hashMosquittoPassword d salt password

/-- The columns of `mqtt_credentials` that go to the password file. -/
structure MqttCredentialRow where
  username : String
  passwordHash : String
  deriving DecidableEq, Repr

structure Credentials where
  username : String
  password : String
  deriving DecidableEq, Repr

/-- The tables and files of the service, and the credentials of the next connect.
`filesWritten` counts the requests that have written the files. -/
structure ProvisioningStore where
  settings : OrderedMap String String
  mqttCredentials : List MqttCredentialRow
  config : Option String
  passwordFile : Option (List String)
  credentials : Option Credentials := none
  filesWritten : Nat := 0

inductive ProvisioningError where
  | badRequest (message : String)
  | conflict (message : String)
  | brokerNotConfirmed (message : String)
  /-- of the file system, or of the connection -/
  | failed (message : String)
  deriving DecidableEq, Repr

abbrev Provisioning := Handler ProvisioningError ProvisioningStore

/-- 24 random bytes in base64url. -/
abbrev RandomPassword := { text : String // text.length = 32 }

/-- What a segment meets outside the service. -/
structure Environment where
  passwordFileError : Option String := none
  configError : Option String := none
  /-- what the awaited connect rejected with -/
  connectError : Option String := none
  /-- what the awaited probe answered -/
  confirmed : Bool := true
  backendConnected : Bool := true
  sharedPassword : RandomPassword
  backendPassword : RandomPassword
  sharedSalt : String
  backendSalt : String

/-! ## Settings -/

def settingSecurityLevel : String := "mqtt_security_level"
def settingSharedUsername : String := "mqtt_shared_username"
def settingSharedPassword : String := "mqtt_shared_password"
def settingBackendPassword : String := "mqtt_backend_password"

def backendUsername : String := "aeolus-backend"

def readSetting (key : String) (store : ProvisioningStore) : Option String :=
  store.settings.get key

def writeSetting (key value : String) : Provisioning PUnit :=
  modify fun store => { store with settings := store.settings.set key value }

/-- The level, `open` when none is stored. -/
def securityLevel (store : ProvisioningStore) : String :=
  (readSetting settingSecurityLevel store).getD "open"

def ensureBackendPassword (env : Environment) : Provisioning String := do
  match ← asks (readSetting settingBackendPassword) with
  | some password =>
      if password ≠ "" then return password
      else
        writeSetting settingBackendPassword env.backendPassword
        return env.backendPassword
  | none =>
      writeSetting settingBackendPassword env.backendPassword
      return env.backendPassword

structure SecurityStatus where
  level : String
  sharedCredential : Option Credentials
  backendConnected : Bool

/-- A shared username and password, when both are stored and not empty. -/
def sharedCredential (store : ProvisioningStore) : Option Credentials :=
  match readSetting settingSharedUsername store, readSetting settingSharedPassword store with
  | some username, some password =>
      if username ≠ "" ∧ password ≠ "" then some ⟨username, password⟩ else none
  | _, _ => none

def getStatus (env : Environment) (store : ProvisioningStore) : SecurityStatus :=
  { level := securityLevel store
    sharedCredential :=
      if securityLevel store = "shared_password" then sharedCredential store else none
    backendConnected := env.backendConnected }

/-! ## Writing the files -/

def orThrow (error : Option String) (write : Provisioning PUnit) : Provisioning PUnit :=
  match error with
  | some message => throw (.failed message)
  | none => write

def writeOpenConfig (env : Environment) : Provisioning PUnit :=
  orThrow env.configError (modify fun store => { store with config := some openConfig })

def writeAuthenticatedConfig (env : Environment) (passwordFilePath : String) :
    Provisioning PUnit :=
  orThrow env.configError
    (modify fun store => { store with config := some (authenticatedConfig passwordFilePath) })

/-- The file as its lines. -/
def writePasswordFile (env : Environment) (lines : List String) : Provisioning PUnit :=
  orThrow env.passwordFileError (modify fun store => { store with passwordFile := some lines })

/-- Ordered by username; the backend's own credential is left out. -/
def getDeviceCredentialLines (store : ProvisioningStore) : List String :=
  let rows := store.mqttCredentials.filter fun row => row.username ≠ backendUsername
  let sorted := rows.mergeSort fun a b => decide (a.username ≤ b.username)
  sorted.map fun row => row.username ++ ":" ++ row.passwordHash

/-- A history of file writes: the number of this one. -/
def stampFiles : Provisioning Nat := do
  modify fun store => { store with filesWritten := store.filesWritten + 1 }
  asks ProvisioningStore.filesWritten

/-! ## Requests -/

/-- What a request will write to `system_settings`. -/
inductive Change where
  | openMode
  | sharedPasswordMode (sharedUsername sharedPassword backendPassword : String)
  | perDeviceMode (backendPassword : String)
  | regenerated (username password backendPassword : String)
  deriving DecidableEq, Repr

def Change.isRegenerated : Change → Bool
  | .regenerated _ _ _ => true
  | _ => false

/-- A request whose files are on disk and whose settings are not written yet. -/
structure Pending where
  change : Change
  /-- the number of its file write -/
  written : Nat
  deriving DecidableEq, Repr

/-- The await a request is at. -/
inductive Suspended where
  | reloading (pending : Pending)
  | disconnecting (pending : Pending)
  | connecting (pending : Pending)
  /-- waiting for the first of these probes -/
  | verifying (change : Change) (description : String) (checks : List String)
  deriving DecidableEq, Repr

inductive ProvisioningResult where
  | status (status : SecurityStatus)
  | credential (username password : String)

inductive Progress where
  | awaiting (suspended : Suspended)
  | returned (result : ProvisioningResult)

abbrev Segment := Provisioning Progress

def setOpenMode (env : Environment) : Segment := do
  writeOpenConfig env
  let written ← stampFiles
  return .awaiting (.reloading ⟨.openMode, written⟩)

def setSharedPasswordMode (d : Deployment) (env : Environment) : Segment := do
  let sharedUsername := "aeolus-shared"
  let sharedPassword : String := env.sharedPassword
  let backendPassword ← ensureBackendPassword env
  writePasswordFile env
    [buildPasswordLine d env.sharedSalt sharedUsername sharedPassword,
     buildPasswordLine d env.backendSalt backendUsername backendPassword]
  writeAuthenticatedConfig env d.passwordFilePath
  let written ← stampFiles
  return .awaiting
    (.reloading ⟨.sharedPasswordMode sharedUsername sharedPassword backendPassword, written⟩)

def setPerDeviceMode (d : Deployment) (env : Environment) : Segment := do
  let backendPassword ← ensureBackendPassword env
  let lines ← asks getDeviceCredentialLines
  writePasswordFile env
    (buildPasswordLine d env.backendSalt backendUsername backendPassword :: lines)
  writeAuthenticatedConfig env d.passwordFilePath
  let written ← stampFiles
  return .awaiting (.reloading ⟨.perDeviceMode backendPassword, written⟩)

def setSecurityLevel (d : Deployment) (env : Environment) (level : String) : Segment :=
  if ¬ ["open", "shared_password", "per_device"].contains level then
    throw (.badRequest (s!"Invalid security level: \"{level}\". " ++
      "Must be one of: open, shared_password, per_device"))
  else if level = "open" then setOpenMode env
  else if level = "shared_password" then setSharedPasswordMode d env
  else setPerDeviceMode d env

def regenerateSharedPassword (d : Deployment) (env : Environment) : Segment := do
  let level ← asks securityLevel
  if level ≠ "shared_password" then
    throw (.conflict "Operation requires shared_password security level")
  else
    let password : String := env.sharedPassword
    let stored ← asks (readSetting settingSharedUsername)
    let username := stored.getD "aeolus-shared"
    let backendPassword ← ensureBackendPassword env
    writePasswordFile env
      [buildPasswordLine d env.sharedSalt username password,
       buildPasswordLine d env.backendSalt backendUsername backendPassword]
    let written ← stampFiles
    return .awaiting (.reloading ⟨.regenerated username password backendPassword, written⟩)

/-! ## After the awaits -/

/-- The credentials of the connection after a change of level. -/
def Change.credentials : Change → Option Credentials
  | .openMode => none
  | .sharedPasswordMode _ _ backendPassword => some ⟨backendUsername, backendPassword⟩
  | .perDeviceMode backendPassword => some ⟨backendUsername, backendPassword⟩
  | .regenerated _ _ _ => none

def Change.persist : Change → Provisioning PUnit
  | .openMode => writeSetting settingSecurityLevel "open"
  | .sharedPasswordMode sharedUsername sharedPassword _ => do
      writeSetting settingSecurityLevel "shared_password"
      writeSetting settingSharedUsername sharedUsername
      writeSetting settingSharedPassword sharedPassword
  | .perDeviceMode _ => writeSetting settingSecurityLevel "per_device"
  | .regenerated _ password _ => writeSetting settingSharedPassword password

def Change.operation : Change → String
  | .openMode => "set-open"
  | .sharedPasswordMode _ _ _ => "set-shared-password"
  | .perDeviceMode _ => "set-per-device"
  | .regenerated _ _ _ => "regenerate-shared-password"

def Change.checks : Change → List String
  | .openMode => ["anonymous accepted"]
  | .sharedPasswordMode _ _ _ => ["anonymous rejected", "backend credential accepted"]
  | .perDeviceMode _ => ["anonymous rejected", "backend credential accepted"]
  | .regenerated _ _ _ => ["new shared credential accepted"]

def Change.result (env : Environment) : Change → Provisioning ProvisioningResult
  | .regenerated username password _ => return .credential username password
  | _ => do
      let status ← asks (getStatus env)
      return .status status

/-- `verify`, at the head of its loop. -/
def verify (env : Environment) (change : Change) : List String → Segment
  | description :: checks => return .awaiting (.verifying change description checks)
  | [] => do
      let result ← change.result env
      return .returned result

def notConfirmed (operation description : String) : String :=
  s!"Broker did not confirm '{operation}' ({description}) within the verification window. " ++
    "The change is saved and will apply on the broker's next reload or restart."

def persistAndVerify (d : Deployment) (env : Environment) (change : Change) : Segment := do
  change.persist
  verify env change (if d.verificationEnabled then change.checks else [])

/-- What a suspended request does when what it awaited has settled. -/
def Suspended.segment (d : Deployment) (env : Environment) : Suspended → Segment
  | .reloading pending =>
      if pending.change.isRegenerated then persistAndVerify d env pending.change
      else return .awaiting (.disconnecting pending)
  | .disconnecting pending => do
      modify fun store => { store with credentials := pending.change.credentials }
      return .awaiting (.connecting pending)
  | .connecting pending =>
      match env.connectError with
      | some message => throw (.failed message)
      | none => persistAndVerify d env pending.change
  | .verifying change description checks =>
      if env.confirmed then verify env change checks
      else throw (.brokerNotConfirmed (notConfirmed change.operation description))

/-! ## Runs -/

inductive ProvisioningRequest where
  | setSecurityLevel (level : String)
  | regenerateSharedPassword
  deriving DecidableEq, Repr

def ProvisioningRequest.segment (d : Deployment) (env : Environment) :
    ProvisioningRequest → Segment
  | .setSecurityLevel level => Mqtt.setSecurityLevel d env level
  | .regenerateSharedPassword => Mqtt.regenerateSharedPassword d env

structure ProvisioningState where
  store : ProvisioningStore
  suspended : List Suspended := []

/-- A new request, or a suspended one that goes on. -/
inductive ProvisioningEvent where
  | arrives (request : ProvisioningRequest) (env : Environment)
  | resumes (index : Nat) (env : Environment)

/-- The state after one segment. -/
def ProvisioningState.advance (s : ProvisioningState) (segment : Segment) : ProvisioningState :=
  match segment s.store with
  | (.ok (.awaiting next), store) => ⟨store, s.suspended ++ [next]⟩
  | (.ok (.returned _), store) => ⟨store, s.suspended⟩
  | (.error _, store) => ⟨store, s.suspended⟩

def ProvisioningState.step (d : Deployment) (s : ProvisioningState) :
    ProvisioningEvent → ProvisioningState
  | .arrives request env => s.advance (request.segment d env)
  | .resumes index env =>
      match s.suspended[index]? with
      | none => s
      | some job =>
          ProvisioningState.advance { s with suspended := s.suspended.eraseIdx index }
            (job.segment d env)

/-! ## Startup -/

/-- `initialize`, up to the reload that it awaits last. -/
def initializeService (d : Deployment) (env : Environment) : Provisioning PUnit := do
  let level ← asks securityLevel
  if level = "open" then
    writeOpenConfig env
    modify fun store => { store with credentials := none }
  else
    let backendPassword ← ensureBackendPassword env
    let backendLine := buildPasswordLine d env.backendSalt backendUsername backendPassword
    let others ←
      if level = "shared_password" then
        asks fun store =>
          match sharedCredential store with
          | some shared => [buildPasswordLine d env.sharedSalt shared.username shared.password]
          | none => []
      else asks getDeviceCredentialLines
    writeAuthenticatedConfig env d.passwordFilePath
    writePasswordFile env (backendLine :: others)
    modify fun store => { store with credentials := some ⟨backendUsername, backendPassword⟩ }

end Aeolus.Mqtt
