/-
# Aeolus.Mqtt.PasswordFile — whom the broker's password file lets in

`mqtt-provisioning-service.ts` and the routes POST and DELETE `/api/auth/mqtt-credentials`
(`auth.routes.ts`) write one password file, a call at a time and with no write that fails.
The service composes it by the level that it has read or is about to store.  The functions
behind the routes, `createCredential` and `deleteCredential` of
`mqtt-credential-service.ts`, do not look at the level: what they leave in the file is the
backend and the devices, in shared mode too (`shared_client_locked_out`).

`Composes` is the state of the settings in which a call's file is the one of their level.
In every run of such calls the file lets in whom the stored level names and nobody else
(`file_implements_level`); a route that is used outside of it spoils the file at once
(`route_spoils_shared`).
-/
import Aeolus.Mqtt.BrokerConfirmation

namespace Aeolus.Mqtt

open Aeolus.Core Aeolus.Db Aeolus.Theory
open Handler

/-! ## Calls -/

/-- `createCredential` -/
def createCredential (d : Deployment) (draws : Draws) (store : ProvisioningStore)
    (deviceName : String) : Except Failure (List Step) :=
  let username := sanitizeUsername deviceName
  if hasUsername store username then
    .error (.ConflictError s!"MQTT credential with username \"{username}\" already exists")
  else .ok (credentialSteps d draws store (· ++ [newRow d draws username]))

/-- `deleteCredential` -/
def deleteCredential (d : Deployment) (draws : Draws) (store : ProvisioningStore)
    (username : String) : Except Failure (List Step) :=
  if hasUsername store username then
    .ok (credentialSteps d draws store (·.filter (·.username ≠ username)))
  else .error (.NotFoundError "MQTT credential not found")

/-- What the provisioning service adds is the look at the level. -/
theorem createDeviceCredential_steps {store : ProvisioningStore}
    (level : securityLevel store = "per_device") (d : Deployment) (draws : Draws)
    (deviceName : String) :
    (Operation.createDeviceCredential deviceName).steps d draws store =
      createCredential d draws store deviceName :=
  if_neg (not_not.mpr level)

theorem revokeDeviceCredential_steps {store : ProvisioningStore}
    (level : securityLevel store = "per_device") (d : Deployment) (draws : Draws)
    (username : String) :
    (Operation.revokeDeviceCredential username).steps d draws store =
      (deleteCredential d draws store username).map (· ++ ensureSteps draws store) := by
  unfold deleteCredential
  simp only [Operation.steps]
  rw [if_neg (not_not.mpr level)]
  split <;> rfl

inductive ServiceCall where
  | initializeService
  | operation (operation : Operation)
  /-- POST `/api/auth/mqtt-credentials` -/
  | postMqttCredentials (deviceName : String)
  /-- DELETE `/api/auth/mqtt-credentials/:id` -/
  | deleteMqttCredentials (username : String)
  deriving DecidableEq

/-- Nothing fails. -/
def Draws.environment (draws : Draws) : Environment where
  sharedPassword := draws.sharedPassword
  backendPassword := draws.backendPassword
  sharedSalt := draws.sharedSalt
  backendSalt := draws.backendSalt

/-- A call that is refused writes nothing. -/
def ProvisioningStore.after (store : ProvisioningStore) :
    Except Failure (List Step) → ProvisioningStore
  | .ok steps => applySteps steps store
  | .error _ => store

def ServiceCall.perform (d : Deployment) (draws : Draws) (store : ProvisioningStore) :
    ServiceCall → ProvisioningStore
  | .initializeService => (Mqtt.initializeService d draws.environment store).2
  | .operation asked => store.after (asked.steps d draws store)
  | .postMqttCredentials deviceName =>
      if deviceName = "" then store.after (.error .zod)
      else store.after (createCredential d draws store deviceName)
  | .deleteMqttCredentials username => store.after (deleteCredential d draws store username)

/-- One call after another. -/
def serve (d : Deployment) (store : ProvisioningStore) (call : ServiceCall × Draws) :
    ProvisioningStore :=
  call.1.perform d call.2 store

/-! ## The level and the file -/

def atPasswords (store : ProvisioningStore) : Prop :=
  securityLevel store = "shared_password" ∨ securityLevel store = "per_device"

/-- The password file on disk lets them in. -/
def FileAccepts (d : Deployment) (store : ProvisioningStore) (credentials : Credentials) : Prop :=
  (BrokerPolicy.passwords (store.passwordFile.getD [])).Admits d (some credentials)

/-- A device's credential, by the hash in its row. -/
def DeviceOf (d : Deployment) (store : ProvisioningStore) (credentials : Credentials) : Prop :=
  ∃ row ∈ store.mqttCredentials, row.username ≠ backendUsername ∧
    credentials.username = row.username ∧
    ∃ salt, row.passwordHash = hashMosquittoPassword d salt credentials.password

/-- The stored level names them: the backend, and the shared client or the devices. -/
def LevelNames (d : Deployment) (store : ProvisioningStore) (credentials : Credentials) : Prop :=
  (credentials.username = backendUsername ∧
    readSetting settingBackendPassword store = some credentials.password) ∨
  if securityLevel store = "shared_password" then sharedCredential store = some credentials
  else DeviceOf d store credentials

/-- At a level with passwords, the file lets in whom the level names. -/
def Implements (d : Deployment) (store : ProvisioningStore) : Prop :=
  atPasswords store → ∀ credentials, FileAccepts d store credentials ↔
    LevelNames d store credentials

/-- No client is stored under a name that a line of the file cannot hold. -/
structure PlainNames (store : ProvisioningStore) : Prop where
  shared : ∀ username, readSetting settingSharedUsername store = some username →
    ':' ∉ username.toList
  rows : ∀ row ∈ store.mqttCredentials, ':' ∉ row.username.toList

/-- No two passwords have one key, and a key is in base 64. -/
structure Deployment.CollisionFree (d : Deployment) : Prop where
  plain : ∀ password salt, '$' ∉ (d.pbkdf2 password salt d.rounds).toList
  injective : ∀ {password other salt : String}, d.SameKey salt password other → password = other

/-- In shared mode, when the call
* creates a credential by the route: the username is taken, so it is refused;
* deletes one by the route: it is refused, or leaves no device in the table, and no shared
  credential is stored either;
* regenerates the shared password: there is a shared username. -/
def Composes (store : ProvisioningStore) (call : ServiceCall) : Prop :=
  securityLevel store = "shared_password" →
    match call with
    | .postMqttCredentials deviceName =>
        deviceName = "" ∨ hasUsername store (sanitizeUsername deviceName) = true
    | .deleteMqttCredentials username =>
        hasUsername store username = false ∨ sharedCredential store = none ∧
          ∀ row ∈ store.mqttCredentials, row.username = username ∨ row.username = backendUsername
    | .operation .regenerateSharedPassword =>
        (truthy (readSetting settingSharedUsername store)).isSome = true
    | _ => True

/-! ## Lines -/

section Lines

variable {d : Deployment} {store : ProvisioningStore}

/-- Of any two random passwords one has another key than a given password. -/
theorem Deployment.CollisionFree.salted (collisionFree : d.CollisionFree) : d.SaltedHashes where
  plain := collisionFree.plain
  separates password salt := by
    let drawn (c : Char) : RandomPassword := ⟨String.ofList (List.replicate 32 c), by simp⟩
    by_cases first : d.pbkdf2 (drawn 'a') salt d.rounds = d.pbkdf2 password salt d.rounds
    · refine ⟨drawn 'b', fun second => ?_⟩
      have same : (drawn 'b' : String) = drawn 'a' :=
        collisionFree.injective (second.trans first.symm)
      simp [drawn] at same
    · exact ⟨drawn 'a', first⟩
  salted same salt' := by rw [collisionFree.injective same]; rfl

theorem lineOf_password (collisionFree : d.CollisionFree) (salt : String)
    {username password : String} (named : ':' ∉ username.toList) {credentials : Credentials}
    (entered : ':' ∉ credentials.username.toList) :
    LineOf d credentials (buildPasswordLine d salt username password) ↔
      credentials = ⟨username, password⟩ := by
  rw [lineOf_built collisionFree.salted salt named entered]
  constructor
  · rintro ⟨user, key⟩
    rw [← user, ← collisionFree.injective key]
  · rintro rfl
    exact ⟨rfl, rfl⟩

/-- A row whose username has no colon, whatever its hash is. -/
theorem lineOf_row {row : MqttCredentialRow} (named : ':' ∉ row.username.toList)
    {credentials : Credentials} (entered : ':' ∉ credentials.username.toList) :
    LineOf d credentials (row.username ++ ":" ++ row.passwordHash) ↔
      credentials.username = row.username ∧
        ∃ salt, row.passwordHash = hashMosquittoPassword d salt credentials.password := by
  constructor
  · rintro ⟨salt, same⟩
    have letters := congrArg String.toList same
    simp only [buildPasswordLine, String.toList_append, List.append_assoc] at letters
    obtain ⟨user, hash⟩ := append_cons_cancel entered named letters
    exact ⟨String.toList_injective user, salt, (String.toList_injective hash).symm⟩
  · rintro ⟨user, salt, hash⟩
    exact ⟨salt, by rw [hash, ← user]; rfl⟩

theorem deviceLines_deviceOf (plain : PlainNames store) {credentials : Credentials}
    (entered : ':' ∉ credentials.username.toList) :
    (∃ line ∈ getDeviceCredentialLines store, LineOf d credentials line) ↔
      DeviceOf d store credentials := by
  constructor
  · rintro ⟨line, listed, lineOf⟩
    obtain ⟨row, member, device, rfl⟩ := mem_deviceLines.mp listed
    obtain ⟨user, hash⟩ := (lineOf_row (plain.rows row member) entered).mp lineOf
    exact ⟨row, member, device, user, hash⟩
  · rintro ⟨row, member, device, user, hash⟩
    exact ⟨_, mem_deviceLines.mpr ⟨row, member, device, rfl⟩,
      (lineOf_row (plain.rows row member) entered).mpr ⟨user, hash⟩⟩

theorem DeviceOf.plain (named : PlainNames store) {credentials : Credentials}
    (device : DeviceOf d store credentials) : ':' ∉ credentials.username.toList := by
  obtain ⟨row, member, -, user, -⟩ := device
  exact user ▸ named.rows row member

theorem sharedCredential_plain (named : PlainNames store) {credentials : Credentials}
    (shared : sharedCredential store = some credentials) :
    ':' ∉ credentials.username.toList :=
  named.shared _ (sharedCredential_some shared).1

/-- Whom the level names can be held by a line. -/
theorem LevelNames.plain (named : PlainNames store) {credentials : Credentials}
    (names : LevelNames d store credentials) : ':' ∉ credentials.username.toList := by
  rcases names with ⟨user, -⟩ | other
  · rw [user]
    exact backendUsername_plain
  · split at other
    · exact sharedCredential_plain named other
    · exact other.plain named

/-- The lines beside the backend's that the level asks for. -/
def Composed (d : Deployment) (store : ProvisioningStore) (others : List String) : Prop :=
  if securityLevel store = "shared_password" then
    match sharedCredential store with
    | some shared => ∃ salt, others = [buildPasswordLine d salt shared.username shared.password]
    | none => others = []
  else others = getDeviceCredentialLines store

theorem Composed.lineOf (collisionFree : d.CollisionFree) (plain : PlainNames store)
    {others : List String} (composed : Composed d store others) {credentials : Credentials}
    (entered : ':' ∉ credentials.username.toList) :
    (∃ line ∈ others, LineOf d credentials line) ↔
      if securityLevel store = "shared_password" then sharedCredential store = some credentials
      else DeviceOf d store credentials := by
  unfold Composed at composed
  split
  · rename_i shared
    rw [if_pos shared] at composed
    cases found : sharedCredential store with
    | none =>
        rw [found] at composed
        simp [show others = [] from composed]
    | some credential =>
        rw [found] at composed
        obtain ⟨salt, rfl⟩ := composed
        have named := sharedCredential_plain plain found
        simp [lineOf_password collisionFree salt named entered, eq_comm]
  · rename_i devices
    rw [if_neg devices] at composed
    rw [composed]
    exact deviceLines_deviceOf plain entered

end Lines

/-! ## One call -/

/-- What every call leaves, from one to the next. -/
structure Served (d : Deployment) (store : ProvisioningStore) : Prop where
  plain : PlainNames store
  backend : atPasswords store →
    ∃ password, truthy (readSetting settingBackendPassword store) = some password
  implements : Implements d store

section Call

variable {d : Deployment} {store : ProvisioningStore}

theorem Served.of_open (plain : PlainNames store) (opened : ¬ atPasswords store) :
    Served d store :=
  ⟨plain, fun closed => absurd closed opened, fun closed => absurd closed opened⟩

/-- A file of the backend's line and those that the level asks for. -/
theorem Served.of_file (collisionFree : d.CollisionFree) (plain : PlainNames store)
    {backend salt : String} {lines others : List String}
    (stored : truthy (readSetting settingBackendPassword store) = some backend)
    (file : store.passwordFile = some lines)
    (perm : lines.Perm (buildPasswordLine d salt backendUsername backend :: others))
    (composed : atPasswords store → Composed d store others) : Served d store := by
  refine ⟨plain, fun _ => ⟨backend, stored⟩, fun closed credentials => ?_⟩
  have found := (truthy_eq_some.mp stored).1
  unfold FileAccepts
  rw [file, Option.getD_some, admits_passwords]
  simp only [perm.mem_iff, List.exists_mem_cons_iff]
  refine ⟨?_, fun names => ⟨names.plain plain, ?_⟩⟩
  · rintro ⟨entered, own | other⟩
    · have same := (lineOf_password collisionFree salt backendUsername_plain entered).mp own
      exact Or.inl (same ▸ ⟨rfl, found⟩)
    · exact Or.inr (((composed closed).lineOf collisionFree plain entered).mp other)
  · have entered := names.plain plain
    rw [lineOf_password collisionFree salt backendUsername_plain entered,
      (composed closed).lineOf collisionFree plain entered]
    refine Or.imp_left ?_ names
    rintro ⟨user, password⟩
    rw [found, Option.some.injEq] at password
    rw [password, ← user]

theorem PlainNames.ensured (plain : PlainNames store) {after : ProvisioningStore}
    {backend : String} (ensured : Ensured store after backend) : PlainNames after := by
  constructor
  · intro username found
    rw [ensured.others _ (by decide)] at found
    exact plain.shared username found
  · rw [ensured.rest]
    exact plain.rows

theorem Ensured.truthy {after : ProvisioningStore} {backend : String}
    (ensured : Ensured store after backend) :
    truthy (readSetting settingBackendPassword after) = some backend :=
  truthy_eq_some.mpr ⟨ensured.stored, ensured.nonempty⟩

/-- Startup behind passwords: the backend's line, and those that the level asks for. -/
theorem initializeService_composed (d : Deployment) (draws : Draws)
    (closed : securityLevel store ≠ "open") : ∃ backend middle others,
      Ensured store middle backend ∧ Composed d middle others ∧
      (initializeService d draws.environment store).2 =
        { middle with
          config := some (authenticatedConfig d.passwordFilePath)
          passwordFile := some
            (buildPasswordLine d draws.backendSalt backendUsername backend :: others)
          credentials := some ⟨backendUsername, backend⟩ } := by
  obtain ⟨backend, middle, drew, ensured⟩ :=
    ensureBackendPassword_spec draws.environment store
  have configured : draws.environment.configError = none := rfl
  have filed : draws.environment.passwordFileError = none := rfl
  have same := ensured.level
  by_cases shared : securityLevel store = "shared_password"
  · have apart : ¬ "shared_password" = "open" := by decide
    have level : securityLevel middle = "shared_password" := same.trans shared
    cases found : sharedCredential middle with
    | none =>
        refine ⟨backend, middle, [], ensured, by simp [Composed, level, found], ?_⟩
        simp only [initializeService, bind_apply, asks_apply, shared, apart, if_true, if_false,
          writeAuthenticatedConfig, writePasswordFile, configured, filed, orThrow, modify_apply,
          drew, found]
        rfl
    | some credential =>
        let line := buildPasswordLine d draws.sharedSalt credential.username credential.password
        have composed : Composed d middle [line] := by
          unfold Composed
          rw [if_pos level, found]
          exact ⟨draws.sharedSalt, rfl⟩
        refine ⟨backend, middle, [line], ensured, composed, ?_⟩
        simp only [initializeService, bind_apply, asks_apply, shared, apart, if_true, if_false,
          writeAuthenticatedConfig, writePasswordFile, configured, filed, orThrow, modify_apply,
          drew, found]
        rfl
  · refine ⟨backend, middle, _, ensured, (if_neg fun level => ?_).mpr rfl, ?_⟩
    · exact shared (same.symm.trans level)
    · simp only [initializeService, bind_apply, asks_apply, closed, shared, if_false,
        writeAuthenticatedConfig, writePasswordFile, configured, filed, orThrow, modify_apply,
        drew]
      rfl

theorem initializeService_open (d : Deployment) (draws : Draws)
    (opened : securityLevel store = "open") :
    (initializeService d draws.environment store).2 =
      { store with config := some openConfig, credentials := none } := by
  have configured : draws.environment.configError = none := rfl
  simp only [initializeService, bind_apply, asks_apply, opened, if_true, writeOpenConfig,
    configured, orThrow, modify_apply]

/-- Startup composes the file from what is stored, whatever that is. -/
theorem initializeService_served (collisionFree : d.CollisionFree) (plain : PlainNames store)
    (draws : Draws) : Served d (ServiceCall.initializeService.perform d draws store) := by
  unfold ServiceCall.perform
  by_cases opened : securityLevel store = "open"
  · rw [initializeService_open d draws opened]
    refine .of_open ⟨plain.shared, plain.rows⟩ ?_
    rintro (shared | devices)
    · exact absurd (opened.symm.trans shared) (by decide)
    · exact absurd (opened.symm.trans devices) (by decide)
  · obtain ⟨backend, middle, others, ensured, composed, result⟩ :=
      initializeService_composed d draws opened
    have names := plain.ensured ensured
    rw [result]
    exact .of_file collisionFree ⟨names.shared, names.rows⟩ ensured.truthy rfl
      (List.Perm.refl _) fun _ => composed

theorem openSteps_served (plain : PlainNames store) : Served d (applySteps openSteps store) := by
  have level : securityLevel (applySteps openSteps store) = "open" := by
    show ((store.settings.set settingSecurityLevel "open").get _).getD "open" = _
    rw [OrderedMap.get_set_self]
    rfl
  refine .of_open ⟨fun username found => plain.shared username ?_, plain.rows⟩ ?_
  · have other : readSetting settingSharedUsername (applySteps openSteps store) =
        readSetting settingSharedUsername store :=
      (readSetting_set ..).trans (if_neg (by decide))
    exact other ▸ found
  · rintro (shared | devices)
    · exact absurd (level.symm.trans shared) (by decide)
    · exact absurd (level.symm.trans devices) (by decide)

theorem applySteps_append (first second : List Step) (store : ProvisioningStore) :
    applySteps (first ++ second) store = applySteps second (applySteps first store) :=
  List.foldl_append

theorem sharedSteps_served (collisionFree : d.CollisionFree) (plain : PlainNames store)
    (draws : Draws) : Served d (applySteps (sharedSteps d draws store) store) := by
  have ensured := ensureSteps_spec draws store
  unfold sharedSteps
  rw [applySteps_append]
  generalize applySteps (ensureSteps draws store) store = middle at ensured
  generalize written : applySteps _ middle = after
  have setting (key : String) : readSetting key after =
      if key = settingSharedPassword then some (draws.sharedPassword : String)
      else if key = settingSharedUsername then some sharedUsername
      else if key = settingSecurityLevel then some "shared_password"
      else readSetting key middle := by
    rw [← written]
    show (((middle.settings.set _ _).set _ _).set _ _).get key = _
    rw [OrderedMap.get_set, OrderedMap.get_set, OrderedMap.get_set]
    rfl
  have level : readSetting settingSecurityLevel after = some "shared_password" := by
    rw [setting, if_neg (by decide), if_neg (by decide), if_pos rfl]
  have user : readSetting settingSharedUsername after = some sharedUsername := by
    rw [setting, if_neg (by decide), if_pos rfl]
  have secret : readSetting settingSharedPassword after =
      some (draws.sharedPassword : String) := by rw [setting, if_pos rfl]
  have backend : readSetting settingBackendPassword after =
      some (backendPasswordOf draws store) := by
    rw [setting, if_neg (by decide), if_neg (by decide), if_neg (by decide), ensured.stored]
  have shared := sharedCredential_eq user secret (by decide) (RandomPassword.ne_empty _)
  have rows : after.mqttCredentials = middle.mqttCredentials := by rw [← written]; rfl
  have names : PlainNames after := by
    refine ⟨fun username found => ?_, rows ▸ (plain.ensured ensured).rows⟩
    cases user.symm.trans found
    exact sharedUsername_plain
  have file : after.passwordFile = some [sharedLine d draws sharedUsername,
      backendLine d draws (backendPasswordOf draws store)] := by rw [← written]; rfl
  refine .of_file collisionFree names (truthy_eq_some.mpr ⟨backend, ensured.nonempty⟩) file
    (List.Perm.swap _ _ _) fun _ => ?_
  unfold Composed securityLevel
  rw [level, shared]
  exact ⟨_, rfl⟩

theorem perDeviceSteps_served (collisionFree : d.CollisionFree) (plain : PlainNames store)
    (draws : Draws) : Served d (applySteps (perDeviceSteps d draws store) store) := by
  have ensured := ensureSteps_spec draws store
  unfold perDeviceSteps
  rw [applySteps_append]
  generalize applySteps (ensureSteps draws store) store = middle at ensured
  generalize written : applySteps _ middle = after
  have setting (key : String) : readSetting key after =
      if key = settingSecurityLevel then some "per_device" else readSetting key middle := by
    rw [← written]
    exact readSetting_set ..
  have level : readSetting settingSecurityLevel after = some "per_device" := by
    rw [setting, if_pos rfl]
  have backend : readSetting settingBackendPassword after =
      some (backendPasswordOf draws store) := by
    rw [setting, if_neg (by decide), ensured.stored]
  have rows : after.mqttCredentials = store.mqttCredentials := by
    rw [← written]
    show middle.mqttCredentials = _
    rw [ensured.rest]
  have names : PlainNames after := by
    refine ⟨fun username found => ?_, rows ▸ plain.rows⟩
    rw [setting, if_neg (by decide)] at found
    exact (plain.ensured ensured).shared username found
  have file : after.passwordFile = some (backendLine d draws (backendPasswordOf draws store) ::
      getDeviceCredentialLines store) := by rw [← written]; rfl
  refine .of_file collisionFree names (truthy_eq_some.mpr ⟨backend, ensured.nonempty⟩) file
    (List.Perm.refl _) fun _ => ?_
  unfold Composed securityLevel getDeviceCredentialLines
  rw [level, rows]
  rfl

theorem regenerateSteps_served (collisionFree : d.CollisionFree) (plain : PlainNames store)
    (shared : securityLevel store = "shared_password")
    (named : (truthy (readSetting settingSharedUsername store)).isSome = true) (draws : Draws) :
    Served d (applySteps (regenerateSteps d draws store) store) := by
  have ensured := ensureSteps_spec draws store
  obtain ⟨username, found⟩ := Option.isSome_iff_exists.mp named
  obtain ⟨stored, nonempty⟩ := truthy_eq_some.mp found
  unfold regenerateSteps
  rw [applySteps_append, stored]
  generalize applySteps (ensureSteps draws store) store = middle at ensured
  generalize written : applySteps _ middle = after
  have setting (key : String) : readSetting key after =
      if key = settingSharedPassword then some (draws.sharedPassword : String)
      else readSetting key middle := by
    rw [← written]
    exact readSetting_set ..
  have level : securityLevel after = "shared_password" := by
    rw [← shared, ← ensured.level]
    unfold securityLevel
    rw [setting, if_neg (by decide)]
  have user : readSetting settingSharedUsername after = some username := by
    rw [setting, if_neg (by decide), ensured.others _ (by decide), stored]
  have secret : readSetting settingSharedPassword after =
      some (draws.sharedPassword : String) := by rw [setting, if_pos rfl]
  have backend : readSetting settingBackendPassword after =
      some (backendPasswordOf draws store) := by
    rw [setting, if_neg (by decide), ensured.stored]
  have credential := sharedCredential_eq user secret nonempty (RandomPassword.ne_empty _)
  have rows : after.mqttCredentials = middle.mqttCredentials := by rw [← written]; rfl
  have names : PlainNames after := by
    refine ⟨fun username' found => ?_, rows ▸ (plain.ensured ensured).rows⟩
    cases user.symm.trans found
    exact plain.shared _ stored
  have file : after.passwordFile = some [sharedLine d draws username,
      backendLine d draws (backendPasswordOf draws store)] := by rw [← written]; rfl
  refine .of_file collisionFree names (truthy_eq_some.mpr ⟨backend, ensured.nonempty⟩) file
    (List.Perm.swap _ _ _) fun _ => ?_
  unfold Composed
  rw [if_pos level, credential]
  exact ⟨_, rfl⟩

/-- The backend and the devices: the level's file, unless the level is the shared one and
there is anyone to tell the difference. -/
theorem credentialSteps_served (collisionFree : d.CollisionFree) (served : Served d store)
    {change : List MqttCredentialRow → List MqttCredentialRow}
    (named : ∀ row ∈ change store.mqttCredentials, ':' ∉ row.username.toList)
    (alone : securityLevel store = "shared_password" → sharedCredential store = none ∧
      ∀ row ∈ change store.mqttCredentials, row.username = backendUsername) (draws : Draws) :
    Served d (applySteps (credentialSteps d draws store change) store) := by
  generalize written : applySteps (credentialSteps d draws store change) store = after
  have settings (key : String) : readSetting key after = readSetting key store := by
    rw [← written]; rfl
  have level : securityLevel after = securityLevel store :=
    congrArg (Option.getD · "open") (settings _)
  have rows : after.mqttCredentials = change store.mqttCredentials := by rw [← written]; rfl
  have names : PlainNames after := by
    refine ⟨fun username found => ?_, rows ▸ named⟩
    exact served.plain.shared username ((settings _).symm.trans found)
  by_cases closed : atPasswords store
  · obtain ⟨backend, stored⟩ := served.backend closed
    have file : after.passwordFile =
        some (backendLine d draws backend :: getDeviceCredentialLines after) := by
      have there : truthy (readSetting settingBackendPassword
          { store with mqttCredentials := change store.mqttCredentials }) = some backend := stored
      rw [← written]
      show some (regeneratedLines d draws _) = _
      unfold regeneratedLines
      rw [there]
      rfl
    refine .of_file collisionFree names ((congrArg truthy (settings _)).trans stored) file
      (List.Perm.refl _) fun _ => ?_
    unfold Composed
    rw [level]
    split
    · rename_i shared
      obtain ⟨unstored, own⟩ := alone shared
      have missing : sharedCredential after = none := by
        unfold sharedCredential
        rw [settings, settings]
        exact unstored
      rw [missing]
      refine List.eq_nil_iff_forall_not_mem.mpr fun line listed => ?_
      obtain ⟨row, member, device, -⟩ := mem_deviceLines.mp listed
      exact device (own row (rows ▸ member))
    · rfl
  · refine .of_open names fun later => closed ?_
    unfold atPasswords at later
    rwa [level] at later

theorem createCredential_served (collisionFree : d.CollisionFree) (served : Served d store)
    (draws : Draws) {deviceName : String}
    (composes : securityLevel store = "shared_password" →
      hasUsername store (sanitizeUsername deviceName) = true) :
    Served d (store.after (createCredential d draws store deviceName)) := by
  unfold createCredential
  dsimp only
  split
  · exact served
  · rename_i fresh
    refine credentialSteps_served collisionFree served (fun row member => ?_)
      (fun shared => absurd (composes shared) fresh) draws
    rcases List.mem_append.mp member with before | new
    · exact served.plain.rows row before
    · rw [List.mem_singleton.mp new]
      exact sanitizeUsername_plain deviceName

theorem deleteCredential_served (collisionFree : d.CollisionFree) (served : Served d store)
    (draws : Draws) {username : String}
    (composes : securityLevel store = "shared_password" →
      hasUsername store username = false ∨ sharedCredential store = none ∧
        ∀ row ∈ store.mqttCredentials, row.username = username ∨ row.username = backendUsername) :
    Served d (store.after (deleteCredential d draws store username)) := by
  unfold deleteCredential
  split
  · rename_i there
    refine credentialSteps_served collisionFree served
      (fun row member => served.plain.rows row (List.mem_of_mem_filter member))
      (fun shared => ?_) draws
    rcases composes shared with refused | ⟨unstored, last⟩
    · rw [refused] at there
      cases there
    · refine ⟨unstored, fun row member => ?_⟩
      obtain ⟨before, kept⟩ := List.mem_filter.mp member
      exact (last row before).resolve_left (of_decide_eq_true kept)
  · exact served

theorem operation_served (collisionFree : d.CollisionFree) (served : Served d store)
    (draws : Draws) {operation : Operation} (composes : Composes store (.operation operation)) :
    Served d (store.after (operation.steps d draws store)) := by
  cases operation with
  | setSecurityLevel level =>
      simp only [Operation.steps]
      split
      · exact openSteps_served served.plain
      split
      · exact sharedSteps_served collisionFree served.plain draws
      split
      · exact perDeviceSteps_served collisionFree served.plain draws
      · exact served
  | regenerateSharedPassword =>
      simp only [Operation.steps]
      split
      · rename_i shared
        exact regenerateSteps_served collisionFree served.plain shared (composes shared) draws
      · exact served
  | createDeviceCredential deviceName =>
      by_cases level : securityLevel store = "per_device"
      · rw [createDeviceCredential_steps level]
        refine createCredential_served collisionFree served draws fun shared => ?_
        exact absurd (level.symm.trans shared) (by decide)
      · simp only [Operation.steps]
        rw [if_pos level]
        exact served
  | revokeDeviceCredential username =>
      by_cases level : securityLevel store = "per_device"
      · rw [revokeDeviceCredential_steps level]
        have deleted : Served d (store.after (deleteCredential d draws store username)) :=
          deleteCredential_served collisionFree served draws fun shared =>
            absurd (level.symm.trans shared) (by decide)
        obtain ⟨password, stored⟩ := served.backend (Or.inr level)
        have ensured : ensureSteps draws store = [] := if_pos (by rw [stored]; rfl)
        rw [ensured]
        cases taken : deleteCredential d draws store username with
        | error failure => exact served
        | ok steps =>
            rw [taken] at deleted
            simpa [ProvisioningStore.after, Except.map] using deleted
      · simp only [Operation.steps]
        rw [if_pos level]
        exact served

/-- One call, whatever it is. -/
theorem serve_served (collisionFree : d.CollisionFree) (store : ProvisioningStore)
    (call : ServiceCall × Draws) (served : Served d store) (composes : Composes store call.1) :
    Served d (serve d store call) := by
  obtain ⟨call, draws⟩ := call
  cases call with
  | initializeService => exact initializeService_served collisionFree served.plain draws
  | operation operation => exact operation_served collisionFree served draws composes
  | postMqttCredentials deviceName =>
      simp only [serve, ServiceCall.perform]
      split
      · exact served
      · rename_i entered
        exact createCredential_served collisionFree served draws fun shared =>
          (composes shared).resolve_left entered
  | deleteMqttCredentials username =>
      exact deleteCredential_served collisionFree served draws composes

/-- In every run of the calls, from startup on whatever is stored: as long as no route is used
in shared mode and no shared password regenerated for a client that is not stored, the file
lets in whom the level names after each of them. -/
theorem file_implements_level (collisionFree : d.CollisionFree) {store : ProvisioningStore}
    (plain : PlainNames store) (draws : Draws) {calls : List (ServiceCall × Draws)}
    (composes : Along (serve d) (fun store call => Composes store call.1)
      (serve d store (.initializeService, draws)) calls) :
    ∀ past, past <+: calls →
      Implements d (run (serve d) (serve d store (.initializeService, draws)) past) := by
  intro past initial
  have started : Served d (serve d store (.initializeService, draws)) :=
    initializeService_served collisionFree plain draws
  exact (invariant_throughout (serve_served collisionFree) started composes past
    initial).implements

/-! ## Calls that spoil the file -/

/-- A change of the table in shared mode: the shared client has no line any more. -/
theorem route_locks_out_shared {change : List MqttCredentialRow → List MqttCredentialRow}
    {draws : Draws} {shared : Credentials} (named : shared.username ≠ backendUsername)
    (foreign : ∀ row ∈ change store.mqttCredentials,
      ':' ∉ row.username.toList ∧ row.username ≠ shared.username) :
    ¬FileAccepts d (applySteps (credentialSteps d draws store change) store) shared := by
  rintro ⟨entered, salt, listed⟩
  have lines : buildPasswordLine d salt shared.username shared.password ∈
      regeneratedLines d draws { store with mqttCredentials := change store.mqttCredentials } :=
    listed
  unfold regeneratedLines at lines
  rcases List.mem_append.mp lines with own | device
  · split at own
    · have same := congrArg String.toList (List.mem_singleton.mp own)
      simp only [backendLine, buildPasswordLine, String.toList_append, List.append_assoc] at same
      obtain ⟨user, -⟩ := append_cons_cancel entered backendUsername_plain same
      exact named (String.toList_injective user)
    · cases own
  · obtain ⟨row, member, -, same⟩ := mem_deviceLines.mp device
    obtain ⟨plain, apart⟩ := foreign row member
    have letters := congrArg String.toList same
    simp only [buildPasswordLine, String.toList_append, List.append_assoc] at letters
    obtain ⟨user, -⟩ := append_cons_cancel plain entered letters
    exact apart (String.toList_injective user)

theorem route_spoils_shared {change : List MqttCredentialRow → List MqttCredentialRow}
    {draws : Draws} {shared : Credentials} (level : securityLevel store = "shared_password")
    (stored : sharedCredential store = some shared) (named : shared.username ≠ backendUsername)
    (foreign : ∀ row ∈ change store.mqttCredentials,
      ':' ∉ row.username.toList ∧ row.username ≠ shared.username) :
    ¬Implements d (applySteps (credentialSteps d draws store change) store) := by
  intro implements
  have lockedOut :
      ¬FileAccepts d (applySteps (credentialSteps d draws store change) store) shared :=
    route_locks_out_shared named foreign
  have names : LevelNames d (applySteps (credentialSteps d draws store change) store) shared :=
    Or.inr ((if_pos level).mpr stored)
  exact lockedOut ((implements (Or.inl level) shared).mpr names)

end Call

/-! ## Poles -/

/-- A key that spells the password, a character by its number. -/
def spelled (password : List Char) : List Char :=
  password.flatMap fun c => List.replicate c.toNat 'a' ++ ['b']

theorem spelled_injective {password other : List Char} (same : spelled password = spelled other) :
    password = other := by
  induction password generalizing other with
  | nil =>
      cases other with
      | nil => rfl
      | cons c rest => simp [spelled] at same
  | cons c rest ih =>
      cases other with
      | nil => simp [spelled] at same
      | cons c' rest' =>
          simp only [spelled, List.flatMap_cons, List.append_assoc, List.singleton_append] at same
          obtain ⟨count, tails⟩ := append_cons_cancel (by simp) (by simp) same
          have number : c.toNat = c'.toNat := by simpa using congrArg List.length count
          rw [Char.toNat_inj.mp number, ih tails]

def spelling : Deployment :=
  { plainDeployment with pbkdf2 := fun password _ _ => String.ofList (spelled password.toList) }

theorem spelling_collisionFree : spelling.CollisionFree where
  plain password salt := by simp [spelling, spelled]
  injective {password other salt} same := by
    have letters := congrArg String.toList same
    simp only [spelling, String.toList_ofList] at letters
    exact String.toList_injective (spelled_injective letters)

theorem openBroker_plain : PlainNames openBroker := ⟨nofun, nofun⟩

/-- Every kind of call, and no route in shared mode. -/
def tidyCalls : List (ServiceCall × Draws) :=
  [(.operation (.setSecurityLevel "shared_password"), labDraws),
   (.operation .regenerateSharedPassword, labDraws), (.initializeService, labDraws),
   (.operation (.setSecurityLevel "per_device"), labDraws),
   (.postMqttCredentials "Lamp", labDraws),
   (.operation (.createDeviceCredential "Door"), labDraws),
   (.operation (.revokeDeviceCredential "mqtt-lamp"), labDraws),
   (.deleteMqttCredentials "mqtt-door", labDraws)]

theorem file_implements_level_tidy :
    Implements spelling (run (serve spelling)
      (serve spelling openBroker (.initializeService, labDraws)) tidyCalls) := by
  refine file_implements_level spelling_collisionFree openBroker_plain labDraws ?_ tidyCalls
    (List.prefix_refl _)
  refine ⟨fun _ => trivial, fun _ => by decide, fun _ => trivial, fun _ => trivial, ?_,
    fun _ => trivial, fun _ => trivial, ?_, trivial⟩
  · intro shared
    exact absurd shared (by decide)
  · intro shared
    exact absurd shared (by decide +kernel)

/-- The route in shared mode: the shared client is locked out at the next reload. -/
theorem shared_client_locked_out :
    ¬∀ (d : Deployment) (store : ProvisioningStore) (draws : Draws)
      (calls : List (ServiceCall × Draws)), d.CollisionFree → PlainNames store →
        Implements d (run (serve d) (serve d store (.initializeService, draws)) calls) := by
  intro always
  have implements := always spelling openBroker labDraws
    [(.operation (.setSecurityLevel "shared_password"), labDraws),
      (.postMqttCredentials "Lamp", labDraws)] spelling_collisionFree openBroker_plain
  let before := serve spelling (serve spelling openBroker (.initializeService, labDraws))
    (.operation (.setSecurityLevel "shared_password"), labDraws)
  let change (rows : List MqttCredentialRow) := rows ++ [newRow spelling labDraws "mqtt-lamp"]
  have stored : sharedCredential before = some ⟨sharedUsername, labDraws.sharedPassword⟩ := by
    decide
  have spoiled : ¬Implements spelling
      (applySteps (credentialSteps spelling labDraws before change) before) := by
    refine route_spoils_shared (by decide) stored sharedUsername_ne fun row member => ?_
    rw [show row = _ from List.mem_singleton.mp member]
    decide
  refine spoiled ?_
  have lamp : sanitizeUsername "Lamp" = "mqtt-lamp" := by decide +kernel
  have created : createCredential spelling labDraws before "Lamp" =
      .ok (credentialSteps spelling labDraws before change) := by
    unfold createCredential
    rw [lamp]
    exact if_neg (by decide)
  have result : serve spelling before (.postMqttCredentials "Lamp", labDraws) =
      before.after (createCredential spelling labDraws before "Lamp") := by
    simp only [serve, ServiceCall.perform]
    exact if_neg (by decide)
  have last : Implements spelling
      (serve spelling before (.postMqttCredentials "Lamp", labDraws)) := implements
  rw [result, created] at last
  exact last

end Aeolus.Mqtt
