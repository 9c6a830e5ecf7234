/-
# Aeolus.Mqtt.ProvisioningAgreement — the settings and the broker's files

A request writes the broker's files first and `system_settings` two or three awaits
later.  Nothing keeps another request out of that window: when two overlap and the one
that wrote the files last is not the one that writes its settings last, the level in the
database is not the one on disk (`open_persisted_over_shared`).

`InTurn` says when that does not happen: no request writes its settings over files that
a later one has written and settled, and the last to write the files does not fail.  In
every such run the settings describe the files whenever no request is in flight
(`settings_describe_files`).
-/
import Aeolus.Mqtt.MqttProvisioning

namespace Aeolus.Mqtt

open Aeolus.Core Aeolus.Theory
open Handler

/-! ## One policy, stored and on disk -/

/-- The broker asks for a password; the file has the backend's line and these. -/
def Authenticated (d : Deployment) (store : ProvisioningStore) (others : List String) : Prop :=
  store.config = some (authenticatedConfig d.passwordFilePath) ∧
    ∃ backend salt lines,
      readSetting settingBackendPassword store = some backend ∧ backend ≠ "" ∧
      store.passwordFile = some lines ∧
      lines.Perm (buildPasswordLine d salt backendUsername backend :: others)

/-- The lines beside the backend's own that the settings ask for. -/
def Entries (d : Deployment) (store : ProvisioningStore) (others : List String) : Prop :=
  if securityLevel store = "shared_password" then
    ∃ shared salt, sharedCredential store = some shared ∧
      others = [buildPasswordLine d salt shared.username shared.password]
  else others = getDeviceCredentialLines store

/-- The settings describe the policy of the files on disk. -/
def Agrees (d : Deployment) (store : ProvisioningStore) : Prop :=
  if securityLevel store = "open" then store.config = some openConfig
  else ∃ others, Entries d store others ∧ Authenticated d store others

/-! ## When requests take their turns -/

/-- Files written, settings not. -/
def Suspended.unpersisted : Suspended → Option Pending
  | .reloading pending => some pending
  | .disconnecting pending => some pending
  | .connecting pending => some pending
  | .verifying _ _ _ => none

def ProvisioningState.Waits (s : ProvisioningState) (pending : Pending) : Prop :=
  ∃ job ∈ s.suspended, job.unpersisted = some pending

/-- It was the last to write the files. -/
def Pending.IsLast (pending : Pending) (store : ProvisioningStore) : Prop :=
  pending.written = store.filesWritten

/-- The password file is replaced and the configuration is not. -/
def HalfWritten (env : Environment) (request : ProvisioningRequest) : Prop :=
  request ∈ [.setSecurityLevel "shared_password", .setSecurityLevel "per_device"] ∧
    env.passwordFileError = none ∧ env.configError ≠ none

/-- The next segment writes the settings. -/
def Suspended.Persists (env : Environment) : Suspended → Prop
  | .reloading pending => pending.change.isRegenerated = true
  | .connecting _ => env.connectError = none
  | _ => False

/-- The next segment ends the request with its settings unwritten. -/
def Suspended.Fails (env : Environment) : Suspended → Prop
  | .connecting _ => env.connectError ≠ none
  | _ => False

/-- * The configuration is not left behind by a new password file;
* the shared password is not regenerated while a change of level is under way;
* a request that fails was not the last to write the files;
* a request that writes its settings was, or the one that was is still to write its own
  (or it writes a shared password that the level does not use). -/
def InTurn (s : ProvisioningState) : ProvisioningEvent → Prop
  | .arrives request env =>
      ¬ HalfWritten env request ∧
      (request = .regenerateSharedPassword → securityLevel s.store = "shared_password" →
        ∀ pending, s.Waits pending → pending.change.isRegenerated = true)
  | .resumes index env =>
      ∀ job, s.suspended[index]? = some job → ∀ pending, job.unpersisted = some pending →
        (job.Fails env → ¬ pending.IsLast s.store) ∧
        (job.Persists env →
          (∃ other, s.Waits other ∧ other.IsLast s.store) ∨
          pending.change.isRegenerated = true ∧ securityLevel s.store ≠ "shared_password")

/-! ## Settings -/

@[simp] theorem readSetting_set (store : ProvisioningStore) (key other value : String) :
    readSetting other { store with settings := store.settings.set key value } =
      if other = key then some value else readSetting other store :=
  OrderedMap.get_set _ _ _ _

theorem sharedCredential_eq {store : ProvisioningStore} {username password : String}
    (user : readSetting settingSharedUsername store = some username)
    (secret : readSetting settingSharedPassword store = some password)
    (named : username ≠ "") (set : password ≠ "") :
    sharedCredential store = some ⟨username, password⟩ := by
  unfold sharedCredential
  rw [user, secret]
  exact if_pos ⟨named, set⟩

theorem sharedCredential_some {store : ProvisioningStore} {shared : Credentials}
    (found : sharedCredential store = some shared) :
    readSetting settingSharedUsername store = some shared.username ∧ shared.username ≠ "" := by
  unfold sharedCredential at found
  split at found
  · rename_i username password user secret
    split at found
    · rename_i set
      cases found
      exact ⟨user, set.1⟩
    · cases found
  · cases found

theorem RandomPassword.ne_empty (password : RandomPassword) : (password : String) ≠ "" := by
  intro empty
  have length := password.property
  rw [empty] at length
  cases length

/-- What the files' policy is read from. -/
structure SamePolicy (store store' : ProvisioningStore) : Prop where
  config : store'.config = store.config
  passwordFile : store'.passwordFile = store.passwordFile
  backend : readSetting settingBackendPassword store' = readSetting settingBackendPassword store

theorem Authenticated.frame {d : Deployment} {store store' : ProvisioningStore}
    {others : List String} (authenticated : Authenticated d store others)
    (same : SamePolicy store store') : Authenticated d store' others := by
  unfold Authenticated
  rw [same.config, same.backend, same.passwordFile]
  exact authenticated

/-- `ensureBackendPassword`: a password that is there stays; nothing else is written. -/
structure Ensured (store store' : ProvisioningStore) (backend : String) : Prop where
  stored : readSetting settingBackendPassword store' = some backend
  nonempty : backend ≠ ""
  others : ∀ key, key ≠ settingBackendPassword → readSetting key store' = readSetting key store
  rest : store' = { store with settings := store'.settings }
  kept : ∀ password, readSetting settingBackendPassword store = some password → password ≠ "" →
    store' = store

theorem ensureBackendPassword_spec (env : Environment) (store : ProvisioningStore) :
    ∃ backend store', ensureBackendPassword env store = (.ok backend, store') ∧
      Ensured store store' backend := by
  have written : Ensured store
      { store with settings := store.settings.set settingBackendPassword env.backendPassword }
      env.backendPassword → ∃ backend store',
        (do writeSetting settingBackendPassword env.backendPassword
            return (env.backendPassword : String) : Provisioning String) store =
          (.ok backend, store') ∧ Ensured store store' backend :=
    fun ensured => ⟨_, _, rfl, ensured⟩
  unfold ensureBackendPassword
  rw [bind_apply, asks_apply]
  cases stored : readSetting settingBackendPassword store with
  | none =>
      refine written ⟨?_, RandomPassword.ne_empty _, fun key other => ?_, rfl, fun _ found => ?_⟩
      · rw [readSetting_set, if_pos rfl]
      · rw [readSetting_set, if_neg other]
      · cases stored.symm.trans found
  | some password =>
      by_cases empty : password = ""
      · simp only [empty, ne_eq, not_true_eq_false, if_false]
        refine written
          ⟨?_, RandomPassword.ne_empty _, fun key other => ?_, rfl, fun _ found there => ?_⟩
        · rw [readSetting_set, if_pos rfl]
        · rw [readSetting_set, if_neg other]
        · cases stored.symm.trans found
          exact absurd empty there
      · simp only [ne_eq, empty, not_false_eq_true, if_true]
        exact ⟨_, _, rfl, stored, empty, fun _ _ => rfl, rfl, fun _ _ _ => rfl⟩

/-! ## Writing the settings -/

/-- The files are those of the change: writing its settings will make them agree. -/
def Prepared (d : Deployment) (store : ProvisioningStore) : Change → Prop
  | .openMode => store.config = some openConfig
  | .sharedPasswordMode username password _ =>
      username ≠ "" ∧ password ≠ "" ∧
        ∃ salt, Authenticated d store [buildPasswordLine d salt username password]
  | .perDeviceMode _ => Authenticated d store (getDeviceCredentialLines store)
  | .regenerated username password _ =>
      securityLevel store = "shared_password" ∧
        readSetting settingSharedUsername store = some username ∧
        username ≠ "" ∧ password ≠ "" ∧
        ∃ salt, Authenticated d store [buildPasswordLine d salt username password]

/-- The store once the settings are written. -/
def Change.persisted (change : Change) (store : ProvisioningStore) : ProvisioningStore :=
  (change.persist store).2

theorem persist_eq (change : Change) (store : ProvisioningStore) :
    change.persist store = (.ok ⟨⟩, change.persisted store) := by
  cases change <;> rfl

theorem readSetting_sharedPasswordMode (username password backend key : String)
    (store : ProvisioningStore) :
    readSetting key ((Change.sharedPasswordMode username password backend).persisted store) =
      if key = settingSharedPassword then some password
      else if key = settingSharedUsername then some username
      else if key = settingSecurityLevel then some "shared_password"
      else readSetting key store := by
  show (((store.settings.set _ _).set _ _).set _ _).get key = _
  rw [OrderedMap.get_set, OrderedMap.get_set, OrderedMap.get_set]
  rfl

/-- Only settings are written, and never the backend's password. -/
theorem persisted_same (change : Change) (store : ProvisioningStore) :
    SamePolicy store (change.persisted store) := by
  cases change with
  | sharedPasswordMode username password backend =>
      refine ⟨rfl, rfl, ?_⟩
      rw [readSetting_sharedPasswordMode, if_neg (by decide), if_neg (by decide),
        if_neg (by decide)]
  | openMode => exact ⟨rfl, rfl, (readSetting_set ..).trans (if_neg (by decide))⟩
  | perDeviceMode backend => exact ⟨rfl, rfl, (readSetting_set ..).trans (if_neg (by decide))⟩
  | regenerated username password backend =>
      exact ⟨rfl, rfl, (readSetting_set ..).trans (if_neg (by decide))⟩

theorem filesWritten_persisted (change : Change) (store : ProvisioningStore) :
    (change.persisted store).filesWritten = store.filesWritten := by
  cases change <;> rfl

theorem deviceLines_persisted (change : Change) (store : ProvisioningStore) :
    getDeviceCredentialLines (change.persisted store) = getDeviceCredentialLines store := by
  cases change <;> rfl

theorem readSetting_regenerated {username password backend key : String}
    {store : ProvisioningStore} (other : key ≠ settingSharedPassword) :
    readSetting key ((Change.regenerated username password backend).persisted store) =
      readSetting key store :=
  (readSetting_set ..).trans (if_neg other)

theorem level_regenerated {change : Change} (regenerated : change.isRegenerated = true)
    (store : ProvisioningStore) : securityLevel (change.persisted store) = securityLevel store := by
  cases change with
  | regenerated username password backend =>
      exact congrArg (Option.getD · "open") (readSetting_regenerated (by decide))
  | _ => cases regenerated

/-- The request whose files are on disk writes its settings. -/
theorem Prepared.agrees {d : Deployment} {store : ProvisioningStore} {change : Change}
    (prepared : Prepared d store change) : Agrees d (change.persisted store) := by
  have same := persisted_same change store
  cases change with
  | openMode =>
      have level : securityLevel (Change.openMode.persisted store) = "open" := by
        simp [Change.persisted, Change.persist, writeSetting, securityLevel]
      exact (if_pos level).mpr (same.config.trans prepared)
  | perDeviceMode backend =>
      have level : securityLevel ((Change.perDeviceMode backend).persisted store) = "per_device" := by
        simp [Change.persisted, Change.persist, writeSetting, securityLevel]
      refine (if_neg (by rw [level]; decide)).mpr ⟨_, ?_, prepared.frame same⟩
      refine (if_neg (by rw [level]; decide)).mpr ?_
      exact (deviceLines_persisted _ store).symm
  | sharedPasswordMode username password backend =>
      obtain ⟨named, set, salt, authenticated⟩ := prepared
      have level : securityLevel
          ((Change.sharedPasswordMode username password backend).persisted store) =
            "shared_password" := by
        rw [securityLevel, readSetting_sharedPasswordMode, if_neg (by decide),
          if_neg (by decide), if_pos rfl]
        rfl
      refine (if_neg (by rw [level]; decide)).mpr ⟨_, ?_, authenticated.frame same⟩
      refine (if_pos level).mpr ⟨⟨username, password⟩, salt, ?_, rfl⟩
      refine sharedCredential_eq ?_ ?_ named set
      · rw [readSetting_sharedPasswordMode, if_neg (by decide), if_pos rfl]
      · rw [readSetting_sharedPasswordMode, if_pos rfl]
  | regenerated username password backend =>
      obtain ⟨shared, user, named, set, salt, authenticated⟩ := prepared
      have level : securityLevel
          ((Change.regenerated username password backend).persisted store) = "shared_password" :=
        (level_regenerated rfl store).trans shared
      refine (if_neg (by rw [level]; decide)).mpr ⟨_, ?_, authenticated.frame same⟩
      refine (if_pos level).mpr ⟨⟨username, password⟩, salt, ?_, rfl⟩
      refine sharedCredential_eq ?_ ?_ named set
      · exact (readSetting_regenerated (by decide)).trans user
      · exact (readSetting_set ..).trans (if_pos rfl)

/-- Another request's settings leave the files prepared; a regenerated password stands
only as long as the level does. -/
theorem Prepared.after {d : Deployment} {store : ProvisioningStore} {change other : Change}
    (prepared : Prepared d store change)
    (compatible : change.isRegenerated = true → other.isRegenerated = true) :
    Prepared d (other.persisted store) change := by
  have same := persisted_same other store
  cases change with
  | openMode => exact same.config.trans prepared
  | perDeviceMode backend =>
      show Authenticated d _ (getDeviceCredentialLines _)
      rw [deviceLines_persisted]
      exact Authenticated.frame prepared same
  | sharedPasswordMode username password backend =>
      obtain ⟨named, set, salt, authenticated⟩ := prepared
      exact ⟨named, set, salt, authenticated.frame same⟩
  | regenerated username password backend =>
      obtain ⟨shared, user, named, set, salt, authenticated⟩ := prepared
      have regenerated := compatible rfl
      refine ⟨(level_regenerated regenerated store).trans shared, ?_, named, set, salt,
        authenticated.frame same⟩
      cases other with
      | regenerated => exact (readSetting_regenerated (by decide)).trans user
      | _ => cases regenerated

/-- A shared password that the level does not use. -/
theorem Agrees.regenerated {d : Deployment} {store : ProvisioningStore} {change : Change}
    (agrees : Agrees d store) (regenerated : change.isRegenerated = true)
    (unused : securityLevel store ≠ "shared_password") : Agrees d (change.persisted store) := by
  have same := persisted_same change store
  have level := level_regenerated regenerated store
  unfold Agrees at agrees ⊢
  rw [level]
  split at agrees
  · rename_i opened
    exact (if_pos opened).mpr (same.config.trans agrees)
  · rename_i closed
    obtain ⟨others, entries, authenticated⟩ := agrees
    refine (if_neg closed).mpr ⟨others, ?_, authenticated.frame same⟩
    unfold Entries at entries ⊢
    rw [if_neg unused] at entries
    rw [level, if_neg unused, entries, deviceLines_persisted]

/-! ## The first segment -/

/-- It threw before it wrote a file, or it has written all of them. -/
inductive Arrives (d : Deployment) (request : ProvisioningRequest) (store : ProvisioningStore) :
    Except ProvisioningError Progress × ProvisioningStore → Prop
  | threw {error : ProvisioningError} {store' : ProvisioningStore}
      (unwritten : store' = store ∨ ∃ backend, Ensured store store' backend) :
      Arrives d request store (.error error, store')
  | wrote {change : Change} {store' : ProvisioningStore}
      (counted : store'.filesWritten = store.filesWritten + 1)
      (prepared : Prepared d store' change)
      (regenerated : change.isRegenerated = true →
        request = .regenerateSharedPassword ∧ securityLevel store = "shared_password") :
      Arrives d request store
        (.ok (.awaiting (.reloading ⟨change, store.filesWritten + 1⟩)), store')

theorem Ensured.authenticated {d : Deployment} {store store' after : ProvisioningStore}
    {backend salt : String} {lines others : List String} (ensured : Ensured store store' backend)
    (settings : after.settings = store'.settings)
    (config : after.config = some (authenticatedConfig d.passwordFilePath))
    (file : after.passwordFile = some lines)
    (written : lines.Perm (buildPasswordLine d salt backendUsername backend :: others)) :
    Authenticated d after others := by
  refine ⟨config, backend, salt, lines, ?_, ensured.nonempty, file, written⟩
  rw [readSetting, settings]
  exact ensured.stored

theorem Ensured.filesWritten {store store' : ProvisioningStore} {backend : String}
    (ensured : Ensured store store' backend) : store'.filesWritten = store.filesWritten := by
  rw [ensured.rest]

theorem Ensured.level {store store' : ProvisioningStore} {backend : String}
    (ensured : Ensured store store' backend) : securityLevel store' = securityLevel store :=
  congrArg (Option.getD · "open") (ensured.others _ (by decide))

theorem setOpenMode_arrives (d : Deployment) (env : Environment) (request : ProvisioningRequest)
    (store : ProvisioningStore) : Arrives d request store (setOpenMode env store) := by
  unfold setOpenMode writeOpenConfig orThrow
  cases env.configError with
  | some message => exact .threw (Or.inl rfl)
  | none => exact .wrote rfl rfl nofun

theorem setSharedPasswordMode_arrives (d : Deployment) {env : Environment}
    (request : ProvisioningRequest) (store : ProvisioningStore)
    (whole : env.passwordFileError = none → env.configError = none) :
    Arrives d request store (setSharedPasswordMode d env store) := by
  obtain ⟨backend, store', drew, ensured⟩ := ensureBackendPassword_spec env store
  unfold setSharedPasswordMode writePasswordFile writeAuthenticatedConfig
  simp only [bind_apply, drew]
  cases file : env.passwordFileError with
  | some message => exact .threw (Or.inr ⟨backend, ensured⟩)
  | none =>
      rw [whole file]
      simp only [orThrow, stampFiles, bind_apply, modify_apply, asks_apply, ensured.filesWritten]
      refine .wrote rfl ⟨by decide, RandomPassword.ne_empty _, env.sharedSalt, ?_⟩ nofun
      exact ensured.authenticated rfl rfl rfl (List.Perm.swap _ _ _)

theorem setPerDeviceMode_arrives (d : Deployment) {env : Environment}
    (request : ProvisioningRequest) (store : ProvisioningStore)
    (whole : env.passwordFileError = none → env.configError = none) :
    Arrives d request store (setPerDeviceMode d env store) := by
  obtain ⟨backend, store', drew, ensured⟩ := ensureBackendPassword_spec env store
  unfold setPerDeviceMode writePasswordFile writeAuthenticatedConfig
  simp only [bind_apply, drew, asks_apply]
  cases file : env.passwordFileError with
  | some message => exact .threw (Or.inr ⟨backend, ensured⟩)
  | none =>
      rw [whole file]
      simp only [orThrow, stampFiles, bind_apply, modify_apply, asks_apply, ensured.filesWritten]
      refine .wrote rfl ?_ nofun
      exact ensured.authenticated rfl rfl rfl (List.Perm.refl _)

/-- The configuration asks for passwords, and a shared username is stored. -/
structure SharedMode (d : Deployment) (store : ProvisioningStore) : Prop where
  config : store.config = some (authenticatedConfig d.passwordFilePath)
  user : ∃ username, readSetting settingSharedUsername store = some username ∧ username ≠ ""

theorem regenerateSharedPassword_arrives (d : Deployment) (env : Environment)
    (store : ProvisioningStore)
    (ready : securityLevel store = "shared_password" → SharedMode d store) :
    Arrives d .regenerateSharedPassword store (regenerateSharedPassword d env store) := by
  obtain ⟨backend, store', drew, ensured⟩ := ensureBackendPassword_spec env store
  unfold regenerateSharedPassword writePasswordFile
  simp only [bind_apply, asks_apply]
  by_cases level : securityLevel store = "shared_password"
  · obtain ⟨config, username, user, named⟩ := ready level
    simp only [level, ne_eq, not_true_eq_false, if_false, bind_apply, asks_apply, drew, user,
      Option.getD_some]
    cases file : env.passwordFileError with
    | some message => exact .threw (Or.inr ⟨backend, ensured⟩)
    | none =>
        simp only [orThrow, stampFiles, bind_apply, modify_apply, asks_apply, ensured.filesWritten]
        have still : store'.config = some (authenticatedConfig d.passwordFilePath) := by
          rw [ensured.rest]
          exact config
        refine .wrote rfl ⟨?_, ?_, named, RandomPassword.ne_empty _, env.sharedSalt, ?_⟩
          fun _ => ⟨rfl, level⟩
        · exact ensured.level.trans level
        · exact (ensured.others _ (by decide)).trans user
        · exact ensured.authenticated rfl still rfl (List.Perm.swap _ _ _)
  · simp only [level, ne_eq, not_false_eq_true, if_true]
    exact .threw (Or.inl rfl)

/-- Every request, when the configuration is not left behind. -/
theorem request_arrives (d : Deployment) {env : Environment} {request : ProvisioningRequest}
    {store : ProvisioningStore} (whole : ¬ HalfWritten env request)
    (ready : request = .regenerateSharedPassword → securityLevel store = "shared_password" →
      SharedMode d store) : Arrives d request store (request.segment d env store) := by
  cases request with
  | regenerateSharedPassword => exact regenerateSharedPassword_arrives d env store (ready rfl)
  | setSecurityLevel level =>
      have configured : ∀ level' ∈ ["shared_password", "per_device"], level = level' →
          env.passwordFileError = none → env.configError = none := by
        rintro level' mem rfl file
        by_contra failed
        refine whole ⟨?_, file, failed⟩
        simpa using mem
      simp only [ProvisioningRequest.segment, setSecurityLevel]
      split
      · exact .threw (Or.inl rfl)
      · rename_i valid
        split
        · exact setOpenMode_arrives d env _ store
        · rename_i closed
          split
          · rename_i shared
            exact setSharedPasswordMode_arrives d _ store (configured _ (by simp) shared)
          · rename_i other
            have device : level = "per_device" := by
              simpa [closed, other] using valid
            exact setPerDeviceMode_arrives d _ store (configured _ (by simp) device)

/-! ## What is kept

`waits` is the set of the requests between their files and their settings. -/

/-- The last to write the files has made them agree, or will. -/
structure Coherent (d : Deployment) (store : ProvisioningStore) (waits : Pending → Prop) :
    Prop where
  latest : (∃ pending, waits pending ∧ pending.IsLast store) ∨ Agrees d store
  prepared : ∀ pending, waits pending → pending.IsLast store → Prepared d store pending.change
  bounded : ∀ pending, waits pending → pending.written ≤ store.filesWritten
  /-- No change of level is under way when a shared password is the last on file. -/
  alone : ∀ pending, waits pending → pending.IsLast store → pending.change.isRegenerated = true →
    ∀ other, waits other → other.change.isRegenerated = true

variable {d : Deployment} {store store' : ProvisioningStore} {waits waits' : Pending → Prop}

theorem Coherent.congr (coherent : Coherent d store waits)
    (same : ∀ pending, waits' pending ↔ waits pending) : Coherent d store waits' := by
  obtain rfl : waits' = waits := funext fun pending => propext (same pending)
  exact coherent

theorem Authenticated.ensured {others : List String} (authenticated : Authenticated d store others)
    {backend : String} (ensured : Ensured store store' backend) : store' = store := by
  obtain ⟨_, stored, salt, lines, found, nonempty, rest⟩ := authenticated
  exact ensured.kept stored found nonempty

theorem Agrees.ensured (agrees : Agrees d store) {backend : String}
    (ensured : Ensured store store' backend) : Agrees d store' := by
  by_cases opened : securityLevel store = "open"
  · have config := (if_pos opened).mp agrees
    refine (if_pos (ensured.level.trans opened)).mpr ?_
    rw [ensured.rest]
    exact config
  · obtain ⟨others, entries, authenticated⟩ := (if_neg opened).mp agrees
    rw [authenticated.ensured ensured]
    exact agrees

theorem Prepared.ensured {change : Change} (prepared : Prepared d store change) {backend : String}
    (ensured : Ensured store store' backend) : Prepared d store' change := by
  cases change with
  | openMode =>
      show store'.config = _
      rw [ensured.rest]
      exact prepared
  | sharedPasswordMode username password secret =>
      obtain ⟨named, set, salt, authenticated⟩ := prepared
      rw [authenticated.ensured ensured]
      exact ⟨named, set, salt, authenticated⟩
  | perDeviceMode secret =>
      rw [Authenticated.ensured prepared ensured]
      exact prepared
  | regenerated username password secret =>
      obtain ⟨shared, user, named, set, salt, authenticated⟩ := prepared
      rw [authenticated.ensured ensured]
      exact ⟨shared, user, named, set, salt, authenticated⟩

theorem Coherent.ensured (coherent : Coherent d store waits) {backend : String}
    (ensured : Ensured store store' backend) : Coherent d store' waits := by
  have last : ∀ pending : Pending, pending.IsLast store' ↔ pending.IsLast store := fun pending => by
    rw [Pending.IsLast, Pending.IsLast, ensured.filesWritten]
  refine ⟨?_, fun pending waiting isLast => ?_, fun pending waiting => ?_,
    fun pending waiting isLast => coherent.alone pending waiting ((last pending).mp isLast)⟩
  · rcases coherent.latest with ⟨pending, waiting, isLast⟩ | agrees
    · exact Or.inl ⟨pending, waiting, (last pending).mpr isLast⟩
    · exact Or.inr (agrees.ensured ensured)
  · exact (coherent.prepared pending waiting ((last pending).mp isLast)).ensured ensured
  · exact (coherent.bounded pending waiting).trans_eq ensured.filesWritten.symm

/-- In shared mode, with no change of level under way, the files are those of shared mode. -/
theorem Coherent.sharedMode (coherent : Coherent d store waits)
    (level : securityLevel store = "shared_password")
    (regenerating : ∀ pending, waits pending → pending.change.isRegenerated = true) :
    SharedMode d store := by
  rcases coherent.latest with ⟨⟨change, written⟩, waiting, isLast⟩ | agrees
  · have prepared := coherent.prepared _ waiting isLast
    have regenerated := regenerating _ waiting
    cases change with
    | regenerated username password backend =>
        obtain ⟨_, user, named, _, salt, authenticated⟩ := prepared
        exact ⟨authenticated.1, username, user, named⟩
    | _ => cases regenerated
  · have closed : securityLevel store ≠ "open" := by
      rw [level]
      decide
    obtain ⟨others, entries, authenticated⟩ := (if_neg closed).mp agrees
    obtain ⟨shared, salt, found, _⟩ := (if_pos level).mp entries
    exact ⟨authenticated.1, shared.username, sharedCredential_some found⟩

/-- A request that has written its files: no earlier one is the last any more. -/
theorem Coherent.wrote (coherent : Coherent d store waits) {change : Change}
    (counted : store'.filesWritten = store.filesWritten + 1) (prepared : Prepared d store' change)
    (regenerating : change.isRegenerated = true →
      ∀ pending, waits pending → pending.change.isRegenerated = true) :
    Coherent d store' fun pending =>
      waits pending ∨ some ⟨change, store.filesWritten + 1⟩ = some pending := by
  have earlier : ∀ pending, waits pending → ¬ pending.IsLast store' := by
    intro pending waiting isLast
    have bound := coherent.bounded pending waiting
    have at_end : pending.written = store'.filesWritten := isLast
    omega
  refine ⟨Or.inl ⟨⟨change, store.filesWritten + 1⟩, Or.inr rfl, counted.symm⟩, ?_, ?_, ?_⟩
  · rintro pending (waiting | new) isLast
    · exact absurd isLast (earlier pending waiting)
    · cases new
      exact prepared
  · rintro pending (waiting | new)
    · have bound := coherent.bounded pending waiting
      omega
    · cases new
      exact counted.ge
  · rintro pending (waiting | new) isLast regenerated other (others | same)
    · exact absurd isLast (earlier pending waiting)
    · exact absurd isLast (earlier pending waiting)
    · cases new
      exact regenerating regenerated other others
    · cases new
      cases same
      exact regenerated

/-- A request that writes its settings in its turn. -/
theorem Coherent.persisted (coherent : Coherent d store waits) {pending : Pending}
    (leaves : ∀ other, waits other ↔ some pending = some other ∨ waits' other)
    (turn : (∃ other, waits other ∧ other.IsLast store) ∨
      pending.change.isRegenerated = true ∧ securityLevel store ≠ "shared_password") :
    Coherent d (pending.change.persisted store) waits' := by
  have last : ∀ other : Pending,
      other.IsLast (pending.change.persisted store) ↔ other.IsLast store := fun other => by
    rw [Pending.IsLast, Pending.IsLast, filesWritten_persisted]
  have stays : ∀ other, waits' other → waits other := fun other waiting =>
    (leaves other).mpr (Or.inr waiting)
  have waiting : waits pending := (leaves pending).mpr (Or.inl rfl)
  -- the last writer is the request itself, or it goes on waiting
  have latest : ∀ other, waits other → other.IsLast store →
      (∃ other, waits' other ∧ other.IsLast (pending.change.persisted store)) ∨
        Agrees d (pending.change.persisted store) := by
    intro other others isLast
    rcases (leaves other).mp others with same | left
    · cases same
      exact Or.inr (coherent.prepared pending waiting isLast).agrees
    · exact Or.inl ⟨other, left, (last other).mpr isLast⟩
  refine ⟨?_, ?_, ?_, ?_⟩
  · rcases turn with ⟨other, others, isLast⟩ | ⟨regenerated, unused⟩
    · exact latest other others isLast
    · rcases coherent.latest with ⟨other, others, isLast⟩ | agrees
      · exact latest other others isLast
      · exact Or.inr (agrees.regenerated regenerated unused)
  · intro other others isLast
    have before := (last other).mp isLast
    refine (coherent.prepared other (stays other others) before).after fun regenerated => ?_
    exact coherent.alone other (stays other others) before regenerated pending waiting
  · intro other others
    rw [filesWritten_persisted]
    exact coherent.bounded other (stays other others)
  · intro other others isLast regenerated third thirds
    exact coherent.alone other (stays other others) ((last other).mp isLast) regenerated third
      (stays third thirds)

/-- A request that fails when a later one has written the files. -/
theorem Coherent.failed (coherent : Coherent d store waits) {pending : Pending}
    (leaves : ∀ other, waits other ↔ some pending = some other ∨ waits' other)
    (superseded : ¬ pending.IsLast store) : Coherent d store waits' := by
  have stays : ∀ other, waits' other → waits other := fun other waiting =>
    (leaves other).mpr (Or.inr waiting)
  refine ⟨?_, fun other others => coherent.prepared other (stays other others),
    fun other others => coherent.bounded other (stays other others),
    fun other others isLast regenerated third thirds =>
      coherent.alone other (stays other others) isLast regenerated third (stays third thirds)⟩
  rcases coherent.latest with ⟨other, others, isLast⟩ | agrees
  · rcases (leaves other).mp others with same | left
    · cases same
      exact absurd isLast superseded
    · exact Or.inl ⟨other, left, isLast⟩
  · exact Or.inr agrees

/-! ## The later segments -/

def Progress.unpersisted : Progress → Option Pending
  | .awaiting job => job.unpersisted
  | .returned _ => none

/-- What a suspended request does next. -/
inductive Resumes (env : Environment) (store : ProvisioningStore) (job : Suspended) :
    Except ProvisioningError Progress × ProvisioningStore → Prop
  | moved {pending : Pending} {progress : Progress} {credentials : Option Credentials}
      (before : job.unpersisted = some pending) (after : progress.unpersisted = some pending) :
      Resumes env store job (.ok progress, { store with credentials })
  | persisted {pending : Pending} {progress : Progress}
      (before : job.unpersisted = some pending) (persists : job.Persists env)
      (after : progress.unpersisted = none) :
      Resumes env store job (.ok progress, pending.change.persisted store)
  | failed {pending : Pending} {error : ProvisioningError}
      (before : job.unpersisted = some pending) (fails : job.Fails env) :
      Resumes env store job (.error error, store)
  | verified {progress : Progress} (before : job.unpersisted = none)
      (after : progress.unpersisted = none) : Resumes env store job (.ok progress, store)
  | unconfirmed {error : ProvisioningError} (before : job.unpersisted = none) :
      Resumes env store job (.error error, store)

theorem verify_spec (env : Environment) (change : Change) (checks : List String)
    (store : ProvisioningStore) : ∃ progress, verify env change checks store = (.ok progress, store) ∧
      progress.unpersisted = none := by
  cases checks with
  | cons description checks => exact ⟨_, rfl, rfl⟩
  | nil => cases change <;> exact ⟨_, rfl, rfl⟩

theorem persistAndVerify_spec (d : Deployment) (env : Environment) (change : Change)
    (store : ProvisioningStore) :
    ∃ progress, persistAndVerify d env change store = (.ok progress, change.persisted store) ∧
      progress.unpersisted = none := by
  unfold persistAndVerify
  rw [bind_apply, persist_eq]
  exact verify_spec ..

theorem job_resumes (d : Deployment) (env : Environment) (job : Suspended)
    (store : ProvisioningStore) : Resumes env store job (job.segment d env store) := by
  cases job with
  | reloading pending =>
      by_cases regenerated : pending.change.isRegenerated = true
      · obtain ⟨progress, outcome, settled⟩ := persistAndVerify_spec d env pending.change store
        simp only [Suspended.segment, regenerated, if_true, outcome]
        exact .persisted rfl regenerated settled
      · simp only [Suspended.segment, regenerated]
        exact .moved rfl rfl
  | disconnecting pending => exact .moved rfl rfl
  | connecting pending =>
      cases connection : env.connectError with
      | some message =>
          simp only [Suspended.segment, connection]
          exact .failed rfl (by simp [Suspended.Fails, connection])
      | none =>
          obtain ⟨progress, outcome, settled⟩ := persistAndVerify_spec d env pending.change store
          simp only [Suspended.segment, connection, outcome]
          exact .persisted rfl connection settled
  | verifying change description checks =>
      by_cases confirmed : env.confirmed = true
      · obtain ⟨progress, outcome, settled⟩ := verify_spec env change checks store
        simp only [Suspended.segment, confirmed, if_true, outcome]
        exact .verified rfl settled
      · simp only [Suspended.segment, confirmed]
        exact .unconfirmed rfl

/-! ## Runs -/

theorem advance_ok {s : ProvisioningState} {segment : Segment} {progress : Progress}
    (outcome : segment s.store = (.ok progress, store')) :
    (s.advance segment).store = store' ∧
      ∀ pending, (s.advance segment).Waits pending ↔
        s.Waits pending ∨ progress.unpersisted = some pending := by
  unfold ProvisioningState.advance
  rw [outcome]
  cases progress with
  | returned result =>
      exact ⟨rfl, fun pending => (or_iff_left nofun).symm⟩
  | awaiting job =>
      refine ⟨rfl, fun pending => ?_⟩
      simp [ProvisioningState.Waits, Progress.unpersisted, or_and_right, exists_or]

theorem advance_error {s : ProvisioningState} {segment : Segment} {error : ProvisioningError}
    (outcome : segment s.store = (.error error, store')) :
    s.advance segment = ⟨store', s.suspended⟩ := by
  unfold ProvisioningState.advance
  rw [outcome]

/-- Taking one job out of the suspended ones. -/
theorem waits_iff_erased {s : ProvisioningState} {index : Nat} {job : Suspended}
    (found : s.suspended[index]? = some job) (pending : Pending) :
    s.Waits pending ↔ job.unpersisted = some pending ∨
      (⟨s.store, s.suspended.eraseIdx index⟩ : ProvisioningState).Waits pending := by
  obtain ⟨inside, rfl⟩ := List.getElem?_eq_some_iff.mp found
  have perm := List.getElem_cons_eraseIdx_perm inside
  have members : ∀ other, other ∈ s.suspended ↔
      other = s.suspended[index] ∨ other ∈ s.suspended.eraseIdx index := fun other => by
    rw [← perm.mem_iff, List.mem_cons]
  simp [ProvisioningState.Waits, members, or_and_right, exists_or]

theorem arrives_coherent {s : ProvisioningState} {request : ProvisioningRequest}
    {env : Environment} (coherent : Coherent d s.store s.Waits)
    (inTurn : InTurn s (.arrives request env)) :
    Coherent d (s.step d (.arrives request env)).store (s.step d (.arrives request env)).Waits := by
  obtain ⟨whole, regenerating⟩ := inTurn
  have arrived := request_arrives d whole fun asked level =>
    coherent.sharedMode level (regenerating asked level)
  simp only [ProvisioningState.step]
  generalize result : request.segment d env s.store = outcome at arrived
  cases arrived with
  | threw unwritten =>
      rw [advance_error result]
      rcases unwritten with rfl | ⟨backend, ensured⟩
      · exact coherent
      · exact coherent.ensured ensured
  | wrote counted prepared regenerated =>
      obtain ⟨stored, waiting⟩ := advance_ok result
      rw [stored]
      refine (coherent.wrote counted prepared fun again => ?_).congr waiting
      exact regenerating (regenerated again).1 (regenerated again).2

/-- A suspended request goes on beside the `rest`. -/
theorem job_coherent {rest : ProvisioningState} {job : Suspended} {env : Environment}
    (coherent : Coherent d rest.store waits)
    (leaves : ∀ pending, waits pending ↔ job.unpersisted = some pending ∨ rest.Waits pending)
    (turn : ∀ pending, job.unpersisted = some pending →
      (job.Fails env → ¬ pending.IsLast rest.store) ∧
      (job.Persists env → (∃ other, waits other ∧ other.IsLast rest.store) ∨
        pending.change.isRegenerated = true ∧ securityLevel rest.store ≠ "shared_password")) :
    Coherent d (rest.advance (job.segment d env)).store
      (rest.advance (job.segment d env)).Waits := by
  have resumed := job_resumes d env job rest.store
  generalize result : job.segment d env rest.store = outcome at resumed
  cases resumed with
  | @moved pending progress credentials before after =>
      obtain ⟨stored, waiting⟩ := advance_ok result
      rw [stored]
      have reconnected : Coherent d { rest.store with credentials } waits :=
        ⟨coherent.latest, coherent.prepared, coherent.bounded, coherent.alone⟩
      refine reconnected.congr fun pending => ?_
      rw [waiting, leaves, before, after, or_comm]
  | persisted before persists after =>
      obtain ⟨stored, waiting⟩ := advance_ok result
      rw [stored]
      refine coherent.persisted (fun other => ?_) ((turn _ before).2 persists)
      rw [waiting, leaves, before, after]
      simp
  | failed before fails =>
      rw [advance_error result]
      refine coherent.failed (fun other => ?_) ((turn _ before).1 fails)
      rw [leaves, before]
  | verified before after =>
      obtain ⟨stored, waiting⟩ := advance_ok result
      rw [stored]
      refine coherent.congr fun pending => ?_
      rw [waiting, leaves, before, after, or_comm]
  | unconfirmed before =>
      rw [advance_error result]
      refine coherent.congr fun pending => ?_
      rw [leaves, before]
      exact (or_iff_right nofun).symm

theorem resumes_coherent {s : ProvisioningState} {index : Nat} {env : Environment}
    (coherent : Coherent d s.store s.Waits) (inTurn : InTurn s (.resumes index env)) :
    Coherent d (s.step d (.resumes index env)).store (s.step d (.resumes index env)).Waits := by
  simp only [ProvisioningState.step]
  split
  · exact coherent
  · rename_i job found
    have rest : Coherent d (⟨s.store, s.suspended.eraseIdx index⟩ : ProvisioningState).store
      s.Waits := coherent
    exact job_coherent rest (waits_iff_erased found) (inTurn job found)

theorem step_coherent (s : ProvisioningState) (e : ProvisioningEvent)
    (coherent : Coherent d s.store s.Waits) (inTurn : InTurn s e) :
    Coherent d (s.step d e).store (s.step d e).Waits := by
  cases e with
  | arrives request env => exact arrives_coherent coherent inTurn
  | resumes index env => exact resumes_coherent coherent inTurn

/-- **The settings describe the files.**  From files that the settings describe, in every
state of every run whose requests take their turns, when no request is in flight. -/
theorem settings_describe_files (d : Deployment) {store : ProvisioningStore}
    (start : Agrees d store) {events : List ProvisioningEvent}
    (inTurn : Along (ProvisioningState.step d) InTurn ⟨store, []⟩ events) :
    ∀ p, p <+: events → (run (ProvisioningState.step d) ⟨store, []⟩ p).suspended = [] →
      Agrees d (run (ProvisioningState.step d) ⟨store, []⟩ p).store := by
  intro p initial settled
  have idle : ∀ pending, ¬ (⟨store, []⟩ : ProvisioningState).Waits pending := by
    rintro pending ⟨job, mem, _⟩
    cases mem
  have coherent : Coherent d store (⟨store, []⟩ : ProvisioningState).Waits :=
    { latest := Or.inr start
      prepared := fun pending waiting => absurd waiting (idle pending)
      bounded := fun pending waiting => absurd waiting (idle pending)
      alone := fun pending waiting => absurd waiting (idle pending) }
  have reached := invariant_throughout
    (fun s e (coherent : Coherent d s.store s.Waits) => step_coherent s e coherent)
    coherent inTurn p initial
  rcases reached.latest with ⟨pending, ⟨job, mem, _⟩, _⟩ | agrees
  · rw [settled] at mem
    cases mem
  · exact agrees

/-- Startup writes files that the stored settings describe: a run can begin there. -/
theorem initializeService_agrees (d : Deployment) {env : Environment} (store : ProvisioningStore)
    (configured : env.configError = none) (filed : env.passwordFileError = none)
    (stored : securityLevel store = "shared_password" → (sharedCredential store).isSome) :
    Agrees d (initializeService d env store).2 := by
  by_cases opened : securityLevel store = "open"
  · simp only [initializeService, bind_apply, asks_apply, opened, if_true, writeOpenConfig,
      configured, orThrow, modify_apply]
    exact (if_pos opened).mpr rfl
  · obtain ⟨backend, store', drew, ensured⟩ := ensureBackendPassword_spec env store
    have closed : securityLevel store' ≠ "open" := by
      rwa [ensured.level]
    by_cases shared : securityLevel store = "shared_password"
    · have same : sharedCredential store' = sharedCredential store := by
        unfold sharedCredential
        rw [ensured.others _ (by decide), ensured.others _ (by decide)]
      obtain ⟨credential, found⟩ := Option.isSome_iff_exists.mp (stored shared)
      have apart : ¬ "shared_password" = "open" := by decide
      simp only [initializeService, bind_apply, asks_apply, shared, apart, if_true, if_false,
        writeAuthenticatedConfig, writePasswordFile, configured, filed, orThrow, modify_apply,
        drew, same, found]
      refine (if_neg closed).mpr ⟨_, (if_pos (ensured.level.trans shared)).mpr
        ⟨credential, env.sharedSalt, same.trans found, rfl⟩, ?_⟩
      exact ensured.authenticated rfl rfl rfl (List.Perm.refl _)
    · simp only [initializeService, bind_apply, asks_apply, opened, shared, if_false,
        writeAuthenticatedConfig, writePasswordFile, configured, filed, orThrow, modify_apply, drew]
      refine (if_neg closed).mpr ⟨_, (if_neg ?_).mpr rfl, ?_⟩
      · exact fun level => shared (ensured.level.symm.trans level)
      · exact ensured.authenticated rfl rfl rfl (List.Perm.refl _)

/-! A broker that starts open, and an environment in which nothing fails. -/

def openBroker : ProvisioningStore where
  settings := OrderedMap.empty
  mqttCredentials := []
  config := some openConfig
  passwordFile := none

def plainDeployment : Deployment where
  pbkdf2 := fun password salt _ => password ++ salt
  rounds := 100000
  passwordFilePath := "mosquitto/password_file"
  verificationEnabled := false

def calm : Environment where
  sharedPassword := ⟨"shared-shared-shared-shared-0123", by decide⟩
  backendPassword := ⟨"backend-backend-backend-01234567", by decide⟩
  sharedSalt := "c2hhcmVk"
  backendSalt := "YmFja2VuZA=="

/-- Settings of the shared-password mode over the files of the open one. -/
def sharedBroker : ProvisioningStore :=
  { openBroker with
    settings := ((OrderedMap.empty.set settingSecurityLevel "shared_password").set
      settingSharedUsername "aeolus-shared").set settingSharedPassword "shared-0123" }

theorem initializeService_agrees_shared :
    securityLevel sharedBroker = "shared_password" ∧ ¬ Agrees plainDeployment sharedBroker ∧
      Agrees plainDeployment (initializeService plainDeployment calm sharedBroker).2 := by
  refine ⟨by decide, fun agrees => ?_,
    initializeService_agrees plainDeployment sharedBroker rfl rfl fun _ => by decide⟩
  obtain ⟨_, _, config, _⟩ := (if_neg (by decide)).mp agrees
  exact absurd config (by decide)

theorem openBroker_agrees : Agrees plainDeployment openBroker := (if_pos rfl).mpr rfl

/-- Open mode is reconnecting when shared mode is asked for, and both come to connect. -/
def overlap : List ProvisioningEvent :=
  [.arrives (.setSecurityLevel "open") calm, .resumes 0 calm,
   .arrives (.setSecurityLevel "shared_password") calm, .resumes 1 calm,
   .resumes 0 calm, .resumes 0 calm]

/-- Settings written in the order of the files: the overlap does no harm. -/
theorem settings_describe_files_overlap :
    let final := run (ProvisioningState.step plainDeployment) ⟨openBroker, []⟩
      (overlap ++ [.resumes 0 calm, .resumes 0 calm])
    final.suspended = [] ∧ securityLevel final.store = "shared_password" ∧
      Agrees plainDeployment final.store := by
  refine ⟨by decide, by decide,
    settings_describe_files plainDeployment openBroker_agrees ?_ _ (List.prefix_refl _) (by decide)⟩
  have quiet : ∀ {s : ProvisioningState} {index : Nat} {job : Suspended},
      s.suspended[index]? = some job → (∀ env, ¬ job.Persists env ∧ ¬ job.Fails env) →
        InTurn s (.resumes index calm) := by
    intro s index job found neither other same pending before
    cases found.symm.trans same
    exact ⟨fun fails => absurd fails (neither calm).2,
      fun persists => absurd persists (neither calm).1⟩
  refine ⟨⟨fun half => half.2.2 rfl, nofun⟩, quiet rfl fun env => ⟨nofun, nofun⟩,
    ⟨fun half => half.2.2 rfl, nofun⟩, quiet rfl fun env => ⟨nofun, nofun⟩,
    quiet rfl fun env => ⟨nofun, nofun⟩, quiet rfl fun env => ⟨nofun, nofun⟩, ?_, ?_, trivial⟩
  · rintro job found pending before
    refine ⟨fun fails => ?_, fun _ => Or.inl ⟨_, ⟨_, List.mem_of_getElem? (i := 1) rfl, rfl⟩, rfl⟩⟩
    cases found
    exact absurd rfl fails
  · rintro job found pending before
    refine ⟨fun fails => ?_, fun _ => Or.inl ⟨_, ⟨_, List.mem_of_getElem? (i := 0) rfl, rfl⟩, rfl⟩⟩
    cases found
    exact absurd rfl fails

/-- The one that wrote its files first writes its settings last: the database says open,
and the broker asks for a password. -/
theorem open_persisted_over_shared :
    ¬ ∀ (d : Deployment) (store : ProvisioningStore) (events : List ProvisioningEvent),
      Agrees d store →
      (run (ProvisioningState.step d) ⟨store, []⟩ events).suspended = [] →
      Agrees d (run (ProvisioningState.step d) ⟨store, []⟩ events).store := by
  intro always
  have agrees := always plainDeployment openBroker (overlap ++ [.resumes 1 calm, .resumes 0 calm])
    openBroker_agrees (by decide)
  have config := (if_pos (by decide)).mp agrees
  exact absurd config (by decide)

end Aeolus.Mqtt
