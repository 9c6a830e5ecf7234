/-
# Aeolus.Mqtt.ProvisioningFailures — what a step that throws leaves behind

A change of level writes the files and then the settings, a change of a credential writes
the table and then the file, and a step that throws in between leaves one without the other.
`Strays` lists the calls and steps of which that is so; on every other the settings still
describe the files (`consistent_iff_not_strays`).

A password line is `username:$7$rounds$salt$key`.  Two lines are told apart by their
usernames and, with the same salt, by their keys (`line_injective`); that is how a password
file is seen to be of another policy.
-/
import Aeolus.Mqtt.ProvisioningSteps

namespace Aeolus.Mqtt

open Aeolus.Core Aeolus.Db Aeolus.Theory

/-! ## Password lines -/

/-- What the derivation of keys is relied on for: a key is in base 64, and no password has
its key from every random password. -/
structure Deployment.Hashes (d : Deployment) : Prop where
  plain : ∀ password salt, '$' ∉ (d.pbkdf2 password salt d.rounds).toList
  separates : ∀ password salt, ∃ drawn : RandomPassword,
    d.pbkdf2 drawn salt d.rounds ≠ d.pbkdf2 password salt d.rounds

theorem buildPasswordLine_toList (d : Deployment) (salt username password : String) :
    (buildPasswordLine d salt username password).toList =
      (username.toList ++ [':']) ++ '$' :: (['7'] ++ '$' :: ((toString d.rounds).toList ++
        '$' :: (salt.toList ++ '$' :: (d.pbkdf2 password salt d.rounds).toList))) := by
  have parts : (hashMosquittoPassword d salt password).toList = '$' :: (['7'] ++ '$' ::
      ((toString d.rounds).toList ++ '$' :: (salt.toList ++
        '$' :: (d.pbkdf2 password salt d.rounds).toList))) := by
    unfold hashMosquittoPassword
    rw [String.toList_intercalate]
    simp [List.intercalate, List.intersperse]
  unfold buildPasswordLine
  rw [String.toList_append, String.toList_append, parts]
  rfl

/-- A line without dollar signs in its username, salt and key is one line only. -/
theorem line_injective {d : Deployment} {salt username password salt' username' password' : String}
    (named : '$' ∉ username.toList) (salted : '$' ∉ salt.toList)
    (keyed : '$' ∉ (d.pbkdf2 password salt d.rounds).toList)
    (same : buildPasswordLine d salt username password =
      buildPasswordLine d salt' username' password') :
    username = username' ∧ salt = salt' ∧
      d.pbkdf2 password salt d.rounds = d.pbkdf2 password' salt' d.rounds := by
  have letters := congrArg (fun line => line.toList.splitOn '$') same
  simp only [buildPasswordLine_toList, List.splitOn_append_cons_self] at letters
  have single (l : List Char) : ∃ first rest, l.splitOn '$' = first :: rest :=
    List.exists_cons_of_ne_nil (List.splitOn_ne_nil '$' l)
  have prefixed : '$' ∉ username.toList ++ [':'] := by simp [named]
  rw [List.splitOn_eq_singleton prefixed, List.splitOn_eq_singleton salted,
    List.splitOn_eq_singleton keyed] at letters
  -- as many parts on either side, so the other line has none to spare
  obtain ⟨name, names, user⟩ := single (username'.toList ++ [':'])
  obtain ⟨round, rounds, turns⟩ := single (toString d.rounds).toList
  obtain ⟨grain, grains, saltParts⟩ := single salt'.toList
  obtain ⟨bit, bits, keyParts⟩ := single (d.pbkdf2 password' salt' d.rounds).toList
  have lengths := congrArg List.length letters
  rw [user, turns, saltParts, keyParts] at letters lengths
  simp only [List.length_append, List.length_cons, List.length_nil] at lengths
  obtain rfl : names = [] := List.eq_nil_of_length_eq_zero (by omega)
  obtain rfl : grains = [] := List.eq_nil_of_length_eq_zero (by omega)
  obtain rfl : bits = [] := List.eq_nil_of_length_eq_zero (by omega)
  simp only [List.cons_append, List.nil_append, List.cons.injEq, List.append_cancel_left_eq,
    and_true] at letters
  obtain ⟨rfl, -, rfl, rfl⟩ := letters
  have whole (l part : List Char) (parts : l.splitOn '$' = [part]) : part = l := by
    have joined : ['$'].intercalate (l.splitOn '$') = l := List.intercalate_splitOn _
    rw [parts] at joined
    simpa [List.intercalate] using joined
  have same_user := whole _ _ user
  exact ⟨String.toList_injective (List.append_cancel_right same_user),
    String.toList_injective (whole _ _ saltParts), String.toList_injective (whole _ _ keyParts)⟩

/-! ## Policies that differ -/

theorem device_line_head {store : ProvisioningStore} (provisioned : Provisioned store)
    {line : String} (listed : line ∈ getDeviceCredentialLines store) :
    line.toList.head? = some 'm' := by
  obtain ⟨row, member, rfl⟩ := List.mem_map.mp listed
  obtain ⟨inTable, other⟩ := List.mem_filter.mp (List.mem_mergeSort.mp member)
  rcases provisioned.named row inTable with backend | device
  · simp [backend] at other
  · rw [String.toList_append, String.toList_append, List.append_assoc, List.head?_append, device]
    rfl

/-- The line of the shared credential is not among the devices'. -/
theorem shared_line_foreign {d : Deployment} {store : ProvisioningStore} {salt password : String}
    (provisioned : Provisioned store) :
    buildPasswordLine d salt sharedUsername password ∉ getDeviceCredentialLines store := by
  intro listed
  have head := device_line_head provisioned listed
  rw [buildPasswordLine_toList, List.append_assoc, List.head?_append,
    show sharedUsername.toList.head? = some 'a' from by decide] at head
  cases head

section Differ

variable {d : Deployment} {store : ProvisioningStore} {draws : Draws} {backend : String}

theorem openConfig_ne (path : String) : openConfig ≠ authenticatedConfig path := by
  intro same
  have letters := congrArg (fun text => text.toList.drop 31 |>.head?) same
  rw [openConfig, authenticatedConfig, String.toList_intercalate, String.toList_intercalate]
    at letters
  simp [List.intercalate, List.intersperse] at letters

theorem not_agrees_of_closed (level : securityLevel store = "open")
    (config : store.config = some (authenticatedConfig d.passwordFilePath)) :
    ¬Agrees d store := by
  intro agrees
  have opened := (if_pos level).mp agrees
  rw [config, Option.some.injEq] at opened
  exact openConfig_ne _ opened.symm

theorem not_agrees_of_open (level : securityLevel store ≠ "open")
    (config : store.config = some openConfig) : ¬Agrees d store := by
  intro agrees
  obtain ⟨others, -, closed, -⟩ := (if_neg level).mp agrees
  rw [config, Option.some.injEq] at closed
  exact openConfig_ne _ closed

/-- The line of the shared credential is not a backend's. -/
theorem shared_line_ne_backend (hashes : d.Hashes) (salt : Salt) (password : String)
    {salt' password' : String} : buildPasswordLine d salt sharedUsername password ≠
      buildPasswordLine d salt' backendUsername password' := by
  intro same
  have named := (line_injective (by decide) salt.property (hashes.plain _ _) same).1
  exact absurd named (by decide)

theorem backend_line_ne_shared (hashes : d.Hashes) (salt : Salt) (password : String)
    {salt' password' : String} : buildPasswordLine d salt backendUsername password ≠
      buildPasswordLine d salt' sharedUsername password' := by
  intro same
  have named := (line_injective (by decide) salt.property (hashes.plain _ _) same).1
  exact absurd named (by decide)

theorem sharedCredential_password {shared : Credentials}
    (found : sharedCredential store = some shared) :
    readSetting settingSharedPassword store = some shared.password := by
  unfold sharedCredential at found
  split at found
  · rename_i username password user secret
    split at found
    · cases found
      exact secret
    · cases found
  · cases found

/-- A file with a newly drawn shared password, and settings that hold another or none. -/
theorem not_agrees_of_shared (hashes : d.Hashes) (provisioned : Provisioned store)
    (closed : securityLevel store ≠ "open")
    (file : store.passwordFile =
      some [sharedLine d draws sharedUsername, backendLine d draws backend])
    (other : ∀ shared, sharedCredential store = some shared →
      d.pbkdf2 draws.sharedPassword draws.sharedSalt d.rounds ≠
        d.pbkdf2 shared.password draws.sharedSalt d.rounds) : ¬Agrees d store := by
  intro agrees
  obtain ⟨others, entries, -, stored, salt, lines, -, -, here, perm⟩ := (if_neg closed).mp agrees
  rw [file, Option.some.injEq] at here
  subst here
  have listed : sharedLine d draws sharedUsername ∈ others := by
    rcases List.mem_cons.mp (perm.subset List.mem_cons_self) with same | member
    · exact absurd same (shared_line_ne_backend hashes draws.sharedSalt _)
    · exact member
  unfold Entries at entries
  split at entries
  · obtain ⟨shared, salt', found, rfl⟩ := entries
    obtain ⟨-, same, key⟩ := line_injective (by decide) draws.sharedSalt.property
      (hashes.plain _ _) (List.mem_singleton.mp listed)
    rw [← same] at key
    exact other shared found key
  · rw [entries] at listed
    exact shared_line_foreign provisioned listed

/-- A file with the devices' lines, and settings in shared mode. -/
theorem not_agrees_of_devices (hashes : d.Hashes) (provisioned : Provisioned store)
    (level : securityLevel store = "shared_password")
    (file : store.passwordFile =
      some (backendLine d draws backend :: getDeviceCredentialLines store)) :
    ¬Agrees d store := by
  intro agrees
  have closed : securityLevel store ≠ "open" := by
    rw [level]
    decide
  obtain ⟨others, entries, -, stored, salt, lines, -, -, here, perm⟩ := (if_neg closed).mp agrees
  rw [file, Option.some.injEq] at here
  subst here
  obtain ⟨shared, salt', found, rfl⟩ := (if_pos level).mp entries
  have named := provisioned.shared _ (sharedCredential_some found).1
  rw [named] at perm
  rcases List.mem_cons.mp (perm.symm.subset (List.mem_cons_of_mem _ List.mem_cons_self)) with
    same | member
  · exact backend_line_ne_shared hashes draws.backendSalt _ same.symm
  · exact shared_line_foreign provisioned member

/-- A device more or less than the file has lines for. -/
theorem not_agrees_of_count (level : securityLevel store = "per_device") {lines : List String}
    (file : store.passwordFile = some lines)
    (count : lines.length ≠ (getDeviceCredentialLines store).length + 1) : ¬Agrees d store := by
  intro agrees
  obtain ⟨others, entries, -, stored, salt, written, -, -, here, perm⟩ :=
    (if_neg (by rw [level]; decide)).mp agrees
  rw [file, Option.some.injEq] at here
  subst here
  rw [(if_neg (by rw [level]; decide)).mp entries] at perm
  exact count perm.length_eq

end Differ

/-! ## Where a failure strays -/

/-- The calls and the steps that, when they throw, leave other files than the settings and the
table describe.

* The files are of the new level, and the level is stored later or not at all;
* the shared password is in the file before it is stored;
* a device's row is written or deleted before its line. -/
def Strays (store : ProvisioningStore) : Operation → Stage → Prop
  | .setSecurityLevel level, stage =>
      level = "open" ∧ securityLevel store ≠ "open" ∧ stage ∈ [.reload, .reconnect, .level] ∨
      level = "shared_password" ∧
        (securityLevel store ≠ "open" ∧ stage = .config ∨
          stage ∈ [.reload, .reconnect, .level, .sharedUsername, .sharedPassword]) ∨
      level = "per_device" ∧
        (securityLevel store = "shared_password" ∧ stage = .config ∨
          securityLevel store ≠ "per_device" ∧ stage ∈ [.reload, .reconnect, .level])
  | .regenerateSharedPassword, stage =>
      securityLevel store = "shared_password" ∧ stage ∈ [.reload, .sharedPassword]
  | .createDeviceCredential deviceName, stage =>
      securityLevel store = "per_device" ∧ stage = .passwordFile ∧
        hasUsername store (sanitizeUsername deviceName) = false
  | .revokeDeviceCredential username, stage =>
      securityLevel store = "per_device" ∧ stage = .passwordFile ∧
        hasUsername store username = true ∧ username ≠ backendUsername

/-- The drawn shared password has another key than the stored one. -/
def Fresh (d : Deployment) (draws : Draws) (store : ProvisioningStore) : Prop :=
  ∀ password, readSetting settingSharedPassword store = some password →
    d.pbkdf2 draws.sharedPassword draws.sharedSalt d.rounds ≠
      d.pbkdf2 password draws.sharedSalt d.rounds

theorem exists_fresh {d : Deployment} (hashes : d.Hashes) (store : ProvisioningStore) :
    ∃ draws, Fresh d draws store := by
  obtain ⟨drawn, parted⟩ :=
    hashes.separates ((readSetting settingSharedPassword store).getD "") ""
  refine ⟨⟨drawn, drawn, drawn, ⟨"", nofun⟩, ⟨"", nofun⟩, ⟨"", nofun⟩⟩, fun password stored => ?_⟩
  rw [stored] at parted
  exact parted

/-- What is said of a store that a call leaves. -/
structure Judged (d : Deployment) (draws : Draws) (store : ProvisioningStore)
    (operation : Operation) (stage : Stage) (after : ProvisioningStore) : Prop where
  strays : Strays store operation stage → Fresh d draws store → ¬Agrees d after
  agrees : ¬Strays store operation stage → Agrees d after

section Stops

variable {d : Deployment} {store after : ProvisioningStore} {draws : Draws} {stage : Stage}

theorem Judged.of_agrees {operation : Operation} (kept : ¬Strays store operation stage)
    (agrees : Agrees d after) : Judged d draws store operation stage after :=
  ⟨fun strays => absurd strays kept, fun _ => agrees⟩

theorem Judged.of_not_agrees {operation : Operation} (strays : Strays store operation stage)
    (parted : Fresh d draws store → ¬Agrees d after) :
    Judged d draws store operation stage after :=
  ⟨fun _ => parted, fun kept => absurd strays kept⟩

/-- Where a change to open mode stops. -/
theorem open_judged (agrees : Agrees d store)
    (failed : (Operation.setSecurityLevel "open").failedAt d draws stage store = some after) :
    Judged d draws store (.setSecurityLevel "open") stage after := by
  have written {after : ProvisioningStore} (settings : after.settings = store.settings)
      (config : after.config = some openConfig) (late : stage ∈ [.reload, .reconnect, .level]) :
      Judged d draws store (.setSecurityLevel "open") stage after := by
    have level : securityLevel after = securityLevel store := by
      rw [securityLevel, readSetting, settings]
      rfl
    by_cases opened : securityLevel store = "open"
    · refine .of_agrees ?_ ((if_pos (level.trans opened)).mpr config)
      simp [Strays, opened]
    · refine .of_not_agrees (Or.inl ⟨rfl, opened, late⟩) fun _ => ?_
      exact not_agrees_of_open (level.trans_ne opened) config
  change stopAt stage openSteps store = some after at failed
  simp only [openSteps, stopAt_cons, stopAt_nil] at failed
  cases stage <;> simp [configStep, reloadStep, reconnectStep, settingStep] at failed <;>
    subst failed
  case config => exact .of_agrees (by simp [Strays]) agrees
  case reload => exact written rfl rfl (by decide)
  case reconnect => exact written rfl rfl (by decide)
  case level => exact written rfl rfl (by decide)

/-- The new password file, with the old shared password in the settings. -/
theorem Fresh.not_agrees (hashes : d.Hashes) (fresh : Fresh d draws store)
    (provisioned : Provisioned after) (closed : securityLevel after ≠ "open")
    (file : after.passwordFile = some [sharedLine d draws sharedUsername,
      backendLine d draws (backendPasswordOf draws store)])
    (secret : readSetting settingSharedPassword after = readSetting settingSharedPassword store) :
    ¬Agrees d after := by
  refine not_agrees_of_shared hashes provisioned closed file fun shared found => ?_
  exact fresh _ (secret ▸ sharedCredential_password found)

/-- Where a change to the shared password stops. -/
theorem shared_judged (hashes : d.Hashes) (provisioned : Provisioned store)
    (agrees : Agrees d store)
    (failed : (Operation.setSecurityLevel "shared_password").failedAt d draws stage store =
      some after) :
    Judged d draws store (.setSecurityLevel "shared_password") stage after := by
  have kept := failedAt_keeps provisioned failed
  change stopAt stage (sharedSteps d draws store) store = some after at failed
  rw [sharedSteps, stopAt_ensure] at failed
  have ensured := ensureSteps_spec draws store
  generalize applySteps (ensureSteps draws store) store = store' at failed ensured
  have level := ensured.level
  have secret := ensured.others settingSharedPassword (by decide)
  have stray (late : stage ∈ [.reload, .reconnect, .level, .sharedUsername, .sharedPassword])
      (file : after.passwordFile = some [sharedLine d draws sharedUsername,
        backendLine d draws (backendPasswordOf draws store)])
      (config : after.config = some (authenticatedConfig d.passwordFilePath))
      (same : readSetting settingSharedPassword after = readSetting settingSharedPassword store') :
      Judged d draws store (.setSecurityLevel "shared_password") stage after := by
    refine .of_not_agrees (Or.inr (Or.inl ⟨rfl, Or.inr late⟩)) fun fresh => ?_
    by_cases opened : securityLevel after = "open"
    · exact not_agrees_of_closed opened config
    · exact fresh.not_agrees hashes kept opened file (same.trans secret)
  simp only [stopAt_cons, stopAt_nil] at failed
  cases stage <;> simp [configStep, reloadStep, reconnectStep, settingStep, passwordFileStep]
    at failed
  case backendPassword =>
    obtain ⟨-, rfl⟩ := failed
    exact .of_agrees (by simp [Strays]) agrees
  case passwordFile =>
    subst failed
    exact .of_agrees (by simp [Strays]) (agrees.ensured ensured)
  case config =>
    subst failed
    by_cases opened : securityLevel store = "open"
    · refine .of_agrees (by simp [Strays, opened]) ((if_pos (level.trans opened)).mpr ?_)
      exact (if_pos (level.trans opened)).mp (agrees.ensured ensured)
    · refine .of_not_agrees (Or.inr (Or.inl ⟨rfl, Or.inl ⟨opened, rfl⟩⟩)) fun fresh => ?_
      exact fresh.not_agrees hashes kept (level.trans_ne opened) rfl secret
  all_goals subst failed
  case reload => exact stray (by decide) rfl rfl rfl
  case reconnect => exact stray (by decide) rfl rfl rfl
  case level => exact stray (by decide) rfl rfl rfl
  case sharedUsername =>
    exact stray (by decide) rfl rfl ((readSetting_set ..).trans (if_neg (by decide)))
  case sharedPassword =>
    refine stray (by decide) rfl rfl ?_
    exact ((readSetting_set ..).trans (if_neg (by decide))).trans
      ((readSetting_set ..).trans (if_neg (by decide)))

/-- Where a change to passwords of the devices stops. -/
theorem devices_judged (hashes : d.Hashes) (provisioned : Provisioned store)
    (agrees : Agrees d store)
    (failed : (Operation.setSecurityLevel "per_device").failedAt d draws stage store =
      some after) :
    Judged d draws store (.setSecurityLevel "per_device") stage after := by
  have kept := failedAt_keeps provisioned failed
  change stopAt stage (perDeviceSteps d draws store) store = some after at failed
  rw [perDeviceSteps, stopAt_ensure] at failed
  have ensured := ensureSteps_spec draws store
  generalize applySteps (ensureSteps draws store) store = store' at failed ensured
  have settled := agrees.ensured ensured
  have table : store'.mqttCredentials = store.mqttCredentials := by rw [ensured.rest]
  -- the file and, once the level is not open, the configuration are those of the new level
  have written (settings : after.settings = store'.settings)
      (rows : after.mqttCredentials = store'.mqttCredentials)
      (file : after.passwordFile = some
        (backendLine d draws (backendPasswordOf draws store) :: getDeviceCredentialLines store))
      (config : securityLevel store ≠ "open" →
        after.config = some (authenticatedConfig d.passwordFilePath)) :
      (securityLevel store = "shared_password" → ¬Agrees d after) ∧
        (securityLevel store = "per_device" → Agrees d after) := by
    have level : securityLevel after = securityLevel store := by
      rw [securityLevel, readSetting, settings]
      exact ensured.level
    have lines : getDeviceCredentialLines after = getDeviceCredentialLines store := by
      rw [getDeviceCredentialLines, rows, table]
      rfl
    constructor
    · intro shared
      exact not_agrees_of_devices hashes kept (level.trans shared) (lines ▸ file)
    · intro devices
      refine (if_neg (by rw [level, devices]; decide)).mpr
        ⟨getDeviceCredentialLines after, ?_, ?_⟩
      · exact (if_neg (by rw [level, devices]; decide)).mpr rfl
      · rw [lines]
        exact ensured.authenticated settings (config (by rw [devices]; decide)) file (.refl _)
  have late (stages : stage ∈ [.reload, .reconnect, .level])
      (settings : after.settings = store'.settings)
      (rows : after.mqttCredentials = store'.mqttCredentials)
      (file : after.passwordFile = some
        (backendLine d draws (backendPasswordOf draws store) :: getDeviceCredentialLines store))
      (config : after.config = some (authenticatedConfig d.passwordFilePath)) :
      Judged d draws store (.setSecurityLevel "per_device") stage after := by
    obtain ⟨shared, devices⟩ := written settings rows file fun _ => config
    by_cases same : securityLevel store = "per_device"
    · refine .of_agrees ?_ (devices same)
      rintro (⟨other, -⟩ | ⟨other, -⟩ | ⟨-, ⟨other, -⟩ | ⟨other, -⟩⟩)
      · exact absurd other (by decide)
      · exact absurd other (by decide)
      · exact absurd (same.symm.trans other) (by decide)
      · exact other same
    · refine .of_not_agrees (Or.inr (Or.inr ⟨rfl, Or.inr ⟨same, stages⟩⟩)) fun _ => ?_
      by_cases opened : securityLevel store = "open"
      · refine not_agrees_of_closed ?_ config
        rw [securityLevel, readSetting, settings]
        exact ensured.level.trans opened
      · refine shared ?_
        have levels := provisioned.levels
        simpa [opened, same] using levels
  simp only [stopAt_cons, stopAt_nil] at failed
  cases stage <;> simp [configStep, reloadStep, reconnectStep, settingStep, passwordFileStep]
    at failed
  case backendPassword =>
    obtain ⟨-, rfl⟩ := failed
    exact .of_agrees (by simp [Strays]) agrees
  all_goals subst failed
  case passwordFile => exact .of_agrees (by simp [Strays]) settled
  case config =>
    have configured (closed : securityLevel store ≠ "open") :
        store'.config = some (authenticatedConfig d.passwordFilePath) := by
      obtain ⟨_, -, authenticated⟩ := (if_neg (ensured.level.trans_ne closed)).mp settled
      exact authenticated.1
    obtain ⟨shared, devices⟩ := written rfl rfl rfl configured
    by_cases opened : securityLevel store = "open"
    · refine .of_agrees (by simp [Strays, opened]) ((if_pos (ensured.level.trans opened)).mpr ?_)
      exact (if_pos (ensured.level.trans opened)).mp settled
    by_cases same : securityLevel store = "shared_password"
    · exact .of_not_agrees (Or.inr (Or.inr ⟨rfl, Or.inl ⟨same, rfl⟩⟩)) fun _ => shared same
    · refine .of_agrees (by simp [Strays, same]) (devices ?_)
      have levels := provisioned.levels
      simpa [opened, same] using levels
  case reload => exact late (by decide) rfl rfl rfl rfl
  case reconnect => exact late (by decide) rfl rfl rfl rfl
  case level => exact late (by decide) rfl rfl rfl rfl

/-- Where a new shared password stops. -/
theorem regenerate_judged (hashes : d.Hashes) (provisioned : Provisioned store)
    (agrees : Agrees d store)
    (failed : Operation.regenerateSharedPassword.failedAt d draws stage store = some after) :
    Judged d draws store .regenerateSharedPassword stage after := by
  have kept := failedAt_keeps provisioned failed
  by_cases shared : securityLevel store = "shared_password"
  · simp only [Operation.failedAt, Operation.steps, if_pos shared] at failed
    rw [regenerateSteps, stopAt_ensure] at failed
    have ensured := ensureSteps_spec draws store
    generalize applySteps (ensureSteps draws store) store = store' at failed ensured
    have named : (readSetting settingSharedUsername store).getD sharedUsername =
        sharedUsername := by
      cases found : readSetting settingSharedUsername store with
      | none => rfl
      | some username => exact provisioned.shared username found
    rw [named] at failed
    have closed : securityLevel store' ≠ "open" := by
      rw [ensured.level, shared]
      decide
    have secret := ensured.others settingSharedPassword (by decide)
    simp only [stopAt_cons, stopAt_nil] at failed
    cases stage <;> simp [reloadStep, settingStep, passwordFileStep] at failed
    case backendPassword =>
      obtain ⟨-, rfl⟩ := failed
      exact .of_agrees (by simp [Strays]) agrees
    all_goals subst failed
    case passwordFile => exact .of_agrees (by simp [Strays]) (agrees.ensured ensured)
    case reload =>
      refine .of_not_agrees ⟨shared, by decide⟩ fun fresh => ?_
      exact fresh.not_agrees hashes kept closed rfl secret
    case sharedPassword =>
      refine .of_not_agrees ⟨shared, by decide⟩ fun fresh => ?_
      exact fresh.not_agrees hashes kept closed rfl secret
  · simp only [Operation.failedAt, Operation.steps, if_neg shared] at failed
    cases failed

theorem getDeviceCredentialLines_length (store : ProvisioningStore) :
    (getDeviceCredentialLines store).length =
      store.mqttCredentials.countP (·.username ≠ backendUsername) := by
  simp [getDeviceCredentialLines, List.countP_eq_length_filter]

/-- In an agreeing store the file has a line for each device, and the backend's. -/
theorem Agrees.length (agrees : Agrees d store) (level : securityLevel store = "per_device") :
    ∃ lines, store.passwordFile = some lines ∧
      lines.length = store.mqttCredentials.countP (·.username ≠ backendUsername) + 1 := by
  obtain ⟨others, entries, -, _, _, lines, -, -, file, perm⟩ :=
    (if_neg (by rw [level]; decide)).mp agrees
  refine ⟨lines, file, ?_⟩
  rw [perm.length_eq, (if_neg (by rw [level]; decide)).mp entries, List.length_cons,
    getDeviceCredentialLines_length]

/-- The table is written and the file is not. -/
theorem table_judged (agrees : Agrees d store) (level : securityLevel store = "per_device")
    {operation : Operation} (change : List MqttCredentialRow → List MqttCredentialRow)
    (strays : Strays store operation stage ↔ stage = .passwordFile ∧
      (change store.mqttCredentials).countP (·.username ≠ backendUsername) ≠
        store.mqttCredentials.countP (·.username ≠ backendUsername))
    (same : (change store.mqttCredentials).countP (·.username ≠ backendUsername) =
        store.mqttCredentials.countP (·.username ≠ backendUsername) →
      getDeviceCredentialLines { store with mqttCredentials := change store.mqttCredentials } =
        getDeviceCredentialLines store)
    (failed : stopAt stage (credentialSteps d draws store change) store = some after) :
    Judged d draws store operation stage after := by
  simp only [credentialSteps, stopAt_cons, stopAt_nil] at failed
  cases stage <;> simp [credentialsStep, passwordFileStep] at failed <;> subst failed
  case credential => exact .of_agrees (fun both => by cases (strays.mp both).1) agrees
  case passwordFile =>
    obtain ⟨lines, file, count⟩ := agrees.length level
    by_cases counted : (change store.mqttCredentials).countP (·.username ≠ backendUsername) =
        store.mqttCredentials.countP (·.username ≠ backendUsername)
    · refine .of_agrees (fun both => (strays.mp both).2 counted) ?_
      obtain ⟨others, entries, authenticated⟩ := (if_neg (by rw [level]; decide)).mp agrees
      refine (if_neg (show securityLevel store ≠ "open" by rw [level]; decide)).mpr
        ⟨others, ?_, authenticated⟩
      have devices := (if_neg (by rw [level]; decide)).mp entries
      exact (if_neg (show securityLevel store ≠ "shared_password" by rw [level]; decide)).mpr
        (devices.trans (same counted).symm)
    · refine .of_not_agrees (strays.mpr ⟨rfl, counted⟩) fun _ => ?_
      refine not_agrees_of_count level file fun same => counted ?_
      rw [count, getDeviceCredentialLines_length] at same
      exact (Nat.add_right_cancel same).symm

/-- Where a new credential stops. -/
theorem create_judged (agrees : Agrees d store) {deviceName : String}
    (failed : (Operation.createDeviceCredential deviceName).failedAt d draws stage store =
      some after) :
    Judged d draws store (.createDeviceCredential deviceName) stage after := by
  simp only [Operation.failedAt, Operation.steps] at failed
  by_cases level : securityLevel store = "per_device"
  · rw [if_neg (not_not.mpr level)] at failed
    cases unused : hasUsername store (sanitizeUsername deviceName) with
    | true =>
        rw [unused] at failed
        cases failed
    | false =>
        rw [unused] at failed
        have device : sanitizeUsername deviceName ≠ backendUsername := by
          intro same
          have head := sanitizeUsername_head deviceName
          rw [same] at head
          exact absurd head (by decide)
        have more : (store.mqttCredentials ++
            [newRow d draws (sanitizeUsername deviceName)]).countP
              (·.username ≠ backendUsername) =
            store.mqttCredentials.countP (·.username ≠ backendUsername) + 1 := by
          simp [List.countP_append, newRow, device]
        refine table_judged agrees level (· ++ [_]) ?_ (fun counted => ?_) failed
        · rw [more]
          simp [Strays, level, unused]
        · rw [more] at counted
          omega
  · rw [if_pos level] at failed
    cases failed

theorem deleted_count (rows : List MqttCredentialRow) (username : String) :
    (rows.filter (·.username ≠ username)).countP (·.username ≠ backendUsername) =
      rows.countP (·.username ≠ backendUsername) ↔
        ∀ row ∈ rows, row.username ≠ backendUsername → row.username ≠ username := by
  rw [List.countP_eq_length_filter, List.countP_eq_length_filter, List.filter_comm,
    List.length_filter_eq_length_iff]
  simp

/-- Where a revocation stops. -/
theorem revoke_judged (agrees : Agrees d store) {username : String}
    (failed : (Operation.revokeDeviceCredential username).failedAt d draws stage store =
      some after) :
    Judged d draws store (.revokeDeviceCredential username) stage after := by
  simp only [Operation.failedAt, Operation.steps] at failed
  by_cases level : securityLevel store = "per_device"
  · rw [if_neg (not_not.mpr level)] at failed
    cases listed : hasUsername store username with
    | true =>
        rw [listed, agrees.ensureSteps (by rw [level]; decide), List.append_nil] at failed
        refine table_judged agrees level (·.filter (·.username ≠ username)) ?_ (fun counted => ?_)
          failed
        · rw [Ne, deleted_count]
          obtain ⟨row, member, named⟩ := List.any_eq_true.mp listed
          simp only [Strays, level, listed, true_and]
          refine and_congr_right fun _ => ⟨fun device all => ?_, fun some backend => some ?_⟩
          · have name := of_decide_eq_true named
            exact all row member (name ▸ device) name
          · intro other _ device same
            exact device (same.trans backend)
        · unfold getDeviceCredentialLines
          rw [List.filter_comm, List.filter_eq_self.mpr]
          intro row member
          obtain ⟨inTable, device⟩ := List.mem_filter.mp member
          exact decide_eq_true ((deleted_count _ _).mp counted row inTable (of_decide_eq_true device))
    | false =>
        rw [listed] at failed
        cases failed
  · rw [if_pos level] at failed
    cases failed

/-- Where a call that is not one of the three levels stops: nowhere. -/
theorem setSecurityLevel_invalid {level : String} (opened : level ≠ "open")
    (shared : level ≠ "shared_password") (devices : level ≠ "per_device") :
    (Operation.setSecurityLevel level).failedAt d draws stage store = none := by
  simp [Operation.failedAt, Operation.steps, opened, shared, devices]

theorem failedAt_judged (hashes : d.Hashes) (provisioned : Provisioned store)
    (agrees : Agrees d store) {operation : Operation}
    (failed : operation.failedAt d draws stage store = some after) :
    Judged d draws store operation stage after := by
  cases operation with
  | setSecurityLevel level =>
      by_cases opened : level = "open"
      · subst opened
        exact open_judged agrees failed
      by_cases shared : level = "shared_password"
      · subst shared
        exact shared_judged hashes provisioned agrees failed
      by_cases devices : level = "per_device"
      · subst devices
        exact devices_judged hashes provisioned agrees failed
      · rw [setSecurityLevel_invalid opened shared devices] at failed
        cases failed
  | regenerateSharedPassword => exact regenerate_judged hashes provisioned agrees failed
  | createDeviceCredential deviceName => exact create_judged agrees failed
  | revokeDeviceCredential username => exact revoke_judged agrees failed

/-- A stage at which a call strays is one that it has. -/
theorem failedAt_of_strays (draws : Draws) {operation : Operation}
    (strays : Strays store operation stage) :
    ∃ after, operation.failedAt d draws stage store = some after := by
  have reached (steps : List Step) (found : steps.any (·.stage = stage) = true) :
      ∃ after, stopAt stage steps store = some after := ⟨_, if_pos found⟩
  have table (change : List MqttCredentialRow → List MqttCredentialRow)
      (file : stage = .passwordFile) :
      (credentialSteps d draws store change).any (·.stage = stage) = true := by
    subst file
    rfl
  cases operation with
  | setSecurityLevel level =>
      rcases strays with ⟨rfl, -, stages⟩ | ⟨rfl, stages⟩ | ⟨rfl, stages⟩
      · refine reached openSteps ?_
        cases stage <;> simp at stages <;> rfl
      · refine reached (sharedSteps d draws store) ?_
        rw [sharedSteps, List.any_append, Bool.or_eq_true]
        cases stage <;> simp at stages <;> exact Or.inr rfl
      · refine reached (perDeviceSteps d draws store) ?_
        rw [perDeviceSteps, List.any_append, Bool.or_eq_true]
        cases stage <;> simp at stages <;> exact Or.inr rfl
  | regenerateSharedPassword =>
      obtain ⟨level, stages⟩ := strays
      simp only [Operation.failedAt, Operation.steps, if_pos level]
      refine reached _ ?_
      rw [regenerateSteps, List.any_append, Bool.or_eq_true]
      cases stage <;> simp at stages <;> exact Or.inr rfl
  | createDeviceCredential deviceName =>
      obtain ⟨level, file, unused⟩ := strays
      simp only [Operation.failedAt, Operation.steps, level, unused]
      exact reached _ (table _ file)
  | revokeDeviceCredential username =>
      obtain ⟨level, file, listed, -⟩ := strays
      simp only [Operation.failedAt, Operation.steps, level, listed]
      refine reached _ ?_
      rw [List.any_append, table _ file]
      rfl

/-- **A step that throws leaves the files as the settings and the credentials describe them,
unless the call and the step are of those that stray.** -/
theorem consistent_iff_not_strays (hashes : d.Hashes) (provisioned : Provisioned store)
    (agrees : Agrees d store) (operation : Operation) (stage : Stage) :
    (∀ draws after, operation.failedAt d draws stage store = some after → Agrees d after) ↔
      ¬Strays store operation stage := by
  refine ⟨fun consistent strays => ?_, fun kept draws after failed => ?_⟩
  · obtain ⟨draws, fresh⟩ := exists_fresh hashes store
    obtain ⟨after, failed⟩ := failedAt_of_strays (d := d) draws strays
    exact (failedAt_judged hashes provisioned agrees failed).strays strays fresh
      (consistent draws after failed)
  · exact (failedAt_judged hashes provisioned agrees failed).agrees kept

end Stops

/-- A key is the password and the salt without their dollar signs. -/
def dollarless : Deployment :=
  { plainDeployment with
    pbkdf2 := fun password salt _ =>
      String.ofList ((password.toList ++ salt.toList).filter (· ≠ '$')) }

theorem dollarless_hashes : dollarless.Hashes where
  plain password salt := by simp [dollarless]
  separates password salt := by
    -- two random passwords have different keys, so one of them has another than this
    let drawn (c : Char) : RandomPassword := ⟨String.ofList (List.replicate 32 c), by simp⟩
    have apart : dollarless.pbkdf2 (drawn 'a') salt dollarless.rounds ≠
        dollarless.pbkdf2 (drawn 'b') salt dollarless.rounds := by
      simp [dollarless, drawn, List.filter_append]
    by_cases first : dollarless.pbkdf2 (drawn 'a') salt dollarless.rounds =
        dollarless.pbkdf2 password salt dollarless.rounds
    · exact ⟨drawn 'b', fun second => apart (first.trans second.symm)⟩
    · exact ⟨drawn 'a', first⟩

theorem openBroker_provisioned : Provisioned openBroker := ⟨by decide, nofun, nofun⟩

/-- From open mode, a reconnect that throws on the way to the shared password. -/
theorem consistent_iff_not_strays_reconnect :
    ¬∀ draws after, (Operation.setSecurityLevel "shared_password").failedAt dollarless draws
      .reconnect openBroker = some after → Agrees dollarless after := fun consistent =>
  (consistent_iff_not_strays dollarless_hashes openBroker_provisioned ((if_pos rfl).mpr rfl)
    (.setSecurityLevel "shared_password") .reconnect).mp consistent
    (Or.inr (Or.inl ⟨rfl, Or.inr (by decide)⟩))

theorem labPassword_length : "shared-shared-shared-shared-0123".length = 32 := by decide

theorem labBackendPassword_length : "backend-backend-backend-01234567".length = 32 := by decide

def labDraws : Draws where
  sharedPassword := ⟨"shared-shared-shared-shared-0123", labPassword_length⟩
  backendPassword := ⟨"backend-backend-backend-01234567", labBackendPassword_length⟩
  devicePassword := ⟨"device-device-device-device-0123", by decide⟩
  sharedSalt := ⟨"c2hhcmVk", by decide⟩
  backendSalt := ⟨"YmFja2VuZA==", by decide⟩
  deviceSalt := ⟨"ZGV2aWNl", by decide⟩

/-- The broker asks for passwords, and the level in the database is open. -/
theorem reconnect_leaves_passwords :
    ¬∀ (d : Deployment) (store after : ProvisioningStore) (draws : Draws)
      (operation : Operation) (stage : Stage), Provisioned store → Agrees d store →
        operation.failedAt d draws stage store = some after → Agrees d after := by
  intro always
  have agrees := always dollarless openBroker _ labDraws (.setSecurityLevel "shared_password")
    .reconnect openBroker_provisioned ((if_pos rfl).mpr rfl) rfl
  exact not_agrees_of_closed rfl rfl agrees

end Aeolus.Mqtt
