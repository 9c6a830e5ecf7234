/-
# Aeolus.Mqtt.BrokerConfirmation — which operations the broker can be seen to have applied

A confirmation is worth what its checks tell apart: a broker that still goes by the old
files must fail one of them (`vouches_iff_discriminates`).  Between an open policy and a
closed one the anonymous check does that, and a new credential is one that the old files
do not know.  The other changes are not told apart: from one kind of passwords to another
the checks ask only what both answer alike, and a revoked credential is tried with a
password that was never its own (`vouches_iff_seen`).
-/
import Aeolus.Mqtt.BrokerVerifier
import Aeolus.Mqtt.ProvisioningFailures

namespace Aeolus.Mqtt

open Aeolus.Core Aeolus.Db Aeolus.Theory

/-! ## Lines and who they let in -/

/-- The two passwords have one key. -/
def Deployment.SameKey (d : Deployment) (salt password other : String) : Prop :=
  d.pbkdf2 password salt d.rounds = d.pbkdf2 other salt d.rounds

/-- What the derivation of keys is relied on for: beside `Hashes`, passwords that have one
key with some salt are one password to it. -/
structure Deployment.SaltedHashes (d : Deployment) : Prop extends d.Hashes where
  salted : ∀ {password other salt : String}, d.SameKey salt password other →
    ∀ salt', d.SameKey salt' password other

/-- What stands before the first separator, and what after it. -/
theorem append_cons_cancel {separator : Char} {before before' after after' : List Char}
    (free : separator ∉ before) (free' : separator ∉ before')
    (same : before ++ separator :: after = before' ++ separator :: after') :
    before = before' ∧ after = after' := by
  induction before generalizing before' with
  | nil =>
      cases before' with
      | nil => exact ⟨rfl, (List.cons.inj same).2⟩
      | cons c rest =>
          rw [(List.cons.inj same).1] at free'
          exact absurd List.mem_cons_self free'
  | cons c rest ih =>
      cases before' with
      | nil =>
          rw [← (List.cons.inj same).1] at free
          exact absurd List.mem_cons_self free
      | cons c' rest' =>
          obtain ⟨rfl, tails⟩ := List.cons.inj same
          obtain ⟨rfl, rfl⟩ := ih (fun member => free (List.mem_cons_of_mem _ member))
            (fun member => free' (List.mem_cons_of_mem _ member)) tails
          exact ⟨rfl, rfl⟩

theorem buildPasswordLine_inj {d : Deployment} (hashes : d.Hashes)
    {salt username password salt' username' password' : String}
    (named : ':' ∉ username.toList) (named' : ':' ∉ username'.toList) :
    buildPasswordLine d salt username password = buildPasswordLine d salt' username' password' ↔
      username = username' ∧ salt = salt' ∧ d.SameKey salt password password' := by
  refine ⟨fun same => ?_, ?_⟩
  · have letters := congrArg String.toList same
    simp only [buildPasswordLine_toList, List.append_assoc, List.cons_append, List.nil_append]
      at letters
    obtain ⟨user, rest⟩ := append_cons_cancel named named' letters
    simp only [List.cons.injEq, true_and, List.append_cancel_left_eq] at rest
    have turned := congrArg List.reverse rest
    simp only [List.reverse_append, List.reverse_cons, List.append_assoc, List.singleton_append]
      at turned
    obtain ⟨key, grain⟩ := append_cons_cancel (by simpa using hashes.plain password salt)
      (by simpa using hashes.plain password' salt') turned
    obtain rfl : salt = salt' := String.toList_injective (List.reverse_injective grain)
    exact ⟨String.toList_injective user, rfl,
      String.toList_injective (List.reverse_injective key)⟩
  · rintro ⟨rfl, rfl, key⟩
    unfold buildPasswordLine hashMosquittoPassword
    rw [show d.pbkdf2 password salt d.rounds = _ from key]

/-- A credential whose line this is. -/
def LineOf (d : Deployment) (credentials : Credentials) (line : String) : Prop :=
  ∃ salt, buildPasswordLine d salt credentials.username credentials.password = line

theorem lineOf_built {d : Deployment} (hashes : d.SaltedHashes) (salt : String)
    {username password : String} (named : ':' ∉ username.toList) {credentials : Credentials}
    (entered : ':' ∉ credentials.username.toList) :
    LineOf d credentials (buildPasswordLine d salt username password) ↔
      credentials.username = username ∧ d.SameKey "" credentials.password password := by
  refine ⟨?_, ?_⟩
  · rintro ⟨salt', same⟩
    obtain ⟨user, -, key⟩ := (buildPasswordLine_inj hashes.toHashes entered named).mp same
    exact ⟨user, hashes.salted key ""⟩
  · rintro ⟨user, key⟩
    exact ⟨salt, (buildPasswordLine_inj hashes.toHashes entered named).mpr
      ⟨user, rfl, hashes.salted key salt⟩⟩

theorem admits_passwords {d : Deployment} {lines : List String} {credentials : Credentials} :
    (BrokerPolicy.passwords lines).Admits d (some credentials) ↔
      ':' ∉ credentials.username.toList ∧ ∃ line ∈ lines, LineOf d credentials line := by
  refine and_congr_right fun _ => ?_
  constructor
  · rintro ⟨salt, member⟩
    exact ⟨_, member, salt, rfl⟩
  · rintro ⟨_, member, salt, rfl⟩
    exact ⟨salt, member⟩

/-! ## The policies before and after -/

/-- What the credential functions keep of the table. -/
def Issued (d : Deployment) (store : ProvisioningStore) : Prop :=
  ∀ row ∈ store.mqttCredentials,
    (row.username = backendUsername ∨ ∃ deviceName, row.username = sanitizeUsername deviceName) ∧
      ∃ salt password, row.passwordHash = hashMosquittoPassword d salt password

theorem backendUsername_plain : ':' ∉ backendUsername.toList := by decide

theorem sharedUsername_plain : ':' ∉ sharedUsername.toList := by decide

theorem sharedUsername_ne : sharedUsername ≠ backendUsername := by decide

theorem collapseHyphens_sublist (text : List Char) : (collapseHyphens text).Sublist text := by
  induction text with
  | nil => exact .slnil
  | cons c rest ih =>
      rw [collapseHyphens]
      split
      · exact ih.cons c
      · exact ih.cons_cons c

theorem mem_of_mem_stripHyphens {text : List Char} {c : Char} (member : c ∈ stripHyphens text) :
    c ∈ text := by
  have strip {text : List Char}
      (member : c ∈ if text.head? = some '-' then text.tail else text) : c ∈ text := by
    split at member
    · exact List.mem_of_mem_tail member
    · exact member
  exact strip (List.mem_reverse.mp (strip (List.mem_reverse.mp member)))

theorem sanitizeUsername_plain (deviceName : String) :
    ':' ∉ (sanitizeUsername deviceName).toList := by
  simp only [sanitizeUsername, String.toList_append, List.mem_append, String.toList_ofList]
  rintro (fixed | sanitized)
  · exact absurd fixed (by decide)
  · have inMap := (collapseHyphens_sublist _).subset (mem_of_mem_stripHyphens sanitized)
    obtain ⟨c, -, mapped⟩ := List.mem_map.mp inMap
    split at mapped
    · rename_i plain
      subst mapped
      exact absurd plain (by decide)
    · exact absurd mapped (by decide)

theorem Issued.plain {d : Deployment} {store : ProvisioningStore} (issued : Issued d store)
    {row : MqttCredentialRow} (member : row ∈ store.mqttCredentials) :
    ':' ∉ row.username.toList := by
  rcases (issued row member).1 with backend | ⟨deviceName, device⟩
  · rw [backend]
    decide
  · rw [device]
    exact sanitizeUsername_plain deviceName

theorem mem_deviceLines {store : ProvisioningStore} {line : String} :
    line ∈ getDeviceCredentialLines store ↔ ∃ row ∈ store.mqttCredentials,
      row.username ≠ backendUsername ∧ row.username ++ ":" ++ row.passwordHash = line := by
  simp [getDeviceCredentialLines, and_assoc]

/-- A device gets in with the password that its row has the hash of. -/
theorem deviceLines_lineOf {d : Deployment} {store : ProvisioningStore} (hashes : d.SaltedHashes)
    (issued : Issued d store) {credentials : Credentials}
    (entered : ':' ∉ credentials.username.toList) :
    (∃ line ∈ getDeviceCredentialLines store, LineOf d credentials line) ↔
      ∃ row ∈ store.mqttCredentials, row.username ≠ backendUsername ∧
        credentials.username = row.username ∧
        ∃ salt, row.passwordHash = hashMosquittoPassword d salt credentials.password := by
  constructor
  · rintro ⟨line, listed, salt, same⟩
    obtain ⟨row, member, device, rfl⟩ := mem_deviceLines.mp listed
    obtain ⟨-, salt', password, hashed⟩ := issued row member
    rw [hashed] at same
    obtain ⟨user, rfl, key⟩ :=
      (buildPasswordLine_inj hashes.toHashes entered (issued.plain member)).mp same
    refine ⟨row, member, device, user, salt, ?_⟩
    rw [hashed, hashMosquittoPassword, hashMosquittoPassword]
    rw [show d.pbkdf2 credentials.password salt d.rounds = _ from key]
  · rintro ⟨row, member, device, user, salt, hashed⟩
    refine ⟨_, mem_deviceLines.mpr ⟨row, member, device, rfl⟩, salt, ?_⟩
    rw [hashed, ← user]
    rfl

/-- Who gets in beside the backend. -/
def Lets (d : Deployment) (backend : String) (others : List String) : Option Credentials → Prop
  | none => False
  | some credentials => ':' ∉ credentials.username.toList ∧
      (credentials.username = backendUsername ∧ d.SameKey "" credentials.password backend ∨
        ∃ line ∈ others, LineOf d credentials line)

theorem admits_of_perm {d : Deployment} (hashes : d.SaltedHashes) {salt backend : String}
    {lines others : List String}
    (perm : lines.Perm (buildPasswordLine d salt backendUsername backend :: others))
    (credentials : Option Credentials) :
    (BrokerPolicy.passwords lines).Admits d credentials ↔ Lets d backend others credentials := by
  cases credentials with
  | none => exact Iff.rfl
  | some credentials =>
      rw [admits_passwords]
      refine and_congr_right fun entered => ?_
      rw [← lineOf_built hashes salt backendUsername_plain entered]
      simp only [perm.mem_iff]
      exact List.exists_mem_cons_iff _ _ _

section Before

variable {d : Deployment} {store : ProvisioningStore}

theorem filesPolicy_open (agrees : Agrees d store) (level : securityLevel store = "open") :
    filesPolicy store = .anonymous := if_pos ((if_pos level).mp agrees)

theorem filesPolicy_closed {after : ProvisioningStore} {lines : List String}
    (config : after.config = some (authenticatedConfig d.passwordFilePath))
    (file : after.passwordFile = some lines) : filesPolicy after = .passwords lines := by
  unfold filesPolicy
  rw [config, file, if_neg]
  · rfl
  · intro same
    exact openConfig_ne _ (Option.some.inj same).symm

/-- An agreeing store that is not open: its files let in whom its settings name. -/
structure Closed (d : Deployment) (store : ProvisioningStore) (backend : String)
    (others : List String) : Prop where
  entries : Entries d store others
  config : store.config = some (authenticatedConfig d.passwordFilePath)
  secret : truthy (readSetting settingBackendPassword store) = some backend
  stored : ∀ draws, backendPasswordOf draws store = backend
  ensured : ∀ draws, ensureSteps draws store = []
  admits : ∀ credentials, (filesPolicy store).Admits d credentials ↔
    Lets d backend others credentials

theorem Agrees.closed (hashes : d.SaltedHashes) (agrees : Agrees d store)
    (closed : securityLevel store ≠ "open") : ∃ backend others, Closed d store backend others := by
  have ensured := agrees.ensureSteps closed
  obtain ⟨others, entries, config, backend, salt, lines, stored, set, file, perm⟩ :=
    (if_neg closed).mp agrees
  have secret : truthy (readSetting settingBackendPassword store) = some backend := by
    rw [stored, truthy, Option.filter_some, if_pos (by simpa using set)]
  refine ⟨backend, others, entries, config, secret, fun draws => ?_, ensured,
    fun credentials => ?_⟩
  · unfold backendPasswordOf
    rw [secret]
    rfl
  · rw [filesPolicy_closed config file]
    exact admits_of_perm hashes perm credentials

end Before

/-! ## Operation by operation -/

/-- The changes that a broker with the old files confirms as well. -/
def Unseen (d : Deployment) (store : ProvisioningStore) : Operation → Prop
  | .setSecurityLevel level =>
      level = "shared_password" ∧ securityLevel store ≠ "open" ∨
        level = "per_device" ∧ securityLevel store = "shared_password"
  | .regenerateSharedPassword => False
  | .createDeviceCredential _ => False
  | .revokeDeviceCredential username =>
      securityLevel store = "per_device" ∧ username ≠ backendUsername ∧
        hasUsername store username = true ∧
        ∀ row ∈ store.mqttCredentials, row.username = username →
          ∀ salt, row.passwordHash ≠ hashMosquittoPassword d salt "revoked"

section Operations

variable {d : Deployment} {store : ProvisioningStore}

/-- Passwords in place of passwords: the backend gets in before and after. -/
theorem Closed.equivalent_iff {backend : String} {others : List String}
    (closed : Closed d store backend others) (hashes : d.SaltedHashes) {salt : String}
    {after : ProvisioningStore} (lines others' : List String)
    (config : after.config = some (authenticatedConfig d.passwordFilePath))
    (file : after.passwordFile = some lines)
    (perm : lines.Perm (buildPasswordLine d salt backendUsername backend :: others')) :
    (filesPolicy store).Equivalent d (filesPolicy after) ↔
      ∀ credentials, Lets d backend others credentials ↔ Lets d backend others' credentials := by
  rw [filesPolicy_closed config file]
  refine forall_congr' fun credentials => ?_
  rw [closed.admits, admits_of_perm hashes perm]

theorem Closed.backend_passes {backend : String} {others : List String}
    (closed : Closed d store backend others) (draws : Draws) (description : String) :
    (backendCheck description draws store).Passes d (filesPolicy store) := by
  refine iff_of_true ((closed.admits _).mpr ⟨backendUsername_plain, Or.inl ⟨rfl, ?_⟩⟩) rfl
  rw [closed.stored]
  rfl

/-- Between passwords, a change of level asks for what both policies answer alike. -/
theorem Closed.passes {backend : String} {others : List String}
    (closed : Closed d store backend others) (draws : Draws) (first second : String) :
    ∀ check ∈ [⟨first, none, false⟩, backendCheck second draws store],
      check.Passes d (filesPolicy store) := by
  have anonymous : ¬(filesPolicy store).Admits d none := (closed.admits none).not.mpr id
  simp only [List.forall_mem_cons]
  exact ⟨iff_of_false anonymous nofun, closed.backend_passes draws second, nofun⟩

/-- From an open policy the anonymous check fails until the reload. -/
theorem not_passes_of_anonymous {checks : List Check} {description : String}
    (old : filesPolicy store = .anonymous) :
    ¬∀ check ∈ ⟨description, none, false⟩ :: checks, check.Passes d (filesPolicy store) := by
  intro pass
  have anonymous := pass _ List.mem_cons_self
  rw [old] at anonymous
  exact absurd (anonymous.mp trivial) nofun

theorem discriminates_open : Discriminates d store (.setSecurityLevel "open") := by
  intro draws steps taken pass
  cases taken
  have anonymous : (filesPolicy store).Admits d none := (pass _ List.mem_cons_self).mpr rfl
  show (filesPolicy store).Equivalent d .anonymous
  cases old : filesPolicy store with
  | passwords lines =>
      rw [old] at anonymous
      exact absurd anonymous id
  | anonymous => exact fun _ => Iff.rfl

/-- The shared credential gets in while the settings have it, and only in shared mode. -/
theorem Closed.lets_shared {backend : String} {others : List String} (hashes : d.SaltedHashes)
    (provisioned : Provisioned store) (closed : Closed d store backend others)
    {password : String} :
    Lets d backend others (some ⟨sharedUsername, password⟩) ↔
      securityLevel store = "shared_password" ∧ ∃ stored,
        sharedCredential store = some ⟨sharedUsername, stored⟩ ∧ d.SameKey "" password stored := by
  have entries := closed.entries
  unfold Entries at entries
  split at entries
  · rename_i level
    obtain ⟨⟨username, stored⟩, salt, found, rfl⟩ := entries
    obtain rfl : username = sharedUsername := provisioned.shared _ (sharedCredential_some found).1
    constructor
    · rintro ⟨entered, ⟨backendName, -⟩ | ⟨line, listed, lineOf⟩⟩
      · exact absurd backendName sharedUsername_ne
      · rw [List.mem_singleton.mp listed, lineOf_built hashes _ sharedUsername_plain entered] at lineOf
        exact ⟨level, stored, found, lineOf.2⟩
    · rintro ⟨-, stored', found', key⟩
      cases found.symm.trans found'
      refine ⟨sharedUsername_plain, Or.inr ⟨_, List.mem_singleton_self _, ?_⟩⟩
      exact (lineOf_built hashes _ sharedUsername_plain sharedUsername_plain).mpr ⟨rfl, key⟩
  · rename_i level
    refine iff_of_false ?_ fun shared => level shared.1
    rintro ⟨-, ⟨backendName, -⟩ | ⟨line, listed, salt, rfl⟩⟩
    · exact absurd backendName sharedUsername_ne
    · exact shared_line_foreign provisioned (entries ▸ listed)

theorem discriminates_shared (hashes : d.SaltedHashes) (provisioned : Provisioned store)
    (agrees : Agrees d store) :
    Discriminates d store (.setSecurityLevel "shared_password") ↔
      securityLevel store = "open" := by
  refine ⟨fun discriminates => ?_, fun level draws steps taken pass => ?_⟩
  · by_contra level
    obtain ⟨draws, fresh⟩ := exists_fresh hashes.toHashes store
    obtain ⟨backend, others, closed⟩ := agrees.closed hashes level
    have equivalent := discriminates draws (sharedSteps d draws store) rfl
      (closed.passes draws _ _)
    rw [closed.equivalent_iff hashes
      [sharedLine d draws sharedUsername, backendLine d draws backend]
      [sharedLine d draws sharedUsername]
      (by rw [sharedSteps, closed.ensured]; rfl)
      (by rw [sharedSteps, closed.ensured, closed.stored]; rfl) (List.Perm.swap _ _ _)] at equivalent
    -- the new credential, which the old files cannot know
    have old := (equivalent (some ⟨sharedUsername, draws.sharedPassword⟩)).mpr
      ⟨sharedUsername_plain, Or.inr ⟨_, List.mem_singleton_self _, _, rfl⟩⟩
    obtain ⟨-, stored, found, key⟩ := (closed.lets_shared hashes provisioned).mp old
    exact fresh stored (sharedCredential_password found) (hashes.salted key _)
  · exact absurd pass (not_passes_of_anonymous (filesPolicy_open agrees level))

theorem discriminates_devices (hashes : d.SaltedHashes) (provisioned : Provisioned store)
    (agrees : Agrees d store) :
    Discriminates d store (.setSecurityLevel "per_device") ↔
      securityLevel store ≠ "shared_password" := by
  have passwords {backend : String} {others : List String} (closed : Closed d store backend others)
      (draws : Draws) : (filesPolicy store).Equivalent d
        (filesPolicy (applySteps (perDeviceSteps d draws store) store)) ↔
      ∀ credentials, Lets d backend others credentials ↔
        Lets d backend (getDeviceCredentialLines store) credentials :=
    closed.equivalent_iff hashes _ _ (by rw [perDeviceSteps, closed.ensured]; rfl)
      (by rw [perDeviceSteps, closed.ensured, closed.stored]; rfl) (List.Perm.refl _)
  refine ⟨fun discriminates level => ?_, fun level draws steps taken pass => ?_⟩
  · obtain ⟨draws, -⟩ := exists_fresh hashes.toHashes store
    obtain ⟨backend, others, closed⟩ := agrees.closed hashes (by rw [level]; decide)
    have equivalent := (passwords closed draws).mp
      (discriminates draws (perDeviceSteps d draws store) rfl (closed.passes draws _ _))
    -- the shared credential, which the new files do not have
    obtain ⟨⟨username, stored⟩, salt, found, -⟩ := (if_pos level).mp closed.entries
    obtain rfl : username = sharedUsername := provisioned.shared _ (sharedCredential_some found).1
    have old : Lets d backend others (some ⟨sharedUsername, stored⟩) :=
      (closed.lets_shared hashes provisioned).mpr ⟨level, stored, found, rfl⟩
    rcases (equivalent _).mp old with ⟨-, ⟨backendName, -⟩ | ⟨line, listed, salt, rfl⟩⟩
    · exact absurd backendName sharedUsername_ne
    · exact shared_line_foreign provisioned listed
  · by_cases opened : securityLevel store = "open"
    · exact absurd pass (not_passes_of_anonymous (filesPolicy_open agrees opened))
    · obtain ⟨backend, others, closed⟩ := agrees.closed hashes opened
      cases taken
      refine (passwords closed draws).mpr fun _ => ?_
      rw [(if_neg level).mp closed.entries]

theorem discriminates_regenerate (hashes : d.SaltedHashes) (provisioned : Provisioned store)
    (agrees : Agrees d store) : Discriminates d store .regenerateSharedPassword := by
  intro draws steps taken pass
  by_cases level : securityLevel store = "shared_password"
  · rw [Operation.steps, if_pos level] at taken
    cases taken
    obtain ⟨backend, others, closed⟩ := agrees.closed hashes (by rw [level]; decide)
    have named : (readSetting settingSharedUsername store).getD sharedUsername =
        sharedUsername := by
      cases found : readSetting settingSharedUsername store with
      | none => rfl
      | some username => exact provisioned.shared username found
    have check := pass _ List.mem_cons_self
    rw [named] at check
    have old := (closed.admits _).mp (check.mpr rfl)
    obtain ⟨-, stored, found, key⟩ := (closed.lets_shared hashes provisioned).mp old
    obtain ⟨shared, salt, found', rfl⟩ := (if_pos level).mp closed.entries
    cases found.symm.trans found'
    rw [closed.equivalent_iff hashes
      [sharedLine d draws sharedUsername, backendLine d draws backend]
      [sharedLine d draws sharedUsername]
      (by rw [regenerateSteps, closed.ensured]; exact closed.config)
      (by rw [regenerateSteps, closed.ensured, closed.stored, named]; rfl) (List.Perm.swap _ _ _)]
    -- a password with the old one's key is no new password
    rintro (_ | credentials)
    · exact Iff.rfl
    · refine and_congr_right fun entered => or_congr_right ?_
      simp only [List.mem_singleton, exists_eq_left, sharedLine]
      rw [lineOf_built hashes _ sharedUsername_plain entered,
        lineOf_built hashes _ sharedUsername_plain entered]
      exact and_congr_right fun _ => ⟨fun same => same.trans key.symm, fun same => same.trans key⟩
  · rw [Operation.steps, if_neg level] at taken
    cases taken

theorem discriminates_create (hashes : d.SaltedHashes) (issued : Issued d store)
    (agrees : Agrees d store) (deviceName : String) :
    Discriminates d store (.createDeviceCredential deviceName) := by
  intro draws steps taken pass
  simp only [Operation.steps] at taken
  by_cases level : securityLevel store = "per_device"
  · rw [if_neg (not_not.mpr level)] at taken
    cases unused : hasUsername store (sanitizeUsername deviceName) with
    | true =>
        rw [unused] at taken
        cases taken
    | false =>
        obtain ⟨backend, others, closed⟩ := agrees.closed hashes (by rw [level]; decide)
        have check := pass _ List.mem_cons_self
        obtain ⟨entered, ⟨named, -⟩ | device⟩ := (closed.admits _).mp (check.mpr rfl)
        · have head := sanitizeUsername_head deviceName
          rw [show sanitizeUsername deviceName = backendUsername from named] at head
          exact absurd head (by decide)
        · rw [(if_neg (by rw [level]; decide)).mp closed.entries,
            deviceLines_lineOf hashes issued entered] at device
          obtain ⟨row, member, -, named, -⟩ := device
          have listed : hasUsername store (sanitizeUsername deviceName) = true :=
            List.any_eq_true.mpr ⟨row, member, decide_eq_true named.symm⟩
          rw [unused] at listed
          cases listed
  · rw [if_pos level] at taken
    cases taken

/-- The table without the revoked row. -/
def revoked (store : ProvisioningStore) (username : String) : ProvisioningStore :=
  { store with mqttCredentials := store.mqttCredentials.filter (·.username ≠ username) }

theorem Closed.revoked_equivalent_iff {backend : String}
    (closed : Closed d store backend (getDeviceCredentialLines store)) (hashes : d.SaltedHashes)
    (draws : Draws) (username : String) :
    (filesPolicy store).Equivalent d (filesPolicy (applySteps
        (credentialSteps d draws store (·.filter (·.username ≠ username)) ++
          ensureSteps draws store) store)) ↔
      ∀ credentials, Lets d backend (getDeviceCredentialLines store) credentials ↔
        Lets d backend (getDeviceCredentialLines (revoked store username)) credentials := by
  rw [closed.ensured, List.append_nil]
  refine closed.equivalent_iff hashes
    (backendLine d draws backend :: getDeviceCredentialLines (revoked store username)) _
    closed.config ?_ (List.Perm.refl _)
  show some (regeneratedLines d draws (revoked store username)) = _
  unfold regeneratedLines
  rw [show readSetting settingBackendPassword (revoked store username) =
    readSetting settingBackendPassword store from rfl, closed.secret]
  rfl

theorem discriminates_revoke (hashes : d.SaltedHashes) (issued : Issued d store)
    (agrees : Agrees d store) (username : String) :
    Discriminates d store (.revokeDeviceCredential username) ↔
      ¬Unseen d store (.revokeDeviceCredential username) := by
  by_cases returns : securityLevel store = "per_device" ∧ hasUsername store username = true
  · obtain ⟨level, listed⟩ := returns
    obtain ⟨backend, others, closed⟩ := agrees.closed hashes (by rw [level]; decide)
    obtain rfl := (if_neg (by rw [level]; decide)).mp closed.entries
    obtain ⟨known, inTable, isKnown⟩ := List.any_eq_true.mp listed
    have named : known.username = username := of_decide_eq_true isKnown
    have entered : ':' ∉ username.toList := named ▸ issued.plain inTable
    have taken (draws : Draws) : (Operation.revokeDeviceCredential username).steps d draws store =
        .ok (credentialSteps d draws store (·.filter (·.username ≠ username)) ++
          ensureSteps draws store) := by
      simp only [Operation.steps]
      rw [if_neg (not_not.mpr level), if_pos listed]
    have rest : Issued d (revoked store username) := fun row member =>
      issued row (List.mem_of_mem_filter member)
    have remains {row : MqttCredentialRow} : row ∈ (revoked store username).mqttCredentials ↔
        row ∈ store.mqttCredentials ∧ row.username ≠ username := by
      simp [revoked]
    constructor
    · rintro discriminates ⟨-, device, -, strange⟩
      obtain ⟨draws, -⟩ := exists_fresh hashes.toHashes store
      have equivalent := (closed.revoked_equivalent_iff hashes draws username).mp
        (discriminates draws _ (taken draws) ?_)
      · -- its own password, which the new files have no line for
        obtain ⟨-, salt, password, hashed⟩ := issued known inTable
        have old : Lets d backend (getDeviceCredentialLines store) (some ⟨username, password⟩) :=
          ⟨entered, Or.inr ((deviceLines_lineOf hashes issued entered).mpr
            ⟨known, inTable, named ▸ device, named.symm, salt, hashed⟩)⟩
        rcases (equivalent _).mp old with ⟨-, ⟨backendName, -⟩ | lineOf⟩
        · exact device backendName
        · obtain ⟨row, member, -, same, -⟩ := (deviceLines_lineOf hashes rest entered).mp lineOf
          exact (remains.mp member).2 same.symm
      · intro check member
        rcases List.mem_append.mp member with probe | backend
        · split at probe
          · rw [List.mem_singleton.mp probe]
            refine iff_of_false (fun admitted => ?_) Bool.false_ne_true
            rcases (closed.admits _).mp admitted with ⟨-, ⟨backendName, -⟩ | lineOf⟩
            · exact device backendName
            · obtain ⟨row, member, -, same, salt, hashed⟩ :=
                (deviceLines_lineOf hashes issued entered).mp lineOf
              exact strange row member same.symm salt hashed
          · cases probe
        · rw [List.mem_singleton.mp backend]
          exact closed.backend_passes draws _
    · intro seen draws steps took pass
      cases (taken draws).symm.trans took
      refine (closed.revoked_equivalent_iff hashes draws username).mpr ?_
      by_cases device : username = backendUsername
      · -- the files have no line for this row
        rintro (_ | credentials)
        · exact Iff.rfl
        refine and_congr_right fun entered => or_congr_right ?_
        rw [deviceLines_lineOf hashes issued entered, deviceLines_lineOf hashes rest entered]
        refine exists_congr fun row => ?_
        rw [remains, device]
        constructor
        · rintro ⟨member, other, more⟩
          exact ⟨⟨member, other⟩, other, more⟩
        · rintro ⟨⟨member, -⟩, more⟩
          exact ⟨member, more⟩
      · -- its password is the one that is tried
        exfalso
        have tried : ∃ row ∈ store.mqttCredentials, row.username = username ∧
            ∃ salt, row.passwordHash = hashMosquittoPassword d salt "revoked" := by
          by_contra none
          exact seen ⟨level, device, listed, fun row member same salt hashed =>
            none ⟨row, member, same, salt, hashed⟩⟩
        obtain ⟨row, member, same, salt, hashed⟩ := tried
        have nonempty : username ≠ "" := by
          rintro rfl
          rcases (issued row member).1 with backend | ⟨deviceName, sanitized⟩
          · exact device (same.symm.trans backend)
          · have head := sanitizeUsername_head deviceName
            rw [← sanitized, same] at head
            cases head
        have probe := pass ⟨"revoked credential rejected", some ⟨username, "revoked"⟩, false⟩
          (List.mem_append_left _ (by rw [if_pos nonempty]; exact List.mem_cons_self))
        refine Bool.false_ne_true (probe.mp ((closed.admits _).mpr ⟨entered, Or.inr ?_⟩))
        exact (deviceLines_lineOf hashes issued entered).mpr
          ⟨row, member, same ▸ device, same.symm, salt, hashed⟩
  · refine iff_of_true (fun draws steps taken => ?_) fun unseen => returns ⟨unseen.1, unseen.2.2.1⟩
    simp only [Operation.steps] at taken
    split at taken
    · cases taken
    · rename_i level
      split at taken
      · rename_i listed
        exact absurd ⟨not_not.mp level, listed⟩ returns
      · cases taken

/-- **A call that returns has its policy in force, unless it is one of those that a broker with
the old files confirms as well.** -/
theorem vouches_iff_seen (hashes : d.SaltedHashes) (provisioned : Provisioned store)
    (issued : Issued d store) (agrees : Agrees d store) (operation : Operation) :
    Vouches d store operation ↔ ¬Unseen d store operation := by
  rw [vouches_iff_discriminates]
  cases operation with
  | setSecurityLevel level =>
      by_cases opened : level = "open"
      · subst opened
        exact iff_of_true discriminates_open (by simp [Unseen])
      by_cases shared : level = "shared_password"
      · subst shared
        simp [Unseen, discriminates_shared hashes provisioned agrees]
      by_cases devices : level = "per_device"
      · subst devices
        simp [Unseen, discriminates_devices hashes provisioned agrees]
      · refine iff_of_true (fun draws steps taken => ?_) (by simp [Unseen, shared, devices])
        simp [Operation.steps, opened, shared, devices] at taken
  | regenerateSharedPassword =>
      exact iff_of_true (discriminates_regenerate hashes provisioned agrees) id
  | createDeviceCredential deviceName =>
      exact iff_of_true (discriminates_create hashes issued agrees deviceName) id
  | revokeDeviceCredential username => exact discriminates_revoke hashes issued agrees username

end Operations

theorem dollarless_salted : dollarless.SaltedHashes where
  toHashes := dollarless_hashes
  salted {password other salt} same salt' := by
    have letters := congrArg String.toList same
    simp only [dollarless, String.toList_ofList, List.filter_append,
      List.append_cancel_right_eq] at letters
    unfold Deployment.SameKey dollarless
    simp only [List.filter_append, letters]

/-- A broker that asks for passwords, with a lamp among its devices. -/
def lampBroker : ProvisioningStore where
  settings := (OrderedMap.empty.set settingSecurityLevel "per_device").set
    settingBackendPassword "backend-backend-backend-01234567"
  mqttCredentials :=
    [⟨"mqtt-lamp", hashMosquittoPassword dollarless "bGFtcA==" "lamp-lamp-lamp-lamp-lamp-lamp-01"⟩]
  config := some (authenticatedConfig dollarless.passwordFilePath)
  passwordFile := some
    [buildPasswordLine dollarless "YmFja2VuZA==" backendUsername "backend-backend-backend-01234567",
      buildPasswordLine dollarless "bGFtcA==" "mqtt-lamp" "lamp-lamp-lamp-lamp-lamp-lamp-01"]

theorem lampBroker_agrees : Agrees dollarless lampBroker := by
  refine (if_neg (by decide)).mpr ⟨getDeviceCredentialLines lampBroker, ?_, rfl,
    "backend-backend-backend-01234567", "YmFja2VuZA==", _, rfl, by decide, rfl, ?_⟩
  · exact (if_neg (by decide)).mpr rfl
  · have lamp : getDeviceCredentialLines lampBroker =
        [buildPasswordLine dollarless "bGFtcA==" "mqtt-lamp" "lamp-lamp-lamp-lamp-lamp-lamp-01"] := by
      simp [getDeviceCredentialLines, lampBroker, backendUsername, buildPasswordLine]
    rw [lamp]

theorem lampBroker_provisioned : Provisioned lampBroker := ⟨by decide, nofun, by decide⟩

theorem lampBroker_issued : Issued dollarless lampBroker := by
  intro row member
  rw [List.mem_singleton.mp member]
  exact ⟨Or.inr ⟨"Lamp", by decide +kernel⟩, _, _, rfl⟩

theorem lamp_unseen : Unseen dollarless lampBroker (.revokeDeviceCredential "mqtt-lamp") := by
  refine ⟨by decide, by decide, by decide, fun row member _ salt same => ?_⟩
  rw [List.mem_singleton.mp member] at same
  obtain ⟨-, rfl, key⟩ := (buildPasswordLine_inj dollarless_hashes backendUsername_plain
    backendUsername_plain).mp (congrArg (backendUsername ++ ":" ++ ·) same)
  exact absurd key (by unfold Deployment.SameKey; decide +kernel)

/-- A revoked lamp is not seen to be kept out. -/
theorem vouches_iff_seen_lamp :
    ¬Vouches dollarless lampBroker (.revokeDeviceCredential "mqtt-lamp") := fun vouches =>
  (vouches_iff_seen dollarless_salted lampBroker_provisioned lampBroker_issued
    lampBroker_agrees _).mp vouches lamp_unseen

/-- The broker never reloads: the revocation returns all the same, and the lamp still gets in. -/
theorem revoked_lamp_gets_in :
    ¬∀ (d : Deployment) (store : ProvisioningStore) (operation : Operation),
      d.SaltedHashes → Provisioned store → Issued d store → Agrees d store →
        Vouches d store operation := by
  intro always
  have discriminates := vouches_iff_discriminates.mp (always dollarless lampBroker
    (.revokeDeviceCredential "mqtt-lamp") dollarless_salted lampBroker_provisioned
    lampBroker_issued lampBroker_agrees)
  exact (discriminates_revoke dollarless_salted lampBroker_issued lampBroker_agrees _).mp
    discriminates lamp_unseen

end Aeolus.Mqtt
