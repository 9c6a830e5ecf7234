/-
# Aeolus.Mqtt.PublishPolicy — who may publish where

`src/mqtt/publish-policy.ts`, and the reserved prefix that `src/index.ts` derives from the
acknowledgement filter.  The policy matches prefixes level by level; the receiver takes for an
acknowledgement whatever begins with the text of the filter, `#` taken off.

* `segmentBoundaryMatch_iff` — the policy's match is by levels;
* `publish_confined_iff` — every request is confined exactly for the configurations that are
  `Guarded`;
* `confined_start_up` — those of start-up are, for every user namespace;
* `forged_acknowledgement` — the pole: behind a filter without `/#`, a longer name is an
  acknowledgement to the receiver and none to the policy.
-/
import Aeolus.Auth.AuthStore
import Aeolus.Core.NumberCoercion
import Aeolus.Mqtt.MessageRouting

namespace Aeolus.Mqtt

open Aeolus.Core Aeolus.Auth

/-! ## The policy -/

structure PublishPolicyConfig where
  userNamespacePrefix : String
  reservedSystemPrefixes : List String
  maxPayloadBytes : JsNumber

inductive TopicClass where
  | reservedSystem
  | userNamespace
  | other
  deriving DecidableEq

inductive PublishDecision where
  | allow
  | deny (status : Nat) (reason : String)
  deriving DecidableEq

structure PublishRequest where
  role : Role
  topic : String
  retain : Bool
  payloadBytes : Nat

/-- One slash taken off the end. -/
def baseOf (namePrefix : String) : String :=
  if "/".toList.isSuffixOf namePrefix.toList then String.ofList namePrefix.toList.dropLast
  else namePrefix

def segmentBoundaryMatch (topic namePrefix : String) : Bool :=
  if baseOf namePrefix = "" then false
  else topic = baseOf namePrefix || (baseOf namePrefix ++ "/").toList.isPrefixOf topic.toList

def classifyTopic (topic : String) (config : PublishPolicyConfig) : TopicClass :=
  if config.reservedSystemPrefixes.any (segmentBoundaryMatch topic) then .reservedSystem
  else if segmentBoundaryMatch topic config.userNamespacePrefix then .userNamespace
  else .other

def isPolicyConfigValid (config : PublishPolicyConfig) : Bool :=
  !config.reservedSystemPrefixes.any (segmentBoundaryMatch config.userNamespacePrefix)

def hasWildcard (topic : String) : Bool := '+' ∈ topic.toList || '#' ∈ topic.toList

def evaluatePublish (input : PublishRequest) (config : PublishPolicyConfig) : PublishDecision :=
  if hasWildcard input.topic then
    .deny 400 "topic must not contain MQTT wildcards (+ or #)"
  else if input.role ≠ .admin ∧ isPolicyConfigValid config = false then
    .deny 403 "publish namespace configuration is invalid"
  else if classifyTopic input.topic config = .reservedSystem then
    .deny 403 "topic is in a reserved system namespace"
  else if input.role ≠ .admin ∧ classifyTopic input.topic config = .other then
    .deny 403 "non-admin publish outside the user namespace"
  else if input.role ≠ .admin ∧ input.retain then
    .deny 403 "non-admin publish may not set the retain flag"
  else if config.maxPayloadBytes.lt (.finite input.payloadBytes) then
    .deny 413 "payload exceeds the maximum size"
  else .allow

/-- `ackTopicFilter.replace(/\/#$/, "/")` -/
def reservedPrefix (ackTopicFilter : String) : String :=
  if "/#".toList.isSuffixOf ackTopicFilter.toList then
    String.ofList ackTopicFilter.toList.dropLast
  else ackTopicFilter

/-- The policy of `src/index.ts`, for a filter and the settings of the environment. -/
def startUpPolicy (ackTopicFilter userNamespacePrefix : String) (maxPayloadBytes : JsNumber) :
    PublishPolicyConfig :=
  { userNamespacePrefix
    reservedSystemPrefixes := [reservedPrefix ackTopicFilter]
    maxPayloadBytes }

/-! ## What an allowed request is -/

/-- The levels of a namespace, a slash at its end not counted. -/
def namespaceLevels (namePrefix : String) : List String := split (baseOf namePrefix) '/'

/-- `payloadBytes` is at most the limit, and the limit is a number. -/
def Within (payloadBytes : Nat) (limit : JsNumber) : Prop :=
  (JsNumber.finite payloadBytes).lt limit = true ∨ (JsNumber.finite payloadBytes).eq limit = true

/-- What a request of a non-admin is asked. -/
structure Permitted (input : PublishRequest) (config : PublishPolicyConfig) : Prop where
  inside : namespaceLevels config.userNamespacePrefix <+: split input.topic '/'
  outside : ∀ reserved ∈ config.reservedSystemPrefixes,
    ¬namespaceLevels reserved <+: split input.topic '/'
  unretained : input.retain = false
  size : Within input.payloadBytes config.maxPayloadBytes

/-- Nothing that is allowed is taken for an acknowledgement or has a wildcard, and a non-admin
is refused what is not permitted. -/
structure Confined (service : MqttServiceConfig) (config : PublishPolicyConfig)
    (input : PublishRequest) : Prop where
  unforged : evaluatePublish input config = .allow →
    ∀ platform, route platform service input.topic ≠ .acknowledgement
  concrete : evaluatePublish input config = .allow → hasWildcard input.topic = false
  permitted : input.role ≠ .admin → evaluatePublish input config = .allow →
    Permitted input config
  refused : input.role ≠ .admin → ¬Permitted input config →
    ∃ status reason, evaluatePublish input config = .deny status reason

/-! ## Prefixes -/

theorem segmentBoundaryMatch_iff (topic namePrefix : String) :
    segmentBoundaryMatch topic namePrefix = true ↔
      baseOf namePrefix ≠ "" ∧ namespaceLevels namePrefix <+: split topic '/' := by
  have letters : (baseOf namePrefix ++ "/").toList = (baseOf namePrefix).toList ++ ['/'] := by
    simp
  unfold segmentBoundaryMatch namespaceLevels
  rw [split_prefix_iff]
  split_ifs with none
  · simp [none]
  · rw [letters, Bool.or_eq_true, decide_eq_true_eq, List.isPrefixOf_iff_prefix]
    simp [none]

theorem baseOf_slash (text : String) : baseOf (text ++ "/") = text := by
  have ends : "/".toList.isSuffixOf (text ++ "/").toList = true := by
    rw [List.isSuffixOf_iff_suffix, String.toList_append]
    exact List.suffix_append _ _
  have letters : (text ++ "/").toList = text.toList ++ ['/'] := by simp
  unfold baseOf
  rw [if_pos ends, letters, List.dropLast_concat, String.ofList_toList]

theorem baseOf_cases (namePrefix : String) :
    (namePrefix = baseOf namePrefix ++ "/") ∨
      baseOf namePrefix = namePrefix ∧ ¬['/'] <:+ namePrefix.toList := by
  by_cases ends : ['/'] <:+ namePrefix.toList
  · obtain ⟨front, letters⟩ := ends
    have whole : namePrefix = String.ofList front ++ "/" := by
      rw [← String.toList_inj, ← letters]
      simp
    left
    rw [whole, baseOf_slash]
  · right
    refine ⟨if_neg ?_, ends⟩
    rw [List.isSuffixOf_iff_suffix]
    exact ends

theorem hasWildcard_eq_false {text : String} : hasWildcard text = false ↔ WildcardFree text := by
  unfold hasWildcard WildcardFree
  simp

/-- What begins with a text that has a wildcard has one. -/
theorem WildcardFree.initial {text longer : String} (plain : WildcardFree longer)
    (begins : text.toList <+: longer.toList) : WildcardFree text :=
  ⟨fun single => plain.1 (begins.subset single), fun multi => plain.2 (begins.subset multi)⟩

theorem base_prefix_of_levels {topic namePrefix : String}
    (inside : namespaceLevels namePrefix <+: split topic '/') :
    (baseOf namePrefix).toList <+: topic.toList := by
  rcases (split_prefix_iff _ _ _).mp inside with rfl | below
  · exact List.prefix_rfl
  · exact (List.prefix_append _ _).trans below

/-! ## Decisions -/

section Decisions

variable {input : PublishRequest} {config : PublishPolicyConfig}

/-- A decision that does not allow gives its reason. -/
theorem refused_of_ne_allow (denied : evaluatePublish input config ≠ .allow) :
    ∃ status reason, evaluatePublish input config = .deny status reason := by
  cases decision : evaluatePublish input config with
  | allow => exact absurd decision denied
  | deny status reason => exact ⟨status, reason, rfl⟩

/-- The checks that an allowed request has passed, and a refused one has not. -/
theorem evaluatePublish_allow_iff :
    evaluatePublish input config = .allow ↔
      hasWildcard input.topic = false ∧ classifyTopic input.topic config ≠ .reservedSystem ∧
        config.maxPayloadBytes.lt (.finite input.payloadBytes) = false ∧
        (input.role ≠ .admin → isPolicyConfigValid config = true ∧
          classifyTopic input.topic config = .userNamespace ∧ input.retain = false) := by
  unfold evaluatePublish
  cases role : input.role <;> cases classified : classifyTopic input.topic config <;>
    cases isPolicyConfigValid config <;> cases hasWildcard input.topic <;>
    cases input.retain <;> cases config.maxPayloadBytes.lt (.finite input.payloadBytes) <;>
    simp

end Decisions

/-! ## Limits -/

theorem within_of_not_lt {n : Nat} {limit : JsNumber} (number : limit ≠ .nan)
    (small : limit.lt (.finite n) = false) : Within n limit := by
  unfold Within
  cases limit with
  | nan => exact absurd rfl number
  | finite value =>
      simp only [JsNumber.lt, decide_eq_false_iff_not, not_lt] at small
      simp only [JsNumber.lt, JsNumber.eq, decide_eq_true_eq]
      exact lt_or_eq_of_le small
  | infinity negative =>
      cases negative with
      | true => cases small
      | false => exact Or.inl rfl

theorem not_within_nan (n : Nat) : ¬Within n .nan := by
  unfold Within
  simp [JsNumber.lt, JsNumber.eq]

/-- Below a limit that is less than zero there is no request. -/
theorem lt_of_lt_zero {limit : JsNumber} (below : limit.lt (.finite 0) = true) (n : Nat) :
    limit.lt (.finite n) = true := by
  cases limit with
  | nan => cases below
  | finite value =>
      simp only [JsNumber.lt, decide_eq_true_eq] at below ⊢
      exact lt_of_lt_of_le below (Nat.cast_nonneg n)
  | infinity negative => exact below

/-! ## The reserved prefix -/

section Reserved

variable {ack : String}

/-- The receiver goes by the text that the reserved prefix is. -/
theorem inSpace_reservedPrefix (ack topic : String) :
    inSpace (some ack) topic = true ↔
      ack ≠ "" ∧ (reservedPrefix ack).toList <+: topic.toList := by
  unfold inSpace
  by_cases empty : ack = ""
  · have none : truthy (some ack) = none := by
      subst empty
      decide
    rw [none]
    simp [empty]
  · have given : truthy (some ack) = some ack := truthy_eq_some.mpr ⟨rfl, empty⟩
    rw [given]
    dsimp only
    unfold reservedPrefix
    rw [List.isPrefixOf_iff_prefix]
    split_ifs <;> simp [empty]

theorem route_ne_acknowledgement {service : MqttServiceConfig} {topic : String}
    (unforged : inSpace service.ackTopicFilter topic = false) (platform : Platform) :
    route platform service topic ≠ .acknowledgement := by
  rw [Ne, route_acknowledgement, isAckTopic, unforged]
  simp

end Reserved

/-! ## Configurations -/

section Configurations

/-- The receiver's prefix ends with a slash behind a name; or no topic can begin with it. -/
def AckGuarded (ack : String) : Prop :=
  ack = "" ∨ hasWildcard (reservedPrefix ack) = true ∨
    baseOf (reservedPrefix ack) ≠ "" ∧ ['/'] <:+ (reservedPrefix ack).toList

/-- No topic is open to non-admins. -/
def NoneOpen (ack user : String) : Prop :=
  baseOf user = "" ∨ hasWildcard (baseOf user) = true ∨
    segmentBoundaryMatch user (reservedPrefix ack) = true

def Guarded (ack user : String) (limit : JsNumber) : Prop :=
  limit.lt (.finite 0) = true ∨
    AckGuarded ack ∧
      (NoneOpen ack user ∨ limit ≠ .nan ∧ (ack = "" → ¬['/'] <+: user.toList))

variable {ack user : String} {limit : JsNumber} {input : PublishRequest}

/-- What an allowed request has passed, with the prefix of start-up. -/
theorem allow_startUp_iff :
    evaluatePublish input (startUpPolicy ack user limit) = .allow ↔
      hasWildcard input.topic = false ∧
        segmentBoundaryMatch input.topic (reservedPrefix ack) = false ∧
        limit.lt (.finite input.payloadBytes) = false ∧
        (input.role ≠ .admin → segmentBoundaryMatch user (reservedPrefix ack) = false ∧
          segmentBoundaryMatch input.topic user = true ∧ input.retain = false) := by
  rw [evaluatePublish_allow_iff]
  simp only [classifyTopic, isPolicyConfigValid, startUpPolicy, List.any_cons, List.any_nil,
    Bool.or_false]
  by_cases reserved : segmentBoundaryMatch input.topic (reservedPrefix ack) = true <;>
    by_cases matched : segmentBoundaryMatch input.topic user = true <;> simp [reserved, matched]

theorem base_prefix_user (user : String) : (baseOf user).toList <+: user.toList := by
  rcases baseOf_cases user with whole | ⟨same, -⟩
  · have letters := congrArg String.toList whole
    rw [String.toList_append] at letters
    rw [letters]
    exact List.prefix_append _ _
  · rw [same]

/-- An allowed request of a non-admin is on an open topic. -/
theorem not_noneOpen (nonAdmin : input.role ≠ .admin)
    (allowed : evaluatePublish input (startUpPolicy ack user limit) = .allow) :
    ¬NoneOpen ack user := by
  obtain ⟨concrete, -, -, confined⟩ := allow_startUp_iff.mp allowed
  obtain ⟨valid, matched, -⟩ := confined nonAdmin
  obtain ⟨named, inside⟩ := (segmentBoundaryMatch_iff _ _).mp matched
  rintro (empty | wild | reserved)
  · exact named empty
  · have plain := (hasWildcard_eq_false.mp concrete).initial (base_prefix_of_levels inside)
    rw [hasWildcard_eq_false.mpr plain] at wild
    cases wild
  · rw [valid] at reserved
    cases reserved

/-- Nothing that is allowed begins with the receiver's prefix. -/
theorem inSpace_of_ackGuarded (guarded : AckGuarded ack)
    (allowed : evaluatePublish input (startUpPolicy ack user limit) = .allow) :
    inSpace (some ack) input.topic = false := by
  obtain ⟨concrete, unreserved, -, -⟩ := allow_startUp_iff.mp allowed
  rw [Bool.eq_false_iff, Ne, inSpace_reservedPrefix]
  rintro ⟨named, begins⟩
  rcases guarded with empty | wild | ⟨someBase, ends⟩
  · exact named empty
  · rw [hasWildcard_eq_false.mpr ((hasWildcard_eq_false.mp concrete).initial begins)] at wild
    cases wild
  · have reserved : segmentBoundaryMatch input.topic (reservedPrefix ack) = true := by
      rw [segmentBoundaryMatch_iff, namespaceLevels, split_prefix_iff]
      rcases baseOf_cases (reservedPrefix ack) with whole | ⟨-, unslashed⟩
      · have letters := congrArg String.toList whole
        rw [letters, String.toList_append] at begins
        exact ⟨someBase, Or.inr begins⟩
      · exact absurd ends unslashed
    rw [unreserved] at reserved
    cases reserved

/-- A topic in a namespace begins with its first character. -/
theorem begins_with_slash {topic : String} (matched : segmentBoundaryMatch topic user = true)
    (slashed : topic = "" ∨ ['/'] <+: topic.toList) : ['/'] <+: user.toList := by
  obtain ⟨named, inside⟩ := (segmentBoundaryMatch_iff _ _).mp matched
  have letters : (baseOf user).toList ≠ [] := by simpa using named
  obtain ⟨first, rest, spelled⟩ := List.exists_cons_of_ne_nil letters
  obtain ⟨more, same⟩ := base_prefix_of_levels inside
  obtain ⟨more', same'⟩ := base_prefix_user user
  rw [spelled] at same same'
  have begun : first = '/' := by
    rcases slashed with blank | ⟨later, begins⟩
    · rw [blank] at same
      cases same
    · rw [← begins] at same
      exact (List.cons.inj same).1
  rw [← same', begun]
  exact ⟨rest ++ more', rfl⟩

/-- The reserved prefix is by levels what it is for the policy, unless there is no filter and
the user namespace begins with a slash. -/
theorem outside_of_guarded (guarded : AckGuarded ack) (slashed : ack = "" → ¬['/'] <+: user.toList)
    (nonAdmin : input.role ≠ .admin)
    (allowed : evaluatePublish input (startUpPolicy ack user limit) = .allow) :
    ¬namespaceLevels (reservedPrefix ack) <+: split input.topic '/' := by
  obtain ⟨concrete, unreserved, -, confined⟩ := allow_startUp_iff.mp allowed
  intro inReserved
  by_cases someBase : baseOf (reservedPrefix ack) = ""
  · rcases guarded with empty | wild | ⟨named, -⟩
    · apply slashed empty
      apply begins_with_slash (confined nonAdmin).2.1
      unfold namespaceLevels at inReserved
      rw [someBase] at inReserved
      exact (split_prefix_iff _ _ _).mp inReserved
    · rcases baseOf_cases (reservedPrefix ack) with whole | ⟨same, -⟩
      · rw [whole, someBase] at wild
        exact absurd wild (by decide)
      · rw [← same, someBase] at wild
        exact absurd wild (by decide)
    · exact named someBase
  · have reserved := (segmentBoundaryMatch_iff _ _).mpr ⟨someBase, inReserved⟩
    rw [unreserved] at reserved
    cases reserved

/-- **Guarded configurations** confine every request. -/
theorem confined_of_guarded (guarded : Guarded ack user limit) (service : MqttServiceConfig) :
    Confined { service with ackTopicFilter := some ack } (startUpPolicy ack user limit)
      input := by
  have positive : evaluatePublish input (startUpPolicy ack user limit) = .allow →
      ¬limit.lt (.finite 0) = true := by
    intro allowed below
    have small := (allow_startUp_iff.mp allowed).2.2.1
    rw [lt_of_lt_zero below] at small
    cases small
  have permitted : input.role ≠ .admin →
      evaluatePublish input (startUpPolicy ack user limit) = .allow →
        Permitted input (startUpPolicy ack user limit) := by
    intro nonAdmin allowed
    obtain ⟨-, -, small, confined⟩ := allow_startUp_iff.mp allowed
    obtain ⟨-, matched, unretained⟩ := confined nonAdmin
    rcases guarded with below | ⟨ackGuarded, none | ⟨number, slashed⟩⟩
    · exact absurd below (positive allowed)
    · exact absurd none (not_noneOpen nonAdmin allowed)
    · exact {
        inside := ((segmentBoundaryMatch_iff _ _).mp matched).2
        outside := by
          intro reserved listed
          rw [List.mem_singleton.mp listed]
          exact outside_of_guarded ackGuarded slashed nonAdmin allowed
        unretained := unretained
        size := within_of_not_lt number small }
  exact {
    unforged := by
      intro allowed
      apply route_ne_acknowledgement
      rcases guarded with below | ⟨ackGuarded, -⟩
      · exact absurd below (positive allowed)
      · exact inSpace_of_ackGuarded ackGuarded allowed
    concrete := fun allowed => (allow_startUp_iff.mp allowed).1
    permitted := permitted
    refused := by
      intro nonAdmin unpermitted
      apply refused_of_ne_allow
      exact fun allowed => unpermitted (permitted nonAdmin allowed) }

/-! ## The other configurations -/

/-- Right behind a prefix that is no guarded one, the policy reserves nothing. -/
theorem ackGuarded_of_unforged (small : limit.lt (.finite 0) = false)
    (unforged : ∀ input, evaluatePublish input (startUpPolicy ack user limit) = .allow →
      inSpace (some ack) input.topic = false) : AckGuarded ack := by
  by_contra unguarded
  unfold AckGuarded at unguarded
  push Not at unguarded
  obtain ⟨named, plain, boundary⟩ := unguarded
  have topicLetters : (reservedPrefix ack ++ "x").toList =
      (reservedPrefix ack).toList ++ ['x'] := by simp
  have concrete : hasWildcard (reservedPrefix ack ++ "x") = false := by
    rw [Ne, Bool.not_eq_true, hasWildcard_eq_false] at plain
    rw [hasWildcard_eq_false, WildcardFree, topicLetters]
    simpa [WildcardFree] using plain
  have unreserved : segmentBoundaryMatch (reservedPrefix ack ++ "x") (reservedPrefix ack) =
      false := by
    rw [Bool.eq_false_iff, Ne, segmentBoundaryMatch_iff, namespaceLevels, split_prefix_iff,
      topicLetters]
    rintro ⟨someBase, inside⟩
    rcases baseOf_cases (reservedPrefix ack) with whole | ⟨same, -⟩
    · apply boundary someBase
      rw [whole]
      simp
    · rw [same] at inside
      rcases inside with equal | below
      · have letters := congrArg String.toList equal
        rw [topicLetters] at letters
        simp at letters
      · rw [List.prefix_append_right_inj] at below
        exact absurd below (by decide)
  have allowed : evaluatePublish ⟨.admin, reservedPrefix ack ++ "x", false, 0⟩
      (startUpPolicy ack user limit) = .allow := by
    rw [allow_startUp_iff]
    exact ⟨concrete, unreserved, by simpa using small, fun nonAdmin => absurd rfl nonAdmin⟩
  have safe := unforged _ allowed
  have forged := (inSpace_reservedPrefix ack (reservedPrefix ack ++ "x")).mpr
    ⟨named, by rw [topicLetters]; exact List.prefix_append _ _⟩
  rw [safe] at forged
  cases forged

/-- An open namespace is open to an empty message on its own topic. -/
theorem allow_own_topic (small : limit.lt (.finite 0) = false) (opened : ¬NoneOpen ack user) :
    evaluatePublish ⟨.user, baseOf user, false, 0⟩ (startUpPolicy ack user limit) = .allow := by
  unfold NoneOpen at opened
  push Not at opened
  obtain ⟨named, plain, unreserved⟩ := opened
  rw [Ne, Bool.not_eq_true] at plain unreserved
  rw [allow_startUp_iff]
  refine ⟨plain, ?_, by simpa using small, fun _ => ⟨unreserved, ?_, rfl⟩⟩
  · rw [Bool.eq_false_iff, Ne, segmentBoundaryMatch_iff]
    rintro ⟨someBase, inside⟩
    rw [Bool.eq_false_iff, Ne, segmentBoundaryMatch_iff] at unreserved
    apply unreserved
    refine ⟨someBase, inside.trans ?_⟩
    rw [split_prefix_iff]
    rcases baseOf_cases user with whole | ⟨same, -⟩
    · apply Or.inr
      have letters := congrArg String.toList whole
      rw [letters]
      simp
    · exact Or.inl same.symm
  · rw [segmentBoundaryMatch_iff]
    exact ⟨named, List.prefix_rfl⟩

/-- The name of no namespace has one empty level, which a slash in front gives a topic too. -/
theorem own_topic_slashed (named : baseOf user ≠ "") (slashed : ['/'] <+: user.toList) :
    namespaceLevels (reservedPrefix "") <+: split (baseOf user) '/' := by
  have unnamed : baseOf (reservedPrefix "") = "" := by decide
  unfold namespaceLevels
  rw [unnamed, split_prefix_iff]
  apply Or.inr
  have letters : (baseOf user).toList ≠ [] := by simpa using named
  obtain ⟨first, rest, spelled⟩ := List.exists_cons_of_ne_nil letters
  obtain ⟨more, same⟩ := base_prefix_user user
  obtain ⟨later, begins⟩ := slashed
  rw [← same, spelled] at begins
  have begun : '/' = first := (List.cons.inj begins).1
  rw [spelled, ← begun]
  exact ⟨rest, rfl⟩

theorem user_ne_admin : Role.user ≠ Role.admin := by decide

/-- **Confinement of raw publishing.**  Every request is confined exactly for the guarded
configurations. -/
theorem publish_confined_iff (ack user : String) (limit : JsNumber) (service : MqttServiceConfig) :
    (∀ input, Confined { service with ackTopicFilter := some ack }
      (startUpPolicy ack user limit) input) ↔ Guarded ack user limit := by
  constructor
  · intro confined
    cases small : limit.lt (.finite 0) with
    | true => exact Or.inl small
    | false =>
        apply Or.inr
        constructor
        · apply ackGuarded_of_unforged small
          intro input allowed
          have unrouted := (confined input).unforged allowed lampPlatform
          rw [Ne, route_acknowledgement, Bool.not_eq_true] at unrouted
          exact unrouted
        · by_cases opened : NoneOpen ack user
          · exact Or.inl opened
          · have allowed := allow_own_topic small opened
            have own := (confined _).permitted user_ne_admin allowed
            refine Or.inr ⟨?_, ?_⟩
            · rintro rfl
              exact not_within_nan 0 own.size
            · rintro rfl slashed
              apply own.outside (reservedPrefix "") (List.mem_singleton.mpr rfl)
              exact own_topic_slashed (fun empty => opened (Or.inl empty)) slashed
  · intro guarded input
    exact confined_of_guarded guarded service

/-- The filter of `src/index.ts` is guarded, whatever the user namespace. -/
theorem confined_start_up (user : String) {limit : JsNumber} (number : limit ≠ .nan)
    (service : MqttServiceConfig) :
    Confined { service with ackTopicFilter := some "aeolus/acks/#" }
      (startUpPolicy "aeolus/acks/#" user limit) input := by
  apply confined_of_guarded
  apply Or.inr
  have ends : baseOf (reservedPrefix "aeolus/acks/#") ≠ "" ∧
      ['/'] <:+ (reservedPrefix "aeolus/acks/#").toList := by decide
  refine ⟨Or.inr (Or.inr ends), Or.inr ⟨number, ?_⟩⟩
  intro empty
  exact absurd empty (by decide)

end Configurations

/-- The pole: a filter without `/#`, and an administrator who answers for a device. -/
theorem forged_acknowledgement :
    evaluatePublish ⟨.admin, "aeolus/acks-2/pump", false, 16⟩
        (startUpPolicy "aeolus/acks" "aeolus/pub/" (.finite 262144)) = .allow ∧
      route lampPlatform { ackTopicFilter := some "aeolus/acks" } "aeolus/acks-2/pump" =
        .acknowledgement := by
  decide

end Aeolus.Mqtt
