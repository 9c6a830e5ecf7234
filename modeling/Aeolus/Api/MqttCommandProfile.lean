/-
# Aeolus.Api.MqttCommandProfile — where a device replies, and where replies are read

The response topic of a command is chosen in three places: the command profile of the
device may override it (`src/api/routes/mqtt-command-profile.ts` validates it,
`getAcknowledgementCapability` of `src/connectors/action-router.ts` reads it),
`CommandService.execute` has a default below `aeolus/acks`, and `executeMqttAction` puts it
into the published command.  A fourth place reads the replies: `handleMessage` routes a
message to the tracker only on a topic of the acknowledgement filter.

The validator accepts any concrete topic.  So a reply to a command is received exactly when
the profile has no override, or one inside the space of the filter
(`acknowledgements_received_iff`); a lamp that was told to reply on `home/lamp/ack` is never
heard (`override_not_received`).
-/
import Aeolus.Api.DeviceRoutes
import Aeolus.Mqtt.MqttService

namespace Aeolus.Api

open Aeolus.Core Aeolus.Automations Aeolus.Connectors Aeolus.Mqtt Aeolus.Theory

/-! ## The validator -/

def maxTopicLen : Nat := 256

def maxFieldLen : Nat := 128

def maxIndicatorValues : Nat := 32

/-- A text that is not empty and not longer than `bound`. -/
def boundedText (bound : Nat) (error : String) : Json → Except String String
  | .str text => if text = "" ∨ utf16Length text > bound then .error error else .ok text
  | _ => .error error

/-- A field that may be absent. -/
def optional {α : Type} (validate : Json → Except String α) : Option Json → Except String (Option α)
  | none => .ok none
  | some value => (validate value).map some

def validateQos : Json → Except String Nat
  | .num value =>
      if value = 0 then .ok 0
      else if value = 1 then .ok 1
      else if value = 2 then .ok 2
      else .error "qos must be 0, 1, or 2"
  | _ => .error "qos must be 0, 1, or 2"

def validateResponseTopic (value : Json) : Except String String := do
  let topic ← boundedText maxTopicLen
    "acknowledgement.responseTopic must be a non-empty string (<=256 chars)" value
  if '+' ∈ topic.toList ∨ '#' ∈ topic.toList then
    .error "acknowledgement.responseTopic must be a concrete publish topic, not a wildcard"
  else .ok topic

def validateIndicatorValues : Json → Except String (List String)
  | .arr items =>
      if items.length > maxIndicatorValues then
        .error "acknowledgement.ackIndicatorValues must be an array of at most 32 strings"
      else
        items.mapM (boundedText maxFieldLen
          "each ackIndicatorValue must be a non-empty string (<=128 chars)")
  | _ => .error "acknowledgement.ackIndicatorValues must be an array of at most 32 strings"

def validateSupported : Option Json → Except String Bool
  | some (.bool supported) => .ok supported
  | _ => .error "acknowledgement.supported must be a boolean"

def validateAcknowledgement : Json → Except String MqttAcknowledgement
  | .obj fields => do
      let ack : Json := .obj fields
      let supported ← validateSupported (ack.property "supported")
      let responseTopic ← optional validateResponseTopic (ack.property "responseTopic")
      let ackIndicatorField ← optional
        (boundedText maxFieldLen
          "acknowledgement.ackIndicatorField must be a non-empty string (<=128 chars)")
        (ack.property "ackIndicatorField")
      let ackIndicatorValues ← optional validateIndicatorValues (ack.property "ackIndicatorValues")
      return { supported := supported
               responseTopic := responseTopic
               ackIndicatorField := ackIndicatorField
               ackIndicatorValues := ackIndicatorValues }
  | _ => .error "acknowledgement must be an object"

/-- The profile that is stored; `none` clears it. -/
def validateMqttCommandProfile : Json → Except String (Option MqttCommandProfile)
  | .obj fields => do
      let body : Json := .obj fields
      let qos ← optional validateQos (body.property "qos")
      let acknowledgement ← optional validateAcknowledgement (body.property "acknowledgement")
      return if qos.isNone ∧ acknowledgement.isNone then none
        else some { qos := qos, acknowledgement := acknowledgement }
  | _ => .error "Profile must be a JSON object"

/-! ## The response topic of a command -/

/-- `getAcknowledgementCapability`; `ofConnector` is what a connector instance declares for
a device. -/
def getAcknowledgementCapability (router : ActionRouter)
    (ofConnector : String → String → Option AcknowledgementCapability) (deviceId : String) :
    Option AcknowledgementCapability :=
  (router.registry.getById deviceId).bind fun device =>
    if device.integration = "mqtt" then
      match device.mqttCommandProfile.bind MqttCommandProfile.acknowledgement with
      | none => none
      | some ack =>
          if ack.supported then
            some
              { supported := true
                responseTopic := truthy ack.responseTopic
                ackIndicatorField := truthy ack.ackIndicatorField
                ackIndicatorValues := ack.ackIndicatorValues }
          else none
    else (router.resolveOwningInstance device).bind fun (id, _) => ofConnector id deviceId

/-- What succeeds after another step succeeded. -/
theorem bind_eq_ok {α β : Type} {x : Except String α} {f : α → Except String β} {b : β}
    (succeeded : x >>= f = .ok b) : ∃ a, x = .ok a ∧ f a = .ok b := by
  cases x with
  | error e => cases succeeded
  | ok a => exact ⟨a, rfl, succeeded⟩

theorem boundedText_ne_empty {bound : Nat} {error text : String} {value : Json}
    (accepted : boundedText bound error value = .ok text) : text ≠ "" := by
  unfold boundedText at accepted
  split at accepted
  · split at accepted
    · cases accepted
    · rename_i bounded
      cases accepted
      exact fun empty => bounded (.inl empty)
  · cases accepted

theorem validateResponseTopic_ne_empty {topic : String} {value : Json}
    (accepted : validateResponseTopic value = .ok topic) : topic ≠ "" := by
  obtain ⟨text, bounded, concrete⟩ := bind_eq_ok accepted
  split at concrete
  · cases concrete
  · cases concrete
    exact boundedText_ne_empty bounded

theorem optional_eq_some {α : Type} {validate : Json → Except String α} {field : Option Json}
    {a : α} (accepted : optional validate field = .ok (some a)) :
    ∃ value, field = some value ∧ validate value = .ok a := by
  cases field with
  | none => cases accepted
  | some value =>
      refine ⟨value, rfl, ?_⟩
      simp only [optional] at accepted
      cases validated : validate value with
      | error e =>
          rw [validated] at accepted
          cases accepted
      | ok a' =>
          rw [validated] at accepted
          cases accepted
          rfl

theorem validateAcknowledgement_responseTopic {value : Json} {ack : MqttAcknowledgement}
    {topic : String} (accepted : validateAcknowledgement value = .ok ack)
    (override : ack.responseTopic = some topic) : topic ≠ "" := by
  unfold validateAcknowledgement at accepted
  split at accepted
  · obtain ⟨supported, -, accepted⟩ := bind_eq_ok accepted
    obtain ⟨responseTopic, valid, accepted⟩ := bind_eq_ok accepted
    obtain ⟨field, -, accepted⟩ := bind_eq_ok accepted
    obtain ⟨values, -, built⟩ := bind_eq_ok accepted
    cases built
    subst override
    obtain ⟨_, -, concrete⟩ := optional_eq_some valid
    exact validateResponseTopic_ne_empty concrete
  · cases accepted

/-- An accepted profile has no empty response topic. -/
theorem validated_responseTopic {body : Json} {profile : MqttCommandProfile}
    {ack : MqttAcknowledgement} {topic : String}
    (accepted : validateMqttCommandProfile body = .ok (some profile))
    (declares : profile.acknowledgement = some ack) (override : ack.responseTopic = some topic) :
    topic ≠ "" := by
  unfold validateMqttCommandProfile at accepted
  split at accepted
  · obtain ⟨qos, -, accepted⟩ := bind_eq_ok accepted
    obtain ⟨acknowledgement, valid, stored⟩ := bind_eq_ok accepted
    have same : acknowledgement = some ack := by
      split at stored
      · cases stored
      · cases stored
        exact declares
    subst same
    obtain ⟨_, -, valid⟩ := optional_eq_some valid
    exact validateAcknowledgement_responseTopic valid override
  · cases accepted

/-- What a published command says about its reply is what the handler was given. -/
theorem executeAction_published {router : ActionRouter} {deviceId : String} {action : Action}
    {correlation : Option CommandCorrelation} {message : MqttMessage}
    (published : router.executeAction deviceId action correlation = .published message) :
    message.correlation = correlation := by
  unfold ActionRouter.executeAction at published
  split at published
  · cases published
  · split at published
    · cases published
    · split at published
      · unfold ActionRouter.executeMqttAction at published
        split at published
        · cases published
          rfl
        · cases published
      · split at published
        · cases published
        · split at published <;> cases published

/-- The correlation that a handler is given for an action that had none. -/
theorem dispatchAction_correlation {env : Environment} {a : Accepted}
    {correlation : CommandCorrelation} (plain : a.request.action.correlation = none)
    (given : (a.dispatchAction env).correlation = some correlation) :
    a.correlationId = some correlation.correlationId ∧
      correlation.responseTopic = (a.ackCapability.bind (·.responseTopic)).getD
        (env.ackResponseTopicBase ++ "/" ++ a.request.action.target) := by
  unfold Accepted.dispatchAction at given
  split at given
  · rename_i id correlated
    split at given
    · cases given
      exact ⟨correlated, rfl⟩
    · rw [plain] at given
      cases given
  · rw [plain] at given
    cases given

/-! ## Replies -/

/-- The fields of a reply. -/
def replyFields (platform : Platform) (raw : String) : JsonObject :=
  match platform.jsonParse raw with
  | some (.obj fields) => Mqtt.ofFields fields
  | _ => .empty

/-- A reply that contains the correlation id: as its correlation data, or in its payload. -/
def Carries (platform : Platform) (raw : String) (correlationData : Option String) (id : String) :
    Prop :=
  truthy correlationData = some id ∨
    truthy correlationData = none ∧
      ((replyFields platform raw).get "correlationId").bind Json.asString = some id

/-- The reply is an acknowledgement of the command, and no refusal. -/
def Satisfies (platform : Platform) (raw : String) (correlationData : Option String)
    (command : PendingCommand) : Prop :=
  ∃ message, ackMessage platform raw correlationData = some message ∧
    message.success ≠ some false ∧ command.isAcknowledgement message = true

theorem ackMessage_of_carries {platform : Platform} {raw id : String}
    {correlationData : Option String} (given : id ≠ "")
    (carries : Carries platform raw correlationData id) :
    ∃ message, ackMessage platform raw correlationData = some message ∧
      message.correlationId = id := by
  have resolved : resolveCorrelationId correlationData
      (((replyFields platform raw).get "correlationId").bind Json.asString) = some id := by
    rcases carries with property | ⟨absent, payload⟩
    · simp [resolveCorrelationId, property]
    · have kept : truthy (some id) = some id := by simp [truthy, given]
      rw [resolveCorrelationId, absent, payload, kept]
      rfl
  obtain ⟨build, built, same⟩ : ∃ build : String → AckMessage,
      (∀ id, (build id).correlationId = id) ∧
        ackMessage platform raw correlationData =
          (resolveCorrelationId correlationData
            (((replyFields platform raw).get "correlationId").bind Json.asString)).map build :=
    ⟨_, fun _ => rfl, rfl⟩
  refine ⟨build id, ?_, built id⟩
  rw [same, resolved]
  rfl

/-- A reply to a command is received: it is routed to the tracker, and a command that waits
for the acknowledgement does not time out. -/
structure Received (platform : Platform) (config : MqttServiceConfig)
    (correlation : CommandCorrelation) : Prop where
  routed : ∀ (h : Hub) raw correlationData now,
    Carries platform raw correlationData correlation.correlationId →
      ∃ message : AckMessage, message.correlationId = correlation.correlationId ∧
        h.handleMessage platform config correlation.responseTopic raw correlationData now =
          { h with tracker := h.tracker.route message now }
  completes : ∀ (h : Hub) entry raw correlationData now,
    h.tracker.pending.get correlation.correlationId = some entry →
    entry.command.correlationId = correlation.correlationId →
    entry.command.requiredTier = .acknowledged → entry.state = .dispatched →
    Carries platform raw correlationData correlation.correlationId →
    Satisfies platform raw correlationData entry.command →
      let tracker := (h.handleMessage platform config correlation.responseTopic raw
        correlationData now).tracker
      .resolve correlation.correlationId ⟨.acknowledged, true, none⟩ ∈ tracker.callbacks ∧
        tracker.timer correlation.correlationId = tracker

/-- The acknowledgement of a command that waits for it resolves its promise and ends the
wait. -/
theorem route_completes {t : PendingCommandTracker} {entry : TrackedEntry} {message : AckMessage}
    {id : String} (now : Nat) (pending : t.pending.get id = some entry)
    (correlated : entry.command.correlationId = id) (addressed : message.correlationId = id)
    (tier : entry.command.requiredTier = .acknowledged) (state : entry.state = .dispatched)
    (accepted : message.success ≠ some false)
    (acknowledges : entry.command.isAcknowledgement message = true) :
    .resolve id ⟨.acknowledged, true, none⟩ ∈ (t.route message now).callbacks ∧
      (t.route message now).timer id = t.route message now := by
  have reaction : entry.route message now =
      (none, [.onResolve id ⟨.acknowledged, true, none⟩ entry.command.targetDeviceId,
        .resolve id ⟨.acknowledged, true, none⟩]) := by
    have advances : entry.acknowledge message = ({ entry with state := .acknowledged }, true) := by
      unfold TrackedEntry.acknowledge
      rw [acknowledges, state]
      rfl
    unfold TrackedEntry.route
    rw [if_neg accepted, advances]
    simp only [acknowledges, tier, and_self, if_true, TrackedEntry.finalize, correlated]
    rfl
  have routed : t.route message now =
      t.apply id (none, [.onResolve id ⟨.acknowledged, true, none⟩ entry.command.targetDeviceId,
        .resolve id ⟨.acknowledged, true, none⟩]) := by
    unfold PendingCommandTracker.route
    rw [addressed, pending]
    simp only [reaction]
  rw [routed]
  refine ⟨by simp [PendingCommandTracker.apply], ?_⟩
  unfold PendingCommandTracker.timer PendingCommandTracker.onEntry
  simp only [PendingCommandTracker.apply, OrderedMap.get_delete_self]

/-- On a topic of the filter every reply is received, on any other topic none is. -/
theorem received_iff_ackTopic (platform : Platform) (config : MqttServiceConfig)
    {correlation : CommandCorrelation} (given : correlation.correlationId ≠ "") :
    Received platform config correlation ↔ isAckTopic config correlation.responseTopic = true := by
  constructor
  · intro received
    by_contra deaf
    -- a late reply leaves a trace in the tracker, ambient state does not
    have carries : Carries platform "" (some correlation.correlationId)
        correlation.correlationId := by
      refine .inl ?_
      simp [truthy, given]
    obtain ⟨message, -, handled⟩ := received.routed {} "" _ 0 carries
    have silent : (({} : Hub).handleMessage platform config correlation.responseTopic ""
        (some correlation.correlationId) 0).tracker = {} := by
      unfold Hub.handleMessage
      rw [if_neg deaf]
      split
      · rfl
      · split
        · rfl
        · unfold Hub.handleState
          split
          · rfl
          · split
            · rfl
            · rename_i emitted
              unfold Hub.emit at emitted
              obtain ⟨updated, -, rfl⟩ := Option.map_eq_some_iff.mp emitted
              rfl
    rw [handled] at silent
    have traced := congrArg PendingCommandTracker.callbacks silent
    cases traced
  · intro ackTopic
    have routed : ∀ (h : Hub) raw correlationData now message,
        ackMessage platform raw correlationData = some message →
          h.handleMessage platform config correlation.responseTopic raw correlationData now =
            { h with tracker := h.tracker.route message now } := by
      intro h raw correlationData now message read
      unfold Hub.handleMessage
      rw [if_pos ackTopic, read]
    refine ⟨fun h raw correlationData now carries => ?_, ?_⟩
    · obtain ⟨message, read, addressed⟩ := ackMessage_of_carries given carries
      exact ⟨message, addressed, routed h raw correlationData now message read⟩
    · intro h entry raw correlationData now pending correlated tier state carries satisfies
      obtain ⟨message, read, addressed⟩ := ackMessage_of_carries given carries
      obtain ⟨message', read', accepted, acknowledges⟩ := satisfies
      cases Option.some.inj (read.symm.trans read')
      simp only [routed h raw correlationData now message read]
      exact route_completes now pending correlated addressed tier state accepted acknowledges

/-! ## The configured filter -/

/-- `ackTopicFilter` of `src/index.ts` -/
def ackTopicFilter : String := "aeolus/acks/#"

/-- The topics that the filter of `src/index.ts` recognises. -/
theorem isAckTopic_iff {config : MqttServiceConfig}
    (configured : config.ackTopicFilter = some ackTopicFilter) (topic : String) :
    isAckTopic config topic = true ↔ "aeolus/acks/".toList <+: topic.toList := by
  have space : isAckTopic config topic = "aeolus/acks/".toList.isPrefixOf topic.toList := by
    unfold isAckTopic inSpace
    rw [configured]
    rfl
  rw [space, List.isPrefixOf_iff_prefix]

/-! ## Commands to a device with a profile -/

/-- One command on its way: the service and the router at that moment, and the request. -/
structure Sending where
  moment : Moment
  router : ActionRouter
  ofConnector : String → String → Option AcknowledgementCapability
  request : CommandRequest

/-- The command went out to an MQTT device with this profile, and carried this correlation.
The last three fields are what `src/index.ts` and `randomUUID` give, and that no caller of
`execute` sets a correlation itself. -/
structure Sending.Carried (s : Sending) (profile : MqttCommandProfile)
    (correlation : CommandCorrelation) : Prop where
  device : ∃ device, s.router.registry.getById s.request.action.target = some device ∧
    device.integration = "mqtt" ∧ device.mqttCommandProfile = some profile
  capability : s.moment.env.ackCapability = getAcknowledgementCapability s.router s.ofConnector
  published : ∃ handed action message,
    dispatchedTo s.moment.env
        (s.moment.system.execute s.moment.uuid s.moment.env s.request s.moment.now
          s.moment.createThrows s.moment.writeThrows) s.moment.system.calls = some handed ∧
      s.router.executeAction s.request.action.target action handed.correlation =
        .published message ∧
      message.correlation = some correlation
  base : s.moment.env.ackResponseTopicBase = "aeolus/acks"
  uuids : ∀ n, s.moment.uuid n ≠ ""
  plain : s.request.action.correlation = none

theorem accept_correlationId {uuid : Nat → String} {uuids : Nat} {env : Environment}
    {request : CommandRequest} {id : String}
    (correlated : (accept uuid uuids env request).1.correlationId = some id) :
    ∃ n, id = uuid n := by
  unfold accept at correlated
  simp only at correlated
  split at correlated
  · exact ⟨_, (Option.some.inj correlated).symm⟩
  · cases correlated

/-- The response topic that such a command carries: the override, or the default. -/
theorem Sending.Carried.responseTopic {s : Sending} {body : Json} {profile : MqttCommandProfile}
    {ack : MqttAcknowledgement} {correlation : CommandCorrelation}
    (carried : s.Carried profile correlation)
    (accepted : validateMqttCommandProfile body = .ok (some profile))
    (declares : profile.acknowledgement = some ack) (supported : ack.supported = true) :
    correlation.correlationId ≠ "" ∧
      correlation.responseTopic =
        ack.responseTopic.getD ("aeolus/acks" ++ "/" ++ s.request.action.target) := by
  obtain ⟨device, registered, mqtt, profiled⟩ := carried.device
  obtain ⟨handed, action, message, called, published, told⟩ := carried.published
  obtain ⟨-, rfl⟩ := dispatchedTo_accepted called
  rw [executeAction_published published] at told
  obtain ⟨correlated, topic⟩ := dispatchAction_correlation carried.plain told
  constructor
  · obtain ⟨n, same⟩ := accept_correlationId correlated
    rw [same]
    exact carried.uuids n
  · have kept : truthy ack.responseTopic = ack.responseTopic := by
      cases override : ack.responseTopic with
      | none => rfl
      | some topic =>
          have given := validated_responseTopic accepted declares override
          simp [truthy, given]
    have capability : (accept s.moment.uuid s.moment.system.uuids s.moment.env
        s.request).1.ackCapability.bind (·.responseTopic) = ack.responseTopic := by
      change (s.moment.env.ackCapability s.request.action.target).bind (·.responseTopic) = _
      rw [carried.capability]
      simp [getAcknowledgementCapability, registered, mqtt, profiled, declares, supported, kept]
    rw [topic, capability, carried.base]
    rfl

/-- **Acknowledgements.**  For every accepted profile with acknowledgements and every command
that went out to the device with a correlation, the replies on the response topic that the
command carried are received exactly when the profile has no override of that topic, or one
inside the acknowledgement space. -/
theorem acknowledgements_received_iff (platform : Platform) {body : Json}
    {profile : MqttCommandProfile} {ack : MqttAcknowledgement}
    (accepted : validateMqttCommandProfile body = .ok (some profile))
    (declares : profile.acknowledgement = some ack) (supported : ack.supported = true)
    {s : Sending} {correlation : CommandCorrelation} (carried : s.Carried profile correlation)
    {config : MqttServiceConfig} (configured : config.ackTopicFilter = some ackTopicFilter) :
    Received platform config correlation ↔
      ∀ topic, ack.responseTopic = some topic → "aeolus/acks/".toList <+: topic.toList := by
  obtain ⟨given, topic⟩ := carried.responseTopic accepted declares supported
  rw [received_iff_ackTopic platform config given, isAckTopic_iff configured, topic]
  cases override : ack.responseTopic with
  | none =>
      refine ⟨fun _ topic named => absurd named (by simp), fun _ => ?_⟩
      simp only [Option.getD_none, String.toList_append]
      exact List.prefix_append _ _
  | some topic =>
      refine ⟨fun inside topic named => ?_, fun inside => inside topic rfl⟩
      cases named
      exact inside

/-! ## A lamp that replies elsewhere -/

/-- The body of a profile with acknowledgements, and an override where one is given. -/
def profileBody (override : List (String × Json)) : Json :=
  .obj [("acknowledgement", .obj (("supported", .bool true) :: override))]

def lampProfile (override : Option String) : MqttCommandProfile where
  acknowledgement := some { supported := true, responseTopic := override }

def profiledRouter (override : Option String) : ActionRouter where
  registry :=
    { devices := OrderedMap.empty.set "home-lamp"
        { id := "home-lamp", name := "Lamp", type := "light", capabilities := ["on/off"]
          state := .empty, integration := "mqtt", lastSeen := 0, topic := some "home/lamp"
          mqttCommandProfile := some (lampProfile override) } }
  mqttConnected := true
  showNumber _ := ""
  stringify _ := ""

/-- A command to the lamp. -/
def lampSending (override : Option String) : Sending where
  moment :=
    { uuid := fun _ => "7f"
      system := {}
      env := { openEnv with
        ackCapability := getAcknowledgementCapability (profiledRouter override) fun _ _ => none }
      now := 0
      createThrows := false
      writeThrows := false }
  router := profiledRouter override
  ofConnector _ _ := none
  request :=
    { action := { type := "device_action", target := "home-lamp", params := .empty }
      source := .rest none }

theorem lampSending_carried (override : Option String) (given : override ≠ some "") :
    (lampSending override).Carried (lampProfile override)
      ⟨"7f", override.getD "aeolus/acks/home-lamp"⟩ where
  device := ⟨_, rfl, rfl, rfl⟩
  capability := rfl
  published := by
    refine ⟨_, ⟨"command", "home-lamp", .empty⟩, _, rfl, rfl, ?_⟩
    cases override with
    | none => rfl
    | some topic =>
        have named : topic ≠ "" := fun empty => given (congrArg some empty)
        have kept : truthy (some topic) = some topic := by simp [truthy, named]
        change some (CommandCorrelation.mk "7f" ((truthy (some topic)).getD _)) = _
        rw [kept]
        rfl
  base := rfl
  uuids _ := by
    change "7f" ≠ ""
    decide
  plain := rfl

def ackConfig : MqttServiceConfig where
  ackTopicFilter := some ackTopicFilter

/-- `JSON.parse` of the replies that are written here. -/
def replyPlatform : Platform where
  sha256 text := text
  jsonParse text := if text = "\x7b\x7d" then some (.obj []) else none
  number _ := none
  trim text := text
  toLowerCase text := text
  titleCase text := text

theorem acknowledgements_received_default :
    validateMqttCommandProfile (profileBody []) = .ok (some (lampProfile none)) ∧
      Received replyPlatform ackConfig ⟨"7f", "aeolus/acks/home-lamp"⟩ := by
  have accepted : validateMqttCommandProfile (profileBody []) = .ok (some (lampProfile none)) := by
    decide +kernel
  refine ⟨accepted, ?_⟩
  refine (acknowledgements_received_iff replyPlatform accepted rfl rfl
    (lampSending_carried none (by decide)) rfl).mpr fun topic named => ?_
  cases named

/-- The profile is accepted, the command tells the lamp to reply on `home/lamp/ack`, and the
replies are not received. -/
theorem override_not_received :
    validateMqttCommandProfile (profileBody [("responseTopic", .str "home/lamp/ack")]) =
        .ok (some (lampProfile (some "home/lamp/ack"))) ∧
      (lampSending (some "home/lamp/ack")).Carried (lampProfile (some "home/lamp/ack"))
        ⟨"7f", "home/lamp/ack"⟩ ∧
      ¬ Received replyPlatform ackConfig ⟨"7f", "home/lamp/ack"⟩ := by
  refine ⟨by decide +kernel, lampSending_carried _ (by decide), fun received => ?_⟩
  have deaf := (received_iff_ackTopic replyPlatform ackConfig (by decide)).mp received
  exact absurd deaf (by decide)

end Aeolus.Api
