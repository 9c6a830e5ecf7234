/-
# Aeolus.Connectors.CorrelatedCommand — what a correlation does to a published command

`executeMqttAction` of `src/connectors/action-router.ts` chooses the body of a command twice.
Without a correlation it is the `payload` of the parameters, a text as it is and any other
value as JSON, or all parameters when there is no `payload`.  With a correlation it is an
object: the `payload` spread, if it is an object or a list, and all parameters otherwise,
with the correlation id and the response topic set in it.

The two say the same, up to the mirrored fields, exactly when there is an object to mirror
them in that has neither field of its own (`Mirrorable`); a text, a number or `null` is sent
inside its parameters, a list as an object (`correlation_transparent_iff`).  The way back
is sound: either echo of the id is read as the id that was published
(`recovered_of_nonempty`).

Pole: `correlated_text_differs` (the command `ON` becomes an object).
-/
import Aeolus.Api.DeviceRoutes
import Aeolus.Mqtt.MqttService

namespace Aeolus.Connectors

open Aeolus.Core Aeolus.Theory Aeolus.Automations Aeolus.Mqtt

/-! ## Bodies -/

/-- The object that the correlation fields are set in. -/
def envelopeBase (action : Action) : JsonObject :=
  match action.params.get "payload" with
  | some (.obj fields) => Json.spread (.obj fields)
  | some (.arr items) => Json.spread (.arr items)
  | _ => action.params

def envelope (action : Action) (correlation : CommandCorrelation) : JsonObject :=
  ((envelopeBase action).set "correlationId" (.str correlation.correlationId)).set
    "responseTopic" (.str correlation.responseTopic)

theorem mqttPayload_correlated (router : ActionRouter) (action : Action)
    (correlation : CommandCorrelation) : router.mqttPayload action (some correlation) =
      router.stringify (.obj (envelope action correlation).entries) := rfl

/-- The fields of a body that is a JSON object. -/
def fieldsOf (platform : Platform) (body : String) : Option JsonObject :=
  match platform.jsonParse body with
  | some (.obj fields) => some (JsonObject.ofFields fields)
  | _ => none

def withoutCorrelation (fields : JsonObject) : JsonObject :=
  (fields.delete "correlationId").delete "responseTopic"

/-- Without the two fields the correlated body is the object that the plain body is. -/
def SamePayload (platform : Platform) (correlated plain : String) : Prop :=
  ∃ fields payload, fieldsOf platform correlated = some fields ∧
    fieldsOf platform plain = some payload ∧
    ∀ name, (withoutCorrelation fields).get name = payload.get name

/-- Both echoes of a published command name its correlation: the MQTT property, whatever
the reply says, and the field of the body in a reply without the property. -/
structure Recovered (platform : Platform) (message : MqttMessage) (id : String) : Prop where
  property : ∀ raw, (ackMessage platform raw (message.correlation.map (·.correlationId))).map
    (·.correlationId) = some id
  field : ∀ fields raw reply, fieldsOf platform message.payload = some fields →
    fieldsOf platform raw = some reply →
    reply.get "correlationId" = fields.get "correlationId" →
      (ackMessage platform raw none).map (·.correlationId) = some id

/-- The command is the same with a correlation and without, and its id comes back. -/
def Transparent (platform : Platform) (router : ActionRouter) (device : Device) (action : Action)
    (correlation : CommandCorrelation) : Prop :=
  ∃ correlated plain,
    router.executeMqttAction device action (some correlation) = .published correlated ∧
    router.executeMqttAction device action none = .published plain ∧
    correlated.topic = plain.topic ∧ SamePayload platform correlated.payload plain.payload ∧
    Recovered platform correlated correlation.correlationId

/-- There is an object to mirror the fields in, and it has neither. -/
def Mirrorable (action : Action) : Prop :=
  let free (fields : JsonObject) : Prop :=
    fields.get "correlationId" = none ∧ fields.get "responseTopic" = none
  match action.params.get "payload" with
  | none => free action.params
  | some (.obj fields) => free (JsonObject.ofFields fields)
  | _ => False

/-- What is relied on of JSON: `JSON.parse` reads back what `JSON.stringify` wrote, and a
text does not have itself as a part. -/
structure ReadsBack (platform : Platform) (router : ActionRouter) (action : Action)
    (correlation : CommandCorrelation) : Prop where
  envelope : platform.jsonParse (router.stringify (.obj (envelope action correlation).entries)) =
    some (.obj (Connectors.envelope action correlation).entries)
  params : platform.jsonParse (router.stringify (.obj action.params.entries)) =
    some (.obj action.params.entries)
  payload : ∀ value, action.params.get "payload" = some value → value.asString = none →
    platform.jsonParse (router.stringify value) = some value
  text : ∀ text fields, action.params.get "payload" = some (.str text) →
    fieldsOf platform text = some fields → fields.get "payload" ≠ some (.str text)

/-! ## Fields -/

theorem get_ofFields_entries (fields : JsonObject) (name : String) :
    (JsonObject.ofFields fields.entries).get name = fields.get name := by
  have merged : JsonObject.ofFields fields.entries = JsonObject.merge .empty fields := rfl
  rw [merged, JsonObject.get_merge, OrderedMap.get_empty, Option.or_none]

theorem get_withoutCorrelation (fields : JsonObject) (name : String) :
    (withoutCorrelation fields).get name =
      if name = "correlationId" ∨ name = "responseTopic" then none else fields.get name := by
  rw [withoutCorrelation, OrderedMap.get_delete, OrderedMap.get_delete]
  by_cases id : name = "correlationId"
  · simp [id]
  · by_cases topic : name = "responseTopic" <;> simp [id, topic]

/-- Taking the mirrored fields away gives the object that they were set in, without its own. -/
theorem get_without_envelope (action : Action) (correlation : CommandCorrelation)
    (name : String) : (withoutCorrelation
      (JsonObject.ofFields (envelope action correlation).entries)).get name =
        if name = "correlationId" ∨ name = "responseTopic" then none
        else (envelopeBase action).get name := by
  rw [get_withoutCorrelation, get_ofFields_entries, envelope]
  by_cases mirrored : name = "correlationId" ∨ name = "responseTopic"
  · simp [mirrored]
  · obtain ⟨id, topic⟩ := not_or.mp mirrored
    rw [OrderedMap.get_set_of_ne _ _ topic, OrderedMap.get_set_of_ne _ _ id]

/-- An object is as it was without the two fields exactly when it has neither. -/
theorem same_without_iff (fields : JsonObject) :
    (∀ name, (if name = "correlationId" ∨ name = "responseTopic" then none
        else fields.get name) = fields.get name) ↔
      fields.get "correlationId" = none ∧ fields.get "responseTopic" = none := by
  constructor
  · intro same
    exact ⟨(same "correlationId").symm, (same "responseTopic").symm⟩
  · rintro ⟨id, topic⟩ name
    by_cases mirrored : name = "correlationId" ∨ name = "responseTopic"
    · rw [if_pos mirrored]
      rcases mirrored with rfl | rfl
      · exact id.symm
      · exact topic.symm
    · rw [if_neg mirrored]

section Published

variable {platform : Platform} {router : ActionRouter} {action : Action}
  {correlation : CommandCorrelation}

theorem fieldsOf_correlated (reads : ReadsBack platform router action correlation) :
    fieldsOf platform (router.mqttPayload action (some correlation)) =
      some (JsonObject.ofFields (envelope action correlation).entries) := by
  rw [mqttPayload_correlated, fieldsOf, reads.envelope]

/-- What the plain body denotes, when it is no text. -/
theorem fieldsOf_plain (reads : ReadsBack platform router action correlation) {value : Json}
    (given : action.params.get "payload" = some value) (plain : value.asString = none) :
    fieldsOf platform (router.mqttPayload action none) =
      match value with
      | .obj fields => some (JsonObject.ofFields fields)
      | _ => none := by
  have body : router.mqttPayload action none = router.stringify value := by
    unfold ActionRouter.mqttPayload
    rw [given]
    cases value <;> first | rfl | cases plain
  rw [body, fieldsOf, reads.payload value given plain]
  cases value <;> rfl

theorem fieldsOf_params (reads : ReadsBack platform router action correlation)
    (absent : action.params.get "payload" = none) :
    fieldsOf platform (router.mqttPayload action none) =
      some (JsonObject.ofFields action.params.entries) := by
  have body : router.mqttPayload action none = router.stringify (.obj action.params.entries) := by
    unfold ActionRouter.mqttPayload
    rw [absent]
  rw [body, fieldsOf, reads.params]

/-- **The same payload**, exactly when the fields can be mirrored. -/
theorem samePayload_iff (reads : ReadsBack platform router action correlation) :
    SamePayload platform (router.mqttPayload action (some correlation))
      (router.mqttPayload action none) ↔ Mirrorable action := by
  have same (payload : JsonObject)
      (plain : fieldsOf platform (router.mqttPayload action none) = some payload) :
      SamePayload platform (router.mqttPayload action (some correlation))
        (router.mqttPayload action none) ↔
        ∀ name, (if name = "correlationId" ∨ name = "responseTopic" then none
          else (envelopeBase action).get name) = payload.get name := by
    simp only [SamePayload, fieldsOf_correlated reads, plain, Option.some.injEq]
    constructor
    · rintro ⟨_, _, rfl, rfl, agree⟩ name
      rw [← get_without_envelope action correlation]
      exact agree name
    · intro agree
      refine ⟨_, _, rfl, rfl, fun name => ?_⟩
      rw [get_without_envelope action correlation]
      exact agree name
  have differ (plain : fieldsOf platform (router.mqttPayload action none) = none) :
      ¬SamePayload platform (router.mqttPayload action (some correlation))
        (router.mqttPayload action none) := by
    rintro ⟨_, _, _, denoted, _⟩
    rw [plain] at denoted
    cases denoted
  unfold Mirrorable
  cases given : action.params.get "payload" with
  | none =>
      have base : envelopeBase action = action.params := by rw [envelopeBase, given]
      rw [same _ (fieldsOf_params reads given), base]
      simp only [get_ofFields_entries]
      exact same_without_iff action.params
  | some value =>
      cases value with
      | obj fields =>
          have base : envelopeBase action = JsonObject.ofFields fields := by
            rw [envelopeBase, given]
            rfl
          rw [same _ (fieldsOf_plain reads given rfl), base]
          exact same_without_iff _
      | str text =>
          refine iff_of_false ?_ id
          rintro ⟨fields, payload, correlated, denoted, agree⟩
          -- the correlated body has the text inside, the plain one is the text
          have body : router.mqttPayload action none = text := by
            unfold ActionRouter.mqttPayload
            rw [given]
          rw [fieldsOf_correlated reads] at correlated
          cases correlated
          rw [body] at denoted
          refine reads.text text payload given denoted ?_
          have base : envelopeBase action = action.params := by rw [envelopeBase, given]
          rw [← agree "payload", get_without_envelope action correlation, if_neg (by decide), base]
          exact given
      | null => exact iff_of_false (differ (fieldsOf_plain reads given rfl)) id
      | bool _ => exact iff_of_false (differ (fieldsOf_plain reads given rfl)) id
      | num _ => exact iff_of_false (differ (fieldsOf_plain reads given rfl)) id
      | arr _ => exact iff_of_false (differ (fieldsOf_plain reads given rfl)) id

end Published

/-! ## The way back -/

/-- The id of a reply, as `handleAckMessage` finds it. -/
theorem ackMessage_correlationId (platform : Platform) (raw : String)
    (correlationData : Option String) :
    (ackMessage platform raw correlationData).map (·.correlationId) =
      resolveCorrelationId correlationData
        ((fieldsOf platform raw).bind fun reply =>
          (reply.get "correlationId").bind Json.asString) := by
  unfold ackMessage fieldsOf
  rw [Option.map_map]
  cases platform.jsonParse raw with
  | none => simp [Function.comp_def]
  | some value =>
      cases value with
      | obj fields => simp [Function.comp_def, Mqtt.ofFields, JsonObject.ofFields]
      | _ => simp [Function.comp_def]

theorem resolveCorrelationId_ne_empty {correlationData payloadCorrelationId : Option String}
    {id : String} (resolved : resolveCorrelationId correlationData payloadCorrelationId = some id) :
    id ≠ "" := by
  cases data : truthy correlationData with
  | some given =>
      rw [resolveCorrelationId, data] at resolved
      cases resolved
      exact (truthy_eq_some.mp data).2
  | none =>
      rw [resolveCorrelationId, data] at resolved
      exact (truthy_eq_some.mp resolved).2

/-- The body holds the id that was published. -/
theorem envelope_correlationId (action : Action) (correlation : CommandCorrelation) :
    (JsonObject.ofFields (envelope action correlation).entries).get "correlationId" =
      some (.str correlation.correlationId) := by
  rw [get_ofFields_entries, envelope, OrderedMap.get_set_of_ne _ _ (by decide),
    OrderedMap.get_set_self]

/-- **An id that is not empty** is recovered from either echo. -/
theorem recovered_of_nonempty {platform : Platform} {router : ActionRouter} {action : Action}
    {correlation : CommandCorrelation} (reads : ReadsBack platform router action correlation)
    {message : MqttMessage} (body : message.payload = router.mqttPayload action (some correlation))
    (data : message.correlation = some correlation) (given : correlation.correlationId ≠ "") :
    Recovered platform message correlation.correlationId := by
  have kept : truthy (some correlation.correlationId) = some correlation.correlationId :=
    truthy_eq_some.mpr ⟨rfl, given⟩
  constructor
  · intro raw
    rw [ackMessage_correlationId, data, Option.map_some, resolveCorrelationId, kept]
    rfl
  · intro fields raw reply sent received echoed
    rw [body, fieldsOf_correlated reads] at sent
    cases sent
    rw [envelope_correlationId] at echoed
    rw [ackMessage_correlationId, received, Option.bind_some, echoed, resolveCorrelationId]
    exact kept

/-! ## Exactness -/

/-- **Correlation does not change the command** exactly when its fields can be mirrored in
the payload, and the id is not empty. -/
theorem correlation_transparent_iff {platform : Platform} {router : ActionRouter}
    (connected : router.mqttConnected = true) (device : Device) {action : Action}
    {correlation : CommandCorrelation} (reads : ReadsBack platform router action correlation) :
    Transparent platform router device action correlation ↔
      Mirrorable action ∧ correlation.correlationId ≠ "" := by
  have published (given : Option CommandCorrelation) :
      router.executeMqttAction device action given = .published
        { topic := ActionRouter.commandTopic device
          payload := router.mqttPayload action given
          correlation := given
          qos := device.mqttCommandProfile.bind MqttCommandProfile.qos } := if_pos connected
  rw [← samePayload_iff reads]
  constructor
  · rintro ⟨correlated, plain, sent, sentPlain, -, same, recovered⟩
    cases (published _).symm.trans sent
    cases (published _).symm.trans sentPlain
    refine ⟨same, ?_⟩
    have property := recovered.property ""
    rw [ackMessage_correlationId] at property
    exact resolveCorrelationId_ne_empty property
  · rintro ⟨same, given⟩
    exact ⟨_, _, published _, published _, rfl, same, recovered_of_nonempty reads rfl rfl given⟩

/-! ## Poles -/

def relayCorrelation : CommandCorrelation := ⟨"K1", "aeolus/acks/relay"⟩

def relay : Device where
  id := "relay"
  name := "Relay"
  type := "switch"
  integration := "mqtt"
  capabilities := []
  state := .empty
  lastSeen := 0

def relayCommand (payload : Json) : List (String × Json) :=
  [("actionType", .str "command"), ("payload", payload)]

/-- A command to the relay, with a payload of its own. -/
def setRelay (payload : Json) : Action :=
  Api.handleDeviceAction
    { type := "device_action", target := "relay"
      params := JsonObject.ofFields (relayCommand payload) }

def switchOn : List (String × Json) := [("on", .bool true)]

/-- The fields of a body, as the relay is sent it. -/
def mirrored (fields : List (String × Json)) : List (String × Json) :=
  fields ++ [("correlationId", .str "K1"), ("responseTopic", .str "aeolus/acks/relay")]

/-- The objects that are published here, with their texts. -/
def relayBodies : List (List (String × Json) × String) :=
  [(switchOn, "\x7b\"on\":true\x7d"),
    (relayCommand (.obj switchOn),
      "\x7b\"actionType\":\"command\",\"payload\":\x7b\"on\":true\x7d\x7d"),
    (relayCommand (.str "ON"), "\x7b\"actionType\":\"command\",\"payload\":\"ON\"\x7d"),
    (mirrored switchOn,
      "\x7b\"on\":true,\"correlationId\":\"K1\",\"responseTopic\":\"aeolus/acks/relay\"\x7d"),
    (mirrored (relayCommand (.str "ON")),
      "\x7b\"actionType\":\"command\",\"payload\":\"ON\",\"correlationId\":\"K1\"," ++
        "\"responseTopic\":\"aeolus/acks/relay\"\x7d")]

/-- The names and the texts of an object: enough to tell these bodies apart. -/
def shape (fields : List (String × Json)) : List (String × Option String) :=
  fields.map fun field => (field.1, field.2.asString)

def relayRouter : ActionRouter where
  registry := { devices := OrderedMap.empty.set "relay" relay }
  mqttConnected := true
  showNumber _ := ""
  stringify
    | .obj fields =>
        ((relayBodies.find? fun body => shape body.1 = shape fields).map Prod.snd).getD ""
    | _ => ""

/-- `ON` is no JSON. -/
def relayPlatform : Platform where
  sha256 text := text
  jsonParse text := (relayBodies.find? fun body => body.2 = text).map (Json.obj ·.1)
  number _ := none
  trim text := text
  toLowerCase text := text
  titleCase text := text

theorem reads_switchOn :
    ReadsBack relayPlatform relayRouter (setRelay (.obj switchOn)) relayCorrelation where
  envelope := rfl
  params := rfl
  payload value given _ := by
    cases given
    rfl
  text text _ given := nomatch given

theorem reads_text :
    ReadsBack relayPlatform relayRouter (setRelay (.str "ON")) relayCorrelation where
  envelope := rfl
  params := rfl
  payload value given plain := by
    cases given
    cases plain
  text text fields given denoted := by
    cases given
    cases denoted

theorem correlation_transparent_iff_switchOn :
    Transparent relayPlatform relayRouter relay (setRelay (.obj switchOn)) relayCorrelation :=
  (correlation_transparent_iff rfl relay reads_switchOn).mpr ⟨⟨rfl, rfl⟩, by decide⟩

/-- The command `ON` is a text without a correlation, and an object with one. -/
theorem correlated_text_differs :
    ReadsBack relayPlatform relayRouter (setRelay (.str "ON")) relayCorrelation ∧
      ∃ correlated plain,
        relayRouter.executeAction "relay" (setRelay (.str "ON")) (some relayCorrelation) =
          .published correlated ∧
        relayRouter.executeAction "relay" (setRelay (.str "ON")) = .published plain ∧
        relayPlatform.jsonParse correlated.payload =
          some (.obj (mirrored (relayCommand (.str "ON")))) ∧
        plain.payload = "ON" ∧
        ¬ SamePayload relayPlatform correlated.payload plain.payload ∧
        ¬ Transparent relayPlatform relayRouter relay (setRelay (.str "ON")) relayCorrelation := by
  have differ (body : String) : ¬ SamePayload relayPlatform body "ON" := by
    rintro ⟨_, payload, _, denoted, _⟩
    have unread : fieldsOf relayPlatform "ON" = none := rfl
    rw [unread] at denoted
    cases denoted
  refine ⟨reads_text, _, _, rfl, rfl, rfl, rfl, differ _, ?_⟩
  rintro ⟨_, plain, _, sent, _, same, _⟩
  cases sent
  exact differ _ same

end Aeolus.Connectors
