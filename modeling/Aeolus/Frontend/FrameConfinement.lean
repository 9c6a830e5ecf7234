/-
# Aeolus.Frontend.FrameConfinement — do the requests of a frame stay within its grant?

A request is confined when its URL parses to one of the paths that the grant is for, a fire
operation selects the branch of `POST /:id/fire` for the event that was validated, and a
read-only grant has none at all.

Two requests are put together without escaping: `control` inserts the device id into the URL
as it is, and `fire` spreads the payload over the event name.  So a frame reaches another
endpoint (`device_id_leaves_path`), or another branch.
`confined_iff` says which messages do not: those whose device id leads to one segment, and
whose payload does not speak for the body.
-/
import Mathlib.Data.Bool.AllAny
import Aeolus.Core.UrlPath
import Aeolus.Demo.DemoRoutes
import Aeolus.Frontend.SdkBroker

namespace Aeolus.Frontend

open Aeolus.Core Aeolus.Theory Aeolus.Demo
open Aeolus.Core.UrlPath

/-! ## What is claimed -/

/-- The URL is the API origin with this path. -/
def At (target : String) (path : List String) : Prop :=
  (parse target).path = path ∧ (parse target).query = none ∧ (parse target).fragment = none

/-- The endpoints that a grant is for. -/
def Endpoint (grant : FrameGrant) (request : HttpRequest) : Prop :=
  (request.method = "POST" ∧ ∃ device, At request.target ["api", "devices", device, "action"]) ∨
  (request.method = "POST" ∧ At request.target ["api", "mqtt", "publish"]) ∨
  (grant.entityType = .automation ∧ request.method = "PUT" ∧
    At request.target ["api", "automations", grant.entityId, "state"]) ∨
  (grant.entityType = .automation ∧ request.method = "POST" ∧
    At request.target ["api", "automations", grant.entityId, "fire"])

/-- Whoever sends it, the body fires the event with this name. -/
def Selects (body : Json) (eventName : String) : Prop :=
  asObject (body.property "stateSet") = none ∧
    ∀ req id topic, ∃ firing, firingOf req id topic body = .ok firing ∧
      firing.eventName = some eventName

structure Issued.Confined (issued : Issued) : Prop where
  endpoint : Endpoint issued.grant issued.request
  selects : ∀ eventName, issued.fired = some eventName → Selects issued.request.body eventName
  writes : issued.grant.readOnly = false

/-! ## When it holds -/

/-- The payload does not bring its own `stateSet`, and what it brings as `eventName`, if it does,
is the name. -/
def Names (eventName : String) (payload : Option Json) : Prop :=
  asObject (((payload.getD (.obj [])).spread).get "stateSet") = none ∧
    match ((payload.getD (.obj [])).spread).get "eventName" with
    | none => trim eventName = eventName
    | some value => value.asString.map trim = some eventName

/-- The operation as it will be carried out. -/
def SafeOp (grant : FrameGrant) (params : Json) : SdkOp → Prop
  | .control => ∃ device, LeadsTo ["devices", "api"] (text params "deviceId") device
  | .save => grant.entityType = .automation ∧ Plain grant.entityId
  | .saveAndFire => grant.entityType = .automation ∧ Plain grant.entityId
  | .fire =>
      grant.entityType = .automation ∧ Plain grant.entityId ∧
        Names (text params "eventName") (params.property "payload")
  | _ => True

def Safe (grant : FrameGrant) (raw : Json) : Prop :=
  ∀ op params, validated raw = some (op, params) → grant.readOnly = false →
    SafeOp grant params op

/-- The event, for the grant of the frame that sends it. -/
def SafeEvent (broker : SdkBroker) : BrokerEvent → Prop
  | .message frameId raw =>
      ∀ grant, broker.registrations.get frameId = some grant → Safe grant raw
  | _ => True

/-! ## URLs -/

section Urls

theorem plain_words : Plain "api" ∧ Plain "devices" ∧ Plain "automations" ∧ Plain "panels" ∧
    Plain "action" ∧ Plain "state" ∧ Plain "fire" := by
  refine ⟨⟨?_, rfl, rfl⟩, ⟨?_, rfl, rfl⟩, ⟨?_, rfl, rfl⟩, ⟨?_, rfl, rfl⟩, ⟨?_, rfl, rfl⟩,
    ⟨?_, rfl, rfl⟩, ⟨?_, rfl, rfl⟩⟩ <;> exact List.all_iff_forall_prop.mp (by decide +kernel)

theorem EntityType.plain_base (entityType : EntityType) : Plain entityType.base := by
  obtain ⟨-, -, automations, panels, -⟩ := plain_words
  cases entityType with
  | automation => exact automations
  | panel => exact panels

/-- The URLs of the requests are templates. -/
theorem action_target (deviceId : String) :
    "/api/devices/" ++ deviceId ++ "/action" = template "api" "devices" "action" deviceId := by
  have literal : "/api/devices/" = "/" ++ "api" ++ "/" ++ "devices" ++ "/" := by decide
  have last : "/action" = "/" ++ "action" := by decide
  rw [literal, last, template, ← String.append_assoc]

theorem entity_target (base entityId last : String) :
    "/api/" ++ base ++ "/" ++ entityId ++ ("/" ++ last) = template "api" base last entityId := by
  have literal : "/api/" = "/" ++ "api" ++ "/" := by decide
  rw [literal, template, ← String.append_assoc]

/-- A template is only at paths that end as it does. -/
theorem At.last {a b last text : String} (plainA : Plain a) (plainB : Plain b)
    (plainLast : Plain last) {path : List String}
    (reached : At (template a b last text) path) : path.getLast? = some last := by
  obtain ⟨rfl, query, fragment⟩ := reached
  exact template_getLast? plainA plainB plainLast query fragment

theorem endpoint_control {grant : FrameGrant} {deviceId actionType : String}
    {params : Option Json} : Endpoint grant (control deviceId actionType params) ↔
      ∃ device, LeadsTo ["devices", "api"] deviceId device := by
  obtain ⟨api, devices, -, -, action, -⟩ := plain_words
  unfold Endpoint control
  rw [action_target]
  constructor
  · rintro (⟨-, device, reached⟩ | ⟨-, reached⟩ | ⟨-, put, -⟩ | ⟨-, -, reached⟩)
    · exact ⟨device, (parse_template api devices action deviceId device).mp reached⟩
    · have last := reached.last api devices action
      simp at last
    · simp at put
    · have last := reached.last api devices action
      simp at last
  · rintro ⟨device, leads⟩
    exact .inl ⟨rfl, device, (parse_template api devices action deviceId device).mpr leads⟩

theorem endpoint_publish (grant : FrameGrant) (topic payload : String) :
    Endpoint grant (publish topic payload) := by
  have reached : At "/api/mqtt/publish" ["api", "mqtt", "publish"] :=
    ⟨by decide +kernel, by decide +kernel, by decide +kernel⟩
  exact .inr (.inl ⟨rfl, reached⟩)

/-- A request for the entity goes to the automation of the grant when its id is one segment. -/
theorem endpoint_entity (grant : FrameGrant) (body : Json) {method last : String}
    (kind : method = "PUT" ∧ last = "state" ∨ method = "POST" ∧ last = "fire") :
    Endpoint grant { method, target := "/api/" ++ grant.entityType.base ++ "/" ++ grant.entityId ++
      ("/" ++ last), body } ↔ grant.entityType = .automation ∧ Plain grant.entityId := by
  obtain ⟨api, -, automations, -, -, state, fire⟩ := plain_words
  have plainLast : Plain last := by
    rcases kind with ⟨-, rfl⟩ | ⟨-, rfl⟩
    · exact state
    · exact fire
  have plainBase := grant.entityType.plain_base
  have own : grant.entityType = .automation →
      (At (template "api" grant.entityType.base last grant.entityId)
        ["api", "automations", grant.entityId, last] ↔ Plain grant.entityId) := by
    intro automation
    rw [automation]
    exact (parse_template api automations plainLast _ _).trans (leadsTo_self api automations)
  unfold Endpoint
  dsimp only
  rw [entity_target]
  constructor
  · rintro (⟨-, device, reached⟩ | ⟨-, reached⟩ | ⟨automation, put, reached⟩ |
      ⟨automation, post, reached⟩)
    · have ends := reached.last api plainBase plainLast
      rcases kind with ⟨-, rfl⟩ | ⟨-, rfl⟩ <;> simp at ends
    · have ends := reached.last api plainBase plainLast
      rcases kind with ⟨-, rfl⟩ | ⟨-, rfl⟩ <;> simp at ends
    · have ends := reached.last api plainBase plainLast
      obtain rfl : "state" = last := by simpa using ends
      exact ⟨automation, (own automation).mp reached⟩
    · have ends := reached.last api plainBase plainLast
      obtain rfl : "fire" = last := by simpa using ends
      exact ⟨automation, (own automation).mp reached⟩
  · rintro ⟨automation, plain⟩
    have reached := (own automation).mpr plain
    rcases kind with ⟨rfl, rfl⟩ | ⟨rfl, rfl⟩
    · exact .inr (.inr (.inl ⟨automation, rfl, reached⟩))
    · exact .inr (.inr (.inr ⟨automation, rfl, reached⟩))

end Urls

/-! ## Bodies -/

section Bodies

theorem property_entries (object : JsonObject) (name : String) :
    (Json.obj object.entries).property name = object.get name := by
  unfold Json.property OrderedMap.get
  congr 1

/-- A body fires an event under its trimmed name, unless it has a `stateSet`. -/
theorem selects_iff {body : Json} {eventName : String} (nonempty : eventName ≠ "") :
    Selects body eventName ↔ asObject (body.property "stateSet") = none ∧
      (textProperty "eventName" body).map trim = some eventName := by
  refine and_congr_right fun _ => ⟨fun fires => ?_, fun named req id topic => ?_⟩
  · let anyone : Request :=
      { method := "POST", path := "", user := none, publicDemo := false, contentLength := none
        body := none }
    obtain ⟨firing, chosen, named⟩ := fires anyone "" ""
    obtain ⟨given, found, trimmed, -⟩ := firingOf_ok chosen named
    simp [textProperty, found, Json.asString, trimmed]
  · have spelled : (((body.property "eventName").bind Json.asString).map trim).getD "" =
        eventName := by
      show ((textProperty "eventName" body).map trim).getD "" = _
      rw [named]
      rfl
    unfold firingOf
    dsimp only
    rw [spelled, if_pos nonempty]
    exact ⟨_, rfl, rfl⟩

theorem selects_fire (grant : FrameGrant) {eventName : String} (nonempty : eventName ≠ "")
    (payload : Option Json) :
    Selects (fire grant.entityType grant.entityId eventName payload).body eventName ↔
      Names eventName payload := by
  have set : (fireBody eventName payload).get "stateSet" =
      ((payload.getD (.obj [])).spread).get "stateSet" := by
    rw [fireBody, JsonObject.get_merge, OrderedMap.get_set_of_ne _ _ (by decide)]
    exact Option.or_none
  have name : (fireBody eventName payload).get "eventName" =
      (((payload.getD (.obj [])).spread).get "eventName").or (some (.str eventName)) := by
    rw [fireBody, JsonObject.get_merge, OrderedMap.get_set_self]
  rw [selects_iff nonempty, Names, fire, property_entries, set, textProperty, property_entries,
    name]
  refine and_congr_right fun _ => ?_
  cases ((payload.getD (.obj [])).spread).get "eventName" with
  | none => simp [Json.asString]
  | some value => simp

end Bodies

/-! ## One message -/

section Messages

variable {grant : FrameGrant} {raw params : Json}

theorem issuedFor_of_invalid (invalid : validated raw = none) : issuedFor grant raw = [] := by
  simp [issuedFor, handleMessage, invalid]

/-- A read-only grant issues nothing. -/
theorem executeOp_readOnly (readOnly : grant.readOnly = true) (op : SdkOp) (params : Json) :
    executeOp grant op params = [] := by
  unfold executeOp
  cases op <;> simp [readOnly, readOnlySdkOps]

theorem fired_of_not_fire {op : SdkOp} (valid : validated raw = some (op, params))
    (other : op ≠ .fire) : firedEvent raw = none := by
  unfold firedEvent
  rw [valid]
  split
  · rename_i same
    cases same
    exact absurd rfl other
  · rfl

/-- A request that fires no event is confined when its endpoint is. -/
theorem confined_of_silent (writes : grant.readOnly = false) {request : HttpRequest} :
    Issued.Confined { grant, fired := none, request } ↔ Endpoint grant request :=
  ⟨fun confined => confined.endpoint,
    fun endpoint => ⟨endpoint, (fun _ fired => nomatch fired), writes⟩⟩

/-- The requests of one operation are confined if and only if it is safe. -/
theorem confined_op (writes : grant.readOnly = false) {op : SdkOp}
    (valid : validated raw = some (op, params)) :
    (∀ issued ∈ issuedFor grant raw, issued.Confined) ↔ SafeOp grant params op := by
  have executed : issuedFor grant raw = (executeOp grant op params).map fun request =>
      { grant, fired := firedEvent raw, request } := by
    simp [issuedFor, handleMessage, valid]
  rw [executed]
  unfold executeOp
  rw [if_neg (by simp [writes])]
  cases op with
  | read => simp [SafeOp]
  | commands => simp [SafeOp]
  | subscribe => simp [SafeOp]
  | save =>
      have put := endpoint_entity grant (.ofPresent
        [("key", some (.str (text params "key"))), ("value", params.property "value")])
        (.inl ⟨rfl, rfl⟩)
      simp only [fired_of_not_fire valid (by decide), save, List.map_cons, List.map_nil,
        List.mem_singleton, forall_eq, confined_of_silent writes]
      exact put
  | saveAndFire =>
      simp only [fired_of_not_fire valid (by decide), SafeOp]
      cases own : grant.entityType with
      | automation =>
          have post := endpoint_entity grant (.obj [("stateSet", .ofPresent
            [("key", some (.str (text params "key"))), ("value", params.property "value")])])
            (.inr ⟨rfl, rfl⟩)
          simp only [saveAndFire, List.map_cons, List.map_nil, List.mem_singleton, forall_eq,
            confined_of_silent writes]
          rw [own] at post
          refine Iff.trans post ?_
          simp
      | panel =>
          have put := endpoint_entity grant (.ofPresent
            [("key", some (.str (text params "key"))), ("value", params.property "value")])
            (.inl ⟨rfl, rfl⟩)
          rw [own] at put
          refine iff_of_false (fun all => ?_) (by simp)
          have first := all _ (List.mem_map.mpr ⟨_, List.mem_append_left _ List.mem_cons_self, rfl⟩)
          have confined := put.mp ((confined_of_silent writes).mp first)
          simp at confined
  | fire =>
      have nonempty := validated_fire valid
      have fired : firedEvent raw = some (text params "eventName") := by
        simp [firedEvent, valid]
      have post := endpoint_entity grant (.obj (fireBody
        (text params "eventName") (params.property "payload")).entries) (.inr ⟨rfl, rfl⟩)
      have names := selects_fire grant nonempty (params.property "payload")
      simp only [fired, List.map_cons, List.map_nil, List.mem_singleton, forall_eq, SafeOp]
      constructor
      · intro confined
        obtain ⟨automation, plain⟩ := post.mp confined.endpoint
        exact ⟨automation, plain, names.mp (confined.selects _ rfl)⟩
      · rintro ⟨automation, plain, named⟩
        refine ⟨post.mpr ⟨automation, plain⟩, ?_, writes⟩
        rintro eventName same
        cases same
        exact names.mpr named
  | control =>
      simp only [fired_of_not_fire valid (by decide), List.map_cons, List.map_nil,
        List.mem_singleton, forall_eq, confined_of_silent writes]
      exact endpoint_control
  | publish =>
      simp only [fired_of_not_fire valid (by decide), List.map_cons, List.map_nil,
        List.mem_singleton, forall_eq, confined_of_silent writes, SafeOp, iff_true]
      exact endpoint_publish grant _ _

theorem confined_message :
    (∀ issued ∈ issuedFor grant raw, issued.Confined) ↔ Safe grant raw := by
  unfold Safe
  cases valid : validated raw with
  | none => simp [issuedFor_of_invalid valid]
  | some operation =>
      obtain ⟨op, params⟩ := operation
      cases readOnly : grant.readOnly with
      | true =>
          have nothing : issuedFor grant raw = [] := by
            simp [issuedFor, handleMessage, valid, executeOp_readOnly readOnly]
          simp [nothing]
      | false =>
          rw [confined_op readOnly valid]
          constructor
          · rintro safe op' params' same -
            cases same
            exact safe
          · intro safe
            exact safe op params rfl rfl

end Messages

/-! ## Runs -/

theorem issued_run (broker : SdkBroker) (events : List BrokerEvent) :
    (∀ issued ∈ (run SdkBroker.step broker events).issued, issued.Confined) ↔
      (∀ issued ∈ broker.issued, issued.Confined) ∧
        Along SdkBroker.step SafeEvent broker events := by
  induction events generalizing broker with
  | nil => simp [Along]
  | cons event rest ih =>
      rw [run_cons, ih, Along, ← and_assoc]
      refine and_congr_left fun _ => ?_
      cases event with
      | register grant => simp [SdkBroker.step, SafeEvent]
      | unregister frameId => simp [SdkBroker.step, SafeEvent]
      | message frameId raw =>
          simp only [SdkBroker.step, SafeEvent]
          cases broker.registrations.get frameId with
          | none => simp
          | some grant =>
              simp only [Option.some.injEq, forall_eq', List.mem_append, or_imp, forall_and,
                confined_message]

/-- **Frames are confined.**  Whatever frames are registered and whatever they send, all requests
of the host are confined to the grants if and only if every message that was sent is safe. -/
theorem confined_iff (events : List BrokerEvent) :
    (∀ issued ∈ (run SdkBroker.step {} events).issued, issued.Confined) ↔
      Along SdkBroker.step SafeEvent {} events := by
  rw [issued_run]
  simp

/-! ## A hostile frame -/

def paneGrant : FrameGrant where
  frameId := "frame"
  entityType := .automation
  entityId := "rule-1"

def rpcMessage (op : String) (params : List (String × Json)) : Json :=
  .obj [("channel", .str rpcChannel), ("kind", .str "request"), ("id", .str "1"), ("op", .str op),
    ("params", .obj params)]

def hostileDeviceId : String := "../automations/rule-2/fire?"

/-- The device id climbs out of its segment, and the request fires another automation. -/
theorem device_id_leaves_path :
    ¬ ∀ events : List BrokerEvent,
      ∀ issued ∈ (run SdkBroker.step {} events).issued, issued.Confined := by
  intro always
  have bad := always [.register paneGrant, .message "frame" (rpcMessage "control"
    [("deviceId", .str hostileDeviceId), ("actionType", .str "on")])]
    { grant := paneGrant, fired := none, request := control hostileDeviceId "on" none }
    List.mem_cons_self
  have path : (parse (control hostileDeviceId "on" none).target).path =
      ["api", "automations", "rule-2", "fire"] := by decide +kernel
  have endpoint := bad.endpoint
  unfold Endpoint At at endpoint
  dsimp only at endpoint
  rw [path] at endpoint
  simp [paneGrant] at endpoint

end Aeolus.Frontend
