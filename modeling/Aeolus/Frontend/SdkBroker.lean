/-
# Aeolus.Frontend.SdkBroker — the requests that a sandboxed frame can cause

`src/frontend/src/sandbox`: a frame may send any JSON value over its port.  `isRpcRequest` and
`validateParams` (`rpc-types.ts`) admit the messages that are well-formed, `executeOp`
(`sdk-broker.ts`) carries them out for the entity of the frame's grant, and the functions of
`sandbox-host.ts` issue the requests.  A request is its method, what follows the API origin in
its URL, and its body.

What is posted back to the frame is not modelled, apart from the message of a refusal.
-/
import Aeolus.Core.Json
import Aeolus.Core.Text
import Aeolus.Theory.Run

namespace Aeolus.Frontend

open Aeolus.Core Aeolus.Theory

/-! ## The protocol -/

inductive EntityType where
  | automation
  | panel
  deriving DecidableEq

inductive SdkOp where
  | read
  | commands
  | save
  | saveAndFire
  | fire
  | control
  | publish
  | subscribe
  deriving DecidableEq

/-- `SDK_OPS` -/
def sdkOps : String → Option SdkOp
  | "read" => some .read
  | "commands" => some .commands
  | "save" => some .save
  | "saveAndFire" => some .saveAndFire
  | "fire" => some .fire
  | "control" => some .control
  | "publish" => some .publish
  | "subscribe" => some .subscribe
  | _ => none

def readOnlySdkOps : List SdkOp := [.read, .commands, .subscribe]

def rpcChannel : String := "aeolus-sdk"

structure RpcRequest where
  id : String
  op : SdkOp
  /-- an object -/
  params : List (String × Json)

def textProperty (name : String) (value : Json) : Option String :=
  (value.property name).bind Json.asString

/-- The request that a message is. -/
def isRpcRequest (raw : Json) : Option RpcRequest :=
  if textProperty "channel" raw = some rpcChannel ∧ textProperty "kind" raw = some "request" then
    match truthy (textProperty "id" raw), (textProperty "op" raw).bind sdkOps,
      raw.property "params" with
    | some id, some op, some (.obj params) => some { id, op, params }
    | _, _, _ => none
  else none

/-! ## Parameters -/

def requireNonEmptyString (params : Json) (field : String) : Except String Unit :=
  match truthy (textProperty field params) with
  | some _ => .ok ()
  | none => .error s!"'{field}' must be a non-empty string"

def requireString (params : Json) (field : String) : Except String Unit :=
  match textProperty field params with
  | some _ => .ok ()
  | none => .error s!"'{field}' must be a string"

def requireDefined (params : Json) (field : String) : Except String Unit :=
  match params.property field with
  | some _ => .ok ()
  | none => .error s!"'{field}' is required"

def optionalObject (params : Json) (field : String) : Except String Unit :=
  match params.property field with
  | none => .ok ()
  | some (.obj _) => .ok ()
  | some _ => .error s!"'{field}' must be an object if provided"

def validateParams (op : SdkOp) (params : Json) : Except String Unit :=
  match op with
  | .read => requireNonEmptyString params "key"
  | .commands => .ok ()
  | .save | .saveAndFire => do
      requireNonEmptyString params "key"
      requireDefined params "value"
  | .fire => do
      requireNonEmptyString params "eventName"
      optionalObject params "payload"
  | .control => do
      requireNonEmptyString params "deviceId"
      requireNonEmptyString params "actionType"
      optionalObject params "params"
  | .publish => do
      requireNonEmptyString params "topic"
      requireString params "payload"
  | .subscribe => .ok ()

/-! ## Requests of the host -/

structure HttpRequest where
  method : String
  /-- what follows `API_URL` -/
  target : String
  body : Json

def control (deviceId actionType : String) (params : Option Json) : HttpRequest where
  method := "POST"
  target := "/api/devices/" ++ deviceId ++ "/action"
  body := .ofPresent [("type", some (.str actionType)), ("params", params)]

def publish (topic payload : String) : HttpRequest where
  method := "POST"
  target := "/api/mqtt/publish"
  body := .obj [("topic", .str topic), ("payload", .str payload)]

/-- The part of a path that stands for the type of the entity. -/
def EntityType.base : EntityType → String
  | .automation => "automations"
  | .panel => "panels"

/-- `sendStateUpdate`, and the same of a panel -/
def save (entityType : EntityType) (entityId key : String) (value : Option Json) :
    List HttpRequest :=
  [{ method := "PUT"
     target := "/api/" ++ entityType.base ++ "/" ++ entityId ++ "/state"
     body := .ofPresent [("key", some (.str key)), ("value", value)] }]

/-- An automation is fired with the new state in one request, a panel in a second one. -/
def saveAndFire (entityType : EntityType) (entityId key : String) (value : Option Json) :
    List HttpRequest :=
  let entry := Json.ofPresent [("key", some (.str key)), ("value", value)]
  match entityType with
  | .automation =>
      [{ method := "POST"
         target := "/api/automations/" ++ entityId ++ "/fire"
         body := .obj [("stateSet", entry)] }]
  | .panel =>
      save .panel entityId key value ++
        [{ method := "POST"
           target := "/api/panels/" ++ entityId ++ "/fire"
           body := .obj [("context",
             .obj [("topic", .str s!"ui/{entityId}/state-set"), ("state", entry)])] }]

/-- `{ eventName, ...(payload ?? {}) }` -/
def fireBody (eventName : String) (payload : Option Json) : JsonObject :=
  JsonObject.merge (OrderedMap.empty.set "eventName" (.str eventName))
    ((payload.getD (.obj [])).spread)

def fire (entityType : EntityType) (entityId eventName : String) (payload : Option Json) :
    HttpRequest where
  method := "POST"
  target := "/api/" ++ entityType.base ++ "/" ++ entityId ++ "/fire"
  body := .obj (fireBody eventName payload).entries

/-! ## The broker -/

structure FrameGrant where
  frameId : String
  entityType : EntityType
  entityId : String
  readOnly : Bool := false
  deriving DecidableEq

/-- A parameter that `validateParams` requires to be a text. -/
def text (params : Json) (field : String) : String := (textProperty field params).getD ""

def executeOp (grant : FrameGrant) (op : SdkOp) (params : Json) : List HttpRequest :=
  if grant.readOnly ∧ op ∉ readOnlySdkOps then []
  else
    match op with
    | .read | .commands | .subscribe => []
    | .save => save grant.entityType grant.entityId (text params "key") (params.property "value")
    | .saveAndFire =>
        saveAndFire grant.entityType grant.entityId (text params "key") (params.property "value")
    | .fire =>
        [fire grant.entityType grant.entityId (text params "eventName")
          (params.property "payload")]
    | .control =>
        [control (text params "deviceId") (text params "actionType") (params.property "params")]
    | .publish => [publish (text params "topic") (text params "payload")]

/-- The operation of a message that is well-formed, with its parameters. -/
def validated (raw : Json) : Option (SdkOp × Json) :=
  match isRpcRequest raw with
  | none => none
  | some request =>
      match validateParams request.op (.obj request.params) with
      | .error _ => none
      | .ok _ => some (request.op, .obj request.params)

def handleMessage (grant : FrameGrant) (raw : Json) : List HttpRequest :=
  match validated raw with
  | none => []
  | some (op, params) => executeOp grant op params

/-- A request that was issued for a frame, and the event that it was to fire. -/
structure Issued where
  grant : FrameGrant
  fired : Option String
  request : HttpRequest

/-- The validated name of the event that a message is to fire. -/
def firedEvent (raw : Json) : Option String :=
  match validated raw with
  | some (.fire, params) => some (text params "eventName")
  | _ => none

def issuedFor (grant : FrameGrant) (raw : Json) : List Issued :=
  (handleMessage grant raw).map fun request => { grant, fired := firedEvent raw, request }

structure SdkBroker where
  registrations : OrderedMap String FrameGrant := .empty
  issued : List Issued := []

inductive BrokerEvent where
  | register (grant : FrameGrant)
  | unregister (frameId : String)
  /-- A frame posts a message. -/
  | message (frameId : String) (raw : Json)

/-- The port of a frame that is not registered has no handler. -/
def SdkBroker.step (broker : SdkBroker) : BrokerEvent → SdkBroker
  | .register grant =>
      { broker with registrations := broker.registrations.set grant.frameId grant }
  | .unregister frameId => { broker with registrations := broker.registrations.delete frameId }
  | .message frameId raw =>
      match broker.registrations.get frameId with
      | none => broker
      | some grant => { broker with issued := broker.issued ++ issuedFor grant raw }

/-! ## What is validated -/

theorem validated_fire {raw params : Json} (valid : validated raw = some (.fire, params)) :
    text params "eventName" ≠ "" := by
  unfold validated at valid
  split at valid
  · cases valid
  · rename_i request found
    split at valid
    · cases valid
    · rename_i checked
      simp only [Option.some.injEq, Prod.mk.injEq] at valid
      obtain ⟨op, rfl⟩ := valid
      rw [op] at checked
      simp only [validateParams, requireNonEmptyString] at checked
      cases given : truthy (textProperty "eventName" (.obj request.params)) with
      | none =>
          rw [given] at checked
          cases checked
      | some name =>
          obtain ⟨spelled, nonempty⟩ := truthy_eq_some.mp given
          simpa [text, spelled] using nonempty

end Aeolus.Frontend
