/-
# Aeolus.Api.DeviceRoutes — an action on a device, from the request to the connector

`POST /api/devices/:id/action` of `src/api/routes/device.routes.ts`.  The route checks
the type of the request; the command it makes carries the type as one field of its
parameters, `{ actionType: req.body.type, ...(req.body.params ?? {}) }`, and the handler
of `device_action` reads it back from there.  A caller's own `actionType` comes later in
the spread and replaces the one that was checked.

`reaches` follows a request through the route, `CommandService.execute` and
`handleDeviceAction` to the action that `ActionRouter.executeAction` is called with.
-/
import Aeolus.Api.RevisionPrecondition
import Aeolus.Connectors.ActionRouter

namespace Aeolus.Api

open Aeolus.Core Aeolus.Db Aeolus.Automations Aeolus.Connectors Aeolus.Theory

/-! ## The route -/

structure DevicePermissions where
  /-- `registry.getById(id)` is there -/
  exists_ : String → Bool
  /-- `resolver.hasResourcePermission(userId, "device", id, "interact")` -/
  mayInteract : String → String → Bool

/-- `requireDevicePermission("interact")` -/
def requireDevice (permissions : DevicePermissions) (user : Option User) (id : String) :
    Except Failure Unit :=
  match user with
  | none => .error .UnauthorizedError
  | some user =>
    if user.role = .admin then .ok ()
    else if id = "" then .error (.NotFoundError "device not found")
    else if !permissions.exists_ id then .error (.NotFoundError s!"device not found: {id}")
    else if permissions.mayInteract user.userId id then .ok ()
    else .error .ForbiddenError

/-- `validateAction`: the type of the action, a text that is not blank. -/
def validateAction (body : Option Json) : Except Failure String :=
  match (body.bind (Json.property "type")).bind Json.asString with
  | some type =>
      if trim type = "" then
        .error (.BadRequestError "Action type is required and must be a non-empty string")
      else .ok type
  | none => .error (.BadRequestError "Action type is required and must be a non-empty string")

/-- `ADMIN_ONLY_ACTIONS` -/
def adminOnlyActions : List String := ["rename", "delete"]

structure ActionPost where
  user : Option User
  id : String
  body : Option Json

def ActionPost.byAdmin (req : ActionPost) : Bool := req.user.any fun user => user.role = .admin

/-- `req.body.params ?? {}`, spread -/
def ActionPost.params (req : ActionPost) : JsonObject :=
  (orEmptyObject (req.body.bind (Json.property "params"))).spread

/-- Managing a device on the external system takes an administrator. -/
def refuseAdminOnly (req : ActionPost) (type : String) : Except Failure String :=
  if type ∈ adminOnlyActions ∧ req.byAdmin = false then
    .error (.app 403 "This action requires administrator access" [])
  else .ok type

/-- The checks of the route: the type that was checked. -/
def checkedType (permissions : DevicePermissions) (req : ActionPost) : Except Failure String := do
  requireDevice permissions req.user req.id
  let type ← validateAction req.body
  refuseAdminOnly req type

/-- The command the route executes. -/
def commandOf (req : ActionPost) (type : String) : CommandRequest where
  action :=
    { type := "device_action"
      target := req.id
      params := (JsonObject.ofFields [("actionType", .str type)]).merge req.params }
  source := .rest none

/-! ## The handler -/

/-- `handleDeviceAction`: the action it hands to `executeAction`. -/
def handleDeviceAction (action : ActionDescriptor) : Action where
  type := ((action.params.get "actionType").bind Json.asString).getD "unknown"
  deviceId := action.target
  params := action.params

/-- The handler of a call is called once its first segment ran through to the dispatch. -/
def dispatchedTo (env : Environment) (s : System) (call : Nat) : Option ActionDescriptor :=
  match s.executions.get call with
  | some ⟨some accepted, .dispatching⟩ => some (accepted.dispatchAction env)
  | _ => none

/-- One moment of the command service: what `execute` reads of it. -/
structure Moment where
  uuid : Nat → String
  system : System
  env : Environment
  now : Nat
  createThrows : Bool
  writeThrows : Bool

/-- The action a request calls `ActionRouter.executeAction` with, if it gets there. -/
def reaches (permissions : DevicePermissions) (m : Moment) (req : ActionPost) : Option Action :=
  match checkedType permissions req with
  | .error _ => none
  | .ok type =>
      let system := m.system.execute m.uuid m.env (commandOf req type) m.now m.createThrows
        m.writeThrows
      (dispatchedTo m.env system m.system.calls).map handleDeviceAction

/-! ## What reaches the router -/

theorem dispatchAction_params (env : Environment) (a : Accepted) :
    (a.dispatchAction env).params = a.request.action.params := by
  unfold Accepted.dispatchAction
  split
  · split <;> rfl
  · rfl

theorem dispatchedTo_begin {env : Environment} {s : System} {a : Option Accepted} {phase : Phase}
    {action : ActionDescriptor}
    (called : dispatchedTo env (s.begin a phase) s.calls = some action) :
    ∃ accepted, a = some accepted ∧ action = accepted.dispatchAction env := by
  simp only [dispatchedTo, System.begin, OrderedMap.get_set_self] at called
  split at called
  · rename_i accepted begun
    cases begun
    exact ⟨accepted, rfl, (Option.some.inj called).symm⟩
  · cases called

/-- A handler is called with an accepted request only, and gets its action. -/
theorem dispatchedTo_accepted {m : Moment} {request : CommandRequest} {action : ActionDescriptor}
    (called : dispatchedTo m.env
      (m.system.execute m.uuid m.env request m.now m.createThrows m.writeThrows) m.system.calls =
        some action) :
    preAcceptance m.env request = none ∧
      action = (accept m.uuid m.system.uuids m.env request).1.dispatchAction m.env := by
  have taken : ∀ s : System, s.calls = m.system.calls → ∀ phase,
      dispatchedTo m.env
        (s.begin (some (accept m.uuid m.system.uuids m.env request).1) phase) m.system.calls =
          some action →
      action = (accept m.uuid m.system.uuids m.env request).1.dispatchAction m.env := by
    intro s calls phase called
    rw [← calls] at called
    obtain ⟨accepted, same, rfl⟩ := dispatchedTo_begin called
    rw [← Option.some.inj same]
  unfold System.execute at called
  split at called
  · obtain ⟨_, none_accepted, _⟩ := dispatchedTo_begin called
    cases none_accepted
  · rename_i passed
    refine ⟨passed, ?_⟩
    simp only at called
    split at called
    · exact taken _ rfl _ called
    · split at called
      · exact taken _ rfl _ called
      · split at called <;> exact taken _ rfl _ called

/-- What the handler of a call gets are the parameters of its request. -/
theorem dispatchedTo_execute {m : Moment} {request : CommandRequest} {action : ActionDescriptor}
    (called : dispatchedTo m.env
      (m.system.execute m.uuid m.env request m.now m.createThrows m.writeThrows) m.system.calls =
        some action) :
    action.params = request.action.params := by
  rw [(dispatchedTo_accepted called).2, dispatchAction_params]
  rfl

/-- No type but the checked one reaches the router or, through it, a connector, and none
that needs an administrator. -/
structure TypeKept (permissions : DevicePermissions) (req : ActionPost) : Prop where
  router : ∀ m action, reaches permissions m req = some action →
    action.type ∉ adminOnlyActions ∧ checkedType permissions req = .ok action.type
  connector : ∀ m action, reaches permissions m req = some action →
    ∀ (router : ActionRouter) correlation instanceId received,
      router.executeAction req.id action correlation = .sent instanceId received →
        received.type ∉ adminOnlyActions ∧ checkedType permissions req = .ok received.type

/-- The parameters do not name another type: they have no `actionType`, or one that the
handler reads as `type`. -/
def Plain (type : String) (params : JsonObject) : Prop :=
  match params.get "actionType" with
  | none => True
  | some value => value.asString.getD "unknown" = type

/-- The type the handler reads back. -/
theorem handled_type (req : ActionPost) (type : String) {action : ActionDescriptor}
    (params : action.params = (commandOf req type).action.params) :
    (handleDeviceAction action).type = type ↔ Plain type req.params := by
  have read : action.params.get "actionType" =
      (req.params.get "actionType").or (some (.str type)) := by
    rw [params]
    exact JsonObject.get_merge _ req.params "actionType"
  unfold handleDeviceAction Plain
  simp only [read]
  cases named : req.params.get "actionType" with
  | none => simp [Json.asString]
  | some value => simp

theorem checkedType_not_admin {permissions : DevicePermissions} {req : ActionPost} {type : String}
    (nonAdmin : req.byAdmin = false) (checked : checkedType permissions req = .ok type) :
    type ∉ adminOnlyActions := by
  unfold checkedType at checked
  cases allowed : requireDevice permissions req.user req.id with
  | error e =>
      rw [allowed] at checked
      cases checked
  | ok _ =>
      cases valid : validateAction req.body with
      | error e =>
          rw [allowed, valid] at checked
          cases checked
      | ok given =>
          rw [allowed, valid] at checked
          change refuseAdminOnly req given = .ok type at checked
          unfold refuseAdminOnly at checked
          split at checked
          · cases checked
          · rename_i allowed
            cases checked
            exact fun managing => allowed ⟨managing, nonAdmin⟩

theorem reaches_type {permissions : DevicePermissions} {m : Moment} {req : ActionPost}
    {type : String} {action : Action} (checked : checkedType permissions req = .ok type)
    (reached : reaches permissions m req = some action) :
    action.type = type ↔ Plain type req.params := by
  simp only [reaches, checked] at reached
  obtain ⟨descriptor, called, rfl⟩ := Option.map_eq_some_iff.mp reached
  exact handled_type req type (dispatchedTo_execute called)

/-- A command service that has a handler, and nothing to refuse. -/
def openEnv : Environment where
  handler _ := true
  physical _ := false
  ackCapability _ := none
  device _ := true
  scope _ := .unrestricted

def idle : Moment := ⟨fun _ => "", {}, openEnv, 0, false, false⟩

theorem idle_reaches {permissions : DevicePermissions} {req : ActionPost} {type : String}
    (checked : checkedType permissions req = .ok type) :
    reaches permissions idle req = some (handleDeviceAction (commandOf req type).action) := by
  simp only [reaches, checked]
  rfl

/-- **Administrative actions.**  For a request of a user who is not an administrator, the
type that reaches the router is the checked one, and so not administrative, at every
moment of the command service, exactly when the parameters do not name another. -/
theorem type_kept_iff_plain (permissions : DevicePermissions) (req : ActionPost)
    (nonAdmin : req.byAdmin = false) :
    TypeKept permissions req ↔
      ∀ type, checkedType permissions req = .ok type → Plain type req.params := by
  constructor
  · intro kept type checked
    have reached := idle_reaches checked
    have same := (kept.router idle _ reached).2
    rw [checked] at same
    exact (reaches_type checked reached).mp (Except.ok.inj same).symm
  · intro plain
    have router : ∀ m action, reaches permissions m req = some action →
        action.type ∉ adminOnlyActions ∧ checkedType permissions req = .ok action.type := by
      intro m action reached
      cases checked : checkedType permissions req with
      | error e => simp [reaches, checked] at reached
      | ok type =>
          have same := (reaches_type checked reached).mpr (plain type checked)
          rw [same]
          exact ⟨checkedType_not_admin nonAdmin checked, rfl⟩
    refine ⟨router, fun m action reached r correlation instanceId received sent => ?_⟩
    rw [ActionRouter.executeAction_sent sent]
    exact router m action reached

/-! ## A hidden deletion -/

def interactOnly : DevicePermissions := ⟨fun _ => true, fun _ _ => true⟩

def toggleWith (params : Json) : ActionPost where
  user := some ⟨"guest", .user⟩
  id := "hue-1"
  body := some (.obj [("type", .str "toggle"), ("params", params)])

theorem type_kept_brightness :
    (toggleWith (.obj [("brightness", .num 40)])).byAdmin = false ∧
      TypeKept interactOnly (toggleWith (.obj [("brightness", .num 40)])) := by
  have nonAdmin : (toggleWith (.obj [("brightness", .num 40)])).byAdmin = false := by decide
  refine ⟨nonAdmin, (type_kept_iff_plain interactOnly _ nonAdmin).mpr fun type _ => ?_⟩
  have absent : (toggleWith (.obj [("brightness", .num 40)])).params.get "actionType" = none := rfl
  simp [Plain, absent]

/-- A Hue lamp with the actions its bridge declares. -/
def lampRouter : ActionRouter where
  instances := OrderedMap.empty.set "bridge"
    { connectorType := "hue"
      catalog := fun _ => some
        [{ type := "toggle", label := "Toggle", description := "Toggle the device on or off" },
          { type := "delete", label := "Delete"
            description := "Remove the light from the bridge" }] }
  registry :=
    { devices := OrderedMap.empty.set "hue-1"
        { id := "hue-1", name := "Lamp", type := "light", capabilities := ["on/off"]
          state := .empty, integration := "hue", lastSeen := 0 } }
  showNumber _ := ""
  stringify _ := ""

/-- A toggle whose parameters say `delete` is checked as a toggle and sent as a
deletion. -/
theorem hidden_delete_sent :
    (toggleWith (.obj [("actionType", .str "delete")])).byAdmin = false ∧
      checkedType interactOnly (toggleWith (.obj [("actionType", .str "delete")])) = .ok "toggle" ∧
      (∃ action, reaches interactOnly idle (toggleWith (.obj [("actionType", .str "delete")])) =
          some action ∧
        action.type = "delete" ∧
        lampRouter.executeAction "hue-1" action = .sent "bridge" action) ∧
      ¬ TypeKept interactOnly (toggleWith (.obj [("actionType", .str "delete")])) := by
  have checked : checkedType interactOnly (toggleWith (.obj [("actionType", .str "delete")])) =
      .ok "toggle" := by decide +kernel
  have reached := idle_reaches checked
  refine ⟨by decide, checked, ⟨_, reached, rfl, rfl⟩, fun kept => ?_⟩
  exact (kept.router idle _ reached).1 (by decide)

end Aeolus.Api
