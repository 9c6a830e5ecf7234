/-
# Aeolus.Api.ScopedActions — what a scoped automation can do to devices

An automation of a tab acts through `CommandService.execute`; a form rule does so with the
action type and the target that its row holds (`registerUiRule` of
`src/api/routes/automation.routes.ts`).  `checkScope` compares the target with the scope
for `toggle` and `device_action`, and refuses `publish` and `webhook`.  The table of
handlers is open: connector modules add types of their own, and a type the check does not
name goes to its handler unchecked.

`Boundary` is the command service with its table of handlers and a record of every call of
`ConnectorManager.executeAction`.

* `acts_in_scope_along` — while every action of a scoped automation is `Fenced`, no call
  leaves the scope it was checked against; a scoped action that is not fenced leaves it
  in some run.
* `scene_leaves_scope` — `hue_scene` of a form rule reaches a lamp of another tab.
-/
import Aeolus.Api.DeviceRoutes
import Aeolus.Connectors.Contributions

namespace Aeolus.Api

open Aeolus.Core Aeolus.Db Aeolus.Automations Aeolus.Connectors Aeolus.Theory

/-! ## The handlers -/

def handlePublish : ActionHandler := fun _ => []

def handleToggle : ActionHandler := fun action =>
  [{ deviceId := action.target
     action := { type := "toggle", deviceId := action.target, params := action.params }
     correlation := action.correlation }]

def deviceActionHandler : ActionHandler := fun action =>
  [{ deviceId := action.target
     action := handleDeviceAction action
     correlation := action.correlation }]

def handleLog : ActionHandler := fun _ => []

def handleDelay : ActionHandler := fun _ => []

def handleWebhook : ActionHandler := fun _ => []

/-- The handlers that `src/index.ts` registers. -/
def builtInHandlers : CommandHandlers :=
  ((((((({} : CommandHandlers).registerHandler "publish" handlePublish).registerHandler
    "toggle" handleToggle).registerHandler
    "device_action" deviceActionHandler).registerHandler
    "log" handleLog).registerHandler
    "delay" handleDelay).registerHandler
    "webhook" handleWebhook)

/-- The command of a form rule. -/
def formRuleRequest (id : String) (stored : StoredRule) : CommandRequest where
  action :=
    { type := stored.actionType
      target := stored.actionTarget
      params := stored.actionParams.spread }
  source := .automation id

/-! ## The boundary -/

/-- A call of `executeAction`, with the scope that its command was checked against. -/
structure Reached where
  source : CommandSource
  scope : AuthorizationScope
  call : DeviceCall

def Reached.InScope (r : Reached) : Prop :=
  match r.scope with
  | .unrestricted => True
  | .scoped deviceIds => r.call.deviceId ∈ deviceIds

/-- Only an automation has a scope. -/
def scopeOf (env : Environment) : CommandSource → AuthorizationScope
  | .automation ruleId => env.scope ruleId
  | .rest _ => .unrestricted
  | .system _ => .unrestricted

structure Boundary where
  service : CommandHandlers := builtInHandlers
  system : System := {}
  reached : List Reached := []

inductive BoundaryEvent where
  | registerHandler (type : String) (handler : ActionHandler) (physical : Option Bool)
  | unregisterHandler (type : String)
  | command (event : SystemEvent)

namespace Boundary

/-- The handlers that `execute` sees are those of the table. -/
def environment (service : CommandHandlers) (env : Environment) : Environment :=
  { env with
    handler := service.has
    physical := fun type => type ∈ service.physicalActionTypes }

/-- The calls that one `execute` makes. -/
def reachedBy (service : CommandHandlers) (m : Moment) (request : CommandRequest) :
    List Reached :=
  let env := environment service m.env
  let system := m.system.execute m.uuid env request m.now m.createThrows m.writeThrows
  match dispatchedTo env system m.system.calls with
  | none => []
  | some action =>
      (service.calls action).map fun call => ⟨request.source, scopeOf env request.source, call⟩

def step (uuid : Nat → String) (b : Boundary) : BoundaryEvent → Boundary
  | .registerHandler type handler physical =>
      { b with service := b.service.registerHandler type handler physical }
  | .unregisterHandler type => { b with service := b.service.unregisterHandler type }
  | .command (.execute env request now createThrows writeThrows) =>
      { b with
        system := b.system.execute uuid (environment b.service env) request now createThrows
          writeThrows
        reached := b.reached ++ reachedBy b.service
          ⟨uuid, b.system, env, now, createThrows, writeThrows⟩ request }
  | .command event => { b with system := b.system.step uuid event }

end Boundary

/-- The registrations of a module. -/
def contribute (mod : ConnectorModule) : List BoundaryEvent :=
  mod.actionHandlers.map fun entry =>
    .registerHandler entry.1 entry.2.handler (some entry.2.physical)

/-! ## When an action stays in scope -/

/-- What a handler may be given for an action: the action, or the action with a correlation. -/
def Handed (action handed : ActionDescriptor) : Prop :=
  handed = action ∨ ∃ correlation, handed = { action with correlation := some correlation }

/-- For an automation with the scope `deviceIds`, the check refuses the action by its type or
its target, or the handler of its type addresses devices of the scope only. -/
def FencedIn (service : CommandHandlers) (deviceIds : Finset String) (action : ActionDescriptor) :
    Prop :=
  action.type = "publish" ∨ action.type = "webhook" ∨
    ((action.type = "device_action" ∨ action.type = "toggle") ∧ action.target ∉ deviceIds) ∨
    ∀ handed, Handed action handed → ∀ call ∈ service.calls handed, call.deviceId ∈ deviceIds

def Fenced (service : CommandHandlers) (env : Environment) (request : CommandRequest) : Prop :=
  match scopeOf env request.source with
  | .unrestricted => True
  | .scoped deviceIds => FencedIn service deviceIds request.action

/-- The condition on one event of a run. -/
def Boundary.Ok (b : Boundary) : BoundaryEvent → Prop
  | .command (.execute env request _ _ _) => Fenced b.service env request
  | _ => True

/-- A handler that addresses the target of its action, as every handler of the repository
that addresses a device does. -/
def Directed (service : CommandHandlers) (action : ActionDescriptor) : Prop :=
  service.calls action ≠ [] ∧
    ∀ handed, Handed action handed → ∀ call ∈ service.calls handed, call.deviceId = action.target

/-- For such a handler the fence is the list of types in `checkScope`. -/
theorem fencedIn_iff_of_directed {service : CommandHandlers} {action : ActionDescriptor}
    (directed : Directed service action) (deviceIds : Finset String) :
    FencedIn service deviceIds action ↔
      action.type ∈ ["publish", "webhook", "device_action", "toggle"] ∨
        action.target ∈ deviceIds := by
  obtain ⟨called, aimed⟩ := directed
  constructor
  · rintro (publish | webhook | ⟨device | toggle, -⟩ | inside)
    · simp [publish]
    · simp [webhook]
    · simp [device]
    · simp [toggle]
    · obtain ⟨call, member⟩ := List.exists_mem_of_ne_nil _ called
      rw [← aimed action (.inl rfl) call member]
      exact .inr (inside action (.inl rfl) call member)
  · intro named
    by_cases inside : action.target ∈ deviceIds
    · refine .inr (.inr (.inr fun handed given call member => ?_))
      rw [aimed handed given call member]
      exact inside
    · rcases named with named | named
      · simp only [List.mem_cons, List.not_mem_nil, or_false] at named
        rcases named with publish | webhook | device | toggle
        · exact .inl publish
        · exact .inr (.inl webhook)
        · exact .inr (.inr (.inl ⟨.inl device, inside⟩))
        · exact .inr (.inr (.inl ⟨.inr toggle, inside⟩))
      · exact absurd named inside

theorem handed_dispatchAction (env : Environment) (a : Accepted) :
    Handed a.request.action (a.dispatchAction env) := by
  unfold Accepted.dispatchAction
  split
  · split
    · exact .inr ⟨_, rfl⟩
    · exact .inl rfl
  · exact .inl rfl

/-- What the scope check lets through. -/
theorem checkScope_passed {env : Environment} {action : ActionDescriptor} {source : CommandSource}
    {deviceIds : Finset String} (limited : scopeOf env source = .scoped deviceIds)
    (passed : checkScope env action source = none) :
    action.type ≠ "publish" ∧ action.type ≠ "webhook" ∧
      (action.type = "device_action" ∨ action.type = "toggle" → action.target ∈ deviceIds) := by
  cases source with
  | rest label => cases limited
  | system label => cases limited
  | automation ruleId =>
      change env.scope ruleId = .scoped deviceIds at limited
      simp only [checkScope, limited] at passed
      split at passed
      · cases passed
      · rename_i other
        refine ⟨fun same => other (.inl same), fun same => other (.inr same), fun device => ?_⟩
        rw [if_pos device] at passed
        split at passed
        · assumption
        · cases passed

/-- A call comes from a request that passed the check, and its handler made it. -/
theorem Boundary.mem_reachedBy {service : CommandHandlers} {m : Moment} {request : CommandRequest}
    {r : Reached} (member : r ∈ Boundary.reachedBy service m request) :
    checkScope m.env request.action request.source = none ∧
      r.scope = scopeOf m.env request.source ∧
      ∃ handed, Handed request.action handed ∧ r.call ∈ service.calls handed := by
  unfold Boundary.reachedBy at member
  simp only at member
  split at member
  · exact absurd member List.not_mem_nil
  · rename_i handed called
    obtain ⟨passed, rfl⟩ := dispatchedTo_accepted
      (m := { m with env := environment service m.env }) called
    obtain ⟨call, made, rfl⟩ := List.mem_map.mp member
    refine ⟨?_, ?_, _, handed_dispatchAction _ _, made⟩
    · unfold preAcceptance at passed
      split at passed
      · exact passed
      · cases passed
    · rfl

theorem Boundary.reachedBy_inScope {service : CommandHandlers} {m : Moment}
    {request : CommandRequest} (fenced : Fenced service m.env request) {r : Reached}
    (member : r ∈ Boundary.reachedBy service m request) : r.InScope := by
  obtain ⟨passed, scope, handed, given, made⟩ := Boundary.mem_reachedBy member
  unfold Reached.InScope
  unfold Fenced at fenced
  rw [scope]
  rcases limited : scopeOf m.env request.source with _ | deviceIds
  · trivial
  · rw [limited] at fenced
    obtain ⟨notPublish, notWebhook, target⟩ := checkScope_passed limited passed
    rcases fenced with publish | webhook | ⟨device, outside⟩ | inside
    · exact absurd publish notPublish
    · exact absurd webhook notWebhook
    · exact absurd (target device) outside
    · exact inside handed given r.call made

/-- Every call so far was inside the scope its command was checked against. -/
def Boundary.InScope (b : Boundary) : Prop := ∀ r ∈ b.reached, r.InScope

/-- One event of a run keeps it so. -/
theorem Boundary.step_inScope (uuid : Nat → String) (b : Boundary) (event : BoundaryEvent)
    (inside : b.InScope) (ok : b.Ok event) : (b.step uuid event).InScope := by
  cases event with
  | registerHandler type handler physical => exact inside
  | unregisterHandler type => exact inside
  | command event =>
      cases event with
      | execute env request now createThrows writeThrows =>
          intro r member
          rcases List.mem_append.mp member with before | fresh
          · exact inside r before
          · exact Boundary.reachedBy_inScope
              (m := ⟨uuid, b.system, env, _, createThrows, writeThrows⟩) ok fresh
      | _ => exact inside

/-! ## The fence is exact -/

/-- A moment at which the handler of an action is given the correlation `correlation`. -/
def handing (deviceIds : Finset String) (correlation : Option CommandCorrelation) : Moment where
  uuid _ := correlation.elim "" (·.correlationId)
  system := {}
  env :=
    { handler := fun _ => true
      physical := fun _ => false
      ackCapability := fun _ => correlation.map fun c =>
        { supported := true, responseTopic := some c.responseTopic }
      device := fun _ => true
      scope := fun _ => .scoped deviceIds }
  now := 0
  createThrows := false
  writeThrows := false

/-- The request of an automation, with nothing said about its confirmation. -/
def plainRequest (ruleId : String) (action : ActionDescriptor) : CommandRequest where
  action := action
  source := .automation ruleId

/-- A request that passes the checks is handed over when its record can be written and
nothing is to be observed. -/
theorem dispatchedTo_of_created {m : Moment} {request : CommandRequest} {env : Environment}
    {store : CommandHistoryStore} (passed : preAcceptance env request = none)
    (created : System.createRecord m.system.store env
      (accept m.uuid m.system.uuids env request).1 m.now m.createThrows = some store)
    (unobserved : (accept m.uuid m.system.uuids env request).1.tier ≠ .observed) :
    dispatchedTo env (m.system.execute m.uuid env request m.now m.createThrows m.writeThrows)
        m.system.calls =
      some ((accept m.uuid m.system.uuids env request).1.dispatchAction env) := by
  simp only [System.execute, passed, created]
  rw [if_neg fun observed => unobserved observed.1]
  split
  all_goals simp only [dispatchedTo, System.begin, OrderedMap.get_set_self]

theorem createRecord_handing (deviceIds : Finset String) (correlation : Option CommandCorrelation)
    (env : Environment) (a : Accepted) :
    ∃ store, System.createRecord (handing deviceIds correlation).system.store env a 0 false =
      some store := by
  obtain ⟨request, commandId, correlationId, tier, capability⟩ := a
  cases commandId with
  | none => exact ⟨_, rfl⟩
  | some id =>
      -- the uniqueness check reads the correlation id first
      cases correlationId with
      | none => exact ⟨_, rfl⟩
      | some id => exact ⟨_, rfl⟩

theorem dispatchAction_handing (service : CommandHandlers) (deviceIds : Finset String)
    (correlation : Option CommandCorrelation) (ruleId : String) (action : ActionDescriptor) :
    let env := Boundary.environment service (handing deviceIds correlation).env
    (accept (handing deviceIds correlation).uuid 0 env (plainRequest ruleId action)).1.dispatchAction
        env =
      correlation.elim action fun c => { action with correlation := some c } := by
  cases correlation with
  | none => rfl
  | some c => rfl

theorem tier_handing (service : CommandHandlers) (deviceIds : Finset String)
    (correlation : Option CommandCorrelation) (ruleId : String) (action : ActionDescriptor) :
    (accept (handing deviceIds correlation).uuid 0
      (Boundary.environment service (handing deviceIds correlation).env)
      (plainRequest ruleId action)).1.tier ≠ .observed := by
  cases correlation with
  | none => exact nofun
  | some c => exact nofun

/-- What an action that is not fenced would have to be refused by. -/
theorem passes_of_not_fencedIn {service : CommandHandlers} {deviceIds : Finset String}
    {action : ActionDescriptor} (loose : ¬ FencedIn service deviceIds action)
    (handled : service.has action.type = true) (correlation : Option CommandCorrelation)
    (ruleId : String) :
    preAcceptance (Boundary.environment service (handing deviceIds correlation).env)
      (plainRequest ruleId action) = none := by
  have unnamed : ¬ (action.type = "publish" ∨ action.type = "webhook") := by
    rintro (publish | webhook)
    · exact loose (.inl publish)
    · exact loose (.inr (.inl webhook))
  have target : action.type = "device_action" ∨ action.type = "toggle" →
      action.target ∈ deviceIds := by
    intro device
    by_contra outside
    exact loose (.inr (.inr (.inl ⟨device, outside⟩)))
  have admitted : checkScope (Boundary.environment service (handing deviceIds correlation).env)
      action (.automation ruleId) = none := by
    simp only [checkScope, Boundary.environment, handing, if_neg unnamed]
    split
    · rename_i device
      rw [if_pos (target device)]
    · rfl
  unfold preAcceptance
  rw [if_pos (show (Boundary.environment service (handing deviceIds correlation).env).handler
    (plainRequest ruleId action).action.type from handled)]
  exact admitted

/-- An action of a scoped automation stays in the scope, whenever and however it is
executed. -/
def StaysIn (service : CommandHandlers) (ruleId : String) (deviceIds : Finset String)
    (action : ActionDescriptor) : Prop :=
  ∀ m : Moment, m.env.scope ruleId = .scoped deviceIds →
    ∀ request : CommandRequest, request.action = action → request.source = .automation ruleId →
      ∀ r ∈ Boundary.reachedBy service m request, r.InScope

theorem staysIn_of_fencedIn {service : CommandHandlers} {ruleId : String}
    {deviceIds : Finset String} {action : ActionDescriptor}
    (fenced : FencedIn service deviceIds action) : StaysIn service ruleId deviceIds action := by
  intro m limited request same source r member
  refine Boundary.reachedBy_inScope ?_ member
  have scope : scopeOf m.env request.source = .scoped deviceIds := by
    rw [source]
    exact limited
  unfold Fenced
  rw [scope, same]
  exact fenced

theorem fencedIn_of_staysIn {service : CommandHandlers} {ruleId : String}
    {deviceIds : Finset String} {action : ActionDescriptor}
    (stays : StaysIn service ruleId deviceIds action) : FencedIn service deviceIds action := by
  by_contra loose
  have escaping : ∃ handed, Handed action handed ∧ ∃ call ∈ service.calls handed,
      call.deviceId ∉ deviceIds := by
    by_contra none_escapes
    push Not at none_escapes
    exact loose (.inr (.inr (.inr none_escapes)))
  obtain ⟨handed, given, call, made, outside⟩ := escaping
  -- the correlation that makes the handler leave the scope
  obtain ⟨correlation, rfl⟩ : ∃ correlation : Option CommandCorrelation,
      handed = correlation.elim action fun c => { action with correlation := some c } := by
    rcases given with rfl | ⟨c, rfl⟩
    · exact ⟨none, rfl⟩
    · exact ⟨some c, rfl⟩
  have handled : service.has action.type = true := by
    have type : (correlation.elim action fun c => { action with correlation := some c }).type =
        action.type := by
      cases correlation <;> rfl
    unfold CommandHandlers.has OrderedMap.has
    unfold CommandHandlers.calls at made
    rw [type] at made
    cases registered : service.handlers.get action.type with
    | none =>
        rw [registered] at made
        exact absurd made List.not_mem_nil
    | some handler => rfl
  obtain ⟨store, created⟩ := createRecord_handing deviceIds correlation
    (Boundary.environment service (handing deviceIds correlation).env)
    (accept (handing deviceIds correlation).uuid 0
      (Boundary.environment service (handing deviceIds correlation).env)
      (plainRequest ruleId action)).1
  have called := dispatchedTo_of_created (m := handing deviceIds correlation)
    (passes_of_not_fencedIn loose handled correlation ruleId) created
    (tier_handing service deviceIds correlation ruleId action)
  have reached : (⟨.automation ruleId, .scoped deviceIds, call⟩ : Reached) ∈
      Boundary.reachedBy service (handing deviceIds correlation) (plainRequest ruleId action) := by
    unfold Boundary.reachedBy
    simp only [called]
    refine List.mem_map.mpr ⟨call, ?_, rfl⟩
    have handedOver := dispatchAction_handing service deviceIds correlation ruleId action
    simp only at handedOver
    rw [show (handing deviceIds correlation).system.uuids = 0 from rfl, handedOver]
    exact made
  exact outside (stays _ rfl _ rfl rfl _ reached)

/-- **Scoped automations.**  In every run in which each action of a scoped automation is
fenced, every call of `executeAction` addresses a device of the scope that its command was
checked against; an action stays in a scope in every execution exactly when it is fenced;
and where its handler addresses its target, it is fenced exactly when `checkScope` names its
type or the target is in the scope. -/
theorem acts_in_scope_along (uuid : Nat → String) :
    (∀ es, Along (Boundary.step uuid) Boundary.Ok {} es →
      ∀ p, p <+: es → (run (Boundary.step uuid) {} p).InScope) ∧
    ∀ service ruleId deviceIds action,
      (StaysIn service ruleId deviceIds action ↔ FencedIn service deviceIds action) ∧
      (Directed service action →
        (FencedIn service deviceIds action ↔
          action.type ∈ ["publish", "webhook", "device_action", "toggle"] ∨
            action.target ∈ deviceIds)) := by
  refine ⟨fun es along p initial => ?_, fun service ruleId deviceIds action => ⟨?_, ?_⟩⟩
  · have start : Boundary.InScope {} := fun r member => absurd member List.not_mem_nil
    exact invariant_throughout (Boundary.step_inScope uuid) start along p initial
  · exact ⟨fencedIn_of_staysIn, staysIn_of_fencedIn⟩
  · exact fun directed => fencedIn_iff_of_directed directed deviceIds

/-! ## A lamp of another tab -/

/-- A form rule that activates a scene. -/
def sceneRule (target : String) : StoredRule where
  name := "Night"
  triggerTopic := "home/night"
  conditionType := none
  conditionValue := none
  actionType := "hue_scene"
  actionTarget := target
  actionParams := .obj [("sceneName", .str "Dim")]
  ruleType := .form
  scriptSource := none
  compiledJs := none
  structuredMetadata := none
  uiSource := none
  compiledUi := none
  triggerType := some "mqtt"
  cronExpression := none
  authoredUnrestricted := false
  ownerTabId := some "bedroom"
  enabled := true
  createdAt := 0
  revision := 1

/-- A Hue bridge is enabled, and the rule of a tab that shows `lamp-1` only fires. -/
def sceneRun (target : String) : List BoundaryEvent :=
  contribute { actionHandlers := hueActionHandlers } ++
    [.command (.execute (handing {"lamp-1"} none).env (formRuleRequest "night" (sceneRule target))
      0 false false)]

theorem acts_in_scope_own_lamp :
    Along (Boundary.step fun _ => "") Boundary.Ok {} (sceneRun "lamp-1") ∧
      (run (Boundary.step fun _ => "") {} (sceneRun "lamp-1")).InScope := by
  have along : Along (Boundary.step fun _ => "") Boundary.Ok {} (sceneRun "lamp-1") := by
    refine ⟨trivial, trivial, .inr (.inr (.inr fun handed given call member => ?_)), trivial⟩
    rcases given with rfl | ⟨c, rfl⟩
    · obtain rfl := List.mem_singleton.mp member
      exact Finset.mem_singleton_self _
    · obtain rfl := List.mem_singleton.mp member
      exact Finset.mem_singleton_self _
  exact ⟨along, (acts_in_scope_along fun _ => "").1 _ along _ (List.prefix_refl _)⟩

/-- The scene of a lamp that the tab does not show reaches `executeAction`. -/
theorem scene_leaves_scope :
    ((run (Boundary.step fun _ => "") {} (sceneRun "lamp-2")).reached.map
        fun r => (r.source, r.call.deviceId, r.call.action.type)) =
      [(.automation "night", "lamp-2", "scene")] ∧
    ¬ (run (Boundary.step fun _ => "") {} (sceneRun "lamp-2")).InScope := by
  refine ⟨rfl, fun inside => ?_⟩
  have escaped : "lamp-2" ∈ ({"lamp-1"} : Finset String) := inside _ List.mem_cons_self
  exact absurd escaped (by decide)

end Aeolus.Api
