/-
# Aeolus.Api.AutomationRoutes — creating, changing and deleting automations

The writing handlers of `src/api/routes/automation.routes.ts`.  A handler that compiles
an Automation Project awaits the compiler: it is cut there into what it does on arrival,
which ends in a `Pending` with everything it captured, and what it does when the
compilation settles.  Between the two any other request may run.  Everything else runs
in one turn of the event loop.

A request is modelled after `validate`: the body is typed as its schema types it, and a
body that does not fit is `none`.
-/
import Aeolus.SharedState.SharedStateLimits
import Aeolus.Automations.AutomationProject
import Aeolus.Automations.RuleRegistry
import Aeolus.Api.RevisionPrecondition

namespace Aeolus.Api

open Aeolus.Core Aeolus.Db Aeolus.Automations Aeolus.SharedState Aeolus.Theory

/-! ## The server -/

structure Server where
  db : Database
  registry : RuleRegistry
  /-- condition types with a factory in the condition registry -/
  conditionTypes : List String

/-- What the handlers take from libraries and from the permission services. -/
structure Env where
  permissions : Permissions
  /-- node-cron's `validate` -/
  isValidCron : String → Bool
  /-- `transpileUi`, by esbuild -/
  transpileUi : String → Except (List ProjectCompileError) String

/-- Run a statement on the server's database. -/
def onDb {α : Type} (statement : Statement α) : Handler Failure Server α :=
  statement.zoom Server.db fun server db => { server with db }

inductive Response where
  | layout (revision : Nat)
  | automation (id : String) (revision : Nat)
  | project (id : String) (project : Option StoredAutomationProject)
  | deleted
  | toggled (enabled : Bool)
  | created (id : String) (ownerTabId : Option String) (authoredUnrestricted : Bool)

/-! ## Trigger and user interface -/

inductive TriggerType where
  | mqtt
  | cron
  | none
  | sharedState
  deriving DecidableEq

def TriggerType.toString : TriggerType → String
  | .mqtt => "mqtt"
  | .cron => "cron"
  | .none => "none"
  | .sharedState => "shared-state"

/-- `AUTOMATION_TRIGGER_TYPES` -/
def automationTriggerTypes : List TriggerType := [.mqtt, .cron, .none, .sharedState]

structure ResolvedTrigger where
  triggerType : TriggerType
  effectiveTriggerTopic : String
  effectiveCronExpression : Option String

/-- `none` is an omitted field; `some none` is an explicit `null`. -/
abbrev Patch := Option (Option String)

structure TriggerInput where
  rawTriggerType : Option TriggerType
  triggerTopic : Option String
  cronExpression : Patch

/-- `resolveTriggerConfig`; on update, omitted fields fall back to the stored rule. -/
def resolveTriggerConfig (env : Env) (input : TriggerInput) (existing : Option StoredRule) :
    Except Failure ResolvedTrigger :=
  let triggerType :=
    ((input.rawTriggerType.map TriggerType.toString).orElse fun _ =>
      truthy (existing.bind StoredRule.triggerType)).getD "mqtt"
  match automationTriggerTypes.find? (·.toString = triggerType) with
  | none => .error (.BadRequestError
      "triggerType must be one of: 'mqtt', 'cron', 'none', 'shared-state'")
  | some .cron =>
    let stored := existing.bind StoredRule.cronExpression
    match (input.cronExpression.getD stored).filter fun expression => trim expression ≠ "" with
    | none => .error (.BadRequestError "cronExpression is required when triggerType is 'cron'")
    | some expression =>
      if env.isValidCron expression then
        .ok {
          triggerType := .cron
          effectiveTriggerTopic := ""
          effectiveCronExpression :=
            some (if input.cronExpression.isSome then trim expression else expression) }
      else .error (.BadRequestError "Invalid cron expression")
  | some .none =>
    .ok { triggerType := .none, effectiveTriggerTopic := "", effectiveCronExpression := none }
  | some triggerType =>
    let topic :=
      match existing with
      | some rule => input.triggerTopic.getD rule.triggerTopic
      | none => (input.triggerTopic.map trim).getD ""
    if triggerType = .sharedState then
      let pattern := trim topic
      if pattern = "" then
        .error (.BadRequestError ("triggerTopic is required when triggerType is 'shared-state' "
          ++ "— give a Shared State path pattern such as 'bunker-summary/#'"))
      else
        match validateSharedStatePattern pattern with
        | some rejection => .error (.BadRequestError rejection)
        | none =>
          .ok { triggerType, effectiveTriggerTopic := pattern, effectiveCronExpression := none }
    else .ok { triggerType, effectiveTriggerTopic := topic, effectiveCronExpression := none }

structure ResolvedUi where
  uiSourceValue : Option String
  compiledUiValue : Option String

/-- `compilationError` -/
def compilationError (message : String) (details : List ProjectCompileError) : Failure :=
  .app 400 message details

/-- `resolveUiSource`: an empty text or `null` clears both columns; a text of white
space keeps them, as an omitted one does. -/
def resolveUiSource (env : Env) (uiSource : Patch) (existing : Option StoredRule) :
    Except Failure ResolvedUi :=
  let kept : ResolvedUi :=
    { uiSourceValue := existing.bind StoredRule.uiSource
      compiledUiValue := existing.bind StoredRule.compiledUi }
  match uiSource with
  | none => .ok kept
  | some none => .ok { uiSourceValue := none, compiledUiValue := none }
  | some (some source) =>
    if source = "" then .ok { uiSourceValue := none, compiledUiValue := none }
    else if trim source = "" then .ok kept
    else
      match env.transpileUi source with
      | .ok js => .ok { uiSourceValue := some source, compiledUiValue := some js }
      | .error errors => .error (compilationError "TSX compilation failed" errors)

/-- `preserveOrReplace` -/
def preserveOrReplace (incoming : Patch) (current : Option String) : Option String :=
  incoming.getD current

/-- `incoming || current` -/
def orKeep (incoming : Option String) (current : String) : String :=
  (truthy incoming).getD current

/-! ## Requests -/

structure RequestHead where
  user : Option User
  id : String
  ifMatch : Option String

/-- A body that fits `updateAutomationBodySchema`. -/
structure UpdateBody where
  name : Option String := none
  triggerTopic : Option String := none
  triggerType : Option TriggerType := none
  cronExpression : Patch := none
  conditionType : Patch := none
  conditionValue : Patch := none
  actionType : Option String := none
  actionTarget : Option String := none
  actionParams : Option Json := none
  project : Option AutomationProject := none
  uiSource : Patch := none

/-- A body that fits `createAutomationBodySchema`. -/
structure CreateBody where
  name : String
  tabId : Option String := none
  triggerTopic : Option String := none
  ruleType : RuleType := .form
  triggerType : Option TriggerType := none
  cronExpression : Patch := none
  conditionType : Patch := none
  conditionValue : Patch := none
  actionType : Option String := none
  actionTarget : Option String := none
  actionParams : Option Json := none
  project : Option AutomationProject := none
  uiSource : Patch := none

structure CreateRequest where
  user : Option User
  /-- `req.query.tabId` -/
  queryTabId : Option String
  body : Option CreateBody
  /-- what `randomUUID()` returns -/
  id : String
  /-- `Date.now()` -/
  now : Nat

/-- An update as it stands when its handler first awaits or writes. -/
structure RuleUpdate where
  id : String
  existing : StoredRule
  expectedRevision : Nat
  body : UpdateBody
  trigger : ResolvedTrigger

/-- A handler suspended at the compiler, with what it captured before. -/
inductive Pending where
  | update (update : RuleUpdate)
  | project (id : String) (expectedRevision : Nat)
  | create (id : String) (row : StoredRule)

inductive Phase where
  | answered (response : Response)
  | awaiting (pending : Pending)

/-- How the compilation of a project settles. -/
inductive CompileOutcome where
  | compiled (project : CompiledAutomationProject)
  /-- `AutomationProjectCompileError` -/
  | refused (details : List ProjectCompileError)
  | crashed (message : String)

def CompileOutcome.result : CompileOutcome → Except Failure CompiledAutomationProject
  | .compiled project => .ok project
  | .refused details => .error (compilationError "Automation Project compilation failed" details)
  | .crashed message => .error (.unexpected message)

section Handlers

variable (env : Env)

/-- `validate` -/
def validated {α : Type} : Option α → Except Failure α
  | some body => .ok body
  | none => .error .zod

/-- `assertMayMutateAuthority` -/
def assertMayMutateAuthority (user : Option User) (existing : StoredRule) :
    Except Failure Unit :=
  if existing.authoredUnrestricted ∧ (user.map User.role) ≠ some .admin then
    .error .ForbiddenError
  else .ok ()

/-- The rule a request addresses, or 404. -/
def existingRule (id : String) : Handler Failure Server StoredRule := do
  let row ← Handler.asks fun server : Server => server.db.queryRuleById id
  match row with
  | some rule => pure rule
  | none => throw (.NotFoundError s!"Automation rule {id} not found")

/-- `requireAutomation("write")` -/
def guardAutomation (head : RequestHead) : Handler Failure Server Unit := do
  let outcome ← Handler.asks fun server : Server =>
    requireAutomation env.permissions head.user head.id server.db
  Handler.check outcome

/-- `engine.unregister(id)`, then register the row as it is now if it is enabled. -/
def reregister (id : String) : Handler Failure Server StoredRule := do
  Handler.modify fun server => { server with registry := server.registry.unregister id }
  let row ← Handler.asks fun server : Server => server.db.queryRuleById id
  match row with
  | none => throw (.unexpected "Cannot read properties of null (reading 'enabled')")
  | some updated =>
    Handler.modify fun server : Server =>
      if updated.enabled then
        { server with
          registry := server.registry.registerUiRule env.isValidCron server.conditionTypes id
            updated }
      else server
    pure updated

def conflict : Failure :=
  .ConflictError "This automation changed on the server while you were editing it"

/-! ### `PUT /api/automations/:id` -/

/-- The columns of a script rule that `PUT` sets: from the compiled project, or kept. -/
def scriptColumns (update : RuleUpdate) (compiled : Option CompiledAutomationProject)
    (row : StoredRule) : StoredRule :=
  let existing := update.existing
  { row with
    name := orKeep update.body.name existing.name
    triggerTopic := update.trigger.effectiveTriggerTopic
    conditionType := preserveOrReplace update.body.conditionType existing.conditionType
    conditionValue := preserveOrReplace update.body.conditionValue existing.conditionValue
    scriptSource := (compiled.map fun c => some c.logicSource).getD existing.scriptSource
    compiledJs := (compiled.map fun c => some c.compiledJs).getD existing.compiledJs
    structuredMetadata := (compiled.map fun _ => none).getD existing.structuredMetadata
    uiSource := (compiled.map fun c => c.uiSource).getD existing.uiSource
    compiledUi := (compiled.map fun c => c.compiledUi).getD existing.compiledUi
    triggerType := some update.trigger.triggerType.toString
    cronExpression := update.trigger.effectiveCronExpression }

/-- The columns of a form rule that `PUT` sets. -/
def formColumns (update : RuleUpdate) (ui : ResolvedUi) (row : StoredRule) : StoredRule :=
  let existing := update.existing
  { row with
    name := orKeep update.body.name existing.name
    triggerTopic := update.trigger.effectiveTriggerTopic
    conditionType := preserveOrReplace update.body.conditionType existing.conditionType
    conditionValue := preserveOrReplace update.body.conditionValue existing.conditionValue
    actionType := orKeep update.body.actionType existing.actionType
    actionTarget := orKeep update.body.actionTarget existing.actionTarget
    actionParams := update.body.actionParams.getD existing.actionParams
    uiSource := ui.uiSourceValue
    compiledUi := ui.compiledUiValue
    triggerType := some update.trigger.triggerType.toString
    cronExpression := update.trigger.effectiveCronExpression }

/-- The guarded UPDATE and its `changes !== 1` check. -/
def guardedUpdate (id : String) (expectedRevision : Nat) (assign : StoredRule → StoredRule) :
    Statement Unit := do
  let changes ← updateRule id expectedRevision assign
  requireOneChange changes conflict

/-- The transaction of a script rule: the row, and its project when there is one. -/
def storeScript (update : RuleUpdate) (compiled : Option CompiledAutomationProject)
    (now : Nat) : Statement Unit := do
  guardedUpdate update.id update.expectedRevision (scriptColumns update compiled)
  match compiled with
  | some project => saveAutomationProject update.id project now
  | none => pure ()

/-- A script rule's update from the point where its project, if any, is compiled. -/
def finishScriptUpdate (update : RuleUpdate) (compiled : Option CompiledAutomationProject)
    (now : Nat) : Handler Failure Server Response := do
  let columns := scriptColumns update compiled update.existing
  if (truthy columns.scriptSource).isNone ∨ (truthy columns.compiledJs).isNone then
    throw (.BadRequestError
      "script automation has no compiled Automation Project runtime projection")
  else
    onDb (Handler.atomically (storeScript update compiled now))
    let updated ← reregister env update.id
    pure (.automation update.id updated.revision)

/-- A form rule's update: one UPDATE, outside any transaction. -/
def finishFormUpdate (update : RuleUpdate) : Handler Failure Server Response := do
  let ui ← Handler.check (resolveUiSource env update.body.uiSource (some update.existing))
  onDb (guardedUpdate update.id update.expectedRevision (formColumns update ui))
  let updated ← reregister env update.id
  pure (.automation update.id updated.revision)

/-- What `PUT` does once its checks have passed. -/
def startUpdate (update : RuleUpdate) (now : Nat) : Handler Failure Server Phase :=
  match update.existing.ruleType with
  | .form => Phase.answered <$> finishFormUpdate env update
  | .script =>
    if update.body.uiSource.isSome then
      throw (.BadRequestError "script UI source must be supplied through the Automation Project")
    else if update.body.project.isSome then pure (.awaiting (.update update))
    else Phase.answered <$> finishScriptUpdate env update none now

def putAutomation (head : RequestHead) (body : Option UpdateBody) (now : Nat) :
    Handler Failure Server Phase := do
  guardAutomation env head
  let body ← Handler.check (validated body)
  let existing ← existingRule head.id
  Handler.check (assertMayMutateAuthority head.user existing)
  let expectedRevision ← Handler.check (requireIfMatchRevision head.ifMatch)
  let trigger ← Handler.check (resolveTriggerConfig env
    ⟨body.triggerType, body.triggerTopic, body.cronExpression⟩ (some existing))
  startUpdate env ⟨head.id, existing, expectedRevision, body, trigger⟩ now

/-! ### `PUT /api/automations/:id/project` -/

def putProject (head : RequestHead) (project : Option AutomationProject) :
    Handler Failure Server Phase := do
  guardAutomation env head
  let _ ← Handler.check (validated project)
  let existing ← existingRule head.id
  Handler.check (assertMayMutateAuthority head.user existing)
  if existing.ruleType ≠ .script then
    throw (.BadRequestError "Only script automations can use Automation Projects")
  else
    let expectedRevision ← Handler.check (requireIfMatchRevision head.ifMatch)
    pure (.awaiting (.project head.id expectedRevision))

/-- The columns a project sets. -/
def projectColumns (compiled : CompiledAutomationProject) (row : StoredRule) : StoredRule :=
  { row with
    scriptSource := some compiled.logicSource
    compiledJs := some compiled.compiledJs
    structuredMetadata := none
    uiSource := compiled.uiSource
    compiledUi := compiled.compiledUi }

def storeProject (id : String) (expectedRevision : Nat) (compiled : CompiledAutomationProject)
    (now : Nat) : Statement Unit := do
  guardedUpdate id expectedRevision (projectColumns compiled)
  saveAutomationProject id compiled now

def finishProject (id : String) (expectedRevision : Nat)
    (compiled : CompiledAutomationProject) (now : Nat) : Handler Failure Server Response := do
  onDb (Handler.atomically (storeProject id expectedRevision compiled now))
  let _ ← reregister env id
  Handler.asks fun server : Server => .project id (readAutomationProject server.db id)

/-! ### `DELETE /api/automations/:id` -/

/-- The guarded DELETE and its `changes !== 1` check. -/
def guardedDelete (id : String) (expectedRevision : Nat) : Statement Unit := do
  let changes ← deleteRule id expectedRevision
  requireOneChange changes
    (.ConflictError "This automation changed on the server before it could be deleted")

def deleteAutomation (head : RequestHead) : Handler Failure Server Response := do
  guardAutomation env head
  let existing ← existingRule head.id
  Handler.check (assertMayMutateAuthority head.user existing)
  let expectedRevision ← Handler.check (requireIfMatchRevision head.ifMatch)
  onDb (guardedDelete head.id expectedRevision)
  Handler.modify fun server => { server with registry := server.registry.unregister head.id }
  pure .deleted

/-! ### `PATCH /api/automations/:id/toggle` -/

/-- Switching a rule on or off asks for no revision and moves none. -/
def toggleAutomation (head : RequestHead) (enabled : Option Bool) :
    Handler Failure Server Response := do
  guardAutomation env head
  let enabled ← Handler.check (validated enabled)
  let existing ← existingRule head.id
  Handler.check (assertMayMutateAuthority head.user existing)
  onDb (setRuleEnabled head.id enabled)
  Handler.modify fun server : Server =>
    { server with
      registry :=
        match enabled, server.db.queryRuleById head.id with
        | true, some updated =>
          server.registry.registerUiRule env.isValidCron server.conditionTypes head.id updated
        | _, _ => server.registry.unregister head.id }
  pure (.toggled enabled)

/-! ### `POST /api/automations` -/

/-- The row of a new rule; a script rule gets its source columns when it is compiled. -/
def newRule (user : Option User) (ownerTabId : Option String) (body : CreateBody)
    (trigger : ResolvedTrigger) (ui : ResolvedUi) (now : Nat) : StoredRule :=
  let unrestricted : Bool := user.map User.role = some .admin
  { name := body.name
    triggerTopic := trigger.effectiveTriggerTopic
    conditionType := truthy body.conditionType.join
    conditionValue := truthy body.conditionValue.join
    actionType := if body.ruleType = .script then "script" else body.actionType.getD ""
    actionTarget := if body.ruleType = .script then "" else body.actionTarget.getD ""
    actionParams := if body.ruleType = .script then .obj [] else body.actionParams.getD (.obj [])
    ruleType := body.ruleType
    scriptSource := none
    compiledJs := none
    structuredMetadata := none
    uiSource := ui.uiSourceValue
    compiledUi := ui.compiledUiValue
    triggerType := some trigger.triggerType.toString
    cronExpression := trigger.effectiveCronExpression
    authoredUnrestricted := unrestricted
    ownerTabId := if unrestricted then none else ownerTabId
    enabled := true
    createdAt := now
    revision := 1 }

/-- Register the row that was just inserted, and answer. -/
def announceCreated (id : String) (row : StoredRule) : Handler Failure Server Response := do
  Handler.modify fun server : Server =>
    { server with
      registry := server.registry.registerUiRule env.isValidCron server.conditionTypes id row }
  pure (.created id row.ownerTabId row.authoredUnrestricted)

def createAutomation (req : CreateRequest) : Handler Failure Server Phase := do
  let named := (truthy (req.body.bind CreateBody.tabId)).orElse fun _ => req.queryTabId
  let outcome ← Handler.asks fun server : Server =>
    requireTabPermission env.permissions req.user named server.db
  Handler.check outcome
  let body ← Handler.check (validated req.body)
  let trigger ← Handler.check (resolveTriggerConfig env
    ⟨body.triggerType, body.triggerTopic, body.cronExpression⟩ none)
  let ownerTabId := body.tabId.orElse fun _ => req.queryTabId
  match body.ruleType with
  | .script =>
    if body.uiSource.isSome then
      throw (.BadRequestError "script UI source must be supplied through the Automation Project")
    else if body.project.isNone then
      throw (.BadRequestError "project is required for script rules")
    else
      pure (.awaiting (.create req.id
        (newRule req.user ownerTabId body trigger ⟨none, none⟩ req.now)))
  | .form =>
    let ui ← Handler.check (resolveUiSource env body.uiSource none)
    if (truthy body.actionType).isNone ∨ (truthy body.actionTarget).isNone then
      throw (.BadRequestError "actionType and actionTarget are required for form rules")
    else
      let row := newRule req.user ownerTabId body trigger ui req.now
      onDb (insertRule req.id row)
      Phase.answered <$> announceCreated env req.id row

def storeCreated (id : String) (row : StoredRule) (compiled : CompiledAutomationProject)
    (now : Nat) : Statement Unit := do
  insertRule id row
  saveAutomationProject id compiled now

def finishCreate (id : String) (row : StoredRule) (compiled : CompiledAutomationProject)
    (now : Nat) : Handler Failure Server Response := do
  let row := projectColumns compiled row
  onDb (Handler.atomically (storeCreated id row compiled now))
  announceCreated env id row

/-! ### After the compiler -/

/-- A suspended handler goes on when its compilation settles. -/
def resume (pending : Pending) (outcome : CompileOutcome) (now : Nat) :
    Handler Failure Server Response := do
  let compiled ← Handler.check outcome.result
  match pending with
  | .update update => finishScriptUpdate env update (some compiled) now
  | .project id expectedRevision => finishProject env id expectedRevision compiled now
  | .create id row => finishCreate env id row compiled now

end Handlers

end Aeolus.Api
