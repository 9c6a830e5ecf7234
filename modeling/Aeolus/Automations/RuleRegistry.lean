/-
# Aeolus.Automations.RuleRegistry — the rules the engine holds, and their cron timers

`register` and `unregister` of `src/automations/automation-engine.ts`, over the maps of
`rule-registry.ts` and `cron-timer-manager.ts`, and `registerUiRule` of
`src/api/routes/automation.routes.ts`, which turns a stored row into a live rule.
-/
import Aeolus.Core.Text
import Aeolus.Db.Database

namespace Aeolus.Automations

open Aeolus.Core Aeolus.Db Aeolus.Theory

/-- What a rule does when it fires. -/
inductive RuleAction where
  | script (compiledJs : String)
  | form (type target : String) (params : Json)

structure Rule where
  topic : String
  name : String
  /-- the condition type and value its predicate was built from -/
  condition : Option (String × String)
  action : RuleAction
  triggerType : String
  cronExpression : Option String

structure RuleRegistry where
  rules : OrderedMap String Rule := .empty
  /-- the running cron timers, with their expressions -/
  timers : OrderedMap String String := .empty

namespace RuleRegistry

variable (isValidCron : String → Bool)

/-- A cron rule also starts its timer; an invalid expression leaves the timers alone. -/
def register (registry : RuleRegistry) (id : String) (rule : Rule) : RuleRegistry where
  rules := registry.rules.set id rule
  timers :=
    match rule.cronExpression with
    | some expression =>
      if rule.triggerType = "cron" ∧ isValidCron expression = true then
        registry.timers.set id expression
      else registry.timers
    | none => registry.timers

def unregister (registry : RuleRegistry) (id : String) : RuleRegistry where
  rules := registry.rules.delete id
  timers := registry.timers.delete id

/-- `conditionRegistry.buildCondition`: no condition when its type has no factory. -/
def buildCondition (conditionTypes : List String) (type value : Option String) :
    Option (String × String) :=
  match truthy type, truthy value with
  | some type, some value => if type ∈ conditionTypes then some (type, value) else none
  | _, _ => none

/-- The live rule of a stored row. -/
def liveRule (conditionTypes : List String) (stored : StoredRule) : Rule where
  topic := stored.triggerTopic
  name := stored.name
  condition := buildCondition conditionTypes stored.conditionType stored.conditionValue
  action :=
    match stored.ruleType, truthy stored.compiledJs with
    | .script, some compiledJs => .script compiledJs
    | _, _ => .form stored.actionType stored.actionTarget stored.actionParams
  triggerType := (truthy stored.triggerType).getD "mqtt"
  cronExpression := truthy stored.cronExpression

def registerUiRule (conditionTypes : List String) (registry : RuleRegistry) (id : String)
    (stored : StoredRule) : RuleRegistry :=
  registry.register isValidCron id (liveRule conditionTypes stored)

end RuleRegistry

end Aeolus.Automations
