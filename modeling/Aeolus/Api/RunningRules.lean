/-
# Aeolus.Api.RunningRules — the engine runs the stored rules

The handlers of `AutomationRoutes` write a row and then bring the engine's registry and
its cron timers after it, each in its own order: an update unregisters and registers
again, a toggle registers over what is there, a create registers the row it has built.
Here their requests interleave at the compiler as in `Revisions`, connectors add and
remove condition types, and the process may restart at any point, which loses the
suspended requests and loads the enabled rows again (`loadUiRules`).

`RunsAsStored` speaks about one id: it is registered exactly if its row is enabled, as
that row says, and it has a timer exactly if the row asks for one.  A handler disturbs
one id and restores it in the same turn (`reregister_runs`, `toggleAutomation_runs`,
`announceCreated_runs`), so between two turns every id runs as stored (`rules_agree`).
-/
import Aeolus.Api.Revisions

namespace Aeolus.Api

open Aeolus.Core Aeolus.Db Aeolus.Automations Aeolus.Theory Aeolus.Theory.Handler

/-! ## Starting the server -/

/-- `loadUiRules`: register the rows with `enabled = 1`. -/
def loadUiRules (isValidCron : String → Bool) (conditionTypes : List String) (db : Database) :
    RuleRegistry :=
  (db.automationRules.filter StoredRule.enabled).entries.foldl
    (fun registry row => registry.registerUiRule isValidCron conditionTypes row.1 row.2) {}

/-- A process that has just started over the database. -/
def boot (isValidCron : String → Bool) (conditionTypes : List String) (db : Database) : World :=
  .idle { db, conditionTypes, registry := loadUiRules isValidCron conditionTypes db }

inductive Occurrence where
  /-- a request arrives, or the compilation it awaits settles -/
  | served (event : Event)
  /-- a connector adds or removes condition types -/
  | contributed (conditionTypes : List String)
  /-- the process ends, with whatever it awaits, and starts again -/
  | restarted (conditionTypes : List String)

def live (driver : Driver) (env : Env) (world : World) : Occurrence → World
  | .served event => step driver env world event
  | .contributed conditionTypes =>
    { world with server := { world.server with conditionTypes } }
  | .restarted conditionTypes => boot env.isValidCron conditionTypes world.server.db

/-! ## What should run -/

/-- The compiled code a rule runs. -/
def compiledCode (rule : Rule) : Option String :=
  match rule.action with
  | .script compiledJs => some compiledJs
  | .form _ _ _ => none

/-- The compiled code a row holds; a form rule has none. -/
def storedCode (stored : StoredRule) : Option String :=
  match stored.ruleType with
  | .script => truthy stored.compiledJs
  | .form => none

/-- The row of an enabled rule. -/
def enabledRule (db : Database) (id : String) : Option StoredRule :=
  (db.queryRuleById id).filter StoredRule.enabled

theorem enabledRule_eq_some {db : Database} {id : String} {stored : StoredRule} :
    enabledRule db id = some stored ↔
      db.queryRuleById id = some stored ∧ stored.enabled = true := by
  simp [enabledRule, Option.filter_eq_some_iff]

section Timers

variable (isValidCron : String → Bool)

/-- The expression of the timer a rule asks for. -/
def timerOf (rule : Rule) : Option String :=
  rule.cronExpression.filter fun expression =>
    rule.triggerType = "cron" ∧ isValidCron expression = true

/-- The rule `id` is registered exactly if its row is enabled, as the row says, and its
timer runs exactly if the row asks for one. -/
structure RunsAsStored (server : Server) (id : String) : Prop where
  rule : ∃ conditionTypes, server.registry.rules.get id =
    (enabledRule server.db id).map (RuleRegistry.liveRule conditionTypes)
  timer : server.registry.timers.get id =
    (enabledRule server.db id).bind fun stored =>
      timerOf isValidCron (RuleRegistry.liveRule [] stored)

/-- Which conditions can be built does not matter to the timer. -/
theorem timerOf_liveRule (conditionTypes : List String) (stored : StoredRule) :
    timerOf isValidCron (RuleRegistry.liveRule conditionTypes stored) =
      timerOf isValidCron (RuleRegistry.liveRule [] stored) := rfl

/-! ## The registry, one id at a time -/

theorem rules_register (registry : RuleRegistry) (id a : String) (rule : Rule) :
    (registry.register isValidCron id rule).rules.get a =
      if a = id then some rule else registry.rules.get a :=
  OrderedMap.get_set _ _ _ _

/-- A rule that asks for no timer leaves the one that runs. -/
theorem timers_register (registry : RuleRegistry) (id a : String) (rule : Rule) :
    (registry.register isValidCron id rule).timers.get a =
      if a = id then (timerOf isValidCron rule).or (registry.timers.get a)
      else registry.timers.get a := by
  unfold RuleRegistry.register timerOf
  cases rule.cronExpression with
  | none => simp
  | some expression =>
      by_cases due : rule.triggerType = "cron" ∧ isValidCron expression = true
      · simp [due, OrderedMap.get_set, Option.filter]
      · simp [due, Option.filter]

/-- Loading rows into a registry: a row that is loaded runs, everything else is as it was. -/
theorem load_row (conditionTypes : List String) {rows : List (String × StoredRule)}
    (nodup : (rows.map Prod.fst).Nodup) (registry : RuleRegistry) (id : String) :
    let loaded := rows.foldl (fun registry row =>
      registry.registerUiRule isValidCron conditionTypes row.1 row.2) registry
    let row := (rows.find? fun row => row.1 = id).map Prod.snd
    loaded.rules.get id =
        (row.map (RuleRegistry.liveRule conditionTypes)).or (registry.rules.get id) ∧
      loaded.timers.get id =
        (row.bind fun stored => timerOf isValidCron (RuleRegistry.liveRule [] stored)).or
          (registry.timers.get id) := by
  induction rows generalizing registry with
  | nil => exact ⟨rfl, rfl⟩
  | cons first rows ih =>
      rw [List.map_cons, List.nodup_cons] at nodup
      obtain ⟨rules, timers⟩ := ih nodup.2
        (registry.registerUiRule isValidCron conditionTypes first.1 first.2)
      dsimp only at rules timers ⊢
      rw [List.foldl_cons, rules, timers, RuleRegistry.registerUiRule, rules_register,
        timers_register, timerOf_liveRule]
      by_cases here : first.1 = id
      · have later : (rows.find? fun row => row.1 = id) = none := by
          rw [List.find?_eq_none]
          intro row member same
          have same : row.1 = id := by simpa using same
          exact nodup.1 (List.mem_map.mpr ⟨row, member, same.trans here.symm⟩)
        simp [here, later]
      · have there : ¬ id = first.1 := fun same => here same.symm
        simp [here, there]

/-- A server that starts runs what is stored. -/
theorem boot_runs (conditionTypes : List String) (db : Database) (id : String) :
    RunsAsStored isValidCron (boot isValidCron conditionTypes db).server id := by
  obtain ⟨rules, timers⟩ := load_row isValidCron conditionTypes
    (db.automationRules.filter StoredRule.enabled).nodup {} id
  have row : ((db.automationRules.filter StoredRule.enabled).entries.find?
      fun row => row.1 = id).map Prod.snd = enabledRule db id :=
    OrderedMap.get_filter _ _ _
  dsimp only at rules timers
  rw [row] at rules timers
  refine ⟨⟨conditionTypes, rules.trans ?_⟩, timers.trans ?_⟩
  · exact Option.or_none
  · exact Option.or_none

/-! ## What disturbs an id, and what restores it -/

variable {isValidCron}

theorem RunsAsStored.off {server : Server} {id : String}
    (off : enabledRule server.db id = none) (rules : server.registry.rules.get id = none)
    (timers : server.registry.timers.get id = none) : RunsAsStored isValidCron server id where
  rule := ⟨[], by rw [rules, off, Option.map_none]⟩
  timer := by rw [timers, off, Option.bind_none]

theorem RunsAsStored.on {server : Server} {id : String} {stored : StoredRule}
    (on : enabledRule server.db id = some stored) (conditionTypes : List String)
    (rules : server.registry.rules.get id = some (RuleRegistry.liveRule conditionTypes stored))
    (timers : server.registry.timers.get id =
      timerOf isValidCron (RuleRegistry.liveRule [] stored)) :
    RunsAsStored isValidCron server id where
  rule := ⟨conditionTypes, by rw [rules, on, Option.map_some]⟩
  timer := by rw [timers, on, Option.bind_some]

/-- The timer that runs, if one runs, is the one the row asks for. -/
theorem RunsAsStored.timer_left {server : Server} {id : String} {stored : StoredRule}
    (runs : RunsAsStored isValidCron server id)
    (found : server.db.queryRuleById id = some stored) :
    (timerOf isValidCron (RuleRegistry.liveRule [] stored)).or (server.registry.timers.get id) =
      timerOf isValidCron (RuleRegistry.liveRule [] stored) := by
  rw [runs.timer, enabledRule, found]
  cases enabled : stored.enabled with
  | false => simp [Option.filter, enabled]
  | true => simp [Option.filter, enabled]

/-- A row up to its owning tab, which the engine does not look at. -/
def unowned (row : StoredRule) : StoredRule := { row with ownerTabId := none }

theorem enabledRule_unowned (db : Database) (id : String) :
    (enabledRule db id).map unowned =
      ((db.queryRuleById id).map unowned).filter StoredRule.enabled := by
  unfold enabledRule
  cases db.queryRuleById id with
  | none => rfl
  | some stored => cases enabled : stored.enabled <;> simp [Option.filter, unowned, enabled]

/-- The engine was told nothing, and had nothing to be told. -/
theorem RunsAsStored.of_row {server server' : Server} {id : String}
    (runs : RunsAsStored isValidCron server id)
    (row : (server'.db.queryRuleById id).map unowned = (server.db.queryRuleById id).map unowned)
    (rules : server'.registry.rules.get id = server.registry.rules.get id)
    (timers : server'.registry.timers.get id = server.registry.timers.get id) :
    RunsAsStored isValidCron server' id := by
  obtain ⟨⟨conditionTypes, rule⟩, timer⟩ := runs
  have same : (enabledRule server'.db id).map unowned = (enabledRule server.db id).map unowned := by
    rw [enabledRule_unowned, enabledRule_unowned, row]
  refine ⟨⟨conditionTypes, ?_⟩, ?_⟩
  · have live := congrArg (Option.map (RuleRegistry.liveRule conditionTypes)) same
    rw [Option.map_map, Option.map_map] at live
    exact (rules.trans rule).trans live.symm
  · have due := congrArg
      (fun row => row.bind fun stored => timerOf isValidCron (RuleRegistry.liveRule [] stored)) same
    simp only [Option.bind_map] at due
    exact (timers.trans timer).trans due.symm

end Timers

section Handlers

variable (env : Env)

/-- Every id runs as stored. -/
def AllRun (server : Server) : Prop := ∀ id, RunsAsStored env.isValidCron server id

variable {env}

/-- The other ids, when a statement and a registration are about one. -/
theorem AllRun.others {server server' : Server} (all : AllRun env server) {id a : String}
    (ne : a ≠ id)
    (row : ∀ b, b ≠ id → server'.db.automationRules.get b = server.db.automationRules.get b)
    (rules : ∀ b, b ≠ id → server'.registry.rules.get b = server.registry.rules.get b)
    (timers : ∀ b, b ≠ id → server'.registry.timers.get b = server.registry.timers.get b) :
    RunsAsStored env.isValidCron server' a :=
  (all a).of_row (congrArg (Option.map unowned) (row a ne)) (rules a ne) (timers a ne)

/-- An id that was unregistered is registered again if its row is enabled. -/
theorem reregister_runs {id : String} {server server' : Server} {row : StoredRule}
    (returned : reregister env id server = (.ok row, server')) :
    server'.db = server.db ∧ RunsAsStored env.isValidCron server' id ∧
      (∀ a, a ≠ id → server'.registry.rules.get a = server.registry.rules.get a) ∧
      ∀ a, a ≠ id → server'.registry.timers.get a = server.registry.timers.get a := by
  cases present : server.db.queryRuleById id with
  | none =>
      simp only [reregister, bind_apply, modify_apply, asks_apply, present] at returned
      cases returned
  | some stored =>
      simp only [reregister, bind_apply, modify_apply, asks_apply, present] at returned
      cases returned
      cases enabled : row.enabled with
      | false =>
          have off : enabledRule server.db id = none := by
            simp [enabledRule, present, Option.filter, enabled]
          refine ⟨by simp, .off (by simpa using off) ?_ ?_, fun a ne => ?_, fun a ne => ?_⟩
          · simp [RuleRegistry.unregister]
          · simp [RuleRegistry.unregister]
          · simp [RuleRegistry.unregister, OrderedMap.get_delete_of_ne _ ne]
          · simp [RuleRegistry.unregister, OrderedMap.get_delete_of_ne _ ne]
      | true =>
          have on : enabledRule server.db id = some row := by
            simp [enabledRule, present, Option.filter, enabled]
          refine ⟨by simp, .on (by simpa using on) server.conditionTypes ?_ ?_, fun a ne => ?_,
            fun a ne => ?_⟩
          · simp [RuleRegistry.registerUiRule, rules_register]
          · simp [RuleRegistry.registerUiRule, timers_register, RuleRegistry.unregister,
              timerOf_liveRule]
          · simp [RuleRegistry.registerUiRule, rules_register, ne, RuleRegistry.unregister,
              OrderedMap.get_delete_of_ne _ ne]
          · simp [RuleRegistry.registerUiRule, timers_register, ne, RuleRegistry.unregister,
              OrderedMap.get_delete_of_ne _ ne]

/-- An update from its statement on, as in `commit_spec`. -/
theorem commit_runs {statement : Statement Unit} {id : String} {expected : Nat}
    {assign : StoredRule → StoredRule} {answer : StoredRule → Handler Failure Server Response}
    (ensures : Ensures statement fun db _ db' => db.Rewrites id expected assign db')
    (readOnly : ∀ row, ReadOnly (answer row)) :
    Ensures (do
      onDb statement
      let updated ← reregister env id
      answer updated) fun server _ server' => AllRun env server → AllRun env server' := by
  intro server response server' returned all a
  obtain ⟨_, mid, stored, returned⟩ := bind_ok returned
  obtain ⟨db', written, rfl⟩ := onDb_ok stored
  obtain ⟨updated, last, registered, answered⟩ := bind_ok returned
  obtain ⟨database, runs, rules, timers⟩ := reregister_runs registered
  rw [(readOnly updated).store_eq answered]
  by_cases here : a = id
  · rw [here]
    exact runs
  · refine all.others here (fun b ne => ?_) rules timers
    rw [database]
    exact (ensures _ _ _ written).others b ne

theorem finishScriptUpdate_runs (update : RuleUpdate)
    (compiled : Option CompiledAutomationProject) (now : Nat) :
    Ensures (finishScriptUpdate env update compiled now) fun server _ server' =>
      AllRun env server → AllRun env server' := by
  unfold finishScriptUpdate
  dsimp only
  split
  · exact fun _ _ _ returned => by cases returned
  · exact commit_runs
      (fun db u db' stored =>
        storeScript_ensures update compiled now db u db' (atomically_ok stored))
      fun _ => readOnly_pure _

theorem finishFormUpdate_runs (update : RuleUpdate) :
    Ensures (finishFormUpdate env update) fun server _ server' =>
      AllRun env server → AllRun env server' := by
  intro server response server' returned
  obtain ⟨ui, _, returned⟩ := check_ok returned
  exact commit_runs (guardedUpdate_spec _ _ _).2 (fun _ => readOnly_pure _) _ _ _ returned

theorem finishProject_runs (id : String) (expected : Nat) (compiled : CompiledAutomationProject)
    (now : Nat) :
    Ensures (finishProject env id expected compiled now) fun server _ server' =>
      AllRun env server → AllRun env server' :=
  commit_runs
    (fun db u db' stored =>
      storeProject_ensures id expected compiled now db u db' (atomically_ok stored))
    fun _ => readOnly_asks _

theorem setRuleEnabled_row {id : String} {enabled : Bool} {db db' : Database} {stored : StoredRule}
    (found : db.queryRuleById id = some stored)
    (switched : setRuleEnabled id enabled db = (.ok (), db')) :
    db'.queryRuleById id = some { stored with enabled } ∧
      ∀ a, a ≠ id → db'.automationRules.get a = db.automationRules.get a := by
  unfold Database.queryRuleById at found
  unfold setRuleEnabled at switched
  rw [found] at switched
  cases switched
  exact ⟨OrderedMap.get_set_self _ _ _, fun a ne => OrderedMap.get_set_of_ne _ _ ne⟩

/-- An update that is answered at once; one that suspends has changed nothing. -/
theorem startUpdate_runs (update : RuleUpdate) (now : Nat) :
    Ensures (startUpdate env update now) fun server phase server' =>
      AllRun env server → AllRun env server' ∧ ∀ id row, phase ≠ .awaiting (.create id row) := by
  unfold startUpdate
  cases update.existing.ruleType with
  | form =>
      intro server phase server' returned all
      obtain ⟨response, finished, rfl⟩ := map_ok returned
      exact ⟨finishFormUpdate_runs _ _ _ _ finished all, fun id row same => by cases same⟩
  | script =>
      dsimp only
      split
      · exact fun _ _ _ returned => by cases returned
      · split
        · intro server phase server' returned all
          cases returned
          exact ⟨all, fun id row same => by cases same⟩
        · intro server phase server' returned all
          obtain ⟨response, finished, rfl⟩ := map_ok returned
          exact ⟨finishScriptUpdate_runs _ _ _ _ _ _ finished all,
            fun id row same => by cases same⟩

theorem putAutomation_runs (head : RequestHead) (body : Option UpdateBody) (now : Nat) :
    Ensures (putAutomation env head body now) fun server phase server' =>
      AllRun env server → AllRun env server' ∧ ∀ id row, phase ≠ .awaiting (.create id row) := by
  intro server phase server' returned
  obtain ⟨_, _, returned⟩ := (guardAutomation_readOnly env head).bind_ok returned
  obtain ⟨body, _, returned⟩ := check_ok returned
  obtain ⟨existing, _, returned⟩ := (existingRule_readOnly head.id).bind_ok returned
  obtain ⟨_, _, returned⟩ := check_ok returned
  obtain ⟨expected, _, returned⟩ := check_ok returned
  obtain ⟨trigger, _, returned⟩ := check_ok returned
  exact startUpdate_runs _ now _ _ _ returned

theorem deleteAutomation_runs (head : RequestHead) :
    Ensures (deleteAutomation env head) fun server _ server' =>
      AllRun env server → AllRun env server' := by
  intro server response server' returned all a
  obtain ⟨_, _, returned⟩ := (guardAutomation_readOnly env head).bind_ok returned
  obtain ⟨existing, _, returned⟩ := (existingRule_readOnly head.id).bind_ok returned
  obtain ⟨_, _, returned⟩ := check_ok returned
  obtain ⟨expected, _, returned⟩ := check_ok returned
  obtain ⟨_, server₁, deleted, returned⟩ := bind_ok returned
  obtain ⟨db', stored, rfl⟩ := onDb_ok deleted
  cases returned
  have removes := (guardedDelete_spec head.id expected).2 _ _ _ stored
  by_cases here : a = head.id
  · obtain ⟨_, _, _, _, rules⟩ := removes
    have gone : enabledRule db' head.id = none := by
      simp [enabledRule, Database.queryRuleById, rules]
    rw [here]
    exact .off gone (OrderedMap.get_delete_self _ _) (OrderedMap.get_delete_self _ _)
  · refine all.others here removes.others (fun b ne => ?_) fun b ne => ?_
    · exact OrderedMap.get_delete_of_ne _ ne
    · exact OrderedMap.get_delete_of_ne _ ne

/-- Switching on registers over whatever is there: a timer that is left is the one the
row asks for. -/
theorem toggleAutomation_runs (head : RequestHead) (enabled : Option Bool) :
    Ensures (toggleAutomation env head enabled) fun server _ server' =>
      AllRun env server → AllRun env server' := by
  intro server response server' returned all a
  obtain ⟨_, _, returned⟩ := (guardAutomation_readOnly env head).bind_ok returned
  obtain ⟨enabled, _, returned⟩ := check_ok returned
  obtain ⟨existing, read, returned⟩ := (existingRule_readOnly head.id).bind_ok returned
  obtain ⟨_, _, returned⟩ := check_ok returned
  obtain ⟨_, server₁, switched, returned⟩ := bind_ok returned
  obtain ⟨db', stored, rfl⟩ := onDb_ok switched
  have found : server.db.queryRuleById head.id = some existing := (existingRule_ok read).2
  obtain ⟨row, others⟩ := setRuleEnabled_row found stored
  clear stored switched
  cases returned
  cases enabled with
  | false =>
      by_cases here : a = head.id
      · have off : enabledRule db' head.id = none := by simp [enabledRule, row, Option.filter]
        rw [here]
        exact .off off (OrderedMap.get_delete_self _ _) (OrderedMap.get_delete_self _ _)
      · refine all.others here others (fun b ne => ?_) fun b ne => ?_
        · exact OrderedMap.get_delete_of_ne _ ne
        · exact OrderedMap.get_delete_of_ne _ ne
  | true =>
      by_cases here : a = head.id
      · have on : enabledRule db' head.id = some { existing with enabled := true } := by
          simp [enabledRule, row, Option.filter]
        rw [here]
        refine .on on server.conditionTypes ?_ ?_
        · simp [row, RuleRegistry.registerUiRule, rules_register]
        · have left := (all head.id).timer_left found
          simp only [row, RuleRegistry.registerUiRule, timers_register, if_true, timerOf_liveRule]
          exact left
      · refine all.others here others (fun b ne => ?_) fun b ne => ?_
        · simp [row, RuleRegistry.registerUiRule, rules_register, ne]
        · simp [row, RuleRegistry.registerUiRule, timers_register, ne]

/-- A row that was just inserted is registered as it is. -/
theorem announceCreated_runs {id : String} {row : StoredRule} {server server' last : Server}
    {response : Response} (announced : announceCreated env id row server' = (.ok response, last))
    (inserts : server.db.Inserts id row server'.db) (same : server'.registry = server.registry)
    (enabled : row.enabled = true) (all : AllRun env server) :
    AllRun env last := by
  intro a
  cases announced
  by_cases here : a = id
  · have on : enabledRule server'.db id = some row := by
      simp [enabledRule, Database.queryRuleById, inserts.rules, Option.filter, enabled]
    have none_before : enabledRule server.db id = none := by
      simp [enabledRule, Database.queryRuleById, inserts.absent]
    have no_timer : server.registry.timers.get id = none := by
      rw [(all id).timer, none_before, Option.bind_none]
    rw [here]
    refine .on on server'.conditionTypes ?_ ?_
    · simp [RuleRegistry.registerUiRule, rules_register]
    · simp [RuleRegistry.registerUiRule, timers_register, timerOf_liveRule, same, no_timer]
  · refine all.others here inserts.others (fun b ne => ?_) fun b ne => ?_
    · simp [RuleRegistry.registerUiRule, rules_register, ne, same]
    · simp [RuleRegistry.registerUiRule, timers_register, ne, same]

/-- A rule that awaits its project will be stored switched on. -/
theorem createAutomation_runs (req : CreateRequest) :
    Ensures (createAutomation env req) fun server phase server' =>
      AllRun env server → AllRun env server' ∧
        ∀ id row, phase = .awaiting (.create id row) → row.enabled = true := by
  intro server phase server' returned all
  obtain ⟨row, -, enabled, ⟨rfl, rfl⟩ | ⟨db', response, rfl, inserts, announced⟩⟩ :=
    createAutomation_ok env returned
  · refine ⟨all, fun id other same => ?_⟩
    cases same
    exact enabled
  · refine ⟨announceCreated_runs announced inserts rfl enabled all, fun id other same => ?_⟩
    cases same

theorem finishCreate_runs {id : String} {row : StoredRule} (enabled : row.enabled = true)
    (compiled : CompiledAutomationProject) (now : Nat) :
    Ensures (finishCreate env id row compiled now) fun server _ server' =>
      AllRun env server → AllRun env server' := by
  intro server response server' returned all
  obtain ⟨_, server₁, stored, returned⟩ := bind_ok returned
  obtain ⟨db', saved, rfl⟩ := onDb_ok stored
  have inserts := storeCreated_ensures _ _ _ _ _ _ _ (atomically_ok saved)
  exact announceCreated_runs returned inserts rfl enabled all

/-- Saving the layout clears owning tabs, and tells the engine nothing. -/
theorem putLayout_runs (driver : Driver) (req : LayoutRequest) :
    Ensures (onDb (putLayout driver req)) fun server _ server' =>
      AllRun env server → AllRun env server' := by
  intro server revision server' returned all id
  obtain ⟨db', stored, rfl⟩ := onDb_ok returned
  refine (all id).of_row ?_ rfl rfl
  obtain ⟨_, _, stored⟩ := check_ok stored
  obtain ⟨layout, _, stored⟩ := check_ok stored
  obtain ⟨expected, _, stored⟩ := check_ok stored
  obtain ⟨_, saved, replaced, answered⟩ := bind_ok stored
  cases answered
  obtain ⟨changes, advanced, moved, replaced⟩ := bind_ok (atomically_ok replaced)
  obtain ⟨_, checked, passed, rewritten⟩ := bind_ok replaced
  have rules : checked.automationRules = server.db.automationRules := by
    unfold advanceLayoutRevision at moved
    unfold requireOneChange at passed
    split at moved <;> cases moved <;> cases passed
    rfl
  obtain ⟨cleared, deleted, refilled⟩ := rewriteTables_ensures driver _ _ _ _ _ rewritten
  cases deleted
  unfold Database.queryRuleById
  rw [refilled.rules, OrderedMap.get_map, Option.map_map, rules]
  rfl

/-! ## One event, and any number of them -/

/-- What holds between two events. -/
structure Running (env : Env) (world : World) : Prop where
  all : AllRun env world.server
  planned : ∀ id row, .create id row ∈ world.inFlight → row.enabled = true

theorem handle_runs (driver : Driver) (request : Request) :
    Ensures (handle driver env request) fun server phase server' =>
      AllRun env server → AllRun env server' ∧
        ∀ id row, phase = .awaiting (.create id row) → row.enabled = true := by
  intro server phase server' returned all
  cases request with
  | putLayout req =>
      obtain ⟨revision, stored, rfl⟩ := map_ok returned
      exact ⟨putLayout_runs driver req _ _ _ stored all, fun id row same => by cases same⟩
  | putAutomation head body now =>
      obtain ⟨all', other⟩ := putAutomation_runs head body now _ _ _ returned all
      exact ⟨all', fun id row same => absurd same (other id row)⟩
  | putProject head project =>
      obtain ⟨expected, _, rfl⟩ := putProject_ensures env head project _ _ _ returned
      rw [(putProject_readOnly env head project).store_eq returned]
      exact ⟨all, fun id row same => by cases same⟩
  | deleteAutomation head =>
      obtain ⟨response, deleted, rfl⟩ := map_ok returned
      exact ⟨deleteAutomation_runs head _ _ _ deleted all, fun id row same => by cases same⟩
  | toggleAutomation head enabled =>
      obtain ⟨response, toggled, rfl⟩ := map_ok returned
      exact ⟨toggleAutomation_runs head enabled _ _ _ toggled all,
        fun id row same => by cases same⟩
  | createAutomation req => exact createAutomation_runs req _ _ _ returned all

theorem resume_runs {pending : Pending} (outcome : CompileOutcome) (now : Nat)
    (planned : ∀ id row, pending = .create id row → row.enabled = true) :
    Ensures (resume env pending outcome now) fun server _ server' =>
      AllRun env server → AllRun env server' := by
  intro server response server' returned all
  obtain ⟨compiled, _, returned⟩ := check_ok returned
  cases pending with
  | update update => exact finishScriptUpdate_runs _ _ _ _ _ _ returned all
  | project id expected => exact finishProject_runs _ _ _ _ _ _ _ returned all
  | create id row => exact finishCreate_runs (planned id row rfl) _ _ _ _ _ returned all

/-- **One event.**  A request that fails has changed nothing. -/
theorem Running.step (driver : Driver) {world : World} (running : Running env world)
    (event : Event) : Running env (step driver env world event) := by
  obtain ⟨all, planned⟩ := running
  cases event with
  | request request =>
      simp only [Api.step, serve]
      rcases returned : handle driver env request world.server with
        ⟨failure | response | pending, server⟩
      · rw [handle_atomic driver env request _ _ _ returned]
        exact ⟨all, planned⟩
      · exact ⟨(handle_runs driver request _ _ _ returned all).1, planned⟩
      · obtain ⟨all', created⟩ := handle_runs driver request _ _ _ returned all
        refine ⟨all', fun id row member => ?_⟩
        rcases List.mem_append.mp member with before | here
        · exact planned id row before
        · exact created id row (by rw [List.mem_singleton.mp here])
  | settled position outcome now =>
      simp only [Api.step, serve]
      cases found : world.inFlight[position]? with
      | none => exact ⟨all, planned⟩
      | some pending =>
          have fewer (id : String) (row : StoredRule)
              (member : .create id row ∈ world.inFlight.eraseIdx position) : row.enabled = true :=
            planned id row (List.mem_of_mem_eraseIdx member)
          have waiting (id : String) (row : StoredRule) (same : pending = .create id row) :
              row.enabled = true := by
            apply planned id row
            rw [← same]
            exact List.mem_of_getElem? found
          rcases returned : resume env pending outcome now world.server with
            ⟨failure | response, server⟩
          · dsimp only
            rw [returned, resume_atomic env pending outcome now _ _ _ returned]
            exact ⟨all, fewer⟩
          · dsimp only
            rw [returned]
            exact ⟨resume_runs outcome now waiting _ _ _ returned all, fewer⟩

theorem boot_running (conditionTypes : List String) (db : Database) :
    Running env (boot env.isValidCron conditionTypes db) where
  all := boot_runs env.isValidCron conditionTypes db
  planned _ _ member := absurd member List.not_mem_nil

theorem Running.live (driver : Driver) {world : World} (running : Running env world)
    (occurrence : Occurrence) : Running env (live driver env world occurrence) := by
  cases occurrence with
  | served event => exact running.step driver event
  | contributed conditionTypes =>
      exact ⟨fun id => (running.all id).of_row rfl rfl rfl, running.planned⟩
  | restarted conditionTypes => exact boot_running conditionTypes _

end Handlers

/-! ## Agreement -/

/-- `isValidCron` of `cron-utils.ts`, which refuses an empty text before it asks node-cron. -/
def ValidCron (env : Env) (expression : String) : Prop :=
  expression ≠ "" ∧ env.isValidCron expression = true

/-- The engine and the table agree. -/
structure Agree (env : Env) (server : Server) : Prop where
  /-- the registered rules are the enabled rows -/
  registered : ∀ id, (∃ rule, server.registry.rules.get id = some rule) ↔
    ∃ stored, server.db.queryRuleById id = some stored ∧ stored.enabled = true
  /-- each is registered as its row says -/
  asStored : ∀ id rule stored, server.registry.rules.get id = some rule →
    server.db.queryRuleById id = some stored →
      rule.triggerType = (truthy stored.triggerType).getD "mqtt" ∧
        rule.topic = stored.triggerTopic ∧
        rule.cronExpression = truthy stored.cronExpression ∧
        compiledCode rule = storedCode stored
  /-- a timer runs for the enabled cron rules with a valid expression, on that expression -/
  timers : ∀ id expression, server.registry.timers.get id = some expression ↔
    ∃ stored, server.db.queryRuleById id = some stored ∧ stored.enabled = true ∧
      stored.triggerType = some "cron" ∧ stored.cronExpression = some expression ∧
      ValidCron env expression

theorem compiledCode_liveRule (conditionTypes : List String) (stored : StoredRule) :
    compiledCode (RuleRegistry.liveRule conditionTypes stored) = storedCode stored := by
  unfold RuleRegistry.liveRule storedCode compiledCode
  cases stored.ruleType with
  | form => rfl
  | script =>
      cases truthy stored.compiledJs with
      | none => rfl
      | some compiledJs => rfl

theorem timerOf_eq_some {env : Env} {stored : StoredRule} {expression : String} :
    timerOf env.isValidCron (RuleRegistry.liveRule [] stored) = some expression ↔
      stored.triggerType = some "cron" ∧ stored.cronExpression = some expression ∧
        ValidCron env expression := by
  have cron : (truthy stored.triggerType).getD "mqtt" = "cron" ↔
      stored.triggerType = some "cron" := by
    cases type : stored.triggerType with
    | none => simp [truthy]
    | some value =>
        by_cases empty : value = ""
        · simp [truthy, Option.filter, empty]
        · simp [truthy, Option.filter, empty]
  unfold timerOf ValidCron
  rw [Option.filter_eq_some_iff]
  simp only [RuleRegistry.liveRule, truthy_eq_some, decide_eq_true_eq, cron]
  tauto

theorem AllRun.agree {env : Env} {server : Server} (all : AllRun env server) :
    Agree env server where
  registered id := by
    obtain ⟨⟨conditionTypes, rule⟩, _⟩ := all id
    rw [rule]
    simp only [Option.map_eq_some_iff, enabledRule_eq_some]
    constructor
    · rintro ⟨_, stored, on, _⟩
      exact ⟨stored, on⟩
    · rintro ⟨stored, on⟩
      exact ⟨_, stored, on, rfl⟩
  asStored id rule stored running found := by
    obtain ⟨⟨conditionTypes, runs⟩, _⟩ := all id
    rw [runs, Option.map_eq_some_iff] at running
    obtain ⟨row, on, rfl⟩ := running
    obtain rfl : row = stored := by
      have same := (enabledRule_eq_some.mp on).1
      rw [found] at same
      exact (Option.some.inj same).symm
    exact ⟨rfl, rfl, rfl, compiledCode_liveRule conditionTypes row⟩
  timers id expression := by
    rw [(all id).timer, Option.bind_eq_some_iff]
    simp only [enabledRule_eq_some, timerOf_eq_some]
    constructor
    · rintro ⟨stored, ⟨found, enabled⟩, due⟩
      exact ⟨stored, found, enabled, due⟩
    · rintro ⟨stored, found, enabled, due⟩
      exact ⟨stored, ⟨found, enabled⟩, due⟩

/-- **The engine runs the stored rules.**  From any database, through any requests
interleaved at the compiler, changes of the condition types and restarts, the registered
rules are the enabled rows, as those rows say, and the cron timers are those of the
enabled cron rules with a valid expression. -/
theorem rules_agree (driver : Driver) (env : Env) (db : Database) (conditionTypes : List String)
    (occurrences : List Occurrence) :
    Agree env
      (run (live driver env) (boot env.isValidCron conditionTypes db) occurrences).server := by
  have running : Running env
      (run (live driver env) (boot env.isValidCron conditionTypes db) occurrences) :=
    run_invariant (fun _ occurrence holds => holds.live driver occurrence)
      (boot_running conditionTypes db) occurrences
  exact running.all.agree

/-- A rule that is switched off while its new project compiles stays off. -/
example :
    let world := run (live plainDriver plainEnv)
      (boot plainEnv.isValidCron [] { Database.empty with
        automationRules := OrderedMap.empty.set "lamp"
          { lampRule with triggerType := some "cron", cronExpression := some "* * * * *" } })
      [.served race[0],
        .served (.request (.toggleAutomation ⟨some admin, "lamp", none⟩ (some false))),
        .served race[2]]
    (world.server.db.revisionOf (.automation "lamp"), world.server.registry.rules.size,
      world.server.registry.timers.size) = (some 4, 0, 0) := by
  decide +kernel

end Aeolus.Api
