/-
# Aeolus.Automations.SetStateAndFire — a fire that sets a key first

`POST /:id/fire` with `stateSet` (`src/api/routes/automation.routes.ts`) writes the key, and
then hands the gate a request whose dedup key is the same for every `stateSet` of the rule
(`AutomationEngine.fire`, `ExecutionGate.submit`).  The route is called atomic, but a write
stays when the gate suppresses or drops the request.

A request is all or nothing exactly when the gate takes it, or what it writes is there already
(`set_and_fire_iff`).
-/
import Aeolus.Automations.ManualFire
import Aeolus.Core.JsonText
import Aeolus.Demo.DemoRoutes

namespace Aeolus.Automations

open Aeolus.Core Aeolus.Db Aeolus.Theory
open Aeolus.Demo (Request Server Firing Effects)
open ExecutionGate

/-! ## The route -/

structure FireServer where
  server : Server
  runtime : FireRuntime := {}

inductive FireServerEvent where
  /-- `POST /:id/fire` -/
  | post (req : Request) (id : String) (around : Surroundings)
  /-- anything else that happens to the engine, and the ends of executions -/
  | runtime (event : FireEvent)
  /-- anything else that happens to rules, permissions and state -/
  | server (server : Server)

namespace FireServer

variable (cfg : FireConfig) (stringify : Json → String) (s : FireServer)

/-- What the route sees: a rule is registered when the engine has it. -/
def view : Server :=
  { s.server with
    registered := fun id => (s.runtime.engine.registry.rules.get id).map Rule.topic }

def contextOf (firing : Firing) (now : Nat) : EventContext :=
  { topic := firing.topic
    deviceId := firing.deviceId
    state := firing.state.spread
    timestamp := now }

/-- The handler up to `engine.fire`, and what that answers. -/
def post (req : Request) (id : String) (around : Surroundings) :
    Except Failure (Option FireAnswer) × FireServer :=
  match Demo.fireAutomation stringify req id s.view with
  | (.error failure, server) => (.error failure, { s with server })
  | (.ok effects, server) =>
      match effects.firing with
      | none => (.ok none, { s with server })
      | some firing =>
          let fired := s.runtime.fire cfg around id (contextOf firing (around.now id))
          (.ok (some fired.1), { server, runtime := fired.2 })

def step : FireServerEvent → FireServer
  | .post req id around => (s.post cfg stringify req id around).2
  | .runtime event => { s with runtime := s.runtime.step cfg event }
  | .server server => { s with server }

/-! ## The statement -/

/-- The text that is stored for a key of a rule. -/
def storedText (server : Server) (id key : String) : Option String :=
  ((server.getAll id).get key).map Demo.StateEntry.serialized

/-- The key and the value of a request. -/
def Carries (req : Request) (key : String) (value : Json) : Prop :=
  ∃ stateSet, Demo.asObject ((orEmptyObject req.body).property "stateSet") = some stateSet ∧
    stateSet.property "key" = some (.str key) ∧ stateSet.property "value" = some value

/-- Execution `i` is one of the rule with this key and value, and has started or is queued. -/
structure Underway (i : Nat) (id key : String) (value : Json) : Prop where
  execution : ∃ x, s.runtime.engine.executions[i]? = some x ∧ x.ruleId = id ∧
    x.context.state = .ofFields [("key", .str key), ("value", value)]
  waits : i ∈ s.runtime.engine.started ∨
    ∃ entry ∈ s.runtime.engine.queueOf id, entry.request.execute = i

/-- A promised request has its key and value stored and its execution underway; after any other
the state of the rule is what it was. -/
structure SavesAndFires (req : Request) (id : String) (around : Surroundings) (key : String)
    (value : Json) : Prop where
  taken : ∀ i, (s.post cfg stringify req id around).1 = .ok (some (.promise i)) →
    storedText (s.post cfg stringify req id around).2.server id key = some (stringify value) ∧
      (s.post cfg stringify req id around).2.Underway i id key value
  spared : (∀ i, (s.post cfg stringify req id around).1 ≠ .ok (some (.promise i))) →
    (s.post cfg stringify req id around).2.server.getAll id = s.server.getAll id

def AllOrNothing : FireServerEvent → Prop
  | .post req id around => ∀ key value, Carries req key value →
      SavesAndFires cfg stringify s req id around key value
  | _ => True

/-! ## The condition -/

/-- The request of every `stateSet` of a rule. -/
def stateSetRequest (id : String) : ExecutionRequest where
  ruleId := id
  deviceId := s!"ui-{id}"
  topic := s!"ui/{id}/state-set"
  execute := 0

/-- The gate takes a request: it has none with the same dedup key, and a slot or a place in the
queue of the rule. -/
structure Takes (gate : Gate) (request : ExecutionRequest) : Prop where
  fresh : request.dedupKey ∉ gate.dedupKeys
  room : gate.activeSet.size < cfg.engine.gate.maxActive ∨
    (gate.queueOf request.ruleId).length < cfg.engine.gate.maxQueuePerRule

/-- The request passes its checks, and comes to write. -/
structure Passes (req : Request) (id key : String) : Prop where
  permitted : Demo.requireInteract req id s.view = .ok ()
  registered : (s.runtime.engine.registry.rules.get id).isSome
  nonblank : trim key ≠ ""
  short : utf16Length key ≤ Demo.automationStateKeyMaxLength

/-- The gate takes the request, or there is nothing to write. -/
def Admitted : FireServerEvent → Prop
  | .post req id _ => ∀ key value, Carries req key value → s.Passes req id key →
      Takes cfg s.runtime.engine.history.gate (stateSetRequest id) ∨
        storedText s.server id key = some (stringify value)
  | _ => True

/-! ## The gate -/

section Gate

variable {cfg} {rt : FireRuntime} {around : Surroundings} {id : String} {context : EventContext}
  {rule : Rule}

/-- The request of a context from a `stateSet`. -/
structure IsStateSet (id : String) (context : EventContext) : Prop where
  deviceId : context.deviceId = s!"ui-{id}"
  topic : context.topic = s!"ui/{id}/state-set"

theorem engine_fire (found : rt.engine.registry.rules.get id = some rule)
    (same : IsStateSet id context) :
    rt.engine.fire cfg.engine around id context =
      .ok (rt.engine.submit cfg.engine ⟨id, rule, context⟩ (stateSetRequest id)
        (around.now id)) := by
  unfold AutomationEngine.fire stateSetRequest
  rw [found, same.deviceId, same.topic]

/-- What the gate decides of a request without a coalescing key. -/
theorem submitted_discrete {gate after : Gate} {request : ExecutionRequest} {now : Nat}
    {result : AdmitResult} (discrete : request.coalesces = false)
    (submitted : Gate.Submitted cfg.engine.gate gate request now result after) :
    Takes cfg gate request ∧ ((∃ handle, result = .admitted handle) ∨ result = .queued) ∧
        (request.execute ∈ after.started ∨
          ∃ entry ∈ after.queueOf request.ruleId, entry.request.execute = request.execute) ∨
      ¬Takes cfg gate request ∧ (result = .suppressed ∨ result = .dropped) := by
  cases submitted with
  | coalesced keyed => exact absurd keyed (by simp [discrete])
  | suppressed _ duplicate => exact .inr ⟨fun takes => takes.fresh duplicate, .inl rfl⟩
  | admitted _ new free =>
      refine .inl ⟨⟨new discrete, .inl free⟩, .inl ⟨_, rfl⟩, .inl ?_⟩
      exact List.mem_append_right _ (List.mem_singleton.mpr rfl)
  | queued _ new _ room =>
      refine .inl ⟨⟨new discrete, .inr room⟩, .inr rfl, .inr ?_⟩
      rw [Gate.queueOf_push, if_pos rfl]
      exact ⟨_, List.mem_append_right _ (List.mem_singleton.mpr rfl), rfl⟩
  | dropped _ _ busy full =>
      refine .inr ⟨fun takes => ?_, .inr rfl⟩
      obtain active | ⟨keyed, -⟩ := busy
      · exact takes.room.elim (Nat.not_lt.mpr active) (Nat.not_lt.mpr full)
      · exact absurd keyed (by simp [discrete])

/-- A request that the gate takes is promised, and waits for its end. -/
theorem fire_promise (found : rt.engine.registry.rules.get id = some rule)
    (same : IsStateSet id context) (coherent : AutomationEngine.Coherent cfg.engine rt.engine)
    (takes : Takes cfg rt.engine.history.gate (stateSetRequest id)) :
    (rt.fire cfg around id context).1 = .promise rt.engine.history.calls.length ∧
      (rt.fire cfg around id context).2.engine.executions[rt.engine.history.calls.length]? =
        some ⟨id, rule, context⟩ ∧
      (rt.engine.history.calls.length ∈ (rt.fire cfg around id context).2.engine.started ∨
        ∃ entry ∈ (rt.fire cfg around id context).2.engine.queueOf id,
          entry.request.execute = rt.engine.history.calls.length) := by
  obtain ⟨result, slot, decided, calls⟩ := AutomationEngine.submitted cfg.engine rt.engine
    ⟨id, rule, context⟩ (stateSetRequest id) (around.now id)
  have length : rt.engine.executions.length = rt.engine.history.calls.length := by
    simpa using congrArg List.length coherent.numbered
  obtain ⟨-, accepted, waits⟩ | ⟨refused, -⟩ := submitted_discrete rfl decided
  · have answer : rt.fire cfg around id context = (.promise rt.engine.history.calls.length,
        { rt with
          engine := rt.engine.submit cfg.engine ⟨id, rule, context⟩ (stateSetRequest id)
            (around.now id)
          promises := rt.promises ++ [rt.engine.history.calls.length] }) := by
      unfold FireRuntime.fire
      rw [engine_fire found same]
      dsimp only
      rw [calls, List.getElem?_concat_length]
      obtain ⟨handle, rfl⟩ | rfl := accepted <;> rfl
    rw [answer]
    refine ⟨rfl, ?_, waits⟩
    show (rt.engine.executions ++ [_])[_]? = _
    rw [← length, List.getElem?_concat_length]
  · exact absurd ⟨takes.fresh, takes.room⟩ refused

/-- Any other is not. -/
theorem fire_failed (found : rt.engine.registry.rules.get id = some rule)
    (same : IsStateSet id context)
    (full : ¬Takes cfg rt.engine.history.gate (stateSetRequest id)) (i : Nat) :
    (rt.fire cfg around id context).1 ≠ .promise i := by
  obtain ⟨result, slot, decided, calls⟩ := AutomationEngine.submitted cfg.engine rt.engine
    ⟨id, rule, context⟩ (stateSetRequest id) (around.now id)
  obtain ⟨takes, -⟩ | ⟨-, refused⟩ := submitted_discrete rfl decided
  · exact absurd ⟨takes.fresh, takes.room⟩ full
  · unfold FireRuntime.fire
    rw [engine_fire found same]
    dsimp only
    rw [calls, List.getElem?_concat_length]
    obtain rfl | rfl := refused <;> exact nofun

end Gate

/-! ## The handler -/

section Handler

variable {s} {stringify} {req : Request} {id key : String} {value : Json}

theorem requireAutomation_view : Demo.requireAutomation req id s.view =
    (Demo.requireInteract req id s.view, s.view) := rfl

theorem getRule_view {rule : Rule}
    (found : s.runtime.engine.registry.rules.get id = some rule) :
    Demo.getRule id s.view = (.ok rule.topic, s.view) := by
  have registered : s.view.registered id = some rule.topic := by simp [view, found]
  unfold Demo.getRule Demo.requireRegistered
  rw [registered]

/-- A permitted request for a registered rule, with `stateSet`, is one of `saveAndFire`. -/
theorem fireAutomation_stateSet {stateSet : Json}
    (permitted : Demo.requireInteract req id s.view = .ok ())
    (registered : (s.runtime.engine.registry.rules.get id).isSome)
    (given : Demo.asObject ((orEmptyObject req.body).property "stateSet") = some stateSet) :
    Demo.fireAutomation stringify req id s.view =
      Demo.saveAndFire stringify id stateSet s.view := by
  obtain ⟨rule, found⟩ := Option.isSome_iff_exists.mp registered
  unfold Demo.fireAutomation
  rw [Handler.bind_of_ok (requireAutomation_view.trans (by rw [permitted])),
    Handler.bind_of_ok (getRule_view found), Demo.fireWith, given]

/-- A request that does not pass its checks changes nothing. -/
theorem fireAutomation_refused (carries : Carries req key value) (fails : ¬s.Passes req id key) :
    ∃ failure, Demo.fireAutomation stringify req id s.view = (.error failure, s.view) := by
  obtain ⟨stateSet, given, keyed, -⟩ := carries
  cases permitted : Demo.requireInteract req id s.view with
  | error failure =>
      exact ⟨failure, Handler.bind_of_error (requireAutomation_view.trans (by rw [permitted]))⟩
  | ok _ =>
      cases found : s.runtime.engine.registry.rules.get id with
      | none =>
          have missing : Demo.getRule id s.view =
              (.error (.NotFoundError s!"Automation rule {id} not found or not enabled"),
                s.view) := by
            have unregistered : s.view.registered id = none := by simp [view, found]
            unfold Demo.getRule Demo.requireRegistered
            rw [unregistered]
          unfold Demo.fireAutomation
          rw [Handler.bind_of_ok (requireAutomation_view.trans (by rw [permitted])),
            Handler.bind_of_error missing]
          exact ⟨_, rfl⟩
      | some rule =>
          have registered := Option.isSome_of_mem found
          rw [fireAutomation_stateSet permitted registered given]
          cases checked : Demo.stateSetKey stateSet with
          | error failure =>
              unfold Demo.saveAndFire
              rw [checked]
              exact ⟨failure, rfl⟩
          | ok key' =>
              obtain ⟨same, nonblank, short⟩ := Demo.stateSetKey_ok.mp checked
              obtain rfl : key = key' := by simpa [keyed] using same
              exact absurd ⟨permitted, registered, nonblank, short⟩ fails

theorem fireAutomation_saves (carries : Carries req key value) (passes : s.Passes req id key) :
    ∃ written, Demo.fireAutomation stringify req id s.view =
        (.ok ⟨written, some (Demo.stateSetFiring id key value)⟩,
          (Demo.setState stringify id key (some value) s.view).2) := by
  obtain ⟨stateSet, given, keyed, valued⟩ := carries
  have checked := Demo.stateSetKey_ok.mpr ⟨keyed, passes.nonblank, passes.short⟩
  have answered : ∃ written, Demo.setState stringify id key (some value) s.view =
      (.ok written, (Demo.setState stringify id key (some value) s.view).2) := by
    unfold Demo.setState
    dsimp only
    split <;> exact ⟨_, rfl⟩
  obtain ⟨written, answered⟩ := answered
  refine ⟨written, ?_⟩
  rw [fireAutomation_stateSet passes.permitted passes.registered given]
  unfold Demo.saveAndFire
  rw [checked, Demo.stateSetValue, valued]
  exact Handler.bind_of_ok answered

/-- Afterwards the text is stored, and nothing has changed when it was. -/
theorem setState_stores (server : Server) :
    storedText (Demo.setState stringify id key (some value) server).2 id key =
        some (stringify value) ∧
      ((Demo.setState stringify id key (some value) server).2.getAll id = server.getAll id ↔
        storedText server id key = some (stringify value)) := by
  unfold Demo.setState storedText
  dsimp only
  split
  · rename_i same
    exact ⟨same, iff_of_true rfl same⟩
  · rename_i differs
    have here : ((server.put id ((server.getAll id).set key ⟨value, stringify value⟩)).getAll id) =
        (server.getAll id).set key ⟨value, stringify value⟩ := server.getAll_put id _
    rw [here, OrderedMap.get_set_self]
    refine ⟨rfl, iff_of_false (fun unchanged => differs ?_) differs⟩
    rw [← unchanged, OrderedMap.get_set_self]
    rfl

end Handler

/-! ## Runs -/

variable {cfg stringify s}

/-- The condition is exact for one request. -/
theorem savesAndFires_iff {req : Request} {id key : String} {value : Json} (around : Surroundings)
    (coherent : AutomationEngine.Coherent cfg.engine s.runtime.engine)
    (carries : Carries req key value) :
    SavesAndFires cfg stringify s req id around key value ↔
      (s.Passes req id key → Takes cfg s.runtime.engine.history.gate (stateSetRequest id) ∨
        storedText s.server id key = some (stringify value)) := by
  by_cases passes : s.Passes req id key
  · obtain ⟨written, handled⟩ := @fireAutomation_saves stringify s req id key value carries passes
    obtain ⟨rule, found⟩ := Option.isSome_iff_exists.mp passes.registered
    have same : IsStateSet id
        (contextOf (Demo.stateSetFiring id key value) (around.now id)) := ⟨rfl, rfl⟩
    obtain ⟨stored, unchanged⟩ := @setState_stores stringify id key value s.view
    have posted : s.post cfg stringify req id around =
        (.ok (some (s.runtime.fire cfg around id
            (contextOf (Demo.stateSetFiring id key value) (around.now id))).1),
          { server := (Demo.setState stringify id key (some value) s.view).2
            runtime := (s.runtime.fire cfg around id
              (contextOf (Demo.stateSetFiring id key value) (around.now id))).2 }) := by
      unfold post
      rw [handled]
    by_cases takes : Takes cfg s.runtime.engine.history.gate (stateSetRequest id)
    · obtain ⟨promised, execution, waits⟩ :=
        @fire_promise cfg s.runtime around id _ rule found same coherent takes
      refine iff_of_true ⟨fun i answer => ?_, fun none => ?_⟩ fun _ => .inl takes
      · rw [posted, promised] at answer
        obtain rfl : s.runtime.engine.history.calls.length = i := by simpa using answer
        rw [posted]
        exact ⟨stored, ⟨⟨_, execution, rfl, rfl⟩, waits⟩⟩
      · exact absurd (by rw [posted, promised]) (none s.runtime.engine.history.calls.length)
    · have failed := @fire_failed cfg s.runtime around id _ rule found same takes
      have unpromised : ∀ i, (s.post cfg stringify req id around).1 ≠ .ok (some (.promise i)) := by
        intro i answer
        rw [posted] at answer
        exact failed i (by simpa using answer)
      constructor
      · intro saves _
        have spared := saves.spared unpromised
        rw [posted] at spared
        exact .inr (unchanged.mp spared)
      · intro admitted
        refine ⟨fun i answer => absurd answer (unpromised i), fun _ => ?_⟩
        rw [posted]
        exact unchanged.mpr ((admitted passes).resolve_left takes)
  · obtain ⟨failure, handled⟩ := @fireAutomation_refused stringify s req id key value carries passes
    have posted : s.post cfg stringify req id around =
        (.error failure, { s with server := s.view }) := by
      unfold post
      rw [handled]
    refine iff_of_true ⟨fun i answer => ?_, fun _ => ?_⟩ fun here => absurd here passes
    · rw [posted] at answer
      cases answer
    · rw [posted]
      rfl

theorem allOrNothing_iff (event : FireServerEvent)
    (coherent : AutomationEngine.Coherent cfg.engine s.runtime.engine) :
    AllOrNothing cfg stringify s event ↔ Admitted cfg stringify s event := by
  cases event with
  | post req id around =>
      exact forall_congr' fun key => forall_congr' fun value => forall_congr' fun carries =>
        savesAndFires_iff around coherent carries
  | runtime event => exact Iff.rfl
  | server server => exact Iff.rfl

/-- The runtime moves by its own events only. -/
theorem runtime_step (event : FireServerEvent) : (s.step cfg stringify event).runtime = s.runtime ∨
    ∃ event', (s.step cfg stringify event).runtime = s.runtime.step cfg event' := by
  cases event with
  | post req id around =>
      show (s.post cfg stringify req id around).2.runtime = s.runtime ∨
        ∃ event', (s.post cfg stringify req id around).2.runtime = s.runtime.step cfg event'
      unfold post
      rcases Demo.fireAutomation stringify req id s.view with ⟨failure | ⟨written, firing⟩, server⟩
      · exact .inl rfl
      · cases firing with
        | none => exact .inl rfl
        | some firing =>
            exact .inr ⟨.engine (.fire id (contextOf firing (around.now id)) around), rfl⟩
  | runtime event => exact .inr ⟨event, rfl⟩
  | server server => exact .inl rfl

theorem numbered_step (event : FireServerEvent) (numbered : FireRuntime.Numbered cfg s.runtime) :
    FireRuntime.Numbered cfg (s.step cfg stringify event).runtime := by
  obtain same | ⟨event', moved⟩ := @runtime_step cfg stringify s event
  · rwa [same]
  · rw [moved]
    exact FireRuntime.numbered_step s.runtime event' numbered

theorem numbered_start (cfg : FireConfig) : FireRuntime.Numbered cfg {} :=
  ⟨AutomationEngine.coherent_empty cfg.engine {} .empty, fun _ _ none => by cases none⟩

/-- **A request saves and fires, or does neither**, in exactly the runs where each `stateSet`
that comes to its write is taken by the gate or finds its text stored. -/
theorem set_and_fire_iff (cfg : FireConfig) (stringify : Json → String) (server : Server)
    (events : List FireServerEvent) :
    Along (step cfg stringify) (AllOrNothing cfg stringify) { server } events ↔
      Along (step cfg stringify) (Admitted cfg stringify) { server } events := by
  exact along_congr_of_invariant (fun s event => @numbered_step cfg stringify s event)
    (fun s event numbered => allOrNothing_iff event numbered.coherent) (numbered_start cfg) events

/-! ### Two values, one after the other -/

def lampConfig : FireConfig where
  engine :=
    { gate := {}
      isValidCron := fun _ => false
      coercion := ⟨fun _ => "", fun _ => none⟩ }

def lampText : Json → String := JsonText.stringify JsonText.wholeNumbers

def bareServer : Server where
  automationRules _ := none
  accessCache := .empty
  stateStore := .empty
  registered _ := none
  mayInteract _ _ := false

def setLamp (value : Bool) : Request where
  method := "POST"
  path := "/api/automations/lamp/fire"
  user := some ⟨"admin", .admin⟩
  publicDemo := false
  contentLength := none
  body := some (.obj [("stateSet", .obj [("key", .str "on"), ("value", .bool value)])])

/-- The second request comes while the execution of the first is running. -/
def quickLamp : List FireServerEvent :=
  [.runtime (.engine (.register "lamp" ⟨"lamp", "Lamp", none, .script "run()", "mqtt", none⟩)),
    .post (setLamp true) "lamp" { now := fun _ => 1 },
    .post (setLamp false) "lamp" { now := fun _ => 2 }]

/-- The second is suppressed, and its value stays. -/
theorem quickLamp_kept :
    ¬Along (step lampConfig lampText) (AllOrNothing lampConfig lampText) { server := bareServer }
      quickLamp := by
  rintro ⟨-, -, second, -⟩
  have carries : Carries (setLamp false) "on" (.bool false) := ⟨_, rfl, rfl, rfl⟩
  have numbered : FireRuntime.Numbered lampConfig
      (run (step lampConfig lampText) { server := bareServer } (quickLamp.take 2)).runtime :=
    @run_invariant _ _ (step lampConfig lampText)
      (fun s => FireRuntime.Numbered lampConfig s.runtime) (fun _ => numbered_step) _
      (numbered_start lampConfig) (quickLamp.take 2)
  obtain takes | stored := (savesAndFires_iff _ numbered.coherent carries).mp
    (second "on" (.bool false) carries) ⟨rfl, by decide +kernel, by decide, by decide⟩
  · exact takes.fresh (by decide +kernel)
  · exact absurd stored (by decide +kernel)

end FireServer

end Aeolus.Automations
