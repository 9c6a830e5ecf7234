/-
# Aeolus.Demo.DemoRoutes — the two handlers that a demo session may write through

`POST /:id/fire` and `PUT /:id/state` of `src/api/routes/automation.routes.ts`, and the way
to them.  Express matches the path as it is spelled and then decodes the parameter, so a
handler acts on `decodeURIComponent` of the segment that the guard took the rule id from.

`putState_ok` and `fireAutomation_ok` say what a request that a handler answered did: it
wrote a key that its body names, or fired an event that its body names, on the decoded
rule.
-/
import Aeolus.Core.UriComponent
import Aeolus.Demo.DemoValidators

namespace Aeolus.Demo

open Aeolus.Core Aeolus.Db Aeolus.Theory
open Aeolus.Api (User Role)

/-! ## Express -/

inductive Route where
  | fire
  | state
  deriving DecidableEq

def Route.method : Route → String
  | .fire => "POST"
  | .state => "PUT"

/-- The last segment of the route. -/
def Route.action : Route → String
  | .fire => "fire"
  | .state => "state"

/-- `POST /trigger/:name` is registered before `POST /:id/fire`, and Express does not
distinguish case. -/
def Shadowed (segment : String) : Prop := toUpperCase segment = "TRIGGER"

instance : DecidablePred Shadowed := fun segment =>
  inferInstanceAs (Decidable (toUpperCase segment = "TRIGGER"))

/-- The path of a route with this segment. -/
def Route.path (route : Route) (segment : String) : String :=
  joinPath ["api", "automations", segment, route.action]

/-- Which of the two routes a method and a path reach, with the segment of `:id` as it is
spelled. -/
structure Express where
  resolves : String → String → Option (Route × String)

/-- What Express documents about its routing. -/
structure Express.Documented (express : Express) : Prop where
  /-- A route answers its own method, and its parameter is the text of one segment. -/
  matched {method path : String} {route : Route} {segment : String}
    (resolved : express.resolves method path = some (route, segment)) :
    toUpperCase method = route.method ∧
      ∃ mount area action, splitPath path = [mount, area, segment, action]
  /-- Routes are tried in the order of their registration. -/
  ordered {method path segment : String}
    (resolved : express.resolves method path = some (.fire, segment)) : ¬Shadowed segment
  /-- A route is reached at its path. -/
  reached {route : Route} {segment : String} (nonempty : segment ≠ "")
    (slashless : '/' ∉ segment.toList) (pathname : '?' ∉ segment.toList)
    (unshadowed : route = .fire → ¬Shadowed segment) :
    express.resolves route.method (route.path segment) = some (route, segment)

/-! ## Handlers -/

/-- The context that a rule is fired with. -/
structure Firing where
  /-- the UI event that the request names -/
  eventName : Option String
  topic : String
  deviceId : String
  state : Json

/-- What a request does. -/
structure Effects where
  /-- the entry that changed in the state store -/
  written : Option (String × Json)
  /-- the context handed to `engine.fire` -/
  firing : Option Firing

/-- `requireAutomationPermission("interact")` -/
def requireInteract (req : Request) (id : String) (server : Server) : Except Failure Unit :=
  match req.user with
  | none => .error .UnauthorizedError
  | some user =>
      if user.role = .admin then .ok ()
      else if id = "" then .error (.NotFoundError "automation not found")
      else if (server.automationRules id).isNone then
        .error (.NotFoundError s!"automation not found: {id}")
      else if server.mayInteract user.userId id then .ok ()
      else .error .ForbiddenError

def requireAutomation (req : Request) (id : String) : Handler Failure Server Unit :=
  fun server => (requireInteract req id server, server)

/-- The topic of a rule that the engine runs. -/
def requireRegistered (id : String) (server : Server) : Except Failure String :=
  match server.registered id with
  | some topic => .ok topic
  | none => .error (.NotFoundError s!"Automation rule {id} not found or not enabled")

def getRule (id : String) : Handler Failure Server String :=
  fun server => (requireRegistered id server, server)

/-- `AUTOMATION_STATE_KEY_MAX_LENGTH` -/
def automationStateKeyMaxLength : Nat := 200

/-- The longest `id` of `automationIdParamsSchema`. -/
def automationIdMaxLength : Nat := 100

/-- `automationStateBodySchema` -/
def automationStateBody (body : Option Json) : Except Failure (String × Option Json) :=
  match body with
  | some (.obj fields) =>
      match (Json.obj fields).property "key" with
      | some (.str key) =>
          if 1 ≤ utf16Length key ∧ utf16Length key ≤ automationStateKeyMaxLength then
            .ok (key, (Json.obj fields).property "value")
          else .error .zod
      | _ => .error .zod
  | _ => .error .zod

/-- `automationIdParamsSchema` -/
def automationIdParams (id : String) : Except Failure Unit :=
  if 1 ≤ utf16Length id ∧ utf16Length id ≤ automationIdMaxLength then .ok () else .error .zod

/-- The key of `stateSet`, as the fire route checks it. -/
def stateSetKey (stateSet : Json) : Except Failure String :=
  match stateSet.property "key" with
  | some (.str key) =>
      if trim key = "" then
        .error (.BadRequestError "stateSet.key is required and must be a string")
      else if utf16Length key > automationStateKeyMaxLength then
        .error (.BadRequestError
          s!"stateSet.key exceeds the {automationStateKeyMaxLength}-character limit")
      else .ok key
  | _ => .error (.BadRequestError "stateSet.key is required and must be a string")

def stateSetValue (stateSet : Json) : Except Failure Json :=
  match stateSet.property "value" with
  | some value => .ok value
  | none => .error (.BadRequestError "stateSet.value is required")

/-- `value && typeof value === "object"` -/
def asObject : Option Json → Option Json
  | some (.obj fields) => some (.obj fields)
  | some (.arr items) => some (.arr items)
  | _ => none

def Request.byAdmin (req : Request) : Bool := req.user.any fun user => user.role = .admin

/-- The context of a request with `stateSet`: the server's own event. -/
def stateSetFiring (id key : String) (value : Json) : Firing where
  eventName := none
  topic := s!"ui/{id}/state-set"
  deviceId := s!"ui-{id}"
  state := .obj [("key", .str key), ("value", value)]

/-- The context of a request without `stateSet`: a named event, or what only an
administrator may send. -/
def firingOf (req : Request) (id topic : String) (body : Json) : Except Failure Firing :=
  let eventName := (((body.property "eventName").bind Json.asString).map trim).getD ""
  if eventName ≠ "" then
    .ok
      { eventName := some eventName
        topic := s!"ui/{id}/{eventName}"
        deviceId := s!"ui-{id}"
        state := .obj (body.spread.delete "eventName").entries }
  else
    match asObject (body.property "context") with
    | some context =>
        if !req.byAdmin then
          .error (forbidden "Arbitrary automation fire context requires admin access")
        else
          match ((context.property "topic").bind Json.asString).filter (trim · ≠ "") with
          | none => .error (.BadRequestError
              "context.topic is required for an admin context override")
          | some topic =>
              .ok
                { eventName := none
                  topic
                  deviceId := s!"ui-{id}"
                  state := orEmptyObject (context.property "state") }
    | none =>
        if !req.byAdmin then
          .error (forbidden
            "Manual automation fire without a named UI event requires admin access")
        else .ok { eventName := none, topic, deviceId := "manual-fire", state := body }

/-- The server with these entries as the state of a rule. -/
def Server.put (server : Server) (id : String) (entries : RuleState) : Server :=
  { server with stateStore := server.stateStore.set id entries }

theorem Server.getAll_put (server : Server) (id : String) (entries : RuleState) :
    (server.put id entries).getAll id = entries := by
  simp [Server.getAll, Server.put]

section Handlers

-- `stringify` is `JSON.stringify`
variable (stringify : Json → String)

/-- `stateStore.set(id, key, value)`: what changed, if anything.  `undefined` has no
representation in JSON and is not written. -/
def setState (id key : String) (value : Option Json) :
    Handler Failure Server (Option (String × Json)) := fun server =>
  match value with
  | none => (.ok none, server)
  | some value =>
      let before := server.getAll id
      let serialized := stringify value
      if (before.get key).map StateEntry.serialized = some serialized then (.ok none, server)
      else
        (.ok (some (key, value)), server.put id (before.set key ⟨value, serialized⟩))

/-- `PUT /:id/state` -/
def putState (req : Request) (id : String) : Handler Failure Server Effects := do
  requireAutomation req id
  let (key, value) ← Handler.check (automationStateBody req.body)
  Handler.check (automationIdParams id)
  let written ← setState stringify id key value
  pure { written, firing := none }

/-- The atomic persist-and-fire of a request with `stateSet`. -/
def saveAndFire (id : String) (stateSet : Json) : Handler Failure Server Effects := do
  let key ← Handler.check (stateSetKey stateSet)
  let value ← Handler.check (stateSetValue stateSet)
  let written ← setState stringify id key (some value)
  pure { written, firing := some (stateSetFiring id key value) }

/-- The context is built from the body, and the rule fired with it. -/
def fireWith (req : Request) (id topic : String) (body : Json) :
    Handler Failure Server Effects :=
  match asObject (body.property "stateSet") with
  | some stateSet => saveAndFire stringify id stateSet
  | none => do
      let firing ← Handler.check (firingOf req id topic body)
      pure { written := none, firing := some firing }

/-- `POST /:id/fire` -/
def fireAutomation (req : Request) (id : String) : Handler Failure Server Effects := do
  requireAutomation req id
  let topic ← getRule id
  fireWith stringify req id topic (orEmptyObject req.body)

def Route.handle (route : Route) (req : Request) (id : String) :
    Handler Failure Server Effects :=
  match route with
  | .fire => fireAutomation stringify req id
  | .state => putState stringify req id

/-- A request that reached a route with this segment.  A parameter that does not decode is a
bad request. -/
def Route.serve (route : Route) (segment : String) (req : Request) :
    Handler Failure Server Effects :=
  match decodeURIComponent segment with
  | none => throw (.BadRequestError s!"Failed to decode param '{segment}'")
  | some id => route.handle stringify req id

end Handlers

/-! ## What a request did -/

/-- A write of one key of a rule, or of nothing. -/
structure Wrote (server after : Server) (id key : String) (written : Option (String × Json)) :
    Prop where
  named : ∀ entry, written = some entry → entry.1 = key
  kept : (server.getAll id).has key = true → (after.getAll id).size = (server.getAll id).size
  grew : (after.getAll id).size ≤ (server.getAll id).size + 1

theorem Wrote.nothing (server : Server) (id key : String) : Wrote server server id key none where
  named _ impossible := nomatch impossible
  kept _ := rfl
  grew := Nat.le_succ _

theorem setState_ok {stringify : Json → String} {server after : Server} {id key : String}
    {value : Option Json} {written : Option (String × Json)}
    (answered : setState stringify id key value server = (.ok written, after)) :
    Wrote server after id key written := by
  unfold setState at answered
  cases value with
  | none =>
      cases answered
      exact .nothing server id key
  | some value =>
      dsimp only at answered
      split at answered
      · cases answered
        exact .nothing server id key
      · cases answered
        have here := server.getAll_put id ((server.getAll id).set key ⟨value, stringify value⟩)
        refine ⟨?_, ?_, ?_⟩
        · intro entry same
          cases same
          rfl
        · intro present
          rw [here]
          exact OrderedMap.size_set_of_has present
        · rw [here]
          exact OrderedMap.size_set_le _ _ _

theorem requireAutomation_ok {req : Request} {id : String} {server after : Server}
    (passed : requireAutomation req id server = (.ok (), after)) :
    requireInteract req id server = .ok () ∧ after = server := by
  unfold requireAutomation at passed
  cases allowed : requireInteract req id server with
  | error e => simp [allowed] at passed
  | ok _ =>
      rw [allowed, Prod.mk.injEq] at passed
      exact ⟨rfl, passed.2.symm⟩

theorem automationStateBody_ok {body : Option Json} {key : String} {value : Option Json} :
    automationStateBody body = .ok (key, value) ↔
      ∃ fields, body = some (.obj fields) ∧ (Json.obj fields).property "key" = some (.str key) ∧
        (Json.obj fields).property "value" = value ∧
        1 ≤ utf16Length key ∧ utf16Length key ≤ automationStateKeyMaxLength := by
  unfold automationStateBody
  constructor
  · intro parsed
    split at parsed
    · rename_i fields
      split at parsed
      · rename_i given
        split at parsed
        · rename_i bounds
          cases parsed
          exact ⟨fields, rfl, given, rfl, bounds⟩
        · cases parsed
      · cases parsed
    · cases parsed
  · rintro ⟨fields, rfl, given, rfl, bounds⟩
    simp [given, bounds]

theorem stateSetKey_ok {stateSet : Json} {key : String} :
    stateSetKey stateSet = .ok key ↔
      stateSet.property "key" = some (.str key) ∧ trim key ≠ "" ∧
        utf16Length key ≤ automationStateKeyMaxLength := by
  unfold stateSetKey
  constructor
  · intro checked
    split at checked
    · rename_i given
      split at checked
      · cases checked
      · rename_i nonblank
        split at checked
        · cases checked
        · rename_i short
          cases checked
          exact ⟨given, nonblank, Nat.not_lt.mp short⟩
    · cases checked
  · rintro ⟨given, nonblank, short⟩
    have bound : ¬utf16Length key > automationStateKeyMaxLength := Nat.not_lt.mpr short
    simp [given, nonblank, bound]

theorem putState_ok {stringify : Json → String} {req : Request} {id : String}
    {server after : Server} {effects : Effects}
    (answered : putState stringify req id server = (.ok effects, after)) :
    ∃ key, (orEmptyObject req.body).property "key" = some (.str key) ∧
      utf16Length id ≤ automationIdMaxLength ∧ effects.firing = none ∧
      Wrote server after id key effects.written := by
  obtain ⟨_, between, allowed, rest⟩ := Handler.bind_ok answered
  obtain ⟨-, rfl⟩ := requireAutomation_ok allowed
  obtain ⟨⟨key, value⟩, parsed, rest⟩ := Handler.check_ok rest
  obtain ⟨_, bounded, rest⟩ := Handler.check_ok rest
  obtain ⟨written, stored, set, rest⟩ := Handler.bind_ok rest
  cases rest
  obtain ⟨fields, body, given, -⟩ := automationStateBody_ok.mp parsed
  refine ⟨key, by rw [body]; exact given, ?_, rfl, setState_ok set⟩
  unfold automationIdParams at bounded
  split at bounded
  · rename_i fits
    exact fits.2
  · cases bounded

/-- A request without `stateSet` fires what its body names, if it names an event. -/
theorem firingOf_ok {req : Request} {id topic : String} {body : Json} {firing : Firing}
    (chosen : firingOf req id topic body = .ok firing) {name : String}
    (named : firing.eventName = some name) :
    ∃ given, body.property "eventName" = some (.str given) ∧ trim given = name ∧ name ≠ "" := by
  unfold firingOf at chosen
  dsimp only at chosen
  split at chosen
  · rename_i nonempty
    cases chosen
    cases named
    cases given : body.property "eventName" with
    | none => simp [given] at nonempty
    | some value =>
        cases value with
        | str text =>
            refine ⟨text, rfl, ?_, ?_⟩
            · simp [Json.asString]
            · simpa [given, Json.asString] using nonempty
        | _ => simp [given, Json.asString] at nonempty
  · -- what only an administrator may send names no event
    split at chosen
    · split at chosen
      · cases chosen
      · split at chosen
        · cases chosen
        · cases chosen
          cases named
    · split at chosen
      · cases chosen
      · cases chosen
        cases named

/-- What a fire request did: it wrote a key and fired the server's own event, or it fired
what its body says. -/
inductive Fired (req : Request) (id : String) (server after : Server) (effects : Effects) :
    Prop where
  | stateSet {stateSet : Json} {key : String}
      (given : asObject ((orEmptyObject req.body).property "stateSet") = some stateSet)
      (keyed : stateSet.property "key" = some (.str key)) (nonblank : trim key ≠ "")
      (wrote : Wrote server after id key effects.written)
      (unnamed : ∀ firing, effects.firing = some firing → firing.eventName = none)
  | event {topic : String} {firing : Firing}
      (plain : asObject ((orEmptyObject req.body).property "stateSet") = none)
      (chosen : firingOf req id topic (orEmptyObject req.body) = .ok firing)
      (fired : effects = { written := none, firing := some firing }) (same : after = server)

theorem fireAutomation_ok {stringify : Json → String} {req : Request} {id : String}
    {server after : Server} {effects : Effects}
    (answered : fireAutomation stringify req id server = (.ok effects, after)) :
    Fired req id server after effects := by
  obtain ⟨_, between, allowed, rest⟩ := Handler.bind_ok answered
  obtain ⟨-, rfl⟩ := requireAutomation_ok allowed
  obtain ⟨topic, _, looked, rest⟩ := Handler.bind_ok rest
  obtain rfl : between = _ := congrArg Prod.snd looked
  unfold fireWith at rest
  cases given : asObject ((orEmptyObject req.body).property "stateSet") with
  | some stateSet =>
      rw [given] at rest
      obtain ⟨key, checked, rest⟩ := Handler.check_ok rest
      obtain ⟨value, -, rest⟩ := Handler.check_ok rest
      obtain ⟨written, stored, set, rest⟩ := Handler.bind_ok rest
      cases rest
      obtain ⟨keyed, nonblank, -⟩ := stateSetKey_ok.mp checked
      refine .stateSet given keyed nonblank (setState_ok set) ?_
      intro firing same
      cases same
      rfl
  | none =>
      rw [given] at rest
      obtain ⟨firing, chosen, rest⟩ := Handler.check_ok rest
      cases rest
      exact .event given chosen rfl rfl

end Aeolus.Demo
