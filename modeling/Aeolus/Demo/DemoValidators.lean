/-
# Aeolus.Demo.DemoValidators — the guard before the two writes of a demo session

`publicDemoGuard` of `src/demo/public-demo-guard.ts` with the validators of
`src/demo/demo-validators.ts` and the reader of `src/demo/demo-rule-access.ts`.  A rule may
declare which state keys and which events a demo session may use.  The reader keeps what it
once read and is never told of a change, and the rule it is asked about is the one that the
guard took from the path.

Two iff lemmas say what a write (`within_bounds_iff`) and a named event (`event_allowed_iff`)
have to satisfy; the route validators only put them together.
-/
import Aeolus.Demo.DemoPolicy
import Aeolus.Api.RevisionPrecondition

namespace Aeolus.Demo

open Aeolus.Core Aeolus.Db Aeolus.Theory
open Aeolus.Api (User Role)

/-! ## What a rule declares -/

/-- `DemoRuleAccess`; a list that is absent does not restrict. -/
structure DemoRuleAccess where
  writableStateKeys : Option (List String)
  fireEvents : Option (List String)
  deriving DecidableEq

/-- The `demo_access` column of a rule: NULL or empty, no JSON, or what `JSON.parse` makes
of it. -/
inductive DemoAccessColumn where
  | absent
  | malformed
  | parsed (value : Json)

/-- The texts of an array. -/
def textsOf : Option Json → Option (List String)
  | some (.arr items) => some (items.filterMap Json.asString)
  | _ => none

/-- What the reader makes of the column; a property of `null` throws and counts as
malformed. -/
def DemoAccessColumn.access : DemoAccessColumn → Option DemoRuleAccess
  | .parsed .null => none
  | .parsed value =>
      some
        { writableStateKeys := textsOf (value.property "writableStateKeys")
          fireEvents := textsOf (value.property "fireEvents") }
  | _ => none

def admitsKey (access : Option DemoRuleAccess) (key : String) : Bool :=
  ((access.bind DemoRuleAccess.writableStateKeys).map (·.contains key)).getD true

def admitsEvent (access : Option DemoRuleAccess) (eventName : String) : Bool :=
  ((access.bind DemoRuleAccess.fireEvents).map (·.contains eventName)).getD true

/-! ## The server -/

/-- A value of the state store with the text it was persisted as. -/
structure StateEntry where
  value : Json
  serialized : String

abbrev RuleState := OrderedMap String StateEntry

/-- What the guard and the two handlers read and write. -/
structure Server where
  /-- the rows of `automation_rules` -/
  automationRules : String → Option DemoAccessColumn
  /-- the cache of `createDemoRuleAccessReader` -/
  accessCache : OrderedMap String (Option DemoRuleAccess)
  /-- `AutomationStateStore` -/
  stateStore : OrderedMap String RuleState
  /-- `engine.getRule(id)`, with its topic -/
  registered : String → Option String
  /-- `resolver.hasResourcePermission(userId, "automation", id, "interact")` -/
  mayInteract : String → String → Bool

/-- What the rule declares now. -/
def Server.declares (server : Server) (ruleId : String) : Option DemoRuleAccess :=
  (server.automationRules ruleId).bind DemoAccessColumn.access

/-- What the reader answers. -/
def Server.seen (server : Server) (ruleId : String) : Option DemoRuleAccess :=
  (server.accessCache.get ruleId).getD (server.declares ruleId)

def getDemoRuleAccess (ruleId : String) : Handler Failure Server (Option DemoRuleAccess) :=
  fun server =>
    match server.accessCache.get ruleId with
    | some cached => (.ok cached, server)
    | none =>
        let value := server.declares ruleId
        (.ok value, { server with accessCache := server.accessCache.set ruleId value })

/-- `stateStore.getAll(ruleId)` -/
def Server.getAll (server : Server) (ruleId : String) : RuleState :=
  (server.stateStore.get ruleId).getD .empty

/-- The reader fills its cache and nothing else. -/
theorem getDemoRuleAccess_apply (ruleId : String) (server : Server) :
    ∃ cache, getDemoRuleAccess ruleId server =
      (.ok (server.seen ruleId), { server with accessCache := cache }) := by
  unfold getDemoRuleAccess Server.seen
  cases server.accessCache.get ruleId with
  | some cached => exact ⟨server.accessCache, rfl⟩
  | none => exact ⟨_, rfl⟩

/-! ## Validators -/

def demoMaxKeyLength : Nat := 64

def demoMaxValueBytes : Nat := 8 * 1024

def demoMaxKeysPerRule : Nat := 100

def demoMaxBodyBytes : Nat := 16 * 1024

structure Request where
  method : String
  /-- `req.path`: the pathname, as it is spelled -/
  path : String
  user : Option User
  /-- `req.user?.sessionType === "public-demo"` -/
  publicDemo : Bool
  /-- the number in the Content-Length header -/
  contentLength : Option Nat
  /-- `req.body`: an object or an array, when there is one -/
  body : Option Json

def forbidden (message : String) : Failure := .app 403 message []

def assertBodyWithinDemoLimit (req : Request) : Except Failure Unit :=
  if req.contentLength.getD 0 > demoMaxBodyBytes then
    .error (.BadRequestError s!"Request body exceeds the {demoMaxBodyBytes}-byte demo limit")
  else .ok ()

def demoStateKey (key : Option Json) : Except Failure String :=
  match key.bind Json.asString with
  | none => .error (.BadRequestError "A non-empty string 'key' is required")
  | some key =>
      if key = "" then .error (.BadRequestError "A non-empty string 'key' is required")
      else if utf16Length key > demoMaxKeyLength then
        .error (.BadRequestError
          s!"State key exceeds the {demoMaxKeyLength}-character demo limit")
      else .ok key

section Validators

-- `stringify` is `JSON.stringify`
variable (stringify : Json → String)

def assertDemoValue (value : Option Json) : Except Failure Unit :=
  if (stringify (value.getD .null)).utf8ByteSize > demoMaxValueBytes then
    .error (.BadRequestError s!"State value exceeds the {demoMaxValueBytes}-byte demo limit")
  else .ok ()

def assertWritable (access : Option DemoRuleAccess) (key : String) : Except Failure Unit :=
  if admitsKey access key then .ok ()
  else .error (forbidden "This state key is not writable in the public demo")

/-- Only a new key is refused at the cap. -/
def assertRoom (existing : RuleState) (key : String) : Except Failure Unit :=
  if existing.has key = false ∧ existing.size ≥ demoMaxKeysPerRule then
    .error (.BadRequestError
      s!"This automation has reached the {demoMaxKeysPerRule}-key demo limit")
  else .ok ()

def assertDemoStateWriteWithinBounds (ruleId : String) (key value : Option Json) :
    Handler Failure Server Unit := do
  let key ← Handler.check (demoStateKey key)
  Handler.check (assertDemoValue stringify value)
  let access ← getDemoRuleAccess ruleId
  Handler.check (assertWritable access key)
  let existing ← Handler.asks fun server : Server => server.getAll ruleId
  Handler.check (assertRoom existing key)

/-- `makeDemoStateWriteValidator` -/
def validateDemoStateWrite (req : Request) (ruleId : String) : Handler Failure Server Unit := do
  Handler.check (assertBodyWithinDemoLimit req)
  let body := orEmptyObject req.body
  assertDemoStateWriteWithinBounds stringify ruleId (body.property "key") (body.property "value")

def assertNoContext (body : Json) : Except Failure Unit :=
  if (body.property "context").isSome then
    .error (forbidden "Custom automation context is not allowed in the public demo")
  else .ok ()

/-- The two fields of `stateSet`. -/
def demoStateSet (stateSet : Json) : Except Failure (Option Json × Json) :=
  match stateSet with
  | .obj _ =>
      match stateSet.property "value" with
      | some value => .ok (stateSet.property "key", value)
      | none => .error (.BadRequestError "'stateSet.value' is required")
  | _ => .error (.BadRequestError "'stateSet' must be an object with 'key' and 'value'")

def demoEventName (eventName : Option Json) : Except Failure String :=
  match (eventName.bind Json.asString).filter (· ≠ "") with
  | some eventName => .ok eventName
  | none => .error (.BadRequestError
      "A non-empty 'eventName' or a 'stateSet' object is required in the public demo")

def assertFireable (access : Option DemoRuleAccess) (eventName : String) : Except Failure Unit :=
  if admitsEvent access eventName then .ok ()
  else .error (forbidden "This event is not allowed in the public demo")

def assertDemoEvent (ruleId : String) (eventName : Option Json) :
    Handler Failure Server Unit := do
  let eventName ← Handler.check (demoEventName eventName)
  let access ← getDemoRuleAccess ruleId
  Handler.check (assertFireable access eventName)

/-- `makeDemoFireValidator` -/
def validateDemoFire (req : Request) (ruleId : String) : Handler Failure Server Unit := do
  Handler.check (assertBodyWithinDemoLimit req)
  let body := orEmptyObject req.body
  Handler.check (assertNoContext body)
  match body.property "stateSet" with
  | some stateSet =>
      let (key, value) ← Handler.check (demoStateSet stateSet)
      assertDemoStateWriteWithinBounds stringify ruleId key (some value)
  | none => assertDemoEvent ruleId (body.property "eventName")

def DemoValidator.validate (validator : DemoValidator) (req : Request) (ruleId : String) :
    Handler Failure Server Unit :=
  match validator with
  | .stateWrite => validateDemoStateWrite stringify req ruleId
  | .fire => validateDemoFire stringify req ruleId

/-- `createPublicDemoGuard`.  Both entries with a validator have the parameter `id`. -/
def publicDemoGuard (enabled : Bool) (req : Request) : Handler Failure Server Unit :=
  if !(enabled && req.publicDemo) then pure ()
  else
    match matchPolicy demoPolicy req.method req.path with
    | none => throw (forbidden "Unavailable in the public demo")
    | some (entry, params) =>
        match entry.validate, params.lookup "id" with
        | some validator, some ruleId => validator.validate stringify req ruleId
        | _, _ => pure ()

end Validators

/-! ## What passes -/

theorem demoStateKey_ok {key : Option Json} {k : String} :
    demoStateKey key = .ok k ↔
      key = some (.str k) ∧ k ≠ "" ∧ utf16Length k ≤ demoMaxKeyLength := by
  unfold demoStateKey
  constructor
  · intro checked
    split at checked
    · cases checked
    · rename_i given text
      split at checked
      · cases checked
      · rename_i nonempty
        split at checked
        · cases checked
        · rename_i short
          cases checked
          refine ⟨?_, nonempty, Nat.not_lt.mp short⟩
          cases key with
          | none => cases text
          | some value =>
              cases value <;> cases text
              rfl
  · rintro ⟨rfl, nonempty, short⟩
    have bound : ¬utf16Length k > demoMaxKeyLength := Nat.not_lt.mpr short
    simp [Json.asString, nonempty, bound]

theorem demoEventName_ok {eventName : Option Json} {name : String} :
    demoEventName eventName = .ok name ↔ eventName = some (.str name) ∧ name ≠ "" := by
  unfold demoEventName
  cases eventName with
  | none => simp
  | some value =>
      cases value with
      | str text =>
          by_cases empty : text = ""
          · simp only [Json.asString, Option.bind_some, Option.filter, empty]
            simp only [ne_eq, not_true, decide_false, Bool.false_eq_true, if_false, reduceCtorEq,
              false_iff, not_and, not_not, Option.some.injEq, Json.str.injEq]
            exact fun same => same.symm
          · simp only [Json.asString, Option.bind_some, Option.filter]
            simp only [ne_eq, empty, not_false_eq_true, decide_true, if_true, Except.ok.injEq,
              Option.some.injEq, Json.str.injEq]
            constructor
            · rintro rfl
              exact ⟨rfl, empty⟩
            · exact And.left
      | _ => simp [Json.asString]

theorem demoStateSet_ok {stateSet : Json} {key : Option Json} {value : Json} :
    demoStateSet stateSet = .ok (key, value) ↔
      (∃ fields, stateSet = .obj fields) ∧ stateSet.property "key" = key ∧
        stateSet.property "value" = some value := by
  unfold demoStateSet
  cases stateSet with
  | obj fields =>
      cases given : (Json.obj fields).property "value" with
      | none => simp
      | some found =>
          simp only [Except.ok.injEq, Prod.mk.injEq, Option.some.injEq, Json.obj.injEq,
            exists_eq', true_and]
  | _ => simp

theorem seen_bind {α : Type} (ruleId : String)
    (k : Option DemoRuleAccess → Handler Failure Server α) (server : Server) :
    ∃ cache, (getDemoRuleAccess ruleId >>= k) server =
      k (server.seen ruleId) { server with accessCache := cache } := by
  obtain ⟨cache, answered⟩ := getDemoRuleAccess_apply ruleId server
  exact ⟨cache, by rw [Handler.bind_apply, answered]⟩

/-- What a write has to satisfy. -/
structure WithinBounds (stringify : Json → String) (server : Server) (ruleId key : String)
    (value : Option Json) : Prop where
  nonempty : key ≠ ""
  short : utf16Length key ≤ demoMaxKeyLength
  small : (stringify (value.getD .null)).utf8ByteSize ≤ demoMaxValueBytes
  admitted : admitsKey (server.seen ruleId) key = true
  room : (server.getAll ruleId).has key = true ∨
    (server.getAll ruleId).size < demoMaxKeysPerRule

theorem within_bounds_iff {stringify : Json → String} {server : Server} {ruleId : String}
    {key value : Option Json} :
    (assertDemoStateWriteWithinBounds stringify ruleId key value server).1 = .ok () ↔
      ∃ k, key = some (.str k) ∧ WithinBounds stringify server ruleId k value := by
  have write (k : String) : (assertWritable (server.seen ruleId) k = .ok ()) ↔
      admitsKey (server.seen ruleId) k = true := by
    unfold assertWritable
    split <;> simp [*]
  have room (k : String) : (assertRoom (server.getAll ruleId) k = .ok ()) ↔
      ((server.getAll ruleId).has k = true ∨
        (server.getAll ruleId).size < demoMaxKeysPerRule) := by
    unfold assertRoom
    split
    · rename_i full
      simp [full.1, full.2]
    · rename_i open_
      rw [not_and_or, Bool.not_eq_false, Nat.not_le] at open_
      simpa using open_
  have small : assertDemoValue stringify value = .ok () ↔
      (stringify (value.getD .null)).utf8ByteSize ≤ demoMaxValueBytes := by
    unfold assertDemoValue
    split
    · rename_i large
      simpa using large
    · rename_i fits
      simpa using Nat.not_lt.mp fits
  unfold assertDemoStateWriteWithinBounds
  rw [Handler.check_returns]
  constructor
  · rintro ⟨k, checked, rest⟩
    obtain ⟨given, nonempty, short⟩ := demoStateKey_ok.mp checked
    obtain ⟨_, fits, rest⟩ := Handler.check_returns.mp rest
    obtain ⟨cache, answered⟩ := seen_bind ruleId _ server
    rw [answered] at rest
    obtain ⟨_, admitted, rest⟩ := Handler.check_returns.mp rest
    exact ⟨k, given, nonempty, short, small.mp fits, (write k).mp admitted, (room k).mp rest⟩
  · rintro ⟨k, given, nonempty, short, fits, admitted, space⟩
    refine ⟨k, demoStateKey_ok.mpr ⟨given, nonempty, short⟩, ?_⟩
    refine Handler.check_returns.mpr ⟨(), small.mpr fits, ?_⟩
    obtain ⟨cache, answered⟩ := seen_bind ruleId _ server
    rw [answered]
    exact Handler.check_returns.mpr ⟨(), (write k).mpr admitted, (room k).mpr space⟩

theorem event_allowed_iff {server : Server} {ruleId : String} {eventName : Option Json} :
    (assertDemoEvent ruleId eventName server).1 = .ok () ↔
      ∃ name, eventName = some (.str name) ∧ name ≠ "" ∧
        admitsEvent (server.seen ruleId) name = true := by
  have fire (name : String) : (assertFireable (server.seen ruleId) name = .ok ()) ↔
      admitsEvent (server.seen ruleId) name = true := by
    unfold assertFireable
    split <;> simp [*]
  unfold assertDemoEvent
  rw [Handler.check_returns]
  refine exists_congr fun name => ?_
  obtain ⟨cache, answered⟩ := seen_bind ruleId
    (fun access => Handler.check (assertFireable access name)) server
  rw [demoEventName_ok, answered, and_assoc]
  exact and_congr_right fun _ => and_congr_right fun _ => fire name

theorem assertBodyWithinDemoLimit_ok {req : Request} :
    assertBodyWithinDemoLimit req = .ok () ↔ req.contentLength.getD 0 ≤ demoMaxBodyBytes := by
  unfold assertBodyWithinDemoLimit
  split
  · rename_i large
    simpa using large
  · rename_i fits
    simpa using Nat.not_lt.mp fits

/-- What the body of `PUT /:id/state` has to satisfy. -/
theorem validateDemoStateWrite_iff {stringify : Json → String} {server : Server}
    {ruleId : String} {req : Request} :
    (validateDemoStateWrite stringify req ruleId server).1 = .ok () ↔
      req.contentLength.getD 0 ≤ demoMaxBodyBytes ∧
      ∃ key, (orEmptyObject req.body).property "key" = some (.str key) ∧
        WithinBounds stringify server ruleId key ((orEmptyObject req.body).property "value") := by
  unfold validateDemoStateWrite
  rw [Handler.check_returns, ← within_bounds_iff, ← assertBodyWithinDemoLimit_ok]
  constructor
  · rintro ⟨_, fits, rest⟩
    exact ⟨fits, rest⟩
  · rintro ⟨fits, rest⟩
    exact ⟨(), fits, rest⟩

/-- The two forms of a body that may be fired with. -/
inductive FireForm (stringify : Json → String) (server : Server) (ruleId : String)
    (body : Json) : Prop where
  | stateSet {fields : List (String × Json)} {key : String} {value : Json}
      (given : body.property "stateSet" = some (.obj fields))
      (keyed : (Json.obj fields).property "key" = some (.str key))
      (valued : (Json.obj fields).property "value" = some value)
      (bounds : WithinBounds stringify server ruleId key (some value))
  | event {name : String} (plain : body.property "stateSet" = none)
      (named : body.property "eventName" = some (.str name)) (nonempty : name ≠ "")
      (admitted : admitsEvent (server.seen ruleId) name = true)

/-- What the body of `POST /:id/fire` has to satisfy. -/
theorem validateDemoFire_iff {stringify : Json → String} {server : Server}
    {ruleId : String} {req : Request} :
    (validateDemoFire stringify req ruleId server).1 = .ok () ↔
      req.contentLength.getD 0 ≤ demoMaxBodyBytes ∧
      (orEmptyObject req.body).property "context" = none ∧
      FireForm stringify server ruleId (orEmptyObject req.body) := by
  have context : assertNoContext (orEmptyObject req.body) = .ok () ↔
      (orEmptyObject req.body).property "context" = none := by
    unfold assertNoContext
    cases (orEmptyObject req.body).property "context" <;> simp
  unfold validateDemoFire
  rw [Handler.check_returns, ← context, ← assertBodyWithinDemoLimit_ok]
  constructor
  · rintro ⟨_, fits, rest⟩
    obtain ⟨_, bare, rest⟩ := Handler.check_returns.mp rest
    refine ⟨fits, bare, ?_⟩
    cases given : (orEmptyObject req.body).property "stateSet" with
    | some stateSet =>
        rw [given] at rest
        obtain ⟨⟨key, value⟩, checked, written⟩ := Handler.check_returns.mp rest
        obtain ⟨⟨fields, rfl⟩, keyed, valued⟩ := demoStateSet_ok.mp checked
        obtain ⟨k, rfl, bounds⟩ := within_bounds_iff.mp written
        exact .stateSet given keyed valued bounds
    | none =>
        rw [given] at rest
        obtain ⟨name, named, nonempty, admitted⟩ := event_allowed_iff.mp rest
        exact .event given named nonempty admitted
  · rintro ⟨fits, bare, form⟩
    refine ⟨(), fits, Handler.check_returns.mpr ⟨(), bare, ?_⟩⟩
    cases form with
    | stateSet given keyed valued bounds =>
        rw [given]
        exact Handler.check_returns.mpr ⟨_, demoStateSet_ok.mpr ⟨⟨_, rfl⟩, keyed, valued⟩,
          within_bounds_iff.mpr ⟨_, rfl, bounds⟩⟩
    | event plain named nonempty admitted =>
        rw [plain]
        exact event_allowed_iff.mpr ⟨_, named, nonempty, admitted⟩

end Aeolus.Demo
