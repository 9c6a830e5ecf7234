/-
# Aeolus.Demo.DemoEnvelope — what a demo session can do to a rule

The guard looks a rule up under the segment of the path; the handler acts on what the
segment decodes to, later.  A visit is one request that passed the guard and was answered.
It stays in the envelope of its rule if the guard looked at the same rule and read what the
rule declares; a segment with a percent sign names one rule to the guard and another to the
handler, and the key cap is then counted on the wrong one.
-/
import Aeolus.Demo.DemoRoutes

namespace Aeolus.Demo

open Aeolus.Core Aeolus.Db Aeolus.Theory
open Aeolus.Api (User Role)

/-! ## The guard's entry for a route -/

def Route.validator : Route → DemoValidator
  | .fire => .fire
  | .state => .stateWrite

def Route.entry (route : Route) : DemoPolicyEntry where
  method := route.method
  pattern := "/api/automations/:id/" ++ route.action
  validate := some route.validator

theorem entry_listed (route : Route) : route.entry ∈ demoPolicy := by
  cases route <;> decide +kernel

/-- Only one entry has the method of a route. -/
theorem entry_unique (route : Route) :
    ∀ entry ∈ demoPolicy, toUpperCase entry.method = route.method → entry = route.entry := by
  cases route <;> decide +kernel

theorem entry_pattern (route : Route) :
    splitPath route.entry.pattern = ["api", "automations", ":id", route.action] := by
  cases route <;> decide +kernel

theorem entry_literal (route : Route) :
    ∀ s ∈ ["api", "automations", route.action], isParam s = false := by
  cases route <;> decide

/-- The guard takes the rule id from the segment that Express matched. -/
theorem matchPolicy_route {route : Route} {method path mount area segment action : String}
    {entry : DemoPolicyEntry} {params : List (String × String)}
    (verb : toUpperCase method = route.method)
    (segments : splitPath path = [mount, area, segment, action])
    (matched : matchPolicy demoPolicy method path = some (entry, params)) :
    entry = route.entry ∧ params = [("id", segment)] := by
  obtain ⟨listed, accepted⟩ := matchPolicy_some matched
  obtain ⟨method_eq, matched⟩ := accepts_some accepted
  obtain rfl := entry_unique route entry listed (method_eq.trans verb)
  rw [entry_pattern, segments] at matched
  obtain ⟨id, -, given, rfl⟩ := matchSegments_resource (entry_literal route) matched
  simp only [List.cons.injEq, and_true] at given
  rw [given.2.2.1]
  exact ⟨rfl, rfl⟩

/-- A demo request that passes the guard on its way to a route passes its validator. -/
theorem validator_of_guard {stringify : Json → String} {route : Route} {req : Request}
    {mount area segment action : String} {server : Server} (demo : req.publicDemo = true)
    (verb : toUpperCase req.method = route.method)
    (segments : splitPath req.path = [mount, area, segment, action])
    (passed : (publicDemoGuard stringify true req server).1 = .ok ()) :
    (route.validator.validate stringify req segment server).1 = .ok () := by
  unfold publicDemoGuard at passed
  rw [demo] at passed
  simp only [Bool.and_self, Bool.not_true, Bool.false_eq_true, if_false] at passed
  cases matched : matchPolicy demoPolicy req.method req.path with
  | none =>
      rw [matched] at passed
      cases passed
  | some found =>
      obtain ⟨entry, params⟩ := found
      obtain ⟨rfl, rfl⟩ := matchPolicy_route verb segments matched
      rw [matched] at passed
      exact passed

/-! ## The envelope -/

/-- What a request may have done to a rule that declares this. -/
structure Envelope (declared : Option DemoRuleAccess) (before after : Server) (id : String)
    (effects : Effects) : Prop where
  keys : ∀ key value, effects.written = some (key, value) → admitsKey declared key = true
  events : ∀ firing name, effects.firing = some firing → firing.eventName = some name →
    admitsEvent declared name = true
  room : (after.getAll id).size ≤ max demoMaxKeysPerRule (before.getAll id).size

/-- A request of a demo session that passed the guard and was answered by a handler. -/
structure Visit (stringify : Json → String) (express : Express) where
  req : Request
  route : Route
  segment : String
  id : String
  /-- the server when the guard runs -/
  guarded : Server
  /-- the server when the handler runs; other requests may be served in between -/
  before : Server
  after : Server
  effects : Effects
  demo : req.publicDemo = true
  passed : (publicDemoGuard stringify true req guarded).1 = .ok ()
  resolved : express.resolves req.method req.path = some (route, segment)
  decoded : decodeURIComponent segment = some id
  answered : route.serve stringify segment req before = (.ok effects, after)

/-- The rule has the state that it had when the guard counted its keys. -/
def Visit.Undisturbed {stringify : Json → String} {express : Express}
    (visit : Visit stringify express) : Prop :=
  visit.before.getAll visit.id = visit.guarded.getAll visit.id

/-- The visit stayed in the envelope of the rule that it acted on. -/
def Visit.Contained {stringify : Json → String} {express : Express}
    (visit : Visit stringify express) : Prop :=
  Envelope (visit.before.declares visit.id) visit.before visit.after visit.id visit.effects

/-- The keys that a request on this segment can write: the state route bounds the id, the
fire route does not take a blank key. -/
def Writable (segment id key : String) : Prop :=
  key ≠ "" ∧ utf16Length key ≤ demoMaxKeyLength ∧
    (utf16Length id ≤ automationIdMaxLength ∨ ¬Shadowed segment ∧ trim key ≠ "")

/-- What the guard reads for the segment suits the rule that the segment decodes to. -/
structure Confined (segment id : String) (seen declared : Option DemoRuleAccess) : Prop where
  keys : ∀ key, Writable segment id key → admitsKey seen key = true →
    admitsKey declared key = true
  /-- The keys are counted on the rule that is written to, unless none can be written. -/
  room : '%' ∉ segment.toList ∨ ∀ key, Writable segment id key → admitsKey seen key = false
  events : ¬Shadowed segment → ∀ name, trim name ≠ "" → admitsEvent seen name = true →
    admitsEvent declared (trim name) = true

/-! ## Confined visits are contained -/

section Contained

variable {stringify : Json → String} {express : Express}

theorem Confined.of_write {segment id key : String} {declared : Option DemoRuleAccess}
    {guarded before after : Server} {effects : Effects} {value : Option Json}
    (confined : Confined segment id (guarded.seen segment) declared)
    (decoded : decodeURIComponent segment = some id)
    (undisturbed : before.getAll id = guarded.getAll id)
    (bounds : WithinBounds stringify guarded segment key value)
    (writable : Writable segment id key) (wrote : Wrote before after id key effects.written)
    (unnamed : ∀ firing, effects.firing = some firing → firing.eventName = none) :
    Envelope declared before after id effects := by
  refine ⟨?_, ?_, ?_⟩
  · intro written value same
    obtain rfl := wrote.named _ same
    exact confined.keys _ writable bounds.admitted
  · intro firing name fired named
    rw [unnamed firing fired] at named
    cases named
  · cases present : (before.getAll id).has key with
    | true =>
        rw [wrote.kept present]
        exact Nat.le_max_right _ _
    | false =>
        have plain : '%' ∉ segment.toList := by
          rcases confined.room with plain | closed
          · exact plain
          · exact absurd bounds.admitted (by simp [closed key writable])
        obtain rfl : segment = id := by
          rw [(decodeURIComponent_self segment).mpr plain] at decoded
          exact Option.some.inj decoded
        have space := bounds.room
        rw [← undisturbed, present] at space
        have short : (before.getAll segment).size < demoMaxKeysPerRule := by simpa using space
        exact (wrote.grew.trans short).trans (Nat.le_max_left _ _)

/-- The step of the argument: one visit. -/
theorem Visit.contained (documented : express.Documented) (visit : Visit stringify express)
    (undisturbed : visit.Undisturbed)
    (confined : Confined visit.segment visit.id (visit.guarded.seen visit.segment)
      (visit.before.declares visit.id)) : visit.Contained := by
  obtain ⟨verb, mount, area, action, segments⟩ := documented.matched visit.resolved
  have valid := validator_of_guard visit.demo verb segments visit.passed
  have answered := visit.answered
  unfold Route.serve at answered
  rw [visit.decoded] at answered
  dsimp only at answered
  cases route : visit.route with
  | state =>
      rw [route] at valid answered
      obtain ⟨-, key, given, bounds⟩ := validateDemoStateWrite_iff.mp valid
      obtain ⟨key', given', short, unfired, wrote⟩ := putState_ok answered
      obtain rfl : key = key' := by simpa [given] using given'
      refine confined.of_write visit.decoded undisturbed bounds
        ⟨bounds.nonempty, bounds.short, .inl short⟩ wrote ?_
      intro firing fired
      rw [unfired] at fired
      cases fired
  | fire =>
      rw [route] at valid answered
      have unshadowed := documented.ordered (route ▸ visit.resolved)
      obtain ⟨-, -, form⟩ := validateDemoFire_iff.mp valid
      cases form with
      | stateSet given keyed valued bounds =>
          cases fireAutomation_ok answered with
          | stateSet given' keyed' nonblank wrote unnamed =>
              rw [given] at given'
              obtain rfl := Option.some.inj given'
              rw [keyed] at keyed'
              cases keyed'
              exact confined.of_write visit.decoded undisturbed bounds
                ⟨bounds.nonempty, bounds.short, .inr ⟨unshadowed, nonblank⟩⟩ wrote unnamed
          | event plain chosen fired same =>
              rw [given] at plain
              cases plain
      | event plain named nonempty admitted =>
          cases fireAutomation_ok answered with
          | stateSet given' keyed' nonblank wrote unnamed =>
              rw [plain] at given'
              cases given'
          | event plain' chosen fired same =>
              refine ⟨?_, ?_, ?_⟩
              · intro key value written
                rw [fired] at written
                cases written
              · intro firing name fires carries
                rw [fired] at fires
                obtain rfl := Option.some.inj fires
                obtain ⟨given, here, rfl, nonblank⟩ := firingOf_ok chosen carries
                rw [named] at here
                cases here
                exact confined.events unshadowed _ nonblank admitted
              · rw [same]
                exact Nat.le_max_right _ _

end Contained

/-! ## What the requests of a demo session reach -/

/-- The fields of the object that `PATCH /:id/demo-access` stores. -/
def DemoRuleAccess.fields (access : DemoRuleAccess) : List (String × Option Json) :=
  [("writableStateKeys", access.writableStateKeys.map fun keys => .arr (keys.map .str)),
    ("fireEvents", access.fireEvents.map fun events => .arr (events.map .str))]

/-- The column that declares this. -/
def DemoAccessColumn.ofAccess : Option DemoRuleAccess → DemoAccessColumn
  | none => .absent
  | some access => .parsed (.ofPresent access.fields)

theorem textsOf_texts (texts : Option (List String)) :
    textsOf (texts.map fun given => .arr (given.map .str)) = texts := by
  cases texts with
  | none => rfl
  | some given =>
      have read : (given.map Json.str).filterMap Json.asString = given := by
        induction given with
        | nil => rfl
        | cons text rest ih => simp [Json.asString, ih]
      simp [textsOf, read]

theorem access_ofAccess (access : Option DemoRuleAccess) :
    (DemoAccessColumn.ofAccess access).access = access := by
  cases access with
  | none => rfl
  | some access =>
      have nodup : (access.fields.map Prod.fst).Nodup := by simp [DemoRuleAccess.fields]
      have keys : (Json.ofPresent access.fields).property "writableStateKeys" =
          access.writableStateKeys.map fun keys => .arr (keys.map .str) :=
        Json.property_ofPresent nodup List.mem_cons_self
      have events : (Json.ofPresent access.fields).property "fireEvents" =
          access.fireEvents.map fun events => .arr (events.map .str) :=
        Json.property_ofPresent nodup (List.mem_cons_of_mem _ List.mem_cons_self)
      have read : (DemoAccessColumn.ofAccess (some access)).access = some
          { writableStateKeys := textsOf ((Json.ofPresent access.fields).property
              "writableStateKeys")
            fireEvents := textsOf ((Json.ofPresent access.fields).property "fireEvents") } := rfl
      rw [read, keys, events, textsOf_texts, textsOf_texts]

/-- A server with one rule, what the guard reads for a segment, and the rule's state. -/
def oneRule (segment id : String) (seen declared : Option DemoRuleAccess)
    (entries : RuleState) : Server where
  automationRules x := if x = id then some (.ofAccess declared) else none
  accessCache := OrderedMap.empty.set segment seen
  stateStore := OrderedMap.empty.set id entries
  registered _ := some "home/#"
  mayInteract _ _ := true

section OneRule

variable {segment id : String} {seen declared : Option DemoRuleAccess} {entries : RuleState}

theorem oneRule_seen : (oneRule segment id seen declared entries).seen segment = seen := by
  simp [Server.seen, oneRule]

theorem oneRule_declares :
    (oneRule segment id seen declared entries).declares id = declared := by
  simp [Server.declares, oneRule, access_ofAccess]

theorem oneRule_getAll (x : String) : (oneRule segment id seen declared entries).getAll x =
    if x = id then entries else .empty := by
  unfold Server.getAll oneRule
  rw [OrderedMap.get_set]
  split <;> rfl

end OneRule

/-- A request of the demo user with this body. -/
def demoRequest (route : Route) (segment : String) (body : Json) : Request where
  method := route.method
  path := route.path segment
  user := some { userId := "demo", role := .user }
  publicDemo := true
  contentLength := none
  body := some body

theorem splitPath_route {route : Route} {segment : String} (nonempty : segment ≠ "")
    (slashless : '/' ∉ segment.toList) (pathname : '?' ∉ segment.toList) :
    splitPath (route.path segment) = ["api", "automations", segment, route.action] := by
  have plain : '?' ∉ (route.path segment).toList := by
    cases route <;> simp [Route.path, Route.action, joinPath, pathname]
  have literal : ∀ s ∈ ["api", "automations", segment, route.action], '/' ∉ s.toList := by
    intro s member
    simp only [List.mem_cons, List.not_mem_nil, or_false] at member
    rcases member with rfl | rfl | rfl | rfl
    · decide
    · decide
    · exact slashless
    · cases route <;> decide
  rw [splitPath_of_pathname plain]
  unfold Route.path
  rw [split_joinPath literal]
  cases route <;> simp [Route.action, nonempty]

theorem route_verb (route : Route) : toUpperCase route.method = route.method := by
  cases route <;> decide +kernel

theorem entry_accepts {route : Route} {segment : String} (nonempty : segment ≠ "")
    (slashless : '/' ∉ segment.toList) (pathname : '?' ∉ segment.toList) :
    route.entry.accepts route.method (route.path segment) = some [("id", segment)] := by
  have literal : isParam "api" = false ∧ isParam "automations" = false ∧
      isParam route.action = false ∧ isParam ":id" = true := by
    cases route <;> decide
  have verb : toUpperCase route.entry.method = toUpperCase route.method := rfl
  unfold DemoPolicyEntry.accepts
  rw [if_pos verb, entry_pattern, splitPath_route nonempty slashless pathname]
  simp [matchSegments, literal, nonempty]

/-- A demo request on a route passes the guard if it passes the validator. -/
theorem guard_of_validator {stringify : Json → String} {route : Route} {segment : String}
    {body : Json} {server : Server} (nonempty : segment ≠ "")
    (slashless : '/' ∉ segment.toList) (pathname : '?' ∉ segment.toList)
    (valid : (route.validator.validate stringify (demoRequest route segment body) segment
      server).1 = .ok ()) :
    (publicDemoGuard stringify true (demoRequest route segment body) server).1 = .ok () := by
  have segments : splitPath (demoRequest route segment body).path = _ :=
    splitPath_route nonempty slashless pathname
  have accepted : route.entry.accepts (demoRequest route segment body).method
      (demoRequest route segment body).path = some [("id", segment)] :=
    entry_accepts nonempty slashless pathname
  obtain ⟨⟨entry, params⟩, matched⟩ :=
    Option.isSome_iff_exists.mp (matchPolicy_admits (entry_listed route) accepted)
  obtain ⟨rfl, rfl⟩ := matchPolicy_route (route_verb route) segments matched
  unfold publicDemoGuard
  rw [matched]
  exact valid

/-! ## Writes that get through -/

section Reaching

variable {stringify : Json → String} {express : Express} {segment id key : String}
  {seen declared : Option DemoRuleAccess} {entries : RuleState}

theorem setState_absent {server : Server} (absent : (server.getAll id).get key = none)
    (value : Json) : setState stringify id key (some value) server =
      (.ok (some (key, value)),
        server.put id ((server.getAll id).set key ⟨value, stringify value⟩)) := by
  unfold setState
  simp [absent]

/-- The body of a write to the state route. -/
def keyFields (key : String) : List (String × Json) := [("key", .str key), ("value", .null)]

/-- The body of a write through the fire route. -/
def stateSetFields (key : String) : List (String × Json) := [("stateSet", .obj (keyFields key))]

theorem keyFields_key (key : String) :
    (Json.obj (keyFields key)).property "key" = some (.str key) := by
  simp [keyFields, Json.property]

theorem keyFields_value (key : String) :
    (Json.obj (keyFields key)).property "value" = some .null := by
  simp [keyFields, Json.property]

theorem oneRule_interact {route : Route} {body : Json} (nonempty : id ≠ "") :
    requireAutomation (demoRequest route segment body) id
      (oneRule segment id seen declared entries) =
      (.ok (), oneRule segment id seen declared entries) := by
  simp [requireAutomation, requireInteract, demoRequest, oneRule, nonempty]

theorem oneRule_set (absent : entries.get key = none) :
    setState stringify id key (some .null) (oneRule segment id seen declared entries) =
      (.ok (some (key, .null)), (oneRule segment id seen declared entries).put id
        (entries.set key ⟨.null, stringify .null⟩)) := by
  have here : (oneRule segment id seen declared entries).getAll id = entries := by
    rw [oneRule_getAll, if_pos rfl]
  rw [setState_absent (by rw [here]; exact absent), here]

theorem putState_writes (nonempty : id ≠ "") (bounded : utf16Length id ≤ automationIdMaxLength)
    (keyed : key ≠ "") (short : utf16Length key ≤ demoMaxKeyLength)
    (absent : entries.get key = none) :
    putState stringify (demoRequest .state segment (.obj (keyFields key))) id
        (oneRule segment id seen declared entries) =
      (.ok { written := some (key, .null), firing := none },
        (oneRule segment id seen declared entries).put id
          (entries.set key ⟨.null, stringify .null⟩)) := by
  have parsed : automationStateBody (some (.obj (keyFields key))) = .ok (key, some .null) :=
    automationStateBody_ok.mpr ⟨_, rfl, keyFields_key key, keyFields_value key,
      utf16Length_pos keyed, short.trans (by decide)⟩
  have params : automationIdParams id = .ok () := if_pos ⟨utf16Length_pos nonempty, bounded⟩
  unfold putState
  refine (Handler.bind_of_ok (oneRule_interact nonempty)).trans ?_
  refine (Handler.bind_of_ok (Handler.check_of_ok parsed)).trans ?_
  refine (Handler.bind_of_ok (Handler.check_of_ok params)).trans ?_
  exact Handler.bind_of_ok (oneRule_set absent)

theorem saveAndFire_writes (nonblank : trim key ≠ "")
    (short : utf16Length key ≤ demoMaxKeyLength) (absent : entries.get key = none) :
    saveAndFire stringify id (.obj (keyFields key)) (oneRule segment id seen declared entries) =
      (.ok { written := some (key, .null), firing := some (stateSetFiring id key .null) },
        (oneRule segment id seen declared entries).put id
          (entries.set key ⟨.null, stringify .null⟩)) := by
  have checked : stateSetKey (.obj (keyFields key)) = .ok key :=
    stateSetKey_ok.mpr ⟨keyFields_key key, nonblank, short.trans (by decide)⟩
  have valued : stateSetValue (.obj (keyFields key)) = .ok .null := by
    unfold stateSetValue
    rw [keyFields_value]
  unfold saveAndFire
  refine (Handler.bind_of_ok (Handler.check_of_ok checked)).trans ?_
  refine (Handler.bind_of_ok (Handler.check_of_ok valued)).trans ?_
  exact Handler.bind_of_ok (oneRule_set absent)

theorem fireAutomation_writes (nonempty : id ≠ "") (nonblank : trim key ≠ "")
    (short : utf16Length key ≤ demoMaxKeyLength) (absent : entries.get key = none) :
    fireAutomation stringify (demoRequest .fire segment (.obj (stateSetFields key))) id
        (oneRule segment id seen declared entries) =
      (.ok { written := some (key, .null), firing := some (stateSetFiring id key .null) },
        (oneRule segment id seen declared entries).put id
          (entries.set key ⟨.null, stringify .null⟩)) := by
  have given : asObject ((orEmptyObject (demoRequest .fire segment
      (.obj (stateSetFields key))).body).property "stateSet") = some (.obj (keyFields key)) := by
    simp [demoRequest, stateSetFields, orEmptyObject, Json.property, asObject]
  unfold fireAutomation
  refine (Handler.bind_of_ok (oneRule_interact nonempty)).trans ?_
  refine (Handler.bind_of_ok (h := getRule id) rfl).trans ?_
  unfold fireWith
  rw [given]
  exact saveAndFire_writes nonblank short absent

theorem oneRule_bounds {value : Option Json} (keyed : key ≠ "")
    (short : utf16Length key ≤ demoMaxKeyLength)
    (small : (stringify (value.getD .null)).utf8ByteSize ≤ demoMaxValueBytes)
    (admitted : admitsKey seen key = true)
    (room : segment = id → entries.size < demoMaxKeysPerRule) :
    WithinBounds stringify (oneRule segment id seen declared entries) segment key value := by
  refine ⟨keyed, short, small, by rw [oneRule_seen]; exact admitted, .inr ?_⟩
  rw [oneRule_getAll]
  split
  · rename_i same
    exact room same
  · decide

theorem serve_of_decoded {route : Route} {req : Request} {server : Server}
    (decoded : decodeURIComponent segment = some id) :
    route.serve stringify segment req server = route.handle stringify req id server := by
  unfold Route.serve
  rw [decoded]

variable (stringify declared entries) in
/-- A key that the guard admits for the segment is written to the decoded rule. -/
theorem write_visit (documented : express.Documented) (nonempty : segment ≠ "")
    (slashless : '/' ∉ segment.toList) (pathname : '?' ∉ segment.toList)
    (decoded : decodeURIComponent segment = some id) (writable : Writable segment id key)
    (small : (stringify .null).utf8ByteSize ≤ demoMaxValueBytes)
    (admitted : admitsKey seen key = true) (absent : entries.get key = none)
    (room : segment = id → entries.size < demoMaxKeysPerRule) :
    ∃ visit : Visit stringify express, visit.segment = segment ∧ visit.id = id ∧
      visit.guarded = oneRule segment id seen declared entries ∧
      visit.before = oneRule segment id seen declared entries ∧
      visit.effects.written = some (key, .null) ∧
      visit.after = (oneRule segment id seen declared entries).put id
        (entries.set key ⟨.null, stringify .null⟩) := by
  obtain ⟨keyed, short, through⟩ := writable
  have named := decodeURIComponent_nonempty nonempty decoded
  have bounds : WithinBounds stringify (oneRule segment id seen declared entries) segment key
      (some .null) := oneRule_bounds keyed short small admitted room
  rcases through with bounded | ⟨unshadowed, nonblank⟩
  · -- the state route takes the id
    have valid : (Route.state.validator.validate stringify
        (demoRequest .state segment (.obj (keyFields key))) segment
        (oneRule segment id seen declared entries)).1 = .ok () :=
      validateDemoStateWrite_iff.mpr ⟨Nat.zero_le _, key, keyFields_key key, by
        rw [show (orEmptyObject (demoRequest .state segment (.obj (keyFields key))).body).property
          "value" = some .null from keyFields_value key]
        exact bounds⟩
    have resolved : express.resolves Route.state.method (Route.state.path segment) =
        some (.state, segment) :=
      documented.reached nonempty slashless pathname (fun fires => nomatch fires)
    exact ⟨{
      req := demoRequest .state segment (.obj (keyFields key))
      route := .state
      segment, id, decoded, resolved
      guarded := oneRule segment id seen declared entries
      before := oneRule segment id seen declared entries
      after := _
      effects := _
      demo := rfl
      passed := guard_of_validator nonempty slashless pathname valid
      answered := (serve_of_decoded decoded).trans
        (putState_writes named bounded keyed short absent) }, rfl, rfl, rfl, rfl, rfl, rfl⟩
  · -- the key is not blank, and the fire route takes it
    have valid : (Route.fire.validator.validate stringify
        (demoRequest .fire segment (.obj (stateSetFields key))) segment
        (oneRule segment id seen declared entries)).1 = .ok () := by
      have bare : (Json.obj (stateSetFields key)).property "context" = none := by
        simp [stateSetFields, Json.property]
      have given : (Json.obj (stateSetFields key)).property "stateSet" =
          some (.obj (keyFields key)) := by
        simp [stateSetFields, Json.property]
      exact validateDemoFire_iff.mpr ⟨Nat.zero_le _, bare,
        .stateSet given (keyFields_key key) (keyFields_value key) bounds⟩
    have resolved : express.resolves Route.fire.method (Route.fire.path segment) =
        some (.fire, segment) :=
      documented.reached nonempty slashless pathname (fun _ => unshadowed)
    exact ⟨{
      req := demoRequest .fire segment (.obj (stateSetFields key))
      route := .fire
      segment, id, decoded, resolved
      guarded := oneRule segment id seen declared entries
      before := oneRule segment id seen declared entries
      after := _
      effects := _
      demo := rfl
      passed := guard_of_validator nonempty slashless pathname valid
      answered := (serve_of_decoded decoded).trans
        (fireAutomation_writes named nonblank short absent) }, rfl, rfl, rfl, rfl, rfl, rfl⟩

variable (stringify declared entries) in
/-- An event that the guard admits for the segment is fired at the decoded rule. -/
theorem event_visit (documented : express.Documented) (nonempty : segment ≠ "")
    (slashless : '/' ∉ segment.toList) (pathname : '?' ∉ segment.toList)
    (decoded : decodeURIComponent segment = some id) (unshadowed : ¬Shadowed segment)
    {name : String} (nonblank : trim name ≠ "") (admitted : admitsEvent seen name = true) :
    ∃ visit : Visit stringify express, visit.segment = segment ∧ visit.id = id ∧
      visit.guarded = oneRule segment id seen declared entries ∧
      visit.before = oneRule segment id seen declared entries ∧
      ∃ firing, visit.effects.firing = some firing ∧ firing.eventName = some (trim name) := by
  have named := decodeURIComponent_nonempty nonempty decoded
  have given : name ≠ "" := by
    rintro rfl
    exact nonblank (by decide)
  have plain : (Json.obj [("eventName", .str name)]).property "stateSet" = none := by
    simp [Json.property]
  have carries : (Json.obj [("eventName", .str name)]).property "eventName" =
      some (.str name) := by
    simp [Json.property]
  have bare : (Json.obj [("eventName", .str name)]).property "context" = none := by
    simp [Json.property]
  have valid : (validateDemoFire stringify
      (demoRequest .fire segment (.obj [("eventName", .str name)])) segment
      (oneRule segment id seen declared entries)).1 = .ok () :=
    validateDemoFire_iff.mpr ⟨Nat.zero_le _, bare,
      .event plain carries given (by rw [oneRule_seen]; exact admitted)⟩
  have resolved : express.resolves Route.fire.method (Route.fire.path segment) =
      some (.fire, segment) :=
    documented.reached nonempty slashless pathname (fun _ => unshadowed)
  obtain ⟨firing, chosen, fires⟩ : ∃ firing,
      firingOf (demoRequest .fire segment (.obj [("eventName", .str name)])) id "home/#"
        (.obj [("eventName", .str name)]) = .ok firing ∧
      firing.eventName = some (trim name) := by
    refine ⟨_, if_pos ?_, ?_⟩ <;> simp [carries, Json.asString, nonblank]
  have answered : fireAutomation stringify
      (demoRequest .fire segment (.obj [("eventName", .str name)])) id
      (oneRule segment id seen declared entries) =
      (.ok { written := none, firing := some firing },
        oneRule segment id seen declared entries) := by
    unfold fireAutomation
    refine (Handler.bind_of_ok (oneRule_interact named)).trans ?_
    refine (Handler.bind_of_ok (h := getRule id) rfl).trans ?_
    unfold fireWith
    rw [show (orEmptyObject (demoRequest .fire segment
      (.obj [("eventName", .str name)])).body).property "stateSet" = none from plain]
    exact Handler.bind_of_ok (Handler.check_of_ok chosen)
  exact ⟨{
    req := demoRequest .fire segment (.obj [("eventName", .str name)])
    route := .fire
    segment, id, decoded, resolved
    guarded := oneRule segment id seen declared entries
    before := oneRule segment id seen declared entries
    after := _
    effects := _
    demo := rfl
    passed := guard_of_validator nonempty slashless pathname valid
    answered := (serve_of_decoded decoded).trans answered },
    rfl, rfl, rfl, rfl, firing, rfl, fires⟩

end Reaching

/-! ## A rule at its cap -/

/-- A key that is longer than a demo session may write. -/
def longKey (n : Nat) : String := String.ofList (List.replicate (demoMaxKeyLength + 1 + n) 'k')

theorem longKey_long (n : Nat) : demoMaxKeyLength < utf16Length (longKey n) := by
  refine Nat.lt_of_lt_of_le ?_ (length_le_utf16Length _)
  simp [longKey]
  omega

theorem longKey_injective : Function.Injective longKey := by
  intro m n same
  have lengths := congrArg (fun key => key.toList.length) same
  simpa [longKey] using lengths

/-- As many keys as a rule may hold under demo writes. -/
def full : RuleState where
  entries := (List.range demoMaxKeysPerRule).map fun n => (longKey n, ⟨.null, "null"⟩)
  nodup := by
    rw [List.map_map]
    exact List.nodup_range.map longKey_injective

theorem full_size : full.size = demoMaxKeysPerRule := by
  simp [full, OrderedMap.size]

theorem full_get {key : String} (short : utf16Length key ≤ demoMaxKeyLength) :
    full.get key = none := by
  rw [OrderedMap.get_eq_none]
  intro member
  simp only [full, OrderedMap.keys, List.map_map, List.mem_map] at member
  obtain ⟨n, -, rfl⟩ := member
  exact absurd short (Nat.not_le.mpr (longKey_long n))

/-! ## The envelope holds exactly when the readings agree -/

/-- **Mutation envelope.**  The visits to a segment, where the guard reads `seen`, stay in
the envelope of the rule that the segment decodes to, which declares `declared`, exactly if
what the guard reads suits that rule and the guard counts its keys. -/
theorem envelope_iff_confined {stringify : Json → String} {express : Express}
    (documented : express.Documented)
    (small : (stringify .null).utf8ByteSize ≤ demoMaxValueBytes) {segment : String}
    (nonempty : segment ≠ "") (slashless : '/' ∉ segment.toList)
    (pathname : '?' ∉ segment.toList) (seen declared : Option DemoRuleAccess) :
    (∀ visit : Visit stringify express, visit.segment = segment →
      visit.guarded.seen segment = seen → visit.before.declares visit.id = declared →
      visit.Undisturbed → visit.Contained) ↔
      ∀ id, decodeURIComponent segment = some id → Confined segment id seen declared := by
  constructor
  · intro contained id decoded
    have inside {entries : RuleState} (visit : Visit stringify express)
        (here : visit.segment = segment) (named : visit.id = id)
        (guarded : visit.guarded = oneRule segment id seen declared entries)
        (before : visit.before = oneRule segment id seen declared entries) :
        visit.Contained ∧ visit.before.declares visit.id = declared := by
      have declares : visit.before.declares visit.id = declared := by
        rw [before, named, oneRule_declares]
      refine ⟨contained visit here ?_ declares ?_, declares⟩
      · rw [guarded, oneRule_seen]
      · rw [Visit.Undisturbed, guarded, before]
    have room : '%' ∉ segment.toList ∨
        ∀ key, Writable segment id key → admitsKey seen key = false := by
      by_contra escape
      rw [not_or, not_not] at escape
      obtain ⟨escaped, some_key⟩ := escape
      obtain ⟨key, writable, admitted⟩ : ∃ key, Writable segment id key ∧
          admitsKey seen key = true := by
        simpa using some_key
      -- a full rule, which the guard takes for another one
      have other : segment ≠ id := by
        rintro rfl
        exact (decodeURIComponent_self segment).mp decoded escaped
      have absent := full_get writable.2.1
      obtain ⟨visit, here, named, guarded, before, -, after⟩ := write_visit stringify declared full
        documented nonempty slashless pathname decoded writable small admitted absent
        (fun same => absurd same other)
      have bound := (inside visit here named guarded before).1.room
      rw [named, after, before, Server.getAll_put, oneRule_getAll, if_pos rfl, full_size,
        OrderedMap.size_set_of_absent absent, full_size, Nat.max_self] at bound
      exact Nat.not_succ_le_self _ bound
    refine ⟨?_, room, ?_⟩
    · intro key writable admitted
      obtain ⟨visit, here, named, guarded, before, written, -⟩ := write_visit stringify declared
        .empty documented nonempty slashless pathname decoded writable small admitted rfl
        (fun _ => by decide)
      obtain ⟨stays, declares⟩ := inside visit here named guarded before
      rw [← declares]
      exact stays.keys key .null written
    · intro unshadowed name nonblank admitted
      obtain ⟨visit, here, named, guarded, before, firing, fired, carries⟩ :=
        event_visit stringify declared .empty documented nonempty slashless pathname decoded
          unshadowed nonblank admitted
      obtain ⟨stays, declares⟩ := inside visit here named guarded before
      rw [← declares]
      exact stays.events firing _ fired carries
  · intro confined visit here sees declares undisturbed
    subst here
    refine visit.contained documented undisturbed ?_
    rw [sees, declares]
    exact confined visit.id visit.decoded

/-- A segment without percent signs suits its rule if the guard reads what the rule declares
and no declared event has white space around it. -/
theorem confined_of_plain {segment id : String} {access : Option DemoRuleAccess}
    (plain : '%' ∉ segment.toList)
    (trimmed : ∀ events, access.bind DemoRuleAccess.fireEvents = some events →
      ∀ event ∈ events, trim event = event) : Confined segment id access access := by
  refine ⟨fun _ _ admitted => admitted, .inl plain, ?_⟩
  intro _ name _ admitted
  unfold admitsEvent at admitted ⊢
  cases listed : access.bind DemoRuleAccess.fireEvents with
  | none => rfl
  | some events =>
      rw [listed] at admitted
      have member : name ∈ events := by simpa using admitted
      rw [trimmed events listed name member]
      exact admitted

/-- The two routes, matched segment by segment. -/
def plainExpress : Express where
  resolves method path :=
    match splitPath path with
    | ["api", "automations", segment, action] =>
        if method = "PUT" ∧ action = "state" then some (.state, segment)
        else if method = "POST" ∧ action = "fire" ∧ ¬Shadowed segment then some (.fire, segment)
        else none
    | _ => none

theorem plainExpress_some {method path segment : String} {route : Route}
    (resolved : plainExpress.resolves method path = some (route, segment)) :
    method = route.method ∧ splitPath path = ["api", "automations", segment, route.action] ∧
      (route = .fire → ¬Shadowed segment) := by
  unfold plainExpress at resolved
  dsimp only at resolved
  split at resolved
  · rename_i given action segments
    split at resolved
    · rename_i here
      cases resolved
      exact ⟨here.1, by rw [segments, here.2]; rfl, fun fires => nomatch fires⟩
    · split at resolved
      · rename_i here
        cases resolved
        exact ⟨here.1, by rw [segments, here.2.1]; rfl, fun _ => here.2.2⟩
      · cases resolved
  · cases resolved

theorem plainExpress_documented : plainExpress.Documented where
  matched resolved := by
    obtain ⟨verb, segments, -⟩ := plainExpress_some resolved
    exact ⟨by rw [verb]; exact route_verb _, _, _, _, segments⟩
  ordered resolved := (plainExpress_some resolved).2.2 rfl
  reached {route segment} nonempty slashless pathname unshadowed := by
    unfold plainExpress
    dsimp only
    rw [splitPath_route nonempty slashless pathname]
    cases route with
    | state => rfl
    | fire =>
        have here : Route.fire.method = "POST" ∧ Route.fire.action = "fire" ∧ ¬Shadowed segment :=
          ⟨rfl, rfl, unshadowed rfl⟩
        exact (if_neg (by decide)).trans (if_pos here)

def lightsAccess : DemoRuleAccess where
  writableStateKeys := some ["scene"]
  fireEvents := some ["dim"]

/-- A server with one rule, nothing cached and nothing stored. -/
def lights : Server where
  automationRules id := if id = "lights-1" then some (.ofAccess (some lightsAccess)) else none
  accessCache := .empty
  stateStore := .empty
  registered id := if id = "lights-1" then some "home/lights" else none
  mayInteract _ _ := true

theorem lights_declares : lights.declares "lights-1" = some lightsAccess := by
  simp [Server.declares, lights, access_ofAccess]

/-- `PUT /api/automations/lights-1/state` writes the declared key. -/
def sceneVisit : Visit (fun _ => "null") plainExpress where
  req := demoRequest .state "lights-1" (.obj (keyFields "scene"))
  route := .state
  segment := "lights-1"
  id := "lights-1"
  guarded := lights
  before := lights
  after := lights.put "lights-1" (OrderedMap.empty.set "scene" ⟨.null, "null"⟩)
  effects := { written := some ("scene", .null), firing := none }
  demo := rfl
  passed := by
    have bounds : WithinBounds (fun _ => "null") lights "lights-1" "scene" (some .null) :=
      ⟨by decide, by decide, by decide, by
        rw [show lights.seen "lights-1" = _ from lights_declares]
        decide, .inr (by decide)⟩
    have valid : (Route.state.validator.validate (fun _ => "null")
        (demoRequest .state "lights-1" (.obj (keyFields "scene"))) "lights-1" lights).1 =
        .ok () :=
      validateDemoStateWrite_iff.mpr ⟨Nat.zero_le _, _, keyFields_key _, bounds⟩
    exact guard_of_validator (by decide) (by decide) (by decide) valid
  resolved := by
    have resolved : plainExpress.resolves Route.state.method (Route.state.path "lights-1") =
        some (.state, "lights-1") :=
      plainExpress_documented.reached (by decide) (by decide) (by decide)
        (fun fires => nomatch fires)
    exact resolved
  decoded := by decide +kernel
  answered := by
    have decoded : decodeURIComponent "lights-1" = some "lights-1" := by decide +kernel
    exact (serve_of_decoded decoded).trans rfl

theorem envelope_iff_confined_lights : sceneVisit.Contained :=
  (envelope_iff_confined plainExpress_documented (by decide) (by decide) (by decide) (by decide)
    (some lightsAccess) (some lightsAccess)).mpr
      (fun _ _ => confined_of_plain (by decide) (by simp [lightsAccess]; decide))
      sceneVisit rfl lights_declares lights_declares rfl

/-- `PUT /api/automations/lights%2D1/state` writes a key that `lights-1` does not declare. -/
theorem encoded_segment_escapes :
    ∃ visit : Visit (fun _ => "null") plainExpress,
      visit.req = demoRequest .state "lights%2D1" (.obj (keyFields "secret")) ∧
      visit.guarded = lights ∧ visit.before = lights ∧ visit.Undisturbed ∧
      visit.id = "lights-1" ∧ lights.declares "lights-1" = some lightsAccess ∧
      visit.effects.written = some ("secret", .null) ∧ ¬visit.Contained := by
  have decoded : decodeURIComponent "lights%2D1" = some "lights-1" := by decide +kernel
  have seen : lights.seen "lights%2D1" = none := by decide
  have bounds : WithinBounds (fun _ => "null") lights "lights%2D1" "secret" (some .null) :=
    ⟨by decide, by decide, by decide, by rw [seen]; rfl, .inr (by decide)⟩
  have valid : (Route.state.validator.validate (fun _ => "null")
      (demoRequest .state "lights%2D1" (.obj (keyFields "secret"))) "lights%2D1" lights).1 =
      .ok () :=
    validateDemoStateWrite_iff.mpr ⟨Nat.zero_le _, _, keyFields_key _, bounds⟩
  have resolved : plainExpress.resolves Route.state.method (Route.state.path "lights%2D1") =
      some (.state, "lights%2D1") :=
    plainExpress_documented.reached (by decide) (by decide) (by decide) (fun fires => nomatch fires)
  refine ⟨{
    req := demoRequest .state "lights%2D1" (.obj (keyFields "secret"))
    route := .state
    segment := "lights%2D1"
    id := "lights-1"
    guarded := lights
    before := lights
    after := lights.put "lights-1" (OrderedMap.empty.set "secret" ⟨.null, "null"⟩)
    effects := { written := some ("secret", .null), firing := none }
    demo := rfl
    passed := guard_of_validator (by decide) (by decide) (by decide) valid
    resolved, decoded
    answered := (serve_of_decoded decoded).trans rfl },
    rfl, rfl, rfl, rfl, rfl, lights_declares, rfl, ?_⟩
  intro contained
  have admitted := contained.keys "secret" .null rfl
  change admitsKey (lights.declares "lights-1") "secret" = true at admitted
  rw [lights_declares] at admitted
  exact absurd admitted (by decide)

end Aeolus.Demo
