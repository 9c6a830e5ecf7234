/-
# Aeolus.Automations.StateBroadcast — what the subscribers of a rule's state are told

Five ways lead into `AutomationStateStore` (`src/automations/automation-state-store.ts`):
`state.set` and `state.delete` of a script (`__stateSetRef` and `__stateDeleteRef` of
`src/automations/sandbox.ts`), `PUT` and `DELETE /:id/state` and `POST /:id/fire` with
`stateSet` (`src/api/routes/automation.routes.ts`).  Each decides for itself whether to emit
`AUTOMATION_STATE_CHANGE`, and the client sets the key that an event names
(`setRuleState` of `frontend/src/store/automation-state-store.ts`).

A write that changes the store is announced, and nothing else is (`perform_did`).  A delete is
never announced: a client agrees with the store in every state of a run exactly when no delete
of the run finds its key (`broadcasts_complete_iff`).

A statement of the database that fails throws before memory is touched; such a call is no call.
-/
import Aeolus.Demo.DemoRoutes
import Aeolus.Theory.Replica

namespace Aeolus.Automations.StateBroadcast

open Aeolus.Core Aeolus.Db Aeolus.Theory
open Aeolus.Demo (Request Server RuleState StateEntry Effects DemoAccessColumn)

/-! ## The store -/

/-- A row of `automation_state`. -/
structure StateRow where
  ruleId : String
  key : String
  value : String

/-- `stateStore.getAll(ruleId)`, key by key. -/
def getAll (server : Server) (ruleId : String) : String → Option Json := fun key =>
  ((server.getAll ruleId).get key).map StateEntry.value

/-- `stateStore.delete(ruleId, key)`, in memory.  A rule without entries is forgotten. -/
def storeDelete (ruleId key : String) (server : Server) : Server :=
  match server.stateStore.get ruleId with
  | none => server
  | some ruleMap =>
      let rest := ruleMap.delete key
      if rest.size = 0 then { server with stateStore := server.stateStore.delete ruleId }
      else server.put ruleId rest

/-! ## Events -/

/-- `AUTOMATION_STATE_CHANGE` -/
structure StateChange where
  ruleId : String
  key : String
  value : Json

/-- The event of a write that changed something. -/
def announce (ruleId : String) (written : Option (String × Json)) : List StateChange :=
  (written.map fun entry => ⟨ruleId, entry.1, entry.2⟩).toList

/-- An event of the rule, on what is known of its state. -/
def update (ruleId : String) (known : String → Option Json) (event : StateChange) :
    String → Option Json :=
  if event.ruleId = ruleId then fun key => if key = event.key then some event.value else known key
  else known

/-- `setRuleState` of the client, for the rule it holds the state of. -/
def setRuleState (ruleId : String) (client : JsonObject) (event : StateChange) : JsonObject :=
  if event.ruleId = ruleId then client.set event.key event.value else client

/-! ## Calls -/

inductive Call where
  /-- `__stateSetRef`, from a script of the rule -/
  | scriptSet (ruleId key jsonValue : String)
  /-- `__stateDeleteRef` -/
  | scriptDelete (ruleId key : String)
  /-- `PUT /:id/state` -/
  | put (req : Request) (id : String)
  /-- `DELETE /:id/state/:key` -/
  | delete (req : Request) (id key : String)
  /-- `POST /:id/fire` -/
  | fire (req : Request) (id : String)
  /-- Rules and permissions change. -/
  | elsewhere (automationRules : String → Option DemoAccessColumn)
      (registered : String → Option String) (mayInteract : String → String → Bool)

section Calls

-- `parse` and `stringify` are `JSON.parse` and `JSON.stringify`
variable (parse : String → Option Json) (stringify : Json → String)

/-- One row of `loadFromDb`; a row that does not parse is skipped. -/
def loadRow (store : OrderedMap String RuleState) (row : StateRow) : OrderedMap String RuleState :=
  match parse row.value with
  | none => store
  | some value =>
      let ruleMap := (store.get row.ruleId).getD .empty
      store.set row.ruleId (ruleMap.set row.key ⟨value, row.value⟩)

/-- `loadFromDb` -/
def loadFromDb (rows : List StateRow) : OrderedMap String RuleState :=
  rows.foldl (loadRow parse) .empty

/-- `__stateSetRef`: `state.set` of a script.  A text that does not parse is dropped. -/
def stateSetRef (ruleId key jsonValue : String) : Handler Failure Server Effects :=
  match parse jsonValue with
  | none => pure { written := none, firing := none }
  | some parsed => do
      let written ← Demo.setState stringify ruleId key (some parsed)
      pure { written, firing := none }

/-- `__stateDeleteRef`: `state.delete` of a script. -/
def stateDeleteRef (ruleId key : String) : Handler Failure Server Effects := do
  Handler.modify (storeDelete ruleId key)
  pure { written := none, firing := none }

/-- `DELETE /:id/state/:key` -/
def deleteState (req : Request) (id key : String) : Handler Failure Server Effects := do
  Demo.requireAutomation req id
  Handler.modify (storeDelete id key)
  pure { written := none, firing := none }

/-- The rule that a call is about. -/
def Call.rule : Call → String
  | .scriptSet ruleId _ _ => ruleId
  | .scriptDelete ruleId _ => ruleId
  | .put _ id => id
  | .delete _ id _ => id
  | .fire _ id => id
  | .elsewhere _ _ _ => ""

def Call.handle : Call → Handler Failure Server Effects
  | .scriptSet ruleId key jsonValue => stateSetRef parse stringify ruleId key jsonValue
  | .scriptDelete ruleId key => stateDeleteRef ruleId key
  | .put req id => Demo.putState stringify req id
  | .delete req id key => deleteState req id key
  | .fire req id => Demo.fireAutomation stringify req id
  | .elsewhere automationRules registered mayInteract => do
      Handler.modify fun server => { server with automationRules, registered, mayInteract }
      pure { written := none, firing := none }

/-- The server after a call. -/
def perform (server : Server) (call : Call) : Server := (call.handle parse stringify server).2

/-- The events of a call: a handler announces what it wrote. -/
def emits (server : Server) (call : Call) : List StateChange :=
  match (call.handle parse stringify server).1 with
  | .ok effects => announce call.rule effects.written
  | .error _ => []

end Calls

/-- The call deletes an entry that the rule has. -/
def Call.Removes (ruleId : String) (server : Server) : Call → Prop
  | .scriptDelete rule key => rule = ruleId ∧ (getAll server ruleId key).isSome
  | .delete req id key =>
      id = ruleId ∧ Demo.requireInteract req id server = .ok () ∧
        (getAll server ruleId key).isSome
  | _ => False

/-! ## What a handler writes -/

section Writes

variable {stringify : Json → String} {ruleId : String} {β : Type}

/-- A handler that calls `stateStore.set` at most once, as its last step on the store, and
announces what came of it. -/
def Writes (stringify : Json → String) (ruleId : String) (h : Handler Failure Server Effects) :
    Prop :=
  ∀ server,
    ((h server).2 = server ∧ ∀ effects, (h server).1 = .ok effects → effects.written = none) ∨
      ∃ key value effects after,
        Demo.setState stringify ruleId key (some value) server = (.ok effects.written, after) ∧
          h server = (.ok effects, after)

theorem writes_pure (firing : Option Demo.Firing) :
    Writes stringify ruleId (pure { written := none, firing }) := by
  intro server
  refine .inl ⟨rfl, fun effects done => ?_⟩
  cases done
  rfl

theorem writes_setState (key : String) (value : Option Json) (firing : Option Demo.Firing) :
    Writes stringify ruleId (do
      let written ← Demo.setState stringify ruleId key value
      pure { written, firing }) := by
  intro server
  cases value with
  | none =>
      refine .inl ⟨rfl, fun effects done => ?_⟩
      cases done
      rfl
  | some value =>
      refine .inr ?_
      have total : ∃ written after,
          Demo.setState stringify ruleId key (some value) server = (.ok written, after) := by
        unfold Demo.setState
        dsimp only
        split
        · exact ⟨_, _, rfl⟩
        · exact ⟨_, _, rfl⟩
      obtain ⟨written, after, stored⟩ := total
      exact ⟨key, value, { written, firing }, after, stored, Handler.bind_of_ok stored⟩

/-- Checks before it. -/
theorem Writes.after {h : Handler Failure Server β} {k : β → Handler Failure Server Effects}
    (first : h.ReadOnly) (next : ∀ b, Writes stringify ruleId (k b)) :
    Writes stringify ruleId (h >>= k) := by
  intro server
  rw [Handler.bind_apply]
  rcases ran : h server with ⟨e | b, after⟩
  · obtain rfl := first.store_eq ran
    exact .inl ⟨rfl, fun effects done => nomatch done⟩
  · obtain rfl := first.store_eq ran
    exact next b after

theorem readOnly_requireAutomation (req : Request) (id : String) :
    (Demo.requireAutomation req id).ReadOnly := fun _ => rfl

theorem readOnly_getRule (id : String) : (Demo.getRule id).ReadOnly := fun _ => rfl

theorem writes_stateSetRef (parse : String → Option Json) (key jsonValue : String) :
    Writes stringify ruleId (stateSetRef parse stringify ruleId key jsonValue) := by
  unfold stateSetRef
  split
  · exact writes_pure none
  · exact writes_setState key _ none

theorem writes_putState (req : Request) :
    Writes stringify ruleId (Demo.putState stringify req ruleId) := by
  refine .after (readOnly_requireAutomation req ruleId) fun _ => ?_
  refine .after (Handler.readOnly_check _) fun ⟨key, value⟩ => ?_
  refine .after (Handler.readOnly_check _) fun _ => ?_
  exact writes_setState key value none

theorem writes_fireAutomation (req : Request) :
    Writes stringify ruleId (Demo.fireAutomation stringify req ruleId) := by
  refine .after (readOnly_requireAutomation req ruleId) fun _ => ?_
  refine .after (readOnly_getRule ruleId) fun topic => ?_
  unfold Demo.fireWith
  split
  · refine .after (Handler.readOnly_check _) fun key => ?_
    refine .after (Handler.readOnly_check _) fun value => ?_
    exact writes_setState key (some value) _
  · refine .after (Handler.readOnly_check _) fun firing => ?_
    exact writes_pure (some firing)

end Writes

/-! ## What a call does -/

section Did

variable {parse : String → Option Json} {stringify : Json → String}

/-- What a call did to the store, with the events it emitted. -/
inductive Did (stringify : Json → String) (server after : Server) (call : Call) :
    List StateChange → Prop where
  /-- Nothing, and told nobody. -/
  | nothing (same : after.stateStore = server.stateStore)
      (keeps : ∀ ruleId, ¬call.Removes ruleId server) : Did stringify server after call []
  /-- It wrote a text that was not there, and announced it. -/
  | wrote (key : String) (value : Json)
      (fresh : ((server.getAll call.rule).get key).map StateEntry.serialized ≠
        some (stringify value))
      (same : after.stateStore = (server.put call.rule
        ((server.getAll call.rule).set key ⟨value, stringify value⟩)).stateStore)
      (keeps : ∀ ruleId, ¬call.Removes ruleId server) :
      Did stringify server after call [⟨call.rule, key, value⟩]
  /-- It deleted a key, and told nobody. -/
  | deleted (key : String) (same : after.stateStore = (storeDelete call.rule key server).stateStore)
      (removes : ∀ ruleId,
        call.Removes ruleId server ↔ call.rule = ruleId ∧ (getAll server ruleId key).isSome) :
      Did stringify server after call []

theorem did_of_writes {server : Server} {call : Call}
    (writes : Writes stringify call.rule (call.handle parse stringify))
    (keeps : ∀ ruleId, ¬call.Removes ruleId server) :
    Did stringify server (perform parse stringify server call) call
      (emits parse stringify server call) := by
  unfold perform emits
  rcases writes server with ⟨same, silent⟩ | ⟨key, value, effects, after, stored, ran⟩
  · rw [same]
    split
    · rename_i effects done
      rw [silent effects done]
      exact .nothing rfl keeps
    · exact .nothing rfl keeps
  · rw [ran]
    unfold Demo.setState at stored
    dsimp only at stored ⊢
    split at stored
    · obtain ⟨written, rfl⟩ := Prod.mk.inj stored
      rw [← Except.ok.inj written]
      exact .nothing rfl keeps
    · rename_i fresh
      obtain ⟨written, rfl⟩ := Prod.mk.inj stored
      rw [← Except.ok.inj written]
      exact .wrote key value fresh rfl keeps

/-- A write that changes the store is announced; a delete is not. -/
theorem perform_did (server : Server) (call : Call) :
    Did stringify server (perform parse stringify server call) call
      (emits parse stringify server call) := by
  cases call with
  | scriptSet ruleId key jsonValue =>
      exact did_of_writes (writes_stateSetRef parse key jsonValue) fun _ removes => removes
  | put req id => exact did_of_writes (writes_putState req) fun _ removes => removes
  | fire req id => exact did_of_writes (writes_fireAutomation req) fun _ removes => removes
  | elsewhere automationRules registered mayInteract =>
      exact .nothing rfl fun _ removes => removes
  | scriptDelete ruleId key => exact .deleted key rfl fun _ => Iff.rfl
  | delete req id key =>
      cases allowed : Demo.requireInteract req id server with
      | error e =>
          have refused : deleteState req id key server = (.error e, server) := by
            simp [deleteState, Handler.bind_apply, Demo.requireAutomation, allowed]
          have silent : emits parse stringify server (.delete req id key) = [] := by
            simp [emits, Call.handle, refused]
          rw [silent]
          refine .nothing (by simp [perform, Call.handle, refused]) fun ruleId removes => ?_
          rw [removes.2.1] at allowed
          cases allowed
      | ok _ =>
          have deleted : deleteState req id key server =
              (.ok { written := none, firing := none }, storeDelete id key server) := by
            simp [deleteState, Handler.bind_apply, Demo.requireAutomation, allowed]
            rfl
          have silent : emits parse stringify server (.delete req id key) = [] := by
            simp [emits, Call.handle, deleted, announce]
          rw [silent]
          refine .deleted key (by simp [perform, Call.handle, deleted, Call.rule]) fun ruleId => ?_
          constructor
          · rintro ⟨here, -, present⟩
            exact ⟨here, present⟩
          · rintro ⟨here, present⟩
            exact ⟨here, allowed, present⟩

end Did

/-! ## The state of a rule after a call -/

theorem getAll_congr {server after : Server} (same : after.stateStore = server.stateStore)
    (ruleId : String) : getAll after ruleId = getAll server ruleId := by
  unfold getAll Server.getAll
  rw [same]

theorem getAll_set (server : Server) (rule key : String) (entry : StateEntry)
    (ruleId k : String) :
    getAll (server.put rule ((server.getAll rule).set key entry)) ruleId k =
      if rule = ruleId ∧ k = key then some entry.value else getAll server ruleId k := by
  unfold getAll Server.put Server.getAll
  by_cases here : rule = ruleId
  · subst here
    by_cases same : k = key
    · simp [same]
    · simp [OrderedMap.get_set_of_ne _ _ same, same]
  · have apart : ruleId ≠ rule := fun same => here same.symm
    simp [OrderedMap.get_set_of_ne _ _ apart, here]

/-- The rule's map without the key; a rule without entries reads as an empty map. -/
theorem getAll_storeDelete_self (server : Server) (rule key : String) :
    ((storeDelete rule key server).getAll rule).entries =
      ((server.getAll rule).delete key).entries := by
  unfold storeDelete
  split
  · rename_i absent
    simp [Server.getAll, absent, OrderedMap.delete]
  · rename_i ruleMap held
    dsimp only
    split
    · rename_i emptied
      have nothing : (ruleMap.delete key).entries = [] := List.eq_nil_of_length_eq_zero emptied
      simp [Server.getAll, held, nothing]
    · simp [Server.getAll, Server.put, held]

theorem getAll_storeDelete_of_ne (server : Server) {rule ruleId : String} (apart : ruleId ≠ rule)
    (key : String) : (storeDelete rule key server).getAll ruleId = server.getAll ruleId := by
  unfold storeDelete
  split
  · rfl
  · dsimp only
    split
    · simp [Server.getAll, OrderedMap.get_delete_of_ne _ apart]
    · simp [Server.getAll, Server.put, OrderedMap.get_set_of_ne _ _ apart]

theorem getAll_storeDelete (server : Server) (rule key ruleId k : String) :
    getAll (storeDelete rule key server) ruleId k =
      if rule = ruleId ∧ k = key then none else getAll server ruleId k := by
  unfold getAll
  by_cases here : rule = ruleId
  · subst here
    rw [OrderedMap.ext (getAll_storeDelete_self server rule key), OrderedMap.get_delete]
    by_cases same : k = key
    · simp [same]
    · simp [same]
  · rw [getAll_storeDelete_of_ne server (fun same => here same.symm), if_neg fun both => here both.1]

section Broadcasts

variable {parse : String → Option Json} {stringify : Json → String}

/-- A call's events say all that it does to a rule unless it deletes one of its entries. -/
theorem accounts_iff (ruleId : String) (server : Server) (call : Call) :
    Replica.Accounts (perform parse stringify) (emits parse stringify) (update ruleId)
      (getAll · ruleId) server call ↔ ¬call.Removes ruleId server := by
  change (emits parse stringify server call).foldl (update ruleId) (getAll server ruleId) =
    getAll (perform parse stringify server call) ruleId ↔ _
  have did : Did stringify server (perform parse stringify server call) call
    (emits parse stringify server call) := perform_did server call
  generalize emits parse stringify server call = events at did
  generalize perform parse stringify server call = after at did
  cases did with
  | nothing same keeps => exact iff_of_true (getAll_congr same ruleId).symm (keeps ruleId)
  | wrote key value fresh same keeps =>
      refine iff_of_true ?_ (keeps ruleId)
      funext k
      rw [getAll_congr same, getAll_set]
      by_cases here : call.rule = ruleId
      · simp [update, here]
      · simp [update, here]
  | deleted key same removes =>
      rw [removes, List.foldl_nil]
      constructor
      · rintro told ⟨rfl, present⟩
        have gone := congrFun told key
        rw [getAll_congr same, getAll_storeDelete, if_pos ⟨rfl, rfl⟩] at gone
        rw [gone] at present
        cases present
      · intro absent
        funext k
        rw [getAll_congr same, getAll_storeDelete]
        split
        · rename_i here
          obtain ⟨rule, rfl⟩ := here
          rw [← Option.not_isSome_iff_eq_none]
          exact fun present => absent ⟨rule, present⟩
        · rfl

/-! ## What is persisted -/

/-- Every value is persisted as the text it serializes to. -/
def Persisted (stringify : Json → String) (server : Server) : Prop :=
  ∀ ruleId key entry, (server.getAll ruleId).get key = some entry →
    entry.serialized = stringify entry.value

theorem Persisted.set {server : Server} (persisted : Persisted stringify server)
    (rule key : String) (value : Json) : Persisted stringify
      (server.put rule ((server.getAll rule).set key ⟨value, stringify value⟩)) := by
  intro ruleId k entry found
  by_cases here : ruleId = rule
  · subst here
    rw [Server.getAll_put, OrderedMap.get_set] at found
    split at found
    · cases found
      rfl
    · exact persisted ruleId k entry found
  · refine persisted ruleId k entry ?_
    rw [← found]
    simp [Server.getAll, Server.put, OrderedMap.get_set_of_ne _ _ here]

theorem Persisted.storeDelete {server : Server} (persisted : Persisted stringify server)
    (rule key : String) : Persisted stringify (storeDelete rule key server) := by
  intro ruleId k entry found
  by_cases here : ruleId = rule
  · subst here
    rw [OrderedMap.ext (getAll_storeDelete_self server ruleId key), OrderedMap.get_delete] at found
    split at found
    · cases found
    · exact persisted ruleId k entry found
  · rw [getAll_storeDelete_of_ne server here] at found
    exact persisted ruleId k entry found

theorem Persisted.congr {server after : Server} (persisted : Persisted stringify server)
    (same : after.stateStore = server.stateStore) : Persisted stringify after := by
  unfold Persisted Server.getAll
  rw [same]
  exact persisted

theorem Persisted.perform {server : Server} (persisted : Persisted stringify server)
    (call : Call) : Persisted stringify (perform parse stringify server call) := by
  have did : Did stringify server (StateBroadcast.perform parse stringify server call) call
    (emits parse stringify server call) := perform_did server call
  generalize emits parse stringify server call = events at did
  cases did with
  | nothing same _ => exact persisted.congr same
  | wrote key value _ same _ => exact (persisted.set call.rule key value).congr same
  | deleted key same _ => exact (persisted.storeDelete call.rule key).congr same

/-- The texts of the rows are what `JSON.stringify` makes of the values they parse to. -/
def Canonical (parse : String → Option Json) (stringify : Json → String) (rows : List StateRow) :
    Prop :=
  ∀ row ∈ rows, ∀ value, parse row.value = some value → stringify value = row.value

theorem persisted_foldl {rows : List StateRow} (canonical : Canonical parse stringify rows)
    {server : Server} (persisted : Persisted stringify server) : Persisted stringify
      { server with stateStore := rows.foldl (loadRow parse) server.stateStore } := by
  induction rows generalizing server with
  | nil => exact persisted
  | cons row rows ih =>
      have later : Canonical parse stringify rows := fun other member =>
        canonical other (List.mem_cons_of_mem _ member)
      rw [List.foldl_cons, loadRow]
      split
      · exact ih later persisted
      · rename_i value parsed
        rw [← canonical row List.mem_cons_self value parsed]
        exact ih later (persisted.set row.ruleId row.key value)

theorem persisted_loadFromDb {rows : List StateRow} (canonical : Canonical parse stringify rows)
    {server : Server} (booted : server.stateStore = loadFromDb parse rows) :
    Persisted stringify server := by
  have empty : Persisted stringify { server with stateStore := .empty } := by
    intro ruleId key entry found
    simp [Server.getAll] at found
  exact (persisted_foldl canonical empty).congr booted

/-- If a call leaves the state of every rule as it was, it tells nobody. -/
def Quiet (parse : String → Option Json) (stringify : Json → String) (server : Server)
    (call : Call) : Prop :=
  getAll (perform parse stringify server call) = getAll server →
    emits parse stringify server call = []

theorem quiet {server : Server} (persisted : Persisted stringify server) (call : Call) :
    Quiet parse stringify server call := by
  intro same
  have did : Did stringify server (perform parse stringify server call) call
    (emits parse stringify server call) := perform_did server call
  generalize emits parse stringify server call = events at did
  cases did with
  | nothing => rfl
  | deleted => rfl
  | wrote key value fresh stored _ =>
      -- the value was there already, and its text with it
      have there := congrFun (congrFun same call.rule) key
      rw [getAll_congr stored, getAll_set, if_pos ⟨rfl, rfl⟩] at there
      obtain ⟨entry, found, rfl⟩ := Option.map_eq_some_iff.mp there.symm
      refine absurd ?_ fresh
      rw [found, Option.map_some, persisted call.rule key entry found]

/-! ## Runs -/

/-- The rule's client after a run: it applies the events in the order in which they come. -/
def clientAfter (parse : String → Option Json) (stringify : Json → String) (ruleId : String)
    (server : Server) (client : JsonObject) (calls : List Call) : JsonObject :=
  (run (Replica.follow (perform parse stringify) (emits parse stringify) (setRuleState ruleId))
    (server, client) calls).2

theorem get_setRuleState (ruleId : String) (client : JsonObject) (event : StateChange) :
    (setRuleState ruleId client event).get = update ruleId client.get event := by
  unfold setRuleState update
  split
  · funext key
    exact OrderedMap.get_set client event.key key event.value
  · rfl

/-- **Which runs a client can follow.**  From the rows of `automation_state`, after any
`earlier` calls, a client takes a copy of a rule's state and applies every event that comes.
It holds the rule's state after each of the `later` calls, and no call that changed nothing
emitted an event, if and only if no later call deletes an entry that the rule has. -/
theorem broadcasts_complete_iff {parse : String → Option Json} {stringify : Json → String}
    {rows : List StateRow} (canonical : Canonical parse stringify rows) {server : Server}
    (booted : server.stateStore = loadFromDb parse rows) (earlier later : List Call)
    (ruleId : String) {client : JsonObject}
    (copied : client.get = getAll (run (perform parse stringify) server earlier) ruleId) :
    ((∀ calls, calls <+: later →
        (clientAfter parse stringify ruleId (run (perform parse stringify) server earlier) client
            calls).get =
          getAll (run (perform parse stringify) server (earlier ++ calls)) ruleId) ∧
      Along (perform parse stringify) (Quiet parse stringify) server (earlier ++ later)) ↔
      Along (perform parse stringify) (fun server call => ¬call.Removes ruleId server)
        (run (perform parse stringify) server earlier) later := by
  have silent := @along_of_invariant _ _ (perform parse stringify) (Persisted stringify)
    (Quiet parse stringify) (fun _ call kept => kept.perform call)
    (fun _ call kept => quiet kept call) _ (persisted_loadFromDb canonical booted)
    (earlier ++ later)
  have agrees := @Replica.agrees_iff_along _ _ _ _ _ (perform parse stringify)
    (emits parse stringify) (setRuleState ruleId) (update ruleId) (getAll · ruleId)
    (OrderedMap.get ·) (get_setRuleState ruleId)
    (run (perform parse stringify) server earlier, client) copied later
  rw [along_congr (accounts_iff ruleId)] at agrees
  rw [and_iff_left silent, ← agrees]
  simp only [run_append, clientAfter]

end Broadcasts

/-! ## Poles -/

/-- `JSON.parse` and `JSON.stringify` of whole numbers below ten. -/
def parseDigit (text : String) : Option Json :=
  match text.toList with
  | [c] => if c.isDigit then some (.num ((c.toNat - '0'.toNat : Nat) : ℚ)) else none
  | _ => none

def stringifyDigit : Json → String
  | .num value => String.singleton (Char.ofNat (value.num.toNat + '0'.toNat))
  | _ => ""

/-- A server without rows. -/
def emptyServer : Server where
  automationRules _ := none
  accessCache := .empty
  stateStore := loadFromDb parseDigit []
  registered _ := none
  mayInteract _ _ := false

/-- A script writes a key. -/
def modeSet : List Call := [.scriptSet "rule-1" "mode" "1"]

/-- The copy that a client takes then. -/
def modeClient : JsonObject := .ofFields [("mode", .num 1)]

theorem modeClient_copied : modeClient.get =
    getAll (run (perform parseDigit stringifyDigit) emptyServer modeSet) "rule-1" := by
  have stored : ((run (perform parseDigit stringifyDigit) emptyServer modeSet).getAll
      "rule-1").entries = [("mode", ⟨.num 1, "1"⟩)] := by rfl
  have client : modeClient.entries = [("mode", .num 1)] := rfl
  funext key
  by_cases here : key = "mode"
  · simp [getAll, OrderedMap.get, stored, client, here]
  · simp [getAll, OrderedMap.get, stored, client, Ne.symm here]

/-- The script deletes the key again: its client keeps it. -/
theorem deleted_key_stays_with_client :
    modeClient.get = getAll (run (perform parseDigit stringifyDigit) emptyServer modeSet) "rule-1" ∧
      (clientAfter parseDigit stringifyDigit "rule-1"
          (run (perform parseDigit stringifyDigit) emptyServer modeSet) modeClient
          [.scriptDelete "rule-1" "mode"]).get ≠
        getAll (run (perform parseDigit stringifyDigit) emptyServer
          (modeSet ++ [.scriptDelete "rule-1" "mode"])) "rule-1" := by
  refine ⟨modeClient_copied, fun same => ?_⟩
  have here := congrArg Option.isSome (congrFun same "mode")
  revert here
  decide

theorem broadcasts_complete_rewrite :
    (clientAfter parseDigit stringifyDigit "rule-1"
        (run (perform parseDigit stringifyDigit) emptyServer modeSet) modeClient
        [.scriptSet "rule-1" "mode" "2"]).get =
      getAll (run (perform parseDigit stringifyDigit) emptyServer
        (modeSet ++ [.scriptSet "rule-1" "mode" "2"])) "rule-1" := by
  have canonical : Canonical parseDigit stringifyDigit [] := fun _ member => nomatch member
  have complete := broadcasts_complete_iff canonical
    (rfl : emptyServer.stateStore = loadFromDb parseDigit []) modeSet
    [.scriptSet "rule-1" "mode" "2"] "rule-1" modeClient_copied
  exact (complete.mpr ⟨fun removes => removes, trivial⟩).1 _ List.prefix_rfl

end Aeolus.Automations.StateBroadcast
