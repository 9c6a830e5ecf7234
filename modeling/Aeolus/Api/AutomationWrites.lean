/-
# Aeolus.Api.AutomationWrites — what each automation handler does to the database

For every handler of `AutomationRoutes`: when it throws, the server is as it was
(`…_atomic`), and when it returns, which rule it rewrote, removed or inserted, and from
which revision (`…_ensures`).  A handler that suspends has changed nothing.

The row an UPDATE has just changed is there for the handler to register again, so
nothing can throw between the commit and the answer.
-/
import Aeolus.Api.AutomationRoutes

namespace Aeolus.Api

open Aeolus.Core Aeolus.Db Aeolus.Automations Aeolus.Theory Aeolus.Theory.Handler

/-! ## Statements on the server's database -/

theorem onDb_ok {α : Type} {statement : Statement α} {server server' : Server} {a : α}
    (returned : onDb statement server = (.ok a, server')) :
    ∃ db', statement server.db = (.ok a, db') ∧ server' = { server with db := db' } :=
  zoom_ok returned

theorem onDb_atomic {α : Type} {statement : Statement α} (atomic : Atomic statement) :
    Atomic (onDb statement) := atomic.zoom fun _ => rfl

theorem guardedUpdate_spec (id : String) (expected : Nat) (assign : StoredRule → StoredRule) :
    Atomic (guardedUpdate id expected assign) ∧
      Ensures (guardedUpdate id expected assign) fun db _ db' =>
        db.Rewrites id expected assign db' :=
  requireOneChange_spec conflict (updateRule_cases id expected assign)

theorem guardedDelete_spec (id : String) (expected : Nat) :
    Atomic (guardedDelete id expected) ∧
      Ensures (guardedDelete id expected) fun db _ db' => db.Removes id expected db' :=
  requireOneChange_spec _ (deleteRule_cases id expected)

theorem storeScript_ensures (update : RuleUpdate) (compiled : Option CompiledAutomationProject)
    (now : Nat) :
    Ensures (storeScript update compiled now) fun db _ db' =>
      db.Rewrites update.id update.expectedRevision (scriptColumns update compiled) db' := by
  intro db _ db' returned
  obtain ⟨_, mid, updated, saved⟩ := bind_ok returned
  obtain ⟨layout, row, found, current, rules⟩ := (guardedUpdate_spec _ _ _).2 _ _ _ updated
  cases compiled with
  | none =>
      cases saved
      exact ⟨layout, row, found, current, rules⟩
  | some project =>
      obtain ⟨layout', rules'⟩ := saveAutomationProject_rules _ _ _ _ _ _ saved
      exact ⟨layout'.trans layout, row, found, current, rules'.trans rules⟩

theorem storeProject_ensures (id : String) (expected : Nat)
    (compiled : CompiledAutomationProject) (now : Nat) :
    Ensures (storeProject id expected compiled now) fun db _ db' =>
      db.Rewrites id expected (projectColumns compiled) db' := by
  intro db _ db' returned
  obtain ⟨_, mid, updated, saved⟩ := bind_ok returned
  obtain ⟨layout, row, found, current, rules⟩ := (guardedUpdate_spec _ _ _).2 _ _ _ updated
  obtain ⟨layout', rules'⟩ := saveAutomationProject_rules _ _ _ _ _ _ saved
  exact ⟨layout'.trans layout, row, found, current, rules'.trans rules⟩

theorem storeCreated_ensures (id : String) (row : StoredRule)
    (compiled : CompiledAutomationProject) (now : Nat) :
    Ensures (storeCreated id row compiled now) fun db _ db' => db.Inserts id row db' := by
  intro db _ db' returned
  obtain ⟨_, mid, inserted, saved⟩ := bind_ok returned
  obtain ⟨layout, absent, rules⟩ := insertRule_ensures _ _ _ _ _ inserted
  obtain ⟨layout', rules'⟩ := saveAutomationProject_rules _ _ _ _ _ _ saved
  exact ⟨layout'.trans layout, absent, rules'.trans rules⟩

/-! ## Guards -/

section Handlers

variable (env : Env)

theorem existingRule_readOnly (id : String) : ReadOnly (existingRule id) := by
  refine (readOnly_asks _).bind fun row => ?_
  cases row with
  | none => exact readOnly_check _
  | some rule => exact readOnly_pure rule

theorem existingRule_ok {id : String} {server server' : Server} {rule : StoredRule}
    (returned : existingRule id server = (.ok rule, server')) :
    server' = server ∧ server.db.queryRuleById id = some rule := by
  cases found : server.db.queryRuleById id with
  | none =>
      simp only [existingRule, bind_apply, asks_apply, found] at returned
      cases returned
  | some rule' =>
      simp only [existingRule, bind_apply, asks_apply, found] at returned
      cases returned
      exact ⟨rfl, rfl⟩

theorem guardAutomation_readOnly (head : RequestHead) : ReadOnly (guardAutomation env head) :=
  (readOnly_asks _).bind fun _ => readOnly_check _

/-! ## Commit, register again, answer -/

theorem reregister_of_present {id : String} {server : Server} {row : StoredRule}
    (present : server.db.queryRuleById id = some row) :
    ∃ server', reregister env id server = (.ok row, server') ∧ server'.db = server.db := by
  rcases outcome : reregister env id server with ⟨result, server'⟩
  simp only [reregister, bind_apply, modify_apply, asks_apply, present] at outcome
  cases outcome
  refine ⟨_, rfl, ?_⟩
  split <;> rfl

/-- What an update does from its statement on: the tail finds the row it has just
written, so it cannot throw. -/
theorem commit_spec {statement : Statement Unit} {id : String} {expected : Nat}
    {assign : StoredRule → StoredRule} {answer : StoredRule → Handler Failure Server Response}
    (atomic : Atomic statement)
    (ensures : Ensures statement fun db _ db' => db.Rewrites id expected assign db')
    (total : ∀ row, Total (answer row)) (readOnly : ∀ row, ReadOnly (answer row)) :
    let commit := do
      onDb statement
      let updated ← reregister env id
      answer updated
    Atomic commit ∧ Ensures commit fun server _ server' =>
      server.db.Rewrites id expected assign server'.db := by
  intro commit
  have present {server server' : Server} {u : Unit}
      (returned : onDb statement server = (.ok u, server')) :
      server.db.Rewrites id expected assign server'.db ∧
        ∃ row, server'.db.queryRuleById id = some row := by
    obtain ⟨db', stored, rfl⟩ := onDb_ok returned
    have rewrites := ensures _ _ _ stored
    obtain ⟨row, found, _⟩ := rewrites.after
    exact ⟨rewrites, row, found⟩
  constructor
  · refine (onDb_atomic atomic).then_safe fun server _ server' returned e server'' threw => ?_
    obtain ⟨_, row, found⟩ := present returned
    obtain ⟨server₁, registered, _⟩ := reregister_of_present env found
    rcases bind_error threw with here | ⟨updated, server₂, here, later⟩
    · rw [registered] at here
      cases here
    · exact total updated _ _ _ later
  · intro server response server' returned
    obtain ⟨_, mid, stored, rest⟩ := bind_ok returned
    obtain ⟨rewrites, row, found⟩ := present stored
    obtain ⟨server₁, registered, same⟩ := reregister_of_present env found
    obtain ⟨updated, server₂, here, answered⟩ := bind_ok rest
    rw [registered] at here
    cases here
    rw [(readOnly _).store_eq answered, same]
    exact rewrites

theorem finishScriptUpdate_spec (update : RuleUpdate)
    (compiled : Option CompiledAutomationProject) (now : Nat) :
    Atomic (finishScriptUpdate env update compiled now) ∧
      Ensures (finishScriptUpdate env update compiled now) fun server _ server' =>
        server.db.Rewrites update.id update.expectedRevision (scriptColumns update compiled)
          server'.db := by
  have spec := commit_spec env (atomic_atomically _)
    (fun db u db' stored => storeScript_ensures update compiled now db u db' (atomically_ok stored))
    (fun row => total_pure (.automation update.id row.revision)) (fun row => readOnly_pure _)
  unfold finishScriptUpdate
  dsimp only
  split
  · exact ⟨(readOnly_check _).atomic, fun _ _ _ returned => by cases returned⟩
  · exact spec

theorem finishFormUpdate_spec (update : RuleUpdate) :
    Atomic (finishFormUpdate env update) ∧
      Ensures (finishFormUpdate env update) fun server _ server' =>
        ∃ ui, server.db.Rewrites update.id update.expectedRevision (formColumns update ui)
          server'.db := by
  have stored (ui : ResolvedUi) :=
    guardedUpdate_spec update.id update.expectedRevision (formColumns update ui)
  have spec (ui : ResolvedUi) := commit_spec env (stored ui).1 (stored ui).2
    (fun row => total_pure (.automation update.id row.revision)) (fun row => readOnly_pure _)
  refine ⟨Atomic.after_readOnly (readOnly_check _) fun ui => (spec ui).1, ?_⟩
  intro server response server' returned
  obtain ⟨ui, _, rest⟩ := check_ok returned
  exact ⟨ui, (spec ui).2 _ _ _ rest⟩

theorem finishProject_spec (id : String) (expected : Nat) (compiled : CompiledAutomationProject)
    (now : Nat) :
    Atomic (finishProject env id expected compiled now) ∧
      Ensures (finishProject env id expected compiled now) fun server _ server' =>
        server.db.Rewrites id expected (projectColumns compiled) server'.db :=
  commit_spec env (atomic_atomically _)
    (fun db u db' stored =>
      storeProject_ensures id expected compiled now db u db' (atomically_ok stored))
    (fun _ => total_asks _) (fun _ => readOnly_asks _)

/-! ## The handlers -/

/-- What an update did before it answered or suspended. -/
theorem startUpdate_spec (update : RuleUpdate) (now : Nat) :
    Atomic (startUpdate env update now) ∧
      Ensures (startUpdate env update now) fun server phase server' =>
        match phase with
        | .answered _ => ∃ assign,
            server.db.Rewrites update.id update.expectedRevision assign server'.db
        | .awaiting pending => server' = server ∧ pending = .update update := by
  unfold startUpdate
  cases update.existing.ruleType with
  | form =>
      have spec := finishFormUpdate_spec env update
      refine ⟨spec.1.map _, fun server phase server' returned => ?_⟩
      obtain ⟨response, finished, rfl⟩ := map_ok returned
      obtain ⟨ui, rewrites⟩ := spec.2 _ _ _ finished
      exact ⟨_, rewrites⟩
  | script =>
      dsimp only
      split
      · exact ⟨(readOnly_check _).atomic, fun _ _ _ returned => by cases returned⟩
      · split
        · refine ⟨(readOnly_pure _).atomic, fun _ _ _ returned => ?_⟩
          cases returned
          exact ⟨rfl, rfl⟩
        · have spec := finishScriptUpdate_spec env update none now
          refine ⟨spec.1.map _, fun server phase server' returned => ?_⟩
          obtain ⟨response, finished, rfl⟩ := map_ok returned
          exact ⟨_, spec.2 _ _ _ finished⟩

theorem putAutomation_atomic (head : RequestHead) (body : Option UpdateBody) (now : Nat) :
    Atomic (putAutomation env head body now) := by
  refine Atomic.after_readOnly (guardAutomation_readOnly env head) fun _ => ?_
  refine Atomic.after_readOnly (readOnly_check _) fun body => ?_
  refine Atomic.after_readOnly (existingRule_readOnly head.id) fun existing => ?_
  refine Atomic.after_readOnly (readOnly_check _) fun _ => ?_
  refine Atomic.after_readOnly (readOnly_check _) fun expected => ?_
  refine Atomic.after_readOnly (readOnly_check _) fun trigger => ?_
  exact (startUpdate_spec env _ now).1

/-- An update that suspends has read the row it will merge with, and its If-Match. -/
theorem putAutomation_ensures (head : RequestHead) (body : Option UpdateBody) (now : Nat) :
    Ensures (putAutomation env head body now) fun server phase server' =>
      match phase with
      | .answered _ => ∃ expected assign, requireIfMatchRevision head.ifMatch = .ok expected ∧
          server.db.Rewrites head.id expected assign server'.db
      | .awaiting pending => server' = server ∧ ∃ update, pending = .update update ∧
          update.id = head.id ∧ server.db.queryRuleById head.id = some update.existing := by
  intro server phase server' returned
  obtain ⟨_, _, returned⟩ := (guardAutomation_readOnly env head).bind_ok returned
  obtain ⟨body, _, returned⟩ := check_ok returned
  obtain ⟨existing, read, returned⟩ := (existingRule_readOnly head.id).bind_ok returned
  obtain ⟨_, _, returned⟩ := check_ok returned
  obtain ⟨expected, named, returned⟩ := check_ok returned
  obtain ⟨trigger, _, returned⟩ := check_ok returned
  have done := (startUpdate_spec env _ now).2 _ _ _ returned
  cases phase with
  | answered response =>
      obtain ⟨assign, rewrites⟩ := done
      exact ⟨expected, assign, named, rewrites⟩
  | awaiting pending =>
      obtain ⟨rfl, rfl⟩ := done
      exact ⟨rfl, _, rfl, rfl, (existingRule_ok read).2⟩

/-- A project update always suspends. -/
theorem putProject_ensures (head : RequestHead) (project : Option AutomationProject) :
    Ensures (putProject env head project) fun _ phase _ =>
      ∃ expected, requireIfMatchRevision head.ifMatch = .ok expected ∧
        phase = .awaiting (.project head.id expected) := by
  intro server phase server' returned
  obtain ⟨_, _, returned⟩ := (guardAutomation_readOnly env head).bind_ok returned
  obtain ⟨_, _, returned⟩ := check_ok returned
  obtain ⟨existing, _, returned⟩ := (existingRule_readOnly head.id).bind_ok returned
  obtain ⟨_, _, returned⟩ := check_ok returned
  split at returned
  · cases returned
  · obtain ⟨expected, named, answered⟩ := check_ok returned
    cases answered
    exact ⟨expected, named, rfl⟩

theorem putProject_readOnly (head : RequestHead) (project : Option AutomationProject) :
    ReadOnly (putProject env head project) := by
  refine (guardAutomation_readOnly env head).bind fun _ => ?_
  refine (readOnly_check _).bind fun _ => (existingRule_readOnly head.id).bind fun existing => ?_
  refine (readOnly_check _).bind fun _ => ?_
  split
  · exact readOnly_check _
  · exact (readOnly_check _).bind fun _ => readOnly_pure _

theorem deleteAutomation_spec (head : RequestHead) :
    Atomic (deleteAutomation env head) ∧
      Ensures (deleteAutomation env head) fun server _ server' =>
        ∃ expected, requireIfMatchRevision head.ifMatch = .ok expected ∧
          server.db.Removes head.id expected server'.db := by
  constructor
  · refine Atomic.after_readOnly (guardAutomation_readOnly env head) fun _ => ?_
    refine Atomic.after_readOnly (existingRule_readOnly head.id) fun existing => ?_
    refine Atomic.after_readOnly (readOnly_check _) fun _ => ?_
    refine Atomic.after_readOnly (readOnly_check _) fun expected => ?_
    refine (onDb_atomic (guardedDelete_spec head.id expected).1).then_total fun _ => ?_
    exact (total_modify _).bind fun _ => total_pure _
  · intro server response server' returned
    obtain ⟨_, _, returned⟩ := (guardAutomation_readOnly env head).bind_ok returned
    obtain ⟨existing, _, returned⟩ := (existingRule_readOnly head.id).bind_ok returned
    obtain ⟨_, _, returned⟩ := check_ok returned
    obtain ⟨expected, named, returned⟩ := check_ok returned
    obtain ⟨_, server₁, deleted, returned⟩ := bind_ok returned
    obtain ⟨db', stored, rfl⟩ := onDb_ok deleted
    cases returned
    exact ⟨expected, named, (guardedDelete_spec head.id expected).2 _ _ _ stored⟩

theorem toggleAutomation_spec (head : RequestHead) (enabled : Option Bool) :
    Atomic (toggleAutomation env head enabled) ∧
      Ensures (toggleAutomation env head enabled) fun server _ server' =>
        server.db.Keeps server'.db := by
  constructor
  · refine Atomic.after_readOnly (guardAutomation_readOnly env head) fun _ => ?_
    refine Atomic.after_readOnly (readOnly_check _) fun enabled => ?_
    refine Atomic.after_readOnly (existingRule_readOnly head.id) fun existing => ?_
    refine Atomic.after_readOnly (readOnly_check _) fun _ => ?_
    refine (onDb_atomic (setRuleEnabled_total head.id enabled).atomic).then_total fun _ => ?_
    exact (total_modify _).bind fun _ => total_pure _
  · intro server response server' returned
    obtain ⟨_, _, returned⟩ := (guardAutomation_readOnly env head).bind_ok returned
    obtain ⟨enabled, _, returned⟩ := check_ok returned
    obtain ⟨existing, _, returned⟩ := (existingRule_readOnly head.id).bind_ok returned
    obtain ⟨_, _, returned⟩ := check_ok returned
    obtain ⟨_, server₁, switched, returned⟩ := bind_ok returned
    obtain ⟨db', stored, rfl⟩ := onDb_ok switched
    cases returned
    exact setRuleEnabled_keeps _ _ _ _ _ stored

theorem announceCreated_total (id : String) (row : StoredRule) :
    Total (announceCreated env id row) :=
  (total_modify _).bind fun _ => total_pure _

/-- A create waits for its project, or has stored its row and announces it. -/
theorem createAutomation_ok {req : CreateRequest} {server server' : Server} {phase : Phase}
    (returned : createAutomation env req server = (.ok phase, server')) :
    ∃ row, row.revision = 1 ∧ row.enabled = true ∧
      ((phase = .awaiting (.create req.id row) ∧ server' = server) ∨
        ∃ db' response, phase = .answered response ∧ server.db.Inserts req.id row db' ∧
          announceCreated env req.id row { server with db := db' } = (.ok response, server')) := by
  obtain ⟨outcome, mid, asked, returned⟩ := bind_ok returned
  cases asked
  obtain ⟨_, _, returned⟩ := check_ok returned
  obtain ⟨body, _, returned⟩ := check_ok returned
  obtain ⟨trigger, _, returned⟩ := check_ok returned
  cases type : body.ruleType with
  | script =>
      rw [type] at returned
      dsimp only at returned
      split at returned
      · cases returned
      · split at returned
        · cases returned
        · cases returned
          exact ⟨_, rfl, rfl, .inl ⟨rfl, rfl⟩⟩
  | form =>
      rw [type] at returned
      obtain ⟨ui, _, returned⟩ := check_ok returned
      split at returned
      · cases returned
      · obtain ⟨_, server₁, inserted, returned⟩ := bind_ok returned
        obtain ⟨db', stored, rfl⟩ := onDb_ok inserted
        obtain ⟨response, announced, rfl⟩ := map_ok returned
        exact ⟨_, rfl, rfl, .inr ⟨db', response, rfl, insertRule_ensures _ _ _ _ _ stored,
          announced⟩⟩

/-- A new rule was not there before; one that awaits its project is not there yet. -/
theorem createAutomation_spec (req : CreateRequest) :
    Atomic (createAutomation env req) ∧
      Ensures (createAutomation env req) fun server phase server' =>
        match phase with
        | .answered _ => ∃ row, row.revision = 1 ∧ server.db.Inserts req.id row server'.db
        | .awaiting pending => server' = server ∧
            ∃ row, row.revision = 1 ∧ pending = .create req.id row := by
  constructor
  · refine Atomic.after_readOnly (readOnly_asks _) fun outcome => ?_
    refine Atomic.after_readOnly (readOnly_check _) fun _ => ?_
    refine Atomic.after_readOnly (readOnly_check _) fun body => ?_
    refine Atomic.after_readOnly (readOnly_check _) fun trigger => ?_
    cases body.ruleType with
    | script =>
        refine Atomic.ite (readOnly_check _).atomic (Atomic.ite (readOnly_check _).atomic ?_)
        exact (readOnly_pure _).atomic
    | form =>
        refine Atomic.after_readOnly (readOnly_check _) fun ui => ?_
        refine Atomic.ite (readOnly_check _).atomic ?_
        refine (onDb_atomic (insertRule_atomic _ _)).then_total fun _ => ?_
        exact (announceCreated_total env _ _).bind fun _ => total_pure _
  · intro server phase server' returned
    obtain ⟨row, first, -, ⟨rfl, rfl⟩ | ⟨db', response, rfl, inserts, announced⟩⟩ :=
      createAutomation_ok env returned
    · exact ⟨rfl, row, first, rfl⟩
    · cases announced
      exact ⟨row, first, inserts⟩

theorem finishCreate_spec (id : String) (row : StoredRule) (compiled : CompiledAutomationProject)
    (now : Nat) :
    Atomic (finishCreate env id row compiled now) ∧
      Ensures (finishCreate env id row compiled now) fun server _ server' =>
        server.db.Inserts id (projectColumns compiled row) server'.db := by
  refine ⟨(onDb_atomic (atomic_atomically _)).then_total fun _ => announceCreated_total env _ _, ?_⟩
  intro server response server' returned
  obtain ⟨_, server₁, stored, returned⟩ := bind_ok returned
  obtain ⟨db', saved, rfl⟩ := onDb_ok stored
  cases returned
  exact storeCreated_ensures _ _ _ _ _ _ _ (atomically_ok saved)

theorem resume_atomic (pending : Pending) (outcome : CompileOutcome) (now : Nat) :
    Atomic (resume env pending outcome now) := by
  refine Atomic.after_readOnly (readOnly_check _) fun compiled => ?_
  cases pending with
  | update update => exact (finishScriptUpdate_spec env update (some compiled) now).1
  | project id expected => exact (finishProject_spec env id expected compiled now).1
  | create id row => exact (finishCreate_spec env id row compiled now).1

theorem resume_ensures (pending : Pending) (outcome : CompileOutcome) (now : Nat) :
    Ensures (resume env pending outcome now) fun server _ server' =>
      match pending with
      | .update update => ∃ assign,
          server.db.Rewrites update.id update.expectedRevision assign server'.db
      | .project id expected => ∃ assign, server.db.Rewrites id expected assign server'.db
      | .create id row => ∃ row', row'.revision = row.revision ∧
          server.db.Inserts id row' server'.db := by
  intro server response server' returned
  obtain ⟨compiled, _, returned⟩ := check_ok returned
  cases pending with
  | update update => exact ⟨_, (finishScriptUpdate_spec env update _ now).2 _ _ _ returned⟩
  | project id expected => exact ⟨_, (finishProject_spec env id expected _ now).2 _ _ _ returned⟩
  | create id row =>
      have inserts := (finishCreate_spec env id row compiled now).2 _ _ _ returned
      exact ⟨projectColumns compiled row, rfl, inserts⟩

end Handlers

end Aeolus.Api
