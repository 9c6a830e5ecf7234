/-
# Aeolus.Api.Revisions — writers of the layout and of automations do not overwrite each other

The requests of `LayoutRoutes` and `AutomationRoutes` served in any order.  An event is
the arrival of a request or the settling of the compilation that a suspended request
awaits; between two events nothing else runs, since the server is one thread.

`Effect` says once what an event can do.  From it:

* an accepted write named the revision that was stored right before it, and left the
  next one; a rejected request left the server as it was (`step_guarded`);
* along a run, the accepted writes of one document name consecutive revisions
  (`layout_consecutive`, `present_consecutive`, `absent_consecutive`);
* a suspended update that names a revision it could have seen merges with the row it
  read, which is still the stored one (`step_current`).
-/
import Aeolus.Api.LayoutRoutes
import Aeolus.Api.AutomationWrites

namespace Aeolus.Api

open Aeolus.Core Aeolus.Db Aeolus.Automations Aeolus.Theory Aeolus.Theory.Handler

/-! ## Serving requests -/

inductive Request where
  | putLayout (req : LayoutRequest)
  | putAutomation (head : RequestHead) (body : Option UpdateBody) (now : Nat)
  | putProject (head : RequestHead) (project : Option AutomationProject)
  | deleteAutomation (head : RequestHead)
  | toggleAutomation (head : RequestHead) (enabled : Option Bool)
  | createAutomation (req : CreateRequest)

inductive Event where
  | request (request : Request)
  /-- the compilation of the request in flight at `position` settles -/
  | settled (position : Nat) (outcome : CompileOutcome) (now : Nat)

structure World where
  server : Server
  /-- the suspended requests, oldest first -/
  inFlight : List Pending

/-- A server with no request in progress. -/
def World.idle (server : Server) : World := ⟨server, []⟩

section Serve

variable (driver : Driver) (env : Env)

def handle : Request → Handler Failure Server Phase
  | .putLayout req => (fun revision => .answered (.layout revision)) <$> onDb (putLayout driver req)
  | .putAutomation head body now => putAutomation env head body now
  | .putProject head project => putProject env head project
  | .deleteAutomation head => Phase.answered <$> deleteAutomation env head
  | .toggleAutomation head enabled => Phase.answered <$> toggleAutomation env head enabled
  | .createAutomation req => createAutomation env req

/-- The answer the event leads to, if it ends a request, and the world after it. -/
def serve (world : World) : Event → Option (Except Failure Response) × World
  | .request request =>
    match handle driver env request world.server with
    | (.ok (.answered response), server) => (some (.ok response), { world with server })
    | (.ok (.awaiting pending), server) => (none, ⟨server, world.inFlight ++ [pending]⟩)
    | (.error failure, server) => (some (.error failure), { world with server })
  | .settled position outcome now =>
    match world.inFlight[position]? with
    | none => (none, world)
    | some pending =>
      let (result, server) := resume env pending outcome now world.server
      (some result, ⟨server, world.inFlight.eraseIdx position⟩)

def answer (world : World) (event : Event) : Option (Except Failure Response) :=
  (serve driver env world event).1

def step (world : World) (event : Event) : World := (serve driver env world event).2

end Serve

/-! ## Documents and their revisions -/

/-- The stored revision of a document. -/
def World.revision (document : Document) (world : World) : Option Nat :=
  world.server.db.revisionOf document

/-- The document a request with If-Match is about, and the revision it names. -/
def namedRevision (document : Document) (ifMatch : Option String) : Option (Document × Nat) :=
  (requireIfMatchRevision ifMatch).toOption.map fun revision => (document, revision)

/-- The document a suspended request writes, and the revision its If-Match named. -/
def Pending.basis : Pending → Option (Document × Nat)
  | .update write => some (.automation write.id, write.expectedRevision)
  | .project id expectedRevision => some (.automation id, expectedRevision)
  | .create _ _ => none

/-- The document an event would write under If-Match, and the revision it is based on. -/
def basis (world : World) : Event → Option (Document × Nat)
  | .request (.putLayout req) => namedRevision .layout req.ifMatch
  | .request (.putAutomation head _ _) => namedRevision (.automation head.id) head.ifMatch
  | .request (.putProject head _) => namedRevision (.automation head.id) head.ifMatch
  | .request (.deleteAutomation head) => namedRevision (.automation head.id) head.ifMatch
  | .request (.toggleAutomation _ _) => none
  | .request (.createAutomation _) => none
  | .settled position _ _ => (world.inFlight[position]?).bind Pending.basis

/-- The id that `randomUUID` returned in a POST. -/
def Event.drawn : Event → Option String
  | .request (.createAutomation req) => some req.id
  | _ => none

/-- Is the event a DELETE? -/
def Event.deletes : Event → Bool
  | .request (.deleteAutomation _) => true
  | _ => false

theorem namedRevision_ok {ifMatch : Option String} {revision : Nat} (document : Document)
    (named : requireIfMatchRevision ifMatch = .ok revision) :
    namedRevision document ifMatch = some (document, revision) := by
  rw [namedRevision, named]
  rfl

/-! ## What an event can do -/

/-- Where the rule a POST inserts comes from: a form rule at once, a script rule when its
project is compiled. -/
def Arrives (world world' : World) (event : Event) (id : String) (row : StoredRule) : Prop :=
  (event.drawn = some id ∧ row.revision = 1 ∧ world'.inFlight = world.inFlight) ∨
    ∃ (position : Nat) (planned : StoredRule),
      world.inFlight[position]? = some (.create id planned) ∧ event.drawn = none ∧
        row.revision = planned.revision ∧ world'.inFlight = world.inFlight.eraseIdx position

/-- What a request knows when it suspends. -/
def Opened (world : World) (event : Event) : Pending → Prop
  | .update write => event.drawn = none ∧
      world.server.db.queryRuleById write.id = some write.existing
  | .project _ _ => event.drawn = none
  | .create id planned => event.drawn = some id ∧ planned.revision = 1

/-- Every way an event can go: the world before and after, the answer and the basis. -/
inductive Effect (world world' : World) (event : Event) :
    Option (Except Failure Response) → Option (Document × Nat) → Prop where
  | rejected (failure : Failure) (basis : Option (Document × Nat))
      (same : world'.server = world.server)
      (fewer : world'.inFlight.Sublist world.inFlight) :
      Effect world world' event (some (.error failure)) basis
  | nothing (basis : Option (Document × Nat)) (same : world' = world) :
      Effect world world' event none basis
  | suspended (pending : Pending) (basis : Option (Document × Nat))
      (same : world'.server = world.server) (opened : Opened world event pending)
      (queued : world'.inFlight = world.inFlight ++ [pending]) :
      Effect world world' event none basis
  | layout (response : Response)
      (keeps : Database.Keeps
        { world.server.db with layoutRevision := world.server.db.layoutRevision + 1 }
        world'.server.db)
      (others : world'.inFlight = world.inFlight) :
      Effect world world' event (some (.ok response))
        (some (.layout, world.server.db.layoutRevision))
  | rewrote (response : Response) (id : String) (expected : Nat)
      (assign : StoredRule → StoredRule)
      (rewrites : world.server.db.Rewrites id expected assign world'.server.db)
      (fewer : world'.inFlight.Sublist world.inFlight) :
      Effect world world' event (some (.ok response)) (some (.automation id, expected))
  | removed (response : Response) (id : String) (expected : Nat) (byDelete : event.deletes = true)
      (removes : world.server.db.Removes id expected world'.server.db)
      (others : world'.inFlight = world.inFlight) :
      Effect world world' event (some (.ok response)) (some (.automation id, expected))
  | inserted (response : Response) (id : String) (row : StoredRule)
      (arrives : Arrives world world' event id row)
      (inserts : world.server.db.Inserts id row world'.server.db) :
      Effect world world' event (some (.ok response)) none
  | toggled (response : Response) (keeps : world.server.db.Keeps world'.server.db)
      (others : world'.inFlight = world.inFlight) :
      Effect world world' event (some (.ok response)) none

section Effects

variable (driver : Driver) (env : Env)

theorem handle_atomic (request : Request) : Atomic (handle driver env request) := by
  cases request with
  | putLayout req => exact (onDb_atomic (putLayout_atomic driver req)).map _
  | putAutomation head body now => exact putAutomation_atomic env head body now
  | putProject head project => exact (putProject_readOnly env head project).atomic
  | deleteAutomation head => exact (deleteAutomation_spec env head).1.map _
  | toggleAutomation head enabled => exact (toggleAutomation_spec env head enabled).1.map _
  | createAutomation req => exact (createAutomation_spec env req).1

/-- A request that is answered at once. -/
theorem answered_effect {world : World} {request : Request} {response : Response}
    {server : Server}
    (returned : handle driver env request world.server = (.ok (.answered response), server)) :
    Effect world { world with server } (.request request) (some (.ok response))
      (basis world (.request request)) := by
  cases request with
  | putLayout req =>
      obtain ⟨revision, stored, answered⟩ := map_ok returned
      obtain ⟨db', replaced, rfl⟩ := onDb_ok stored
      obtain ⟨named, keeps, _⟩ := putLayout_ensures driver req _ _ _ replaced
      rw [basis, namedRevision_ok _ named]
      exact .layout response keeps rfl
  | putAutomation head body now =>
      obtain ⟨expected, assign, named, rewrites⟩ :=
        putAutomation_ensures env head body now _ _ _ returned
      rw [basis, namedRevision_ok _ named]
      exact .rewrote response head.id expected assign rewrites (List.Sublist.refl _)
  | putProject head project =>
      obtain ⟨expected, _, suspends⟩ := putProject_ensures env head project _ _ _ returned
      cases suspends
  | deleteAutomation head =>
      obtain ⟨_, deleted, _⟩ := map_ok returned
      obtain ⟨expected, named, removes⟩ := (deleteAutomation_spec env head).2 _ _ _ deleted
      rw [basis, namedRevision_ok _ named]
      exact .removed response head.id expected rfl removes rfl
  | toggleAutomation head enabled =>
      obtain ⟨_, toggled, _⟩ := map_ok returned
      exact .toggled response ((toggleAutomation_spec env head enabled).2 _ _ _ toggled) rfl
  | createAutomation req =>
      obtain ⟨row, first, inserts⟩ := (createAutomation_spec env req).2 _ _ _ returned
      exact .inserted response req.id row (Or.inl ⟨rfl, first, rfl⟩) inserts

/-- A request that suspends. -/
theorem awaiting_effect {world : World} {request : Request} {pending : Pending} {server : Server}
    (returned : handle driver env request world.server = (.ok (.awaiting pending), server)) :
    Effect world ⟨server, world.inFlight ++ [pending]⟩ (.request request) none
      (basis world (.request request)) := by
  cases request with
  | putLayout req =>
      obtain ⟨_, _, answered⟩ := map_ok returned
      cases answered
  | putAutomation head body now =>
      obtain ⟨same, write, rfl, about, read⟩ :=
        putAutomation_ensures env head body now _ _ _ returned
      rw [← about] at read
      exact .suspended (.update write) _ same ⟨rfl, read⟩ rfl
  | putProject head project =>
      obtain ⟨expected, _, suspends⟩ := putProject_ensures env head project _ _ _ returned
      cases suspends
      have same : server = world.server :=
        (putProject_readOnly env head project).store_eq returned
      exact .suspended (.project head.id expected) _ same rfl rfl
  | deleteAutomation head =>
      obtain ⟨_, _, answered⟩ := map_ok returned
      cases answered
  | toggleAutomation head enabled =>
      obtain ⟨_, _, answered⟩ := map_ok returned
      cases answered
  | createAutomation req =>
      obtain ⟨same, row, first, rfl⟩ := (createAutomation_spec env req).2 _ _ _ returned
      exact .suspended (.create req.id row) _ same ⟨rfl, first⟩ rfl

/-- A suspended request that goes on. -/
theorem settled_effect {world : World} {position : Nat} {pending : Pending}
    (found : world.inFlight[position]? = some pending) (outcome : CompileOutcome) (now : Nat) :
    Effect world
      ⟨(resume env pending outcome now world.server).2, world.inFlight.eraseIdx position⟩
      (.settled position outcome now)
      (some (resume env pending outcome now world.server).1)
      (basis world (.settled position outcome now)) := by
  rcases returned : resume env pending outcome now world.server with ⟨failure | response, server⟩
  · exact .rejected failure _ (resume_atomic env pending outcome now _ _ _ returned)
      (List.eraseIdx_sublist _ _)
  · have written := resume_ensures env pending outcome now _ _ _ returned
    rw [basis, found]
    cases pending with
    | update write =>
        obtain ⟨assign, rewrites⟩ := written
        exact .rewrote response _ _ assign rewrites (List.eraseIdx_sublist _ _)
    | project id expected =>
        obtain ⟨assign, rewrites⟩ := written
        exact .rewrote response _ _ assign rewrites (List.eraseIdx_sublist _ _)
    | create id planned =>
        obtain ⟨row, first, inserts⟩ := written
        exact .inserted response id row (Or.inr ⟨position, planned, found, rfl, first, rfl⟩) inserts

/-- **What an event can do.** -/
theorem step_effect (world : World) (event : Event) :
    Effect world (step driver env world event) event (answer driver env world event)
      (basis world event) := by
  cases event with
  | request request =>
      simp only [step, answer, serve]
      rcases returned : handle driver env request world.server with
        ⟨failure | response | pending, server⟩
      · exact .rejected failure _ (handle_atomic driver env request _ _ _ returned)
          (List.Sublist.refl _)
      · exact answered_effect driver env returned
      · exact awaiting_effect driver env returned
  | settled position outcome now =>
      simp only [step, answer, serve]
      cases found : world.inFlight[position]? with
      | none => exact .nothing _ rfl
      | some pending => exact settled_effect env found outcome now

/-! ## One event -/

/-- The write an event carries out: its document and the revision it is based on. -/
def accepted (world : World) (event : Event) : Option (Document × Nat) :=
  match answer driver env world event with
  | some (.ok _) => basis world event
  | _ => none

/-- The revision an event's accepted write to `document` is based on. -/
def acceptedOn (document : Document) (world : World) (event : Event) : Option Nat :=
  match accepted driver env world event with
  | some (written, revision) => if written = document then some revision else none
  | none => none

/-- **The revision check holds.**  An accepted write was based on the revision stored
right before it; it leaves the next one, or, for a DELETE, no rule; every other document
keeps its revision.  A request without If-Match that is accepted leaves every stored
revision as it was.  A request that is rejected, or only suspends, leaves the whole
server as it was. -/
def Guarded (world : World) (event : Event) : Prop :=
  let world' := step driver env world event
  match answer driver env world event with
  | some (.ok _) =>
    match basis world event with
    | some (document, revision) =>
        world.revision document = some revision ∧
          (world'.revision document = some (revision + 1) ∨
            event.deletes = true ∧ world'.revision document = none) ∧
          ∀ other, other ≠ document → world'.revision other = world.revision other
    | none => ∀ document revision, world.revision document = some revision →
        world'.revision document = some revision
  | _ => world'.server = world.server

theorem step_guarded (world : World) (event : Event) : Guarded driver env world event := by
  have effect := step_effect driver env world event
  unfold Guarded
  dsimp only
  generalize step driver env world event = world' at effect ⊢
  generalize answer driver env world event = result at effect ⊢
  generalize basis world event = written at effect ⊢
  cases effect with
  | rejected failure _ same fewer => exact same
  | nothing _ same => exact congrArg World.server same
  | suspended pending _ same opened queued => exact same
  | layout response keeps others =>
      refine ⟨rfl, Or.inl (keeps.revision .layout), fun other ne => ?_⟩
      cases other with
      | layout => exact absurd rfl ne
      | automation id => exact keeps.revision (.automation id)
  | rewrote response id expected assign rewrites fewer =>
      exact ⟨rewrites.revision_before, Or.inl rewrites.revision_after,
        fun other ne => rewrites.revision_other ne⟩
  | removed response id expected byDelete removes others =>
      exact ⟨removes.revision_before, Or.inr ⟨byDelete, removes.revision_after⟩,
        fun other ne => removes.revision_other ne⟩
  | inserted response id row arrives inserts =>
      intro document revision present
      have ne : document ≠ .automation id := by
        rintro rfl
        rw [World.revision, inserts.revision_before] at present
        cases present
      exact (inserts.revision_other ne).trans present
  | toggled response keeps others =>
      intro document revision present
      exact (keeps.revision document).trans present

/-- An accepted write was based on the stored revision. -/
theorem accepted_current {world : World} {event : Event} {document : Document} {revision : Nat}
    (based : acceptedOn driver env document world event = some revision) :
    world.revision document = some revision := by
  have guarded := step_guarded driver env world event
  unfold Guarded at guarded
  unfold acceptedOn accepted at based
  dsimp only at guarded
  split at based
  · rename_i written _ write
    split at write
    · rename_i response answered
      rw [answered, write] at guarded
      split at based
      · rename_i about
        subst about
        rw [← Option.some.inj based]
        exact guarded.1
      · cases based
    · cases write
  · cases based

/-! ## Rules still to be inserted -/

/-- The id of the rule a suspended POST will insert. -/
def Pending.creates : Pending → Option String
  | .create id _ => some id
  | _ => none

/-- The ids that the suspended POSTs and those of the coming events draw. -/
def upcoming (world : World) (events : List Event) : List String :=
  world.inFlight.filterMap Pending.creates ++ events.filterMap Event.drawn

theorem drawn_sublist (event : Event) (events : List Event) :
    (events.filterMap Event.drawn).Sublist ((event :: events).filterMap Event.drawn) :=
  (List.sublist_cons_self event events).filterMap _

/-- No event adds to the upcoming ids. -/
theorem Effect.upcoming_sublist {world world' : World} {event : Event}
    {result : Option (Except Failure Response)} {written : Option (Document × Nat)}
    (effect : Effect world world' event result written) (events : List Event) :
    (upcoming world' events).Sublist (upcoming world (event :: events)) := by
  have shrinks (fewer : world'.inFlight.Sublist world.inFlight) :
      (upcoming world' events).Sublist (upcoming world (event :: events)) :=
    (fewer.filterMap _).append (drawn_sublist event events)
  cases effect with
  | rejected _ _ _ fewer => exact shrinks fewer
  | nothing _ same => exact shrinks (same ▸ List.Sublist.refl _)
  | suspended pending _ _ opened queued =>
      unfold upcoming
      rw [queued, List.filterMap_append, List.append_assoc]
      refine (List.Sublist.refl _).append ?_
      cases pending with
      | update write => exact drawn_sublist event events
      | project id expected => exact drawn_sublist event events
      | create id planned =>
          rw [List.filterMap_cons_some opened.1]
          exact List.Sublist.refl _
  | layout _ _ others => exact shrinks (others ▸ List.Sublist.refl _)
  | rewrote _ _ _ _ _ fewer => exact shrinks fewer
  | removed _ _ _ _ _ others => exact shrinks (others ▸ List.Sublist.refl _)
  | inserted _ id row arrives _ =>
      rcases arrives with ⟨_, _, others⟩ | ⟨position, _, _, _, _, others⟩
      · exact shrinks (others ▸ List.Sublist.refl _)
      · exact shrinks (others ▸ List.eraseIdx_sublist _ _)
  | toggled _ _ others => exact shrinks (others ▸ List.Sublist.refl _)

/-- A rule that an event inserts was upcoming. -/
theorem Arrives.mem_upcoming {world world' : World} {event : Event} {id : String} {row : StoredRule}
    (arrives : Arrives world world' event id row) (events : List Event) :
    id ∈ upcoming world (event :: events) := by
  rcases arrives with ⟨drawn, _, _⟩ | ⟨position, planned, found, _, _, _⟩
  · refine List.mem_append_right _ ?_
    rw [List.filterMap_cons_some drawn]
    exact List.mem_cons_self
  · refine List.mem_append_left _ ?_
    exact List.mem_filterMap.mpr ⟨.create id planned, List.mem_of_getElem? found, rfl⟩

/-! ## Whole runs -/

/-- A document that the event does not insert moves by accepted writes only. -/
theorem step_versioned {world : World} {event : Event} {events : List Event} {document : Document}
    (unborn : ∀ id ∈ upcoming world (event :: events), document ≠ .automation id) :
    Versioned (step driver env) (acceptedOn driver env document) (World.revision document) world
      event := by
  have effect := step_effect driver env world event
  have guarded := step_guarded driver env world event
  unfold Guarded at guarded
  unfold Versioned acceptedOn accepted
  dsimp only at guarded
  generalize step driver env world event = world' at effect guarded ⊢
  generalize answer driver env world event = result at effect guarded ⊢
  generalize basis world event = written at effect guarded ⊢
  rcases result with _ | failure | response
  · exact congrArg (fun server => server.db.revisionOf document) guarded
  · exact congrArg (fun server => server.db.revisionOf document) guarded
  rcases written with _ | ⟨about, revision⟩
  · -- no revision was named: the event inserted another rule, or toggled one
    cases effect with
    | inserted _ id row arrives inserts =>
        exact inserts.revision_other (unborn id (arrives.mem_upcoming events))
    | toggled _ keeps others => exact keeps.revision document
  · obtain ⟨before, after, others⟩ := guarded
    dsimp only
    by_cases same : about = document
    · subst same
      rw [if_pos rfl]
      exact ⟨before, after.imp_right And.right⟩
    · rw [if_neg same]
      exact others document (Ne.symm same)

theorem versioned_along {world : World} {events : List Event} {document : Document}
    (unborn : ∀ id ∈ upcoming world events, document ≠ .automation id) :
    Along (step driver env)
      (Versioned (step driver env) (acceptedOn driver env document) (World.revision document))
      world events := by
  induction events generalizing world with
  | nil => trivial
  | cons event events ih =>
      refine ⟨step_versioned driver env unborn, ih fun id member => unborn id ?_⟩
      exact ((step_effect driver env world event).upcoming_sublist events).subset member

/-- The revisions that the accepted writes to one document are based on, in order. -/
def acceptedRevisions (document : Document) (world : World) (events : List Event) : List Nat :=
  basesAlong (step driver env) (acceptedOn driver env document) world events

/-- The accepted writes of a run to `document` are based on `first, first + 1, …`, and the
revision they leave is the next one. -/
def Consecutive (document : Document) (world : World) (events : List Event) (first : Nat) : Prop :=
  let revisions := acceptedRevisions driver env document world events
  revisions = List.range' first revisions.length ∧
    ∀ last, (run (step driver env) world events).revision document = some last →
      last = first + revisions.length

theorem layout_consecutive (world : World) (events : List Event) :
    Consecutive driver env .layout world events world.server.db.layoutRevision :=
  basesAlong_consecutive (versioned_along driver env fun _ _ same => by cases same) rfl

/-- A rule that is there, and whose id is not drawn again. -/
theorem present_consecutive {world : World} {events : List Event} {id : String} {first : Nat}
    (unborn : id ∉ upcoming world events)
    (present : world.revision (.automation id) = some first) :
    Consecutive driver env (.automation id) world events first := by
  refine basesAlong_consecutive (versioned_along driver env fun a member same => ?_) present
  cases same
  exact unborn member

/-! ## Fresh ids -/

/-- What an event can do to one rule. -/
inductive RuleStep (world world' : World) (event : Event) (id : String) : Prop where
  | kept (same : (world'.server.db.automationRules.get id).map StoredRule.authored =
      (world.server.db.automationRules.get id).map StoredRule.authored)
  | moved (row row' : StoredRule) (before : world.server.db.automationRules.get id = some row)
      (after : world'.server.db.automationRules.get id = some row')
      (next : row'.revision = row.revision + 1)
  | gone (after : world'.server.db.automationRules.get id = none)
  | born (row : StoredRule) (before : world.server.db.automationRules.get id = none)
      (after : world'.server.db.automationRules.get id = some row)
      (arrives : Arrives world world' event id row)

theorem Effect.ruleStep {world world' : World} {event : Event}
    {result : Option (Except Failure Response)} {written : Option (Document × Nat)}
    (effect : Effect world world' event result written) (id : String) :
    RuleStep world world' event id := by
  cases effect with
  | rejected _ _ same _ => exact .kept (by rw [same])
  | nothing _ same => exact .kept (by rw [same])
  | suspended _ _ same _ _ => exact .kept (by rw [same])
  | layout _ keeps _ => exact .kept (keeps.rules id)
  | rewrote _ a expected assign rewrites _ =>
      by_cases same : id = a
      · subst same
        obtain ⟨row', after, next⟩ := rewrites.after
        obtain ⟨row, before, current, _⟩ := rewrites.rules
        exact .moved row row' before after (current ▸ next)
      · exact .kept (by rw [rewrites.others id same])
  | removed _ a expected _ removes _ =>
      by_cases same : id = a
      · subst same
        exact .gone (Option.map_eq_none_iff.mp removes.revision_after)
      · exact .kept (by rw [removes.others id same])
  | inserted _ a row arrives inserts =>
      by_cases same : id = a
      · subst same
        refine .born row inserts.absent ?_ arrives
        rw [inserts.rules, OrderedMap.get_set_self]
      · exact .kept (by rw [inserts.others id same])
  | toggled _ keeps _ => exact .kept (keeps.rules id)

/-- A request in flight was in flight before, or has just suspended. -/
theorem Effect.mem_inFlight {world world' : World} {event : Event}
    {result : Option (Except Failure Response)} {written : Option (Document × Nat)}
    (effect : Effect world world' event result written) {pending : Pending}
    (member : pending ∈ world'.inFlight) :
    pending ∈ world.inFlight ∨ world'.server = world.server ∧ Opened world event pending := by
  cases effect with
  | rejected _ _ _ fewer => exact Or.inl (fewer.subset member)
  | nothing _ same => exact Or.inl (same ▸ member)
  | suspended opening _ same opened queued =>
      rw [queued] at member
      rcases List.mem_append.mp member with old | new
      · exact Or.inl old
      · rw [List.mem_singleton.mp new]
        exact Or.inr ⟨same, opened⟩
  | layout _ _ others => exact Or.inl (others ▸ member)
  | rewrote _ _ _ _ _ fewer => exact Or.inl (fewer.subset member)
  | removed _ _ _ _ _ others => exact Or.inl (others ▸ member)
  | inserted _ _ _ arrives _ =>
      rcases arrives with ⟨_, _, others⟩ | ⟨position, _, _, _, _, others⟩
      · exact Or.inl (others ▸ member)
      · rw [others] at member
        exact Or.inl ((List.eraseIdx_sublist _ _).subset member)
  | toggled _ _ others => exact Or.inl (others ▸ member)

/-- An id that was drawn once is not drawn again: the rule that arrives is no longer
upcoming. -/
theorem Arrives.not_upcoming {world world' : World} {event : Event} {id : String}
    {row : StoredRule} (arrives : Arrives world world' event id row) {events : List Event}
    (nodup : (upcoming world (event :: events)).Nodup) : id ∉ upcoming world' events := by
  unfold upcoming at nodup ⊢
  rcases arrives with ⟨drawn, _, others⟩ | ⟨position, planned, found, drawn, _, others⟩
  · rw [List.filterMap_cons_some drawn] at nodup
    rw [others]
    exact (List.nodup_middle.mp nodup).notMem
  · rw [List.filterMap_cons_none drawn] at nodup
    obtain ⟨inside, this⟩ := List.getElem?_eq_some_iff.mp found
    have split : world.inFlight = world.inFlight.take position ++
        .create id planned :: world.inFlight.drop (position + 1) := by
      rw [← this, ← List.drop_eq_getElem_cons inside, List.take_append_drop]
    have creates : (Pending.create id planned).creates = some id := rfl
    rw [split, List.filterMap_append, List.filterMap_cons_some creates, List.append_assoc,
      List.cons_append] at nodup
    rw [others, List.eraseIdx_eq_take_drop_succ, List.filterMap_append, List.append_assoc]
    exact (List.nodup_middle.mp nodup).notMem

/-- The ids still to be drawn are distinct, belong to no rule, and to no update in
flight; a rule that waits to be inserted starts at revision 1. -/
structure Fresh (world : World) (events : List Event) : Prop where
  nodup : (upcoming world events).Nodup
  absent : ∀ id ∈ upcoming world events, world.server.db.automationRules.get id = none
  apart : ∀ write, .update write ∈ world.inFlight → write.id ∉ upcoming world events
  first : ∀ id planned, .create id planned ∈ world.inFlight → planned.revision = 1

theorem Fresh.step {world : World} {event : Event} {events : List Event}
    (fresh : Fresh world (event :: events)) :
    Fresh (step driver env world event) events := by
  have effect := step_effect driver env world event
  have fewer := effect.upcoming_sublist events
  refine ⟨fresh.nodup.sublist fewer, fun id member => ?_, fun write member => ?_,
    fun id planned member => ?_⟩
  · have before := fresh.absent id (fewer.subset member)
    cases effect.ruleStep id with
    | kept same =>
        rw [before] at same
        exact Option.map_eq_none_iff.mp same
    | moved row row' present after next =>
        rw [before] at present
        cases present
    | gone after => exact after
    | born row _ after arrives => exact absurd member (arrives.not_upcoming fresh.nodup)
  · intro upcoming
    rcases effect.mem_inFlight member with old | ⟨_, _, read⟩
    · exact fresh.apart write old (fewer.subset upcoming)
    · rw [Database.queryRuleById, fresh.absent _ (fewer.subset upcoming)] at read
      cases read
  · rcases effect.mem_inFlight member with old | ⟨_, _, first⟩
    · exact fresh.first id planned old
    · exact first

/-- The rule that arrives in a fresh world starts at revision 1. -/
theorem Fresh.arrives {world world' : World} {event : Event} {events : List Event} {id : String}
    {row : StoredRule} (fresh : Fresh world events) (arrives : Arrives world world' event id row) :
    row.revision = 1 := by
  rcases arrives with ⟨_, first, _⟩ | ⟨position, planned, found, _, same, _⟩
  · exact first
  · rw [same]
    exact fresh.first id planned (List.mem_of_getElem? found)

/-- A rule that is not there yet: its first accepted write is based on revision 1. -/
theorem absent_consecutive {world : World} {events : List Event} {id : String}
    (fresh : Fresh world events) (absent : world.revision (.automation id) = none) :
    Consecutive driver env (.automation id) world events 1 := by
  induction events generalizing world with
  | nil =>
      refine ⟨rfl, fun last present => ?_⟩
      rw [run_nil, absent] at present
      cases present
  | cons event events ih =>
      have silent : acceptedOn driver env (.automation id) world event = none := by
        rw [Option.eq_none_iff_forall_not_mem]
        intro revision named
        rw [accepted_current driver env named] at absent
        cases absent
      have tail : acceptedRevisions driver env (.automation id) world (event :: events) =
          acceptedRevisions driver env (.automation id) (step driver env world event) events := by
        unfold acceptedRevisions
        rw [basesAlong, silent]
        rfl
      unfold Consecutive
      rw [tail, run_cons]
      cases next : (step driver env world event).revision (.automation id) with
      | none => exact ih (fresh.step driver env) next
      | some revision =>
          have missing : world.server.db.automationRules.get id = none :=
            Option.map_eq_none_iff.mp absent
          obtain ⟨found, present, current⟩ := Option.map_eq_some_iff.mp next
          cases (step_effect driver env world event).ruleStep id with
          | kept same =>
              rw [present, missing] at same
              cases same
          | moved row row' before _ _ =>
              rw [missing] at before
              cases before
          | gone after =>
              rw [present] at after
              cases after
          | born row _ after arrives =>
              obtain rfl : found = row := Option.some.inj (present.symm.trans after)
              obtain rfl : 1 = revision := (fresh.arrives arrives).symm.trans current
              exact present_consecutive driver env (arrives.not_upcoming fresh.nodup) next

/-! ## The row a suspended update merges with -/

/-- Every update in flight read its row at a revision that is not ahead of the stored one;
as long as they are equal, so are the authored columns. -/
def Current (world : World) : Prop :=
  ∀ write, .update write ∈ world.inFlight →
    ∀ row, world.server.db.automationRules.get write.id = some row →
      write.existing.revision ≤ row.revision ∧
        (row.revision = write.existing.revision → row.authored = write.existing.authored)

theorem Current.step {world : World} {event : Event} {events : List Event}
    (current : Current world) (fresh : Fresh world (event :: events)) :
    Current (step driver env world event) := by
  intro write member row' stored
  have effect := step_effect driver env world event
  rcases effect.mem_inFlight member with old | ⟨same, _, read⟩
  · cases effect.ruleStep write.id with
    | kept same =>
        rw [stored, Option.map_some, eq_comm, Option.map_eq_some_iff] at same
        obtain ⟨row, before, authored⟩ := same
        have revision : row.authored.revision = row'.authored.revision :=
          congrArg StoredRule.revision authored
        obtain ⟨behind, equal⟩ := current write old row before
        rw [← authored]
        exact ⟨behind.trans_eq revision, fun same => equal (revision.trans same)⟩
    | moved row row'' before after next =>
        obtain rfl : row'' = row' := Option.some.inj (after.symm.trans stored)
        obtain ⟨behind, _⟩ := current write old row before
        refine ⟨by omega, fun equal => ?_⟩
        omega
    | gone after =>
        rw [stored] at after
        cases after
    | born row _ _ arrives => exact absurd (arrives.mem_upcoming events) (fresh.apart write old)
  · rw [same] at stored
    obtain rfl : row' = write.existing := Option.some.inj (stored.symm.trans read)
    exact ⟨Nat.le_refl _, fun _ => rfl⟩

/-- When an update that has awaited its compilation is accepted, and the revision it named
was not ahead of the row it had read, that row is still the stored one: the columns it
keeps are the current ones. -/
def MergesCurrent (world : World) (event : Event) : Prop :=
  ∀ position outcome now write, event = .settled position outcome now →
    world.inFlight[position]? = some (.update write) →
    (∃ response, answer driver env world event = some (.ok response)) →
    write.expectedRevision ≤ write.existing.revision →
    ∃ row, world.server.db.queryRuleById write.id = some row ∧
      row.authored = write.existing.authored

theorem step_current {world : World} (current : Current world) (event : Event) :
    MergesCurrent driver env world event := by
  rintro position outcome now write rfl found ⟨response, answered⟩ seen
  have based : acceptedOn driver env (.automation write.id) world (.settled position outcome now) =
      some write.expectedRevision := by
    simp [acceptedOn, accepted, answered, basis, found, Pending.basis]
  obtain ⟨row, stored, revision⟩ := Option.map_eq_some_iff.mp (accepted_current driver env based)
  obtain ⟨behind, equal⟩ := current write (List.mem_of_getElem? found) row stored
  exact ⟨row, stored, equal (by omega)⟩

theorem merges_along {world : World} {events : List Event} (current : Current world)
    (fresh : Fresh world events) :
    Along (step driver env) (MergesCurrent driver env) world events := by
  induction events generalizing world with
  | nil => trivial
  | cons event events ih =>
      exact ⟨step_current driver env current event,
        ih (current.step driver env fresh) (fresh.step driver env)⟩

/-! ## No lost update -/

/-- What `randomUUID` gives: the ids the POSTs of a run draw are distinct, and not those
of stored rules. -/
def DistinctIds (server : Server) (events : List Event) : Prop :=
  (events.filterMap Event.drawn).Nodup ∧
    ∀ id ∈ events.filterMap Event.drawn, server.db.automationRules.get id = none

theorem DistinctIds.fresh {server : Server} {events : List Event}
    (distinct : DistinctIds server events) : Fresh (World.idle server) events where
  nodup := distinct.1
  absent := distinct.2
  apart _ member := absurd member List.not_mem_nil
  first _ _ member := absurd member List.not_mem_nil

/-- **No lost update.**  In every run, from any server with no request in progress, every
event passes the revision check (`Guarded`): an accepted write named the revision stored
right before it and left the next one, and a rejected request changed nothing.  So the
accepted layouts are based on consecutive revisions; and, as ids are not drawn twice, so
are the accepted writes of every automation, starting at the revision it was found or
created with, and an update that awaited its compilation merged with the row that was
stored. -/
theorem no_lost_update (server : Server) (events : List Event) :
    Along (step driver env) (Guarded driver env) (World.idle server) events ∧
      Consecutive driver env .layout (World.idle server) events server.db.layoutRevision ∧
      (DistinctIds server events →
        (∀ id, Consecutive driver env (.automation id) (World.idle server) events
          (((World.idle server).revision (.automation id)).getD 1)) ∧
        Along (step driver env) (MergesCurrent driver env) (World.idle server) events) := by
  refine ⟨along_of_forall (fun e _ s => step_guarded driver env s e) _,
    layout_consecutive driver env _ _, fun distinct => ⟨fun id => ?_, ?_⟩⟩
  · cases found : (World.idle server).revision (.automation id) with
    | none => exact absent_consecutive driver env distinct.fresh found
    | some revision =>
        refine present_consecutive driver env (fun drawn => ?_) found
        have absent : (World.idle server).revision (.automation id) = none :=
          Option.map_eq_none_iff.mpr (distinct.2 id drawn)
        rw [found] at absent
        cases absent
  · refine merges_along driver env (fun write member => ?_) distinct.fresh
    exact absurd member List.not_mem_nil

end Effects

/-! ## Two editors at once -/

def plainEnv : Env where
  permissions := { mayWriteAutomation := fun _ _ _ => false, mayWriteTab := fun _ _ _ => false }
  isValidCron expression := expression = "* * * * *"
  transpileUi source := .ok source

/-- A script rule at revision 3. -/
def lampRule : StoredRule where
  name := "Lamp"
  triggerTopic := "home/lamp"
  conditionType := none
  conditionValue := none
  actionType := "script"
  actionTarget := ""
  actionParams := .obj []
  ruleType := .script
  scriptSource := some "export default () => {}"
  compiledJs := some "(() => {})();"
  structuredMetadata := none
  uiSource := none
  compiledUi := none
  triggerType := some "mqtt"
  cronExpression := none
  authoredUnrestricted := true
  ownerTabId := none
  enabled := true
  createdAt := 0
  revision := 3

def lampServer : Server where
  db := { Database.empty with automationRules := OrderedMap.empty.set "lamp" lampRule }
  registry := {}
  conditionTypes := []

def admin : User := ⟨"root", .admin⟩

/-- An editor saves the project of the rule; while it compiles, another renames the rule
from the same revision. -/
def race : List Event :=
  [.request (.putAutomation ⟨some admin, "lamp", some "\"3\""⟩
      (some { project := some ⟨[⟨"logic/index.ts", "export default () => {}"⟩], none, none⟩ }) 1),
    .request (.putAutomation ⟨some admin, "lamp", some "3"⟩ (some { name := some "Hall" }) 2),
    .settled 0 (.compiled
      { compiledJs := "(() => {})();", compiledUi := none, logicSource := "export default () => {}"
        uiSource := none, files := [], logicEntry := "logic/index.ts", uiEntry := none }) 3]

/-- The rename is accepted, the project that finished later is not. -/
theorem no_lost_update_race :
    DistinctIds lampServer race ∧
      Consecutive plainDriver plainEnv (.automation "lamp") (World.idle lampServer) race 3 ∧
      acceptedRevisions plainDriver plainEnv (.automation "lamp") (World.idle lampServer) race =
        [3] := by
  have distinct : DistinctIds lampServer race := ⟨by decide, by decide⟩
  refine ⟨distinct, ?_, by decide +kernel⟩
  exact ((no_lost_update plainDriver plainEnv lampServer race).2.2 distinct).1 "lamp"

end Aeolus.Api
