/-
# Aeolus.Automations.CommandScope — what a scoped automation learns from a command

A scoped automation may act on the devices of its tab only, so the result of a
command should tell it nothing about any other device.  That is a statement about
two runs: an `Observer` sees of a run what concerns its call and the devices in
scope, and two runs seen alike should return the same result (`Confined`).

The argument is an unwinding.  `step_unseen` says that an unseen event changes
nothing of the call and of its promise, `step_seen` that events seen alike move
both runs alike.  What remains is how the call begins, and there the request
decides: it is confined when it is `Covered`, which asks more than the scope check
does.
-/
import Aeolus.Automations.CommandAgreement

namespace Aeolus.Automations

open Aeolus.Theory
open Aeolus.Core

/-! ## What a scope sees -/

namespace System

/-- What the promise of a call has resolved to. -/
def resultOf (s : System) (call : Nat) : Option ActionResult :=
  match s.executions.get call with
  | some ⟨_, .settled result _⟩ => some result
  | _ => none

def correlationOf (s : System) (call : Nat) : Option String :=
  (s.executions.get call).bind fun x => x.accepted.bind Accepted.correlationId

end System

/-- An event as it concerns one call. -/
inductive SeenEvent where
  | handlerSettles (outcome : HandlerOutcome)
  | resolutionSettles
  | reply (message : AckMessage) (now : Nat)
  | observeState (deviceId : String) (state : JsonObject)
  | timer
  | cancel
  | restart

/-- What the handler answers is about the target, which is in scope, or about no device:
`handleLog` and `handleDelay` do not look at it. -/
def InView (deviceIds : Finset String) (action : ActionDescriptor) : Prop :=
  action.target ∈ deviceIds ∨ action.type = "log" ∨ action.type = "delay"

instance (deviceIds : Finset String) (action : ActionDescriptor) :
    Decidable (InView deviceIds action) := inferInstanceAs (Decidable (_ ∨ _ ∨ _))

/-- A call of a scoped automation: the scope, its action, and what identifies it in a
run. -/
structure Observer where
  deviceIds : Finset String
  action : ActionDescriptor
  call : Nat
  correlationId : Option String

/-- What the call's handler answers if that is in view, the call's other continuation and
timer, the replies of a target in scope, the observations of the devices in scope, and
restarts. -/
def Observer.see (o : Observer) : SystemEvent → Option SeenEvent
  | .execute _ _ _ _ _ => none
  | .handlerSettles call outcome _ _ =>
      if call = o.call ∧ InView o.deviceIds o.action then some (.handlerSettles outcome) else none
  | .resolutionSettles call _ _ => if call = o.call then some .resolutionSettles else none
  | .route message now _ =>
      if some message.correlationId = o.correlationId ∧ o.action.target ∈ o.deviceIds then
        some (.reply message now)
      else none
  | .observeState deviceId state =>
      if deviceId ∈ o.deviceIds then some (.observeState deviceId state) else none
  | .timer id => if some id = o.correlationId then some .timer else none
  | .cancel id => if some id = o.correlationId then some .cancel else none
  | .restart _ => some .restart

/-- Two environments that differ in devices outside the scope only. -/
structure Environment.AgreeOn (deviceIds : Finset String) (e f : Environment) : Prop where
  handler : e.handler = f.handler
  physical : e.physical = f.physical
  scope : e.scope = f.scope
  ackCapability : ∀ d ∈ deviceIds, e.ackCapability d = f.ackCapability d
  device : ∀ d ∈ deviceIds, e.device d = f.device d

/-- The device whose state would confirm the command. -/
def CommandRequest.observedDeviceId (request : CommandRequest) : String :=
  (request.confirm.bind ConfirmOptions.deviceId).getD request.action.target

/-! ## States that look alike -/

/-- Two views of one promise; they may differ in what came late. -/
def View.Alike (l l' : View) : Prop := l.1 = l'.1 ∧ l.outcome = l'.outcome

theorem View.Alike.react {l l' : View} (alike : l.Alike l') (react : TrackedEntry → Reaction) :
    (l.react react).Alike (l'.react react) := by
  obtain ⟨held, callbacks⟩ := l
  obtain ⟨held', callbacks'⟩ := l'
  obtain ⟨rfl, outcome⟩ := alike
  cases held with
  | none => exact ⟨rfl, outcome⟩
  | some entry =>
      refine ⟨rfl, ?_⟩
      simp only [View.react, View.outcome, List.filterMap_append] at outcome ⊢
      rw [outcome]

theorem View.Alike.localStep {k : String} {l l' : View} (alike : l.Alike l')
    (event : TrackerEvent) : (localStep k l event).Alike (localStep k l' event) := by
  cases event with
  | register command =>
      simp only [Automations.localStep]
      split
      · exact ⟨rfl, alike.2⟩
      · exact alike
  | route message now =>
      simp only [Automations.localStep]
      split
      · obtain ⟨held, callbacks⟩ := l
        obtain ⟨held', callbacks'⟩ := l'
        obtain ⟨rfl, outcome⟩ := alike
        cases held with
        | none =>
            exact ⟨rfl, (View.outcome_late _ _ _).trans (outcome.trans (View.outcome_late _ _ _).symm)⟩
        | some entry =>
            have same : View.Alike (some entry, callbacks) (some entry, callbacks') :=
              ⟨rfl, outcome⟩
            exact same.react fun entry => entry.route message now
      · exact alike
  | observeState deviceId state => exact alike.react _
  | cancel id =>
      simp only [Automations.localStep]
      split
      · exact alike.react _
      · exact alike
  | timer id =>
      simp only [Automations.localStep]
      split
      · exact alike.react _
      · exact alike

inductive Phase.Alike : Phase → Phase → Prop where
  | dispatching : Alike .dispatching .dispatching
  | awaiting (data : Option JsonObject) : Alike (.awaiting data) (.awaiting data)
  | settled (result : ActionResult) (written written' : Bool) :
      Alike (.settled result written) (.settled result written')
  | lost : Alike .lost .lost

/-- The parts of an accepted command that its result is made of. -/
structure Accepted.Alike (a b : Accepted) : Prop where
  commandId : a.commandId = b.commandId
  correlationId : a.correlationId = b.correlationId
  tier : a.tier = b.tier

theorem Accepted.Alike.withId {a b : Accepted} (alike : a.Alike b) (result : ActionResult) :
    a.withId result = b.withId result := by
  unfold Accepted.withId
  rw [alike.commandId]

inductive Execution.Alike : Execution → Execution → Prop where
  | refused {p p' : Phase} (phase : p.Alike p') : Alike ⟨none, p⟩ ⟨none, p'⟩
  | accepted {a b : Accepted} {p p' : Phase} (command : a.Alike b) (phase : p.Alike p') :
      Alike ⟨some a, p⟩ ⟨some b, p'⟩

namespace Observer

/-- The call is the observer's: it waits under its correlation id, if at all, and
then for devices in scope; its handler is called only if its answer is in view. -/
structure Watches (o : Observer) (x : Execution) : Prop where
  key : x.accepted.bind Accepted.correlationId = o.correlationId
  inScope : ∀ a k, x.accepted = some a → a.correlationId = some k →
    o.action.target ∈ o.deviceIds ∧ a.observedDeviceId ∈ o.deviceIds
  inView : x.accepted ≠ none → InView o.deviceIds o.action

theorem Watches.tracked {o : Observer} {x : Execution} (watches : o.Watches x) {k : String}
    (mine : o.correlationId = some k) : ∃ a phase, x = ⟨some a, phase⟩ ∧
      a.correlationId = some k ∧ o.action.target ∈ o.deviceIds ∧
      a.observedDeviceId ∈ o.deviceIds := by
  obtain ⟨accepted, phase⟩ := x
  obtain ⟨a, rfl, correlated⟩ := Option.bind_eq_some_iff.mp (watches.key.trans mine)
  exact ⟨a, phase, rfl, correlated, watches.inScope a k rfl correlated⟩

/-- Two states in which the observed call stands alike. -/
structure Stands (o : Observer) (call' : Nat) (s t : System) : Prop where
  calls : ∃ x y, s.executions.get o.call = some x ∧ t.executions.get call' = some y ∧
    x.Alike y ∧ o.Watches x ∧ o.Watches y
  views : ∀ k, o.correlationId = some k → (s.tracker.view k).Alike (t.tracker.view k)

structure Alike (o : Observer) (call' : Nat) (uuid uuid' : Nat → String) (s t : System) : Prop
    extends Stands o call' s t where
  inv : s.Inv uuid
  inv' : t.Inv uuid'

variable {o : Observer} {uuid uuid' : Nat → String} {s t : System}

/-! ## Unseen events -/

/-- What an unseen event leaves as it is. -/
def Untouched (o : Observer) (x : Execution) (s s' : System) : Prop :=
  s'.executions.get o.call = some x ∧
    ∀ k, o.correlationId = some k → s'.tracker.view k = s.tracker.view k

section Unseen

variable {x : Execution} (inv : s.Inv uuid) (here : s.executions.get o.call = some x)
  (watches : o.Watches x)

include inv here watches

/-- The observer's correlation id belongs to its call alone. -/
theorem own_key {k : String} (mine : o.correlationId = some k) {i : Nat} {a : Accepted}
    {phase : Phase} (there : s.executions.get i = some ⟨some a, phase⟩)
    (theirs : a.correlationId = some k) : i = o.call := by
  obtain ⟨b, phase', rfl, correlated, -⟩ := watches.tracked mine
  by_contra ne
  exact (inv.apart i o.call a b phase phase' there here ne).2 k theirs correlated

/-- The entry at that id waits for a device in scope, so others do not move it. -/
theorem observe_unseen {k : String} (mine : o.correlationId = some k) {deviceId : String}
    (outside : deviceId ∉ o.deviceIds) (state : JsonObject) :
    localStep k (s.tracker.view k) (.observeState deviceId state) = s.tracker.view k := by
  show (s.tracker.view k).react _ = s.tracker.view k
  unfold View.react
  split
  · rfl
  · rename_i entry found
    obtain ⟨i, b, phase, there, theirs, command⟩ := inv.owner k entry found
    have same := own_key inv here watches mine there theirs
    subst same
    obtain ⟨a, phase', rfl, -, -, inScope⟩ := watches.tracked mine
    rw [here] at there
    cases there
    have elsewhere : entry.command.observedDeviceId ≠ deviceId := by
      rw [command]
      rintro rfl
      exact outside inScope
    simp only [TrackedEntry.observe, elsewhere, ne_eq, not_false_eq_true, if_true, ite_self,
      List.append_nil]
    exact Prod.ext found.symm rfl

theorem execute_unseen (fresh : Function.Injective uuid) (env : Environment)
    (request : CommandRequest) (now : Nat) (createThrows writeThrows : Bool) :
    Untouched o x s (s.execute uuid env request now createThrows writeThrows) := by
  have old : o.call ≠ s.calls := Nat.ne_of_lt (inv.calls o.call x here)
  have begun : ∀ y, (s.executions.set s.calls y).get o.call = some x := fun y =>
    (OrderedMap.get_set_of_ne _ _ old).trans here
  unfold System.execute
  split
  · exact ⟨begun _, fun _ _ => rfl⟩
  · have entering := accept_entering fresh s env request
    generalize accept uuid s.uuids env request = accepted at entering
    obtain ⟨a, n⟩ := accepted
    dsimp only at entering ⊢
    split
    · exact ⟨begun _, fun _ _ => rfl⟩
    · split
      · exact ⟨begun _, fun _ _ => rfl⟩
      · split
        · exact ⟨begun _, fun _ _ => rfl⟩
        · rename_i k' new
          refine ⟨begun _, fun k mine => ?_⟩
          refine (s.tracker.view_step k (.register (a.pendingCommand k')) inv.keyed).trans ?_
          refine if_neg fun (same : k' = k) => ?_
          obtain ⟨b, phase, rfl, correlated, -⟩ := watches.tracked mine
          exact (entering.correlation k' new).2
            (same ▸ (inv.drawn o.call b phase here).2 k correlated)

theorem failDispatch_unseen {call : Nat} {a : Accepted} {phase : Phase}
    (there : s.executions.get call = some ⟨some a, phase⟩) (other : call ≠ o.call)
    (result : ActionResult) (input : String → CommandTransitionInput) (throws : Bool) :
    Untouched o x s (s.failDispatch call a result input throws) := by
  refine ⟨(OrderedMap.get_set_of_ne _ _ other.symm).trans here, fun k mine => ?_⟩
  show (a.correlationId.elim s.tracker s.tracker.cancel).view k = s.tracker.view k
  cases theirs : a.correlationId with
  | none => rfl
  | some k' =>
      refine (s.tracker.view_step k (.cancel k') inv.keyed).trans (if_neg ?_)
      rintro rfl
      exact other (own_key inv here watches mine there theirs)

theorem handlerSettles_unseen {call : Nat} (other : call ≠ o.call) (outcome : HandlerOutcome)
    (now : Nat) (throws : Bool) : Untouched o x s (s.handlerSettles call outcome now throws) := by
  have elsewhere : ∀ y, (s.executions.set call y).get o.call = some x := fun y =>
    (OrderedMap.get_set_of_ne _ _ other.symm).trans here
  unfold System.handlerSettles
  split
  · rename_i a there
    split
    · exact failDispatch_unseen inv here watches there other _ _ _
    · exact failDispatch_unseen inv here watches there other _ _ _
    · dsimp only
      split
      · exact ⟨elsewhere _, fun _ _ => rfl⟩
      · exact ⟨elsewhere _, fun _ _ => rfl⟩
  · exact ⟨here, fun _ _ => rfl⟩

omit inv watches in
theorem resolutionSettles_unseen {call : Nat} (other : call ≠ o.call) (now : Nat) (throws : Bool) :
    Untouched o x s (s.resolutionSettles call now throws) := by
  have elsewhere : ∀ y, (s.executions.set call y).get o.call = some x := fun y =>
    (OrderedMap.get_set_of_ne _ _ other.symm).trans here
  unfold System.resolutionSettles
  split
  · split
    · exact ⟨here, fun _ _ => rfl⟩
    · exact ⟨elsewhere _, fun _ _ => rfl⟩
  · exact ⟨here, fun _ _ => rfl⟩

/-- **Unseen events change nothing** of the call and of its promise. -/
theorem step_unseen (fresh : Function.Injective uuid) (event : SystemEvent)
    (unseen : o.see event = none) : Untouched o x s (s.step uuid event) := by
  have still : ∀ {k} (event : TrackerEvent), localStep k (s.tracker.view k) event =
      s.tracker.view k → (s.tracker.step event).view k = s.tracker.view k :=
    fun event same => (s.tracker.view_step _ event inv.keyed).trans same
  cases event with
  | execute env request now createThrows writeThrows =>
      exact execute_unseen inv here watches fresh env request now createThrows writeThrows
  | handlerSettles call outcome now throws =>
      by_cases other : call = o.call
      · -- the call was refused: its handler is not called
        obtain ⟨accepted, phase⟩ := x
        have refused : accepted = none := by
          by_contra accepted
          simp [see, other, watches.inView accepted] at unseen
        simp only [System.step, System.handlerSettles, other, here, refused]
        exact ⟨refused ▸ here, fun _ _ => rfl⟩
      · exact handlerSettles_unseen inv here watches other outcome now throws
  | resolutionSettles call now throws =>
      have other : call ≠ o.call := by simpa [see] using unseen
      exact resolutionSettles_unseen here other now throws
  | route message now faults =>
      refine ⟨here, fun k mine => still (.route message now) (if_neg fun same => ?_)⟩
      obtain ⟨-, -, -, -, inScope, -⟩ := watches.tracked mine
      simp [see, mine, same, inScope] at unseen
  | observeState deviceId state =>
      have outside : deviceId ∉ o.deviceIds := by simpa [see] using unseen
      exact ⟨here, fun k mine => still (.observeState deviceId state)
        (observe_unseen inv here watches mine outside state)⟩
  | timer id =>
      refine ⟨here, fun k mine => still (.timer id) (if_neg fun same => ?_)⟩
      simp [see, mine, same] at unseen
  | cancel id =>
      refine ⟨here, fun k mine => still (.cancel id) (if_neg fun same => ?_)⟩
      simp [see, mine, same] at unseen
  | restart now => simp [see] at unseen

end Unseen

/-! ## Seen events -/

/-- The events that look so to the observer. -/
def Shows (o : Observer) (event : SystemEvent) : SeenEvent → Prop
  | .handlerSettles outcome => ∃ now throws, event = .handlerSettles o.call outcome now throws
  | .resolutionSettles => ∃ now throws, event = .resolutionSettles o.call now throws
  | .reply message now => ∃ faults, event = .route message now faults
  | .observeState deviceId state => event = .observeState deviceId state
  | .timer => ∃ id, o.correlationId = some id ∧ event = .timer id
  | .cancel => ∃ id, o.correlationId = some id ∧ event = .cancel id
  | .restart => ∃ now, event = .restart now

theorem shows_of_see {event : SystemEvent} {v : SeenEvent} (seen : o.see event = some v) :
    o.Shows event v := by
  cases event with
  | execute => cases seen
  | handlerSettles call outcome now throws =>
      obtain ⟨⟨rfl, -⟩, rfl⟩ : (call = o.call ∧ InView o.deviceIds o.action) ∧
          SeenEvent.handlerSettles outcome = v := by
        simpa [see] using seen
      exact ⟨now, throws, rfl⟩
  | resolutionSettles call now throws =>
      obtain ⟨rfl, rfl⟩ : call = o.call ∧ SeenEvent.resolutionSettles = v := by
        simpa [see] using seen
      exact ⟨now, throws, rfl⟩
  | route message now faults =>
      obtain ⟨-, rfl⟩ : _ ∧ SeenEvent.reply message now = v := by simpa [see] using seen
      exact ⟨faults, rfl⟩
  | observeState deviceId state =>
      obtain ⟨-, rfl⟩ : _ ∧ SeenEvent.observeState deviceId state = v := by
        simpa [see] using seen
      exact rfl
  | timer id =>
      obtain ⟨mine, rfl⟩ : some id = o.correlationId ∧ SeenEvent.timer = v := by
        simpa [see] using seen
      exact ⟨id, mine.symm, rfl⟩
  | cancel id =>
      obtain ⟨mine, rfl⟩ : some id = o.correlationId ∧ SeenEvent.cancel = v := by
        simpa [see] using seen
      exact ⟨id, mine.symm, rfl⟩
  | restart now =>
      cases seen
      exact ⟨now, rfl⟩

section Seen

variable {call' : Nat}

/-- The promises move alike, the calls stand still. -/
theorem Alike.track (alike : o.Alike call' uuid uuid' s t) (event : TrackerEvent) {s' t' : System}
    (calls : s'.executions = s.executions) (calls' : t'.executions = t.executions)
    (moved : s'.tracker = s.tracker.step event) (moved' : t'.tracker = t.tracker.step event) :
    o.Stands call' s' t' where
  calls := by
    rw [calls, calls']
    exact alike.calls
  views k mine := by
    rw [moved, moved', s.tracker.view_step k event alike.inv.keyed,
      t.tracker.view_step k event alike.inv'.keyed]
    exact (alike.views k mine).localStep event

/-- Both calls take a next phase. -/
theorem Stands.put (stands : o.Stands call' s t) {s' t' : System} {a b : Accepted}
    {p p' q q' : Phase} (here : s.executions.get o.call = some ⟨some a, p⟩)
    (there : t.executions.get call' = some ⟨some b, p'⟩) (command : a.Alike b) (phase : q.Alike q')
    (put : s'.executions = s.executions.set o.call ⟨some a, q⟩)
    (put' : t'.executions = t.executions.set call' ⟨some b, q'⟩)
    (views : ∀ k, o.correlationId = some k → (s'.tracker.view k).Alike (t'.tracker.view k)) :
    o.Stands call' s' t' where
  calls := by
    obtain ⟨x, y, found, found', -, watches, watches'⟩ := stands.calls
    rw [here] at found
    rw [there] at found'
    cases found
    cases found'
    refine ⟨⟨some a, q⟩, ⟨some b, q'⟩, ?_, ?_, .accepted command phase,
      ⟨watches.key, watches.inScope, watches.inView⟩,
      ⟨watches'.key, watches'.inScope, watches'.inView⟩⟩
    · rw [put, OrderedMap.get_set_self]
    · rw [put', OrderedMap.get_set_self]
  views := views

theorem failDispatch_seen (alike : o.Alike call' uuid uuid' s t) {a b : Accepted} {p p' : Phase}
    (here : s.executions.get o.call = some ⟨some a, p⟩)
    (there : t.executions.get call' = some ⟨some b, p'⟩) (command : a.Alike b)
    (result : ActionResult) (input input' : String → CommandTransitionInput)
    (throws throws' : Bool) :
    o.Stands call' (s.failDispatch o.call a result input throws)
      (t.failDispatch call' b result input' throws') := by
  refine alike.put here there command ?_ rfl rfl fun k mine => ?_
  · rw [command.withId]
    exact .settled _ _ _
  · show View.Alike ((a.correlationId.elim s.tracker s.tracker.cancel).view k)
      ((b.correlationId.elim t.tracker t.tracker.cancel).view k)
    rw [← command.correlationId]
    cases a.correlationId with
    | none => exact alike.views k mine
    | some k' =>
        have moved : o.Stands call' { s with tracker := s.tracker.cancel k' }
            { t with tracker := t.tracker.cancel k' } :=
          alike.track (.cancel k') rfl rfl rfl rfl
        exact moved.views k mine

theorem handlerSettles_seen (alike : o.Alike call' uuid uuid' s t) (outcome : HandlerOutcome)
    (now now' : Nat) (throws throws' : Bool) :
    o.Stands call' (s.handlerSettles o.call outcome now throws)
      (t.handlerSettles call' outcome now' throws') := by
  obtain ⟨x, y, here, there, same, -, -⟩ := alike.calls
  unfold System.handlerSettles
  rw [here, there]
  cases same with
  | refused => exact alike.toStands
  | @accepted a b _ _ command phase =>
      cases phase with
      | dispatching =>
          dsimp only
          rw [← command.tier]
          split
          · exact failDispatch_seen alike here there command _ _ _ _ _
          · exact failDispatch_seen alike here there command _ _ _ _ _
          · split
            · refine alike.put here there command ?_ rfl rfl alike.views
              rw [command.withId, command.correlationId]
              exact .settled _ _ _
            · exact alike.put here there command (.awaiting _) rfl rfl alike.views
      | _ => exact alike.toStands

theorem resolutionOf_alike (alike : o.Alike call' uuid uuid' s t) {a b : Accepted}
    (command : a.Alike b) (mine : a.correlationId = o.correlationId) :
    s.resolutionOf a = t.resolutionOf b := by
  unfold System.resolutionOf
  rw [← command.correlationId]
  cases correlated : a.correlationId with
  | none => rfl
  | some k =>
      have same := (alike.views k (mine.symm.trans correlated)).2
      show (s.tracker.view k).outcome.head? = (t.tracker.view k).outcome.head?
      rw [same]

theorem resolutionSettles_seen (alike : o.Alike call' uuid uuid' s t) (now now' : Nat)
    (throws throws' : Bool) :
    o.Stands call' (s.resolutionSettles o.call now throws)
      (t.resolutionSettles call' now' throws') := by
  obtain ⟨x, y, here, there, same, watches, -⟩ := alike.calls
  unfold System.resolutionSettles
  rw [here, there]
  cases same with
  | refused => exact alike.toStands
  | accepted command phase =>
      cases phase with
      | awaiting data =>
          dsimp only
          rw [← resolutionOf_alike alike command watches.key]
          split
          · exact alike.toStands
          · refine alike.put here there command ?_ rfl rfl alike.views
            rw [command.withId, command.correlationId]
            exact .settled _ _ _
      | _ => exact alike.toStands

theorem restart_seen (alike : o.Alike call' uuid uuid' s t) (now now' : Nat) :
    o.Stands call' (s.restart now) (t.restart now') where
  calls := by
    obtain ⟨x, y, here, there, same, watches, watches'⟩ := alike.calls
    have kept : ∀ z, (System.survive z).accepted = z.accepted := by
      intro z
      unfold System.survive
      split <;> rfl
    refine ⟨System.survive x, System.survive y, ?_, ?_, ?_, ?_, ?_⟩
    · show (s.executions.map System.survive).get o.call = _
      rw [OrderedMap.get_map, here, Option.map_some]
    · show (t.executions.map System.survive).get call' = _
      rw [OrderedMap.get_map, there, Option.map_some]
    · cases same with
      | refused phase =>
          cases phase with
          | settled => exact .refused (.settled _ _ _)
          | _ => exact .refused .lost
      | accepted command phase =>
          cases phase with
          | settled => exact .accepted command (.settled _ _ _)
          | _ => exact .accepted command .lost
    · exact ⟨kept x ▸ watches.key, kept x ▸ watches.inScope, kept x ▸ watches.inView⟩
    · exact ⟨kept y ▸ watches'.key, kept y ▸ watches'.inScope, kept y ▸ watches'.inView⟩
  views _ _ := ⟨rfl, rfl⟩

/-- **Events seen alike move both runs alike.** -/
theorem step_seen (alike : o.Alike call' uuid uuid' s t) {e f : SystemEvent} {v : SeenEvent}
    (seen : o.see e = some v) (seen' : { o with call := call' }.see f = some v) :
    o.Stands call' (s.step uuid e) (t.step uuid' f) := by
  have shown := shows_of_see seen
  have shown' := shows_of_see seen'
  cases v with
  | handlerSettles outcome =>
      obtain ⟨now, throws, rfl⟩ := shown
      obtain ⟨now', throws', rfl⟩ := shown'
      exact handlerSettles_seen alike outcome now now' throws throws'
  | resolutionSettles =>
      obtain ⟨now, throws, rfl⟩ := shown
      obtain ⟨now', throws', rfl⟩ := shown'
      exact resolutionSettles_seen alike now now' throws throws'
  | reply message now =>
      obtain ⟨faults, rfl⟩ := shown
      obtain ⟨faults', rfl⟩ := shown'
      exact alike.track (.route message now) rfl rfl rfl rfl
  | observeState deviceId state =>
      cases shown
      cases shown'
      exact alike.track (.observeState deviceId state) rfl rfl rfl rfl
  | timer =>
      obtain ⟨id, mine, rfl⟩ := shown
      obtain ⟨id', mine', rfl⟩ := shown'
      cases mine.symm.trans mine'
      exact alike.track (.timer id) rfl rfl rfl rfl
  | cancel =>
      obtain ⟨id, mine, rfl⟩ := shown
      obtain ⟨id', mine', rfl⟩ := shown'
      cases mine.symm.trans mine'
      exact alike.track (.cancel id) rfl rfl rfl rfl
  | restart =>
      obtain ⟨now, rfl⟩ := shown
      obtain ⟨now', rfl⟩ := shown'
      exact restart_seen alike now now'

/-- Two runs of a call that are seen alike keep the call alike. -/
theorem run_alike (fresh : Function.Injective uuid) (fresh' : Function.Injective uuid')
    (alike : o.Alike call' uuid uuid' s t) {es fs : List SystemEvent}
    (seen : es.filterMap o.see = fs.filterMap { o with call := call' }.see) :
    o.Alike call' uuid uuid' (run (System.step uuid) s es) (run (System.step uuid') t fs) := by
  have left : ∀ s t e, o.Alike call' uuid uuid' s t → o.see e = none →
      o.Alike call' uuid uuid' (s.step uuid e) t := by
    intro s t e alike unseen
    obtain ⟨x, y, here, there, same, watches, watches'⟩ := alike.calls
    obtain ⟨kept, still⟩ := step_unseen alike.inv here watches fresh e unseen
    refine ⟨⟨⟨x, y, kept, there, same, watches, watches'⟩, fun k mine => ?_⟩,
      step_inv fresh s e alike.inv, alike.inv'⟩
    rw [still k mine]
    exact alike.views k mine
  have right : ∀ s t f, o.Alike call' uuid uuid' s t → { o with call := call' }.see f = none →
      o.Alike call' uuid uuid' s (t.step uuid' f) := by
    intro s t f alike unseen
    obtain ⟨x, y, here, there, same, watches, watches'⟩ := alike.calls
    have theirs : ({ o with call := call' } : Observer).Watches y :=
      ⟨watches'.key, watches'.inScope, watches'.inView⟩
    obtain ⟨kept, still⟩ := step_unseen alike.inv' there theirs fresh' f unseen
    refine ⟨⟨⟨x, y, here, kept, same, watches, watches'⟩, fun k mine => ?_⟩,
      alike.inv, step_inv fresh' t f alike.inv'⟩
    rw [still k mine]
    exact alike.views k mine
  have both : ∀ s t e f v, o.Alike call' uuid uuid' s t → o.see e = some v →
      { o with call := call' }.see f = some v →
      o.Alike call' uuid uuid' (s.step uuid e) (t.step uuid' f) :=
    fun s t e f v alike seen seen' => ⟨step_seen alike seen seen',
      step_inv fresh s e alike.inv, step_inv fresh' t f alike.inv'⟩
  exact unwinding _ left right both alike seen

theorem Alike.resultOf (alike : o.Alike call' uuid uuid' s t) :
    s.resultOf o.call = t.resultOf call' := by
  obtain ⟨x, y, here, there, same, -, -⟩ := alike.calls
  unfold System.resultOf
  rw [here, there]
  cases same with
  | refused phase => cases phase <;> rfl
  | accepted command phase => cases phase <;> rfl

end Seen

end Observer

/-! ## How a call begins -/

section Begin

variable {uuid uuid' : Nat → String} {s t : System} {env env' : Environment}
  {request : CommandRequest} {deviceIds : Finset String}

/-- The command is untracked, or addressed to a device in scope. -/
theorem accept_alike (agree : env.AgreeOn deviceIds env')
    (ids : ∀ n, uuid (s.uuids + n) = uuid' (t.uuids + n))
    (covered : request.requiredTier = some .dispatch ∨ request.action.target ∈ deviceIds) :
    (accept uuid s.uuids env request).1.Alike (accept uuid' t.uuids env' request).1 ∧
      ((accept uuid s.uuids env request).1.correlationId ≠ none →
        (accept uuid s.uuids env request).1 = (accept uuid' t.uuids env' request).1) := by
  have first : uuid s.uuids = uuid' t.uuids := ids 0
  have second : uuid (s.uuids + 1) = uuid' (t.uuids + 1) := ids 1
  unfold accept
  rw [← agree.physical]
  rcases covered with dispatch | inScope
  · have tier : ∀ ceiling hasConfirm hasAckCapability, resolveEffectiveTier request.requiredTier
        ceiling hasConfirm hasAckCapability = .dispatch := by
      intro ceiling hasConfirm hasAckCapability
      rw [dispatch]
      rfl
    simp only [tier, ne_eq, not_true_eq_false, if_false, IsEmpty.forall_iff, and_true]
    exact ⟨by rw [first], rfl, rfl⟩
  · rw [← agree.ackCapability _ inScope]
    cases env.physical request.action.type with
    | false =>
        simp only [Bool.false_eq_true, if_false, first]
        exact ⟨⟨rfl, rfl, rfl⟩, fun _ => trivial⟩
    | true =>
        simp only [if_true, first, second]
        exact ⟨⟨rfl, rfl, rfl⟩, fun _ => trivial⟩

/-- With fresh ids the record is refused only when the write throws. -/
theorem createRecord_eq_none {a : Accepted} {n : Nat} (entering : Entering uuid s a n)
    (stored : DrawnStore uuid s.uuids s.store) (env : Environment) (now : Nat) (throws : Bool) :
    System.createRecord s.store env a now throws = none ↔
      a.commandId.isSome = true ∧ throws = true := by
  cases throws with
  | false => simpa using createRecord_succeeds entering stored env now
  | true =>
      unfold System.createRecord
      cases a.commandId <;> simp

theorem begin_stands {key : Option String} {a b : Accepted} {p q : Phase}
    {action : ActionDescriptor}
    {s' t' : System} (command : a.Alike b) (mine : a.correlationId = key) (phase : p.Alike q)
    (inScope : ∀ k, key = some k → action.target ∈ deviceIds ∧ a.observedDeviceId ∈ deviceIds ∧
      b.observedDeviceId ∈ deviceIds)
    (inView : InView deviceIds action)
    (put : s'.executions = s.executions.set s.calls ⟨some a, p⟩)
    (put' : t'.executions = t.executions.set t.calls ⟨some b, q⟩)
    (views : ∀ k, key = some k → (s'.tracker.view k).Alike (t'.tracker.view k)) :
    Observer.Stands ⟨deviceIds, action, s.calls, key⟩ t.calls s' t' where
  calls := by
    subst mine
    refine ⟨⟨some a, p⟩, ⟨some b, q⟩, ?_, ?_, .accepted command phase,
      ⟨rfl, ?_, fun _ => inView⟩, ⟨command.correlationId.symm, ?_, fun _ => inView⟩⟩
    · rw [put, OrderedMap.get_set_self]
    · rw [put', OrderedMap.get_set_self]
    · rintro _ k ⟨⟩ tracked
      exact ⟨(inScope k tracked).1, (inScope k tracked).2.1⟩
    · rintro _ k ⟨⟩ tracked
      have tracked := command.correlationId.trans tracked
      exact ⟨(inScope k tracked).1, (inScope k tracked).2.2⟩
  views := views

/-- Two accepted requests begin alike. -/
theorem execute_stands (fresh : Function.Injective uuid) (fresh' : Function.Injective uuid')
    (inv : s.Inv uuid) (inv' : t.Inv uuid') (agree : env.AgreeOn deviceIds env')
    (ids : ∀ n, uuid (s.uuids + n) = uuid' (t.uuids + n))
    (accepted : preAcceptance env request = none) (accepted' : preAcceptance env' request = none)
    (covered : request.requiredTier = some .dispatch ∧ InView deviceIds request.action ∨
      request.action.target ∈ deviceIds ∧ request.observedDeviceId ∈ deviceIds)
    (now now' : Nat) (createThrows writeThrows writeThrows' : Bool) :
    ∃ key, Observer.Stands ⟨deviceIds, request.action, s.calls, key⟩ t.calls
      (s.execute uuid env request now createThrows writeThrows)
      (t.execute uuid' env' request now' createThrows writeThrows') := by
  have entering := accept_entering fresh s env request
  have entering' := accept_entering fresh' t env' request
  obtain ⟨command, same⟩ := accept_alike agree ids (covered.imp And.left And.left)
  have inView : InView deviceIds request.action := covered.elim And.right fun waits => .inl waits.1
  have own : (accept uuid s.uuids env request).1.request = request := rfl
  have own' : (accept uuid' t.uuids env' request).1.request = request := rfl
  have tracked : ∀ k, (accept uuid s.uuids env request).1.correlationId = some k →
      request.action.target ∈ deviceIds ∧ request.observedDeviceId ∈ deviceIds := by
    intro k mine
    refine covered.resolve_left fun untracked => ?_
    have tier : (accept uuid s.uuids env request).1.tier = .dispatch := by
      unfold accept
      rw [untracked.1]
      rfl
    rw [entering.tracked.mpr tier] at mine
    cases mine
  unfold System.execute
  rw [accepted, accepted']
  dsimp only
  generalize accept uuid s.uuids env request = x at *
  generalize accept uuid' t.uuids env' request = y at *
  obtain ⟨a, n⟩ := x
  obtain ⟨b, n'⟩ := y
  dsimp only at *
  refine ⟨a.correlationId, ?_⟩
  have inScope : ∀ k, a.correlationId = some k → request.action.target ∈ deviceIds ∧
      a.observedDeviceId ∈ deviceIds ∧ b.observedDeviceId ∈ deviceIds := by
    intro k mine
    have observed : a.observedDeviceId ∈ deviceIds := by
      show a.request.observedDeviceId ∈ deviceIds
      rw [own]
      exact (tracked k mine).2
    refine ⟨(tracked k mine).1, observed, ?_⟩
    rw [← same (mine ▸ nofun)]
    exact observed
  -- nothing is known of an id that has just been drawn
  have views : ∀ k, a.correlationId = some k → (s.tracker.view k).Alike (t.tracker.view k) := by
    intro k mine
    have unknown := inv.unknown k (entering.correlation k mine).2
    have unknown' := inv'.unknown k (entering'.correlation k (command.correlationId ▸ mine)).2
    exact ⟨unknown.1.trans unknown'.1.symm, unknown.2.trans unknown'.2.symm⟩
  have refused := createRecord_eq_none entering inv.stored env now createThrows
  have refused' := createRecord_eq_none entering' inv'.stored env' now' createThrows
  rw [← command.commandId] at refused'
  cases created : System.createRecord s.store env a now createThrows with
  | none =>
      rw [refused'.mpr (refused.mp created)]
      dsimp only
      refine begin_stands command rfl ?_ inScope inView rfl rfl views
      rw [command.withId]
      exact .settled _ _ _
  | some store =>
      obtain ⟨store', created'⟩ : ∃ store', System.createRecord t.store env' b now' createThrows =
          some store' := by
        refine Option.ne_none_iff_exists'.mp fun none => ?_
        rw [refused.mpr (refused'.mp none)] at created
        cases created
      rw [created']
      dsimp only
      have missing : (a.tier = .observed ∧ (!env.device a.observedDeviceId) = true) ↔
          (b.tier = .observed ∧ (!env'.device b.observedDeviceId) = true) := by
        rw [← command.tier]
        refine and_congr_right fun observed => ?_
        cases mine : a.correlationId with
        | none => cases (entering.tracked.mp mine).symm.trans observed
        | some k =>
            rw [← same (mine ▸ nofun), agree.device _ (inScope k mine).2.1]
      by_cases gone : a.tier = .observed ∧ (!env.device a.observedDeviceId) = true
      · rw [if_pos gone, if_pos (missing.mp gone)]
        refine begin_stands command rfl ?_ inScope inView rfl rfl views
        have tracked : a.correlationId ≠ none := fun none => by
          cases (entering.tracked.mp none).symm.trans gone.1
        rw [← same tracked]
        exact .settled _ _ _
      · rw [if_neg gone, if_neg fun there => gone (missing.mpr there), ← command.correlationId]
        cases mine : a.correlationId with
        | none =>
            rw [mine] at inScope views
            exact begin_stands command mine .dispatching inScope inView rfl rfl views
        | some k =>
            rw [mine] at inScope views
            refine begin_stands command mine .dispatching inScope inView rfl rfl fun k' here => ?_
            show View.Alike ((s.tracker.step (.register (a.pendingCommand k))).view k')
              ((t.tracker.step (.register (b.pendingCommand k))).view k')
            rw [s.tracker.view_step k' _ inv.keyed, t.tracker.view_step k' _ inv'.keyed,
              ← same (mine ▸ nofun)]
            exact (views k' here).localStep _

end Begin

/-! ## Confinement -/

/-- One run around a call: what happened before it, the call itself, what happens
after it. -/
structure ScopedRun where
  uuid : Nat → String
  fresh : Function.Injective uuid
  before : List SystemEvent := []
  env : Environment
  now : Nat := 0
  createThrows : Bool := false
  writeThrows : Bool := false
  after : List SystemEvent := []

namespace ScopedRun

def start (r : ScopedRun) : System := run (System.step r.uuid) {} r.before

def begun (r : ScopedRun) (request : CommandRequest) : System :=
  r.start.execute r.uuid r.env request r.now r.createThrows r.writeThrows

def finish (r : ScopedRun) (request : CommandRequest) : System :=
  run (System.step r.uuid) (r.begun request) r.after

/-- What `execute` returns in the run. -/
def result (r : ScopedRun) (request : CommandRequest) : Option ActionResult :=
  (r.finish request).resultOf r.start.calls

def observer (r : ScopedRun) (deviceIds : Finset String) (request : CommandRequest) : Observer :=
  { deviceIds := deviceIds
    action := request.action
    call := r.start.calls
    correlationId := (r.begun request).correlationOf r.start.calls }

/-- The runs differ, to the scope, in nothing: the devices in it are known alike,
the call draws the same ids, and the events it sees are the same. -/
structure AgreeOn (deviceIds : Finset String) (request : CommandRequest) (r q : ScopedRun) :
    Prop where
  environment : r.env.AgreeOn deviceIds q.env
  ids : ∀ n, r.uuid (r.start.uuids + n) = q.uuid (q.start.uuids + n)
  createThrows : r.createThrows = q.createThrows
  events : r.after.filterMap (r.observer deviceIds request).see =
    q.after.filterMap (q.observer deviceIds request).see

end ScopedRun

/-- A request tells its automation nothing about devices outside the scope. -/
def Confined (ruleId : String) (deviceIds : Finset String) (request : CommandRequest) : Prop :=
  ∀ r q : ScopedRun, r.env.scope ruleId = .scoped deviceIds → r.AgreeOn deviceIds request q →
    r.result request = q.result request

/-- The request is refused by its type or its target, or never waits and its handler's answer
is in view, or is addressed to a device in scope and confirmed by one. -/
def Covered (deviceIds : Finset String) (request : CommandRequest) : Prop :=
  request.action.type = "publish" ∨ request.action.type = "webhook" ∨
    (request.action.type = "device_action" ∨ request.action.type = "toggle") ∧
      request.action.target ∉ deviceIds ∨
    request.requiredTier = some .dispatch ∧ InView deviceIds request.action ∨
    request.action.target ∈ deviceIds ∧ request.observedDeviceId ∈ deviceIds

section Confinement

variable {ruleId : String} {deviceIds : Finset String} {request : CommandRequest}

theorem preAcceptance_agree {env env' : Environment} (agree : env.AgreeOn deviceIds env') :
    preAcceptance env request = preAcceptance env' request := by
  unfold preAcceptance
  rw [agree.handler]
  unfold checkScope
  rw [agree.scope]

/-- A covered request that passes the checks does not wait, or waits in scope. -/
theorem Covered.accepted {env : Environment} (covered : Covered deviceIds request)
    (source : request.source = .automation ruleId) (scope : env.scope ruleId = .scoped deviceIds)
    (accepted : preAcceptance env request = none) :
    request.requiredTier = some .dispatch ∧ InView deviceIds request.action ∨
      request.action.target ∈ deviceIds ∧ request.observedDeviceId ∈ deviceIds := by
  have passed : checkScope env request.action request.source = none := by
    unfold preAcceptance at accepted
    split at accepted
    · exact accepted
    · cases accepted
  simp only [checkScope, source, scope] at passed
  rcases covered with publish | webhook | ⟨device, outside⟩ | rest
  · simp [publish] at passed
  · simp [webhook] at passed
  · rcases device with type | type <;> simp [type, outside] at passed
  · exact rest

theorem begun_stands {r q : ScopedRun} (covered : Covered deviceIds request)
    (source : request.source = .automation ruleId)
    (scope : r.env.scope ruleId = .scoped deviceIds) (agree : r.AgreeOn deviceIds request q) :
    ∃ key, Observer.Stands ⟨deviceIds, request.action, r.start.calls, key⟩ q.start.calls
      (r.begun request) (q.begun request) := by
  have inv : r.start.Inv r.uuid := run_invariant (step_inv r.fresh) (inv_init _) _
  have inv' : q.start.Inv q.uuid := run_invariant (step_inv q.fresh) (inv_init _) _
  have same : preAcceptance r.env request = preAcceptance q.env request :=
    preAcceptance_agree agree.environment
  cases accepted : preAcceptance r.env request with
  | none =>
      unfold ScopedRun.begun
      rw [agree.createThrows]
      exact execute_stands r.fresh q.fresh inv inv' agree.environment agree.ids accepted
        (same.symm.trans accepted) (covered.accepted source scope accepted) _ _ _ _ _
  | some result =>
      unfold ScopedRun.begun System.execute
      rw [accepted, same.symm.trans accepted]
      have watches : ∀ call, Observer.Watches
          ⟨deviceIds, request.action, call, none⟩ ⟨none, .settled result false⟩ :=
        fun _ => ⟨rfl, fun _ _ found => (by cases found), fun accepted => absurd rfl accepted⟩
      exact ⟨none, ⟨⟨none, _⟩, ⟨none, _⟩, OrderedMap.get_set_self _ _ _,
        OrderedMap.get_set_self _ _ _, .refused (.settled result false false), watches _,
        watches _⟩, fun _ mine => by cases mine⟩

theorem confined_of_covered (source : request.source = .automation ruleId)
    (covered : Covered deviceIds request) : Confined ruleId deviceIds request := by
  intro r q scope agree
  obtain ⟨key, stands⟩ := begun_stands covered source scope agree
  have mine : (r.begun request).correlationOf r.start.calls = key := by
    obtain ⟨x, -, here, -, -, watches, -⟩ := stands.calls
    rw [System.correlationOf, here]
    exact watches.key
  have theirs : (q.begun request).correlationOf q.start.calls = key := by
    obtain ⟨-, y, -, there, -, -, watches⟩ := stands.calls
    rw [System.correlationOf, there]
    exact watches.key
  have inv : (r.begun request).Inv r.uuid :=
    execute_inv r.fresh (run_invariant (step_inv r.fresh) (inv_init _) _) _ _ _ _ _
  have inv' : (q.begun request).Inv q.uuid :=
    execute_inv q.fresh (run_invariant (step_inv q.fresh) (inv_init _) _) _ _ _ _ _
  have events := agree.events
  unfold ScopedRun.observer at events
  rw [mine, theirs] at events
  exact (Observer.run_alike r.fresh q.fresh ⟨stands, inv, inv'⟩ events).resultOf

end Confinement

end Aeolus.Automations
