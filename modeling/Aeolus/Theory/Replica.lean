/-
# Aeolus.Theory.Replica — a copy that is kept by events

A component announces events as it steps.  A subscriber that once copied a view of its
state applies the events in the order in which they come.  An input *accounts* for its
effect when its events, applied to the view before it, give the view after it.

The subscriber agrees with the component in every state of a run exactly when every input
of the run accounts for its effect (`agrees_iff_along`): one input that does not is seen
at once.
-/
import Aeolus.Theory.Run

namespace Aeolus.Theory

universe u v w x y

namespace Replica

variable {S : Type u} {E : Type v} {D : Type w} {T : Type x} {C : Type y} {step : S → E → S}
  {emits : S → E → List D} {apply : C → D → C} {update : T → D → T} {view : S → T} {read : C → T}

/-- The component and one subscriber. -/
def follow (step : S → E → S) (emits : S → E → List D) (apply : C → D → C) (pair : S × C) (e : E) :
    S × C :=
  (step pair.1 e, (emits pair.1 e).foldl apply pair.2)

/-- The events of an input say all that it does to the view, and no more. -/
def Accounts (step : S → E → S) (emits : S → E → List D) (update : T → D → T) (view : S → T) (s : S)
    (e : E) : Prop :=
  (emits s e).foldl update (view s) = view (step s e)

/-- The component does not see its subscriber. -/
theorem fst_follow (pair : S × C) (es : List E) :
    (run (follow step emits apply) pair es).1 = run step pair.1 es := by
  induction es generalizing pair with
  | nil => rfl
  | cons e es ih => exact ih (follow step emits apply pair e)

theorem along_follow (ok : S → E → Prop) (pair : S × C) (es : List E) :
    Along (follow step emits apply) (fun pair e => ok pair.1 e) pair es ↔
      Along step ok pair.1 es := by
  induction es generalizing pair with
  | nil => exact Iff.rfl
  | cons e es ih => exact and_congr Iff.rfl (ih (follow step emits apply pair e))

theorem read_foldl (follows : ∀ c d, read (apply c d) = update (read c) d) (c : C) (ds : List D) :
    read (ds.foldl apply c) = ds.foldl update (read c) := by
  induction ds generalizing c with
  | nil => rfl
  | cons d ds ih => rw [List.foldl_cons, List.foldl_cons, ih, follows]

/-- **A complete feed.**  A subscriber that starts from a copy of the view agrees with the
component after every part of a run if and only if every input of the run accounts for what
it does. -/
theorem agrees_iff_along (follows : ∀ c d, read (apply c d) = update (read c) d) {pair : S × C}
    (copied : read pair.2 = view pair.1) (es : List E) :
    (∀ p, p <+: es → read (run (follow step emits apply) pair p).2 = view (run step pair.1 p)) ↔
      Along step (Accounts step emits update view) pair.1 es := by
  have exact_step : ∀ (pair : S × C) (e : E), True → read pair.2 = view pair.1 →
      (Accounts step emits update view pair.1 e ↔
        read (follow step emits apply pair e).2 = view (follow step emits apply pair e).1) := by
    intro pair e _ agreed
    -- what the subscriber holds then is the view before the input with its events applied
    have held := read_foldl follows pair.2 (emits pair.1 e)
    rw [agreed] at held
    exact Eq.congr_left held.symm
  have throughout := invariant_iff_along (fun _ => True)
    (fun pair : S × C => read pair.2 = view pair.1)
    (fun pair e => Accounts step emits update view pair.1 e) (fun _ _ kept => kept) exact_step
    trivial copied es
  rw [along_follow] at throughout
  rw [← throughout]
  refine forall_congr' fun p => forall_congr' fun _ => ?_
  rw [fst_follow]

/-! ## The log -/

/-- All that is announced in a run, in order. -/
def announced (step : S → E → S) (emits : S → E → List D) : S → List E → List D
  | _, [] => []
  | s, e :: es => emits s e ++ announced step emits (step s e) es

/-- Whoever has the log can make the view again. -/
theorem foldl_announced {s : S} {es : List E}
    (along : Along step (Accounts step emits update view) s es) :
    (announced step emits s es).foldl update (view s) = view (run step s es) := by
  induction es generalizing s with
  | nil => rfl
  | cons e es ih =>
      obtain ⟨here, rest⟩ := along
      rw [announced, List.foldl_append, here, run_cons]
      exact ih rest

end Replica

end Aeolus.Theory
