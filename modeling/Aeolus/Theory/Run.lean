/-
# Aeolus.Theory.Run — runs of a deterministic step function

A component is a state and a step function; a run is a list of inputs.  Five
rules carry every whole-run statement of the development:

* `run_invariant` — what one step preserves, a run preserves;
* `invariant_along` and `invariant_iff_along` — a property that holds only while
  the inputs meet a guard, and the exactness of that guard;
* `view_run` — a view that each step moves as another step function does follows
  that function's run;
* `run_filter` — inputs that change nothing can be left out;
* `unwinding` — two runs that an observer sees alike stay related.
-/
import Mathlib.Data.List.Basic

namespace Aeolus.Theory

universe u v w

variable {S : Type u} {E : Type v}

/-- The state after the inputs `es`, from `s`. -/
def run (step : S → E → S) (s : S) (es : List E) : S := es.foldl step s

section Rules

variable (step : S → E → S)

@[simp] theorem run_nil (s : S) : run step s [] = s := rfl

@[simp] theorem run_cons (s : S) (e : E) (es : List E) :
    run step s (e :: es) = run step (step s e) es := rfl

theorem run_append (s : S) (es fs : List E) :
    run step s (es ++ fs) = run step (run step s es) fs := List.foldl_append

variable {step}

/-- What every step preserves, every run preserves. -/
theorem run_invariant {Inv : S → Prop} (preserve : ∀ s e, Inv s → Inv (step s e)) {s : S}
    (start : Inv s) (es : List E) : Inv (run step s es) := by
  induction es generalizing s with
  | nil => exact start
  | cons e es ih => exact ih (preserve s e start)

/-- The inputs meet the guard `ok` at every state the run passes through. -/
def Along (step : S → E → S) (ok : S → E → Prop) : S → List E → Prop
  | _, [] => True
  | s, e :: es => ok s e ∧ Along step ok (step s e) es

instance decidableAlong {ok : S → E → Prop} [∀ s e, Decidable (ok s e)] :
    (s : S) → (es : List E) → Decidable (Along step ok s es)
  | _, [] => .isTrue trivial
  | s, e :: es =>
      have : Decidable (Along step ok (step s e) es) := decidableAlong (step s e) es
      inferInstanceAs (Decidable (ok s e ∧ Along step ok (step s e) es))

/-- Inputs that meet the guard in every state. -/
theorem along_of_forall {ok : S → E → Prop} {es : List E} (all : ∀ e ∈ es, ∀ s, ok s e) (s : S) :
    Along step ok s es := by
  induction es generalizing s with
  | nil => trivial
  | cons e es ih =>
      refine ⟨all e List.mem_cons_self s, ih (fun e' member => ?_) _⟩
      exact all e' (List.mem_cons_of_mem _ member)

/-- A guard that follows from what every step preserves. -/
theorem along_of_invariant {Inv : S → Prop} {ok : S → E → Prop}
    (preserve : ∀ s e, Inv s → Inv (step s e)) (holds : ∀ s e, Inv s → ok s e) {s : S}
    (start : Inv s) (es : List E) : Along step ok s es := by
  induction es generalizing s with
  | nil => trivial
  | cons e es ih => exact ⟨holds s e start, ih (preserve s e start)⟩

/-- Guards that say the same, under what every step preserves, are met by the same runs. -/
theorem along_congr_of_invariant {Inv : S → Prop} {ok ok' : S → E → Prop}
    (preserve : ∀ s e, Inv s → Inv (step s e)) (same : ∀ s e, Inv s → (ok s e ↔ ok' s e)) {s : S}
    (start : Inv s) (es : List E) : Along step ok s es ↔ Along step ok' s es := by
  induction es generalizing s with
  | nil => exact Iff.rfl
  | cons e es ih => exact and_congr (same s e start) (ih (preserve s e start))

/-- Guards that say the same are met by the same runs. -/
theorem along_congr {ok ok' : S → E → Prop} (same : ∀ s e, ok s e ↔ ok' s e) (s : S)
    (es : List E) : Along step ok s es ↔ Along step ok' s es :=
  @along_congr_of_invariant _ _ step (fun _ => True) _ _ (fun _ _ => id) (fun s e _ => same s e) s
    trivial es

/-- A guard met along a run is met along its first part. -/
theorem Along.initial {ok : S → E → Prop} {s : S} {es fs : List E}
    (along : Along step ok s (es ++ fs)) : Along step ok s es := by
  induction es generalizing s with
  | nil => trivial
  | cons e es ih => exact ⟨along.1, ih along.2⟩

/-- A property that a step preserves when its input meets the guard holds after
every run whose inputs all do. -/
theorem invariant_along {Inv : S → Prop} {ok : S → E → Prop}
    (preserve : ∀ s e, Inv s → ok s e → Inv (step s e)) {s : S} (start : Inv s) {es : List E}
    (along : Along step ok s es) : Inv (run step s es) := by
  induction es generalizing s with
  | nil => exact start
  | cons e es ih => exact ih (preserve s e start along.1) along.2

theorem Along.and {ok ok' : S → E → Prop} {s : S} {es : List E} (along : Along step ok s es)
    (along' : Along step ok' s es) : Along step (fun s e => ok s e ∧ ok' s e) s es := by
  induction es generalizing s with
  | nil => trivial
  | cons e es ih => exact ⟨⟨along.1, along'.1⟩, ih along.2 along'.2⟩

/-- What a step with its guard gives, under the invariant, holds of every step of the run. -/
theorem Along.gives {Inv : S → Prop} {ok P : S → E → Prop}
    (preserve : ∀ s e, Inv s → ok s e → Inv (step s e)) (each : ∀ s e, Inv s → ok s e → P s e)
    {s : S} (start : Inv s) {es : List E} (along : Along step ok s es) : Along step P s es := by
  induction es generalizing s with
  | nil => trivial
  | cons e es ih =>
      exact ⟨each s e start along.1, ih (preserve s e start along.1) along.2⟩

/-- The same in every state of the run. -/
theorem invariant_throughout {Inv : S → Prop} {ok : S → E → Prop}
    (preserve : ∀ s e, Inv s → ok s e → Inv (step s e)) {s : S} (start : Inv s) {es : List E}
    (along : Along step ok s es) : ∀ p, p <+: es → Inv (run step s p) := by
  rintro p ⟨rest, rfl⟩
  exact invariant_along preserve start along.initial

/-- **Exactness of a guard**, among the runs that meet a first one.  When, under a base
invariant, the guard is exactly what one step needs to keep `P`, then `P` holds at every state
of a run if and only if every input of the run meets the guard. -/
theorem invariant_iff_along_within (Base P : S → Prop) (given ok : S → E → Prop)
    (base : ∀ s e, Base s → given s e → Base (step s e))
    (exact_step : ∀ s e, Base s → given s e → P s → (ok s e ↔ P (step s e))) {s : S}
    (startBase : Base s) (start : P s) {es : List E} (along : Along step given s es) :
    (∀ p, p <+: es → P (run step s p)) ↔ Along step ok s es := by
  induction es generalizing s with
  | nil =>
      refine ⟨fun _ => trivial, fun _ p hp => ?_⟩
      rw [List.prefix_nil.mp hp]
      exact start
  | cons e es ih =>
      have exactly := exact_step s e startBase along.1 start
      constructor
      · intro always
        have next : P (step s e) := always [e] ⟨es, rfl⟩
        refine ⟨exactly.mpr next, ?_⟩
        refine (ih (base s e startBase along.1) next along.2).mp fun p hp => ?_
        exact always (e :: p) (List.prefix_cons_inj e |>.mpr hp)
      · rintro ⟨guard, rest⟩ p hp
        have next : P (step s e) := exactly.mp guard
        cases p with
        | nil => exact start
        | cons a p =>
            obtain ⟨rfl, hp'⟩ := List.cons_prefix_cons.mp hp
            exact (ih (base s a startBase along.1) next along.2).mpr rest p hp'

/-- The same among all runs. -/
theorem invariant_iff_along (Base P : S → Prop) (ok : S → E → Prop)
    (base : ∀ s e, Base s → Base (step s e))
    (exact_step : ∀ s e, Base s → P s → (ok s e ↔ P (step s e))) {s : S}
    (startBase : Base s) (start : P s) (es : List E) :
    (∀ p, p <+: es → P (run step s p)) ↔ Along step ok s es :=
  invariant_iff_along_within Base P (fun _ _ => True) ok (fun s e holds _ => base s e holds)
    (fun s e holds _ => exact_step s e holds) startBase start
    (along_of_forall (fun _ _ _ => trivial) s)

/-- The same from the side of the failure: an input that does not meet the guard fails at
once. -/
theorem never_iff_along {Inv Bad : S → Prop} {ok : S → E → Prop}
    (keeps : ∀ s e, Inv s → ok s e → Inv (step s e))
    (breaks : ∀ s e, Inv s → ¬ok s e → Bad (step s e)) (sound : ∀ s, Inv s → ¬Bad s) {s : S}
    (start : Inv s) (es : List E) : (∀ p, p <+: es → ¬Bad (run step s p)) ↔ Along step ok s es := by
  refine ⟨fun never => ?_, fun along p before => ?_⟩
  · induction es generalizing s with
    | nil => trivial
    | cons e es ih =>
        have guard : ok s e := by
          by_contra unguarded
          exact never [e] ⟨es, rfl⟩ (breaks s e start unguarded)
        refine ⟨guard, ih (keeps s e start guard) fun p before => ?_⟩
        exact never (e :: p) (List.prefix_cons_inj e |>.mpr before)
  · exact sound _ (invariant_throughout keeps start along p before)

/-- **Simulation.**  A view that every step moves as `step'` does follows the run
of `step'`. -/
theorem view_run {T : Type w} {step' : T → E → T} {Inv : S → Prop} {view : S → T}
    (preserve : ∀ s e, Inv s → Inv (step s e))
    (follows : ∀ s e, Inv s → view (step s e) = step' (view s) e) {s : S} (start : Inv s)
    (es : List E) : view (run step s es) = run step' (view s) es := by
  induction es generalizing s with
  | nil => rfl
  | cons e es ih => rw [run_cons, run_cons, ih (preserve s e start), follows s e start]

/-- **Replay.**  Inputs that change nothing can be left out of a run. -/
theorem run_filter {Inv : S → Prop} {ok : E → Prop} {relevant : E → Bool}
    (preserve : ∀ s e, Inv s → ok e → Inv (step s e))
    (still : ∀ s e, Inv s → ok e → relevant e = false → step s e = s) {s : S} (start : Inv s)
    {es : List E} (all : ∀ e ∈ es, ok e) :
    run step s es = run step s (es.filter relevant) := by
  induction es generalizing s with
  | nil => rfl
  | cons e es ih =>
      have here : ok e := all e List.mem_cons_self
      have rest : ∀ e' ∈ es, ok e' := fun e' member => all e' (List.mem_cons_of_mem _ member)
      cases hr : relevant e with
      | false =>
          rw [run_cons, still s e start here hr, List.filter_cons_of_neg (by simp [hr])]
          exact ih start rest
      | true =>
          rw [run_cons, List.filter_cons_of_pos hr, run_cons]
          exact ih (preserve s e start here) rest

end Rules

section TwoRuns

variable {T : Type w} {F O : Type v} {step : S → E → S} {step' : T → F → T}
  {see : E → Option O} {see' : F → Option O} (R : S → T → Prop)

/-- Unseen inputs on the right. -/
theorem unwinding_right (right : ∀ s t f, R s t → see' f = none → R s (step' t f)) {s : S} {t : T}
    (start : R s t) {fs : List F} (unseen : fs.filterMap see' = []) : R s (run step' t fs) := by
  induction fs generalizing t with
  | nil => exact start
  | cons f fs ih =>
      obtain ⟨here, rest⟩ : see' f = none ∧ fs.filterMap see' = [] := by
        simpa only [List.filterMap_eq_nil_iff, List.forall_mem_cons] using unseen
      exact ih (right s t f start here) rest

/-- **Unwinding.**  Of each run's inputs an observer sees some.  A relation that an
unseen input keeps on its side, and that two inputs seen alike keep together, holds
after any two runs that are seen alike. -/
theorem unwinding (left : ∀ s t e, R s t → see e = none → R (step s e) t)
    (right : ∀ s t f, R s t → see' f = none → R s (step' t f))
    (both : ∀ s t e f o, R s t → see e = some o → see' f = some o → R (step s e) (step' t f))
    {s : S} {t : T} (start : R s t) {es : List E} {fs : List F}
    (alike : es.filterMap see = fs.filterMap see') : R (run step s es) (run step' t fs) := by
  induction es generalizing s t fs with
  | nil => exact unwinding_right R right start alike.symm
  | cons e es ih =>
      cases seen : see e with
      | none =>
          rw [List.filterMap_cons_none seen] at alike
          exact ih (left s t e start seen) alike
      | some o =>
          rw [List.filterMap_cons_some seen] at alike
          -- the right run goes on alone until it meets the same input
          induction fs generalizing t with
          | nil => cases alike
          | cons f fs skip =>
              cases seen' : see' f with
              | none =>
                  rw [List.filterMap_cons_none seen'] at alike
                  exact skip (right s t f start seen') alike
              | some o' =>
                  rw [List.filterMap_cons_some seen'] at alike
                  obtain ⟨rfl, rest⟩ := List.cons.inj alike
                  exact ih (both s t e f o start seen seen') rest

end TwoRuns

end Aeolus.Theory
