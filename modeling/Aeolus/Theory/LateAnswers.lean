/-
# Aeolus.Theory.LateAnswers — a display that is filled by requests

Requests are made one after another and answered in any order, and what an answer brings is
shown whichever request it belongs to.  A selection makes the requests before it obsolete.

When no request is out, what is shown should be drawn from the answer to the request that was
made last for the selection (`Current`).  One step keeps that exactly when the answer that ends
the waiting is the one to that request (`current_step`).
-/
import Mathlib.Data.List.Nodup
import Aeolus.Theory.Run

namespace Aeolus.Theory

universe u v w

/-- The requests `Q` of a display and their answers `A`. -/
structure Requests (Q : Type u) (A : Type v) where
  made : Nat := 0
  out : List (Nat × Q) := []
  /-- The request that was made last since the selection. -/
  wanted : Option (Nat × Q) := none
  /-- What was answered last. -/
  answered : Option (Nat × Q × A) := none

namespace Requests

variable {Q : Type u} {A : Type v} (r : Requests Q A)

def select : Requests Q A := { r with wanted := none }

def request (q : Q) : Requests Q A :=
  { r with
    made := r.made + 1
    out := r.out ++ [(r.made, q)]
    wanted := some (r.made, q) }

/-- Only a request that is out is answered. -/
def answer (id : Nat) (a : A) : Requests Q A :=
  match r.out.lookup id with
  | none => r
  | some q =>
      { r with
        out := r.out.filter fun e => e.1 ≠ id
        answered := some (id, q, a) }

/-- A number is given once. -/
structure Numbered : Prop where
  below : ∀ e ∈ r.out, e.1 < r.made
  nodup : (r.out.map Prod.fst).Nodup
  same : ∀ id q q', r.wanted = some (id, q) → (id, q') ∈ r.out → q' = q

variable {r}

theorem numbered_empty : Numbered ({} : Requests Q A) where
  below _ member := by cases member
  nodup := List.nodup_nil
  same _ _ _ _ member := by cases member

theorem Numbered.select (numbered : r.Numbered) : r.select.Numbered where
  below := numbered.below
  nodup := numbered.nodup
  same _ _ _ wanted := by cases wanted

theorem Numbered.request (numbered : r.Numbered) (q : Q) : (r.request q).Numbered where
  below e member := by
    obtain old | new := List.mem_append.mp member
    · exact Nat.lt_succ_of_lt (numbered.below e old)
    · rw [List.mem_singleton.mp new]
      exact Nat.lt_succ_self _
  nodup := by
    simp only [Requests.request, List.map_append, List.map_cons, List.map_nil]
    rw [List.nodup_append_comm, List.singleton_append, List.nodup_cons]
    refine ⟨fun member => ?_, numbered.nodup⟩
    obtain ⟨e, out, same⟩ := List.mem_map.mp member
    exact absurd (numbered.below e out) (same ▸ Nat.lt_irrefl _)
  same id q' q'' wanted member := by
    obtain ⟨rfl, rfl⟩ := Prod.ext_iff.mp (Option.some.inj wanted)
    obtain old | new := List.mem_append.mp member
    · exact absurd (numbered.below _ old) (Nat.lt_irrefl _)
    · exact (Prod.ext_iff.mp (List.mem_singleton.mp new)).2

theorem Numbered.answer (numbered : r.Numbered) (id : Nat) (a : A) :
    (r.answer id a).Numbered := by
  unfold Requests.answer
  split
  · exact numbered
  · exact ⟨fun e member => numbered.below e (List.mem_of_mem_filter member),
      numbered.nodup.sublist (List.filter_sublist.map _),
      fun _ _ _ wanted member => numbered.same _ _ _ wanted (List.mem_of_mem_filter member)⟩

/-- The answer to a request ends the waiting when no other is out. -/
theorem Numbered.filter_eq_nil (numbered : r.Numbered) {id : Nat} {q : Q}
    (found : r.out.lookup id = some q) :
    (r.out.filter fun e => e.1 ≠ id) = [] ↔ r.out = [(id, q)] := by
  constructor
  · intro none
    have all : ∀ e ∈ r.out, e.1 = id := by simpa using none
    cases out : r.out with
    | nil => simp [out] at found
    | cons e rest =>
        have nodup := numbered.nodup
        rw [out] at all found nodup
        have here : e.1 = id := all e List.mem_cons_self
        have alone : rest = [] := by
          refine List.eq_nil_iff_forall_not_mem.mpr fun e' member => ?_
          have there := all e' (List.mem_cons_of_mem _ member)
          refine (List.nodup_cons.mp nodup).1 ?_
          rw [here, ← there]
          exact List.mem_map_of_mem member
        subst alone
        obtain ⟨id', q'⟩ := e
        obtain rfl : id' = id := here
        simp only [List.lookup_cons, beq_self_eq_true, Option.some.injEq] at found
        rw [found]
  · intro alone
    simp [alone]

end Requests

/-- What is shown, with the requests that fill it. -/
@[ext] structure LateAnswers (Q : Type u) (A : Type v) (D : Type w) where
  requests : Requests Q A
  shown : D

namespace LateAnswers

variable {Q : Type u} {A : Type v} {D : Type w}

inductive Input (Q : Type u) (A : Type v) (D : Type w)
  | select (shown : D)
  | request (q : Q)
  | answer (id : Nat) (a : A)
  /-- something that the display does not see -/
  | other

variable (draw : Q → A → Option D) (s : LateAnswers Q A D)

/-- An answer that cannot be drawn leaves what is shown. -/
def step : Input Q A D → LateAnswers Q A D
  | .select shown => ⟨s.requests.select, shown⟩
  | .request q => ⟨s.requests.request q, s.shown⟩
  | .answer id a =>
      ⟨s.requests.answer id a,
        match s.requests.out.lookup id with
        | none => s.shown
        | some q => (draw q a).getD s.shown⟩
  | .other => s

/-- Once nothing is out, the last request's answer is shown. -/
def Current : Prop :=
  s.requests.out = [] → ∀ id q, s.requests.wanted = some (id, q) →
    ∃ a d, s.requests.answered = some (id, q, a) ∧ draw q a = some d ∧ s.shown = d

/-- The answer that ends the waiting is to the last request, and can be drawn. -/
def InTime : Input Q A D → Prop
  | .answer id a => ∀ q, s.requests.out = [(id, q)] → ∀ wanted, s.requests.wanted = some wanted →
      wanted.1 = id ∧ (draw q a).isSome
  | _ => True

/-- How an input may move what a display is to be asked for. -/
def Moves (before after : Q → Prop) : Input Q A D → Prop
  | .select _ => True
  | .request q => after q
  | .answer _ _ => ∀ q, before q → after q
  | .other => ∀ q, before q → after q

variable {s}

/-- An answer to no request. -/
theorem step_unknown {id : Nat} {a : A} (unknown : s.requests.out.lookup id = none) :
    s.step draw (.answer id a) = s := by
  simp [step, Requests.answer, unknown]

theorem step_answer {id : Nat} {a : A} {q : Q} (found : s.requests.out.lookup id = some q) :
    s.step draw (.answer id a) = ⟨s.requests.answer id a, (draw q a).getD s.shown⟩ := by
  rw [step, found]

/-- The last request stays one for what is selected. -/
theorem wanted_step {before after : Q → Prop} {input : Input Q A D}
    (asked : ∀ id q, s.requests.wanted = some (id, q) → before q)
    (moves : Moves before after input) :
    ∀ id q, (s.step draw input).requests.wanted = some (id, q) → after q := by
  intro id q wanted
  cases input with
  | select shown => cases wanted
  | request q' =>
      obtain rfl : q' = q := (Prod.ext_iff.mp (Option.some.inj wanted)).2
      exact moves
  | answer id' a =>
      refine moves q ?_
      cases found : s.requests.out.lookup id' with
      | none =>
          rw [step_unknown draw found] at wanted
          exact asked id q wanted
      | some q' =>
          rw [step_answer draw found, Requests.answer, found] at wanted
          exact asked id q wanted
  | other => exact moves q (asked id q wanted)

theorem numbered_step (input : Input Q A D) (numbered : s.requests.Numbered) :
    (s.step draw input).requests.Numbered := by
  cases input with
  | select shown => exact numbered.select
  | request q => exact numbered.request q
  | answer id a => exact numbered.answer id a
  | other => exact numbered

/-- **Exactness of one step.** -/
theorem current_step (input : Input Q A D) (numbered : s.requests.Numbered)
    (current : s.Current draw) : s.InTime draw input ↔ (s.step draw input).Current draw := by
  cases input with
  | select shown =>
      refine iff_of_true trivial fun _ _ _ wanted => ?_
      cases wanted
  | request q =>
      refine iff_of_true trivial fun none => ?_
      exact absurd none (List.append_ne_nil_of_right_ne_nil _ (List.cons_ne_nil _ _))
  | other => exact iff_of_true trivial current
  | answer id a =>
      cases found : s.requests.out.lookup id with
      | none =>
          rw [step_unknown draw found]
          refine iff_of_true (fun q alone => ?_) current
          rw [alone] at found
          simp at found
      | some q =>
          have done : s.requests.answer id a =
              { s.requests with
                out := s.requests.out.filter fun e => e.1 ≠ id
                answered := some (id, q, a) } := by
            rw [Requests.answer, found]
          rw [step_answer draw found, done]
          constructor
          · intro inTime none id' q' wanted
            have alone := (numbered.filter_eq_nil found).mp none
            obtain ⟨rfl, drawn⟩ := inTime q alone _ wanted
            obtain ⟨d, drawn⟩ := Option.isSome_iff_exists.mp drawn
            obtain rfl : q = q' := numbered.same _ _ _ wanted (by simp [alone])
            exact ⟨a, d, rfl, drawn, by simp [drawn]⟩
          · intro next q' alone wanted mine
            obtain rfl : q' = q := by simpa [alone] using found
            obtain ⟨a', d, answered, drawn, -⟩ :=
              next ((numbered.filter_eq_nil found).mpr alone) wanted.1 wanted.2 mine
            simp only [Option.some.injEq, Prod.mk.injEq] at answered
            obtain ⟨same, again, rfl⟩ := answered
            rw [← again] at drawn
            exact ⟨same.symm, Option.isSome_iff_exists.mpr ⟨d, drawn⟩⟩

end LateAnswers

end Aeolus.Theory
