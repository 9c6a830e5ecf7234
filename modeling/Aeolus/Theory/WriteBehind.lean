/-
# Aeolus.Theory.WriteBehind — a memory written to a store later

Values live in memory under keys.  A change goes to memory at once and into a queue;
the queue is written to the store in one piece, encoded.  A write that fails leaves
queue and store, so only four things happen: `put`, `drop` (which also reaches the
store at once), `commit`, and nothing.

`Coherent` is what all of them keep: a queued value is the one in memory, what is not
queued is in the store as it is in memory, and what is not in memory is nowhere.
After a commit the store is the encoded memory (`Coherent.store_commit`).
-/
import Mathlib.Logic.Function.Basic

namespace Aeolus.Theory

universe u v w

structure WriteBehind (K : Type u) (V : Type v) (R : Type w) where
  memory : K → Option V
  queue : K → Option V
  store : K → Option R

namespace WriteBehind

variable {K : Type u} {V : Type v} {R : Type w}

section Operations

variable [DecidableEq K] (w : WriteBehind K V R)

def put (k : K) (v : V) : WriteBehind K V R :=
  { w with
    memory := Function.update w.memory k (some v)
    queue := Function.update w.queue k (some v) }

def drop (k : K) : WriteBehind K V R where
  memory := Function.update w.memory k none
  queue := Function.update w.queue k none
  store := Function.update w.store k none

end Operations

/-- The queue written out, a newer value over an older row. -/
def commit (encode : V → R) (w : WriteBehind K V R) : WriteBehind K V R :=
  { w with
    queue := fun _ => none
    store := fun k => ((w.queue k).map encode).or (w.store k) }

/-- What memory, queue and store have under one key. -/
structure CoherentAt (encode : V → R) (memory queue : Option V) (store : Option R) : Prop where
  /-- A queued value is the one in memory. -/
  current : ∀ v, queue = some v → memory = some v
  /-- A value in memory is queued or stored. -/
  kept : ∀ v, memory = some v → queue = some v ∨ store = some (encode v)
  /-- What is not in memory is neither stored nor queued. -/
  absent : memory = none → store = none ∧ queue = none

def Coherent (encode : V → R) (w : WriteBehind K V R) : Prop :=
  ∀ k, CoherentAt encode (w.memory k) (w.queue k) (w.store k)

variable {encode : V → R} {w : WriteBehind K V R}

theorem Coherent.put [DecidableEq K] (coherent : Coherent encode w) (k : K) (v : V) :
    Coherent encode (w.put k v) := by
  intro k'
  by_cases here : k' = k
  · subst here
    simp only [WriteBehind.put, Function.update_self]
    exact ⟨fun _ same => same, fun _ same => Or.inl same, fun missing => by cases missing⟩
  · simp only [WriteBehind.put, Function.update_of_ne here]
    exact coherent k'

theorem Coherent.drop [DecidableEq K] (coherent : Coherent encode w) (k : K) :
    Coherent encode (w.drop k) := by
  intro k'
  by_cases here : k' = k
  · subst here
    simp only [WriteBehind.drop, Function.update_self]
    exact ⟨fun _ same => same, fun _ same => Or.inl same, fun _ => ⟨rfl, rfl⟩⟩
  · simp only [WriteBehind.drop, Function.update_of_ne here]
    exact coherent k'

/-- After a commit the store is the encoded memory. -/
theorem Coherent.store_commit (coherent : Coherent encode w) (k : K) :
    (w.commit encode).store k = (w.memory k).map encode := by
  simp only [WriteBehind.commit]
  cases found : w.memory k with
  | none =>
      obtain ⟨unstored, unqueued⟩ := (coherent k).absent found
      rw [unqueued, unstored]
      rfl
  | some v =>
      cases queued : w.queue k with
      | none =>
          rcases (coherent k).kept v found with here | stored
          · cases queued.symm.trans here
          · rw [stored]
            rfl
      | some v' =>
          have same := ((coherent k).current v' queued).symm.trans found
          rw [same]
          rfl

theorem Coherent.commit (coherent : Coherent encode w) : Coherent encode (w.commit encode) := by
  intro k
  rw [coherent.store_commit]
  constructor
  · intro v queued
    cases queued
  · intro v found
    have found : w.memory k = some v := found
    rw [found]
    exact Or.inr rfl
  · intro missing
    have missing : w.memory k = none := missing
    rw [missing]
    exact ⟨rfl, rfl⟩

end WriteBehind

end Aeolus.Theory
