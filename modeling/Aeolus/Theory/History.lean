/-
# Aeolus.Theory.History — logs and tables that grow

A log is right when each of its facts is right behind those before it (`Justified`), so that a
step has only its own facts to answer for (`justified_append`).  A table is a list whose rows
are replaced in place; a sum or a count over it moves by the row that is replaced.  Rows that
queue up behind one another are chained by `LastBefore`.
-/
import Mathlib

namespace Aeolus.Theory

universe u

/-! ## Logs -/

section Logs

variable {F : Type u} {J : List F → F → Prop} {log facts : List F}

/-- Every fact is right behind those before it. -/
def Justified (J : List F → F → Prop) (log : List F) : Prop :=
  ∀ before fact after, log = before ++ fact :: after → J before fact

theorem justified_nil : Justified J [] := by
  intro before fact after split
  exact absurd split (by simp)

theorem justified_append : Justified J (log ++ facts) ↔
    Justified J log ∧ ∀ before fact after, facts = before ++ fact :: after →
      J (log ++ before) fact := by
  constructor
  · intro justified
    refine ⟨?_, ?_⟩
    · rintro before fact after rfl
      exact justified before fact (after ++ facts) (by simp)
    · rintro before fact after rfl
      exact justified (log ++ before) fact after (by simp)
  · rintro ⟨old, new⟩ before fact after split
    rcases List.append_eq_append_iff.mp split with ⟨middle, rfl, rest⟩ | ⟨middle, rfl, rest⟩
    · exact new middle fact after rest
    · cases middle with
      | nil =>
          have here := new [] fact after rest.symm
          rw [List.append_nil, List.append_nil] at here
          exact here
      | cons first middle =>
          rw [List.cons_append, List.cons.injEq] at rest
          obtain ⟨rfl, -⟩ := rest
          exact old before fact middle rfl

theorem justified_cons {fact : F} : Justified J (fact :: facts) ↔
    J [] fact ∧ Justified (fun before => J (fact :: before)) facts := by
  constructor
  · intro justified
    refine ⟨justified [] fact facts rfl, ?_⟩
    rintro before other after rfl
    exact justified (fact :: before) other after rfl
  · rintro ⟨first, others⟩ before other after split
    cases before with
    | nil =>
        rw [List.nil_append, List.cons.injEq] at split
        exact split.1 ▸ first
    | cons head before =>
        rw [List.cons_append, List.cons.injEq] at split
        obtain ⟨rfl, split⟩ := split
        exact others before other after split

theorem justified_concat {fact : F} :
    Justified J (log ++ [fact]) ↔ Justified J log ∧ J log fact := by
  rw [justified_append]
  refine and_congr_right fun _ => ⟨fun new => ?_, fun right before other after split => ?_⟩
  · have here := new [] fact [] rfl
    rwa [List.append_nil] at here
  · cases before with
    | nil =>
        rw [List.nil_append, List.cons.injEq] at split
        rw [← split.1, List.append_nil]
        exact right
    | cons first before =>
        rw [List.cons_append, List.cons.injEq] at split
        exact absurd split.2 (by simp)

/-- Facts that are right in every log that goes on from here. -/
theorem Justified.append (justified : Justified J log)
    (each : ∀ fact ∈ facts, ∀ before, log <+: before → J before fact) :
    Justified J (log ++ facts) := by
  refine justified_append.mpr ⟨justified, ?_⟩
  rintro before fact after rfl
  exact each fact (List.mem_append_right _ List.mem_cons_self) _ (List.prefix_append ..)

theorem Justified.imp {K : List F → F → Prop} (justified : Justified J log)
    (weaker : ∀ before fact, J before fact → K before fact) : Justified K log :=
  fun before fact after split => weaker before fact (justified before fact after split)

theorem Justified.of_prefix {later : List F} (justified : Justified J later)
    (grown : log <+: later) : Justified J log := by
  obtain ⟨facts, rfl⟩ := grown
  exact (justified_append.mp justified).1

end Logs

/-! ## Tables -/

section Tables

variable {α : Type u} {l : List α} {i : Nat} {x : α}

theorem getElem?_set_of_found (found : l[i]? = some x) (y : α) (j : Nat) :
    (l.set i y)[j]? = if j = i then some y else l[j]? := by
  obtain ⟨inside, -⟩ := List.getElem?_eq_some_iff.mp found
  rw [List.getElem?_set]
  by_cases same : i = j
  · rw [if_pos same, if_pos inside, if_pos same.symm]
  · rw [if_neg same, if_neg fun other => same other.symm]

theorem set_of_found (found : l[i]? = some x) : l.set i x = l := by
  obtain ⟨inside, rfl⟩ := List.getElem?_eq_some_iff.mp found
  exact List.set_getElem_self inside

theorem getElem?_concat (y : α) (j : Nat) :
    (l ++ [y])[j]? = if j = l.length then some y else l[j]? := by
  split
  · next same =>
      rw [same]
      exact List.getElem?_concat_length
  · next other =>
      rw [List.getElem?_append]
      split
      · rfl
      · next outside =>
          rw [List.getElem?_eq_none (by simp only [List.length_singleton]; omega),
            List.getElem?_eq_none (by omega)]

theorem modify_eq_set_of_found (found : l[i]? = some x) (f : α → α) :
    l.modify i f = l.set i (f x) := by
  refine List.ext_getElem? fun j => ?_
  rw [getElem?_set_of_found found]
  by_cases same : j = i
  · rw [if_pos same, same, List.getElem?_modify_eq, found]
    rfl
  · rw [if_neg same, List.getElem?_modify_ne _ _ (Ne.symm same)]

theorem sum_map_set (found : l[i]? = some x) (f : α → Nat) (y : α) :
    ((l.set i y).map f).sum + f x = (l.map f).sum + f y := by
  induction l generalizing i with
  | nil => cases found
  | cons a l ih =>
      cases i with
      | zero =>
          cases found
          simp only [List.set_cons_zero, List.map_cons, List.sum_cons]
          omega
      | succ i =>
          have rest := ih (i := i) (by simpa using found)
          simp only [List.set_cons_succ, List.map_cons, List.sum_cons]
          omega

theorem countP_eq_sum (p : α → Bool) (l : List α) :
    l.countP p = (l.map fun a => if p a then 1 else 0).sum := by
  induction l with
  | nil => rfl
  | cons a l ih =>
      rw [List.countP_cons, List.map_cons, List.sum_cons, ih]
      omega

theorem countP_set (found : l[i]? = some x) (p : α → Bool) (y : α) :
    (l.set i y).countP p + (if p x then 1 else 0) = l.countP p + if p y then 1 else 0 := by
  rw [countP_eq_sum, countP_eq_sum]
  exact sum_map_set found (fun a => if p a then 1 else 0) y

end Tables

/-! ## Predecessors -/

section Predecessors

variable {P : Nat → Prop} {n : Nat} {last : Option Nat}

/-- The last number below `n` with the property, if there is one. -/
def LastBefore (P : Nat → Prop) (n : Nat) : Option Nat → Prop
  | none => ∀ i < n, ¬P i
  | some p => p < n ∧ P p ∧ ∀ i, p < i → i < n → ¬P i

theorem lastBefore_succ (here : P n) : LastBefore P (n + 1) (some n) :=
  ⟨Nat.lt_succ_self n, here, fun i above below _ => by omega⟩

theorem LastBefore.succ (before : LastBefore P n last) (not : ¬P n) :
    LastBefore P (n + 1) last := by
  cases last with
  | none =>
      intro i below
      by_cases here : i = n
      · exact here ▸ not
      · exact before i (by omega)
  | some p =>
      refine ⟨Nat.lt_succ_of_lt before.1, before.2.1, fun i above below => ?_⟩
      by_cases here : i = n
      · exact here ▸ not
      · exact before.2.2 i above (by omega)

theorem LastBefore.congr {Q : Nat → Prop} (before : LastBefore P n last)
    (same : ∀ i < n, P i ↔ Q i) : LastBefore Q n last := by
  cases last with
  | none => exact fun i below here => before i below ((same i below).mpr here)
  | some p =>
      exact ⟨before.1, (same p before.1).mp before.2.1, fun i above below here =>
        before.2.2 i above below ((same i below).mpr here)⟩

/-- What holds of the last one and all before it holds of all of them. -/
theorem LastBefore.all (before : LastBefore P n last) {D : Nat → Prop}
    (upTo : ∀ p, last = some p → ∀ i ≤ p, P i → D i) : ∀ i < n, P i → D i := by
  intro i below here
  cases last with
  | none => exact absurd here (before i below)
  | some p =>
      by_cases above : p < i
      · exact absurd here (before.2.2 i above below)
      · exact upTo p rfl i (by omega) here

end Predecessors

end Aeolus.Theory
