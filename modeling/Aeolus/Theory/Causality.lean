/-
# Aeolus.Theory.Causality — chains of effects in a growing log

A log of effects, in the order they happened; each has the number of the effect that
caused it, or none when the cause came from outside.  A chain is a list of effects in
which each was caused by the one before.

`Leads` counts the effects that lead somewhere.  The count of an effect does not change as
the log grows (`Leads.append`), and no chain that ends in it is longer
(`Leads.length_le`).
-/
import Mathlib.Data.List.Chain

namespace Aeolus.Theory

/-- Effect `i` caused effect `j`. -/
def Causes (causes : List (Option Nat)) (i j : Nat) : Prop := causes[j]? = some (some i)

instance (causes : List (Option Nat)) (i j : Nat) : Decidable (Causes causes i j) :=
  inferInstanceAs (Decidable (_ = _))

/-- `n` effects lead to the cause. -/
inductive Leads (causes : List (Option Nat)) : Option Nat → Nat → Prop where
  | outside : Leads causes none 0
  | effect {j n : Nat} {cause : Option Nat} (found : causes[j]? = some cause)
      (before : Leads causes cause n) : Leads causes (some j) (n + 1)

namespace Leads

variable {causes : List (Option Nat)} {cause : Option Nat} {n : Nat}

theorem append (leads : Leads causes cause n) (more : List (Option Nat)) :
    Leads (causes ++ more) cause n := by
  induction leads with
  | outside => exact .outside
  | effect found _ ih =>
      refine .effect ?_ ih
      rw [List.getElem?_append_left (List.getElem?_eq_some_iff.mp found).1]
      exact found

/-- The next effect of the log. -/
theorem snoc (leads : Leads causes cause n) :
    Leads (causes ++ [cause]) (some causes.length) (n + 1) :=
  .effect List.getElem?_concat_length (leads.append [cause])

/-- A chain ends in an effect that as many lead to. -/
theorem length_le {j : Nat} {path : List Nat} (leads : Leads causes (some j) n)
    (chain : (path ++ [j]).IsChain (Causes causes)) : path.length + 1 ≤ n := by
  induction path using List.reverseRecOn generalizing j n with
  | nil =>
      cases leads with
      | effect => simp
  | append_singleton path i ih =>
      cases leads with
      | effect found before =>
          have link : Causes causes i j := by
            rw [List.append_assoc, List.singleton_append, List.isChain_append_cons_cons] at chain
            exact chain.2.1
          have earlier : (path ++ [i]).IsChain (Causes causes) := chain.left_of_append
          rw [link, Option.some.injEq] at found
          subst found
          have shorter := ih before earlier
          rw [List.length_append]
          exact Nat.succ_le_succ shorter

end Leads

end Aeolus.Theory
