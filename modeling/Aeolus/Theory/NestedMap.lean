/-
# Aeolus.Theory.NestedMap — a map of maps as one map of pairs

A store that groups its entries by a first key makes the map of a group when the group gets
its first entry, and drops it with the last.  Seen through `look`, both are the plain updates
of one map with pairs for keys (`look_put`, `look_remove`, `look_delete`), and a list of entries
put one after the other is that list (`look_putAll`).
-/
import Aeolus.Theory.OrderedMap

namespace Aeolus.Theory

universe u v w

abbrev NestedMap (A : Type u) (B : Type v) (V : Type w) := OrderedMap A (OrderedMap B V)

namespace NestedMap

variable {A : Type u} {B : Type v} {V : Type w} [DecidableEq A] [DecidableEq B]

/-- The value under `a` and `b`. -/
def look (m : NestedMap A B V) (a : A) (b : B) : Option V := (m.get a).bind (·.get b)

/-- The group is made when there is none. -/
def put (m : NestedMap A B V) (a : A) (b : B) (v : V) : NestedMap A B V :=
  m.set a (((m.get a).getD .empty).set b v)

/-- The group goes with its last entry. -/
def remove (m : NestedMap A B V) (a : A) (b : B) : NestedMap A B V :=
  match m.get a with
  | none => m
  | some group =>
      let rest := group.delete b
      if rest.size = 0 then m.delete a else m.set a rest

def putAll (m : NestedMap A B V) (entries : List ((A × B) × V)) : NestedMap A B V :=
  entries.foldl (fun m e => m.put e.1.1 e.1.2 e.2) m

variable (m : NestedMap A B V) (a a' : A) (b b' : B)

@[simp] theorem look_empty : (look (.empty : NestedMap A B V) a b) = none := rfl

theorem look_put (v : V) :
    (m.put a b v).look a' b' = if (a', b') = (a, b) then some v else m.look a' b' := by
  simp only [Prod.mk.injEq]
  unfold look put
  rw [OrderedMap.get_set]
  by_cases group : a' = a
  · subst group
    rw [if_pos rfl, Option.bind_some, OrderedMap.get_set]
    by_cases here : b' = b
    · simp [here]
    · rw [if_neg here, if_neg fun both => here both.2]
      cases m.get a' <;> rfl
  · rw [if_neg group, if_neg fun both => group both.1]

theorem look_remove :
    (m.remove a b).look a' b' = if (a', b') = (a, b) then none else m.look a' b' := by
  simp only [Prod.mk.injEq]
  unfold remove
  cases found : m.get a with
  | none =>
      dsimp only
      split
      · rename_i here
        rw [look, here.1, found, Option.bind_none]
      · rfl
  | some group =>
      have rest : (group.delete b).get b' = if b' = b then none else group.get b' :=
        OrderedMap.get_delete group b b'
      dsimp only
      unfold look
      by_cases same : a' = a
      · subst same
        rw [found, Option.bind_some]
        split
        · -- the group is gone, and the rest of it has no entries
          rename_i empty
          have none_left : (group.delete b).get b' = none := by
            rw [OrderedMap.get_eq_none, OrderedMap.keys, List.length_eq_zero_iff.mp empty]
            exact List.not_mem_nil
          rw [OrderedMap.get_delete_self, Option.bind_none]
          rw [none_left] at rest
          split
          · rfl
          · rename_i other
            have differ : b' ≠ b := fun same => other ⟨rfl, same⟩
            rw [rest, if_neg differ]
        · rw [OrderedMap.get_set_self, Option.bind_some, rest]
          by_cases here : b' = b <;> simp [here]
      · have apart : ¬(a' = a ∧ b' = b) := fun both => same both.1
        rw [if_neg apart]
        split
        · rw [OrderedMap.get_delete_of_ne _ same]
        · rw [OrderedMap.get_set_of_ne _ _ same]

/-- A whole group deleted. -/
theorem look_delete : look (OrderedMap.delete m a) a' b = if a' = a then none else m.look a' b := by
  unfold look
  rw [OrderedMap.get_delete]
  split <;> rfl

theorem look_putAll {entries : List ((A × B) × V)} (nodup : (entries.map Prod.fst).Nodup) :
    (m.putAll entries).look a b =
      ((entries.find? fun e => e.1 = (a, b)).map Prod.snd).or (m.look a b) := by
  induction entries generalizing m with
  | nil => rfl
  | cons e rest ih =>
      rw [List.map_cons, List.nodup_cons] at nodup
      rw [putAll, List.foldl_cons]
      change ((m.put e.1.1 e.1.2 e.2).putAll rest).look a b = _
      rw [ih _ nodup.2, look_put]
      by_cases here : e.1 = (a, b)
      · have later : (rest.find? fun other => other.1 = (a, b)) = none := by
          rw [List.find?_eq_none]
          intro other member same
          have same : other.1 = (a, b) := by simpa using same
          exact nodup.1 (List.mem_map.mpr ⟨other, member, same.trans here.symm⟩)
        simp [later, here]
      · have there : ¬(a, b) = (e.1.1, e.1.2) := fun same => here same.symm
        rw [if_neg there, List.find?_cons_of_neg (by simpa using here)]

end NestedMap

end Aeolus.Theory
