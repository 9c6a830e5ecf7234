/-
# Aeolus.Theory.Oldest — taking the oldest element first

A scan that keeps the first element of least age (`oldest`), and the order in
which repeated scans empty a list (`byAge`, Mathlib's stable insertion sort on
the age).  `byAge_of_split` is the link: taking the scanned element out of the
list takes the head off the order.  Stability is `filter_byAge`: restricting the
order to some elements is the order of those elements alone, so a sublist that
is already in age order leaves in exactly that order.
-/
import Mathlib.Data.List.Sort

namespace Aeolus.Theory

universe u

variable {α : Type u} (age : α → Nat)

/-- One comparison of the scan: a later element wins only when strictly younger
in age value, so ties keep the earlier one. -/
def older (best : Option α) (a : α) : Option α :=
  match best with
  | none => some a
  | some b => if age a < age b then some a else some b

/-- The first element of least age. -/
def oldest (l : List α) : Option α := l.foldl (older age) none

/-- The order in which repeated scans empty the list. -/
def byAge (l : List α) : List α := l.insertionSort fun a b => age a ≤ age b

/-- `x` is where the scan of `l` stops: strictly before everything ahead of it,
not after anything behind it. -/
def FirstAt (p : List α) (x : α) (s : List α) : Prop :=
  (∀ a ∈ p, age x < age a) ∧ ∀ b ∈ s, age x ≤ age b

variable {age}

theorem foldl_older_some (age : α → Nat) (l : List α) (b : α) :
    ∃ x, l.foldl (older age) (some b) = some x ∧
      ((x = b ∧ ∀ c ∈ l, age b ≤ age c) ∨
        ∃ p s, l = p ++ x :: s ∧ age x < age b ∧ FirstAt age p x s) := by
  induction l generalizing b with
  | nil => exact ⟨b, rfl, .inl ⟨rfl, by simp⟩⟩
  | cons a l ih =>
      rw [List.foldl_cons, older]
      by_cases lt : age a < age b
      · rw [if_pos lt]
        obtain ⟨x, hx, ⟨rfl, rest⟩ | ⟨p, s, rfl, younger, first⟩⟩ := ih a
        · exact ⟨x, hx, .inr ⟨[], l, rfl, lt, by simp, rest⟩⟩
        · refine ⟨x, hx, .inr ⟨a :: p, s, rfl, younger.trans lt, ?_, first.2⟩⟩
          rw [List.forall_mem_cons]
          exact ⟨younger, first.1⟩
      · rw [if_neg lt]
        obtain ⟨x, hx, ⟨rfl, rest⟩ | ⟨p, s, rfl, younger, first⟩⟩ := ih b
        · refine ⟨x, hx, .inl ⟨rfl, ?_⟩⟩
          rw [List.forall_mem_cons]
          exact ⟨not_lt.mp lt, rest⟩
        · refine ⟨x, hx, .inr ⟨a :: p, s, rfl, younger, ?_, first.2⟩⟩
          rw [List.forall_mem_cons]
          exact ⟨younger.trans_le (not_lt.mp lt), first.1⟩

theorem oldest_eq_none {l : List α} : oldest age l = none ↔ l = [] := by
  cases l with
  | nil => simp [oldest]
  | cons a l =>
      obtain ⟨x, hx, -⟩ := foldl_older_some age l a
      simp [oldest, older, hx]

theorem oldest_split {l : List α} {x : α} (found : oldest age l = some x) :
    ∃ p s, l = p ++ x :: s ∧ FirstAt age p x s := by
  cases l with
  | nil => simp [oldest] at found
  | cons a l =>
      obtain ⟨y, hy, shape⟩ := foldl_older_some age l a
      have same : y = x := Option.some.inj (hy.symm.trans found)
      subst same
      rcases shape with ⟨rfl, rest⟩ | ⟨p, s, rfl, younger, first⟩
      · exact ⟨[], l, rfl, by simp, rest⟩
      · refine ⟨a :: p, s, rfl, ?_, first.2⟩
        rw [List.forall_mem_cons]
        exact ⟨younger, first.1⟩

/-! ## The order of repeated scans -/

theorem byAge_perm (l : List α) : (byAge age l).Perm l := List.perm_insertionSort _ l

theorem byAge_of_sorted {l : List α} (sorted : l.Pairwise fun a b => age a ≤ age b) :
    byAge age l = l := sorted.insertionSort_eq

theorem pairwise_byAge (l : List α) : (byAge age l).Pairwise fun a b => age a ≤ age b := by
  have : Std.Total fun a b : α => age a ≤ age b := ⟨fun a b => le_total _ _⟩
  have : IsTrans α fun a b => age a ≤ age b := ⟨fun _ _ _ => le_trans⟩
  exact List.pairwise_insertionSort _ l

/-- Removing the scanned element removes the head of the order. -/
theorem byAge_of_split {p s : List α} {x : α} (first : FirstAt age p x s) :
    byAge age (p ++ x :: s) = x :: byAge age (p ++ s) := by
  induction p with
  | nil => exact List.insertionSort_cons_of_forall_rel _ first.2
  | cons a p ih =>
      have younger : age x < age a := first.1 a List.mem_cons_self
      have rest := ih ⟨fun b hb => first.1 b (List.mem_cons_of_mem _ hb), first.2⟩
      change List.orderedInsert _ a (byAge age (p ++ x :: s)) = _
      rw [rest, List.orderedInsert_cons, if_neg (not_le.mpr younger)]
      rfl

theorem filter_orderedInsert (keep : α → Bool) (a : α) {l : List α}
    (sorted : l.Pairwise fun a b => age a ≤ age b) :
    (l.orderedInsert (fun a b => age a ≤ age b) a).filter keep =
      if keep a then (l.filter keep).orderedInsert (fun a b => age a ≤ age b) a
      else l.filter keep := by
  induction l with
  | nil => cases h : keep a <;> simp [h]
  | cons b l ih =>
      rw [List.pairwise_cons] at sorted
      by_cases le : age a ≤ age b
      · rw [List.orderedInsert_cons, if_pos le]
        cases ha : keep a with
        | false => simp [ha]
        | true =>
            rw [List.filter_cons_of_pos ha, if_pos rfl]
            -- everything kept behind `a` is at least as old as `b`, so `a` goes first
            have front : ∀ c ∈ (b :: l).filter keep, age a ≤ age c := by
              intro c hc
              rcases List.mem_cons.mp (List.mem_of_mem_filter hc) with rfl | hc
              · exact le
              · exact le.trans (sorted.1 c hc)
            cases hf : (b :: l).filter keep with
            | nil => rfl
            | cons c rest =>
                rw [hf] at front
                rw [List.orderedInsert_cons, if_pos (front c List.mem_cons_self)]
      · rw [List.orderedInsert_cons, if_neg le]
        cases hb : keep b with
        | false => simpa [hb] using ih sorted.2
        | true =>
            rw [List.filter_cons_of_pos hb, ih sorted.2, List.filter_cons_of_pos hb]
            cases ha : keep a with
            | false => simp
            | true => simp [le]

/-- Stability: the order restricted to some elements is the order of those. -/
theorem filter_byAge (keep : α → Bool) (l : List α) :
    (byAge age l).filter keep = byAge age (l.filter keep) := by
  induction l with
  | nil => rfl
  | cons a l ih =>
      change (List.orderedInsert _ a (byAge age l)).filter keep = _
      rw [filter_orderedInsert keep a (pairwise_byAge l), ih]
      cases ha : keep a with
      | false => simp [List.filter_cons_of_neg, ha]
      | true => rw [if_pos rfl, List.filter_cons_of_pos ha]; rfl

/-! ## Dropping the first of an order -/

/-- Elements told apart by a key: what is left after deleting by key the first `n` of a
rearrangement is the rest of it. -/
theorem filter_not_mem_take_perm {β : Type*} [DecidableEq β] (key : α → β) {l order : List α}
    (perm : order.Perm l) (distinct : (l.map key).Nodup) (n : Nat) :
    (l.filter fun a => key a ∉ (order.take n).map key).Perm (order.drop n) := by
  have split : (order.take n).map key ++ (order.drop n).map key = order.map key := by
    rw [← List.map_append, List.take_append_drop]
  have apart : ((order.take n).map key ++ (order.drop n).map key).Nodup := by
    rw [split]
    exact (perm.map key).nodup_iff.mpr distinct
  have first : ((order.take n).filter fun a => key a ∉ (order.take n).map key) = [] := by
    apply List.filter_eq_nil_iff.mpr
    intro a member
    have listed : key a ∈ (order.take n).map key := List.mem_map_of_mem member
    simp only [listed, not_true_eq_false, decide_false, Bool.false_eq_true, not_false_eq_true]
  have rest : ((order.drop n).filter fun a => key a ∉ (order.take n).map key) = order.drop n := by
    apply List.filter_eq_self.mpr
    intro a member
    have behind : key a ∈ (order.drop n).map key := List.mem_map_of_mem member
    have unlisted : key a ∉ (order.take n).map key := fun there =>
      (List.nodup_append.mp apart).2.2 _ there _ behind rfl
    simp only [unlisted, not_false_eq_true, decide_true]
  have parts : (order.filter fun a => key a ∉ (order.take n).map key) = order.drop n := by
    calc order.filter (fun a => key a ∉ (order.take n).map key)
        = (order.take n ++ order.drop n).filter fun a => key a ∉ (order.take n).map key := by
          rw [List.take_append_drop]
      _ = order.drop n := by rw [List.filter_append, first, rest, List.nil_append]
  rw [← parts]
  exact perm.symm.filter _

end Aeolus.Theory
