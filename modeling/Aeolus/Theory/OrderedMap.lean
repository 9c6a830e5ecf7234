/-
# Aeolus.Theory.OrderedMap — a finite map that remembers insertion order

The map of a scripting language's `Map`: keys are unique, iteration follows the
order in which keys were first inserted, `set` on a present key keeps its
position and replaces the value, `delete` forgets both.  Uniqueness of keys is a
field, so no operation can build a map with a shadowed entry.

Everything a proof needs about an update is one of two shapes.  A key is absent
and `set` appends (`entries_set_of_absent`), or it is present and splits the
entry list around its only occurrence (`split_of_get`); `set` and `delete` then
rewrite that one place.  The reading lemmas (`get_set`, `get_delete`) follow.
-/
import Mathlib.Data.List.Nodup
import Mathlib.Data.List.Perm.Basic

namespace Aeolus.Theory

universe u v

/-- A finite map with unique keys, in insertion order. -/
structure OrderedMap (K : Type u) (V : Type v) where
  entries : List (K × V)
  nodup : (entries.map Prod.fst).Nodup

namespace OrderedMap

variable {K : Type u} {V : Type v}

@[ext] theorem ext {m n : OrderedMap K V} (same : m.entries = n.entries) : m = n := by
  cases m; cases n; cases same; rfl

instance [DecidableEq K] [DecidableEq V] : DecidableEq (OrderedMap K V) := fun m n =>
  decidable_of_iff (m.entries = n.entries) ⟨ext, fun h => h ▸ rfl⟩

def empty : OrderedMap K V := ⟨[], List.nodup_nil⟩

instance : Inhabited (OrderedMap K V) := ⟨empty⟩

def keys (m : OrderedMap K V) : List K := m.entries.map Prod.fst

def values (m : OrderedMap K V) : List V := m.entries.map Prod.snd

def size (m : OrderedMap K V) : Nat := m.entries.length

@[simp] theorem entries_empty : (empty : OrderedMap K V).entries = [] := rfl

theorem length_values (m : OrderedMap K V) : m.values.length = m.size := by
  simp [values, size]

section Update

variable [DecidableEq K]

/-- The value at `k`, if any. -/
def get (m : OrderedMap K V) (k : K) : Option V :=
  (m.entries.find? fun e => e.1 = k).map Prod.snd

def has (m : OrderedMap K V) (k : K) : Bool := (m.get k).isSome

/-- Replace the value at `k` in place, or append the pair. -/
def setEntries (k : K) (v : V) : List (K × V) → List (K × V)
  | [] => [(k, v)]
  | e :: rest => if e.1 = k then (k, v) :: rest else e :: setEntries k v rest

theorem mem_keys_setEntries {k a : K} {v : V} {l : List (K × V)} :
    a ∈ (setEntries k v l).map Prod.fst ↔ a = k ∨ a ∈ l.map Prod.fst := by
  induction l with
  | nil => simp [setEntries]
  | cons e rest ih =>
      by_cases he : e.1 = k
      · simp [setEntries, he]
      · simp only [setEntries, if_neg he, List.map_cons, List.mem_cons, ih]
        tauto

theorem nodup_setEntries {k : K} {v : V} {l : List (K × V)} (h : (l.map Prod.fst).Nodup) :
    ((setEntries k v l).map Prod.fst).Nodup := by
  induction l with
  | nil => simp [setEntries]
  | cons e rest ih =>
      rw [List.map_cons, List.nodup_cons] at h
      by_cases he : e.1 = k
      · subst he
        simpa [setEntries] using h
      · simp only [setEntries, if_neg he, List.map_cons, List.nodup_cons, mem_keys_setEntries,
          not_or]
        exact ⟨⟨he, h.1⟩, ih h.2⟩

def set (m : OrderedMap K V) (k : K) (v : V) : OrderedMap K V :=
  ⟨setEntries k v m.entries, nodup_setEntries m.nodup⟩

def delete (m : OrderedMap K V) (k : K) : OrderedMap K V :=
  ⟨m.entries.filter fun e => e.1 ≠ k,
    m.nodup.sublist (List.Sublist.map _ List.filter_sublist)⟩

/-! ## Reading a map -/

@[simp] theorem get_empty (k : K) : (empty : OrderedMap K V).get k = none := rfl

theorem get_eq_none {m : OrderedMap K V} {k : K} : m.get k = none ↔ k ∉ m.keys := by
  simp only [get, keys, Option.map_eq_none_iff, List.find?_eq_none, List.mem_map, not_exists,
    not_and, decide_eq_true_eq]

/-- A present key splits the entries around its only occurrence. -/
theorem split_of_get {m : OrderedMap K V} {k : K} {v : V} (found : m.get k = some v) :
    ∃ l r, m.entries = l ++ (k, v) :: r ∧ (∀ e ∈ l, e.1 ≠ k) ∧ ∀ e ∈ r, e.1 ≠ k := by
  obtain ⟨e, he, hv⟩ := Option.map_eq_some_iff.mp found
  obtain ⟨hk, l, r, hsplit, hl⟩ := List.find?_eq_some_iff_append.mp he
  have hkey : e.1 = k := by simpa using hk
  have heq : e = (k, v) := Prod.ext hkey hv
  subst heq
  refine ⟨l, r, hsplit, fun a ha => by simpa using hl a ha, fun a ha hak => ?_⟩
  have nodup := m.nodup
  rw [hsplit, List.map_append, List.map_cons, List.nodup_append, List.nodup_cons] at nodup
  exact nodup.2.1.1 (List.mem_map.mpr ⟨a, ha, hak⟩)

theorem mem_entries {m : OrderedMap K V} {k : K} {v : V} :
    (k, v) ∈ m.entries ↔ m.get k = some v := by
  constructor
  · intro h
    cases hg : m.get k with
    | none => exact absurd (List.mem_map.mpr ⟨_, h, rfl⟩) (get_eq_none.mp hg)
    | some w =>
        obtain ⟨l, r, hs, hl, hr⟩ := split_of_get hg
        rw [hs, List.mem_append, List.mem_cons] at h
        rcases h with h | h | h
        · exact absurd rfl (hl _ h)
        · rw [Prod.mk.injEq] at h; rw [h.2]
        · exact absurd rfl (hr _ h)
  · intro h
    obtain ⟨l, r, hs, -, -⟩ := split_of_get h
    simp [hs]

theorem mem_values {m : OrderedMap K V} {v : V} : v ∈ m.values ↔ ∃ k, m.get k = some v := by
  simp [values, ← mem_entries]

/-! ## The two shapes of an update -/

theorem setEntries_of_absent {k : K} {v : V} {l : List (K × V)} (absent : ∀ e ∈ l, e.1 ≠ k) :
    setEntries k v l = l ++ [(k, v)] := by
  induction l with
  | nil => rfl
  | cons e rest ih =>
      rw [setEntries, if_neg (absent e List.mem_cons_self),
        ih fun a ha => absent a (List.mem_cons_of_mem _ ha), List.cons_append]

theorem setEntries_of_split {k : K} {v w : V} {l r : List (K × V)} (before : ∀ e ∈ l, e.1 ≠ k) :
    setEntries k v (l ++ (k, w) :: r) = l ++ (k, v) :: r := by
  induction l with
  | nil => simp [setEntries]
  | cons e rest ih =>
      rw [List.cons_append, setEntries, if_neg (before e List.mem_cons_self),
        ih fun a ha => before a (List.mem_cons_of_mem _ ha), List.cons_append]

theorem entries_set_of_absent {m : OrderedMap K V} {k : K} {v : V} (absent : m.get k = none) :
    (m.set k v).entries = m.entries ++ [(k, v)] :=
  setEntries_of_absent fun e he hk =>
    get_eq_none.mp absent (List.mem_map.mpr ⟨e, he, hk⟩)

theorem entries_set_of_split {m : OrderedMap K V} {k : K} {v w : V} {l r : List (K × V)}
    (split : m.entries = l ++ (k, w) :: r) (before : ∀ e ∈ l, e.1 ≠ k) :
    (m.set k v).entries = l ++ (k, v) :: r := by
  change setEntries k v m.entries = _
  rw [split, setEntries_of_split before]

/-- The value of a present key is replaced in place. -/
theorem entries_set_of_present {m : OrderedMap K V} {k : K} {v w : V} (found : m.get k = some w) :
    (m.set k v).entries = m.entries.map fun e => if e.1 = k then (k, v) else e := by
  obtain ⟨l, r, split, before, after⟩ := split_of_get found
  have still : ∀ part : List (K × V), (∀ e ∈ part, e.1 ≠ k) →
      part.map (fun e => if e.1 = k then (k, v) else e) = part := fun part other =>
    (List.map_congr_left fun e he => if_neg (other e he)).trans (List.map_id part)
  rw [entries_set_of_split split before, split, List.map_append, List.map_cons, if_pos rfl,
    still l before, still r after]

theorem entries_delete_of_split {m : OrderedMap K V} {k : K} {w : V} {l r : List (K × V)}
    (split : m.entries = l ++ (k, w) :: r) (before : ∀ e ∈ l, e.1 ≠ k)
    (after : ∀ e ∈ r, e.1 ≠ k) : (m.delete k).entries = l ++ r := by
  have hl : l.filter (fun e => e.1 ≠ k) = l :=
    List.filter_eq_self.mpr fun e he => by simpa using before e he
  have hr : r.filter (fun e => e.1 ≠ k) = r :=
    List.filter_eq_self.mpr fun e he => by simpa using after e he
  change m.entries.filter (fun e => decide (e.1 ≠ k)) = l ++ r
  rw [split, List.filter_append, List.filter_cons_of_neg (by simp), hl, hr]

/-! ## Reading after an update -/

theorem find?_setEntries (k a : K) (v : V) (l : List (K × V)) :
    ((setEntries k v l).find? fun e => e.1 = a).map Prod.snd =
      if a = k then some v else (l.find? fun e => e.1 = a).map Prod.snd := by
  induction l with
  | nil =>
      by_cases ha : a = k
      · simp [setEntries, ha]
      · have hka : ¬ k = a := fun h => ha h.symm
        simp [setEntries, ha, hka]
  | cons e rest ih =>
      by_cases he : e.1 = k
      · by_cases ha : a = k
        · simp [setEntries, he, ha]
        · have hka : ¬ k = a := fun h => ha h.symm
          simp [setEntries, he, ha, hka]
      · by_cases hea : e.1 = a
        · have ha : ¬ a = k := fun h => he (hea.trans h)
          simp [setEntries, hea, ha]
        · simpa [setEntries, he, hea] using ih

theorem get_set (m : OrderedMap K V) (k a : K) (v : V) :
    (m.set k v).get a = if a = k then some v else m.get a :=
  find?_setEntries k a v m.entries

@[simp] theorem get_set_self (m : OrderedMap K V) (k : K) (v : V) :
    (m.set k v).get k = some v := by
  rw [get_set, if_pos rfl]

theorem get_set_of_ne (m : OrderedMap K V) {k a : K} (v : V) (ne : a ≠ k) :
    (m.set k v).get a = m.get a := by
  rw [get_set, if_neg ne]

theorem get_delete (m : OrderedMap K V) (k a : K) :
    (m.delete k).get a = if a = k then none else m.get a := by
  by_cases ha : a = k
  · subst ha
    rw [if_pos rfl, get_eq_none]
    simp [keys, delete]
  · rw [if_neg ha]
    change ((m.entries.filter _).find? _).map _ = _
    rw [List.find?_filter]
    unfold get
    congr 2
    funext e
    by_cases he : e.1 = a
    · simp [he, ha]
    · simp [he]

@[simp] theorem get_delete_self (m : OrderedMap K V) (k : K) : (m.delete k).get k = none := by
  rw [get_delete, if_pos rfl]

theorem get_delete_of_ne (m : OrderedMap K V) {k a : K} (ne : a ≠ k) :
    (m.delete k).get a = m.get a := by
  rw [get_delete, if_neg ne]

theorem has_iff {m : OrderedMap K V} {k : K} : m.has k = true ↔ ∃ v, m.get k = some v := by
  simp [has, Option.isSome_iff_exists]

theorem has_iff_mem_keys {m : OrderedMap K V} {k : K} : m.has k = true ↔ k ∈ m.keys := by
  rw [has, Option.isSome_iff_ne_none, Ne, get_eq_none, not_not]

/-- The keys after a list of entries is set. -/
theorem has_foldl_set {α : Type*} (key : α → K) (value : α → V) (l : List α) (m : OrderedMap K V)
    (k : K) :
    (l.foldl (fun m a => m.set (key a) (value a)) m).has k = true ↔
      k ∈ l.map key ∨ m.has k = true := by
  induction l generalizing m with
  | nil => simp
  | cons a l ih =>
      rw [List.foldl_cons, ih, List.map_cons, List.mem_cons]
      by_cases here : k = key a
      · simp [has, here]
      · simp [has, get_set, here]

/-- Deleting the keys of a list. -/
theorem get_foldl_delete (keys : List K) (m : OrderedMap K V) (k : K) :
    (keys.foldl delete m).get k = if k ∈ keys then none else m.get k := by
  induction keys generalizing m with
  | nil => simp
  | cons key rest ih =>
      rw [List.foldl_cons, ih, get_delete]
      by_cases here : k = key <;> simp [here]

/-- The keys after a list of keys is deleted. -/
theorem has_foldl_delete {α : Type*} (key : α → K) (l : List α) (m : OrderedMap K V) (k : K) :
    (l.foldl (fun m a => m.delete (key a)) m).has k = true ↔
      k ∉ l.map key ∧ m.has k = true := by
  induction l generalizing m with
  | nil => simp
  | cons a l ih =>
      rw [List.foldl_cons, ih, List.map_cons, List.mem_cons]
      by_cases here : k = key a
      · simp [has, here]
      · simp [has, get_delete, here]

/-! ## Sizes and values -/

theorem size_set_of_absent {m : OrderedMap K V} {k : K} {v : V} (absent : m.get k = none) :
    (m.set k v).size = m.size + 1 := by
  simp [size, entries_set_of_absent absent]

theorem size_set_of_has {m : OrderedMap K V} {k : K} {v : V} (present : m.has k = true) :
    (m.set k v).size = m.size := by
  obtain ⟨w, found⟩ := has_iff.mp present
  obtain ⟨l, r, split, before, -⟩ := split_of_get found
  simp [size, entries_set_of_split split before, split]

theorem size_set_le (m : OrderedMap K V) (k : K) (v : V) : (m.set k v).size ≤ m.size + 1 := by
  cases found : m.get k with
  | none => exact Nat.le_of_eq (size_set_of_absent found)
  | some w =>
      rw [size_set_of_has (has_iff.mpr ⟨w, found⟩)]
      exact Nat.le_succ _

theorem values_set_of_absent {m : OrderedMap K V} {k : K} {v : V} (absent : m.get k = none) :
    (m.set k v).values = m.values ++ [v] := by
  simp [values, entries_set_of_absent absent]

theorem size_delete_of_get {m : OrderedMap K V} {k : K} {v : V} (found : m.get k = some v) :
    (m.delete k).size + 1 = m.size := by
  obtain ⟨l, r, hs, hl, hr⟩ := split_of_get found
  simp only [size, entries_delete_of_split hs hl hr, hs, List.length_append, List.length_cons]
  omega

theorem size_add_of_set (m : OrderedMap K V) (k : K) (v : V) :
    (m.set k v).size + (if m.has k then 1 else 0) = m.size + 1 := by
  cases found : m.get k with
  | none => rw [size_set_of_absent found, has, found]; rfl
  | some w =>
      have present : m.has k = true := has_iff.mpr ⟨w, found⟩
      rw [size_set_of_has present, if_pos present]

theorem size_add_of_delete (m : OrderedMap K V) (k : K) :
    (m.delete k).size + (if m.has k then 1 else 0) = m.size := by
  cases found : m.get k with
  | none =>
      have absent : ∀ e ∈ m.entries, e.1 ≠ k := by
        rintro e member rfl
        exact get_eq_none.mp found (List.mem_map_of_mem member)
      have same : m.delete k = m :=
        ext (List.filter_eq_self.mpr fun e member => by simpa using absent e member)
      rw [same, has, found]
      rfl
  | some w =>
      rw [if_pos (has_iff.mpr ⟨w, found⟩)]
      exact size_delete_of_get found

@[simp] theorem has_set_self (m : OrderedMap K V) (k : K) (v : V) : (m.set k v).has k = true := by
  rw [has, get_set_self]
  rfl

theorem has_set_of_ne (m : OrderedMap K V) {k a : K} (v : V) (ne : a ≠ k) :
    (m.set k v).has a = m.has a := by
  rw [has, get_set_of_ne m v ne, has]

@[simp] theorem has_delete_self (m : OrderedMap K V) (k : K) : (m.delete k).has k = false := by
  rw [has, get_delete_self]
  rfl

theorem has_delete_of_ne (m : OrderedMap K V) {k a : K} (ne : a ≠ k) :
    (m.delete k).has a = m.has a := by
  rw [has, get_delete_of_ne m ne, has]

/-- Deleting a present key removes exactly its value. -/
theorem values_perm_delete {m : OrderedMap K V} {k : K} {v : V} (found : m.get k = some v) :
    m.values.Perm (v :: (m.delete k).values) := by
  obtain ⟨l, r, hs, hl, hr⟩ := split_of_get found
  simp only [values, entries_delete_of_split hs hl hr, hs, List.map_append, List.map_cons]
  exact List.perm_middle

/-! ## Changing every value -/

def map {W : Type*} (f : V → W) (m : OrderedMap K V) : OrderedMap K W :=
  ⟨m.entries.map fun e => (e.1, f e.2), by
    rw [List.map_map]
    exact m.nodup⟩

theorem values_map {W : Type*} (f : V → W) (m : OrderedMap K V) :
    (m.map f).values = m.values.map f := by
  simp [map, values]

theorem get_map {W : Type*} (f : V → W) (m : OrderedMap K V) (k : K) :
    (m.map f).get k = (m.get k).map f := by
  have lists : ∀ l : List (K × V),
      ((l.map fun e => (e.1, f e.2)).find? fun e => e.1 = k).map Prod.snd =
        ((l.find? fun e => e.1 = k).map Prod.snd).map f := by
    intro l
    induction l with
    | nil => rfl
    | cons e l ih =>
        by_cases here : e.1 = k
        · simp [here]
        · simpa [here] using ih
  exact lists m.entries

/-! ## Keeping some entries -/

def filter (keep : V → Bool) (m : OrderedMap K V) : OrderedMap K V :=
  ⟨m.entries.filter fun e => keep e.2, m.nodup.sublist (List.Sublist.map _ List.filter_sublist)⟩

theorem get_filter (keep : V → Bool) (m : OrderedMap K V) (k : K) :
    (m.filter keep).get k = (m.get k).filter keep := by
  cases found : m.get k with
  | none =>
      rw [get_eq_none] at found
      refine get_eq_none.mpr fun mem => ?_
      obtain ⟨e, kept, rfl⟩ := List.mem_map.mp mem
      exact found (List.mem_map.mpr ⟨e, List.mem_of_mem_filter kept, rfl⟩)
  | some v =>
      have there : (k, v) ∈ m.entries := mem_entries.mpr found
      cases kept : keep v with
      | true =>
          rw [Option.filter_some, if_pos kept, ← mem_entries]
          exact List.mem_filter.mpr ⟨there, kept⟩
      | false =>
          rw [Option.filter_some, if_neg (by simp [kept]), get_eq_none]
          intro mem
          obtain ⟨e, passed, rfl⟩ := List.mem_map.mp mem
          obtain ⟨stored, passes⟩ := List.mem_filter.mp passed
          have same : e.2 = v := Option.some.inj ((mem_entries.mp stored).symm.trans found)
          rw [same, kept] at passes
          cases passes

theorem filter_eq_self_iff {keep : V → Bool} {m : OrderedMap K V} :
    m.filter keep = m ↔ ∀ v ∈ m.values, keep v = true := by
  rw [OrderedMap.ext_iff]
  change m.entries.filter _ = m.entries ↔ _
  rw [List.filter_eq_self]
  simp only [values, List.forall_mem_map]

/-! ## Setting many keys -/

/-- The entries of a list, set one after the other. -/
def setAll (m : OrderedMap K V) (l : List (K × V)) : OrderedMap K V :=
  l.foldl (fun m e => m.set e.1 e.2) m

/-- Entries with new and distinct keys are put behind the others. -/
theorem entries_setAll (m : OrderedMap K V) {l : List (K × V)} (nodup : (l.map Prod.fst).Nodup)
    (apart : ∀ e ∈ l, m.get e.1 = none) : (m.setAll l).entries = m.entries ++ l := by
  induction l generalizing m with
  | nil => simp [setAll]
  | cons e rest ih =>
      rw [List.map_cons, List.nodup_cons] at nodup
      obtain ⟨here, later⟩ := List.forall_mem_cons.mp apart
      have distinct : ∀ a ∈ rest, a.1 ≠ e.1 := fun a member same =>
        nodup.1 (List.mem_map.mpr ⟨a, member, same⟩)
      have still : ∀ a ∈ rest, (m.set e.1 e.2).get a.1 = none := fun a member => by
        rw [get_set_of_ne _ _ (distinct a member)]
        exact later a member
      have rests := ih (m.set e.1 e.2) nodup.2 still
      rw [entries_set_of_absent here] at rests
      rw [setAll, List.foldl_cons]
      rw [setAll] at rests
      rw [rests, List.append_assoc]
      rfl

theorem get_setAll (m : OrderedMap K V) {l : List (K × V)} (nodup : (l.map Prod.fst).Nodup)
    (k : K) :
    (m.setAll l).get k = ((l.find? fun e => e.1 = k).map Prod.snd).or (m.get k) := by
  induction l generalizing m with
  | nil => rfl
  | cons e l ih =>
      rw [List.map_cons, List.nodup_cons] at nodup
      rw [setAll, List.foldl_cons]
      change ((m.set e.1 e.2).setAll l).get k = _
      rw [ih _ nodup.2, get_set]
      by_cases here : e.1 = k
      · have later : (l.find? fun other => other.1 = k) = none := by
          rw [List.find?_eq_none]
          intro other member same
          have same : other.1 = k := by simpa using same
          exact nodup.1 (List.mem_map.mpr ⟨other, member, same.trans here.symm⟩)
        simp [later, here]
      · have there : ¬ k = e.1 := fun same => here same.symm
        simp [here, there]

/-! ## Values that carry their key -/

/-- Every value is stored under the key it carries. -/
def KeyedBy (key : V → K) (m : OrderedMap K V) : Prop :=
  ∀ k v, m.get k = some v → key v = k

section Keyed

variable {key : V → K} {m : OrderedMap K V}

theorem keyedBy_empty (key : V → K) : (empty : OrderedMap K V).KeyedBy key := by
  intro k v found
  cases found

theorem KeyedBy.set (keyed : m.KeyedBy key) (v : V) : (m.set (key v) v).KeyedBy key := by
  intro k w found
  rw [get_set] at found
  split at found
  · rename_i here
    cases found
    exact here.symm
  · exact keyed k w found

theorem KeyedBy.delete (keyed : m.KeyedBy key) (k : K) : (m.delete k).KeyedBy key := by
  intro k' v found
  rw [get_delete] at found
  split at found
  · cases found
  · exact keyed k' v found

theorem KeyedBy.foldl_delete (keyed : m.KeyedBy key) (keys : List K) :
    (keys.foldl OrderedMap.delete m).KeyedBy key := by
  induction keys generalizing m with
  | nil => exact keyed
  | cons k rest ih => exact ih (keyed.delete k)

theorem KeyedBy.entries_eq (keyed : m.KeyedBy key) :
    m.entries = m.values.map fun v => (key v, v) := by
  rw [values, List.map_map]
  conv_lhs => rw [← List.map_id m.entries]
  refine List.map_congr_left fun e mem => ?_
  exact Prod.ext (keyed e.1 e.2 (mem_entries.mp mem)).symm rfl

theorem KeyedBy.values_nodup (keyed : m.KeyedBy key) : (m.values.map key).Nodup := by
  have nodup := m.nodup
  rw [keyed.entries_eq, List.map_map] at nodup
  exact nodup

/-- Setting an encoding of every value of a keyed map. -/
theorem KeyedBy.get_setAll {W : Type*} (keyed : m.KeyedBy key) (encode : V → W)
    (n : OrderedMap K W) (k : K) :
    (n.setAll (m.values.map fun v => (key v, encode v))).get k =
      ((m.get k).map encode).or (n.get k) := by
  have nodup : ((m.values.map fun v => (key v, encode v)).map Prod.fst).Nodup := by
    rw [List.map_map]
    exact keyed.values_nodup
  have lists : ∀ l : List V, ((l.map fun v => (key v, encode v)).find? fun e => e.1 = k).map Prod.snd =
      (((l.map fun v => (key v, v)).find? fun e => e.1 = k).map Prod.snd).map encode := by
    intro l
    induction l with
    | nil => rfl
    | cons v l ih =>
        by_cases here : key v = k
        · simp [here]
        · simpa [here] using ih
  rw [OrderedMap.get_setAll n nodup, lists, ← keyed.entries_eq]
  rfl

end Keyed

end Update

end OrderedMap

end Aeolus.Theory
