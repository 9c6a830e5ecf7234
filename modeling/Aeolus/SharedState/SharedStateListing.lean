/-
# Aeolus.SharedState.SharedStateListing — what the server lists of Shared State

`listBucket` and `listBuckets` of `src/shared-state/shared-state-store.ts`.  A bucket is no more
than the keys it holds, so it is listed exactly while it has one (`mem_listBuckets`).  What a
call of the store does to the entries of a bucket is told by the change it announces
(`perform_cases`, `held_created`, `held_replaced`, `held_removed`).
-/
import Aeolus.SharedState.ChangeLaw

namespace Aeolus.SharedState

open Aeolus.Core Aeolus.Theory Aeolus.Automations

/-- A value is absent when its text is malformed. -/
structure SharedStateEntry where
  key : String
  value : Option Json
  updatedAt : ℚ

structure SharedStateBucketMetadata where
  bucket : String
  keyCount : Nat
  deriving DecidableEq, Repr

namespace SharedStateStore

variable (parse : String → Option Json) (store : SharedStateStore)

def entryOf (row : (String × String) × SharedStateRow) : SharedStateEntry :=
  ⟨row.1.2, parse row.2.value, row.2.updatedAt⟩

/-- The rows of a bucket. -/
def rowsOf (bucket : String) : List ((String × String) × SharedStateRow) :=
  store.rows.entries.filter fun row => row.1.1 = bucket

/-- `ORDER BY key` -/
def listBucket (bucket : String) : List SharedStateEntry :=
  ((store.rowsOf bucket).mergeSort fun a b => a.1.2 ≤ b.1.2).map (entryOf parse)

/-- `COUNT(*)` of a group -/
def keyCount (bucket : String) : Nat := (store.rowsOf bucket).length

/-- `GROUP BY bucket ORDER BY bucket` -/
def listBuckets : List SharedStateBucketMetadata :=
  ((store.rows.entries.map (·.1.1)).dedup.mergeSort (· ≤ ·)).map fun bucket =>
    ⟨bucket, store.keyCount bucket⟩

/-- The entries of a bucket, in no order. -/
def held (bucket : String) : List SharedStateEntry := (store.rowsOf bucket).map (entryOf parse)

theorem listBucket_perm (bucket : String) :
    (store.listBucket parse bucket).Perm (store.held parse bucket) :=
  (List.mergeSort_perm _ _).map _

@[simp] theorem length_held (bucket : String) :
    (store.held parse bucket).length = store.keyCount bucket := List.length_map _

theorem mem_held_key {bucket key : String} :
    (∃ entry ∈ store.held parse bucket, entry.key = key) ↔
      store.rows.get (bucket, key) ≠ none := by
  rw [Ne, OrderedMap.get_eq_none, not_not, OrderedMap.keys, List.mem_map]
  constructor
  · rintro ⟨_, member, same⟩
    obtain ⟨row, there, rfl⟩ := List.mem_map.mp member
    have here := List.mem_filter.mp there
    exact ⟨row, here.1, Prod.ext (by simpa using here.2) same⟩
  · rintro ⟨row, there, same⟩
    refine ⟨entryOf parse row, List.mem_map_of_mem (List.mem_filter.mpr ⟨there, ?_⟩), ?_⟩
    · simp [same]
    · rw [entryOf, same]

theorem keyCount_pos (bucket key : String) (present : store.rows.get (bucket, key) ≠ none) :
    0 < store.keyCount bucket := by
  obtain ⟨entry, member, -⟩ := (store.mem_held_key fun _ => none).mpr present
  rw [← length_held (fun _ => none)]
  exact List.length_pos_of_mem member

/-- A bucket is listed with its keys, exactly when it has one. -/
theorem mem_listBuckets (metadata : SharedStateBucketMetadata) :
    metadata ∈ store.listBuckets ↔
      metadata.keyCount = store.keyCount metadata.bucket ∧ 0 < metadata.keyCount := by
  have holds : ∀ bucket, bucket ∈ store.rows.entries.map (·.1.1) ↔ 0 < store.keyCount bucket := by
    intro bucket
    rw [keyCount, List.length_pos_iff_exists_mem, List.mem_map]
    refine exists_congr fun row => ?_
    rw [rowsOf, List.mem_filter, decide_eq_true_eq]
  rw [listBuckets, List.mem_map]
  simp only [List.mem_mergeSort, List.mem_dedup, holds]
  constructor
  · rintro ⟨bucket, some, rfl⟩
    exact ⟨rfl, some⟩
  · rintro ⟨count, some⟩
    exact ⟨metadata.bucket, count ▸ some, by rw [← count]⟩

theorem nodup_listBuckets : (store.listBuckets.map (·.bucket)).Nodup := by
  rw [listBuckets, List.map_map]
  have names : (fun bucket => bucket) = (·.bucket) ∘ fun bucket =>
      (⟨bucket, store.keyCount bucket⟩ : SharedStateBucketMetadata) := rfl
  rw [← names, List.map_id', (List.mergeSort_perm _ _).nodup_iff]
  exact List.nodup_dedup _

/-! ## What a call does to the entries -/

/-- A call does nothing, or it writes an entry, or removes one, and announces that. -/
theorem perform_cases (stringify : Json → String) (call : StoreCall) :
    (store.after stringify call = store ∧ store.emitted stringify call = [] ∧
        ∀ bucket key context now, call = .delete bucket key context now →
          store.rows.get (bucket, key) = none) ∨
      (∃ bucket key value context now, call = .set bucket key (some value) context now ∧
        store.after stringify call =
          { rows := store.rows.set (bucket, key) ⟨stringify value, now⟩ } ∧
        store.emitted stringify call =
          [changeOf bucket key (some value) false now context]) ∨
      ∃ bucket key context now row, call = .delete bucket key context now ∧
        store.rows.get (bucket, key) = some row ∧
        store.after stringify call = { rows := store.rows.delete (bucket, key) } ∧
        store.emitted stringify call = [changeOf bucket key none true now context] := by
  cases call with
  | set bucket key value context now =>
      cases outcome : store.set stringify bucket key value context now with
      | error reason =>
          exact .inl ⟨by simp [after, perform, outcome], by simp [emitted, perform, outcome],
            by simp⟩
      | ok done =>
          obtain ⟨change, next⟩ := done
          obtain ⟨written, rfl, ⟨-, rfl, rfl⟩ | ⟨-, -, rfl, rfl⟩⟩ := set_ok outcome
          · exact .inl ⟨by simp [after, perform, outcome], by simp [emitted, perform, outcome],
              by simp⟩
          · exact .inr (.inl ⟨bucket, key, written, context, now, rfl,
              by simp [after, perform, outcome], by simp [emitted, perform, outcome]⟩)
  | delete bucket key context now =>
      cases current : store.rows.get (bucket, key) with
      | none =>
          exact .inl ⟨by simp [after, perform, delete_absent current],
            by simp [emitted, perform, delete_absent current], fun _ _ _ _ same => by
              cases same
              exact current⟩
      | some row =>
          exact .inr (.inr ⟨bucket, key, context, now, row, rfl, current,
            by simp [after, perform, delete_present current],
            by simp [emitted, perform, delete_present current]⟩)

section Writes

variable {store} {bucket key : String} {row : SharedStateRow}

theorem held_created (absent : store.rows.get (bucket, key) = none) (other : String) :
    held parse ⟨store.rows.set (bucket, key) row⟩ other =
      store.held parse other ++
        if bucket = other then [⟨key, parse row.value, row.updatedAt⟩] else [] := by
  have entries := OrderedMap.entries_set_of_absent (v := row) absent
  rw [held, rowsOf, entries, List.filter_append, List.map_append]
  split
  · rename_i here
    rw [List.filter_cons_of_pos (by simpa using here)]
    rfl
  · rename_i elsewhere
    rw [List.filter_cons_of_neg (by simpa using elsewhere)]
    rfl

theorem held_replaced {old : SharedStateRow} (present : store.rows.get (bucket, key) = some old)
    (other : String) :
    held parse ⟨store.rows.set (bucket, key) row⟩ other =
      (store.held parse other).map fun entry =>
        if bucket = other ∧ entry.key = key then ⟨key, parse row.value, row.updatedAt⟩
        else entry := by
  have entries := OrderedMap.entries_set_of_present (v := row) present
  rw [held, rowsOf, entries, held, rowsOf, List.filter_map, List.map_map, List.map_map]
  have kept : (fun row : (String × String) × SharedStateRow => decide (row.1.1 = other)) ∘
      (fun e => if e.1 = (bucket, key) then ((bucket, key), row) else e) =
        fun row => decide (row.1.1 = other) := by
    funext e
    dsimp only [Function.comp]
    split
    · rename_i same
      rw [same]
    · rfl
  rw [kept]
  refine List.map_congr_left fun e member => ?_
  have here : e.1.1 = other := by simpa using (List.mem_filter.mp member).2
  dsimp only [Function.comp]
  have same : e.1 = (bucket, key) ↔ bucket = other ∧ (entryOf parse e).key = key := by
    rw [Prod.ext_iff, here, eq_comm]
    exact Iff.rfl
  by_cases mine : e.1 = (bucket, key)
  · rw [if_pos mine, if_pos (same.mp mine)]
    rfl
  · rw [if_neg mine, if_neg fun both => mine (same.mpr both)]

theorem held_removed (other : String) :
    held parse ⟨store.rows.delete (bucket, key)⟩ other =
      (store.held parse other).filter fun entry =>
        !(decide (bucket = other ∧ entry.key = key)) := by
  rw [held, rowsOf, held, rowsOf, OrderedMap.delete, List.filter_map, List.filter_filter,
    List.filter_filter]
  refine congrArg _ (List.filter_congr fun e _ => ?_)
  dsimp only [Function.comp]
  by_cases here : e.1.1 = other
  · have same : e.1 = (bucket, key) ↔ bucket = other ∧ (entryOf parse e).key = key := by
      rw [Prod.ext_iff, here, eq_comm]
      exact Iff.rfl
    simp [here, same]
  · simp [here]

/-- A write to one bucket is not seen in another. -/
theorem held_elsewhere {other : String} (differs : bucket ≠ other) :
    held parse ⟨store.rows.set (bucket, key) row⟩ other = store.held parse other := by
  cases current : store.rows.get (bucket, key) with
  | none => rw [held_created _ current, if_neg differs, List.append_nil]
  | some old =>
      rw [held_replaced _ current]
      conv_rhs => rw [← List.map_id' (store.held parse other)]
      exact List.map_congr_left fun entry _ => if_neg fun both => differs both.1

/-- The key counts move with the rows. -/
theorem keyCount_created (absent : store.rows.get (bucket, key) = none) (other : String) :
    keyCount ⟨store.rows.set (bucket, key) row⟩ other =
      store.keyCount other + if bucket = other then 1 else 0 := by
  rw [← length_held (fun _ => none), held_created _ absent, List.length_append, length_held]
  split <;> rfl

theorem keyCount_elsewhere {other : String} (differs : bucket ≠ other) :
    keyCount ⟨store.rows.set (bucket, key) row⟩ other = store.keyCount other := by
  rw [← length_held (fun _ => none), held_elsewhere _ differs, length_held]

theorem keyCount_replaced {old : SharedStateRow}
    (present : store.rows.get (bucket, key) = some old) (other : String) :
    keyCount ⟨store.rows.set (bucket, key) row⟩ other = store.keyCount other := by
  rw [← length_held (fun _ => none), held_replaced _ present, List.length_map, length_held]

theorem keyCount_removed {old : SharedStateRow}
    (present : store.rows.get (bucket, key) = some old) (other : String) :
    keyCount ⟨store.rows.delete (bucket, key)⟩ other + (if bucket = other then 1 else 0) =
      store.keyCount other := by
  obtain ⟨l, r, split, before, after⟩ := OrderedMap.split_of_get present
  rw [keyCount, keyCount, rowsOf, rowsOf, OrderedMap.entries_delete_of_split split before after,
    split, List.filter_append, List.filter_append, List.length_append, List.length_append]
  by_cases here : bucket = other
  · rw [List.filter_cons_of_pos (by simpa using here), if_pos here, List.length_cons]
    omega
  · rw [List.filter_cons_of_neg (by simpa using here), if_neg here, Nat.add_zero]

end Writes

end SharedStateStore

end Aeolus.SharedState
