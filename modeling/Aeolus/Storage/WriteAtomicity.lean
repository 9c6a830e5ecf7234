/-
# Aeolus.Storage.WriteAtomicity — which refused writes leave something behind

A write makes room before it knows that it will store anything: the records over the storage
budget go before the limit on collections is looked at, and those over the limit of the
collection before the tags are turned into text and the row is inserted.

* `write_atomic_iff` — a write that throws leaves records and collections as they were,
  except where `HalfDone` says otherwise;
* `refused_write_evicts` — the pole: a full store at its limit of collections loses a record
  to a write that is refused.
-/
import Aeolus.Storage.CollectionWrites

namespace Aeolus.Storage.CollectionStore

open Aeolus.Core Aeolus.Theory Aeolus.Theory.Handler

/-! ## What the steps keep and change -/

@[simp] theorem collections_evictGlobal (s : CollectionStore) :
    s.evictGlobal.collections = s.collections := by
  unfold evictGlobal
  dsimp only
  split <;> rfl

@[simp] theorem config_evictGlobal (s : CollectionStore) : s.evictGlobal.config = s.config := by
  unfold evictGlobal
  dsimp only
  split <;> rfl

@[simp] theorem collections_evictCollection (collection : String) (s : CollectionStore) :
    (s.evictCollection collection).collections = s.collections := by
  unfold evictCollection
  dsimp only
  split <;> rfl

theorem length_delete_le (s : CollectionStore) (ids : List Nat) :
    (s.delete ids).rows.length ≤ s.rows.length := List.length_filter_le _ _

/-- Deleting the oldest of some rows of the table deletes one, if there is one. -/
theorem length_delete_oldest_lt {s : CollectionStore} {rows : List StoredRow} {limit : ℤ}
    (stored : ∀ r ∈ rows, r ∈ s.rows) (some : rows ≠ []) (positive : 1 ≤ limit) :
    (s.delete (oldest rows limit)).rows.length < s.rows.length := by
  have sorted := List.perm_insertionSort (fun r s : StoredRow => r.timestamp.le s.timestamp) rows
  obtain ⟨n, limit_eq⟩ : ∃ n, limit.toNat = n + 1 := ⟨limit.toNat - 1, by omega⟩
  cases order : rows.insertionSort fun r s => r.timestamp.le s.timestamp with
  | nil =>
      rw [order] at sorted
      exact absurd sorted.symm.eq_nil some
  | cons first rest =>
      have member : first ∈ rows := by
        apply sorted.subset
        rw [order]
        exact List.mem_cons_self
      apply List.length_filter_lt_length_iff_exists.mpr
      refine ⟨first, stored first member, ?_⟩
      simp [oldest, order, limit_eq]

/-- The store is at its budget. -/
def Full (s : CollectionStore) : Prop :=
  DataStore.maxRecordsByStorage s.config ≤ (s.rows.length : ℤ)

/-- The collection is at its limit, with a record to lose. -/
def CollectionFull (s : CollectionStore) (collection : String) : Prop :=
  s.config.maxRecordsPerCollection ≤ ((s.inCollection collection).length : ℤ) ∧
    s.inCollection collection ≠ []

/-- The collection is not there, and there may be no other. -/
def AtCollectionLimit (s : CollectionStore) (collection : String) : Prop :=
  collection ∉ s.collections ∧ s.config.maxCollections ≤ (s.collections.length : ℤ)

theorem evictGlobal_eq {s : CollectionStore} (room : ¬s.Full) : s.evictGlobal = s := if_neg room

theorem length_evictGlobal_lt {s : CollectionStore}
    (budget : 1 ≤ DataStore.maxRecordsByStorage s.config) (full : s.Full) :
    s.evictGlobal.rows.length < s.rows.length := by
  have unfolded : s.evictGlobal = s.delete (oldest s.rows
    (s.rows.length - DataStore.maxRecordsByStorage s.config + 1)) := if_pos full
  unfold Full at full
  rw [unfolded]
  apply length_delete_oldest_lt (fun r member => member)
  · intro empty
    rw [empty, List.length_nil] at full
    omega
  · omega

theorem length_evictCollection_le (collection : String) (s : CollectionStore) :
    (s.evictCollection collection).rows.length ≤ s.rows.length := by
  unfold evictCollection
  dsimp only
  split
  · exact length_delete_le _ _
  · exact Nat.le_refl _

/-- An eviction from a collection changes the rows when it finds one. -/
theorem rows_evictCollection_iff (collection : String) (s : CollectionStore) :
    (s.evictCollection collection).rows = s.rows ↔ ¬s.CollectionFull collection := by
  constructor
  · rintro same ⟨limit, some⟩
    have unfolded : s.evictCollection collection = s.delete (oldest (s.inCollection collection)
      ((s.inCollection collection).length - s.config.maxRecordsPerCollection + 1)) := if_pos limit
    have fewer : (s.evictCollection collection).rows.length < s.rows.length := by
      rw [unfolded]
      apply length_delete_oldest_lt (fun r member => List.mem_of_mem_filter member) some
      omega
    rw [same] at fewer
    exact Nat.lt_irrefl _ fewer
  · intro room
    by_cases limit : s.config.maxRecordsPerCollection ≤ ((s.inCollection collection).length : ℤ)
    · have empty : s.inCollection collection = [] := by
        by_contra some
        exact room ⟨limit, some⟩
      unfold evictCollection
      dsimp only
      rw [if_pos limit, empty]
      simp [delete, oldest]
    · unfold evictCollection
      dsimp only
      rw [if_neg limit]

/-! ## The write -/

/-- The store after the collection was made. -/
def created (collection : String) (s : CollectionStore) : CollectionStore :=
  if collection ∈ s.collections then s
  else { s with collections := s.collections ++ [collection] }

theorem autoCreate_limit {s : CollectionStore} {collection : String}
    (limit : s.AtCollectionLimit collection) : ∃ e, autoCreate collection s = (.error e, s) := by
  unfold autoCreate
  rw [if_neg limit.1, if_pos limit.2]
  exact ⟨_, rfl⟩

theorem autoCreate_ok {s : CollectionStore} {collection : String}
    (room : ¬s.AtCollectionLimit collection) :
    autoCreate collection s = (.ok ⟨⟩, s.created collection) := by
  unfold autoCreate created
  by_cases there : collection ∈ s.collections
  · rw [if_pos there, if_pos there]
  · rw [if_neg there, if_neg there, if_neg fun limit => room ⟨there, limit⟩]

theorem accept_ok {config : DataStoreConfig} {call : WriteCall} {payloadJson : Option Json}
    (accepted : accept config call = .ok payloadJson) :
    1 ≤ DataStore.maxRecordsByStorage config := by
  unfold accept at accepted
  split at accepted
  · cases accepted
  · split at accepted
    · cases accepted
    · split at accepted
      · cases accepted
      · omega

section Write

variable (platform : WritePlatform) (now : ℤ) (call : WriteCall)

theorem write_refused {s : CollectionStore} {e : WriteError}
    (refused : accept s.config call = .error e) :
    write platform now call s = (.error e, s) := by
  simp only [write, bind_apply, asks_apply, check, refused]

theorem write_accepted {s : CollectionStore} {payloadJson : Option Json}
    (accepted : accept s.config call = .ok payloadJson) :
    write platform now call s = (do
      autoCreate call.collection
      modify (evictCollection call.collection)
      let values ← check (rowValues platform now call payloadJson)
      modify (insert call.collection values) : Handler WriteError CollectionStore PUnit)
        s.evictGlobal := by
  simp only [write, bind_apply, asks_apply, check, accepted, modify_apply]

/-- The write is refused after it has changed something: at the limit of collections after an
eviction, or at the insertion after an eviction or the making of the collection. -/
def HalfDone (s : CollectionStore) : Prop :=
  ∃ payloadJson, accept s.config call = .ok payloadJson ∧
    (s.AtCollectionLimit call.collection ∧ s.Full ∨
      ¬s.AtCollectionLimit call.collection ∧ (∃ e, rowValues platform now call payloadJson = .error e) ∧
        (s.Full ∨ call.collection ∉ s.collections ∨ s.CollectionFull call.collection))

/-- Refused at the limit of collections, the write has evicted over the budget. -/
theorem write_at_limit {s : CollectionStore} {payloadJson : Option Json}
    (accepted : accept s.config call = .ok payloadJson)
    (limit : s.AtCollectionLimit call.collection) :
    ∃ e, write platform now call s = (.error e, s.evictGlobal) := by
  have limit' : s.evictGlobal.AtCollectionLimit call.collection := by
    simpa [AtCollectionLimit] using limit
  obtain ⟨e, refused⟩ := autoCreate_limit limit'
  refine ⟨e, ?_⟩
  rw [write_accepted platform now call accepted]
  exact bind_of_error refused

/-- Below it, the insertion decides. -/
theorem write_below_limit {s : CollectionStore} {payloadJson : Option Json}
    (accepted : accept s.config call = .ok payloadJson)
    (room : ¬s.AtCollectionLimit call.collection) :
    write platform now call s =
      (do
        let values ← check (rowValues platform now call payloadJson)
        modify (insert call.collection values) : Handler WriteError CollectionStore PUnit)
          ((s.evictGlobal.created call.collection).evictCollection call.collection) := by
  have room' : ¬s.evictGlobal.AtCollectionLimit call.collection := by
    simpa [AtCollectionLimit] using room
  rw [write_accepted platform now call accepted, bind_of_ok (autoCreate_ok room')]
  rfl

/-- What the insertion finds is what was there before the call, unless something made room. -/
theorem made_room_iff {s : CollectionStore} (collection : String)
    (budget : 1 ≤ DataStore.maxRecordsByStorage s.config) :
    (((s.evictGlobal.created collection).evictCollection collection).collections = s.collections ∧
      ((s.evictGlobal.created collection).evictCollection collection).rows = s.rows) ↔
    ¬(s.Full ∨ collection ∉ s.collections ∨ s.CollectionFull collection) := by
  have kept : (s.evictGlobal.created collection).rows = s.evictGlobal.rows := by
    unfold created
    split <;> rfl
  by_cases full : s.Full
  · -- one record fewer already, and no step adds one
    have fewer := length_evictGlobal_lt budget full
    have still := length_evictCollection_le collection (s.evictGlobal.created collection)
    rw [kept] at still
    constructor
    · rintro ⟨-, same⟩
      rw [same] at still
      omega
    · intro room
      exact absurd (Or.inl full) room
  rw [evictGlobal_eq full, collections_evictCollection]
  by_cases there : collection ∈ s.collections
  · have same : s.created collection = s := if_pos there
    rw [same, rows_evictCollection_iff]
    simp [full, there]
  · have made : (s.created collection).collections = s.collections ++ [collection] := by
      unfold created
      rw [if_neg there]
    rw [made]
    simp [there]

/-- **A refused write.**  It leaves the records and the collections as they were, unless it is
`HalfDone`. -/
theorem write_atomic_iff (s : CollectionStore) :
    (∀ e s', write platform now call s = (.error e, s') →
      s'.collections = s.collections ∧ s'.rows = s.rows) ↔ ¬HalfDone platform now call s := by
  cases accepted : accept s.config call with
  | error e =>
      rw [write_refused platform now call accepted]
      constructor
      · rintro - ⟨payloadJson, accepted', -⟩
        rw [accepted] at accepted'
        cases accepted'
      · rintro - e s' outcome
        cases outcome
        exact ⟨rfl, rfl⟩
  | ok payloadJson =>
      have half : HalfDone platform now call s ↔
          (s.AtCollectionLimit call.collection ∧ s.Full ∨
            ¬s.AtCollectionLimit call.collection ∧
              (∃ e, rowValues platform now call payloadJson = .error e) ∧
              (s.Full ∨ call.collection ∉ s.collections ∨ s.CollectionFull call.collection)) := by
        constructor
        · rintro ⟨other, accepted', half⟩
          rw [accepted] at accepted'
          cases accepted'
          exact half
        · intro half
          exact ⟨payloadJson, accepted, half⟩
      have budget := accept_ok accepted
      rw [half]
      by_cases limit : s.AtCollectionLimit call.collection
      · obtain ⟨e, refused⟩ := write_at_limit platform now call accepted limit
        rw [refused]
        constructor
        · intro atomic
          obtain ⟨-, same⟩ := atomic e _ rfl
          rintro (⟨-, full⟩ | ⟨room, -⟩)
          · have fewer := length_evictGlobal_lt budget full
            rw [same] at fewer
            exact Nat.lt_irrefl _ fewer
          · exact room limit
        · intro room e' s' outcome
          have same : s.evictGlobal = s := evictGlobal_eq fun full => room (Or.inl ⟨limit, full⟩)
          cases outcome
          rw [same]
          exact ⟨rfl, rfl⟩
      · rw [write_below_limit platform now call accepted limit]
        have unchanged := made_room_iff call.collection budget
        cases values : rowValues platform now call payloadJson with
        | ok row =>
            constructor
            · rintro - (⟨limit', -⟩ | ⟨-, ⟨e, refused⟩, -⟩)
              · exact limit limit'
              · cases refused
            · intro _ e s' outcome
              cases outcome
        | error e =>
            constructor
            · rintro atomic (⟨limit', -⟩ | ⟨-, -, changed⟩)
              · exact limit limit'
              · exact unchanged.mp (atomic e _ rfl) changed
            · intro kept e' s' outcome
              cases outcome
              exact unchanged.mpr fun changed => kept (Or.inr ⟨limit, ⟨e, rfl⟩, changed⟩)

end Write

/-! ## A full store at its limit of collections -/

/-- A budget of one record, and one collection. -/
def oneRecord : CollectionStore where
  config := ⟨true, 1 / 5000, 10, 1⟩
  collections := ["power"]
  rows := [⟨1, "power", .num 40, .obj [], .integer 100⟩]
  nextId := 2

def heatReading : WriteCall := { collection := "heat", payload := .json (.num 21) }

theorem maxRecordsByStorage_oneRecord : DataStore.maxRecordsByStorage oneRecord.config = 1 := by
  unfold DataStore.maxRecordsByStorage oneRecord
  rw [Int.floor_eq_iff]
  norm_num

/-- The reading is refused, and the record of the other collection is gone. -/
theorem refused_write_evicts : ∃ e s',
    write ⟨id⟩ 200 heatReading oneRecord = (.error e, s') ∧ s'.rows ≠ oneRecord.rows := by
  have accepted : accept oneRecord.config heatReading = .ok (some (.num 21)) := by
    simp [accept, heatReading, stringify, maxRecordsByStorage_oneRecord]
    rfl
  have limit : oneRecord.AtCollectionLimit heatReading.collection := by
    simp [AtCollectionLimit, oneRecord, heatReading]
  have full : oneRecord.Full := by
    unfold Full
    rw [maxRecordsByStorage_oneRecord]
    exact le_refl _
  obtain ⟨e, refused⟩ := write_at_limit ⟨id⟩ 200 heatReading accepted limit
  refine ⟨e, _, refused, fun same => ?_⟩
  have fewer := length_evictGlobal_lt (accept_ok accepted) full
  rw [same] at fewer
  exact Nat.lt_irrefl _ fewer

end Aeolus.Storage.CollectionStore
