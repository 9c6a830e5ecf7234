/-
# Aeolus.Storage.StoreCaps — the caps of the Data Store over any sequence of writes

Between writes the configuration may change, so a store may be over its caps when a write
begins; each write that returns brings it back under them.

* `write_capped` — what one write that returns leaves: the three caps, its own record, and
  two evictions that took the oldest of their scope;
* `caps_along` — the same at every write of every run whose updates keep the caps positive.
-/
import Aeolus.Storage.DataStore
import Aeolus.Theory.Oldest

namespace Aeolus.Storage

open Aeolus.Theory Aeolus.Theory.Handler

/-! ## Configuration -/

/-- `Partial<DataStoreConfig>` -/
structure ConfigUpdate where
  enabled : Option Bool := none
  maxStorageMb : Option ℚ := none
  maxRecordsPerCollection : Option ℤ := none
  maxCollections : Option ℤ := none

/-- `{ ...this.config, ...partial }` -/
def DataStoreConfig.update (config : DataStoreConfig) (patch : ConfigUpdate) :
    DataStoreConfig where
  enabled := patch.enabled.getD config.enabled
  maxStorageMb := patch.maxStorageMb.getD config.maxStorageMb
  maxRecordsPerCollection := patch.maxRecordsPerCollection.getD config.maxRecordsPerCollection
  maxCollections := patch.maxCollections.getD config.maxCollections

/-- Every cap is positive, and the storage holds a record. -/
structure DataStoreConfig.Positive (config : DataStoreConfig) : Prop where
  storage : 1 ≤ DataStore.maxRecordsByStorage config
  records : 1 ≤ config.maxRecordsPerCollection
  collections : 1 ≤ config.maxCollections

namespace DataStore

variable {P : Type}

def updateConfig (patch : ConfigUpdate) (d : DataStore P) : DataStore P :=
  { d with config := d.config.update patch }

/-! ## Evictions -/

/-- Of the records in scope, those that went are no younger than those that stayed. -/
def EvictsOldest (scope : DataRecord P → Prop) (before after : DataStore P) : Prop :=
  ∀ r ∈ before.records.rows, r ∉ after.records.rows →
    scope r ∧ ∀ k ∈ after.records.rows, scope k → r.timestamp ≤ k.timestamp

def byTimestamp (rows : List (DataRecord P)) : List (DataRecord P) :=
  rows.insertionSort fun r s => r.timestamp ≤ s.timestamp

theorem byTimestamp_perm (rows : List (DataRecord P)) : (byTimestamp rows).Perm rows :=
  List.perm_insertionSort _ rows

theorem pairwise_byTimestamp (rows : List (DataRecord P)) :
    (byTimestamp rows).Pairwise fun r s => r.timestamp ≤ s.timestamp := by
  have : Std.Total fun r s : DataRecord P => r.timestamp ≤ s.timestamp :=
    ⟨fun r s => le_total _ _⟩
  have : IsTrans (DataRecord P) fun r s => r.timestamp ≤ s.timestamp := ⟨fun _ _ _ => le_trans⟩
  exact List.pairwise_insertionSort _ rows

theorem distinct_ids (table : Records P) : (table.rows.map DataRecord.id).Nodup := by
  rw [List.nodup_iff_pairwise_ne, List.pairwise_map]
  exact table.ordered.imp fun before => Nat.ne_of_lt before

/-- Deleting the oldest by id leaves the rest of the order. -/
theorem filter_oldest_perm {rows : List (DataRecord P)}
    (distinct : (rows.map DataRecord.id).Nodup) (limit : ℤ) :
    (rows.filter fun r => r.id ∉ oldest rows limit).Perm ((byTimestamp rows).drop limit.toNat) :=
  filter_not_mem_take_perm DataRecord.id (byTimestamp_perm rows) distinct limit.toNat

theorem length_filter_oldest {rows : List (DataRecord P)}
    (distinct : (rows.map DataRecord.id).Nodup) (limit : ℤ) :
    (rows.filter fun r => r.id ∉ oldest rows limit).length = rows.length - limit.toNat := by
  rw [(filter_oldest_perm distinct limit).length_eq, List.length_drop,
    (byTimestamp_perm rows).length_eq]

/-- A deleted row is in front of every row that is left. -/
theorem oldest_le {rows : List (DataRecord P)} (distinct : (rows.map DataRecord.id).Nodup)
    {limit : ℤ} {r k : DataRecord P} (stored : r ∈ rows) (gone : r.id ∈ oldest rows limit)
    (kept : k ∈ rows.filter fun r => r.id ∉ oldest rows limit) : r.timestamp ≤ k.timestamp := by
  have order := pairwise_byTimestamp rows
  rw [← List.take_append_drop limit.toNat (byTimestamp rows)] at order
  have front : r ∈ (byTimestamp rows).take limit.toNat := by
    have placed : r ∈ (byTimestamp rows).take limit.toNat ++ (byTimestamp rows).drop limit.toNat := by
      rw [List.take_append_drop]
      exact (byTimestamp_perm rows).mem_iff.mpr stored
    rcases List.mem_append.mp placed with front | behind
    · exact front
    · have left := (filter_oldest_perm distinct limit).mem_iff.mpr behind
      simp [gone] at left
  have behind := (filter_oldest_perm distinct limit).mem_iff.mp kept
  exact (List.pairwise_append.mp order).2.2 r front k behind

theorem evictGlobal_full {d : DataStore P}
    (full : maxRecordsByStorage d.config ≤ (d.records.rows.length : ℤ)) :
    d.evictGlobal = { d with
      records := d.records.delete
        (oldest d.records.rows (d.records.rows.length - maxRecordsByStorage d.config + 1)) } :=
  if_pos full

theorem evictGlobal_room {d : DataStore P}
    (room : ¬maxRecordsByStorage d.config ≤ (d.records.rows.length : ℤ)) : d.evictGlobal = d :=
  if_neg room

@[simp] theorem config_evictGlobal (d : DataStore P) : d.evictGlobal.config = d.config := by
  unfold evictGlobal
  dsimp only
  split <;> rfl

@[simp] theorem collections_evictGlobal (d : DataStore P) :
    d.evictGlobal.collections = d.collections := by
  unfold evictGlobal
  dsimp only
  split <;> rfl

@[simp] theorem nextId_evictGlobal (d : DataStore P) :
    d.evictGlobal.records.nextId = d.records.nextId := by
  unfold evictGlobal
  dsimp only
  split <;> rfl

/-- The global eviction makes room for one record. -/
theorem length_evictGlobal {d : DataStore P} (storage : 1 ≤ maxRecordsByStorage d.config) :
    (d.evictGlobal.records.rows.length : ℤ) + 1 ≤ maxRecordsByStorage d.config := by
  by_cases full : maxRecordsByStorage d.config ≤ (d.records.rows.length : ℤ)
  · have left := length_filter_oldest (distinct_ids d.records)
      (d.records.rows.length - maxRecordsByStorage d.config + 1)
    rw [evictGlobal_full full]
    change ((d.records.rows.filter _).length : ℤ) + 1 ≤ _
    omega
  · rw [evictGlobal_room full]
    omega

theorem evictGlobal_oldest (d : DataStore P) : EvictsOldest (fun _ => True) d d.evictGlobal := by
  intro r stored gone
  by_cases full : maxRecordsByStorage d.config ≤ (d.records.rows.length : ℤ)
  · rw [evictGlobal_full full] at gone ⊢
    refine ⟨trivial, fun k kept _ => oldest_le (distinct_ids d.records) stored ?_ kept⟩
    by_contra left
    exact gone (List.mem_filter.mpr ⟨stored, by simpa using left⟩)
  · rw [evictGlobal_room full] at gone
    exact absurd stored gone

theorem evictCollection_full {d : DataStore P} {collection : String}
    (full : d.config.maxRecordsPerCollection ≤ ((d.inCollection collection).length : ℤ)) :
    d.evictCollection collection = { d with
      records := d.records.delete (oldest (d.inCollection collection)
        ((d.inCollection collection).length - d.config.maxRecordsPerCollection + 1)) } :=
  if_pos full

theorem evictCollection_room {d : DataStore P} {collection : String}
    (room : ¬d.config.maxRecordsPerCollection ≤ ((d.inCollection collection).length : ℤ)) :
    d.evictCollection collection = d := if_neg room

@[simp] theorem config_evictCollection (collection : String) (d : DataStore P) :
    (d.evictCollection collection).config = d.config := by
  unfold evictCollection
  dsimp only
  split <;> rfl

@[simp] theorem collections_evictCollection (collection : String) (d : DataStore P) :
    (d.evictCollection collection).collections = d.collections := by
  unfold evictCollection
  dsimp only
  split <;> rfl

@[simp] theorem nextId_evictCollection (collection : String) (d : DataStore P) :
    (d.evictCollection collection).records.nextId = d.records.nextId := by
  unfold evictCollection
  dsimp only
  split <;> rfl

theorem length_evictCollection_le (collection : String) (d : DataStore P) :
    (d.evictCollection collection).records.rows.length ≤ d.records.rows.length := by
  unfold evictCollection
  dsimp only
  split
  · exact List.length_filter_le _ _
  · exact Nat.le_refl _

theorem distinct_inCollection (d : DataStore P) (collection : String) :
    ((d.inCollection collection).map DataRecord.id).Nodup :=
  (distinct_ids d.records).sublist (List.filter_sublist.map _)

/-- A deletion seen inside one collection. -/
theorem inCollection_delete (d : DataStore P) (collection : String) (ids : List Nat) :
    inCollection { d with records := d.records.delete ids } collection =
      (d.inCollection collection).filter fun r => r.id ∉ ids := List.filter_comm _ _ _

/-- The eviction from a collection makes room for one record in it. -/
theorem length_inCollection_evictCollection {d : DataStore P} (collection : String)
    (records : 1 ≤ d.config.maxRecordsPerCollection) :
    (((d.evictCollection collection).inCollection collection).length : ℤ) + 1 ≤
      d.config.maxRecordsPerCollection := by
  by_cases full : d.config.maxRecordsPerCollection ≤ ((d.inCollection collection).length : ℤ)
  · have left := length_filter_oldest (distinct_inCollection d collection)
      ((d.inCollection collection).length - d.config.maxRecordsPerCollection + 1)
    rw [evictCollection_full full, inCollection_delete]
    omega
  · rw [evictCollection_room full]
    omega

theorem evictCollection_oldest (collection : String) (d : DataStore P) :
    EvictsOldest (fun r => r.collection = collection) d (d.evictCollection collection) := by
  intro r stored gone
  by_cases full : d.config.maxRecordsPerCollection ≤ ((d.inCollection collection).length : ℤ)
  · rw [evictCollection_full full] at gone ⊢
    have listed : r.id ∈ oldest (d.inCollection collection)
        ((d.inCollection collection).length - d.config.maxRecordsPerCollection + 1) := by
      by_contra left
      exact gone (List.mem_filter.mpr ⟨stored, by simpa using left⟩)
    -- an id of the scope is the id of one of its rows only
    obtain ⟨s, placed, same⟩ := List.mem_map.mp listed
    have inScope : s ∈ d.inCollection collection :=
      (byTimestamp_perm _).mem_iff.mp (List.mem_of_mem_take placed)
    obtain ⟨stored', inside⟩ := List.mem_filter.mp inScope
    obtain rfl := List.inj_on_of_nodup_map (distinct_ids d.records) stored' stored same
    refine ⟨by simpa using inside, fun k kept here => ?_⟩
    apply oldest_le (distinct_inCollection d collection) inScope listed
    rw [← inCollection_delete]
    exact List.mem_filter.mpr ⟨kept, by simpa using here⟩
  · rw [evictCollection_room full] at gone
    exact absurd stored gone

/-! ## The write -/

/-- What a write that returned has left: `before` and `after` the call, with the two states
between which the evictions stand. -/
structure Capped (collection : String) (payload : P) (timestamp : ℤ)
    (before after : DataStore P) : Prop where
  total : (after.records.rows.length : ℤ) ≤ maxRecordsByStorage before.config
  perCollection :
    ((after.inCollection collection).length : ℤ) ≤ before.config.maxRecordsPerCollection
  collections : after.collections = before.collections ∨
    (after.collections.length : ℤ) ≤ before.config.maxCollections
  stored : ⟨before.records.nextId, collection, payload, timestamp⟩ ∈ after.records.rows
  evictedGlobally : EvictsOldest (fun _ => True) before before.evictGlobal
  evictedInCollection : ∀ made, autoCreate collection before.evictGlobal = (.ok ⟨⟩, made) →
    EvictsOldest (fun r => r.collection = collection) made (made.evictCollection collection)
  /-- nothing else takes a record away -/
  removed : ∀ r ∈ before.records.rows, r ∉ after.records.rows →
    r ∉ before.evictGlobal.records.rows ∨
      ∃ made, autoCreate collection before.evictGlobal = (.ok ⟨⟩, made) ∧
        r ∈ made.records.rows ∧ r ∉ (made.evictCollection collection).records.rows

theorem autoCreate_ok {d made : DataStore P} {collection : String}
    (returned : autoCreate collection d = (.ok ⟨⟩, made)) :
    made.records = d.records ∧ made.config = d.config ∧
      (made.collections = d.collections ∨
        (made.collections.length : ℤ) ≤ d.config.maxCollections) := by
  unfold autoCreate at returned
  split at returned
  · cases returned
    exact ⟨rfl, rfl, Or.inl rfl⟩
  · split at returned
    · cases returned
    · rename_i room
      cases returned
      refine ⟨rfl, rfl, Or.inr ?_⟩
      rw [List.length_append, List.length_singleton]
      omega

/-- The states a write that returned went through. -/
theorem write_ok {d d' : DataStore P} {collection : String} {payload : P} {timestamp : ℤ}
    (returned : write collection payload timestamp d = (.ok ⟨⟩, d')) :
    ∃ made, autoCreate collection d.evictGlobal = (.ok ⟨⟩, made) ∧
      d' = (made.evictCollection collection).insert collection payload timestamp := by
  obtain ⟨config, s, asked, rest⟩ := bind_ok returned
  cases asked
  obtain ⟨_, -, rest⟩ := check_ok rest
  obtain ⟨_, s, evicted, rest⟩ := bind_ok rest
  cases evicted
  obtain ⟨_, made, created, rest⟩ := bind_ok rest
  cases rest
  exact ⟨made, created, rfl⟩

theorem write_capped {d d' : DataStore P} (positive : d.config.Positive) {collection : String}
    {payload : P} {timestamp : ℤ}
    (returned : write collection payload timestamp d = (.ok ⟨⟩, d')) :
    Capped collection payload timestamp d d' := by
  obtain ⟨made, created, rfl⟩ := write_ok returned
  obtain ⟨records, config, collections⟩ := autoCreate_ok created
  rw [config_evictGlobal] at config collections
  rw [collections_evictGlobal] at collections
  have total := length_evictGlobal positive.storage
  rw [← records] at total
  have fewer := length_evictCollection_le collection made
  have perCollection := length_inCollection_evictCollection collection (d := made) (by
    rw [config]
    exact positive.records)
  rw [config] at perCollection
  refine ⟨?_, ?_, ?_, ?_, evictGlobal_oldest d, ?_, ?_⟩
  · change (((made.evictCollection collection).records.rows ++ [_]).length : ℤ) ≤ _
    rw [List.length_append, List.length_singleton]
    omega
  · have one : ((made.evictCollection collection).insert collection payload timestamp).inCollection
        collection = (made.evictCollection collection).inCollection collection ++
          [⟨(made.evictCollection collection).records.nextId, collection, payload, timestamp⟩] := by
      simp [inCollection, insert, Records.insert]
    rw [one, List.length_append, List.length_singleton]
    omega
  · simpa [insert] using collections
  · have next : (made.evictCollection collection).records.nextId = d.records.nextId := by
      rw [nextId_evictCollection, records, nextId_evictGlobal]
    rw [← next]
    exact List.mem_append_right _ (List.mem_singleton_self _)
  · intro made' _
    exact evictCollection_oldest collection made'
  · intro r _ gone
    by_cases kept : r ∈ d.evictGlobal.records.rows
    · refine Or.inr ⟨made, created, ?_, fun left => gone (List.mem_append_left _ left)⟩
      rw [records]
      exact kept
    · exact Or.inl kept

/-! ## Runs -/

inductive StoreEvent (P : Type) where
  | write (collection : String) (payload : P) (timestamp : ℤ)
  | updateConfig (patch : ConfigUpdate)

def step (d : DataStore P) : StoreEvent P → DataStore P
  | .write collection payload timestamp => (write collection payload timestamp d).2
  | .updateConfig patch => d.updateConfig patch

/-- An update keeps the caps positive. -/
def KeepsPositive (d : DataStore P) : StoreEvent P → Prop
  | .write .. => True
  | .updateConfig patch => (d.config.update patch).Positive

/-- A write that returns is within the caps. -/
def CappedAt (d : DataStore P) : StoreEvent P → Prop
  | .write collection payload timestamp => ∀ d', write collection payload timestamp d = (.ok ⟨⟩, d') →
      Capped collection payload timestamp d d'
  | .updateConfig _ => True

theorem config_write (collection : String) (payload : P) (timestamp : ℤ) (d : DataStore P) :
    (write collection payload timestamp d).2.config = d.config := by
  suffices kept : Preserves (fun e : DataStore P => e.config = d.config)
      (write collection payload timestamp) from kept d rfl
  refine (readOnly_asks _).preserves.bind fun config => ?_
  refine (readOnly_check _).preserves.bind fun _ => ?_
  refine Preserves.bind (preserves_modify fun e same => by simpa using same) fun _ => ?_
  refine Preserves.bind (fun e same => ?_) fun _ => ?_
  · unfold autoCreate
    split <;> [exact same; split <;> exact same]
  refine Preserves.bind (preserves_modify fun e same => by simpa using same) fun _ => ?_
  exact preserves_modify fun e same => same

theorem step_positive (d : DataStore P) (event : StoreEvent P) (positive : d.config.Positive)
    (keeps : KeepsPositive d event) : (step d event).config.Positive := by
  cases event with
  | write collection payload timestamp =>
      change (write collection payload timestamp d).2.config.Positive
      rw [config_write]
      exact positive
  | updateConfig patch => exact keeps

/-- **The caps.**  From any store, over writes and updates in any order: every write that
returns is within the caps of its moment, has stored its record, and has evicted the oldest. -/
theorem caps_along {d : DataStore P} (positive : d.config.Positive) {events : List (StoreEvent P)}
    (keeps : Along step KeepsPositive d events) : Along step CappedAt d events := by
  refine Along.gives step_positive (fun d event positive _ => ?_) positive keeps
  cases event with
  | write collection payload timestamp => exact fun d' returned => write_capped positive returned
  | updateConfig patch => trivial

/-! ## References -/

/-- `REFERENCES ds_collections(name)`: every record is in a collection that is there. -/
def Referenced (d : DataStore P) : Prop := ∀ r ∈ d.records.rows, r.collection ∈ d.collections

theorem referenced_write {d : DataStore P} (referenced : Referenced d) (collection : String)
    (payload : P) (timestamp : ℤ) : Referenced (write collection payload timestamp d).2 := by
  have evicted : Referenced d.evictGlobal := by
    intro r member
    rw [collections_evictGlobal]
    exact referenced r (mem_evictGlobal member)
  cases outcome : write collection payload timestamp d with
  | mk result d' =>
  cases result with
  | ok _ =>
      obtain ⟨made, created, rfl⟩ := write_ok outcome
      obtain ⟨records, -, -⟩ := autoCreate_ok created
      obtain ⟨kept, here⟩ : (∀ name ∈ d.evictGlobal.collections, name ∈ made.collections) ∧
          collection ∈ made.collections := by
        unfold autoCreate at created
        split at created
        · rename_i there
          cases created
          exact ⟨fun name => id, there⟩
        · split at created
          · cases created
          · cases created
            exact ⟨fun name => List.mem_append_left _, List.mem_append_right _ (by simp)⟩
      intro r member
      change r.collection ∈ (made.evictCollection collection).collections
      rw [collections_evictCollection]
      rcases List.mem_append.mp member with old | new
      · have stored := mem_evictCollection old
        rw [records] at stored
        exact kept _ (evicted r stored)
      · rw [List.mem_singleton.mp new]
        exact here
  | error e =>
      have threw : (check (admits d.config) >>= fun _ => do
          modify evictGlobal
          autoCreate collection
          modify (evictCollection collection)
          modify (insert collection payload timestamp) :
            Handler DataStoreError (DataStore P) PUnit) d = (.error e, d') := outcome
      rcases bind_error threw with refused | ⟨_, s, passed, rest⟩
      · rw [(readOnly_check _).store_eq refused]
        exact referenced
      rw [(readOnly_check _).store_eq passed] at rest
      rcases bind_error rest with never | ⟨_, s, here, rest⟩
      · exact absurd never (total_modify _ _ _ _)
      cases here
      rcases bind_error rest with limit | ⟨_, made, _, rest⟩
      · unfold autoCreate at limit
        split at limit
        · cases limit
        · split at limit <;> cases limit
          exact evicted
      · exact absurd rest (Total.bind (total_modify _) (fun _ => total_modify _) _ _ _)

/-- References hold in every store that writes and updates lead to. -/
theorem referenced_run {d : DataStore P} (referenced : Referenced d)
    (events : List (StoreEvent P)) : Referenced (run step d events) := by
  refine run_invariant (fun d event referenced => ?_) referenced events
  cases event with
  | write collection payload timestamp => exact referenced_write referenced collection payload timestamp
  | updateConfig patch => exact referenced

/-! ## The default configuration -/

/-- `DEFAULT_CONFIG`, enabled. -/
def defaultStore : DataStore String := { config := ⟨true, 500, 100000, 50⟩ }

theorem positive_defaultStore : defaultStore.config.Positive := by
  refine ⟨?_, by decide, by decide⟩
  apply Int.le_floor.mpr
  norm_num [defaultStore]

theorem positive_oneMegabyte :
    (defaultStore.config.update { maxStorageMb := some 1 }).Positive := by
  refine ⟨?_, by decide, by decide⟩
  apply Int.le_floor.mpr
  norm_num [DataStoreConfig.update]

/-- Two readings, the older one stored last, and a smaller budget between them. -/
theorem caps_along_default : Along step CappedAt defaultStore
    [.write "power" "40 W" 200, .updateConfig { maxStorageMb := some 1 },
      .write "power" "38 W" 100] := by
  apply caps_along positive_defaultStore
  refine ⟨trivial, ?_, trivial, trivial⟩
  change ((write "power" "40 W" 200 defaultStore).2.config.update _).Positive
  rw [config_write]
  exact positive_oneMegabyte

end DataStore

end Aeolus.Storage
