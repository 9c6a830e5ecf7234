/-
# Aeolus.Storage.DataStore — bounded collections of timestamped records

The tables `ds_collections` and `ds_records` of `src/data-store/data-store.ts`, and the
writes on them.  A write makes room first: over the storage budget the oldest records of
all collections go, over the record limit the oldest of the collection, and neither is
undone when the write then fails.

Ids only grow, so the records of a table are told apart by them; `Records` carries that.
The payload stays a parameter, since no statement here looks inside one.
-/
import Mathlib
import Aeolus.Theory.Transaction

namespace Aeolus.Storage

open Aeolus.Theory Aeolus.Theory.Handler

/-! ## Records -/

structure DataRecord (P : Type) where
  id : Nat
  collection : String
  payload : P
  timestamp : ℤ
  deriving DecidableEq

/-- The rows of `ds_records`, by id.  `AUTOINCREMENT` gives no id twice. -/
structure Records (P : Type) where
  rows : List (DataRecord P) := []
  nextId : Nat := 1
  ordered : rows.Pairwise fun r s => r.id < s.id := by simp
  bounded : ∀ r ∈ rows, r.id < nextId := by simp

namespace Records

variable {P : Type}

/-- `DELETE FROM ds_records WHERE id IN (…)` -/
def delete (table : Records P) (ids : List Nat) : Records P where
  rows := table.rows.filter fun r => r.id ∉ ids
  nextId := table.nextId
  ordered := table.ordered.filter _
  bounded r member := table.bounded r (List.mem_of_mem_filter member)

def insert (table : Records P) (collection : String) (payload : P) (timestamp : ℤ) :
    Records P where
  rows := table.rows ++ [⟨table.nextId, collection, payload, timestamp⟩]
  nextId := table.nextId + 1
  ordered := by
    refine List.pairwise_append.mpr ⟨table.ordered, List.pairwise_singleton _ _, ?_⟩
    intro r member s new
    rw [List.mem_singleton.mp new]
    exact table.bounded r member
  bounded r member := by
    rcases List.mem_append.mp member with old | new
    · exact Nat.lt_succ_of_lt (table.bounded r old)
    · rw [List.mem_singleton.mp new]
      exact Nat.lt_succ_self _

theorem nodup (table : Records P) : table.rows.Nodup := by
  refine table.ordered.imp fun {r s} before => ?_
  rintro rfl
  exact Nat.lt_irrefl _ before

theorem mem_delete {table : Records P} {ids : List Nat} {r : DataRecord P}
    (member : r ∈ (table.delete ids).rows) : r ∈ table.rows := List.mem_of_mem_filter member

end Records

/-! ## The store -/

structure DataStoreConfig where
  enabled : Bool
  maxStorageMb : ℚ
  maxRecordsPerCollection : ℤ
  maxCollections : ℤ

structure DataStore (P : Type) where
  config : DataStoreConfig
  /-- the names in `ds_collections` -/
  collections : List String := []
  records : Records P := {}

inductive DataStoreError where
  | notEnabled
  /-- a budget that cannot hold one record -/
  | storageLimit (maxStorageMb : ℚ)
  | maxCollections (count : Nat) (limit : ℤ)
  /-- `ds_collections.name` is a primary key -/
  | collectionExists (name : String)

namespace DataStore

variable {P : Type}

def isEnabled (d : DataStore P) : Bool := d.config.enabled

/-- `SELECT id … ORDER BY timestamp ASC LIMIT ?`.  Of two records as old as each other the one
stored first goes first: over the storage budget the statement adds `id ASC`, over the limit
of a collection it reads the index on `(collection, timestamp)`, which has ties by id. -/
def oldest (rows : List (DataRecord P)) (limit : ℤ) : List Nat :=
  ((rows.insertionSort fun r s => r.timestamp ≤ s.timestamp).take limit.toNat).map DataRecord.id

def maxRecordsByStorage (config : DataStoreConfig) : ℤ := ⌊config.maxStorageMb * 1024 * 1024 / 200⌋

def inCollection (d : DataStore P) (collection : String) : List (DataRecord P) :=
  d.records.rows.filter fun r => r.collection = collection

/-- Evict over the global budget. -/
def evictGlobal (d : DataStore P) : DataStore P :=
  let totalRecords : ℤ := d.records.rows.length
  if maxRecordsByStorage d.config ≤ totalRecords then
    let evictCount := totalRecords - maxRecordsByStorage d.config + 1
    { d with records := d.records.delete (oldest d.records.rows evictCount) }
  else d

/-- Evict over the limit of a collection. -/
def evictCollection (collection : String) (d : DataStore P) : DataStore P :=
  let currentCount : ℤ := (d.inCollection collection).length
  if d.config.maxRecordsPerCollection ≤ currentCount then
    let excess := currentCount - d.config.maxRecordsPerCollection + 1
    { d with records := d.records.delete (oldest (d.inCollection collection) excess) }
  else d

/-- The collection a write goes to, made if it is not there. -/
def autoCreate (collection : String) : Handler DataStoreError (DataStore P) PUnit := fun d =>
  if collection ∈ d.collections then (.ok ⟨⟩, d)
  else if d.config.maxCollections ≤ d.collections.length then
    (.error (.maxCollections d.collections.length d.config.maxCollections), d)
  else (.ok ⟨⟩, { d with collections := d.collections ++ [collection] })

def insert (collection : String) (payload : P) (timestamp : ℤ) (d : DataStore P) : DataStore P :=
  { d with records := d.records.insert collection payload timestamp }

/-- What is checked before anything is evicted. -/
def admits (config : DataStoreConfig) : Except DataStoreError PUnit :=
  if config.enabled = false then .error .notEnabled
  else if maxRecordsByStorage config < 1 then .error (.storageLimit config.maxStorageMb)
  else .ok ⟨⟩

def write (collection : String) (payload : P) (timestamp : ℤ) :
    Handler DataStoreError (DataStore P) PUnit := do
  let config ← asks DataStore.config
  check (admits config)
  modify evictGlobal
  autoCreate collection
  modify (evictCollection collection)
  modify (insert collection payload timestamp)

def createCollection (name : String) : Handler DataStoreError (DataStore P) PUnit := fun d =>
  if d.config.maxCollections ≤ d.collections.length then
    (.error (.maxCollections d.collections.length d.config.maxCollections), d)
  else if name ∈ d.collections then
    (.error (.collectionExists name), d)
  else (.ok ⟨⟩, { d with collections := d.collections ++ [name] })

/-- `query(collection, { from, to })`: both ends are in the range, and the newest comes first. -/
def queryRange (d : DataStore P) (collection : String) (lower upper : ℚ) : List (DataRecord P) :=
  if collection ∈ d.collections then
    (d.records.rows.filter fun r =>
      r.collection = collection ∧ lower ≤ r.timestamp ∧ r.timestamp ≤ upper).insertionSort
        fun r s => s.timestamp ≤ r.timestamp
  else []

/-! ## What the operations do to the records -/

theorem mem_queryRange {d : DataStore P} {collection : String} {lower upper : ℚ}
    {r : DataRecord P} (member : r ∈ d.queryRange collection lower upper) :
    r ∈ d.records.rows ∧ r.collection = collection ∧ lower ≤ r.timestamp ∧
      r.timestamp ≤ upper := by
  unfold queryRange at member
  split at member
  · simpa using member
  · cases member

theorem nodup_queryRange (d : DataStore P) (collection : String) (lower upper : ℚ) :
    (d.queryRange collection lower upper).Nodup := by
  unfold queryRange
  split
  · exact (List.perm_insertionSort _ _).nodup_iff.mpr (d.records.nodup.filter _)
  · exact List.nodup_nil

theorem mem_evictGlobal {d : DataStore P} {r : DataRecord P}
    (member : r ∈ d.evictGlobal.records.rows) : r ∈ d.records.rows := by
  unfold evictGlobal at member
  dsimp only at member
  split at member
  · exact Records.mem_delete member
  · exact member

theorem mem_evictCollection {d : DataStore P} {collection : String} {r : DataRecord P}
    (member : r ∈ (d.evictCollection collection).records.rows) : r ∈ d.records.rows := by
  unfold evictCollection at member
  dsimp only at member
  split at member
  · exact Records.mem_delete member
  · exact member

/-- A write stores its own record only. -/
theorem mem_write {d : DataStore P} {collection : String} {payload : P} {timestamp : ℤ}
    {r : DataRecord P} (member : r ∈ (write collection payload timestamp d).2.records.rows) :
    r ∈ d.records.rows ∨
      r.collection = collection ∧ r.payload = payload ∧ r.timestamp = timestamp := by
  suffices kept : Preserves (fun e : DataStore P => ∀ r ∈ e.records.rows, r ∈ d.records.rows ∨
      r.collection = collection ∧ r.payload = payload ∧ r.timestamp = timestamp)
      (write collection payload timestamp) from kept d (fun _ old => Or.inl old) r member
  refine (readOnly_asks _).preserves.bind fun config => ?_
  refine (readOnly_check _).preserves.bind fun _ => ?_
  refine Preserves.bind (preserves_modify fun e before r old => before r (mem_evictGlobal old))
    fun _ => ?_
  refine Preserves.bind (fun e before => ?_) fun _ => ?_
  · unfold autoCreate
    split <;> [exact before; split <;> exact before]
  refine Preserves.bind
    (preserves_modify fun e before r old => before r (mem_evictCollection old)) fun _ => ?_
  refine preserves_modify fun e before r old => ?_
  rcases List.mem_append.mp old with there | new
  · exact before r there
  · rw [List.mem_singleton.mp new]
    exact Or.inr ⟨rfl, rfl, rfl⟩

end DataStore

end Aeolus.Storage
