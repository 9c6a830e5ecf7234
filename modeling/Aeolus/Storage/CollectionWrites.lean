/-
# Aeolus.Storage.CollectionWrites — a write, with whatever it may be given

`write` of `src/data-store/data-store.ts` before its arguments are known to be good.  A
payload may have no JSON text, a timestamp may be text or nothing the driver can bind, and
most of that is found out only at the insertion, after the evictions and after the
collection was made.

`DataStore` is the same store where every timestamp is an integer; `write_integral` says
that its write is this one.
-/
import Aeolus.Storage.DataStore
import Aeolus.Storage.DataStoreQuery

namespace Aeolus.Storage

open Aeolus.Core Aeolus.Theory Aeolus.Theory.Handler

/-! ## Values of a column -/

/-- The order of a column: nothing comes first, then the numbers, then the texts. -/
def SqlValue.le : SqlValue → SqlValue → Bool
  | .null, _ => true
  | _, .null => false
  | .text a, .text b => a ≤ b
  | .text _, _ => false
  | _, .text _ => true
  | .integer a, .integer b => a ≤ b
  | .integer a, .real b => (a : ℚ) ≤ b
  | .real a, .integer b => a ≤ (b : ℚ)
  | .real a, .real b => a ≤ b

/-! ## Arguments -/

/-- What a caller hands over as payload or tags. -/
inductive WriteValue where
  | json (value : Json)
  /-- a function, or `undefined`: it has no text -/
  | textless
  /-- a cycle, a `BigInt`: `JSON.stringify` throws -/
  | unserializable (message : String)

/-- `JSON.stringify(value)`; a text stands as the value it denotes. -/
def stringify : WriteValue → Except String (Option Json)
  | .json value => .ok (some value)
  | .textless => .ok none
  | .unserializable message => .error message

structure WriteCall where
  collection : String
  payload : WriteValue
  /-- `options?.tags` -/
  tags : Option WriteValue := none
  /-- `options?.timestamp` -/
  timestamp : Option Argument := none

inductive WriteError where
  | store (error : DataStoreError)
  | payload (message : String)
  | tags (message : String)
  | unbindable (error : QueryError)
  /-- more or fewer values than the statement has parameters -/
  | parameterCount
  | notNull (column : String)

/-- What a write calls and does not define. -/
structure WritePlatform where
  /-- what a column declared `INTEGER` makes of a value -/
  integerAffinity : SqlValue → SqlValue

/-! ## The store -/

/-- A row of `ds_records`. -/
structure StoredRow where
  id : Nat
  collection : String
  payload : Json
  tags : Json
  timestamp : SqlValue

structure CollectionStore where
  config : DataStoreConfig
  collections : List String := []
  rows : List StoredRow := []
  nextId : Nat := 1

namespace CollectionStore

/-- `SELECT id … ORDER BY timestamp ASC … LIMIT ?` -/
def oldest (rows : List StoredRow) (limit : ℤ) : List Nat :=
  ((rows.insertionSort fun r s => r.timestamp.le s.timestamp).take limit.toNat).map StoredRow.id

/-- `DELETE FROM ds_records WHERE id IN (…)` -/
def delete (s : CollectionStore) (ids : List Nat) : CollectionStore :=
  { s with rows := s.rows.filter fun r => r.id ∉ ids }

def inCollection (s : CollectionStore) (collection : String) : List StoredRow :=
  s.rows.filter fun r => r.collection = collection

def evictGlobal (s : CollectionStore) : CollectionStore :=
  let totalRecords : ℤ := s.rows.length
  if DataStore.maxRecordsByStorage s.config ≤ totalRecords then
    let evictCount := totalRecords - DataStore.maxRecordsByStorage s.config + 1
    s.delete (oldest s.rows evictCount)
  else s

def evictCollection (collection : String) (s : CollectionStore) : CollectionStore :=
  let currentCount : ℤ := (s.inCollection collection).length
  if s.config.maxRecordsPerCollection ≤ currentCount then
    let excess := currentCount - s.config.maxRecordsPerCollection + 1
    s.delete (oldest (s.inCollection collection) excess)
  else s

def autoCreate (collection : String) : Handler WriteError CollectionStore PUnit := fun s =>
  if collection ∈ s.collections then (.ok ⟨⟩, s)
  else if s.config.maxCollections ≤ s.collections.length then
    (.error (.store (.maxCollections s.collections.length s.config.maxCollections)), s)
  else (.ok ⟨⟩, { s with collections := s.collections ++ [collection] })

/-- What is checked before anything is evicted, with the text of the payload. -/
def accept (config : DataStoreConfig) (call : WriteCall) : Except WriteError (Option Json) :=
  if config.enabled = false then .error (.store .notEnabled)
  else
    match stringify call.payload with
    | .error message => .error (.payload message)
    | .ok payloadJson =>
        if DataStore.maxRecordsByStorage config < 1 then
          .error (.store (.storageLimit config.maxStorageMb))
        else .ok payloadJson

/-- `options?.tags ?? {}` -/
def tagsOf (call : WriteCall) : WriteValue :=
  match call.tags with
  | none => .json (.obj [])
  | some (.json .null) => .json (.obj [])
  | some given => given

/-- `options?.timestamp ?? Date.now()` -/
def timestampOf (now : ℤ) (call : WriteCall) : Argument :=
  match call.timestamp with
  | none => .json (.num now)
  | some (.json .null) => .json (.num now)
  | some given => given

/-- The values of the new row.  Every column is `NOT NULL`, and one parameter is left for the
timestamp. -/
def rowValues (platform : WritePlatform) (now : ℤ) (call : WriteCall)
    (payloadJson : Option Json) : Except WriteError (Json × Json × SqlValue) :=
  match stringify (tagsOf call) with
  | .error message => .error (.tags message)
  | .ok tagsJson =>
      match Driver.bindArgument (timestampOf now call) with
      | .error error => .error (.unbindable error)
      | .ok [timestamp] =>
          match payloadJson, tagsJson, platform.integerAffinity timestamp with
          | none, _, _ => .error (.notNull "payload")
          | some _, none, _ => .error (.notNull "tags")
          | some _, some _, .null => .error (.notNull "timestamp")
          | some payload, some tags, stored => .ok (payload, tags, stored)
      | .ok _ => .error .parameterCount

def insert (collection : String) (values : Json × Json × SqlValue) (s : CollectionStore) :
    CollectionStore :=
  { s with
    rows := s.rows ++ [⟨s.nextId, collection, values.1, values.2.1, values.2.2⟩]
    nextId := s.nextId + 1 }

def write (platform : WritePlatform) (now : ℤ) (call : WriteCall) :
    Handler WriteError CollectionStore PUnit := do
  let config ← asks CollectionStore.config
  let payloadJson ← check (accept config call)
  modify evictGlobal
  autoCreate call.collection
  modify (evictCollection call.collection)
  let values ← check (rowValues platform now call payloadJson)
  modify (insert call.collection values)

/-! ## Integer timestamps -/

def rowOf (r : DataRecord (Json × Json)) : StoredRow :=
  ⟨r.id, r.collection, r.payload.1, r.payload.2, .integer r.timestamp⟩

/-- A store whose records carry payload and tags, with every timestamp an integer. -/
def ofDataStore (d : DataStore (Json × Json)) : CollectionStore where
  config := d.config
  collections := d.collections
  rows := d.records.rows.map rowOf
  nextId := d.records.nextId

theorem oldest_map (rows : List (DataRecord (Json × Json))) (limit : ℤ) :
    oldest (rows.map rowOf) limit = DataStore.oldest rows limit := by
  have sorted := List.map_insertionSort (fun r s => r.timestamp ≤ s.timestamp)
    (fun r s : StoredRow => r.timestamp.le s.timestamp) rowOf rows
    (fun r _ s _ => by simp [rowOf, SqlValue.le])
  unfold oldest DataStore.oldest
  rw [← sorted, ← List.map_take, List.map_map]
  rfl

theorem delete_ofDataStore (d : DataStore (Json × Json)) (ids : List Nat) :
    (ofDataStore d).delete ids = ofDataStore { d with records := d.records.delete ids } := by
  simp only [delete, ofDataStore, Records.delete, List.filter_map]
  rfl

theorem inCollection_ofDataStore (d : DataStore (Json × Json)) (collection : String) :
    (ofDataStore d).inCollection collection = (d.inCollection collection).map rowOf := by
  simp only [inCollection, ofDataStore, DataStore.inCollection, List.filter_map]
  rfl

theorem evictGlobal_ofDataStore (d : DataStore (Json × Json)) :
    (ofDataStore d).evictGlobal = ofDataStore d.evictGlobal := by
  have config : (ofDataStore d).config = d.config := rfl
  have length : (ofDataStore d).rows.length = d.records.rows.length := List.length_map _
  unfold evictGlobal DataStore.evictGlobal
  dsimp only
  rw [config, length]
  split
  · rw [delete_ofDataStore, ← oldest_map]
    rfl
  · rfl

theorem evictCollection_ofDataStore (collection : String) (d : DataStore (Json × Json)) :
    (ofDataStore d).evictCollection collection = ofDataStore (d.evictCollection collection) := by
  have config : (ofDataStore d).config = d.config := rfl
  unfold evictCollection DataStore.evictCollection
  dsimp only
  rw [inCollection_ofDataStore, List.length_map, config]
  split
  · rw [delete_ofDataStore, ← oldest_map]
  · rfl

theorem insert_ofDataStore (collection : String) (payload tags : Json) (timestamp : ℤ)
    (d : DataStore (Json × Json)) :
    (ofDataStore d).insert collection (payload, tags, .integer timestamp) =
      ofDataStore (d.insert collection (payload, tags) timestamp) := by
  simp only [insert, ofDataStore, DataStore.insert, Records.insert, List.map_append]
  rfl

theorem autoCreate_ofDataStore (collection : String) (d : DataStore (Json × Json)) :
    autoCreate collection (ofDataStore d) =
      ((DataStore.autoCreate collection d).1.mapError .store,
        ofDataStore (DataStore.autoCreate collection d).2) := by
  have collections : (ofDataStore d).collections = d.collections := rfl
  have config : (ofDataStore d).config = d.config := rfl
  unfold autoCreate DataStore.autoCreate
  rw [collections, config]
  by_cases there : collection ∈ d.collections
  · rw [if_pos there, if_pos there]
    rfl
  · rw [if_neg there, if_neg there]
    split <;> rfl

theorem accept_ofDataStore (config : DataStoreConfig) (collection : String) (payload : Json)
    (tags : Option WriteValue) (timestamp : Option Argument) :
    accept config ⟨collection, .json payload, tags, timestamp⟩ =
      ((DataStore.admits config).mapError .store).map fun _ => some payload := by
  unfold accept DataStore.admits
  simp only [stringify]
  split
  · rfl
  · split <;> rfl

/-- **Good arguments.**  A write of JSON under tags and an integer timestamp does what the
write of `DataStore` does. -/
theorem write_integral (platform : WritePlatform) {timestamp : ℤ}
    (converts : platform.integerAffinity (.real timestamp) = .integer timestamp) (now : ℤ)
    (collection : String) (payload : Json) (tags : List (String × Json))
    (d : DataStore (Json × Json)) :
    write platform now
        ⟨collection, .json payload, some (.json (.obj tags)), some (.json (.num timestamp))⟩
        (ofDataStore d) =
      ((DataStore.write collection (payload, .obj tags) timestamp d).1.mapError .store,
        ofDataStore (DataStore.write collection (payload, .obj tags) timestamp d).2) := by
  have values : rowValues platform now
      ⟨collection, .json payload, some (.json (.obj tags)), some (.json (.num timestamp))⟩
        (some payload) = .ok (payload, .obj tags, .integer timestamp) := by
    simp only [rowValues, tagsOf, stringify, timestampOf, Driver.bindArgument, Driver.bindValue,
      Except.map, converts]
  simp only [write, DataStore.write, bind_apply, asks_apply, check, modify_apply]
  rw [show (ofDataStore d).config = d.config from rfl, accept_ofDataStore]
  cases DataStore.admits d.config with
  | error e => rfl
  | ok _ =>
      simp only [Except.mapError, Except.map]
      rw [evictGlobal_ofDataStore, autoCreate_ofDataStore]
      rcases DataStore.autoCreate collection d.evictGlobal with ⟨e | _, made⟩
      · rfl
      · simp only [Except.mapError]
        rw [evictCollection_ofDataStore, values]
        simp only [insert_ofDataStore]

/-- A store that keeps one record of a collection, and has it. -/
def hallStore : DataStore (Json × Json) where
  config := ⟨true, 1, 1, 10⟩
  collections := ["lamps"]
  records :=
    { rows := [⟨1, "lamps", (.bool false, .obj [("room", .str "hall")]), 5⟩]
      nextId := 2 }

theorem hallStore_evicts (payload : Json × Json) (timestamp : ℤ) :
    (DataStore.write "lamps" payload timestamp hallStore).2.records.rows =
      [⟨2, "lamps", payload, timestamp⟩] := by
  have budget : DataStore.maxRecordsByStorage ⟨true, 1, 1, 10⟩ = 5242 := by
    unfold DataStore.maxRecordsByStorage
    rw [Int.floor_eq_iff]
    norm_num
  simp [DataStore.write, bind_apply, check, DataStore.admits, DataStore.evictGlobal,
    DataStore.autoCreate, DataStore.evictCollection, DataStore.inCollection, DataStore.oldest,
    DataStore.insert, Records.delete, Records.insert, hallStore, budget]

/-- The new record takes the place of the old one in both. -/
theorem write_integral_evicts :
    let platform : WritePlatform := ⟨fun
      | .real value => .integer ⌊value⌋
      | value => value⟩
    let tags : List (String × Json) := [("room", .str "hall")]
    let after := (DataStore.write "lamps" (.bool true, .obj tags) 7 hallStore).2
    after.records.rows = [⟨2, "lamps", (.bool true, .obj tags), 7⟩] ∧
      (write platform 0 ⟨"lamps", .json (.bool true), some (.json (.obj tags)),
        some (.json (.num (7 : ℤ)))⟩ (ofDataStore hallStore)).2 = ofDataStore after :=
  ⟨hallStore_evicts _ _,
    congrArg Prod.snd (write_integral _ (congrArg _ (Int.floor_intCast 7)) 0 _ _ _ hallStore)⟩

end CollectionStore

end Aeolus.Storage
