/-
# Aeolus.Automations.AutomationStateStore — three copies of one map

`src/automations/automation-state-store.ts`.  A rule's values are in the table
`automation_state` as texts, in `serialized` as the same texts, and in `cache` as they were
given or parsed.  `set` compares its text with the second copy and writes to all three;
`delete` asks the table what it has deleted.

The three agree in every state that sets, deletions and loads lead to (`Coherent`), so `set`
and `delete` answer what happened to the table, and loading again changes nothing that is
read (`store_coherent`).
-/
import Aeolus.Core.JsonText
import Aeolus.Theory.NestedMap
import Aeolus.Theory.Run

namespace Aeolus.Automations

open Aeolus.Core Aeolus.Theory
open JsonText (NumberText)

/-- What `set` is given: a value of JSON, or one that has no text. -/
inductive StateValue where
  | json (value : Json) (distinct : value.Distinct)
  /-- `JSON.stringify` throws -/
  | cyclic
  /-- `JSON.stringify` answers `undefined` -/
  | unrepresented

/-- `table` has the column `value` of `automation_state`, under its primary key. -/
structure AutomationStateStore where
  cache : NestedMap String String Json := .empty
  serialized : NestedMap String String String := .empty
  table : OrderedMap (String × String) String := .empty

namespace AutomationStateStore

-- `scan` is the order in which SQLite answers a `SELECT` without `ORDER BY`
variable (numbers : NumberText)
  (scan : List ((String × String) × String) → List ((String × String) × String))

/-- One row of `loadFromDb`; a row that does not parse is skipped. -/
def loadRow (store : AutomationStateStore) (row : (String × String) × String) :
    AutomationStateStore :=
  match JsonText.parse numbers row.2 with
  | none => store
  | some parsed =>
      { store with
        cache := store.cache.put row.1.1 row.1.2 parsed
        serialized := store.serialized.put row.1.1 row.1.2 row.2 }

def loadFromDb (store : AutomationStateStore) : AutomationStateStore :=
  (scan store.table.entries).foldl (loadRow numbers) { table := store.table }

def get (store : AutomationStateStore) (ruleId key : String) : Option Json :=
  store.cache.look ruleId key

def getAll (store : AutomationStateStore) (ruleId : String) : JsonObject :=
  match store.cache.get ruleId with
  | none => .empty
  | some ruleMap => ruleMap

/-- The answer says whether the row has changed. -/
def set (store : AutomationStateStore) (ruleId key : String) :
    StateValue → Bool × AutomationStateStore
  | .cyclic => (false, store)
  | .unrepresented => (false, store)
  | .json value _ =>
      let serialized := JsonText.stringify numbers value
      if store.serialized.look ruleId key = some serialized then (false, store)
      else
        (true,
          { table := store.table.set (ruleId, key) serialized
            cache := store.cache.put ruleId key value
            serialized := store.serialized.put ruleId key serialized })

/-- The answer says whether a row was deleted. -/
def delete (store : AutomationStateStore) (ruleId key : String) : Bool × AutomationStateStore :=
  let table := store.table.delete (ruleId, key)
  let changes := store.table.size - table.size
  (changes > 0,
    { table
      cache := store.cache.remove ruleId key
      serialized := store.serialized.remove ruleId key })

/-- `DELETE FROM automation_state WHERE rule_id = ?` -/
def rowsOfOthers (ruleId : String) (table : OrderedMap (String × String) String) :
    OrderedMap (String × String) String where
  entries := table.entries.filter fun row => row.1.1 ≠ ruleId
  nodup := table.nodup.sublist (List.filter_sublist.map Prod.fst)

def deleteAll (store : AutomationStateStore) (ruleId : String) : AutomationStateStore where
  table := rowsOfOthers ruleId store.table
  cache := OrderedMap.delete store.cache ruleId
  serialized := OrderedMap.delete store.serialized ruleId

inductive Event where
  | set (ruleId key : String) (value : StateValue)
  | delete (ruleId key : String)
  | deleteAll (ruleId : String)
  | loadFromDb

def step (store : AutomationStateStore) : Event → AutomationStateStore
  | .set ruleId key value => (store.set numbers ruleId key value).2
  | .delete ruleId key => (store.delete ruleId key).2
  | .deleteAll ruleId => store.deleteAll ruleId
  | .loadFromDb => store.loadFromDb numbers scan

/-! ## Agreement -/

/-- The rows are texts of JSON, the second copy has the same texts, and the cache has their
values. -/
structure Coherent (store : AutomationStateStore) : Prop where
  texts : ∀ id text, store.table.get id = some text → (JsonText.parse numbers text).isSome
  serialized : ∀ ruleId key, store.serialized.look ruleId key = store.table.get (ruleId, key)
  cached : ∀ ruleId key,
    store.cache.look ruleId key = (store.table.get (ruleId, key)).bind (JsonText.parse numbers)

variable {numbers scan} {store : AutomationStateStore}

theorem Coherent.set (coherent : Coherent numbers store) (ruleId key : String)
    (value : StateValue) : Coherent numbers (store.set numbers ruleId key value).2 := by
  cases value with
  | cyclic => exact coherent
  | unrepresented => exact coherent
  | json value distinct =>
      have reads := JsonText.parse_stringify numbers distinct
      simp only [AutomationStateStore.set]
      split
      · exact coherent
      · constructor
        · intro id text found
          rw [OrderedMap.get_set] at found
          split at found
          · cases found
            rw [reads]
            rfl
          · exact coherent.texts id text found
        · intro r k
          rw [NestedMap.look_put, OrderedMap.get_set, coherent.serialized]
        · intro r k
          rw [NestedMap.look_put, OrderedMap.get_set, coherent.cached]
          split
          · rw [Option.bind_some, reads]
          · rfl

theorem Coherent.delete (coherent : Coherent numbers store) (ruleId key : String) :
    Coherent numbers (store.delete ruleId key).2 := by
  constructor
  · intro id text found
    change (store.table.delete (ruleId, key)).get id = some text at found
    rw [OrderedMap.get_delete] at found
    split at found
    · cases found
    · exact coherent.texts id text found
  · intro r k
    show (store.serialized.remove ruleId key).look r k =
      (store.table.delete (ruleId, key)).get (r, k)
    rw [NestedMap.look_remove, OrderedMap.get_delete, coherent.serialized]
  · intro r k
    show (store.cache.remove ruleId key).look r k =
      ((store.table.delete (ruleId, key)).get (r, k)).bind (JsonText.parse numbers)
    rw [NestedMap.look_remove, OrderedMap.get_delete, coherent.cached]
    split <;> rfl

theorem get_rowsOfOthers (ruleId r k : String) (table : OrderedMap (String × String) String) :
    (rowsOfOthers ruleId table).get (r, k) = if r = ruleId then none else table.get (r, k) := by
  unfold OrderedMap.get rowsOfOthers
  rw [List.find?_filter]
  split
  · rename_i mine
    rw [Option.map_eq_none_iff, List.find?_eq_none]
    intro row _ same
    simp only [decide_eq_true_eq] at same
    exact same.1 (same.2 ▸ mine)
  · rename_i other
    congr 2
    funext row
    by_cases here : row.1 = (r, k)
    · simp [here, other]
    · simp [here]

theorem Coherent.deleteAll (coherent : Coherent numbers store) (ruleId : String) :
    Coherent numbers (store.deleteAll ruleId) := by
  constructor
  · rintro ⟨r, k⟩ text found
    change (rowsOfOthers ruleId store.table).get (r, k) = some text at found
    rw [get_rowsOfOthers] at found
    split at found
    · cases found
    · exact coherent.texts (r, k) text found
  · intro r k
    show NestedMap.look (OrderedMap.delete store.serialized ruleId) r k =
      (rowsOfOthers ruleId store.table).get (r, k)
    rw [NestedMap.look_delete, get_rowsOfOthers, coherent.serialized]
  · intro r k
    show NestedMap.look (OrderedMap.delete store.cache ruleId) r k =
      ((rowsOfOthers ruleId store.table).get (r, k)).bind (JsonText.parse numbers)
    rw [NestedMap.look_delete, get_rowsOfOthers, coherent.cached]
    split <;> rfl

/-! ## Loading -/

/-- The loop over rows that all parse. -/
theorem foldl_loadRow {rows : List ((String × String) × String)}
    (texts : ∀ row ∈ rows, (JsonText.parse numbers row.2).isSome) (store : AutomationStateStore) :
    rows.foldl (loadRow numbers) store =
      { table := store.table
        cache := store.cache.putAll
          (rows.map fun row => (row.1, (JsonText.parse numbers row.2).getD .null))
        serialized := store.serialized.putAll rows } := by
  induction rows generalizing store with
  | nil => rfl
  | cons row rows ih =>
      obtain ⟨first, later⟩ := List.forall_mem_cons.mp texts
      obtain ⟨parsed, read⟩ := Option.isSome_iff_exists.mp first
      have here : loadRow numbers store row =
          { store with
            cache := store.cache.put row.1.1 row.1.2 parsed
            serialized := store.serialized.put row.1.1 row.1.2 row.2 } := by
        unfold loadRow
        rw [read]
      rw [List.foldl_cons, here, ih later, List.map_cons, read]
      rfl

/-- In whichever order the rows come, they are the table. -/
theorem find?_scan (perm : ∀ rows, (scan rows).Perm rows)
    (table : OrderedMap (String × String) String) (id : String × String) :
    ((scan table.entries).find? fun row => row.1 = id).map Prod.snd = table.get id := by
  have listed := perm table.entries
  let scanned : OrderedMap (String × String) String :=
    ⟨scan table.entries, ((listed.map Prod.fst).nodup_iff).mpr table.nodup⟩
  show scanned.get id = table.get id
  ext text
  rw [← OrderedMap.mem_entries, ← OrderedMap.mem_entries]
  exact listed.mem_iff

/-- Loading makes both copies from the table. -/
theorem coherent_loadFromDb (perm : ∀ rows, (scan rows).Perm rows)
    (texts : ∀ id text, store.table.get id = some text → (JsonText.parse numbers text).isSome) :
    Coherent numbers (store.loadFromDb numbers scan) := by
  have listed := perm store.table.entries
  have parses : ∀ row ∈ scan store.table.entries, (JsonText.parse numbers row.2).isSome := by
    intro row member
    exact texts row.1 row.2 (OrderedMap.mem_entries.mp (listed.mem_iff.mp member))
  have nodup : ((scan store.table.entries).map Prod.fst).Nodup :=
    ((listed.map Prod.fst).nodup_iff).mpr store.table.nodup
  unfold loadFromDb
  rw [foldl_loadRow parses]
  refine ⟨texts, fun r k => ?_, fun r k => ?_⟩
  · show NestedMap.look (NestedMap.putAll .empty _) r k = store.table.get (r, k)
    rw [NestedMap.look_putAll _ _ _ nodup, find?_scan perm, NestedMap.look_empty, Option.or_none]
  · show NestedMap.look (NestedMap.putAll .empty _) r k = _
    rw [NestedMap.look_putAll _ _ _ (by simpa [Function.comp_def] using nodup),
      NestedMap.look_empty, Option.or_none, ← find?_scan perm store.table (r, k)]
    -- the values of the rows are parsed one by one
    generalize scan store.table.entries = rows at parses
    induction rows with
    | nil => rfl
    | cons row rows ih =>
        obtain ⟨first, later⟩ := List.forall_mem_cons.mp parses
        by_cases here : row.1 = (r, k)
        · obtain ⟨parsed, read⟩ := Option.isSome_iff_exists.mp first
          simp [here, read]
        · rw [List.map_cons, List.find?_cons_of_neg (by simpa using here),
            List.find?_cons_of_neg (by simpa using here)]
          exact ih later

theorem Coherent.step (perm : ∀ rows, (scan rows).Perm rows) (coherent : Coherent numbers store)
    (event : Event) : Coherent numbers (store.step numbers scan event) := by
  cases event with
  | set ruleId key value => exact coherent.set ruleId key value
  | delete ruleId key => exact coherent.delete ruleId key
  | deleteAll ruleId => exact coherent.deleteAll ruleId
  | loadFromDb => exact coherent_loadFromDb perm coherent.texts

/-! ## Answers -/

/-- What the table has under an id after a set, if it wrote. -/
theorem set_answers (coherent : Coherent numbers store) (ruleId key : String)
    (value : StateValue) : (store.set numbers ruleId key value).1 = true ↔
      (store.set numbers ruleId key value).2.table.get (ruleId, key) ≠
        store.table.get (ruleId, key) := by
  cases value with
  | cyclic => exact iff_of_false Bool.false_ne_true (not_not.mpr rfl)
  | unrepresented => exact iff_of_false Bool.false_ne_true (not_not.mpr rfl)
  | json value distinct =>
      simp only [set]
      split
      · exact iff_of_false Bool.false_ne_true (not_not.mpr rfl)
      · rename_i other
        rw [coherent.serialized] at other
        refine iff_of_true rfl ?_
        rw [OrderedMap.get_set_self]
        exact Ne.symm other

theorem delete_answers (store : AutomationStateStore) (ruleId key : String) :
    (store.delete ruleId key).1 = true ↔
      (store.table.get (ruleId, key)).isSome ∧
        (store.delete ruleId key).2.table.get (ruleId, key) = none := by
  have gone : (store.delete ruleId key).2.table.get (ruleId, key) = none :=
    OrderedMap.get_delete_self _ _
  rw [and_iff_left gone]
  simp only [delete, decide_eq_true_eq]
  cases found : store.table.get (ruleId, key) with
  | some text =>
      have fewer := OrderedMap.size_delete_of_get found
      exact iff_of_true (by omega) rfl
  | none =>
      have same : store.table.delete (ruleId, key) = store.table := by
        refine OrderedMap.ext (List.filter_eq_self.mpr fun row member => ?_)
        rw [decide_eq_true_eq]
        intro here
        exact OrderedMap.get_eq_none.mp found (List.mem_map.mpr ⟨row, member, here⟩)
      rw [same, Nat.sub_self]
      exact iff_of_false (Nat.lt_irrefl 0) (by simp)

theorem get_getAll (store : AutomationStateStore) (ruleId key : String) :
    (store.getAll ruleId).get key = store.get ruleId key := by
  unfold getAll get NestedMap.look
  cases store.cache.get ruleId <;> rfl

/-- **Three copies of one map.**  From a table of texts of JSON, which is loaded first, in
every state that any events lead to: the copies agree; loading once more changes nothing that
is read; and `set` and `delete` answer whether the row has changed and whether one was
removed. -/
theorem store_coherent (perm : ∀ rows, (scan rows).Perm rows)
    {table : OrderedMap (String × String) String}
    (texts : ∀ id text, table.get id = some text → (JsonText.parse numbers text).isSome)
    (events : List Event) :
    let store := run (step numbers scan) (loadFromDb numbers scan { table }) events
    Coherent numbers store ∧
      (∀ ruleId key,
        (store.loadFromDb numbers scan).get ruleId key = store.get ruleId key ∧
          ((store.loadFromDb numbers scan).getAll ruleId).get key = (store.getAll ruleId).get key) ∧
      (∀ ruleId key value, (store.set numbers ruleId key value).1 = true ↔
        (store.set numbers ruleId key value).2.table.get (ruleId, key) ≠
          store.table.get (ruleId, key)) ∧
      ∀ ruleId key, (store.delete ruleId key).1 = true ↔
        (store.table.get (ruleId, key)).isSome ∧
          (store.delete ruleId key).2.table.get (ruleId, key) = none := by
  intro store
  have start : Coherent numbers (loadFromDb numbers scan { table }) :=
    coherent_loadFromDb perm texts
  have coherent : Coherent numbers store :=
    run_invariant (fun _ event kept => kept.step perm event) start events
  have reloaded : Coherent numbers (store.loadFromDb numbers scan) :=
    coherent.step perm .loadFromDb
  have tables : (store.loadFromDb numbers scan).table = store.table := by
    unfold loadFromDb
    rw [foldl_loadRow]
    intro row member
    exact coherent.texts row.1 row.2
      (OrderedMap.mem_entries.mp ((perm store.table.entries).mem_iff.mp member))
  have read (ruleId key : String) :
      (store.loadFromDb numbers scan).get ruleId key = store.get ruleId key := by
    show (store.loadFromDb numbers scan).cache.look ruleId key = store.cache.look ruleId key
    rw [reloaded.cached, coherent.cached, tables]
  refine ⟨coherent, fun ruleId key => ⟨read ruleId key, ?_⟩, ?_, ?_⟩
  · rw [get_getAll, get_getAll]
    exact read ruleId key
  · exact set_answers coherent
  · exact delete_answers store

/-! A rule has one row; its script sets a second key and deletes the first. -/

def modeTable : OrderedMap (String × String) String :=
  OrderedMap.empty.set ("rule-1", "mode") "[7]"

def modeEvents : List Event :=
  [.set "rule-1" "level" (.json (.num 2) (.num 2)), .delete "rule-1" "mode", .loadFromDb]

theorem store_coherent_mode : Coherent JsonText.wholeNumbers
    (run (step JsonText.wholeNumbers id)
      (loadFromDb JsonText.wholeNumbers id { table := modeTable }) modeEvents) := by
  have reads : (JsonText.parse JsonText.wholeNumbers "[7]").isSome := by decide +kernel
  refine (store_coherent (fun rows => List.Perm.refl rows) (fun id text found => ?_)
    modeEvents).1
  rw [modeTable, OrderedMap.get_set] at found
  split at found
  · cases found
    exact reads
  · cases found

end AutomationStateStore

end Aeolus.Automations
