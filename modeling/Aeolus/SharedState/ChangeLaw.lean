/-
# Aeolus.SharedState.ChangeLaw — one change for each write that changes something

A call of `SharedStateStore` is refused, or it returns whether it changed anything.  The
law of a call (`Lawful`): what is refused leaves everything as it was; what returns `true`
changed the text at its entry, and only there, and announced that once; what returns
`false` changed nothing and announced nothing.

The law holds of every call (`lawful`), and each call accounts for its effect
(`accounts`), so the announced changes are a complete log: replayed, they give the table
(`change_law`).  The entry limit refuses new entries only (`set_ok`), and a table that starts
within it stays there (`size_le_limit`).
-/
import Aeolus.SharedState.SharedStateStore
import Aeolus.Theory.Replica

namespace Aeolus.SharedState

open Aeolus.Core Aeolus.Theory Aeolus.Automations

/-- A call of `set` or `delete`, at a time. -/
inductive StoreCall
  | set (bucket key : String) (value : Option Json) (context : Option SharedStateWriteContext)
      (now : Nat)
  | delete (bucket key : String) (context : Option SharedStateWriteContext) (now : Nat)

/-- The entry that a call is about. -/
def StoreCall.entry : StoreCall → String × String
  | .set bucket key _ _ _ => (bucket, key)
  | .delete bucket key _ _ => (bucket, key)

namespace SharedStateStore

variable (stringify : Json → String)

/-- How a call comes back, the table after it, and what it emits on the event bus. -/
def perform (store : SharedStateStore) :
    StoreCall → Except String Bool × SharedStateStore × List SharedStateChange
  | .set bucket key value context now =>
      match store.set stringify bucket key value context now with
      | .error reason => (.error reason, store, [])
      | .ok (change, after) => (.ok change.isSome, after, change.toList)
  | .delete bucket key context now =>
      let (change, after) := store.delete bucket key context now
      (.ok change.isSome, after, change.toList)

def returned (store : SharedStateStore) (call : StoreCall) : Except String Bool :=
  (store.perform stringify call).1

def after (store : SharedStateStore) (call : StoreCall) : SharedStateStore :=
  (store.perform stringify call).2.1

def emitted (store : SharedStateStore) (call : StoreCall) : List SharedStateChange :=
  (store.perform stringify call).2.2

/-- The text that is stored for an entry. -/
def storedText (store : SharedStateStore) (entry : String × String) : Option String :=
  (store.rows.get entry).map (·.value)

/-- What a reader of the log does with one change. -/
def replay (store : SharedStateStore) (change : SharedStateChange) : SharedStateStore where
  rows :=
    match change.value with
    | some value =>
        store.rows.set (change.bucket, change.key)
          ⟨stringify value, change.timestamp.num.toNat⟩
    | none => store.rows.delete (change.bucket, change.key)

/-- What is promised of one call. -/
structure Lawful (store : SharedStateStore) (call : StoreCall) : Prop where
  refused : ∀ reason, store.returned stringify call = .error reason →
    store.after stringify call = store ∧ store.emitted stringify call = []
  changed : ∀ b, store.returned stringify call = .ok b →
    (b = true ↔
      (store.after stringify call).storedText call.entry ≠ store.storedText call.entry)
  announced : store.returned stringify call = .ok true →
    ∃ change, store.emitted stringify call = [change] ∧ (change.bucket, change.key) = call.entry
  still : store.returned stringify call = .ok false →
    store.after stringify call = store ∧ store.emitted stringify call = []
  elsewhere : ∀ entry, entry ≠ call.entry →
    (store.after stringify call).rows.get entry = store.rows.get entry

/-! ## What one call does -/

section Calls

variable {stringify} {store next : SharedStateStore} {bucket key : String} {value : Option Json}
  {context : Option SharedStateWriteContext} {now : Nat} {change : Option SharedStateChange}
  {reason : String}

/-- What an accepted `set` does. -/
theorem set_ok (done : store.set stringify bucket key value context now = .ok (change, next)) :
    ∃ written, value = some written ∧
      ((store.storedText (bucket, key) = some (stringify written) ∧ change = none ∧ next = store) ∨
        (store.storedText (bucket, key) ≠ some (stringify written) ∧
          (store.storedText (bucket, key) = none → store.rows.size < maxSharedStateEntries) ∧
          change = some (changeOf bucket key (some written) false now context) ∧
          next = { rows := store.rows.set (bucket, key) ⟨stringify written, now⟩ })) := by
  unfold set at done
  split at done
  · cases done
  · cases done
  · cases done
  · next written _ _ =>
      refine ⟨written, rfl, ?_⟩
      simp only at done
      split at done
      · cases done
      · split at done
        · next same =>
            cases done
            exact .inl ⟨same, rfl, rfl⟩
        · next differs =>
            split at done
            · cases done
            · next room =>
                cases done
                refine .inr ⟨differs, fun absent => ?_, rfl, rfl⟩
                simp only [storedText, Option.map_eq_none_iff] at absent
                simpa [absent] using room

theorem delete_absent (absent : store.rows.get (bucket, key) = none) :
    store.delete bucket key context now = (none, store) := by
  simp [delete, absent]

theorem delete_present {row : SharedStateRow} (present : store.rows.get (bucket, key) = some row) :
    store.delete bucket key context now =
      (some (changeOf bucket key none true now context),
        { rows := store.rows.delete (bucket, key) }) := by
  simp [delete, present]

theorem replay_changeOf_set (written : Json) :
    store.replay stringify (changeOf bucket key (some written) false now context) =
      { rows := store.rows.set (bucket, key) ⟨stringify written, now⟩ } := by
  simp [replay, changeOf]

theorem replay_changeOf_delete :
    store.replay stringify (changeOf bucket key none true now context) =
      { rows := store.rows.delete (bucket, key) } := rfl

end Calls

/-! ## The law of one call -/

/-- A call that comes back with nothing changed. -/
theorem lawful_still {store : SharedStateStore} {call : StoreCall}
    (same : store.perform stringify call = (.ok false, store, [])) :
    Lawful stringify store call where
  refused _ refusal := by simp [returned, same] at refusal
  changed b back := by
    simp only [returned, same, Except.ok.injEq] at back
    simp [after, same, ← back]
  announced back := by simp [returned, same] at back
  still _ := ⟨by simp [after, same], by simp [emitted, same]⟩
  elsewhere _ _ := by simp [after, same]

/-- A call that changes its entry and announces it. -/
theorem lawful_changed {store next : SharedStateStore} {call : StoreCall}
    {change : SharedStateChange} (moved : store.perform stringify call = (.ok true, next, [change]))
    (about : (change.bucket, change.key) = call.entry)
    (differs : next.storedText call.entry ≠ store.storedText call.entry)
    (frame : ∀ entry, entry ≠ call.entry → next.rows.get entry = store.rows.get entry) :
    Lawful stringify store call where
  refused _ refusal := by simp [returned, moved] at refusal
  changed b back := by
    simp only [returned, moved, Except.ok.injEq] at back
    simpa [after, moved, ← back] using differs
  announced _ := ⟨change, by simp [emitted, moved], about⟩
  still back := by simp [returned, moved] at back
  elsewhere entry other := by simpa [after, moved] using frame entry other

theorem lawful (store : SharedStateStore) (call : StoreCall) : Lawful stringify store call := by
  cases call with
  | set bucket key value context now =>
      cases outcome : store.set stringify bucket key value context now with
      | error reason =>
          have refusal : store.perform stringify (.set bucket key value context now) =
              (.error reason, store, []) := by simp [perform, outcome]
          constructor
          · intro _ _
            exact ⟨by simp [after, refusal], by simp [emitted, refusal]⟩
          · intro b back
            simp [returned, refusal] at back
          · intro back
            simp [returned, refusal] at back
          · intro back
            simp [returned, refusal] at back
          · intro _ _
            simp [after, refusal]
      | ok done =>
          obtain ⟨change, next⟩ := done
          obtain ⟨written, rfl, ⟨-, rfl, rfl⟩ | ⟨differs, -, rfl, rfl⟩⟩ := set_ok outcome
          · exact lawful_still stringify (by simp [perform, outcome])
          · have moved : store.perform stringify (.set bucket key (some written) context now) =
                (.ok true, { rows := store.rows.set (bucket, key) ⟨stringify written, now⟩ },
                  [changeOf bucket key (some written) false now context]) := by
              simp [perform, outcome]
            refine lawful_changed stringify moved rfl ?_ ?_
            · rw [StoreCall.entry]
              simpa [storedText] using Ne.symm differs
            · intro entry other
              exact OrderedMap.get_set_of_ne _ _ other
  | delete bucket key context now =>
      cases current : store.rows.get (bucket, key) with
      | none => exact lawful_still stringify (by simp [perform, delete_absent current])
      | some row =>
          have moved : store.perform stringify (.delete bucket key context now) =
              (.ok true, { rows := store.rows.delete (bucket, key) },
                [changeOf bucket key none true now context]) := by
            simp [perform, delete_present current]
          refine lawful_changed stringify moved rfl ?_ ?_
          · simp [StoreCall.entry, storedText, current]
          · intro entry other
            exact OrderedMap.get_delete_of_ne _ other

/-! ## Runs -/

/-- What a call announces is all that it does. -/
theorem accounts (store : SharedStateStore) (call : StoreCall) :
    Replica.Accounts (after stringify) (emitted stringify) (replay stringify) id store call := by
  rw [Replica.Accounts, id, id]
  cases call with
  | set bucket key value context now =>
      cases outcome : store.set stringify bucket key value context now with
      | error reason => simp [after, emitted, perform, outcome]
      | ok done =>
          obtain ⟨change, next⟩ := done
          obtain ⟨written, rfl, ⟨-, rfl, rfl⟩ | ⟨-, -, rfl, rfl⟩⟩ := set_ok outcome
          · simp [after, emitted, perform, outcome]
          · simp [after, emitted, perform, outcome, replay_changeOf_set]
  | delete bucket key context now =>
      cases current : store.rows.get (bucket, key) with
      | none => simp [after, emitted, perform, delete_absent current]
      | some row =>
          simp [after, emitted, perform, delete_present current, replay_changeOf_delete]

/-- **The change law.**  Every call of a run keeps it, and the changes that a run announces,
replayed from the table that it started with, give the table that it ends with. -/
theorem change_law (store : SharedStateStore) (calls : List StoreCall) :
    Along (after stringify) (Lawful stringify) store calls ∧
      (Replica.announced (after stringify) (emitted stringify) store calls).foldl
          (replay stringify) store =
        run (after stringify) store calls := by
  constructor
  · exact along_of_forall (fun call _ store => lawful stringify store call) store
  · have complete : Along (after stringify)
        (Replica.Accounts (after stringify) (emitted stringify) (replay stringify) id) store calls :=
      along_of_forall (fun call _ store => accounts stringify store call) store
    exact Replica.foldl_announced complete

theorem size_after (store : SharedStateStore) (call : StoreCall)
    (within : store.rows.size ≤ maxSharedStateEntries) :
    (store.after stringify call).rows.size ≤ maxSharedStateEntries := by
  cases call with
  | set bucket key value context now =>
      cases outcome : store.set stringify bucket key value context now with
      | error reason => simpa [after, perform, outcome] using within
      | ok done =>
          obtain ⟨change, next⟩ := done
          obtain ⟨written, rfl, ⟨-, rfl, rfl⟩ | ⟨-, room, rfl, rfl⟩⟩ := set_ok outcome
          · simpa [after, perform, outcome] using within
          · simp only [after, perform, outcome]
            cases current : store.rows.get (bucket, key) with
            | none =>
                have below := room (by simp [storedText, current])
                rw [OrderedMap.size_set_of_absent current]
                omega
            | some row =>
                rw [OrderedMap.size_set_of_has (OrderedMap.has_iff.mpr ⟨row, current⟩)]
                exact within
  | delete bucket key context now =>
      cases current : store.rows.get (bucket, key) with
      | none => simpa [after, perform, delete_absent current] using within
      | some row =>
          have fewer := OrderedMap.size_delete_of_get current
          simp only [after, perform, delete_present current]
          omega

/-- The limit is never passed. -/
theorem size_le_limit {store : SharedStateStore}
    (within : store.rows.size ≤ maxSharedStateEntries) (calls : List StoreCall) :
    (run (after stringify) store calls).rows.size ≤ maxSharedStateEntries := by
  have keeps := size_after stringify
  exact run_invariant keeps within calls

/-- The name of the `n`th note: at most 150 characters. -/
def noteName (n : Nat) : String :=
  String.ofList (List.replicate (n / 100 + 1) 'a' ++ List.replicate (n % 100) 'b')

theorem noteName_injective : Function.Injective noteName := by
  intro m n same
  have letters (c : Char) := congrArg (fun name => name.toList.count c) same
  have tens := letters 'a'
  have ones := letters 'b'
  simp [noteName, List.count_replicate] at tens ones
  omega

/-- A table with room for one entry. -/
def nearlyFull : SharedStateStore where
  rows :=
    { entries := (List.range 4999).map fun n => (("notes", noteName n), ⟨"1", 0⟩)
      nodup := by
        rw [List.map_map]
        exact List.nodup_range.map fun m n same => noteName_injective (Prod.mk.inj same).2 }

theorem nearlyFull_size : nearlyFull.rows.size = 4999 := by
  rw [OrderedMap.size, nearlyFull, List.length_map, List.length_range]

theorem nearlyFull_get (key : String) : nearlyFull.rows.get ("lamps", key) = none := by
  rw [OrderedMap.get_eq_none, OrderedMap.keys, nearlyFull, List.map_map]
  simp

def boolText : Json → String
  | .bool true => "true"
  | _ => "false"

/-- The last free entry is taken and written again. -/
def fill : List StoreCall :=
  [.set "lamps" "hall" (some (.bool true)) none 1, .set "lamps" "hall" (some (.bool false)) none 2]

def another (now : Nat) : StoreCall := .set "lamps" "porch" (some (.bool true)) none now

theorem run_fill {store : SharedStateStore} (room : store.rows.size + 1 = maxSharedStateEntries)
    (absent : ∀ key, store.rows.get ("lamps", key) = none) :
    (run (after boolText) store fill).rows.size = maxSharedStateEntries ∧
      (returned boolText (run (after boolText) store fill) (another 3)).isOk = false := by
  have bucket : validateSharedStateName "bucket" "lamps" = none := by decide
  have hall : validateSharedStateName "key" "hall" = none := by decide
  have porch : validateSharedStateName "key" "porch" = none := by decide
  have short : validateSharedStateValue "true" = none := by decide +kernel
  have short' : validateSharedStateValue "false" = none := by decide +kernel
  have filled : (run (after boolText) store fill).rows =
      (store.rows.set ("lamps", "hall") ⟨"true", 1⟩).set ("lamps", "hall") ⟨"false", 2⟩ := by
    have below : ¬ maxSharedStateEntries ≤ store.rows.size := by omega
    simp [fill, after, perform, set, bucket, hall, boolText, short, short', absent, below]
  have full : (run (after boolText) store fill).rows.size = maxSharedStateEntries := by
    rw [filled, OrderedMap.size_set_of_has (OrderedMap.has_set_self _ _ _),
      OrderedMap.size_set_of_absent (absent _), room]
  have new : (run (after boolText) store fill).rows.get ("lamps", "porch") = none := by
    rw [filled, OrderedMap.get_set_of_ne _ _ (by decide), OrderedMap.get_set_of_ne _ _ (by decide),
      absent]
  refine ⟨full, ?_⟩
  simp [another, returned, perform, set, bucket, porch, boolText, short, new, full, Except.isOk,
    Except.toBool]

/-- At the limit a new entry is refused until one is deleted. -/
theorem size_le_limit_full :
    (run (after boolText) nearlyFull fill).rows.size = maxSharedStateEntries ∧
      (returned boolText (run (after boolText) nearlyFull fill) (another 3)).isOk = false ∧
      (run (after boolText) nearlyFull
        (fill ++ [another 3, .delete "lamps" "hall" none 4, another 5])).rows.size ≤
          maxSharedStateEntries := by
  obtain ⟨full, refused⟩ := run_fill (congrArg (· + 1) nearlyFull_size) nearlyFull_get
  exact ⟨full, refused, size_le_limit boolText (nearlyFull_size.le.trans (by decide)) _⟩

end SharedStateStore
end Aeolus.SharedState
