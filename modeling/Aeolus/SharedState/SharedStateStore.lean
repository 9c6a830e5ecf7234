/-
# Aeolus.SharedState.SharedStateStore — durable values and the changes they announce

`set` and `delete` of `src/shared-state/shared-state-store.ts`.  A write that changes what
is stored announces one change on the event bus; a write of the text that is there already
does nothing.  Where the change came from is told by the caller's context, if it has one
(`set_change`, `delete_change`): a caller that gives none makes a change without a depth.
-/
import Aeolus.SharedState.SharedStateLimits
import Aeolus.Automations.AutomationEngine

namespace Aeolus.SharedState

open Aeolus.Core Aeolus.Theory Aeolus.Automations

def maxSharedStateValueBytes : Nat := 64 * 1024

def maxSharedStateEntries : Nat := 5000

/-- The text that would be stored is too long. -/
def validateSharedStateValue (serialized : String) : Option String :=
  if serialized.utf8ByteSize > maxSharedStateValueBytes then
    some s!"value exceeds the 65536 byte Shared State limit ({serialized.utf8ByteSize} bytes)"
  else none

/-- What a caller says of a write. -/
structure SharedStateWriteContext where
  source : Option SharedStateSource := none
  traceId : Option Json := none
  causationId : Option Json := none
  depth : Option Json := none

structure SharedStateRow where
  value : String
  updatedAt : Nat
deriving DecidableEq

/-- The table `ds_buckets`. -/
structure SharedStateStore where
  rows : OrderedMap (String × String) SharedStateRow := .empty

namespace SharedStateStore

def defaultSource : SharedStateSource := .system "aeolus"

def changeOf (bucket key : String) (value : Option Json) (deleted : Bool) (now : Nat)
    (context : Option SharedStateWriteContext) : SharedStateChange where
  bucket
  key
  value
  deleted
  timestamp := now
  source := (context.bind SharedStateWriteContext.source).getD defaultSource
  traceId := AutomationEngine.whenTruthy (context.bind SharedStateWriteContext.traceId)
  causationId := AutomationEngine.whenTruthy (context.bind SharedStateWriteContext.causationId)
  depth := context.bind SharedStateWriteContext.depth

/-- A refusal, or the change that is announced, if there is one, and the table after it.  A
value is absent when it has no JSON text. -/
def set (stringify : Json → String) (store : SharedStateStore) (bucket key : String)
    (value : Option Json) (context : Option SharedStateWriteContext) (now : Nat) :
    Except String (Option SharedStateChange × SharedStateStore) :=
  match validateSharedStateName "bucket" bucket, validateSharedStateName "key" key, value with
  | some reason, _, _ => .error reason
  | none, some reason, _ => .error reason
  | none, none, none => .error "value has no JSON representation"
  | none, none, some value =>
      let valueJson := stringify value
      match validateSharedStateValue valueJson, store.rows.get (bucket, key) with
      | some reason, _ => .error reason
      | none, current =>
          if current.map (·.value) = some valueJson then .ok (none, store)
          else if current.isNone ∧ store.rows.size ≥ maxSharedStateEntries then
            .error (s!"Shared State is full: {store.rows.size} entries reaches the 5000 entry limit"
              ++ s!" (refused {bucket}/{key}). Shared State holds small current values;"
              ++ " accumulating records belong in a Data Store Collection.")
          else
            .ok (some (changeOf bucket key (some value) false now context),
              { rows := store.rows.set (bucket, key) ⟨valueJson, now⟩ })

def delete (store : SharedStateStore) (bucket key : String)
    (context : Option SharedStateWriteContext) (now : Nat) :
    Option SharedStateChange × SharedStateStore :=
  match store.rows.get (bucket, key) with
  | none => (none, store)
  | some _ =>
      (some (changeOf bucket key none true now context),
        { rows := store.rows.delete (bucket, key) })

variable {stringify : Json → String} {store after : SharedStateStore} {bucket key : String}
  {context : Option SharedStateWriteContext} {now : Nat} {change : SharedStateChange}

theorem set_change {value : Option Json}
    (written : store.set stringify bucket key value context now = .ok (some change, after)) :
    change = changeOf bucket key value false now context := by
  unfold set at written
  split at written
  · cases written
  · cases written
  · cases written
  · simp only at written
    split at written
    · cases written
    · split at written
      · cases written
      · split at written
        · cases written
        · cases written
          rfl

theorem delete_change (removed : store.delete bucket key context now = (some change, after)) :
    change = changeOf bucket key none true now context := by
  unfold delete at removed
  split at removed
  · cases removed
  · cases removed
    rfl

end SharedStateStore

end Aeolus.SharedState
