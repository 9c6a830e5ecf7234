/-
# Aeolus.Auth.OwnershipReconciliation — making the stored assignments those that are desired

`reconcileAll` of `src/auth/resource-ownership-store.ts`.  A tab is reconciled by
differences: what is desired and not stored is inserted, what is stored and not desired is
deleted.  `reconcileAll` does so for every tab of the map, and then clears the tabs that it
finds in the table and not in the map.

Over the table stands the relation that it stores, a set of pairs.  Every statement adds or
takes away pairs (`Reassigned.insert`, `Reassigned.remove`); the reconciled tab is the
desired set whatever was there (`reconcileTabInternal_ok`), and the whole relation is the
map's (`reconcileAll_ok`).
-/
import Mathlib.Data.List.Dedup
import Mathlib.Order.BooleanAlgebra.Set
import Aeolus.Auth.ResourceOwnership

namespace Aeolus.Auth

open Aeolus.Core Aeolus.Db Aeolus.Theory

/-! ## The store -/

/-- `DELETE FROM automation_tab_assignments WHERE automation_id = ? AND tab_id = ?` -/
def removeAutomationTabAssignment (automationId tabId : String) : Statement Unit :=
  .modify fun db =>
    { db with
      automationTabAssignments :=
        db.automationTabAssignments.filter (· ≠ (automationId, tabId)) }

def reconcileTabInternal (tabId : String) (desiredAutomationIds : List String) :
    Statement Unit := do
  let current ← Handler.asks fun db =>
    (db.automationTabAssignments.filter (·.2 = tabId)).map Prod.fst
  desiredAutomationIds.forM fun automationId =>
    if automationId ∈ current then pure ()
    else insertAutomationTabAssignment automationId (some tabId)
  current.forM fun automationId =>
    if automationId ∈ desiredAutomationIds then pure ()
    else removeAutomationTabAssignment automationId tabId

/-- The transaction of `reconcileAll`. -/
def reconcileEach (desiredByTab : OrderedMap String (List String)) : Statement Unit := do
  desiredByTab.entries.forM fun entry => reconcileTabInternal entry.1 entry.2
  let tabsWithAssignments ← Handler.asks fun db =>
    (db.automationTabAssignments.map Prod.snd).dedup
  tabsWithAssignments.forM fun tabId =>
    if desiredByTab.has tabId then pure () else reconcileTabInternal tabId []

def reconcileAll (desiredByTab : OrderedMap String (List String)) : Statement Unit :=
  Handler.atomically (reconcileEach desiredByTab)

/-! ## The relation -/

/-- The stored relation. -/
def assigned (db : Database) : Set (String × String) := {pair | pair ∈ db.automationTabAssignments}

/-- The rows that both references of a pair need. -/
def Referable (db : Database) (pair : String × String) : Prop :=
  db.automationRules.has pair.1 = true ∧ db.hasTab pair.2 = true

/-- From `db` on, only the assignments changed; they are `target`, and the new ones have their
foreign keys. -/
structure Reassigned (db db' : Database) (target : Set (String × String)) : Prop where
  rest : db' = { db with automationTabAssignments := db'.automationTabAssignments }
  stored : assigned db' = target
  referable : ∀ pair ∈ target, pair ∈ assigned db ∨ Referable db pair

theorem Reassigned.refl (db : Database) : Reassigned db db (assigned db) :=
  ⟨rfl, rfl, fun _ member => .inl member⟩

variable {db db' start : Database} {target : Set (String × String)}

theorem Reassigned.referable_iff (reached : Reassigned start db target) (pair : String × String) :
    Referable db pair ↔ Referable start pair := by
  rw [reached.rest]
  rfl

theorem mem_assigned {pair : String × String} :
    pair ∈ assigned db ↔ pair ∈ db.automationTabAssignments := Iff.rfl

theorem Reassigned.insert (reached : Reassigned start db target) {automationId tabId : String}
    (returned : insertAutomationTabAssignment automationId (some tabId) db = (.ok (), db')) :
    Reassigned start db' (target ∪ {(automationId, tabId)}) := by
  unfold insertAutomationTabAssignment at returned
  dsimp only at returned
  split at returned
  · rename_i there
    cases returned
    have already : (automationId, tabId) ∈ target := by
      rw [← reached.stored]
      exact there
    rwa [Set.union_eq_self_of_subset_right (Set.singleton_subset_iff.mpr already)]
  · split at returned
    · cases returned
    · rename_i keyed
      cases returned
      have referable : Referable start (automationId, tabId) := by
        rw [← reached.referable_iff]
        simpa [Referable] using keyed
      refine ⟨by rw [reached.rest], ?_, ?_⟩
      · rw [← reached.stored]
        ext pair
        simp [assigned, or_comm]
      · rintro pair (before | same)
        · exact reached.referable pair before
        · rw [Set.mem_singleton_iff.mp same]
          exact .inr referable

/-- An insertion whose references are there returns. -/
theorem insertAutomationTabAssignment_returns {automationId tabId : String}
    (referable : Referable db (automationId, tabId)) :
    ∃ db', insertAutomationTabAssignment automationId (some tabId) db = (.ok (), db') := by
  unfold insertAutomationTabAssignment
  dsimp only
  split
  · exact ⟨_, rfl⟩
  · rw [if_neg (by simpa [Referable] using referable)]
    exact ⟨_, rfl⟩

theorem Reassigned.remove (reached : Reassigned start db target) (automationId tabId : String) :
    ∃ db', removeAutomationTabAssignment automationId tabId db = (.ok (), db') ∧
      Reassigned start db' (target \ {(automationId, tabId)}) := by
  refine ⟨_, rfl, by rw [reached.rest], ?_, fun pair member => reached.referable pair member.1⟩
  rw [← reached.stored]
  ext pair
  simp [assigned]

theorem mem_foldl_union {α β : Type} (part : β → Set α) (xs : List β) (s : Set α) (a : α) :
    a ∈ xs.foldl (fun s x => s ∪ part x) s ↔ a ∈ s ∨ ∃ x ∈ xs, a ∈ part x := by
  induction xs generalizing s with
  | nil => simp
  | cons x xs ih =>
      rw [List.foldl_cons, ih, Set.mem_union, List.exists_mem_cons_iff, or_assoc]

theorem mem_foldl_diff {α β : Type} (part : β → Set α) (xs : List β) (s : Set α) (a : α) :
    a ∈ xs.foldl (fun s x => s \ part x) s ↔ a ∈ s ∧ ∀ x ∈ xs, a ∉ part x := by
  induction xs generalizing s with
  | nil => simp
  | cons x xs ih =>
      rw [List.foldl_cons, ih, Set.mem_sdiff, List.forall_mem_cons, and_assoc]

/-! ## One tab -/

/-- The relation with one tab's automations replaced. -/
def reassign (target : Set (String × String)) (tabId : String) (desired : List String) :
    Set (String × String) :=
  {pair | if pair.2 = tabId then pair.1 ∈ desired else pair ∈ target}

variable {tabId : String} {desired : List String}

/-- What is stored of one tab. -/
theorem mem_current {automationId : String} :
    automationId ∈ (db.automationTabAssignments.filter (·.2 = tabId)).map Prod.fst ↔
      (automationId, tabId) ∈ assigned db := by
  simp [assigned]

/-- The pair of an automation that is not in a list. -/
def outside (present : List String) (tabId automationId : String) : Set (String × String) :=
  if automationId ∈ present then ∅ else {(automationId, tabId)}

theorem mem_outside {present : List String} {automationId : String} {pair : String × String} :
    pair ∈ outside present tabId automationId ↔
      automationId ∉ present ∧ pair = (automationId, tabId) := by
  unfold outside
  split <;> simp [*]

theorem Reassigned.adds (reached : Reassigned start db target) {current : List String}
    (returned : desired.forM (fun automationId => if automationId ∈ current then pure ()
      else insertAutomationTabAssignment automationId (some tabId)) db = (.ok (), db')) :
    Reassigned start db' (desired.foldl (fun target automationId =>
      target ∪ outside current tabId automationId) target) := by
  refine Handler.forM_simulates (R := fun db target => Reassigned start db target) ?_ reached
    returned
  intro automationId _ db target db' reached inserted
  split at inserted
  · rename_i there
    cases inserted
    rwa [outside, if_pos there, Set.union_empty]
  · rename_i missing
    rw [outside, if_neg missing]
    exact reached.insert inserted

theorem Reassigned.takes (reached : Reassigned start db target) {current : List String}
    (returned : current.forM (fun automationId => if automationId ∈ desired then pure ()
      else removeAutomationTabAssignment automationId tabId) db = (.ok (), db')) :
    Reassigned start db' (current.foldl (fun target automationId =>
      target \ outside desired tabId automationId) target) := by
  refine Handler.forM_simulates (R := fun db target => Reassigned start db target) ?_ reached
    returned
  intro automationId _ db target db' reached removed
  split at removed
  · rename_i there
    cases removed
    rwa [outside, if_pos there, Set.sdiff_empty]
  · rename_i stale
    obtain ⟨after, deleted, result⟩ := reached.remove automationId tabId
    rw [deleted] at removed
    cases removed
    rwa [outside, if_neg stale]

/-- Adding what is missing and taking away what is stale replaces the tab's automations. -/
theorem foldl_differences {current : List String}
    (listed : ∀ automationId, automationId ∈ current ↔ (automationId, tabId) ∈ target) :
    current.foldl (fun target automationId => target \ outside desired tabId automationId)
      (desired.foldl (fun target automationId => target ∪ outside current tabId automationId)
        target) = reassign target tabId desired := by
  ext ⟨automationId, tab⟩
  rw [mem_foldl_diff, mem_foldl_union]
  simp only [mem_outside, reassign, Set.mem_ofPred_eq, Prod.mk.injEq]
  by_cases here : tab = tabId
  · subst here
    simp only [if_true, ← listed]
    constructor
    · rintro ⟨there, kept⟩
      by_contra stale
      rcases there with current | ⟨other, member, missing, rfl, -⟩
      · exact kept automationId current ⟨stale, rfl, trivial⟩
      · exact stale member
    · intro member
      refine ⟨?_, fun other _ stale => stale.1 (stale.2.1 ▸ member)⟩
      by_cases present : automationId ∈ current
      · exact .inl present
      · exact .inr ⟨automationId, member, present, rfl, trivial⟩
  · simp [here]

/-- A reconciled tab has what is desired, whatever it had. -/
theorem reconcileTabInternal_ok (reached : Reassigned start db target)
    (returned : reconcileTabInternal tabId desired db = (.ok (), db')) :
    Reassigned start db' (reassign target tabId desired) := by
  obtain ⟨current, read, listed, returned⟩ := Handler.bind_ok returned
  cases listed
  obtain ⟨_, inserted, added, removed⟩ := Handler.bind_ok returned
  have result := (reached.adds added).takes removed
  rwa [foldl_differences fun automationId => by rw [mem_current, reached.stored]] at result

/-- It is reconciled when every reference that is desired can be stored. -/
theorem reconcileTabInternal_returns (reached : Reassigned start db target)
    (referable : ∀ automationId ∈ desired, Referable start (automationId, tabId)) :
    ∃ db', reconcileTabInternal tabId desired db = (.ok (), db') := by
  have inserts (current : List String) : ∀ automationId ∈ desired, ∀ db,
      (∃ target, Reassigned start db target) →
      ∃ db', (if automationId ∈ current then pure ()
        else insertAutomationTabAssignment automationId (some tabId) : Statement Unit) db =
          (.ok (), db') ∧ ∃ target, Reassigned start db' target := by
    rintro automationId member db ⟨target, reached⟩
    split
    · exact ⟨db, rfl, target, reached⟩
    · obtain ⟨db', returned⟩ := insertAutomationTabAssignment_returns
        ((reached.referable_iff _).mpr (referable automationId member))
      exact ⟨db', returned, _, reached.insert returned⟩
  have removes (current : List String) : ∀ automationId ∈ current, ∀ db,
      (∃ target, Reassigned start db target) →
      ∃ db', (if automationId ∈ desired then pure ()
        else removeAutomationTabAssignment automationId tabId : Statement Unit) db =
          (.ok (), db') ∧ ∃ target, Reassigned start db' target := by
    rintro automationId - db ⟨target, reached⟩
    split
    · exact ⟨db, rfl, target, reached⟩
    · obtain ⟨db', returned, result⟩ := reached.remove automationId tabId
      exact ⟨db', returned, _, result⟩
  unfold reconcileTabInternal
  rw [Handler.bind_of_ok (Handler.asks_apply _ db)]
  obtain ⟨mid, added, within⟩ := Handler.forM_returns (inserts _) ⟨target, reached⟩
  rw [Handler.bind_of_ok added]
  obtain ⟨db', removed, -⟩ := Handler.forM_returns (removes _) within
  exact ⟨db', removed⟩

/-- A tab that has what is desired stays as it is. -/
theorem reconcileTabInternal_self
    (same : ∀ automationId, (automationId, tabId) ∈ assigned db ↔ automationId ∈ desired) :
    reconcileTabInternal tabId desired db = (.ok (), db) := by
  have kept (automationId : String) :
      automationId ∈ (db.automationTabAssignments.filter (·.2 = tabId)).map Prod.fst ↔
        automationId ∈ desired := mem_current.trans (same automationId)
  unfold reconcileTabInternal
  rw [Handler.bind_of_ok (Handler.asks_apply _ db), Handler.bind_of_ok]
  · exact Handler.forM_eq_self fun automationId member => by
      rw [if_pos ((kept automationId).mp member)]
      rfl
  · exact Handler.forM_eq_self fun automationId member => by
      rw [if_pos ((kept automationId).mpr member)]
      rfl

/-! ## Every tab -/

/-- The relation that a map asks for. -/
def desiredRelation (desiredByTab : OrderedMap String (List String)) : Set (String × String) :=
  {pair | ∃ desired, desiredByTab.get pair.2 = some desired ∧ pair.1 ∈ desired}

theorem mem_foldl_reassign {entries : List (String × List String)}
    (nodup : (entries.map Prod.fst).Nodup) (target : Set (String × String))
    (pair : String × String) :
    pair ∈ entries.foldl (fun target entry => reassign target entry.1 entry.2) target ↔
      (∃ desired, (pair.2, desired) ∈ entries ∧ pair.1 ∈ desired) ∨
        pair.2 ∉ entries.map Prod.fst ∧ pair ∈ target := by
  induction entries generalizing target with
  | nil => simp
  | cons entry rest ih =>
      obtain ⟨tabId, desired⟩ := entry
      rw [List.map_cons, List.nodup_cons] at nodup
      rw [List.foldl_cons, ih nodup.2]
      by_cases here : pair.2 = tabId
      · have later : ∀ other, (pair.2, other) ∉ rest := fun other member =>
          nodup.1 (here ▸ List.mem_map.mpr ⟨_, member, rfl⟩)
        simp [reassign, here, here ▸ later, nodup.1]
      · simp [reassign, here]

theorem mem_foldl_clear (kept : String → Bool) (tabs : List String)
    (target : Set (String × String)) (pair : String × String) :
    pair ∈ tabs.foldl (fun target tabId => if kept tabId then target else reassign target tabId [])
        target ↔ pair ∈ target ∧ (pair.2 ∈ tabs → kept pair.2 = true) := by
  induction tabs generalizing target with
  | nil => simp
  | cons tabId rest ih =>
      rw [List.foldl_cons, ih]
      by_cases keeps : kept tabId = true
      · rw [if_pos keeps, List.mem_cons]
        constructor
        · rintro ⟨there, later⟩
          exact ⟨there, fun listed => listed.elim (fun same => same ▸ keeps) later⟩
        · rintro ⟨there, later⟩
          exact ⟨there, fun listed => later (.inr listed)⟩
      · rw [if_neg keeps, List.mem_cons]
        by_cases here : pair.2 = tabId
        · simp [reassign, here, keeps]
        · simp [reassign, here]

variable {desiredByTab : OrderedMap String (List String)}

theorem mem_desiredRelation {pair : String × String} : pair ∈ desiredRelation desiredByTab ↔
    ∃ desired, (pair.2, desired) ∈ desiredByTab.entries ∧ pair.1 ∈ desired := by
  simp only [desiredRelation, Set.mem_ofPred_eq, OrderedMap.mem_entries]

/-- The tabs of the map, and then the tabs that are not in it. -/
theorem reconcileEach_ok (returned : reconcileEach desiredByTab db = (.ok (), db')) :
    Reassigned db db' (desiredRelation desiredByTab) := by
  obtain ⟨_, mid, reconciled, returned⟩ := Handler.bind_ok returned
  obtain ⟨tabs, read, listed, cleared⟩ := Handler.bind_ok returned
  cases listed
  have first := Handler.forM_simulates (R := fun next target => Reassigned db next target)
    (f := fun target entry => reassign target entry.1 entry.2)
    (fun entry _ mid target next reached ran => reconcileTabInternal_ok reached ran)
    (Reassigned.refl db) reconciled
  have last := Handler.forM_simulates (R := fun next target => Reassigned db next target)
    (f := fun target tabId => if desiredByTab.has tabId then target else reassign target tabId [])
    (fun tabId _ mid target next reached ran => by
      split at ran
      · rename_i kept
        cases ran
        rwa [if_pos kept]
      · rename_i dropped
        rw [if_neg dropped]
        exact reconcileTabInternal_ok reached ran) first cleared
  convert last using 1
  ext pair
  rw [mem_foldl_clear, mem_desiredRelation, ← first.stored]
  have stored := mem_foldl_reassign desiredByTab.nodup (assigned db) pair
  rw [← first.stored] at stored
  have listed (there : pair ∈ assigned mid) :
      pair.2 ∈ ((fun db : Database => (db.automationTabAssignments.map Prod.snd).dedup) mid) :=
    List.mem_dedup.mpr (List.mem_map.mpr ⟨pair, there, rfl⟩)
  constructor
  · rintro ⟨desired, entry, member⟩
    have there := stored.mpr (.inl ⟨desired, entry, member⟩)
    have has : desiredByTab.has pair.2 = true :=
      OrderedMap.has_iff.mpr ⟨desired, OrderedMap.mem_entries.mp entry⟩
    exact ⟨there, fun _ => has⟩
  · rintro ⟨there, kept⟩
    rcases stored.mp there with found | ⟨absent, -⟩
    · exact found
    · exact absurd (OrderedMap.has_iff_mem_keys.mp (kept (listed there))) absent

/-- Where the relation is the desired one, nothing changes. -/
theorem reconcileEach_self (same : assigned db = desiredRelation desiredByTab) :
    reconcileEach desiredByTab db = (.ok (), db) := by
  unfold reconcileEach
  rw [Handler.bind_of_ok, Handler.bind_of_ok (Handler.asks_apply _ db)]
  · refine Handler.forM_eq_self fun tabId listed => ?_
    obtain ⟨pair, there, rfl⟩ := List.mem_map.mp (List.mem_dedup.mp listed)
    have wanted : pair ∈ desiredRelation desiredByTab := same ▸ there
    obtain ⟨desired, found, -⟩ := wanted
    rw [if_pos (OrderedMap.has_iff.mpr ⟨desired, found⟩)]
    rfl
  · refine Handler.forM_eq_self fun entry member => reconcileTabInternal_self fun automationId => ?_
    rw [same]
    have found : desiredByTab.get entry.1 = some entry.2 := OrderedMap.mem_entries.mp member
    constructor
    · rintro ⟨desired, there, wanted⟩
      rw [found] at there
      exact Option.some.inj there ▸ wanted
    · exact fun wanted => ⟨entry.2, found, wanted⟩

/-- It returns when every reference that is desired can be stored. -/
theorem reconcileEach_returns
    (referable : ∀ pair ∈ desiredRelation desiredByTab, Referable db pair) :
    ∃ db', reconcileEach desiredByTab db = (.ok (), db') := by
  have tabs : ∀ entry ∈ desiredByTab.entries, ∀ mid, (∃ target, Reassigned db mid target) →
      ∃ next, reconcileTabInternal entry.1 entry.2 mid = (.ok (), next) ∧
        ∃ target, Reassigned db next target := by
    rintro entry member mid ⟨target, reached⟩
    obtain ⟨next, ran⟩ := reconcileTabInternal_returns reached fun automationId wanted =>
      referable (automationId, entry.1) ⟨entry.2, OrderedMap.mem_entries.mp member, wanted⟩
    exact ⟨next, ran, _, reconcileTabInternal_ok reached ran⟩
  have others (listed : List String) : ∀ tabId ∈ listed, ∀ mid,
      (∃ target, Reassigned db mid target) →
      ∃ next, (if desiredByTab.has tabId then pure () else reconcileTabInternal tabId [] :
        Statement Unit) mid = (.ok (), next) ∧ ∃ target, Reassigned db next target := by
    rintro tabId - mid ⟨target, reached⟩
    split
    · exact ⟨mid, rfl, target, reached⟩
    · have none : ∀ automationId ∈ [], Referable db (automationId, tabId) :=
        fun automationId wanted => absurd wanted List.not_mem_nil
      obtain ⟨next, ran⟩ := reconcileTabInternal_returns reached none
      exact ⟨next, ran, _, reconcileTabInternal_ok reached ran⟩
  unfold reconcileEach
  obtain ⟨mid, reconciled, within⟩ := Handler.forM_returns tabs ⟨_, Reassigned.refl db⟩
  rw [Handler.bind_of_ok reconciled, Handler.bind_of_ok (Handler.asks_apply _ mid)]
  obtain ⟨db', cleared, -⟩ := Handler.forM_returns (others _) within
  exact ⟨db', cleared⟩

/-! ## The transaction -/

theorem atomically_of_ok {α : Type} {body : Statement α} {a : α}
    (returned : body db = (.ok a, db')) : Handler.atomically body db = (.ok a, db') := by
  rw [Handler.atomically, returned]

theorem reconcileAll_ok (returned : reconcileAll desiredByTab db = (.ok (), db')) :
    Reassigned db db' (desiredRelation desiredByTab) :=
  reconcileEach_ok (Handler.atomically_ok returned)

theorem reconcileAll_self (same : assigned db = desiredRelation desiredByTab) :
    reconcileAll desiredByTab db = (.ok (), db) :=
  atomically_of_ok (reconcileEach_self same)

theorem reconcileAll_returns
    (referable : ∀ pair ∈ desiredRelation desiredByTab, Referable db pair) :
    ∃ db', reconcileAll desiredByTab db = (.ok (), db') := by
  obtain ⟨db', returned⟩ := reconcileEach_returns referable
  exact ⟨db', atomically_of_ok returned⟩

end Aeolus.Auth
