/-
# Aeolus.Auth.AutomationExposure — the exposing tabs of many automations at once

`getExposingTabsBatch` of `src/auth/resource-ownership-store.ts`: two queries for a whole
list of ids, one of the assignments and one of the owning tabs, collected in one set of tabs
for each id.

`mem_getExposingTabsBatch` says that each id of the list, however often it is there and
whether or not an automation has it, gets the tabs that `getExposingTabs` gives it alone.
So a list endpoint keeps exactly what the guard of a single resource lets through
(`permissions_coherent`).
-/
import Mathlib.Data.List.Dedup
import Aeolus.Auth.PermissionResolver

namespace Aeolus.Auth

open Aeolus.Core Aeolus.Db Aeolus.Theory

namespace AutomationExposure

/-- `sets.get(id)?.add(tabId)` -/
def add (sets : OrderedMap String (List String)) (id tabId : String) :
    OrderedMap String (List String) :=
  match sets.get id with
  | none => sets
  | some tabs => sets.set id (if tabId ∈ tabs then tabs else tabs ++ [tabId])

/-- Every id with no tab yet; an id that is repeated is one key. -/
def blank (automationIds : List String) : OrderedMap String (List String) :=
  automationIds.foldl (fun result id => result.set id []) .empty

def getExposingTabsBatch (db : Database) (automationIds : List String) :
    OrderedMap String (List String) :=
  let result := blank automationIds
  if automationIds = [] then result
  else
    let rows := db.automationTabAssignments.filter (·.1 ∈ automationIds)
    let sets := rows.foldl (fun sets row => add sets row.1 row.2) (blank automationIds)
    let ownerRows := db.automationRules.entries.filter (·.1 ∈ automationIds)
    let sets := ownerRows.foldl (fun sets row =>
      match truthy row.2.ownerTabId with
      | some ownerTab => add sets row.1 ownerTab
      | none => sets) sets
    sets.entries.foldl (fun result entry => result.set entry.1 entry.2) result

end AutomationExposure

/-- `createResourceOwnershipStore`, its readers. -/
def resourceOwnershipStore (db : Database) : ExposureStore where
  getExposingTabs := getExposingTabs db
  getExposingTabsBatch := AutomationExposure.getExposingTabsBatch db

/-- The rank of an effective permission; `NONE_RANK` is below every level. -/
def effectiveRank : Option PermissionLevel → Nat
  | none => 0
  | some level => level.rank

namespace AutomationExposure

/-! ## The sets of tabs -/

variable {db : Database} {automationIds : List String} {id tabId : String}

theorem get_blank :
    (blank automationIds).get id = if id ∈ automationIds then some [] else none := by
  suffices loop : ∀ result : OrderedMap String (List String),
      (automationIds.foldl (fun result id => result.set id []) result).get id =
        if id ∈ automationIds then some [] else result.get id by
    exact loop .empty
  induction automationIds with
  | nil => simp
  | cons first rest ih =>
      intro result
      rw [List.foldl_cons, ih, OrderedMap.get_set]
      by_cases later : id ∈ rest <;> by_cases here : id = first <;> simp [later, here]

/-- Adding a tab makes no new key. -/
theorem has_add (sets : OrderedMap String (List String)) (first tabId id : String) :
    (add sets first tabId).has id = sets.has id := by
  unfold add
  cases found : sets.get first with
  | none => rfl
  | some tabs =>
      by_cases here : id = first
      · simp [OrderedMap.has, here, found]
      · simp [OrderedMap.has, OrderedMap.get_set_of_ne _ _ here]

/-- The tabs of an id; none when it is no key. -/
def tabsOf (sets : OrderedMap String (List String)) (id : String) : List String :=
  (sets.get id).getD []

theorem mem_tabsOf_add {sets : OrderedMap String (List String)} {first added : String} :
    tabId ∈ tabsOf (add sets first added) id ↔
      tabId ∈ tabsOf sets id ∨ (sets.has id = true ∧ id = first ∧ tabId = added) := by
  unfold add tabsOf
  cases found : sets.get first with
  | none =>
      have unknown : id = first → sets.has id = false := by
        rintro rfl
        simp [OrderedMap.has, found]
      refine (or_iff_left ?_).symm
      rintro ⟨has, here, -⟩
      simp [unknown here] at has
  | some tabs =>
      by_cases here : id = first
      · subst here
        by_cases there : added ∈ tabs
        · simp only [if_pos there, OrderedMap.get_set_self, Option.getD_some, found]
          refine (or_iff_left_of_imp ?_).symm
          rintro ⟨-, -, rfl⟩
          exact there
        · simp [there, found, OrderedMap.has]
      · simp [OrderedMap.get_set_of_ne _ _ here, here]

theorem has_foldl_add (pairs : List (String × String)) (sets : OrderedMap String (List String))
    (id : String) :
    (pairs.foldl (fun sets pair => add sets pair.1 pair.2) sets).has id = sets.has id := by
  induction pairs generalizing sets with
  | nil => rfl
  | cons pair pairs ih => rw [List.foldl_cons, ih, has_add]

theorem mem_tabsOf_foldl_add (pairs : List (String × String))
    (sets : OrderedMap String (List String)) :
    tabId ∈ tabsOf (pairs.foldl (fun sets pair => add sets pair.1 pair.2) sets) id ↔
      tabId ∈ tabsOf sets id ∨ (sets.has id = true ∧ (id, tabId) ∈ pairs) := by
  induction pairs generalizing sets with
  | nil => simp
  | cons pair pairs ih =>
      have first : (id = pair.1 ∧ tabId = pair.2) ↔ (id, tabId) = pair := by
        rw [Prod.ext_iff]
      rw [List.foldl_cons, ih, mem_tabsOf_add, has_add, List.mem_cons, first, or_assoc,
        ← and_or_left]

/-! ## The batch -/

/-- The rows of the second query that name a tab, as pairs. -/
def ownerPairs (db : Database) (automationIds : List String) : List (String × String) :=
  (db.automationRules.entries.filter (·.1 ∈ automationIds)).filterMap fun row =>
    (truthy row.2.ownerTabId).map fun ownerTab => (row.1, ownerTab)

theorem mem_ownerPairs :
    (id, tabId) ∈ ownerPairs db automationIds ↔
      id ∈ automationIds ∧ truthy (getOwnerTab db id) = some tabId := by
  simp only [ownerPairs, List.mem_filterMap, List.mem_filter, decide_eq_true_eq,
    Option.map_eq_some_iff, Prod.mk.injEq]
  constructor
  · rintro ⟨⟨found, row⟩, ⟨stored, asked⟩, ownerTab, named, rfl, rfl⟩
    refine ⟨asked, ?_⟩
    simpa [getOwnerTab, OrderedMap.mem_entries.mp stored] using named
  · rintro ⟨asked, named⟩
    cases stored : db.automationRules.get id with
    | none => simp [getOwnerTab, stored, truthy] at named
    | some row =>
        refine ⟨(id, row), ⟨OrderedMap.mem_entries.mpr stored, asked⟩, tabId, ?_, rfl, rfl⟩
        simpa [getOwnerTab, stored] using named

/-- The sets when both queries have been read. -/
def collected (db : Database) (automationIds : List String) : OrderedMap String (List String) :=
  (db.automationTabAssignments.filter (·.1 ∈ automationIds) ++ ownerPairs db automationIds).foldl
    (fun sets pair => add sets pair.1 pair.2) (blank automationIds)

theorem has_collected : (collected db automationIds).has id = true ↔ id ∈ automationIds := by
  rw [collected, has_foldl_add, OrderedMap.has, get_blank]
  by_cases asked : id ∈ automationIds <;> simp [asked]

theorem mem_tabsOf_collected : tabId ∈ tabsOf (collected db automationIds) id ↔
    id ∈ automationIds ∧
      ((id, tabId) ∈ db.automationTabAssignments ∨ truthy (getOwnerTab db id) = some tabId) := by
  have nothing : tabsOf (blank automationIds) id = [] := by
    by_cases asked : id ∈ automationIds <;> simp [tabsOf, get_blank, asked]
  have known : (blank automationIds).has id = true ↔ id ∈ automationIds := by
    by_cases asked : id ∈ automationIds <;> simp [OrderedMap.has, get_blank, asked]
  rw [collected, mem_tabsOf_foldl_add, nothing, known, List.mem_append, mem_ownerPairs]
  simp only [List.not_mem_nil, false_or, List.mem_filter, decide_eq_true_eq]
  tauto

/-- The entries of a map set into another. -/
theorem get_foldl_entries (sets result : OrderedMap String (List String)) (id : String) :
    (sets.entries.foldl (fun result entry => result.set entry.1 entry.2) result).get id =
      (sets.get id).or (result.get id) := by
  suffices loop : ∀ (entries : List (String × List String)), (entries.map Prod.fst).Nodup →
      ∀ result : OrderedMap String (List String),
        (entries.foldl (fun result entry => result.set entry.1 entry.2) result).get id =
          ((entries.find? fun entry => entry.1 = id).map Prod.snd).or (result.get id) from
    loop sets.entries sets.nodup result
  intro entries
  induction entries with
  | nil => simp
  | cons entry entries ih =>
      intro nodup result
      obtain ⟨fresh, rest⟩ := List.nodup_cons.mp nodup
      rw [List.foldl_cons, ih rest]
      by_cases here : entry.1 = id
      · have absent : entries.find? (fun entry => entry.1 = id) = none := by
          refine List.find?_eq_none.mpr fun other member => ?_
          intro same
          exact fresh (List.mem_map.mpr ⟨other, member, (of_decide_eq_true same).trans here.symm⟩)
        simp [absent, here]
      · have away : ¬id = entry.1 := fun same => here same.symm
        simp [here, OrderedMap.get_set_of_ne _ _ away]

/-- What the batch holds: nothing for an id that was not asked for. -/
theorem get_getExposingTabsBatch : (getExposingTabsBatch db automationIds).get id =
    if id ∈ automationIds then some (tabsOf (collected db automationIds) id) else none := by
  unfold getExposingTabsBatch
  by_cases empty : automationIds = []
  · simp [empty, get_blank]
  · have both : (db.automationRules.entries.filter (·.1 ∈ automationIds)).foldl (fun sets row =>
          match truthy row.2.ownerTabId with
          | some ownerTab => add sets row.1 ownerTab
          | none => sets)
        ((db.automationTabAssignments.filter (·.1 ∈ automationIds)).foldl
          (fun sets row => add sets row.1 row.2) (blank automationIds)) =
        collected db automationIds := by
      rw [collected, List.foldl_append, ownerPairs, List.foldl_filterMap]
      congr 1
      funext sets row
      cases truthy row.2.ownerTabId <;> rfl
    rw [if_neg empty]
    simp only [both, get_foldl_entries]
    by_cases asked : id ∈ automationIds
    · have known : (collected db automationIds).has id = true := has_collected.mpr asked
      obtain ⟨tabs, found⟩ := OrderedMap.has_iff.mp known
      simp [asked, found, tabsOf]
    · have unknown : ¬(collected db automationIds).has id = true := mt has_collected.mp asked
      have absent : (collected db automationIds).get id = none := by
        simpa [OrderedMap.has] using unknown
      simp [asked, absent, get_blank]

theorem mem_getExposingTabs_automation : tabId ∈ getExposingTabs db id ↔
    (id, tabId) ∈ db.automationTabAssignments ∨ truthy (getOwnerTab db id) = some tabId := by
  have assigned (tabId : String) :
      tabId ∈ ((db.automationTabAssignments.filter (·.1 = id)).map Prod.snd).dedup ↔
        (id, tabId) ∈ db.automationTabAssignments := by
    simp
  unfold getExposingTabs
  cases owner : truthy (getOwnerTab db id) with
  | none => simp
  | some ownerTab =>
      simp only [Option.some.injEq]
      split
      · next there =>
          rw [assigned, iff_self_or]
          intro same
          rw [← same]
          exact (assigned ownerTab).mp there
      · rw [List.mem_append, assigned, List.mem_singleton, eq_comm]

/-- **One by one or at once.**  Each id of the list has the tabs that it has alone. -/
theorem mem_getExposingTabsBatch (asked : id ∈ automationIds) :
    ∃ tabs, (getExposingTabsBatch db automationIds).get id = some tabs ∧
      ∀ tabId, tabId ∈ tabs ↔ tabId ∈ getExposingTabs db id := by
  refine ⟨tabsOf (collected db automationIds) id, ?_, fun tabId => ?_⟩
  · rw [get_getExposingTabsBatch, if_pos asked]
  · rw [mem_tabsOf_collected, mem_getExposingTabs_automation, and_iff_right asked]

end AutomationExposure

namespace PermissionResolver

/-- The best rank depends on which tabs there are, not on their order. -/
theorem le_maxRankOverTabs_congr {tabs others : List String} {rankByTab : OrderedMap String Nat}
    (same : ∀ tabId, tabId ∈ tabs ↔ tabId ∈ others) (level : PermissionLevel) :
    level.rank ≤ maxRankOverTabs tabs rankByTab ↔
      level.rank ≤ maxRankOverTabs others rankByTab := by
  rw [le_maxRankOverTabs level.rank_pos, le_maxRankOverTabs level.rank_pos]
  exact exists_congr fun tabId => and_congr_left fun _ => same tabId

/-- A store whose batch agrees with it id by id filters as the guard decides. -/
theorem filterByPermission_eq {r : PermissionResolver} {kind : ResourceKind} {ids : List String}
    (agrees : ∀ id ∈ ids, ∃ tabs, ((r.store kind).getExposingTabsBatch ids).get id = some tabs ∧
      ∀ tabId, tabId ∈ tabs ↔ tabId ∈ (r.store kind).getExposingTabs id)
    (userId : String) (required : PermissionLevel) :
    r.filterByPermission userId kind ids required =
      ids.filter fun id => r.hasResourcePermission userId kind id required := by
  unfold filterByPermission hasResourcePermission
  by_cases empty : ids = []
  · simp [empty]
  · rw [if_neg empty]
    cases r.getUserGroupId userId with
    | none => simp
    | some groupId =>
        apply List.filter_congr
        intro id asked
        obtain ⟨tabs, found, same⟩ := agrees id asked
        simp only [found, Option.getD_some]
        exact decide_eq_decide.mpr (le_maxRankOverTabs_congr same required)

theorem hasResourcePermission_iff_rank {r : PermissionResolver} {userId resourceId : String}
    {kind : ResourceKind} {required : PermissionLevel} :
    r.hasResourcePermission userId kind resourceId required = true ↔
      required.rank ≤ effectiveRank (r.effectivePermission userId kind resourceId) := by
  rw [hasResourcePermission_iff]
  cases r.effectivePermission userId kind resourceId with
  | none => simp [effectiveRank, Nat.not_le.mpr required.rank_pos]
  | some level => simp [effectiveRank]

/-- **Coherent permissions** of automations: the list endpoints and the guards of one
resource decide alike, and as the effective permission says. -/
theorem permissions_coherent (db : Database) (devices : ExposureStore) (tables : PermissionTables)
    (userId : String) (ids : List String) (level : PermissionLevel) :
    let r : PermissionResolver := ⟨resourceOwnershipStore db, devices, tables⟩
    (r.filterByPermission userId .automation ids level =
        ids.filter fun id => r.hasResourcePermission userId .automation id level) ∧
      (∀ id, r.hasResourcePermission userId .automation id level = true ↔
        level.rank ≤ effectiveRank (r.effectivePermission userId .automation id)) ∧
      ∀ id ∈ ids,
        ∃ tabs, ((resourceOwnershipStore db).getExposingTabsBatch ids).get id = some tabs ∧
          ∀ tabId, tabId ∈ tabs ↔ tabId ∈ (resourceOwnershipStore db).getExposingTabs id := by
  intro r
  have agrees : ∀ id ∈ ids,
      ∃ tabs, ((resourceOwnershipStore db).getExposingTabsBatch ids).get id = some tabs ∧
        ∀ tabId, tabId ∈ tabs ↔ tabId ∈ (resourceOwnershipStore db).getExposingTabs id :=
    fun id asked => AutomationExposure.mem_getExposingTabsBatch asked
  refine ⟨?_, fun id => hasResourcePermission_iff_rank, agrees⟩
  exact filterByPermission_eq agrees userId level

end PermissionResolver

end Aeolus.Auth
