/-
# Aeolus.Api.LayoutReconciliation — the assignments that a saved layout leaves

`PUT /api/layout` clears the assignments and rebuilds them from the panes of the request;
`reconcileAll` goes from whatever is stored to what the stored panes ask for.  A pane whose tab
id and type are texts is stored with both as they are and with its `config`, so the two read
the same references from it (`paneReference_stored`), and they end at the same relation.
-/
import Aeolus.Auth.OwnershipReconciliation
import Aeolus.Api.LayoutOwnership

namespace Aeolus.Api

open Aeolus.Core Aeolus.Db Aeolus.Auth Aeolus.Theory
open Handler

/-! ## The stored panes -/

/-- A stored pane; `parseConfig` of migration 006 takes what is no object for `{}`. -/
def storedPaneRef (row : PaneRow) : PaneRef where
  tabId := some (.str row.tabId)
  paneType := some (.str row.paneType)
  config :=
    match row.config with
    | .obj fields => .obj fields
    | _ => .obj []

/-- The extracted map, for tab ids that are texts. -/
def byTabId (byTab : RefsByTab) : OrderedMap String (List String) :=
  OrderedMap.empty.setAll
    (byTab.filterMap fun entry => (entry.1.bind Json.asString).map (·, entry.2))

/-- What the stored panes ask for; a reference to a rule that is not there is dropped. -/
def storedAssignments (db : Database) : OrderedMap String (List String) :=
  byTabId (extractAutomationAssignments (db.panes.map storedPaneRef)
    (some db.automationRules.keys))

/-- The panes of the request have texts for tab ids and types. -/
def TextPane (pane : Json) : Prop :=
  ∃ tabId paneType, pane.property "tabId" = some (.str tabId) ∧
    pane.property "paneType" = some (.str paneType)

/-! ## The extracted map -/

theorem desiredRelation_byTabId {byTab : RefsByTab} (nodup : (byTab.map Prod.fst).Nodup)
    (texts : ∀ key ∈ byTab.map Prod.fst, ∃ tabId, key = some (.str tabId)) :
    desiredRelation (byTabId byTab) = {pair | RefersTo byTab pair.2 pair.1} := by
  have listed : ∀ byTab : RefsByTab, (byTab.map Prod.fst).Nodup →
      (∀ key ∈ byTab.map Prod.fst, ∃ tabId, key = some (Json.str tabId)) →
      ((byTab.filterMap fun entry => (entry.1.bind Json.asString).map (·, entry.2)).map
        Prod.fst).Nodup := by
    intro byTab
    induction byTab with
    | nil => simp
    | cons entry rest ih =>
        intro nodup texts
        rw [List.map_cons, List.nodup_cons] at nodup
        obtain ⟨tabId, key⟩ := texts entry.1 (by simp)
        have later := ih nodup.2 fun key member => texts key (by simp [member])
        rw [List.filterMap_cons, key]
        refine List.nodup_cons.mpr ⟨fun again => ?_, later⟩
        obtain ⟨other, member, same⟩ := List.mem_map.mp again
        obtain ⟨source, there, made⟩ := List.mem_filterMap.mp member
        obtain ⟨text, named⟩ := texts source.1 (by simp [there, List.mem_map_of_mem])
        rw [named] at made
        cases made
        cases same
        exact nodup.1 (key ▸ named ▸ List.mem_map_of_mem there)
  ext pair
  have entries := OrderedMap.entries_setAll OrderedMap.empty (listed byTab nodup texts)
    fun _ _ => rfl
  rw [OrderedMap.entries_empty, List.nil_append] at entries
  rw [mem_desiredRelation, byTabId, entries]
  simp only [List.mem_filterMap]
  constructor
  · rintro ⟨refs, ⟨entry, member, made⟩, there⟩
    obtain ⟨tabId, key⟩ := texts entry.1 (List.mem_map_of_mem member)
    rw [key] at made
    cases made
    exact ⟨entry.2, key ▸ member, there⟩
  · rintro ⟨refs, member, there⟩
    exact ⟨refs, ⟨_, member, rfl⟩, there⟩

/-! ## One pane, submitted and stored -/

theorem notNull_ok {α : Type} {column : String} {given : Option α} {value : α}
    (passed : notNull column given = .ok value) : given = some value := by
  cases given with
  | none => cases passed
  | some found => rw [Except.ok.inj passed]

section Rows

variable {driver : Driver}

theorem paneRow_ok {pane : Json} {row : PaneRow} (stored : paneRow driver pane = .ok row) :
    driver.text (pane.property "tabId") = .ok (some row.tabId) ∧
      driver.text (pane.property "paneType") = .ok (some row.paneType) ∧
      row.config = orEmptyObject (pane.property "config") := by
  obtain ⟨given, -, stored⟩ := ok_of_bind stored
  obtain ⟨id, -, stored⟩ := ok_of_bind stored
  obtain ⟨tabId, tab, stored⟩ := ok_of_bind stored
  obtain ⟨paneType, type, stored⟩ := ok_of_bind stored
  obtain ⟨x, -, stored⟩ := ok_of_bind stored
  obtain ⟨y, -, stored⟩ := ok_of_bind stored
  obtain ⟨w, -, stored⟩ := ok_of_bind stored
  obtain ⟨h, -, stored⟩ := ok_of_bind stored
  obtain ⟨createdAt, -, stored⟩ := ok_of_bind stored
  obtain ⟨tabText, tabThere, stored⟩ := ok_of_bind stored
  obtain ⟨typeText, typeThere, stored⟩ := ok_of_bind stored
  obtain ⟨_, -, stored⟩ := ok_of_bind stored
  obtain ⟨_, -, stored⟩ := ok_of_bind stored
  obtain ⟨_, -, stored⟩ := ok_of_bind stored
  obtain ⟨_, -, stored⟩ := ok_of_bind stored
  obtain ⟨_, -, stored⟩ := ok_of_bind stored
  cases stored
  rw [tab, type, notNull_ok tabThere, notNull_ok typeThere]
  exact ⟨rfl, rfl, rfl⟩

theorem paneRef_ok {pane : Json} {ref : PaneRef} (read : paneRef pane = .ok ref) :
    ref = ⟨pane.property "tabId", pane.property "paneType",
      orEmptyObject (pane.property "config")⟩ := by
  obtain ⟨tabId, found, read⟩ := ok_of_bind read
  cases read
  unfold propertyOf at found
  split at found <;> cases found
  rfl

variable (texts : ∀ text, driver.text (some (.str text)) = .ok (some text))

include texts

/-- A pane with texts refers to the same, submitted and stored. -/
theorem paneReference_stored {pane : Json} {row : PaneRow} {ref : PaneRef} (shape : TextPane pane)
    (stored : paneRow driver pane = .ok row) (read : paneRef pane = .ok ref)
    (paneType field : String) :
    ref.tabId = some (.str row.tabId) ∧
      paneReference paneType field ref = paneReference paneType field (storedPaneRef row) := by
  obtain ⟨tab, type, config⟩ := paneRow_ok stored
  obtain ⟨tabId, kind, tabGiven, typeGiven⟩ := shape
  rw [tabGiven, texts] at tab
  rw [typeGiven, texts] at type
  rw [paneRef_ok read, tabGiven, typeGiven, ← config]
  cases tab
  cases type
  refine ⟨rfl, ?_⟩
  unfold paneReference storedPaneRef
  dsimp only
  cases row.config <;> rfl

omit texts in
/-- The panes that were stored, in the order of the request, each on a stored tab. -/
theorem storePanes_ok {panesData : List Json} {db db' : Database}
    (returned : panesData.forM (storePane driver) db = (.ok (), db')) :
    ∃ rows, List.Forall₂ (fun pane row => paneRow driver pane = .ok row) panesData rows ∧
      db' = { db with panes := db.panes ++ rows } ∧
      ∀ row ∈ rows, db.hasTab row.tabId = true := by
  induction panesData generalizing db with
  | nil =>
      cases returned
      exact ⟨[], .nil, by rw [List.append_nil], by simp⟩
  | cons pane rest ih =>
      obtain ⟨_, mid, first, returned⟩ := bind_ok returned
      obtain ⟨row, made, inserted⟩ := check_ok first
      unfold insertPane at inserted
      split at inserted
      · cases inserted
      · split at inserted
        · cases inserted
        · rename_i there
          cases inserted
          obtain ⟨rows, shapes, result, tabs⟩ := ih returned
          have here : db.hasTab row.tabId = true := by simpa using there
          refine ⟨row :: rows, .cons made shapes, ?_, List.forall_mem_cons.mpr ⟨here, tabs⟩⟩
          rw [result, List.append_assoc]
          rfl

/-- The references of the map, for tab ids that are texts, are inserted. -/
theorem insertReferences_ok {byTab : RefsByTab} {start db db' : Database}
    {target : Set (String × String)}
    (keys : ∀ key ∈ byTab.map Prod.fst, ∃ tabId, key = some (.str tabId))
    (reached : Reassigned start db target)
    (returned : insertReferences driver insertAutomationTabAssignment byTab db = (.ok (), db')) :
    Reassigned start db' {pair | pair ∈ target ∨ RefersTo byTab pair.2 pair.1} := by
  have all := forM_simulates (R := fun next target => Reassigned start next target)
    (f := fun target entry =>
      target ∪ {pair | entry.1 = some (.str pair.2) ∧ pair.1 ∈ entry.2})
    (fun entry member db target db' reached inserted => by
      obtain ⟨tabId, key⟩ := keys entry.1 (List.mem_map_of_mem member)
      have one := forM_simulates (R := fun next target => Reassigned start next target)
        (f := fun target ref => target ∪ {(ref, tabId)})
        (fun ref _ db target db' reached inserted => by
          obtain ⟨text, read, inserted⟩ := check_ok inserted
          rw [key, texts] at read
          cases read
          exact reached.insert inserted) reached inserted
      convert one using 1
      ext pair
      rw [mem_foldl_union, key, Set.mem_union]
      refine or_congr Iff.rfl ⟨?_, ?_⟩
      · rintro ⟨same, there⟩
        cases same
        exact ⟨pair.1, there, rfl⟩
      · rintro ⟨ref, there, same⟩
        cases Set.mem_singleton_iff.mp same
        exact ⟨rfl, there⟩) reached returned
  convert all using 1
  ext pair
  rw [mem_foldl_union]
  refine or_congr Iff.rfl ⟨?_, ?_⟩
  · rintro ⟨refs, member, there⟩
    exact ⟨_, member, rfl, there⟩
  · rintro ⟨entry, member, key, there⟩
    exact ⟨entry.2, key ▸ member, there⟩

/-- Nothing but the collection assignments changed. -/
def OnlyCollections (db db' : Database) : Prop :=
  db' = { db with collectionTabAssignments := db'.collectionTabAssignments }

omit texts in
theorem insertReferences_collections (byTab : RefsByTab) : Follows OnlyCollections
    (insertReferences driver insertCollectionTabAssignment byTab) := by
  have refl (db : Database) : OnlyCollections db db := rfl
  have trans (a b c : Database) (first : OnlyCollections a b) (next : OnlyCollections b c) :
      OnlyCollections a c := by
    rw [OnlyCollections, next, first]
  refine follows_forM refl trans (fun entry => ?_) byTab
  refine follows_forM refl trans (fun ref => ?_) entry.2
  intro db _ db' returned
  obtain ⟨tabId, -, inserted⟩ := check_ok returned
  unfold insertCollectionTabAssignment at inserted
  split at inserted
  · cases inserted
    exact refl db
  · split at inserted
    · cases inserted
      exact refl db
    · split at inserted <;> cases inserted
      exact rfl

def SamePanes (db db' : Database) : Prop := db'.panes = db.panes

omit texts in
theorem storeTabs_panes (tabsData : List Json) :
    Follows SamePanes (tabsData.forM (storeTab driver)) := by
  have refl (db : Database) : SamePanes db db := rfl
  have trans (a b c : Database) (first : SamePanes a b) (next : SamePanes b c) : SamePanes a c :=
    next.trans first
  refine follows_forM refl trans (fun tab => ?_) tabsData
  intro db _ db' returned
  obtain ⟨row, -, inserted⟩ := check_ok returned
  unfold insertTab at inserted
  split at inserted <;> cases inserted
  exact refl db

/-- What the submitted panes refer to is what the stored ones refer to. -/
theorem extract_stored {panesData : List Json} {rows : List PaneRow} {refs : List PaneRef}
    (shapes : ∀ pane ∈ panesData, TextPane pane)
    (stored : List.Forall₂ (fun pane row => paneRow driver pane = .ok row) panesData rows)
    (read : List.Forall₂ (fun pane ref => paneRef pane = .ok ref) panesData refs)
    (paneType field : String) (keep : String → Bool) : extractReferences paneType field keep refs =
      extractReferences paneType field keep (rows.map storedPaneRef) := by
  unfold extractReferences
  generalize ([] : RefsByTab) = byTab
  induction stored generalizing refs byTab with
  | nil =>
      cases read
      rfl
  | cons first _ ih =>
      cases read with
      | cons here later =>
          obtain ⟨shape, others⟩ := List.forall_mem_cons.mp shapes
          obtain ⟨tab, same⟩ := paneReference_stored texts shape first here paneType field
          rw [List.foldl_cons, List.map_cons, List.foldl_cons, same, tab]
          exact ih others later _

omit texts in
theorem storedPaneRef_texts (rows : List PaneRow) :
    ∀ ref ∈ rows.map storedPaneRef, ∃ tabId, ref.tabId = some (.str tabId) := by
  intro ref member
  obtain ⟨row, -, rfl⟩ := List.mem_map.mp member
  exact ⟨row.tabId, rfl⟩

omit texts in
/-- What the stored panes ask for names a stored rule, on the tab of a stored pane. -/
theorem mem_storedAssignments {db : Database} {pair : String × String}
    (wanted : pair ∈ desiredRelation (storedAssignments db)) :
    db.automationRules.has pair.1 = true ∧ ∃ row ∈ db.panes, row.tabId = pair.2 := by
  obtain ⟨nodup, keys, refers⟩ := extractAutomationAssignments_spec db.automationRules.keys
    (storedPaneRef_texts db.panes)
  rw [storedAssignments, desiredRelation_byTabId nodup keys] at wanted
  obtain ⟨ref, member, tab, -, kept⟩ := (refers pair.2 pair.1).mp wanted
  obtain ⟨row, there, rfl⟩ := List.mem_map.mp member
  exact ⟨OrderedMap.has_iff_mem_keys.mpr kept, row, there, by simpa [storedPaneRef] using tab⟩

/-- The tables after a transaction that returned: the assignments are those that the stored panes
ask for, and all that these ask for may be stored. -/
theorem rewriteTables_assigned {tabsData panesData : List Json} {db db' : Database}
    (shapes : ∀ pane ∈ panesData, TextPane pane)
    (returned : rewriteTables driver tabsData panesData db = (.ok (), db')) :
    assigned db' = desiredRelation (storedAssignments db') ∧
      ∀ pair ∈ desiredRelation (storedAssignments db'), Referable db' pair := by
  obtain ⟨_, withoutPanes, panesDeleted, returned⟩ := bind_ok returned
  obtain ⟨_, cleared, tabsDeleted, returned⟩ := bind_ok returned
  obtain ⟨_, withTabs, tabsStored, returned⟩ := bind_ok returned
  obtain ⟨_, withPanes, panesStored, returned⟩ := bind_ok returned
  obtain ⟨_, unassigned, assignmentsDeleted, returned⟩ := bind_ok returned
  obtain ⟨ids, sameDb, listed, returned⟩ := bind_ok returned
  cases listed
  obtain ⟨refs, read, returned⟩ := check_ok returned
  obtain ⟨_, rebuilt, inserted, returned⟩ := bind_ok returned
  obtain ⟨_, emptied, collectionsDeleted, collected⟩ := bind_ok returned
  have none : withTabs.panes = [] := by
    have still := storeTabs_panes tabsData cleared _ withTabs tabsStored
    cases panesDeleted
    cases tabsDeleted
    exact still
  obtain ⟨rows, stored, result, onTabs⟩ := storePanes_ok panesStored
  rw [none, List.nil_append] at result
  cases assignmentsDeleted
  cases collectionsDeleted
  obtain ⟨nodup, keys, -⟩ := extractAutomationAssignments_spec withPanes.automationRules.keys
    (storedPaneRef_texts rows)
  rw [extractAutomationAssignments, extract_stored texts shapes stored (forall₂_of_mapM read),
    ← extractAutomationAssignments] at inserted
  have reached := insertReferences_ok texts keys (Reassigned.refl _) inserted
  have last := insertReferences_collections _ _ _ _ collected
  have panes : db'.panes = rows := by rw [last, reached.rest, result]
  have rules : db'.automationRules = withPanes.automationRules := by rw [last, reached.rest]
  have wanted : storedAssignments db' = byTabId (extractAutomationAssignments
      (rows.map storedPaneRef) (some withPanes.automationRules.keys)) := by
    rw [storedAssignments, panes, rules]
  refine ⟨?_, fun pair member => ?_⟩
  · rw [wanted, desiredRelation_byTabId nodup keys]
    have cleared : assigned { withPanes with automationTabAssignments := [] } = ∅ := by
      ext pair
      simp [assigned]
    have same : assigned db' = assigned rebuilt := by
      rw [last]
      rfl
    rw [same, reached.stored, cleared]
    simp
  · obtain ⟨rule, row, there, tab⟩ := mem_storedAssignments member
    rw [panes] at there
    refine ⟨rule, ?_⟩
    rw [← tab, Database.hasTab, last, reached.rest, result]
    exact onTabs row there

/-- The assignments of an accepted layout are those that its stored panes ask for. -/
theorem putLayout_assigned {req : LayoutRequest} {db db' : Database} {revision : Nat}
    {tabs panes : List Json} (accepted : putLayout driver req db = (.ok revision, db'))
    (body : layoutArrays req.body = .ok (tabs, panes)) (shapes : ∀ pane ∈ panes, TextPane pane) :
    assigned db' = desiredRelation (storedAssignments db') ∧
      ∀ pair ∈ desiredRelation (storedAssignments db'), Referable db' pair := by
  obtain ⟨_, _, returned⟩ := check_ok accepted
  obtain ⟨layout, arrays, returned⟩ := check_ok returned
  rw [body] at arrays
  cases arrays
  obtain ⟨expected, _, returned⟩ := check_ok returned
  obtain ⟨_, saved, replaced, answered⟩ := bind_ok returned
  cases answered
  obtain ⟨_, advanced, _, returned⟩ := bind_ok (atomically_ok replaced)
  obtain ⟨_, checked, _, rewritten⟩ := bind_ok returned
  exact rewriteTables_assigned texts shapes rewritten

end Rows

/-- A reconciliation that returns leaves the desired relation, which a second one leaves alone;
one that would store a reference to nothing throws and leaves the tables alone; and the
assignments of an accepted layout are those to which the stored panes are reconciled, from
whatever is stored. -/
theorem ownership_reconciled (driver : Driver)
    (texts : ∀ text, driver.text (some (.str text)) = .ok (some text)) :
    (∀ (desiredByTab : OrderedMap String (List String)) (db db' : Database),
      (reconcileAll desiredByTab db = (.ok (), db') →
        (∀ automationId tabId, (automationId, tabId) ∈ db'.automationTabAssignments ↔
          ∃ desired, desiredByTab.get tabId = some desired ∧ automationId ∈ desired) ∧
        reconcileAll desiredByTab db' = (.ok (), db')) ∧
      (∀ failure, reconcileAll desiredByTab db = (.error failure, db') → db' = db) ∧
      ((∃ automationId tabId desired, desiredByTab.get tabId = some desired ∧
          automationId ∈ desired ∧ (automationId, tabId) ∉ db.automationTabAssignments ∧
          (db.automationRules.has automationId = false ∨ db.hasTab tabId = false)) →
        ∃ failure, reconcileAll desiredByTab db = (.error failure, db))) ∧
    ∀ (req : LayoutRequest) (db db' : Database) (revision : Nat) (tabs panes : List Json),
      putLayout driver req db = (.ok revision, db') → layoutArrays req.body = .ok (tabs, panes) →
      (∀ pane ∈ panes, TextPane pane) → ∀ assignments, ∃ db'',
        reconcileAll (storedAssignments db')
          { db' with automationTabAssignments := assignments } = (.ok (), db'') ∧
        ∀ pair, pair ∈ db''.automationTabAssignments ↔ pair ∈ db'.automationTabAssignments := by
  have atomic (desiredByTab : OrderedMap String (List String)) :
      Atomic (reconcileAll desiredByTab) := atomic_atomically _
  refine ⟨fun desiredByTab db db' => ⟨fun returned => ?_, fun failure threw => ?_, ?_⟩, ?_⟩
  · have reached := reconcileAll_ok returned
    refine ⟨fun automationId tabId => ?_, reconcileAll_self reached.stored⟩
    rw [← mem_assigned, reached.stored]
    rfl
  · exact atomic desiredByTab _ _ _ threw
  · rintro ⟨automationId, tabId, desired, found, wanted, missing, dangling⟩
    cases outcome : reconcileAll desiredByTab db with
    | mk result after =>
        cases result with
        | error failure =>
            rw [atomic desiredByTab _ _ _ outcome]
            exact ⟨failure, rfl⟩
        | ok _ =>
            have pair : (automationId, tabId) ∈ desiredRelation desiredByTab :=
              ⟨desired, found, wanted⟩
            rcases (reconcileAll_ok outcome).referable _ pair with there | ⟨rule, tab⟩
            · exact absurd there missing
            · rcases dangling with none | none
              · rw [none] at rule
                cases rule
              · rw [none] at tab
                cases tab
  · intro req db db' revision tabs panes accepted body shapes assignments
    obtain ⟨stored, referable⟩ := putLayout_assigned texts accepted body shapes
    let other : Database := { db' with automationTabAssignments := assignments }
    have still : ∀ pair ∈ desiredRelation (storedAssignments db'), Referable other pair := referable
    obtain ⟨db'', returned⟩ := reconcileAll_returns still
    refine ⟨db'', returned, fun pair => ?_⟩
    rw [← mem_assigned, (reconcileAll_ok returned).stored, ← stored, mem_assigned]

/-- A layout with one pane, for the rule of the porch. -/
def savePorch : LayoutRequest where
  user := some ⟨"root", .admin⟩
  ifMatch := some "1"
  body := some (.obj
    [("tabs", .arr [.obj [("id", .str "garden"), ("name", .str "Garden"), ("icon", .str "layout"),
        ("order", .num 0), ("pinned", .bool false), ("createdAt", .num 0)]]),
      ("panes", .arr [.obj [("id", .str "switch"), ("tabId", .str "garden"),
        ("paneType", .str "automation"), ("config", .obj [("ruleId", .str "porch")]),
        ("x", .num 0), ("y", .num 0), ("w", .num 1), ("h", .num 1), ("createdAt", .num 0)]])])

theorem ownership_reconciled_porch :
    (putLayout plainDriver savePorch gardenDb).1 = .ok 2 ∧ ∃ db'',
      reconcileAll (storedAssignments (putLayout plainDriver savePorch gardenDb).2)
        { (putLayout plainDriver savePorch gardenDb).2 with automationTabAssignments := [] } =
          (.ok (), db'') ∧ ("porch", "garden") ∈ db''.automationTabAssignments := by
  have accepted : (putLayout plainDriver savePorch gardenDb).1 = .ok 2 := by decide +kernel
  have stored : ("porch", "garden") ∈
      (putLayout plainDriver savePorch gardenDb).2.automationTabAssignments := by decide +kernel
  refine ⟨accepted, ?_⟩
  obtain ⟨db'', returned, same⟩ := (ownership_reconciled plainDriver fun _ => rfl).2 savePorch
    gardenDb _ 2 _ _ (Prod.ext accepted rfl) rfl (by
      intro pane member
      obtain rfl := List.mem_singleton.mp member
      exact ⟨"garden", "automation", rfl, rfl⟩) []
  exact ⟨db'', returned, (same _).mpr stored⟩

end Aeolus.Api
