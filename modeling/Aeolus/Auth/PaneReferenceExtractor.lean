/-
# Aeolus.Auth.PaneReferenceExtractor — which tab exposes which automation or collection

`src/auth/pane-reference-extractor.ts`.  Both extractors walk the panes and collect, by
tab, the distinct names that one kind of pane carries in one field of its `config`.
The panes come from a request body: a tab id is whatever JSON value was submitted, and
the map groups by it as a JavaScript `Map` does.
-/
import Mathlib.Data.List.Induction
import Aeolus.Core.Json

namespace Aeolus.Auth

open Aeolus.Core

structure PaneRef where
  tabId : Option Json
  paneType : Option Json
  config : Json

/-- A `Map` from tab ids to sets of names, in insertion order. -/
abbrev RefsByTab := List (Option Json × List String)

/-- Add `ref` to the set of its tab. -/
def addRef (tabId : Option Json) (ref : String) : RefsByTab → RefsByTab
  | [] => [(tabId, [ref])]
  | (key, refs) :: rest =>
    if sameValueZero key tabId then (key, if ref ∈ refs then refs else refs ++ [ref]) :: rest
    else (key, refs) :: addRef tabId ref rest

/-- The name a pane of type `paneType` carries in `config[field]`: a string that is not
empty. -/
def paneReference (paneType field : String) (pane : PaneRef) : Option String :=
  match pane.paneType.bind Json.asString with
  | some type =>
    if type = paneType then
      ((pane.config.property field).bind Json.asString).filter (· ≠ "")
    else none
  | none => none

/-- The names, by tab, of the panes of one type that pass `keep`. -/
def extractReferences (paneType field : String) (keep : String → Bool) (panes : List PaneRef) :
    RefsByTab :=
  panes.foldl (fun byTab pane =>
    match (paneReference paneType field pane).filter keep with
    | some ref => addRef pane.tabId ref byTab
    | none => byTab) []

/-- With `existingAutomationIds`, a reference to any other automation is dropped. -/
def extractAutomationAssignments (panes : List PaneRef)
    (existingAutomationIds : Option (List String)) : RefsByTab :=
  extractReferences "automation" "ruleId"
    (fun ruleId => existingAutomationIds.all fun ids => ids.contains ruleId) panes

/-- A collection need not exist. -/
def extractCollectionAssignments (panes : List PaneRef) : RefsByTab :=
  extractReferences "data-collection" "collection" (fun _ => true) panes

/-! ## The extracted relation -/

/-- `ref` is in the set of the tab with this id. -/
def RefersTo (byTab : RefsByTab) (tabId ref : String) : Prop :=
  ∃ refs, (some (.str tabId), refs) ∈ byTab ∧ ref ∈ refs

theorem sameValueZero_str {key : Option Json} {text : String} :
    sameValueZero key (some (.str text)) = true ↔ key = some (.str text) := by
  unfold sameValueZero
  split <;> simp_all

theorem mem_keys_addRef {tabId ref : String} {byTab : RefsByTab} {key : Option Json} :
    key ∈ (addRef (some (.str tabId)) ref byTab).map Prod.fst ↔
      key = some (.str tabId) ∨ key ∈ byTab.map Prod.fst := by
  induction byTab with
  | nil => simp [addRef]
  | cons entry rest ih =>
      obtain ⟨first, refs⟩ := entry
      rw [addRef]
      split
      · rename_i same
        rw [sameValueZero_str.mp same]
        simp
      · rw [List.map_cons, List.mem_cons, ih, List.map_cons, List.mem_cons]
        tauto

theorem nodup_addRef {tabId ref : String} {byTab : RefsByTab}
    (nodup : (byTab.map Prod.fst).Nodup) :
    ((addRef (some (.str tabId)) ref byTab).map Prod.fst).Nodup := by
  induction byTab with
  | nil => simp [addRef]
  | cons entry rest ih =>
      obtain ⟨first, refs⟩ := entry
      rw [addRef]
      split
      · exact nodup
      · rename_i other
        rw [List.map_cons, List.nodup_cons] at nodup ⊢
        refine ⟨?_, ih nodup.2⟩
        rw [mem_keys_addRef, not_or]
        exact ⟨fun same => other (sameValueZero_str.mpr same), nodup.1⟩

theorem refersTo_cons {key : Option Json} {refs : List String} {rest : RefsByTab}
    {tabId ref : String} : RefersTo ((key, refs) :: rest) tabId ref ↔
      key = some (.str tabId) ∧ ref ∈ refs ∨ RefersTo rest tabId ref := by
  constructor
  · rintro ⟨found, member, there⟩
    rcases List.mem_cons.mp member with same | later
    · cases same
      exact .inl ⟨rfl, there⟩
    · exact .inr ⟨found, later, there⟩
  · rintro (⟨rfl, there⟩ | ⟨found, later, there⟩)
    · exact ⟨refs, List.mem_cons_self, there⟩
    · exact ⟨found, List.mem_cons_of_mem _ later, there⟩

theorem refersTo_addRef {tabId ref : String} {byTab : RefsByTab} {tab a : String} :
    RefersTo (addRef (some (.str tabId)) ref byTab) tab a ↔
      tab = tabId ∧ a = ref ∨ RefersTo byTab tab a := by
  induction byTab with
  | nil => simp [addRef, RefersTo, eq_comm]
  | cons entry rest ih =>
      obtain ⟨first, refs⟩ := entry
      rw [addRef]
      split
      · rename_i same
        obtain rfl := sameValueZero_str.mp same
        rw [refersTo_cons, refersTo_cons]
        split
        · rename_i there
          constructor
          · exact .inr
          · rintro (⟨rfl, rfl⟩ | before)
            · exact .inl ⟨rfl, there⟩
            · exact before
        · rw [List.mem_append, List.mem_singleton]
          simp only [Option.some.injEq, Json.str.injEq]
          tauto
      · rw [refersTo_cons, refersTo_cons, ih]
        tauto

variable {paneType field : String} {keep : String → Bool} {panes : List PaneRef}

/-- What the panes of tabs with text ids refer to is what is extracted, under distinct ids. -/
theorem extractReferences_spec (texts : ∀ pane ∈ panes, ∃ tabId, pane.tabId = some (.str tabId)) :
    ((extractReferences paneType field keep panes).map Prod.fst).Nodup ∧
      (∀ key ∈ (extractReferences paneType field keep panes).map Prod.fst,
        ∃ tabId, key = some (.str tabId)) ∧
      ∀ tabId ref, RefersTo (extractReferences paneType field keep panes) tabId ref ↔
        ∃ pane ∈ panes, pane.tabId = some (.str tabId) ∧
          paneReference paneType field pane = some ref ∧ keep ref = true := by
  induction panes using List.reverseRecOn with
  | nil => exact ⟨List.nodup_nil, by simp [extractReferences], by simp [extractReferences, RefersTo]⟩
  | append_singleton panes pane ih =>
      obtain ⟨nodup, keys, refers⟩ := ih fun pane member =>
        texts pane (List.mem_append_left _ member)
      obtain ⟨text, tab⟩ := texts pane (by simp)
      have last : extractReferences paneType field keep (panes ++ [pane]) =
          match (paneReference paneType field pane).filter keep with
          | some ref => addRef pane.tabId ref (extractReferences paneType field keep panes)
          | none => extractReferences paneType field keep panes := by
        rw [extractReferences, List.foldl_append]
        rfl
      rw [last, tab]
      cases named : (paneReference paneType field pane).filter keep with
      | none =>
          refine ⟨nodup, keys, fun tabId ref => ?_⟩
          rw [refers]
          constructor
          · rintro ⟨other, member, rest⟩
            exact ⟨other, List.mem_append_left _ member, rest⟩
          · rintro ⟨other, member, here, found, kept⟩
            rcases List.mem_append.mp member with before | same
            · exact ⟨other, before, here, found, kept⟩
            · rw [List.mem_singleton.mp same] at found
              rw [found, Option.filter_some, if_pos kept] at named
              cases named
      | some ref =>
          obtain ⟨found, kept⟩ := Option.filter_eq_some_iff.mp named
          refine ⟨nodup_addRef nodup, fun key member => ?_, fun tabId a => ?_⟩
          · rcases mem_keys_addRef.mp member with rfl | before
            · exact ⟨text, rfl⟩
            · exact keys key before
          · rw [refersTo_addRef, refers]
            constructor
            · rintro (⟨rfl, rfl⟩ | ⟨other, member, rest⟩)
              · exact ⟨pane, by simp, tab, found, kept⟩
              · exact ⟨other, List.mem_append_left _ member, rest⟩
            · rintro ⟨other, member, here, there, keeps⟩
              rcases List.mem_append.mp member with before | same
              · exact .inr ⟨other, before, here, there, keeps⟩
              · obtain rfl := List.mem_singleton.mp same
                rw [tab] at here
                rw [found] at there
                cases here
                cases there
                exact .inl ⟨rfl, rfl⟩

/-- The references to automations that are in a list. -/
theorem extractAutomationAssignments_spec (ids : List String)
    (texts : ∀ pane ∈ panes, ∃ tabId, pane.tabId = some (.str tabId)) :
    ((extractAutomationAssignments panes (some ids)).map Prod.fst).Nodup ∧
      (∀ key ∈ (extractAutomationAssignments panes (some ids)).map Prod.fst,
        ∃ tabId, key = some (.str tabId)) ∧
      ∀ tabId ref, RefersTo (extractAutomationAssignments panes (some ids)) tabId ref ↔
        ∃ pane ∈ panes, pane.tabId = some (.str tabId) ∧
          paneReference "automation" "ruleId" pane = some ref ∧ ref ∈ ids := by
  obtain ⟨nodup, keys, refers⟩ := extractReferences_spec texts
  refine ⟨nodup, keys, fun tabId ref => (refers tabId ref).trans ?_⟩
  simp only [Option.all_some, List.contains_iff_mem]

end Aeolus.Auth
