/-
# Aeolus.Frontend.DashboardStore — the local layout and its saves

`frontend/src/store/dashboard-store.ts`.  The store keeps one layout, edited at once and
saved two seconds later against the revision it is based on.  A save is in flight at most
once; a request that comes meanwhile makes the loop go round again.  Layouts are fetched by
`initialize`, by `resetLayout` and by `reconcileLayout`, and the responses arrive in any
order.

`saving` is the flag `persistInFlight`, with what the pending request carries.  The promise
`persistPromise` is awaited by a reset only, so the model counts the resets that wait.

`ledger` is history that no code reads: which local edits were made, which the local layout
still contains, which an accepted save contained and which were followed by a conflict.
-/
import Aeolus.Core.Json
import Aeolus.Core.Text
import Aeolus.Theory.Run

namespace Aeolus.Frontend

open Aeolus.Core Aeolus.Theory

/-! ## Layouts -/

structure Tab where
  id : String
  name : String
  icon : String
  order : Nat
  pinned : Bool
  createdAt : Nat

structure Pane where
  id : String
  tabId : String
  paneType : String
  config : JsonObject
  x : ℚ
  y : ℚ
  w : ℚ
  h : ℚ
  createdAt : Nat

structure Layout where
  tabs : List Tab := []
  panes : List Pane := []

/-- An entry of `PANE_REGISTRY`. -/
structure PaneEntry where
  defaultSize : ℚ × ℚ
  defaultConfig : JsonObject

/-- What the store takes from the build and the browser. -/
structure Browser where
  /-- `PUBLIC_DEMO` -/
  publicDemo : Bool
  /-- `PANE_REGISTRY` -/
  paneRegistry : String → Option PaneEntry
  /-- `text.toLowerCase()` -/
  toLowerCase : String → String
  /-- `NOW`, when the module was loaded -/
  loadedAt : Nat

/-- `GET /api/layout` -/
structure LayoutPayload where
  revision : Option Nat
  tabs : Option (List Tab)
  panes : Option (List Pane)

/-! ## Edits -/

/-- A run of white space becomes one hyphen. -/
def hyphenate (inRun : Bool) : List Char → List Char
  | [] => []
  | c :: rest =>
      if isWhiteSpace c then
        if inRun then hyphenate true rest else '-' :: hyphenate true rest
      else c :: hyphenate false rest

section Edits

variable (b : Browser)

/-- `tabNameToSlug` -/
def tabNameToSlug (name : String) : String :=
  .ofList ((hyphenate false (b.toLowerCase (trim name)).toList).filter fun c =>
    ('a' ≤ c && c ≤ 'z') || ('0' ≤ c && c ≤ '9') || c = '-')

/-- `RESERVED_SLUGS` -/
def reservedSlugs : List String := ["dashboard", "connectors", "data-store", "security"]

/-- `DEFAULT_TABS` -/
def defaultTabs : List Tab :=
  [⟨"default-dashboard", "System", "server", 0, true, b.loadedAt⟩,
    ⟨"default-connectors", "Connectors", "plug", 1, true, b.loadedAt⟩,
    ⟨"default-data-store", "Data", "database", 2, true, b.loadedAt⟩,
    ⟨"default-security", "Security", "shield", 3, true, b.loadedAt⟩]

/-- `DEFAULT_PANES` -/
def defaultPanes : List Pane := []

/-- The tab and pane actions that are persisted, with the ids and the times they draw. -/
inductive LayoutEdit where
  | addTab (name icon id : String) (now : Nat)
  | renameTab (tabId name : String)
  | reorderTabs (orderedIds : List String)
  | deleteTab (tabId : String)
  | addPane (tabId paneType : String) (config : JsonObject) (id : String) (now : Nat)
  | updatePanePosition (paneId : String) (x y : ℚ)
  | updatePaneSize (paneId : String) (w h : ℚ)
  | updatePaneConfig (paneId : String) (config : JsonObject)
  | removePane (paneId : String)

/-- Is `name` free for a tab, beside `others`? -/
def nameAllowed (name : String) (others : List Tab) : Bool :=
  let slug := tabNameToSlug b name
  trim name ≠ "" && slug ≠ "" && !reservedSlugs.contains slug &&
    !(others.map fun tab => tabNameToSlug b tab.name).contains slug

def updatePane (paneId : String) (update : Pane → Pane) (panes : List Pane) : List Pane :=
  panes.map fun pane => if pane.id = paneId then update pane else pane

/-- Tabs numbered from `start` on. -/
def renumber (start : Nat) (tabs : List Tab) : List Tab :=
  tabs.zipIdx.map fun tab => { tab.1 with order := start + tab.2 }

/-- The layout after an edit; `none` when the action is rejected. -/
def LayoutEdit.apply (edit : LayoutEdit) (layout : Layout) : Option Layout :=
  match edit with
  | .addTab name icon id now =>
      if !nameAllowed b name layout.tabs then none
      else some { layout with tabs := layout.tabs ++
        [⟨id, trim name, icon, layout.tabs.length, false, now⟩] }
  | .renameTab tabId name =>
      if !nameAllowed b name (layout.tabs.filter (·.id ≠ tabId)) then none
      else some { layout with tabs := layout.tabs.map fun tab =>
        if tab.id = tabId then { tab with name := trim name } else tab }
  | .reorderTabs orderedIds =>
      let pinned := layout.tabs.filter (·.pinned)
      let unpinned := layout.tabs.filter (!·.pinned)
      -- a `Map` by id keeps the last tab of an id
      let reordered := orderedIds.filterMap fun id => unpinned.reverse.find? (·.id = id)
      let kept := unpinned.filter fun tab => !orderedIds.contains tab.id
      some { layout with tabs := renumber 0 pinned ++ renumber pinned.length (reordered ++ kept) }
  | .deleteTab tabId =>
      match layout.tabs.find? (·.id = tabId) with
      | none => none
      | some tab =>
          if tab.pinned then none
          else some ⟨layout.tabs.filter (·.id ≠ tabId), layout.panes.filter (·.tabId ≠ tabId)⟩
  | .addPane tabId paneType config id now =>
      let entry := b.paneRegistry paneType
      let size := entry.elim (6, 4) PaneEntry.defaultSize
      let base := entry.elim .empty PaneEntry.defaultConfig
      let pane : Pane := ⟨id, tabId, paneType, base.merge config, 0, 0, size.1, size.2, now⟩
      if paneType ≠ "automation" then some { layout with panes := layout.panes ++ [pane] }
      else some { layout with panes := pane :: layout.panes.map fun other =>
        if other.tabId = tabId then { other with y := other.y + size.2 } else other }
  | .updatePanePosition paneId x y =>
      some { layout with panes := updatePane paneId ({ · with x, y }) layout.panes }
  | .updatePaneSize paneId w h =>
      some { layout with panes := updatePane paneId ({ · with w, h }) layout.panes }
  | .updatePaneConfig paneId config =>
      some { layout with panes := updatePane paneId ({ · with config }) layout.panes }
  | .removePane paneId => some { layout with panes := layout.panes.filter (·.id ≠ paneId) }

/-- The tab that is shown after an edit. -/
def LayoutEdit.activeTab (edit : LayoutEdit) (edited : Layout) (active : Option String) :
    Option String :=
  match edit with
  | .addTab _ _ id _ => some id
  | .deleteTab tabId => if active = some tabId then edited.tabs.head?.map Tab.id else active
  | _ => active

/-- A fetched layout: the pinned tabs of the build, the custom tabs that were saved, and
the panes of the types that are registered. -/
def LayoutPayload.layout (payload : LayoutPayload) : Layout where
  tabs := (defaultTabs b).filter (·.pinned) ++ (payload.tabs.getD []).filter (!·.pinned)
  panes := (payload.panes.getD defaultPanes).filter fun pane =>
    (b.paneRegistry pane.paneType).isSome

end Edits

/-- The body of a save: the pinned tabs are left out. -/
def Layout.custom (layout : Layout) : Layout :=
  { layout with tabs := layout.tabs.filter (!·.pinned) }

/-! ## History -/

/-- What happened to the local layout. -/
inductive Mark where
  /-- a local edit -/
  | edited (edit : LayoutEdit)
  /-- work on the local layout is left with no save to come -/
  | leftUnsaved
  /-- a save of the local layout was sent -/
  | sent (revision : Nat)
  /-- the save in flight was accepted -/
  | accepted (revision : Nat)
  /-- `layoutConflict` was raised -/
  | raised
  /-- a layout took the place of the local one -/
  | loaded (layout : Layout) (revision : Option Nat)

structure Ledger where
  /-- how many local edits were made; they are numbered from 0 -/
  made : Nat := 0
  /-- the layout that was last loaded -/
  origin : Layout := {}
  /-- the edits made to it since -/
  held : List (Nat × LayoutEdit) := []
  /-- the edits in the save that was last sent, and the layout they were made to -/
  carried : List (Nat × LayoutEdit) := []
  carriedOrigin : Layout := {}
  /-- the edits in each accepted save -/
  accepted : List (List (Nat × LayoutEdit)) := []
  /-- how many edits had been made when a conflict was last raised -/
  warned : Nat := 0
  /-- edits were left unsaved since the last save was sent -/
  unsaved : Bool := false
  /-- the revision the local layout was loaded from or last saved as -/
  base : Option Nat := none
  /-- the local layout continues the one that was last sent -/
  continues : Bool := false
  /-- the revision each save was sent with, beside the revision of the local layout -/
  sent : List (Nat × Option Nat) := []

def Ledger.note (l : Ledger) : Mark → Ledger
  | .edited edit => { l with made := l.made + 1, held := l.held ++ [(l.made, edit)] }
  | .leftUnsaved => { l with unsaved := true }
  | .sent revision =>
      { l with
        carried := l.held
        carriedOrigin := l.origin
        unsaved := false
        continues := true
        sent := l.sent ++ [(revision, l.base)] }
  | .accepted revision =>
      { l with
        accepted := l.accepted ++ [l.carried]
        base := if l.continues then some revision else l.base }
  | .raised => { l with warned := l.made, unsaved := false }
  | .loaded layout revision =>
      { l with
        origin := layout
        held := []
        unsaved := false
        base := revision
        continues := false }

/-! ## The store -/

inductive Refetch where
  | initialization
  | reset
  | reconcile
  deriving DecidableEq

/-- The request in flight. -/
structure Saving where
  payload : Layout
  revision : Nat
  conflictEpochAtStart : Nat

structure DashboardStore where
  layout : Layout := {}
  activeTabId : Option String := none
  initialized : Bool := false
  layoutRevision : Option Nat := none
  layoutConflict : Bool := false
  debounceTimer : Bool := false
  saving : Option Saving := none
  persistRequested : Bool := false
  remoteConflictEpoch : Nat := 0
  /-- the resets that await `persistPromise` -/
  waiting : Nat := 0
  /-- the layouts being fetched -/
  fetches : List Refetch := []
  ledger : Ledger := {}

inductive SaveResponse where
  | accepted (revision : Nat)
  /-- status 409 -/
  | conflict
  | failed

namespace DashboardStore

variable (b : Browser) (s : DashboardStore)

def mark (m : Mark) : DashboardStore := { s with ledger := s.ledger.note m }

/-- `debouncedPersist` -/
def debouncedPersist : DashboardStore :=
  if b.publicDemo then s.mark .leftUnsaved else { s with debounceTimer := true }

/-- A tab or pane action. -/
def edit (edit : LayoutEdit) : DashboardStore :=
  match edit.apply b s.layout with
  | none => s
  | some edited =>
      let active := edit.activeTab edited s.activeTabId
      debouncedPersist b
        ({ s with layout := edited, activeTabId := active }.mark (.edited edit))

/-- The end of the save loop: `finally`, and the resets that awaited it. -/
def persistEnds : DashboardStore :=
  { s with
    saving := none
    waiting := 0
    fetches := s.fetches ++ List.replicate s.waiting .reset }

/-- The head of the save loop. -/
def persistLoop : DashboardStore :=
  if s.persistRequested then
    match s.layoutRevision with
    | none => ({ s with persistRequested := false }.mark .leftUnsaved).persistEnds
    | some revision =>
        { s with
          persistRequested := false
          saving := some ⟨s.layout.custom, revision, s.remoteConflictEpoch⟩ }.mark (.sent revision)
  else s.persistEnds

/-- `persistLayout` -/
def persistLayout : DashboardStore :=
  if b.publicDemo then s.mark .leftUnsaved
  else
    let requested := { s with persistRequested := true }
    if s.saving.isSome then requested else requested.persistLoop

/-- The debounce timer fires. -/
def debounceExpires : DashboardStore :=
  if s.debounceTimer then persistLayout b { s with debounceTimer := false } else s

/-- The response to the save in flight. -/
def saveSettles (response : SaveResponse) : DashboardStore :=
  match s.saving with
  | none => s
  | some save =>
      match response with
      | .accepted revision =>
          ({ s with
            layoutRevision := some revision
            layoutConflict :=
              decide (s.remoteConflictEpoch ≠ save.conflictEpochAtStart) }.mark
                (.accepted revision)).persistLoop
      | .conflict =>
          ({ s with layoutConflict := true, persistRequested := false }.mark .raised).persistEnds
      | .failed => (s.mark .leftUnsaved).persistEnds

/-- `resetLayout`, up to its request. -/
def resetLayout : DashboardStore :=
  let stopped := { s with debounceTimer := false, persistRequested := false }
  let left := if s.debounceTimer || s.persistRequested then stopped.mark .leftUnsaved else stopped
  if s.saving.isSome then { left with waiting := left.waiting + 1 }
  else { left with fetches := left.fetches ++ [.reset] }

/-- `handleRemoteLayoutRevision` -/
def handleRemoteLayoutRevision (revision : Nat) : DashboardStore :=
  if s.layoutRevision.elim false (revision ≤ ·) then s
  else if s.saving.isSome || s.persistRequested || s.debounceTimer then
    { s with
      remoteConflictEpoch := s.remoteConflictEpoch + 1
      debounceTimer := false
      persistRequested := false
      layoutConflict := true }.mark .raised
  else s.resetLayout

/-- The response to a fetch of `initialize`. -/
def initializeSettles (response : Option LayoutPayload) : DashboardStore :=
  match response with
  | some payload =>
      let layout := payload.layout b
      { s with
        layout
        activeTabId := layout.tabs.head?.map Tab.id
        initialized := true
        layoutRevision := payload.revision
        layoutConflict := false }.mark (.loaded layout payload.revision)
  | none =>
      let layout := { tabs := defaultTabs b, panes := defaultPanes }
      { s with
        layout
        activeTabId := layout.tabs.head?.map Tab.id
        initialized := true
        layoutRevision := none }.mark (.loaded layout none)

/-- The response to a fetch of `resetLayout`. -/
def resetSettles (response : Option LayoutPayload) : DashboardStore :=
  match response with
  | none => s
  | some payload =>
      match payload.revision with
      | none => s
      | some revision =>
          if s.layoutRevision.elim false (revision < ·) then s
          else
            let layout := payload.layout b
            let kept := s.activeTabId.filter fun id => layout.tabs.any (·.id = id)
            { s with
              layout
              activeTabId := kept <|> layout.tabs.head?.map Tab.id
              initialized := true
              layoutRevision := some revision
              layoutConflict := false }.mark (.loaded layout (some revision))

/-- The response to a fetch of `reconcileLayout`. -/
def reconcileSettles (response : Option LayoutPayload) : DashboardStore :=
  match response.bind LayoutPayload.revision with
  | none => s
  | some revision =>
      if s.layoutRevision.elim false (revision ≤ ·) then s
      else s.handleRemoteLayoutRevision revision

/-- The response to the fetch at a position; `none` when the request failed. -/
def fetched (i : Nat) (response : Option LayoutPayload) : DashboardStore :=
  let rest := { s with fetches := s.fetches.eraseIdx i }
  match s.fetches[i]? with
  | none => s
  | some .initialization => rest.initializeSettles b response
  | some .reset => rest.resetSettles b response
  | some .reconcile => rest.reconcileSettles response

end DashboardStore

inductive DashboardEvent where
  | edit (edit : LayoutEdit)
  | setActiveTab (tabId : String)
  | debounceExpires
  | saveSettles (response : SaveResponse)
  | initialization
  | remoteRevision (revision : Nat)
  | reconcileLayout
  /-- the operator asks for a reload -/
  | resetLayout
  | fetched (i : Nat) (response : Option LayoutPayload)

def DashboardStore.step (b : Browser) (s : DashboardStore) : DashboardEvent → DashboardStore
  | .edit edit => s.edit b edit
  | .setActiveTab tabId => { s with activeTabId := some tabId }
  | .debounceExpires => s.debounceExpires b
  | .saveSettles response => s.saveSettles response
  | .initialization => { s with fetches := s.fetches ++ [.initialization] }
  | .remoteRevision revision => s.handleRemoteLayoutRevision revision
  | .reconcileLayout => { s with fetches := s.fetches ++ [.reconcile] }
  | .resetLayout => s.resetLayout
  | .fetched i response => s.fetched b i response

end Aeolus.Frontend
