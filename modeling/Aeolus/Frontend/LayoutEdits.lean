/-
# Aeolus.Frontend.LayoutEdits — which local edits survive

A local edit is kept when an accepted save contained it, when the local layout still
contains it, or when a conflict was raised after it.  The ledger's words for this are backed
by the layouts themselves: the local layout is the one last loaded with the held edits
applied, and the body of a save is the layout it was sent from (`run_replays`).

The store checks for pending work when a remote revision is announced, not when the layout
it then fetches arrives, and a save that failed leaves no trace in what it checks.  So every
edit is kept in runs in which a fetched layout only takes the place of a local one with no
work pending (`edits_kept`), and not in every run (`edit_lost_to_refetch`).
-/
import Aeolus.Frontend.DashboardStore

namespace Aeolus.Frontend

open Aeolus.Core Aeolus.Theory

/-! ## The statement -/

namespace Ledger

variable (l : Ledger) (n : Nat)

def Saved : Prop := ∃ save ∈ l.accepted, n ∈ save.map Prod.fst

def Present : Prop := n ∈ l.held.map Prod.fst

def Warned : Prop := n < l.warned

structure Kept : Prop where
  edits : ∀ n < l.made, l.Saved n ∨ l.Present n ∨ l.Warned n
  revisions : ∀ revision base, (revision, base) ∈ l.sent → base = some revision

end Ledger

namespace DashboardStore

/-- Nothing runs, is in flight or is awaited. -/
def Settled (s : DashboardStore) : Prop :=
  s.debounceTimer = false ∧ s.saving = none ∧ s.waiting = 0 ∧ s.fetches = []

/-- No local work is pending: no timer runs, no save is requested or in flight, and no save
was given up since the last one was sent. -/
def Quiet (s : DashboardStore) : Prop :=
  s.debounceTimer = false ∧ s.persistRequested = false ∧ s.saving = none ∧
    s.ledger.unsaved = false

/-- Does the response to a fetch take the place of the local layout? -/
def Adopts (s : DashboardStore) (i : Nat) (response : Option LayoutPayload) : Prop :=
  match s.fetches[i]? with
  | some .initialization => True
  | some .reset => ∃ revision, response.bind LayoutPayload.revision = some revision ∧
      s.layoutRevision.elim false (revision < ·) = false
  | _ => False

/-- A fetched layout is adopted with no local work pending. -/
def Careful (s : DashboardStore) : DashboardEvent → Prop
  | .fetched i response => s.Adopts i response → s.Quiet
  | _ => True

end DashboardStore

/-! ## What the ledger says of the layouts -/

section Replay

variable (b : Browser)

/-- The edits, applied in order. -/
def replay (origin : Layout) (edits : List (Nat × LayoutEdit)) : Layout :=
  edits.foldl (fun layout edit => (edit.2.apply b layout).getD layout) origin

/-- The local layout is the loaded one, edited; the body in flight is the layout sent. -/
structure DashboardStore.Replays (s : DashboardStore) : Prop where
  current : s.layout = replay b s.ledger.origin s.ledger.held
  inFlight : ∀ save, s.saving = some save →
    save.payload = (replay b s.ledger.carriedOrigin s.ledger.carried).custom

namespace DashboardStore

variable {b} {s : DashboardStore}

theorem Replays.settles (replays : s.Replays b) {fetches : List Refetch} {waiting : Nat} :
    Replays b { s with saving := none, waiting := waiting, fetches := fetches } where
  current := replays.current
  inFlight save flying := by cases flying

theorem Replays.persistLoop (replays : s.Replays b) : s.persistLoop.Replays b := by
  unfold DashboardStore.persistLoop
  split
  · split
    · exact ⟨replays.current, fun save flying => by cases flying⟩
    · refine ⟨replays.current, fun save flying => ?_⟩
      cases flying
      exact congrArg Layout.custom replays.current
  · exact replays.settles

theorem Replays.persistLayout (replays : s.Replays b) : (s.persistLayout b).Replays b := by
  unfold DashboardStore.persistLayout
  split
  · exact ⟨replays.current, replays.inFlight⟩
  · dsimp only
    split
    · exact ⟨replays.current, replays.inFlight⟩
    · exact Replays.persistLoop ⟨replays.current, replays.inFlight⟩

theorem Replays.resetLayout (replays : s.Replays b) : s.resetLayout.Replays b := by
  unfold DashboardStore.resetLayout
  dsimp only
  split_ifs <;> exact ⟨replays.current, replays.inFlight⟩

theorem Replays.handleRemote (replays : s.Replays b) (revision : Nat) :
    (s.handleRemoteLayoutRevision revision).Replays b := by
  unfold handleRemoteLayoutRevision
  split_ifs
  · exact replays
  · exact ⟨replays.current, replays.inFlight⟩
  · exact replays.resetLayout

theorem Replays.edit (replays : s.Replays b) (edit : LayoutEdit) : (s.edit b edit).Replays b := by
  unfold DashboardStore.edit
  split
  · exact replays
  · rename_i edited applied
    have current : edited = replay b s.ledger.origin (s.ledger.held ++ [(s.ledger.made, edit)]) := by
      rw [replay, List.foldl_append]
      show edited = (edit.apply b (replay b s.ledger.origin s.ledger.held)).getD _
      rw [← replays.current, applied]
      rfl
    unfold debouncedPersist
    split
    · exact ⟨current, replays.inFlight⟩
    · exact ⟨current, replays.inFlight⟩

/-- A layout that was just loaded has no edits. -/
theorem Replays.loads (replays : s.Replays b) (fetches : List Refetch) (layout : Layout)
    (active : Option String) (revision : Option Nat) (conflict : Bool) :
    Replays b ({ s with
      fetches, layout, activeTabId := active, initialized := true, layoutRevision := revision
      layoutConflict := conflict }.mark (.loaded layout revision)) where
  current := rfl
  inFlight := replays.inFlight

theorem Replays.fetched (replays : s.Replays b) (i : Nat) (response : Option LayoutPayload) :
    (s.fetched b i response).Replays b := by
  have rest : Replays b { s with fetches := s.fetches.eraseIdx i } :=
    ⟨replays.current, replays.inFlight⟩
  unfold DashboardStore.fetched
  dsimp only
  split
  · exact replays
  · unfold initializeSettles
    split
    · exact replays.loads _ _ _ _ _
    · exact replays.loads _ _ _ _ _
  · unfold resetSettles
    split
    · exact rest
    · split
      · exact rest
      · split
        · exact rest
        · exact replays.loads _ _ _ _ _
  · unfold reconcileSettles
    split
    · exact rest
    · split
      · exact rest
      · exact rest.handleRemote _

theorem Replays.step (s : DashboardStore) (event : DashboardEvent) (replays : s.Replays b) :
    (s.step b event).Replays b := by
  cases event with
  | edit edit => exact replays.edit edit
  | setActiveTab tabId => exact ⟨replays.current, replays.inFlight⟩
  | debounceExpires =>
      show (s.debounceExpires b).Replays b
      unfold DashboardStore.debounceExpires
      split
      · exact Replays.persistLayout ⟨replays.current, replays.inFlight⟩
      · exact replays
  | saveSettles response =>
      show (s.saveSettles response).Replays b
      unfold DashboardStore.saveSettles
      split
      · exact replays
      · cases response with
        | accepted revision => exact Replays.persistLoop ⟨replays.current, replays.inFlight⟩
        | conflict => exact ⟨replays.current, fun save flying => by cases flying⟩
        | failed => exact ⟨replays.current, fun save flying => by cases flying⟩
  | initialization => exact ⟨replays.current, replays.inFlight⟩
  | remoteRevision revision => exact replays.handleRemote revision
  | reconcileLayout => exact ⟨replays.current, replays.inFlight⟩
  | resetLayout => exact replays.resetLayout
  | fetched i response => exact replays.fetched i response

end DashboardStore

/-- The ledger is true of the layouts, in every run. -/
theorem run_replays (events : List DashboardEvent) :
    (run (DashboardStore.step b) {} events).Replays b :=
  run_invariant DashboardStore.Replays.step ⟨rfl, fun save flying => by cases flying⟩ events

end Replay

/-! ## Every edit is attended to -/

namespace Ledger

/-- Neither in an accepted save nor followed by a conflict. -/
def Answered (l : Ledger) (n : Nat) : Prop := l.Saved n ∨ l.Warned n

theorem Kept.leftUnsaved {l : Ledger} (kept : l.Kept) : (l.note .leftUnsaved).Kept :=
  ⟨kept.edits, kept.revisions⟩

/-- The new edit is the only one that was not there before. -/
theorem present_edited (l : Ledger) (edit : LayoutEdit) (n : Nat) :
    (l.note (.edited edit)).Present n ↔ l.Present n ∨ n = l.made := by
  simp [Present, note]

/-- A conflict is raised after every edit made so far. -/
theorem Kept.raised {l : Ledger} (kept : l.Kept) : (l.note .raised).Kept :=
  ⟨fun _ made => .inr (.inr made), kept.revisions⟩

end Ledger

namespace DashboardStore

/-- What keeps an edit of the local layout from being forgotten. -/
structure Attended (s : DashboardStore) : Prop where
  kept : s.ledger.Kept
  known : ∀ n, s.ledger.Present n → n < s.ledger.made
  pending : ∀ n, s.ledger.Present n → s.ledger.Answered n ∨ s.debounceTimer = true ∨
    s.persistRequested = true ∨ s.ledger.unsaved = true ∨
    (s.saving.isSome = true ∧ n ∈ s.ledger.carried.map Prod.fst)
  based : s.layoutRevision = s.ledger.base
  continues : s.saving.isSome = true → s.ledger.continues = true

theorem attended_init : Attended {} where
  kept := ⟨fun n low => absurd low (Nat.not_lt_zero n), fun _ _ member => by cases member⟩
  known n present := by cases present
  pending n present := by cases present
  based := rfl
  continues flying := by cases flying

section Steps

variable {b : Browser} {s : DashboardStore}

/-- With no work pending every edit of the local layout is answered for. -/
theorem Attended.answered (attended : s.Attended) (quiet : s.Quiet) (n : Nat)
    (present : s.ledger.Present n) : s.ledger.Answered n := by
  obtain ⟨timer, requested, landed, saved⟩ := quiet
  rcases attended.pending n present with answered | running | running | running | ⟨flying, -⟩
  · exact answered
  · rw [timer] at running
    cases running
  · rw [requested] at running
    cases running
  · rw [saved] at running
    cases running
  · rw [landed] at flying
    cases flying

/-- The loop ends: what it carried needs an answer by then. -/
theorem Attended.ends (attended : Attended { s with saving := none }) :
    s.persistEnds.Attended := by
  refine ⟨attended.kept, attended.known, fun n present => ?_, attended.based,
    fun flying => by cases flying⟩
  exact attended.pending n present

theorem Attended.loops (attended : Attended { s with saving := none }) :
    s.persistLoop.Attended := by
  unfold persistLoop
  split
  · split
    · rename_i unversioned
      -- no save is to come, and the ledger says so
      exact Attended.ends ⟨attended.kept.leftUnsaved, attended.known,
        fun n _ => .inr (.inr (.inr (.inl rfl))), attended.based, fun flying => by cases flying⟩
    · rename_i revision versioned
      have base : s.ledger.base = some revision := by
        rw [← attended.based]
        exact versioned
      refine ⟨⟨attended.kept.edits, fun r base' member => ?_⟩, attended.known,
        fun n present => ?_, attended.based, fun _ => rfl⟩
      · rcases List.mem_append.mp member with old | new
        · exact attended.kept.revisions r base' old
        · obtain ⟨rfl, rfl⟩ := Prod.mk.inj (List.mem_singleton.mp new)
          exact base
      · exact .inr (.inr (.inr (.inr ⟨rfl, present⟩)))
  · exact attended.ends

theorem Attended.persistLayout (attended : Attended { s with debounceTimer := true }) :
    (s.persistLayout b).Attended := by
  unfold DashboardStore.persistLayout
  split
  · exact ⟨attended.kept.leftUnsaved, attended.known, fun n _ => .inr (.inr (.inr (.inl rfl))),
      attended.based, attended.continues⟩
  · dsimp only
    split
    · exact ⟨attended.kept, attended.known, fun n _ => .inr (.inr (.inl rfl)), attended.based,
        attended.continues⟩
    · exact Attended.loops ⟨attended.kept, attended.known, fun n _ => .inr (.inr (.inl rfl)),
        attended.based, fun flying => by cases flying⟩

theorem Attended.saveSettles (attended : s.Attended) (response : SaveResponse) :
    (s.saveSettles response).Attended := by
  unfold DashboardStore.saveSettles
  split
  · exact attended
  · rename_i save saving
    have flying : s.saving.isSome = true := by rw [saving]; rfl
    have continues := attended.continues flying
    cases response with
    | accepted revision =>
        have saved {n : Nat} : s.ledger.Saved n ∨ n ∈ s.ledger.carried.map Prod.fst →
            (s.ledger.note (.accepted revision)).Saved n := by
          rintro (⟨before, listed, inside⟩ | carried)
          · exact ⟨before, List.mem_append_left _ listed, inside⟩
          · exact ⟨_, List.mem_append_right _ (List.mem_singleton.mpr rfl), carried⟩
        refine Attended.loops ⟨⟨fun n made => ?_, attended.kept.revisions⟩, attended.known,
          fun n present => ?_, ?_, fun flying => by cases flying⟩
        · rcases attended.kept.edits n made with before | present | warned
          · exact .inl (saved (.inl before))
          · exact .inr (.inl present)
          · exact .inr (.inr warned)
        · rcases attended.pending n present with (before | warned) | timer | requested | left |
            ⟨-, carried⟩
          · exact .inl (.inl (saved (.inl before)))
          · exact .inl (.inr warned)
          · exact .inr (.inl timer)
          · exact .inr (.inr (.inl requested))
          · exact .inr (.inr (.inr (.inl left)))
          · exact .inl (.inl (saved (.inr carried)))
        · show some revision = if s.ledger.continues then some revision else s.ledger.base
          rw [continues, if_pos rfl]
    | conflict =>
        exact Attended.ends ⟨attended.kept.raised, attended.known,
          fun n present => .inl (.inr (attended.known n present)), attended.based,
          fun flying => by cases flying⟩
    | failed =>
        exact Attended.ends ⟨attended.kept.leftUnsaved, attended.known,
          fun n _ => .inr (.inr (.inr (.inl rfl))), attended.based, fun flying => by cases flying⟩

theorem Attended.edit (attended : s.Attended) (edit : LayoutEdit) :
    (s.edit b edit).Attended := by
  unfold DashboardStore.edit
  split
  · exact attended
  · rename_i edited _
    have kept : (s.ledger.note (.edited edit)).Kept := by
      refine ⟨fun n made => ?_, attended.kept.revisions⟩
      rcases Nat.lt_succ_iff_lt_or_eq.mp made with old | new
      · rcases attended.kept.edits n old with saved | before | warned
        · exact .inl saved
        · exact .inr (.inl ((s.ledger.present_edited edit n).mpr (.inl before)))
        · exact .inr (.inr warned)
      · exact .inr (.inl ((s.ledger.present_edited edit n).mpr (.inr new)))
    have known (n : Nat) (present : (s.ledger.note (.edited edit)).Present n) :
        n < s.ledger.made + 1 := by
      rcases (s.ledger.present_edited edit n).mp present with before | new
      · exact Nat.lt_succ_of_lt (attended.known n before)
      · omega
    unfold debouncedPersist
    split
    · exact ⟨kept.leftUnsaved, known, fun n _ => .inr (.inr (.inr (.inl rfl))), attended.based,
        attended.continues⟩
    · exact ⟨kept, known, fun n _ => .inr (.inl rfl), attended.based, attended.continues⟩

theorem Attended.resetLayout (attended : s.Attended) : s.resetLayout.Attended := by
  unfold DashboardStore.resetLayout
  dsimp only
  by_cases stops : (s.debounceTimer || s.persistRequested) = true
  · rw [if_pos stops]
    split
    · exact ⟨attended.kept.leftUnsaved, attended.known,
        fun n _ => .inr (.inr (.inr (.inl rfl))), attended.based, attended.continues⟩
    · exact ⟨attended.kept.leftUnsaved, attended.known,
        fun n _ => .inr (.inr (.inr (.inl rfl))), attended.based, attended.continues⟩
  · rw [if_neg stops]
    simp only [Bool.or_eq_true, not_or, Bool.not_eq_true] at stops
    have pending (n : Nat) (present : s.ledger.Present n) : s.ledger.Answered n ∨
        false = true ∨ false = true ∨ s.ledger.unsaved = true ∨
          (s.saving.isSome = true ∧ n ∈ s.ledger.carried.map Prod.fst) := by
      have before := attended.pending n present
      rw [stops.1, stops.2] at before
      exact before
    split
    · exact ⟨attended.kept, attended.known, pending, attended.based, attended.continues⟩
    · exact ⟨attended.kept, attended.known, pending, attended.based, attended.continues⟩

theorem Attended.handleRemote (attended : s.Attended) (revision : Nat) :
    (s.handleRemoteLayoutRevision revision).Attended := by
  unfold handleRemoteLayoutRevision
  split_ifs
  · exact attended
  · exact ⟨attended.kept.raised, attended.known,
      fun n present => .inl (.inr (attended.known n present)), attended.based,
      attended.continues⟩
  · exact attended.resetLayout

/-- A loaded layout takes the place of one with no work pending. -/
theorem Attended.loads (attended : s.Attended) (quiet : s.Quiet) (fetches : List Refetch)
    (layout : Layout) (active : Option String) (revision : Option Nat) (conflict : Bool) :
    Attended ({ s with
      fetches, layout, activeTabId := active, initialized := true, layoutRevision := revision
      layoutConflict := conflict }.mark (.loaded layout revision)) where
  kept := by
    refine ⟨fun n made => ?_, attended.kept.revisions⟩
    rcases attended.kept.edits n made with saved | present | warned
    · exact .inl saved
    · rcases attended.answered quiet n present with saved | warned
      · exact .inl saved
      · exact .inr (.inr warned)
    · exact .inr (.inr warned)
  known n present := by cases present
  pending n present := by cases present
  based := rfl
  continues flying := by
    have landed : (none : Option Saving).isSome = true := quiet.2.2.1 ▸ flying
    cases landed

theorem Attended.fetched (attended : s.Attended) (i : Nat) (response : Option LayoutPayload)
    (careful : s.Adopts i response → s.Quiet) : (s.fetched b i response).Attended := by
  have rest : Attended { s with fetches := s.fetches.eraseIdx i } :=
    ⟨attended.kept, attended.known, attended.pending, attended.based, attended.continues⟩
  unfold Adopts at careful
  unfold DashboardStore.fetched
  dsimp only
  split
  · exact attended
  · rename_i initial
    rw [initial] at careful
    unfold initializeSettles
    split
    · exact attended.loads (careful trivial) _ _ _ _ _
    · exact attended.loads (careful trivial) _ _ _ _ _
  · rename_i reset
    rw [reset] at careful
    unfold resetSettles
    split
    · exact rest
    · rename_i payload
      split
      · exact rest
      · rename_i revision versioned
        split
        · exact rest
        · rename_i newer
          have quiet := careful ⟨revision, versioned, Bool.eq_false_iff.mpr newer⟩
          exact attended.loads quiet _ _ _ _ _
  · unfold reconcileSettles
    split
    · exact rest
    · split
      · exact rest
      · exact rest.handleRemote _

theorem Attended.step (s : DashboardStore) (event : DashboardEvent) (attended : s.Attended)
    (careful : s.Careful event) : (s.step b event).Attended := by
  cases event with
  | edit edit => exact attended.edit edit
  | setActiveTab tabId =>
      exact ⟨attended.kept, attended.known, attended.pending, attended.based, attended.continues⟩
  | debounceExpires =>
      show (s.debounceExpires b).Attended
      unfold DashboardStore.debounceExpires
      split
      · rename_i timer
        refine Attended.persistLayout ⟨attended.kept, attended.known, fun n present => ?_,
          attended.based, attended.continues⟩
        exact .inr (.inl rfl)
      · exact attended
  | saveSettles response => exact attended.saveSettles response
  | initialization =>
      exact ⟨attended.kept, attended.known, attended.pending, attended.based, attended.continues⟩
  | remoteRevision revision => exact attended.handleRemote revision
  | reconcileLayout =>
      exact ⟨attended.kept, attended.known, attended.pending, attended.based, attended.continues⟩
  | resetLayout => exact attended.resetLayout
  | fetched i response => exact attended.fetched i response careful

end Steps

end DashboardStore

/-- **No local edit is silently discarded**, and every save goes out with the revision of the
local layout, in runs in which a fetched layout is adopted with no local work pending. -/
theorem edits_kept (b : Browser) (events : List DashboardEvent)
    (careful : Along (DashboardStore.step b) DashboardStore.Careful {} events) :
    ∀ before, before <+: events →
      (run (DashboardStore.step b) {} before).ledger.Kept := fun before part =>
  (invariant_throughout DashboardStore.Attended.step DashboardStore.attended_init careful
    before part).kept

section Pole

/-- A browser with an empty registry. -/
def plainBrowser : Browser := ⟨false, fun _ => none, id, 0⟩

/-- The layout is loaded, a pane is added and saved, and another operator's layout follows. -/
def savedPane : List DashboardEvent :=
  [.initialization, .fetched 0 (some ⟨some 1, none, none⟩),
    .edit (.addPane "tab" "metrics" .empty "pane" 0), .debounceExpires, .saveSettles (.accepted 2),
    .remoteRevision 3, .fetched 0 (some ⟨some 3, none, none⟩)]

theorem edits_kept_saved_pane :
    (run (DashboardStore.step plainBrowser) {} savedPane).ledger.made = 1 ∧
      (run (DashboardStore.step plainBrowser) {} savedPane).ledger.Kept := by
  have careful : Along (DashboardStore.step plainBrowser) DashboardStore.Careful {} savedPane :=
    ⟨trivial, fun _ => ⟨rfl, rfl, rfl, rfl⟩, trivial, trivial, trivial, trivial,
      fun _ => ⟨rfl, rfl, rfl, rfl⟩, trivial⟩
  exact ⟨rfl, edits_kept plainBrowser savedPane careful savedPane List.prefix_rfl⟩

/-- The pane is added while the other operator's layout is on its way. -/
def lostPane : List DashboardEvent :=
  [.initialization, .fetched 0 (some ⟨some 1, none, none⟩), .remoteRevision 2,
    .edit (.addPane "tab" "metrics" .empty "pane" 0), .fetched 0 (some ⟨some 2, none, none⟩),
    .debounceExpires, .saveSettles (.accepted 3)]

/-- A fetch that is answered after an edit discards it without a word. -/
theorem edit_lost_to_refetch :
    ¬ ∀ (b : Browser) (events : List DashboardEvent),
      (run (DashboardStore.step b) {} events).Settled →
        (run (DashboardStore.step b) {} events).ledger.Kept := by
  intro always
  have kept := always plainBrowser lostPane ⟨rfl, rfl, rfl, rfl⟩
  have saves : (run (DashboardStore.step plainBrowser) {} lostPane).ledger.accepted = [[]] := rfl
  rcases kept.edits 0 (by decide) with ⟨save, listed, inside⟩ | present | warned
  · rw [saves, List.mem_singleton] at listed
    rw [listed] at inside
    cases inside
  · cases present
  · cases warned

end Pole

end Aeolus.Frontend
