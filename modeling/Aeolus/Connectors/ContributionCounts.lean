/-
# Aeolus.Connectors.ContributionCounts — contributions against enabled instances

`disable` takes the contributions of an instance away before it awaits the connector and
deletes the instance afterwards; `enable` does both after its awaits.  In between the count
of a type runs ahead of the `instances` map, by the disables in flight (`leaving`):

  `count τ + (leaving instances of type τ) = (instances of type τ)`

`Balanced` is this equation with what keeps it, and three lemmas say what a call does to it:
`leave`, `gone` and `enter`.  A call breaks it in four ways, and `Ok` excludes exactly
those: a second disable of an instance while the first is in flight, a restore of an
instance that is there, and a store that throws at the end of an enable or a disable.

`contributions_match` is the result for every interleaving; `double_disable` shows two
disables of one bridge taking the handlers of the other one away.
-/
import Aeolus.Connectors.ConnectorManager

namespace Aeolus.Connectors

open Aeolus.Core Aeolus.Theory Aeolus.Automations

/-! ## The handlers of a type -/

def ConnectorModule.actionTypes (mod : ConnectorModule) : List String :=
  mod.actionHandlers.map Prod.fst

def ConnectorModule.conditionTypes (mod : ConnectorModule) : List String :=
  mod.conditions.map Prod.fst

/-- Different connector types contribute different actions and conditions. -/
structure Separate (modules : String → Option ConnectorModule) : Prop where
  actions : ∀ τ σ mod other, modules τ = some mod → modules σ = some other → τ ≠ σ →
    ∀ key ∈ mod.actionTypes, key ∉ other.actionTypes
  conditions : ∀ τ σ mod other, modules τ = some mod → modules σ = some other → τ ≠ σ →
    ∀ key ∈ mod.conditionTypes, key ∉ other.conditionTypes

namespace Contributions

theorem handlers_addHandlers (service : CommandHandlers) (mod : ConnectorModule) :
    (addHandlers service mod).handlers =
      mod.actionHandlers.foldl (fun handlers entry => handlers.set entry.1 entry.2.handler)
        service.handlers := by
  unfold addHandlers
  generalize mod.actionHandlers = entries
  induction entries generalizing service with
  | nil => rfl
  | cons entry rest ih => exact ih _

theorem handlers_dropHandlers (service : CommandHandlers) (mod : ConnectorModule) :
    (dropHandlers service mod).handlers =
      mod.actionHandlers.foldl (fun handlers entry => handlers.delete entry.1)
        service.handlers := by
  unfold dropHandlers
  generalize mod.actionHandlers = entries
  induction entries generalizing service with
  | nil => rfl
  | cons entry rest ih => exact ih _

theorem has_addHandlers (service : CommandHandlers) (mod : ConnectorModule) (key : String) :
    (addHandlers service mod).has key = true ↔ key ∈ mod.actionTypes ∨ service.has key = true := by
  unfold CommandHandlers.has
  rw [handlers_addHandlers]
  exact OrderedMap.has_foldl_set Prod.fst _ mod.actionHandlers service.handlers key

theorem has_dropHandlers (service : CommandHandlers) (mod : ConnectorModule) (key : String) :
    (dropHandlers service mod).has key = true ↔ key ∉ mod.actionTypes ∧ service.has key = true := by
  unfold CommandHandlers.has
  rw [handlers_dropHandlers]
  exact OrderedMap.has_foldl_delete Prod.fst mod.actionHandlers service.handlers key

/-- The handlers of a type are there exactly while its count is positive. -/
structure Matches (modules : String → Option ConnectorModule) (c : Contributions) : Prop where
  positive : ∀ τ, c.activeInstanceCountByType.get τ ≠ some 0
  actions : ∀ τ mod, modules τ = some mod → ∀ key ∈ mod.actionTypes,
    (c.commandService.has key = true ↔ 0 < c.count τ)
  conditions : ∀ τ mod, modules τ = some mod → ∀ key ∈ mod.conditionTypes,
    (c.conditionRegistry.has key = true ↔ 0 < c.count τ)

theorem count_register (c : Contributions) (τ σ : String) (mod : ConnectorModule) :
    (c.registerContributions τ mod).count σ = if σ = τ then c.count τ + 1 else c.count σ := by
  have counts : (c.registerContributions τ mod).activeInstanceCountByType =
      c.activeInstanceCountByType.set τ (c.count τ + 1) := by
    unfold registerContributions
    dsimp only
    split <;> rfl
  unfold count
  rw [counts, OrderedMap.get_set]
  split <;> rfl

theorem count_unregister (c : Contributions) (τ σ : String) (mod : ConnectorModule) :
    (c.unregisterContributions τ mod).count σ = if σ = τ then c.count τ - 1 else c.count σ := by
  unfold unregisterContributions
  dsimp only
  split
  · rename_i last
    unfold count
    rw [OrderedMap.get_delete]
    split
    · rename_i same
      cases found : c.activeInstanceCountByType.get τ with
      | none => rfl
      | some n =>
          rw [found] at last
          exact last.symm
    · rfl
  · rename_i more
    unfold count
    dsimp only
    rw [OrderedMap.get_set]
    split
    · cases found : c.activeInstanceCountByType.get τ with
      | none => simp [found] at more
      | some n => rfl
    · rfl

theorem has_register (c : Contributions) (τ key : String) (mod : ConnectorModule) :
    ((c.registerContributions τ mod).commandService.has key = true ↔
      c.count τ = 0 ∧ key ∈ mod.actionTypes ∨ c.commandService.has key = true) ∧
    ((c.registerContributions τ mod).conditionRegistry.has key = true ↔
      c.count τ = 0 ∧ key ∈ mod.conditionTypes ∨ c.conditionRegistry.has key = true) := by
  unfold registerContributions
  dsimp only
  split
  · rename_i first
    simp only [first, true_and]
    refine ⟨has_addHandlers c.commandService mod key, ?_⟩
    exact OrderedMap.has_foldl_set Prod.fst Prod.snd mod.conditions c.conditionRegistry key
  · rename_i more
    simp [more]

theorem has_unregister (c : Contributions) (τ key : String) (mod : ConnectorModule) :
    ((c.unregisterContributions τ mod).commandService.has key = true ↔
      ¬ (c.count τ ≤ 1 ∧ key ∈ mod.actionTypes) ∧ c.commandService.has key = true) ∧
    ((c.unregisterContributions τ mod).conditionRegistry.has key = true ↔
      ¬ (c.count τ ≤ 1 ∧ key ∈ mod.conditionTypes) ∧ c.conditionRegistry.has key = true) := by
  have last : (c.activeInstanceCountByType.get τ).getD 1 - 1 = 0 ↔ c.count τ ≤ 1 := by
    unfold count
    cases c.activeInstanceCountByType.get τ with
    | none => simp
    | some n =>
        simp only [Option.getD_some]
        omega
  unfold unregisterContributions
  dsimp only
  split
  · rename_i zero
    have few := last.mp zero
    simp only [few, true_and]
    refine ⟨has_dropHandlers c.commandService mod key, ?_⟩
    exact OrderedMap.has_foldl_delete Prod.fst mod.conditions c.conditionRegistry key
  · rename_i more
    have many : ¬ c.count τ ≤ 1 := fun few => more (last.mpr few)
    simp [many]

variable {modules : String → Option ConnectorModule} {c : Contributions} {τ : String}
  {mod : ConnectorModule}

theorem Matches.register (fits : c.Matches modules) (separate : Separate modules)
    (known : modules τ = some mod) : (c.registerContributions τ mod).Matches modules := by
  -- one table of keys: those of `τ` are added with its first instance
  have table : ∀ (σ : String) (own before after : Prop), (σ = τ → own) → (σ ≠ τ → ¬ own) →
      (before ↔ 0 < c.count σ) → (after ↔ c.count τ = 0 ∧ own ∨ before) →
      (after ↔ 0 < (c.registerContributions τ mod).count σ) := by
    intro σ own before after mine others held becomes
    rw [becomes, count_register, held]
    by_cases same : σ = τ
    · subst same
      simp only [mine rfl, and_true, if_true]
      omega
    · simp [others same, same]
  refine ⟨fun σ => ?_, fun σ other here key member => ?_, fun σ other here key member => ?_⟩
  · have counts : (c.registerContributions τ mod).activeInstanceCountByType =
        c.activeInstanceCountByType.set τ (c.count τ + 1) := by
      unfold registerContributions
      dsimp only
      split <;> rfl
    rw [counts, OrderedMap.get_set]
    split
    · simp
    · exact fits.positive σ
  · refine table σ (key ∈ mod.actionTypes) _ _ ?_ ?_ (fits.actions σ other here key member)
      (has_register c τ key mod).1
    · rintro rfl
      cases known.symm.trans here
      exact member
    · exact fun differ => separate.actions σ τ other mod here known differ key member
  · refine table σ (key ∈ mod.conditionTypes) _ _ ?_ ?_ (fits.conditions σ other here key member)
      (has_register c τ key mod).2
    · rintro rfl
      cases known.symm.trans here
      exact member
    · exact fun differ => separate.conditions σ τ other mod here known differ key member

theorem Matches.unregister (fits : c.Matches modules) (separate : Separate modules)
    (known : modules τ = some mod) : (c.unregisterContributions τ mod).Matches modules := by
  -- they are dropped with its last one
  have table : ∀ (σ : String) (own before after : Prop), (σ = τ → own) → (σ ≠ τ → ¬ own) →
      (before ↔ 0 < c.count σ) → (after ↔ ¬ (c.count τ ≤ 1 ∧ own) ∧ before) →
      (after ↔ 0 < (c.unregisterContributions τ mod).count σ) := by
    intro σ own before after mine others held becomes
    rw [becomes, count_unregister, held]
    by_cases same : σ = τ
    · subst same
      simp only [mine rfl, and_true, if_true]
      omega
    · simp [others same, same]
  refine ⟨fun σ => ?_, fun σ other here key member => ?_, fun σ other here key member => ?_⟩
  · unfold unregisterContributions
    dsimp only
    split
    · rw [OrderedMap.get_delete]
      split
      · simp
      · exact fits.positive σ
    · rename_i more
      dsimp only
      rw [OrderedMap.get_set]
      split
      · exact fun zero => more (Option.some.inj zero)
      · exact fits.positive σ
  · refine table σ (key ∈ mod.actionTypes) _ _ ?_ ?_ (fits.actions σ other here key member)
      (has_unregister c τ key mod).1
    · rintro rfl
      cases known.symm.trans here
      exact member
    · exact fun differ => separate.actions σ τ other mod here known differ key member
  · refine table σ (key ∈ mod.conditionTypes) _ _ ?_ ?_ (fits.conditions σ other here key member)
      (has_unregister c τ key mod).2
    · rintro rfl
      cases known.symm.trans here
      exact member
    · exact fun differ => separate.conditions σ τ other mod here known differ key member

end Contributions

/-! ## The balance -/

/-- How many entries of a list are of a connector type. -/
def ofType (τ : String) (l : List EnabledInstance) : Nat :=
  l.countP fun i => i.connectorType = τ

/-- Contributions against the instances and the instances whose disable is in flight. -/
structure Balanced (w : Wiring) (c : Contributions) (instances : OrderedMap String EnabledInstance)
    (leaving : List (String × EnabledInstance)) : Prop where
  fits : c.Matches w.modules
  counts : ∀ τ, c.count τ + ofType τ (leaving.map Prod.snd) = ofType τ instances.values
  known : ∀ id i, instances.get id = some i → ∃ mod, w.modules i.connectorType = some mod
  present : ∀ e ∈ leaving, instances.get e.1 = some e.2
  once : (leaving.map Prod.fst).Nodup

namespace Balanced

variable {w : Wiring} {c : Contributions} {instances : OrderedMap String EnabledInstance}
  {leaving : List (String × EnabledInstance)}

theorem perm (balanced : Balanced w c instances leaving) {other : List (String × EnabledInstance)}
    (same : leaving.Perm other) : Balanced w c instances other where
  fits := balanced.fits
  counts τ := by
    rw [← balanced.counts τ]
    unfold ofType
    rw [(same.map Prod.snd).countP_eq]
  known := balanced.known
  present e member := balanced.present e (same.mem_iff.mpr member)
  once := (same.map Prod.fst).nodup_iff.mp balanced.once

/-- Distinct instances that are there are no more than all that are there. -/
theorem ofType_le {l : List (String × EnabledInstance)} (present : ∀ e ∈ l, instances.get e.1 = some e.2)
    (once : (l.map Prod.fst).Nodup) (τ : String) :
    ofType τ (l.map Prod.snd) ≤ ofType τ instances.values := by
  have inside : l.Subperm instances.entries := by
    refine List.subperm_of_subset once.of_map fun e member => ?_
    exact OrderedMap.mem_entries.mpr (present e member)
  unfold ofType OrderedMap.values
  rw [List.countP_map, List.countP_map]
  exact inside.countP_le _

/-- The first segment of a disable. -/
theorem leave (balanced : Balanced w c instances leaving) (separate : Separate w.modules)
    {id : String} {i : EnabledInstance} {mod : ConnectorModule} (here : instances.get id = some i)
    (known : w.modules i.connectorType = some mod) (idle : id ∉ leaving.map Prod.fst) :
    Balanced w (c.unregisterContributions i.connectorType mod) instances
      (leaving ++ [(id, i)]) := by
  have present : ∀ e ∈ leaving ++ [(id, i)], instances.get e.1 = some e.2 := by
    intro e member
    rcases List.mem_append.mp member with before | new
    · exact balanced.present e before
    · rw [List.mem_singleton.mp new]
      exact here
  have once : ((leaving ++ [(id, i)]).map Prod.fst).Nodup := by
    rw [List.map_append]
    refine List.nodup_append'.mpr ⟨balanced.once, by simp, ?_⟩
    simpa using idle
  refine ⟨balanced.fits.unregister separate known, fun τ => ?_, balanced.known, present, once⟩
  have before := balanced.counts τ
  have fewer := ofType_le present once τ
  rw [Contributions.count_unregister]
  simp only [List.map_append, List.map_singleton] at fewer ⊢
  unfold ofType at before fewer ⊢
  rw [List.countP_append, List.countP_singleton] at fewer ⊢
  by_cases mine : τ = i.connectorType
  · -- the count of the type is positive: this instance is there and not leaving yet
    subst mine
    simp only [decide_true, if_true] at fewer ⊢
    omega
  · have others : ¬ i.connectorType = τ := fun same => mine same.symm
    simp only [mine, others, decide_false, Bool.false_eq_true, if_false] at fewer ⊢
    omega

/-- The last segment of a disable. -/
theorem gone {id : String} {i : EnabledInstance}
    (balanced : Balanced w c instances ((id, i) :: leaving)) :
    Balanced w c (instances.delete id) leaving := by
  have here : instances.get id = some i := balanced.present (id, i) List.mem_cons_self
  obtain ⟨apart, once⟩ := List.nodup_cons.mp balanced.once
  refine ⟨balanced.fits, fun τ => ?_, fun k j found => ?_, fun e member => ?_, once⟩
  · have before := balanced.counts τ
    unfold ofType at before ⊢
    rw [(OrderedMap.values_perm_delete here).countP_eq, List.map_cons, List.countP_cons,
      List.countP_cons] at before
    dsimp only at before
    omega
  · rw [OrderedMap.get_delete] at found
    split at found
    · cases found
    · exact balanced.known k j found
  · have other : e.1 ≠ id := by
      rintro rfl
      exact apart (List.mem_map.mpr ⟨e, member, rfl⟩)
    rw [OrderedMap.get_delete_of_ne _ other]
    exact balanced.present e (List.mem_cons_of_mem _ member)

/-- The last segment of an enable. -/
theorem enter (balanced : Balanced w c instances leaving) (separate : Separate w.modules)
    {id τ : String} {mod : ConnectorModule} (absent : instances.get id = none)
    (known : w.modules τ = some mod) (number : Nat) :
    Balanced w (c.registerContributions τ mod) (instances.set id ⟨τ, number⟩) leaving := by
  refine ⟨balanced.fits.register separate known, fun σ => ?_, fun k j found => ?_,
    fun e member => ?_, balanced.once⟩
  · have before := balanced.counts σ
    rw [Contributions.count_register, OrderedMap.values_set_of_absent absent]
    unfold ofType at before ⊢
    rw [List.countP_append, List.countP_singleton]
    by_cases mine : σ = τ
    · subst mine
      simp only [decide_true, if_true]
      omega
    · have others : ¬ τ = σ := fun same => mine same.symm
      simp only [mine, others, decide_false, Bool.false_eq_true, if_false]
      omega
  · rw [OrderedMap.get_set] at found
    split at found
    · cases found
      exact ⟨mod, known⟩
    · exact balanced.known k j found
  · have here := balanced.present e member
    have other : e.1 ≠ id := by
      rintro rfl
      rw [absent] at here
      cases here
    rw [OrderedMap.get_set_of_ne _ _ other]
    exact here

end Balanced

/-! ## The manager -/

/-- The instance whose disable a flight is. -/
def Flight.leaving : Flight → Option (String × EnabledInstance)
  | .disableDisconnecting id i => some (id, i)
  | .disableDisposing id i => some (id, i)
  | _ => none

/-- A call of `enable`, `disable` or `restoreFromStore`. -/
def Flight.inProgress : Flight → Bool
  | .enableConnecting _ _ => true
  | .enableDiscovering _ _ => true
  | .disableDisconnecting _ _ => true
  | .disableDisposing _ _ => true
  | .restoreConnecting _ _ => true
  | .restoreDiscovering _ _ => true
  | _ => false

namespace ConnectorManager

def leaving (m : ConnectorManager) : List (String × EnabledInstance) :=
  m.flights.values.filterMap Flight.leaving

/-- No call of `enable`, `disable` or `restoreFromStore` is in progress. -/
def Quiet (m : ConnectorManager) : Prop := ∀ f ∈ m.flights.values, f.inProgress = false

/-- The flights have numbers that were given out. -/
def Numbered (m : ConnectorManager) : Prop := ∀ n f, m.flights.get n = some f → n < m.next

structure Inv (w : Wiring) (m : ConnectorManager) : Prop where
  balanced : Balanced w m.contributions m.instances m.leaving
  numbered : m.Numbered

variable {w : Wiring} {m : ConnectorManager}

theorem Numbered.launch (numbered : m.Numbered) (flight : Flight) :
    (m.launch flight).Numbered := by
  intro n f found
  unfold ConnectorManager.launch at found ⊢
  rw [OrderedMap.get_set] at found
  split at found
  · rename_i same
    rw [same]
    exact Nat.lt_succ_self _
  · exact (numbered n f found).trans (Nat.lt_succ_self _)

/-- The state that a flight is resumed in. -/
def taken (m : ConnectorManager) (n : Nat) : ConnectorManager :=
  { m with flights := m.flights.delete n }

theorem Numbered.taken (numbered : m.Numbered) (n : Nat) : (m.taken n).Numbered := by
  intro k f found
  change (m.flights.delete n).get k = some f at found
  rw [OrderedMap.get_delete] at found
  split at found
  · cases found
  · exact numbered k f found

theorem leaving_launch (numbered : m.Numbered) (flight : Flight) :
    (m.launch flight).leaving = m.leaving ++ flight.leaving.toList := by
  have absent : m.flights.get m.next = none := by
    cases found : m.flights.get m.next with
    | none => rfl
    | some f => exact absurd (numbered _ f found) (lt_irrefl _)
  unfold leaving launch
  rw [OrderedMap.values_set_of_absent absent, List.filterMap_append, List.filterMap_cons]
  cases flight.leaving <;> rfl

theorem leaving_taken {n : Nat} {flight : Flight} (found : m.flights.get n = some flight) :
    m.leaving.Perm (flight.leaving.toList ++ (m.taken n).leaving) := by
  have split := (OrderedMap.values_perm_delete found).filterMap Flight.leaving
  unfold leaving
  refine split.trans (.of_eq ?_)
  rw [List.filterMap_cons]
  cases flight.leaving <;> rfl

/-- What the balance does not depend on. -/
theorem Inv.frame (inv : m.Inv w) {m' : ConnectorManager}
    (contributions : m'.contributions = m.contributions) (instances : m'.instances = m.instances)
    (flights : m'.flights = m.flights) (next : m'.next = m.next) : m'.Inv w := by
  constructor
  · unfold leaving
    rw [contributions, instances, flights]
    exact inv.balanced
  · intro n f found
    rw [flights] at found
    rw [next]
    exact inv.numbered n f found

/-- A call that is no disable takes off. -/
theorem Inv.launch (inv : m.Inv w) {flight : Flight} (staying : flight.leaving = none) :
    (m.launch flight).Inv w := by
  refine ⟨?_, inv.numbered.launch flight⟩
  rw [leaving_launch inv.numbered, staying]
  exact inv.balanced.perm (.of_eq (List.append_nil _).symm)

/-- A call that is no disable is resumed. -/
theorem Inv.taken (inv : m.Inv w) {n : Nat} {flight : Flight}
    (found : m.flights.get n = some flight) (staying : flight.leaving = none) :
    (m.taken n).Inv w := by
  refine ⟨?_, inv.numbered.taken n⟩
  have same := leaving_taken found
  rw [staying] at same
  exact inv.balanced.perm same

/-! ## What a call needs -/

/-- No second disable of an instance whose disable is in flight, no instance that is entered
twice, and a store that does not throw at the end of an enable or a disable. -/
def Ok (m : ConnectorManager) : ConnectorEvent → Prop
  | .disable id => id ∉ m.leaving.map Prod.fst
  | .settles n _ _ storeThrows =>
      match m.flights.get n with
      | some (.enableDiscovering id _) => m.instances.get id = none ∧ storeThrows = false
      | some (.restoreDiscovering record _) => m.instances.get record.id = none
      | some (.disableDisposing _ _) => storeThrows = false
      | _ => True
  | _ => True

theorem Inv.restoreNext (inv : m.Inv w) (records : List ConnectorRecord) :
    (m.restoreNext w records).Inv w := by
  induction records with
  | nil => exact inv
  | cons record rest ih =>
      unfold ConnectorManager.restoreNext
      split
      · exact ih
      · split
        · exact inv
        · exact inv.launch rfl

theorem Inv.enable (inv : m.Inv w) (type id : String) : (m.enable w type id).Inv w := by
  unfold ConnectorManager.enable
  split
  · exact inv
  · split
    · exact inv
    · exact inv.launch rfl

/-- An instance is entered: after the registration of its type. -/
theorem Inv.arrive (inv : m.Inv w) (separate : Separate w.modules) {id type : String}
    {mod : ConnectorModule} (known : w.modules type = some mod) (absent : m.instances.get id = none)
    (outcome : Settled) (now : Nat) (store : OrderedMap String ConnectorRecord)
    (emitted : List String) (number : Nat) :
    ({ (m.arrive w id type mod outcome now).1 with store := store }.enter id type emitted
      number).Inv w := by
  constructor
  · exact inv.balanced.enter separate absent known number
  · intro n f found
    exact (inv.numbered n f found).trans (Nat.lt_succ_self _)

theorem Inv.enableDiscovered (inv : m.Inv w) (separate : Separate w.modules) {id : String}
    (type : String) (absent : m.instances.get id = none) (outcome : Settled) (now : Nat) :
    (m.enableDiscovered w id type outcome now false).Inv w := by
  unfold ConnectorManager.enableDiscovered
  split
  · exact inv
  · rename_i mod known
    exact inv.arrive separate known absent outcome now _ _ _

theorem Inv.restoreDiscovered (inv : m.Inv w) (separate : Separate w.modules)
    {record : ConnectorRecord} (rest : List ConnectorRecord)
    (absent : m.instances.get record.id = none) (outcome : Settled) (now : Nat) :
    (m.restoreDiscovered w record rest outcome now).Inv w := by
  unfold ConnectorManager.restoreDiscovered
  split
  · exact inv
  · rename_i mod known
    refine Inv.restoreNext ?_ rest
    exact inv.arrive separate known absent outcome now m.store _ _

theorem Inv.disable (inv : m.Inv w) (separate : Separate w.modules) {id : String}
    (idle : id ∉ m.leaving.map Prod.fst) : (m.disable w id).Inv w := by
  unfold ConnectorManager.disable
  split
  · exact inv
  · rename_i i here
    obtain ⟨mod, known⟩ := inv.balanced.known id i here
    simp only [known]
    have leaves := inv.balanced.leave separate here known idle
    refine ⟨?_, ?_⟩
    · have flights : ({ m with
            timers := m.timers.delete i.devices
            contributions := m.contributions.unregisterContributions i.connectorType
              mod }.launch (.disableDisconnecting id i)).leaving = m.leaving ++ [(id, i)] :=
        leaving_launch inv.numbered (.disableDisconnecting id i)
      rw [flights]
      exact leaves
    · exact inv.numbered.launch (.disableDisconnecting id i)

/-- A disable goes from the disconnection to the disposal. -/
theorem Inv.disconnected (inv : m.Inv w) {n : Nat} {id : String} {i : EnabledInstance}
    (found : m.flights.get n = some (.disableDisconnecting id i)) :
    ((m.taken n).launch (.disableDisposing id i)).Inv w := by
  refine ⟨?_, (inv.numbered.taken n).launch _⟩
  rw [leaving_launch (inv.numbered.taken n)]
  exact inv.balanced.perm ((leaving_taken found).trans List.perm_append_comm)

theorem Inv.disposed (inv : m.Inv w) {n : Nat} {id : String} {i : EnabledInstance}
    (found : m.flights.get n = some (.disableDisposing id i)) :
    ((m.taken n).disableDisposed id i false).Inv w :=
  ⟨(inv.balanced.perm (leaving_taken found)).gone, inv.numbered.taken n⟩

theorem Inv.polled (inv : m.Inv w) (id : String) (number : Nat) (outcome : Settled) (now : Nat) :
    (m.polled w id number outcome now).Inv w := by
  unfold ConnectorManager.polled
  split
  · exact inv
  · exact inv.frame rfl rfl rfl rfl

theorem Inv.acted (inv : m.Inv w) (device : Device) (action : Action) (now : Nat) :
    (m.acted w device action now).Inv w := by
  unfold ConnectorManager.acted
  split
  · exact inv.frame rfl rfl rfl rfl
  · split
    · exact inv.launch rfl
    · exact inv.frame rfl rfl rfl rfl

theorem Inv.settles (inv : m.Inv w) (separate : Separate w.modules) {n : Nat} {flight : Flight}
    (found : m.flights.get n = some flight) (outcome : Settled) (now : Nat) (storeThrows : Bool)
    (ok : m.Ok (.settles n outcome now storeThrows)) :
    ((m.taken n).resume w flight outcome now storeThrows).Inv w := by
  simp only [Ok, found] at ok
  cases flight with
  | enableConnecting id type => exact (inv.taken found rfl).launch rfl
  | enableDiscovering id type =>
      obtain ⟨absent, rfl⟩ := ok
      exact (inv.taken found rfl).enableDiscovered separate type absent outcome now
  | disableDisconnecting id i => exact inv.disconnected found
  | disableDisposing id i =>
      subst ok
      exact inv.disposed found
  | restoreConnecting record rest => exact (inv.taken found rfl).launch rfl
  | restoreDiscovering record rest =>
      exact (inv.taken found rfl).restoreDiscovered separate rest ok outcome now
  | polling id number => exact (inv.taken found rfl).polled id number outcome now
  | retryConnecting id i =>
      have rest := inv.taken found rfl
      cases outcome with
      | threw => exact rest
      | returned => exact rest.launch rfl
      | discovered devices => exact rest.launch rfl
  | retryDiscovering id i => exact (inv.taken found rfl).frame rfl rfl rfl rfl
  | acting device action =>
      have rest := inv.taken found rfl
      cases outcome with
      | threw => exact rest
      | returned => exact rest.acted device action now
      | discovered devices => exact rest.acted device action now
  | rediscovering => exact (inv.taken found rfl).frame rfl rfl rfl rfl

theorem Inv.step (separate : Separate w.modules) (m : ConnectorManager) (event : ConnectorEvent)
    (inv : m.Inv w) (ok : m.Ok event) : (m.step w event).Inv w := by
  cases event with
  | enable type id => exact inv.enable type id
  | disable id => exact inv.disable separate ok
  | restoreFromStore => exact inv.restoreNext _
  | tick number =>
      simp only [ConnectorManager.step]
      split
      · exact inv
      · exact inv.launch rfl
  | retry id =>
      simp only [ConnectorManager.step]
      split
      · exact inv
      · exact inv.launch rfl
  | executeAction deviceId action catalog =>
      simp only [ConnectorManager.step, ConnectorManager.executeAction]
      split
      · exact inv.launch rfl
      · exact inv
  | settles n outcome now storeThrows =>
      simp only [ConnectorManager.step]
      split
      · exact inv
      · rename_i flight found
        exact inv.settles separate found outcome now storeThrows ok
  | stateChange event =>
      simp only [ConnectorManager.step]
      split
      · split
        · exact inv
        · exact inv.frame rfl rfl rfl rfl
      · exact inv
  | removeDevice id => exact inv.frame rfl rfl rfl rfl

/-! ## The result -/

/-- A manager at its start: no instances, no calls, and no contributed handler. -/
structure Fresh (w : Wiring) (m : ConnectorManager) : Prop where
  instances : m.instances = .empty
  flights : m.flights = .empty
  counts : m.contributions.activeInstanceCountByType = .empty
  actions : ∀ τ mod, w.modules τ = some mod → ∀ key ∈ mod.actionTypes,
    m.contributions.commandService.has key = false
  conditions : ∀ τ mod, w.modules τ = some mod → ∀ key ∈ mod.conditionTypes,
    m.contributions.conditionRegistry.has key = false

theorem Fresh.inv (fresh : m.Fresh w) : m.Inv w := by
  have none_counted : ∀ τ, m.contributions.count τ = 0 := by
    intro τ
    unfold Contributions.count
    rw [fresh.counts]
    rfl
  have nobody : m.leaving = [] := by
    unfold leaving
    rw [fresh.flights]
    rfl
  constructor
  · rw [nobody, fresh.instances]
    refine ⟨⟨fun τ => ?_, fun τ mod known key member => ?_, fun τ mod known key member => ?_⟩,
      fun τ => none_counted τ, fun id i found => ?_, fun e member => ?_, List.nodup_nil⟩
    · rw [fresh.counts]
      simp
    · simp [none_counted, fresh.actions τ mod known key member]
    · simp [none_counted, fresh.conditions τ mod known key member]
    · cases found
    · exact absurd member List.not_mem_nil
  · intro n f found
    rw [fresh.flights] at found
    cases found

/-- An instance of the type is in the `instances` map. -/
def Enabled (m : ConnectorManager) (τ : String) : Prop :=
  ∃ id i, m.instances.get id = some i ∧ i.connectorType = τ

theorem enabled_iff (m : ConnectorManager) (τ : String) :
    m.Enabled τ ↔ 0 < ofType τ m.instances.values := by
  unfold ofType Enabled
  rw [List.countP_pos_iff]
  constructor
  · rintro ⟨id, i, found, type⟩
    exact ⟨i, OrderedMap.mem_values.mpr ⟨id, found⟩, by simpa using type⟩
  · rintro ⟨i, member, type⟩
    obtain ⟨id, found⟩ := OrderedMap.mem_values.mp member
    exact ⟨id, i, found, by simpa using type⟩

/-- The contributions of every type match its instances. -/
structure Matched (w : Wiring) (m : ConnectorManager) : Prop where
  counts : ∀ τ, m.contributions.count τ = ofType τ m.instances.values
  actions : ∀ τ mod, w.modules τ = some mod → ∀ key ∈ mod.actionTypes,
    (m.contributions.commandService.has key = true ↔ m.Enabled τ)
  conditions : ∀ τ mod, w.modules τ = some mod → ∀ key ∈ mod.conditionTypes,
    (m.contributions.conditionRegistry.has key = true ↔ m.Enabled τ)

theorem Inv.matched (inv : m.Inv w) (quiet : m.Quiet) : m.Matched w := by
  have nobody : m.leaving = [] := by
    refine List.filterMap_eq_nil_iff.mpr fun flight member => ?_
    have done := quiet flight member
    cases flight <;> first | rfl | exact absurd done (by simp [Flight.inProgress])
  have counts : ∀ τ, m.contributions.count τ = ofType τ m.instances.values := by
    intro τ
    have balance := inv.balanced.counts τ
    rw [nobody] at balance
    exact balance
  refine ⟨counts, fun τ mod known key member => ?_, fun τ mod known key member => ?_⟩
  · rw [inv.balanced.fits.actions τ mod known key member, counts, enabled_iff]
  · rw [inv.balanced.fits.conditions τ mod known key member, counts, enabled_iff]

end ConnectorManager

open ConnectorManager

/-- **Contributions.**  In every interleaving of calls that meet the condition, whenever no
`enable`, `disable` or `restoreFromStore` is in progress, the handlers of a connector type
are registered if and only if an instance of it is there, and its count is the number of
these. -/
theorem contributions_match {w : Wiring} (separate : Separate w.modules) {m : ConnectorManager}
    (fresh : m.Fresh w) {es : List ConnectorEvent}
    (along : Along (ConnectorManager.step w) ConnectorManager.Ok m es) :
    ∀ p, p <+: es → (run (ConnectorManager.step w) m p).Quiet →
      (run (ConnectorManager.step w) m p).Matched w := fun p initial quiet =>
  (invariant_throughout (Inv.step separate) fresh.inv along p initial).matched quiet

/-! ## Two bridges -/

/-- The two connector types of `src/index.ts`, with the condition types they contribute. -/
def twoTypes : String → Option ConnectorModule
  | "hue" => some
      { actionHandlers := hueActionHandlers, conditions := [("brightness_above", fun _ _ => false)] }
  | "kasa" => some
      { actionHandlers := kasaActionHandlers, conditions := [("power_above", fun _ _ => false)] }
  | _ => none

theorem twoTypes_cases {τ : String} {mod : ConnectorModule} (known : twoTypes τ = some mod) :
    τ = "hue" ∧ mod.actionTypes = ["hue_scene", "hue_color_loop"] ∧
        mod.conditionTypes = ["brightness_above"] ∨
      τ = "kasa" ∧ mod.actionTypes = ["kasa_energy_report"] ∧
        mod.conditionTypes = ["power_above"] := by
  unfold twoTypes at known
  split at known
  · cases known
    exact .inl ⟨rfl, rfl, rfl⟩
  · cases known
    exact .inr ⟨rfl, rfl, rfl⟩
  · cases known

theorem twoTypes_separate : Separate twoTypes := by
  constructor
  · intro τ σ mod other known known' differ key member
    obtain ⟨rfl, own, -⟩ | ⟨rfl, own, -⟩ := twoTypes_cases known <;>
      obtain ⟨rfl, theirs, -⟩ | ⟨rfl, theirs, -⟩ := twoTypes_cases known' <;>
      first
        | exact absurd rfl differ
        | (rw [own] at member; rw [theirs]; revert key; decide)
  · intro τ σ mod other known known' differ key member
    obtain ⟨rfl, -, own⟩ | ⟨rfl, -, own⟩ := twoTypes_cases known <;>
      obtain ⟨rfl, -, theirs⟩ | ⟨rfl, -, theirs⟩ := twoTypes_cases known' <;>
      first
        | exact absurd rfl differ
        | (rw [own] at member; rw [theirs]; revert key; decide)

def houseWiring : Wiring where
  modules := twoTypes
  createThrows _ := false
  platform :=
    { sha256 := fun text => text
      jsonParse := fun _ => none
      number := fun _ => none
      trim := fun text => text
      toLowerCase := fun text => text
      titleCase := fun text => text }

theorem house_fresh : ConnectorManager.Fresh houseWiring {} where
  instances := rfl
  flights := rfl
  counts := rfl
  actions _ _ _ _ _ := rfl
  conditions _ _ _ _ _ := rfl

/-- Two Hue bridges are enabled one after the other. -/
def twoBridges : List ConnectorEvent :=
  [.enable "hue" "attic", .settles 0 .returned 0 false, .settles 1 (.discovered []) 0 false,
    .enable "hue" "hall", .settles 3 .returned 0 false, .settles 4 (.discovered []) 0 false]

theorem contributions_match_one_disable :
    let m := run (ConnectorManager.step houseWiring) {}
      (twoBridges ++ [.disable "attic", .settles 6 .returned 0 false, .settles 7 .returned 0 false])
    m.Matched houseWiring ∧ m.Enabled "hue" := by
  intro m
  have along : Along (ConnectorManager.step houseWiring) ConnectorManager.Ok {}
      (twoBridges ++
        [.disable "attic", .settles 6 .returned 0 false, .settles 7 .returned 0 false]) :=
    ⟨trivial, trivial, ⟨rfl, rfl⟩, trivial, trivial, ⟨rfl, rfl⟩, List.not_mem_nil, trivial, rfl,
      trivial⟩
  refine ⟨?_, "hall", ⟨"hue", 5⟩, rfl, rfl⟩
  exact contributions_match twoTypes_separate house_fresh along _ (List.prefix_refl _)
    fun f member => absurd member List.not_mem_nil

/-- The attic bridge is disabled twice at once; the hall bridge stays without handlers. -/
theorem double_disable :
    let m := run (ConnectorManager.step houseWiring) {}
      (twoBridges ++ [.disable "attic", .disable "attic", .settles 6 .returned 0 false,
        .settles 7 .returned 0 false, .settles 8 .returned 0 false, .settles 9 .returned 0 false])
    m.Quiet ∧ m.Enabled "hue" ∧ m.contributions.count "hue" = 0 ∧
      m.contributions.commandService.has "hue_scene" = false ∧ ¬ m.Matched houseWiring := by
  intro m
  refine ⟨fun f member => absurd member List.not_mem_nil, ⟨"hall", ⟨"hue", 5⟩, rfl, rfl⟩, rfl, rfl,
    fun matched => ?_⟩
  exact absurd (matched.counts "hue") (by decide)

end Aeolus.Connectors
