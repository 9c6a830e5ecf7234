/-
# Aeolus.Metrics.WindowPartition — is a sample summed up once?

Every history record is computed from the samples between two boundaries, and both
boundaries belong to the window.  So a sample taken exactly on a boundary is summed up
with the window before it and again with the one after.  The aggregation on `dispose` is of
the window before the last boundary, which the timer has aggregated already unless the
service stops before it has fired since.

`partitioned_along` says that nothing else goes wrong: while an aggregation finds its
window not yet aggregated, and no sample on a boundary with an aggregated neighbour, every
sample counts once, whatever the timestamps.  Pole: `boundary_sample_counts_twice`.
-/
import Aeolus.Metrics.MetricsHistory

namespace Aeolus.Metrics

open Aeolus.Storage Aeolus.Theory

/-! ## The property, and when a step keeps it -/

/-- The increment of the counter that a sample records. -/
def recorded (config : ValidatedMetricsHistoryConfig) (r : Sample) : ℚ :=
  r.number "requestRate" * config.intervalSeconds

/-- `totalRequests` of a record of the history. -/
def Aggregation.totalRequests (a : Aggregation) : ℚ :=
  (a.payload.fields.lookup "totalRequests").getD 0

structure Partitioned (config : ValidatedMetricsHistoryConfig) (aggregations : List Aggregation) :
    Prop where
  once : aggregations.Pairwise fun a b => ∀ r ∈ a.samples, r ∉ b.samples
  windows : aggregations.Pairwise fun a b => a.family = b.family → a.windowStart ≠ b.windowStart
  /-- `S` lists the samples of the aggregated windows, each of them once. -/
  totals : ∀ S : List Sample, S.Nodup →
    (∀ r, r ∈ S ↔ ∃ a ∈ aggregations, a.family = .http ∧ r ∈ a.samples) →
      ((aggregations.filter (·.family = .http)).map Aggregation.totalRequests).sum =
        (S.map (recorded config)).sum

/-- The window up to `windowStart` has not been aggregated, and no stored sample lies on its
boundary with a neighbour that has. -/
def Apart (config : ValidatedMetricsHistoryConfig) (h : History) (windowStart : ℚ) : Prop :=
  ∀ a ∈ h.aggregations, a.windowStart ≠ windowStart ∧
    (|windowStart - a.windowStart| = config.aggregationIntervalMs →
      ∀ r ∈ h.service.dataStore.records.rows, r.collection = a.family.live →
        (r.timestamp : ℚ) ≠ min windowStart a.windowStart)

def Clear (config : ValidatedMetricsHistoryConfig) (h : History) : Step → Prop
  | .aggregateOnce now => Apart config h (alignToWindow now config.aggregationIntervalMs)
  | .dispose now => Apart config h (alignToWindow now config.aggregationIntervalMs)
  | _ => True

instance (config : ValidatedMetricsHistoryConfig) (h : History) (windowStart : ℚ) :
    Decidable (Apart config h windowStart) :=
  inferInstanceAs (Decidable (∀ a ∈ h.aggregations, _ ∧ (_ → ∀ r ∈ _, _ → _)))

instance (config : ValidatedMetricsHistoryConfig) (h : History) :
    ∀ s : Step, Decidable (Clear config h s)
  | .beginSample => .isTrue trivial
  | .sampleFamily _ _ _ => .isTrue trivial
  | .aggregateOnce _ => inferInstanceAs (Decidable (Apart _ _ _))
  | .dispose _ => inferInstanceAs (Decidable (Apart _ _ _))

/-! ## One aggregation -/

/-- `a` sums up some of the samples `rows`, those of the window up to `windowStart`. -/
structure SumsUp (config : ValidatedMetricsHistoryConfig) (windowStart : ℚ) (rows : List Sample)
    (a : Aggregation) : Prop where
  window : a.windowStart = windowStart
  nodup : a.samples.Nodup
  stored : ∀ r ∈ a.samples, r ∈ rows ∧ r.collection = a.family.live
  inside : ∀ r ∈ a.samples,
    windowStart - config.aggregationIntervalMs ≤ r.timestamp ∧ r.timestamp ≤ windowStart
  summed : a.family = .http → a.totalRequests = total config "requestRate" a.samples

section Aggregating

variable {config : ValidatedMetricsHistoryConfig} {windowStart : ℚ} {now : ℤ}
  {service : MetricsHistoryService} {family : Family}

theorem aggregateWith_spec {lower : ℚ} {fields : List Sample → List (String × ℚ)}
    {spiky : List String} {a : Aggregation}
    (done : (aggregateWith lower windowStart windowStart now service family fields spiky).1 =
      some a) :
    a.family = family ∧ a.windowStart = windowStart ∧ a.payload.fields = fields a.samples ∧
      a.samples = service.dataStore.queryRange family.live lower windowStart := by
  unfold aggregateWith queryWindowSamples at done
  dsimp only at done
  split at done
  · cases done
  · rename_i samples asked
    split at asked
    · cases asked
    · cases asked
      split at done
      · cases done
        exact ⟨rfl, rfl, rfl, rfl⟩
      · cases done

theorem mem_aggregateWith {lower : ℚ} {fields : List Sample → List (String × ℚ)}
    {spiky : List String} {r : Sample}
    (member : r ∈ (aggregateWith lower windowStart windowStart now service family fields
      spiky).2.dataStore.records.rows) :
    r ∈ service.dataStore.records.rows ∨ r.collection = family.history := by
  unfold aggregateWith at member
  split at member
  · exact Or.inl member
  · rename_i samples asked
    dsimp only at member
    have wrote := @DataStore.mem_write _ service.dataStore family.history
      ⟨fields samples, collectSpikes samples spiky, some windowStart⟩ now r
    split at member
    all_goals
      rename_i written
      rw [written] at wrote
      exact (wrote member).imp_right And.left

/-- Every family is an instance. -/
theorem aggregateFamily_eq (config : ValidatedMetricsHistoryConfig) (lower windowStart : ℚ)
    (now : ℤ) (service : MetricsHistoryService) (family : Family) :
    ∃ fields spiky, aggregateFamily config lower windowStart windowStart now service family =
      aggregateWith lower windowStart windowStart now service family fields spiky ∧
      (family = .http → ∀ samples,
        ((fields samples).lookup "totalRequests").getD 0 = total config "requestRate" samples) := by
  cases family with
  | system => exact ⟨_, _, rfl, by simp⟩
  | mqtt => exact ⟨_, _, rfl, by simp⟩
  | automations => exact ⟨_, _, rfl, by simp⟩
  | http => exact ⟨_, _, rfl, fun _ samples => rfl⟩

theorem sumsUp_aggregateFamily {a : Aggregation}
    (done : (aggregateFamily config (windowStart - config.aggregationIntervalMs) windowStart
      windowStart now service family).1 = some a) :
    a.family = family ∧ SumsUp config windowStart service.dataStore.records.rows a := by
  obtain ⟨fields, spiky, same, totals⟩ := aggregateFamily_eq config
    (windowStart - config.aggregationIntervalMs) windowStart now service family
  rw [same] at done
  obtain ⟨rfl, window, payload, samples⟩ := aggregateWith_spec done
  refine ⟨rfl, window, ?_, fun r member => ?_, fun r member => ?_, fun http => ?_⟩
  · rw [samples]
    exact DataStore.nodup_queryRange _ _ _ _
  · rw [samples] at member
    exact ⟨(DataStore.mem_queryRange member).1, (DataStore.mem_queryRange member).2.1⟩
  · rw [samples] at member
    exact (DataStore.mem_queryRange member).2.2
  · rw [Aggregation.totalRequests, payload, totals http]

/-- What one call adds for a list of families, one after the other. -/
structure Round (config : ValidatedMetricsHistoryConfig) (windowStart : ℚ)
    (families : List Family) (rows : List Sample) (new : List Aggregation) : Prop where
  each : ∀ a ∈ new, a.family ∈ families ∧ SumsUp config windowStart rows a
  distinct : (new.map Aggregation.family).Nodup

theorem SumsUp.mono {rows rows' : List Sample} {a : Aggregation}
    (sums : SumsUp config windowStart rows' a)
    (kept : ∀ r ∈ rows', r ∈ rows ∨ ∃ other : Family, r.collection = other.history) :
    SumsUp config windowStart rows a where
  window := sums.window
  nodup := sums.nodup
  inside := sums.inside
  summed := sums.summed
  stored r member := by
    obtain ⟨there, live⟩ := sums.stored r member
    refine ⟨(kept r there).resolve_right ?_, live⟩
    rintro ⟨other, history⟩
    exact Family.live_ne_history a.family other (live.symm.trans history)

/-- The families do not see each other's records. -/
theorem round_foldl (config : ValidatedMetricsHistoryConfig) (windowStart : ℚ) (now : ℤ)
    {families : List Family} (nodup : families.Nodup) {rows : List Sample}
    {service : MetricsHistoryService} (kept : ∀ r ∈ service.dataStore.records.rows,
      r ∈ rows ∨ ∃ other : Family, r.collection = other.history) (done : List Aggregation) :
    ∃ new, (families.foldl (fun (done, service) family =>
      let (aggregated, service) := aggregateFamily config
        (windowStart - config.aggregationIntervalMs) windowStart windowStart now service family
      (done ++ aggregated.toList, service)) (done, service)).1 = done ++ new ∧
      Round config windowStart families rows new := by
  induction families generalizing service done with
  | nil => exact ⟨[], (List.append_nil done).symm, ⟨by simp, List.nodup_nil⟩⟩
  | cons family families ih =>
      obtain ⟨apart, nodup⟩ := List.nodup_cons.mp nodup
      have first := @sumsUp_aggregateFamily config windowStart now service family
      have after : ∀ r ∈ (aggregateFamily config (windowStart - config.aggregationIntervalMs)
          windowStart windowStart now service family).2.dataStore.records.rows,
          r ∈ rows ∨ ∃ other : Family, r.collection = other.history := by
        intro r member
        obtain ⟨fields, spiky, same, -⟩ := aggregateFamily_eq config
          (windowStart - config.aggregationIntervalMs) windowStart now service family
        rw [same] at member
        exact (mem_aggregateWith member).elim (kept r) fun history => Or.inr ⟨family, history⟩
      rcases outcome : aggregateFamily config (windowStart - config.aggregationIntervalMs)
        windowStart windowStart now service family with ⟨aggregated, service'⟩
      rw [outcome] at first after
      obtain ⟨new, same, later⟩ := ih nodup after (done ++ aggregated.toList)
      refine ⟨aggregated.toList ++ new, ?_, ?_⟩
      · rw [List.foldl_cons, ← List.append_assoc, ← same]
        simp only [outcome]
      · have here : ∀ a ∈ aggregated.toList, a.family = family ∧
            SumsUp config windowStart rows a := by
          intro a member
          obtain ⟨named, sums⟩ := first (Option.mem_toList.mp member)
          exact ⟨named, sums.mono kept⟩
        constructor
        · intro a member
          rcases List.mem_append.mp member with own | other
          · exact ⟨(here a own).1 ▸ List.mem_cons_self, (here a own).2⟩
          · exact ⟨List.mem_cons_of_mem _ (later.each a other).1, (later.each a other).2⟩
        · rw [List.map_append, List.nodup_append]
          refine ⟨?_, later.distinct, ?_⟩
          · cases aggregated <;> simp
          · intro f own g other same
            obtain ⟨a, member, rfl⟩ := List.mem_map.mp own
            obtain ⟨b, member', rfl⟩ := List.mem_map.mp other
            exact apart ((here a member).1 ▸ same ▸ (later.each b member').1)

theorem round_aggregateOnce (config : ValidatedMetricsHistoryConfig) (now : ℤ)
    (service : MetricsHistoryService) :
    Round config (alignToWindow now config.aggregationIntervalMs) Family.all
      service.dataStore.records.rows (aggregateOnce config now service).1 := by
  unfold aggregateOnce
  split
  · obtain ⟨new, same, round⟩ := round_foldl config
      (alignToWindow now config.aggregationIntervalMs) now (by decide : Family.all.Nodup)
      (fun r member => Or.inl member : ∀ r ∈ service.dataStore.records.rows, _) []
    dsimp only
    rw [same, List.nil_append]
    exact round
  · exact ⟨by simp, List.nodup_nil⟩

end Aggregating

/-! ## Runs -/

/-- What holds of the aggregations of a run. -/
structure Sound (config : ValidatedMetricsHistoryConfig) (aggregations : List Aggregation) :
    Prop where
  aligned : ∀ a ∈ aggregations, ∃ k : ℤ, a.windowStart = k * config.aggregationIntervalMs
  sums : ∀ a ∈ aggregations, SumsUp config a.windowStart a.samples a
  once : aggregations.Pairwise fun a b => ∀ r ∈ a.samples, r ∉ b.samples
  windows : aggregations.Pairwise fun a b => a.family = b.family → a.windowStart ≠ b.windowStart

variable {config : ValidatedMetricsHistoryConfig}

/-- Samples in two windows lie on the boundary between them. -/
theorem boundary_of_both {a b : Aggregation} {r : Sample} {j k : ℤ}
    (first : a.windowStart = j * config.aggregationIntervalMs)
    (second : b.windowStart = k * config.aggregationIntervalMs)
    (different : a.windowStart ≠ b.windowStart)
    (inFirst : a.windowStart - config.aggregationIntervalMs ≤ r.timestamp ∧
      r.timestamp ≤ a.windowStart)
    (inSecond : b.windowStart - config.aggregationIntervalMs ≤ r.timestamp ∧
      r.timestamp ≤ b.windowStart) :
    |b.windowStart - a.windowStart| = config.aggregationIntervalMs ∧
      (r.timestamp : ℚ) = min b.windowStart a.windowStart := by
  have positive := config.aggregation_pos
  rcases lt_trichotomy j k with before | rfl | after
  · obtain ⟨next, boundary⟩ := windows_meet positive before
      (first ▸ inFirst.2) (second ▸ inSecond.1)
    rw [← first] at next boundary
    rw [← second] at next
    rw [next, boundary, min_eq_right (by linarith)]
    exact ⟨by rw [add_sub_cancel_left, abs_of_pos positive], rfl⟩
  · exact absurd (first.trans second.symm) different
  · obtain ⟨next, boundary⟩ := windows_meet positive after
      (second ▸ inSecond.2) (first ▸ inFirst.1)
    rw [← second] at next boundary
    rw [← first] at next
    rw [next, boundary, min_eq_left (by linarith)]
    exact ⟨by rw [sub_add_cancel_left, abs_neg, abs_of_pos positive], rfl⟩

/-- The records of one call belong to different families. -/
theorem Round.pairwise {windowStart : ℚ} {families : List Family} {rows : List Sample}
    {new : List Aggregation} (round : Round config windowStart families rows new) :
    new.Pairwise fun a b => a.family ≠ b.family := List.pairwise_map.mp round.distinct

theorem SumsUp.family_eq {rows rows' : List Sample} {a b : Aggregation} {w v : ℚ} {r : Sample}
    (first : SumsUp config w rows a) (second : SumsUp config v rows' b) (inFirst : r ∈ a.samples)
    (inSecond : r ∈ b.samples) : a.family = b.family :=
  Family.live_injective ((first.stored r inFirst).2.symm.trans (second.stored r inSecond).2)

/-- One call keeps the aggregations apart when its window is apart from theirs. -/
theorem Sound.append {h : History} {windowStart : ℚ} {families : List Family}
    {new : List Aggregation} (sound : Sound config h.aggregations)
    (apart : Apart config h windowStart)
    (aligned : ∃ k : ℤ, windowStart = k * config.aggregationIntervalMs)
    (round : Round config windowStart families h.service.dataStore.records.rows new) :
    Sound config (h.aggregations ++ new) where
  aligned a member := by
    rcases List.mem_append.mp member with old | added
    · exact sound.aligned a old
    · rw [(round.each a added).2.window]
      exact aligned
  sums a member := by
    rcases List.mem_append.mp member with old | added
    · exact sound.sums a old
    · have sums := (round.each a added).2
      rw [sums.window]
      exact { sums with stored := fun r inside => ⟨inside, (sums.stored r inside).2⟩ }
  windows := by
    refine List.pairwise_append.mpr ⟨sound.windows, ?_, fun a old b added _ => ?_⟩
    · exact round.pairwise.imp fun different same => absurd same different
    · rw [(round.each b added).2.window]
      exact (apart a old).1
  once := by
    refine List.pairwise_append.mpr ⟨sound.once, ?_, fun a old b added r inOld inNew => ?_⟩
    · refine round.pairwise.imp_of_mem fun {a b} added added' different r inFirst inSecond => ?_
      exact different
        ((round.each a added).2.family_eq (round.each b added').2 inFirst inSecond)
    · have sums := (round.each b added).2
      have before := sound.sums a old
      obtain ⟨j, first⟩ := sound.aligned a old
      obtain ⟨k, second⟩ := aligned
      obtain ⟨far, free⟩ := apart a old
      obtain ⟨near, boundary⟩ := boundary_of_both first (sums.window.trans second)
        (sums.window ▸ far) (before.inside r inOld) (sums.window ▸ sums.inside r inNew)
      rw [sums.window] at near boundary
      exact free near r (sums.stored r inNew).1 (before.stored r inOld).2 boundary

theorem Sound.step {h : History} (sound : Sound config h.aggregations) {s : Step}
    (clear : Clear config h s) : Sound config (History.step config h s).aggregations := by
  cases s with
  | beginSample => exact sound
  | sampleFamily family registry timestamp => exact sound
  | aggregateOnce now =>
      exact sound.append clear (alignToWindow_eq now _) (round_aggregateOnce config now h.service)
  | dispose now =>
      exact sound.append clear (alignToWindow_eq now _) (round_aggregateOnce config now h.service)

/-! ## Totals -/

theorem total_eq_sum (samples : List Sample) :
    total config "requestRate" samples = (samples.map (recorded config)).sum := by
  suffices loop : ∀ sum : ℚ, samples.foldl
      (fun sum s => sum + s.number "requestRate" * config.intervalSeconds) sum =
        sum + (samples.map (recorded config)).sum from (loop 0).trans (zero_add _)
  induction samples with
  | nil => intro sum; simp
  | cons s samples ih =>
      intro sum
      rw [List.foldl_cons, ih, List.map_cons, List.sum_cons, recorded]
      ring

theorem Sound.partitioned {aggregations : List Aggregation} (sound : Sound config aggregations) :
    Partitioned config aggregations where
  once := sound.once
  windows := sound.windows
  totals S nodup listed := by
    let http := aggregations.filter (·.family = .http)
    have sums : ∀ a ∈ http, a ∈ aggregations ∧ a.family = .http := by
      intro a member
      simpa [http] using member
    have each : http.map Aggregation.totalRequests =
        http.map fun a => (a.samples.map (recorded config)).sum := by
      refine List.map_congr_left fun a member => ?_
      obtain ⟨there, family⟩ := sums a member
      rw [(sound.sums a there).summed family, total_eq_sum]
    have apart : (http.flatMap Aggregation.samples).Nodup := by
      refine List.nodup_flatMap.mpr ⟨fun a member => ?_, ?_⟩
      · exact (sound.sums a (sums a member).1).nodup
      · exact sound.once.filter _
    have same : (http.flatMap Aggregation.samples).Perm S := by
      refine (List.perm_ext_iff_of_nodup apart nodup).mpr fun r => ?_
      rw [listed, List.mem_flatMap]
      constructor
      · rintro ⟨a, member, inside⟩
        exact ⟨a, (sums a member).1, (sums a member).2, inside⟩
      · rintro ⟨a, member, family, inside⟩
        exact ⟨a, by simp [http, member, family], inside⟩
    rw [each, ← (same.map (recorded config)).sum_eq, List.map_flatMap, List.flatMap_def,
      List.sum_flatten, List.map_map]
    rfl

/-! ## What a sample records -/

/-- A new sample of the requests records how far their counter moved. -/
theorem recorded_sampleHttp {registry : Registry} {timestamp : ℤ}
    {service : MetricsHistoryService} {requestsTotal : ℚ}
    (read : readCounterValue registry "aeolus_http_requests_total" = some requestsTotal)
    {r : Sample}
    (member : r ∈ (sampleHttp config registry timestamp service).dataStore.records.rows) :
    r ∈ service.dataStore.records.rows ∨ r.collection = Family.http.live ∧
      r.timestamp = timestamp ∧ recorded config r =
        increment (service.rateComputer.get "aeolus_http_requests_total") requestsTotal := by
  unfold sampleHttp at member
  rw [read] at member
  refine (DataStore.mem_write member).imp_right fun ⟨collection, payload, stamp⟩ => ?_
  refine ⟨collection, stamp, ?_⟩
  rw [recorded, Sample.number, payload]
  exact computeRate_mul _ _ _ (div_pos config.sampling_pos (by norm_num))

/-! ## Every run -/

/-- While every aggregation is of a window apart from the windows aggregated before, each
sample is summed up once, no window twice, and the totals are those of the increments. -/
theorem partitioned_along (config : ValidatedMetricsHistoryConfig) {h : History}
    (fresh : h.aggregations = []) {steps : List Step}
    (clear : Along (History.step config) (Clear config) h steps) :
    (∀ p, p <+: steps → Partitioned config (run (History.step config) h p).aggregations) ∧
    ∀ (registry : Registry) (timestamp : ℤ) (service : MetricsHistoryService) (requestsTotal : ℚ),
      readCounterValue registry "aeolus_http_requests_total" = some requestsTotal →
      ∀ r ∈ (sampleHttp config registry timestamp service).dataStore.records.rows,
        r ∈ service.dataStore.records.rows ∨ r.collection = Family.http.live ∧
          r.timestamp = timestamp ∧ recorded config r =
            increment (service.rateComputer.get "aeolus_http_requests_total") requestsTotal := by
  have start : Sound config h.aggregations := by
    rw [fresh]
    exact ⟨by simp, by simp, List.Pairwise.nil, List.Pairwise.nil⟩
  refine ⟨fun p before => ?_, fun registry timestamp service requestsTotal read r member => ?_⟩
  · have kept : ∀ (h : History) (s : Step), Sound config h.aggregations → Clear config h s →
        Sound config (History.step config h s).aggregations := fun _ _ sound => sound.step
    exact (invariant_throughout kept start clear p before).partitioned
  · exact recorded_sampleHttp read member

/-! A service that samples the requests, ten more at every sample, in windows of a minute. -/

def minuteConfig : ValidatedMetricsHistoryConfig where
  samplingIntervalMs := 30000
  aggregationIntervalMs := 60000
  liveRetentionMinutes := 10
  sampling_pos := by norm_num
  aggregation_pos := by norm_num

def emptyHistory : History where
  service := { dataStore := { config := ⟨true, 500, 100000, 50⟩ } }

def requests (count : ℚ) : Registry := fun metricName =>
  if metricName = "aeolus_http_requests_total" then .values [⟨count, []⟩] else .missing

/-- Two windows with samples inside, and a stop before there are others. -/
def insideRun : List Step :=
  [.sampleFamily .http (requests 10) 10000, .sampleFamily .http (requests 20) 40000,
    .aggregateOnce 60001, .sampleFamily .http (requests 30) 70000,
    .sampleFamily .http (requests 40) 100000, .aggregateOnce 120001, .dispose 180000]

theorem partitioned_along_inside :
    Partitioned minuteConfig
      (run (History.step minuteConfig) emptyHistory insideRun).aggregations := by
  have clear : Along (History.step minuteConfig) (Clear minuteConfig) emptyHistory insideRun := by
    refine ⟨trivial, trivial, ?_, trivial, trivial, ?_, ?_, trivial⟩
    · decide +kernel
    · decide +kernel
    · decide +kernel
  exact (partitioned_along minuteConfig rfl clear).1 _ (List.prefix_refl _)

/-- A sample at the end of the first minute, among others inside. -/
def boundaryRun : List Step :=
  [.sampleFamily .http (requests 10) 30000, .sampleFamily .http (requests 20) 60000,
    .aggregateOnce 60001, .sampleFamily .http (requests 30) 90000, .aggregateOnce 120001]

def boundaryAggregations : List Aggregation :=
  (run (History.step minuteConfig) emptyHistory boundaryRun).aggregations

/-- Of the twenty requests the counter moved by, thirty are in the history. -/
theorem boundary_sample_counts_twice :
    boundaryAggregations.map Aggregation.windowStart = [60000, 120000] ∧
      boundaryAggregations.map Aggregation.totalRequests = [10, 20] ∧
      ¬Partitioned minuteConfig boundaryAggregations := by
  refine ⟨by decide +kernel, by decide +kernel, fun partitioned => ?_⟩
  exact absurd partitioned.once (by decide +kernel)

end Aeolus.Metrics
