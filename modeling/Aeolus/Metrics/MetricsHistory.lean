/-
# Aeolus.Metrics.MetricsHistory — samples of the metrics, and their aggregates

`src/metrics/metrics-history-service.ts`.  Every sampling interval the service writes one
record of each family of metrics into its live collection, and every aggregation interval
it sums up the records of the window that is over into one record of the family's history.

Reading a metric is asynchronous, so another timer can come between the families of one
sample: a step samples one family, and `sampleOnce` is four of them (`sampleOnce_eq_run`).
Each step also tells which samples each history record was computed from.
-/
import Aeolus.Metrics.Aggregation
import Aeolus.Storage.DataStore

namespace Aeolus.Metrics

open Aeolus.Storage Aeolus.Theory

/-! ## Metrics -/

structure MetricValue where
  value : ℚ
  labels : List (String × String) := []

/-- What the registry has under a name; `get()` may throw. -/
inductive Metric where
  | missing
  | values (values : List MetricValue)
  | throws

abbrev Registry := String → Metric

/-- The sum over all labels; `none` when the metric throws. -/
def readCounterValue (registry : Registry) (metricName : String) : Option ℚ :=
  match registry metricName with
  | .missing => some 0
  | .values values => some (values.foldl (fun total entry => total + entry.value) 0)
  | .throws => none

def readCounterValueWithLabels (registry : Registry) (metricName : String)
    (labels : List (String × String)) : Option ℚ :=
  match registry metricName with
  | .missing => some 0
  | .values values =>
      some (values.foldl (fun total entry =>
        if labels.all fun label => entry.labels.lookup label.1 = some label.2 then
          total + entry.value
        else total) 0)
  | .throws => none

def readGaugeValue (registry : Registry) (metricName : String) (defaultValue : ℚ) : Option ℚ :=
  match registry metricName with
  | .missing => some defaultValue
  | .values [] => some defaultValue
  | .values (first :: _) => some first.value
  | .throws => none

/-! ## Configuration and collections -/

/-- The validated intervals; both have a positive minimum. -/
structure ValidatedMetricsHistoryConfig where
  samplingIntervalMs : ℚ
  aggregationIntervalMs : ℚ
  liveRetentionMinutes : ℚ
  sampling_pos : 0 < samplingIntervalMs
  aggregation_pos : 0 < aggregationIntervalMs

def ValidatedMetricsHistoryConfig.intervalSeconds (config : ValidatedMetricsHistoryConfig) : ℚ :=
  config.samplingIntervalMs / 1000

inductive Family where
  | system
  | mqtt
  | automations
  | http
  deriving DecidableEq, Repr

/-- `LIVE_COLLECTIONS` -/
def Family.live : Family → String
  | .system => "_metrics:live:system"
  | .mqtt => "_metrics:live:mqtt"
  | .automations => "_metrics:live:automations"
  | .http => "_metrics:live:http"

/-- `HISTORY_COLLECTIONS` -/
def Family.history : Family → String
  | .system => "_metrics:history:system"
  | .mqtt => "_metrics:history:mqtt"
  | .automations => "_metrics:history:automations"
  | .http => "_metrics:history:http"

def Family.all : List Family := [.system, .mqtt, .automations, .http]

theorem Family.live_ne_history (family other : Family) : family.live ≠ other.history := by
  cases family <;> cases other <;> decide

theorem Family.live_injective {family other : Family} (same : family.live = other.live) :
    family = other := by
  revert same
  cases family <;> cases other <;> decide

/-- A live payload has numbers only; one of the history has its spikes and its window too. -/
structure MetricsPayload where
  fields : List (String × ℚ)
  spikes : Option (List (String × SpikeEntry)) := none
  timestamp : Option ℚ := none
  deriving DecidableEq

abbrev Sample := DataRecord MetricsPayload

/-- `Number(s.payload[field] ?? 0)` -/
def Sample.number (s : Sample) (field : String) : ℚ := (s.payload.fields.lookup field).getD 0

structure MetricsHistoryService where
  dataStore : DataStore MetricsPayload
  rateComputer : RateComputer := .empty
  collectionsInitialized : Bool := false

/-! ## Sampling -/

/-- `safeWrite`: a write that throws is logged. -/
def safeWrite (service : MetricsHistoryService) (collection : String)
    (fields : List (String × ℚ)) (timestamp : ℤ) : MetricsHistoryService :=
  { service with dataStore :=
      (DataStore.write collection { fields } timestamp service.dataStore).2 }

def initializeLiveCollections (service : MetricsHistoryService) : MetricsHistoryService :=
  { service with
    dataStore := Family.all.foldl (fun dataStore family =>
      (DataStore.createCollection family.live dataStore).2) service.dataStore
    collectionsInitialized := true }

section Sampling

variable (config : ValidatedMetricsHistoryConfig) (registry : Registry) (timestamp : ℤ)
  (service : MetricsHistoryService)

def sampleSystem : MetricsHistoryService :=
  match readGaugeValue registry "process_resident_memory_bytes" 0,
    readGaugeValue registry "nodejs_eventloop_lag_seconds" 0 with
  | some memoryBytes, some eventLoopLag =>
      safeWrite service Family.system.live
        [("memoryUsageMb", memoryBytes / (1024 * 1024)), ("eventLoopLagMs", eventLoopLag * 1000)]
        timestamp
  | _, _ => service

def sampleMqtt : MetricsHistoryService :=
  match readCounterValue registry "aeolus_mqtt_messages_received_total",
    readCounterValue registry "aeolus_mqtt_messages_published_total",
    readGaugeValue registry "aeolus_mqtt_connection_state" 0 with
  | some receivedTotal, some publishedTotal, some connected =>
      let (messagesReceivedRate, rateComputer) := computeRate service.rateComputer
        "aeolus_mqtt_messages_received_total" receivedTotal config.intervalSeconds
      let (messagesPublishedRate, rateComputer) := computeRate rateComputer
        "aeolus_mqtt_messages_published_total" publishedTotal config.intervalSeconds
      safeWrite { service with rateComputer } Family.mqtt.live
        [("messagesReceivedRate", messagesReceivedRate.getD 0),
          ("messagesPublishedRate", messagesPublishedRate.getD 0), ("connected", connected)]
        timestamp
  | _, _, _ => service

/-- The first rate is computed before the errors are read. -/
def sampleAutomations : MetricsHistoryService :=
  match readCounterValue registry "aeolus_automations_executions_total",
    readGaugeValue registry "aeolus_automations_active_rules" 0 with
  | some executionsTotal, some activeRules =>
      let (executionRate, rateComputer) := computeRate service.rateComputer
        "aeolus_automations_executions_total" executionsTotal config.intervalSeconds
      match readCounterValueWithLabels registry "aeolus_automations_executions_total"
        [("status", "error")] with
      | some errorsTotal =>
          let (errorRate, rateComputer) := computeRate rateComputer
            "aeolus_automations_errors" errorsTotal config.intervalSeconds
          safeWrite { service with rateComputer } Family.automations.live
            [("executionRate", executionRate.getD 0), ("errorRate", errorRate.getD 0),
              ("activeRules", activeRules)] timestamp
      | none => { service with rateComputer }
  | _, _ => service

def sampleHttp : MetricsHistoryService :=
  match readCounterValue registry "aeolus_http_requests_total" with
  | some requestsTotal =>
      let (requestRate, rateComputer) := computeRate service.rateComputer
        "aeolus_http_requests_total" requestsTotal config.intervalSeconds
      safeWrite { service with rateComputer } Family.http.live
        [("requestRate", requestRate.getD 0)] timestamp
  | none => service

def sampleFamily : Family → MetricsHistoryService
  | .system => sampleSystem registry timestamp service
  | .mqtt => sampleMqtt config registry timestamp service
  | .automations => sampleAutomations config registry timestamp service
  | .http => sampleHttp config registry timestamp service

/-- What `sampleOnce` does before it first waits. -/
def beginSample : MetricsHistoryService :=
  if service.dataStore.isEnabled ∧ service.collectionsInitialized = false then
    initializeLiveCollections service
  else service

def sampleOnce : MetricsHistoryService :=
  if service.dataStore.isEnabled then
    Family.all.foldl (fun service family => sampleFamily config registry timestamp service family)
      (beginSample service)
  else service

end Sampling

/-! ## Aggregation -/

/-- A record of the history, and the samples it was computed from. -/
structure Aggregation where
  family : Family
  windowStart : ℚ
  payload : MetricsPayload
  samples : List Sample

/-- `none` with fewer than two samples. -/
def queryWindowSamples (dataStore : DataStore MetricsPayload) (family : Family)
    (lower upper : ℚ) : Option (List Sample) :=
  let records := dataStore.queryRange family.live lower upper
  if records.length < 2 then none else some records

def collectSpikes (samples : List Sample) (fields : List String) :
    Option (List (String × SpikeEntry)) :=
  let spikes := fields.filterMap fun field =>
    (detectSpikes (samples.map fun s => ⟨s.timestamp, s.number field⟩)).map (field, ·)
  if spikes = [] then none else some spikes

/-- `sum of (rate × intervalSeconds) across samples` -/
def total (config : ValidatedMetricsHistoryConfig) (field : String) (samples : List Sample) : ℚ :=
  samples.foldl (fun sum s => sum + s.number field * config.intervalSeconds) 0

section Aggregating

variable (config : ValidatedMetricsHistoryConfig) (lower upper windowStart : ℚ) (now : ℤ)
  (service : MetricsHistoryService)

/-- What the families have in common: the summary is `fields` of the samples. -/
def aggregateWith (family : Family) (fields : List Sample → List (String × ℚ))
    (spiky : List String) : Option Aggregation × MetricsHistoryService :=
  match queryWindowSamples service.dataStore family lower upper with
  | none => (none, service)
  | some samples =>
      let payload := ⟨fields samples, collectSpikes samples spiky, some windowStart⟩
      match DataStore.write family.history payload now service.dataStore with
      | (.ok _, dataStore) =>
          (some ⟨family, windowStart, payload, samples⟩, { service with dataStore })
      | (.error _, dataStore) => (none, { service with dataStore })

def aggregateSystem : Option Aggregation × MetricsHistoryService :=
  aggregateWith lower upper windowStart now service .system (fun samples =>
    let memoryAgg := computeAggregate (samples.map (·.number "memoryUsageMb"))
    let eventLoopAgg := computeAggregate (samples.map (·.number "eventLoopLagMs"))
    [("avgMemoryMb", memoryAgg.avg), ("peakMemoryMb", memoryAgg.peak),
      ("avgEventLoopLagMs", eventLoopAgg.avg), ("peakEventLoopLagMs", eventLoopAgg.peak)])
    ["memoryUsageMb", "eventLoopLagMs"]

def aggregateMqtt : Option Aggregation × MetricsHistoryService :=
  aggregateWith lower upper windowStart now service .mqtt (fun samples =>
    let rateAgg := computeAggregate (samples.map (·.number "messagesReceivedRate"))
    let connectedCount := (samples.filter fun s => s.payload.fields.lookup "connected" = some 1).length
    [("avgMessagesPerSec", rateAgg.avg), ("peakMessagesPerSec", rateAgg.peak),
      ("connectedPct", (connectedCount : ℚ) / samples.length * 100)])
    ["messagesReceivedRate"]

def aggregateAutomations : Option Aggregation × MetricsHistoryService :=
  aggregateWith lower upper windowStart now service .automations (fun samples =>
    [("totalExecutions", total config "executionRate" samples),
      ("totalErrors", total config "errorRate" samples),
      ("avgActiveRules", (computeAggregate (samples.map (·.number "activeRules"))).avg)])
    ["executionRate", "errorRate", "activeRules"]

def aggregateHttp : Option Aggregation × MetricsHistoryService :=
  aggregateWith lower upper windowStart now service .http (fun samples =>
    [("totalRequests", total config "requestRate" samples), ("avgResponseMs", 0)])
    ["requestRate"]

def aggregateFamily : Family → Option Aggregation × MetricsHistoryService
  | .system => aggregateSystem lower upper windowStart now service
  | .mqtt => aggregateMqtt lower upper windowStart now service
  | .automations => aggregateAutomations config lower upper windowStart now service
  | .http => aggregateHttp config lower upper windowStart now service

end Aggregating

/-- The window that is over is the one before the boundary `now` lies after. -/
def aggregateOnce (config : ValidatedMetricsHistoryConfig) (now : ℤ)
    (service : MetricsHistoryService) : List Aggregation × MetricsHistoryService :=
  if service.dataStore.isEnabled then
    let windowStart := alignToWindow now config.aggregationIntervalMs
    let lower := windowStart - config.aggregationIntervalMs
    Family.all.foldl (fun (done, service) family =>
      let (aggregated, service) :=
        aggregateFamily config lower windowStart windowStart now service family
      (done ++ aggregated.toList, service)) ([], service)
  else ([], service)

/-- The timers are stopped, and one final aggregation is attempted. -/
def dispose (config : ValidatedMetricsHistoryConfig) (now : ℤ) (service : MetricsHistoryService) :
    List Aggregation × MetricsHistoryService :=
  let (done, service) := aggregateOnce config now service
  (done, { service with rateComputer := .empty })

/-! ## Runs -/

/-- The service, and what it has aggregated so far. -/
structure History where
  service : MetricsHistoryService
  aggregations : List Aggregation := []

inductive Step where
  | beginSample
  | sampleFamily (family : Family) (registry : Registry) (timestamp : ℤ)
  | aggregateOnce (now : ℤ)
  | dispose (now : ℤ)

def History.step (config : ValidatedMetricsHistoryConfig) (h : History) : Step → History
  | .beginSample => { h with service := beginSample h.service }
  | .sampleFamily family registry timestamp =>
      { h with service := sampleFamily config registry timestamp h.service family }
  | .aggregateOnce now =>
      let (done, service) := aggregateOnce config now h.service
      ⟨service, h.aggregations ++ done⟩
  | .dispose now =>
      let (done, service) := dispose config now h.service
      ⟨service, h.aggregations ++ done⟩

/-- Undisturbed, the steps of a sample are `sampleOnce`. -/
theorem sampleOnce_eq_run (config : ValidatedMetricsHistoryConfig) (registry : Registry)
    (timestamp : ℤ) (h : History) (enabled : h.service.dataStore.isEnabled = true) :
    (run (History.step config) h (.beginSample ::
      Family.all.map fun family => .sampleFamily family registry timestamp)).service =
        sampleOnce config registry timestamp h.service := by
  unfold sampleOnce
  rw [if_pos enabled]
  rfl

end Aeolus.Metrics
