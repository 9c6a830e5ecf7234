/-
# Aeolus.Frontend.MetricsHistoryStore — the charts of the server's own metrics

`frontend/src/store/metrics-history-store.ts`.  A fetch asks for four collections at once; those
that cannot be had are skipped.  What the records say is read as numbers, so that a record with
an object for a value leaves the charts as they are and sets `error`.
-/
import Aeolus.Core.NumberCoercion

namespace Aeolus.Frontend

open Aeolus.Core Aeolus.Theory

structure DataRecord where
  id : Nat
  collection : String
  payload : JsonObject
  tags : List (String × String)
  timestamp : ℚ

/-- `1h`, `6h`, `24h`, `7d` and `30d` -/
inductive TimeRange where
  | hour
  | sixHours
  | day
  | week
  | month
  deriving DecidableEq

/-- `TIME_RANGE_MS` -/
def TimeRange.ms : TimeRange → Nat
  | .hour => 3600000
  | .sixHours => 21600000
  | .day => 86400000
  | .week => 604800000
  | .month => 2592000000

structure ChartPoint where
  timestamp : ℚ
  value : JsNumber

structure MetricChartData where
  points : List ChartPoint
  peakPoints : Option (List ChartPoint) := none
  spikes : Option (List Json) := none
  currentValue : JsNumber

def LIVE_COLLECTIONS : List String :=
  ["_metrics:live:system", "_metrics:live:mqtt", "_metrics:live:automations",
    "_metrics:live:http"]

def HISTORY_COLLECTIONS : List String :=
  ["_metrics:history:system", "_metrics:history:mqtt", "_metrics:history:automations",
    "_metrics:history:http"]

/-! ## Charts -/

/-- `Number(record.payload[field] ?? 0)` -/
def chartPoint (record : DataRecord) (field : String) : Except CoercionError ChartPoint := do
  let value ←
    match record.payload.get field with
    | none => .ok (.finite 0)
    | some .null => .ok (.finite 0)
    | some value => toNumber (some value)
  return ⟨record.timestamp, value⟩

def currentValue (points : List ChartPoint) : JsNumber :=
  points.getLast?.elim (.finite 0) (·.value)

/-- A list that is left out when it is empty. -/
def ifAny {α : Type} (items : List α) : Option (List α) := if items = [] then none else some items

def buildChartData (records : List DataRecord) (field : String) :
    Except CoercionError MetricChartData := do
  let points ← records.mapM fun record => chartPoint record field
  return { points, currentValue := currentValue points }

/-- `record.payload.spikes[spikeKey]`, when there is something there. -/
def spikeOf (record : DataRecord) (spikeKey : String) : Option Json := do
  let recordSpikes ← record.payload.get "spikes"
  let spike ← recordSpikes.property spikeKey
  if isTruthy (some spike) then some spike else none

def buildHistoryChartData (records : List DataRecord) (avgField : String)
    (peakField : Option String) (spikeKey : String) : Except CoercionError MetricChartData := do
  let rows ← records.mapM fun record => do
    let point ← chartPoint record avgField
    let peak ← peakField.mapM (chartPoint record)
    return (point, peak)
  let points := rows.map Prod.fst
  return {
    points
    peakPoints := ifAny (rows.filterMap Prod.snd)
    spikes := ifAny (records.filterMap (spikeOf · spikeKey))
    currentValue := currentValue points }

/-- Oldest first. -/
def byTime (records : List DataRecord) : List DataRecord :=
  records.mergeSort fun a b => a.timestamp ≤ b.timestamp

def extractLiveChartData (collection : String) (records : List DataRecord) :
    Except CoercionError (List (String × MetricChartData)) := do
  let sorted := byTime records
  match collection with
  | "_metrics:live:system" =>
      return [("memoryUsageMb", ← buildChartData sorted "memoryUsageMb"),
        ("eventLoopLagMs", ← buildChartData sorted "eventLoopLagMs")]
  | "_metrics:live:mqtt" =>
      return [("mqttMessageRate", ← buildChartData sorted "messagesReceivedRate")]
  | "_metrics:live:automations" =>
      return [("automationExecutionRate", ← buildChartData sorted "executionRate")]
  | "_metrics:live:http" => return [("httpRequestRate", ← buildChartData sorted "requestRate")]
  | _ => return []

def extractHistoryChartData (collection : String) (records : List DataRecord) :
    Except CoercionError (List (String × MetricChartData)) := do
  let sorted := byTime records
  match collection with
  | "_metrics:history:system" =>
      return [("memoryUsageMb",
          ← buildHistoryChartData sorted "avgMemoryMb" (some "peakMemoryMb") "memoryUsageMb"),
        ("eventLoopLagMs", ← buildHistoryChartData sorted "avgEventLoopLagMs"
          (some "peakEventLoopLagMs") "eventLoopLagMs")]
  | "_metrics:history:mqtt" =>
      return [("mqttMessageRate", ← buildHistoryChartData sorted "avgMessagesPerSec"
        (some "peakMessagesPerSec") "messagesReceivedRate")]
  | "_metrics:history:automations" =>
      return [("automationExecutionRate",
        ← buildHistoryChartData sorted "totalExecutions" none "executionRate")]
  | "_metrics:history:http" =>
      return [("httpRequestRate",
        ← buildHistoryChartData sorted "totalRequests" none "requestRate")]
  | _ => return []

/-! ## The store -/

/-- What a fetch has read of the store when it starts. -/
structure ChartQuery where
  timeRange : TimeRange
  now : Nat

/-- `from` -/
def ChartQuery.start (q : ChartQuery) : ℤ := q.now - q.timeRange.ms

/-- The records of each collection, or none when its request failed. -/
abbrev ChartAnswer := String → Option (List DataRecord)

def allChartData (q : ChartQuery) (results : ChartAnswer) :
    Except CoercionError (OrderedMap String MetricChartData) :=
  let isLive := q.timeRange = .hour
  let collections := if isLive then LIVE_COLLECTIONS else HISTORY_COLLECTIONS
  collections.foldlM (fun charts collection =>
    match results collection with
    | none => return charts
    | some records => do
        let extracted ←
          if isLive then extractLiveChartData collection records
          else extractHistoryChartData collection records
        return extracted.foldl (fun charts chart => charts.set chart.1 chart.2) charts) .empty

structure MetricsHistoryStore where
  timeRange : TimeRange := .hour
  chartData : OrderedMap String MetricChartData := .empty
  loading : Bool := false
  error : Option String := none
  /-- the time between two fetches -/
  pollingInterval : Option Nat := none

namespace MetricsHistoryStore

variable (s : MetricsHistoryStore)

/-- `fetchChartData` up to its requests. -/
def fetchChartData (now : Nat) : MetricsHistoryStore × ChartQuery :=
  ({ s with loading := true, error := none }, ⟨s.timeRange, now⟩)

/-- The rest of `fetchChartData`. -/
def chartDataFetched (q : ChartQuery) (results : ChartAnswer) : MetricsHistoryStore :=
  match allChartData q results with
  | .ok chartData => { s with chartData, loading := false }
  | .error .cannotConvert =>
      { s with error := some "Cannot convert object to primitive value", loading := false }

theorem chartData_fetched (q : ChartQuery) (results : ChartAnswer) :
    (s.chartDataFetched q results).chartData =
      (allChartData q results).toOption.getD s.chartData := by
  unfold chartDataFetched
  cases allChartData q results with
  | ok chartData => rfl
  | error reason => cases reason; rfl

def stopPolling : MetricsHistoryStore := { s with pollingInterval := none }

/-- A fetch, and the timer. -/
def startPolling (now : Nat) : MetricsHistoryStore × ChartQuery :=
  let (s, q) := s.fetchChartData now
  ({ s with pollingInterval := some (if s.timeRange = .hour then 30000 else 60000) }, q)

def setTimeRange (range : TimeRange) (now : Nat) : MetricsHistoryStore × ChartQuery :=
  ({ s with timeRange := range }.stopPolling).startPolling now

end MetricsHistoryStore

end Aeolus.Frontend
