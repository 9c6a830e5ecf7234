/-
# Aeolus.Frontend.DataExplorer — what the Data Explorer and the metrics charts show

The fetches of `frontend/src/store/data-store-store.ts` and of `metrics-history-store.ts`, as
`CollectionDetail`, `SharedStateExplorer` and `MetricsChartsPane` start them: the table of
records, its chart, the entries of a Shared State bucket, and the charts of the metrics.

An answer is written to the store whatever has been selected since its request was made.  Each
display is therefore one of `LateAnswers`, and shows the answer to the last fetch of its
selection, whenever none is out, in exactly those runs where no other answer comes last
(`stale_never_shown_iff`).
-/
import Aeolus.Frontend.MetricsHistoryStore
import Aeolus.Frontend.SharedStateBrowser
import Aeolus.Theory.LateAnswers

namespace Aeolus.Frontend

open Aeolus.Core Aeolus.Theory Aeolus.SharedState

def CHART_MAX_POINTS : Nat := 1000

def RECORDS_PAGE_SIZE : Nat := 50

structure RangeSampling where
  bucketMs : ℚ
  lower : ℚ
  upper : ℚ

/-- What `queryRecords` returns. -/
structure QueryResult where
  records : List DataRecord
  total : Nat
  sampling : Option RangeSampling := none

/-- A collection and the options of its query. -/
structure RecordsQuery where
  collection : String
  timeRange : String
  limit : Option Nat := none
  offset : Option Nat := none
  maxPoints : Option Nat := none
  deriving DecidableEq

structure DataStoreStore extends SharedStateBrowser where
  selectedCollection : Option String := none
  records : List DataRecord := []
  recordsTotal : Nat := 0
  recordsLoading : Bool := false
  recordsPage : Nat := 0
  chartRecords : List DataRecord := []
  chartTotal : Nat := 0
  chartLoading : Bool := false
  chartSampling : Option RangeSampling := none
  timeRange : String := "24h"

namespace DataStoreStore

variable (s : DataStoreStore)

/-! ## The actions of the store -/

def recordsFetched : Option QueryResult → DataStoreStore
  | some result =>
      { s with records := result.records, recordsTotal := result.total, recordsLoading := false }
  | none => { s with records := [], recordsTotal := 0, recordsLoading := false }

def chartRecordsFetched : Option QueryResult → DataStoreStore
  | some result =>
      { s with
        chartRecords := result.records
        chartTotal := result.total
        chartSampling := result.sampling
        chartLoading := false }
  | none =>
      { s with chartRecords := [], chartTotal := 0, chartSampling := none, chartLoading := false }

def entriesFetched (answer : Option (List SharedStateEntry)) : DataStoreStore :=
  { s with toSharedStateBrowser := s.toSharedStateBrowser.fetched (answer.getD []) }

def selectCollection (name : Option String) : DataStoreStore :=
  { s with
    selectedCollection := name
    records := []
    recordsTotal := 0
    recordsPage := 0
    chartRecords := []
    chartTotal := 0
    chartSampling := none }

def selectBucket (name : Option String) : DataStoreStore :=
  { s with toSharedStateBrowser := s.toSharedStateBrowser.selectSharedStateBucket name }

def setTimeRange (range : String) : DataStoreStore :=
  { s with timeRange := range, recordsPage := 0 }

/-- `Math.max(0, page)` -/
def setRecordsPage (page : ℤ) : DataStoreStore := { s with recordsPage := page.toNat }

/-! ## What the page asks for -/

/-- The empty name selects nothing. -/
def selected : Option String := s.selectedCollection.filter (· ≠ "")

def recordsQuery : Option RecordsQuery :=
  s.selected.map fun collection =>
    { collection
      timeRange := s.timeRange
      limit := some RECORDS_PAGE_SIZE
      offset := some (s.recordsPage * RECORDS_PAGE_SIZE) }

def chartQuery : Option RecordsQuery :=
  s.selected.map fun collection =>
    { collection, timeRange := s.timeRange, maxPoints := some CHART_MAX_POINTS }

end DataStoreStore

/-! ## The page and its requests -/

inductive ExplorerEvent where
  | selectCollection (name : Option String)
  | setTimeRange (range : String)
  | setRecordsPage (page : ℤ)
  | fetchRecords
  | fetchChartRecords
  | recordsAnswered (id : Nat) (answer : Option QueryResult)
  | chartAnswered (id : Nat) (answer : Option QueryResult)
  | selectBucket (name : Option String)
  | fetchEntries
  | entriesAnswered (id : Nat) (answer : Option (List SharedStateEntry))
  | setMetricsRange (range : TimeRange) (now : Nat)
  | startPolling (now : Nat)
  | stopPolling
  /-- the timer of the polling -/
  | poll (now : Nat)
  | metricsAnswered (id : Nat) (results : ChartAnswer)

structure DataExplorer where
  store : DataStoreStore := {}
  metrics : MetricsHistoryStore := {}
  records : Requests RecordsQuery (Option QueryResult) := {}
  chart : Requests RecordsQuery (Option QueryResult) := {}
  entries : Requests String (Option (List SharedStateEntry)) := {}
  charts : Requests ChartQuery ChartAnswer := {}

namespace DataExplorer

/-- Another query is another selection. -/
def requery {Q A : Type} [DecidableEq Q] (before after : Option Q) (r : Requests Q A) :
    Requests Q A :=
  if after = before then r else r.select

/-- The store has changed, with what the table and the chart are asked for. -/
def reselect (s : DataExplorer) (store : DataStoreStore) : DataExplorer :=
  { s with
    store
    records := requery s.store.recordsQuery store.recordsQuery s.records
    chart := requery s.store.chartQuery store.chartQuery s.chart }

/-- A fetch of the metrics. -/
def ask (s : DataExplorer) (asked : MetricsHistoryStore × ChartQuery) : DataExplorer :=
  { s with metrics := asked.1, charts := s.charts.request asked.2 }

/-- An answer to a request that is not out does not come. -/
def step (s : DataExplorer) : ExplorerEvent → DataExplorer
  | .selectCollection name =>
      { s with
        store := s.store.selectCollection name
        records := s.records.select
        chart := s.chart.select }
  | .setTimeRange range => s.reselect (s.store.setTimeRange range)
  | .setRecordsPage page => s.reselect (s.store.setRecordsPage page)
  | .fetchRecords =>
      match s.store.recordsQuery with
      | none => s
      | some q =>
          { s with
            store := { s.store with recordsLoading := true }
            records := s.records.request q }
  | .fetchChartRecords =>
      match s.store.chartQuery with
      | none => s
      | some q =>
          { s with
            store := { s.store with chartLoading := true }
            chart := s.chart.request q }
  | .recordsAnswered id answer =>
      if (s.records.out.lookup id).isSome then
        { s with store := s.store.recordsFetched answer, records := s.records.answer id answer }
      else s
  | .chartAnswered id answer =>
      if (s.chart.out.lookup id).isSome then
        { s with store := s.store.chartRecordsFetched answer, chart := s.chart.answer id answer }
      else s
  | .selectBucket name =>
      { s with store := s.store.selectBucket name, entries := s.entries.select }
  | .fetchEntries =>
      match s.store.selectedSharedStateBucket with
      | none => s
      | some bucket => { s with entries := s.entries.request bucket }
  | .entriesAnswered id answer =>
      if (s.entries.out.lookup id).isSome then
        { s with store := s.store.entriesFetched answer, entries := s.entries.answer id answer }
      else s
  | .setMetricsRange range now => s.ask (s.metrics.setTimeRange range now)
  | .startPolling now => s.ask (s.metrics.startPolling now)
  | .stopPolling => { s with metrics := s.metrics.stopPolling }
  | .poll now =>
      if s.metrics.pollingInterval.isSome then s.ask (s.metrics.fetchChartData now) else s
  | .metricsAnswered id results =>
      match s.charts.out.lookup id with
      | none => s
      | some q =>
          { s with
            metrics := s.metrics.chartDataFetched q results
            charts := s.charts.answer id results }

/-! ## The four displays -/

open LateAnswers

variable (s : DataExplorer)

def recordsView : LateAnswers RecordsQuery (Option QueryResult) (List DataRecord × Nat) :=
  ⟨s.records, s.store.records, s.store.recordsTotal⟩

def chartView : LateAnswers RecordsQuery (Option QueryResult)
    (List DataRecord × Nat × Option RangeSampling) :=
  ⟨s.chart, s.store.chartRecords, s.store.chartTotal, s.store.chartSampling⟩

def entriesView :
    LateAnswers String (Option (List SharedStateEntry)) (List SharedStateEntry) :=
  ⟨s.entries, s.store.sharedStateEntries⟩

def chartsView : LateAnswers ChartQuery ChartAnswer (OrderedMap String MetricChartData) :=
  ⟨s.charts, s.metrics.chartData⟩

/-- A request that failed leaves an empty table. -/
def drawRecords (_ : RecordsQuery) (answer : Option QueryResult) :
    Option (List DataRecord × Nat) :=
  some (answer.elim ([], 0) fun result => (result.records, result.total))

def drawChart (_ : RecordsQuery) (answer : Option QueryResult) :
    Option (List DataRecord × Nat × Option RangeSampling) :=
  some (answer.elim ([], 0, none) fun result => (result.records, result.total, result.sampling))

def drawEntries (_ : String) (answer : Option (List SharedStateEntry)) :
    Option (List SharedStateEntry) :=
  some (answer.getD [])

def drawCharts (q : ChartQuery) (results : ChartAnswer) :
    Option (OrderedMap String MetricChartData) :=
  (allChartData q results).toOption

/-- What an event is to the table of records. -/
def recordsInput : ExplorerEvent → Input RecordsQuery (Option QueryResult) (List DataRecord × Nat)
  | .selectCollection _ => .select ([], 0)
  | .setTimeRange range =>
      if (s.store.setTimeRange range).recordsQuery = s.store.recordsQuery then .other
      else .select s.recordsView.shown
  | .setRecordsPage page =>
      if (s.store.setRecordsPage page).recordsQuery = s.store.recordsQuery then .other
      else .select s.recordsView.shown
  | .fetchRecords => s.store.recordsQuery.elim .other .request
  | .recordsAnswered id answer => .answer id answer
  | _ => .other

def chartInput : ExplorerEvent →
    Input RecordsQuery (Option QueryResult) (List DataRecord × Nat × Option RangeSampling)
  | .selectCollection _ => .select ([], 0, none)
  | .setTimeRange range =>
      if (s.store.setTimeRange range).chartQuery = s.store.chartQuery then .other
      else .select s.chartView.shown
  | .fetchChartRecords => s.store.chartQuery.elim .other .request
  | .chartAnswered id answer => .answer id answer
  | _ => .other

def entriesInput : ExplorerEvent →
    Input String (Option (List SharedStateEntry)) (List SharedStateEntry)
  | .selectBucket _ => .select []
  | .fetchEntries => s.store.selectedSharedStateBucket.elim .other .request
  | .entriesAnswered id answer => .answer id answer
  | _ => .other

def chartsInput : ExplorerEvent →
    Input ChartQuery ChartAnswer (OrderedMap String MetricChartData)
  | .setMetricsRange range now => .request ⟨range, now⟩
  | .startPolling now => .request ⟨s.metrics.timeRange, now⟩
  | .poll now =>
      if s.metrics.pollingInterval.isSome then .request ⟨s.metrics.timeRange, now⟩ else .other
  | .metricsAnswered id results => .answer id results
  | _ => .other

variable {s}

section Inputs

variable {Q A D : Type} {draw : Q → A → Option D} {r : Requests Q A} {shown : D}

theorem step_requery [DecidableEq Q] {before after : Option Q} :
    (⟨r, shown⟩ : LateAnswers Q A D).step draw
      (if after = before then .other else .select shown) = ⟨requery before after r, shown⟩ := by
  unfold requery
  split <;> rfl

theorem step_request {query : Option Q} :
    (⟨r, shown⟩ : LateAnswers Q A D).step draw (query.elim .other .request) =
      ⟨query.elim r r.request, shown⟩ := by
  cases query <;> rfl

end Inputs

theorem recordsView_step (event : ExplorerEvent) :
    (s.step event).recordsView = s.recordsView.step drawRecords (s.recordsInput event) := by
  cases event with
  | setTimeRange range => exact step_requery.symm
  | setRecordsPage page => exact step_requery.symm
  | fetchRecords =>
      refine Eq.trans ?_ step_request.symm
      rw [step]
      cases s.store.recordsQuery <;> rfl
  | recordsAnswered id answer =>
      rw [step, recordsInput]
      cases found : s.records.out.lookup id with
      | none => exact (step_unknown drawRecords found).symm
      | some q =>
          rw [step_answer drawRecords found]
          cases answer <;> rfl
  | chartAnswered id answer =>
      rw [step]
      split
      · cases answer <;> rfl
      · rfl
  | fetchChartRecords | fetchEntries | entriesAnswered | poll
  | metricsAnswered =>
      rw [step]
      split <;> rfl
  | selectCollection | selectBucket | setMetricsRange | startPolling | stopPolling => rfl

theorem chartView_step (event : ExplorerEvent) :
    (s.step event).chartView = s.chartView.step drawChart (s.chartInput event) := by
  cases event with
  | setTimeRange range => exact step_requery.symm
  | setRecordsPage page =>
      rw [step, reselect]
      exact LateAnswers.ext (if_pos rfl) rfl
  | fetchChartRecords =>
      refine Eq.trans ?_ step_request.symm
      rw [step]
      cases s.store.chartQuery <;> rfl
  | chartAnswered id answer =>
      rw [step, chartInput]
      cases found : s.chart.out.lookup id with
      | none => exact (step_unknown drawChart found).symm
      | some q =>
          rw [step_answer drawChart found]
          cases answer <;> rfl
  | recordsAnswered id answer =>
      rw [step]
      split
      · cases answer <;> rfl
      · rfl
  | fetchRecords | fetchEntries | entriesAnswered | poll
  | metricsAnswered =>
      rw [step]
      split <;> rfl
  | selectCollection | selectBucket | setMetricsRange | startPolling | stopPolling => rfl

theorem entriesView_step (event : ExplorerEvent) :
    (s.step event).entriesView = s.entriesView.step drawEntries (s.entriesInput event) := by
  cases event with
  | fetchEntries =>
      refine Eq.trans ?_ step_request.symm
      rw [step]
      cases s.store.selectedSharedStateBucket <;> rfl
  | entriesAnswered id answer =>
      rw [step, entriesInput]
      cases found : s.entries.out.lookup id with
      | none => exact (step_unknown drawEntries found).symm
      | some q =>
          rw [step_answer drawEntries found]
          cases answer <;> rfl
  | recordsAnswered id answer =>
      rw [step]
      split
      · cases answer <;> rfl
      · rfl
  | chartAnswered id answer =>
      rw [step]
      split
      · cases answer <;> rfl
      · rfl
  | fetchRecords | fetchChartRecords | poll
  | metricsAnswered =>
      rw [step]
      split <;> rfl
  | setTimeRange | setRecordsPage | selectCollection | selectBucket | setMetricsRange
  | startPolling | stopPolling => rfl

theorem chartsView_step (event : ExplorerEvent) :
    (s.step event).chartsView = s.chartsView.step drawCharts (s.chartsInput event) := by
  cases event with
  | poll now =>
      rw [step, chartsInput]
      split <;> rfl
  | metricsAnswered id results =>
      rw [step, chartsInput]
      cases found : s.charts.out.lookup id with
      | none => exact (step_unknown drawCharts found).symm
      | some q =>
          rw [step_answer drawCharts found, drawCharts, chartsView,
            MetricsHistoryStore.chartData_fetched]
          rfl
  | fetchRecords | recordsAnswered | fetchChartRecords | chartAnswered | fetchEntries
  | entriesAnswered =>
      rw [step]
      split <;> rfl
  | setTimeRange | setRecordsPage | selectCollection | selectBucket | setMetricsRange
  | startPolling | stopPolling => rfl

/-! ## Runs -/

/-- The last request of a display is for what is selected. -/
structure Asked (s : DataExplorer) : Prop where
  records : ∀ id q, s.records.wanted = some (id, q) → s.store.recordsQuery = some q
  chart : ∀ id q, s.chart.wanted = some (id, q) → s.store.chartQuery = some q
  entries : ∀ id q, s.entries.wanted = some (id, q) →
    s.store.selectedSharedStateBucket = some q
  charts : ∀ id q, s.charts.wanted = some (id, q) → q.timeRange = s.metrics.timeRange

/-- Each display shows the answer to the last request for what is selected, once its requests
are answered. -/
structure Fresh (s : DataExplorer) : Prop where
  asked : s.Asked
  records : s.recordsView.Current drawRecords
  chart : s.chartView.Current drawChart
  entries : s.entriesView.Current drawEntries
  charts : s.chartsView.Current drawCharts

/-- Of each display, the answer that ends the waiting is to the last request. -/
structure InTime (s : DataExplorer) (event : ExplorerEvent) : Prop where
  records : s.recordsView.InTime drawRecords (s.recordsInput event)
  chart : s.chartView.InTime drawChart (s.chartInput event)
  entries : s.entriesView.InTime drawEntries (s.entriesInput event)
  charts : s.chartsView.InTime drawCharts (s.chartsInput event)

structure Base (s : DataExplorer) : Prop where
  asked : s.Asked
  records : s.records.Numbered
  chart : s.chart.Numbered
  entries : s.entries.Numbered
  charts : s.charts.Numbered

theorem moves_requery {Q A D : Type} [DecidableEq Q] {before after : Option Q} {shown : D} :
    Moves (before = some ·) (after = some ·)
      (if after = before then (.other : Input Q A D) else .select shown) := by
  split
  · rename_i same
    exact fun _ asked => same ▸ asked
  · trivial

theorem recordsQuery_moves (event : ExplorerEvent) :
    Moves (s.store.recordsQuery = some ·) ((s.step event).store.recordsQuery = some ·)
      (s.recordsInput event) := by
  cases event with
  | selectCollection => trivial
  | setTimeRange range => exact moves_requery
  | setRecordsPage page => exact moves_requery
  | fetchRecords =>
      rw [step, recordsInput]
      cases q : s.store.recordsQuery with
      | none => exact fun _ asked => q.trans asked
      | some query => exact q
  | recordsAnswered id answer | chartAnswered id answer =>
      rw [step]
      split
      · cases answer <;> exact fun _ asked => asked
      · exact fun _ asked => asked
  | fetchChartRecords | fetchEntries | entriesAnswered | poll | metricsAnswered =>
      rw [step]
      split <;> exact fun _ asked => asked
  | selectBucket | setMetricsRange | startPolling | stopPolling => exact fun _ asked => asked

theorem chartQuery_moves (event : ExplorerEvent) :
    Moves (s.store.chartQuery = some ·) ((s.step event).store.chartQuery = some ·)
      (s.chartInput event) := by
  cases event with
  | selectCollection => trivial
  | setTimeRange range => exact moves_requery
  | fetchChartRecords =>
      rw [step, chartInput]
      cases q : s.store.chartQuery with
      | none => exact fun _ asked => q.trans asked
      | some query => exact q
  | recordsAnswered id answer | chartAnswered id answer =>
      rw [step]
      split
      · cases answer <;> exact fun _ asked => asked
      · exact fun _ asked => asked
  | fetchRecords | fetchEntries | entriesAnswered | poll | metricsAnswered =>
      rw [step]
      split <;> exact fun _ asked => asked
  | setRecordsPage | selectBucket | setMetricsRange | startPolling | stopPolling =>
      exact fun _ asked => asked

theorem bucket_moves (event : ExplorerEvent) :
    Moves (s.store.selectedSharedStateBucket = some ·)
      ((s.step event).store.selectedSharedStateBucket = some ·)
      (s.entriesInput event) := by
  cases event with
  | selectBucket => trivial
  | fetchEntries =>
      rw [step, entriesInput]
      cases bucket : s.store.selectedSharedStateBucket with
      | none => exact fun _ asked => bucket.trans asked
      | some name => exact bucket
  | recordsAnswered id answer | chartAnswered id answer =>
      rw [step]
      split
      · cases answer <;> exact fun _ asked => asked
      · exact fun _ asked => asked
  | fetchRecords | fetchChartRecords | entriesAnswered | poll | metricsAnswered =>
      rw [step]
      split <;> exact fun _ asked => asked
  | setTimeRange | setRecordsPage | selectCollection | setMetricsRange | startPolling
  | stopPolling => exact fun _ asked => asked

theorem metricsRange_moves (event : ExplorerEvent) :
    Moves (fun q : ChartQuery => q.timeRange = s.metrics.timeRange)
      (fun q => q.timeRange = (s.step event).metrics.timeRange) (s.chartsInput event) := by
  cases event with
  | setMetricsRange | startPolling => rfl
  | poll now =>
      rw [step, chartsInput]
      split
      · rfl
      · exact fun _ asked => asked
  | metricsAnswered id results =>
      rw [step]
      split
      · exact fun _ asked => asked
      · rename_i q _
        have still : (s.metrics.chartDataFetched q results).timeRange = s.metrics.timeRange := by
          unfold MetricsHistoryStore.chartDataFetched
          split <;> rfl
        exact fun _ asked => asked.trans still.symm
  | fetchRecords | recordsAnswered | fetchChartRecords | chartAnswered | fetchEntries
  | entriesAnswered =>
      rw [step]
      split <;> exact fun _ asked => asked
  | setTimeRange | setRecordsPage | selectCollection | selectBucket | stopPolling =>
      exact fun _ asked => asked

theorem Asked.step (asked : s.Asked) (event : ExplorerEvent) : (s.step event).Asked where
  records := by
    have wanted := wanted_step (s := s.recordsView) drawRecords asked.records
      (recordsQuery_moves event)
    rwa [← recordsView_step] at wanted
  chart := by
    have wanted := wanted_step (s := s.chartView) drawChart asked.chart (chartQuery_moves event)
    rwa [← chartView_step] at wanted
  entries := by
    have wanted := wanted_step (s := s.entriesView) drawEntries asked.entries
      (bucket_moves event)
    rwa [← entriesView_step] at wanted
  charts := by
    have wanted := wanted_step (s := s.chartsView) drawCharts asked.charts
      (metricsRange_moves event)
    rwa [← chartsView_step] at wanted

theorem Base.step (base : s.Base) (event : ExplorerEvent) : (s.step event).Base where
  asked := base.asked.step event
  records := by
    have numbered :=
      numbered_step (s := s.recordsView) drawRecords (s.recordsInput event) base.records
    rwa [← recordsView_step] at numbered
  chart := by
    have numbered :=
      numbered_step (s := s.chartView) drawChart (s.chartInput event) base.chart
    rwa [← chartView_step] at numbered
  entries := by
    have numbered :=
      numbered_step (s := s.entriesView) drawEntries (s.entriesInput event) base.entries
    rwa [← entriesView_step] at numbered
  charts := by
    have numbered :=
      numbered_step (s := s.chartsView) drawCharts (s.chartsInput event) base.charts
    rwa [← chartsView_step] at numbered

theorem fresh_step (s : DataExplorer) (event : ExplorerEvent) (base : s.Base) (fresh : s.Fresh) :
    s.InTime event ↔ (s.step event).Fresh := by
  have records := current_step drawRecords (s.recordsInput event) base.records fresh.records
  have chart := current_step drawChart (s.chartInput event) base.chart fresh.chart
  have entries := current_step drawEntries (s.entriesInput event) base.entries fresh.entries
  have charts := current_step drawCharts (s.chartsInput event) base.charts fresh.charts
  rw [← recordsView_step] at records
  rw [← chartView_step] at chart
  rw [← entriesView_step] at entries
  rw [← chartsView_step] at charts
  constructor
  · intro inTime
    exact ⟨base.asked.step event, records.mp inTime.records, chart.mp inTime.chart,
      entries.mp inTime.entries, charts.mp inTime.charts⟩
  · intro next
    exact ⟨records.mpr next.records, chart.mpr next.chart, entries.mpr next.entries,
      charts.mpr next.charts⟩

theorem base_start : ({} : DataExplorer).Base where
  asked := ⟨by rintro _ _ ⟨⟩, by rintro _ _ ⟨⟩, by rintro _ _ ⟨⟩, by rintro _ _ ⟨⟩⟩
  records := Requests.numbered_empty
  chart := Requests.numbered_empty
  entries := Requests.numbered_empty
  charts := Requests.numbered_empty

theorem fresh_start : ({} : DataExplorer).Fresh where
  asked := base_start.asked
  records := by rintro _ _ _ ⟨⟩
  chart := by rintro _ _ _ ⟨⟩
  entries := by rintro _ _ _ ⟨⟩
  charts := by rintro _ _ _ ⟨⟩

/-- **No stale answer is shown** in exactly the runs where each display gets the answer to its
last request last. -/
theorem stale_never_shown_iff (events : List ExplorerEvent) :
    (∀ p, p <+: events → (run step {} p).Fresh) ↔ Along step InTime {} events :=
  invariant_iff_along Base Fresh InTime (fun _ event base => base.step event) fresh_step
    base_start fresh_start events

/-- Two collections are selected one after the other, and the first is answered last. -/
def quickSelection : List ExplorerEvent :=
  [.selectCollection (some "hall"), .fetchRecords, .selectCollection (some "porch"),
    .fetchRecords, .recordsAnswered 1 (some ⟨[], 2, none⟩),
    .recordsAnswered 0 (some ⟨[], 1, none⟩)]

/-- The table of the second shows the records of the first. -/
theorem quickSelection_stale : ¬(run step {} quickSelection).Fresh := by
  intro fresh
  obtain ⟨a, d, answered, -⟩ := fresh.records rfl 1 _ rfl
  cases answered

end DataExplorer

end Aeolus.Frontend
