/-
# Aeolus.Frontend.ChartCoverage — what the charts of the metrics cover

A fetch of the metrics charts asks for a range of each collection and for no number of points.
The route bounds such a query by its default page, and the store orders a page newest first
(`Aeolus.Api.RecordRoute`), so that of a longer range the charts get the newest hundred records.

* `charts_cover_iff` — the charts cover their range when each collection has no more records
  there than the page, and the values they read are numbers.
-/
import Aeolus.Api.RecordRoute
import Aeolus.Frontend.MetricsHistoryStore
import Aeolus.Storage.DownSampling

namespace Aeolus.Frontend

open Aeolus.Api Aeolus.Core Aeolus.Storage Aeolus.Theory

/-! ## The requests -/

abbrev StoredRecord := Storage.DataRecord (Tagged JsonObject)

/-- The frontend's copy of a record. -/
def received (r : StoredRecord) : DataRecord :=
  ⟨r.id, r.collection, r.payload.payload, r.payload.tags.entries, r.timestamp⟩

/-- The server as the requests of a fetch find it, each at its own time. -/
structure ChartServer where
  engine : Sqlite (Tagged JsonObject)
  jsonParse : String → Option Json
  store : String → DataStore (Tagged JsonObject)
  now : String → ℤ
  /-- `canReadCollection` -/
  mayRead : String → Bool
  referenced : ∀ collection, (store collection).Referenced

def ChartQuery.collections (q : ChartQuery) : List String :=
  if q.timeRange = .hour then LIVE_COLLECTIONS else HISTORY_COLLECTIONS

/-- `from` and `to`; there is nothing else. -/
def ChartQuery.params (q : ChartQuery) : RecordQueryParams where
  lower := some (String.ofList (JsonText.writeInteger q.start))
  upper := some (String.ofList (JsonText.writeInteger q.now))

namespace ChartServer

variable (server : ChartServer) (q : ChartQuery)

def fetchCollectionRecords : ChartAnswer := fun collection =>
  match getRecords server.engine server.jsonParse (server.mayRead collection)
    (server.now collection) (server.store collection) collection q.params with
  | .ok (some (.records records _ _)) => some (records.map received)
  | _ => none

/-- What the store holds of a collection within the range. -/
def held (collection : String) : List StoredRecord :=
  (server.store collection).records.rows.filter
    (DataStore.inRange collection (some q.start) q.now)

/-- The first page of the range. -/
def newestPage (collection : String) : List StoredRecord :=
  (server.engine.newestFirst (server.held q collection)).take DEFAULT_RECORD_QUERY_LIMIT.toNat

/-- Without tags all rows of the range are selected. -/
theorem selectTagged_nil (rows : List StoredRecord) :
    DataStore.selectTagged server.engine [] rows = .ok rows := by
  induction rows with
  | nil => rfl
  | cons r rows ih =>
      rw [DataStore.selectTagged, ih]
      rfl

theorem query_range (collection : String) :
    (server.store collection).query server.engine (server.now collection) collection {
        lower := some q.start, upper := some (q.now : ℤ)
        limit := some DEFAULT_RECORD_QUERY_LIMIT } =
      .ok (.records (server.newestPage q collection) (server.held q collection).length none) := by
  by_cases there : collection ∈ (server.store collection).collections
  · unfold DataStore.query
    rw [if_neg fun absent => absent there]
    change Except.mapError _ (Except.map _ (DataStore.selectTagged server.engine [] _)) = _
    rw [server.selectTagged_nil]
    rfl
  · have empty : server.held q collection = [] := by
      have none' := DataStore.selectWhere_absent server.engine (server.referenced collection) there
        (some q.start) q.now []
      unfold DataStore.selectWhere at none'
      rw [server.selectTagged_nil] at none'
      exact Except.ok.inj none'
    have page : server.newestPage q collection = [] := by
      have same := (server.engine.newestFirst_perm (server.held q collection)).length_eq
      rw [empty] at same
      rw [newestPage, empty, List.length_eq_zero_iff.mp same, List.take_nil]
    rw [page, empty]
    exact if_pos there

/-- A request that is allowed is answered with the first page of its range. -/
theorem fetchCollectionRecords_eq {collection : String}
    (readable : server.mayRead collection = true) :
    server.fetchCollectionRecords q collection =
      some ((server.newestPage q collection).map received) := by
  unfold fetchCollectionRecords
  rw [readable, ChartQuery.params, getRecords_range, server.query_range]
  rfl

theorem fetchCollectionRecords_isSome_iff {collection : String} :
    (server.fetchCollectionRecords q collection).isSome ↔ server.mayRead collection = true := by
  constructor
  · intro succeeds
    by_contra forbidden
    unfold fetchCollectionRecords getRecords at succeeds
    rw [if_pos (Bool.eq_false_of_not_eq_true forbidden)] at succeeds
    cases succeeds
  · intro readable
    rw [server.fetchCollectionRecords_eq q readable]
    rfl

end ChartServer

/-! ## The charts -/

/-- A chart and what it reads of each record. -/
structure ChartMetric where
  collection : String
  name : String
  field : String
  /-- on the views of the history: `peakField` and `spikeKey` -/
  history : Option (Option String × String) := none
  deriving DecidableEq

/-- The charts that are drawn from a collection. -/
def collectionMetrics : String → List ChartMetric
  | "_metrics:live:system" =>
      [⟨"_metrics:live:system", "memoryUsageMb", "memoryUsageMb", none⟩,
        ⟨"_metrics:live:system", "eventLoopLagMs", "eventLoopLagMs", none⟩]
  | "_metrics:live:mqtt" =>
      [⟨"_metrics:live:mqtt", "mqttMessageRate", "messagesReceivedRate", none⟩]
  | "_metrics:live:automations" =>
      [⟨"_metrics:live:automations", "automationExecutionRate", "executionRate", none⟩]
  | "_metrics:live:http" => [⟨"_metrics:live:http", "httpRequestRate", "requestRate", none⟩]
  | "_metrics:history:system" =>
      [⟨"_metrics:history:system", "memoryUsageMb", "avgMemoryMb",
          some (some "peakMemoryMb", "memoryUsageMb")⟩,
        ⟨"_metrics:history:system", "eventLoopLagMs", "avgEventLoopLagMs",
          some (some "peakEventLoopLagMs", "eventLoopLagMs")⟩]
  | "_metrics:history:mqtt" =>
      [⟨"_metrics:history:mqtt", "mqttMessageRate", "avgMessagesPerSec",
        some (some "peakMessagesPerSec", "messagesReceivedRate")⟩]
  | "_metrics:history:automations" =>
      [⟨"_metrics:history:automations", "automationExecutionRate", "totalExecutions",
        some (none, "executionRate")⟩]
  | "_metrics:history:http" =>
      [⟨"_metrics:history:http", "httpRequestRate", "totalRequests", some (none, "requestRate")⟩]
  | _ => []

def ChartQuery.metrics (q : ChartQuery) : List ChartMetric :=
  q.collections.flatMap collectionMetrics

/-- What each element was computed to, seen through another function of the elements. -/
theorem mapM_map_of {ε α β γ : Type} {f : α → Except ε β} {g : α → Except ε γ} {h : β → γ}
    {xs : List α} {ys : List β} (returned : xs.mapM f = .ok ys)
    (each : ∀ x y, f x = .ok y → g x = .ok (h y)) : xs.mapM g = .ok (ys.map h) := by
  have related := forall₂_of_mapM returned
  clear returned
  induction related with
  | nil => rfl
  | cons here _ ih =>
      rw [List.mapM_cons, each _ _ here, ok_bind, ih]
      rfl

namespace ChartMetric

variable (m : ChartMetric)

def build (records : List DataRecord) : Except CoercionError MetricChartData :=
  match m.history with
  | none => buildChartData records m.field
  | some (peakField, spikeKey) => buildHistoryChartData records m.field peakField spikeKey

/-- The fields that are read as numbers. -/
def fields : List String := m.field :: (m.history.bind Prod.fst).toList

def Readable (r : DataRecord) : Prop :=
  ∀ field ∈ m.fields, ∃ point, chartPoint r field = .ok point

/-- The points of a chart are those of the records, one for each. -/
theorem build_points {records : List DataRecord} {chart : MetricChartData}
    (built : m.build records = .ok chart) :
    records.mapM (chartPoint · m.field) = .ok chart.points := by
  unfold build at built
  split at built
  · unfold buildChartData at built
    obtain ⟨points, read, built⟩ := ok_of_bind built
    cases built
    exact read
  · unfold buildHistoryChartData at built
    obtain ⟨rows, read, built⟩ := ok_of_bind built
    cases built
    refine mapM_map_of read fun record row here => ?_
    obtain ⟨point, first, here⟩ := ok_of_bind here
    obtain ⟨peak, -, here⟩ := ok_of_bind here
    cases here
    exact first

theorem build_ok_iff (records : List DataRecord) :
    (∃ chart, m.build records = .ok chart) ↔ ∀ r ∈ records, m.Readable r := by
  unfold build Readable fields
  split
  · rename_i live
    simp only [live, Option.bind_none, Option.toList_none, List.forall_mem_singleton]
    rw [← mapM_ok_iff]
    constructor
    · rintro ⟨chart, built⟩
      obtain ⟨points, read, -⟩ := ok_of_bind built
      exact ⟨points, read⟩
    · rintro ⟨points, read⟩
      exact ⟨_, by rw [buildChartData, read, ok_bind]; rfl⟩
  · rename_i peakField spikeKey history
    have row (record : DataRecord) :
        (∃ row, (do
          let point ← chartPoint record m.field
          let peak ← peakField.mapM (chartPoint record)
          return (point, peak) : Except CoercionError (ChartPoint × Option ChartPoint)) =
            .ok row) ↔
          ∀ field ∈ m.field :: peakField.toList, ∃ point, chartPoint record field = .ok point := by
      rw [List.forall_mem_cons]
      constructor
      · rintro ⟨row, read⟩
        obtain ⟨point, first, read⟩ := ok_of_bind read
        obtain ⟨peak, second, -⟩ := ok_of_bind read
        refine ⟨⟨point, first⟩, fun field listed => ?_⟩
        rw [Option.mem_toList.mp listed] at second
        obtain ⟨highest, read, -⟩ := ok_of_bind second
        exact ⟨highest, read⟩
      · rintro ⟨⟨point, first⟩, others⟩
        rw [first, ok_bind]
        cases peakField with
        | none => exact ⟨_, rfl⟩
        | some peakField =>
            obtain ⟨highest, read⟩ := others peakField (Option.mem_toList.mpr rfl)
            exact ⟨(point, some highest), by rw [Option.mapM_some, read]; rfl⟩
    simp only [history, Option.bind_some]
    rw [← forall₂_congr fun record _ => row record, ← mapM_ok_iff]
    constructor
    · rintro ⟨chart, built⟩
      obtain ⟨rows, read, -⟩ := ok_of_bind built
      exact ⟨rows, read⟩
    · rintro ⟨rows, read⟩
      exact ⟨_, by rw [buildHistoryChartData, read, ok_bind]; rfl⟩

end ChartMetric

namespace ChartQuery

variable (q : ChartQuery) (records : String → List DataRecord)

/-- A chart by its name. -/
def drawn (m : ChartMetric) : Except CoercionError (String × MetricChartData) :=
  (m.build (byTime (records m.collection))).map (m.name, ·)

theorem mapM_drawn_one (m : ChartMetric) : [m].mapM (drawn records) = (do
    return [(m.name, ← m.build (byTime (records m.collection)))]) := by
  rw [List.mapM_cons, drawn]
  cases m.build (byTime (records m.collection)) <;> rfl

theorem mapM_drawn_two (m n : ChartMetric) : [m, n].mapM (drawn records) = (do
    return [(m.name, ← m.build (byTime (records m.collection))),
      (n.name, ← n.build (byTime (records n.collection)))]) := by
  rw [List.mapM_cons, mapM_drawn_one, drawn]
  cases m.build (byTime (records m.collection)) <;>
    cases n.build (byTime (records n.collection)) <;> rfl

/-- Whatever is drawn is drawn under its name. -/
theorem mapM_drawn_ok {metrics : List ChartMetric} {charts : List (String × MetricChartData)}
    (returned : metrics.mapM (drawn records) = .ok charts) :
    charts.map Prod.fst = metrics.map ChartMetric.name ∧
      ∀ m ∈ metrics, ∃ chart, m.build (byTime (records m.collection)) = .ok chart ∧
        (m.name, chart) ∈ charts := by
  have related := forall₂_of_mapM returned
  clear returned
  induction related with
  | nil => exact ⟨rfl, fun _ absent => by cases absent⟩
  | @cons m named metrics charts here _ ih =>
      unfold drawn at here
      cases built : m.build (byTime (records m.collection)) with
      | error e =>
          rw [built] at here
          cases here
      | ok chart =>
          rw [built] at here
          cases here
          refine ⟨congrArg (m.name :: ·) ih.1, List.forall_mem_cons.mpr ⟨?_, fun n later => ?_⟩⟩
          · exact ⟨chart, built, List.mem_cons_self⟩
          · obtain ⟨chart, built, there⟩ := ih.2 n later
            exact ⟨chart, built, List.mem_cons_of_mem _ there⟩

theorem extractLiveChartData_eq {collection : String} (listed : collection ∈ LIVE_COLLECTIONS) :
    extractLiveChartData collection (records collection) =
      (collectionMetrics collection).mapM (drawn records) := by
  simp only [LIVE_COLLECTIONS, List.mem_cons, List.not_mem_nil, or_false] at listed
  rcases listed with rfl | rfl | rfl | rfl
  · rw [collectionMetrics, mapM_drawn_two]
    rfl
  all_goals
    rw [collectionMetrics, mapM_drawn_one]
    rfl

theorem extractHistoryChartData_eq {collection : String}
    (listed : collection ∈ HISTORY_COLLECTIONS) :
    extractHistoryChartData collection (records collection) =
      (collectionMetrics collection).mapM (drawn records) := by
  simp only [HISTORY_COLLECTIONS, List.mem_cons, List.not_mem_nil, or_false] at listed
  rcases listed with rfl | rfl | rfl | rfl
  · rw [collectionMetrics, mapM_drawn_two]
    rfl
  all_goals
    rw [collectionMetrics, mapM_drawn_one]
    rfl

/-- The loop over the collections, when each answered. -/
theorem foldlM_extract {results : ChartAnswer}
    {extract : String → List DataRecord → Except CoercionError (List (String × MetricChartData))}
    {collections : List String}
    (succeeded : ∀ collection ∈ collections, results collection = some (records collection))
    (extracts : ∀ collection ∈ collections, extract collection (records collection) =
      (collectionMetrics collection).mapM (drawn records))
    (charts : OrderedMap String MetricChartData) :
    (collections.foldlM (fun charts collection =>
      match results collection with
      | none => return charts
      | some records => do
          let extracted ← extract collection records
          return extracted.foldl (fun charts chart => charts.set chart.1 chart.2) charts)
        charts : Except CoercionError (OrderedMap String MetricChartData)) =
      ((collections.flatMap collectionMetrics).mapM (drawn records)).map charts.setAll := by
  induction collections generalizing charts with
  | nil => rfl
  | cons collection rest ih =>
      rw [List.forall_mem_cons] at succeeded extracts
      rw [List.foldlM_cons, succeeded.1]
      dsimp only
      rw [extracts.1, List.flatMap_cons, List.mapM_append]
      cases (collectionMetrics collection).mapM (drawn records) with
      | error e => rfl
      | ok parts =>
          refine (ih succeeded.2 extracts.2 _).trans ?_
          rw [ok_bind]
          cases (rest.flatMap collectionMetrics).mapM (drawn records) with
          | error e => rfl
          | ok others => exact congrArg Except.ok (List.foldl_append ..).symm

/-- The charts of a fetch, when its requests have succeeded. -/
theorem allChartData_eq {results : ChartAnswer}
    (succeeded : ∀ collection ∈ q.collections, results collection = some (records collection)) :
    allChartData q results =
      (q.metrics.mapM (drawn records)).map OrderedMap.empty.setAll := by
  unfold metrics collections at *
  unfold allChartData
  by_cases live : q.timeRange = .hour
  · simp only [if_pos live] at succeeded ⊢
    exact foldlM_extract records succeeded (fun _ => extractLiveChartData_eq records) .empty
  · simp only [if_neg live] at succeeded ⊢
    exact foldlM_extract records succeeded (fun _ => extractHistoryChartData_eq records) .empty

end ChartQuery

/-! ## Coverage -/

def Earliest (records : List StoredRecord) (r : StoredRecord) : Prop :=
  r ∈ records ∧ ∀ k ∈ records, r.timestamp ≤ k.timestamp

def Latest (records : List StoredRecord) (r : StoredRecord) : Prop :=
  r ∈ records ∧ ∀ k ∈ records, k.timestamp ≤ r.timestamp

namespace ChartServer

variable (server : ChartServer) (q : ChartQuery)

/-- The metric's chart has a point for each of the records that came, and among them are the
first and the last that the store holds within the range. -/
def Covers (chartData : OrderedMap String MetricChartData) (m : ChartMetric) : Prop :=
  ∃ records chart, server.fetchCollectionRecords q m.collection = some records ∧
    chartData.get m.name = some chart ∧
    (byTime records).mapM (chartPoint · m.field) = .ok chart.points ∧
    ∀ r, Earliest (server.held q m.collection) r ∨ Latest (server.held q m.collection) r →
      received r ∈ records

theorem held_ids (collection : String) :
    ((server.engine.newestFirst (server.held q collection)).map (·.id)).Nodup := by
  have stored := DataStore.distinct_ids (server.store collection).records
  have held : ((server.held q collection).map (·.id)).Nodup :=
    stored.sublist (List.filter_sublist.map _)
  exact ((server.engine.newestFirst_perm (server.held q collection)).map _).nodup_iff.mpr held

/-- Of a range that is longer than a page the oldest record does not come. -/
theorem held_le_of_earliest {collection : String}
    (came : ∀ r, Earliest (server.held q collection) r →
      received r ∈ (server.newestPage q collection).map received) :
    (server.held q collection).length ≤ DEFAULT_RECORD_QUERY_LIMIT.toNat := by
  by_contra long
  have perm := server.engine.newestFirst_perm (server.held q collection)
  have sorted := server.engine.newestFirst_sorted (server.held q collection)
  have distinct := server.held_ids q collection
  unfold newestPage at came
  rw [not_le, ← perm.length_eq] at long
  generalize server.engine.newestFirst (server.held q collection) = rows at *
  rcases rows.eq_nil_or_concat' with rfl | ⟨newer, oldest, rfl⟩
  · cases long
  rw [List.length_append, List.length_singleton, Nat.lt_succ_iff] at long
  rw [List.pairwise_append] at sorted
  rw [List.map_append, List.nodup_append] at distinct
  -- the last row is behind the page
  rw [List.take_append_of_le_length long] at came
  have earliest : Earliest (server.held q collection) oldest := by
    refine ⟨perm.mem_iff.mp (by simp), fun k held => ?_⟩
    rcases List.mem_append.mp (perm.mem_iff.mpr held) with young | last
    · exact sorted.2.2 k young oldest (List.mem_singleton_self _)
    · rw [List.mem_singleton.mp last]
  obtain ⟨k, front, same⟩ := List.mem_map.mp (came oldest earliest)
  exact distinct.2.2 _ (List.mem_map_of_mem (List.mem_of_mem_take front)) _
    (List.mem_map_of_mem (List.mem_singleton_self _)) (congrArg DataRecord.id same)

/-- A range that fits a page comes whole. -/
theorem newestPage_perm {collection : String}
    (fits : (server.held q collection).length ≤ DEFAULT_RECORD_QUERY_LIMIT.toNat) :
    (server.newestPage q collection).Perm (server.held q collection) := by
  have perm := server.engine.newestFirst_perm (server.held q collection)
  rw [newestPage, List.take_of_length_le (perm.length_eq ▸ fits)]
  exact perm

theorem mem_collections {m : ChartMetric} (listed : m ∈ q.metrics) :
    m.collection ∈ q.collections := by
  have own : ∀ collection ∈ LIVE_COLLECTIONS ++ HISTORY_COLLECTIONS,
      ∀ m ∈ collectionMetrics collection, m.collection = collection := by decide
  obtain ⟨collection, there, drawn⟩ := List.mem_flatMap.mp listed
  have known : collection ∈ LIVE_COLLECTIONS ++ HISTORY_COLLECTIONS := by
    rw [List.mem_append]
    unfold ChartQuery.collections at there
    split at there
    · exact .inl there
    · exact .inr there
  exact (own collection known m drawn) ▸ there

theorem nodup_names : (q.metrics.map ChartMetric.name).Nodup := by
  unfold ChartQuery.metrics ChartQuery.collections
  split <;> decide

/-- **Coverage.**  When the requests of a fetch succeed, the charts cover the range if and only
if it holds no more than a page of records of each collection, with numbers where the charts
read. -/
theorem charts_cover_iff
    (succeed : ∀ collection ∈ q.collections, (server.fetchCollectionRecords q collection).isSome) :
    (∀ s : MetricsHistoryStore, ∀ m ∈ q.metrics,
        server.Covers q (s.chartDataFetched q (server.fetchCollectionRecords q)).chartData m) ↔
      ∀ m ∈ q.metrics,
        (server.held q m.collection).length ≤ DEFAULT_RECORD_QUERY_LIMIT.toNat ∧
          ∀ r ∈ server.held q m.collection, m.Readable (received r) := by
  have answers : ∀ collection ∈ q.collections, server.fetchCollectionRecords q collection =
      some ((server.newestPage q collection).map received) :=
    fun collection listed => server.fetchCollectionRecords_eq q
      ((server.fetchCollectionRecords_isSome_iff q).mp (succeed collection listed))
  have charts := ChartQuery.allChartData_eq q _ answers
  have readable (m : ChartMetric)
      (fits : (server.held q m.collection).length ≤ DEFAULT_RECORD_QUERY_LIMIT.toNat) :
      (∃ chart, ChartQuery.drawn
          (fun collection => (server.newestPage q collection).map received) m = .ok chart) ↔
        ∀ r ∈ server.held q m.collection, m.Readable (received r) := by
    have built (part : Except CoercionError MetricChartData) :
        (∃ chart, part.map (m.name, ·) = .ok chart) ↔ ∃ chart, part = .ok chart := by
      cases part with
      | error e => exact ⟨fun ⟨_, failed⟩ => (nomatch failed), fun ⟨_, failed⟩ => (nomatch failed)⟩
      | ok chart => exact ⟨fun _ => ⟨chart, rfl⟩, fun _ => ⟨_, rfl⟩⟩
    rw [ChartQuery.drawn, built, m.build_ok_iff]
    simp [byTime, List.mem_mergeSort, (server.newestPage_perm q fits).mem_iff]
  constructor
  · intro covers m listed
    have fits : (server.held q m.collection).length ≤ DEFAULT_RECORD_QUERY_LIMIT.toNat := by
      obtain ⟨records, -, answered, -, -, came⟩ := covers {} m listed
      rw [answers _ (mem_collections q listed)] at answered
      cases answered
      exact server.held_le_of_earliest q fun r earliest => came r (.inl earliest)
    refine ⟨fits, (readable m fits).mp ?_⟩
    -- an unreadable record would have left the charts as they were
    cases drawn : q.metrics.mapM (ChartQuery.drawn fun collection =>
        (server.newestPage q collection).map received) with
    | ok parts => exact mapM_ok_iff.mp ⟨parts, drawn⟩ m listed
    | error e =>
        obtain ⟨_, chart, -, there, -⟩ := covers {} m listed
        rw [MetricsHistoryStore.chartData_fetched, charts, drawn] at there
        cases there
  · intro held s m listed
    obtain ⟨parts, drawn⟩ := mapM_ok_iff.mpr fun m listed =>
      (readable m (held m listed).1).mpr (held m listed).2
    obtain ⟨names, built⟩ := ChartQuery.mapM_drawn_ok _ drawn
    obtain ⟨chart, built, member⟩ := built m listed
    refine ⟨_, chart, answers _ (mem_collections q listed), ?_, m.build_points built, ?_⟩
    · rw [MetricsHistoryStore.chartData_fetched, charts, drawn]
      change (OrderedMap.empty.setAll parts).get m.name = some chart
      rw [← OrderedMap.mem_entries, OrderedMap.entries_setAll _ (names ▸ nodup_names q)
        (fun _ _ => OrderedMap.get_empty _)]
      simpa using member
    · intro r edge
      have there : r ∈ server.held q m.collection := edge.elim And.left And.left
      exact List.mem_map_of_mem ((server.newestPage_perm q (held m listed).1).mem_iff.mpr there)

/-! ## A day of averages -/

/-- An average of every five minutes. -/
def averages (count : Nat) : Records (Tagged JsonObject) where
  rows := (List.range count).map fun n =>
    ⟨n, "_metrics:history:system", ⟨OrderedMap.empty.set "avgMemoryMb" (.num 40), .empty⟩,
      300000 * (n + 1)⟩
  nextId := count
  ordered := List.pairwise_map.mpr List.pairwise_lt_range
  bounded := by simp

theorem length_averages (count : Nat) : (averages count).rows.length = count := by
  rw [averages, List.length_map, List.length_range]

def averaging (count : Nat) : ChartServer where
  engine := Sqlite.plain _
  jsonParse _ := none
  store _ := {
    config := ⟨true, 500, 100000, 50⟩, collections := ["_metrics:history:system"]
    records := averages count }
  now _ := 86400000
  mayRead _ := true
  referenced _ := by simp [DataStore.Referenced, averages]

/-- The view of a day. -/
def dayView : ChartQuery := ⟨.day, 86400000⟩

/-- The first quarter of an hour. -/
theorem charts_cover_iff_quarter :
    (∀ s : MetricsHistoryStore, ∀ m ∈ dayView.metrics,
        (averaging 3).Covers dayView (s.chartDataFetched dayView
          ((averaging 3).fetchCollectionRecords dayView)).chartData m) ↔
      ∀ m ∈ dayView.metrics,
        ((averaging 3).held dayView m.collection).length ≤ DEFAULT_RECORD_QUERY_LIMIT.toNat ∧
          ∀ r ∈ (averaging 3).held dayView m.collection, m.Readable (received r) :=
  charts_cover_iff (averaging 3) dayView fun _ _ =>
    ((averaging 3).fetchCollectionRecords_isSome_iff dayView).mpr rfl

/-- A whole day, of which the charts show less than the last nine hours. -/
theorem day_not_covered :
    (∀ collection ∈ dayView.collections,
      ((averaging 288).fetchCollectionRecords dayView collection).isSome) ∧
    ∀ s : MetricsHistoryStore, ¬∀ m ∈ dayView.metrics,
      (averaging 288).Covers dayView (s.chartDataFetched dayView
        ((averaging 288).fetchCollectionRecords dayView)).chartData m := by
  refine ⟨fun _ _ => ((averaging 288).fetchCollectionRecords_isSome_iff dayView).mpr rfl, ?_⟩
  intro s covers
  have listed : (⟨"_metrics:history:system", "memoryUsageMb", "avgMemoryMb",
      some (some "peakMemoryMb", "memoryUsageMb")⟩ : ChartMetric) ∈ dayView.metrics := by decide
  obtain ⟨records, -, answered, -, -, came⟩ := covers _ listed
  rw [(averaging 288).fetchCollectionRecords_eq dayView rfl] at answered
  rw [← Option.some.inj answered] at came
  have fits := (averaging 288).held_le_of_earliest dayView fun r earliest => came r (.inl earliest)
  have all : (averaging 288).held dayView "_metrics:history:system" = (averages 288).rows := by
    apply List.filter_eq_self.mpr
    intro r member
    obtain ⟨n, below, rfl⟩ := List.mem_map.mp member
    rw [List.mem_range] at below
    simp [DataStore.inRange, dayView, ChartQuery.start, TimeRange.ms]
    omega
  rw [all, length_averages] at fits
  exact absurd fits (by simp [DEFAULT_RECORD_QUERY_LIMIT])

end ChartServer

end Aeolus.Frontend
