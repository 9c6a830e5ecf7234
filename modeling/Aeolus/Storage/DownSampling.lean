/-
# Aeolus.Storage.DownSampling — a bounded number of points over a range

A query with `maxPoints` that matches more records than that answers with one stored record
for each slice of the range.

* `bucketIndex_eq` — the truncated quotient is the number of the slice;
* `index_lt` — the rounding of the width leaves at most `maxPoints` slices;
* `representatives_bucket` — each slice with a record in it gives one, the newest of it;
* `down_sampling` — what a query with `maxPoints` answers, for any records and any filter.
-/
import Mathlib.Data.Int.Interval
import Mathlib.Tactic.Positivity
import Aeolus.Storage.RecordQuery
import Aeolus.Storage.StoreCaps

namespace Aeolus.Storage.DataStore

open Aeolus.Core Aeolus.Theory

variable {P : Type}

/-! ## Slices of a range -/

/-- The slice `index` of equal slices of `width` from `lower` on. -/
def InBucket (lower width index timestamp : ℤ) : Prop :=
  lower + index * width ≤ timestamp ∧ timestamp < lower + (index + 1) * width

instance (lower width index timestamp : ℤ) : Decidable (InBucket lower width index timestamp) :=
  inferInstanceAs (Decidable (_ ∧ _))

theorem bucketWidthMs_pos (rangeFrom rangeTo maxPoints : ℤ) :
    1 ≤ bucketWidthMs rangeFrom rangeTo maxPoints := le_max_left _ _

theorem bucketIndex_eq {lower width timestamp : ℤ} (behind : lower ≤ timestamp)
    (positive : 1 ≤ width) : bucketIndex lower width timestamp = (timestamp - lower) / width := by
  have quotient : (0 : ℚ) ≤ ((timestamp - lower : ℤ) : ℚ) / width := by
    apply div_nonneg
    · exact_mod_cast sub_nonneg.mpr behind
    · exact_mod_cast Int.le_trans (by decide) positive
  unfold bucketIndex
  dsimp only
  rw [if_pos quotient]
  rw [Int.floor_div_cast_of_nonneg (Int.le_trans (by decide) positive), Int.floor_intCast]

theorem bucketIndex_eq_iff {lower width timestamp index : ℤ} (behind : lower ≤ timestamp)
    (positive : 1 ≤ width) :
    bucketIndex lower width timestamp = index ↔ InBucket lower width index timestamp := by
  have above : 0 < width := by omega
  rw [bucketIndex_eq behind positive]
  constructor
  · rintro rfl
    have below := Int.ediv_mul_le (timestamp - lower) (by omega : width ≠ 0)
    have beyond := Int.lt_ediv_add_one_mul_self (timestamp - lower) above
    constructor <;> omega
  · rintro ⟨below, beyond⟩
    apply le_antisymm
    · apply Int.lt_add_one_iff.mp
      apply (Int.ediv_lt_iff_lt_mul above).mpr
      omega
    · apply (Int.le_ediv_iff_mul_le above).mpr
      omega

theorem index_nonneg {lower width timestamp : ℤ} (behind : lower ≤ timestamp)
    (positive : 1 ≤ width) : 0 ≤ bucketIndex lower width timestamp := by
  rw [bucketIndex_eq behind positive]
  exact Int.ediv_nonneg (by omega) (by omega)

/-- As many slices of the width as there may be points cover the range. -/
theorem span_le (rangeFrom rangeTo : ℤ) {maxPoints : ℤ} (positive : 1 ≤ maxPoints) :
    rangeTo - rangeFrom + 1 ≤ maxPoints * bucketWidthMs rangeFrom rangeTo maxPoints := by
  have above : (0 : ℚ) < (maxPoints : ℤ) := by exact_mod_cast positive
  have points : max 1 maxPoints = maxPoints := max_eq_right positive
  have rounded : ((max 1 (rangeTo - rangeFrom + 1) : ℤ) : ℚ) / (maxPoints : ℤ) ≤
      (bucketWidthMs rangeFrom rangeTo maxPoints : ℤ) := by
    unfold bucketWidthMs
    dsimp only
    rw [points]
    refine (Int.le_ceil _).trans ?_
    exact_mod_cast le_max_right _ _
  rw [div_le_iff₀ above, mul_comm] at rounded
  have whole : max 1 (rangeTo - rangeFrom + 1) ≤
      maxPoints * bucketWidthMs rangeFrom rangeTo maxPoints := by exact_mod_cast rounded
  omega

theorem index_lt {rangeFrom rangeTo maxPoints timestamp : ℤ} (positive : 1 ≤ maxPoints)
    (behind : rangeFrom ≤ timestamp) (within : timestamp ≤ rangeTo) :
    bucketIndex rangeFrom (bucketWidthMs rangeFrom rangeTo maxPoints) timestamp < maxPoints := by
  have width := bucketWidthMs_pos rangeFrom rangeTo maxPoints
  have covered := span_le rangeFrom rangeTo positive
  rw [bucketIndex_eq behind width]
  apply (Int.ediv_lt_iff_lt_mul (by omega)).mpr
  omega

/-! ## Groups and their representatives -/

/-- Elements that a key tells apart: one of them is alone under its key. -/
theorem filter_key_eq_singleton {α β : Type} [DecidableEq β] (key : α → β) {l : List α}
    (distinct : (l.map key).Nodup) {a : α} (member : a ∈ l) :
    (l.filter fun b => key b = key a) = [a] := by
  induction l with
  | nil => cases member
  | cons first rest ih =>
      rw [List.map_cons, List.nodup_cons] at distinct
      rcases List.mem_cons.mp member with rfl | later
      · rw [List.filter_cons_of_pos (by simp)]
        congr 1
        apply List.filter_eq_nil_iff.mpr
        intro b here
        have other : key b ≠ key a := fun same => distinct.1 (same ▸ List.mem_map_of_mem here)
        simpa using other
      · have other : key first ≠ key a := fun same =>
          distinct.1 (same ▸ List.mem_map_of_mem later)
        rw [List.filter_cons_of_neg (by simpa using other)]
        exact ih distinct.2 later

section Representatives

variable (engine : Sqlite (Tagged P)) (bucket : DataRecord (Tagged P) → ℤ)

/-- A group that is not empty has a representative, the newest of it. -/
theorem representative_some {group : List (DataRecord (Tagged P))} (some' : group ≠ []) :
    ∃ s, representative engine group = some s ∧ s ∈ group ∧
      ∀ r ∈ group, r.timestamp ≤ s.timestamp := by
  cases group with
  | nil => exact absurd rfl some'
  | cons first rest =>
      exact ⟨_, rfl, engine.maxRow_mem first rest, engine.maxRow_max first rest⟩

/-- The representatives, slice by slice. -/
theorem map_bucket_representatives (rows : List (DataRecord (Tagged P))) :
    (representatives engine bucket rows).map bucket = (rows.map bucket).dedup := by
  suffices each : ∀ indices : List ℤ, (∀ index ∈ indices, index ∈ rows.map bucket) →
      (indices.filterMap fun index =>
        representative engine (rows.filter fun r => bucket r = index)).map bucket = indices from
    each _ fun index listed => List.mem_dedup.mp listed
  intro indices occurring
  induction indices with
  | nil => rfl
  | cons index rest ih =>
      rw [List.forall_mem_cons] at occurring
      obtain ⟨r, stored, here⟩ := List.mem_map.mp occurring.1
      have member : r ∈ rows.filter fun r => bucket r = index :=
        List.mem_filter.mpr ⟨stored, by simpa using here⟩
      obtain ⟨s, found, placed, -⟩ := representative_some engine (List.ne_nil_of_mem member)
      have same : bucket s = index := by simpa using (List.mem_filter.mp placed).2
      rw [List.filterMap_cons_some (f := fun index =>
        representative engine (rows.filter fun r => bucket r = index)) found, List.map_cons, same, ih occurring.2]

theorem mem_representatives {rows : List (DataRecord (Tagged P))} {s : DataRecord (Tagged P)}
    (member : s ∈ representatives engine bucket rows) :
    s ∈ rows ∧ ∀ r ∈ rows, bucket r = bucket s → r.timestamp ≤ s.timestamp := by
  obtain ⟨index, -, found⟩ := List.mem_filterMap.mp member
  have some' : (rows.filter fun r => bucket r = index) ≠ [] := by
    intro empty
    rw [empty] at found
    cases found
  obtain ⟨s', found', placed, newest⟩ := representative_some engine some'
  rw [found] at found'
  cases found'
  obtain ⟨stored, same⟩ := List.mem_filter.mp placed
  refine ⟨stored, fun r here alike => newest r (List.mem_filter.mpr ⟨here, ?_⟩)⟩
  rw [alike]
  exact same

/-- **One record a slice.**  A slice with a row in it has one representative, and it is the
newest of the slice. -/
theorem representatives_bucket {rows : List (DataRecord (Tagged P))} {r : DataRecord (Tagged P)}
    (stored : r ∈ rows) :
    ∃ s, ((representatives engine bucket rows).filter fun s => bucket s = bucket r) = [s] ∧
      ∀ k ∈ rows, bucket k = bucket r → k.timestamp ≤ s.timestamp := by
  have indices := map_bucket_representatives engine bucket rows
  have distinct : ((representatives engine bucket rows).map bucket).Nodup := by
    rw [indices]
    exact List.nodup_dedup _
  have listed : bucket r ∈ (representatives engine bucket rows).map bucket := by
    rw [indices]
    exact List.mem_dedup.mpr (List.mem_map_of_mem stored)
  obtain ⟨s, member, same⟩ := List.mem_map.mp listed
  refine ⟨s, ?_, fun k here alike => ?_⟩
  · rw [← same]
    exact filter_key_eq_singleton bucket distinct member
  · exact (mem_representatives engine bucket member).2 k here (alike.trans same.symm)

/-- There are as many as slices in use. -/
theorem length_representatives_le {rows : List (DataRecord (Tagged P))} {maxPoints : ℤ}
    (bounds : ∀ r ∈ rows, 0 ≤ bucket r ∧ bucket r < maxPoints) (positive : 1 ≤ maxPoints) :
    ((representatives engine bucket rows).length : ℤ) ≤ maxPoints := by
  have length : (representatives engine bucket rows).length = (rows.map bucket).dedup.length := by
    rw [← map_bucket_representatives engine, List.length_map]
  have inside : (rows.map bucket).toFinset ⊆ Finset.Ico 0 maxPoints := by
    intro index listed
    obtain ⟨r, stored, rfl⟩ := List.mem_map.mp (List.mem_toFinset.mp listed)
    exact Finset.mem_Ico.mpr (bounds r stored)
  have card := Finset.card_le_card inside
  rw [List.card_toFinset, Int.card_Ico] at card
  omega

end Representatives

/-! ## The rows that match -/

/-- A record that the conditions select. -/
def Matches (engine : Sqlite (Tagged P)) (d : DataStore (Tagged P)) (collection : String)
    (lower : Option ℤ) (upper : ℤ) (tags : List (String × String)) (r : DataRecord (Tagged P)) :
    Prop :=
  r ∈ d.records.rows ∧ r.collection = collection ∧ (∀ lower' ∈ lower, lower' ≤ r.timestamp) ∧
    r.timestamp ≤ upper ∧ tagConditions engine r.payload.tags tags = .ok true

theorem selectTagged_filter {engine : Sqlite (Tagged P)} {tags : List (String × String)}
    {rows selected : List (DataRecord (Tagged P))}
    (returned : selectTagged engine tags rows = .ok selected) :
    selected = rows.filter fun r =>
      (tagConditions engine r.payload.tags tags).toOption = some true := by
  induction rows generalizing selected with
  | nil =>
      cases returned
      rfl
  | cons first rest ih =>
      unfold selectTagged at returned
      cases holds : tagConditions engine first.payload.tags tags with
      | error e =>
          rw [holds] at returned
          cases returned
      | ok held =>
          rw [holds] at returned
          cases others : selectTagged engine tags rest with
          | error e =>
              rw [others] at returned
              cases returned
          | ok kept =>
              rw [others] at returned
              cases returned
              rw [ih others, List.filter_cons, holds]
              cases held <;> rfl

theorem mem_selectTagged {engine : Sqlite (Tagged P)} {tags : List (String × String)}
    {rows selected : List (DataRecord (Tagged P))}
    (returned : selectTagged engine tags rows = .ok selected) (r : DataRecord (Tagged P)) :
    r ∈ selected ↔ r ∈ rows ∧ tagConditions engine r.payload.tags tags = .ok true := by
  rw [selectTagged_filter returned, List.mem_filter, decide_eq_true_iff]
  cases tagConditions engine r.payload.tags tags <;> simp [Except.toOption]

theorem nodup_selectWhere {engine : Sqlite (Tagged P)} {d : DataStore (Tagged P)}
    {collection : String} {lower : Option ℤ} {upper : ℤ} {tags : List (String × String)}
    {rows : List (DataRecord (Tagged P))}
    (returned : selectWhere engine d.records.rows collection lower upper tags = .ok rows) :
    rows.Nodup :=
  selectTagged_filter returned ▸ (d.records.nodup.filter _).filter _

/-- Of a collection that is not there, nothing is selected. -/
theorem selectWhere_absent (engine : Sqlite (Tagged P)) {d : DataStore (Tagged P)}
    (referenced : Referenced d) {collection : String} (absent : collection ∉ d.collections)
    (lower : Option ℤ) (upper : ℤ) (tags : List (String × String)) :
    selectWhere engine d.records.rows collection lower upper tags = .ok [] := by
  have none' : d.records.rows.filter (inRange collection lower upper) = [] := by
    apply List.filter_eq_nil_iff.mpr
    intro r stored inside
    obtain ⟨here, -⟩ := of_decide_eq_true inside
    exact absent (here ▸ referenced r stored)
  unfold selectWhere
  rw [none']
  rfl

theorem mem_selectWhere {engine : Sqlite (Tagged P)} {d : DataStore (Tagged P)}
    {collection : String} {lower : Option ℤ} {upper : ℤ} {tags : List (String × String)}
    {rows : List (DataRecord (Tagged P))}
    (returned : selectWhere engine d.records.rows collection lower upper tags = .ok rows)
    (r : DataRecord (Tagged P)) :
    r ∈ rows ↔ Matches engine d collection lower upper tags r := by
  rw [mem_selectTagged returned, List.mem_filter]
  unfold Matches inRange
  simp only [decide_eq_true_eq, and_assoc]

/-! ## The answer -/

/-- What a query with `maxPoints` gives for the rows that match. -/
structure DownSampled (rows : List (DataRecord (Tagged P))) (lower : Option ℤ) (upper : ℤ)
    (maxPoints : ℤ) (records : List (DataRecord (Tagged P))) : Prop where
  stored : ∀ r ∈ records, r ∈ rows
  bounded : (records.length : ℤ) ≤ maxPoints
  newestFirst : records.Pairwise fun r s => s.timestamp ≤ r.timestamp
  all : (rows.length : ℤ) ≤ maxPoints → records.Perm rows
  /-- the range starts where the caller says, else at the oldest row; its slices are of one
  width, and no more than the points -/
  sliced : maxPoints < rows.length → ∃ start width : ℤ,
    start = lower.getD ((rows.map DataRecord.timestamp).min?.getD 0) ∧ 1 ≤ width ∧
    width = bucketWidthMs start (max start upper) maxPoints ∧
    (∀ r ∈ rows, ∃ index : ℤ, 0 ≤ index ∧ index < maxPoints ∧
      InBucket start width index r.timestamp) ∧
    ∀ index : ℤ, (∃ r ∈ rows, InBucket start width index r.timestamp) →
      ∃ s, (records.filter fun k => InBucket start width index k.timestamp) = [s] ∧
        ∀ k ∈ rows, InBucket start width index k.timestamp → k.timestamp ≤ s.timestamp
  newest : rows ≠ [] → ∃ s ∈ records, ∀ r ∈ rows, r.timestamp ≤ s.timestamp

section Answer

variable (engine : Sqlite (Tagged P))

/-- When everything fits, everything is returned. -/
theorem downSampled_all {rows : List (DataRecord (Tagged P))} (lower : Option ℤ) (upper : ℤ)
    {maxPoints : ℤ} (positive : 1 ≤ maxPoints) (fits : (rows.length : ℤ) ≤ maxPoints) :
    DownSampled rows lower upper maxPoints
      (page (some maxPoints) none (engine.newestFirst rows)) := by
  have perm := engine.newestFirst_perm rows
  have whole : page (some maxPoints) none (engine.newestFirst rows) = engine.newestFirst rows := by
    have length := perm.length_eq
    unfold page
    dsimp only
    rw [if_pos (Int.le_trans (by decide) positive)]
    apply List.take_of_length_le
    simp only [Option.getD_none, Int.toNat_zero, List.drop_zero]
    omega
  rw [whole]
  refine ⟨fun r => perm.mem_iff.mp, ?_, engine.newestFirst_sorted rows, fun _ => perm, ?_, ?_⟩
  · rw [perm.length_eq]
    exact fits
  · intro tooMany
    omega
  · intro some'
    have sorted := engine.newestFirst_sorted rows
    cases order : engine.newestFirst rows with
    | nil =>
        rw [order] at perm
        exact absurd perm.symm.eq_nil some'
    | cons first rest =>
        rw [order] at perm sorted
        refine ⟨first, List.mem_cons_self, fun r stored => ?_⟩
        rcases List.mem_cons.mp (perm.mem_iff.mpr stored) with rfl | behind
        · exact le_refl _
        · exact (List.pairwise_cons.mp sorted).1 r behind

/-- Where the buckets start: no later than any row. -/
theorem start_le {rows : List (DataRecord (Tagged P))} {lower : Option ℤ}
    (within : ∀ r ∈ rows, ∀ lower' ∈ lower, lower' ≤ r.timestamp) {r : DataRecord (Tagged P)}
    (stored : r ∈ rows) :
    lower.getD ((rows.map DataRecord.timestamp).min?.getD 0) ≤ r.timestamp := by
  cases lower with
  | some given => exact within r stored given rfl
  | none =>
      have listed : r.timestamp ∈ rows.map DataRecord.timestamp := List.mem_map_of_mem stored
      cases least : (rows.map DataRecord.timestamp).min? with
      | none =>
          rw [List.min?_eq_none_iff.mp least] at listed
          cases listed
      | some oldest => exact (List.min?_eq_some_iff.mp least).2 _ listed

/-- The sample in its order, slice by slice. -/
theorem sample_bucket (bucket : DataRecord (Tagged P) → ℤ) {rows : List (DataRecord (Tagged P))}
    {r : DataRecord (Tagged P)} (stored : r ∈ rows) :
    ∃ s, ((engine.newestFirst (representatives engine bucket rows)).filter fun s =>
        bucket s = bucket r) = [s] ∧
      ∀ k ∈ rows, bucket k = bucket r → k.timestamp ≤ s.timestamp := by
  obtain ⟨s, single, newest⟩ := representatives_bucket engine bucket stored
  refine ⟨s, ?_, newest⟩
  have filtered := (engine.newestFirst_perm (representatives engine bucket rows)).filter
    fun s => decide (bucket s = bucket r)
  rw [single] at filtered
  exact List.perm_singleton.mp filtered

/-- When more match than there may be points, each slice gives one. -/
theorem downSampled_sampled {rows : List (DataRecord (Tagged P))} {lower : Option ℤ} {upper : ℤ}
    {maxPoints : ℤ} (positive : 1 ≤ maxPoints) (many : maxPoints < rows.length)
    (behind : ∀ r ∈ rows, ∀ lower' ∈ lower, lower' ≤ r.timestamp)
    (within : ∀ r ∈ rows, r.timestamp ≤ upper) {rangeFrom : ℤ}
    (started : rangeFrom = lower.getD ((rows.map DataRecord.timestamp).min?.getD 0)) :
    DownSampled rows lower upper maxPoints
      (sampleRange engine rows rangeFrom (max rangeFrom upper) maxPoints) := by
  have start : ∀ r ∈ rows, rangeFrom ≤ r.timestamp := fun r stored =>
    started.trans_le (start_le behind stored)
  have indices : ∀ r ∈ rows,
      0 ≤ bucketIndex rangeFrom (bucketWidthMs rangeFrom (max rangeFrom upper) maxPoints)
        r.timestamp ∧
      bucketIndex rangeFrom (bucketWidthMs rangeFrom (max rangeFrom upper) maxPoints)
        r.timestamp < maxPoints := by
    intro r stored
    refine ⟨index_nonneg (start r stored) (bucketWidthMs_pos _ _ _), ?_⟩
    exact index_lt positive (start r stored) ((within r stored).trans (le_max_right _ _))
  have widthPos := bucketWidthMs_pos rangeFrom (max rangeFrom upper) maxPoints
  unfold sampleRange
  dsimp only
  generalize widthEq : bucketWidthMs rangeFrom (max rangeFrom upper) maxPoints = width
    at indices widthPos ⊢
  have slice : ∀ r ∈ rows, ∀ index,
      bucketIndex rangeFrom width r.timestamp = index ↔
        InBucket rangeFrom width index r.timestamp :=
    fun r stored index => bucketIndex_eq_iff (start r stored) widthPos
  have sorted := engine.newestFirst_sorted
    (representatives engine (fun r => bucketIndex rangeFrom width r.timestamp) rows)
  have perm := engine.newestFirst_perm
    (representatives engine (fun r => bucketIndex rangeFrom width r.timestamp) rows)
  have sampled := fun {r : DataRecord (Tagged P)} (stored : r ∈ rows) =>
    sample_bucket engine (fun r => bucketIndex rangeFrom width r.timestamp) stored
  generalize engine.newestFirst
    (representatives engine (fun r => bucketIndex rangeFrom width r.timestamp) rows) = records
    at perm sorted sampled ⊢
  have fromRows : ∀ s ∈ records, s ∈ rows := fun s member =>
    (mem_representatives engine _ (perm.mem_iff.mp member)).1
  refine ⟨fromRows, ?_, sorted, fun fits => absurd many (by omega), ?_, ?_⟩
  · rw [perm.length_eq]
    exact length_representatives_le engine _ indices positive
  · intro _
    refine ⟨rangeFrom, width, started, widthPos, widthEq.symm, fun r stored => ?_, ?_⟩
    · refine ⟨_, (indices r stored).1, (indices r stored).2, ?_⟩
      exact (slice r stored _).mp rfl
    · rintro index ⟨r, stored, inside⟩
      obtain ⟨s, single, newest⟩ := sampled stored
      rw [(slice r stored index).mpr inside] at single newest
      refine ⟨s, ?_, fun k there inside' => newest k there ((slice k there index).mpr inside')⟩
      rw [← single]
      apply List.filter_congr
      intro k member
      exact decide_eq_decide.mpr (slice k (fromRows k member) index).symm
  · intro some'
    obtain ⟨newest, -, stored, newest_max⟩ := representative_some engine some'
    obtain ⟨s, single, above⟩ := sampled stored
    have member : s ∈ records := by
      apply List.mem_of_mem_filter
      rw [single]
      exact List.mem_singleton_self s
    exact ⟨s, member, fun r there => (newest_max r there).trans (above newest stored rfl)⟩

/-- **Down-sampling.**  Unless the engine refuses the filter, a query with `maxPoints` answers
with records of the rows that match, as `DownSampled` says, and with their number. -/
theorem down_sampling {d : DataStore (Tagged P)} (referenced : Referenced d) (now : ℤ)
    (collection : String) (lower upper limit offset : Option ℤ)
    (tags : Option (OrderedMap String String)) (field : Option String) {maxPoints : ℤ}
    (positive : 1 ≤ maxPoints) :
    (∃ e, selectWhere engine d.records.rows collection lower (upper.getD now)
        ((tags.map OrderedMap.entries).getD []) = .error e ∧
      query engine d now collection
        ⟨lower, upper, limit, offset, tags, none, field, some maxPoints⟩ = .error (.sql e)) ∨
    ∃ rows records sampling,
      (∀ r, r ∈ rows ↔ Matches engine d collection lower (upper.getD now)
        ((tags.map OrderedMap.entries).getD []) r) ∧ rows.Nodup ∧
      query engine d now collection
        ⟨lower, upper, limit, offset, tags, none, field, some maxPoints⟩ =
          .ok (.records records rows.length sampling) ∧
      DownSampled rows lower (upper.getD now) maxPoints records := by
  by_cases there : collection ∈ d.collections
  · have answer : query engine d now collection
        ⟨lower, upper, limit, offset, tags, none, field, some maxPoints⟩ =
          ((selectWhere engine d.records.rows collection lower (upper.getD now)
            ((tags.map OrderedMap.entries).getD [])).map fun rows =>
              queryRecords engine rows lower (upper.getD now)
                ⟨lower, upper, limit, offset, tags, none, field, some maxPoints⟩).mapError .sql :=
      if_neg fun absent => absent there
    rw [answer]
    cases selected : selectWhere engine d.records.rows collection lower (upper.getD now)
        ((tags.map OrderedMap.entries).getD []) with
    | error e => exact Or.inl ⟨e, rfl, rfl⟩
    | ok rows =>
        have matching := mem_selectWhere selected
        by_cases many : maxPoints < rows.length
        · refine Or.inr ⟨rows, _, _, matching, nodup_selectWhere selected,
            congrArg Except.ok (if_pos many), ?_⟩
          apply downSampled_sampled engine positive many _ _ rfl
          · exact fun r stored => ((matching r).mp stored).2.2.1
          · exact fun r stored => ((matching r).mp stored).2.2.2.1
        · refine Or.inr ⟨rows, _, _, matching, nodup_selectWhere selected,
            congrArg Except.ok (if_neg many), ?_⟩
          exact downSampled_all engine lower _ positive (by omega)
  · have selected := selectWhere_absent engine referenced there lower (upper.getD now)
      ((tags.map OrderedMap.entries).getD [])
    refine Or.inr ⟨[], [], none, mem_selectWhere selected, List.nodup_nil, if_pos there, ?_⟩
    refine ⟨fun r => id, ?_, List.Pairwise.nil, fun _ => List.Perm.refl _, fun many => ?_, ?_⟩
    · rw [List.length_nil]
      omega
    · rw [List.length_nil] at many
      omega
    · exact fun some' => absurd rfl some'

end Answer

/-! ## Readings of a quarter of an hour -/

/-- Six readings, two of one moment. -/
def readings : DataStore (Tagged String) :=
  run step { config := ⟨true, 500, 100000, 50⟩ }
    [.write "power" ⟨"40 W", .empty⟩ 0, .write "power" ⟨"41 W", .empty⟩ 300,
      .write "power" ⟨"42 W", .empty⟩ 450, .write "power" ⟨"43 W", .empty⟩ 600,
      .write "power" ⟨"44 W", .empty⟩ 900, .write "power" ⟨"45 W", .empty⟩ 900]

theorem referenced_readings : Referenced readings := by
  apply referenced_run
  intro r member
  cases member

/-- Two points over the whole of it. -/
theorem down_sampling_readings :
    (∃ e, selectWhere (Sqlite.plain _) readings.records.rows "power" none 900 [] = .error e ∧
      query (Sqlite.plain _) readings 900 "power"
        ⟨none, none, none, none, none, none, none, some 2⟩ = .error (.sql e)) ∨
    ∃ rows records sampling,
      (∀ r, r ∈ rows ↔ Matches (Sqlite.plain _) readings "power" none 900 [] r) ∧ rows.Nodup ∧
      query (Sqlite.plain _) readings 900 "power"
        ⟨none, none, none, none, none, none, none, some 2⟩ =
          .ok (.records records rows.length sampling) ∧
      DownSampled rows none 900 2 records :=
  down_sampling (Sqlite.plain _) referenced_readings 900 "power" none none none none none none
    (by decide)

end Aeolus.Storage.DataStore
