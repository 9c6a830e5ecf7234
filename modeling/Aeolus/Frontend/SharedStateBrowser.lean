/-
# Aeolus.Frontend.SharedStateBrowser — the page that lists Shared State

`selectSharedStateBucket`, `fetchSharedStateEntries` and `applySharedStateChange` of
`frontend/src/store/data-store-store.ts`.  The page holds a list of buckets with key counts and
the entries of the one that is expanded, and keeps both by the changes the server announces.

Of a write to a collapsed bucket it cannot tell whether it made a key, so it leaves the count;
of a removal it can.  The count is therefore at most what the server holds (`Base`), and a bucket
whose count comes to zero is taken from the list, also when the server still has keys there.
Nothing else goes wrong: the page shows what the server holds in every state of exactly those
runs that remove no key from a bucket that is listed with one key and holds more
(`never_hides_iff`).

Lists are compared without their order.
-/
import Aeolus.Core.JsonText
import Aeolus.SharedState.SharedStateListing

namespace Aeolus.Frontend

open Aeolus.Core Aeolus.Theory Aeolus.Automations Aeolus.SharedState

structure SharedStateBrowser where
  sharedStateBuckets : List SharedStateBucketMetadata := []
  selectedSharedStateBucket : Option String := none
  sharedStateEntries : List SharedStateEntry := []

namespace SharedStateBrowser

/-- `Math.max(0, b.keyCount + keyDelta)` at the bucket. -/
def counted (bucket : String) (keyDelta : Int) (b : SharedStateBucketMetadata) :
    SharedStateBucketMetadata :=
  if b.bucket = bucket then { b with keyCount := (b.keyCount + keyDelta).toNat } else b

/-- `localeCompare a b` is `a.localeCompare(b) <= 0`. -/
def bucketsAfter (localeCompare : String → String → Bool)
    (buckets : List SharedStateBucketMetadata) (bucket : String) (deleted : Bool)
    (keyDelta : Int) : List SharedStateBucketMetadata :=
  let known := buckets.any fun b => b.bucket = bucket
  if keyDelta ≠ 0 ∧ known then
    (buckets.map (counted bucket keyDelta)).filter fun b => b.keyCount > 0
  else if !known ∧ !deleted then
    (buckets ++ [(⟨bucket, 1⟩ : SharedStateBucketMetadata)]).mergeSort fun a b =>
      localeCompare a.bucket b.bucket
  else buckets

def applySharedStateChange (localeCompare : String → String → Bool) (s : SharedStateBrowser)
    (change : SharedStateChange) : SharedStateBrowser :=
  let isExpanded : Bool := s.selectedSharedStateBucket = some change.bucket
  let existing :=
    if isExpanded then s.sharedStateEntries.find? fun e => e.key = change.key else none
  let entry : SharedStateEntry := ⟨change.key, change.value, change.timestamp⟩
  let keyDelta : Int :=
    if change.deleted then -1 else if isExpanded && existing.isNone then 1 else 0
  { s with
    sharedStateEntries :=
      if !isExpanded then s.sharedStateEntries
      else if change.deleted then s.sharedStateEntries.filter fun e => e.key ≠ change.key
      else if existing.isSome then
        s.sharedStateEntries.map fun e => if e.key = change.key then entry else e
      else (s.sharedStateEntries ++ [entry]).mergeSort fun a b => localeCompare a.key b.key
    sharedStateBuckets :=
      bucketsAfter localeCompare s.sharedStateBuckets change.bucket change.deleted keyDelta }

def selectSharedStateBucket (s : SharedStateBrowser) (name : Option String) : SharedStateBrowser :=
  { s with selectedSharedStateBucket := name, sharedStateEntries := [] }

/-- The answer of `fetchSharedStateEntries`. -/
def fetched (s : SharedStateBrowser) (entries : List SharedStateEntry) : SharedStateBrowser :=
  { s with sharedStateEntries := entries }

end SharedStateBrowser

/-! ## The page and the server -/

/-- A call whose value is one of the language. -/
abbrev SharedStateCall :=
  { call : SharedState.StoreCall //
    ∀ bucket key value context now, call = .set bucket key (some value) context now →
      value.Distinct }

inductive BrowsingEvent where
  | call (call : SharedStateCall)
  /-- a bucket is expanded, and its entries are fetched -/
  | expand (name : Option String)

structure Browsing where
  server : SharedStateStore := {}
  page : SharedStateBrowser := {}

namespace Browsing

variable (numbers : JsonText.NumberText) (localeCompare : String → String → Bool)

def listBucket (server : SharedStateStore) (bucket : String) : List SharedStateEntry :=
  server.listBucket (JsonText.parse numbers) bucket

/-- What a call announces is delivered before anything else happens. -/
def step (s : Browsing) : BrowsingEvent → Browsing
  | .call call =>
      { server := s.server.after (JsonText.stringify numbers) call
        page := (s.server.emitted (JsonText.stringify numbers) call).foldl
          (SharedStateBrowser.applySharedStateChange localeCompare) s.page }
  | .expand none => { s with page := s.page.selectSharedStateBucket none }
  | .expand (some name) =>
      let page := s.page.selectSharedStateBucket (some name)
      { s with page := page.fetched (listBucket numbers s.server name) }

/-- The bucket list, and the entries of the expanded bucket, have just been fetched. -/
def fresh (server : SharedStateStore) (expanded : Option String) : Browsing where
  server
  page :=
    { sharedStateBuckets := server.listBuckets
      selectedSharedStateBucket := expanded
      sharedStateEntries := expanded.elim [] (listBucket numbers server) }

/-- The page shows what the server holds. -/
structure Shown (s : Browsing) : Prop where
  live : ∀ bucket, 0 < s.server.keyCount bucket →
    ∃ b ∈ s.page.sharedStateBuckets, b.bucket = bucket
  listed : ∀ b ∈ s.page.sharedStateBuckets, 0 < s.server.keyCount b.bucket
  expanded : ∀ bucket, s.page.selectedSharedStateBucket = some bucket →
    s.page.sharedStateEntries.Perm (listBucket numbers s.server bucket)

/-- No key is removed from a bucket that is listed with one key and holds more. -/
def Spared (s : Browsing) : BrowsingEvent → Prop
  | .call call => ∀ bucket key context now, call.1 = .delete bucket key context now →
      s.server.rows.get (bucket, key) ≠ none → ∀ b ∈ s.page.sharedStateBuckets,
        b.bucket = bucket → b.keyCount = 1 → s.server.keyCount bucket = 1
  | .expand _ => True

/-- The counts are never too high, and the entries are right. -/
structure Base (s : Browsing) : Prop where
  nodup : (s.page.sharedStateBuckets.map (·.bucket)).Nodup
  counts : ∀ b ∈ s.page.sharedStateBuckets,
    0 < b.keyCount ∧ b.keyCount ≤ s.server.keyCount b.bucket
  expanded : ∀ bucket, s.page.selectedSharedStateBucket = some bucket →
    s.page.sharedStateEntries.Perm (s.server.held (JsonText.parse numbers) bucket)

end Browsing

/-! ## The list of buckets -/

namespace SharedStateBrowser

variable {localeCompare : String → String → Bool} {buckets : List SharedStateBucketMetadata}
  {bucket : String}

theorem any_known : (buckets.any fun b => b.bucket = bucket) = true ↔
    ∃ b ∈ buckets, b.bucket = bucket := by simp

/-- The count of a listed bucket moves, or an unlisted one is added, or nothing happens. -/
theorem bucketsAfter_cases (localeCompare : String → String → Bool)
    (buckets : List SharedStateBucketMetadata) (bucket : String) (deleted : Bool)
    (keyDelta : Int) :
    (keyDelta ≠ 0 ∧ (∃ b ∈ buckets, b.bucket = bucket) ∧
      bucketsAfter localeCompare buckets bucket deleted keyDelta =
        (buckets.map (counted bucket keyDelta)).filter fun b => b.keyCount > 0) ∨
    (deleted = false ∧ (∀ b ∈ buckets, b.bucket ≠ bucket) ∧
      (bucketsAfter localeCompare buckets bucket deleted keyDelta).Perm
        (⟨bucket, 1⟩ :: buckets)) ∨
    ((keyDelta = 0 ∧ (∃ b ∈ buckets, b.bucket = bucket) ∨
        deleted = true ∧ ∀ b ∈ buckets, b.bucket ≠ bucket) ∧
      bucketsAfter localeCompare buckets bucket deleted keyDelta = buckets) := by
  unfold bucketsAfter
  by_cases known : ∃ b ∈ buckets, b.bucket = bucket
  · have listed := any_known.mpr known
    by_cases moved : keyDelta = 0
    · exact .inr (.inr ⟨.inl ⟨moved, known⟩, by simp [listed, moved]⟩)
    · exact .inl ⟨moved, known, by simp [listed, moved]⟩
  · have unlisted : (buckets.any fun b => b.bucket = bucket) = false :=
      Bool.eq_false_iff.mpr fun listed => known (any_known.mp listed)
    have others : ∀ b ∈ buckets, b.bucket ≠ bucket := fun b member same =>
      known ⟨b, member, same⟩
    cases deleted with
    | false =>
        refine .inr (.inl ⟨rfl, others, ?_⟩)
        rw [if_neg (by simp [unlisted]), if_pos (by simp [unlisted])]
        exact (List.mergeSort_perm _ _).trans (List.perm_append_singleton _ _)
    | true => exact .inr (.inr ⟨.inr ⟨rfl, others⟩, by simp [unlisted]⟩)

@[simp] theorem bucket_counted (bucket : String) (keyDelta : Int)
    (b : SharedStateBucketMetadata) : (counted bucket keyDelta b).bucket = b.bucket := by
  unfold counted
  split <;> rfl

theorem counted_of_ne {keyDelta : Int} {b : SharedStateBucketMetadata} (other : b.bucket ≠ bucket) :
    counted bucket keyDelta b = b := if_neg other

theorem keyCount_counted {keyDelta : Int} {b : SharedStateBucketMetadata}
    (same : b.bucket = bucket) :
    (counted bucket keyDelta b).keyCount = (b.keyCount + keyDelta).toNat := by
  rw [counted, if_pos same]

/-- A bucket stays listed once. -/
theorem nodup_bucketsAfter (deleted : Bool) (keyDelta : Int)
    (nodup : (buckets.map (·.bucket)).Nodup) :
    ((bucketsAfter localeCompare buckets bucket deleted keyDelta).map (·.bucket)).Nodup := by
  obtain ⟨-, -, equal⟩ | ⟨-, others, perm⟩ | ⟨-, equal⟩ :=
    bucketsAfter_cases localeCompare buckets bucket deleted keyDelta
  · rw [equal]
    refine List.Nodup.sublist (List.filter_sublist.map _) ?_
    rw [List.map_map]
    exact (List.map_congr_left fun b _ => bucket_counted bucket keyDelta b) ▸ nodup
  · rw [(perm.map _).nodup_iff, List.map_cons, List.nodup_cons, List.mem_map]
    exact ⟨fun ⟨b, member, same⟩ => others b member same, nodup⟩
  · rw [equal]
    exact nodup

/-- Counts that were not too high are not, when they move no more than the keys do. -/
theorem counts_bucketsAfter {deleted : Bool} {keyDelta : Int} {before after : String → Nat}
    (counts : ∀ b ∈ buckets, 0 < b.keyCount ∧ b.keyCount ≤ before b.bucket)
    (others : ∀ other, other ≠ bucket → after other = before other)
    (moved : before bucket + keyDelta ≤ after bucket)
    (written : deleted = false → 0 < after bucket) :
    ∀ b ∈ bucketsAfter localeCompare buckets bucket deleted keyDelta,
      0 < b.keyCount ∧ b.keyCount ≤ after b.bucket := by
  intro b member
  obtain ⟨-, -, equal⟩ | ⟨kept, unlisted, perm⟩ | ⟨still, equal⟩ :=
    bucketsAfter_cases localeCompare buckets bucket deleted keyDelta
  · rw [equal, List.mem_filter, List.mem_map] at member
    obtain ⟨⟨b, listed, rfl⟩, positive⟩ := member
    refine ⟨of_decide_eq_true positive, ?_⟩
    have below := (counts b listed).2
    rw [bucket_counted]
    by_cases same : b.bucket = bucket
    · rw [keyCount_counted same, same]
      rw [same] at below
      omega
    · rw [counted_of_ne same, others _ same]
      exact below
  · obtain rfl | listed := List.mem_cons.mp (perm.mem_iff.mp member)
    · exact ⟨Nat.one_pos, written kept⟩
    · rw [others _ (unlisted b listed)]
      exact counts b listed
  · rw [equal] at member
    have below := counts b member
    by_cases same : b.bucket = bucket
    · obtain ⟨rfl, -⟩ | ⟨-, unlisted⟩ := still
      · rw [same] at below ⊢
        omega
      · exact absurd same (unlisted b member)
    · rw [others _ same]
      exact below

/-- The other buckets stay listed. -/
theorem listed_other {deleted : Bool} {keyDelta : Int} {other : String} (differs : other ≠ bucket)
    (counts : ∀ b ∈ buckets, 0 < b.keyCount) (listed : ∃ b ∈ buckets, b.bucket = other) :
    ∃ b ∈ bucketsAfter localeCompare buckets bucket deleted keyDelta, b.bucket = other := by
  obtain ⟨b, member, rfl⟩ := listed
  refine ⟨b, ?_, rfl⟩
  obtain ⟨-, -, equal⟩ | ⟨-, -, perm⟩ | ⟨-, equal⟩ :=
    bucketsAfter_cases localeCompare buckets bucket deleted keyDelta
  · rw [equal, List.mem_filter, List.mem_map]
    exact ⟨⟨b, member, counted_of_ne differs⟩, decide_eq_true (counts b member)⟩
  · exact perm.mem_iff.mpr (List.mem_cons_of_mem _ member)
  · rw [equal]
    exact member

/-- A bucket that is written to is listed. -/
theorem listed_written {keyDelta : Int} (upward : 0 ≤ keyDelta)
    (counts : ∀ b ∈ buckets, 0 < b.keyCount) :
    ∃ b ∈ bucketsAfter localeCompare buckets bucket false keyDelta, b.bucket = bucket := by
  obtain ⟨-, ⟨b, member, same⟩, equal⟩ | ⟨-, -, perm⟩ | ⟨⟨-, listed⟩ | ⟨deleted, -⟩, equal⟩ :=
    bucketsAfter_cases localeCompare buckets bucket false keyDelta
  · refine ⟨counted bucket keyDelta b, ?_, by rw [bucket_counted, same]⟩
    rw [equal, List.mem_filter]
    refine ⟨List.mem_map_of_mem member, decide_eq_true ?_⟩
    have positive := counts b member
    rw [keyCount_counted same]
    omega
  · exact ⟨_, perm.mem_iff.mpr List.mem_cons_self, rfl⟩
  · rw [equal]
    exact listed
  · cases deleted

/-- A bucket that a key was removed from is listed when it was listed with more than one. -/
theorem listed_removed : (∃ b ∈ bucketsAfter localeCompare buckets bucket true (-1),
      b.bucket = bucket) ↔ ∃ b ∈ buckets, b.bucket = bucket ∧ 1 < b.keyCount := by
  obtain ⟨-, -, equal⟩ | ⟨written, -⟩ | ⟨⟨moved, -⟩ | ⟨-, unlisted⟩, equal⟩ :=
    bucketsAfter_cases localeCompare buckets bucket true (-1)
  · rw [equal]
    simp only [List.mem_filter, List.mem_map, decide_eq_true_eq]
    constructor
    · rintro ⟨_, ⟨⟨b, member, rfl⟩, positive⟩, same⟩
      rw [bucket_counted] at same
      rw [keyCount_counted same] at positive
      exact ⟨b, member, same, by omega⟩
    · rintro ⟨b, member, same, more⟩
      refine ⟨counted bucket (-1) b, ⟨⟨b, member, rfl⟩, ?_⟩, by rw [bucket_counted, same]⟩
      rw [keyCount_counted same]
      omega
  · cases written
  · cases moved
  · rw [equal]
    constructor
    · rintro ⟨b, member, same⟩
      exact absurd same (unlisted b member)
    · rintro ⟨b, member, same, -⟩
      exact absurd same (unlisted b member)

/-! ## A change -/

section Changes

open SharedStateStore (changeOf)

variable {s : SharedStateBrowser} {key : String} {value : Option Json} {now : Nat}
  {context : Option SharedStateWriteContext} {entries : List SharedStateEntry}

@[simp] theorem selected_apply (change : SharedStateChange) :
    (s.applySharedStateChange localeCompare change).selectedSharedStateBucket =
      s.selectedSharedStateBucket := rfl

theorem entries_elsewhere {change : SharedStateChange}
    (elsewhere : s.selectedSharedStateBucket ≠ some change.bucket) :
    (s.applySharedStateChange localeCompare change).sharedStateEntries = s.sharedStateEntries := by
  simp [applySharedStateChange, elsewhere]

theorem find_absent (absent : ¬∃ e ∈ entries, e.key = key) :
    (entries.find? fun e => e.key = key) = none :=
  List.find?_eq_none.mpr fun e member same => absent ⟨e, member, of_decide_eq_true same⟩

theorem find_present (present : ∃ e ∈ entries, e.key = key) :
    ∃ e, (entries.find? fun e => e.key = key) = some e :=
  Option.isSome_iff_exists.mp (List.find?_isSome.mpr (by simpa using present))

/-- A write counts a key only where it can see that there was none. -/
theorem buckets_written (localeCompare : String → String → Bool) (s : SharedStateBrowser)
    (bucket key : String) (value : Option Json) (now : Nat)
    (context : Option SharedStateWriteContext) : ∃ keyDelta : Int, 0 ≤ keyDelta ∧ keyDelta ≤ 1 ∧
    (keyDelta = 1 → s.selectedSharedStateBucket = some bucket ∧
      ¬∃ e ∈ s.sharedStateEntries, e.key = key) ∧
    (s.applySharedStateChange localeCompare
        (changeOf bucket key value false now context)).sharedStateBuckets =
      bucketsAfter localeCompare s.sharedStateBuckets bucket false keyDelta := by
  by_cases expanded : s.selectedSharedStateBucket = some bucket
  · by_cases present : ∃ e ∈ s.sharedStateEntries, e.key = key
    · refine ⟨0, le_refl _, by decide, (by simp), ?_⟩
      obtain ⟨e, found⟩ := find_present present
      unfold applySharedStateChange changeOf
      simp [expanded, found]
    · refine ⟨1, by decide, le_refl _, fun _ => ⟨expanded, present⟩, ?_⟩
      unfold applySharedStateChange changeOf
      simp [expanded, find_absent present]
  · refine ⟨0, le_refl _, by decide, (by simp), ?_⟩
    simp [applySharedStateChange, changeOf, expanded]

theorem buckets_removed :
    (s.applySharedStateChange localeCompare
        (changeOf bucket key value true now context)).sharedStateBuckets =
      bucketsAfter localeCompare s.sharedStateBuckets bucket true (-1) := rfl

theorem entries_created (expanded : s.selectedSharedStateBucket = some bucket)
    (perm : s.sharedStateEntries.Perm entries) (absent : ¬∃ e ∈ entries, e.key = key) :
    (s.applySharedStateChange localeCompare
        (changeOf bucket key value false now context)).sharedStateEntries.Perm
      (entries ++ [⟨key, value, now⟩]) := by
  have missing : ¬∃ e ∈ s.sharedStateEntries, e.key = key := fun ⟨e, member, same⟩ =>
    absent ⟨e, perm.mem_iff.mp member, same⟩
  unfold applySharedStateChange changeOf
  simp only [expanded, decide_true, Bool.not_true, Bool.false_eq_true, if_false, if_true,
    find_absent missing, Option.isSome_none]
  exact (List.mergeSort_perm _ _).trans (perm.append_right _)

theorem entries_replaced (expanded : s.selectedSharedStateBucket = some bucket)
    (perm : s.sharedStateEntries.Perm entries) (present : ∃ e ∈ entries, e.key = key) :
    (s.applySharedStateChange localeCompare
        (changeOf bucket key value false now context)).sharedStateEntries.Perm
      (entries.map fun e => if e.key = key then ⟨key, value, now⟩ else e) := by
  have found : ∃ e ∈ s.sharedStateEntries, e.key = key :=
    let ⟨e, member, same⟩ := present
    ⟨e, perm.mem_iff.mpr member, same⟩
  obtain ⟨old, here⟩ := find_present found
  unfold applySharedStateChange changeOf
  simp only [expanded, decide_true, Bool.not_true, Bool.false_eq_true, if_false, if_true, here,
    Option.isSome_some]
  exact perm.map _

theorem entries_removed (expanded : s.selectedSharedStateBucket = some bucket)
    (perm : s.sharedStateEntries.Perm entries) :
    (s.applySharedStateChange localeCompare
        (changeOf bucket key value true now context)).sharedStateEntries.Perm
      (entries.filter fun e => e.key ≠ key) := by
  simp only [applySharedStateChange, changeOf, expanded, decide_true, Bool.not_true,
    Bool.false_eq_true, if_false, if_true]
  exact perm.filter _

end Changes

end SharedStateBrowser

/-! ## A step -/

namespace Browsing

open SharedStateStore (changeOf)

section Steps

variable {numbers : JsonText.NumberText} {localeCompare : String → String → Bool}
  {server : SharedStateStore} {page : SharedStateBrowser} {bucket key : String} {now : Nat}
  {context : Option SharedStateWriteContext}

/-- The entry of the expanded bucket is there when the row is. -/
theorem Base.present_iff (base : Base numbers ⟨server, page⟩)
    (expanded : page.selectedSharedStateBucket = some bucket) :
    (∃ e ∈ page.sharedStateEntries, e.key = key) ↔ server.rows.get (bucket, key) ≠ none := by
  rw [← server.mem_held_key (JsonText.parse numbers)]
  simp only [(base.expanded bucket expanded).mem_iff]

theorem Base.written {value : Json} (distinct : value.Distinct)
    (base : Base numbers ⟨server, page⟩) :
    Base numbers
      ⟨⟨server.rows.set (bucket, key) ⟨JsonText.stringify numbers value, now⟩⟩,
        page.applySharedStateChange localeCompare
          (changeOf bucket key (some value) false now context)⟩ := by
  have again := JsonText.parse_stringify numbers distinct
  obtain ⟨keyDelta, -, most, seen, buckets⟩ :=
    page.buckets_written localeCompare bucket key (some value) now context
  refine ⟨?_, ?_, ?_⟩
  · rw [buckets]
    exact SharedStateBrowser.nodup_bucketsAfter _ _ base.nodup
  · rw [buckets]
    refine SharedStateBrowser.counts_bucketsAfter base.counts ?_ ?_ fun _ => ?_
    · exact fun other differs => SharedStateStore.keyCount_elsewhere differs.symm
    · dsimp only
      cases current : server.rows.get (bucket, key) with
      | none =>
          rw [SharedStateStore.keyCount_created current, if_pos rfl]
          push_cast
          omega
      | some old =>
          have uncounted : keyDelta ≠ 1 := by
            intro counted
            obtain ⟨expanded, absent⟩ := seen counted
            rw [base.present_iff expanded, current] at absent
            exact absent (Option.some_ne_none old)
          rw [SharedStateStore.keyCount_replaced current]
          omega
    · exact SharedStateStore.keyCount_pos _ bucket key (by simp)
  · intro other expanded
    rw [SharedStateBrowser.selected_apply] at expanded
    have perm := base.expanded other expanded
    by_cases here : bucket = other
    · subst here
      cases current : server.rows.get (bucket, key) with
      | none =>
          rw [SharedStateStore.held_created _ current, if_pos rfl, again]
          refine SharedStateBrowser.entries_created expanded perm ?_
          rw [SharedStateStore.mem_held_key]
          exact not_not.mpr current
      | some old =>
          rw [SharedStateStore.held_replaced _ current, again]
          simp only [true_and]
          refine SharedStateBrowser.entries_replaced expanded perm ?_
          rw [SharedStateStore.mem_held_key, current]
          exact Option.some_ne_none old
    · have elsewhere : page.selectedSharedStateBucket ≠ some bucket := fun same =>
        here (Option.some.inj (same.symm.trans expanded))
      rw [SharedStateBrowser.entries_elsewhere elsewhere, SharedStateStore.held_elsewhere _ here]
      exact perm

theorem Base.removed {old : SharedStateRow} (current : server.rows.get (bucket, key) = some old)
    (base : Base numbers ⟨server, page⟩) :
    Base numbers
      ⟨⟨server.rows.delete (bucket, key)⟩,
        page.applySharedStateChange localeCompare
          (changeOf bucket key none true now context)⟩ := by
  have fewer := SharedStateStore.keyCount_removed current
  refine ⟨?_, ?_, ?_⟩
  · rw [SharedStateBrowser.buckets_removed]
    exact SharedStateBrowser.nodup_bucketsAfter _ _ base.nodup
  · rw [SharedStateBrowser.buckets_removed]
    refine SharedStateBrowser.counts_bucketsAfter base.counts ?_ ?_ (by simp)
    · intro other differs
      have same := fewer other
      rwa [if_neg differs.symm, Nat.add_zero] at same
    · have one := fewer bucket
      rw [if_pos rfl] at one
      dsimp only
      omega
  · intro other expanded
    rw [SharedStateBrowser.selected_apply] at expanded
    have perm := base.expanded other expanded
    rw [SharedStateStore.held_removed]
    by_cases here : bucket = other
    · subst here
      refine (SharedStateBrowser.entries_removed expanded perm).trans ?_
      simp
    · have elsewhere : page.selectedSharedStateBucket ≠ some bucket := fun same =>
        here (Option.some.inj (same.symm.trans expanded))
      rw [SharedStateBrowser.entries_elsewhere elsewhere]
      simpa [here] using perm

/-- What is listed is there. -/
theorem Base.listed {s : Browsing} (base : Base numbers s) :
    ∀ b ∈ s.page.sharedStateBuckets, 0 < s.server.keyCount b.bucket := fun b member =>
  (base.counts b member).1.trans_le (base.counts b member).2

/-- So all that can be missing is a bucket. -/
theorem Base.shown_iff {s : Browsing} (base : Base numbers s) :
    Shown numbers s ↔ ∀ bucket, 0 < s.server.keyCount bucket →
      ∃ b ∈ s.page.sharedStateBuckets, b.bucket = bucket := by
  refine ⟨Shown.live, fun live => ⟨live, base.listed, fun bucket expanded => ?_⟩⟩
  exact (base.expanded bucket expanded).trans (SharedStateStore.listBucket_perm _ _ _).symm

/-- A step does nothing to either side, or it is a write, a removal or an expansion. -/
theorem step_cases (numbers : JsonText.NumberText) (localeCompare : String → String → Bool)
    (s : Browsing) (event : BrowsingEvent) :
    (step numbers localeCompare s event = s ∧ Spared s event) ∨
      (∃ (value : Json) (bucket key : String) (now : Nat)
          (context : Option SharedStateWriteContext), value.Distinct ∧ Spared s event ∧
        step numbers localeCompare s event =
          ⟨⟨s.server.rows.set (bucket, key) ⟨JsonText.stringify numbers value, now⟩⟩,
            s.page.applySharedStateChange localeCompare
              (changeOf bucket key (some value) false now context)⟩) ∨
      (∃ (bucket key : String) (now : Nat) (context : Option SharedStateWriteContext)
          (row : SharedStateRow), s.server.rows.get (bucket, key) = some row ∧
        (Spared s event ↔ ∀ b ∈ s.page.sharedStateBuckets, b.bucket = bucket →
          b.keyCount = 1 → s.server.keyCount bucket = 1) ∧
        step numbers localeCompare s event =
          ⟨⟨s.server.rows.delete (bucket, key)⟩,
            s.page.applySharedStateChange localeCompare
              (changeOf bucket key none true now context)⟩) ∨
      ∃ name, event = .expand name := by
  cases event with
  | expand name => exact .inr (.inr (.inr ⟨name, rfl⟩))
  | call call =>
      obtain ⟨call, values⟩ := call
      obtain ⟨still, silent, absent⟩ | ⟨bucket, key, value, context, now, rfl, moved, told⟩ |
          ⟨bucket, key, context, now, row, rfl, current, moved, told⟩ :=
        s.server.perform_cases (JsonText.stringify numbers) call
      · refine .inl ⟨by simp [step, still, silent], fun bucket key context now same present => ?_⟩
        exact absurd (absent bucket key context now same) present
      · refine .inr (.inl ⟨value, bucket, key, now, context, values _ _ _ _ _ rfl, ?_, ?_⟩)
        · intro _ _ _ _ same
          cases same
        · simp [step, moved, told]
      · refine .inr (.inr (.inl ⟨bucket, key, now, context, row, current, ?_, ?_⟩))
        · constructor
          · exact fun spared => spared bucket key context now rfl (by simp [current])
          · rintro spared _ _ _ _ same -
            cases same
            exact spared
        · simp [step, moved, told]

theorem base_step (s : Browsing) (event : BrowsingEvent) (base : Base numbers s) :
    Base numbers (step numbers localeCompare s event) := by
  obtain ⟨same, -⟩ | ⟨value, bucket, key, now, context, distinct, -, same⟩ |
      ⟨bucket, key, now, context, row, current, -, same⟩ | ⟨name, rfl⟩ :=
    step_cases numbers localeCompare s event
  · rwa [same]
  · rw [same]
    exact base.written distinct
  · rw [same]
    exact base.removed current
  · cases name with
    | none => exact ⟨base.nodup, base.counts, fun bucket expanded => by cases expanded⟩
    | some name =>
        refine ⟨base.nodup, base.counts, fun bucket expanded => ?_⟩
        obtain rfl : name = bucket := Option.some.inj expanded
        exact SharedStateStore.listBucket_perm _ _ _

/-- A bucket goes missing exactly when it is taken from the list too early. -/
theorem shown_step (s : Browsing) (event : BrowsingEvent) (base : Base numbers s)
    (shown : Shown numbers s) :
    Spared s event ↔ Shown numbers (step numbers localeCompare s event) := by
  have base' : Base numbers (step numbers localeCompare s event) := base_step s event base
  have positive : ∀ b ∈ s.page.sharedStateBuckets, 0 < b.keyCount := fun b member =>
    (base.counts b member).1
  obtain ⟨same, spared⟩ | ⟨value, bucket, key, now, context, distinct, spared, same⟩ |
      ⟨bucket, key, now, context, row, current, spared, same⟩ | ⟨name, rfl⟩ :=
    step_cases numbers localeCompare s event
  · rw [same]
    exact iff_of_true spared shown
  · refine iff_of_true spared (base'.shown_iff.mpr ?_)
    obtain ⟨keyDelta, upward, -, -, buckets⟩ :=
      s.page.buckets_written localeCompare bucket key (some value) now context
    rw [same]
    dsimp only
    rw [buckets]
    intro other live
    by_cases here : other = bucket
    · rw [here]
      exact SharedStateBrowser.listed_written upward positive
    · rw [SharedStateStore.keyCount_elsewhere (Ne.symm here)] at live
      exact SharedStateBrowser.listed_other here positive (shown.live other live)
  · rw [spared, base'.shown_iff, same]
    dsimp only
    rw [SharedStateBrowser.buckets_removed]
    have fewer := SharedStateStore.keyCount_removed current
    have one := fewer bucket
    rw [if_pos rfl] at one
    constructor
    · intro guard other live
      by_cases here : other = bucket
      · subst here
        rw [SharedStateBrowser.listed_removed]
        obtain ⟨b, member, named⟩ := shown.live other (by omega)
        refine ⟨b, member, named, ?_⟩
        have some := positive b member
        have last := guard b member named
        omega
      · have same := fewer other
        rw [if_neg (Ne.symm here), Nat.add_zero] at same
        exact SharedStateBrowser.listed_other here positive (shown.live other (same ▸ live))
    · intro live b member named last
      by_contra more
      have held : 0 < SharedStateStore.keyCount ⟨s.server.rows.delete (bucket, key)⟩ bucket := by
        omega
      obtain ⟨b', member', named', many⟩ := SharedStateBrowser.listed_removed.mp (live bucket held)
      have unique : b' = b := List.inj_on_of_nodup_map base.nodup member' member
        (named'.trans named.symm)
      rw [unique, last] at many
      exact absurd many (lt_irrefl 1)
  · refine iff_of_true trivial (base'.shown_iff.mpr ?_)
    cases name <;> exact shown.live

end Steps

/-! ## Runs -/

theorem base_fresh (numbers : JsonText.NumberText) (server : SharedStateStore)
    (expanded : Option String) : Base numbers (fresh numbers server expanded) where
  nodup := server.nodup_listBuckets
  counts b member := by
    obtain ⟨count, positive⟩ := (server.mem_listBuckets b).mp member
    exact ⟨positive, count.le⟩
  expanded bucket selected := by
    obtain rfl : expanded = some bucket := selected
    exact SharedStateStore.listBucket_perm _ _ _

theorem shown_fresh (numbers : JsonText.NumberText) (server : SharedStateStore)
    (expanded : Option String) : Shown numbers (fresh numbers server expanded) :=
  (base_fresh numbers server expanded).shown_iff.mpr fun bucket live =>
    ⟨⟨bucket, server.keyCount bucket⟩, (server.mem_listBuckets _).mpr ⟨rfl, live⟩, rfl⟩

/-- **The browser never hides live data** in exactly the runs where no bucket is taken from the
list too early. -/
theorem never_hides_iff (numbers : JsonText.NumberText) (localeCompare : String → String → Bool)
    (server : SharedStateStore) (expanded : Option String) (events : List BrowsingEvent) :
    (∀ p, p <+: events →
        Shown numbers (run (step numbers localeCompare) (fresh numbers server expanded) p)) ↔
      Along (step numbers localeCompare) Spared (fresh numbers server expanded) events :=
  invariant_iff_along (Base numbers) (Shown numbers) Spared base_step shown_step
    (base_fresh numbers server expanded) (shown_fresh numbers server expanded) events

/-- A bucket with one key. -/
def lampStore : SharedStateStore where
  rows := OrderedMap.empty.set ("lamps", "hall") ⟨"true", 0⟩

/-- Another key is written, and the first one is removed. -/
def lampCalls : List BrowsingEvent :=
  [.call ⟨.set "lamps" "porch" (some (.bool true)) none 1, fun _ _ _ _ _ same => by
      cases same
      exact .bool true⟩,
    .call ⟨.delete "lamps" "hall" none 2, fun _ _ _ _ _ same => by cases same⟩]

/-- The bucket is gone from the page, and the second key is on the server. -/
theorem lamps_hidden :
    ¬Shown JsonText.wholeNumbers
      (run (step JsonText.wholeNumbers (· ≤ ·)) (fresh JsonText.wholeNumbers lampStore none)
        lampCalls) := by
  intro shown
  have listed : lampStore.listBuckets = [⟨"lamps", 1⟩] := by
    have names : (lampStore.rows.entries.map (·.1.1)).dedup = ["lamps"] := by decide
    rw [SharedStateStore.listBuckets, names, List.mergeSort_singleton]
    decide
  have start : fresh JsonText.wholeNumbers lampStore none =
      ⟨lampStore, { sharedStateBuckets := [⟨"lamps", 1⟩] }⟩ := by
    rw [fresh, listed]
    rfl
  rw [start] at shown
  obtain ⟨b, member, -⟩ := shown.live "lamps" (by decide +kernel)
  have gone : (run (step JsonText.wholeNumbers (· ≤ ·))
      ⟨lampStore, { sharedStateBuckets := [⟨"lamps", 1⟩] }⟩ lampCalls).page.sharedStateBuckets =
        [] := by decide +kernel
  rw [gone] at member
  cases member

end Browsing

end Aeolus.Frontend
