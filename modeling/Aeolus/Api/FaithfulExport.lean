/-
# Aeolus.Api.FaithfulExport — when the exported text is the collection

Whatever was written, the export is read back as the stored table exactly when the collection
is `Exportable`.  Cells are quoted for a comma, a quote or a `\n` and not for a `\r`, which ends
a record for a reader; so a name or value with a `\r` has to have one of the others as well.  The
rest is about rows that are not sent, columns that a record does not have, and requests that
fail.

* `csvText_letters` — the export writes the table that it reads, quoting by `needsQuotes`;
* `parse_readTable` — and is read back when no bare cell has a `\r`;
* `export_faithful_iff` — over every run of writes;
* `broken_note` — the pole: a note of two lines makes two records.
-/
import Aeolus.Api.CollectionExport

namespace Aeolus.Api

open Aeolus.Core Aeolus.Storage Aeolus.Theory

/-! ## Contents that writes lead to -/

inductive StoreAction where
  | write (now : ℤ) (call : WriteCall)
  | configure (config : DataStoreConfig)

def act (writes : WritePlatform) (s : CollectionStore) : StoreAction → CollectionStore
  | .write now call => (CollectionStore.write writes now call s).2
  | .configure config => { s with config }

def run (writes : WritePlatform) (config : DataStoreConfig) (actions : List StoreAction) :
    CollectionStore :=
  actions.foldl (act writes) { config }

/-- Every row is of a collection that is known, and has tags. -/
def Kept (s : CollectionStore) : Prop :=
  ∀ r ∈ s.rows, r.collection ∈ s.collections ∧ isNull r.tags = false

section Runs

open CollectionStore

variable {s t : CollectionStore}

theorem Kept.of_rows (kept : Kept s) (rows : t.rows ⊆ s.rows)
    (collections : s.collections ⊆ t.collections) : Kept t := by
  intro r member
  obtain ⟨known, tagged⟩ := kept r (rows member)
  exact ⟨collections known, tagged⟩

theorem rows_evictGlobal_subset (s : CollectionStore) : s.evictGlobal.rows ⊆ s.rows := by
  unfold evictGlobal
  dsimp only
  split
  · exact List.filter_sublist.subset
  · exact List.Subset.refl _

theorem rows_evictCollection_subset (collection : String) (s : CollectionStore) :
    (s.evictCollection collection).rows ⊆ s.rows := by
  unfold evictCollection
  dsimp only
  split
  · exact List.filter_sublist.subset
  · exact List.Subset.refl _

theorem created_known (collection : String) (s : CollectionStore) :
    s.collections ⊆ (s.created collection).collections ∧
      collection ∈ (s.created collection).collections ∧
      (s.created collection).rows = s.rows := by
  unfold created
  split
  · rename_i there
    exact ⟨List.Subset.refl _, there, rfl⟩
  · exact ⟨List.subset_append_left _ _, by simp, rfl⟩

/-- Tags are never `null`. -/
theorem tagged_of_rowValues {writes : WritePlatform} {now : ℤ} {call : WriteCall}
    {payloadJson : Option Json} {values : Json × Json × SqlValue}
    (made : rowValues writes now call payloadJson = .ok values) : isNull values.2.1 = false := by
  have given : ∀ tags, stringify (tagsOf call) = .ok (some tags) → isNull tags = false := by
    intro tags text
    unfold tagsOf at text
    cases given : call.tags with
    | none =>
        rw [given] at text
        cases text
        rfl
    | some value =>
        rw [given] at text
        cases value with
        | json value => cases value <;> cases text <;> rfl
        | textless => cases text
        | unserializable message => cases text
  unfold rowValues at made
  split at made
  · cases made
  · rename_i tagsJson text
    split at made
    · cases made
    · split at made
      · cases made
      · cases made
      · cases made
      · cases made
        exact given _ text
    · cases made

theorem kept_write {writes : WritePlatform} {now : ℤ} {call : WriteCall} (kept : Kept s) :
    Kept (CollectionStore.write writes now call s).2 := by
  have evicted : Kept s.evictGlobal :=
    kept.of_rows (rows_evictGlobal_subset s) (by simp)
  cases accepted : accept s.config call with
  | error e =>
      rw [write_refused writes now call accepted]
      exact kept
  | ok payloadJson =>
      by_cases limit : s.AtCollectionLimit call.collection
      · obtain ⟨e, refused⟩ := write_at_limit writes now call accepted limit
        rw [refused]
        exact evicted
      · obtain ⟨known, there, rows⟩ := created_known call.collection s.evictGlobal
        have made : Kept ((s.evictGlobal.created call.collection).evictCollection
            call.collection) := by
          apply evicted.of_rows
          · intro r member
            rw [← rows]
            exact rows_evictCollection_subset _ _ member
          · rw [collections_evictCollection]
            exact known
        rw [write_below_limit writes now call accepted limit]
        cases values : rowValues writes now call payloadJson with
        | error e => exact made
        | ok values' =>
            change Kept (insert call.collection values' _)
            intro r member
            rcases List.mem_append.mp member with before | new
            · exact made r before
            · rw [List.mem_singleton.mp new]
              refine ⟨?_, tagged_of_rowValues values⟩
              change call.collection ∈ (CollectionStore.evictCollection _ _).collections
              rw [collections_evictCollection]
              exact there

theorem kept_run (writes : WritePlatform) (config : DataStoreConfig)
    (actions : List StoreAction) : Kept (run writes config actions) := by
  have along : ∀ (actions : List StoreAction) (s : CollectionStore), Kept s →
      Kept (actions.foldl (act writes) s) := by
    intro actions
    induction actions with
    | nil => exact fun s kept => kept
    | cons action actions ih =>
        intro s kept
        apply ih
        cases action with
        | write now call => exact kept_write kept
        | configure config => exact kept.of_rows (List.Subset.refl _) (List.Subset.refl _)
  apply along
  intro r member
  cases member

end Runs

/-! ## Cells and rows as they are written -/

/-- A text with a `\r` is one that gets quotes. -/
def Quoted (text : String) : Prop := '\r' ∈ text.toList → needsQuotes text.toList = true

theorem needsQuotes_complete (field : List Char) (bare : needsQuotes field = false) :
    Csv.Plain field := by
  unfold needsQuotes at bare
  simp only [Bool.or_eq_false_iff, decide_eq_false_iff_not] at bare
  intro c member
  refine ⟨?_, ?_, ?_⟩
  · rintro rfl
    exact bare.1.1 member
  · rintro rfl
    exact bare.1.2 member
  · rintro rfl
    exact bare.2 member

theorem quoted_neutralised (text : String) : Quoted (neutralised text) ↔ Quoted text := by
  unfold neutralised
  split
  · have spelled : ("'" ++ text).toList = '\'' :: text.toList := by simp
    unfold Quoted needsQuotes
    rw [spelled]
    simp
  · rfl

theorem quoted_tag (tag : String) : Quoted ("tag:" ++ tag) ↔ Quoted tag := by
  have spelled : ("tag:" ++ tag).toList = 't' :: 'a' :: 'g' :: ':' :: tag.toList := by simp
  unfold Quoted needsQuotes
  rw [spelled]
  simp

theorem neutralised_eq_empty {text : String} (empty : neutralised text = "") : text = "" := by
  unfold neutralised at empty
  split at empty
  · have spelled := congrArg String.toList empty
    simp at spelled
  · exact empty

theorem not_beginsFormula (text : String) : beginsFormula (neutralised text) = false := by
  unfold neutralised
  split
  · have spelled : ("'" ++ text).toList = '\'' :: text.toList := by simp
    unfold beginsFormula
    rw [spelled]
    simp
  · rename_i plain
    exact Bool.eq_false_iff.mpr plain

theorem escape_letters (value : Option String) :
    (escapeCsvValue value).toList =
      Csv.cell needsQuotes (neutralised (value.getD "")).toList := by
  unfold escapeCsvValue Csv.cell
  cases value with
  | none => decide
  | some text =>
      dsimp only
      rw [Option.getD_some]
      split
      · rw [String.toList_ofList]
      · rfl

section Rows

variable (platform : ExportPlatform) {now : ℤ}

/-- The text of a number has nothing to quote. -/
theorem timestamp_plain {time : SqlValue} (past : notAfter now time = true) :
    needsQuotes (timestampText platform time).toList = false ∧
      '\r' ∉ (timestampText platform time).toList := by
  have number : ∀ value : ℚ, needsQuotes (platform.numberText value).toList = false ∧
      '\r' ∉ (platform.numberText value).toList := by
    intro value
    have plain := platform.numberText_plain value
    unfold needsQuotes
    simp only [Bool.or_eq_false_iff, decide_eq_false_iff_not]
    refine ⟨⟨⟨?_, ?_⟩, ?_⟩, ?_⟩
    · intro member
      exact (plain _ member).1 rfl
    · intro member
      exact (plain _ member).2.1 rfl
    · intro member
      exact (plain _ member).2.2.1 rfl
    · intro member
      exact (plain _ member).2.2.2 rfl
  cases time with
  | null => cases past
  | integer value => exact number value
  | real value => exact number value
  | text value => cases past

theorem intercalate_lines (separator : Char) (first : List Char) (rest : List (List Char)) :
    [separator].intercalate (first :: rest) ++ [separator] =
      (first :: rest).flatMap (· ++ [separator]) := by
  induction rest generalizing first with
  | nil => simp
  | cons next rest ih =>
      have behind := ih next
      rw [List.intercalate_cons_cons, List.append_assoc, List.append_assoc, behind]
      simp

/-- The cells of a line, joined. -/
theorem joined_letters (cells fields : List String)
    (written : cells.map String.toList = (fields.map String.toList).map (Csv.cell needsQuotes)) :
    (",".intercalate cells).toList ++ ['\n'] =
      Csv.line needsQuotes (fields.map String.toList) := by
  unfold Csv.line
  rw [String.toList_intercalate, written]
  rfl

/-- **The text of an export.**  It is the table that it reads, as a writer writes it. -/
theorem csvText_letters {records : List StoredRow}
    (past : ∀ r ∈ records, notAfter now r.timestamp = true) :
    (csvText platform records).toList =
      Csv.write needsQuotes (letters (readTable platform records)) := by
  have header : (",".intercalate ((headers records).map fun header =>
      escapeCsvValue (some header))).toList ++ ['\n'] =
        Csv.line needsQuotes (((headers records).map neutralised).map String.toList) := by
    apply joined_letters
    simp [escape_letters]
  have rows : ∀ r ∈ records, (",".intercalate (csvRow platform records r)).toList ++ ['\n'] =
      Csv.line needsQuotes ((timestampText platform r.timestamp ::
        ((columns StoredRow.payload records).map
            (fun f => neutralised ((propertyText platform r.payload f).getD "")) ++
          (columns StoredRow.tags records).map
            (fun t => neutralised ((propertyText platform r.tags t).getD "")))).map
              String.toList) := by
    intro r member
    have bare := (timestamp_plain platform (past r member)).1
    apply joined_letters
    simp [csvRow, escape_letters, Csv.cell, bare, Function.comp_def]
  have newline : "\n".toList = ['\n'] := rfl
  unfold csvText Csv.write letters readTable tableOf
  rw [String.toList_append, String.toList_intercalate, List.map_cons, newline, intercalate_lines,
    List.flatMap_cons, header, List.map_cons, List.flatMap_cons, List.map_map, List.map_map,
    List.flatMap_map, List.flatMap_map, List.flatMap_map]
  congr 1
  apply List.flatMap_congr
  exact rows

end Rows

/-! ## What is in a table -/

section Tables

variable (platform : ExportPlatform)

theorem mem_columns {part : StoredRow → Json} {records : List StoredRow} {key : String} :
    key ∈ columns part records ↔ ∃ r ∈ records, key ∈ objectKeys (part r) := by
  unfold columns
  rw [List.mem_eraseDups, List.mem_flatMap]

/-- The cells of a table: those of its header and those of its rows. -/
theorem tableOf_forall (P : String → Prop) (text : Json → String → Option String)
    (records : List StoredRow) :
    (∀ fields ∈ tableOf platform text records, ∀ field ∈ fields, P field) ↔
      (P (neutralised "timestamp") ∧
        (∀ f ∈ columns StoredRow.payload records, P (neutralised f)) ∧
        ∀ t ∈ columns StoredRow.tags records, P (neutralised ("tag:" ++ t))) ∧
      ∀ r ∈ records, P (timestampText platform r.timestamp) ∧
        (∀ f ∈ columns StoredRow.payload records, P (neutralised ((text r.payload f).getD ""))) ∧
        ∀ t ∈ columns StoredRow.tags records, P (neutralised ((text r.tags t).getD "")) := by
  simp only [tableOf, headers, List.forall_mem_cons, List.forall_mem_map, List.forall_mem_append,
    List.map_cons, List.map_append]

theorem tableOf_width (text : Json → String → Option String) (records : List StoredRow) :
    ∀ fields ∈ tableOf platform text records, fields.length = (headers records).length := by
  unfold tableOf
  rw [List.forall_mem_cons, List.forall_mem_map]
  refine ⟨List.length_map _, ?_⟩
  intro r member
  simp [headers]

theorem tableOf_inert (text : Json → String → Option String) (records : List StoredRow) :
    ∀ fields ∈ tableOf platform text records, ∀ field ∈ fields.tail,
      beginsFormula field = false := by
  unfold tableOf
  rw [List.forall_mem_cons, List.forall_mem_map]
  constructor
  · simp only [headers, List.map_cons, List.map_append, List.tail_cons, List.forall_mem_append,
      List.forall_mem_map]
    exact ⟨fun f _ => not_beginsFormula f, fun t _ => not_beginsFormula _⟩
  · intro r member
    simp only [List.tail_cons, List.forall_mem_append, List.forall_mem_map]
    exact ⟨fun f _ => not_beginsFormula _, fun t _ => not_beginsFormula _⟩

/-- Two readings give one table when they give the same cells. -/
theorem tableOf_eq_iff (text text' : Json → String → Option String) (records : List StoredRow) :
    tableOf platform text records = tableOf platform text' records ↔ ∀ r ∈ records,
      (∀ f ∈ columns StoredRow.payload records, neutralised ((text r.payload f).getD "") =
        neutralised ((text' r.payload f).getD "")) ∧
      ∀ t ∈ columns StoredRow.tags records, neutralised ((text r.tags t).getD "") =
        neutralised ((text' r.tags t).getD "") := by
  unfold tableOf
  rw [List.cons.injEq, eq_self, true_and, List.map_inj_left]
  apply forall₂_congr
  intro r member
  rw [List.cons.injEq, eq_self, true_and, ← List.map_inj_left, ← List.map_inj_left]
  constructor
  · intro same
    exact List.append_inj same (by rw [List.length_map, List.length_map])
  · rintro ⟨payload, tags⟩
    rw [payload, tags]

theorem letters_forall {P : List Char → Prop} {table : List (List String)} :
    (∀ fields ∈ letters table, ∀ field ∈ fields, P field) ↔
      ∀ fields ∈ table, ∀ field ∈ fields, P field.toList := by
  simp only [letters, List.forall_mem_map]

theorem letters_nonempty (text : Json → String → Option String) (records : List StoredRow) :
    ∀ fields ∈ letters (tableOf platform text records), fields ≠ [] := by
  simp [letters, tableOf, headers]

end Tables

/-! ## Cells of a part -/

section Parts

variable (platform : ExportPlatform)

/-- The names and values of a payload, or of tags, that the export can show. -/
structure PartExportable (part : StoredRow → Json) (rows : List StoredRow) : Prop where
  /-- where there is a `\r`, there is something that gets quotes -/
  quoted : ∀ r ∈ rows, ∀ key ∈ objectKeys (part r),
    Quoted key ∧ ∀ text, storedText platform (part r) key = some text → Quoted text
  /-- nothing is inherited under another record's name -/
  own : ∀ r ∈ rows, ∀ other ∈ rows, ∀ key ∈ objectKeys (part other),
    key ∉ objectKeys (part r) → platform.hiddenText (part r) key = none

theorem storedText_of_absent {value : Json} {key : String} (absent : key ∉ objectKeys value) :
    storedText platform value key = none := by
  unfold storedText
  have none : (ownProperties value).find? (fun property => property.1 == key) = none := by
    rw [List.find?_eq_none]
    intro property member
    rw [beq_iff_eq]
    rintro rfl
    exact absent (List.mem_map_of_mem member)
  rw [none]
  rfl

theorem propertyText_own {value : Json} {key : String} (present : key ∈ objectKeys value) :
    propertyText platform value key = storedText platform value key := if_pos present

theorem propertyText_hidden {value : Json} {key : String} (absent : key ∉ objectKeys value) :
    propertyText platform value key = platform.hiddenText value key := if_neg absent

/-- What is not the record's own shows, unless there is nothing. -/
theorem cell_eq_iff (value : Json) (key : String) :
    neutralised ((propertyText platform value key).getD "") =
        neutralised ((storedText platform value key).getD "") ↔
      (key ∉ objectKeys value → platform.hiddenText value key = none) := by
  by_cases present : key ∈ objectKeys value
  · rw [propertyText_own platform present]
    simp [present]
  · rw [propertyText_hidden platform present, storedText_of_absent platform present]
    cases hidden : platform.hiddenText value key with
    | none => simp
    | some text =>
        have shown := (platform.hiddenText_some _ _ _ hidden).1
        simp only [Option.getD_some, Option.getD_none, reduceCtorEq, imp_false, not_not, present,
          iff_false]
        intro same
        apply shown
        apply neutralised_eq_empty
        rw [same]
        rfl

theorem quoted_property {value : Json} {key : String}
    (stored : key ∈ objectKeys value → Quoted ((storedText platform value key).getD "")) :
    Quoted ((propertyText platform value key).getD "") := by
  by_cases present : key ∈ objectKeys value
  · rw [propertyText_own platform present]
    exact stored present
  · rw [propertyText_hidden platform present]
    intro returned
    cases hidden : platform.hiddenText value key with
    | none =>
        rw [hidden] at returned
        cases returned
    | some text =>
        rw [hidden] at returned
        exact absurd returned (platform.hiddenText_some _ _ _ hidden).2

end Parts

/-! ## Faithful exports -/

section Faithful

variable (platform : ExportPlatform) (s : CollectionStore) (name : String) (now : ℤ)

/-- The request returns a text, which is read as the stored table: a header and a row for each
record, all as wide, and nothing in them begins a formula but a time. -/
def Faithful : Prop :=
  ∃ csv table, exportCollection platform s name now = .ok csv ∧
    Csv.parse csv.toList = some (letters table) ∧
    table = storedTable platform (platform.newestFirst (s.inCollection name)) ∧
    (∀ fields ∈ table, ∀ others ∈ table, fields.length = others.length) ∧
    ∀ fields ∈ table, ∀ field ∈ fields.tail, beginsFormula field = false

structure Exportable : Prop where
  named : name ≠ ""
  header : name.toList.all headerCharacter = true
  past : ∀ r ∈ s.inCollection name, notAfter now r.timestamp = true
  objects : ∀ r ∈ s.inCollection name, isNull r.payload = false
  payloads : PartExportable platform StoredRow.payload (s.inCollection name)
  tags : PartExportable platform StoredRow.tags (s.inCollection name)

variable {platform s name now}

theorem faithful_iff :
    Faithful platform s name now ↔ ∃ csv, exportCollection platform s name now = .ok csv ∧
      Csv.parse csv.toList =
        some (letters (storedTable platform (platform.newestFirst (s.inCollection name)))) := by
  constructor
  · rintro ⟨csv, table, sent, parsed, rfl, -⟩
    exact ⟨csv, sent, parsed⟩
  · rintro ⟨csv, sent, parsed⟩
    refine ⟨csv, _, sent, parsed, rfl, ?_, tableOf_inert _ _ _⟩
    intro fields listed others listed'
    rw [tableOf_width _ _ _ fields listed, tableOf_width _ _ _ others listed']

theorem csvText_nil : csvText platform [] = "timestamp\n" := rfl

theorem sendCsv_ok_iff (text csv : String) :
    sendCsv name text = .ok csv ↔ name.toList.all headerCharacter = true ∧ csv = text := by
  unfold sendCsv
  split
  · rename_i valid
    rw [Except.ok.injEq]
    exact ⟨fun same => ⟨valid, same.symm⟩, fun both => both.2.symm⟩
  · rename_i invalid
    exact iff_of_false (fun sent => by cases sent) fun both => invalid both.1

theorem exportCollection_ok_iff (csv : String) :
    exportCollection platform s name now = .ok csv ↔
      name ≠ "" ∧ name.toList.all headerCharacter = true ∧
        (∀ r ∈ queryAll platform s name now, isNull r.payload = false ∧ isNull r.tags = false) ∧
        csv = csvText platform (queryAll platform s name now) := by
  unfold exportCollection
  dsimp only
  by_cases unnamed : name = ""
  · rw [if_pos unnamed]
    exact iff_of_false (fun sent => by cases sent) fun all => all.1 unnamed
  · rw [if_neg unnamed]
    by_cases nothing : queryAll platform s name now = []
    · rw [nothing, List.isEmpty_nil, if_pos rfl, sendCsv_ok_iff, csvText_nil]
      simp [unnamed]
    · rw [if_neg (by rwa [List.isEmpty_iff])]
      by_cases nulls : (queryAll platform s name now).any
          (fun r => isNull r.payload || isNull r.tags) = true
      · rw [if_pos nulls]
        refine iff_of_false (fun sent => by cases sent) ?_
        rintro ⟨-, -, objects, -⟩
        obtain ⟨r, member, null⟩ := List.any_eq_true.mp nulls
        rw [(objects r member).1, (objects r member).2] at null
        cases null
      · have objects : ∀ r ∈ queryAll platform s name now,
            isNull r.payload = false ∧ isNull r.tags = false := by
          intro r member
          rw [← Bool.or_eq_false_iff, ← Bool.not_eq_true]
          intro null
          exact nulls (List.any_eq_true.mpr ⟨r, member, null⟩)
        rw [if_neg nulls, sendCsv_ok_iff]
        exact ⟨fun both => ⟨unnamed, both.1, objects, both.2⟩, fun all => ⟨all.2.1, all.2.2.2⟩⟩

theorem mem_queryAll {r : StoredRow} (member : r ∈ queryAll platform s name now) :
    r ∈ s.inCollection name ∧ notAfter now r.timestamp = true := by
  unfold queryAll at member
  split at member
  · exact List.mem_filter.mp ((platform.newestFirst_perm _).mem_iff.mp member)
  · cases member

theorem inCollection_of_unknown (kept : Kept s) (unknown : name ∉ s.collections) :
    s.inCollection name = [] := by
  apply List.filter_eq_nil_iff.mpr
  intro r member same
  apply unknown
  rw [← of_decide_eq_true same]
  exact (kept r member).1

/-- When no record lies ahead, the query returns the collection. -/
theorem queryAll_eq (kept : Kept s) (past : ∀ r ∈ s.inCollection name,
    notAfter now r.timestamp = true) :
    queryAll platform s name now = platform.newestFirst (s.inCollection name) := by
  unfold queryAll
  split
  · rw [List.filter_eq_self.mpr past]
  · rename_i unknown
    rw [inCollection_of_unknown kept unknown]
    exact (platform.newestFirst_perm []).eq_nil.symm

/-- As many records as the collection has: none lies ahead. -/
theorem past_of_length (kept : Kept s)
    (length : (queryAll platform s name now).length = (s.inCollection name).length) :
    ∀ r ∈ s.inCollection name, notAfter now r.timestamp = true := by
  unfold queryAll at length
  split at length
  · rw [(platform.newestFirst_perm _).length_eq] at length
    exact List.length_filter_eq_length_iff.mp length
  · rename_i unknown
    rw [inCollection_of_unknown kept unknown]
    simp

/-- Reading shows what is stored where nothing is inherited. -/
theorem readTable_eq_iff (records : List StoredRow) :
    readTable platform records = storedTable platform records ↔ ∀ r ∈ records,
      (∀ f ∈ columns StoredRow.payload records, f ∉ objectKeys r.payload →
        platform.hiddenText r.payload f = none) ∧
      ∀ t ∈ columns StoredRow.tags records, t ∉ objectKeys r.tags →
        platform.hiddenText r.tags t = none := by
  unfold readTable storedTable
  simp only [tableOf_eq_iff, cell_eq_iff]

/-- Names and values of a part, by the cells that show them. -/
theorem part_quoted_iff (part : StoredRow → Json) (records : List StoredRow) :
    (∀ r ∈ records, ∀ key ∈ objectKeys (part r), Quoted key ∧
      ∀ text, storedText platform (part r) key = some text → Quoted text) ↔
    (∀ key ∈ columns part records, Quoted key) ∧ ∀ r ∈ records, ∀ key ∈ columns part records,
      Quoted ((storedText platform (part r) key).getD "") := by
  constructor
  · intro quoted
    constructor
    · intro key listed
      obtain ⟨r, member, present⟩ := mem_columns.mp listed
      exact (quoted r member key present).1
    · intro r member key _
      cases shown : storedText platform (part r) key with
      | none =>
          intro returned
          cases returned
      | some text =>
          have present : key ∈ objectKeys (part r) := by
            by_contra absent
            rw [storedText_of_absent platform absent] at shown
            cases shown
          exact (quoted r member key present).2 text shown
  · rintro ⟨names, cells⟩ r member key present
    have listed := mem_columns.mpr ⟨r, member, present⟩
    refine ⟨names key listed, ?_⟩
    intro text shown
    have cell := cells r member key listed
    rwa [shown] at cell

/-- No cell has a bare `\r`. -/
theorem table_quoted_iff (text : Json → String → Option String) (records : List StoredRow) :
    (∀ fields ∈ tableOf platform text records, ∀ field ∈ fields, Quoted field) ↔
      ((∀ f ∈ columns StoredRow.payload records, Quoted f) ∧
        ∀ t ∈ columns StoredRow.tags records, Quoted t) ∧
      ∀ r ∈ records, Quoted (timestampText platform r.timestamp) ∧
        (∀ f ∈ columns StoredRow.payload records, Quoted ((text r.payload f).getD "")) ∧
        ∀ t ∈ columns StoredRow.tags records, Quoted ((text r.tags t).getD "") := by
  have first : Quoted "timestamp" := by
    unfold Quoted
    decide
  rw [tableOf_forall]
  simp only [quoted_neutralised, quoted_tag, first, true_and]

/-- **What is read back** of the text is the table that the export read. -/
theorem parse_readTable {records : List StoredRow}
    (past : ∀ r ∈ records, notAfter now r.timestamp = true)
    (quoted : ∀ fields ∈ readTable platform records, ∀ field ∈ fields, Quoted field) :
    Csv.parse (csvText platform records).toList = some (letters (readTable platform records)) := by
  rw [csvText_letters platform past]
  apply Csv.parse_write needsQuotes_complete (letters_nonempty _ _ _)
  exact letters_forall.mpr quoted

/-- Whatever is read back, its cells are quoted. -/
theorem quoted_of_parse {records : List StoredRow} {table : List (List String)}
    (past : ∀ r ∈ records, notAfter now r.timestamp = true)
    (parsed : Csv.parse (csvText platform records).toList = some (letters table)) :
    ∀ fields ∈ table, ∀ field ∈ fields, Quoted field := by
  rw [csvText_letters platform past] at parsed
  have kept := Csv.quotes_of_parse needsQuotes_complete (letters_nonempty _ _ _) parsed
  exact letters_forall.mp kept

/-- What is read of some records has no bare `\r` when what is stored of more has none. -/
theorem readTable_quoted {records more : List StoredRow} (within : records ⊆ more)
    (past : ∀ r ∈ records, notAfter now r.timestamp = true)
    (stored : ∀ fields ∈ storedTable platform more, ∀ field ∈ fields, Quoted field) :
    ∀ fields ∈ readTable platform records, ∀ field ∈ fields, Quoted field := by
  have wider : ∀ {part : StoredRow → Json} {key : String}, key ∈ columns part records →
      key ∈ columns part more := by
    intro part key listed
    obtain ⟨r, member, present⟩ := mem_columns.mp listed
    exact mem_columns.mpr ⟨r, within member, present⟩
  obtain ⟨⟨payloadNames, tagNames⟩, cells⟩ := (table_quoted_iff _ _).mp stored
  refine (table_quoted_iff _ _).mpr ⟨⟨?_, ?_⟩, ?_⟩
  · exact fun f listed => payloadNames f (wider listed)
  · exact fun t listed => tagNames t (wider listed)
  · intro r member
    obtain ⟨-, payload, tags⟩ := cells r (within member)
    refine ⟨fun returned => ?_, fun f listed => ?_, fun t listed => ?_⟩
    · exact absurd returned (timestamp_plain platform (past r member)).2
    · exact quoted_property platform fun _ => payload f (wider listed)
    · exact quoted_property platform fun _ => tags t (wider listed)

theorem exportable_of_faithful (kept : Kept s) (faithful : Faithful platform s name now) :
    Exportable platform s name now := by
  obtain ⟨csv, sent, parsed⟩ := faithful_iff.mp faithful
  obtain ⟨named, header, objects, rfl⟩ := (exportCollection_ok_iff csv).mp sent
  have all : ∀ {r}, r ∈ platform.newestFirst (s.inCollection name) ↔ r ∈ s.inCollection name :=
    (platform.newestFirst_perm _).mem_iff
  have within : queryAll platform s name now ⊆ platform.newestFirst (s.inCollection name) :=
    fun r member => all.mpr (mem_queryAll member).1
  have sentPast : ∀ r ∈ queryAll platform s name now, notAfter now r.timestamp = true :=
    fun r member => (mem_queryAll member).2
  have stored := quoted_of_parse sentPast parsed
  have read := parse_readTable sentPast (readTable_quoted within sentPast stored)
  have same : readTable platform (queryAll platform s name now) =
      storedTable platform (platform.newestFirst (s.inCollection name)) := by
    apply letters_injective
    rw [parsed] at read
    exact (Option.some.inj read).symm
  have past : ∀ r ∈ s.inCollection name, notAfter now r.timestamp = true := by
    have lengths := congrArg List.length same
    simp only [readTable, storedTable, tableOf, List.length_cons, List.length_map,
      (platform.newestFirst_perm _).length_eq] at lengths
    exact past_of_length kept (Nat.succ.inj lengths)
  have query : queryAll platform s name now = platform.newestFirst (s.inCollection name) :=
    queryAll_eq kept past
  rw [query] at same objects
  have own := (readTable_eq_iff _).mp same
  obtain ⟨⟨payloadNames, tagNames⟩, cells⟩ := (table_quoted_iff _ _).mp stored
  have payloads := (part_quoted_iff StoredRow.payload _).mpr
    ⟨payloadNames, fun r member => (cells r member).2.1⟩
  have tags := (part_quoted_iff StoredRow.tags _).mpr
    ⟨tagNames, fun r member => (cells r member).2.2⟩
  exact {
    named, header, past
    objects := fun r member => (objects r (all.mpr member)).1
    payloads := {
      quoted := fun r member => payloads r (all.mpr member)
      own := fun r member other listed key present =>
        (own r (all.mpr member)).1 key (mem_columns.mpr ⟨other, all.mpr listed, present⟩) }
    tags := {
      quoted := fun r member => tags r (all.mpr member)
      own := fun r member other listed key present =>
        (own r (all.mpr member)).2 key (mem_columns.mpr ⟨other, all.mpr listed, present⟩) } }

theorem faithful_of_exportable (kept : Kept s) (exportable : Exportable platform s name now) :
    Faithful platform s name now := by
  have all : ∀ {r}, r ∈ platform.newestFirst (s.inCollection name) ↔ r ∈ s.inCollection name :=
    (platform.newestFirst_perm _).mem_iff
  have query : queryAll platform s name now = platform.newestFirst (s.inCollection name) :=
    queryAll_eq kept exportable.past
  have past : ∀ r ∈ platform.newestFirst (s.inCollection name),
      notAfter now r.timestamp = true := fun r member => exportable.past r (all.mp member)
  have same : readTable platform (platform.newestFirst (s.inCollection name)) =
      storedTable platform (platform.newestFirst (s.inCollection name)) := by
    rw [readTable_eq_iff]
    intro r member
    constructor
    · intro f listed
      obtain ⟨other, listed', present⟩ := mem_columns.mp listed
      exact exportable.payloads.own r (all.mp member) other (all.mp listed') f present
    · intro t listed
      obtain ⟨other, listed', present⟩ := mem_columns.mp listed
      exact exportable.tags.own r (all.mp member) other (all.mp listed') t present
  have quoted : ∀ fields ∈ readTable platform (platform.newestFirst (s.inCollection name)),
      ∀ field ∈ fields, Quoted field := by
    rw [same]
    obtain ⟨payloadNames, payload⟩ := (part_quoted_iff StoredRow.payload
      (platform.newestFirst (s.inCollection name))).mp
        fun r member => exportable.payloads.quoted r (all.mp member)
    obtain ⟨tagNames, tags⟩ := (part_quoted_iff StoredRow.tags
      (platform.newestFirst (s.inCollection name))).mp
        fun r member => exportable.tags.quoted r (all.mp member)
    refine (table_quoted_iff _ _).mpr ⟨⟨payloadNames, tagNames⟩, ?_⟩
    intro r member
    refine ⟨fun returned => ?_, payload r member, tags r member⟩
    exact absurd returned (timestamp_plain platform (past r member)).2
  rw [faithful_iff]
  refine ⟨csvText platform (platform.newestFirst (s.inCollection name)), ?_, ?_⟩
  · rw [exportCollection_ok_iff, query]
    refine ⟨exportable.named, exportable.header, ?_, rfl⟩
    intro r member
    have stored := List.mem_of_mem_filter (all.mp member)
    exact ⟨exportable.objects r (all.mp member), (kept r stored).2⟩
  · rw [parse_readTable past quoted, same]

end Faithful

/-- **CSV exports.**  Whatever has been written, the export of a collection is read back as what
is stored exactly when the collection is exportable. -/
theorem export_faithful_iff (platform : ExportPlatform) (writes : WritePlatform)
    (config : DataStoreConfig) (actions : List StoreAction) (name : String) (now : ℤ) :
    Faithful platform (run writes config actions) name now ↔
      Exportable platform (run writes config actions) name now :=
  ⟨exportable_of_faithful (kept_run writes config actions),
    faithful_of_exportable (kept_run writes config actions)⟩

/-! ## A note of two lines -/

section Note

open CollectionStore

/-- A column of integers, as far as the time zero goes. -/
def zeroColumn : SqlValue → SqlValue
  | .real 0 => .integer 0
  | value => value

/-- Numbers as far as the time zero goes; nothing is inherited. -/
def zeroPlatform : ExportPlatform where
  numberText _ := "0"
  numberText_plain := by simp
  jsonText _ := "\x7b\x7d"
  hiddenText _ _ := none
  hiddenText_some _ _ _ hidden := by cases hidden
  newestFirst rows := rows
  newestFirst_perm _ := List.Perm.refl _

def oneMegabyte : DataStoreConfig := ⟨true, 1, 100, 10⟩

def twoLines : WriteCall :=
  { collection := "log", payload := .json (.obj [("note", .str "shut\ropened")]) }

theorem run_twoLines : run ⟨zeroColumn⟩ oneMegabyte [.write 0 twoLines] =
    { config := oneMegabyte
      collections := ["log"]
      rows := [⟨1, "log", .obj [("note", .str "shut\ropened")], .obj [], .integer 0⟩]
      nextId := 2 } := by
  have budget : DataStore.maxRecordsByStorage oneMegabyte = 5242 := by
    unfold DataStore.maxRecordsByStorage oneMegabyte
    rw [Int.floor_eq_iff]
    norm_num
  have accepted : accept oneMegabyte twoLines =
      .ok (some (.obj [("note", .str "shut\ropened")])) := by
    simp [accept, twoLines, stringify, budget]
    rfl
  have room : ¬({ config := oneMegabyte } : CollectionStore).AtCollectionLimit "log" := by
    simp [AtCollectionLimit, oneMegabyte]
  have evicted : ({ config := oneMegabyte } : CollectionStore).evictGlobal =
      { config := oneMegabyte } := by
    apply evictGlobal_eq
    simp [Full, budget]
  change (CollectionStore.write ⟨zeroColumn⟩ 0 twoLines { config := oneMegabyte }).2 = _
  rw [write_below_limit ⟨zeroColumn⟩ 0 twoLines accepted room, evicted]
  rfl

/-- The pole: the note is sent without quotes, and a reader finds a record more. -/
theorem broken_note :
    exportCollection zeroPlatform (run ⟨zeroColumn⟩ oneMegabyte [.write 0 twoLines]) "log" 0 =
        .ok "timestamp,note\n0,shut\ropened\n" ∧
      Csv.parse "timestamp,note\n0,shut\ropened\n".toList =
        some (letters [["timestamp", "note"], ["0", "shut"], ["opened"]]) ∧
      ¬Faithful zeroPlatform (run ⟨zeroColumn⟩ oneMegabyte [.write 0 twoLines]) "log" 0 := by
  rw [run_twoLines]
  refine ⟨by decide, by decide, ?_⟩
  rw [faithful_iff]
  rintro ⟨csv, sent, parsed⟩
  obtain ⟨-, -, -, rfl⟩ := (exportCollection_ok_iff csv).mp sent
  have records := congrArg (Option.map List.length) parsed
  exact absurd records (by decide)

end Note

end Aeolus.Api
