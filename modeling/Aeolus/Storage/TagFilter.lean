/-
# Aeolus.Storage.TagFilter — which keys a tag filter can name

A filter's key is put behind `$.` and read as a path into the stored tags.  A key of the
characters of a bare label names its tag; one that is empty, begins with a quote or has a
dot or a bracket in it is read as something else.

* `tagCondition_plain` — on a plain key the path is the lookup of the key;
* `tagCondition_spoiled` — what a condition on another key can still find: the label of a
  quoted key, which is shorter than the key;
* `tags_exact_iff` — a filter selects the tagged records of every store if and only if its
  keys are plain;
* `dotted_tag_missed` — the pole: `room.name`.
-/
import Aeolus.Storage.DownSampling

namespace Aeolus.Storage

open Aeolus.Core Aeolus.Theory

/-! ## Paths of keys -/

/-- A key that a path reads as one label.  The documented grammar of paths does not speak of
U+0000, at which the engine ends a label, in a path and in the stored tags. -/
def PlainLabel (key : String) : Prop :=
  key ≠ "" ∧ key.toList.head? ≠ some '"' ∧ key.toList.all fun c => !endsLabel c

instance (key : String) : Decidable (PlainLabel key) := inferInstanceAs (Decidable (_ ∧ _))

namespace Sqlite

variable {P : Type} (engine : Sqlite P)

theorem toList_path (key : String) : ("$." ++ key).toList = '$' :: '.' :: key.toList := by
  rw [String.toList_append]
  rfl

theorem jsonExtract_key (value : Json) (key : String) :
    engine.jsonExtract value ("$." ++ key) =
      (engine.pathSteps (key.toList.length + 1) ('.' :: key.toList)).elim
        (.error (.badPath ("$." ++ key)))
        fun steps => .ok (steps.foldlM (fun value step => follow step value) value) := by
  unfold jsonExtract
  rw [toList_path, if_pos (by rfl), List.tail_cons, List.length_cons]

theorem pathStep_dot (text : List Char) :
    engine.pathStep ('.' :: text) = engine.labelStep text := by
  unfold pathStep
  exact if_pos rfl

/-- A path of one label. -/
theorem pathSteps_label {text : List Char} {name : String}
    (one : engine.labelStep text = some (.label name, [])) :
    engine.pathSteps (text.length + 1) ('.' :: text) = some [.label name] := by
  have step : engine.pathStep ('.' :: text) = some (.label name, []) := by
    rw [pathStep_dot, one]
  unfold pathSteps
  rw [step]
  cases text.length <;> rfl

/-- Text that is not empty has at least one step in it. -/
theorem pathSteps_cons {fuel : Nat} {c : Char} {text : List Char} {steps : List PathStep}
    (read : engine.pathSteps fuel (c :: text) = some steps) :
    ∃ step rest others, engine.pathStep (c :: text) = some (step, rest) ∧
      (∃ fuel', engine.pathSteps fuel' rest = some others) ∧ steps = step :: others := by
  cases fuel with
  | zero => cases read
  | succ fuel =>
      obtain ⟨⟨step, rest⟩, first, read⟩ := Option.bind_eq_some_iff.mp read
      obtain ⟨others, later, same⟩ := Option.bind_eq_some_iff.mp read
      cases same
      exact ⟨step, rest, others, first, ⟨fuel, later⟩, rfl⟩

theorem follow_tags (tags : OrderedMap String String) (name : String) :
    follow (.label name) (tagsJson tags) = (tags.get name).map .str := by
  simp only [follow, tagsJson, OrderedMap.get, List.find?_map, Option.map_map]
  rfl

/-- A tag is a text, and a step into a text finds nothing. -/
theorem follow_twice (tags : OrderedMap String String) (first second : PathStep)
    (others : List PathStep) :
    (first :: second :: others).foldlM (fun value step => follow step value) (tagsJson tags) =
      none := by
  rw [List.foldlM_cons]
  cases first with
  | label name =>
      rw [follow_tags]
      cases tags.get name with
      | none => rfl
      | some value => cases second <;> rfl
  | index position => rfl
  | last back => rfl

/-- A key that is one label, whichever way it is written. -/
theorem tagCondition_label {key name : String}
    (one : engine.labelStep key.toList = some (.label name, [])) (tags : OrderedMap String String)
    (value : String) : engine.tagCondition tags key value = .ok (tags.get name == some value) := by
  unfold tagCondition
  rw [jsonExtract_key, pathSteps_label engine one]
  change Except.map _ (Except.ok (follow (.label name) (tagsJson tags) >>= pure)) = _
  rw [bind_pure, follow_tags]
  cases tags.get name <;> rfl

theorem labelStep_quoted {key : String} (quoted : key.toList.head? = some '"') :
    engine.labelStep key.toList =
      (engine.quotedLabel key.toList.tail).map fun part =>
        (.label (String.ofList part.1), part.2) := if_pos quoted

theorem labelStep_plain {key : String} (plain : PlainLabel key) :
    engine.labelStep key.toList = some (.label key, []) := by
  obtain ⟨some', unquoted, bare⟩ := plain
  have letters : ∀ c ∈ key.toList, (!endsLabel c) = true := List.all_eq_true.mp bare
  have whole : key.toList.takeWhile (fun c => !endsLabel c) = key.toList := by
    rw [← List.append_nil key.toList, List.takeWhile_append_of_pos letters, List.takeWhile_nil]
  have nothing : key.toList.dropWhile (fun c => !endsLabel c) = [] := by
    rw [← List.append_nil key.toList, List.dropWhile_append_of_pos letters, List.dropWhile_nil]
  unfold labelStep
  rw [if_neg unquoted, whole, nothing, if_neg (by simpa using some'), String.ofList_toList]

/-- **A plain key.**  The condition is the comparison of the tag. -/
theorem tagCondition_plain {key : String} (plain : PlainLabel key)
    (tags : OrderedMap String String) (value : String) :
    engine.tagCondition tags key value = .ok (tags.get key == some value) :=
  tagCondition_label engine (labelStep_plain engine plain) tags value

/-- **Another key.**  The condition holds only by the label of a quoted key. -/
theorem tagCondition_spoiled {key value : String} (spoiled : ¬PlainLabel key)
    {tags : OrderedMap String String} (holds : engine.tagCondition tags key value = .ok true) :
    ∃ name, engine.labelStep key.toList = some (.label name, []) ∧
      name.toList.length < key.toList.length ∧ tags.get name = some value := by
  unfold tagCondition at holds
  rw [jsonExtract_key] at holds
  cases read : engine.pathSteps (key.toList.length + 1) ('.' :: key.toList) with
  | none =>
      rw [read] at holds
      cases holds
  | some steps =>
      rw [read] at holds
      obtain ⟨step, rest, others, first, ⟨fuel, later⟩, rfl⟩ := pathSteps_cons engine read
      have label : engine.labelStep key.toList = some (step, rest) := by
        rw [← pathStep_dot, first]
      -- text behind the first step is a second step, which finds nothing
      have ends : rest = [] := by
        cases rest with
        | nil => rfl
        | cons c rest =>
            obtain ⟨second, _, more, -, -, rfl⟩ := pathSteps_cons engine later
            rw [Option.elim_some, follow_twice] at holds
            cases holds
      subst ends
      by_cases quoted : key.toList.head? = some '"'
      · have found := label
        rw [labelStep_quoted engine quoted] at found
        obtain ⟨⟨letters, behind⟩, closed, same⟩ := Option.map_eq_some_iff.mp found
        cases same
        have shorter := engine.quotedLabel_shorter _ _ _ closed
        have condition := tagCondition_label engine label tags value
        unfold tagCondition at condition
        rw [jsonExtract_key, read, holds] at condition
        refine ⟨_, label, ?_, ?_⟩
        · rw [String.toList_ofList]
          simp only [List.length_tail, List.length_nil] at shorter
          change letters.length < _
          omega
        · simpa using condition.symm
      · exfalso
        apply spoiled
        unfold labelStep at label
        rw [if_neg quoted] at label
        split at label
        · cases label
        · rename_i some'
          simp only [Option.some.injEq, Prod.mk.injEq] at label
          refine ⟨?_, quoted, ?_⟩
          · rintro rfl
            exact some' rfl
          · exact List.all_eq_true.mpr (List.dropWhile_eq_nil_iff.mp label.2)

end Sqlite

/-- `ds_records` in a new database. -/
def Records.empty {P : Type} : Records P := {}

namespace DataStore

/-! ## Conditions of a whole filter -/

section Conditions

variable {P : Type} (engine : Sqlite (Tagged P))

/-- Every tag of the filter is a tag of the record, with an equal value. -/
def HasTags (tags filter : OrderedMap String String) : Prop :=
  ∀ key value, filter.get key = some value → tags.get key = some value

theorem tagConditions_cons (tags : OrderedMap String String) (key value : String)
    (rest : List (String × String)) :
    tagConditions engine tags ((key, value) :: rest) =
      (engine.tagCondition tags key value).bind fun holds =>
        if holds then tagConditions engine tags rest else .ok false := rfl

theorem tagConditions_iff (tags : OrderedMap String String) (filter : List (String × String)) :
    tagConditions engine tags filter = .ok true ↔
      ∀ tag ∈ filter, engine.tagCondition tags tag.1 tag.2 = .ok true := by
  induction filter with
  | nil => simp [tagConditions]
  | cons tag rest ih =>
      obtain ⟨key, value⟩ := tag
      rw [List.forall_mem_cons, ← ih, tagConditions_cons]
      cases engine.tagCondition tags key value with
      | error e => simp [Except.bind]
      | ok holds => cases holds <;> simp [Except.bind]

/-- A filter of plain keys is never refused. -/
theorem tagConditions_plain (tags : OrderedMap String String) {filter : List (String × String)}
    (plain : ∀ tag ∈ filter, PlainLabel tag.1) :
    ∃ holds, tagConditions engine tags filter = .ok holds := by
  induction filter with
  | nil => exact ⟨true, rfl⟩
  | cons tag rest ih =>
      obtain ⟨key, value⟩ := tag
      rw [List.forall_mem_cons] at plain
      rw [tagConditions_cons, engine.tagCondition_plain plain.1]
      cases tags.get key == some value with
      | true => exact ih plain.2
      | false => exact ⟨false, rfl⟩

theorem tagConditions_hasTags {tags filter : OrderedMap String String}
    (plain : ∀ key ∈ filter.keys, PlainLabel key) :
    tagConditions engine tags filter.entries = .ok true ↔ HasTags tags filter := by
  rw [tagConditions_iff]
  have each : ∀ tag ∈ filter.entries,
      (engine.tagCondition tags tag.1 tag.2 = .ok true ↔ tags.get tag.1 = some tag.2) := by
    intro tag member
    rw [engine.tagCondition_plain (plain tag.1 (List.mem_map_of_mem member))]
    simp
  constructor
  · intro all key value found
    have member := OrderedMap.mem_entries.mpr found
    exact (each _ member).mp (all _ member)
  · rintro has ⟨key, value⟩ member
    exact (each _ member).mpr (has key value (OrderedMap.mem_entries.mp member))

theorem selectTagged_plain (filter : List (String × String))
    (plain : ∀ tag ∈ filter, PlainLabel tag.1) (rows : List (DataRecord (Tagged P))) :
    ∃ selected, selectTagged engine filter rows = .ok selected := by
  induction rows with
  | nil => exact ⟨[], rfl⟩
  | cons r rest ih =>
      obtain ⟨holds, condition⟩ := tagConditions_plain engine r.payload.tags plain
      obtain ⟨others, found⟩ := ih
      refine ⟨if holds then r :: others else others, ?_⟩
      unfold selectTagged
      rw [condition, found]
      rfl

end Conditions

/-! ## What a filtered query answers -/

section Query

variable (engine : Sqlite (Tagged Json))

/-- The query returns the tagged records of the range, each once, and `COUNT` their number. -/
def SelectsTagged (d : DataStore (Tagged Json)) (now : ℤ) (collection : String)
    (lower upper : Option ℤ) (filter : OrderedMap String String) : Prop :=
  ∃ records,
    query engine d now collection { lower, upper, tags := some filter } =
      .ok (.records records records.length none) ∧
    records.Nodup ∧
    (∀ r, r ∈ records ↔ r ∈ d.records.rows ∧ r.collection = collection ∧
      (∀ lower' ∈ lower, lower' ≤ r.timestamp) ∧ r.timestamp ≤ upper.getD now ∧
      HasTags r.payload.tags filter) ∧
    ∀ field, field ≠ "" →
      query engine d now collection
        { lower, upper, tags := some filter, aggregate := some .count, field := some field } =
          .ok (.value (.integer records.length))

theorem query_filter {d : DataStore (Tagged Json)} {collection : String}
    (there : collection ∈ d.collections) (now : ℤ) (lower upper : Option ℤ)
    (filter : OrderedMap String String) :
    query engine d now collection { lower, upper, tags := some filter } =
      ((selectWhere engine d.records.rows collection lower (upper.getD now) filter.entries).map
        fun rows => .records (engine.newestFirst rows) rows.length none).mapError .sql :=
  if_neg fun absent => absent there

theorem query_count {d : DataStore (Tagged Json)} {collection : String}
    (there : collection ∈ d.collections) (now : ℤ) (lower upper : Option ℤ)
    (filter : OrderedMap String String) {field : String} (named : field ≠ "") :
    query engine d now collection
        { lower, upper, tags := some filter, aggregate := some .count, field := some field } =
      ((selectWhere engine d.records.rows collection lower (upper.getD now) filter.entries).map
        fun rows => .value (.integer rows.length)).mapError .sql := by
  have given : (some field).filter (fun field => decide (field ≠ "")) = some field := by
    simp [named]
  unfold query
  rw [if_neg fun absent => absent there]
  dsimp only
  rw [given]
  dsimp only [Option.map_some, Option.getD_some]
  cases selectWhere engine d.records.rows collection lower (upper.getD now) filter.entries <;> rfl

/-- With plain keys, every store. -/
theorem selectsTagged_plain {filter : OrderedMap String String}
    (plain : ∀ key ∈ filter.keys, PlainLabel key) {d : DataStore (Tagged Json)}
    (referenced : Referenced d) (now : ℤ) (collection : String) (lower upper : Option ℤ) :
    SelectsTagged engine d now collection lower upper filter := by
  by_cases there : collection ∈ d.collections
  · obtain ⟨rows, selected⟩ := selectTagged_plain engine filter.entries
      (fun tag member => plain tag.1 (List.mem_map_of_mem member))
      (d.records.rows.filter (inRange collection lower (upper.getD now)))
    have perm := engine.newestFirst_perm rows
    have matching := mem_selectWhere selected
    refine ⟨engine.newestFirst rows, ?_, ?_, fun r => ?_, fun field named => ?_⟩
    · rw [query_filter engine there, perm.length_eq]
      change Except.mapError _ (Except.map _ (selectTagged _ _ _)) = _
      rw [selected]
      rfl
    · exact perm.nodup_iff.mpr (nodup_selectWhere selected)
    · rw [perm.mem_iff, matching]
      unfold Matches
      rw [tagConditions_hasTags engine plain]
    · rw [query_count engine there now lower upper filter named, perm.length_eq]
      change Except.mapError _ (Except.map _ (selectTagged _ _ _)) = _
      rw [selected]
      rfl
  · refine ⟨[], if_pos there, List.nodup_nil, fun r => ?_, fun field _ => if_pos there⟩
    constructor
    · intro member
      cases member
    · rintro ⟨stored, rfl, -⟩
      exact absurd (referenced r stored) there

/-! ## Keys that are not plain -/

/-- A store with one record. -/
def oneTagged (tags : OrderedMap String String) : DataStore (Tagged Json) :=
  run step { config := ⟨true, 500, 100000, 50⟩ } [.write "climate" ⟨.num 21, tags⟩ 0]

theorem write_oneTagged (tags : OrderedMap String String) :
    oneTagged tags = { config := ⟨true, 500, 100000, 50⟩, collections := ["climate"],
                       records := Records.empty.insert "climate" ⟨.num 21, tags⟩ 0 } := by
  have budget : ⌊((500 : ℚ) * 1024 * 1024 / 200)⌋ = 2621440 := by
    rw [Int.floor_eq_iff]
    norm_num
  simp [oneTagged, run, step, write, Handler.bind_apply, Handler.check, admits,
    maxRecordsByStorage, budget, evictGlobal, autoCreate, evictCollection, inCollection, insert,
    Records.empty]

/-- What the engine selects of it. -/
theorem selected_oneTagged {tags filter : OrderedMap String String}
    (holds : tagConditions engine tags filter.entries = .ok true)
    (selects : SelectsTagged engine (oneTagged tags) 0 "climate" none none filter) :
    HasTags tags filter := by
  rw [write_oneTagged] at selects
  obtain ⟨records, answered, -, exactly, -⟩ := selects
  have member : (⟨1, "climate", ⟨.num 21, tags⟩, 0⟩ : DataRecord (Tagged Json)) ∈ records := by
    rw [query_filter engine (List.mem_singleton_self _)] at answered
    have selected : selectWhere engine
        [(⟨1, "climate", ⟨.num 21, tags⟩, 0⟩ : DataRecord (Tagged Json))] "climate" none 0
        filter.entries = .ok [⟨1, "climate", ⟨.num 21, tags⟩, 0⟩] := by
      unfold selectWhere
      rw [List.filter_cons_of_pos (by simp [inRange]), List.filter_nil]
      unfold selectTagged selectTagged
      dsimp only
      rw [holds]
      rfl
    change (Except.mapError _ (Except.map _ (selectWhere engine
      [(⟨1, "climate", ⟨.num 21, tags⟩, 0⟩ : DataRecord (Tagged Json))] "climate" none 0
      filter.entries)) : Except RecordQueryError (RecordQueryResult Json)) = _ at answered
    rw [selected] at answered
    simp only [Except.map, Except.mapError, Except.ok.injEq, RecordQueryResult.records.injEq]
      at answered
    rw [← answered.1]
    exact (engine.newestFirst_perm _).mem_iff.mpr (List.mem_singleton_self _)
  exact ((exactly _).mp member).2.2.2.2

/-- A record with the tags of the filter is selected, so every condition holds of them. -/
theorem conditions_oneTagged {filter : OrderedMap String String}
    (selects : SelectsTagged engine (oneTagged filter) 0 "climate" none none filter) :
    tagConditions engine filter filter.entries = .ok true := by
  obtain ⟨records, answered, -, exactly, -⟩ := selects
  have there : "climate" ∈ (oneTagged filter).collections := by
    rw [write_oneTagged]
    exact List.mem_singleton_self _
  have stored : ⟨1, "climate", ⟨.num 21, filter⟩, 0⟩ ∈ (oneTagged filter).records.rows := by
    rw [write_oneTagged]
    exact List.mem_singleton_self _
  have member := (exactly _).mpr ⟨stored, rfl, by simp, le_refl _, fun key value => id⟩
  rw [query_filter engine there] at answered
  cases selected : selectWhere engine (oneTagged filter).records.rows "climate" none
      ((none : Option ℤ).getD 0) filter.entries with
  | error e =>
      rw [selected] at answered
      cases answered
  | ok rows =>
      rw [selected] at answered
      simp only [Except.map, Except.mapError, Except.ok.injEq, RecordQueryResult.records.injEq]
        at answered
      rw [← answered.1, (engine.newestFirst_perm rows).mem_iff, mem_selectWhere selected] at member
      exact member.2.2.2.2

/-- Of the keys that are not plain, a longest one. -/
theorem exists_longest {keys : List String} (spoiled : ¬∀ key ∈ keys, PlainLabel key) :
    ∃ key ∈ keys, ¬PlainLabel key ∧
      ∀ other ∈ keys, ¬PlainLabel other → other.toList.length ≤ key.toList.length := by
  cases longest : (keys.filter fun key => ¬PlainLabel key).argmax
      fun key => key.toList.length with
  | none =>
      have none' := List.argmax_eq_none.mp longest
      rw [List.filter_eq_nil_iff] at none'
      exact absurd (fun key member => by simpa using none' key member) spoiled
  | some key =>
      obtain ⟨member, bad⟩ := List.mem_filter.mp (List.argmax_mem longest)
      refine ⟨key, member, of_decide_eq_true bad, fun other there bad' => ?_⟩
      have listed : other ∈ keys.filter fun key => ¬PlainLabel key :=
        List.mem_filter.mpr ⟨there, decide_eq_true bad'⟩
      exact List.le_of_mem_argmax (f := fun key : String => key.toList.length) listed longest

/-- Tags without such a key still meet the conditions: no quoted key has it for its label. -/
theorem conditions_delete {filter : OrderedMap String String} {key : String}
    (holds : tagConditions engine filter filter.entries = .ok true) (bad : ¬PlainLabel key)
    (longest : ∀ other ∈ filter.keys, ¬PlainLabel other →
      other.toList.length ≤ key.toList.length) :
    tagConditions engine (filter.delete key) filter.entries = .ok true := by
  apply (tagConditions_iff engine _ _).mpr
  rintro ⟨other, value⟩ entry
  by_cases plain : PlainLabel other
  · have apart : other ≠ key := fun same => bad (same ▸ plain)
    rw [engine.tagCondition_plain plain, OrderedMap.get_delete_of_ne _ apart,
      OrderedMap.mem_entries.mp entry, beq_self_eq_true]
  · have condition : engine.tagCondition filter other value = .ok true :=
      (tagConditions_iff engine filter filter.entries).mp holds (other, value) entry
    obtain ⟨name, one, shorter, named⟩ := engine.tagCondition_spoiled plain condition
    have bound := longest other (List.mem_map_of_mem entry) plain
    have apart : name ≠ key := by
      rintro rfl
      exact absurd shorter (Nat.not_lt.mpr bound)
    rw [engine.tagCondition_label one, OrderedMap.get_delete_of_ne _ apart, named,
      beq_self_eq_true]

/-- **Tag filters.**  A filter selects the tagged records of every store that writes lead
to, and counts them, if and only if each of its keys is plain. -/
theorem tags_exact_iff (filter : OrderedMap String String) :
    (∀ (config : DataStoreConfig) (events : List (StoreEvent (Tagged Json))) (now : ℤ)
        (collection : String) (lower upper : Option ℤ),
      SelectsTagged engine (run step { config, records := .empty } events) now collection lower
        upper filter) ↔
    ∀ key ∈ filter.keys, PlainLabel key := by
  constructor
  · intro selects
    have always : ∀ tags, SelectsTagged engine (oneTagged tags) 0 "climate" none none filter :=
      fun tags => selects ⟨true, 500, 100000, 50⟩ [.write "climate" ⟨.num 21, tags⟩ 0] 0
        "climate" none none
    by_contra spoiled
    obtain ⟨key, listed, bad, longest⟩ := exists_longest spoiled
    have holds := conditions_delete engine (conditions_oneTagged engine (always filter)) bad longest
    have has := selected_oneTagged engine holds (always _)
    cases found : filter.get key with
    | none => exact OrderedMap.get_eq_none.mp found listed
    | some value =>
        have kept := has key value found
        rw [OrderedMap.get_delete_self] at kept
        cases kept
  · intro plain config events now collection lower upper
    apply selectsTagged_plain engine plain
    apply referenced_run
    intro r member
    cases member

end Query

/-! ## A dotted key -/

def inAttic : OrderedMap String String := OrderedMap.empty.set "room.name" "attic"

/-- The record has the tag, and the filter that asks for it finds nothing. -/
theorem dotted_tag_missed :
    (∃ r ∈ (oneTagged inAttic).records.rows, HasTags r.payload.tags inAttic) ∧
    query (Sqlite.plain _) (oneTagged inAttic) 0 "climate" { tags := some inAttic } =
      .ok (.records [] 0 none) := by
  rw [write_oneTagged]
  constructor
  · exact ⟨_, List.mem_singleton_self _, fun key value => id⟩
  · rfl

end DataStore

end Aeolus.Storage
