/-
# Aeolus.Storage.RecordQuery — the records a query selects

`query` and `sampleRange` of `src/data-store/data-store.ts` on stored records: the
conditions, the count, the page and the sample.  `DataStoreQuery` has the texts of the same
statements; here is what they select.

The engine is a parameter where it is free to choose or where its grammar is its own:
`Sqlite` orders rows of one timestamp as it likes, takes any of the newest rows of a group
for the bare columns beside `MAX(timestamp)`, and reads a quoted label of a path.
-/
import Aeolus.Storage.DataStore
import Aeolus.Storage.DataStoreQuery

namespace Aeolus.Storage

open Aeolus.Core Aeolus.Theory

/-! ## Records with tags -/

structure Tagged (P : Type) where
  payload : P
  tags : OrderedMap String String

/-- What is stored in the column `tags`. -/
def tagsJson (tags : OrderedMap String String) : Json :=
  .obj (tags.entries.map fun tag => (tag.1, .str tag.2))

/-! ## The engine -/

inductive SqlError where
  /-- the path of a `json_extract` -/
  | badPath (path : String)
  deriving DecidableEq

/-- What the engine chooses. -/
structure Sqlite (P : Type) where
  /-- `ORDER BY timestamp DESC` -/
  newestFirst : List (DataRecord P) → List (DataRecord P)
  newestFirst_perm : ∀ rows, (newestFirst rows).Perm rows
  newestFirst_sorted : ∀ rows, (newestFirst rows).Pairwise fun r s => s.timestamp ≤ r.timestamp
  /-- the row of a group beside its `MAX(timestamp)` -/
  maxRow : DataRecord P → List (DataRecord P) → DataRecord P
  maxRow_mem : ∀ first rest, maxRow first rest ∈ first :: rest
  maxRow_max : ∀ first rest, ∀ r ∈ first :: rest, r.timestamp ≤ (maxRow first rest).timestamp
  /-- behind an opening quote: the label, and what follows the closing quote -/
  quotedLabel : List Char → Option (List Char × List Char)
  /-- a quote that closes takes a character, and an escape stands for no more than it takes -/
  quotedLabel_shorter : ∀ text label rest, quotedLabel text = some (label, rest) →
    label.length + rest.length < text.length
  /-- `SUM`, `AVG`, `MIN` and `MAX` of a field -/
  aggregate : String → String → List (DataRecord P) → Except SqlError SqlValue

namespace Sqlite

/-- Rows of one timestamp in their order, the first of the newest rows for a group, and
labels without escapes. -/
def plain (P : Type) : Sqlite P where
  newestFirst rows := rows.insertionSort fun r s => s.timestamp ≤ r.timestamp
  newestFirst_perm rows := List.perm_insertionSort _ rows
  newestFirst_sorted rows := by
    have : Std.Total fun r s : DataRecord P => s.timestamp ≤ r.timestamp :=
      ⟨fun r s => le_total _ _⟩
    have : IsTrans (DataRecord P) fun r s => s.timestamp ≤ r.timestamp :=
      ⟨fun _ _ _ first second => second.trans first⟩
    exact List.pairwise_insertionSort _ rows
  maxRow first rest :=
    rest.foldl (fun best r => if best.timestamp < r.timestamp then r else best) first
  maxRow_mem first rest := by
    induction rest generalizing first with
    | nil => exact List.mem_cons_self
    | cons r rest ih =>
        rw [List.foldl_cons]
        by_cases younger : first.timestamp < r.timestamp
        · rw [if_pos younger]
          exact List.mem_cons_of_mem _ (ih r)
        · rw [if_neg younger]
          rcases List.mem_cons.mp (ih first) with same | later
          · rw [same]
            exact List.mem_cons_self
          · exact List.mem_cons_of_mem _ (List.mem_cons_of_mem _ later)
  maxRow_max first rest := by
    induction rest generalizing first with
    | nil => simp
    | cons r rest ih =>
        rw [List.foldl_cons]
        rw [List.forall_mem_cons, List.forall_mem_cons]
        by_cases younger : first.timestamp < r.timestamp
        · have here := List.forall_mem_cons.mp (ih r)
          rw [if_pos younger]
          exact ⟨younger.le.trans here.1, here⟩
        · have here := List.forall_mem_cons.mp (ih first)
          rw [if_neg younger]
          exact ⟨here.1, (not_lt.mp younger).trans here.1, here.2⟩
  quotedLabel text :=
    (text.dropWhile (· ≠ '"')).tail?.map fun rest => (text.takeWhile (· ≠ '"'), rest)
  quotedLabel_shorter text label rest found := by
    have length := congrArg List.length (text.takeWhile_append_dropWhile (p := (· ≠ '"')))
    obtain ⟨others, behind, same⟩ := Option.map_eq_some_iff.mp found
    cases same
    cases closing : text.dropWhile (· ≠ '"') with
    | nil =>
        rw [closing] at behind
        cases behind
    | cons quote remaining =>
        rw [closing] at behind
        cases behind
        rw [closing, List.length_append, List.length_cons] at length
        omega
  aggregate _ _ _ := .ok .null

end Sqlite

/-! ## Paths into JSON -/

inductive PathStep where
  | label (name : String)
  | index (position : Nat)
  /-- `[#-n]` -/
  | last (back : Nat)

/-- What stops a bare label. -/
def endsLabel (c : Char) : Bool := c = '.' ∨ c = '['

def digitsValue (digits : List Char) : Nat :=
  digits.foldl (fun value c => value * 10 + (c.toNat - '0'.toNat)) 0

/-- `[n]`, `[#-n]` or `[#]`, which is behind the last element, after the opening bracket. -/
def arrayIndex (text : List Char) : Option (PathStep × List Char) :=
  if text.take 2 = ['#', ']'] then some (.last 0, text.drop 2) else
  let back := text.take 2 = ['#', '-']
  let digits := (if back then text.drop 2 else text).takeWhile Char.isDigit
  match (if back then text.drop 2 else text).dropWhile Char.isDigit with
  | ']' :: rest =>
      if digits = [] then none
      else some (if back then .last (digitsValue digits) else .index (digitsValue digits), rest)
  | _ => none

namespace Sqlite

variable {P : Type} (engine : Sqlite P)

/-- A label behind its dot: in quotes, or up to the next step. -/
def labelStep (text : List Char) : Option (PathStep × List Char) :=
  if text.head? = some '"' then
    (engine.quotedLabel text.tail).map fun part => (.label (String.ofList part.1), part.2)
  else if text.takeWhile (fun c => !endsLabel c) = [] then none
  else some (.label (String.ofList (text.takeWhile fun c => !endsLabel c)),
    text.dropWhile fun c => !endsLabel c)

/-- One step of a path, and the rest of it. -/
def pathStep : List Char → Option (PathStep × List Char)
  | [] => none
  | first :: text =>
      if first = '.' then labelStep engine text
      else if first = '[' then arrayIndex text
      else none

/-- The steps of a path behind its `$`; the fuel is its length. -/
def pathSteps : Nat → List Char → Option (List PathStep)
  | _, [] => some []
  | 0, _ => none
  | fuel + 1, text => do
      let (step, rest) ← engine.pathStep text
      return step :: (← pathSteps fuel rest)

def follow : PathStep → Json → Option Json
  | .label name, .obj fields => (fields.find? (·.1 == name)).map Prod.snd
  | .index position, .arr items => items[position]?
  | .last back, .arr items => if back = 0 then none else items.reverse[back - 1]?
  | _, _ => none

/-- `json_extract(value, path)`: `none` is `NULL`. -/
def jsonExtract (value : Json) (path : String) : Except SqlError (Option Json) :=
  if path.toList.head? = some '$' then
    (engine.pathSteps path.toList.tail.length path.toList.tail).elim (.error (.badPath path))
      fun steps => .ok (steps.foldlM (fun value step => follow step value) value)
  else .error (.badPath path)

/-- `json_extract(tags, '$.' || key) = value` -/
def tagCondition (tags : OrderedMap String String) (key value : String) : Except SqlError Bool :=
  (engine.jsonExtract (tagsJson tags) ("$." ++ key)).map fun found =>
    match found with
    | some (.str text) => text == value
    | _ => false

end Sqlite

/-! ## Options -/

inductive Aggregate where
  | sum | avg | min | max | count
  deriving DecidableEq

/-- `options.aggregate.toUpperCase()` -/
def Aggregate.aggFn : Aggregate → String
  | .sum => "SUM"
  | .avg => "AVG"
  | .min => "MIN"
  | .max => "MAX"
  | .count => "COUNT"

structure QueryOptions where
  /-- `options.from` -/
  lower : Option ℤ := none
  /-- `options.to` -/
  upper : Option ℤ := none
  limit : Option ℤ := none
  offset : Option ℤ := none
  tags : Option (OrderedMap String String) := none
  aggregate : Option Aggregate := none
  field : Option String := none
  maxPoints : Option ℤ := none

inductive RecordQueryError where
  | sql (error : SqlError)
  | missingField

structure Sampling where
  bucketMs : ℤ
  lower : ℤ
  upper : ℤ

inductive RecordQueryResult (P : Type) where
  | records (records : List (DataRecord (Tagged P))) (total : Nat) (sampling : Option Sampling)
  | value (value : SqlValue)

/-- Width of one bucket.  Rounded up, so that the buckets are never more than the points. -/
def DataStore.bucketWidthMs (rangeFrom rangeTo maxPoints : ℤ) : ℤ :=
  let span := max 1 (rangeTo - rangeFrom + 1)
  max 1 ⌈(span : ℚ) / (max 1 maxPoints : ℤ)⌉

/-- `CAST((timestamp - ?) / ? AS INTEGER)`: a quotient of reals, and its fraction dropped. -/
def DataStore.bucketIndex (rangeFrom width timestamp : ℤ) : ℤ :=
  let quotient : ℚ := (timestamp - rangeFrom : ℤ) / width
  if 0 ≤ quotient then ⌊quotient⌋ else ⌈quotient⌉

/-- `LIMIT` and `OFFSET`: a negative limit is none, a negative offset is zero. -/
def page {α : Type} (limit offset : Option ℤ) (rows : List α) : List α :=
  let rest := rows.drop (offset.getD 0).toNat
  match limit with
  | some limit => if 0 ≤ limit then rest.take limit.toNat else rest
  | none => rest

namespace DataStore

variable {P : Type} (engine : Sqlite (Tagged P))

/-- The tag conditions of one row.  One that is false ends it. -/
def tagConditions (tags : OrderedMap String String) :
    List (String × String) → Except SqlError Bool
  | [] => .ok true
  | (key, value) :: rest => do
      if ← engine.tagCondition tags key value then tagConditions tags rest else return false

/-- The conditions on collection and time. -/
def inRange (collection : String) (lower : Option ℤ) (upper : ℤ) (r : DataRecord (Tagged P)) :
    Bool :=
  r.collection = collection ∧ (∀ lower' ∈ lower, lower' ≤ r.timestamp) ∧ r.timestamp ≤ upper

def selectTagged (tags : List (String × String)) :
    List (DataRecord (Tagged P)) → Except SqlError (List (DataRecord (Tagged P)))
  | [] => .ok []
  | r :: rows => do
      let holds ← tagConditions engine r.payload.tags tags
      let others ← selectTagged tags rows
      return if holds then r :: others else others

/-- The rows for which the statement's conditions hold. -/
def selectWhere (rows : List (DataRecord (Tagged P))) (collection : String) (lower : Option ℤ)
    (upper : ℤ) (tags : List (String × String)) :
    Except SqlError (List (DataRecord (Tagged P))) :=
  selectTagged engine tags (rows.filter (inRange collection lower upper))

/-- The row that stands for a group. -/
def representative : List (DataRecord (Tagged P)) → Option (DataRecord (Tagged P))
  | [] => none
  | first :: rest => some (engine.maxRow first rest)

/-- `GROUP BY bucket`, one row for each group. -/
def representatives (bucket : DataRecord (Tagged P) → ℤ) (rows : List (DataRecord (Tagged P))) :
    List (DataRecord (Tagged P)) :=
  (rows.map bucket).dedup.filterMap fun index =>
    representative engine (rows.filter fun r => bucket r = index)

/-- One stored record from each slice of the range. -/
def sampleRange (rows : List (DataRecord (Tagged P))) (rangeFrom rangeTo maxPoints : ℤ) :
    List (DataRecord (Tagged P)) :=
  let bucketMs := bucketWidthMs rangeFrom rangeTo maxPoints
  engine.newestFirst
    (representatives engine (fun r => bucketIndex rangeFrom bucketMs r.timestamp) rows)

/-- `row?.agg_value ?? 0` -/
def queryAggregate (rows : List (DataRecord (Tagged P))) (aggregate : Aggregate) (field : String) :
    Except SqlError (RecordQueryResult P) :=
  if aggregate.aggFn = "COUNT" then .ok (.value (.integer rows.length))
  else (engine.aggregate aggregate.aggFn field rows).map fun found =>
    .value (if found = .null then .integer 0 else found)

/-- The records and their number: a sample when more rows match than there may be points. -/
def queryRecords (rows : List (DataRecord (Tagged P))) (lower : Option ℤ) (upper : ℤ)
    (options : QueryOptions) : RecordQueryResult P :=
  let total := rows.length
  let paged := fun (limit offset : Option ℤ) =>
    RecordQueryResult.records (page limit offset (engine.newestFirst rows)) total none
  match options.maxPoints with
  | some maxPoints =>
      if maxPoints < total then
        let rangeFrom := lower.getD ((rows.map DataRecord.timestamp).min?.getD 0)
        let rangeTo := max rangeFrom upper
        .records (sampleRange engine rows rangeFrom rangeTo maxPoints) total
          (some ⟨bucketWidthMs rangeFrom rangeTo maxPoints, rangeFrom, rangeTo⟩)
      else paged (some maxPoints) none
  | none => paged options.limit options.offset

def query (d : DataStore (Tagged P)) (now : ℤ) (collection : String) (options : QueryOptions) :
    Except RecordQueryError (RecordQueryResult P) :=
  if collection ∉ d.collections then
    .ok (if options.aggregate.isSome then .value (.integer 0) else .records [] 0 none)
  else
    let upper := options.upper.getD now
    let tags := (options.tags.map OrderedMap.entries).getD []
    let selected := selectWhere engine d.records.rows collection options.lower upper tags
    match options.aggregate with
    | some aggregate =>
        match options.field.filter (· ≠ "") with
        | none => .error .missingField
        | some field =>
            (selected.bind (queryAggregate engine · aggregate field)).mapError .sql
    | none =>
        (selected.map fun rows => queryRecords engine rows options.lower upper options).mapError .sql

end DataStore

end Aeolus.Storage
