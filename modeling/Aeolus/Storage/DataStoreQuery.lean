/-
# Aeolus.Storage.DataStoreQuery — a query, down to the text of its statements

`query` of `src/data-store/data-store.ts` with the texts it prepares and the arguments it
binds, `parseDuration`, and `db.query` of a script as the sandbox answers it.  The options
are whatever JSON the script passes.

The database engine is `execute`, a function of text, bound values and rows; `Driver` binds
arguments as the database driver documents it, where an array stands for each of its
elements and an object, for named parameters, stands for none.
-/
import Mathlib.Data.Nat.Digits.Defs
import Mathlib.Data.Rat.Floor
import Aeolus.Auth.ResourceOwnership

namespace Aeolus.Storage

open Aeolus.Auth Aeolus.Core Aeolus.Theory Aeolus.Theory.Handler

/-! ## Rows, values and arguments -/

inductive SqlValue where
  | null
  | integer (value : ℤ)
  | real (value : ℚ)
  | text (value : String)
  deriving DecidableEq

/-- A row of `ds_records` as it is stored. -/
structure RecordRow where
  id : ℤ
  collection : String
  payload : String
  tags : String
  timestamp : SqlValue
  deriving DecidableEq

/-- The tables of the Data Store that a query reads. -/
structure DataStoreTables where
  collections : List String
  records : List RecordRow

/-- A row that a statement returns, by column. -/
abbrev ResultRow := List (String × SqlValue)

def column (row : ResultRow) (name : String) : SqlValue := (row.lookup name).getD .null

inductive QueryError where
  | duration (input : String)
  | missingField
  | notFunction
  | unbindable
  | twoObjects
  | sql
  | json
  deriving DecidableEq

/-- An argument of a statement: JSON, or a number that is none. -/
inductive Argument where
  | json (value : Json)
  | nan

namespace Driver

def bindValue : Json → Except QueryError SqlValue
  | .null => .ok .null
  | .num value => .ok (.real value)
  | .str value => .ok (.text value)
  | _ => .error .unbindable

/-- No statement here has named parameters, so an object binds nothing. -/
def bindArgument : Argument → Except QueryError (List SqlValue)
  | .json (.arr items) => items.mapM bindValue
  | .json (.obj _) => .ok []
  | .json value => (bindValue value).map ([·])
  | .nan => .ok [.null]

def isPlainObject : Argument → Bool
  | .json (.obj _) => true
  | _ => false

def bindArguments (arguments : List Argument) : Except QueryError (List SqlValue) :=
  if 1 < (arguments.filter isPlainObject).length then .error .twoObjects
  else (arguments.mapM bindArgument).map List.flatten

end Driver

/-! ## The environment of a query -/

/-- What a query calls and does not define. -/
structure QueryPlatform where
  /-- the engine: preparing the text, checking the number of values, and stepping through -/
  execute : String → List SqlValue → List RecordRow → Except QueryError (List ResultRow)
  /-- `JSON.parse`; `none` when it throws -/
  jsonParse : String → Option Json
  /-- `Number(value)`; `none` when it is `NaN` -/
  toNumber : Json → Option ℚ
  trim : String → String
  toUpperCase : String → String
  /-- no letter of an upper-case text is a small one -/
  toUpperCase_not_lower : ∀ text, ∀ c ∈ (toUpperCase text).toList, c.isLower = false

def Argument.toNumber (platform : QueryPlatform) : Argument → Option ℚ
  | .json value => platform.toNumber value
  | .nan => none

/-- A computed number as an argument. -/
def Argument.ofNumber : Option ℚ → Argument
  | some value => .json (.num value)
  | none => .nan

/-! ## Durations -/

/-- `UNITS[unit]`.  The table is an object literal: under the name of the constructor it has a
function, which is no number. -/
def unitMultiplier : String → Option (Option ℚ)
  | "m" => some (some 60000)
  | "h" => some (some 3600000)
  | "d" => some (some 86400000)
  | "w" => some (some 604800000)
  | "y" => some (some 31536000000)
  | "constructor" => some none
  | _ => none

/-- The milliseconds, `none` for `NaN`. -/
def parseDuration (platform : QueryPlatform) (input : String) : Except QueryError (Option ℚ) :=
  let trimmed := platform.trim input
  let digits := trimmed.toList.takeWhile Char.isDigit
  let unit := trimmed.toList.dropWhile Char.isDigit
  if input = "" ∨ trimmed = "" then .error (.duration input)
  else if trimmed.toList.head? = some '-' ∨ '.' ∈ trimmed.toList then .error (.duration trimmed)
  else if digits = [] ∨ unit = [] ∨ ¬unit.all Char.isLower then .error (.duration trimmed)
  else
    match unitMultiplier (String.ofList unit) with
    | none => .error (.duration trimmed)
    | some multiplier =>
        let value : ℚ := (Nat.ofDigits 10 (digits.reverse.map fun c => c.toNat - '0'.toNat) : ℕ)
        if value ≤ 0 then .error (.duration trimmed)
        else .ok (multiplier.map (value * ·))

/-! ## Statements -/

/-- A statement the query prepared, and what it bound. -/
structure Statement where
  text : String
  arguments : List Argument

/-- A query knows the statements prepared so far. -/
abbrev QueryM (α : Type) := Handler QueryError (List Statement) α

/-- `db.prepare(text).all(...arguments)` -/
def prepareAndRun (platform : QueryPlatform) (tables : DataStoreTables) (statement : Statement) :
    QueryM (List ResultRow) := fun prepared =>
  ((Driver.bindArguments statement.arguments).bind fun values =>
    platform.execute statement.text values tables.records, prepared ++ [statement])

/-- `whereClauses` with their parameters. -/
def whereClauses (collection : String) (fromTs : Option Argument) (toTs : Argument)
    (tags : Option Json) : List (String × List Argument) :=
  [("collection = ?", [.json (.str collection)])] ++
    (match fromTs with
      | some fromTs => [("timestamp >= ?", [fromTs])]
      | none => []) ++
    [("timestamp <= ?", [toTs])] ++
    if isTruthy tags then
      ((tags.getD .null).spread.entries.map fun tag =>
        ("json_extract(tags, '$.' || ?) = ?", [.json (.str tag.1), .json tag.2]))
    else []

def whereStr (clauses : List (String × List Argument)) : String :=
  String.intercalate " AND " (clauses.map Prod.fst)

def whereParams (clauses : List (String × List Argument)) : List Argument :=
  clauses.flatMap Prod.snd

def existsText : String := "SELECT 1 as exists_flag FROM ds_collections WHERE name = ?"

def aggregateText (aggFn conditions : String) : String :=
  if aggFn = "COUNT" then "SELECT COUNT(*) as agg_value FROM ds_records WHERE " ++ conditions
  else "SELECT " ++ aggFn ++
    "(json_extract(payload, '$.' || ?)) as agg_value FROM ds_records WHERE " ++ conditions

def spanHead : String :=
  "SELECT COUNT(*) as cnt, MIN(timestamp) as min_ts, MAX(timestamp) as max_ts FROM ds_records WHERE "

def spanText (conditions : String) : String := spanHead ++ conditions

def sampleHead : String :=
  "SELECT id, collection, payload, tags, MAX(timestamp) as ts\n       FROM ds_records\n       WHERE "

def sampleTail : String :=
  "\n       GROUP BY CAST((timestamp - ?) / ? AS INTEGER)\n       ORDER BY ts DESC"

def sampleText (conditions : String) : String := sampleHead ++ (conditions ++ sampleTail)

def pageHead : String :=
  "SELECT id, collection, payload, tags, timestamp FROM ds_records WHERE "

def pageText (conditions : String) (limit offset : Bool) : String :=
  pageHead ++ (conditions ++ " ORDER BY timestamp DESC" ++ (if limit then " LIMIT ?" else "") ++
    -- SQLite wants a limit before an offset
    (if offset then (if limit then "" else " LIMIT -1") ++ " OFFSET ?" else ""))

/-! ## The query -/

structure QueriedRecord where
  id : SqlValue
  collection : SqlValue
  payload : Json
  tags : Json
  timestamp : SqlValue

structure RangeSampling where
  bucketMs : Option ℚ
  lower : Argument
  upper : Option ℚ

inductive QueryResult where
  | records (records : List QueriedRecord) (total : SqlValue) (sampling : Option RangeSampling)
  | value (value : SqlValue)

def QueryResult.empty : QueryResult := .records [] (.integer 0) none

/-- `Math.max(a, b)`, where one `NaN` makes another. -/
def mathMax (a b : Option ℚ) : Option ℚ := do return max (← a) (← b)

def bucketWidthMs (rangeFrom rangeTo maxPoints : Option ℚ) : Option ℚ := do
  let span ← mathMax (some 1) (do return (← rangeTo) - (← rangeFrom) + 1)
  let points ← mathMax (some 1) maxPoints
  return max 1 (⌈span / points⌉ : ℚ)

section Query

variable (platform : QueryPlatform) (tables : DataStoreTables) (now : ℤ)

/-- `fromTs`: a text is a duration back from now. -/
def resolveFrom : Option Json → Except QueryError (Option Argument)
  | none => .ok none
  | some (.str text) =>
      (parseDuration platform text).map fun ms =>
        some (.ofNumber (ms.map fun ms => (now : ℚ) - ms))
  | some other => .ok (some (.json other))

/-- `options.to ?? Date.now()` -/
def resolveTo : Option Json → Argument
  | none => .json (.num now)
  | some .null => .json (.num now)
  | some other => .json other

def parseColumn (row : ResultRow) (name : String) : Except QueryError Json :=
  match column row name with
  | .text text =>
      match platform.jsonParse text with
      | some value => .ok value
      | none => .error .json
  | .null => .ok .null
  | .integer value => .ok (.num value)
  | .real value => .ok (.num value)

def toRecord (timestamp : String) (row : ResultRow) : Except QueryError QueriedRecord := do
  let payload ← parseColumn platform row "payload"
  let tags ← parseColumn platform row "tags"
  return { id := column row "id", collection := column row "collection", payload, tags,
           timestamp := column row timestamp }

def sqlToJson : SqlValue → Json
  | .null => .null
  | .integer value => .num value
  | .real value => .num value
  | .text value => .str value

/-- `countRow.cnt > options.maxPoints` -/
def exceeds (total : SqlValue) (maxPoints : Json) : Bool :=
  match platform.toNumber (sqlToJson total), platform.toNumber maxPoints with
  | some total, some points => points < total
  | _, _ => false

/-- `fromTs ?? countRow.min_ts ?? 0` -/
def rangeStart (fromTs : Option Argument) (minTs : SqlValue) : Argument :=
  match fromTs with
  | none => fallback
  | some (.json .null) => fallback
  | some given => given
where
  fallback : Argument :=
    match minTs with
    | .null => .json (.num 0)
    | found => .json (sqlToJson found)

/-- The name is put into the text; a count has no field. -/
def runAggregate (aggFn : String) (field : Json) (clauses : List (String × List Argument)) :
    QueryM QueryResult := do
  let rows ← prepareAndRun platform tables
    ⟨aggregateText aggFn (whereStr clauses),
      (if aggFn = "COUNT" then [] else [.json field]) ++ whereParams clauses⟩
  return .value (match rows.head?.map (column · "agg_value") with
    | some .null => .integer 0
    | some found => found
    | none => .integer 0)

/-- Only a text has a `toUpperCase`. -/
def queryAggregate (aggregate : Json) (field : Option Json)
    (clauses : List (String × List Argument)) : QueryM QueryResult :=
  if isTruthy field then
    match aggregate with
    | .str name => runAggregate platform tables (platform.toUpperCase name) (field.getD .null) clauses
    | _ => throw .notFunction
  else throw .missingField

def querySample (clauses : List (String × List Argument)) (total : SqlValue)
    (rangeFrom toTs : Argument) (maxPoints : Json) : QueryM QueryResult := do
  let upper := mathMax (rangeFrom.toNumber platform) (toTs.toNumber platform)
  let bucketMs := bucketWidthMs (rangeFrom.toNumber platform) upper (platform.toNumber maxPoints)
  let rows ← prepareAndRun platform tables
    ⟨sampleText (whereStr clauses), whereParams clauses ++ [rangeFrom, .ofNumber bucketMs]⟩
  let records ← check (rows.mapM (toRecord platform "ts"))
  return .records records total (some ⟨bucketMs, rangeFrom, upper⟩)

/-- What `??` does not pass over. -/
def isGiven : Json → Bool
  | .null => false
  | _ => true

/-- `null` counts as a limit, and as an offset. -/
def queryPage (clauses : List (String × List Argument)) (total : SqlValue)
    (limit offset : Option Json) : QueryM QueryResult := do
  let rows ← prepareAndRun platform tables
    ⟨pageText (whereStr clauses) limit.isSome offset.isSome,
      whereParams clauses ++ (limit.toList ++ offset.toList).map .json⟩
  let records ← check (rows.mapM (toRecord platform "timestamp"))
  return .records records total none

def queryRecords (fromTs : Option Argument) (toTs : Argument) (options : Json)
    (clauses : List (String × List Argument)) : QueryM QueryResult := do
  let counted ← prepareAndRun platform tables
    ⟨spanText (whereStr clauses), whereParams clauses⟩
  let countRow := counted.headD []
  let total := column countRow "cnt"
  let maxPoints := options.property "maxPoints"
  if maxPoints.any (exceeds platform total) then
    querySample platform tables clauses total (rangeStart fromTs (column countRow "min_ts")) toTs
      (maxPoints.getD .null)
  else
    let limit := (maxPoints.filter isGiven).or (options.property "limit")
    let offset := if maxPoints.isSome then none else options.property "offset"
    queryPage platform tables clauses total limit offset

/-- Is there such a collection? -/
def collectionExists (collection : String) : QueryM Bool := fun prepared =>
  (.ok (tables.collections.contains collection),
    prepared ++ [⟨existsText, [.json (.str collection)]⟩])

def query (collection : String) (options : Json) : QueryM QueryResult := do
  let aggregate := options.property "aggregate"
  let there ← collectionExists tables collection
  if there = false then
    return if isTruthy aggregate then .value (.integer 0) else .empty
  let fromTs ← check (resolveFrom platform now (options.property "from"))
  let toTs := resolveTo now (options.property "to")
  let clauses := whereClauses collection fromTs toTs (options.property "tags")
  if isTruthy aggregate then
    queryAggregate platform tables (aggregate.getD .null) (options.property "field") clauses
  else queryRecords platform tables fromTs toTs options clauses

/-! ## `db.query` of a script -/

def collectionAllowed (scope : AuthorizationScope) (collection : String) : Bool :=
  match scope with
  | .unrestricted => true
  | .scoped _ _ collections => collections.contains collection

/-- `__dbQueryRef`: the answer, and the statements prepared for it.  Whatever is thrown, the
script is told that there are no records. -/
def dbQueryRef (scope : AuthorizationScope) (collection optionsJson : String) :
    QueryResult × List Statement :=
  if collectionAllowed scope collection then
    match platform.jsonParse optionsJson with
    | none => (.empty, [])
    | some options =>
        match query platform tables now collection options [] with
        | (.ok result, prepared) => (result, prepared)
        | (.error _, prepared) => (.empty, prepared)
  else (.empty, [])

end Query

end Aeolus.Storage
