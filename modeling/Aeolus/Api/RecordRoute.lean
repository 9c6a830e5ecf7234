/-
# Aeolus.Api.RecordRoute — asking the Data Store for records over HTTP

`GET /collections/:name/records` of `src/api/routes/data-store.routes.ts`: the query string
becomes the options of `DataStore.query`.  Every answer is bounded.  A query that names neither
`limit` nor `maxPoints` gets the newest hundred records of its range
(`parseRecordQueryOptions_range`).

The store's model takes whole milliseconds, so a bound that is none has no options
(`RecordOptions.resolve`).
-/
import Aeolus.Storage.Duration
import Aeolus.Storage.RecordQuery

namespace Aeolus.Api

open Aeolus.Core Aeolus.Db Aeolus.Storage Aeolus.Theory

def DEFAULT_RECORD_QUERY_LIMIT : ℤ := 100

def MAX_RECORD_QUERY_LIMIT : ℤ := 5000

/-- `req.query` -/
structure RecordQueryParams where
  /-- `from` -/
  lower : Option String := none
  /-- `to` -/
  upper : Option String := none
  limit : Option String := none
  offset : Option String := none
  tags : Option String := none
  aggregate : Option String := none
  field : Option String := none
  maxPoints : Option String := none

/-- A time, or how long before now. -/
inductive RecordLower where
  | time (ms : JsNumber)
  | duration (text : String)

/-- The options of a record query, as the route reads them. -/
structure RecordOptions where
  lower : Option RecordLower
  upper : Option JsNumber
  limit : Option ℤ
  offset : Option ℤ
  tags : Option Json
  aggregate : Option Aggregate
  field : Option String
  maxPoints : Option ℤ

/-! ## Reading the query string -/

/-- `parseInt(text, 10)`: the digits at the front, `none` for `NaN` -/
def parseInt (text : String) : Option ℤ :=
  let (negative, unsigned) := signed (text.toList.dropWhile isWhiteSpace)
  let digits := unsigned.takeWhile Char.isDigit
  if digits = [] then none else some (if negative then -(digitsOf digits : ℤ) else digitsOf digits)

def readLower (text : String) : RecordLower :=
  if textToNumber text ≠ .nan ∧ trim text ≠ "" then .time (textToNumber text) else .duration text

def readUpper (text : String) : Except Failure JsNumber :=
  if textToNumber text = .nan then
    .error (.BadRequestError
      s!"Invalid 'to' parameter: must be a numeric timestamp, got \"{text}\"")
  else .ok (textToNumber text)

/-- A whole number of at least `least`. -/
def readCount (name : String) (least : ℤ) (tooSmall : String) (text : String) :
    Except Failure ℤ :=
  match parseInt text with
  | none =>
      .error (.BadRequestError s!"Invalid '{name}' parameter: must be a number, got \"{text}\"")
  | some count =>
      if count < least then
        .error (.BadRequestError s!"Invalid '{name}' parameter: {tooSmall}, got \"{text}\"")
      else .ok count

/-- `limit` and `maxPoints`: each is a bound of its own. -/
def readBound (query : RecordQueryParams) : Except Failure (Option ℤ × Option ℤ) :=
  match query.maxPoints with
  | some text =>
      if query.limit.isSome ∨ query.offset.isSome then
        .error (.BadRequestError ("'maxPoints' cannot be combined with 'limit' or 'offset': " ++
          "it samples the whole range rather than returning a page"))
      else if query.aggregate.isSome then
        .error (.BadRequestError ("'maxPoints' cannot be combined with 'aggregate': " ++
          "an aggregate reduces the range to a single value"))
      else (readCount "maxPoints" 1 "must be at least 1" text).map fun points =>
        (none, some (min points MAX_RECORD_QUERY_LIMIT))
  | none =>
      match query.limit with
      | none => .ok (some DEFAULT_RECORD_QUERY_LIMIT, none)
      | some text => (readCount "limit" 1 "must be at least 1" text).map fun limit =>
          (some (min limit MAX_RECORD_QUERY_LIMIT), none)

def readAggregate : String → Except Failure Aggregate
  | "sum" => .ok .sum
  | "avg" => .ok .avg
  | "min" => .ok .min
  | "max" => .ok .max
  | "count" => .ok .count
  | text => .error (.BadRequestError ("Invalid 'aggregate' parameter: must be one of " ++
      s!"sum, avg, min, max, count, got \"{text}\""))

def parseRecordQueryOptions (jsonParse : String → Option Json) (query : RecordQueryParams) :
    Except Failure RecordOptions := do
  let upper ← query.upper.mapM readUpper
  let (limit, maxPoints) ← readBound query
  let offset ← query.offset.mapM (readCount "offset" 0 "must not be negative")
  let tags ← query.tags.mapM fun text =>
    match jsonParse text with
    | some tags => .ok tags
    | none => .error (.BadRequestError
        s!"Invalid 'tags' parameter: must be a valid JSON string, got \"{text}\"")
  let aggregate ← query.aggregate.mapM readAggregate
  return {
    lower := query.lower.map readLower, upper, limit, offset, tags, aggregate, field := query.field
    maxPoints }

/-! ## The answer -/

def wholeMs : JsNumber → Option ℤ
  | .finite ms => if ms.den = 1 then some ms.num else none
  | _ => none

/-- `typeof options.from === "string"`: a duration back from now. -/
def resolveLower (now : ℤ) : RecordLower → Except Failure (Option ℤ)
  | .time ms => .ok (wholeMs ms)
  | .duration text =>
      match Duration.parseDuration text with
      | .ok ms => .ok ((wholeMs ms).map (now - ·))
      | .error message => .error (.BadRequestError message)

/-- The tags of a condition, when they are texts. -/
def textTags (tags : Json) : Option (OrderedMap String String) :=
  match tags with
  | .obj fields =>
      (fields.mapM fun field : String × Json => field.2.asString.map (field.1, ·)).map
        OrderedMap.empty.setAll
  | _ => none

/-- The options of the store's model; none when a bound is no whole number of milliseconds, or
a tag no text. -/
def RecordOptions.resolve (options : RecordOptions) (now : ℤ) :
    Except Failure (Option QueryOptions) := do
  let lower ← options.lower.mapM (resolveLower now)
  return do
    let lower ← lower.mapM id
    let upper ← options.upper.mapM wholeMs
    let tags ← options.tags.mapM textTags
    return {
      lower, upper, limit := options.limit, offset := options.offset, tags
      aggregate := options.aggregate, field := options.field, maxPoints := options.maxPoints }

def storeFailure : RecordQueryError → Failure
  | .missingField => .unexpected "Aggregation requires a 'field' parameter"
  | .sql (.badPath path) => .unexpected s!"bad JSON path: {path}"

/-! ## A range of times -/

theorem digitsOf_eq (digits : List Char) : digitsOf digits = Nat.ofDigitChars 10 digits 0 := by
  rw [digitsOf, Nat.ofDigits_eq_foldr, Nat.ofDigitChars_eq_foldl, List.foldr_map,
    List.foldr_reverse]
  exact congrArg (fun step => digits.foldl step 0) (by funext value c; simp [Nat.add_comm])

/-- A numeral of a whole number is a literal of it. -/
theorem decimalLiteral_writeInteger (value : ℤ) :
    decimalLiteral (JsonText.writeInteger value) = some (value : ℚ) := by
  have whole (n : Nat) (negative : Bool) {text : List Char}
      (read : signed text = (negative, Nat.toDigits 10 n)) :
      decimalLiteral text = some ((if negative then -1 else 1) * (n : ℚ)) := by
    have digits : ∀ c ∈ Nat.toDigits 10 n, c.isDigit = true := fun _ => JsonText.isDigit_toDigits
    unfold decimalLiteral
    rw [read]
    simp [List.takeWhile_eq_self_iff.mpr digits, List.dropWhile_eq_nil_iff.mpr digits, fractionOf,
      exponentOf, Nat.toDigits_ne_nil, digitsOf_eq]
  unfold JsonText.writeInteger
  split
  · rename_i below
    rw [whole value.natAbs true rfl]
    have same : (value.natAbs : ℚ) = -value := by
      rw [← Int.cast_natCast, Int.ofNat_natAbs_of_nonpos below.le, Int.cast_neg]
    simp [same]
  · rename_i above
    have unsigned : signed (Nat.toDigits 10 value.natAbs) =
        (false, Nat.toDigits 10 value.natAbs) := by
      unfold signed
      split
      · rename_i rest same
        exact absurd (JsonText.isDigit_toDigits (same ▸ List.mem_cons_self : '+' ∈ _)) (by decide)
      · rename_i rest same
        exact absurd (JsonText.isDigit_toDigits (same ▸ List.mem_cons_self : '-' ∈ _)) (by decide)
      · rfl
    rw [whole value.natAbs false unsigned]
    have same : (value.natAbs : ℚ) = value := by
      rw [← Int.cast_natCast, Int.natAbs_of_nonneg (not_lt.mp above)]
    simp [same]

theorem trim_writeInteger (value : ℤ) :
    trim (String.ofList (JsonText.writeInteger value)) =
      String.ofList (JsonText.writeInteger value) := by
  have solid {c : Char} (member : c ∈ JsonText.writeInteger value) : isWhiteSpace c = false := by
    rcases JsonText.writeInteger_spelled member with rfl | digit
    · decide
    · exact Duration.digit_not_white digit
  rw [trim_eq_self_iff, String.toList_ofList]
  exact ⟨fun c begins => solid (List.mem_of_mem_head? begins),
    fun c ends => solid (List.mem_of_mem_getLast? ends)⟩

theorem textToNumber_writeInteger (value : ℤ) :
    textToNumber (String.ofList (JsonText.writeInteger value)) = .finite value := by
  apply textToNumber_decimal
  rw [decimalText, trim_writeInteger, String.toList_ofList, decimalLiteral_writeInteger]

/-- A range and nothing else: its newest hundred records are asked for. -/
theorem parseRecordQueryOptions_range (jsonParse : String → Option Json) (lower upper : ℤ) :
    parseRecordQueryOptions jsonParse {
        lower := some (String.ofList (JsonText.writeInteger lower))
        upper := some (String.ofList (JsonText.writeInteger upper)) } =
      .ok {
        lower := some (.time (.finite lower)), upper := some (.finite upper)
        limit := some DEFAULT_RECORD_QUERY_LIMIT, offset := none, tags := none, aggregate := none
        field := none, maxPoints := none } := by
  have nonempty : String.ofList (JsonText.writeInteger lower) ≠ "" := by
    intro empty
    have letters : JsonText.writeInteger lower = [] := by simpa using congrArg String.toList empty
    have literal := decimalLiteral_writeInteger lower
    simp [letters, decimalLiteral, signed, fractionOf] at literal
  have read : readLower (String.ofList (JsonText.writeInteger lower)) = .time (.finite lower) := by
    unfold readLower
    rw [trim_writeInteger, textToNumber_writeInteger, if_pos ⟨by simp, nonempty⟩]
  have upper' : readUpper (String.ofList (JsonText.writeInteger upper)) = .ok (.finite upper) := by
    unfold readUpper
    rw [textToNumber_writeInteger, if_neg (by simp)]
  simp [parseRecordQueryOptions, read, upper', readBound]
  rfl

section Route

variable {P : Type} (engine : Sqlite (Tagged P)) (jsonParse : String → Option Json)

/-- `GET /collections/:name/records`, at the time `now`; `mayRead` is `canReadCollection`. -/
def getRecords (mayRead : Bool) (now : ℤ) (d : DataStore (Tagged P)) (name : String)
    (query : RecordQueryParams) : Except Failure (Option (RecordQueryResult P)) :=
  if mayRead = false then .error .ForbiddenError
  else do
    let options ← parseRecordQueryOptions jsonParse query
    match ← options.resolve now with
    | none => return none
    | some options => ((d.query engine now name options).mapError storeFailure).map some

/-- The options of a range and nothing else. -/
theorem getRecords_range (now : ℤ) (d : DataStore (Tagged P)) (name : String) (lower upper : ℤ) :
    getRecords engine jsonParse true now d name {
        lower := some (String.ofList (JsonText.writeInteger lower))
        upper := some (String.ofList (JsonText.writeInteger upper)) } =
      ((d.query engine now name {
        lower := some lower, upper := some upper
        limit := some DEFAULT_RECORD_QUERY_LIMIT }).mapError storeFailure).map some := by
  have whole (ms : ℤ) : wholeMs (.finite ms) = some ms := by
    rw [wholeMs, if_pos (Rat.den_intCast ms), Rat.num_intCast]
  unfold getRecords
  rw [if_neg (by decide), parseRecordQueryOptions_range, ok_bind]
  simp [RecordOptions.resolve, resolveLower, whole, pure, Except.pure]
  rfl

end Route

end Aeolus.Api
