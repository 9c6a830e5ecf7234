/-
# Aeolus.Api.CollectionExport — a collection as comma-separated values

`escapeCsvValue` and `GET /collections/:name/export` of `src/api/routes/data-store.routes.ts`,
over the rows that writes have left.  The columns are the time, the names that some payload has
and the names that some record has for a tag; a cell is what the record has under the name.

A payload is whatever a script writes: an object, an array, a text with its characters for
fields, or `null`.  `record.payload[f]` reads what the payload inherits as well as what it has,
so a column that another record brought can show a method.
-/
import Aeolus.Storage.WriteAtomicity
import Aeolus.Theory.Csv

namespace Aeolus.Api

open Aeolus.Core Aeolus.Storage Aeolus.Theory

/-! ## The environment of an export -/

/-- What an export calls and does not define. -/
structure ExportPlatform where
  /-- `String(number)` -/
  numberText : ℚ → String
  numberText_plain : ∀ number, ∀ c ∈ (numberText number).toList,
    c ≠ ',' ∧ c ≠ '"' ∧ c ≠ '\n' ∧ c ≠ '\r'
  /-- `JSON.stringify` of an object or an array -/
  jsonText : Json → String
  /-- the text of what a value has under a name that `Object.keys` does not list: an inherited
  method, or a length -/
  hiddenText : Json → String → Option String
  hiddenText_some : ∀ value name text, hiddenText value name = some text →
    text ≠ "" ∧ '\r' ∉ text.toList
  /-- `ORDER BY timestamp DESC` -/
  newestFirst : List StoredRow → List StoredRow
  newestFirst_perm : ∀ rows, (newestFirst rows).Perm rows

/-! ## Values -/

/-- The characters of a text by code units; half a pair is sent as a replacement character. -/
def codeUnits (text : String) : List String :=
  text.toList.flatMap fun c =>
    if c.val < 0x10000 then [String.singleton c] else ["\uFFFD", "\uFFFD"]

def indexed (values : List Json) : List (String × Json) :=
  values.zipIdx.map fun entry => (toString entry.2, entry.1)

/-- What `Object.keys` lists, with the values. -/
def ownProperties : Json → List (String × Json)
  | .obj fields => fields
  | .arr items => indexed items
  | .str text => indexed ((codeUnits text).map .str)
  | _ => []

/-- `Object.keys(value)` of a value that is not `null`. -/
def objectKeys (value : Json) : List String := (ownProperties value).map Prod.fst

def isNull : Json → Bool
  | .null => true
  | _ => false

section Texts

variable (platform : ExportPlatform)

/-- The text of a value before it is escaped; `null` has none. -/
def valueText : Json → Option String
  | .null => none
  | .bool value => some (if value then "true" else "false")
  | .num value => some (platform.numberText value)
  | .str text => some text
  | value => some (platform.jsonText value)

/-- The value under one of its keys, as text. -/
def storedText (value : Json) (name : String) : Option String :=
  ((ownProperties value).find? fun property => property.1 == name).bind fun property =>
    valueText platform property.2

/-- `value[name]`, as text. -/
def propertyText (value : Json) (name : String) : Option String :=
  if name ∈ objectKeys value then storedText platform value name
  else platform.hiddenText value name

/-- `String(record.timestamp)` -/
def timestampText : SqlValue → String
  | .null => "null"
  | .integer value => platform.numberText value
  | .real value => platform.numberText value
  | .text value => value

end Texts

/-! ## Cells -/

/-- `/^[=+\-@\t\r]/` -/
def beginsFormula (text : String) : Bool :=
  text.toList.head?.any fun c => c ∈ ['=', '+', '-', '@', '\t', '\r']

def neutralised (text : String) : String := if beginsFormula text then "'" ++ text else text

/-- A comma, a quote or a `\n`. -/
def needsQuotes (letters : List Char) : Bool := ',' ∈ letters || '"' ∈ letters || '\n' ∈ letters

def escapeCsvValue (value : Option String) : String :=
  match value with
  | none => ""
  | some text =>
      let str := neutralised text
      if needsQuotes str.toList then String.ofList (Csv.quote str.toList) else str

/-! ## The request -/

inductive ExportError where
  /-- no route has a segment without a name -/
  | notFound
  /-- `Object.keys(null)` -/
  | notAnObject
  /-- `setHeader` refuses a character -/
  | invalidHeader
  deriving DecidableEq

/-- Names of a column each, in the order in which the records bring them. -/
def columns (part : StoredRow → Json) (records : List StoredRow) : List String :=
  (records.flatMap fun r => objectKeys (part r)).eraseDups

def headers (records : List StoredRow) : List String :=
  "timestamp" :: (columns StoredRow.payload records ++
    (columns StoredRow.tags records).map ("tag:" ++ ·))

/-- `timestamp <= ?`; a text is more than every number. -/
def notAfter (now : ℤ) : SqlValue → Bool
  | .integer value => value ≤ now
  | .real value => value ≤ (now : ℚ)
  | _ => false

/-- A character that a header may have. -/
def headerCharacter (c : Char) : Bool :=
  c = '\t' || (0x20 ≤ c.val && c.val ≤ 0x7e) || (0x80 ≤ c.val && c.val ≤ 0xff)

section Export

variable (platform : ExportPlatform) (s : CollectionStore) (name : String) (now : ℤ)

/-- `dataStore.query(name, {})` -/
def queryAll : List StoredRow :=
  if name ∈ s.collections then
    platform.newestFirst ((s.inCollection name).filter fun r => notAfter now r.timestamp)
  else []

def csvRow (records : List StoredRow) (r : StoredRow) : List String :=
  timestampText platform r.timestamp ::
    ((columns StoredRow.payload records).map
        (fun f => escapeCsvValue (propertyText platform r.payload f)) ++
      (columns StoredRow.tags records).map
        (fun t => escapeCsvValue (propertyText platform r.tags t)))

def csvText (records : List StoredRow) : String :=
  "\n".intercalate
    (",".intercalate ((headers records).map fun header => escapeCsvValue (some header)) ::
      records.map fun r => ",".intercalate (csvRow platform records r)) ++ "\n"

/-- Sets the header with the name of the file, and sends. -/
def sendCsv (csv : String) : Except ExportError String :=
  if name.toList.all headerCharacter then .ok csv else .error .invalidHeader

def exportCollection : Except ExportError String :=
  if name = "" then .error .notFound
  else
    let records := queryAll platform s name now
    if records.isEmpty then sendCsv name "timestamp\n"
    else if records.any fun r => isNull r.payload || isNull r.tags then .error .notAnObject
    else sendCsv name (csvText platform records)

end Export

/-! ## The text as a table -/

section Table

variable (platform : ExportPlatform)

/-- Header and rows; `text` is what a cell shows of a value under a name. -/
def tableOf (text : Json → String → Option String) (records : List StoredRow) :
    List (List String) :=
  (headers records).map neutralised :: records.map fun r =>
    timestampText platform r.timestamp ::
      ((columns StoredRow.payload records).map
          (fun f => neutralised ((text r.payload f).getD "")) ++
        (columns StoredRow.tags records).map
          (fun t => neutralised ((text r.tags t).getD "")))

/-- What is stored, as a table. -/
def storedTable (records : List StoredRow) : List (List String) :=
  tableOf platform (storedText platform) records

/-- What the export reads. -/
def readTable (records : List StoredRow) : List (List String) :=
  tableOf platform (propertyText platform) records

def letters (table : List (List String)) : List (List (List Char)) :=
  table.map fun fields => fields.map String.toList

theorem letters_injective {table table' : List (List String)}
    (same : letters table = letters table') : table = table' := by
  have inner : Function.Injective (List.map String.toList) :=
    List.map_injective_iff.mpr fun a b => String.toList_inj.mp
  exact List.map_injective_iff.mpr inner same

end Table

end Aeolus.Api
