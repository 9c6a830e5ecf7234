/-
# Aeolus.Core.JsonText — `JSON.stringify` and `JSON.parse`

The text of a value, without indentation, and a reader of texts with white space wherever it
may stand.  What is written is read back as it was (`parse_stringify`).

Which numeral stands for a number is left open (`NumberText`).  The only characters of a text
outside of ASCII are those of its strings and names, each as it is, so the bytes of a text are
its code units and what those characters take beyond theirs (`utf8Length_stringify`).

A text is a list of Unicode scalar values: half a surrogate pair that an escape spells is read
as the replacement character.
-/
import Mathlib.Algebra.BigOperators.Group.List.Basic
import Mathlib.Data.Rat.Lemmas
import Aeolus.Core.Json
import Aeolus.Core.Text

namespace Aeolus.Core

open Aeolus.Theory

/-- A value of the language: the names of an object's fields are distinct. -/
inductive Json.Distinct : Json → Prop
  | null : Distinct .null
  | bool (value : Bool) : Distinct (.bool value)
  | num (value : ℚ) : Distinct (.num value)
  | str (value : String) : Distinct (.str value)
  | arr {items : List Json} (each : ∀ item ∈ items, Distinct item) : Distinct (.arr items)
  | obj {fields : List (String × Json)} (nodup : (fields.map Prod.fst).Nodup)
      (each : ∀ field ∈ fields, Distinct field.2) : Distinct (.obj fields)

namespace JsonText

/-! ## Numerals -/

def isNumeral (c : Char) : Bool :=
  c.isDigit || c = '-' || c = '+' || c = '.' || c = 'e' || c = 'E'

/-- `Number.prototype.toString` of a finite number, and the number of a numeral. -/
structure NumberText where
  write : ℚ → List Char
  read : List Char → Option ℚ
  nonempty (value : ℚ) : write value ≠ []
  numeral (value : ℚ) : ∀ c ∈ write value, isNumeral c = true
  read_write (value : ℚ) : read (write value) = some value
  whole (n : ℕ) (small : n < 10 ^ 21) : write n = Nat.toDigits 10 n

/-! ## Writing -/

def hexDigits (value : Nat) : List Char := [Nat.digitChar (value / 16), Nat.digitChar (value % 16)]

/-- A character of a string. -/
def escape (c : Char) : List Char :=
  if c = '"' then ['\\', '"']
  else if c = '\\' then ['\\', '\\']
  else if c = '\x08' then ['\\', 'b']
  else if c = '\x0c' then ['\\', 'f']
  else if c = '\n' then ['\\', 'n']
  else if c = '\r' then ['\\', 'r']
  else if c = '\t' then ['\\', 't']
  else if c.toNat < 0x20 then '\\' :: 'u' :: '0' :: '0' :: hexDigits c.toNat
  else [c]

def quote (text : String) : List Char := '"' :: (text.toList.flatMap escape ++ ['"'])

section Writing

variable (numbers : NumberText)

mutual

def write : Json → List Char
  | .null => ['n', 'u', 'l', 'l']
  | .bool true => ['t', 'r', 'u', 'e']
  | .bool false => ['f', 'a', 'l', 's', 'e']
  | .num value => numbers.write value
  | .str value => quote value
  | .arr items => '[' :: (writeItems items ++ [']'])
  | .obj fields => '\x7b' :: (writeFields fields ++ ['\x7d'])

/-- The items, with commas between them. -/
def writeItems : List Json → List Char
  | [] => []
  | [item] => write item
  | item :: next :: rest => write item ++ ',' :: writeItems (next :: rest)

def writeFields : List (String × Json) → List Char
  | [] => []
  | [(name, value)] => quote name ++ ':' :: write value
  | (name, value) :: next :: rest =>
      quote name ++ ':' :: (write value ++ ',' :: writeFields (next :: rest))

end

/-- `JSON.stringify(value)` -/
def stringify (value : Json) : String := String.ofList (write numbers value)

end Writing

/-! ## Reading -/

def isSpace (c : Char) : Bool := c = ' ' || c = '\t' || c = '\n' || c = '\r'

def skipSpace (text : List Char) : List Char := text.dropWhile isSpace

def hexValue (c : Char) : Option Nat :=
  if c.isDigit then some (c.toNat - '0'.toNat)
  else if 'a' ≤ c ∧ c ≤ 'f' then some (c.toNat - 'a'.toNat + 10)
  else if 'A' ≤ c ∧ c ≤ 'F' then some (c.toNat - 'A'.toNat + 10)
  else none

/-- Four hexadecimal digits: a code unit. -/
def codeUnit (digits : List Char) : Option Nat :=
  if digits.length = 4 then
    (digits.mapM hexValue).map fun values => values.foldl (fun unit value => 16 * unit + value) 0
  else none

/-- What a single letter stands for behind a backslash. -/
def unescape (c : Char) : Option Char :=
  if c = '"' ∨ c = '\\' ∨ c = '/' then some c
  else if c = 'b' then some '\x08'
  else if c = 'f' then some '\x0c'
  else if c = 'n' then some '\n'
  else if c = 'r' then some '\r'
  else if c = 't' then some '\t'
  else none

/-- The character of a code unit, or of two that are the halves of a pair. -/
def joinUnits (high low : Nat) : Char :=
  Char.ofNat (0x10000 + (high - 0xd800) * 0x400 + (low - 0xdc00))

def replacementCharacter : Char := Char.ofNat 0xfffd

/-- Behind `\u`: the character, and how many characters spell it. -/
def readUnit (text : List Char) : Option (Char × Nat) :=
  (codeUnit (text.take 4)).map fun unit =>
    if unit < 0xd800 ∨ 0xe000 ≤ unit then (Char.ofNat unit, 4)
    else
      match (text.drop 4).take 2, codeUnit ((text.drop 6).take 4) with
      | ['\\', 'u'], some low =>
          if unit < 0xdc00 ∧ 0xdc00 ≤ low ∧ low < 0xe000 then (joinUnits unit low, 10)
          else (replacementCharacter, 4)
      | _, _ => (replacementCharacter, 4)

/-- Behind the opening quote: the string, and what follows the closing one.  `skipped` is how
many characters an escape has already taken. -/
def readString (skipped : Nat) : List Char → Option (List Char × List Char)
  | [] => none
  | c :: rest =>
      match skipped with
      | skipped + 1 => readString skipped rest
      | 0 =>
          if c = '"' then some ([], rest)
          else if c = '\\' then
            match rest with
            | 'u' :: digits => do
                let (read, taken) ← readUnit digits
                let (text, after) ← readString (taken + 1) rest
                return (read :: text, after)
            | letter :: _ => do
                let read ← unescape letter
                let (text, after) ← readString 1 rest
                return (read :: text, after)
            | [] => none
          else if c.toNat < 0x20 then none
          else (readString 0 rest).map fun (text, after) => (c :: text, after)

/-- The rest of a literal name. -/
def literal (expected : List Char) (value : Json) (rest : List Char) :
    Option (Json × List Char) :=
  if expected.isPrefixOf rest then some (value, rest.drop expected.length) else none

section Reading

variable (numbers : NumberText)

def readNumber (text : List Char) : Option (Json × List Char) :=
  let numeral := text.takeWhile isNumeral
  if numeral = [] then none
  else (numbers.read numeral).map fun value => (.num value, text.dropWhile isNumeral)

mutual

/-- A value and what follows it; every bracket takes from the fuel. -/
def readValue : Nat → List Char → Option (Json × List Char)
  | 0, _ => none
  | fuel + 1, text =>
      match skipSpace text with
      | [] => none
      | c :: rest =>
          if c = '"' then
            (readString 0 rest).map fun (letters, after) => (.str (String.ofList letters), after)
          else if c = '[' then
            match skipSpace rest with
            | ']' :: after => some (.arr [], after)
            | items => (readItems fuel items).map fun (items, after) => (.arr items, after)
          else if c = '\x7b' then
            match skipSpace rest with
            | '\x7d' :: after => some (.obj [], after)
            | fields => (readFields fuel fields).map fun (fields, after) =>
                -- a name that comes again replaces the value and keeps the place
                (.obj (JsonObject.ofFields fields).entries, after)
          else if c = 'n' then literal ['u', 'l', 'l'] .null rest
          else if c = 't' then literal ['r', 'u', 'e'] (.bool true) rest
          else if c = 'f' then literal ['a', 'l', 's', 'e'] (.bool false) rest
          else readNumber numbers (c :: rest)

def readItems : Nat → List Char → Option (List Json × List Char)
  | 0, _ => none
  | fuel + 1, text => do
      let (item, rest) ← readValue fuel text
      match skipSpace rest with
      | ',' :: rest =>
          let (items, after) ← readItems fuel rest
          return (item :: items, after)
      | ']' :: after => return ([item], after)
      | _ => none

def readFields : Nat → List Char → Option (List (String × Json) × List Char)
  | 0, _ => none
  | fuel + 1, text =>
      match skipSpace text with
      | '"' :: rest => do
          let (name, rest) ← readString 0 rest
          match skipSpace rest with
          | ':' :: rest =>
              let (value, rest) ← readValue fuel rest
              match skipSpace rest with
              | ',' :: rest =>
                  let (fields, after) ← readFields fuel rest
                  return ((String.ofList name, value) :: fields, after)
              | '\x7d' :: after => return ([(String.ofList name, value)], after)
              | _ => none
          | _ => none
      | _ => none

end

/-- `JSON.parse(text)`; `none` is a `SyntaxError`. -/
def parse (text : String) : Option Json :=
  match readValue numbers (text.toList.length + 1) text.toList with
  | some (value, rest) => if skipSpace rest = [] then some value else none
  | none => none

end Reading

/-! ## Strings that were written -/

theorem codeUnit_hexDigits : ∀ value < 0x20,
    codeUnit ('0' :: '0' :: hexDigits value) = some value := by decide

/-- An escape is read as the character it is for. -/
theorem readString_escape (c : Char) (rest : List Char) :
    readString 0 (escape c ++ rest) =
      (readString 0 rest).map fun (text, after) => (c :: text, after) := by
  have single (letter read : Char) (known : unescape letter = some read) (plain : letter ≠ 'u') :
      readString 0 ('\\' :: letter :: rest) =
        (readString 0 rest).map fun (text, after) => (read :: text, after) := by
    have skips : readString 1 (letter :: rest) = readString 0 rest := rfl
    rw [readString.eq_def]
    simp only [if_neg (by decide : ¬ '\\' = '"'), if_true, known, skips]
    cases readString 0 rest <;> rfl
  unfold escape
  split
  · rename_i same
    rw [same]
    exact single '"' '"' rfl (by decide)
  split
  · rename_i same
    rw [same]
    exact single '\\' '\\' rfl (by decide)
  split
  · rename_i same
    rw [same]
    exact single 'b' _ rfl (by decide)
  split
  · rename_i same
    rw [same]
    exact single 'f' _ rfl (by decide)
  split
  · rename_i same
    rw [same]
    exact single 'n' _ rfl (by decide)
  split
  · rename_i same
    rw [same]
    exact single 'r' _ rfl (by decide)
  split
  · rename_i same
    rw [same]
    exact single 't' _ rfl (by decide)
  split
  · rename_i small
    have unit : readUnit ('0' :: '0' :: (hexDigits c.toNat ++ rest)) = some (c, 4) := by
      have four : ('0' :: '0' :: (hexDigits c.toNat ++ rest)).take 4 =
          '0' :: '0' :: hexDigits c.toNat := by simp [hexDigits]
      rw [readUnit, four, codeUnit_hexDigits c.toNat small, Option.map_some,
        if_pos (Or.inl (by omega)), Char.ofNat_toNat]
    show readString 0 ('\\' :: 'u' :: '0' :: '0' :: (hexDigits c.toNat ++ rest)) = _
    rw [readString]
    simp only [if_neg (by decide : ¬ '\\' = '"'), if_true, unit]
    have skips : readString (4 + 1) ('u' :: '0' :: '0' :: (hexDigits c.toNat ++ rest)) =
        readString 0 rest := rfl
    rw [Option.bind_eq_bind, Option.bind_some, skips]
    cases readString 0 rest <;> rfl
  · rename_i noQuote noBackslash _ _ _ _ _ printable
    rw [List.singleton_append, readString.eq_def]
    simp only [if_neg noQuote, if_neg noBackslash, if_neg printable]

theorem readString_flatMap (letters rest : List Char) :
    readString 0 (letters.flatMap escape ++ '"' :: rest) = some (letters, rest) := by
  induction letters with
  | nil => rfl
  | cons c letters ih =>
      rw [List.flatMap_cons, List.append_assoc, readString_escape, ih]
      rfl

theorem readString_quote (text : String) (rest : List Char) :
    ∃ body, quote text ++ rest = '"' :: body ∧
      readString 0 body = some (text.toList, rest) := by
  refine ⟨text.toList.flatMap escape ++ '"' :: rest, ?_, readString_flatMap text.toList rest⟩
  simp [quote]

/-! ## Values that were written -/

section RoundTrip

variable (numbers : NumberText)

/-- A numeral ends here. -/
def Follows (rest : List Char) : Prop := ∀ c ∈ rest.head?, isNumeral c = false

theorem follows_cons {c : Char} (other : isNumeral c = false) (rest : List Char) :
    Follows (c :: rest) := by
  intro first same
  cases same
  exact other

theorem skipSpace_cons {c : Char} (letter : isSpace c = false) (rest : List Char) :
    skipSpace (c :: rest) = c :: rest := by
  rw [skipSpace, List.dropWhile_cons_of_neg (by simp [letter])]

/-- A letter that begins a value. -/
structure Opens (c : Char) : Prop where
  letter : isSpace c = false
  unclosed : c ≠ ']'

theorem opens_numeral {c : Char} (numeral : isNumeral c = true) : Opens c := by
  have other (d : Char) (not : isNumeral d = false) : c ≠ d := by
    rintro rfl
    rw [not] at numeral
    cases numeral
  refine ⟨?_, other ']' (by decide)⟩
  simp [isSpace, other ' ' (by decide), other '\t' (by decide), other '\n' (by decide),
    other '\r' (by decide)]

theorem write_opens (value : Json) :
    ∃ c rest, write numbers value = c :: rest ∧ Opens c := by
  have plain (c : Char) (rest : List Char) (letter : isSpace c = false) (unclosed : c ≠ ']') :
      ∃ c' rest', c :: rest = c' :: rest' ∧ Opens c' := ⟨c, rest, rfl, letter, unclosed⟩
  cases value with
  | null => exact plain _ _ (by decide) (by decide)
  | bool value => cases value <;> exact plain _ _ (by decide) (by decide)
  | num value =>
      obtain ⟨c, rest, same⟩ := List.exists_cons_of_ne_nil (numbers.nonempty value)
      refine ⟨c, rest, same, opens_numeral (numbers.numeral value c ?_)⟩
      rw [same]
      exact List.mem_cons_self
  | str value => exact plain _ _ (by decide) (by decide)
  | arr items => exact plain _ _ (by decide) (by decide)
  | obj fields => exact plain _ _ (by decide) (by decide)

theorem write_length_pos (value : Json) : 1 ≤ (write numbers value).length := by
  obtain ⟨c, rest, same, -⟩ := write_opens numbers value
  rw [same, List.length_cons]
  omega

theorem readNumber_write (value : ℚ) {rest : List Char} (follows : Follows rest) :
    readNumber numbers (numbers.write value ++ rest) = some (.num value, rest) := by
  have ends : rest.takeWhile isNumeral = [] ∧ rest.dropWhile isNumeral = rest := by
    cases rest with
    | nil => exact ⟨rfl, rfl⟩
    | cons c rest =>
        have other := follows c rfl
        exact ⟨List.takeWhile_cons_of_neg (by simp [other]),
          List.dropWhile_cons_of_neg (by simp [other])⟩
  unfold readNumber
  rw [List.takeWhile_append_of_pos (numbers.numeral value), ends.1, List.append_nil,
    List.dropWhile_append_of_pos (numbers.numeral value), ends.2]
  simp only [if_neg (numbers.nonempty value), numbers.read_write, Option.map_some]

/-- The value is read back from its text, whatever follows that does not go on with a
numeral. -/
def Reads (value : Json) : Prop := ∀ fuel rest, (write numbers value).length < fuel →
  Follows rest → readValue numbers fuel (write numbers value ++ rest) = some (value, rest)

variable {numbers}

theorem readItems_write {items : List Json} (nonempty : items ≠ [])
    (each : ∀ item ∈ items, Reads numbers item) {fuel : Nat}
    (enough : (writeItems numbers items).length + 1 < fuel) (after : List Char) :
    readItems numbers fuel (writeItems numbers items ++ ']' :: after) = some (items, after) := by
  induction items generalizing fuel with
  | nil => exact absurd rfl nonempty
  | cons item items ih =>
      obtain ⟨first, later⟩ := List.forall_mem_cons.mp each
      obtain ⟨fuel, rfl⟩ : ∃ less, fuel = less + 1 := ⟨fuel - 1, by omega⟩
      cases items with
      | nil =>
          have read := first fuel (']' :: after) (by rw [writeItems] at enough; omega)
            (follows_cons (by decide) after)
          rw [writeItems, readItems, read]
          simp only [Option.bind_eq_bind, Option.bind_some, skipSpace_cons (by decide : isSpace ']' = false)]
          rfl
      | cons next rest =>
          rw [writeItems, List.length_append, List.length_cons] at enough
          have positive := write_length_pos numbers item
          have read := first fuel (',' :: (writeItems numbers (next :: rest) ++ ']' :: after))
            (by omega) (follows_cons (by decide) _)
          have rests := ih (List.cons_ne_nil _ _) later (by omega : _ < fuel)
          rw [writeItems, List.append_assoc, List.cons_append, readItems, read]
          simp only [Option.bind_eq_bind, Option.bind_some, skipSpace_cons (by decide : isSpace ',' = false), rests]
          rfl

theorem readFields_write {fields : List (String × Json)} (nonempty : fields ≠ [])
    (each : ∀ field ∈ fields, Reads numbers field.2) {fuel : Nat}
    (enough : (writeFields numbers fields).length + 1 < fuel) (after : List Char) :
    readFields numbers fuel (writeFields numbers fields ++ '\x7d' :: after) =
      some (fields, after) := by
  induction fields generalizing fuel with
  | nil => exact absurd rfl nonempty
  | cons field fields ih =>
      obtain ⟨name, value⟩ := field
      obtain ⟨first, later⟩ : Reads numbers value ∧ ∀ other ∈ fields, Reads numbers other.2 :=
        List.forall_mem_cons.mp each
      obtain ⟨fuel, rfl⟩ : ∃ less, fuel = less + 1 := ⟨fuel - 1, by omega⟩
      cases fields with
      | nil =>
          rw [writeFields, List.length_append, List.length_cons] at enough
          obtain ⟨body, quoted, named⟩ := readString_quote name
            (':' :: (write numbers value ++ '\x7d' :: after))
          have read := first fuel ('\x7d' :: after) (by omega) (follows_cons (by decide) after)
          rw [writeFields, List.append_assoc, List.cons_append, quoted, readFields,
            skipSpace_cons (by decide)]
          simp only [named, Option.bind_eq_bind, Option.bind_some,
            skipSpace_cons (by decide : isSpace ':' = false), read,
            skipSpace_cons (by decide : isSpace '\x7d' = false), String.ofList_toList]
          rfl
      | cons next rest =>
          rw [writeFields, List.length_append, List.length_cons, List.length_append,
            List.length_cons] at enough
          obtain ⟨body, quoted, named⟩ := readString_quote name
            (':' :: (write numbers value ++ ',' ::
              (writeFields numbers (next :: rest) ++ '\x7d' :: after)))
          have read := first fuel (',' :: (writeFields numbers (next :: rest) ++ '\x7d' :: after))
            (by omega) (follows_cons (by decide) _)
          have rests := ih (List.cons_ne_nil _ _) later (by omega : _ < fuel)
          rw [writeFields, List.append_assoc, List.cons_append, List.append_assoc, List.cons_append,
            quoted, readFields, skipSpace_cons (by decide)]
          simp only [named, Option.bind_eq_bind, Option.bind_some,
            skipSpace_cons (by decide : isSpace ':' = false), read,
            skipSpace_cons (by decide : isSpace ',' = false), rests, String.ofList_toList]
          rfl

theorem entries_ofFields {fields : List (String × Json)} (nodup : (fields.map Prod.fst).Nodup) :
    (JsonObject.ofFields fields).entries = fields :=
  OrderedMap.entries_setAll .empty nodup fun _ _ => rfl

/-- A value is read back from its text. -/
theorem reads {value : Json} (distinct : value.Distinct) : Reads numbers value := by
  induction distinct with
  | null =>
      rintro (_ | fuel) rest enough follows
      · cases enough
      · simp [write, readValue, skipSpace_cons (by decide : isSpace 'n' = false), literal]
  | bool value =>
      rintro (_ | fuel) rest enough follows
      · cases enough
      · cases value with
        | true => simp [write, readValue, skipSpace_cons (by decide : isSpace 't' = false), literal]
        | false =>
            simp [write, readValue, skipSpace_cons (by decide : isSpace 'f' = false), literal]
  | num value =>
      rintro (_ | fuel) rest enough follows
      · cases enough
      · obtain ⟨c, tail, same⟩ := List.exists_cons_of_ne_nil (numbers.nonempty value)
        have numeral : isNumeral c = true := numbers.numeral value c (by simp [same])
        have other (d : Char) (not : isNumeral d = false) : c ≠ d := by
          rintro rfl
          rw [not] at numeral
          cases numeral
        have read := readNumber_write numbers value follows
        rw [same, List.cons_append] at read
        rw [write, same, List.cons_append, readValue, skipSpace_cons (opens_numeral numeral).letter]
        simp only [if_neg (other '"' (by decide)), if_neg (other '[' (by decide)),
          if_neg (other '\x7b' (by decide)), if_neg (other 'n' (by decide)),
          if_neg (other 't' (by decide)), if_neg (other 'f' (by decide)), read]
  | str value =>
      rintro (_ | fuel) rest enough follows
      · cases enough
      · obtain ⟨body, quoted, named⟩ := readString_quote value rest
        rw [write, quoted, readValue, skipSpace_cons (by decide)]
        simp only [if_true, named, Option.map_some, String.ofList_toList]
  | @arr items each ih =>
      rintro (_ | fuel) rest enough follows
      · cases enough
      · rw [write, List.length_cons, List.length_append, List.length_singleton] at enough
        rw [write, List.cons_append, List.append_assoc, List.singleton_append, readValue,
          skipSpace_cons (by decide)]
        simp only [if_neg (by decide : ¬ '[' = '"'), if_true]
        cases items with
        | nil => rfl
        | cons item items =>
            have read := readItems_write (List.cons_ne_nil item items) ih
              (by omega : _ < fuel) rest
            obtain ⟨c, tail, same, opens⟩ : ∃ c tail,
                writeItems numbers (item :: items) = c :: tail ∧ Opens c := by
              obtain ⟨c, tail, same, opens⟩ := write_opens numbers item
              cases items with
              | nil => exact ⟨c, tail, by rw [writeItems, same], opens⟩
              | cons next items =>
                  exact ⟨c, _, by rw [writeItems, same, List.cons_append], opens⟩
            rw [same, List.cons_append] at read ⊢
            rw [skipSpace_cons opens.letter]
            split
            · rename_i closed
              exact absurd (List.cons.inj closed).1 opens.unclosed
            · rw [read]
              rfl
  | @obj fields nodup each ih =>
      rintro (_ | fuel) rest enough follows
      · cases enough
      · rw [write, List.length_cons, List.length_append, List.length_singleton] at enough
        rw [write, List.cons_append, List.append_assoc, List.singleton_append, readValue,
          skipSpace_cons (by decide)]
        simp only [if_neg (by decide : ¬ '\x7b' = '"'), if_neg (by decide : ¬ '\x7b' = '['), if_true]
        cases fields with
        | nil => rfl
        | cons field fields =>
            have read := readFields_write (List.cons_ne_nil field fields) ih
              (by omega : _ < fuel) rest
            obtain ⟨tail, same⟩ : ∃ tail, writeFields numbers (field :: fields) = '"' :: tail := by
              obtain ⟨name, value⟩ := field
              cases fields with
              | nil => exact ⟨_, rfl⟩
              | cons next fields => exact ⟨_, rfl⟩
            rw [same, List.cons_append] at read ⊢
            rw [skipSpace_cons (by decide)]
            split
            · rename_i closed
              cases closed
            · rw [read, Option.map_some, entries_ofFields nodup]

variable (numbers)

/-- **JSON round trip.** -/
theorem parse_stringify {value : Json} (distinct : value.Distinct) :
    parse numbers (stringify numbers value) = some value := by
  have again : Reads numbers value := reads distinct
  have read := again ((write numbers value).length + 1) [] (Nat.lt_succ_self _) (by simp [Follows])
  rw [List.append_nil] at read
  unfold parse stringify
  rw [String.toList_ofList, read]
  rfl

end RoundTrip

/-! ## Sizes -/

/-- The bytes that a character takes beyond its code units. -/
def excess (c : Char) : Nat := c.utf8Size - if c.val < 0x10000 then 1 else 2

def excessOf (letters : List Char) : Nat := (letters.map excess).sum

theorem excessOf_append (a b : List Char) : excessOf (a ++ b) = excessOf a + excessOf b := by
  simp [excessOf]

theorem excessOf_cons (c : Char) (rest : List Char) :
    excessOf (c :: rest) = excess c + excessOf rest := by
  simp [excessOf]

theorem utf8Size_eq (c : Char) : c.utf8Size =
    if c.toNat ≤ 0x7f then 1 else if c.toNat ≤ 0x7ff then 2 else if c.toNat ≤ 0xffff then 3
    else 4 := by
  rfl

/-- `Buffer.byteLength(text, "utf8")` by `text.length`. -/
theorem utf8ByteSize_eq (text : String) :
    text.utf8ByteSize = utf16Length text + excessOf text.toList := by
  have bytes (c : Char) : c.utf8Size = (if c.val < 0x10000 then 1 else 2) + excess c := by
    have most : (if c.val < 0x10000 then 1 else 2) ≤ c.utf8Size := by
      have units : c.val < 0x10000 ↔ c.toNat < 0x10000 := UInt32.lt_iff_toNat_lt
      rw [utf8Size_eq]
      simp only [units]
      split_ifs <;> omega
    unfold excess
    omega
  have counted (letters : List Char) (n : Nat) :
      letters.foldl (fun length c => length + if c.val < 0x10000 then 1 else 2) n +
        excessOf letters = n + (String.ofList letters).utf8ByteSize := by
    induction letters generalizing n with
    | nil => rfl
    | cons c rest ih =>
        have later := ih (n + if c.val < 0x10000 then 1 else 2)
        rw [List.foldl_cons, excessOf_cons, String.ofList_cons, String.utf8ByteSize_append,
          String.utf8ByteSize_singleton, bytes c]
        omega
  have all := counted text.toList 0
  rw [String.ofList_toList] at all
  unfold utf16Length
  omega

theorem excess_ascii {c : Char} (ascii : c.toNat < 0x80) : excess c = 0 := by
  have one : c.utf8Size = 1 := by
    rw [utf8Size_eq, if_pos (Nat.le_of_lt_succ ascii)]
  unfold excess
  rw [one]
  split <;> rfl

theorem excessOf_ascii {letters : List Char} (ascii : ∀ c ∈ letters, c.toNat < 0x80) :
    excessOf letters = 0 := by
  refine List.sum_eq_zero fun bytes member => ?_
  obtain ⟨c, listed, rfl⟩ := List.mem_map.mp member
  exact excess_ascii (ascii c listed)

/-- What stands between two letters of ASCII. -/
theorem excessOf_between {first last : Char} (opening : first.toNat < 0x80)
    (closing : last.toNat < 0x80) (body : List Char) :
    excessOf (first :: (body ++ [last])) = excessOf body := by
  rw [excessOf_cons, excessOf_append, excessOf_cons, excess_ascii opening, excess_ascii closing]
  simp [excessOf]

theorem excessOf_escape (c : Char) : excessOf (escape c) = excess c := by
  have spelled (ascii : c.toNat < 0x80) (written : (escape c).all (·.toNat < 0x80) = true) :
      excessOf (escape c) = excess c := by
    rw [excess_ascii ascii, excessOf_ascii (by simpa using written)]
  by_cases special : c = '"' ∨ c = '\\' ∨ c = '\x08' ∨ c = '\x0c' ∨ c = '\n' ∨ c = '\r' ∨ c = '\t'
  · rcases special with rfl | rfl | rfl | rfl | rfl | rfl | rfl
    all_goals exact spelled (by decide) (by decide)
  · simp only [not_or] at special
    obtain ⟨h₁, h₂, h₃, h₄, h₅, h₆, h₇⟩ := special
    by_cases control : c.toNat < 0x20
    · have hex : ∀ value < 0x20, (hexDigits value).all (·.toNat < 0x80) = true := by decide
      refine spelled (by omega) ?_
      simp only [escape, if_neg h₁, if_neg h₂, if_neg h₃, if_neg h₄, if_neg h₅, if_neg h₆,
        if_neg h₇, if_pos control, List.all_cons]
      exact hex c.toNat control
    · simp [escape, h₁, h₂, h₃, h₄, h₅, h₆, h₇, control, excessOf]

theorem excessOf_quote (text : String) : excessOf (quote text) = excessOf text.toList := by
  have body (letters : List Char) : excessOf (letters.flatMap escape) = excessOf letters := by
    induction letters with
    | nil => rfl
    | cons c rest ih =>
        rw [List.flatMap_cons, excessOf_append, excessOf_escape, ih, excessOf_cons]
  rw [quote, excessOf_between (by decide) (by decide), body]

end JsonText

mutual

/-- The characters of the strings and the names of a value. -/
def Json.letters : Json → List Char
  | .str value => value.toList
  | .arr items => Json.lettersOfItems items
  | .obj fields => Json.lettersOfFields fields
  | _ => []

def Json.lettersOfItems : List Json → List Char
  | [] => []
  | item :: rest => item.letters ++ Json.lettersOfItems rest

def Json.lettersOfFields : List (String × Json) → List Char
  | [] => []
  | (name, value) :: rest => name.toList ++ (value.letters ++ Json.lettersOfFields rest)

end

/-- A field that may be absent. -/
def Json.lettersOf (value : Option Json) : List Char := value.elim [] Json.letters

theorem Json.Distinct.ofPresent {fields : List (String × Option Json)}
    (nodup : (fields.map Prod.fst).Nodup)
    (each : ∀ field ∈ fields, ∀ value, field.2 = some value → value.Distinct) :
    (Json.ofPresent fields).Distinct := by
  have present : ∀ field ∈ fields.filterMap fun field => field.2.map (field.1, ·),
      ∃ given ∈ fields, given.1 = field.1 ∧ given.2 = some field.2 := by
    intro field member
    obtain ⟨given, listed, made⟩ := List.mem_filterMap.mp member
    obtain ⟨value, same, rfl⟩ := Option.map_eq_some_iff.mp made
    exact ⟨given, listed, rfl, same⟩
  refine .obj ?_ fun field member => ?_
  · refine nodup.sublist ?_
    clear each present nodup
    induction fields with
    | nil => exact List.Sublist.slnil
    | cons field fields ih =>
        cases given : field.2 with
        | none => simpa [given] using ih.cons _
        | some value => simpa [given] using ih
  · obtain ⟨given, listed, -, same⟩ := present field member
    exact each given listed _ same

namespace JsonText

theorem excessOf_ofPresent {fields : List (String × Option Json)}
    (ascii : ∀ field ∈ fields, excessOf field.1.toList = 0) :
    excessOf (Json.ofPresent fields).letters =
      (fields.map fun field => excessOf (Json.lettersOf field.2)).sum := by
  rw [Json.ofPresent, Json.letters]
  induction fields with
  | nil => rfl
  | cons field fields ih =>
      obtain ⟨first, later⟩ := List.forall_mem_cons.mp ascii
      obtain ⟨name, given⟩ := field
      rw [List.map_cons, List.sum_cons, ← ih later]
      cases given with
      | none => simp [Json.lettersOf, excessOf]
      | some value =>
          simp only [List.filterMap_cons, Option.map_some]
          rw [Json.lettersOfFields, excessOf_append, excessOf_append,
            show excessOf name.toList = 0 from first, Nat.zero_add]
          rfl

section Sizes

variable (numbers : NumberText)

theorem excessOf_items {items : List Json}
    (each : ∀ item ∈ items, excessOf (write numbers item) = excessOf item.letters) :
    excessOf (writeItems numbers items) = excessOf (Json.lettersOfItems items) := by
  induction items with
  | nil => rfl
  | cons item items ih =>
      obtain ⟨first, later⟩ := List.forall_mem_cons.mp each
      rw [Json.lettersOfItems, excessOf_append, ← first]
      cases items with
      | nil => rfl
      | cons next rest =>
          rw [writeItems, excessOf_append, excessOf_cons, ih later, excess_ascii (by decide)]
          omega

theorem excessOf_fields {fields : List (String × Json)}
    (each : ∀ field ∈ fields, excessOf (write numbers field.2) = excessOf field.2.letters) :
    excessOf (writeFields numbers fields) = excessOf (Json.lettersOfFields fields) := by
  induction fields with
  | nil => rfl
  | cons field fields ih =>
      obtain ⟨name, value⟩ := field
      obtain ⟨first, later⟩ : excessOf (write numbers value) = excessOf value.letters ∧
          ∀ other ∈ fields, excessOf (write numbers other.2) = excessOf other.2.letters :=
        List.forall_mem_cons.mp each
      rw [Json.lettersOfFields, excessOf_append, excessOf_append, ← first]
      cases fields with
      | nil =>
          rw [writeFields, excessOf_append, excessOf_cons, excessOf_quote,
            excess_ascii (by decide)]
          simp [Json.lettersOfFields, excessOf]
      | cons next rest =>
          rw [writeFields, excessOf_append, excessOf_cons, excessOf_append, excessOf_cons,
            excessOf_quote, ih later, excess_ascii (by decide), excess_ascii (by decide)]
          omega

theorem excessOf_write {value : Json} (distinct : value.Distinct) :
    excessOf (write numbers value) = excessOf value.letters := by
  induction distinct with
  | null => rfl
  | bool value => cases value <;> rfl
  | num value =>
      show excessOf (numbers.write value) = 0
      refine excessOf_ascii fun c member => ?_
      have numeral := numbers.numeral value c member
      simp only [isNumeral, Bool.or_eq_true, decide_eq_true_eq] at numeral
      rcases numeral with ((((digit | rfl) | rfl) | rfl) | rfl) | rfl
      · have most : c.toNat ≤ '9'.toNat := by
          simp only [Char.isDigit, Bool.and_eq_true, decide_eq_true_eq] at digit
          exact UInt32.le_iff_toNat_le.mp digit.2
        exact Nat.lt_of_le_of_lt most (by decide)
      all_goals decide
  | str value =>
      rw [write, excessOf_quote, Json.letters]
  | arr each ih =>
      rw [write, excessOf_between (by decide) (by decide), excessOf_items numbers ih,
        Json.letters]
  | obj nodup each ih =>
      rw [write, excessOf_between (by decide) (by decide), excessOf_fields numbers ih,
        Json.letters]

/-- **The bytes of a text** are its code units and the excess of its strings. -/
theorem utf8Length_stringify {value : Json} (distinct : value.Distinct) :
    (stringify numbers value).utf8ByteSize =
      utf16Length (stringify numbers value) + excessOf value.letters := by
  rw [utf8ByteSize_eq, stringify, String.toList_ofList, excessOf_write numbers distinct]

end Sizes

/-! ## Numerals of whole numbers -/

def writeInteger (value : ℤ) : List Char :=
  if value < 0 then '-' :: Nat.toDigits 10 value.natAbs else Nat.toDigits 10 value.natAbs

def readInteger : List Char → ℤ
  | '-' :: digits => -(Nat.ofDigitChars 10 digits 0 : ℤ)
  | digits => Nat.ofDigitChars 10 digits 0

/-- Whole numbers in decimal; behind a fraction's numerator stands its denominator. -/
def writeFraction (value : ℚ) : List Char :=
  writeInteger value.num ++ if value.den = 1 then [] else 'E' :: Nat.toDigits 10 value.den

def readFraction (text : List Char) : Option ℚ :=
  let whole := readInteger (text.takeWhile (· ≠ 'E'))
  match text.dropWhile (· ≠ 'E') with
  | [] => some whole
  | _ :: digits => some (whole / (Nat.ofDigitChars 10 digits 0 : ℕ))

theorem isDigit_toDigits {n : Nat} {c : Char} (member : c ∈ Nat.toDigits 10 n) :
    c.isDigit = true := Nat.isDigit_of_mem_toDigits (by decide) (by decide) member

theorem writeInteger_spelled {value : ℤ} {c : Char} (member : c ∈ writeInteger value) :
    c = '-' ∨ c.isDigit = true := by
  unfold writeInteger at member
  split at member
  · exact (List.mem_cons.mp member).imp id isDigit_toDigits
  · exact .inr (isDigit_toDigits member)

theorem readInteger_write (value : ℤ) : readInteger (writeInteger value) = value := by
  have digits : Nat.ofDigitChars 10 (Nat.toDigits 10 value.natAbs) 0 = value.natAbs :=
    Nat.ofDigitChars_ten_toDigits
  unfold writeInteger
  split
  · show -(Nat.ofDigitChars 10 (Nat.toDigits 10 value.natAbs) 0 : ℤ) = value
    rw [digits]
    omega
  · have unsigned : readInteger (Nat.toDigits 10 value.natAbs) =
        Nat.ofDigitChars 10 (Nat.toDigits 10 value.natAbs) 0 := by
      unfold readInteger
      split
      · rename_i rest same
        have digit := isDigit_toDigits (same ▸ List.mem_cons_self : '-' ∈ _)
        exact absurd digit (by decide)
      · rfl
    rw [unsigned, digits]
    omega

theorem readFraction_write (value : ℚ) : readFraction (writeFraction value) = some value := by
  have before : ∀ c ∈ writeInteger value.num, decide (c ≠ 'E') = true := by
    intro c member
    rw [decide_eq_true_eq]
    rintro rfl
    rcases writeInteger_spelled member with same | digit
    · exact absurd same (by decide)
    · exact absurd digit (by decide)
  unfold readFraction writeFraction
  rw [List.takeWhile_append_of_pos before, List.dropWhile_append_of_pos before]
  by_cases integer : value.den = 1
  · simp only [if_pos integer, List.takeWhile_nil, List.dropWhile_nil, List.append_nil,
      readInteger_write]
    exact congrArg some (Rat.den_eq_one_iff value |>.mp integer)
  · have digits : Nat.ofDigitChars 10 (Nat.toDigits 10 value.den) 0 = value.den :=
      Nat.ofDigitChars_ten_toDigits
    simp only [if_neg integer]
    rw [List.takeWhile_cons_of_neg (by decide), List.dropWhile_cons_of_neg (by decide),
      List.append_nil, readInteger_write]
    simp only [digits]
    exact congrArg some (Rat.num_div_den value)

/-- Numerals of whole numbers as they are. -/
def wholeNumbers : NumberText where
  write := writeFraction
  read := readFraction
  nonempty value := by
    have some_digit : writeInteger value.num ≠ [] := by
      unfold writeInteger
      split
      · exact List.cons_ne_nil _ _
      · exact Nat.toDigits_ne_nil
    exact fun none => some_digit (List.append_eq_nil_iff.mp none).1
  numeral value c member := by
    rcases List.mem_append.mp member with whole | rest
    · rcases writeInteger_spelled whole with rfl | digit
      · decide
      · simp [isNumeral, digit]
    · split at rest
      · cases rest
      · rcases List.mem_cons.mp rest with rfl | member
        · decide
        · simp [isNumeral, isDigit_toDigits member]
  read_write := readFraction_write
  whole n _ := by
    have unsigned : ¬((n : ℚ).num < 0) := by
      rw [Rat.num_natCast]
      omega
    rw [writeFraction, Rat.den_natCast, if_pos rfl, List.append_nil, writeInteger,
      if_neg unsigned, Rat.num_natCast, Int.natAbs_natCast]

example : stringify wholeNumbers (.arr [.num (-7), .str "a\"\n", .obj [("k", .null)]]) =
    "[-7,\"a\\\"\\n\",\x7b\"k\":null\x7d]" := by decide +kernel

example : (parse wholeNumbers " [ 7 , \"\\u0041\\t\" ] ").map (stringify wholeNumbers) =
    some "[7,\"A\\t\"]" := by decide +kernel

end JsonText

end Aeolus.Core
