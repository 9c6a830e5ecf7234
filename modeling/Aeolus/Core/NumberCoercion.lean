/-
# Aeolus.Core.NumberCoercion — `Number(value)` of a parsed value

ECMAScript's conversion to a number, on what `JSON.parse` returns.  A text is a number when
what is left of it after trimming is a literal, and zero when nothing is left; an array goes
by its text, so that an empty one is zero and one of a single number is that number; an
object is no number, and throws when it hides `toString`.

Numbers are exact.
-/
import Mathlib.Algebra.Order.Field.Power
import Mathlib.Data.Nat.Digits.Defs
import Aeolus.Core.Json
import Aeolus.Core.Text

namespace Aeolus.Core

/-- A number of the language. -/
inductive JsNumber where
  | nan
  | finite (value : ℚ)
  | infinity (negative : Bool)
  deriving DecidableEq

namespace JsNumber

/-- `a < b`; nothing is less than `NaN`, or more. -/
def lt : JsNumber → JsNumber → Bool
  | .finite a, .finite b => a < b
  | .finite _, .infinity negative => !negative
  | .infinity negative, .finite _ => negative
  | .infinity a, .infinity b => a && !b
  | _, _ => false

/-- `a === b` -/
def eq : JsNumber → JsNumber → Bool
  | .finite a, .finite b => a = b
  | .infinity a, .infinity b => a == b
  | _, _ => false

end JsNumber

/-! ## Literals -/

def digitsOf (digits : List Char) : Nat :=
  Nat.ofDigits 10 (digits.reverse.map fun c => c.toNat - '0'.toNat)

/-- A sign, if there is one, and what follows. -/
def signed : List Char → Bool × List Char
  | '+' :: rest => (false, rest)
  | '-' :: rest => (true, rest)
  | rest => (false, rest)

/-- The exponent of a decimal literal: none, or `e` with digits up to the end. -/
def exponentOf : List Char → Option ℤ
  | [] => some 0
  | mark :: rest =>
      let (negative, digits) := signed rest
      if (mark = 'e' ∨ mark = 'E') ∧ digits ≠ [] ∧ digits.all Char.isDigit then
        some (if negative then -(digitsOf digits : ℤ) else digitsOf digits)
      else none

/-- Digits behind a point, and the rest. -/
def fractionOf : List Char → List Char × List Char
  | '.' :: rest => (rest.takeWhile Char.isDigit, rest.dropWhile Char.isDigit)
  | rest => ([], rest)

/-- A decimal literal with its sign: digits before or behind a point, and an exponent. -/
def decimalLiteral (text : List Char) : Option ℚ :=
  let (negative, unsigned) := signed text
  let whole := unsigned.takeWhile Char.isDigit
  let (fraction, rest) := fractionOf (unsigned.dropWhile Char.isDigit)
  if whole = [] ∧ fraction = [] then none
  else (exponentOf rest).map fun exponent : ℤ =>
    (if negative then -1 else 1) * (digitsOf (whole ++ fraction) : ℚ) *
      10 ^ (exponent - fraction.length)

def digitValue (c : Char) : Nat :=
  if c.isDigit then c.toNat - '0'.toNat
  else if 'a' ≤ c ∧ c ≤ 'z' then c.toNat - 'a'.toNat + 10
  else if 'A' ≤ c ∧ c ≤ 'Z' then c.toNat - 'A'.toNat + 10
  else 36

/-- `0x…`, `0o…` and `0b…`, without a sign. -/
def radixLiteral : List Char → Option ℚ
  | '0' :: mark :: digits =>
      let radix :=
        if mark = 'x' ∨ mark = 'X' then 16
        else if mark = 'o' ∨ mark = 'O' then 8
        else if mark = 'b' ∨ mark = 'B' then 2
        else 0
      if digits ≠ [] ∧ digits.all (fun c => digitValue c < radix) then
        some (Nat.ofDigits radix (digits.reverse.map digitValue) : ℕ)
      else none
  | _ => none

/-- A text that is a decimal literal, up to white space around it. -/
def decimalText (text : String) : Option ℚ := decimalLiteral (trim text).toList

/-- `Number(text)` -/
def textToNumber (text : String) : JsNumber :=
  match decimalText text with
  | some value => .finite value
  | none =>
      let (negative, unsigned) := signed (trim text).toList
      if trim text = "" then .finite 0
      else if unsigned = "Infinity".toList then .infinity negative
      else
        match radixLiteral (trim text).toList with
        | some value => .finite value
        | none => .nan

theorem textToNumber_decimal {text : String} {value : ℚ} (decimal : decimalText text = some value) :
    textToNumber text = .finite value := by
  unfold textToNumber
  rw [decimal]

/-! ## Values -/

/-- An object has no primitive value when its own `toString`, which is no function, stands in
front of the one it inherits. -/
def hidesToString (fields : List (String × Json)) : Bool :=
  fields.any fun field => field.1 == "toString"

inductive CoercionError where
  | cannotConvert
  deriving DecidableEq

mutual

/-- `Number(String(value))`, where `null` has no text; the way of an element of an array. -/
def elementToNumber : Json → Except CoercionError JsNumber
  | .null => .ok (.finite 0)
  | .bool _ => .ok .nan
  | .num value => .ok (.finite value)
  | .str text => .ok (textToNumber text)
  | .arr items => arrayToNumber items
  | .obj fields => if hidesToString fields then .error .cannotConvert else .ok .nan

/-- An array has the texts of its elements for its text, with commas between them. -/
def arrayToNumber : List Json → Except CoercionError JsNumber
  | [] => .ok (.finite 0)
  | [item] => elementToNumber item
  | item :: next :: rest => do
      discard (elementToNumber item)
      discard (arrayToNumber (next :: rest))
      return .nan

end

/-- `Number(value)`; `none` is `undefined`. -/
def toNumber : Option Json → Except CoercionError JsNumber
  | none => .ok .nan
  | some .null => .ok (.finite 0)
  | some (.bool value) => .ok (.finite (if value then 1 else 0))
  | some value => elementToNumber value

end Aeolus.Core
