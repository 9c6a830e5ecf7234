/-
# Aeolus.Storage.Duration — the language of durations

`src/data-store/duration.ts`.  A duration is a positive whole number and the letter of a unit.
The pattern of the parser takes any small letters for the unit and looks them up in an object
literal, which has a name that is no unit: under `constructor` it finds a function, and the
product is not a number.

* `accepts_documented_iff` — the parser keeps to the language on every text but those;
* `parse_format` — what is formatted is read back, in the largest unit that divides it;
* `duration_language_iff` — both.

Numbers are exact.
-/
import Mathlib
import Aeolus.Core.JsonText
import Aeolus.Core.NumberCoercion
import Aeolus.Storage.DataStoreQuery

namespace Aeolus.Storage.Duration

open Aeolus.Core
open JsonText (NumberText)

/-- `UNITS`, in the order of `unitOrder` -/
def unitOrder : List (String × ℕ) :=
  [("y", 31536000000), ("w", 604800000), ("d", 86400000), ("h", 3600000), ("m", 60000)]

/-- `Object.keys(UNITS).join(", ")` -/
def unitNames : String := "m, h, d, w, y"

/-- `value * multiplier`; a function is no number. -/
def times (value : ℕ) : Option ℚ → JsNumber
  | some multiplier => .finite (value * multiplier)
  | none => .nan

def parseDuration (input : String) : Except String JsNumber :=
  if input = "" ∨ trim input = "" then .error "Invalid duration: input must not be empty"
  else
    let trimmed := trim input
    if trimmed.toList.head? = some '-' then
      .error s!"Invalid duration \"{trimmed}\": negative durations are not supported"
    else if '.' ∈ trimmed.toList then
      .error (s!"Invalid duration \"{trimmed}\": decimal values are not supported, " ++
        "use integers only")
    else
      -- `/^(\d+)([a-z]+)$/`
      let numStr := trimmed.toList.takeWhile Char.isDigit
      let unit := trimmed.toList.dropWhile Char.isDigit
      if numStr = [] ∨ unit = [] ∨ ¬unit.all Char.isLower then
        .error (s!"Invalid duration \"{trimmed}\": expected format is a positive integer " ++
          s!"followed by a unit suffix ({unitNames})")
      else
        match unitMultiplier (String.ofList unit) with
        | none =>
            .error (s!"Invalid duration \"{trimmed}\": unknown unit \"{String.ofList unit}\". " ++
              s!"Supported units: {unitNames}")
        | some multiplier =>
            let value := Nat.ofDigitChars 10 numStr 0
            if value ≤ 0 then
              .error s!"Invalid duration \"{trimmed}\": value must be a positive integer"
            else .ok (times value multiplier)

/-- The loop over `unitOrder`. -/
def formatIn (numbers : NumberText) (ms : ℚ) : List (String × ℕ) → Except String String
  | [] =>
      let given := String.ofList (numbers.write ms)
      .error (s!"Cannot format {given}ms as a valid duration: " ++
        "not evenly divisible by any supported unit")
  | (suffix, multiplier) :: units =>
      -- `ms % multiplier === 0`
      if (ms / multiplier).den = 1 then
        .ok (String.ofList (numbers.write (ms / multiplier)) ++ suffix)
      else formatIn numbers ms units

def formatDuration (numbers : NumberText) (ms : ℚ) : Except String String :=
  if ms ≤ 0 then
    let given := String.ofList (numbers.write ms)
    .error s!"Invalid milliseconds: value must be positive, got {given}"
  else formatIn numbers ms unitOrder

/-! ## The language -/

/-- A positive whole number in decimal, and the letter of a unit. -/
structure Spells (text : String) (n ms : ℕ) : Prop where
  positive : 0 < n
  spelled : ∃ digits suffix, text.toList = digits ++ suffix.toList ∧ digits ≠ [] ∧
    (∀ c ∈ digits, c.isDigit = true) ∧ Nat.ofDigitChars 10 digits 0 = n ∧
    (suffix, ms) ∈ unitOrder

/-- The parser accepts what spells a duration, and answers with its milliseconds. -/
def Documented (input : String) : Prop :=
  ∀ result, parseDuration input = .ok result ↔
    ∃ n ms, Spells (trim input) n ms ∧ result = .finite (n * ms)

/-- A positive number of what is no unit. -/
def NamesConstructor (text : String) : Prop :=
  ∃ digits, text.toList = digits ++ "constructor".toList ∧ (∀ c ∈ digits, c.isDigit = true) ∧
    0 < Nat.ofDigitChars 10 digits 0

/-! ## Units -/

theorem unitMultiplier_cases {unit : String} {multiplier : Option ℚ}
    (known : unitMultiplier unit = some multiplier) :
    (∃ ms : ℕ, (unit, ms) ∈ unitOrder ∧ multiplier = some ms) ∨
      unit = "constructor" ∧ multiplier = none := by
  unfold unitMultiplier at known
  split at known <;> cases known
  · exact .inl ⟨60000, by decide, rfl⟩
  · exact .inl ⟨3600000, by decide, rfl⟩
  · exact .inl ⟨86400000, by decide, rfl⟩
  · exact .inl ⟨604800000, by decide, rfl⟩
  · exact .inl ⟨31536000000, by decide, rfl⟩
  · exact .inr ⟨rfl, rfl⟩

theorem unitMultiplier_unit {unit : String} {ms : ℕ} (listed : (unit, ms) ∈ unitOrder) :
    unitMultiplier unit = some (some (ms : ℚ)) := by
  simp only [unitOrder, List.mem_cons, Prod.mk.injEq, List.not_mem_nil, or_false] at listed
  rcases listed with ⟨rfl, rfl⟩ | ⟨rfl, rfl⟩ | ⟨rfl, rfl⟩ | ⟨rfl, rfl⟩ | ⟨rfl, rfl⟩ <;> rfl

/-- What is looked up with an answer is a word of small letters. -/
theorem unit_letters {unit : String} {multiplier : Option ℚ}
    (known : unitMultiplier unit = some multiplier) :
    unit.toList ≠ [] ∧ (unit.toList.all Char.isLower) = true := by
  unfold unitMultiplier at known
  split at known <;> cases known <;> exact ⟨by decide, by decide⟩

theorem isLower_plain {c : Char} (lower : c.isLower = true) :
    c.isDigit = false ∧ c ≠ '.' ∧ c ≠ '-' := by
  refine ⟨?_, ?_, ?_⟩
  · simp only [Char.isLower, Bool.and_eq_true, decide_eq_true_eq] at lower
    simp only [Char.isDigit, Bool.and_eq_false_iff, decide_eq_false_iff_not]
    refine .inr fun small => ?_
    have first := UInt32.le_iff_toNat_le.mp lower.1
    have last := UInt32.le_iff_toNat_le.mp small
    have apart : ('9').val.toNat < ('a').val.toNat := by decide
    omega
  · rintro rfl
    exact absurd lower (by decide)
  · rintro rfl
    exact absurd lower (by decide)

/-! ## Parsing -/

theorem parseDuration_ok_iff (input : String) (result : JsNumber) :
    parseDuration input = .ok result ↔
      ∃ digits unit multiplier, (trim input).toList = digits ++ unit ∧ digits ≠ [] ∧
        (∀ c ∈ digits, c.isDigit = true) ∧ unitMultiplier (String.ofList unit) = some multiplier ∧
        0 < Nat.ofDigitChars 10 digits 0 ∧
        result = times (Nat.ofDigitChars 10 digits 0) multiplier := by
  constructor
  · intro parsed
    unfold parseDuration at parsed
    split at parsed
    · cases parsed
    dsimp only at parsed
    split at parsed
    · cases parsed
    split at parsed
    · cases parsed
    split at parsed
    · cases parsed
    rename_i shape
    split at parsed
    · cases parsed
    rename_i multiplier known
    split at parsed
    · cases parsed
    rename_i positive
    cases parsed
    simp only [not_or] at shape
    refine ⟨_, _, multiplier, List.takeWhile_append_dropWhile.symm, shape.1, ?_, known, ?_, rfl⟩
    · exact fun c member => List.mem_takeWhile_imp member
    · omega
  · rintro ⟨digits, unit, multiplier, spelled, nonempty, numeric, known, positive, rfl⟩
    obtain ⟨someUnit, lower⟩ := unit_letters known
    rw [String.toList_ofList] at someUnit lower
    have small : ∀ c ∈ unit, c.isLower = true := List.all_eq_true.mp lower
    obtain ⟨first, rest, rfl⟩ := List.exists_cons_of_ne_nil someUnit
    have letter := isLower_plain (small first List.mem_cons_self)
    have numStr : (trim input).toList.takeWhile Char.isDigit = digits := by
      rw [spelled, List.takeWhile_append_of_pos numeric,
        List.takeWhile_cons_of_neg (by simp [letter.1]), List.append_nil]
    have word : (trim input).toList.dropWhile Char.isDigit = first :: rest := by
      rw [spelled, List.dropWhile_append_of_pos numeric,
        List.dropWhile_cons_of_neg (by simp [letter.1])]
    have plain : ∀ c ∈ (trim input).toList, c ≠ '.' ∧ c ≠ '-' := by
      intro c member
      rw [spelled] at member
      rcases List.mem_append.mp member with digit | other
      · constructor
        · rintro rfl
          exact absurd (numeric _ digit) (by decide)
        · rintro rfl
          exact absurd (numeric _ digit) (by decide)
      · exact (isLower_plain (small c other)).2
    have trimmed : trim input ≠ "" := by
      intro none
      rw [none] at spelled
      cases digits with
      | nil => exact nonempty rfl
      | cons c digits => cases spelled
    have given : input ≠ "" := by
      rintro rfl
      exact trimmed rfl
    have unsigned : ¬(trim input).toList.head? = some '-' := by
      intro sign
      exact (plain '-' (List.mem_of_mem_head? sign)).2 rfl
    have noPoint : '.' ∉ (trim input).toList := fun point => (plain '.' point).1 rfl
    have shape : ¬(digits = [] ∨ first :: rest = [] ∨ ¬(first :: rest).all Char.isLower) := by
      simp only [not_or, not_not]
      exact ⟨nonempty, List.cons_ne_nil _ _, lower⟩
    unfold parseDuration
    rw [if_neg (by simp only [not_or]; exact ⟨given, trimmed⟩)]
    dsimp only
    rw [if_neg unsigned, if_neg noPoint, numStr, word, if_neg shape, known]
    dsimp only
    rw [if_neg (by omega)]

theorem accepts_documented_iff (input : String) :
    Documented input ↔ ¬NamesConstructor (trim input) := by
  constructor
  · rintro documented ⟨digits, spelled, numeric, positive⟩
    have nonempty : digits ≠ [] := by
      rintro rfl
      exact absurd positive (by decide)
    have parsed : parseDuration input = .ok .nan :=
      (parseDuration_ok_iff input .nan).mpr
        ⟨digits, "constructor".toList, none, spelled, nonempty, numeric, rfl, positive, rfl⟩
    obtain ⟨n, ms, -, number⟩ := (documented .nan).mp parsed
    cases number
  · intro ordinary result
    rw [parseDuration_ok_iff]
    constructor
    · rintro ⟨digits, unit, multiplier, spelled, nonempty, numeric, known, positive, rfl⟩
      rcases unitMultiplier_cases known with ⟨ms, listed, rfl⟩ | ⟨named, -⟩
      · refine ⟨_, ms, ⟨positive, digits, _, ?_, nonempty, numeric, rfl, listed⟩, rfl⟩
        rw [String.toList_ofList, spelled]
      · refine absurd ⟨digits, ?_, numeric, positive⟩ ordinary
        rw [← named, String.toList_ofList, spelled]
    · rintro ⟨n, ms, ⟨positive, digits, suffix, spelled, nonempty, numeric, rfl, listed⟩, rfl⟩
      refine ⟨digits, suffix.toList, some ms, spelled, nonempty, numeric, ?_, positive, rfl⟩
      rw [String.ofList_toList]
      exact unitMultiplier_unit listed

/-! ## Formatting -/

/-- The loop stops at the first unit that divides. -/
theorem formatIn_ok (numbers : NumberText) (ms : ℕ) :
    ∀ units : List (String × ℕ), (∀ unit ∈ units, unit.2 ≠ 0) → (∃ unit ∈ units, unit.2 ∣ ms) →
      ∃ larger suffix multiplier smaller, units = larger ++ (suffix, multiplier) :: smaller ∧
        (∀ unit ∈ larger, ¬unit.2 ∣ ms) ∧ multiplier ∣ ms ∧
        formatIn numbers ms units =
          .ok (String.ofList (numbers.write (ms / multiplier : ℕ)) ++ suffix)
  | [], _, ⟨_, member, _⟩ => absurd member List.not_mem_nil
  | (suffix, multiplier) :: units, nonzero, known => by
      have own : multiplier ≠ 0 := nonzero (suffix, multiplier) List.mem_cons_self
      by_cases divides : multiplier ∣ ms
      · refine ⟨[], suffix, multiplier, units, rfl, by simp, divides, ?_⟩
        rw [formatIn, if_pos ((Rat.den_div_natCast_eq_one_iff ms multiplier own).mpr divides),
          Nat.cast_div divides (Nat.cast_ne_zero.mpr own)]
      · have rest : ∃ unit ∈ units, unit.2 ∣ ms := by
          obtain ⟨unit, member, other⟩ := known
          rcases List.mem_cons.mp member with rfl | later
          · exact absurd other divides
          · exact ⟨unit, later, other⟩
        obtain ⟨larger, suffix', multiplier', smaller, split, refused, taken, formatted⟩ :=
          formatIn_ok numbers ms units (fun unit member => nonzero unit (.tail _ member)) rest
        refine ⟨(suffix, multiplier) :: larger, suffix', multiplier', smaller, ?_, ?_, taken, ?_⟩
        · rw [split, List.cons_append]
        · intro unit member
          rcases List.mem_cons.mp member with rfl | later
          · exact divides
          · exact refused unit later
        · have fraction : ((ms : ℚ) / multiplier).den ≠ 1 := fun whole =>
            divides ((Rat.den_div_natCast_eq_one_iff ms multiplier own).mp whole)
          rw [formatIn, if_neg fraction, formatted]

/-- What is formatted spells the milliseconds in the largest unit that divides them. -/
theorem formatDuration_ok (numbers : NumberText) {ms : ℕ} (positive : 0 < ms)
    (minutes : 60000 ∣ ms) (safe : ms < 2 ^ 53) :
    ∃ n suffix multiplier, (suffix, multiplier) ∈ unitOrder ∧ n * multiplier = ms ∧
      (∀ unit ∈ unitOrder, unit.2 ∣ ms → unit.2 ≤ multiplier) ∧
      formatDuration numbers ms = .ok (String.ofList (Nat.toDigits 10 n) ++ suffix) := by
  obtain ⟨larger, suffix, multiplier, smaller, order, refused, divides, formatted⟩ :=
    formatIn_ok numbers ms unitOrder (by decide) ⟨("m", 60000), by decide, minutes⟩
  have listed : (suffix, multiplier) ∈ unitOrder := by
    rw [order]
    exact List.mem_append_right larger List.mem_cons_self
  have descending : (larger ++ (suffix, multiplier) :: smaller).Pairwise fun a b => b.2 ≤ a.2 := by
    rw [← order]
    decide
  refine ⟨ms / multiplier, suffix, multiplier, listed, Nat.div_mul_cancel divides, ?_, ?_⟩
  · intro unit member divisor
    rw [order] at member
    rcases List.mem_append.mp member with early | late
    · exact absurd divisor (refused unit early)
    · rcases List.mem_cons.mp late with rfl | later
      · exact le_rfl
      · exact (List.pairwise_cons.mp (List.pairwise_append.mp descending).2.1).1 unit later
  · have small : ms / multiplier < 10 ^ 21 :=
      lt_of_le_of_lt (Nat.div_le_self ms multiplier) (safe.trans (by norm_num))
    rw [formatDuration, if_neg (by exact_mod_cast positive.not_ge), formatted,
      numbers.whole _ small]

theorem digit_not_white {c : Char} (digit : c.isDigit = true) : isWhiteSpace c = false := by
  simp only [Char.isDigit, Bool.and_eq_true, decide_eq_true_eq] at digit
  have low : 48 ≤ c.val.toNat := UInt32.le_iff_toNat_le.mp digit.1
  have high : c.val.toNat ≤ 57 := UInt32.le_iff_toNat_le.mp digit.2
  simp only [isWhiteSpace, Bool.or_eq_false_iff, Bool.and_eq_false_iff, decide_eq_false_iff_not,
    List.mem_cons, List.not_mem_nil, or_false, ← UInt32.toNat_inj, UInt32.le_iff_toNat_le]
  simp only [UInt32.reduceToNat]
  omega

/-- What spells a duration from its first letter on is not trimmed. -/
theorem trim_spelled {digits : List Char} {suffix : String} {multiplier : ℕ}
    (nonempty : digits ≠ []) (numeric : ∀ c ∈ digits, c.isDigit = true)
    (listed : (suffix, multiplier) ∈ unitOrder) :
    trim (String.ofList digits ++ suffix) = String.ofList digits ++ suffix := by
  rw [trim_eq_self_iff, String.toList_append, String.toList_ofList]
  constructor
  · obtain ⟨first, rest, rfl⟩ := List.exists_cons_of_ne_nil nonempty
    intro c begins
    obtain rfl : first = c := Option.some.inj begins
    exact digit_not_white (numeric first List.mem_cons_self)
  · simp only [unitOrder, List.mem_cons, Prod.mk.injEq, List.not_mem_nil, or_false] at listed
    rcases listed with ⟨rfl, -⟩ | ⟨rfl, -⟩ | ⟨rfl, -⟩ | ⟨rfl, -⟩ | ⟨rfl, -⟩ <;>
    · intro c ends
      rw [List.getLast?_append] at ends
      obtain rfl := Option.some.inj ends
      decide

theorem parse_format (numbers : NumberText) {ms : ℕ} (positive : 0 < ms) (minutes : 60000 ∣ ms)
    (safe : ms < 2 ^ 53) :
    ∃ n suffix multiplier, (suffix, multiplier) ∈ unitOrder ∧
      (∀ unit ∈ unitOrder, unit.2 ∣ ms → unit.2 ≤ multiplier) ∧ n * multiplier = ms ∧
      formatDuration numbers ms = .ok (String.ofList (Nat.toDigits 10 n) ++ suffix) ∧
      parseDuration (String.ofList (Nat.toDigits 10 n) ++ suffix) = .ok (.finite ms) := by
  obtain ⟨n, suffix, multiplier, listed, product, largest, formatted⟩ :=
    formatDuration_ok numbers positive minutes safe
  refine ⟨n, suffix, multiplier, listed, largest, product, formatted, ?_⟩
  have nonempty : Nat.toDigits 10 n ≠ [] := Nat.toDigits_ne_nil
  have numeric : ∀ c ∈ Nat.toDigits 10 n, c.isDigit = true :=
    fun c member => Nat.isDigit_of_mem_toDigits (by decide) (by decide) member
  rw [parseDuration_ok_iff, trim_spelled nonempty numeric listed]
  refine ⟨Nat.toDigits 10 n, suffix.toList, some multiplier, ?_, nonempty, numeric, ?_, ?_, ?_⟩
  · rw [String.toList_append, String.toList_ofList]
  · rw [String.ofList_toList]
    exact unitMultiplier_unit listed
  · rw [Nat.ofDigitChars_ten_toDigits]
    exact Nat.pos_of_mul_pos_right (product ▸ positive)
  · rw [Nat.ofDigitChars_ten_toDigits, times, ← product]
    push_cast
    rfl

theorem duration_language_iff (numbers : NumberText) (input : String) (ms : ℕ) :
    (Documented input ↔ ¬NamesConstructor (trim input)) ∧
      (0 < ms → 60000 ∣ ms → ms < 2 ^ 53 →
        ∃ n suffix multiplier, (suffix, multiplier) ∈ unitOrder ∧
          (∀ unit ∈ unitOrder, unit.2 ∣ ms → unit.2 ≤ multiplier) ∧ n * multiplier = ms ∧
          formatDuration numbers ms = .ok (String.ofList (Nat.toDigits 10 n) ++ suffix) ∧
          parseDuration (String.ofList (Nat.toDigits 10 n) ++ suffix) = .ok (.finite ms)) :=
  ⟨accepts_documented_iff input,
    fun positive minutes safe => parse_format numbers positive minutes safe⟩

/-- Two weeks. -/
theorem duration_language_iff_fortnight :
    (Documented "14d" ↔ ¬NamesConstructor (trim "14d")) ∧
      ∃ n suffix multiplier, (suffix, multiplier) ∈ unitOrder ∧
        (∀ unit ∈ unitOrder, unit.2 ∣ 1209600000 → unit.2 ≤ multiplier) ∧
        n * multiplier = 1209600000 ∧
        formatDuration JsonText.wholeNumbers (1209600000 : ℕ) =
          .ok (String.ofList (Nat.toDigits 10 n) ++ suffix) ∧
        parseDuration (String.ofList (Nat.toDigits 10 n) ++ suffix) =
          .ok (.finite (1209600000 : ℕ)) := by
  obtain ⟨language, readBack⟩ := duration_language_iff JsonText.wholeNumbers "14d" 1209600000
  exact ⟨language, readBack (by decide) (by decide) (by decide)⟩

/-- A number of what every object inherits is taken for a duration, which is not a number. -/
theorem constructor_accepted :
    parseDuration "5constructor" = .ok .nan ∧ ¬Documented "5constructor" := by
  have named : NamesConstructor (trim "5constructor") :=
    ⟨['5'], by decide, List.forall_mem_singleton.mpr (by decide), by decide⟩
  constructor
  · rw [parseDuration_ok_iff]
    exact ⟨['5'], "constructor".toList, none, by decide, by decide,
      List.forall_mem_singleton.mpr (by decide), rfl, by decide, rfl⟩
  · exact fun documented => (accepts_documented_iff _).mp documented named

end Aeolus.Storage.Duration
