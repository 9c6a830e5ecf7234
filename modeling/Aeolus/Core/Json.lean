/-
# Aeolus.Core.Json — parsed JSON values and state objects

What `JSON.parse` returns, and the `Record<string, unknown>` the source passes
around as device state, payloads and condition specs.  A state object is an
insertion-ordered map with distinct keys; an object nested inside a value is its
list of fields, since no modelled function looks inside one.
-/
import Mathlib.Data.Rat.Defs
import Aeolus.Theory.OrderedMap

namespace Aeolus.Core

open Aeolus.Theory

inductive Json where
  | null
  | bool (value : Bool)
  | num (value : ℚ)
  | str (value : String)
  | arr (items : List Json)
  | obj (fields : List (String × Json))

/-- `typeof value === "string"`. -/
def Json.asString : Json → Option String
  | .str value => some value
  | _ => none

/-- A property of a value that is not `null`; `none` is `undefined`. -/
def Json.property (name : String) : Json → Option Json
  | .obj fields => (fields.find? (·.1 == name)).map Prod.snd
  | _ => none

/-- An object literal, without the fields that are `undefined`. -/
def Json.ofPresent (fields : List (String × Option Json)) : Json :=
  .obj (fields.filterMap fun field => field.2.map (field.1, ·))

theorem Json.property_ofPresent {fields : List (String × Option Json)}
    (nodup : (fields.map Prod.fst).Nodup) {name : String} {value : Option Json}
    (mem : (name, value) ∈ fields) : (Json.ofPresent fields).property name = value := by
  induction fields with
  | nil => cases mem
  | cons field rest ih =>
      obtain ⟨key, given⟩ := field
      rw [List.map_cons, List.nodup_cons] at nodup
      rcases List.mem_cons.mp mem with here | later
      · rw [Prod.mk.injEq] at here
        obtain ⟨rfl, rfl⟩ := here
        cases value with
        | some value => simp [Json.ofPresent, Json.property]
        | none =>
            -- the name is not given a second time
            simp only [Json.ofPresent, Json.property, Option.map_eq_none_iff, List.find?_eq_none,
              List.mem_filterMap]
            rintro ⟨other, value⟩ ⟨⟨again, value'⟩, member, present⟩ same
            obtain ⟨value, rfl, rfl⟩ : ∃ value, value' = some value ∧ again = other := by
              cases value' with
              | none => cases present
              | some value => simp at present; exact ⟨value, rfl, present.1⟩
            rcases List.mem_cons.mp member with first | member
            · cases first
            · refine nodup.1 (List.mem_map.mpr ⟨_, member, ?_⟩)
              simpa using same
      · have other : key ≠ name := by
          rintro rfl
          exact nodup.1 (List.mem_map.mpr ⟨_, later, rfl⟩)
        rw [← ih nodup.2 later]
        cases given with
        | none => rfl
        | some value => simp [Json.ofPresent, Json.property, other]

/-- Does a value count as true? -/
def isTruthy : Option Json → Bool
  | none => false
  | some .null => false
  | some (.bool value) => value
  | some (.num value) => value ≠ 0
  | some (.str value) => value ≠ ""
  | some _ => true

/-- `value ?? {}` -/
def orEmptyObject : Option Json → Json
  | none => .obj []
  | some .null => .obj []
  | some value => value

/-- `SameValueZero`, by which a `Map` compares keys: two parsed arrays or objects are
never the same. -/
def sameValueZero : Option Json → Option Json → Bool
  | none, none => true
  | some .null, some .null => true
  | some (.bool a), some (.bool b) => a == b
  | some (.num a), some (.num b) => a == b
  | some (.str a), some (.str b) => a == b
  | _, _ => false

abbrev JsonObject := OrderedMap String Json

/-- `{ ...base, ...patch }`. -/
def JsonObject.merge (base patch : JsonObject) : JsonObject :=
  patch.entries.foldl (fun state field => state.set field.1 field.2) base

/-- A later field of the patch wins over the base. -/
theorem JsonObject.get_merge (base patch : JsonObject) (key : String) :
    (base.merge patch).get key = (patch.get key).or (base.get key) :=
  OrderedMap.get_setAll base patch.nodup key

/-- `Object.assign({}, …)` of a list of own properties. -/
def JsonObject.ofFields (fields : List (String × Json)) : JsonObject :=
  fields.foldl (fun state field => state.set field.1 field.2) .empty

/-- `{ ...value }`: a list and a text are spread by index, other values have no
properties of their own. -/
def Json.spread : Json → JsonObject
  | .obj fields => .ofFields fields
  | .arr items => .ofFields (items.zipIdx.map fun item => (toString item.2, item.1))
  | .str text =>
      .ofFields (text.toList.zipIdx.map fun c => (toString c.2, .str (String.singleton c.1)))
  | _ => .empty

end Aeolus.Core
