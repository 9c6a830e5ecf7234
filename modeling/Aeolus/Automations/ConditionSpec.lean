/-
# Aeolus.Automations.ConditionSpec — confirmation conditions as plain data

`isConditionSpec` and `evaluateConditionSpec` of `src/automations/sandbox.ts`.  A condition
is a comparison of one observed field, or `all` or `any` of a list of conditions; both
functions look for `all` first, then for `any`, and take the rest for a comparison.

`Holds` is what a condition says: a comparison holds when the field was observed as a number,
a boolean or a decimal text and compares.

* `agrees_of_faithful` — on such observations the evaluation is `Holds`;
* `conditions_documented_iff` — over all conditions on given fields, exactly on those whose
  values the coercion does not turn into a number that they are not;
* `null_confirms` — the pole: no reading at all is below five.
-/
import Aeolus.Core.NumberCoercion

namespace Aeolus.Automations

open Aeolus.Core Aeolus.Theory

/-! ## Comparators -/

inductive Comparator where
  | eq | ne | gt | gte | lt | lte
  deriving DecidableEq

/-- The own keys of `CONDITION_COMPARATORS`. -/
def conditionComparators : String → Option Comparator
  | "eq" => some .eq
  | "ne" => some .ne
  | "gt" => some .gt
  | "gte" => some .gte
  | "lt" => some .lt
  | "lte" => some .lte
  | _ => none

def Comparator.compare : Comparator → JsNumber → JsNumber → Bool
  | .eq, a, b => a.eq b
  | .ne, a, b => !a.eq b
  | .gt, a, b => b.lt a
  | .gte, a, b => b.lt a || a.eq b
  | .lt, a, b => a.lt b
  | .lte, a, b => a.lt b || a.eq b

/-- The same of two numbers that are finite. -/
def Comparator.Holds : Comparator → ℚ → ℚ → Prop
  | .eq, a, b => a = b
  | .ne, a, b => a ≠ b
  | .gt, a, b => b < a
  | .gte, a, b => b ≤ a
  | .lt, a, b => a < b
  | .lte, a, b => a ≤ b

theorem Comparator.compare_finite (op : Comparator) (a b : ℚ) :
    op.compare (.finite a) (.finite b) = true ↔ op.Holds a b := by
  cases op with
  | gte =>
      have split : b ≤ a ↔ b < a ∨ a = b := le_iff_lt_or_eq.trans (or_congr_right eq_comm)
      simp [compare, Holds, JsNumber.eq, JsNumber.lt, split]
  | lte =>
      have split : a ≤ b ↔ a < b ∨ a = b := le_iff_lt_or_eq
      simp [compare, Holds, JsNumber.eq, JsNumber.lt, split]
  | _ => simp [compare, Holds, JsNumber.eq, JsNumber.lt]

/-! ## Shapes -/

inductive Shape where
  | all (subs : List Json)
  | any (subs : List Json)
  | comparison

/-- `Array.isArray(value)` -/
def asArray : Option Json → Option (List Json)
  | some (.arr items) => some items
  | _ => none

/-- `all` before `any`, and any before a comparison. -/
def shape (spec : Json) : Shape :=
  match asArray (spec.property "all"), asArray (spec.property "any") with
  | some subs, _ => .all subs
  | none, some subs => .any subs
  | none, none => .comparison

def Shape.subs : Shape → List Json
  | .all subs => subs
  | .any subs => subs
  | .comparison => []

theorem sizeOf_property {spec : Json} {name : String} {subs : List Json}
    (found : asArray (spec.property name) = some subs) {sub : Json} (member : sub ∈ subs) :
    sizeOf sub < sizeOf spec := by
  cases spec with
  | obj fields =>
      cases given : fields.find? fun field => field.1 == name with
      | none => simp [Json.property, given, asArray] at found
      | some field =>
          obtain ⟨key, value⟩ := field
          have inField := List.sizeOf_lt_of_mem (List.mem_of_find?_eq_some given)
          cases value with
          | arr items =>
              simp only [Json.property, given, Option.map_some, asArray, Option.some.injEq] at found
              subst found
              have inItems := List.sizeOf_lt_of_mem member
              simp only [Prod.mk.sizeOf_spec, Json.arr.sizeOf_spec, Json.obj.sizeOf_spec] at *
              omega
          | _ => simp [Json.property, given, asArray] at found
  | _ => simp [Json.property, asArray] at found

/-- A part of a condition is smaller. -/
theorem sizeOf_sub {spec sub : Json} (member : sub ∈ (shape spec).subs) :
    sizeOf sub < sizeOf spec := by
  unfold shape at member
  split at member
  · rename_i found
    exact sizeOf_property found member
  · rename_i found
    exact sizeOf_property found member
  · cases member

/-! ## The two functions -/

/-- `typeof s.field === "string"`, an operator of the table, a number or a boolean. -/
def isComparison (spec : Json) : Bool :=
  ((spec.property "field").bind Json.asString).isSome &&
    (((spec.property "op").bind Json.asString).bind conditionComparators).isSome &&
    match spec.property "value" with
    | some (.num _) => true
    | some (.bool _) => true
    | _ => false

/-- A list of conditions is not empty; `all` and `any` ask the same of it. -/
def isConditionSpec (spec : Json) : Bool :=
  match shape spec with
  | .comparison => isComparison spec
  | _ => 0 < (shape spec).subs.length &&
      (shape spec).subs.attach.all fun sub => isConditionSpec sub.1
termination_by sizeOf spec
decreasing_by exact sizeOf_sub sub.2

/-- `tests.every(test)`, where a test may throw. -/
def every {α : Type} (test : α → Except CoercionError Bool) : List α → Except CoercionError Bool
  | [] => .ok true
  | a :: rest => do if ← test a then every test rest else return false

/-- `tests.some(test)` -/
def anyOf {α : Type} (test : α → Except CoercionError Bool) : List α → Except CoercionError Bool
  | [] => .ok false
  | a :: rest => do if ← test a then return true else anyOf test rest

def evaluateComparison (state : JsonObject) (spec : Json) : Except CoercionError Bool :=
  match (spec.property "field").bind Json.asString,
    ((spec.property "op").bind Json.asString).bind conditionComparators with
  | some field, some op => do
      -- a property that is inherited is a function or an object, and no number
      let actual ← toNumber (state.get field)
      let expected ← toNumber (spec.property "value")
      if actual = .nan ∨ expected = .nan then return false
      return op.compare actual expected
  | _, _ => .ok false

def evaluateConditionSpec (state : JsonObject) (spec : Json) : Except CoercionError Bool :=
  match shape spec with
  | .all _ => every (fun sub => evaluateConditionSpec state sub.1) (shape spec).subs.attach
  | .any _ => anyOf (fun sub => evaluateConditionSpec state sub.1) (shape spec).subs.attach
  | .comparison => evaluateComparison state spec
termination_by sizeOf spec
decreasing_by all_goals exact sizeOf_sub sub.2

/-! ## What a condition says -/

structure Comparison where
  field : String
  op : Comparator
  value : ℚ

/-- A boolean counts as one or zero. -/
def numeric : Json → Option ℚ
  | .num value => some value
  | .bool value => some (if value then 1 else 0)
  | _ => none

def comparisonOf (spec : Json) : Option Comparison := do
  let field ← (spec.property "field").bind Json.asString
  let op ← ((spec.property "op").bind Json.asString).bind conditionComparators
  let value ← (spec.property "value").bind numeric
  return { field, op, value }

/-- What an observed value says as a number. -/
def readable : Option Json → Option ℚ
  | some (.str text) => decimalText text
  | some value => numeric value
  | none => none

inductive Holds (state : JsonObject) : Json → Prop
  | all {spec : Json} {subs : List Json} (form : shape spec = .all subs)
      (each : ∀ sub ∈ subs, Holds state sub) : Holds state spec
  | any {spec sub : Json} {subs : List Json} (form : shape spec = .any subs)
      (member : sub ∈ subs) (one : Holds state sub) : Holds state spec
  | comparison {spec : Json} {comparison : Comparison} {actual : ℚ}
      (form : shape spec = .comparison) (read : comparisonOf spec = some comparison)
      (observed : readable (state.get comparison.field) = some actual)
      (compares : comparison.op.Holds actual comparison.value) : Holds state spec

/-- The condition compares the field somewhere. -/
inductive Mentions : Json → String → Prop
  | sub {spec sub : Json} {field : String} (member : sub ∈ (shape spec).subs)
      (inside : Mentions sub field) : Mentions spec field
  | comparison {spec : Json} {comparison : Comparison} (form : shape spec = .comparison)
      (read : comparisonOf spec = some comparison) : Mentions spec comparison.field

/-- The evaluation returns, and says what the condition does. -/
def Agrees (state : JsonObject) (spec : Json) : Prop :=
  ∃ result, evaluateConditionSpec state spec = .ok result ∧ (result = true ↔ Holds state spec)

/-- A value that is read as the number it is, or coerced to none. -/
def Faithful (observed : Option Json) : Prop :=
  (readable observed).isSome ∨ toNumber observed = .ok .nan

/-! ## One equation for each shape -/

theorem every_attach {α : Type} (test : α → Except CoercionError Bool) (l : List α) :
    every (fun a : { a // a ∈ l } => test a.1) l.attach = every test l := by
  have mapped : ∀ m : List { a // a ∈ l }, every (fun a => test a.1) m =
      every test (m.map Subtype.val) := by
    intro m
    induction m with
    | nil => rfl
    | cons a rest ih => simp only [List.map_cons, every, ih]
  rw [mapped, List.attach_map_subtype_val]

theorem anyOf_attach {α : Type} (test : α → Except CoercionError Bool) (l : List α) :
    anyOf (fun a : { a // a ∈ l } => test a.1) l.attach = anyOf test l := by
  have mapped : ∀ m : List { a // a ∈ l }, anyOf (fun a => test a.1) m =
      anyOf test (m.map Subtype.val) := by
    intro m
    induction m with
    | nil => rfl
    | cons a rest ih => simp only [List.map_cons, anyOf, ih]
  rw [mapped, List.attach_map_subtype_val]

theorem isConditionSpec_comparison {spec : Json} (form : shape spec = .comparison) :
    isConditionSpec spec = isComparison spec := by
  rw [isConditionSpec]
  simp [form]

/-- The parts of a condition that was accepted were accepted. -/
theorem isConditionSpec_sub {spec sub : Json} (accepted : isConditionSpec spec = true)
    (member : sub ∈ (shape spec).subs) : isConditionSpec sub = true := by
  rw [isConditionSpec] at accepted
  split at accepted
  · rename_i form
    rw [form] at member
    cases member
  · rw [Bool.and_eq_true] at accepted
    exact List.all_eq_true.mp accepted.2 ⟨sub, member⟩ (List.mem_attach _ _)

theorem evaluate_all {spec : Json} {subs : List Json} (form : shape spec = .all subs)
    (state : JsonObject) :
    evaluateConditionSpec state spec = every (evaluateConditionSpec state) subs := by
  rw [evaluateConditionSpec]
  simp only [form]
  rw [every_attach (evaluateConditionSpec state), form]
  rfl

theorem evaluate_any {spec : Json} {subs : List Json} (form : shape spec = .any subs)
    (state : JsonObject) :
    evaluateConditionSpec state spec = anyOf (evaluateConditionSpec state) subs := by
  rw [evaluateConditionSpec]
  simp only [form]
  rw [anyOf_attach (evaluateConditionSpec state), form]
  rfl

theorem evaluate_comparison {spec : Json} (form : shape spec = .comparison) (state : JsonObject) :
    evaluateConditionSpec state spec = evaluateComparison state spec := by
  rw [evaluateConditionSpec]
  simp [form]

/-! ## Comparisons -/

/-- What is accepted is a comparison with a number. -/
theorem comparisonOf_accepted {spec : Json} (accepted : isComparison spec = true) :
    ∃ comparison, comparisonOf spec = some comparison := by
  unfold isComparison at accepted
  simp only [Bool.and_eq_true] at accepted
  obtain ⟨⟨field, op⟩, value⟩ := accepted
  obtain ⟨field', given⟩ := Option.isSome_iff_exists.mp field
  obtain ⟨op', known⟩ := Option.isSome_iff_exists.mp op
  obtain ⟨value', number⟩ : ∃ value', (spec.property "value").bind numeric = some value' := by
    split at value
    · rename_i number given
      exact ⟨number, by rw [given]; rfl⟩
    · rename_i flag given
      exact ⟨_, by rw [given]; rfl⟩
    · cases value
  refine ⟨⟨field', op', value'⟩, ?_⟩
  unfold comparisonOf
  rw [given, known, number]
  rfl

theorem toNumber_numeric {value : Json} {number : ℚ} (read : numeric value = some number) :
    toNumber (some value) = .ok (.finite number) := by
  cases value with
  | num given =>
      cases read
      rfl
  | bool flag =>
      cases read
      rfl
  | _ => cases read

theorem toNumber_readable {observed : Option Json} {number : ℚ}
    (read : readable observed = some number) : toNumber observed = .ok (.finite number) := by
  cases observed with
  | none => cases read
  | some value =>
      cases value with
      | str text =>
          change Except.ok (textToNumber text) = _
          rw [textToNumber_decimal read]
      | _ => exact toNumber_numeric read

/-- The evaluation of a comparison goes by the coerced value. -/
theorem evaluateComparison_eq {spec : Json} {comparison : Comparison}
    (read : comparisonOf spec = some comparison) (state : JsonObject) :
    evaluateComparison state spec = do
      let actual ← toNumber (state.get comparison.field)
      if actual = .nan then return false
      return comparison.op.compare actual (.finite comparison.value) := by
  obtain ⟨field, given, read⟩ := Option.bind_eq_some_iff.mp read
  obtain ⟨op, known, read⟩ := Option.bind_eq_some_iff.mp read
  obtain ⟨value, number, read⟩ := Option.bind_eq_some_iff.mp read
  cases read
  obtain ⟨value', present, number⟩ := Option.bind_eq_some_iff.mp number
  unfold evaluateComparison
  rw [given, known, present, toNumber_numeric number]
  dsimp only
  cases toNumber (state.get field) with
  | error e => rfl
  | ok actual =>
      simp only [bind, Except.bind]
      simp

theorem agrees_comparison {state : JsonObject} {spec : Json} (form : shape spec = .comparison)
    {comparison : Comparison} (read : comparisonOf spec = some comparison)
    (faithful : Faithful (state.get comparison.field)) : Agrees state spec := by
  have inversion : Holds state spec ↔ ∃ actual,
      readable (state.get comparison.field) = some actual ∧
        comparison.op.Holds actual comparison.value := by
    constructor
    · intro holds
      cases holds with
      | all form' => rw [form] at form'; cases form'
      | any form' => rw [form] at form'; cases form'
      | comparison _ read' observed compares =>
          rw [read] at read'
          cases read'
          exact ⟨_, observed, compares⟩
    · rintro ⟨actual, observed, compares⟩
      exact Holds.comparison form read observed compares
  unfold Agrees
  rw [evaluate_comparison form, evaluateComparison_eq read, inversion]
  cases observed : readable (state.get comparison.field) with
  | some actual =>
      rw [toNumber_readable observed]
      refine ⟨_, rfl, ?_⟩
      rw [Comparator.compare_finite]
      simp
  | none =>
      rcases faithful with some' | nan
      · rw [observed] at some'
        cases some'
      · rw [nan]
        refine ⟨false, rfl, ?_⟩
        simp

/-! ## Conjunction and disjunction -/

theorem every_spec {α : Type} {test : α → Except CoercionError Bool} {P : α → Prop} {l : List α}
    (each : ∀ a ∈ l, ∃ result, test a = .ok result ∧ (result = true ↔ P a)) :
    ∃ result, every test l = .ok result ∧ (result = true ↔ ∀ a ∈ l, P a) := by
  induction l with
  | nil => exact ⟨true, rfl, by simp⟩
  | cons a rest ih =>
      rw [List.forall_mem_cons] at each
      obtain ⟨here, answered, means⟩ := each.1
      obtain ⟨later, answered', means'⟩ := ih each.2
      unfold every
      rw [answered]
      cases here with
      | true =>
          refine ⟨later, answered', ?_⟩
          rw [List.forall_mem_cons, ← means, means']
          simp
      | false =>
          refine ⟨false, rfl, ?_⟩
          rw [List.forall_mem_cons, ← means]
          simp

theorem anyOf_spec {α : Type} {test : α → Except CoercionError Bool} {P : α → Prop} {l : List α}
    (each : ∀ a ∈ l, ∃ result, test a = .ok result ∧ (result = true ↔ P a)) :
    ∃ result, anyOf test l = .ok result ∧ (result = true ↔ ∃ a ∈ l, P a) := by
  induction l with
  | nil => exact ⟨false, rfl, by simp⟩
  | cons a rest ih =>
      rw [List.forall_mem_cons] at each
      obtain ⟨here, answered, means⟩ := each.1
      obtain ⟨later, answered', means'⟩ := ih each.2
      unfold anyOf
      rw [answered]
      cases here with
      | true =>
          refine ⟨true, rfl, ?_⟩
          rw [List.exists_mem_cons_iff, ← means]
          simp
      | false =>
          refine ⟨later, answered', ?_⟩
          rw [List.exists_mem_cons_iff, ← means, means']
          simp

theorem holds_all {state : JsonObject} {spec : Json} {subs : List Json}
    (form : shape spec = .all subs) : Holds state spec ↔ ∀ sub ∈ subs, Holds state sub := by
  constructor
  · intro holds
    cases holds with
    | all form' each =>
        rw [form] at form'
        cases form'
        exact each
    | any form' => rw [form] at form'; cases form'
    | comparison form' => rw [form] at form'; cases form'
  · exact Holds.all form

theorem holds_any {state : JsonObject} {spec : Json} {subs : List Json}
    (form : shape spec = .any subs) : Holds state spec ↔ ∃ sub ∈ subs, Holds state sub := by
  constructor
  · intro holds
    cases holds with
    | all form' => rw [form] at form'; cases form'
    | any form' member one =>
        rw [form] at form'
        cases form'
        exact ⟨_, member, one⟩
    | comparison form' => rw [form] at form'; cases form'
  · rintro ⟨sub, member, one⟩
    exact Holds.any form member one

/-- **Faithful observations.**  Every accepted condition is evaluated to what it says. -/
theorem agrees_of_faithful {state : JsonObject} {spec : Json}
    (accepted : isConditionSpec spec = true)
    (faithful : ∀ field, Mentions spec field → Faithful (state.get field)) : Agrees state spec := by
  have parts : ∀ sub ∈ (shape spec).subs, Agrees state sub := by
    intro sub member
    apply agrees_of_faithful (isConditionSpec_sub accepted member)
    exact fun field inside => faithful field (Mentions.sub member inside)
  cases form : shape spec with
  | all subs =>
      rw [form] at parts
      unfold Agrees
      rw [evaluate_all form, holds_all form]
      exact every_spec parts
  | any subs =>
      rw [form] at parts
      unfold Agrees
      rw [evaluate_any form, holds_any form]
      exact anyOf_spec parts
  | comparison =>
      rw [isConditionSpec_comparison form] at accepted
      obtain ⟨comparison, read⟩ := comparisonOf_accepted accepted
      exact agrees_comparison form read (faithful _ (Mentions.comparison form read))
termination_by sizeOf spec
decreasing_by exact sizeOf_sub member

/-! ## The coercion's own numbers -/

/-- A comparison, as a script writes it. -/
def comparisonSpec (field op : String) (value : ℚ) : Json :=
  .obj [("field", .str field), ("op", .str op), ("value", .num value)]

theorem shape_comparisonSpec (field op : String) (value : ℚ) :
    shape (comparisonSpec field op value) = .comparison := rfl

theorem comparisonOf_comparisonSpec {field op : String} {comparator : Comparator}
    (known : conditionComparators op = some comparator) (value : ℚ) :
    comparisonOf (comparisonSpec field op value) = some ⟨field, comparator, value⟩ := by
  have given : ((comparisonSpec field op value).property "op").bind Json.asString = some op := rfl
  unfold comparisonOf
  rw [given, Option.bind_eq_bind, Option.bind_some, known]
  rfl

theorem isConditionSpec_comparisonSpec {field op : String} {comparator : Comparator}
    (known : conditionComparators op = some comparator) (value : ℚ) :
    isConditionSpec (comparisonSpec field op value) = true := by
  have given : ((comparisonSpec field op value).property "op").bind Json.asString = some op := rfl
  rw [isConditionSpec_comparison (shape_comparisonSpec field op value)]
  unfold isComparison
  rw [given, Option.bind_some, known]
  rfl

theorem comparisonOf_field {field op : String} {value : ℚ} {comparison : Comparison}
    (read : comparisonOf (comparisonSpec field op value) = some comparison) :
    comparison.field = field := by
  obtain ⟨comparator, known, -⟩ := Option.bind_eq_some_iff.mp read
  have known : conditionComparators op = some comparator := known
  rw [comparisonOf_comparisonSpec known] at read
  cases read
  rfl

/-- A comparison of a field whose value says no number never holds. -/
theorem not_holds_comparisonSpec {state : JsonObject} {field op : String} {value : ℚ}
    (unread : readable (state.get field) = none) :
    ¬ Holds state (comparisonSpec field op value) := by
  intro holds
  cases holds with
  | all form => rw [shape_comparisonSpec] at form; cases form
  | any form => rw [shape_comparisonSpec] at form; cases form
  | comparison form read observed =>
      rw [comparisonOf_field read, unread] at observed
      cases observed

/-- The comparison that a number of the coercion meets. -/
def metBy : JsNumber → String × Comparator × ℚ
  | .finite value => ("eq", .eq, value)
  | .infinity true => ("lt", .lt, 0)
  | .infinity false => ("gt", .gt, 0)
  | .nan => ("eq", .eq, 0)

theorem metBy_known (actual : JsNumber) :
    conditionComparators (metBy actual).1 = some (metBy actual).2.1 := by
  cases actual with
  | infinity negative => cases negative <;> rfl
  | _ => rfl

theorem metBy_compare {actual : JsNumber} (number : actual ≠ .nan) :
    (metBy actual).2.1.compare actual (.finite (metBy actual).2.2) = true := by
  cases actual with
  | nan => exact absurd rfl number
  | finite value => simp [metBy, Comparator.compare, JsNumber.eq]
  | infinity negative => cases negative <;> rfl

/-- On a value that is not faithful, some comparison goes wrong. -/
theorem exists_disagrees {state : JsonObject} {field : String}
    (unfaithful : ¬ Faithful (state.get field)) :
    ∃ op comparator value, conditionComparators op = some comparator ∧
      ¬ Agrees state (comparisonSpec field op value) := by
  have unread : readable (state.get field) = none := by
    rw [← Option.not_isSome_iff_eq_none]
    intro some'
    exact unfaithful (Or.inl some')
  have evaluation : ∀ {op comparator} value, conditionComparators op = some comparator →
      evaluateConditionSpec state (comparisonSpec field op value) = do
        let actual ← toNumber (state.get field)
        if actual = .nan then return false
        return comparator.compare actual (.finite value) := by
    intro op comparator value known
    rw [evaluate_comparison (shape_comparisonSpec field op value),
      evaluateComparison_eq (comparisonOf_comparisonSpec known value)]
  cases coerced : toNumber (state.get field) with
  | error e =>
      refine ⟨"eq", .eq, 0, rfl, ?_⟩
      rintro ⟨result, answered, -⟩
      rw [evaluation 0 rfl, coerced] at answered
      cases answered
  | ok actual =>
      have number : actual ≠ .nan := by
        intro nan
        rw [nan] at coerced
        exact unfaithful (Or.inr coerced)
      refine ⟨_, _, (metBy actual).2.2, metBy_known actual, ?_⟩
      rintro ⟨result, answered, means⟩
      apply not_holds_comparisonSpec unread (means.mp _)
      rw [evaluation _ (metBy_known actual), coerced] at answered
      change (if actual = .nan then Except.ok false else _) = _ at answered
      rw [if_neg number, metBy_compare number] at answered
      cases answered
      rfl

/-- **The meaning of conditions.**  The accepted conditions on some fields are all evaluated to
what they say exactly when no value of these fields is coerced to a number that it does not
say, and none throws. -/
theorem conditions_documented_iff (state : JsonObject) (fields : String → Prop) :
    (∀ spec, isConditionSpec spec = true → (∀ field, Mentions spec field → fields field) →
      Agrees state spec) ↔ ∀ field, fields field → Faithful (state.get field) := by
  constructor
  · intro agree field chosen
    by_contra unfaithful
    obtain ⟨op, comparator, value, known, disagrees⟩ := exists_disagrees unfaithful
    apply disagrees
    apply agree _ (isConditionSpec_comparisonSpec known value)
    intro mentioned inside
    cases inside with
    | sub member => cases member
    | comparison form read =>
        rw [comparisonOf_comparisonSpec known] at read
        cases read
        exact chosen
  · intro faithful spec accepted inFields
    apply agrees_of_faithful accepted
    intro field mentioned
    exact faithful field (inFields field mentioned)

theorem lt_known : conditionComparators "lt" = some .lt := rfl

/-- A sensor without a reading. -/
def unreadLevel : JsonObject := JsonObject.ofFields [("level", .null)]

/-- The pole: no reading is below five. -/
theorem null_confirms :
    isConditionSpec (comparisonSpec "level" "lt" 5) = true ∧
      evaluateConditionSpec unreadLevel (comparisonSpec "level" "lt" 5) = .ok true ∧
      ¬ Holds unreadLevel (comparisonSpec "level" "lt" 5) := by
  refine ⟨isConditionSpec_comparisonSpec lt_known 5, ?_, ?_⟩
  · rw [evaluate_comparison rfl]
    decide
  · apply not_holds_comparisonSpec
    rfl

end Aeolus.Automations
