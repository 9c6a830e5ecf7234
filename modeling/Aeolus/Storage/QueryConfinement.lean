/-
# Aeolus.Storage.QueryConfinement — does a script read its own collections only?

Every statement of a query has one of a few fixed texts, in which the collection is bound to
a placeholder — but for the name of an aggregate function, which the script's options supply
and nothing checks.  `allFixed_iff` says that this name is all that can go wrong with
the texts (`aggregate_becomes_sql`).

A fixed text reads the rows of the collection that is bound, and that is the script's own as
long as every argument before it binds one value.  The only such argument is the field of an
aggregate, which may be a list.
-/
import Mathlib.Data.Bool.AllAny
import Aeolus.Storage.DataStoreQuery

namespace Aeolus.Storage

open Aeolus.Auth Aeolus.Core Aeolus.Theory Aeolus.Theory.Handler

/-! ## The fixed texts -/

/-- Is there a lower bound, and how many tags are compared? -/
structure Conditions where
  lower : Bool
  tags : Nat

def Conditions.text (c : Conditions) : String :=
  String.intercalate " AND " (["collection = ?"] ++
    (if c.lower then ["timestamp >= ?"] else []) ++ ["timestamp <= ?"] ++
    List.replicate c.tags "json_extract(tags, '$.' || ?) = ?")

inductive AggregateFunction where
  | sum
  | avg
  | min
  | max
  | count
  deriving DecidableEq

def AggregateFunction.name : AggregateFunction → String
  | .sum => "SUM"
  | .avg => "AVG"
  | .min => "MIN"
  | .max => "MAX"
  | .count => "COUNT"

inductive Template where
  | collectionExists
  | aggregate (function : AggregateFunction) (conditions : Conditions)
  | span (conditions : Conditions)
  | sample (conditions : Conditions)
  | page (conditions : Conditions) (limit offset : Bool)

namespace Template

def text : Template → String
  | .collectionExists => existsText
  | .aggregate function conditions => aggregateText function.name conditions.text
  | .span conditions => spanText conditions.text
  | .sample conditions => sampleText conditions.text
  | .page conditions limit offset => pageText conditions.text limit offset

/-- The placeholder the collection is bound to: the field of an aggregate comes before it. -/
def collectionIndex : Template → Nat
  | .aggregate .count _ => 0
  | .aggregate _ _ => 1
  | _ => 0

end Template

def IsTemplate (text : String) : Prop := ∃ t : Template, t.text = text

theorem whereStr_whereClauses (collection : String) (fromTs : Option Argument) (toTs : Argument)
    (tags : Option Json) :
    ∃ c : Conditions, whereStr (whereClauses collection fromTs toTs tags) = c.text := by
  by_cases given : isTruthy tags = true
  · refine ⟨⟨fromTs.isSome, (tags.getD .null).spread.entries.length⟩, ?_⟩
    cases fromTs <;> simp [whereStr, whereClauses, Conditions.text, given, Function.comp_def]
  · refine ⟨⟨fromTs.isSome, 0⟩, ?_⟩
    cases fromTs <;> simp [whereStr, whereClauses, Conditions.text, given]

/-! ## A name that is none of the five gives no fixed text -/

/-- What comes before the first small letter. -/
def beforeSmall (text : String) : List Char := text.toList.takeWhile fun c => !c.isLower

theorem beforeSmall_of {text : String} {large rest : List Char} {first : Char}
    (split : text.toList = large ++ first :: rest) (isLarge : ∀ c ∈ large, c.isLower = false)
    (isSmall : first.isLower = true) : beforeSmall text = large := by
  rw [beforeSmall, split, List.takeWhile_append_of_pos (by simpa using isLarge),
    List.takeWhile_cons_of_neg (by simp [isSmall]), List.append_nil]

/-- A text with a small letter begins as it does, whatever follows. -/
theorem begins_append {a : String} {texts : List (List Char)}
    (small : (beforeSmall a).length ≠ a.toList.length) (begins : beforeSmall a ∈ texts)
    (b : String) : beforeSmall (a ++ b) ∈ texts := by
  unfold beforeSmall at small begins ⊢
  rwa [String.toList_append, List.takeWhile_append, if_neg small]

theorem beforeSmall_aggregate {name : String} (large : ∀ c ∈ name.toList, c.isLower = false)
    (notCount : name ≠ "COUNT") (conditions : String) :
    beforeSmall (aggregateText name conditions) = "SELECT ".toList ++ (name.toList ++ ['(']) := by
  rw [aggregateText, if_neg notCount]
  have split : ("SELECT " ++ name ++
      "(json_extract(payload, '$.' || ?)) as agg_value FROM ds_records WHERE " ++
      conditions).toList = ("SELECT ".toList ++ (name.toList ++ ['('])) ++ 'j' ::
        ("son_extract(payload, '$.' || ?)) as agg_value FROM ds_records WHERE ".toList ++
          conditions.toList) := by
    simp only [String.toList_append, List.append_assoc]
    rfl
  refine beforeSmall_of split (fun c member => ?_) rfl
  simp only [List.mem_append] at member
  rcases member with fixed | named | fixed
  · revert c
    simp only [← List.all_iff_forall_prop]
    decide
  · exact large c named
  · revert c
    simp only [← List.all_iff_forall_prop]
    decide

/-- What the fixed texts begin with. -/
theorem beforeSmall_text (t : Template) : beforeSmall t.text ∈
    ["SELECT 1 ".toList, "SELECT COUNT(*) ".toList, "SELECT ".toList, "SELECT SUM(".toList,
      "SELECT AVG(".toList, "SELECT MIN(".toList, "SELECT MAX(".toList] := by
  cases t with
  | collectionExists => decide +kernel
  | aggregate function conditions =>
      cases function with
      | count =>
          rw [Template.text, AggregateFunction.name, aggregateText, if_pos rfl]
          exact begins_append (by decide +kernel) (by decide +kernel) _
      | sum | avg | min | max =>
          rw [Template.text,
            beforeSmall_aggregate (List.all_iff_forall_prop.mp (by decide)) (by decide)]
          decide +kernel
  | span conditions =>
      rw [Template.text, spanText]
      exact begins_append (by decide +kernel) (by decide +kernel) _
  | sample conditions =>
      rw [Template.text, sampleText]
      exact begins_append (by decide +kernel) (by decide +kernel) _
  | page conditions limit offset =>
      rw [Template.text, pageText]
      exact begins_append (by decide +kernel) (by decide +kernel) _

/-- The five names that the query means. -/
def functionNames : List String := ["SUM", "AVG", "MIN", "MAX", "COUNT"]

theorem isTemplate_aggregateText {name : String} (named : name ∈ functionNames)
    (c : Conditions) : IsTemplate (aggregateText name c.text) := by
  simp only [functionNames, List.mem_cons, List.not_mem_nil, or_false] at named
  rcases named with rfl | rfl | rfl | rfl | rfl
  · exact ⟨.aggregate .sum c, rfl⟩
  · exact ⟨.aggregate .avg c, rfl⟩
  · exact ⟨.aggregate .min c, rfl⟩
  · exact ⟨.aggregate .max c, rfl⟩
  · exact ⟨.aggregate .count c, rfl⟩

/-- Any other name without small letters becomes text of its own. -/
theorem not_isTemplate_aggregateText {name : String} (large : ∀ c ∈ name.toList, c.isLower = false)
    (other : name ∉ functionNames) (conditions : String) :
    ¬IsTemplate (aggregateText name conditions) := by
  rintro ⟨t, same⟩
  have notCount : name ≠ "COUNT" := by
    rintro rfl
    exact other (by decide)
  have begins := beforeSmall_text t
  rw [same, beforeSmall_aggregate large notCount] at begins
  -- after `SELECT ` the name and a bracket are the rest of a beginning
  have rest : name.toList ++ ['('] ∈ ["1 ".toList, "COUNT(*) ".toList, [], "SUM(".toList,
      "AVG(".toList, "MIN(".toList, "MAX(".toList] := by
    have cancel : Function.Injective ("SELECT ".toList ++ ·) := List.append_right_injective _
    exact (List.mem_map_of_injective cancel).mp (begins : _ ∈ List.map ("SELECT ".toList ++ ·) _)
  have ends {t : String} {c : Char} (same : name.toList ++ ['('] = t.toList ++ [c]) :
      name = t ∧ '(' = c := by
    obtain ⟨front, back⟩ := List.append_inj' same rfl
    exact ⟨String.toList_injective front, List.head_eq_of_cons_eq back⟩
  simp only [List.mem_cons, List.not_mem_nil, or_false] at rest
  rcases rest with one | count | empty | sum | avg | min | max
  · exact absurd (ends (t := "1") (c := ' ') one).2 (by decide)
  · exact absurd (ends (t := "COUNT(*)") (c := ' ') count).2 (by decide)
  · simp at empty
  · exact other ((ends (t := "SUM") sum).1 ▸ by decide)
  · exact other ((ends (t := "AVG") avg).1 ▸ by decide)
  · exact other ((ends (t := "MIN") min).1 ▸ by decide)
  · exact other ((ends (t := "MAX") max).1 ▸ by decide)

/-! ## Every other statement is fixed -/

def AllFixed (prepared : List Statement) : Prop := ∀ s ∈ prepared, IsTemplate s.text

section Fixed

variable {platform : QueryPlatform} {tables : DataStoreTables}
  {clauses : List (String × List Argument)}

theorem preserves_prepareAndRun {statement : Statement} (fixed : IsTemplate statement.text) :
    Preserves AllFixed (prepareAndRun platform tables statement) := by
  intro prepared before s member
  rcases List.mem_append.mp member with old | new
  · exact before s old
  · rw [List.mem_singleton.mp new]
    exact fixed

theorem preserves_queryRecords {c : Conditions} (conditions : whereStr clauses = c.text)
    (fromTs : Option Argument) (toTs : Argument) (options : Json) :
    Preserves AllFixed (queryRecords platform tables fromTs toTs options clauses) := by
  refine (preserves_prepareAndRun ⟨.span c, ?_⟩).bind fun counted => ?_
  · rw [conditions]
    rfl
  refine Preserves.ite (fun _ => ?_) fun _ => ?_
  · refine (preserves_prepareAndRun ⟨.sample c, ?_⟩).bind fun rows =>
      (readOnly_check _).preserves.bind fun records => preserves_pure _
    rw [conditions]
    rfl
  · refine (preserves_prepareAndRun ?_).bind fun rows =>
      (readOnly_check _).preserves.bind fun records => preserves_pure _
    rw [conditions]
    exact ⟨.page c _ _, rfl⟩

theorem preserves_queryAggregate {aggregate : Json} {c : Conditions}
    (conditions : whereStr clauses = c.text) {field : Option Json}
    (named : isTruthy field = true → ∀ name, aggregate = .str name →
      platform.toUpperCase name ∈ functionNames) :
    Preserves AllFixed (queryAggregate platform tables aggregate field clauses) := by
  refine Preserves.ite (fun given => ?_) fun _ => preserves_throw _
  cases aggregate with
  | str name =>
      refine (preserves_prepareAndRun ?_).bind fun rows => preserves_pure _
      dsimp only
      rw [conditions]
      exact isTemplate_aggregateText (named given name rfl) c
  | _ => exact preserves_throw _

/-- An aggregate with a field is prepared, whatever its name. -/
theorem queryAggregate_prepared (platform : QueryPlatform) (tables : DataStoreTables)
    (name : String) {field : Option Json} (given : isTruthy field = true)
    (clauses : List (String × List Argument)) (prepared : List Statement) :
    ∃ s ∈ (queryAggregate platform tables (.str name) field clauses prepared).2,
      s.text = aggregateText (platform.toUpperCase name) (whereStr clauses) := by
  rw [queryAggregate, if_pos given]
  rw [runAggregate, bind_apply]
  -- prepared before it is known whether it runs
  split <;> rename_i outcome
  all_goals
    rw [prepareAndRun] at outcome
    rw [← (Prod.mk.inj outcome).2]
    exact ⟨_, List.mem_append_right _ (List.mem_singleton_self _), rfl⟩

variable {now : ℤ} {scope : AuthorizationScope} {collection optionsJson : String}

/-- The script's call gets as far as an aggregate of the name `name`. -/
structure Asked (platform : QueryPlatform) (tables : DataStoreTables) (now : ℤ)
    (scope : AuthorizationScope) (collection optionsJson : String) (options : Json)
    (name : String) : Prop where
  allowed : collectionAllowed scope collection = true
  parsed : platform.jsonParse optionsJson = some options
  there : tables.collections.contains collection = true
  since : ∃ fromTs, resolveFrom platform now (options.property "from") = .ok fromTs
  named : options.property "aggregate" = some (.str name)
  nonempty : name ≠ ""
  field : isTruthy (options.property "field") = true

/-- Wherever a query gets to an aggregate, it has the name of one of the five. -/
def NamesFixed (platform : QueryPlatform) (tables : DataStoreTables) (now : ℤ)
    (scope : AuthorizationScope) (collection optionsJson : String) : Prop :=
  ∀ options name, Asked platform tables now scope collection optionsJson options name →
    platform.toUpperCase name ∈ functionNames

/-- A query that goes on has found the collection. -/
theorem query_eq (there : tables.collections.contains collection = true) (options : Json)
    (prepared : List Statement) :
    query platform tables now collection options prepared =
      (check (resolveFrom platform now (options.property "from")) >>= fun fromTs =>
        let toTs := resolveTo now (options.property "to")
        let clauses := whereClauses collection fromTs toTs (options.property "tags")
        if isTruthy (options.property "aggregate") then
          queryAggregate platform tables ((options.property "aggregate").getD .null)
            (options.property "field") clauses
        else queryRecords platform tables fromTs toTs options clauses)
      (prepared ++ [⟨existsText, [.json (.str collection)]⟩]) := by
  rw [query, bind_of_ok (show collectionExists tables collection prepared = (.ok true, _) by
    rw [collectionExists, there])]
  rfl

theorem query_absent (absent : tables.collections.contains collection = false) (options : Json)
    (prepared : List Statement) : query platform tables now collection options prepared =
      (.ok (if isTruthy (options.property "aggregate") then .value (.integer 0) else .empty),
        prepared ++ [⟨existsText, [.json (.str collection)]⟩]) := by
  rw [query, bind_of_ok (show collectionExists tables collection prepared = (.ok false, _) by
    rw [collectionExists, absent])]
  rfl

theorem dbQueryRef_prepared {options : Json} (allowed : collectionAllowed scope collection = true)
    (parsed : platform.jsonParse optionsJson = some options) :
    (dbQueryRef platform tables now scope collection optionsJson).2 =
      (query platform tables now collection options []).2 := by
  rw [dbQueryRef, if_pos allowed, parsed]
  dsimp only
  split <;> rename_i outcome <;> rw [outcome]

/-- The texts are the fixed ones exactly when the names are. -/
theorem allFixed_iff : AllFixed (dbQueryRef platform tables now scope collection optionsJson).2 ↔
    NamesFixed platform tables now scope collection optionsJson := by
  constructor
  · intro fixed options name asked
    rw [dbQueryRef_prepared asked.allowed asked.parsed, query_eq asked.there] at fixed
    obtain ⟨fromTs, since⟩ := asked.since
    have aggregates : isTruthy (some (.str name)) = true := by simpa [isTruthy] using asked.nonempty
    rw [bind_of_ok (check_of_ok since), asked.named] at fixed
    rw [if_pos aggregates] at fixed
    obtain ⟨s, member, text⟩ := queryAggregate_prepared platform tables name asked.field
      (whereClauses collection fromTs (resolveTo now (options.property "to"))
        (options.property "tags")) _
    have template : IsTemplate s.text := fixed s member
    rw [text] at template
    by_contra other
    exact not_isTemplate_aggregateText (platform.toUpperCase_not_lower name) other _ template
  · intro names
    by_cases allowed : collectionAllowed scope collection = true
    · cases parsed : platform.jsonParse optionsJson with
      | none => simp [dbQueryRef, allowed, parsed, AllFixed]
      | some options =>
          have first : AllFixed [⟨existsText, [.json (.str collection)]⟩] := by
            intro s member
            rw [List.mem_singleton.mp member]
            exact ⟨.collectionExists, rfl⟩
          rw [dbQueryRef_prepared allowed parsed]
          cases there : tables.collections.contains collection with
          | false =>
              rw [query_absent there]
              exact first
          | true =>
              rw [query_eq there]
              refine bind_holds first fun fromTs prepared since before => ?_
              obtain ⟨c, conditions⟩ := whereStr_whereClauses collection fromTs
                (resolveTo now (options.property "to")) (options.property "tags")
              refine Preserves.ite (fun given => preserves_queryAggregate conditions ?_)
                (fun _ => preserves_queryRecords conditions fromTs _ options) prepared before
              intro field name same
              cases named : options.property "aggregate" with
              | none =>
                  rw [named] at same
                  cases same
              | some aggregate =>
                  rw [named] at same given
                  obtain rfl : aggregate = .str name := same
                  refine names options name ⟨allowed, parsed, there, ⟨fromTs, ?_⟩, named, ?_, field⟩
                  · exact (Prod.mk.inj since).1
                  · simpa [isTruthy] using given
    · simp [dbQueryRef, allowed, AllFixed]

end Fixed

/-! ## What a fixed text reads -/

/-- A value that binds exactly one placeholder, or none at all because it cannot be bound. -/
def bindsOne : Json → Bool
  | .arr items => items.length = 1
  | .obj _ => false
  | _ => true

/-- The engine evaluates a fixed text over the rows of the collection that is bound. -/
def Documented (platform : QueryPlatform) : Prop :=
  ∃ evaluate : Template → List SqlValue → List RecordRow → Except QueryError (List ResultRow),
    ∀ (t : Template) (values : List SqlValue) (name : String) (rows : List RecordRow),
      values[t.collectionIndex]? = some (.text name) → platform.execute t.text values rows =
        evaluate t values (rows.filter fun row => row.collection = name)

theorem bindArguments_cons {a : Argument} {rest : List Argument} {values : List SqlValue}
    (bound : Driver.bindArguments (a :: rest) = .ok values) :
    ∃ first more, Driver.bindArgument a = .ok first ∧ rest.mapM Driver.bindArgument = .ok more ∧
      values = first ++ more.flatten := by
  unfold Driver.bindArguments at bound
  split at bound
  · cases bound
  · rw [List.mapM_cons] at bound
    cases first : Driver.bindArgument a with
    | error e =>
        rw [first] at bound
        cases bound
    | ok firstValues =>
        cases later : rest.mapM Driver.bindArgument with
        | error e =>
            rw [first, later] at bound
            cases bound
        | ok more =>
            rw [first, later] at bound
            cases bound
            exact ⟨firstValues, more, rfl, rfl, rfl⟩

theorem bindArgument_length {value : Json} {values : List SqlValue}
    (one : bindsOne value = true) (bound : Driver.bindArgument (.json value) = .ok values) :
    values.length = 1 := by
  cases value with
  | arr items =>
      obtain ⟨item, rfl⟩ := List.length_eq_one_iff.mp (by simpa [bindsOne] using one)
      rw [Driver.bindArgument, List.mapM_cons, List.mapM_nil] at bound
      cases first : Driver.bindValue item with
      | error e =>
          rw [first] at bound
          cases bound
      | ok v =>
          rw [first] at bound
          cases bound
          rfl
  | obj fields => cases one
  | null => cases bound; rfl
  | num q => cases bound; rfl
  | str text => cases bound; rfl
  | bool b => cases bound

section Reads

variable {platform : QueryPlatform} {tables tables' : DataStoreTables} {collection : String}

/-- The collection first: it is bound to the first placeholder. -/
theorem bound_first {rest : List Argument} {values : List SqlValue}
    (bound : Driver.bindArguments (.json (.str collection) :: rest) = .ok values) :
    values[0]? = some (.text collection) := by
  obtain ⟨first, more, same, -, rfl⟩ := bindArguments_cons bound
  cases same
  rfl

/-- After a value that binds one placeholder it is bound to the second. -/
theorem bound_second {field : Json} {rest : List Argument} {values : List SqlValue}
    (one : bindsOne field = true)
    (bound : Driver.bindArguments (.json field :: .json (.str collection) :: rest) = .ok values) :
    values[1]? = some (.text collection) := by
  obtain ⟨first, more, same, later, rfl⟩ := bindArguments_cons bound
  obtain ⟨v, rfl⟩ := List.length_eq_one_iff.mp (bindArgument_length one same)
  rw [List.mapM_cons] at later
  cases third : rest.mapM Driver.bindArgument with
  | error e =>
      rw [third] at later
      cases later
  | ok lists =>
      rw [third] at later
      cases later
      rfl

variable (documented : Documented platform)
  (same : (tables.records.filter fun row => row.collection = collection) =
    tables'.records.filter fun row => row.collection = collection)

include documented same

/-- Two stores with the same rows of the collection that is bound answer alike. -/
theorem prepareAndRun_congr (t : Template) (statement : Statement) (text : statement.text = t.text)
    (bound : ∀ values, Driver.bindArguments statement.arguments = .ok values →
      values[t.collectionIndex]? = some (.text collection)) :
    prepareAndRun platform tables statement = prepareAndRun platform tables' statement := by
  obtain ⟨evaluate, reads⟩ := documented
  funext prepared
  unfold prepareAndRun
  cases given : Driver.bindArguments statement.arguments with
  | error e => rfl
  | ok values =>
      dsimp only [Except.bind]
      rw [text, reads t values collection _ (bound values given),
        reads t values collection _ (bound values given), same]

variable {clauses : List (String × List Argument)} {rest : List Argument} {c : Conditions}
  (conditions : whereStr clauses = c.text)
  (first : whereParams clauses = .json (.str collection) :: rest)

include conditions first

theorem queryRecords_congr (fromTs : Option Argument) (toTs : Argument) (options : Json) :
    queryRecords platform tables fromTs toTs options clauses =
      queryRecords platform tables' fromTs toTs options clauses := by
  have span := prepareAndRun_congr documented same (.span c)
    ⟨spanText (whereStr clauses), whereParams clauses⟩ (by rw [conditions]; rfl)
    (by rw [first]; exact fun _ => bound_first)
  have sample (more : List Argument) := prepareAndRun_congr documented same (.sample c)
    ⟨sampleText (whereStr clauses), whereParams clauses ++ more⟩
    (by rw [conditions]; rfl) (by rw [first]; exact fun _ => bound_first)
  have page (limit offset : Bool) (more : List Argument) :=
    prepareAndRun_congr documented same (.page c limit offset)
      ⟨pageText (whereStr clauses) limit offset, whereParams clauses ++ more⟩
      (by rw [conditions]; rfl) (by rw [first]; exact fun _ => bound_first)
  simp only [queryRecords, querySample, queryPage, span, sample, page]

theorem runAggregate_congr {aggFn : String} (named : aggFn ∈ functionNames) {field : Json}
    (one : aggFn ≠ "COUNT" → bindsOne field = true) :
    runAggregate platform tables aggFn field clauses =
      runAggregate platform tables' aggFn field clauses := by
  obtain ⟨function, rfl⟩ : ∃ function : AggregateFunction, aggFn = function.name := by
    simp only [functionNames, List.mem_cons, List.not_mem_nil, or_false] at named
    rcases named with rfl | rfl | rfl | rfl | rfl
    exacts [⟨.sum, rfl⟩, ⟨.avg, rfl⟩, ⟨.min, rfl⟩, ⟨.max, rfl⟩, ⟨.count, rfl⟩]
  unfold runAggregate
  refine congrArg (· >>= _) (prepareAndRun_congr documented same (.aggregate function c) _ ?_ ?_)
  · rw [conditions]
    rfl
  · intro values bound
    dsimp only at bound
    rw [first] at bound
    cases function with
    | count => exact bound_first bound
    | sum | avg | min | max =>
        rw [if_neg (by decide)] at bound
        exact bound_second (one (by decide)) bound

theorem queryAggregate_congr {aggregate : Json} {field : Option Json}
    (named : isTruthy field = true → ∀ name, aggregate = .str name →
      platform.toUpperCase name ∈ functionNames)
    (one : isTruthy field = true → ∀ name, aggregate = .str name →
      platform.toUpperCase name ≠ "COUNT" → bindsOne (field.getD .null) = true) :
    queryAggregate platform tables aggregate field clauses =
      queryAggregate platform tables' aggregate field clauses := by
  unfold queryAggregate
  split
  · rename_i given
    cases aggregate with
    | str name =>
        exact runAggregate_congr documented same conditions first (named given name rfl)
          (one given name rfl)
    | _ => rfl
  · rfl

end Reads

/-! ## Confinement -/

/-- Two stores with the same collections of these names. -/
def AgreeOn (names : List String) (tables tables' : DataStoreTables) : Prop :=
  ∀ name ∈ names, tables.collections.contains name = tables'.collections.contains name ∧
    (tables.records.filter fun row => row.collection = name) =
      tables'.records.filter fun row => row.collection = name

/-- Wherever a query gets to an aggregate of a field, the field binds one placeholder. -/
def FieldsAligned (platform : QueryPlatform) (tables : DataStoreTables) (now : ℤ)
    (scope : AuthorizationScope) (collection optionsJson : String) : Prop :=
  ∀ options name field, Asked platform tables now scope collection optionsJson options name →
    platform.toUpperCase name ≠ "COUNT" → options.property "field" = some field →
      bindsOne field = true

/-- **Confinement.**  The statements prepared for a script have the fixed texts exactly when
the aggregates it gets to are the five, and then, when their fields bind one placeholder each,
the answer depends on the collections in the script's scope only. -/
theorem query_confined (platform : QueryPlatform) (documented : Documented platform)
    (tables : DataStoreTables) (now : ℤ) (tabId : Option String) (deviceIds names : List String)
    (collection optionsJson : String) :
    (AllFixed
        (dbQueryRef platform tables now (.scoped tabId deviceIds names) collection optionsJson).2 ↔
      NamesFixed platform tables now (.scoped tabId deviceIds names) collection optionsJson) ∧
    (NamesFixed platform tables now (.scoped tabId deviceIds names) collection optionsJson →
      FieldsAligned platform tables now (.scoped tabId deviceIds names) collection optionsJson →
      ∀ tables', AgreeOn names tables tables' →
        (dbQueryRef platform tables now (.scoped tabId deviceIds names) collection optionsJson) =
          dbQueryRef platform tables' now (.scoped tabId deviceIds names) collection
            optionsJson) := by
  refine ⟨allFixed_iff, fun named aligned tables' agree => ?_⟩
  by_cases allowed : collectionAllowed (.scoped tabId deviceIds names) collection = true
  · obtain ⟨exists_, rows⟩ := agree collection (by simpa [collectionAllowed] using allowed)
    cases parsed : platform.jsonParse optionsJson with
    | none => simp [dbQueryRef, allowed, parsed]
    | some options =>
        suffices same : query platform tables now collection options [] =
            query platform tables' now collection options [] by
          simp only [dbQueryRef, allowed, parsed, same]
        cases there : tables.collections.contains collection with
        | false => rw [query_absent there, query_absent (exists_ ▸ there)]
        | true =>
            rw [query_eq there, query_eq (exists_ ▸ there)]
            cases since : resolveFrom platform now (options.property "from") with
            | error e => rfl
            | ok fromTs =>
                rw [bind_of_ok (check_of_ok rfl), bind_of_ok (check_of_ok rfl)]
                obtain ⟨c, conditions⟩ := whereStr_whereClauses collection fromTs
                  (resolveTo now (options.property "to")) (options.property "tags")
                split
                · rename_i given
                  have asked (field : isTruthy (options.property "field") = true) (name : String)
                      (aggregate : (options.property "aggregate").getD .null = .str name) :
                      Asked platform tables now (.scoped tabId deviceIds names) collection
                        optionsJson options name := by
                    cases known : options.property "aggregate" with
                    | none =>
                        rw [known] at aggregate
                        cases aggregate
                    | some value =>
                        rw [known] at aggregate given
                        obtain rfl : value = .str name := aggregate
                        exact ⟨allowed, parsed, there, ⟨fromTs, since⟩, known,
                          by simpa [isTruthy] using given, field⟩
                  refine congrFun (queryAggregate_congr documented rows conditions rfl
                    (fun field name aggregate => named options name (asked field name aggregate))
                    fun field name aggregate notCount => ?_) _
                  cases known : options.property "field" with
                  | none =>
                      rw [known] at field
                      cases field
                  | some value =>
                      exact aligned options name value (asked field name aggregate) notCount known
                · exact congrFun (queryRecords_congr documented rows conditions rfl _ _ _) _
  · simp [dbQueryRef, allowed]

/-! ## A script of the tab `lab`, whose only collection is `mine` -/

def labScope : AuthorizationScope := .scoped (some "lab") [] ["mine"]

def countOptions : Json := .obj [("aggregate", .str "count"), ("field", .str "x")]

def sqlOptions : Json :=
  .obj [("aggregate", .str "(select sum(timestamp) from ds_records) + max"), ("field", .str "x")]

def countJson : String := "\x7b\"aggregate\":\"count\",\"field\":\"x\"\x7d"

def sqlJson : String :=
  "\x7b\"aggregate\":\"(select sum(timestamp) from ds_records) + max\",\"field\":\"x\"\x7d"

def countText : String :=
  "SELECT COUNT(*) as agg_value FROM ds_records WHERE collection = ? AND timestamp <= ?"

def atMost (timestamp : SqlValue) (bound : ℚ) : Bool :=
  match timestamp with
  | .integer value => value ≤ bound
  | .real value => value ≤ bound
  | _ => false

/-- An engine that knows how to count the rows of a collection up to now. -/
def countRows (text : String) (values : List SqlValue) (rows : List RecordRow) :
    Except QueryError (List ResultRow) :=
  if text = countText then
    match values with
    | [.text name, .real bound] =>
        .ok [[("agg_value",
          .integer (rows.filter fun row => row.collection = name ∧ atMost row.timestamp bound).length)]]
    | _ => .error .sql
  else .error .sql

theorem asciiUpperCase_not_lower (text : String) :
    ∀ c ∈ (String.ofList (text.toList.map Char.toUpper)).toList, c.isLower = false := by
  intro c member
  obtain ⟨small, -, rfl⟩ := List.mem_map.mp (String.toList_ofList ▸ member)
  delta Char.isLower Char.toUpper
  split <;> grind [UInt32.toNat_add, Char.toNat_val]

def labPlatform : QueryPlatform where
  execute := countRows
  jsonParse text :=
    if text = countJson then some countOptions
    else if text = sqlJson then some sqlOptions
    else none
  toNumber _ := none
  trim text := text
  toUpperCase text := String.ofList (text.toList.map Char.toUpper)
  toUpperCase_not_lower := asciiUpperCase_not_lower

theorem documented_labPlatform : Documented labPlatform := by
  refine ⟨fun t => countRows t.text, fun t values name rows bound => ?_⟩
  change countRows t.text values rows = countRows t.text values _
  unfold countRows
  split
  · split
    · rename_i first second
      -- the name is the first value, since the second is a number
      have same : first = name := by
        have index : t.collectionIndex = 0 ∨ t.collectionIndex = 1 := by
          cases t with
          | aggregate function conditions => cases function <;> simp [Template.collectionIndex]
          | _ => exact Or.inl rfl
        rcases index with zero | one
        · simpa [zero] using bound
        · simp [one] at bound
      have once (row : RecordRow) : (decide (row.collection = name ∧ atMost row.timestamp second) &&
          decide (row.collection = name)) =
          decide (row.collection = name ∧ atMost row.timestamp second) := by
        by_cases own : row.collection = name <;> simp [own]
      simp only [same, List.filter_filter, once]
    · rfl
  · rfl

def mine (id timestamp : ℤ) : RecordRow := ⟨id, "mine", "\x7b\x7d", "\x7b\x7d", .integer timestamp⟩

def labTables (foreign : List RecordRow) : DataStoreTables where
  collections := ["mine", "secret"]
  records := mine 1 5 :: foreign

def secretRow : RecordRow := ⟨2, "secret", "\x7b\"x\":7\x7d", "\x7b\x7d", .integer 6⟩

/-- A count of the script's own rows. -/
theorem query_confined_count :
    AllFixed (dbQueryRef labPlatform (labTables []) 10 labScope "mine" countJson).2 ∧
      dbQueryRef labPlatform (labTables []) 10 labScope "mine" countJson =
        dbQueryRef labPlatform (labTables [secretRow]) 10 labScope "mine" countJson := by
  have confined := query_confined labPlatform documented_labPlatform (labTables []) 10
    (some "lab") [] ["mine"] "mine" countJson
  have counts (options : Json) (name : String) (asked : Asked labPlatform (labTables []) 10 labScope
      "mine" countJson options name) : labPlatform.toUpperCase name = "COUNT" := by
    obtain rfl : countOptions = options := Option.some.inj asked.parsed
    obtain rfl : "count" = name := Json.str.inj (Option.some.inj asked.named)
    rfl
  have named : NamesFixed labPlatform (labTables []) 10 labScope "mine" countJson := by
    intro options name asked
    rw [counts options name asked]
    decide
  refine ⟨confined.1.mpr named, confined.2 named ?_ (labTables [secretRow]) ?_⟩
  · exact fun options name field asked notCount => absurd (counts options name asked) notCount
  · intro name member
    rw [List.mem_singleton.mp member]
    exact ⟨rfl, rfl⟩

/-- The name of an aggregate can be a query of its own, over the rows of every collection. -/
theorem aggregate_becomes_sql :
    (dbQueryRef labPlatform (labTables [secretRow]) 10 labScope "mine" sqlJson).2.map
        Statement.text =
      [existsText, "SELECT (SELECT SUM(TIMESTAMP) FROM DS_RECORDS) + " ++
        "MAX(json_extract(payload, '$.' || ?)) as agg_value FROM ds_records WHERE " ++
        "collection = ? AND timestamp <= ?"] ∧
    ¬AllFixed (dbQueryRef labPlatform (labTables [secretRow]) 10 labScope "mine" sqlJson).2 := by
  refine ⟨by decide +kernel, fun fixed => ?_⟩
  have names := allFixed_iff.mp fixed sqlOptions "(select sum(timestamp) from ds_records) + max"
    ⟨rfl, rfl, rfl, ⟨none, rfl⟩, rfl, by decide, rfl⟩
  exact absurd names (by decide +kernel)

end Aeolus.Storage
