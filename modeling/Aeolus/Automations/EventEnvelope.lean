/-
# Aeolus.Automations.EventEnvelope — the text of an automation event

What `emit` publishes is a text on a topic, and `parseAutomationEventEnvelope` reads the text.
It reads the envelope that was written, whatever the payload; the topic has one level more for
the rule and those of the name.

The bound of a text is in bytes and is compared with its `length`, which counts code units.  An
event is therefore as the service means it to be exactly when its envelope leaves room for the
further bytes of its characters outside of ASCII (`event_carried_iff`).
-/
import Mathlib
import Aeolus.Automations.AutomationEventService
import Aeolus.Core.JsonText
import Aeolus.Mqtt.TopicLevels

namespace Aeolus.Automations

open Aeolus.Core Aeolus.Core.JsonText Aeolus.Mqtt

/-! ## Names -/

/-- A valid name has letters, digits, `_`, `.`, `-` and `/`. -/
theorem eventName_letters {name : String} (valid : isValidEventName (.str name) = true) :
    ∀ c ∈ name.toList, c = '/' ∨ c.isAlphanum = true ∨ c = '_' ∨ c = '.' ∨ c = '-' := by
  intro c member
  have joined : ['/'].intercalate (name.toList.splitOn '/') = name.toList :=
    List.intercalate_splitOn _
  rw [← joined] at member
  obtain same | ⟨part, listed, inside⟩ := mem_intercalate member
  · exact .inl same
  · simp only [isValidEventName, Bool.and_eq_true] at valid
    have segment := List.all_eq_true.mp valid.2 _ (List.mem_map_of_mem listed)
    simp only [isEventSegment, Bool.and_eq_true, String.toList_ofList] at segment
    have letter := List.all_eq_true.mp segment.2 c inside
    simp only [Bool.or_eq_true, decide_eq_true_eq, or_assoc] at letter
    exact .inr letter

theorem isAlphanum_ascii {c : Char} (letter : c.isAlphanum = true) : c.toNat < 0x80 := by
  simp only [Char.isAlphanum, Char.isAlpha, Char.isUpper, Char.isLower, Char.isDigit,
    Bool.or_eq_true, Bool.and_eq_true, decide_eq_true_eq, ge_iff_le,
    UInt32.le_iff_toNat_le] at letter
  rcases letter with (⟨-, most⟩ | ⟨-, most⟩) | ⟨-, most⟩
  all_goals exact Nat.lt_of_le_of_lt most (by decide)

theorem eventName_ascii {name : String} (valid : isValidEventName (.str name) = true) :
    excessOf name.toList = 0 := by
  refine excessOf_ascii fun c member => ?_
  obtain rfl | letter | rfl | rfl | rfl := eventName_letters valid c member
  · decide
  · exact isAlphanum_ascii letter
  all_goals decide

theorem eventName_plain {name : String} (valid : isValidEventName (.str name) = true) :
    WildcardFree name := by
  constructor
  · intro single
    have letter := eventName_letters valid _ single
    revert letter
    decide
  · intro multi
    have letter := eventName_letters valid _ multi
    revert letter
    decide

/-! ## Envelopes -/

def EventMetadata.values (metadata : EventMetadata) : List (Option Json) :=
  [some (.str metadata.eventId), some (.num metadata.timestamp), metadata.source,
    metadata.causationId, metadata.ruleId, metadata.executionId, metadata.traceId, metadata.depth]

/-- What a payload and metadata take in bytes beyond their code units. -/
def extraBytes (payload : Option Json) (metadata : EventMetadata) : Nat :=
  excessOf (Json.lettersOf payload) +
    (metadata.values.map fun value => excessOf (Json.lettersOf value)).sum

def Written (values : List (Option Json)) : Prop :=
  ∀ given ∈ values, ∀ value, given = some value → value.Distinct

theorem distinct_metadata {metadata : EventMetadata} (written : Written metadata.values) :
    metadata.toJson.Distinct := by
  refine Json.Distinct.ofPresent ?_ ?_
  · simp only [List.map_cons, List.map_nil]
    decide
  · simpa [Written, EventMetadata.values] using written

theorem excessOf_metadata (metadata : EventMetadata) :
    excessOf metadata.toJson.letters =
      (metadata.values.map fun value => excessOf (Json.lettersOf value)).sum := by
  rw [EventMetadata.toJson, excessOf_ofPresent]
  · rfl
  · simp only [List.forall_mem_cons]
    decide

variable (envelope : AutomationEventEnvelope)

theorem distinct_envelope
    (payload : ∀ value, envelope.payload = some value → value.Distinct)
    (written : Written envelope.metadata.values) : envelope.toJson.Distinct := by
  refine Json.Distinct.ofPresent ?_ ?_
  · simp only [List.map_cons, List.map_nil]
    decide
  · simp only [List.forall_mem_cons, Option.some.injEq]
    refine ⟨?_, ?_, payload, ?_, by simp⟩
    · rintro _ rfl
      exact .str _
    · rintro _ rfl
      exact .str _
    · rintro _ rfl
      exact distinct_metadata written

theorem excessOf_envelope (valid : isValidEventName (.str envelope.name) = true) :
    excessOf envelope.toJson.letters = extraBytes envelope.payload envelope.metadata := by
  have name := eventName_ascii valid
  rw [AutomationEventEnvelope.toJson, excessOf_ofPresent]
  · have schema : excessOf automationEventSchema.toList = 0 := by decide
    have said := excessOf_metadata envelope.metadata
    simp only [List.map_cons, List.map_nil, List.sum_cons, List.sum_nil, Json.lettersOf,
      Option.elim_some, Json.letters, schema, name, Nat.zero_add, Nat.add_zero]
    rw [said]
    rfl
  · simp only [List.forall_mem_cons]
    decide

/-! ## What is emitted -/

section Emitted

variable {coercion : Coercion} {execution : RuleExecution} {host : Host} {name : String}
  {payload : Option Json}

theorem distinct_plusOne (value : Json) : (coercion.plusOne value).Distinct := by
  cases value <;> constructor

theorem distinct_whenTruthy {given : Option Json}
    (distinct : ∀ value, given = some value → value.Distinct) :
    ∀ value, AutomationEngine.whenTruthy given = some value → value.Distinct := by
  intro value same
  unfold AutomationEngine.whenTruthy at same
  split at same
  · exact distinct value same
  · cases same

theorem distinct_orElse {given : Option Json} {other : Json}
    (distinct : ∀ value, given = some value → value.Distinct) (fallback : other.Distinct) :
    (orElse given other).Distinct := by
  unfold orElse
  split
  · exact fallback
  · exact fallback
  · exact distinct _ rfl

theorem distinct_orZero {value : Json} (distinct : value.Distinct) :
    (orZero (some value)).Distinct := by
  unfold orZero
  split
  · exact .num 0
  · exact .num 0
  · rename_i same
    exact Option.some.inj same ▸ distinct

theorem written_emitted
    (trace : ∀ value, execution.context.metadata.bind EventMetadata.traceId = some value →
      value.Distinct) :
    Written (emittedEnvelope coercion execution host name payload).metadata.values := by
  have text (given : Option String) :
      ∀ value, given.map Json.str = some value → value.Distinct := by
    intro value same
    obtain ⟨text, -, rfl⟩ := Option.map_eq_some_iff.mp same
    exact .str text
  have given {value : Json} (distinct : value.Distinct) :
      ∀ value', some value = some value' → value'.Distinct := fun _ same =>
    Option.some.inj same ▸ distinct
  have source :
      (Json.obj [("kind", .str "automation"), ("id", .str execution.ruleId)]).Distinct := by
    refine .obj (by simp) fun field member => ?_
    simp only [List.mem_cons, List.not_mem_nil, or_false] at member
    obtain rfl | rfl := member <;> exact .str _
  simp only [Written, EventMetadata.values, emittedEnvelope, newEventMetadata,
    List.forall_mem_cons]
  refine ⟨given (.str _), given (.num _), given source, ?_, ?_, ?_, ?_, ?_, by simp⟩
  · have cause := text (execution.context.metadata.map EventMetadata.eventId)
    rw [Option.map_map] at cause
    exact distinct_whenTruthy (distinct_whenTruthy cause)
  · exact distinct_whenTruthy (given (.str _))
  · exact distinct_whenTruthy (distinct_whenTruthy (given (.str _)))
  · exact given (distinct_orElse (distinct_whenTruthy trace) (.str _))
  · exact given (distinct_orZero (distinct_plusOne _))

end Emitted

/-! ## The text -/

/-- The message is read as the envelope that was written, from a topic with just one level for
the rule, and is within its bound. -/
structure Carried (numbers : NumberText) (envelope : AutomationEventEnvelope)
    (ruleId topic text : String) : Prop where
  read : (parse numbers text).bind parseAutomationEventEnvelope = some envelope
  levels : split topic '/' =
    split reservedEventNamespace '/' ++ ruleId :: split envelope.name '/'
  plain : WildcardFree topic
  small : text.utf8ByteSize ≤ maxEnvelopeBytes

/-- The rule's id is a level, and the envelope has room for its further bytes. -/
structure HasRoom (numbers : NumberText) (envelope : AutomationEventEnvelope) (ruleId : String) :
    Prop where
  level : '/' ∉ ruleId.toList
  plain : WildcardFree ruleId
  room : extraBytes envelope.payload envelope.metadata ≤
    maxEnvelopeBytes - utf16Length (stringify numbers envelope.toJson)

theorem topic_letters (ruleId name : String) :
    (reservedEventNamespace ++ "/" ++ ruleId ++ "/" ++ name).toList =
      reservedEventNamespace.toList ++ '/' :: (ruleId.toList ++ '/' :: name.toList) := by
  simp

theorem split_topic_iff {ruleId name : String} :
    split (reservedEventNamespace ++ "/" ++ ruleId ++ "/" ++ name) '/' =
        split reservedEventNamespace '/' ++ ruleId :: split name '/' ↔ '/' ∉ ruleId.toList := by
  have levels : split (reservedEventNamespace ++ "/" ++ ruleId ++ "/" ++ name) '/' =
      split reservedEventNamespace '/' ++ (split ruleId '/' ++ split name '/') := by
    unfold split
    rw [topic_letters, splitOn_append, splitOn_append, List.map_append, List.map_append]
  rw [levels, List.append_cancel_left_eq, ← List.singleton_append, List.append_cancel_right_eq]
  constructor
  · intro single
    have member : ruleId ∈ split ruleId '/' := by simp [single]
    exact (mem_split member).1
  · intro level
    simp [split, List.splitOn_eq_singleton level]

theorem wildcardFree_topic {ruleId name : String} (valid : isValidEventName (.str name) = true) :
    WildcardFree (reservedEventNamespace ++ "/" ++ ruleId ++ "/" ++ name) ↔
      WildcardFree ruleId := by
  have plain := eventName_plain valid
  have space : '+' ∉ reservedEventNamespace.toList ∧ '#' ∉ reservedEventNamespace.toList := by
    decide
  unfold WildcardFree at plain ⊢
  rw [topic_letters]
  simp [plain, space]

/-- **An event is carried as it was meant** exactly when its characters outside of ASCII leave
the text within its bound, and the rule's id is one level. -/
theorem event_carried_iff (numbers : NumberText) {coercion : Coercion} {execution : RuleExecution}
    {host : Host} {name : String} {payload : Option Json} {topic : String} {message : Json}
    (distinct : ∀ value, payload = some value → value.Distinct)
    (trace : ∀ value, execution.context.metadata.bind EventMetadata.traceId = some value →
      value.Distinct)
    (emitted : emit coercion (stringify numbers) execution host (.str name) payload =
      .ok (topic, message)) :
    Carried numbers (emittedEnvelope coercion execution host name payload) execution.ruleId topic
        (stringify numbers message) ↔
      HasRoom numbers (emittedEnvelope coercion execution host name payload)
        execution.ruleId := by
  obtain ⟨-, name', same, valid, rfl, rfl, small⟩ := emit_published emitted
  obtain rfl : name = name' := by simpa using same
  have written := distinct_envelope (emittedEnvelope coercion execution host name payload)
    distinct (written_emitted trace)
  have bytes := utf8Length_stringify numbers written
  rw [excessOf_envelope (emittedEnvelope coercion execution host name payload) valid] at bytes
  constructor
  · intro carried
    refine ⟨split_topic_iff.mp carried.levels, (wildcardFree_topic valid).mp carried.plain, ?_⟩
    have most := carried.small
    rw [bytes] at most
    exact Nat.le_sub_of_add_le' most
  · intro room
    refine ⟨?_, split_topic_iff.mpr room.level, (wildcardFree_topic valid).mpr room.plain, ?_⟩
    · rw [parse_stringify numbers written]
      exact parse_toJson valid rfl rfl
    · rw [bytes]
      exact Nat.add_le_of_le_sub' small room.room

/-! ## Two events of a rule -/

def pumpExecution : RuleExecution where
  ruleId := "r1"
  rule := ⟨"plant/#", "", none, .script "events.emit()", "mqtt", none⟩
  context := { topic := "plant/pump", deviceId := "pump", state := .empty, timestamp := 0 }

def pumpHost : Host where
  executionId := "x1"
  uuid := "e1"
  now := 0
  around := { now := fun _ => 0 }

def plainCoercion : Coercion := ⟨fun _ => "", fun _ => none⟩

theorem emit_pump {payload : Option Json} (small : utf16Length (stringify wholeNumbers
      (emittedEnvelope plainCoercion pumpExecution pumpHost "started" payload).toJson) ≤
        maxEnvelopeBytes) :
    emit plainCoercion (stringify wholeNumbers) pumpExecution pumpHost (.str "started") payload =
      .ok ("aeolus/events/r1/started",
        (emittedEnvelope plainCoercion pumpExecution pumpHost "started" payload).toJson) := by
  have valid : isValidEventName (.str "started") = true := by decide
  have shallow : plainCoercion.exceeds maxEventDepth
      (nextDepth plainCoercion pumpExecution.context) = false := by decide +kernel
  have topic : reservedEventNamespace ++ "/" ++ pumpExecution.ruleId ++ "/" ++ "started" =
      "aeolus/events/r1/started" := by decide
  unfold emit
  rw [if_neg (show pumpExecution.ruleId ≠ "" by decide)]
  simp only [valid, shallow, topic, Bool.true_eq_false, Bool.false_eq_true, if_false]
  rw [if_neg (Nat.not_lt.mpr small)]
  rfl

theorem event_carried_iff_pump :
    Carried wholeNumbers
        (emittedEnvelope plainCoercion pumpExecution pumpHost "started" (some (.num 7)))
        "r1" "aeolus/events/r1/started"
        (stringify wholeNumbers (emittedEnvelope plainCoercion pumpExecution pumpHost "started"
          (some (.num 7))).toJson) ↔
      HasRoom wholeNumbers
        (emittedEnvelope plainCoercion pumpExecution pumpHost "started" (some (.num 7))) "r1" :=
  event_carried_iff wholeNumbers
    (fun _ same => Option.some.inj same ▸ .num 7) (fun _ none => by cases none)
    (emit_pump (by decide +kernel))

/-! ### A text of many euro signs -/

/-- What stands before and after a payload that is a string of `letters`. -/
theorem stringify_pump (letters : List Char) :
    ∃ before after, utf16Length (String.ofList before) + utf16Length (String.ofList after) ≤ 1000 ∧
      stringify wholeNumbers (emittedEnvelope plainCoercion pumpExecution pumpHost "started"
        (some (.str (String.ofList letters)))).toJson =
      String.ofList (before ++ (letters.flatMap escape ++ after)) := by
  refine ⟨'\x7b' :: (quote "schema" ++ ':' :: (quote automationEventSchema ++ ',' ::
    (quote "name" ++ ':' :: (quote "started" ++ ',' :: (quote "payload" ++ [':', '"']))))),
    '"' :: ',' :: (quote "meta" ++ ':' :: (write wholeNumbers (emittedEnvelope plainCoercion
      pumpExecution pumpHost "started" none).metadata.toJson ++ ['\x7d'])), by decide +kernel, ?_⟩
  simp [stringify, AutomationEventEnvelope.toJson, emittedEnvelope, Json.ofPresent, write,
    writeFields, quote]

theorem flatMap_escape_euros (n : Nat) :
    (List.replicate n '€').flatMap escape = List.replicate n '€' := by
  induction n with
  | zero => rfl
  | succ n ih =>
      rw [List.replicate_succ, List.flatMap_cons, ih]
      rfl

theorem utf16Length_euros (n : Nat) : utf16Length (String.ofList (List.replicate n '€')) = n := by
  induction n with
  | zero => rfl
  | succ n ih =>
      rw [List.replicate_succ, ← List.singleton_append, utf16Length_append, ih,
        show utf16Length (String.ofList ['€']) = 1 by decide, Nat.add_comm]

theorem utf8ByteSize_euros (n : Nat) :
    (String.ofList (List.replicate n '€')).utf8ByteSize = 3 * n := by
  have further : excessOf (List.replicate n '€') = 2 * n := by
    simp [excessOf, show excess '€' = 2 by decide, Nat.mul_comm]
  rw [utf8ByteSize_eq, utf16Length_euros, String.toList_ofList, further]
  omega

def euros : Option Json := some (.str (String.ofList (List.replicate 30000 '€')))

/-- A text of thirty thousand characters is published with over ninety thousand bytes. -/
theorem euros_not_carried :
    emit plainCoercion (stringify wholeNumbers) pumpExecution pumpHost (.str "started") euros =
        .ok ("aeolus/events/r1/started",
          (emittedEnvelope plainCoercion pumpExecution pumpHost "started" euros).toJson) ∧
      ¬Carried wholeNumbers (emittedEnvelope plainCoercion pumpExecution pumpHost "started" euros)
        "r1" "aeolus/events/r1/started"
        (stringify wholeNumbers
          (emittedEnvelope plainCoercion pumpExecution pumpHost "started" euros).toJson) := by
  obtain ⟨before, after, around, written⟩ := stringify_pump (List.replicate 30000 '€')
  rw [flatMap_escape_euros] at written
  constructor
  · refine emit_pump ?_
    rw [euros, written, utf16Length_append, utf16Length_append, utf16Length_euros]
    have bound : maxEnvelopeBytes = 65536 := rfl
    omega
  · intro carried
    have small := carried.small
    rw [euros, written, String.ofList_append, String.ofList_append, String.utf8ByteSize_append,
      String.utf8ByteSize_append, utf8ByteSize_euros] at small
    have bound : maxEnvelopeBytes = 65536 := rfl
    omega

end Aeolus.Automations
