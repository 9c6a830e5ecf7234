/-
# Aeolus.Mqtt.MessageRouting — the reserved namespaces against their subscriptions

`handleMessage` takes a message for an acknowledgement or an automation event when its topic
begins with the text of the filter, `#` taken off.  The broker delivers by levels: what the
filter `space/#` matches is all that begins with `space/`, and `space` itself.

* `handleMessage_routed` — a message is handled as its route says;
* `isSpaceTopic_iff` — the text test is the filter without the namespace's own topic;
* `reserved_routed_iff` — so the routes are those of the subscriptions exactly elsewhere, and
  where an automation event is no acknowledgement as well;
* `parent_becomes_device` — the pole: what is published on `aeolus/acks` itself is a device.
-/
import Aeolus.Mqtt.Observation
import Aeolus.Mqtt.TopicLevels

namespace Aeolus.Mqtt

open Aeolus.Core Aeolus.Automations

/-! ## Routes -/

inductive Route where
  | acknowledgement
  | automationEvent
  | ignored
  | device
  deriving DecidableEq

section Routing

variable (platform : Platform) (config : MqttServiceConfig)

/-- The tests of `handleMessage`, in their order. -/
def route (topic : String) : Route :=
  if isAckTopic config topic then .acknowledgement
  else if isAutomationEventTopic config topic then .automationEvent
  else if isIgnoredDiscoveryTopic platform config topic then .ignored
  else .device

/-- The `DEVICE_STATE_CHANGE` event of a message. -/
def stateChange (h : Hub) (topic raw : String) (now : Nat) : Option NormalizedEvent :=
  if route platform config topic = .device then h.deviceEvent platform topic raw now else none

/-- `handleAckMessage` -/
def Hub.handleAckMessage (h : Hub) (raw : String) (correlationData : Option String) (now : Nat) :
    Hub :=
  match ackMessage platform raw correlationData with
  | none => h
  | some message => { h with tracker := h.tracker.route message now }

/-- What becomes of a message on each route. -/
def Hub.take (h : Hub) (topic raw : String) (correlationData : Option String) (now : Nat) :
    Route → Hub
  | .acknowledgement => h.handleAckMessage platform raw correlationData now
  | .automationEvent => h
  | .ignored => h
  | .device => h.handleState platform topic raw now

theorem handleMessage_routed (h : Hub) (topic raw : String) (correlationData : Option String)
    (now : Nat) : h.handleMessage platform config topic raw correlationData now =
      h.take platform topic raw correlationData now (route platform config topic) := by
  unfold Hub.handleMessage route
  split_ifs <;> rfl

theorem route_acknowledgement (topic : String) :
    route platform config topic = .acknowledgement ↔ isAckTopic config topic = true := by
  unfold route
  split_ifs with ack <;> simp [ack]

theorem route_automationEvent (topic : String) :
    route platform config topic = .automationEvent ↔
      isAckTopic config topic = false ∧ isAutomationEventTopic config topic = true := by
  unfold route
  split_ifs with ack event <;> simp_all

end Routing

/-! ## The text test -/

/-- What the test of a filter `space/#` asks. -/
theorem inSpace_iff (space topic : String) :
    inSpace (some (space ++ "/#")) topic = true ↔ space.toList ++ ['/'] <+: topic.toList := by
  have letters : (space ++ "/#").toList = (space.toList ++ ['/']) ++ ['#'] := by simp
  have given : truthy (some (space ++ "/#")) = some (space ++ "/#") := by
    refine truthy_eq_some.mpr ⟨rfl, ?_⟩
    intro empty
    have none := congrArg String.toList empty
    simp at none
  have ends : "/#".toList.isSuffixOf (space ++ "/#").toList = true := by
    rw [List.isSuffixOf_iff_suffix, String.toList_append]
    exact List.suffix_append _ _
  unfold inSpace
  rw [given]
  dsimp only
  rw [if_pos ends, letters, List.dropLast_concat, List.isPrefixOf_iff_prefix]

/-- No topic is below itself. -/
theorem not_below_self (topic : String) : ¬topic.toList ++ ['/'] <+: topic.toList := by
  intro below
  have longer := below.length_le
  rw [List.length_append, List.length_singleton] at longer
  omega

/-- The namespace's own topic is matched by its filter, and does not begin with it. -/
theorem isSpaceTopic_iff {space : String} (plain : WildcardFree space) (topic : String) :
    inSpace (some (space ++ "/#")) topic = true ↔
      matchesTopicFilter (space ++ "/#") topic = true ∧ topic ≠ space := by
  rw [inSpace_iff, matches_space_iff plain]
  constructor
  · intro below
    refine ⟨Or.inr below, ?_⟩
    rintro rfl
    exact not_below_self topic below
  · rintro ⟨⟨rfl, -⟩ | below, other⟩
    · exact absurd rfl other
    · exact below

/-- Test and filter differ there alone. -/
theorem matches_iff_isSpaceTopic {space : String} (plain : WildcardFree space) (topic : String) :
    (matchesTopicFilter (space ++ "/#") topic = true ↔
      inSpace (some (space ++ "/#")) topic = true) ↔ (topic = space → space = "") := by
  rw [isSpaceTopic_iff plain]
  constructor
  · intro same equal
    by_contra named
    have matched := (matches_space_iff plain topic).mpr (Or.inl ⟨equal, named⟩)
    exact (same.mp matched).2 equal
  · intro unnamed
    constructor
    · intro matched
      refine ⟨matched, ?_⟩
      rintro rfl
      rw [matches_space_iff plain] at matched
      rcases matched with ⟨-, named⟩ | below
      · exact named (unnamed rfl)
      · exact not_below_self topic below
    · exact And.left

/-! ## Routing by subscription -/

/-- The messages that the filter of the namespace delivers take this route and no others do, and
none of them is a state change. -/
def RoutedAs (platform : Platform) (config : MqttServiceConfig) (space topic : String)
    (way : Route) : Prop :=
  (matchesTopicFilter (space ++ "/#") topic = true ↔ route platform config topic = way) ∧
    (matchesTopicFilter (space ++ "/#") topic = true →
      ∀ h raw now, stateChange platform config h topic raw now = none)

theorem routedAs_iff {platform : Platform} {config : MqttServiceConfig} {space topic : String}
    {way : Route} (reserved : way ≠ .device) :
    RoutedAs platform config space topic way ↔
      (matchesTopicFilter (space ++ "/#") topic = true ↔ route platform config topic = way) := by
  refine ⟨And.left, fun routed => ⟨routed, ?_⟩⟩
  intro matched h raw now
  unfold stateChange
  rw [routed.mp matched, if_neg reserved]

/-- **Reserved namespaces.**  Acknowledgements are routed as they are delivered exactly off the
namespace's own topic; automation events also have to be no acknowledgements. -/
theorem reserved_routed_iff (platform : Platform) (config : MqttServiceConfig)
    {space : String} (plain : WildcardFree space) (topic : String) :
    (config.ackTopicFilter = some (space ++ "/#") →
      (RoutedAs platform config space topic .acknowledgement ↔ (topic = space → space = ""))) ∧
    (config.automationEventTopicFilter = some (space ++ "/#") →
      (RoutedAs platform config space topic .automationEvent ↔
        (topic = space → space = "") ∧
          ¬(matchesTopicFilter (space ++ "/#") topic = true ∧
            isAckTopic config topic = true))) := by
  constructor
  · intro configured
    rw [routedAs_iff (by decide), route_acknowledgement, isAckTopic, configured,
      matches_iff_isSpaceTopic plain]
  · intro configured
    rw [routedAs_iff (by decide), route_automationEvent, isAutomationEventTopic, configured,
      ← matches_iff_isSpaceTopic plain]
    cases isAckTopic config topic with
    | true =>
        have tested := isSpaceTopic_iff plain topic
        simp only [Bool.true_eq_false, false_and, iff_false, and_true]
        constructor
        · intro unmatched
          refine ⟨?_, unmatched⟩
          exact iff_of_false unmatched fun below => unmatched (tested.mp below).1
        · exact And.right
    | false => simp

theorem wildcardFree_acks : WildcardFree "aeolus/acks" := by
  unfold WildcardFree
  decide

/-- The filter of `src/index.ts`. -/
def startUpAcks : MqttServiceConfig := { ackTopicFilter := some "aeolus/acks/#" }

theorem reserved_routed_iff_acks :
    RoutedAs lampPlatform startUpAcks "aeolus/acks" "aeolus/acks/pump" .acknowledgement :=
  ((reserved_routed_iff lampPlatform startUpAcks wildcardFree_acks "aeolus/acks/pump").1 rfl).mpr
    (by decide)

/-- The pole: the namespace's own topic is delivered, and is a state change. -/
theorem parent_becomes_device :
    matchesTopicFilter "aeolus/acks/#" "aeolus/acks" = true ∧
      route lampPlatform startUpAcks "aeolus/acks" = .device ∧
      ((stateChange lampPlatform startUpAcks {} "aeolus/acks" lampOn 0).map fun event =>
        event.deviceId) = some "aeolus-acks" := by
  decide

end Aeolus.Mqtt
