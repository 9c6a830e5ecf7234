/-
# Aeolus.Mqtt.TopicFilter — filters of topics, and what they match

`src/mqtt/topic-filter.ts`.  A filter and a topic are split into levels.  `LevelsMatch` is the
MQTT relation on the two lists; `matchesTopicFilter` walks the filter's levels and compares
the lengths at its end.  For a filter that `isValidTopicFilter` accepts the two agree on every
topic but the empty one, which no filter matches (`matchesTopicFilter_iff`).
-/
import Aeolus.Core.Text

namespace Aeolus.Mqtt

open Aeolus.Core

/-! ## Validity -/

/-- One level: a wildcard is the whole of it, and `#` is the last. -/
def levelValid (last : Bool) (level : String) : Bool :=
  if '#' ∈ level.toList then level = "#" && last
  else if '+' ∈ level.toList then level = "+"
  else true

/-- The loop over the levels. -/
def levelsValid : List String → Bool
  | [] => true
  | level :: rest => levelValid rest.isEmpty level && levelsValid rest

def isValidTopicFilter (filter : String) : Bool :=
  if filter = "" ∨ 65535 < utf16Length filter ∨ Char.ofNat 0 ∈ filter.toList then false
  else levelsValid (split filter '/')

/-! ## Matching -/

/-- The loop of `matchesTopicFilter`; `whole` says whether the lists are of one length. -/
def filterLevels (whole : Bool) : List String → List String → Bool
  | [], _ => whole
  | "#" :: _, _ => true
  | "+" :: _, [] => false
  | "+" :: filter, _ :: topic => filterLevels whole filter topic
  | _ :: _, [] => false
  | level :: filter, part :: topic =>
      if level ≠ part then false else filterLevels whole filter topic

def matchesTopicFilter (filter topic : String) : Bool :=
  if filter = "" ∨ topic = "" then false
  else if filter = topic then true
  else
    let filterParts := split filter '/'
    let topicParts := split topic '/'
    filterLevels (filterParts.length = topicParts.length) filterParts topicParts

/-- The MQTT relation: a literal matches itself, `+` one level of any content, and a final `#`
the levels that remain. -/
inductive LevelsMatch : List String → List String → Prop where
  | done : LevelsMatch [] []
  | multi (topic : List String) : LevelsMatch ["#"] topic
  | single {filter topic : List String} (level : String) (rest : LevelsMatch filter topic) :
      LevelsMatch ("+" :: filter) (level :: topic)
  | literal {filter topic : List String} {level : String} (plain : level ≠ "+" ∧ level ≠ "#")
      (rest : LevelsMatch filter topic) : LevelsMatch (level :: filter) (level :: topic)

section Valid

variable {level : String} {filter topic : List String}

/-- Below `#` there is nothing. -/
theorem rest_of_multi (valid : levelsValid ("#" :: filter) = true) : filter = [] := by
  unfold levelsValid at valid
  rw [Bool.and_eq_true] at valid
  have last : levelValid filter.isEmpty "#" = true := valid.1
  have whole : levelValid filter.isEmpty "#" = filter.isEmpty := by
    unfold levelValid
    rw [if_pos (by decide)]
    rfl
  rw [whole] at last
  exact List.isEmpty_iff.mp last

theorem rest_valid (valid : levelsValid (level :: filter) = true) : levelsValid filter = true := by
  unfold levelsValid at valid
  rw [Bool.and_eq_true] at valid
  exact valid.2

/-! ## One level -/

theorem levelsMatch_nil_iff : LevelsMatch [] topic ↔ topic = [] := by
  constructor
  · intro related
    cases related
    rfl
  · rintro rfl
    exact .done

theorem levelsMatch_single_iff : LevelsMatch ("+" :: filter) topic ↔
    ∃ part rest, topic = part :: rest ∧ LevelsMatch filter rest := by
  constructor
  · intro related
    generalize levels : "+" :: filter = whole at related
    cases related with
    | done => cases levels
    | multi => exact absurd (List.cons.inj levels).1 (by decide)
    | single part rest =>
        obtain ⟨-, rfl⟩ := List.cons.inj levels
        exact ⟨part, _, rfl, rest⟩
    | literal plain rest => exact absurd (List.cons.inj levels).1.symm plain.1
  · rintro ⟨part, rest, rfl, related⟩
    exact .single part related

theorem levelsMatch_literal_iff (plain : level ≠ "+" ∧ level ≠ "#") :
    LevelsMatch (level :: filter) topic ↔ ∃ rest, topic = level :: rest ∧ LevelsMatch filter rest := by
  constructor
  · intro related
    cases related with
    | multi => exact absurd rfl plain.2
    | single => exact absurd rfl plain.1
    | literal _ rest => exact ⟨_, rfl, rest⟩
  · rintro ⟨rest, rfl, related⟩
    exact .literal plain related

/-- A valid filter matches itself, as a topic. -/
theorem levelsMatch_self (valid : levelsValid filter = true) : LevelsMatch filter filter := by
  induction filter with
  | nil => exact .done
  | cons level rest ih =>
      by_cases multi : level = "#"
      · subst multi
        rw [rest_of_multi valid]
        exact .multi _
      · have below := ih (rest_valid valid)
        by_cases single : level = "+"
        · subst single
          exact .single _ below
        · exact .literal ⟨single, multi⟩ below

/-- A `#` in a valid filter is its last level. -/
theorem not_multi_of_append {front rest : List String} (valid : levelsValid (front ++ rest) = true)
    (some_rest : rest ≠ []) : "#" ∉ front := by
  induction front with
  | nil => exact List.not_mem_nil
  | cons level more ih =>
      rw [List.cons_append] at valid
      intro member
      rcases List.mem_cons.mp member with rfl | later
      · have none := rest_of_multi valid
        exact some_rest (List.append_eq_nil_iff.mp none).2
      · exact ih (rest_valid valid) later

/-- Without a `#`, levels match as many levels. -/
theorem LevelsMatch.length_eq (related : LevelsMatch filter topic) (plain : "#" ∉ filter) :
    filter.length = topic.length := by
  induction related with
  | done => rfl
  | multi => exact absurd List.mem_cons_self plain
  | single part rest ih =>
      have lengths := ih fun later => plain (List.mem_cons_of_mem _ later)
      simp [lengths]
  | literal _ rest ih =>
      have lengths := ih fun later => plain (List.mem_cons_of_mem _ later)
      simp [lengths]

/-- A related topic has the levels that the filter has before a `#`. -/
theorem LevelsMatch.length_le {front : List String}
    (related : LevelsMatch (front ++ ["#"]) topic) (plain : "#" ∉ front) :
    front.length ≤ topic.length := by
  induction front generalizing topic with
  | nil => exact Nat.zero_le _
  | cons level rest ih =>
      have differ : level ≠ "#" := fun same => plain (same ▸ List.mem_cons_self)
      have below : "#" ∉ rest := fun later => plain (List.mem_cons_of_mem _ later)
      rw [List.cons_append] at related
      by_cases single : level = "+"
      · subst single
        obtain ⟨part, more, rfl, later⟩ := levelsMatch_single_iff.mp related
        exact Nat.succ_le_succ (ih later below)
      · obtain ⟨more, rfl, later⟩ := (levelsMatch_literal_iff ⟨single, differ⟩).mp related
        exact Nat.succ_le_succ (ih later below)

/-- Lists of one length stay so when each loses a level. -/
theorem same_length_cons (a b : String) (filter topic : List String) :
    decide ((a :: filter).length = (b :: topic).length) =
      decide (filter.length = topic.length) := by
  simp

/-! ## The loop -/

theorem filterLevels_literal_nil (plain : level ≠ "+" ∧ level ≠ "#") (whole : Bool) :
    filterLevels whole (level :: filter) [] = false := by
  unfold filterLevels
  split <;> simp_all

theorem filterLevels_literal_cons (plain : level ≠ "+" ∧ level ≠ "#") (whole : Bool)
    (part : String) :
    filterLevels whole (level :: filter) (part :: topic) =
      if level ≠ part then false else filterLevels whole filter topic := by
  conv => lhs; unfold filterLevels
  split <;> simp_all

theorem filterLevels_iff (valid : levelsValid filter = true) :
    filterLevels (filter.length = topic.length) filter topic = true ↔
      LevelsMatch filter topic := by
  induction filter generalizing topic with
  | nil =>
      rw [levelsMatch_nil_iff]
      unfold filterLevels
      simp [eq_comm]
  | cons level rest ih =>
      have below := rest_valid valid
      by_cases multi : level = "#"
      · subst multi
        rw [rest_of_multi valid]
        exact ⟨fun _ => .multi topic, fun _ => rfl⟩
      · by_cases single : level = "+"
        · subst single
          rw [levelsMatch_single_iff]
          cases topic with
          | nil =>
              constructor
              · intro walked
                cases walked
              · rintro ⟨part, more, same, -⟩
                cases same
          | cons part more =>
              rw [same_length_cons]
              show filterLevels _ rest more = true ↔ _
              rw [ih below]
              constructor
              · intro related
                exact ⟨part, more, rfl, related⟩
              · rintro ⟨part', more', same, related⟩
                cases same
                exact related
        · rw [levelsMatch_literal_iff ⟨single, multi⟩]
          cases topic with
          | nil =>
              rw [filterLevels_literal_nil ⟨single, multi⟩]
              constructor
              · intro walked
                cases walked
              · rintro ⟨more, same, -⟩
                cases same
          | cons part more =>
              rw [same_length_cons, filterLevels_literal_cons ⟨single, multi⟩]
              by_cases same : level = part
              · subst same
                rw [if_neg (not_not_intro rfl), ih below]
                constructor
                · intro related
                  exact ⟨more, rfl, related⟩
                · rintro ⟨more', same, related⟩
                  cases same
                  exact related
              · rw [if_pos same]
                constructor
                · intro walked
                  cases walked
                · rintro ⟨more', here, -⟩
                  exact absurd (List.cons.inj here).1.symm same

end Valid

/-! ## Filters and topics -/

theorem isValidTopicFilter_levels {filter : String} (valid : isValidTopicFilter filter = true) :
    filter ≠ "" ∧ levelsValid (split filter '/') = true := by
  unfold isValidTopicFilter at valid
  split at valid
  · cases valid
  · rename_i bounded
    exact ⟨fun empty => bounded (Or.inl empty), valid⟩

theorem matchesTopicFilter_levels {filter : String} (nonempty : filter ≠ "")
    (levels : levelsValid (split filter '/') = true) (topic : String) :
    matchesTopicFilter filter topic = true ↔
      topic ≠ "" ∧ LevelsMatch (split filter '/') (split topic '/') := by
  unfold matchesTopicFilter
  by_cases empty : topic = ""
  · rw [if_pos (Or.inr empty)]
    simp [empty]
  · rw [if_neg (not_or.mpr ⟨nonempty, empty⟩)]
    by_cases same : filter = topic
    · subst same
      rw [if_pos rfl]
      exact ⟨fun _ => ⟨empty, levelsMatch_self levels⟩, fun _ => rfl⟩
    · rw [if_neg same]
      exact (filterLevels_iff levels).trans ⟨fun related => ⟨empty, related⟩, And.right⟩

/-- **MQTT matching**: a valid filter matches the topics that are related to it, except for the
empty one. -/
theorem matchesTopicFilter_iff {filter : String} (valid : isValidTopicFilter filter = true)
    (topic : String) :
    matchesTopicFilter filter topic = true ↔
      topic ≠ "" ∧ LevelsMatch (split filter '/') (split topic '/') := by
  obtain ⟨nonempty, levels⟩ := isValidTopicFilter_levels valid
  exact matchesTopicFilter_levels nonempty levels topic

theorem matchesTopicFilter_iff_sport :
    matchesTopicFilter "sport/+/#" "sport/tennis" = true ↔
      "sport/tennis" ≠ "" ∧ LevelsMatch (split "sport/+/#" '/') (split "sport/tennis" '/') :=
  matchesTopicFilter_iff (by decide) "sport/tennis"

/-- `#` is related to the one empty level of the empty topic, and does not match it. -/
theorem empty_topic_unmatched :
    isValidTopicFilter "#" = true ∧ LevelsMatch (split "#" '/') (split "" '/') ∧
      matchesTopicFilter "#" "" = false :=
  ⟨by decide, .multi _, by decide⟩

end Aeolus.Mqtt
