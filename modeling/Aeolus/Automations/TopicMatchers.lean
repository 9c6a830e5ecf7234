/-
# Aeolus.Automations.TopicMatchers — the engine's matcher against the filters of MQTT

`topicMatches` of `src/automations/automation-engine.ts` decides which rules an event wakes, and
`matchesTopicFilter` of `src/mqtt/topic-filter.ts` what a filter of the broker matches.  The
engine's loop does not look whether there is a level for a `+`.  At the end of a pattern the
lengths are compared, so this shows only when the pattern ends with `#`, which is reached
before: `a/+/#` matches `a`.

For valid filters the engine matches what is related to the filter, and also the topics that
end where one or more `+` and a `#` remain (`levelsMatch_iff`).  The two agree on all other
topics (`matchers_agree_iff`).
-/
import Aeolus.Automations.AutomationEngine
import Aeolus.Mqtt.TopicFilter

namespace Aeolus.Automations

open Aeolus.Core Aeolus.Mqtt

/-- The topic's levels are matched by the first of the filter, and one or more `+` and a final
`#` remain. -/
def Overruns (filter topic : List String) : Prop :=
  ∃ front n, filter = front ++ (List.replicate (n + 1) "+" ++ ["#"]) ∧ LevelsMatch front topic

section Levels

variable {level : String} {filter topic : List String}

/-- A topic that is overrun is not related to the filter. -/
theorem not_levelsMatch_of_overruns (valid : levelsValid filter = true)
    (overruns : Overruns filter topic) : ¬LevelsMatch filter topic := by
  obtain ⟨front, n, rfl, matched⟩ := overruns
  have plain : "#" ∉ front := not_multi_of_append valid (by simp)
  have lengths := matched.length_eq plain
  intro related
  rw [← List.append_assoc] at related
  have none : "#" ∉ front ++ List.replicate (n + 1) "+" := by
    intro member
    rcases List.mem_append.mp member with early | late
    · exact plain early
    · exact absurd (List.eq_of_mem_replicate late) (by decide)
  have bound := related.length_le none
  rw [List.length_append, List.length_replicate] at bound
  omega

/-! ## Overruns, level by level -/

theorem overruns_single_nil_iff : Overruns ("+" :: filter) [] ↔
    ∃ n, filter = List.replicate n "+" ++ ["#"] := by
  constructor
  · rintro ⟨front, n, same, matched⟩
    cases front with
    | nil =>
        rw [List.nil_append, List.replicate_succ, List.cons_append] at same
        exact ⟨n, (List.cons.inj same).2⟩
    | cons level more =>
        rw [List.cons_append] at same
        obtain ⟨rfl, -⟩ := List.cons.inj same
        obtain ⟨part, rest, impossible, -⟩ := levelsMatch_single_iff.mp matched
        cases impossible
  · rintro ⟨n, rfl⟩
    exact ⟨[], n, rfl, .done⟩

theorem overruns_single_cons_iff (part : String) : Overruns ("+" :: filter) (part :: topic) ↔
    Overruns filter topic := by
  constructor
  · rintro ⟨front, n, same, matched⟩
    cases front with
    | nil => exact absurd (levelsMatch_nil_iff.mp matched) (List.cons_ne_nil _ _)
    | cons level more =>
        rw [List.cons_append] at same
        obtain ⟨rfl, rest⟩ := List.cons.inj same
        obtain ⟨part', topic', whole, later⟩ := levelsMatch_single_iff.mp matched
        cases whole
        exact ⟨more, n, rest, later⟩
  · rintro ⟨front, n, rfl, matched⟩
    exact ⟨"+" :: front, n, rfl, .single part matched⟩

theorem not_overruns_literal_nil (plain : level ≠ "+" ∧ level ≠ "#") :
    ¬Overruns (level :: filter) [] := by
  rintro ⟨front, n, same, matched⟩
  cases front with
  | nil =>
      rw [List.nil_append, List.replicate_succ, List.cons_append] at same
      exact plain.1 (List.cons.inj same).1
  | cons first more =>
      rw [List.cons_append] at same
      obtain ⟨rfl, -⟩ := List.cons.inj same
      obtain ⟨rest, impossible, -⟩ := (levelsMatch_literal_iff plain).mp matched
      cases impossible

theorem overruns_literal_cons_iff (plain : level ≠ "+" ∧ level ≠ "#") (part : String) :
    Overruns (level :: filter) (part :: topic) ↔ level = part ∧ Overruns filter topic := by
  constructor
  · rintro ⟨front, n, same, matched⟩
    cases front with
    | nil => exact absurd (levelsMatch_nil_iff.mp matched) (List.cons_ne_nil _ _)
    | cons first more =>
        rw [List.cons_append] at same
        obtain ⟨rfl, rest⟩ := List.cons.inj same
        obtain ⟨topic', whole, later⟩ := (levelsMatch_literal_iff plain).mp matched
        cases whole
        exact ⟨rfl, more, n, rest, later⟩
  · rintro ⟨rfl, front, n, rfl, matched⟩
    exact ⟨level :: front, n, rfl, .literal plain matched⟩

theorem not_overruns_nil : ¬Overruns [] topic := by
  rintro ⟨front, n, same, -⟩
  have lengths := congrArg List.length same
  simp at lengths

/-! ## The loop -/

/-- When the topic is at its end and the lengths differ, the loop goes on over `+` and is right
only at a `#`. -/
theorem levelsMatch_at_end_iff (valid : levelsValid filter = true) :
    levelsMatch false filter [] = true ↔ ∃ n, filter = List.replicate n "+" ++ ["#"] := by
  induction filter with
  | nil =>
      constructor
      · intro walked
        cases walked
      · rintro ⟨n, same⟩
        have lengths := congrArg List.length same
        simp at lengths
  | cons level rest ih =>
      by_cases multi : level = "#"
      · subst multi
        rw [rest_of_multi valid]
        exact ⟨fun _ => ⟨0, rfl⟩, fun _ => rfl⟩
      · by_cases single : level = "+"
        · subst single
          refine (ih (rest_valid valid)).trans ?_
          constructor
          · rintro ⟨n, rfl⟩
            exact ⟨n + 1, rfl⟩
          · rintro ⟨n, same⟩
            cases n with
            | zero => exact absurd (List.cons.inj same).1 multi
            | succ n =>
                rw [List.replicate_succ, List.cons_append] at same
                exact ⟨n, (List.cons.inj same).2⟩
        · have walked : levelsMatch false (level :: rest) [] = false := by
            unfold levelsMatch
            split <;> simp_all
          rw [walked]
          constructor
          · intro impossible
            cases impossible
          · rintro ⟨n, same⟩
            cases n with
            | zero => exact absurd (List.cons.inj same).1 multi
            | succ n =>
                rw [List.replicate_succ, List.cons_append] at same
                exact absurd (List.cons.inj same).1 single

/-- What the engine's loop matches. -/
theorem levelsMatch_iff (valid : levelsValid filter = true) :
    levelsMatch (filter.length = topic.length) filter topic = true ↔
      LevelsMatch filter topic ∨ Overruns filter topic := by
  induction filter generalizing topic with
  | nil =>
      rw [levelsMatch_nil_iff, or_iff_left not_overruns_nil]
      unfold levelsMatch
      simp [eq_comm]
  | cons level rest ih =>
      have below := rest_valid valid
      by_cases multi : level = "#"
      · subst multi
        rw [rest_of_multi valid]
        exact ⟨fun _ => Or.inl (.multi topic), fun _ => rfl⟩
      · by_cases single : level = "+"
        · subst single
          cases topic with
          | nil =>
              have unrelated : ¬LevelsMatch ("+" :: rest) [] := by
                intro related
                obtain ⟨part, more, impossible, -⟩ := levelsMatch_single_iff.mp related
                cases impossible
              rw [or_iff_right unrelated, overruns_single_nil_iff]
              exact levelsMatch_at_end_iff below
          | cons part more =>
              have related : LevelsMatch ("+" :: rest) (part :: more) ↔ LevelsMatch rest more := by
                rw [levelsMatch_single_iff]
                constructor
                · rintro ⟨part', more', same, later⟩
                  cases same
                  exact later
                · intro later
                  exact ⟨part, more, rfl, later⟩
              rw [same_length_cons, related, overruns_single_cons_iff]
              exact ih below
        · cases topic with
          | nil =>
              have unrelated : ¬LevelsMatch (level :: rest) [] := by
                intro related
                obtain ⟨more, impossible, -⟩ :=
                  (levelsMatch_literal_iff ⟨single, multi⟩).mp related
                cases impossible
              rw [or_iff_right unrelated]
              refine iff_of_false ?_ (not_overruns_literal_nil ⟨single, multi⟩)
              unfold levelsMatch
              split <;> simp_all
          | cons part more =>
              have related : LevelsMatch (level :: rest) (part :: more) ↔
                  level = part ∧ LevelsMatch rest more := by
                rw [levelsMatch_literal_iff ⟨single, multi⟩]
                constructor
                · rintro ⟨more', same, later⟩
                  cases same
                  exact ⟨rfl, later⟩
                · rintro ⟨rfl, later⟩
                  exact ⟨more, rfl, later⟩
              have walked : levelsMatch (decide (rest.length = more.length)) (level :: rest)
                  (part :: more) = (if level ≠ part then false else
                    levelsMatch (decide (rest.length = more.length)) rest more) := by
                conv => lhs; unfold levelsMatch
                split <;> simp_all
              rw [same_length_cons, walked, related, overruns_literal_cons_iff ⟨single, multi⟩,
                ← and_or_left, ← ih below]
              by_cases same : level = part <;> simp [same]

end Levels

/-! ## The two matchers -/

theorem topicMatches_levels {filter : String} (nonempty : filter ≠ "")
    (levels : levelsValid (split filter '/') = true) (topic : String) :
    topicMatches filter topic = true ↔
      LevelsMatch (split filter '/') (split topic '/') ∨
        Overruns (split filter '/') (split topic '/') := by
  unfold topicMatches
  rw [if_neg nonempty]
  by_cases same : filter = topic
  · subst same
    rw [if_pos rfl]
    exact ⟨fun _ => Or.inl (levelsMatch_self levels), fun _ => rfl⟩
  · rw [if_neg same]
    exact levelsMatch_iff levels

theorem topicMatches_iff {filter : String} (valid : isValidTopicFilter filter = true)
    (topic : String) :
    topicMatches filter topic = true ↔
      LevelsMatch (split filter '/') (split topic '/') ∨
        Overruns (split filter '/') (split topic '/') := by
  obtain ⟨nonempty, levels⟩ := isValidTopicFilter_levels valid
  exact topicMatches_levels nonempty levels topic

/-- **The two matchers agree** on a valid filter and a topic that is not empty, exactly when the
topic does not end where one or more `+` and a `#` of the filter remain. -/
theorem matchers_agree_iff {filter topic : String} (valid : isValidTopicFilter filter = true)
    (nonempty : topic ≠ "") :
    topicMatches filter topic = matchesTopicFilter filter topic ↔
      ¬Overruns (split filter '/') (split topic '/') := by
  have engine := topicMatches_iff valid topic
  have broker := matchesTopicFilter_iff valid topic
  have apart := @not_levelsMatch_of_overruns (split filter '/') (split topic '/')
    (isValidTopicFilter_levels valid).2
  rw [Bool.eq_iff_iff, engine, broker, and_iff_right nonempty]
  constructor
  · intro same overruns
    exact apart overruns (same.mp (Or.inr overruns))
  · intro within
    exact or_iff_left within

theorem matchers_agree_iff_kitchen :
    topicMatches "home/+/#" "home/kitchen" = matchesTopicFilter "home/+/#" "home/kitchen" ↔
      ¬Overruns (split "home/+/#" '/') (split "home/kitchen" '/') :=
  matchers_agree_iff (by decide) (by decide)

/-- `home/+/#` wakes a rule at `home`, and is not a filter for it. -/
theorem matchers_differ :
    isValidTopicFilter "home/+/#" = true ∧ topicMatches "home/+/#" "home" = true ∧
      matchesTopicFilter "home/+/#" "home" = false := by
  decide

end Aeolus.Automations
