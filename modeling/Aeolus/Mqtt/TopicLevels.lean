/-
# Aeolus.Mqtt.TopicLevels — namespaces, by text and by levels

A topic is in a namespace when its levels begin with those of the namespace.  In text: it is
the namespace, or begins with it and a `/` (`split_prefix_iff`).  These are the topics that the
filter `namespace/#` matches (`matches_space_iff`).
-/
import Aeolus.Mqtt.TopicFilter

namespace Aeolus.Mqtt

open Aeolus.Core

/-! ## Parts -/

/-- The parts of a text begin those of another that goes on behind a separator. -/
theorem splitOn_prefix_iff {separator : Char} (a b : List Char) :
    a.splitOn separator <+: b.splitOn separator ↔ b = a ∨ a ++ [separator] <+: b := by
  constructor
  · rintro ⟨rest, parts⟩
    have joined : b = [separator].intercalate (a.splitOn separator ++ rest) := by
      rw [parts, List.intercalate_splitOn]
    by_cases none : rest = []
    · rw [none, List.append_nil, List.intercalate_splitOn] at joined
      exact Or.inl joined
    · rw [intercalate_append (List.splitOn_ne_nil _ _) none, List.intercalate_splitOn] at joined
      apply Or.inr
      rw [joined]
      exact ⟨[separator].intercalate rest, by simp⟩
  · rintro (rfl | ⟨rest, rfl⟩)
    · exact List.prefix_rfl
    · rw [List.append_assoc, List.singleton_append, splitOn_append]
      exact List.prefix_append _ _

theorem split_prefix_iff (separator : Char) (a b : String) :
    split a separator <+: split b separator ↔ b = a ∨ a.toList ++ [separator] <+: b.toList := by
  have injective : Function.Injective String.ofList := by
    intro l l' same
    have letters := congrArg String.toList same
    rwa [String.toList_ofList, String.toList_ofList] at letters
  unfold split
  rw [List.prefix_map_iff_of_injective injective, splitOn_prefix_iff, String.toList_inj]

/-! ## Namespaces -/

/-- No `+` and no `#`. -/
def WildcardFree (text : String) : Prop := '+' ∉ text.toList ∧ '#' ∉ text.toList

theorem wildcardFree_level {text level : String} (plain : WildcardFree text)
    (member : level ∈ split text '/') : '+' ∉ level.toList ∧ '#' ∉ level.toList := by
  have within := (mem_split member).2
  exact ⟨fun single => plain.1 (within _ single), fun multi => plain.2 (within _ multi)⟩

theorem split_space (space : String) : split (space ++ "/#") '/' = split space '/' ++ ["#"] := by
  have letters : (space ++ "/#").toList = space.toList ++ '/' :: ['#'] := by simp
  unfold split
  rw [letters, splitOn_append, List.map_append]
  rfl

/-- Plain levels and a final `#`: the topics that begin with these levels. -/
theorem levelsMatch_multi_iff {front topic : List String}
    (plain : ∀ level ∈ front, level ≠ "+" ∧ level ≠ "#") :
    LevelsMatch (front ++ ["#"]) topic ↔ front <+: topic := by
  induction front generalizing topic with
  | nil => exact ⟨fun _ => List.nil_prefix, fun _ => .multi topic⟩
  | cons level rest ih =>
      rw [List.forall_mem_cons] at plain
      rw [List.cons_append, levelsMatch_literal_iff plain.1]
      constructor
      · rintro ⟨later, rfl, related⟩
        exact List.cons_prefix_cons.mpr ⟨rfl, (ih plain.2).mp related⟩
      · rintro ⟨rest', rfl⟩
        refine ⟨rest ++ rest', rfl, ?_⟩
        exact (ih plain.2).mpr (List.prefix_append _ _)

theorem levelsValid_multi {front : List String}
    (plain : ∀ level ∈ front, '+' ∉ level.toList ∧ '#' ∉ level.toList) :
    levelsValid (front ++ ["#"]) = true := by
  induction front with
  | nil => decide
  | cons level rest ih =>
      rw [List.forall_mem_cons] at plain
      rw [List.cons_append, levelsValid, ih plain.2]
      simp [levelValid, plain.1.1, plain.1.2]

/-- **The filter of a namespace** matches the namespace itself, unless it has no name, and what
is below it. -/
theorem matches_space_iff {space : String} (plain : WildcardFree space) (topic : String) :
    matchesTopicFilter (space ++ "/#") topic = true ↔
      topic = space ∧ space ≠ "" ∨ space.toList ++ ['/'] <+: topic.toList := by
  have levels : ∀ level ∈ split space '/', level ≠ "+" ∧ level ≠ "#" := by
    intro level member
    obtain ⟨single, multi⟩ := wildcardFree_level plain member
    constructor
    · rintro rfl
      exact single (by decide)
    · rintro rfl
      exact multi (by decide)
  have valid : levelsValid (split (space ++ "/#") '/') = true := by
    rw [split_space]
    exact levelsValid_multi fun level member => wildcardFree_level plain member
  have nonempty : space ++ "/#" ≠ "" := by
    intro empty
    have letters := congrArg String.toList empty
    simp at letters
  rw [matchesTopicFilter_levels nonempty valid, split_space, levelsMatch_multi_iff levels,
    split_prefix_iff]
  constructor
  · rintro ⟨someTopic, rfl | below⟩
    · exact Or.inl ⟨rfl, someTopic⟩
    · exact Or.inr below
  · rintro (⟨rfl, named⟩ | below)
    · exact ⟨named, Or.inl rfl⟩
    · refine ⟨?_, Or.inr below⟩
      rintro rfl
      have length := below.length_le
      simp at length

end Aeolus.Mqtt
