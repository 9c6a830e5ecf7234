/-
# Aeolus.Automations.TriggerPatterns — which accepted trigger patterns can fire

`validateSharedStatePattern` accepts a pattern of at most two segments, and the path of a
value always has two.  The matcher compares the number of segments unless it met a `#`, so
of the patterns of one segment only `#` itself can match.

* `fires_iff` — an accepted pattern matches a writable path exactly when it is `#` or has two
  segments;
* `literal_accepted`, `literal_matches_iff` — the path of a value is a pattern for itself alone;
* `single_segment_dead` — the pole: a bucket's name is accepted, and nothing fires it.
-/
import Aeolus.Automations.TopicMatchers
import Aeolus.SharedState.SharedStateLimits

namespace Aeolus.Automations

open Aeolus.Core Aeolus.Mqtt Aeolus.SharedState

/-- A value may be written under these names. -/
def Writable (bucket key : String) : Prop :=
  validateSharedStateName "bucket" bucket = none ∧ validateSharedStateName "key" key = none

/-- Some value that can be written has a path that the pattern matches. -/
def Fires (pattern : String) : Prop :=
  ∃ bucket key, Writable bucket key ∧ topicMatches pattern (sharedStatePath bucket key) = true

/-- The pattern can be as long as a path. -/
def Reaches (pattern : String) : Prop := pattern = "#" ∨ (split pattern '/').length = 2

/-! ## Names -/

section Names

variable {label name : String}

/-- The label is only in the reason. -/
theorem validateSharedStateName_label (label other name : String) :
    validateSharedStateName label name = none ↔ validateSharedStateName other name = none := by
  unfold validateSharedStateName
  split_ifs <;> simp

theorem name_nonempty (accepted : validateSharedStateName label name = none) : name ≠ "" := by
  unfold validateSharedStateName at accepted
  split_ifs at accepted
  assumption

/-- No character of a name means anything to the matcher. -/
theorem name_plain (accepted : validateSharedStateName label name = none) :
    '/' ∉ name.toList ∧ '+' ∉ name.toList ∧ '#' ∉ name.toList := by
  unfold validateSharedStateName at accepted
  split_ifs at accepted
  rename_i plain _ _
  simp only [List.any_eq_true, not_exists, not_and] at plain
  refine ⟨fun member => ?_, fun member => ?_, fun member => ?_⟩
  · exact plain '/' member (by decide)
  · exact plain '+' member (by decide)
  · exact plain '#' member (by decide)

theorem name_literal (accepted : validateSharedStateName label name = none) :
    name ≠ "+" ∧ name ≠ "#" := by
  obtain ⟨-, single, multi⟩ := name_plain accepted
  constructor
  · rintro rfl
    exact single (by decide)
  · rintro rfl
    exact multi (by decide)

theorem a_accepted (label : String) : validateSharedStateName label "a" = none := by
  rw [validateSharedStateName_label label "key"]
  decide

theorem Writable.split_path {bucket key : String} (names : Writable bucket key) :
    split (sharedStatePath bucket key) '/' = [bucket, key] :=
  split_pair (name_plain names.1).1 (name_plain names.2).1

end Names

/-! ## Segments -/

section Segments

variable {count i : Nat} {segment : String}

theorem validateSegment_name {label : String}
    (accepted : validateSharedStateName label segment = none) :
    validateSegment count i segment = none := by
  obtain ⟨-, single, multi⟩ := name_plain accepted
  obtain ⟨notSingle, notMulti⟩ := name_literal accepted
  have whole : ¬(segment.toList.any fun c => c = '+' || c = '#') = true := by
    simp only [List.any_eq_true, Bool.or_eq_true, decide_eq_true_eq, not_exists, not_and]
    intro c member either
    rcases either with rfl | rfl
    · exact single member
    · exact multi member
  unfold validateSegment
  rw [if_neg (name_nonempty accepted), if_neg notMulti, if_neg notSingle, if_neg whole]
  exact (validateSharedStateName_label _ _ _).mp accepted

/-- A segment is a final `#`, a `+` or a name. -/
theorem validateSegment_cases (accepted : validateSegment count i segment = none) :
    segment = "#" ∧ i + 1 = count ∨ segment = "+" ∨
      validateSharedStateName "key" segment = none := by
  unfold validateSegment at accepted
  split_ifs at accepted with empty multi last single whole first
  · exact Or.inl ⟨multi, last⟩
  · exact Or.inr (Or.inl single)
  · exact Or.inr (Or.inr ((validateSharedStateName_label _ _ _).mp accepted))
  · exact Or.inr (Or.inr accepted)

/-- The level of a filter that the segment is. -/
theorem levelValid_of_segment (accepted : validateSegment count i segment = none) :
    levelValid (i + 1 = count) segment = true := by
  rcases validateSegment_cases accepted with ⟨rfl, last⟩ | rfl | name
  · simp [levelValid, last]
  · rfl
  · obtain ⟨-, single, multi⟩ := name_plain name
    simp [levelValid, single, multi]

/-- The segment's own part of a path. -/
def representative (segment : String) : String :=
  if segment = "#" ∨ segment = "+" then "a" else segment

theorem representative_accepted (accepted : validateSegment count i segment = none)
    (label : String) : validateSharedStateName label (representative segment) = none := by
  unfold representative
  split_ifs with wild
  · exact a_accepted label
  · rcases validateSegment_cases accepted with ⟨rfl, -⟩ | rfl | name
    · exact absurd (Or.inl rfl) wild
    · exact absurd (Or.inr rfl) wild
    · exact (validateSharedStateName_label _ _ _).mp name

theorem levelsMatch_representative {filter topic : List String} (notMulti : segment ≠ "#")
    (rest : LevelsMatch filter topic) :
    LevelsMatch (segment :: filter) (representative segment :: topic) := by
  by_cases single : segment = "+"
  · subst single
    exact .single _ rest
  · have literal : representative segment = segment := if_neg (by simp [single, notMulti])
    rw [literal]
    exact .literal ⟨single, notMulti⟩ rest

end Segments

/-! ## Patterns -/

section Patterns

variable {pattern : String}

/-- What is asked of a pattern, one check after the other. -/
theorem validateSharedStatePattern_iff (pattern : String) :
    validateSharedStatePattern pattern = none ↔
      trim pattern ≠ "" ∧ trim pattern = pattern ∧ (split pattern '/').length ≤ 2 ∧
        ∀ entry ∈ (split pattern '/').zipIdx,
          validateSegment (split pattern '/').length entry.2 entry.1 = none := by
  unfold validateSharedStatePattern
  dsimp only
  split_ifs with blank spaces long
  · simp [blank]
  · simp [blank, Ne.symm spaces]
  · simp only [false_iff, not_and]
    intro _ _ short
    omega
  · rw [List.findSome?_eq_none_iff]
    push Not at spaces long
    exact ⟨fun each => ⟨blank, spaces.symm, long, each⟩, fun parts => parts.2.2.2⟩

theorem split_ne_nil (text : String) (separator : Char) : split text separator ≠ [] := by
  unfold split
  simp [List.splitOn_ne_nil]

/-- One segment or two. -/
theorem accepted_segments (accepted : validateSharedStatePattern pattern = none) :
    (∃ segment, split pattern '/' = [segment] ∧ validateSegment 1 0 segment = none) ∨
      ∃ bucket key, split pattern '/' = [bucket, key] ∧ validateSegment 2 0 bucket = none ∧
        validateSegment 2 1 key = none := by
  obtain ⟨-, -, short, each⟩ := (validateSharedStatePattern_iff pattern).mp accepted
  cases segments : split pattern '/' with
  | nil => exact absurd segments (split_ne_nil pattern '/')
  | cons first rest =>
      rw [segments] at short each
      cases rest with
      | nil => exact Or.inl ⟨first, rfl, each (first, 0) (by simp)⟩
      | cons second rest =>
          cases rest with
          | nil =>
              refine Or.inr ⟨first, second, rfl, each (first, 0) (by simp), ?_⟩
              exact each (second, 1) (by simp [List.zipIdx_cons])
          | cons third rest =>
              simp only [List.length_cons] at short
              omega

theorem accepted_nonempty (accepted : validateSharedStatePattern pattern = none) :
    pattern ≠ "" := by
  obtain ⟨nonblank, same, -⟩ := (validateSharedStatePattern_iff pattern).mp accepted
  rw [same] at nonblank
  exact nonblank

/-- An accepted pattern is a filter. -/
theorem accepted_levels (accepted : validateSharedStatePattern pattern = none) :
    levelsValid (split pattern '/') = true := by
  rcases accepted_segments accepted with ⟨segment, parts, valid⟩ | ⟨bucket, key, parts, first, last⟩
  · have level := levelValid_of_segment valid
    rw [parts]
    simpa [levelsValid] using level
  · have bucketLevel := levelValid_of_segment first
    have keyLevel := levelValid_of_segment last
    rw [parts]
    simp only [levelsValid, List.isEmpty_cons, List.isEmpty_nil, Bool.and_true,
      Bool.and_eq_true]
    exact ⟨by simpa using bucketLevel, by simpa using keyLevel⟩

end Patterns

/-! ## Firing -/

/-- One segment that is no `#` matches no two. -/
theorem single_unmatched {segment : String} (notMulti : segment ≠ "#") (bucket key : String) :
    ¬(LevelsMatch [segment] [bucket, key] ∨ Overruns [segment] [bucket, key]) := by
  rintro (related | ⟨front, n, parts, -⟩)
  · have lengths := related.length_eq (by simpa using Ne.symm notMulti)
    simp at lengths
  · have lengths := congrArg List.length parts
    simp only [List.length_cons, List.length_nil, List.length_append,
      List.length_replicate] at lengths
    omega

/-- **Accepted patterns.**  They fire exactly when they are `#` or have two segments. -/
theorem fires_iff {pattern : String} (accepted : validateSharedStatePattern pattern = none) :
    Fires pattern ↔ Reaches pattern := by
  have matched := topicMatches_levels (accepted_nonempty accepted) (accepted_levels accepted)
  rcases accepted_segments accepted with ⟨segment, parts, valid⟩ | ⟨bucket, key, parts, first, last⟩
  · have short : ¬(split pattern '/').length = 2 := by
      rw [parts]
      exact Nat.ne_of_lt (Nat.lt_succ_self 1)
    unfold Reaches
    rw [or_iff_left short]
    constructor
    · rintro ⟨bucket, key, names, matches'⟩
      rw [matched, parts, names.split_path] at matches'
      by_contra other
      apply single_unmatched _ bucket key matches'
      rintro rfl
      apply other
      apply split_injective '/'
      rw [parts]
      decide
    · rintro rfl
      exact ⟨"a", "a", ⟨a_accepted _, a_accepted _⟩, by decide⟩
  · refine iff_of_true ?_ (Or.inr (by rw [parts]; rfl))
    have names : Writable (representative bucket) (representative key) :=
      ⟨representative_accepted first "bucket", representative_accepted last "key"⟩
    refine ⟨representative bucket, representative key, names, ?_⟩
    rw [matched, parts, names.split_path]
    apply Or.inl
    have bucketPlain : bucket ≠ "#" := by
      rintro rfl
      exact absurd first (by decide)
    apply levelsMatch_representative bucketPlain
    by_cases multi : key = "#"
    · subst multi
      exact .multi _
    · exact levelsMatch_representative multi .done

/-! ## Literal patterns -/

section Literal

variable {bucket key : String}

/-- The path begins as the bucket's name does and ends as the key's. -/
theorem trim_path (names : Writable bucket key) (begins : trim bucket = bucket)
    (ends : trim key = key) : trim (sharedStatePath bucket key) = sharedStatePath bucket key := by
  have letters : (sharedStatePath bucket key).toList = bucket.toList ++ ('/' :: key.toList) := by
    simp [sharedStatePath]
  have someBucket : bucket.toList ≠ [] := by simpa using name_nonempty names.1
  have someKey : key.toList ≠ [] := by simpa using name_nonempty names.2
  rw [trim_eq_self_iff, letters]
  constructor
  · rw [List.head?_append_of_ne_nil _ someBucket]
    exact ((trim_eq_self_iff bucket).mp begins).1
  · have last : (bucket.toList ++ '/' :: key.toList).getLast? = key.toList.getLast? := by
      rw [← List.singleton_append, ← List.append_assoc, List.getLast?_append_of_ne_nil _ someKey]
    rw [last]
    exact ((trim_eq_self_iff key).mp ends).2

theorem literal_accepted (names : Writable bucket key) (begins : trim bucket = bucket)
    (ends : trim key = key) :
    validateSharedStatePattern (sharedStatePath bucket key) = none := by
  have same := trim_path names begins ends
  rw [validateSharedStatePattern_iff, names.split_path, same]
  refine ⟨?_, rfl, Nat.le_refl 2, ?_⟩
  · intro empty
    have letters := congrArg String.toList empty
    simp [sharedStatePath] at letters
  · intro entry member
    simp only [List.zipIdx_cons, List.zipIdx_nil, List.mem_cons, List.not_mem_nil,
      or_false] at member
    rcases member with rfl | rfl
    · exact validateSegment_name names.1
    · exact validateSegment_name names.2

/-- A path is a pattern for nothing but itself. -/
theorem literal_matches_iff (names : Writable bucket key) {bucket' key' : String}
    (others : Writable bucket' key') :
    topicMatches (sharedStatePath bucket key) (sharedStatePath bucket' key') = true ↔
      bucket' = bucket ∧ key' = key := by
  have same : topicMatches (sharedStatePath bucket key) (sharedStatePath bucket' key') = true ↔
      LevelsMatch [bucket, key] [bucket', key'] ∨ Overruns [bucket, key] [bucket', key'] := by
    have nonempty : sharedStatePath bucket key ≠ "" := by
      intro empty
      have letters := congrArg String.toList empty
      simp [sharedStatePath] at letters
    have levels : levelsValid (split (sharedStatePath bucket key) '/') = true := by
      rw [names.split_path]
      obtain ⟨-, single, multi⟩ := name_plain names.1
      obtain ⟨-, single', multi'⟩ := name_plain names.2
      simp [levelsValid, levelValid, single, multi, single', multi']
    rw [topicMatches_levels nonempty levels, names.split_path, others.split_path]
  have within : ¬Overruns [bucket, key] [bucket', key'] := by
    rw [overruns_literal_cons_iff (name_literal names.1)]
    rintro ⟨-, front, n, parts, -⟩
    have lengths := congrArg List.length parts
    simp only [List.length_cons, List.length_nil, List.length_append,
      List.length_replicate] at lengths
    omega
  rw [same, or_iff_left within, levelsMatch_literal_iff (name_literal names.1)]
  constructor
  · rintro ⟨rest, parts, later⟩
    cases parts
    obtain ⟨rest', parts', -⟩ := (levelsMatch_literal_iff (name_literal names.2)).mp later
    cases parts'
    exact ⟨rfl, rfl⟩
  · rintro ⟨rfl, rfl⟩
    exact ⟨[key'], rfl, .literal (name_literal names.2) .done⟩

end Literal

/-- **Trigger patterns.**  An accepted pattern fires exactly if it is `#` or of two segments;
and one that is the path of a value, with no white space around its names, is accepted and
matches that value alone. -/
theorem accepted_fire_iff (pattern : String) :
    (validateSharedStatePattern pattern = none → (Fires pattern ↔ Reaches pattern)) ∧
      ∀ bucket key, Writable bucket key → trim bucket = bucket → trim key = key →
        pattern = sharedStatePath bucket key →
          validateSharedStatePattern pattern = none ∧
            ∀ bucket' key', Writable bucket' key' →
              (topicMatches pattern (sharedStatePath bucket' key') = true ↔
                bucket' = bucket ∧ key' = key) := by
  refine ⟨fun accepted => fires_iff accepted, ?_⟩
  intro bucket key names begins ends path
  subst path
  refine ⟨literal_accepted names begins ends, ?_⟩
  intro bucket' key' others
  exact literal_matches_iff names others

/-- The pole: a rule waits for a whole bucket, and is never woken. -/
theorem single_segment_dead :
    validateSharedStatePattern "bunker-summary" = none ∧ ¬Fires "bunker-summary" := by
  have accepted : validateSharedStatePattern "bunker-summary" = none := by decide
  refine ⟨accepted, ?_⟩
  rw [fires_iff accepted]
  unfold Reaches
  decide

end Aeolus.Automations
