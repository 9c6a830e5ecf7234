/-
# Aeolus.Core.UrlPath — the path of an HTTP URL, as the URL standard parses it

What follows the authority of a URL, parsed by the states of the basic URL parser from the path
start state on: tabs and newlines are dropped, a backslash is a slash, `?` and `#` end the path,
and a dot segment, which may also be spelled with `%2e`, is resolved against the segments
before it.  Segments are kept as they are spelled; percent-encoding changes characters inside
a segment and never its bounds, and no character that it writes makes a dot segment.

`parse_template` reads a URL that was put together from a literal and one inserted text: it
has the literal's segments around one more if and only if the text resolves to one segment.
-/
import Aeolus.Core.Text

namespace Aeolus.Core.UrlPath

/-! ## Parsing -/

def isSlash (c : Char) : Bool := c = '/' || c = '\\'

/-- Removed wherever it stands. -/
def isTabOrNewline (c : Char) : Bool := c = '\t' || c = '\n' || c = '\r'

def lowered (segment : String) : List Char := segment.toList.map Char.toLower

def isSingleDot (segment : String) : Bool :=
  lowered segment ∈ [".".toList, "%2e".toList]

def isDoubleDot (segment : String) : Bool :=
  lowered segment ∈ ["..".toList, ".%2e".toList, "%2e.".toList, "%2e%2e".toList]

/-- A segment that a slash ends; the path is kept in reverse. -/
def push (path : List String) (segment : String) : List String :=
  if isDoubleDot segment then path.tail
  else if isSingleDot segment then path
  else segment :: path

/-- The last segment: where a dot segment leads, an empty one follows. -/
def close (path : List String) (segment : String) : List String :=
  if isDoubleDot segment then "" :: path.tail
  else if isSingleDot segment then "" :: path
  else segment :: path

def segments (text : List Char) : List String := (text.splitOnP isSlash).map String.ofList

def resolve (text : List Char) : List String :=
  (close ((segments text).dropLast.foldl push []) ((segments text).getLastD "")).reverse

/-- The text before a character, and the text after it when it occurs. -/
def cut (mark : Char) (text : List Char) : List Char × Option (List Char) :=
  (text.takeWhile (· ≠ mark),
    match text.dropWhile (· ≠ mark) with
    | [] => none
    | _ :: rest => some rest)

structure Target where
  path : List String
  query : Option (List Char)
  fragment : Option (List Char)

def kept (text : String) : List Char := text.toList.filter fun c => !isTabOrNewline c

/-- The text after the authority. -/
def parse (text : String) : Target :=
  let (rest, fragment) := cut '#' (kept text)
  let (path, query) := cut '?' rest
  { path :=
      match path with
      | [] => [""]
      | c :: more => resolve (if isSlash c then more else c :: more)
    query
    fragment }

example : (parse "/api/devices/../mqtt/publish?x=/action").path = ["api", "mqtt", "publish"] := by
  decide +kernel

example : (parse "/a/%2E./b\\c").path = ["b", "c"] := by decide +kernel

/-! ## Cutting -/

theorem cut_of_not_mem {mark : Char} {text : List Char} (absent : mark ∉ text) :
    cut mark text = (text, none) := by
  have all : ∀ c ∈ text, decide (c ≠ mark) = true := by
    intro c member
    simp only [decide_eq_true_eq]
    rintro rfl
    exact absent member
  unfold cut
  rw [List.takeWhile_eq_self_iff.mpr all, List.dropWhile_eq_nil_iff.mpr all]

theorem mem_of_cut_none {mark : Char} {text : List Char} (whole : (cut mark text).2 = none) :
    mark ∉ text := by
  intro member
  unfold cut at whole
  dsimp only at whole
  split at whole
  · rename_i nothing
    have all := List.dropWhile_eq_nil_iff.mp nothing mark member
    simp at all
  · cases whole

/-- A target without query and fragment has neither mark. -/
theorem parse_bare {text : String} :
    ((parse text).query = none ∧ (parse text).fragment = none) ↔
      '?' ∉ kept text ∧ '#' ∉ kept text := by
  constructor
  · rintro ⟨query, fragment⟩
    have hash : '#' ∉ kept text := mem_of_cut_none fragment
    refine ⟨?_, hash⟩
    have rest : (parse text).query = (cut '?' (kept text)).2 := by
      simp [parse, cut_of_not_mem hash]
    rw [rest] at query
    exact mem_of_cut_none query
  · rintro ⟨question, hash⟩
    simp [parse, cut_of_not_mem hash, cut_of_not_mem question]

/-! ## Segments -/

/-- The segments before and after a slash. -/
theorem segments_append (before after : List Char) :
    segments (before ++ '/' :: after) = segments before ++ segments after := by
  have apart : (before ++ '/' :: after).splitOnP isSlash =
      before.splitOnP isSlash ++ after.splitOnP isSlash :=
    List.splitOnP_append_cons before after rfl
  simp [segments, apart]

theorem segments_of_slashless {text : List Char} (slashless : ∀ c ∈ text, isSlash c = false) :
    segments text = [String.ofList text] := by
  simp [segments, List.splitOnP_eq_singleton slashless]

theorem mem_splitOnP {p : Char → Bool} {text part : List Char} (member : part ∈ text.splitOnP p) :
    ∀ c ∈ part, p c = false ∧ c ∈ text := by
  induction text generalizing part with
  | nil =>
      rw [List.splitOnP_nil, List.mem_singleton] at member
      simp [member]
  | cons first rest ih =>
      rw [List.splitOnP_cons_eq_if_modifyHead] at member
      split at member
      · rcases List.mem_cons.mp member with rfl | later
        · simp
        · intro c here
          exact ⟨(ih later c here).1, List.mem_cons_of_mem _ (ih later c here).2⟩
      · rename_i other
        obtain ⟨head, tail, parts⟩ := List.exists_cons_of_ne_nil (List.splitOnP_ne_nil p rest)
        rw [parts, List.modifyHead_cons] at member
        rcases List.mem_cons.mp member with rfl | later
        · intro c here
          rcases List.mem_cons.mp here with rfl | deeper
          · exact ⟨by simpa using other, List.mem_cons_self⟩
          · have listed : head ∈ rest.splitOnP p := by simp [parts]
            exact ⟨(ih listed c deeper).1, List.mem_cons_of_mem _ (ih listed c deeper).2⟩
        · have listed : part ∈ rest.splitOnP p := by simp [parts, later]
          intro c here
          exact ⟨(ih listed c here).1, List.mem_cons_of_mem _ (ih listed c here).2⟩

theorem mem_segments {text : List Char} {segment : String} (member : segment ∈ segments text) :
    ∀ c ∈ segment.toList, isSlash c = false ∧ c ∈ text := by
  obtain ⟨part, listed, rfl⟩ := List.mem_map.mp member
  rw [String.toList_ofList]
  exact mem_splitOnP listed

/-- Resolving adds no segments of its own. -/
theorem mem_foldl_push {s : String} (more path : List String) (member : s ∈ more.foldl push path) :
    s ∈ path ∨ s ∈ more := by
  induction more generalizing path with
  | nil => exact .inl member
  | cons first rest ih =>
      rcases ih _ member with there | later
      · unfold push at there
        split at there
        · exact .inl (List.mem_of_mem_tail there)
        · split at there
          · exact .inl there
          · rcases List.mem_cons.mp there with rfl | old
            · exact .inr List.mem_cons_self
            · exact .inl old
      · exact .inr (List.mem_cons_of_mem _ later)

/-! ## A text inside a template -/

/-- A segment that stands for itself. -/
structure Plain (segment : String) : Prop where
  chars : ∀ c ∈ segment.toList,
    isSlash c = false ∧ isTabOrNewline c = false ∧ c ≠ '?' ∧ c ≠ '#'
  single : isSingleDot segment = false
  double : isDoubleDot segment = false

theorem Plain.push {segment : String} (plain : Plain segment) (path : List String) :
    push path segment = segment :: path := by
  simp [UrlPath.push, plain.single, plain.double]

theorem Plain.kept {segment : String} (plain : Plain segment) :
    kept segment = segment.toList := by
  refine List.filter_eq_self.mpr fun c member => ?_
  simp [(plain.chars c member).2.1]

theorem Plain.segments {segment : String} (plain : Plain segment) :
    segments segment.toList = [segment] := by
  rw [segments_of_slashless fun c member => (plain.chars c member).1]
  simp

theorem Plain.not_mem {segment : String} (plain : Plain segment) :
    '?' ∉ segment.toList ∧ '#' ∉ segment.toList :=
  ⟨fun member => (plain.chars _ member).2.2.1 rfl, fun member => (plain.chars _ member).2.2.2 rfl⟩

/-- The text that is inserted resolves to this segment below the segments in front of it. -/
def LeadsTo (path : List String) (text segment : String) : Prop :=
  '?' ∉ text.toList ∧ '#' ∉ text.toList ∧
    (segments (kept text)).foldl push path = segment :: path

theorem kept_append (a b : String) : kept (a ++ b) = kept a ++ kept b := by
  simp [kept]

theorem mem_kept (text : String) {c : Char} (visible : isTabOrNewline c = false) :
    c ∈ kept text ↔ c ∈ text.toList := by
  simp [kept, visible]

section Template

variable {a b last : String}

/-- A literal of plain segments around one text. -/
def template (a b last text : String) : String :=
  "/" ++ a ++ "/" ++ b ++ "/" ++ text ++ "/" ++ last

theorem kept_template (plainA : Plain a) (plainB : Plain b) (plainLast : Plain last)
    (text : String) : kept (template a b last text) =
      '/' :: (a.toList ++ '/' :: (b.toList ++ '/' :: (kept text ++ '/' :: last.toList))) := by
  have slash : kept "/" = ['/'] := rfl
  simp only [template, kept_append, slash, plainA.kept, plainB.kept, plainLast.kept]
  simp

/-- Query and fragment come from the text alone. -/
theorem template_bare (plainA : Plain a) (plainB : Plain b) (plainLast : Plain last)
    (text : String) : ((parse (template a b last text)).query = none ∧
      (parse (template a b last text)).fragment = none) ↔ '?' ∉ text.toList ∧ '#' ∉ text.toList := by
  have question : '?' ∈ kept text ↔ _ := mem_kept text rfl
  have hash := mem_kept text (c := '#') rfl
  rw [parse_bare, kept_template plainA plainB plainLast]
  simp [plainA.not_mem, plainB.not_mem, plainLast.not_mem, question, hash]

/-- The path of a text without marks: it is resolved below the segments in front of it, and the
last segment follows. -/
theorem template_path (plainA : Plain a) (plainB : Plain b) (plainLast : Plain last)
    {text : String} (question : '?' ∉ text.toList) (hash : '#' ∉ text.toList) :
    (parse (template a b last text)).path =
      ((segments (kept text)).foldl push [b, a]).reverse ++ [last] := by
  obtain ⟨bareQuestion, bareHash⟩ := parse_bare.mp
    ((template_bare plainA plainB plainLast text).mpr ⟨question, hash⟩)
  have whole : (parse (template a b last text)).path =
      resolve (a.toList ++ '/' :: (b.toList ++ '/' :: (kept text ++ '/' :: last.toList))) := by
    simp only [parse, cut_of_not_mem bareHash, cut_of_not_mem bareQuestion]
    rw [kept_template plainA plainB plainLast]
    rfl
  have split : segments (a.toList ++ '/' :: (b.toList ++ '/' :: (kept text ++ '/' ::
      last.toList))) = ([a, b] ++ segments (kept text)) ++ [last] := by
    simp only [segments_append, plainA.segments, plainB.segments, plainLast.segments]
    simp
  rw [whole, resolve, split, List.dropLast_concat, List.foldl_append, List.foldl_cons,
    List.foldl_cons, List.foldl_nil, plainA.push, plainB.push, List.getLastD_concat]
  simp [close, plainLast.single, plainLast.double]

/-- **One inserted text.**  A literal of plain segments around a text parses to these segments
around one more, without query and fragment, if and only if the text leads to that one. -/
theorem parse_template (plainA : Plain a) (plainB : Plain b) (plainLast : Plain last)
    (text segment : String) :
    ((parse (template a b last text)).path = [a, b, segment, last] ∧
      (parse (template a b last text)).query = none ∧
      (parse (template a b last text)).fragment = none) ↔ LeadsTo [b, a] text segment := by
  rw [template_bare plainA plainB plainLast, LeadsTo, and_comm, and_assoc]
  refine and_congr_right fun question => and_congr_right fun hash => ?_
  rw [template_path plainA plainB plainLast question hash]
  constructor
  · intro same
    have reversed := congrArg List.reverse same
    simpa using reversed
  · intro same
    simp [same]

/-- Without query and fragment, the path ends as the literal does. -/
theorem template_getLast? (plainA : Plain a) (plainB : Plain b) (plainLast : Plain last)
    {text : String} (query : (parse (template a b last text)).query = none)
    (fragment : (parse (template a b last text)).fragment = none) :
    (parse (template a b last text)).path.getLast? = some last := by
  obtain ⟨question, hash⟩ := (template_bare plainA plainB plainLast text).mp ⟨query, fragment⟩
  rw [template_path plainA plainB plainLast question hash]
  simp

end Template

/-- A text leads to itself when it is plain, and only then. -/
theorem leadsTo_self {a b : String} (plainA : Plain a) (plainB : Plain b) {text : String} :
    LeadsTo [b, a] text text ↔ Plain text := by
  constructor
  · rintro ⟨question, hash, resolved⟩
    have member : text ∈ (segments (kept text)).foldl push [b, a] := by
      rw [resolved]
      exact List.mem_cons_self
    rcases mem_foldl_push _ _ member with literal | own
    · simp only [List.mem_cons, List.not_mem_nil, or_false] at literal
      rcases literal with rfl | rfl
      · exact plainB
      · exact plainA
    · have chars : ∀ c ∈ text.toList,
          isSlash c = false ∧ isTabOrNewline c = false ∧ c ≠ '?' ∧ c ≠ '#' := by
        intro c here
        obtain ⟨slashless, there⟩ := mem_segments own c here
        refine ⟨slashless, ?_, ?_, ?_⟩
        · simpa [kept] using (List.mem_filter.mp there).2
        · rintro rfl
          exact question here
        · rintro rfl
          exact hash here
      have whole : kept text = text.toList := by
        refine List.filter_eq_self.mpr fun c here => ?_
        simp [(chars c here).2.1]
      have single : segments (kept text) = [text] := by
        rw [whole, segments_of_slashless fun c here => (chars c here).1]
        simp
      rw [single, List.foldl_cons, List.foldl_nil] at resolved
      unfold push at resolved
      refine ⟨chars, ?_, ?_⟩
      · refine Bool.eq_false_iff.mpr fun dot => ?_
        split at resolved
        · simp at resolved
        · simp at resolved
      · refine Bool.eq_false_iff.mpr fun dots => ?_
        simp [dots] at resolved
  · intro plain
    obtain ⟨question, hash⟩ := plain.not_mem
    refine ⟨question, hash, ?_⟩
    rw [plain.kept, plain.segments, List.foldl_cons, List.foldl_nil, plain.push]

end Aeolus.Core.UrlPath
