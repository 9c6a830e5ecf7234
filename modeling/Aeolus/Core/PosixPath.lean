/-
# Aeolus.Core.PosixPath — `path.posix` of Node.js

`normalize` keeps the segments of a path on a stack: an empty segment and `.` are skipped,
`..` takes the last kept segment away.  Where nothing is left to take away a relative path
keeps the `..` and an absolute one drops it.  `Settled` is what such a stack always
is: the segments that climb stand below all others.  A settled stack is rebuilt
from its own segments (`foldl_keep_reverse`), so a normalised path is its own normal form
(`normalize_normalize`).
-/
import Mathlib.Data.List.Basic
import Aeolus.Core.Text

namespace Aeolus.Core.PosixPath

def dotDot : List Char := ['.', '.']

/-! ## Normalising -/

/-- One segment of `normalizeString`; the last one kept is on top. -/
def keep (allowAboveRoot : Bool) (kept : List (List Char)) (segment : List Char) :
    List (List Char) :=
  if segment = [] ∨ segment = ['.'] then kept
  else if segment = dotDot then
    match kept with
    | [] => if allowAboveRoot then [dotDot] else []
    | top :: below =>
      if top = dotDot then if allowAboveRoot then dotDot :: top :: below else top :: below
      else below
  else segment :: kept

def normalizeString (allowAboveRoot : Bool) (path : List Char) : List (List Char) :=
  ((path.splitOn '/').foldl (keep allowAboveRoot) []).reverse

def isAbsolute (path : List Char) : Bool := path.head? = some '/'

def trailingSeparator (path : List Char) : Bool := path.getLast? = some '/'

def slashIf (there : Bool) : List Char := if there then ['/'] else []

def normalizeLetters (path : List Char) : List Char :=
  if path = [] then ['.']
  else
    match normalizeString (!isAbsolute path) path with
    | [] => if isAbsolute path then ['/'] else if trailingSeparator path then ['.', '/'] else ['.']
    | segment :: rest =>
      slashIf (isAbsolute path) ++ ['/'].intercalate (segment :: rest) ++
        slashIf (trailingSeparator path)

/-- `path.posix.normalize(path)` -/
def normalize (path : String) : String := String.ofList (normalizeLetters path.toList)

/-- `path.posix.join(base, path)`: an empty argument is skipped. -/
def join (base path : String) : String :=
  normalize (if base = "" then path else if path = "" then base else base ++ "/" ++ path)

/-! ## The parts of a path -/

def dirnameLetters : List Char → List Char
  | [] => ['.']
  | first :: rest =>
    -- what is left, in reverse, without the slashes at the end and the last segment
    match (rest.reverse.dropWhile (· = '/')).dropWhile (· ≠ '/') with
    | [] => if first = '/' then ['/'] else ['.']
    | _ :: before => if first = '/' ∧ before = [] then ['/', '/'] else first :: before.reverse

/-- `path.posix.dirname(path)` -/
def dirname (path : String) : String := String.ofList (dirnameLetters path.toList)

/-- A dot that begins the last segment begins no extension, and `..` has none. -/
def extnameLetters (path : List Char) : List Char :=
  let segment := (path.reverse.dropWhile (· = '/')).takeWhile (· ≠ '/')
  match segment.dropWhile (· ≠ '.') with
  | [] | [_] => []
  | _ => if segment = dotDot then [] else '.' :: (segment.takeWhile (· ≠ '.')).reverse

/-- `path.posix.extname(path)` -/
def extname (path : String) : String := String.ofList (extnameLetters path.toList)

example : normalize "logic//a/./../index.ts" = "logic/index.ts" := by decide
example : join "ui" "../../secret" = "../secret" := by decide
example : (dirname "ui/panels/gauge.tsx", dirname "index.ts") = ("ui/panels", ".") := by decide
example : (extname "ui/gauge.tsx", extname ".ts", extname "a.ts/") = (".tsx", "", ".ts") := by
  decide

/-! ## The stack of kept segments -/

/-- Stands for itself: neither skipped nor cut. -/
structure Segment (segment : List Char) : Prop where
  nonempty : segment ≠ []
  ne_dot : segment ≠ ['.']
  no_slash : '/' ∉ segment

theorem Segment.dotDot : Segment dotDot := ⟨by decide, by decide, by decide⟩

/-- Below a `..` there is only `..`, and it is there only where it may be. -/
def Settled (allowAboveRoot : Bool) : List (List Char) → Prop
  | [] => True
  | top :: below =>
    Segment top ∧ (top = dotDot → allowAboveRoot = true ∧ ∀ segment ∈ below, segment = dotDot) ∧
      Settled allowAboveRoot below

variable {allowAboveRoot : Bool} {kept : List (List Char)}

theorem Settled.segments (settled : Settled allowAboveRoot kept) :
    ∀ segment ∈ kept, Segment segment := by
  induction kept with
  | nil => simp
  | cons top below ih =>
      obtain ⟨here, -, deeper⟩ := settled
      exact List.forall_mem_cons.mpr ⟨here, ih deeper⟩

theorem keep_settled (settled : Settled allowAboveRoot kept) {segment : List Char}
    (no_slash : '/' ∉ segment) : Settled allowAboveRoot (keep allowAboveRoot kept segment) := by
  unfold keep
  by_cases skipped : segment = [] ∨ segment = ['.']
  · rw [if_pos skipped]
    exact settled
  rw [if_neg skipped]
  obtain ⟨nonempty, ne_dot⟩ := not_or.mp skipped
  by_cases climbs : segment = dotDot
  · rw [if_pos climbs]
    cases kept with
    | nil =>
        cases allowAboveRoot with
        | false => exact settled
        | true => exact ⟨Segment.dotDot, fun _ => ⟨rfl, by simp⟩, trivial⟩
    | cons top below =>
        dsimp only
        split
        · rename_i same
          split
          · refine ⟨Segment.dotDot, fun _ => ?_, settled⟩
            obtain ⟨allowed, others⟩ := settled.2.1 same
            exact ⟨allowed, List.forall_mem_cons.mpr ⟨same, others⟩⟩
          · exact settled
        · exact settled.2.2
  · rw [if_neg climbs]
    exact ⟨⟨nonempty, ne_dot, no_slash⟩, fun same => absurd same climbs, settled⟩

theorem foldl_keep_settled {segments : List (List Char)}
    (no_slash : ∀ segment ∈ segments, '/' ∉ segment) (settled : Settled allowAboveRoot kept) :
    Settled allowAboveRoot (segments.foldl (keep allowAboveRoot) kept) := by
  induction segments generalizing kept with
  | nil => exact settled
  | cons segment rest ih =>
      obtain ⟨here, later⟩ := List.forall_mem_cons.mp no_slash
      exact ih later (keep_settled settled here)

/-- A segment that may stand on a stack is put on it. -/
theorem keep_of_settled {segment : List Char} (settled : Settled allowAboveRoot (segment :: kept)) :
    keep allowAboveRoot kept segment = segment :: kept := by
  obtain ⟨plain, climbing, -⟩ := settled
  unfold keep
  rw [if_neg (not_or.mpr ⟨plain.nonempty, plain.ne_dot⟩)]
  by_cases climbs : segment = dotDot
  · obtain ⟨allowed, others⟩ := climbing climbs
    rw [if_pos climbs, climbs]
    cases kept with
    | nil => simp [allowed]
    | cons top below => simp [allowed, others top List.mem_cons_self]
  · rw [if_neg climbs]

theorem foldl_keep_reverse (settled : Settled allowAboveRoot kept) :
    kept.reverse.foldl (keep allowAboveRoot) [] = kept := by
  induction kept with
  | nil => rfl
  | cons top below ih =>
      rw [List.reverse_cons, List.foldl_append, ih settled.2.2]
      exact keep_of_settled settled

theorem normalizeString_settled (allowAboveRoot : Bool) (path : List Char) :
    Settled allowAboveRoot (normalizeString allowAboveRoot path).reverse := by
  rw [normalizeString, List.reverse_reverse]
  exact foldl_keep_settled (fun _ member => (mem_splitOn member).1) trivial

theorem mem_normalizeString {path segment : List Char}
    (member : segment ∈ normalizeString allowAboveRoot path) :
    segment = dotDot ∨ ∀ c ∈ segment, c ∈ path := by
  have every (segments : List (List Char)) (kept : List (List Char))
      (member : segment ∈ segments.foldl (keep allowAboveRoot) kept) :
      segment ∈ kept ∨ segment = dotDot ∨ segment ∈ segments := by
    induction segments generalizing kept with
    | nil => exact .inl member
    | cons first rest ih =>
        rcases ih _ member with before | same | later
        · unfold keep at before
          grind
        · exact .inr (.inl same)
        · exact .inr (.inr (List.mem_cons_of_mem _ later))
  rcases every _ [] (List.mem_reverse.mp member) with none | same | split
  · exact absurd none List.not_mem_nil
  · exact .inl same
  · exact .inr (mem_splitOn split).2

/-! ## Normal forms -/

theorem slashIf_append_splitOn (there : Bool) (text : List Char) :
    (slashIf there ++ text).splitOn '/' = (if there then [[]] else []) ++ text.splitOn '/' := by
  cases there with
  | false => rfl
  | true => exact splitOn_append [] text

theorem append_slashIf_splitOn (there : Bool) (text : List Char) :
    (text ++ slashIf there).splitOn '/' = text.splitOn '/' ++ if there then [[]] else [] := by
  cases there with
  | false => simp [slashIf]
  | true => exact splitOn_append text []

/-- The empty segments before a first slash and behind a last one are skipped. -/
theorem normalizeString_joined {segments : List (List Char)} (some : segments ≠ [])
    (settled : Settled allowAboveRoot segments.reverse) (first last : Bool) :
    normalizeString allowAboveRoot
      (slashIf first ++ ['/'].intercalate segments ++ slashIf last) = segments := by
  have no_slash : ∀ segment ∈ segments, '/' ∉ segment := fun segment member =>
    (settled.segments segment (List.mem_reverse.mpr member)).no_slash
  have rebuilt := foldl_keep_reverse settled
  rw [List.reverse_reverse] at rebuilt
  rw [normalizeString, List.append_assoc, slashIf_append_splitOn, append_slashIf_splitOn,
    List.splitOn_intercalate '/' no_slash some, List.foldl_append, List.foldl_append]
  have before : (if first then [[]] else []).foldl (keep allowAboveRoot) [] = [] := by
    cases first <;> rfl
  rw [before, rebuilt]
  have behind : (if last then [[]] else []).foldl (keep allowAboveRoot) segments.reverse =
      segments.reverse := by
    cases last <;> rfl
  rw [behind, List.reverse_reverse]

/-- Segments joined begin with a character of the first and end with one of the last. -/
theorem intercalate_bounds {segments : List (List Char)} (some : segments ≠ [])
    (plain : ∀ segment ∈ segments, Segment segment) :
    ['/'].intercalate segments ≠ [] ∧ isAbsolute (['/'].intercalate segments) = false ∧
      trailingSeparator (['/'].intercalate segments) = false := by
  have starts (segment : List Char) (here : Segment segment) : isAbsolute segment = false := by
    obtain ⟨c, rest, rfl⟩ := List.exists_cons_of_ne_nil here.nonempty
    simpa [isAbsolute] using fun same : c = '/' => here.no_slash (by simp [same])
  have ends (segment : List Char) (here : Segment segment) : trailingSeparator segment = false := by
    refine decide_eq_false fun same => here.no_slash ?_
    exact List.mem_of_getLast? same
  induction segments with
  | nil => exact absurd rfl some
  | cons segment rest ih =>
      obtain ⟨here, later⟩ := List.forall_mem_cons.mp plain
      cases rest with
      | nil =>
          rw [List.intercalate_singleton]
          exact ⟨here.nonempty, starts segment here, ends segment here⟩
      | cons next rest =>
          obtain ⟨nonempty, -, last⟩ := ih (by simp) later
          rw [List.intercalate_cons_cons]
          have front := starts segment here
          obtain ⟨c, letters, rfl⟩ := List.exists_cons_of_ne_nil here.nonempty
          refine ⟨by simp, by simpa [isAbsolute] using front, ?_⟩
          rw [trailingSeparator, List.getLast?_append_of_ne_nil _ nonempty]
          exact last

theorem bounds_slashIf {text : List Char} (nonempty : text ≠ []) (front : isAbsolute text = false)
    (back : trailingSeparator text = false) (first last : Bool) :
    isAbsolute (slashIf first ++ text ++ slashIf last) = first ∧
      trailingSeparator (slashIf first ++ text ++ slashIf last) = last := by
  have kept := List.getLast?_append_of_ne_nil (slashIf first) nonempty
  obtain ⟨c, rest, rfl⟩ := List.exists_cons_of_ne_nil nonempty
  constructor
  · cases first with
    | false => simpa [slashIf, isAbsolute] using front
    | true => simp [slashIf, isAbsolute]
  · cases last with
    | true =>
        refine decide_eq_true ?_
        change (slashIf first ++ c :: rest ++ ['/']).getLast? = some '/'
        rw [List.getLast?_concat]
    | false =>
        change decide ((slashIf first ++ c :: rest ++ []).getLast? = some '/') = false
        rw [List.append_nil, kept]
        exact back

/-- A normalised path, by the segments that are left. -/
theorem normalizeLetters_cases {path : List Char} (some : path ≠ []) :
    normalizeLetters path ∈ [['/'], ['.', '/'], ['.']] ∨
      normalizeString (!isAbsolute path) path ≠ [] ∧ normalizeLetters path =
        slashIf (isAbsolute path) ++ ['/'].intercalate (normalizeString (!isAbsolute path) path) ++
          slashIf (trailingSeparator path) := by
  rw [normalizeLetters, if_neg some]
  split
  · refine .inl ?_
    split
    · simp
    · split <;> simp
  · rename_i segment rest kept
    rw [kept]
    exact .inr ⟨by simp, rfl⟩

theorem normalizeLetters_ne_nil (path : List Char) : normalizeLetters path ≠ [] := by
  by_cases some : path = []
  · rw [normalizeLetters, if_pos some]
    simp
  rcases normalizeLetters_cases some with listed | ⟨left, shape⟩
  · intro none
    rw [none] at listed
    simp at listed
  · have plain : ∀ segment ∈ normalizeString (!isAbsolute path) path, Segment segment :=
      fun segment member => (normalizeString_settled _ path).segments segment
        (List.mem_reverse.mpr member)
    rw [shape]
    simp [(intercalate_bounds left plain).1]

/-- A normalised path is its own normal form. -/
theorem normalizeLetters_normalizeLetters (path : List Char) :
    normalizeLetters (normalizeLetters path) = normalizeLetters path := by
  by_cases some : path = []
  · rw [some]
    decide
  rcases normalizeLetters_cases some with listed | ⟨left, shape⟩
  · have fixed : ∀ text ∈ [['/'], ['.', '/'], ['.']], normalizeLetters text = text := by decide
    exact fixed _ listed
  · have settled := normalizeString_settled (!isAbsolute path) path
    have plain : ∀ segment ∈ normalizeString (!isAbsolute path) path, Segment segment :=
      fun segment member => settled.segments segment (List.mem_reverse.mpr member)
    obtain ⟨nonempty, front, back⟩ := intercalate_bounds left plain
    obtain ⟨absolute, trailing⟩ :=
      bounds_slashIf nonempty front back (isAbsolute path) (trailingSeparator path)
    have joined := normalizeString_joined left settled (isAbsolute path) (trailingSeparator path)
    have again := normalizeLetters_ne_nil path
    rw [shape] at again
    rw [shape, normalizeLetters, if_neg again, absolute, trailing, joined]
    obtain ⟨segment, rest, kept⟩ := List.exists_cons_of_ne_nil left
    rw [kept]

theorem normalize_normalize (path : String) : normalize (normalize path) = normalize path := by
  rw [normalize, normalize, String.toList_ofList, normalizeLetters_normalizeLetters]

theorem normalize_ne_empty (path : String) : normalize path ≠ "" := by
  intro none
  have letters := congrArg String.toList none
  rw [normalize, String.toList_ofList] at letters
  exact normalizeLetters_ne_nil _ letters

/-- Normalising a path that does not begin with a slash gives one that does not. -/
theorem isAbsolute_normalizeLetters {path : List Char} (relative : isAbsolute path = false) :
    isAbsolute (normalizeLetters path) = false := by
  by_cases some : path = []
  · rw [some]
    decide
  rw [normalizeLetters, if_neg some, relative]
  split
  · rw [if_neg (by decide)]
    split <;> decide
  · rename_i segment rest kept
    have plain : ∀ a ∈ segment :: rest, Segment a := by
      rw [← kept]
      exact fun a member =>
        (normalizeString_settled _ path).segments a (List.mem_reverse.mpr member)
    obtain ⟨nonempty, front, back⟩ := intercalate_bounds (by simp) plain
    exact (bounds_slashIf nonempty front back false (trailingSeparator path)).1

/-- Every character of a normalised path is one of the path, a slash or a dot. -/
theorem mem_normalizeLetters {path : List Char} {c : Char} (member : c ∈ normalizeLetters path) :
    c ∈ path ∨ c = '/' ∨ c = '.' := by
  by_cases some : path = []
  · rw [normalizeLetters, if_pos some, List.mem_singleton] at member
    exact .inr (.inr member)
  have added (there : Bool) (here : c ∈ slashIf there) : c = '/' := by
    cases there <;> simpa [slashIf] using here
  rcases normalizeLetters_cases some with listed | ⟨-, shape⟩
  · have marks : ∀ text ∈ [['/'], ['.', '/'], ['.']], ∀ c ∈ text, c = '/' ∨ c = '.' := by simp
    exact .inr (marks _ listed c member)
  · rw [shape, List.mem_append, List.mem_append] at member
    rcases member with (first | inner) | last
    · exact .inr (.inl (added _ first))
    · obtain slash | ⟨segment, kept, inside⟩ := mem_intercalate inner
      · exact .inr (.inl slash)
      · obtain rfl | letters := mem_normalizeString kept
        · exact .inr (.inr (by simpa [dotDot] using inside))
        · exact .inl (letters c inside)
    · exact .inr (.inl (added _ last))

end Aeolus.Core.PosixPath
