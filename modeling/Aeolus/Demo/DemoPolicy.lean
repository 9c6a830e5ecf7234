/-
# Aeolus.Demo.DemoPolicy — the allowlist of public-demo sessions

`src/demo/demo-policy.ts`.  What a public-demo session may reach is a list of methods and
path patterns; anything else is refused.  The matcher splits paths itself: it cuts a query
off, drops empty segments, compares literal segments and lets a `:param` segment match any
one segment.  It sees the path as it came, percent-encoding included.
-/
import Aeolus.Core.Text

namespace Aeolus.Demo

open Aeolus.Core

/-! ## Paths -/

/-- The non-empty segments of a path. -/
def splitPath (path : String) : List String :=
  (split ((split path '?').headD "") '/').filter (· ≠ "")

/-- The path with these segments and no other slashes. -/
def joinPath (segments : List String) : String :=
  String.intercalate "/" ("" :: segments)

theorem split_joinPath {segments : List String} (plain : ∀ s ∈ segments, '/' ∉ s.toList) :
    split (joinPath segments) '/' = "" :: segments := by
  have apart : ∀ l ∈ ("" :: segments).map String.toList, '/' ∉ l := by
    intro l member
    obtain ⟨s, listed, rfl⟩ := List.mem_map.mp member
    rcases List.mem_cons.mp listed with rfl | later
    · simp
    · exact plain s later
  have back := List.splitOn_intercalate '/' apart (by simp)
  unfold split joinPath
  rw [String.toList_intercalate, show "/".toList = ['/'] from rfl, back]
  simp [Function.comp_def]

/-- Without a query, a path is split at its slashes. -/
theorem splitPath_of_pathname {path : String} (pathname : '?' ∉ path.toList) :
    splitPath path = (split path '/').filter (· ≠ "") := by
  have whole : (split path '?').headD "" = path := by
    unfold split
    rw [List.splitOn_eq_singleton pathname]
    simp
  unfold splitPath
  rw [whole]

/-! ## The matcher -/

/-- What an entry asks of the body of a mutation. -/
inductive DemoValidator where
  | stateWrite
  | fire
  deriving DecidableEq

structure DemoPolicyEntry where
  method : String
  pattern : String
  validate : Option DemoValidator := none
  deriving DecidableEq

def isParam (segment : String) : Bool := segment.toList.head? = some ':'

/-- The parameters that a path gives to a pattern, segment by segment. -/
def matchSegments : List String → List String → Option (List (String × String))
  | [], [] => some []
  | segment :: segments, given :: rest =>
      if isParam segment then
        if given = "" then none
        else (matchSegments segments rest).map
          ((String.ofList segment.toList.tail, given) :: ·)
      else if segment = given then matchSegments segments rest
      else none
  | _, _ => none

/-- `method.toUpperCase()`; a method has only ASCII letters. -/
def toUpperCase (method : String) : String := String.ofList (method.toList.map Char.toUpper)

def DemoPolicyEntry.accepts (entry : DemoPolicyEntry) (method path : String) :
    Option (List (String × String)) :=
  if toUpperCase entry.method = toUpperCase method then
    matchSegments (splitPath entry.pattern) (splitPath path)
  else none

/-- The first entry that accepts, with the parameters of the path. -/
def matchPolicy (entries : List DemoPolicyEntry) (method path : String) :
    Option (DemoPolicyEntry × List (String × String)) :=
  entries.findSome? fun entry => (entry.accepts method path).map (entry, ·)

theorem accepts_some {entry : DemoPolicyEntry} {method path : String}
    {params : List (String × String)} (accepted : entry.accepts method path = some params) :
    toUpperCase entry.method = toUpperCase method ∧
      matchSegments (splitPath entry.pattern) (splitPath path) = some params := by
  unfold DemoPolicyEntry.accepts at accepted
  split at accepted
  · rename_i verb
    exact ⟨verb, accepted⟩
  · cases accepted

theorem matchPolicy_some {entries : List DemoPolicyEntry} {method path : String}
    {entry : DemoPolicyEntry} {params : List (String × String)}
    (matched : matchPolicy entries method path = some (entry, params)) :
    entry ∈ entries ∧ entry.accepts method path = some params := by
  obtain ⟨found, member, accepted⟩ := List.exists_of_findSome?_eq_some matched
  obtain ⟨given, here, same⟩ := Option.map_eq_some_iff.mp accepted
  cases same
  exact ⟨member, here⟩

/-- A path that some entry accepts is admitted. -/
theorem matchPolicy_admits {entries : List DemoPolicyEntry} {method path : String}
    {entry : DemoPolicyEntry} {params : List (String × String)} (member : entry ∈ entries)
    (accepted : entry.accepts method path = some params) :
    (matchPolicy entries method path).isSome = true := by
  unfold matchPolicy
  rw [List.findSome?_isSome_iff]
  exact ⟨entry, member, by rw [accepted]; rfl⟩

/-- A pattern without parameters accepts its own segments only. -/
theorem matchSegments_literal {segments given : List String} {params : List (String × String)}
    (literal : ∀ s ∈ segments, isParam s = false)
    (matched : matchSegments segments given = some params) : given = segments ∧ params = [] := by
  induction segments generalizing given with
  | nil =>
      cases given with
      | nil =>
          cases matched
          exact ⟨rfl, rfl⟩
      | cons _ _ => cases matched
  | cons segment segments ih =>
      cases given with
      | nil => cases matched
      | cons first rest =>
          have plain := literal segment List.mem_cons_self
          simp only [matchSegments, plain, Bool.false_eq_true, if_false] at matched
          split at matched
          · rename_i same
            obtain ⟨rfl, rfl⟩ :=
              ih (fun s member => literal s (List.mem_cons_of_mem _ member)) matched
            exact ⟨by rw [same], rfl⟩
          · cases matched

/-- A literal segment of a pattern. -/
theorem matchSegments_cons {segment : String} {segments given : List String}
    {params : List (String × String)} (literal : isParam segment = false)
    (matched : matchSegments (segment :: segments) given = some params) :
    ∃ rest, given = segment :: rest ∧ matchSegments segments rest = some params := by
  cases given with
  | nil => cases matched
  | cons first rest =>
      simp only [matchSegments, literal, Bool.false_eq_true, if_false] at matched
      split at matched
      · rename_i same
        exact ⟨rest, by rw [same], matched⟩
      · cases matched

/-- The resource patterns: three literal segments around an id. -/
theorem matchSegments_resource {a b d : String} {given : List String}
    {params : List (String × String)} (literal : ∀ s ∈ [a, b, d], isParam s = false)
    (matched : matchSegments [a, b, ":id", d] given = some params) :
    ∃ id, id ≠ "" ∧ given = [a, b, id, d] ∧ params = [("id", id)] := by
  obtain ⟨tail, rfl, afterFirst⟩ := matchSegments_cons (literal a (by simp)) matched
  obtain ⟨rest, rfl, afterSecond⟩ := matchSegments_cons (literal b (by simp)) afterFirst
  cases rest with
  | nil => cases afterSecond
  | cons id rest =>
      have param : isParam ":id" = true := by decide
      have name : String.ofList ":id".toList.tail = "id" := by decide
      simp only [matchSegments, param, if_true, name] at afterSecond
      split at afterSecond
      · cases afterSecond
      · rename_i nonempty
        obtain ⟨more, last, rfl⟩ := Option.map_eq_some_iff.mp afterSecond
        have only : ∀ s ∈ [d], isParam s = false := fun s member =>
          literal s (by simp [List.mem_singleton.mp member])
        obtain ⟨rfl, rfl⟩ := matchSegments_literal only last
        exact ⟨id, nonempty, rfl, rfl⟩

/-- The pattern with its parameters filled in. -/
def fillPattern (pattern : String) (params : List (String × String)) : String :=
  joinPath ((splitPath pattern).map fun segment =>
    if isParam segment then (params.lookup (String.ofList segment.toList.tail)).getD segment
    else segment)

/-- `buildDemoPolicy`. -/
def demoPolicy : List DemoPolicyEntry :=
  ["/api/auth/me", "/api/layout", "/api/devices", "/api/devices/:id", "/api/devices/:id/history",
    "/api/devices/:id/actions", "/api/devices/:id/completion-tiers", "/api/state",
    "/api/automations", "/api/automations/:id", "/api/automations/:id/ui-module",
    "/api/automations/:id/state", "/api/automations/:id/project",
    "/api/automations/:id/command-evidence", "/api/automations/history",
    "/api/data-store/collections", "/api/data-store/collections/:name/records", "/api/health",
    "/api/system/version", "/api/system", "/api/system/logs", "/api/connectors",
    "/api/connectors/available", "/api/connectors/:id/status", "/api/data-store/config",
    "/api/data-store/stats", "/api/data-store/buckets", "/api/data-store/buckets/:bucket",
    "/api/auth/users", "/api/auth/groups", "/api/auth/mqtt-credentials",
    "/api/mqtt/provisioning/status", "/api/mqtt/private-topics"].map
      (fun pattern => { method := "GET", pattern := pattern }) ++
  [{ method := "PUT", pattern := "/api/automations/:id/state", validate := some .stateWrite },
    { method := "POST", pattern := "/api/automations/:id/fire", validate := some .fire }]

end Aeolus.Demo
