/-
# Aeolus.Demo.DemoScrub — what a public-demo session sees of admin reads

`src/demo/demo-scrub.ts`.  The guard lets a public-demo session read some admin surfaces, and
this layer masks what they disclose.  It chooses by the path of the request, compared as a
whole text; the guard compares segments and drops empty ones, and Express takes a trailing
slash.  So a path that the guard admits is scrubbed exactly if it is spelled as its pattern is
(`scrubbed_iff_canonical`): `trailing_slash_unscrubbed` reads the host data at `/api/system/`.

The three regular expressions of the text scrubber are `Pattern`s: `ends` lists where a match
can end, in the order in which a backtracking matcher tries them.
-/
import Aeolus.Core.Json
import Aeolus.Demo.DemoPolicy

namespace Aeolus.Demo

open Aeolus.Core

/-! ## Patterns -/

/-- A regular expression without alternatives; repetitions are greedy. -/
inductive Pattern where
  | one (admits : Char → Bool)
  | boundary
  | seq (first second : Pattern)
  | times (least more : Nat) (body : Pattern)

/-- Where a matcher stands: the character before, and the rest of the text. -/
abbrev Position := Option Char × List Char

def isWordChar (c : Char) : Bool := c.isAlphanum || c = '_'

/-- At most `more` rounds, the longest first. -/
def optionalEnds (round : Position → List Position) : Nat → Position → List Position
  | 0, position => [position]
  | more + 1, position => (round position).flatMap (optionalEnds round more) ++ [position]

/-- Then as many as there must be. -/
def timesEnds (round : Position → List Position) (more : Nat) : Nat → Position → List Position
  | 0, position => optionalEnds round more position
  | least + 1, position => (round position).flatMap (timesEnds round more least)

def Pattern.ends : Pattern → Position → List Position
  | .one admits, (_, c :: rest) => if admits c then [(some c, rest)] else []
  | .one _, (_, []) => []
  | .boundary, (before, rest) =>
      if before.any isWordChar ≠ rest.head?.any isWordChar then [(before, rest)] else []
  | .seq first second, position => (first.ends position).flatMap second.ends
  | .times least more body, position => timesEnds body.ends more least position

/-- `text.replace(/pattern/g, mask)` for a pattern that matches no empty text. -/
def replaceAll (pattern : Pattern) (mask : List Char) : Nat → Position → List Char
  | 0, (_, rest) => rest
  | _ + 1, (_, []) => []
  | fuel + 1, (before, c :: rest) =>
      match (pattern.ends (before, c :: rest)).head? with
      | some position => mask ++ replaceAll pattern mask fuel position
      | none => c :: replaceAll pattern mask fuel (some c, rest)

def isHexDigit (c : Char) : Bool :=
  c.isDigit || ('a' ≤ c && c ≤ 'f') || ('A' ≤ c && c ≤ 'F')

def ipv4Pattern : Pattern :=
  .seq .boundary (.seq (.times 3 0 (.seq (.times 1 2 (.one Char.isDigit)) (.one (· = '.'))))
    (.seq (.times 1 2 (.one Char.isDigit)) .boundary))

def ipv6Pattern : Pattern :=
  .seq .boundary (.seq (.times 2 5 (.seq (.times 1 3 (.one isHexDigit)) (.one (· = ':'))))
    (.seq (.times 0 4 (.one isHexDigit)) .boundary))

/-- A run of 32 or more; `length` bounds what a text can have beyond. -/
def longTokenPattern (length : Nat) : Pattern :=
  .seq .boundary (.seq (.times 32 length (.one fun c => isWordChar c || c = '-')) .boundary)

/-! ## Scrubbing -/

def mask : String := "•••"

def replaceIn (pattern : Pattern) (text : List Char) : List Char :=
  replaceAll pattern mask.toList text.length (none, text)

def scrubText (value : String) : String :=
  let text := replaceIn ipv6Pattern (replaceIn ipv4Pattern value.toList)
  String.ofList (replaceIn (longTokenPattern text.length) text)

/-- A blank between a lower-case letter or digit and a capital. -/
def spaceCamelCase : List Char → List Char
  | a :: b :: rest =>
      if (a.isLower || a.isDigit) && b.isUpper then a :: ' ' :: spaceCamelCase (b :: rest)
      else a :: spaceCamelCase (b :: rest)
  | short => short

def keyTokens (key : String) : List String :=
  (((spaceCamelCase key.toList).splitOnP fun c => !c.isAlphanum).filter (· ≠ [])).map fun token =>
    String.ofList (token.map Char.toLower)

def sensitiveTokens : List String :=
  ["password", "pass", "passwd", "secret", "token", "apikey", "authorization", "auth",
    "credential", "credentials", "privatekey", "salt", "hash", "username", "user", "ip",
    "ipaddress", "host", "hostname", "address", "url", "endpoint", "broker", "mac"]

def looksSensitiveKey (key : String) : Bool :=
  let tokens := keyTokens key
  (tokens.contains "api" && tokens.contains "key") || tokens.any sensitiveTokens.contains

/-- `null` and booleans stay under a sensitive key. -/
def maskValue : Json → Json
  | .null => .null
  | .bool value => .bool value
  | _ => .str mask

mutual

def deepScrub : Json → Json
  | .str value => .str (scrubText value)
  | .arr items => .arr (deepScrubItems items)
  | .obj fields => .obj (deepScrubFields fields)
  | value => value

def deepScrubItems : List Json → List Json
  | [] => []
  | item :: rest => deepScrub item :: deepScrubItems rest

/-- Assigning to `__proto__` makes no field. -/
def deepScrubFields : List (String × Json) → List (String × Json)
  | [] => []
  | (key, value) :: rest =>
      if key = "__proto__" then deepScrubFields rest
      else if looksSensitiveKey key then (key, maskValue value) :: deepScrubFields rest
      else (key, deepScrub value) :: deepScrubFields rest

end

/-- `{ ...fields, [name]: value }` -/
def withField (name : String) (value : Json) (fields : List (String × Json)) :
    List (String × Json) :=
  if fields.any (·.1 = name) then
    fields.map fun field => if field.1 = name then (name, value) else field
  else fields ++ [(name, value)]

def scrubUser (user : Json × Nat) : Json :=
  match user.1 with
  | .obj fields =>
      let pseudonym :=
        match user.1.property "role" with
        | some (.str "admin") => "administrator"
        | _ => "member-" ++ toString (user.2 + 1)
      .obj (withField "username" (.str pseudonym) fields)
  | other => other

def scrubUsers : Json → Json
  | .arr users => .arr (users.zipIdx.map scrubUser)
  | body => body

/-- `CONNECTOR_STATUS_RE.test(path)` -/
def isConnectorStatus (path : String) : Bool :=
  match split path '/' with
  | ["", "api", "connectors", id, "status"] => id ≠ ""
  | _ => false

def deepScrubPaths : List String :=
  ["/api/system", "/api/system/logs", "/api/connectors", "/api/auth/mqtt-credentials",
    "/api/mqtt/provisioning/status"]

def scrubForDemo (path : String) (body : Json) : Json :=
  if path = "/api/auth/users" then scrubUsers body
  else if path = "/api/connectors/available" then body
  else if path ∈ deepScrubPaths ∨ isConnectorStatus path then deepScrub body
  else body

example : scrubText "at 10.0.0.1, fe80:1:2" = "at •••, •••" := by decide +kernel

/-- `createDemoScrubMiddleware`: the body that `res.json` sends. -/
def sentBody (enabled publicDemo : Bool) (path : String) (body : Json) : Json :=
  if enabled && publicDemo then scrubForDemo path body else body

theorem sentBody_demo (path : String) (body : Json) :
    sentBody true true path body = scrubForDemo path body := rfl

/-! ## Which paths are scrubbed -/

theorem isConnectorStatus_iff (path : String) :
    isConnectorStatus path = true ↔
      ∃ id, id ≠ "" ∧ split path '/' = ["", "api", "connectors", id, "status"] := by
  unfold isConnectorStatus
  constructor
  · intro status
    split at status
    · rename_i id parts
      exact ⟨id, by simpa using status, parts⟩
    · cases status
  · rintro ⟨id, nonempty, parts⟩
    rw [parts]
    simpa using nonempty

/-- A path without empty segments inside and without a slash at its end. -/
def Canonical (path : String) : Prop := split path '/' = "" :: splitPath path

instance : DecidablePred Canonical := fun path =>
  inferInstanceAs (Decidable (split path '/' = "" :: splitPath path))

theorem Canonical.of_split {path : String} (pathname : '?' ∉ path.toList)
    {segments : List String} (parts : split path '/' = "" :: segments)
    (nonempty : ∀ s ∈ segments, s ≠ "") : Canonical path := by
  unfold Canonical
  rw [splitPath_of_pathname pathname, parts]
  have kept : segments.filter (fun s => decide (s ≠ "")) = segments :=
    List.filter_eq_self.mpr fun s member => by simpa using nonempty s member
  simp only [List.filter_cons, ne_eq, not_true, decide_false, Bool.false_eq_true, if_false]
  rw [kept]

/-- A path that is scrubbed is canonical. -/
theorem canonical_of_scrubbed {path : String} (pathname : '?' ∉ path.toList) {body : Json}
    (scrubbed : scrubForDemo path body ≠ body) : Canonical path := by
  have static : ∀ p ∈ "/api/auth/users" :: deepScrubPaths, Canonical p := by decide +kernel
  unfold scrubForDemo at scrubbed
  split at scrubbed
  · rename_i users
    rw [users]
    exact static _ List.mem_cons_self
  · split at scrubbed
    · exact absurd rfl scrubbed
    · split at scrubbed
      · rename_i listed
        rcases listed with member | status
        · exact static path (List.mem_cons_of_mem _ member)
        · obtain ⟨id, nonempty, parts⟩ := (isConnectorStatus_iff path).mp status
          refine Canonical.of_split pathname parts ?_
          simpa using nonempty
      · exact absurd rfl scrubbed

/-- A canonical path is determined by its segments. -/
theorem Canonical.eq_of_segments {a b : String} (left : Canonical a) (right : Canonical b)
    (same : splitPath a = splitPath b) : a = b := by
  apply split_injective '/'
  rw [left, right, same]

/-! ## The masked reads -/

/-- The patterns of the admin reads that are masked. -/
def maskedPatterns : List String :=
  ["/api/system", "/api/system/logs", "/api/connectors", "/api/connectors/:id/status",
    "/api/auth/mqtt-credentials", "/api/mqtt/provisioning/status", "/api/auth/users"]

/-- A body in which either scrubber masks something. -/
def rootUser : Json := .arr [.obj [("username", .str "root")]]

theorem deepScrub_rootUser : deepScrub rootUser ≠ rootUser := by
  have masked : deepScrub rootUser = .arr [.obj [("username", .str mask)]] := by rfl
  rw [masked]
  intro same
  simp [rootUser, mask] at same

theorem scrubUsers_rootUser : scrubUsers rootUser ≠ rootUser := by
  have masked : scrubUsers rootUser = .arr [.obj [("username", .str "member-1")]] := by rfl
  rw [masked]
  intro same
  simp [rootUser] at same

theorem scrub_status {path : String} (status : isConnectorStatus path = true) :
    scrubForDemo path rootUser ≠ rootUser := by
  have other : path ≠ "/api/auth/users" ∧ path ≠ "/api/connectors/available" := by
    refine ⟨?_, ?_⟩ <;> rintro rfl <;> exact absurd status (by decide)
  unfold scrubForDemo
  rw [if_neg other.1, if_neg other.2, if_pos (.inr status)]
  exact deepScrub_rootUser

theorem status_pattern :
    splitPath "/api/connectors/:id/status" = ["api", "connectors", ":id", "status"] := by
  decide +kernel

theorem fill_status (id : String) :
    fillPattern "/api/connectors/:id/status" [("id", id)] =
      joinPath ["api", "connectors", id, "status"] := by
  have params : (["api", "connectors", ":id", "status"].map isParam) =
      [false, false, true, false] := by
    decide
  simp only [List.map_cons, List.map_nil, List.cons.injEq, and_true] at params
  unfold fillPattern
  rw [status_pattern]
  simp [params]

/-- A path with the segments of a masked pattern. -/
theorem masked_canonical {pattern path : String} {params : List (String × String)}
    (pathname : '?' ∉ path.toList) (masked : pattern ∈ maskedPatterns)
    (matched : matchSegments (splitPath pattern) (splitPath path) = some params) :
    Canonical (fillPattern pattern params) ∧
      splitPath (fillPattern pattern params) = splitPath path ∧
      scrubForDemo (fillPattern pattern params) rootUser ≠ rootUser := by
  by_cases status : pattern = "/api/connectors/:id/status"
  · subst status
    rw [status_pattern] at matched
    obtain ⟨id, nonempty, given, rfl⟩ := matchSegments_resource (by decide) matched
    have listed : id ∈ split path '/' := by
      have member : id ∈ splitPath path := by simp [given]
      rw [splitPath_of_pathname pathname] at member
      exact (List.mem_filter.mp member).1
    obtain ⟨slashless, inside⟩ := mem_split listed
    have parts : split (joinPath ["api", "connectors", id, "status"]) '/' =
        ["", "api", "connectors", id, "status"] := by
      refine split_joinPath fun s member => ?_
      simp only [List.mem_cons, List.not_mem_nil, or_false] at member
      rcases member with rfl | rfl | rfl | rfl <;> first | exact slashless | decide
    have plain : '?' ∉ (joinPath ["api", "connectors", id, "status"]).toList := by
      have free : '?' ∉ id.toList := fun here => pathname (inside _ here)
      simp [joinPath, free]
    have canonical : Canonical (joinPath ["api", "connectors", id, "status"]) := by
      refine Canonical.of_split plain parts ?_
      simpa using nonempty
    rw [fill_status]
    refine ⟨canonical, ?_, scrub_status ((isConnectorStatus_iff _).mpr ⟨id, nonempty, parts⟩)⟩
    have both := canonical.symm.trans parts
    rw [given]
    exact List.tail_eq_of_cons_eq both
  · -- the other patterns have no parameter
    have static : ∀ p ∈ maskedPatterns, p ≠ "/api/connectors/:id/status" →
        (∀ s ∈ splitPath p, isParam s = false) ∧ fillPattern p [] = p ∧ Canonical p := by
      decide +kernel
    obtain ⟨literal, filled, canonical⟩ := static pattern masked status
    obtain ⟨same, rfl⟩ := matchSegments_literal literal matched
    rw [filled]
    refine ⟨canonical, same.symm, ?_⟩
    by_cases users : pattern = "/api/auth/users"
    · rw [users]
      exact scrubUsers_rootUser
    · have deep : ∀ p ∈ maskedPatterns, p ≠ "/api/connectors/:id/status" →
          p ≠ "/api/auth/users" → p ≠ "/api/connectors/available" ∧ p ∈ deepScrubPaths := by
        decide +kernel
      obtain ⟨other, listed⟩ := deep pattern masked status users
      unfold scrubForDemo
      rw [if_neg users, if_neg other, if_pos (.inl listed)]
      exact deepScrub_rootUser

/-- **Masking.**  A path that an entry of the allowlist accepts as a masked read is scrubbed
like the entry's pattern, whatever the body, exactly if it is spelled like the pattern. -/
theorem scrubbed_iff_canonical {path : String} (pathname : '?' ∉ path.toList)
    {entry : DemoPolicyEntry} {params : List (String × String)}
    (accepted : entry.accepts "GET" path = some params) (masked : entry.pattern ∈ maskedPatterns) :
    (∀ body, sentBody true true path body =
      sentBody true true (fillPattern entry.pattern params) body) ↔
      path = fillPattern entry.pattern params := by
  obtain ⟨-, matched⟩ := accepts_some accepted
  obtain ⟨canonical, segments, scrubs⟩ := masked_canonical pathname masked matched
  simp only [sentBody_demo]
  constructor
  · intro agree
    have here : scrubForDemo path rootUser ≠ rootUser := by
      rw [agree rootUser]
      exact scrubs
    exact (canonical_of_scrubbed pathname here).eq_of_segments canonical segments.symm
  · intro same body
    rw [← same]

def statusEntry : DemoPolicyEntry := { method := "GET", pattern := "/api/connectors/:id/status" }

def systemEntry : DemoPolicyEntry := { method := "GET", pattern := "/api/system" }

theorem statusEntry_accepts :
    statusEntry.accepts "GET" "/api/connectors/hue-1/status" = some [("id", "hue-1")] := by
  decide +kernel

theorem systemEntry_accepts : systemEntry.accepts "GET" "/api/system/" = some [] := by
  decide +kernel

theorem scrubbed_iff_canonical_status :
    sentBody true true "/api/connectors/hue-1/status" rootUser =
      sentBody true true (fillPattern "/api/connectors/:id/status" [("id", "hue-1")]) rootUser :=
  (scrubbed_iff_canonical (by decide) statusEntry_accepts (by decide)).mpr (by decide +kernel)
    rootUser

/-- Express takes a trailing slash and the guard drops it; the scrubber compares it. -/
theorem trailing_slash_unscrubbed :
    (matchPolicy demoPolicy "GET" "/api/system/").isSome = true ∧
      systemEntry.accepts "GET" "/api/system/" = some [] ∧
      fillPattern systemEntry.pattern [] = "/api/system" ∧
      sentBody true true "/api/system/" (.obj [("hostname", .str "demo-box")]) =
        .obj [("hostname", .str "demo-box")] ∧
      sentBody true true "/api/system" (.obj [("hostname", .str "demo-box")]) =
        .obj [("hostname", .str "•••")] ∧
      sentBody true true "/api/system/" (.obj [("hostname", .str "demo-box")]) ≠
        sentBody true true "/api/system" (.obj [("hostname", .str "demo-box")]) := by
  refine ⟨matchPolicy_admits (by decide) systemEntry_accepts, systemEntry_accepts,
    by decide +kernel, rfl, rfl, fun same => ?_⟩
  have masked : (Json.obj [("hostname", .str "demo-box")]) = .obj [("hostname", .str "•••")] := same
  simp at masked

end Aeolus.Demo
