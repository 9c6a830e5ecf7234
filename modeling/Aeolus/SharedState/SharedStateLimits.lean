/-
# Aeolus.SharedState.SharedStateLimits — which names and trigger patterns are accepted

`validateSharedStateName` and `validateSharedStatePattern` of
`src/shared-state/shared-state-limits.ts`.  The result is the reason of a refusal;
`none` accepts.
-/
import Aeolus.Core.Text

namespace Aeolus.SharedState

open Aeolus.Core

def maxSharedStateNameLength : Nat := 200

def validateSharedStateName (label name : String) : Option String :=
  if name = "" then some s!"{label} is required"
  else if utf16Length name > maxSharedStateNameLength then
    some s!"{label} exceeds 200 characters"
  else if name.toList.any fun c => c = '/' || c = '+' || c = '#' then
    some s!"{label} may not contain '/', '+' or '#'"
  else if name = "." ∨ name = ".." then some s!"{label} may not be '.' or '..'"
  else if name.toList.any fun c => c.val ≤ 0x1f || c.val = 0x7f then
    some s!"{label} may not contain control characters"
  else none

/-- One segment of a pattern, at position `i` of `count`. -/
def validateSegment (count i : Nat) (segment : String) : Option String :=
  if segment = "" then some "Shared State trigger pattern may not contain an empty segment"
  else if segment = "#" then
    if i + 1 = count then none
    else some "'#' may only appear as the final segment of a Shared State trigger pattern"
  else if segment = "+" then none
  else if segment.toList.any fun c => c = '+' || c = '#' then
    some "'+' and '#' must be whole segments in a Shared State trigger pattern"
  else validateSharedStateName (if i = 0 then "bucket" else "key") segment

def validateSharedStatePattern (pattern : String) : Option String :=
  if trim pattern = "" then some "Shared State trigger pattern is required"
  else if pattern ≠ trim pattern then
    some "Shared State trigger pattern may not have leading or trailing whitespace"
  else
    let segments := split pattern '/'
    if segments.length > 2 then
      some "Shared State trigger pattern may have at most two segments (<bucket>/<key>)"
    else
      segments.zipIdx.findSome? fun entry => validateSegment segments.length entry.2 entry.1

example : validateSharedStatePattern "bunker-summary/#" = none := by decide

end Aeolus.SharedState
