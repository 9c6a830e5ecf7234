/-
# Aeolus.Security.OutboundHttp — which addresses authored HTTP may reach

`parseIpv4` to `isPublicIpAddress` of `src/security/outbound-http.ts`.  `Number` and Node's
`isIP` are parameters.  A text is worked on as the list of its characters.

The expression `/::ffff:(\d+\.\d+\.\d+\.\d+)$/` is `mappedQuad`, which looks at the last
three colons; `mappedQuad_eq_some` says that it is that expression.  Nothing ties its match
to the start of the text.
-/
import Mathlib.Data.Rat.Defs
import Aeolus.Core.Text

namespace Aeolus.Security

open Aeolus.Core

/-! ## IPv4 -/

/-- A number that is an octet. -/
def octet (part : ℚ) : Option Nat :=
  if part.den = 1 ∧ 0 ≤ part.num ∧ part.num ≤ 255 then some part.num.toNat else none

/-- `Number(part)` is none for `NaN` and the infinities, which are no integers. -/
def parseIpv4 (number : String → Option ℚ) (address : String) : Option (List Nat) :=
  let parts := split address '.'
  if parts.length ≠ 4 then none else parts.mapM fun part => (number part).bind octet

def publicOctets (a b c : Nat) : Bool :=
  if a = 0 ∨ a = 10 ∨ a = 127 then false
  else if a = 100 ∧ 64 ≤ b ∧ b ≤ 127 then false -- carrier-grade NAT
  else if a = 169 ∧ b = 254 then false -- link-local, metadata
  else if a = 172 ∧ 16 ≤ b ∧ b ≤ 31 then false
  else if a = 192 ∧ b = 168 then false
  else if a = 192 ∧ b = 0 ∧ c = 0 then false -- IETF protocol assignments
  else if a = 192 ∧ b = 0 ∧ c = 2 then false -- documentation
  else if a = 198 ∧ (b = 18 ∨ b = 19) then false -- benchmark networks
  else if a = 198 ∧ b = 51 ∧ c = 100 then false -- documentation
  else if a = 203 ∧ b = 0 ∧ c = 113 then false -- documentation
  else if 224 ≤ a then false -- multicast, reserved, broadcast
  else true

def isPublicIpv4 (number : String → Option ℚ) (address : String) : Bool :=
  match parseIpv4 number address with
  | some (a :: b :: c :: _) => publicOctets a b c
  | _ => false

/-! ## IPv6 -/

/-- `address.replace(/^\[|\]$/g, "")` -/
def stripBrackets (address : List Char) : List Char :=
  let tail := if address.head? = some '[' then address.tail else address
  if tail.getLast? = some ']' then tail.dropLast else tail

/-- Lower case, without brackets and without a zone. -/
def normalize (address : List Char) : List Char :=
  (stripBrackets (address.map Char.toLower)).takeWhile (· ≠ '%')

/-- `text.split("::")` -/
def splitDouble : List Char → List (List Char)
  | [] => [[]]
  | [c] => [[c]]
  | c :: d :: rest =>
      if c = ':' ∧ d = ':' then [] :: splitDouble rest
      else (splitDouble (d :: rest)).modifyHead (c :: ·)

/-- `half ? half.split(":") : []` -/
def groupsOf (half : List Char) : List (List Char) :=
  if half = [] then [] else half.splitOn ':'

def isHexGroup (part : List Char) : Bool :=
  1 ≤ part.length && part.length ≤ 4 &&
    part.all fun c => ('0' ≤ c && c ≤ '9') || ('a' ≤ c && c ≤ 'f')

/-- The value of a hexadecimal digit of either case. -/
def hexValue (c : Char) : Nat :=
  if c.isDigit then c.toNat - '0'.toNat else c.toLower.toNat - 'a'.toNat + 10

/-- `Number.parseInt(part, 16)` of a group -/
def parseHex (part : List Char) : Nat := part.foldl (fun value c => value * 16 + hexValue c) 0

/-- The loop over the eight parts. -/
def groupsValue (parts : List (List Char)) : Option Nat :=
  parts.foldlM (fun value part =>
    if isHexGroup part then some (value <<< 16 ||| parseHex part) else none) 0

def parseIpv6BigInt (address : List Char) : Option Nat :=
  let normalized := normalize address
  if '.' ∈ normalized then none -- dotted forms are handled separately
  else
    match splitDouble normalized with
    | [whole] =>
        let left := groupsOf whole
        if left.length ≠ 8 then none else groupsValue left
    | [first, second] =>
        let left := groupsOf first
        let right := groupsOf second
        -- the missing groups are at least one
        if 8 < left.length + right.length + 1 then none
        else
          let missing := 8 - left.length - right.length
          groupsValue (left ++ List.replicate missing ['0'] ++ right)
    | _ => none

def ipv6InCidr (value base prefixBits : Nat) : Bool :=
  value >>> (128 - prefixBits) = base >>> (128 - prefixBits)

def isQuadShape (part : List Char) : Bool :=
  let parts := part.splitOn '.'
  parts.length = 4 && parts.all fun digits => digits ≠ [] && digits.all Char.isDigit

/-- `normalized.match(/::ffff:(\d+\.\d+\.\d+\.\d+)$/)` -/
def mappedQuad (normalized : List Char) : Option (List Char) :=
  match (normalized.splitOn ':').reverse with
  | quad :: ffff :: [] :: _ :: _ =>
      if ffff = "ffff".toList ∧ isQuadShape quad then some quad else none
  | _ => none

def blockedIpv6 : List (Nat × Nat) :=
  [(0x20010000000000000000000000000000, 23), -- IETF protocol assignments
    (0x20010db8000000000000000000000000, 32), -- documentation
    (0x20020000000000000000000000000000, 16), -- deprecated 6to4 transition space
    (0x3fff0000000000000000000000000000, 20)] -- documentation

def publicIpv6Value (value : Nat) : Bool :=
  ipv6InCidr value 0x20000000000000000000000000000000 3 &&
    !blockedIpv6.any fun block => ipv6InCidr value block.1 block.2

def isPublicIpv6 (number : String → Option ℚ) (address : String) : Bool :=
  let normalized := normalize address.toList
  match mappedQuad normalized with
  | some quad => isPublicIpv4 number (String.ofList quad)
  | none => ((parseIpv6BigInt normalized).map publicIpv6Value).getD false

def isPublicIpAddress (number : String → Option ℚ) (isIP : String → Nat) (address : String) :
    Bool :=
  let family := isIP (String.ofList (stripBrackets address.toList))
  if family = 4 then isPublicIpv4 number address
  else if family = 6 then isPublicIpv6 number address
  else false

/-! ## The expression of the mapped form -/

/-- The quad at the end is preceded by `::ffff:`, wherever that stands. -/
theorem mappedQuad_eq_some {normalized quad : List Char} : mappedQuad normalized = some quad ↔
    isQuadShape quad = true ∧ ':' ∉ quad ∧
      ∃ before, normalized = before ++ "::ffff:".toList ++ quad := by
  have whole : [':'].intercalate (normalized.splitOn ':') = normalized :=
    List.intercalate_splitOn ':'
  constructor
  · intro matched
    unfold mappedQuad at matched
    split at matched
    · next last ffff first rest reversed =>
        split at matched
        · next shape =>
            cases matched
            have parts : normalized.splitOn ':' =
                (rest.reverse ++ [first]) ++ [[], ffff, quad] := by
              have back := congrArg List.reverse reversed
              simpa using back
            have member : quad ∈ normalized.splitOn ':' := by simp [parts]
            refine ⟨shape.2, (mem_splitOn member).1,
              [':'].intercalate (rest.reverse ++ [first]), ?_⟩
            rw [← whole, parts, intercalate_append (by simp) (by simp), shape.1]
            simp
        · cases matched
    · cases matched
  · rintro ⟨shape, plain, before, rfl⟩
    have parts : (before ++ "::ffff:".toList ++ quad).splitOn ':' =
        before.splitOn ':' ++ [[], "ffff".toList, quad] := by
      have single : quad.splitOn ':' = [quad] := List.splitOn_eq_singleton plain
      have colons : before ++ "::ffff:".toList ++ quad =
          before ++ ':' :: ([] ++ ':' :: ("ffff".toList ++ ':' :: quad)) := by simp
      have group : "ffff".toList.splitOn ':' = ["ffff".toList] := by decide
      rw [colons, splitOn_append, splitOn_append, splitOn_append, single, group]
      rfl
    obtain ⟨last, init, reversed⟩ : ∃ last init, (before.splitOn ':').reverse = last :: init :=
      List.exists_cons_of_ne_nil (by simp [List.splitOn_ne_nil])
    rw [mappedQuad, parts, List.reverse_append, reversed]
    simp [shape]

end Aeolus.Security
