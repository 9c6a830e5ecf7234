/-
# Aeolus.Security.AddressSpelling — how an address is written, and what it denotes

The texts that are addresses (`Spelling`): a dotted quad of decimals without leading zeros,
or eight groups of one to four hexadecimal digits of either case, of which one run may be
left out as `::`, the last two may be written as a dotted quad, and which a zone may follow.
A spelling denotes a number of 32 or of 128 bits.

`globalAddress` is what the filter is for, said of the number alone: it lies in none of the
ranges that are not global, and one of `::ffff:0:0/96` is judged by its last 32 bits.
-/
import Mathlib.Algebra.Group.Nat.Defs
import Aeolus.Security.OutboundHttp

namespace Aeolus.Security

open Aeolus.Core

/-! ## Spellings -/

/-- The decimal text of an octet. -/
def octetText (octet : Fin 256) : List Char := Nat.toDigits 10 octet.val

structure Quad where
  a : Fin 256
  b : Fin 256
  c : Fin 256
  d : Fin 256
  deriving DecidableEq

namespace Quad

def parts (quad : Quad) : List (List Char) := [quad.a, quad.b, quad.c, quad.d].map octetText

def text (quad : Quad) : List Char := ['.'].intercalate quad.parts

/-- The number of 32 bits. -/
def value (quad : Quad) : Nat := ((quad.a * 256 + quad.b) * 256 + quad.c) * 256 + quad.d

/-- The two groups of 16 bits that it stands for. -/
def groups (quad : Quad) : List Nat := [quad.a * 256 + quad.b, quad.c * 256 + quad.d]

end Quad

def hexDigits : List Char := "0123456789abcdefABCDEF".toList

structure HexGroup where
  digits : List Char
  nonempty : digits ≠ []
  short : digits.length ≤ 4
  hex : ∀ c ∈ digits, c ∈ hexDigits

def HexGroup.value (group : HexGroup) : Nat := parseHex group.digits

def zoneChars : List Char :=
  "0123456789abcdefghijklmnopqrstuvwxyzABCDEFGHIJKLMNOPQRSTUVWXYZ-.:".toList

structure Zone where
  letters : List Char
  nonempty : letters ≠ []
  allowed : ∀ c ∈ letters, c ∈ zoneChars

/-- `right` holds the groups after `::`, if there is one; it stands for one group or more. -/
structure Ipv6Spelling where
  left : List HexGroup
  right : Option (List HexGroup)
  quad : Option Quad
  zone : Option Zone
  complete : match right with
    | none => left.length + 2 * quad.toList.length = 8
    | some right => left.length + right.length + 2 * quad.toList.length ≤ 7

namespace Ipv6Spelling

/-- The text without the zone. -/
def body (s : Ipv6Spelling) : List Char :=
  let left := s.left.map HexGroup.digits
  let quad := s.quad.toList.map Quad.text
  match s.right with
  | none => [':'].intercalate (left ++ quad)
  | some right =>
      [':'].intercalate left ++ "::".toList ++
        [':'].intercalate (right.map HexGroup.digits ++ quad)

def text (s : Ipv6Spelling) : List Char :=
  s.body ++ (s.zone.map fun zone => '%' :: zone.letters).getD []

/-- The eight groups of 16 bits. -/
def groups (s : Ipv6Spelling) : List Nat :=
  let left := s.left.map HexGroup.value
  let right := (s.right.getD []).map HexGroup.value ++ s.quad.toList.flatMap Quad.groups
  left ++ List.replicate (8 - left.length - right.length) 0 ++ right

/-- The number of 128 bits. -/
def value (s : Ipv6Spelling) : Nat := s.groups.foldl (fun value group => value * 65536 + group) 0

end Ipv6Spelling

inductive Spelling
  | v4 (quad : Quad)
  | v6 (spelling : Ipv6Spelling)

inductive Address
  | v4 (value : Nat)
  | v6 (value : Nat)
  deriving DecidableEq

namespace Spelling

def text : Spelling → String
  | .v4 quad => String.ofList quad.text
  | .v6 spelling => String.ofList spelling.text

/-- The address that is denoted. -/
def address : Spelling → Address
  | .v4 quad => .v4 quad.value
  | .v6 spelling => .v6 spelling.value

end Spelling

/-- What Node documents of `isIP`: the family of a text that is an address. -/
structure IsIPExact (isIP : String → Nat) : Prop where
  four : ∀ text, isIP text = 4 ↔ ∃ quad, text = (Spelling.v4 quad).text
  six : ∀ text, isIP text = 6 ↔ ∃ spelling, text = (Spelling.v6 spelling).text

/-! ## Ranges -/

/-- A number of `width` bits has the first `bits` bits of `base`. -/
def inRange (width value : Nat) (range : Nat × Nat) : Bool :=
  value / 2 ^ (width - range.2) = range.1 / 2 ^ (width - range.2)

def nonGlobalIpv4 : List (Nat × Nat) :=
  [(0x00000000, 8), -- this network
    (0x0a000000, 8), -- private
    (0x7f000000, 8), -- loopback
    (0x64400000, 10), -- carrier-grade NAT
    (0xa9fe0000, 16), -- link-local
    (0xac100000, 12), -- private
    (0xc0a80000, 16), -- private
    (0xc0000000, 24), -- IETF protocol assignments
    (0xc0000200, 24), -- documentation
    (0xc6120000, 15), -- benchmark networks
    (0xc6336400, 24), -- documentation
    (0xcb007100, 24), -- documentation
    (0xe0000000, 3)] -- multicast, reserved, broadcast

def globalIpv4 (value : Nat) : Bool := !nonGlobalIpv4.any (inRange 32 value)

/-- Global unicast is `2000::/3`; some ranges of it are not global. -/
def nonGlobalIpv6 : List (Nat × Nat) :=
  [(0x20010000000000000000000000000000, 23), -- IETF protocol assignments
    (0x20010db8000000000000000000000000, 32), -- documentation
    (0x20020000000000000000000000000000, 16), -- 6to4
    (0x3fff0000000000000000000000000000, 20)] -- documentation

def globalIpv6 (value : Nat) : Bool :=
  inRange 128 value (0x20000000000000000000000000000000, 3) &&
    !nonGlobalIpv6.any (inRange 128 value)

/-- `::ffff:0:0/96` -/
def isMapped (value : Nat) : Bool := inRange 128 value (0xffff00000000, 96)

def globalAddress : Address → Bool
  | .v4 value => globalIpv4 value
  | .v6 value => if isMapped value then globalIpv4 (value % 2 ^ 32) else globalIpv6 value

end Aeolus.Security
