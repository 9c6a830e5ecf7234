/-
# Aeolus.Security.AddressFilter — when the outbound address filter judges rightly

`isPublicIpAddress` decides by the text of an address, `globalAddress` by the number that
the text denotes.  For dotted quads they agree (`isPublicIpv4_quad`), for groups they agree
up to the mapped range (`isPublicIpv6_groups`).  Of the texts that end in a quad only those
with `::ffff:` right before it are judged at all, and these by the quad alone, whatever
stands before (`isPublicIpv6_mapped`, `isPublicIpv6_dotted`).

`isPublicIpAddress_exact_iff` puts the three together (`JudgedRightly`).

Pole: `linkLocal_is_public` (`fe80::ffff:8.8.8.8` passes).
-/
import Mathlib.Data.Bool.AllAny
import Aeolus.Security.AddressSpelling

namespace Aeolus.Security

open Aeolus.Core

/-- The characters that a text has when its zone is gone. -/
def bodyChars : List Char := "0123456789abcdef:.".toList

def decimalDigits : List Char := ['0', '1', '2', '3', '4', '5', '6', '7', '8', '9']

/-! ## Dotted quads -/

theorem octetText_spec (octet : Fin 256) :
    octetText octet ≠ [] ∧ ∀ c ∈ octetText octet, c ∈ decimalDigits := by
  have checked : (List.finRange 256).all (fun octet =>
      octetText octet ≠ [] ∧ (octetText octet).all (· ∈ decimalDigits)) = true := by
    decide +kernel
  have here := List.all_eq_true.mp checked octet (List.mem_finRange octet)
  obtain ⟨nonempty, digits⟩ := of_decide_eq_true here
  exact ⟨nonempty, List.all_iff_forall_prop.mp digits⟩

theorem inRange_of_div {width value bits m : Nat} (same : value / 2 ^ (width - bits) = m)
    (base : Nat) : inRange width value (base, bits) = decide (m = base / 2 ^ (width - bits)) := by
  rw [inRange, same]

theorem three_octets_eq_iff {a b c : Nat} (hb : b < 256) (hc : c < 256) (x : Nat) {y z : Nat}
    (hy : y < 256) (hz : z < 256) :
    (a * 256 + b) * 256 + c = (x * 256 + y) * 256 + z ↔ a = x ∧ b = y ∧ c = z := by
  omega

/-- The tests of the octets are the ranges. -/
theorem publicOctets_eq (quad : Quad) :
    publicOctets quad.a quad.b quad.c = globalIpv4 quad.value := by
  obtain ⟨⟨a, ha⟩, ⟨b, hb⟩, ⟨c, hc⟩, ⟨d, hd⟩⟩ := quad
  simp only
  generalize whole : Quad.value ⟨⟨a, ha⟩, ⟨b, hb⟩, ⟨c, hc⟩, ⟨d, hd⟩⟩ = value
  simp only [Quad.value] at whole
  -- the first bits of the number
  have bits3 : value / 2 ^ (32 - 3) = a / 32 := by omega
  have bits8 : value / 2 ^ (32 - 8) = a := by omega
  have bits10 : value / 2 ^ (32 - 10) = a * 4 + b / 64 := by omega
  have bits12 : value / 2 ^ (32 - 12) = a * 16 + b / 16 := by omega
  have bits15 : value / 2 ^ (32 - 15) = a * 128 + b / 2 := by omega
  have bits16 : value / 2 ^ (32 - 16) = a * 256 + b := by omega
  have bits24 : value / 2 ^ (32 - 24) = (a * 256 + b) * 256 + c := by omega
  -- what they come to, range by range
  have multicast : a / 32 = 7 ↔ 224 ≤ a := by omega
  have carrier : a * 4 + b / 64 = 401 ↔ a = 100 ∧ 64 ≤ b ∧ b ≤ 127 := by omega
  have middle : a * 16 + b / 16 = 2753 ↔ a = 172 ∧ 16 ≤ b ∧ b ≤ 31 := by omega
  have benchmark : a * 128 + b / 2 = 25353 ↔ a = 198 ∧ (b = 18 ∨ b = 19) := by omega
  have link : a * 256 + b = 43518 ↔ a = 169 ∧ b = 254 := by omega
  have home : a * 256 + b = 49320 ↔ a = 192 ∧ b = 168 := by omega
  have protocol := three_octets_eq_iff hb hc 192 (y := 0) (z := 0) (by omega) (by omega) (a := a)
  have first := three_octets_eq_iff hb hc 192 (y := 0) (z := 2) (by omega) (by omega) (a := a)
  have second := three_octets_eq_iff hb hc 198 (y := 51) (z := 100) (by omega) (by omega) (a := a)
  have third := three_octets_eq_iff hb hc 203 (y := 0) (z := 113) (by omega) (by omega) (a := a)
  simp only [Nat.reduceMul, Nat.reduceAdd] at protocol first second third
  simp only [publicOctets, globalIpv4, nonGlobalIpv4, List.any_cons, List.any_nil,
    inRange_of_div bits3, inRange_of_div bits8, inRange_of_div bits10, inRange_of_div bits12,
    inRange_of_div bits15, inRange_of_div bits16, inRange_of_div bits24, Nat.reduceSub,
    Nat.reducePow, Nat.reduceDiv, multicast, carrier, middle, benchmark, link, home, protocol,
    first, second, third]
  simp [Bool.if_false_left, Bool.and_assoc]

theorem digit_chars {c : Char} (digit : c ∈ decimalDigits) :
    c.isDigit = true ∧ c.toLower = c ∧ c ≠ '.' ∧ c ≠ ':' ∧ c ∈ bodyChars := by
  revert c
  simp only [← List.all_iff_forall_prop]
  decide

theorem mem_quad_parts {quad : Quad} {part : List Char} (member : part ∈ quad.parts) :
    part ≠ [] ∧ ∀ c ∈ part, c ∈ decimalDigits := by
  obtain ⟨octet, -, rfl⟩ := List.mem_map.mp member
  exact octetText_spec octet

theorem splitOn_quad_text (quad : Quad) : quad.text.splitOn '.' = quad.parts := by
  apply List.splitOn_intercalate
  · intro part member dot
    exact (digit_chars ((mem_quad_parts member).2 '.' dot)).2.2.1 rfl
  · simp [Quad.parts]

/-- Digits and dots. -/
theorem mem_quad_text {quad : Quad} {c : Char} (member : c ∈ quad.text) :
    c = '.' ∨ c ∈ decimalDigits := by
  obtain dot | ⟨part, listed, here⟩ := mem_intercalate member
  · exact .inl dot
  · exact .inr ((mem_quad_parts listed).2 c here)

theorem isQuadShape_text (quad : Quad) : isQuadShape quad.text = true := by
  simp only [isQuadShape, splitOn_quad_text, Bool.and_eq_true, decide_eq_true_eq, List.all_eq_true]
  refine ⟨rfl, fun part member => ?_⟩
  obtain ⟨nonempty, digits⟩ := mem_quad_parts member
  exact ⟨by simpa using nonempty, fun c here => (digit_chars (digits c here)).1⟩

/-- `Number` reads the decimals of the octets. -/
def ReadsOctets (number : String → Option ℚ) : Prop :=
  ∀ octet : Fin 256, number (toString octet.val) = some (octet.val : ℚ)

theorem octet_of_lt (octet : Fin 256) : Security.octet (octet.val : ℚ) = some octet.val := by
  have bound : (octet.val : Int) ≤ 255 := by have := octet.isLt; omega
  simp [Security.octet, bound]

/-- **Dotted quads** are judged by the ranges. -/
theorem isPublicIpv4_quad {number : String → Option ℚ} (reads : ReadsOctets number) (quad : Quad) :
    isPublicIpv4 number (String.ofList quad.text) = globalIpv4 quad.value := by
  have parsed : parseIpv4 number (String.ofList quad.text) =
      some [quad.a.val, quad.b.val, quad.c.val, quad.d.val] := by
    have parts : split (String.ofList quad.text) '.' = quad.parts.map String.ofList := by
      rw [split, String.toList_ofList, splitOn_quad_text]
    have each (octet : Fin 256) :
        (number (String.ofList (octetText octet))).bind Security.octet = some octet.val := by
      rw [octetText, ← Nat.repr_eq_ofList_toDigits]
      exact (congrArg (Option.bind · _) (reads octet)).trans (octet_of_lt octet)
    rw [parseIpv4, parts]
    simp [Quad.parts, each]
  rw [isPublicIpv4, parsed]
  exact publicOctets_eq quad

/-! ## Groups in lower case -/

theorem hexDigit_lower {c : Char} (hex : c ∈ hexDigits) :
    c.toLower ∈ "0123456789abcdef".toList ∧ hexValue c.toLower = hexValue c ∧ hexValue c < 16 := by
  revert c
  simp only [← List.all_iff_forall_prop]
  decide

theorem lower_digit {c : Char} (lower : c ∈ "0123456789abcdef".toList) :
    (('0' ≤ c && c ≤ '9') || ('a' ≤ c && c ≤ 'f')) = true ∧ c ≠ ':' ∧ c ≠ '.' ∧
      c ∈ bodyChars := by
  revert c
  simp only [← List.all_iff_forall_prop]
  decide

theorem bodyChar {c : Char} (member : c ∈ bodyChars) :
    c ≠ '[' ∧ c ≠ ']' ∧ c ≠ '%' ∧ c.toLower = c := by
  revert c
  simp only [← List.all_iff_forall_prop]
  decide

def lowerGroup (group : HexGroup) : List Char := group.digits.map Char.toLower

theorem lowerGroup_ne_nil (group : HexGroup) : lowerGroup group ≠ [] := by
  simpa [lowerGroup] using group.nonempty

theorem mem_lowerGroup {group : HexGroup} {c : Char} (member : c ∈ lowerGroup group) :
    c ∈ "0123456789abcdef".toList := by
  obtain ⟨upper, listed, rfl⟩ := List.mem_map.mp member
  exact (hexDigit_lower (group.hex upper listed)).1

theorem isHexGroup_lowerGroup (group : HexGroup) : isHexGroup (lowerGroup group) = true := by
  have some : 1 ≤ group.digits.length := List.length_pos_iff.mpr group.nonempty
  simp only [isHexGroup, Bool.and_eq_true, decide_eq_true_eq, List.all_eq_true]
  refine ⟨⟨by simpa [lowerGroup] using some, by simpa [lowerGroup] using group.short⟩, ?_⟩
  intro c member
  exact (lower_digit (mem_lowerGroup member)).1

theorem parseHex_lowerGroup (group : HexGroup) : parseHex (lowerGroup group) = group.value := by
  have hex := group.hex
  rw [HexGroup.value, lowerGroup, parseHex, parseHex]
  generalize 0 = start
  generalize group.digits = digits at hex
  induction digits generalizing start with
  | nil => rfl
  | cons c digits ih =>
      rw [List.map_cons, List.foldl_cons, List.foldl_cons,
        (hexDigit_lower (hex c List.mem_cons_self)).2.1]
      exact ih _ fun c' later => hex c' (List.mem_cons_of_mem _ later)

theorem parseHex_lt (group : HexGroup) : group.value < 65536 := by
  have bound : ∀ (digits : List Char) (start : Nat), (∀ c ∈ digits, c ∈ hexDigits) →
      digits.foldl (fun value c => value * 16 + hexValue c) start <
        (start + 1) * 16 ^ digits.length := by
    intro digits
    induction digits with
    | nil => intro start _; simp
    | cons c digits ih =>
        intro start hex
        have here := (hexDigit_lower (hex c List.mem_cons_self)).2.2
        have later := ih (start * 16 + hexValue c) fun c' l => hex c' (List.mem_cons_of_mem _ l)
        rw [List.foldl_cons, List.length_cons, Nat.pow_succ]
        refine Nat.lt_of_lt_of_le later ?_
        calc (start * 16 + hexValue c + 1) * 16 ^ digits.length
            ≤ ((start + 1) * 16) * 16 ^ digits.length := Nat.mul_le_mul_right _ (by omega)
          _ = (start + 1) * (16 ^ digits.length * 16) := by
            rw [Nat.mul_assoc, Nat.mul_comm 16]
  have within := bound group.digits 0 group.hex
  have most : 16 ^ group.digits.length ≤ 16 ^ 4 := Nat.pow_le_pow_right (by omega) group.short
  rw [HexGroup.value, parseHex]
  omega

/-- The text in lower case. -/
def lowerBody (s : Ipv6Spelling) : List Char :=
  let left := s.left.map lowerGroup
  let quad := s.quad.toList.map Quad.text
  match s.right with
  | none => [':'].intercalate (left ++ quad)
  | some right =>
      [':'].intercalate left ++ "::".toList ++ [':'].intercalate (right.map lowerGroup ++ quad)

theorem quad_text_lower (quad : Quad) : quad.text.map Char.toLower = quad.text := by
  have same : ∀ c ∈ quad.text, c.toLower = id c := by
    intro c member
    obtain rfl | digit := mem_quad_text member
    · decide
    · exact (digit_chars digit).2.1
  rw [List.map_congr_left same, List.map_id]

theorem body_lower (s : Ipv6Spelling) : s.body.map Char.toLower = lowerBody s := by
  have groups (l : List HexGroup) :
      (l.map HexGroup.digits).map (List.map Char.toLower) = l.map lowerGroup := by
    rw [List.map_map]
    rfl
  have quads : (s.quad.toList.map Quad.text).map (List.map Char.toLower) =
      s.quad.toList.map Quad.text := by
    rw [List.map_map]
    exact List.map_congr_left fun quad _ => quad_text_lower quad
  have colon : Char.toLower ':' = ':' := by decide
  unfold Ipv6Spelling.body lowerBody
  cases s.right with
  | none => simp only [map_intercalate, colon, List.map_append, groups, quads]
  | some right =>
      simp only [map_intercalate, colon, List.map_append, groups, quads]
      rfl

/-! ## What is left of the text -/

theorem mem_lowerBody {s : Ipv6Spelling} {c : Char} (member : c ∈ lowerBody s) :
    c ∈ bodyChars := by
  have group (l : List HexGroup) (part : List Char) (listed : part ∈ l.map lowerGroup)
      (here : c ∈ part) : c ∈ bodyChars := by
    obtain ⟨group, -, rfl⟩ := List.mem_map.mp listed
    exact (lower_digit (mem_lowerGroup here)).2.2.2
  have quad (part : List Char) (listed : part ∈ s.quad.toList.map Quad.text) (here : c ∈ part) :
      c ∈ bodyChars := by
    obtain ⟨quad, -, rfl⟩ := List.mem_map.mp listed
    obtain rfl | digit := mem_quad_text here
    · decide
    · exact (digit_chars digit).2.2.2.2
  have joined (l : List HexGroup) (here : c ∈ [':'].intercalate
      (l.map lowerGroup ++ s.quad.toList.map Quad.text)) : c ∈ bodyChars := by
    obtain rfl | ⟨part, listed, inside⟩ := mem_intercalate here
    · decide
    · rcases List.mem_append.mp listed with early | late
      · exact group l part early inside
      · exact quad part late inside
  unfold lowerBody at member
  cases right : s.right with
  | none =>
      rw [right] at member
      exact joined s.left member
  | some groups =>
      rw [right] at member
      simp only [List.mem_append] at member
      rcases member with (first | colons) | last
      · obtain rfl | ⟨part, listed, inside⟩ := mem_intercalate first
        · decide
        · exact group s.left part listed inside
      · have same : c = ':' := by simpa using colons
        rw [same]
        decide
      · exact joined groups last

theorem stripBrackets_eq {text : List Char} (plain : ∀ c ∈ text, c ≠ '[' ∧ c ≠ ']') :
    stripBrackets text = text := by
  have head : text.head? ≠ some '[' := fun first =>
    (plain '[' (List.mem_of_mem_head? first)).1 rfl
  have last : text.getLast? ≠ some ']' := fun final =>
    (plain ']' (List.mem_of_getLast? final)).2 rfl
  simp only [stripBrackets, if_neg head, if_neg last]

theorem normalize_eq {text : List Char} (plain : ∀ c ∈ text, c ∈ bodyChars) :
    normalize text = text := by
  have lower : text.map Char.toLower = text := by
    have same : ∀ c ∈ text, c.toLower = id c := fun c member => (bodyChar (plain c member)).2.2.2
    rw [List.map_congr_left same, List.map_id]
  have strip : stripBrackets text = text := stripBrackets_eq fun c member =>
    ⟨(bodyChar (plain c member)).1, (bodyChar (plain c member)).2.1⟩
  rw [normalize, lower, strip, List.takeWhile_eq_self_iff]
  intro c member
  simpa using (bodyChar (plain c member)).2.2.1

theorem zoneChar {c : Char} (zone : c ∈ zoneChars) :
    (c ≠ '[' ∧ c ≠ ']') ∧ c.toLower ≠ '[' ∧ c.toLower ≠ ']' := by
  revert c
  simp only [← List.all_iff_forall_prop]
  decide

theorem text_lower (s : Ipv6Spelling) : s.text.map Char.toLower =
    lowerBody s ++ (s.zone.map fun zone => '%' :: zone.letters.map Char.toLower).getD [] := by
  have percent : Char.toLower '%' = '%' := by decide
  rw [Ipv6Spelling.text, List.map_append, body_lower]
  cases s.zone <;> simp [percent]

/-- Neither case has a bracket in it. -/
theorem text_plain (s : Ipv6Spelling) :
    (∀ c ∈ s.text, c ≠ '[' ∧ c ≠ ']') ∧ ∀ c ∈ s.text.map Char.toLower, c ≠ '[' ∧ c ≠ ']' := by
  have lower : ∀ c ∈ s.text, c.toLower ≠ '[' ∧ c.toLower ≠ ']' := by
    intro c member
    rcases List.mem_append.mp member with inBody | inZone
    · have listed : c.toLower ∈ lowerBody s := by
        rw [← body_lower]
        exact List.mem_map_of_mem inBody
      have plain := bodyChar (mem_lowerBody listed)
      exact ⟨plain.1, plain.2.1⟩
    · cases zone : s.zone with
      | none => simp [zone] at inZone
      | some z =>
          simp only [zone, Option.map_some, Option.getD_some, List.mem_cons] at inZone
          obtain rfl | letter := inZone
          · decide
          · exact (zoneChar (z.allowed c letter)).2
  refine ⟨fun c member => ?_, fun c member => ?_⟩
  · have away := lower c member
    refine ⟨?_, ?_⟩ <;> rintro rfl
    · exact away.1 (by decide)
    · exact away.2 (by decide)
  · obtain ⟨upper, listed, rfl⟩ := List.mem_map.mp member
    exact lower upper listed

/-- Brackets are not there, and the zone goes. -/
theorem normalize_text (s : Ipv6Spelling) : normalize s.text = lowerBody s := by
  have letters : ∀ c ∈ lowerBody s, decide (c ≠ '%') = true := fun c member =>
    decide_eq_true (bodyChar (mem_lowerBody member)).2.2.1
  rw [normalize, stripBrackets_eq (text_plain s).2, text_lower]
  cases s.zone with
  | none =>
      rw [Option.map_none, Option.getD_none, List.append_nil, List.takeWhile_eq_self_iff]
      exact letters
  | some zone =>
      rw [List.takeWhile_append_of_pos letters]
      simp

/-! ## Splitting -/

theorem splitDouble_cons_of_ne {c : Char} (plain : c ≠ ':') (text : List Char) :
    splitDouble (c :: text) = (splitDouble text).modifyHead (c :: ·) := by
  cases text with
  | nil => rfl
  | cons d rest =>
      rw [splitDouble, if_neg fun both => plain both.1]

theorem splitDouble_colon_of_ne {c : Char} (plain : c ≠ ':') (text : List Char) :
    splitDouble (':' :: c :: text) = (splitDouble (c :: text)).modifyHead (':' :: ·) := by
  rw [splitDouble, if_neg fun both => plain both.2]

theorem splitDouble_append {group : List Char} (plain : ':' ∉ group) (text : List Char) :
    splitDouble (group ++ text) = (splitDouble text).modifyHead (group ++ ·) := by
  induction group with
  | nil =>
      obtain ⟨head, tail, parts⟩ : ∃ head tail, splitDouble text = head :: tail := by
        apply List.exists_cons_of_ne_nil
        fun_induction splitDouble text <;> simp_all [List.modifyHead_eq_nil_iff]
      simp [parts]
  | cons c group ih =>
      obtain ⟨here, later⟩ := not_or.mp (mt List.mem_cons.mpr plain)
      rw [List.cons_append, splitDouble_cons_of_ne (Ne.symm here), ih later,
        List.modifyHead_modifyHead]
      rfl

/-- Groups that are not empty have no `::` between them, and end in no colon. -/
theorem splitDouble_joined {groups : List (List Char)}
    (plain : ∀ group ∈ groups, group ≠ [] ∧ ':' ∉ group) {text : List Char}
    {parts : List (List Char)} (next : splitDouble text = [] :: parts) :
    splitDouble ([':'].intercalate groups ++ text) = [':'].intercalate groups :: parts := by
  induction groups with
  | nil => simpa using next
  | cons group groups ih =>
      have here := plain group List.mem_cons_self
      cases groups with
      | nil =>
          rw [List.intercalate_singleton, splitDouble_append here.2, next]
          simp
      | cons second groups =>
          have later := ih fun other listed => plain other (List.mem_cons_of_mem _ listed)
          obtain ⟨some, apart⟩ := plain second (by simp)
          obtain ⟨c, letters, rfl⟩ := List.exists_cons_of_ne_nil some
          have other : c ≠ ':' := fun same => apart (by simp [same])
          obtain ⟨rest, shape⟩ :
              ∃ rest, [':'].intercalate ((c :: letters) :: groups) = c :: rest := by
            cases groups with
            | nil => exact ⟨letters, by simp⟩
            | cons third groups => exact ⟨_, by rw [List.intercalate_cons_cons]; rfl⟩
          rw [List.intercalate_cons_cons, List.append_assoc, List.append_assoc,
            splitDouble_append here.2]
          rw [shape] at later ⊢
          rw [List.singleton_append, List.cons_append, splitDouble_colon_of_ne other,
            ← List.cons_append, later]
          simp

theorem groupsOf_joined {groups : List (List Char)}
    (plain : ∀ group ∈ groups, group ≠ [] ∧ ':' ∉ group) :
    groupsOf ([':'].intercalate groups) = groups := by
  cases groups with
  | nil => rfl
  | cons group groups =>
      have some : [':'].intercalate (group :: groups) ≠ [] := by
        have nonempty := (plain group List.mem_cons_self).1
        cases groups with
        | nil => simpa using nonempty
        | cons second groups => simp [List.intercalate_cons_cons]
      rw [groupsOf, if_neg some, splitOn_joined fun other listed => (plain other listed).2]
      simp

/-- The loop reads the groups as the digits of a number. -/
theorem groupsValue_lower (groups : List HexGroup) (zeros : Nat) (others : List HexGroup) :
    groupsValue (groups.map lowerGroup ++ List.replicate zeros ['0'] ++ others.map lowerGroup) =
      some ((groups.map HexGroup.value ++ List.replicate zeros 0 ++ others.map HexGroup.value).foldl
        (fun value group => value * 65536 + group) 0) := by
  have step (value group : Nat) (small : group < 65536) :
      value <<< 16 ||| group = value * 65536 + group := by
    rw [← Nat.shiftLeft_add_eq_or_of_lt (i := 16) small, Nat.shiftLeft_eq]
  have hex (l : List HexGroup) : ∀ value, (l.map lowerGroup).foldlM (fun value part =>
      if isHexGroup part then some (value <<< 16 ||| parseHex part) else none) value =
        some ((l.map HexGroup.value).foldl (fun value group => value * 65536 + group) value) := by
    induction l with
    | nil => intro value; rfl
    | cons group l ih =>
        intro value
        rw [List.map_cons, List.foldlM_cons, isHexGroup_lowerGroup, if_pos rfl,
          parseHex_lowerGroup, step _ _ (parseHex_lt group)]
        exact ih _
  have zero (n : Nat) : ∀ value, (List.replicate n ['0']).foldlM (fun value part =>
      if isHexGroup part then some (value <<< 16 ||| parseHex part) else none) value =
        some ((List.replicate n 0).foldl (fun value group => value * 65536 + group) value) := by
    induction n with
    | zero => intro value; rfl
    | succ n ih =>
        intro value
        have shape : isHexGroup ['0'] = true := by decide
        have nothing : parseHex ['0'] = 0 := by decide
        rw [List.replicate_succ, List.foldlM_cons, shape, if_pos rfl, nothing,
          step _ _ (by omega)]
        exact ih _
  rw [groupsValue, List.foldlM_append, List.foldlM_append, hex]
  simp only [Option.bind_eq_bind, Option.bind_some, zero, hex, List.foldl_append]

theorem lowerGroups_plain (groups : List HexGroup) :
    ∀ group ∈ groups.map lowerGroup, group ≠ [] ∧ ':' ∉ group := by
  intro part listed
  obtain ⟨group, -, rfl⟩ := List.mem_map.mp listed
  refine ⟨lowerGroup_ne_nil group, fun colon => ?_⟩
  exact (lower_digit (mem_lowerGroup colon)).2.1 rfl

/-! ## Spellings by groups alone -/

theorem dot_of_mappedQuad {text quad : List Char} (matched : mappedQuad text = some quad) :
    '.' ∈ text := by
  obtain ⟨shape, -, before, rfl⟩ := mappedQuad_eq_some.mp matched
  by_contra absent
  have apart : '.' ∉ quad := fun dot => absent (List.mem_append_right _ dot)
  rw [isQuadShape, List.splitOn_eq_singleton apart] at shape
  simp at shape

theorem dot_not_mem_lowerBody {s : Ipv6Spelling} (groups : s.quad = none) :
    '.' ∉ lowerBody s := by
  have apart (l : List HexGroup) : '.' ∉ [':'].intercalate (l.map lowerGroup) := by
    intro dot
    obtain colon | ⟨part, listed, inside⟩ := mem_intercalate dot
    · exact absurd colon (by decide)
    · obtain ⟨group, -, rfl⟩ := List.mem_map.mp listed
      exact (lower_digit (mem_lowerGroup inside)).2.2.1 rfl
  unfold lowerBody
  cases s.right with
  | none => simpa [groups] using apart s.left
  | some right => simpa [groups] using ⟨apart s.left, apart right⟩

theorem splitDouble_whole (groups : List HexGroup) :
    splitDouble ([':'].intercalate (groups.map lowerGroup)) =
      [[':'].intercalate (groups.map lowerGroup)] := by
  have nothing : splitDouble [] = [[]] := rfl
  have alone := splitDouble_joined (lowerGroups_plain groups) nothing
  rwa [List.append_nil] at alone

/-- The number is read off the groups. -/
theorem parseIpv6BigInt_groups {s : Ipv6Spelling} (groups : s.quad = none) :
    parseIpv6BigInt (lowerBody s) = some s.value := by
  have same : normalize (lowerBody s) = lowerBody s := normalize_eq fun _ => mem_lowerBody
  have complete := s.complete
  rw [parseIpv6BigInt, same]
  simp only [if_neg (dot_not_mem_lowerBody groups)]
  cases right : s.right with
  | none =>
      have body : lowerBody s = [':'].intercalate (s.left.map lowerGroup) := by
        simp [lowerBody, right, groups]
      have eight : s.left.length = 8 := by simpa [right, groups] using complete
      have read := groupsValue_lower s.left 0 []
      simp only [List.replicate_zero, List.map_nil, List.append_nil] at read
      rw [body, splitDouble_whole]
      simp only [groupsOf_joined (lowerGroups_plain s.left), List.length_map, eight]
      rw [if_neg (by decide), read, Ipv6Spelling.value, Ipv6Spelling.groups]
      simp [right, groups, eight]
  | some others =>
      have body : lowerBody s = [':'].intercalate (s.left.map lowerGroup) ++
          ("::".toList ++ [':'].intercalate (others.map lowerGroup)) := by
        simp [lowerBody, right, groups]
      have seven : s.left.length + others.length ≤ 7 := by simpa [right, groups] using complete
      have second : splitDouble ("::".toList ++ [':'].intercalate (others.map lowerGroup)) =
          [] :: [[':'].intercalate (others.map lowerGroup)] := by
        rw [← splitDouble_whole others]
        rfl
      rw [body, splitDouble_joined (lowerGroups_plain s.left) second]
      simp only [groupsOf_joined (lowerGroups_plain _), List.length_map]
      rw [if_neg (by omega), groupsValue_lower, Ipv6Spelling.value, Ipv6Spelling.groups]
      simp [right, groups]

theorem publicIpv6Value_eq (value : Nat) : publicIpv6Value value = globalIpv6 value := by
  have same (range : Nat × Nat) :
      ipv6InCidr value range.1 range.2 = inRange 128 value range := by
    simp only [ipv6InCidr, inRange, Nat.shiftRight_eq_div_pow]
  rw [publicIpv6Value, globalIpv6, same (_, _)]
  simp only [same]
  rfl

/-- **Groups** are judged by the ranges of IPv6. -/
theorem isPublicIpv6_groups (number : String → Option ℚ) {s : Ipv6Spelling}
    (groups : s.quad = none) :
    isPublicIpv6 number (String.ofList s.text) = globalIpv6 s.value := by
  have unmapped : mappedQuad (lowerBody s) = none := by
    cases matched : mappedQuad (lowerBody s) with
    | none => rfl
    | some quad => exact absurd (dot_of_mappedQuad matched) (dot_not_mem_lowerBody groups)
  rw [isPublicIpv6, String.toList_ofList, normalize_text]
  simp only [unmapped, parseIpv6BigInt_groups groups, Option.map_some, Option.getD_some]
  exact publicIpv6Value_eq s.value

/-! ## Spellings that end in a quad -/

/-- `::ffff:` stands right before the quad. -/
def EndsMapped (s : Ipv6Spelling) : Prop :=
  s.right.map (List.map lowerGroup) = some ["ffff".toList]

instance (s : Ipv6Spelling) : Decidable (EndsMapped s) := by
  unfold EndsMapped
  infer_instance

theorem splitOn_groups {groups : List HexGroup} (quad : Quad) :
    ([':'].intercalate (groups.map lowerGroup ++ [quad.text])).splitOn ':' =
      groups.map lowerGroup ++ [quad.text] := by
  rw [splitOn_joined, if_neg (by simp)]
  intro part listed
  rcases List.mem_append.mp listed with early | late
  · exact (lowerGroups_plain groups part early).2
  · rw [List.mem_singleton.mp late]
    intro colon
    obtain dot | digit := mem_quad_text colon
    · exact absurd dot (by decide)
    · exact (digit_chars digit).2.2.2.1 rfl

theorem mappedQuad_lowerBody {s : Ipv6Spelling} {quad : Quad} (dotted : s.quad = some quad) :
    mappedQuad (lowerBody s) = if EndsMapped s then some quad.text else none := by
  have shape := isQuadShape_text quad
  have full (groups : List HexGroup) (part : List Char) (listed : part ∈ groups.map lowerGroup) :
      part ≠ [] := (lowerGroups_plain groups part listed).1
  cases right : s.right with
  | none =>
      have unmapped : ¬EndsMapped s := by simp [EndsMapped, right]
      have parts : (lowerBody s).splitOn ':' = s.left.map lowerGroup ++ [quad.text] := by
        rw [← splitOn_groups quad]
        simp [lowerBody, right, dotted]
      rw [if_neg unmapped, mappedQuad, parts, List.reverse_append]
      generalize quad.text = last
      cases reversed : (s.left.map lowerGroup).reverse with
      | nil => rfl
      | cons last before =>
          cases before with
          | nil => rfl
          | cons second before =>
              have some : second ≠ [] := full s.left second (by
                rw [← List.mem_reverse, reversed]
                simp)
              obtain ⟨c, letters, rfl⟩ := List.exists_cons_of_ne_nil some
              rfl
  | some groups =>
      obtain ⟨first, rest, left⟩ : ∃ first rest,
          (([':'].intercalate (s.left.map lowerGroup)).splitOn ':').reverse = first :: rest :=
        List.exists_cons_of_ne_nil (by simp [List.splitOn_ne_nil])
      have parts : ((lowerBody s).splitOn ':').reverse =
          quad.text :: ((groups.map lowerGroup).reverse ++ [] :: first :: rest) := by
        have body : lowerBody s = [':'].intercalate (s.left.map lowerGroup) ++ ':' ::
            ([] ++ ':' :: [':'].intercalate (groups.map lowerGroup ++ [quad.text])) := by
          simp [lowerBody, right, dotted]
        rw [body, splitOn_append, splitOn_append, splitOn_groups, List.reverse_append, left]
        simp
      have ends : EndsMapped s ↔ groups.map lowerGroup = ["ffff".toList] := by
        simp [EndsMapped, right]
      rw [mappedQuad, parts]
      generalize quad.text = final at shape
      cases reversed : (groups.map lowerGroup).reverse with
      | nil =>
          have nothing : groups.map lowerGroup = [] := List.reverse_eq_nil_iff.mp reversed
          rw [if_neg (by rw [ends, nothing]; simp), List.nil_append]
          -- the group before the quad is empty
          split
          · next same =>
              cases same
              rw [if_neg]
              rintro ⟨empty, -⟩
              revert empty
              decide
          · rfl
      | cons last before =>
          cases before with
          | nil =>
              have single : groups.map lowerGroup = [last] := by
                rw [← List.reverse_reverse (groups.map lowerGroup), reversed]
                rfl
              simp [ends, single, shape]
          | cons second before =>
              have listed : second ∈ groups.map lowerGroup := by
                rw [← List.mem_reverse, reversed]
                simp
              obtain ⟨c, letters, rfl⟩ := List.exists_cons_of_ne_nil (full groups second listed)
              have more : ¬EndsMapped s := by
                rw [ends, ← List.reverse_inj, reversed]
                simp
              rw [if_neg more]
              rfl

theorem dot_mem_lowerBody {s : Ipv6Spelling} {quad : Quad} (dotted : s.quad = some quad) :
    '.' ∈ lowerBody s := by
  have inQuad : '.' ∈ quad.text := by
    by_contra absent
    have single := List.splitOn_eq_singleton absent
    rw [splitOn_quad_text] at single
    simp [Quad.parts] at single
  have last (groups : List HexGroup) :
      '.' ∈ [':'].intercalate (groups.map lowerGroup ++ [quad.text]) := by
    cases groups with
    | nil => simpa using inQuad
    | cons group groups =>
        rw [intercalate_append (by simp) (by simp)]
        simp [inQuad]
  unfold lowerBody
  cases s.right with
  | none => simpa [dotted] using last s.left
  | some groups => simp [dotted, last groups]

/-- **After `::ffff:`** the quad alone decides, whatever stands before. -/
theorem isPublicIpv6_mapped {number : String → Option ℚ} (reads : ReadsOctets number)
    {s : Ipv6Spelling} {quad : Quad} (dotted : s.quad = some quad) (ends : EndsMapped s) :
    isPublicIpv6 number (String.ofList s.text) = globalIpv4 quad.value := by
  rw [isPublicIpv6, String.toList_ofList, normalize_text]
  simp only [mappedQuad_lowerBody dotted, if_pos ends]
  exact isPublicIpv4_quad reads quad

/-- **Other texts that end in a quad** are refused. -/
theorem isPublicIpv6_dotted (number : String → Option ℚ) {s : Ipv6Spelling} {quad : Quad}
    (dotted : s.quad = some quad) (other : ¬EndsMapped s) :
    isPublicIpv6 number (String.ofList s.text) = false := by
  have same : normalize (lowerBody s) = lowerBody s := normalize_eq fun _ => mem_lowerBody
  have unread : parseIpv6BigInt (lowerBody s) = none := by
    rw [parseIpv6BigInt, same]
    exact if_pos (dot_mem_lowerBody dotted)
  rw [isPublicIpv6, String.toList_ofList, normalize_text]
  simp only [mappedQuad_lowerBody dotted, if_neg other, unread, Option.map_none, Option.getD_none]

/-! ## Exactness -/

/-- When the text is judged as its number is. -/
def JudgedRightly : Spelling → Prop
  | .v4 _ => True
  | .v6 s =>
      match s.quad with
      | none => isMapped s.value = true → globalIpv4 (s.value % 2 ^ 32) = false
      | some quad =>
          if EndsMapped s then
            isMapped s.value = true ∨ globalIpv6 s.value = globalIpv4 quad.value
          else globalAddress (.v6 s.value) = false

/-- A mapped address is not in `2000::/3`. -/
theorem globalIpv6_of_mapped {value : Nat} (mapped : isMapped value = true) :
    globalIpv6 value = false := by
  simp only [isMapped, inRange, decide_eq_true_eq] at mapped
  have outside : inRange 128 value (0x20000000000000000000000000000000, 3) = false := by
    simp only [inRange, decide_eq_false_iff_not]
    omega
  rw [globalIpv6, outside, Bool.false_and]

/-- The last 32 bits of a spelling that ends in a quad. -/
theorem value_mod_quad {s : Ipv6Spelling} {quad : Quad} (dotted : s.quad = some quad) :
    s.value % 2 ^ 32 = quad.value := by
  have a := quad.a.isLt
  have b := quad.b.isLt
  have c := quad.c.isLt
  have d := quad.d.isLt
  simp only [Ipv6Spelling.value, Ipv6Spelling.groups, dotted, Option.toList_some,
    List.flatMap_cons, List.flatMap_nil, Quad.groups, List.append_nil, List.foldl_append,
    List.foldl_cons, List.foldl_nil, Quad.value]
  omega

theorem isPublicIpAddress_v6 (number : String → Option ℚ) {isIP : String → Nat}
    (node : IsIPExact isIP) (s : Ipv6Spelling) :
    isPublicIpAddress number isIP (Spelling.v6 s).text =
      isPublicIpv6 number (String.ofList s.text) := by
  have six : isIP (String.ofList s.text) = 6 := (node.six _).mpr ⟨s, rfl⟩
  simp only [isPublicIpAddress, Spelling.text, String.toList_ofList,
    stripBrackets_eq (text_plain s).1, six]
  rw [if_neg (by decide), if_pos trivial]

/-- **The filter is exact** for the texts that `JudgedRightly` describes, and for no other. -/
theorem isPublicIpAddress_exact_iff {number : String → Option ℚ} (reads : ReadsOctets number)
    {isIP : String → Nat} (node : IsIPExact isIP) (spelling : Spelling) :
    (isPublicIpAddress number isIP spelling.text = true ↔
        globalAddress spelling.address = true) ↔ JudgedRightly spelling := by
  rw [← Bool.eq_iff_iff]
  cases spelling with
  | v4 quad =>
      have plain : stripBrackets quad.text = quad.text := stripBrackets_eq fun c member => by
        obtain rfl | digit := mem_quad_text member
        · decide
        · have away := bodyChar (digit_chars digit).2.2.2.2
          exact ⟨away.1, away.2.1⟩
      have four : isIP (String.ofList quad.text) = 4 := (node.four _).mpr ⟨quad, rfl⟩
      refine iff_of_true ?_ trivial
      simp only [isPublicIpAddress, Spelling.text, String.toList_ofList, plain, four, if_true]
      exact isPublicIpv4_quad reads quad
  | v6 s =>
      rw [isPublicIpAddress_v6 number node, Spelling.address, JudgedRightly, globalAddress]
      cases quad : s.quad with
      | none =>
          rw [isPublicIpv6_groups number quad]
          generalize globalIpv4 (s.value % 2 ^ 32) = embedded
          cases mapped : isMapped s.value with
          | false => simp
          | true => simp [globalIpv6_of_mapped mapped, eq_comm]
      | some q =>
          simp only
          by_cases ends : EndsMapped s
          · rw [if_pos ends, isPublicIpv6_mapped reads quad ends, value_mod_quad quad]
            cases mapped : isMapped s.value with
            | false => simp [eq_comm]
            | true => simp
          · rw [if_neg ends, isPublicIpv6_dotted number quad ends]
            exact eq_comm

/-! ## Poles -/

/-- A reader of decimals, and no more. -/
def decimalNumber (text : String) : Option ℚ :=
  some (text.toList.foldl (fun value c => value * 10 + (c.toNat - '0'.toNat)) 0 : Nat)

theorem decimalNumber_reads : ReadsOctets decimalNumber := by
  have digits : ∀ octet : Fin 256, (octetText octet).foldl
      (fun value c => value * 10 + (c.toNat - '0'.toNat)) 0 = octet.val := by
    decide +kernel
  intro octet
  have text : (toString octet.val).toList = octetText octet := Nat.toList_repr
  rw [decimalNumber, text, digits]

open Classical in
/-- A function that behaves as Node documents it. -/
noncomputable def grammarIsIP (text : String) : Nat :=
  if ∃ quad, text = (Spelling.v4 quad).text then 4
  else if ∃ s, text = (Spelling.v6 s).text then 6
  else 0

theorem colon_mem_text (s : Ipv6Spelling) : ':' ∈ s.text := by
  refine List.mem_append_left _ ?_
  have complete := s.complete
  unfold Ipv6Spelling.body
  cases right : s.right with
  | some groups => simp
  | none =>
      simp only [right] at complete
      simp only
      generalize joined : s.left.map HexGroup.digits ++ s.quad.toList.map Quad.text = parts
      have long : s.left.length + s.quad.toList.length = parts.length := by simp [← joined]
      match parts with
      | [] =>
          simp only [List.length_nil] at long
          omega
      | [_] =>
          simp only [List.length_cons, List.length_nil] at long
          omega
      | _ :: _ :: _ => simp [List.intercalate_cons_cons]

theorem grammarIsIP_exact : IsIPExact grammarIsIP where
  four text := by
    unfold grammarIsIP
    split
    · simp_all
    · split <;> simp_all
  six text := by
    unfold grammarIsIP
    split
    · next four =>
        obtain ⟨quad, rfl⟩ := four
        refine iff_of_false (by decide) ?_
        rintro ⟨s, same⟩
        have colon : ':' ∈ quad.text := by
          rw [String.ofList_injective same]
          exact colon_mem_text s
        obtain dot | digit := mem_quad_text colon
        · exact absurd dot (by decide)
        · exact (digit_chars digit).2.2.2.1 rfl
    · split <;> simp_all

def eights : Quad := ⟨8, 8, 8, 8⟩

def ffff : HexGroup :=
  ⟨"ffff".toList, by decide, by decide, List.all_iff_forall_prop.mp (by decide)⟩

/-- `fe80::ffff:8.8.8.8`, in the link-local range. -/
def linkLocal : Ipv6Spelling where
  left := [⟨"fe80".toList, by decide, by decide, List.all_iff_forall_prop.mp (by decide)⟩]
  right := some [ffff]
  quad := some eights
  zone := none
  complete := by decide

theorem isPublicIpAddress_exact_iff_eights :
    (isPublicIpAddress decimalNumber grammarIsIP (Spelling.v4 eights).text = true ↔
        globalAddress (Spelling.v4 eights).address = true) ↔ JudgedRightly (.v4 eights) :=
  isPublicIpAddress_exact_iff decimalNumber_reads grammarIsIP_exact (.v4 eights)

/-- A link-local address passes. -/
theorem linkLocal_is_public :
    (Spelling.v6 linkLocal).text = "fe80::ffff:8.8.8.8" ∧
      isPublicIpAddress decimalNumber grammarIsIP (Spelling.v6 linkLocal).text = true ∧
      globalAddress (Spelling.v6 linkLocal).address = false := by
  refine ⟨by decide, ?_, by decide⟩
  rw [isPublicIpAddress_v6 _ grammarIsIP_exact,
    isPublicIpv6_mapped (s := linkLocal) decimalNumber_reads rfl (by decide)]
  decide

end Aeolus.Security
