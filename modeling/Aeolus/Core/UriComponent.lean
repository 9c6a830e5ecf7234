/-
# Aeolus.Core.UriComponent — `decodeURIComponent`

An encoded text is read in two steps: `unescape` turns each `%XX` into one byte, and
`assemble` reads the bytes between plain characters as UTF-8.  Either step refuses what is
malformed, where ECMAScript throws a `URIError`.

Decoding never lengthens a text, and an escape shortens it; so a text that decodes to itself
has no percent sign.
-/
import Aeolus.Core.Text

namespace Aeolus.Core

/-! ## Definition -/

def hexValue (c : Char) : Option Nat :=
  if '0' ≤ c ∧ c ≤ '9' then some (c.toNat - '0'.toNat)
  else if 'a' ≤ c ∧ c ≤ 'f' then some (c.toNat - 'a'.toNat + 10)
  else if 'A' ≤ c ∧ c ≤ 'F' then some (c.toNat - 'A'.toNat + 10)
  else none

/-- A character of the text, or a byte that was escaped. -/
inductive Piece where
  | char (c : Char)
  | byte (value : Nat)

def unescape : List Char → Option (List Piece)
  | [] => some []
  | c :: rest =>
      if c = '%' then
        match rest with
        | a :: b :: rest =>
            match hexValue a, hexValue b with
            | some high, some low => (unescape rest).map (.byte (16 * high + low) :: ·)
            | _, _ => none
        | _ => none
      else (unescape rest).map (.char c :: ·)

/-- A UTF-8 sequence in progress: the least code point that needs its length, how many
bytes are missing, and the bits read so far. -/
structure Sequence where
  least : Nat
  missing : Nat
  code : Nat

def Sequence.start (byte : Nat) : Option Sequence :=
  if byte < 0x80 then some ⟨0, 0, byte⟩
  else if byte < 0xc0 then none
  else if byte < 0xe0 then some ⟨0x80, 1, byte - 0xc0⟩
  else if byte < 0xf0 then some ⟨0x800, 2, byte - 0xe0⟩
  else if byte < 0xf8 then some ⟨0x10000, 3, byte - 0xf0⟩
  else none

def Sequence.push (sequence : Sequence) (byte : Nat) : Option Sequence :=
  if 0x80 ≤ byte ∧ byte < 0xc0 then
    some ⟨sequence.least, sequence.missing - 1, sequence.code * 64 + (byte - 0x80)⟩
  else none

/-- The next byte, of a sequence in progress or of a new one. -/
def Sequence.next (byte : Nat) : Option Sequence → Option Sequence
  | none => start byte
  | some sequence => sequence.push byte

/-- The character of a whole sequence: a scalar value, encoded in its shortest form. -/
def Sequence.char (sequence : Sequence) : Option Char :=
  if sequence.least ≤ sequence.code ∧ sequence.code.isValidChar then
    some (Char.ofNat sequence.code)
  else none

def assemble : Option Sequence → List Piece → Option (List Char)
  | none, [] => some []
  | some _, [] => none
  | none, .char c :: rest => (assemble none rest).map (c :: ·)
  | some _, .char _ :: _ => none
  | sequence, .byte byte :: rest =>
      match Sequence.next byte sequence with
      | none => none
      | some sequence =>
          if sequence.missing = 0 then
            match sequence.char with
            | some c => (assemble none rest).map (c :: ·)
            | none => none
          else assemble (some sequence) rest

/-- `decodeURIComponent(text)`; `none` is the `URIError`. -/
def decodeURIComponent (text : String) : Option String :=
  ((unescape text.toList).bind (assemble none)).map String.ofList

example : decodeURIComponent "lights%2D1%E2%82%AC" = some "lights-1€" := by decide +kernel

example : decodeURIComponent "%C0%80" = none := by decide +kernel

/-! ## Lengths -/

theorem unescape_length {text : List Char} {pieces : List Piece}
    (read : unescape text = some pieces) :
    pieces.length ≤ text.length ∧ ('%' ∈ text → pieces.length < text.length) ∧
      (text ≠ [] → pieces ≠ []) := by
  fun_induction unescape text generalizing pieces with
  | case1 =>
      cases read
      simp
  | case2 a b rest high low hb hc ih =>
      obtain ⟨more, here, rfl⟩ := Option.map_eq_some_iff.mp read
      obtain ⟨bound, -, -⟩ := ih here
      simp only [List.length_cons]
      exact ⟨by omega, fun _ => by omega, fun _ => List.cons_ne_nil _ _⟩
  | case3 => cases read
  | case4 => cases read
  | case5 c rest plain ih =>
      obtain ⟨more, here, rfl⟩ := Option.map_eq_some_iff.mp read
      obtain ⟨bound, shorter, -⟩ := ih here
      simp only [List.length_cons]
      refine ⟨by omega, fun member => ?_, fun _ => List.cons_ne_nil _ _⟩
      have later : '%' ∈ rest := by
        rcases List.mem_cons.mp member with here | later
        · exact absurd here.symm plain
        · exact later
      have := shorter later
      omega

theorem assemble_length {sequence : Option Sequence} {pieces : List Piece} {text : List Char}
    (read : assemble sequence pieces = some text) :
    text.length ≤ pieces.length ∧ (sequence.isSome ∨ pieces ≠ [] → text ≠ []) := by
  fun_induction assemble sequence pieces generalizing text with
  | case1 =>
      cases read
      simp
  | case2 => cases read
  | case3 c rest ih =>
      obtain ⟨more, here, rfl⟩ := Option.map_eq_some_iff.mp read
      have bound := (ih here).1
      exact ⟨by simpa using bound, fun _ => List.cons_ne_nil _ _⟩
  | case4 => cases read
  | case5 => cases read
  | case6 sequence byte rest whole next complete c found ih =>
      obtain ⟨more, here, rfl⟩ := Option.map_eq_some_iff.mp read
      have bound := (ih here).1
      exact ⟨by simpa using bound, fun _ => List.cons_ne_nil _ _⟩
  | case7 => cases read
  | case8 sequence byte rest part next incomplete ih =>
      obtain ⟨bound, nonempty⟩ := ih read
      exact ⟨Nat.le_succ_of_le bound, fun _ => nonempty (.inl rfl)⟩

/-! ## Texts without escapes -/

theorem unescape_plain {text : List Char} (plain : '%' ∉ text) :
    unescape text = some (text.map .char) := by
  induction text with
  | nil => rfl
  | cons c rest ih =>
      rw [List.mem_cons, not_or] at plain
      have other : c ≠ '%' := fun same => plain.1 same.symm
      unfold unescape
      rw [if_neg other, ih plain.2]
      rfl

theorem assemble_plain (text : List Char) :
    assemble none (text.map .char) = some text := by
  induction text with
  | nil => rfl
  | cons c rest ih =>
      rw [List.map_cons, assemble, ih]
      rfl

theorem decodeURIComponent_some {text decoded : String}
    (read : decodeURIComponent text = some decoded) :
    ∃ pieces, unescape text.toList = some pieces ∧
      assemble none pieces = some decoded.toList := by
  obtain ⟨letters, bound, rfl⟩ := Option.map_eq_some_iff.mp read
  obtain ⟨pieces, escaped, assembled⟩ := Option.bind_eq_some_iff.mp bound
  exact ⟨pieces, escaped, by rw [assembled, String.toList_ofList]⟩

/-- A text decodes to itself exactly if nothing in it is escaped. -/
theorem decodeURIComponent_self (text : String) :
    decodeURIComponent text = some text ↔ '%' ∉ text.toList := by
  constructor
  · intro read escaped
    obtain ⟨pieces, unescaped, assembled⟩ := decodeURIComponent_some read
    have shorter := (unescape_length unescaped).2.1 escaped
    have bound := (assemble_length assembled).1
    omega
  · intro plain
    unfold decodeURIComponent
    rw [unescape_plain plain, Option.bind_some, assemble_plain, Option.map_some,
      String.ofList_toList]

theorem decodeURIComponent_nonempty {text decoded : String} (nonempty : text ≠ "")
    (read : decodeURIComponent text = some decoded) : decoded ≠ "" := by
  obtain ⟨pieces, unescaped, assembled⟩ := decodeURIComponent_some read
  have letters : text.toList ≠ [] := by simpa using nonempty
  have some_piece := (unescape_length unescaped).2.2 letters
  have written := (assemble_length assembled).2 (.inr some_piece)
  simpa using written

end Aeolus.Core
