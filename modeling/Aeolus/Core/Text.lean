/-
# Aeolus.Core.Text — string functions of ECMAScript
-/
import Mathlib.Data.List.SplitOn
import Mathlib.Data.List.TakeWhile

namespace Aeolus.Core

/-- White space and line ends, as `String.prototype.trim` removes them. -/
def isWhiteSpace (c : Char) : Bool :=
  c.val ∈ [0x09, 0x0a, 0x0b, 0x0c, 0x0d, 0x20, 0xa0, 0x1680, 0x2028, 0x2029, 0x202f, 0x205f,
    0x3000, 0xfeff] || (0x2000 ≤ c.val && c.val ≤ 0x200a)

/-- `text.trim()` -/
def trim (text : String) : String :=
  String.ofList ((text.toList.dropWhile isWhiteSpace).reverse.dropWhile isWhiteSpace).reverse

example : trim " 7 " = "7" := by decide

/-- Texts that begin and end with no white space are those that `trim` leaves as they are. -/
theorem trim_eq_self_iff (text : String) : trim text = text ↔
    (∀ c ∈ text.toList.head?, isWhiteSpace c = false) ∧
      ∀ c ∈ text.toList.getLast?, isWhiteSpace c = false := by
  have front : text.toList.dropWhile isWhiteSpace = text.toList ↔
      ∀ c ∈ text.toList.head?, isWhiteSpace c = false := by
    cases text.toList with
    | nil => simp
    | cons c rest => simp [List.dropWhile_eq_self_iff]
  have back : text.toList.reverse.dropWhile isWhiteSpace = text.toList.reverse ↔
      ∀ c ∈ text.toList.getLast?, isWhiteSpace c = false := by
    rw [← List.head?_reverse]
    cases text.toList.reverse with
    | nil => simp
    | cons c rest => simp [List.dropWhile_eq_self_iff]
  rw [← front, ← back]
  constructor
  · intro same
    have letters := congrArg String.toList same
    simp only [trim, String.toList_ofList] at letters
    have shorter := List.dropWhile_suffix (l := text.toList) isWhiteSpace
    have whole : text.toList.dropWhile isWhiteSpace = text.toList := by
      apply shorter.eq_of_length_le
      have inner := (List.dropWhile_suffix (l := (text.toList.dropWhile isWhiteSpace).reverse)
        isWhiteSpace).length_le
      have outer := congrArg List.length letters
      rw [List.length_reverse] at inner outer
      omega
    refine ⟨whole, ?_⟩
    rw [whole] at letters
    exact List.reverse_eq_iff.mp letters
  · rintro ⟨begins, ends⟩
    unfold trim
    rw [begins, ends, List.reverse_reverse, String.ofList_toList]

/-- `text.length`: UTF-16 code units -/
def utf16Length (text : String) : Nat :=
  text.toList.foldl (fun length c => length + if c.val < 0x10000 then 1 else 2) 0

/-- A character takes at least one code unit. -/
theorem length_le_utf16Length (text : String) : text.toList.length ≤ utf16Length text := by
  have counted (letters : List Char) (n : Nat) : n + letters.length ≤
      letters.foldl (fun length c => length + if c.val < 0x10000 then 1 else 2) n := by
    induction letters generalizing n with
    | nil => exact Nat.le_refl n
    | cons c rest ih =>
        refine Nat.le_trans ?_ (ih _)
        dsimp only
        rw [List.length_cons]
        split <;> omega
  simpa [utf16Length] using counted text.toList 0

theorem utf16Length_pos {text : String} (nonempty : text ≠ "") : 1 ≤ utf16Length text := by
  refine Nat.le_trans ?_ (length_le_utf16Length text)
  exact List.length_pos_iff.mpr (by simpa using nonempty)

theorem utf16Length_append (a b : List Char) : utf16Length (String.ofList (a ++ b)) =
    utf16Length (String.ofList a) + utf16Length (String.ofList b) := by
  have shifted (letters : List Char) (n : Nat) :
      letters.foldl (fun length c => length + if c.val < 0x10000 then 1 else 2) n =
        n + letters.foldl (fun length c => length + if c.val < 0x10000 then 1 else 2) 0 := by
    induction letters generalizing n with
    | nil => rfl
    | cons c rest ih =>
        rw [List.foldl_cons, List.foldl_cons, ih, ih (0 + _), Nat.zero_add, Nat.add_assoc]
  simp only [utf16Length, String.toList_ofList, List.foldl_append]
  exact shifted b _

/-- A string property that is there and not empty. -/
def truthy (text : Option String) : Option String := text.filter (· ≠ "")

theorem truthy_eq_some {text : Option String} {value : String} :
    truthy text = some value ↔ text = some value ∧ value ≠ "" := by
  unfold truthy
  rw [Option.filter_eq_some_iff]
  simp

/-- `text.split(separator)` -/
def split (text : String) (separator : Char) : List String :=
  (text.toList.splitOn separator).map String.ofList

theorem split_injective (separator : Char) {a b : String}
    (same : split a separator = split b separator) : a = b := by
  have lists : a.toList.splitOn separator = b.toList.splitOn separator := by
    have back := congrArg (List.map String.toList) same
    simpa [split, Function.comp_def] using back
  have joined := congrArg (List.intercalate [separator]) lists
  rw [List.intercalate_splitOn, List.intercalate_splitOn] at joined
  exact String.toList_injective joined

/-- A part of a text has its characters, and not the separator. -/
theorem mem_splitOn {separator : Char} {text part : List Char}
    (member : part ∈ text.splitOn separator) : separator ∉ part ∧ ∀ c ∈ part, c ∈ text := by
  induction text generalizing part with
  | nil =>
      rw [List.splitOn_nil, List.mem_singleton] at member
      rw [member]
      exact ⟨List.not_mem_nil, fun c => id⟩
  | cons first rest ih =>
      rw [List.splitOn_cons_eq_if_modifyHead] at member
      split at member
      · rcases List.mem_cons.mp member with rfl | later
        · exact ⟨List.not_mem_nil, fun c here => absurd here List.not_mem_nil⟩
        · obtain ⟨apart, inside⟩ := ih later
          exact ⟨apart, fun c here => List.mem_cons_of_mem _ (inside c here)⟩
      · rename_i other
        obtain ⟨head, tail, parts⟩ := List.exists_cons_of_ne_nil (List.splitOn_ne_nil separator rest)
        rw [parts, List.modifyHead_cons] at member
        have differ : separator ≠ first := fun same => other (by simp [same])
        rcases List.mem_cons.mp member with rfl | later
        · have listed : head ∈ rest.splitOn separator := by simp [parts]
          obtain ⟨apart, inside⟩ := ih listed
          refine ⟨by simp [differ, apart], fun c here => ?_⟩
          rcases List.mem_cons.mp here with rfl | deeper
          · exact List.mem_cons_self
          · exact List.mem_cons_of_mem _ (inside c deeper)
        · have listed : part ∈ rest.splitOn separator := by simp [parts, later]
          obtain ⟨apart, inside⟩ := ih listed
          exact ⟨apart, fun c here => List.mem_cons_of_mem _ (inside c here)⟩

theorem mem_split {separator : Char} {text part : String} (member : part ∈ split text separator) :
    separator ∉ part.toList ∧ ∀ c ∈ part.toList, c ∈ text.toList := by
  obtain ⟨letters, listed, rfl⟩ := List.mem_map.mp member
  rw [String.toList_ofList]
  exact mem_splitOn listed

/-- Two lists of parts are joined by one more separator. -/
theorem intercalate_append {separator : Char} {parts others : List (List Char)} (some : parts ≠ [])
    (more : others ≠ []) : [separator].intercalate (parts ++ others) =
      [separator].intercalate parts ++ separator :: [separator].intercalate others := by
  induction parts with
  | nil => exact absurd rfl some
  | cons part parts ih =>
      cases parts with
      | nil =>
          obtain ⟨first, rest, rfl⟩ := List.exists_cons_of_ne_nil more
          simp [List.intercalate_cons_cons]
      | cons next parts =>
          have later := ih (by simp)
          simp only [List.cons_append] at later
          rw [List.cons_append, List.cons_append, List.intercalate_cons_cons, later,
            List.intercalate_cons_cons]
          simp

theorem mem_intercalate {separator c : Char} {parts : List (List Char)}
    (member : c ∈ [separator].intercalate parts) : c = separator ∨ ∃ part ∈ parts, c ∈ part := by
  induction parts with
  | nil => simp at member
  | cons part parts ih =>
      cases parts with
      | nil =>
          rw [List.intercalate_singleton] at member
          exact .inr ⟨part, List.mem_cons_self, member⟩
      | cons next parts =>
          rw [List.intercalate_cons_cons, List.mem_append, List.mem_append,
            List.mem_singleton] at member
          rcases member with (here | same) | later
          · exact .inr ⟨part, List.mem_cons_self, here⟩
          · exact .inl same
          · obtain same | ⟨other, listed, inside⟩ := ih later
            · exact .inl same
            · exact .inr ⟨other, List.mem_cons_of_mem _ listed, inside⟩

theorem map_intercalate (f : Char → Char) (separator : Char) (parts : List (List Char)) :
    ([separator].intercalate parts).map f =
      [f separator].intercalate (parts.map (List.map f)) := by
  induction parts with
  | nil => rfl
  | cons part parts ih =>
      cases parts with
      | nil => simp
      | cons next parts =>
          rw [List.map_cons] at ih
          simp only [List.map_cons, List.intercalate_cons_cons, List.map_append, ih, List.map_nil]

/-- Splitting what was joined; joining nothing gives one empty part. -/
theorem splitOn_joined {separator : Char} {parts : List (List Char)}
    (apart : ∀ part ∈ parts, separator ∉ part) :
    ([separator].intercalate parts).splitOn separator = if parts = [] then [[]] else parts := by
  by_cases none : parts = []
  · simp [none]
  · rw [if_neg none, List.splitOn_intercalate separator apart none]

/-- Parts with a separator between two of them: each side is split by itself. -/
theorem splitOn_append {separator : Char} (before after : List Char) :
    (before ++ separator :: after).splitOn separator =
      before.splitOn separator ++ after.splitOn separator := by
  have joined : before ++ separator :: after = [separator].intercalate
      (before.splitOn separator ++ after.splitOn separator) := by
    rw [intercalate_append (List.splitOn_ne_nil _ _) (List.splitOn_ne_nil _ _),
      List.intercalate_splitOn, List.intercalate_splitOn]
  rw [joined, List.splitOn_intercalate]
  · intro part member
    rcases List.mem_append.mp member with early | late
    · exact (mem_splitOn early).1
    · exact (mem_splitOn late).1
  · simp [List.splitOn_ne_nil]

/-- Two parts and the separator between them. -/
theorem split_pair {separator : Char} {a b : String} (first : separator ∉ a.toList)
    (second : separator ∉ b.toList) :
    split (a ++ String.singleton separator ++ b) separator = [a, b] := by
  unfold split
  rw [String.toList_append, String.toList_append, String.toList_singleton, List.append_assoc,
    List.singleton_append, splitOn_append, List.splitOn_eq_singleton first,
    List.splitOn_eq_singleton second]
  simp

end Aeolus.Core
