/-
# Aeolus.Theory.Csv — records of quoted and bare fields

A reader of comma-separated values in one pass.  A field is bare, or stands in quotes with its
own quotes doubled; outside quotes a comma ends the field, and `\n`, `\r` or both in this order
end the record.

A writer chooses by the text which fields it quotes.  It has to quote those with a comma, a
quote or a `\n`; whether it quotes those with a `\r` is left open, since that is where a writer
goes wrong: what it has written is read back when it does (`parse_write`), and whatever is read
has no `\r` in a field that it would not have quoted (`quotes_of_parse`).
-/
import Mathlib.Logic.Basic

namespace Aeolus.Theory.Csv

/-! ## Reading -/

inductive Mode where
  /-- before a field -/
  | start
  /-- before a record, behind a `\r` -/
  | returned
  | bare
  | quoted
  /-- behind a quote that closed the field, unless another follows -/
  | closed
  deriving DecidableEq

/-- Reads on with the field and the record so far; the text after the last line end is a record
when there is any. -/
def read (mode : Mode) (field : List Char) (row : List (List Char)) :
    List Char → Option (List (List (List Char)))
  | [] =>
      if mode = .quoted then none
      else if mode = .returned ∨ mode = .start ∧ row = [] then some []
      else some [row ++ [field]]
  | c :: rest =>
      if mode = .quoted then
        if c = '"' then read .closed field row rest else read .quoted (field ++ [c]) row rest
      else if c = ',' then read .start [] (row ++ [field]) rest
      else if c = '\n' then
        if mode = .returned then read .start [] [] rest
        else (read .start [] [] rest).map ((row ++ [field]) :: ·)
      else if c = '\r' then (read .returned [] [] rest).map ((row ++ [field]) :: ·)
      else if c = '"' then
        if mode = .bare then none
        else if mode = .closed then read .quoted (field ++ [c]) row rest
        else read .quoted [] row rest
      else if mode = .closed then none
      else read .bare (field ++ [c]) row rest

def parse (text : List Char) : Option (List (List (List Char))) := read .start [] [] text

example : parse "a,\"b,\"\"c\"\r\nd,\r\n".toList =
    some [["a".toList, "b,\"c".toList], ["d".toList, []]] := by decide

/-! ## Writing -/

def doubled (text : List Char) : List Char := text.flatMap fun c => if c = '"' then [c, c] else [c]

def quote (text : List Char) : List Char := '"' :: doubled text ++ ['"']

/-- No character of a bare field ends it for a reader, but for `\r`. -/
def Plain (text : List Char) : Prop := ∀ c ∈ text, c ≠ ',' ∧ c ≠ '"' ∧ c ≠ '\n'

section Writing

variable (quotes : List Char → Bool)

def cell (field : List Char) : List Char := if quotes field then quote field else field

/-- The cells of a record, with its line end. -/
def line (fields : List (List Char)) : List Char :=
  [','].intercalate (fields.map (cell quotes)) ++ ['\n']

def write (table : List (List (List Char))) : List Char := table.flatMap (line quotes)

theorem line_cons_cons (field next : List Char) (fields : List (List Char)) :
    line quotes (field :: next :: fields) =
      cell quotes field ++ ',' :: line quotes (next :: fields) := by
  simp [line, List.intercalate_cons_cons]

theorem line_singleton (field : List Char) :
    line quotes [field] = cell quotes field ++ ['\n'] := by
  simp [line]

end Writing

/-! ## One cell -/

section Cell

variable {mode : Mode} {field : List Char} {row : List (List Char)} {rest text : List Char}

/-- Where a field can end. -/
def Mode.Open (mode : Mode) : Prop := mode ≠ .quoted ∧ mode ≠ .returned

theorem read_comma (unquoted : mode ≠ .quoted) :
    read mode field row (',' :: rest) = read .start [] (row ++ [field]) rest := by
  rw [read, if_neg unquoted, if_pos rfl]

theorem read_newline (settled : mode.Open) :
    read mode field row ('\n' :: rest) =
      (read .start [] [] rest).map ((row ++ [field]) :: ·) := by
  rw [read, if_neg settled.1, if_neg (by decide), if_pos rfl, if_neg settled.2]

theorem read_return (unquoted : mode ≠ .quoted) :
    read mode field row ('\r' :: rest) =
      (read .returned [] [] rest).map ((row ++ [field]) :: ·) := by
  rw [read, if_neg unquoted, if_neg (by decide), if_neg (by decide), if_pos rfl]

theorem read_letter {c : Char} (unquoted : mode ≠ .quoted) (unclosed : mode ≠ .closed)
    (plain : c ≠ ',' ∧ c ≠ '"' ∧ c ≠ '\n') (letter : c ≠ '\r') :
    read mode field row (c :: rest) = read .bare (field ++ [c]) row rest := by
  rw [read, if_neg unquoted, if_neg plain.1, if_neg plain.2.2, if_neg letter, if_neg plain.2.1,
    if_neg unclosed]

/-- Between the quotes. -/
theorem read_doubled :
    read .quoted field row (doubled text ++ '"' :: rest) =
      read .closed (field ++ text) row rest := by
  induction text generalizing field with
  | nil =>
      rw [List.append_nil]
      simp [doubled, read]
  | cons c text ih =>
      by_cases quotes : c = '"'
      · have spelled : doubled (c :: text) = '"' :: '"' :: doubled text := by
          simp [doubled, quotes]
        -- the first quote closes the field and the second opens it again
        rw [spelled, List.cons_append, List.cons_append, read, if_pos rfl, if_pos rfl, read,
          if_neg (by decide), if_neg (by decide), if_neg (by decide), if_neg (by decide),
          if_pos rfl, if_neg (by decide), if_pos rfl, ih, quotes, List.append_assoc]
        rfl
      · have spelled : doubled (c :: text) = c :: doubled text := by
          simp [doubled, quotes]
        rw [spelled, List.cons_append, read, if_pos rfl, if_neg quotes, ih, List.append_assoc]
        rfl

theorem read_quote (unquoted : mode = .start) :
    read mode [] row (quote text ++ rest) = read .closed text row rest := by
  have spelled : quote text ++ rest = '"' :: (doubled text ++ '"' :: rest) := by
    simp [quote]
  rw [spelled, unquoted, read, if_neg (by decide), if_neg (by decide), if_neg (by decide),
    if_neg (by decide), if_pos rfl, if_neg (by decide), if_neg (by decide), read_doubled,
    List.nil_append]

/-- A bare text without line ends. -/
theorem read_bare (settled : mode.Open) (unclosed : mode ≠ .closed) (plain : Plain text)
    (whole : '\r' ∉ text) :
    ∃ after : Mode, after.Open ∧
      read mode field row (text ++ rest) = read after (field ++ text) row rest := by
  induction text generalizing mode field with
  | nil => exact ⟨mode, settled, by rw [List.append_nil, List.nil_append]⟩
  | cons c text ih =>
      unfold Plain at plain
      rw [List.forall_mem_cons] at plain
      rw [List.mem_cons, not_or] at whole
      have opened : Mode.bare.Open := ⟨by decide, by decide⟩
      obtain ⟨after, ends, same⟩ :=
        @ih .bare (field ++ [c]) opened (by decide) plain.2 whole.2
      refine ⟨after, ends, ?_⟩
      rw [List.cons_append, read_letter settled.1 unclosed plain.1 (Ne.symm whole.1), same,
        List.append_assoc]
      rfl

end Cell

/-! ## Lines -/

section Lines

variable {quotes : List Char → Bool} (complete : ∀ field, quotes field = false → Plain field)
  {row : List (List Char)} {rest field : List Char}

include complete

theorem read_cell (whole : '\r' ∈ field → quotes field = true) :
    ∃ after : Mode, after.Open ∧
      read .start [] row (cell quotes field ++ rest) = read after field row rest := by
  unfold cell
  cases quoted : quotes field with
  | true => exact ⟨.closed, ⟨by decide, by decide⟩, read_quote rfl⟩
  | false =>
      have unbroken : '\r' ∉ field := by
        intro returned
        rw [whole returned] at quoted
        cases quoted
      exact read_bare ⟨by decide, by decide⟩ (by decide) (complete field quoted) unbroken

theorem read_line {fields : List (List Char)} (some_field : fields ≠ [])
    (whole : ∀ field ∈ fields, '\r' ∈ field → quotes field = true) :
    read .start [] row (line quotes fields ++ rest) =
      (read .start [] [] rest).map ((row ++ fields) :: ·) := by
  induction fields generalizing row with
  | nil => exact absurd rfl some_field
  | cons field fields ih =>
      rw [List.forall_mem_cons] at whole
      cases fields with
      | nil =>
          obtain ⟨after, ends, same⟩ := @read_cell _ complete row ('\n' :: rest) _ whole.1
          rw [line_singleton, List.append_assoc, List.singleton_append, same, read_newline ends]
      | cons next fields =>
          obtain ⟨after, ends, same⟩ := @read_cell _ complete row
            (',' :: (line quotes (next :: fields) ++ rest)) _ whole.1
          rw [line_cons_cons, List.append_assoc, List.cons_append, same, read_comma ends.1,
            ih (List.cons_ne_nil _ _) whole.2, List.append_assoc]
          rfl

/-- **Round trip.**  Records whose broken fields are quoted are read as they were written. -/
theorem parse_write {table : List (List (List Char))} (some_field : ∀ fields ∈ table, fields ≠ [])
    (whole : ∀ fields ∈ table, ∀ field ∈ fields, '\r' ∈ field → quotes field = true) :
    parse (write quotes table) = some table := by
  unfold parse
  induction table with
  | nil => rfl
  | cons fields table ih =>
      rw [List.forall_mem_cons] at some_field whole
      unfold write at ih ⊢
      rw [List.flatMap_cons, read_line complete some_field.1 whole.1, ih some_field.2 whole.2]
      rfl

end Lines

/-! ## Fields with a line end -/

section Quoted

variable {Kept : List Char → Prop} {mode : Mode} {field : List Char} {row : List (List Char)}
  {rest text : List Char}

/-- Every field that will be read and has a `\r` is one of the row so far, or kept. -/
def Sound (Kept : List Char → Prop) (mode : Mode) (field : List Char) (row : List (List Char))
    (text : List Char) : Prop :=
  ∀ table, read mode field row text = some table →
    ∀ fields ∈ table, ∀ found ∈ fields, '\r' ∈ found → found ∈ row ∨ Kept found

/-- A record that is complete. -/
theorem sound_record {tail : Option (List (List (List Char)))}
    (settled : '\r' ∈ field → Kept field)
    (later : ∀ table, tail = some table →
      ∀ fields ∈ table, ∀ found ∈ fields, '\r' ∈ found → Kept found) :
    ∀ table, tail.map ((row ++ [field]) :: ·) = some table →
      ∀ fields ∈ table, ∀ found ∈ fields, '\r' ∈ found → found ∈ row ∨ Kept found := by
  intro table done fields listed found member returned
  obtain ⟨others, read, rfl⟩ := Option.map_eq_some_iff.mp done
  rcases List.mem_cons.mp listed with rfl | further
  · rcases List.mem_append.mp member with early | last
    · exact Or.inl early
    · rw [List.mem_singleton.mp last] at returned ⊢
      exact Or.inr (settled returned)
  · exact Or.inr (later others read fields further found member returned)

theorem Sound.later (sound : Sound Kept mode field [] text) :
    ∀ table, read mode field [] text = some table →
      ∀ fields ∈ table, ∀ found ∈ fields, '\r' ∈ found → Kept found := by
  intro table done fields listed found member returned
  rcases sound table done fields listed found member returned with absent | kept
  · cases absent
  · exact kept

theorem sound_comma (unquoted : mode ≠ .quoted) (settled : '\r' ∈ field → Kept field)
    (sound : Sound Kept .start [] (row ++ [field]) rest) :
    Sound Kept mode field row (',' :: rest) := by
  intro table done fields listed found member returned
  rw [read_comma unquoted] at done
  rcases sound table done fields listed found member returned with early | kept
  · rcases List.mem_append.mp early with earlier | last
    · exact Or.inl earlier
    · rw [List.mem_singleton.mp last] at returned ⊢
      exact Or.inr (settled returned)
  · exact Or.inr kept

theorem sound_newline (unquoted : mode ≠ .quoted) (settled : '\r' ∈ field → Kept field)
    (sound : Sound Kept .start [] [] rest) : Sound Kept mode field row ('\n' :: rest) := by
  by_cases returned : mode = .returned
  · intro table done fields listed found member carries
    subst returned
    rw [read, if_neg (by decide), if_neg (by decide), if_pos rfl, if_pos rfl] at done
    exact Or.inr (sound.later table done fields listed found member carries)
  · unfold Sound
    rw [read_newline ⟨unquoted, returned⟩]
    exact sound_record settled sound.later

/-- A bare text may break at each `\r`, and keeps none. -/
theorem sound_bare {next : Char} (plain : Plain text) (settled : '\r' ∉ field)
    (unquoted : mode ≠ .quoted) (unclosed : mode ≠ .closed)
    (behind : ∀ mode field row, mode ≠ .quoted → '\r' ∉ field →
      Sound Kept mode field row (next :: rest)) :
    Sound Kept mode field row (text ++ next :: rest) := by
  induction text generalizing mode field row with
  | nil => exact behind mode field row unquoted settled
  | cons c text ih =>
      unfold Plain at plain
      rw [List.forall_mem_cons] at plain
      rw [List.cons_append]
      by_cases returns : c = '\r'
      · subst returns
        unfold Sound
        rw [read_return unquoted]
        apply sound_record (fun returned => absurd returned settled)
        apply Sound.later
        exact ih plain.2 List.not_mem_nil (by decide) (by decide)
      · unfold Sound
        rw [read_letter unquoted unclosed plain.1 returns]
        apply ih plain.2 _ (by decide) (by decide)
        simpa [settled] using Ne.symm returns

variable {quotes : List Char → Bool} (complete : ∀ field, quotes field = false → Plain field)

include complete

/-- A cell, before a comma or a line end. -/
theorem sound_cell {next : Char}
    (behind : ∀ mode field row, mode ≠ .quoted → ('\r' ∈ field → quotes field = true) →
      Sound (quotes · = true) mode field row (next :: rest)) :
    Sound (quotes · = true) .start [] row (cell quotes field ++ next :: rest) := by
  unfold cell
  cases quoted : quotes field with
  | true =>
      unfold Sound
      rw [if_pos rfl, read_quote rfl]
      exact behind .closed field row (by decide) fun _ => quoted
  | false =>
      apply sound_bare (complete field quoted) List.not_mem_nil (by decide) (by decide)
      intro mode field row unquoted settled
      exact behind mode field row unquoted fun returned => absurd returned settled

theorem sound_line {fields : List (List Char)} (some_field : fields ≠ [])
    (sound : Sound (quotes · = true) .start [] [] rest) :
    Sound (quotes · = true) .start [] row (line quotes fields ++ rest) := by
  induction fields generalizing row with
  | nil => exact absurd rfl some_field
  | cons field fields ih =>
      cases fields with
      | nil =>
          rw [line_singleton, List.append_assoc, List.singleton_append]
          apply sound_cell complete
          intro mode field row unquoted settled
          exact sound_newline unquoted settled sound
      | cons next fields =>
          rw [line_cons_cons, List.append_assoc, List.cons_append]
          apply sound_cell complete
          intro mode field row unquoted settled
          exact sound_comma unquoted settled (ih (List.cons_ne_nil _ _))

/-- **Line ends.**  Whatever is read of what was written, a field with a `\r` was quoted. -/
theorem quotes_of_parse {table found : List (List (List Char))}
    (some_field : ∀ fields ∈ table, fields ≠ [])
    (done : parse (write quotes table) = some found) :
    ∀ fields ∈ found, ∀ field ∈ fields, '\r' ∈ field → quotes field = true := by
  have sound : Sound (quotes · = true) .start [] [] (write quotes table) := by
    clear done
    induction table with
    | nil =>
        intro table done fields listed
        cases done
        cases listed
    | cons fields table ih =>
        rw [List.forall_mem_cons] at some_field
        exact sound_line complete some_field.1 (ih some_field.2)
  exact sound.later found done

end Quoted

end Aeolus.Theory.Csv
