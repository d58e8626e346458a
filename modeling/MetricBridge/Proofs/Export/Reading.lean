/-
# What a reader finds in a table

Comma-separated values are read by a machine with a handful of places to stand. Commas end fields
and line feeds end records, except between quotes. A field that begins with a quote goes on to the
next quote that is not doubled, and then has to end. A quote in any other field, and a carriage
return outside of quotes, are errors. The last record may lack its line feed.

The reader knows nothing of how a table is written. It finds the rows of a table again, whatever
their fields hold, unless a row has no fields at all.
-/

import Mathlib
import MetricBridge.Export.Table

namespace MetricBridge.Row

/-! ### The reader -/

/-- Where a reader stands in a record. -/
inductive Place where
  | lineStart
  | fieldStart
  /-- In a field without quotes, behind some characters. -/
  | bare (chars : List Char)
  | quoted (chars : List Char)
  /-- Behind a quote in a quoted field. It ends the field, or is the first of two. -/
  | closed (chars : List Char)

namespace Place

/-- The field as far as it has been read. -/
def field : Place → String
  | lineStart | fieldStart => ""
  | bare chars | quoted chars | closed chars => String.ofList chars

/-- Commas and line feeds belong to the field. -/
def IsInside : Place → Prop
  | quoted _ => True
  | _ => False

instance : DecidablePred IsInside
  | quoted _ => isTrue trivial
  | lineStart | fieldStart | bare _ | closed _ => isFalse id

/-- Where the reader stands behind a character that does not end the field; nowhere, if the
character is out of place. -/
def next? (c : Char) : Place → Option Place
  | lineStart | fieldStart =>
    if c = '"' then some (quoted []) else if c = '\r' then none else some (bare [c])
  | bare chars => if c = '"' ∨ c = '\r' then none else some (bare (chars ++ [c]))
  | quoted chars => if c = '"' then some (closed chars) else some (quoted (chars ++ [c]))
  | closed chars => if c = '"' then some (quoted (chars ++ ['"'])) else none

theorem isInside_quoted (chars : List Char) : (quoted chars).IsInside := trivial

theorem next?_quoted_quote (chars : List Char) :
    (quoted chars).next? '"' = some (closed chars) := rfl

theorem next?_closed_quote (chars : List Char) :
    (closed chars).next? '"' = some (quoted (chars ++ ['"'])) := rfl

end Place

/-- The records of a text from a place in a record, some fields of which have been read. -/
def recordsFrom (place : Place) (fields : Row) : List Char → Option (List Row)
  | [] =>
    match place with
    | .lineStart => some []
    | .quoted _ => none
    | place => some [fields ++ [place.field]]
  | c :: rest =>
    if c = ',' ∧ ¬ place.IsInside then recordsFrom .fieldStart (fields ++ [place.field]) rest
    else if c = '\n' ∧ ¬ place.IsInside then
      (recordsFrom .lineStart [] rest).map fun records => (fields ++ [place.field]) :: records
    else (place.next? c).bind fun place => recordsFrom place fields rest

/-- The records of a text; nothing if it cannot be read. -/
def recordsOf? (text : List Char) : Option (List Row) :=
  recordsFrom .lineStart [] text

section Reader

variable {place : Place} {fields : Row} {rest : List Char}

theorem recordsFrom_comma (houtside : ¬ place.IsInside) :
    recordsFrom place fields (',' :: rest) =
      recordsFrom .fieldStart (fields ++ [place.field]) rest := by
  rw [recordsFrom, if_pos ⟨rfl, houtside⟩]

theorem recordsFrom_lineFeed (houtside : ¬ place.IsInside) :
    recordsFrom place fields ('\n' :: rest) =
      (recordsFrom .lineStart [] rest).map fun records =>
        (fields ++ [place.field]) :: records := by
  rw [recordsFrom, if_neg (fun hcomma => absurd hcomma.1 (by decide)), if_pos ⟨rfl, houtside⟩]

/-- A character that ends no field leads from one place to the next. -/
theorem recordsFrom_next {c : Char} {reached : Place}
    (hends : place.IsInside ∨ c ≠ ',' ∧ c ≠ '\n') (hnext : place.next? c = some reached) :
    recordsFrom place fields (c :: rest) = recordsFrom reached fields rest := by
  have hcomma : ¬ (c = ',' ∧ ¬ place.IsInside) := by tauto
  have hlineFeed : ¬ (c = '\n' ∧ ¬ place.IsInside) := by tauto
  rw [recordsFrom, if_neg hcomma, if_neg hlineFeed, hnext, Option.bind_some]

end Reader

/-! ### Fields that are written are read -/

theorem not_isSpecial_iff {c : Char} :
    isSpecial c = false ↔ c ≠ ',' ∧ c ≠ '"' ∧ c ≠ '\n' ∧ c ≠ '\r' := by
  simp [isSpecial, and_assoc]

section Fields

variable {fields : Row} {rest : List Char}

/-- Characters that need no quotes are read one by one. -/
theorem recordsFrom_bare {more : List Char} (hplain : needsQuotes more = false)
    (chars : List Char) :
    recordsFrom (.bare chars) fields (more ++ rest) =
      recordsFrom (.bare (chars ++ more)) fields rest := by
  induction more generalizing chars with
  | nil => rw [List.nil_append, List.append_nil]
  | cons c others ih =>
    rw [needsQuotes, List.any_cons, Bool.or_eq_false_iff] at hplain
    obtain ⟨hcomma, hquote, hlineFeed, hreturn⟩ := not_isSpecial_iff.1 hplain.1
    have hnext : (Place.bare chars).next? c = some (.bare (chars ++ [c])) :=
      if_neg (not_or.2 ⟨hquote, hreturn⟩)
    rw [List.cons_append, recordsFrom_next (Or.inr ⟨hcomma, hlineFeed⟩) hnext, ih hplain.2,
      List.append_assoc, List.singleton_append]

/-- Between quotes, any characters are read if their quotes are doubled. -/
theorem recordsFrom_quoted (more chars : List Char) :
    recordsFrom (.quoted chars) fields (doubled more ++ rest) =
      recordsFrom (.quoted (chars ++ more)) fields rest := by
  induction more generalizing chars with
  | nil => rw [doubled, List.flatMap_nil, List.nil_append, List.append_nil]
  | cons c others ih =>
    have hothers := ih (chars ++ [c])
    rw [List.append_assoc, List.singleton_append] at hothers
    rw [← hothers, doubled, List.flatMap_cons, List.append_assoc]
    by_cases hquote : c = '"'
    · subst hquote
      rw [if_pos rfl, List.cons_append, List.singleton_append,
        recordsFrom_next (Or.inl (Place.isInside_quoted chars)) (Place.next?_quoted_quote chars),
        recordsFrom_next (Or.inr (by decide)) (Place.next?_closed_quote chars)]
      rfl
    · rw [if_neg hquote, List.singleton_append,
        recordsFrom_next (Or.inl (Place.isInside_quoted chars)) (if_neg hquote)]
      rfl

/-- Behind a field that is written at its start, the reader has read just that field and stands
outside of quotes. -/
theorem exists_place_of_field {start : Place} (hstart : start = .lineStart ∨ start = .fieldStart)
    (field : List Char) :
    ∃ reached : Place, reached.field = String.ofList field ∧ ¬ reached.IsInside ∧
      ∀ fields rest, recordsFrom start fields (opened field ++ closing field ++ rest) =
        recordsFrom reached fields rest := by
  have hnext : ∀ c, start.next? c = Place.fieldStart.next? c := by
    rcases hstart with rfl | rfl <;> exact fun _ => rfl
  cases hquotes : needsQuotes field with
  | true =>
    refine ⟨.closed field, rfl, id, fun fields rest => ?_⟩
    rw [opened, closing, if_pos hquotes, if_pos hquotes, List.cons_append, List.cons_append,
      recordsFrom_next (Or.inr (by decide)) (hnext '"'), List.append_assoc,
      recordsFrom_quoted, List.nil_append, List.singleton_append,
      recordsFrom_next (Or.inl (Place.isInside_quoted field)) (Place.next?_quoted_quote field)]
  | false =>
    rw [opened, closing, if_neg (by simp [hquotes]), if_neg (by simp [hquotes]), List.append_nil]
    cases field with
    | nil =>
      refine ⟨start, ?_, ?_, fun _ _ => rfl⟩ <;> rcases hstart with rfl | rfl
      · rfl
      · rfl
      · exact id
      · exact id
    | cons c others =>
      refine ⟨.bare (c :: others), rfl, id, fun fields rest => ?_⟩
      rw [needsQuotes, List.any_cons, Bool.or_eq_false_iff] at hquotes
      obtain ⟨hcomma, hquote, hlineFeed, hreturn⟩ := not_isSpecial_iff.1 hquotes.1
      have hfirst : start.next? c = some (.bare [c]) :=
        (hnext c).trans ((if_neg hquote).trans (if_neg hreturn))
      rw [List.cons_append, recordsFrom_next (Or.inr ⟨hcomma, hlineFeed⟩) hfirst,
        recordsFrom_bare hquotes.2, List.singleton_append]

end Fields

/-! ### Lines that are written are read -/

theorem fieldsText_singleton (field : List Char) :
    fieldsText [field] = opened field ++ closing field := rfl

theorem fieldsText_cons_cons (field next : List Char) (others : List (List Char)) :
    fieldsText (field :: next :: others) =
      opened field ++ closing field ++ ',' :: fieldsText (next :: others) := by
  rw [fieldsText, unended, List.getLast?_cons_cons, fieldsText, List.append_assoc,
    List.cons_append]
  exact List.cons_ne_nil _ _

/-- Fields with commas between them and a line feed behind them make one record. -/
theorem recordsFrom_fieldsText {start : Place}
    (hstart : start = .lineStart ∨ start = .fieldStart) {fields : List (List Char)}
    (hsome : fields ≠ []) (before : Row) (rest : List Char) :
    recordsFrom start before (fieldsText fields ++ '\n' :: rest) =
      (recordsFrom .lineStart [] rest).map fun records =>
        (before ++ fields.map String.ofList) :: records := by
  induction fields generalizing start before with
  | nil => exact absurd rfl hsome
  | cons field others ih =>
    obtain ⟨reached, hfield, houtside, hread⟩ := exists_place_of_field hstart field
    cases others with
    | nil => rw [fieldsText_singleton, hread, recordsFrom_lineFeed houtside, hfield]; rfl
    | cons next others =>
      rw [fieldsText_cons_cons, List.append_assoc, hread, List.cons_append,
        recordsFrom_comma houtside, ih (Or.inr rfl) (List.cons_ne_nil _ _), hfield,
        List.append_assoc, List.singleton_append]
      rfl

/-- Only an empty field alone in its row leaves nothing to be seen. -/
theorem fieldsText_eq_nil_iff {fields : List (List Char)} (hsome : fields ≠ []) :
    fieldsText fields = [] ↔ fields = [[]] := by
  constructor
  · intro hnothing
    match fields, hsome with
    | [field], _ =>
      rw [fieldsText_singleton, List.append_eq_nil_iff, opened] at hnothing
      by_cases hquotes : needsQuotes field = true
      · simp [hquotes] at hnothing
      · rw [if_neg hquotes] at hnothing
        rw [hnothing.1]
    | field :: next :: others, _ => simp [fieldsText_cons_cons] at hnothing
  · rintro rfl
    rfl

/-- A line that is written is read as its row, whatever stands behind it. -/
theorem recordsFrom_line {row : Row} (hsome : row ≠ []) (rest : List Char) :
    recordsFrom .lineStart [] (row.line ++ rest) =
      (recordsFrom .lineStart [] rest).map fun records => row :: records := by
  have hfields : row.map String.toList ≠ [] := mt List.map_eq_nil_iff.1 hsome
  have hback : (row.map String.toList).map String.ofList = row := by
    rw [List.map_map]
    exact List.map_id'' (fun _ => String.ofList_toList) row
  rw [line]
  split_ifs with hnothing
  · have hempty : row = [""] := by
      rw [← hback, (fieldsText_eq_nil_iff hfields).1 hnothing]
      rfl
    subst hempty
    have hopen : Place.lineStart.next? '"' = some (.quoted []) := rfl
    rw [List.cons_append, List.cons_append, List.singleton_append,
      recordsFrom_next (Or.inr (by decide)) hopen,
      recordsFrom_next (Or.inl (Place.isInside_quoted [])) (Place.next?_quoted_quote []),
      recordsFrom_lineFeed id]
    rfl
  · rw [List.append_assoc, List.singleton_append,
      recordsFrom_fieldsText (Or.inl rfl) hfields, hback]
    rfl

/-- A reader finds the rows that were written. -/
theorem recordsOf?_lines {rows : List Row} (hsome : ∀ row ∈ rows, row ≠ []) :
    recordsOf? (rows.flatMap line) = some rows := by
  induction rows with
  | nil => rfl
  | cons row others ih =>
    obtain ⟨hrow, hothers⟩ := List.forall_mem_cons.1 hsome
    have hread := ih hothers
    rw [recordsOf?] at hread
    rw [recordsOf?, List.flatMap_cons, recordsFrom_line hrow, hread, Option.map_some]

end MetricBridge.Row
