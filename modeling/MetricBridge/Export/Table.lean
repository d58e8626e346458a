/-
# Tables as comma-separated values

A row is a list of fields, and a line is a row: its fields with commas between them and a line
feed behind. A field that holds a comma, a quote or a line end is put in quotes, and
quotes in it are doubled. A line of which nothing would be seen is a pair of quotes, so that it
is not taken for no line.

All rows of a table have as many fields as the first. A row of another length
ends the table at once; what had been written of it by then (everything before the end
of its last field) stays.
-/

import MetricBridge.Fault

namespace MetricBridge

/-- The fields of a line. -/
abbrev Row := List String

namespace Row

/-- The character makes quotes necessary. -/
def isSpecial (c : Char) : Bool :=
  c = ',' || c = '"' || c = '\n' || c = '\r'

/-- The field has to be put in quotes. -/
def needsQuotes (field : List Char) : Bool :=
  field.any isSpecial

/-- The characters between the quotes. -/
def doubled (field : List Char) : List Char :=
  field.flatMap fun c => if c = '"' then ['"', '"'] else [c]

/-- A field without what ends it. -/
def opened (field : List Char) : List Char :=
  if needsQuotes field then '"' :: doubled field else field

/-- What ends a field. -/
def closing (field : List Char) : List Char :=
  if needsQuotes field then ['"'] else []

/-- The fields with commas between them, without what ends the last one. -/
def unended : List (List Char) → List Char
  | [] => []
  | [field] => opened field
  | field :: rest => opened field ++ closing field ++ ',' :: unended rest

/-- The fields with commas between them. -/
def fieldsText (fields : List (List Char)) : List Char :=
  unended fields ++ (fields.getLast?.map closing).getD []

/-- The line of a row. -/
def line (row : Row) : List Char :=
  let text := fieldsText (row.map String.toList)
  if text = [] then ['"', '"', '\n'] else text ++ ['\n']

/-- What stays of a row that does not end. -/
def remnant (row : Row) : List Char :=
  unended (row.map String.toList)

end Row

/-- What a table takes from its rows: its text, and how it ended. -/
structure Table where
  text : List Char
  /-- The number of rows, the header left out. -/
  count : Nat
  /-- The fault of a row that does not fit. -/
  misfit : Option Fault
  /-- The first fault among the rows themselves. -/
  failure : Option Fault

namespace Table

/-- The fault of a row of another length than the first row. -/
def lengthFault (expected found : Nat) : Fault :=
  .output ("CSV error: found record with " ++ toString found ++
    " fields, but the previous record has " ++ toString expected ++ " fields")

/-- The table of some rows below a row of a given number of fields. -/
def below (width : Nat) : List (Except Fault Row) → Table
  | [] => ⟨[], 0, none, none⟩
  | .error fault :: _ => ⟨[], 0, none, some fault⟩
  | .ok row :: rest =>
    if row.length = width then
      let table := below width rest
      { table with text := row.line ++ table.text, count := table.count + 1 }
    else ⟨row.remnant, 0, some (lengthFault width row.length), none⟩

/-- The table of some rows. The header, if there is one, stands before the first row and is
left out where there is no row. -/
def ofRows (header : Option Row) : List (Except Fault Row) → Table
  | [] => ⟨[], 0, none, none⟩
  | .error fault :: _ => ⟨[], 0, none, some fault⟩
  | .ok row :: rest =>
    match header with
    | some header =>
      let table := below header.length (.ok row :: rest)
      { table with text := header.line ++ table.text }
    | none => below row.length (.ok row :: rest)

end Table

/-- Where a table is written to. It takes a text as a whole or not at all. -/
structure Sink where
  /-- The greatest number of bytes, if there is one. -/
  capacity : Option Nat
  /-- What it says when it does not take a text. -/
  complaint : String

namespace Sink

/-- A sink that takes everything. -/
def unlimited : Sink := ⟨none, ""⟩

/-- The sink takes a text. Nothing at all can always be written. -/
def takes (sink : Sink) (text : List Char) : Bool :=
  text.isEmpty || sink.capacity.all fun capacity =>
    (String.ofList text).utf8ByteSize ≤ capacity

/-- The text as far as the sink takes it. -/
def written (sink : Sink) (text : List Char) : String :=
  if sink.takes text then String.ofList text else ""

/-- What writing a table comes to. A fault of writing is told before one of the rows. -/
def result (sink : Sink) (table : Table) : Except Fault Nat :=
  match table.misfit with
  | some fault => .error fault
  | none =>
    if sink.takes table.text then
      match table.failure with
      | some fault => .error fault
      | none => .ok table.count
    else .error (.output sink.complaint)

end Sink

end MetricBridge
