/-
# Splitting texts at a character

`pieces c` cuts a text at every `c`; there is one piece more than there are cuts, so joining
the pieces with `c` gives the text back. `lines` are the pieces between line feeds, where a
line feed at the very end begins no further line, and a carriage return before a line feed
belongs to the end of the line.
-/

namespace MetricBridge.Text

/-- The pieces of a text between the places where a character stands. -/
def pieces (separator : Char) : List Char → List (List Char)
  | [] => [[]]
  | c :: rest =>
    if c = separator then [] :: pieces separator rest
    else
      match pieces separator rest with
      | [] => [[c]]
      | piece :: others => (c :: piece) :: others

/-- No piece is longer than the text. -/
theorem length_le_of_mem_pieces {separator : Char} {text piece : List Char}
    (hmem : piece ∈ pieces separator text) : piece.length ≤ text.length := by
  fun_induction pieces separator text generalizing piece with
  | case1 => simp [List.mem_singleton.1 hmem]
  | case2 rest ih =>
    rcases List.mem_cons.1 hmem with rfl | hmem
    · exact Nat.zero_le _
    · exact Nat.le_succ_of_le (ih hmem)
  | case3 c rest _ hnone ih =>
    rw [List.mem_singleton.1 hmem]
    exact Nat.succ_le_succ (Nat.zero_le _)
  | case4 c rest _ first others hsome ih =>
    rw [hsome] at ih
    rcases List.mem_cons.1 hmem with rfl | hmem
    · exact Nat.succ_le_succ (ih List.mem_cons_self)
    · exact Nat.le_succ_of_le (ih (List.mem_cons_of_mem _ hmem))

/-- A line without the carriage return at its end. -/
def withoutReturn (line : List Char) : List Char :=
  if line.getLast? = some '\r' then line.dropLast else line

/-- The lines of a text. What stands behind the last line feed is a line as it is, unless it is
nothing. -/
def lines (text : List Char) : List (List Char) :=
  let all := pieces '\n' text
  let last := all.getLast?.getD []
  all.dropLast.map withoutReturn ++ if last = [] then [] else [last]

end MetricBridge.Text
