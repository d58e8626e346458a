/-
# Patterns of names

Names are cut into segments by points, and a pattern is matched segment by segment. In
a segment `*` stands for any characters, `?` for any one, and braces for one of the alternatives
between their commas; everything else stands for itself. Braces are
taken as far as the first closing one, and an opening brace without one matches
nothing.
-/

import MetricBridge.Text.Lines
import MetricBridge.Text.Remainder

namespace MetricBridge.Glob

/-- What is left of a text when any number of characters is dropped. -/
def suffixes : List Char → List (List Char)
  | [] => [[]]
  | c :: rest => (c :: rest) :: suffixes rest

/-- The text before the first closing brace and the text after it. -/
def splitBrace? : List Char → Option (List Char × List Char)
  | [] => none
  | c :: rest =>
    if c = '\x7d' then some ([], rest)
    else (splitBrace? rest).map fun (inside, after) => (c :: inside, after)

/-- The two sides of a closing brace are the text without it. -/
theorem length_splitBrace? {text inside after : List Char}
    (hsplit : splitBrace? text = some (inside, after)) :
    inside.length + after.length + 1 = text.length := by
  induction text generalizing inside with
  | nil => cases hsplit
  | cons c rest ih =>
    unfold splitBrace? at hsplit
    split at hsplit
    · cases hsplit
      simp
    · obtain ⟨⟨inner, final⟩, hinner, heq⟩ := Option.map_eq_some_iff.1 hsplit
      cases heq
      have hlength := ih hinner
      simp only [List.length_cons]
      omega

/-- What may stand for braces and the text after them: each alternative with that text behind
it. `rest` is the text after the opening brace; there is no candidate if no brace closes. -/
def candidates (rest : List Char) : List (Text.Within rest) :=
  match hsplit : splitBrace? rest with
  | none => []
  | some (inside, after) =>
    (Text.pieces ',' inside).attach.map fun ⟨alternative, hmem⟩ =>
      ⟨alternative ++ after, by
        have hlength := length_splitBrace? hsplit
        have hpiece := Text.length_le_of_mem_pieces hmem
        simp only [List.length_append]
        omega⟩

/-- A segment of a name fits a segment of a pattern. -/
def segmentFits (pattern segment : List Char) : Bool :=
  match pattern with
  | [] => segment.isEmpty
  | c :: rest =>
    if c = '*' then (suffixes segment).any fun suffix => segmentFits rest suffix
    else if c = '?' then
      match segment with
      | [] => false
      | _ :: others => segmentFits rest others
    else if c = '\x7b' then
      (candidates rest).any fun candidate => segmentFits candidate.1 segment
    else
      match segment with
      | [] => false
      | d :: others => c = d && segmentFits rest others
termination_by pattern.length
decreasing_by
  · exact Nat.lt_succ_self _
  · exact Nat.lt_succ_self _
  · exact Nat.lt_succ_of_le candidate.2
  · exact Nat.lt_succ_self _

/-- A name fits a pattern: segment by segment, with as many segments. -/
def fits (pattern name : List Char) : Bool :=
  let patterns := Text.pieces '.' pattern
  let segments := Text.pieces '.' name
  patterns.length = segments.length &&
    (patterns.zip segments).all fun (pattern, segment) => segmentFits pattern segment

end MetricBridge.Glob
