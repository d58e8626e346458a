/-
# Payloads read back

A payload of points whose names hold no blank has exactly one line a point, in their order,
and each line says the name, the value and the second of its point. Nothing of a name but its
blanks matters, because the other two fields never hold one.
-/

import Mathlib
import MetricBridge.Ingest.Plaintext
import MetricBridge.Proofs.Binary64.ReadBack
import MetricBridge.Proofs.Decimal.Numerals
import MetricBridge.Proofs.Text.Lines
import MetricBridge.Proofs.Time.Order

namespace MetricBridge.Plaintext

/-- A name that the line protocol can carry. -/
def IsPlainName (name : String) : Prop :=
  ∀ c ∈ name.toList, Text.isBlank c = false

/-- The line of a point without its line feed. -/
def body (point : Point) : List Char :=
  point.name.toList ++ ' ' :: Binary64.Layout.line.write point.value ++
    ' ' :: Decimal.integer point.time.second

/-- What the line of a point says. -/
def readingOf (point : Point) : Reading :=
  ⟨point.name, point.value, point.time.second⟩

theorem line_eq_body (point : Point) : line point = body point ++ ['\n'] := by
  rw [line, body]

/-- A blank character stands in no text that has no blanks. -/
theorem not_mem_of_isBlank {blank : Char} (hblank : Text.isBlank blank = true)
    {text : List Char} (hplain : ∀ c ∈ text, Text.isBlank c = false) : blank ∉ text := by
  intro hmem
  rw [hplain blank hmem] at hblank
  cases hblank

/-- The only blanks of a line are the two spaces. -/
theorem not_mem_body {point : Point} (hplain : IsPlainName point.name) {blank : Char}
    (hblank : Text.isBlank blank = true) (hspace : blank ≠ ' ') : blank ∉ body point := by
  have hname := not_mem_of_isBlank hblank hplain
  have hvalue : blank ∉ Binary64.Layout.line.write point.value :=
    not_mem_of_isBlank hblank fun _ => Binary64.not_isBlank_of_mem_write_line
  have hsecond : blank ∉ Decimal.integer point.time.second :=
    not_mem_of_isBlank hblank fun _ => Decimal.not_isBlank_of_mem_integer
  simp [body, hname, hvalue, hsecond, hspace]

theorem newline_not_mem_body {point : Point} (hplain : IsPlainName point.name) :
    '\n' ∉ body point :=
  not_mem_body hplain (by decide) (by decide)

/-- The fields of a line are those of its point. -/
theorem pieces_body {point : Point} (hplain : IsPlainName point.name) :
    Text.pieces ' ' (body point) = [point.name.toList, Binary64.Layout.line.write point.value,
      Decimal.integer point.time.second] := by
  have hspace : Text.isBlank ' ' = true := by decide
  have hname := not_mem_of_isBlank hspace hplain
  have hvalue : ' ' ∉ Binary64.Layout.line.write point.value :=
    not_mem_of_isBlank hspace fun _ => Binary64.not_isBlank_of_mem_write_line
  have hsecond : ' ' ∉ Decimal.integer point.time.second :=
    not_mem_of_isBlank hspace fun _ => Decimal.not_isBlank_of_mem_integer
  rw [body, List.append_assoc, List.cons_append, Text.pieces_append hname,
    Text.pieces_append hvalue, Text.pieces_of_not_mem hsecond]

/-- The second of an instant has 64 bits. -/
theorem second?_integer (time : Time.Instant) :
    second? (Decimal.integer time.second) = some time.second := by
  have hsmall := time.natAbs_second_lt
  rw [second?, Decimal.integer?_integer, Option.filter_some, if_pos]
  simp only [Nat.pow_eq, Bool.and_eq_true, decide_eq_true_eq]
  omega

/-- A line says what its point is. -/
theorem reading?_body {point : Point} (hplain : IsPlainName point.name) :
    reading? (body point) = some (readingOf point) := by
  simp only [reading?, pieces_body hplain, Binary64.read?_write .line, second?_integer,
    Option.bind_eq_bind, Option.bind_some, String.ofList_toList, readingOf]

/-- A payload is the lines of its points, each closed by a line feed. -/
theorem toList_encode (points : List Point) :
    (encode points).toList = (points.map body).flatMap (· ++ ['\n']) := by
  rw [encode, String.toList_ofList, List.flatMap_map]
  exact List.flatMap_congr fun point _ => line_eq_body point

theorem newline_not_mem_of_mem_map_body {points : List Point}
    (hplain : ∀ point ∈ points, IsPlainName point.name) :
    ∀ text ∈ points.map body, '\n' ∉ text := by
  intro text hmem
  obtain ⟨point, hpoint, rfl⟩ := List.mem_map.1 hmem
  exact newline_not_mem_body (hplain point hpoint)

/-- The lines of a payload are those of its points. -/
theorem lines_encode {points : List Point} (hplain : ∀ point ∈ points, IsPlainName point.name) :
    Text.lines (encode points).toList = points.map body := by
  rw [toList_encode, Text.lines_flatMap]
  intro text hmem
  obtain ⟨point, hpoint, rfl⟩ := List.mem_map.1 hmem
  exact ⟨newline_not_mem_body (hplain point hpoint),
    not_mem_body (hplain point hpoint) (by decide) (by decide)⟩

end MetricBridge.Plaintext
