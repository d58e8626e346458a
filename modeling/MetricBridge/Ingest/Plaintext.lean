/-
# The line protocol

A point is sent as one line: its name, its value and its second since the epoch, with single
spaces between them and a line feed behind. A payload is the lines of its points
one after the other, so the payload of two lists together is the two payloads together.

A store reads a payload line by line. A line that does not have three fields, or whose
fields are no number and no second of 64 bits, says nothing.
-/

import MetricBridge.Binary64.Layout
import MetricBridge.Binary64.Read
import MetricBridge.Decimal.Digits
import MetricBridge.Point
import MetricBridge.Text.Lines

namespace MetricBridge.Plaintext

/-- The line of a point. -/
def line (point : Point) : List Char :=
  point.name.toList ++ ' ' :: Binary64.Layout.line.write point.value ++
    ' ' :: Decimal.integer point.time.second ++ ['\n']

/-- The payload of some points. -/
def encode (points : List Point) : String :=
  String.ofList (points.flatMap line)

/-- What a line says: a value for a name at a second. -/
structure Reading where
  name : String
  value : Binary64
  second : Int
  deriving DecidableEq

/-- A second of 64 bits. -/
def second? (text : List Char) : Option Int :=
  (Decimal.integer? text).filter fun second =>
    -(Nat.pow 2 63 : Nat) ≤ second && second < (Nat.pow 2 63 : Nat)

/-- What a line without its line feed says. -/
def reading? (line : List Char) : Option Reading :=
  match Text.pieces ' ' line with
  | [name, value, second] => do
    let value ← Binary64.read? value
    let second ← second? second
    some ⟨String.ofList name, value, second⟩
  | _ => none

end MetricBridge.Plaintext
