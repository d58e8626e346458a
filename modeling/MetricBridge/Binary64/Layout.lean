/-
# Layouts of doubles

Three formats write doubles, and they agree on the digits: the line protocol,
tables and JSON. A layout is the record of what they do not agree on. The
line protocol is always positional and leaves a whole number without a point. Tables
and JSON are positional between `10 ^ (-5)` and `10 ^ 16`, keep a point in whole numbers, and
use an exponent elsewhere; only JSON gives a positive exponent a sign.
-/

import MetricBridge.Binary64.Shortest

namespace MetricBridge.Binary64

/-- What a format decides about the text of a double. -/
structure Layout where
  /-- Where a tie between two shortest decimals goes. -/
  tie : Tie
  /-- The orders of magnitude written positionally; all of them if absent. -/
  positional : Option (Int × Int)
  /-- Whether a whole number keeps `.0`. -/
  keepsPoint : Bool
  /-- Whether a positive exponent has a plus sign. -/
  signsExponent : Bool

namespace Layout

/-- The layout of the line protocol. -/
def line : Layout where
  tie := Tie.up
  positional := none
  keepsPoint := false
  signsExponent := false

/-- The layout of table cells. -/
def cell : Layout where
  tie := Tie.even
  positional := some (-5, 15)
  keepsPoint := true
  signsExponent := false

/-- The layout of JSON numbers. -/
def json : Layout where
  tie := Tie.even
  positional := some (-5, 15)
  keepsPoint := true
  signsExponent := true

/-- Digits with the decimal point after the first `point` of them, zeros filled in where
the point lies outside the digits. -/
def positionalText (layout : Layout) (digits : List Char) (point : Int) : List Char :=
  if point ≤ 0 then
    ['0', '.'] ++ List.replicate (-point).toNat '0' ++ digits
  else if point < digits.length then
    digits.take point.toNat ++ '.' :: digits.drop point.toNat
  else
    digits ++ List.replicate (point.toNat - digits.length) '0' ++
      if layout.keepsPoint then ['.', '0'] else []

/-- Digits with the point after the first one, and the power of ten it is moved by. -/
def exponentText (layout : Layout) (digits : List Char) (exponent : Int) : List Char :=
  digits.take 1 ++
    (if digits.length ≤ 1 then [] else '.' :: digits.drop 1) ++
    'e' :: (if layout.signsExponent ∧ 0 ≤ exponent then ['+'] else []) ++
    Decimal.integer exponent

/-- The text of a magnitude. -/
def magnitudeText (layout : Layout) (magnitude : Magnitude) : List Char :=
  if magnitude.significand = 0 then
    if layout.keepsPoint then ['0', '.', '0'] else ['0']
  else
    let decimal := magnitude.shortest layout.tie
    let digits := Decimal.digits decimal.coefficient
    let point := decimal.exponent + digits.length
    match layout.positional with
    | none => layout.positionalText digits point
    | some (least, greatest) =>
      if least ≤ point - 1 ∧ point - 1 ≤ greatest then layout.positionalText digits point
      else layout.exponentText digits (point - 1)

/-- The text of a double. -/
def write (layout : Layout) : Binary64 → List Char
  | nan => ['N', 'a', 'N']
  | infinite negative => if negative then ['-', 'i', 'n', 'f'] else ['i', 'n', 'f']
  | finite negative magnitude =>
    if negative then '-' :: layout.magnitudeText magnitude else layout.magnitudeText magnitude

end Layout

end MetricBridge.Binary64
