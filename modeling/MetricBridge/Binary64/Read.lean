/-
# Reading doubles from text

A number in a filter or a line is an optional sign followed by one of the words for
infinity or NaN in any letter case, or by a decimal: digits, an optional point with
more digits, at least one digit in all, and an optional exponent that has digits of
its own. The value is the nearest double, an infinity where that is too great.
-/

import MetricBridge.Binary64.Rounding

namespace MetricBridge.Binary64

/-- The exponent after the mantissa: nothing at all, or `e`, an optional sign and digits. -/
def exponent? : List Char → Option Int
  | [] => some 0
  | mark :: rest => if mark.toLower = 'e' then Decimal.integer? rest else none

/-- An unsigned decimal that fills the whole text. -/
def decimal? (text : List Char) : Option Decimal :=
  let (whole, afterWhole) := Decimal.spanDigits text
  let (fraction, afterFraction) :=
    match afterWhole with
    | '.' :: rest => Decimal.spanDigits rest
    | rest => ([], rest)
  if whole = [] ∧ fraction = [] then none
  else (exponent? afterFraction).map fun exponent =>
    ⟨Decimal.value (whole ++ fraction), exponent - fraction.length⟩

/-- An unsigned number: a word or a decimal. -/
def unsigned? (negative : Bool) (text : List Char) : Option Binary64 :=
  let word := String.ofList (text.map Char.toLower)
  if word = "inf" ∨ word = "infinity" then some (infinite negative)
  else if word = "nan" then some nan
  else (decimal? text).map (ofDecimal negative)

/-- A number that fills the whole text. -/
def read? : List Char → Option Binary64
  | '-' :: rest => unsigned? true rest
  | '+' :: rest => unsigned? false rest
  | text => unsigned? false text

end MetricBridge.Binary64
