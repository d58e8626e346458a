/-
# The decimal with the fewest digits that reads back

A double is written with the fewest digits that identify it. Multiples of a power of
ten form a grid; on every grid only the two neighbours of the double matter, because
if any point of a grid rounds to the double then so does one of these two. The grids
are tried from the coarsest, and the first one with a neighbour that reads back wins;
of two such neighbours the closer one is taken. Exact ties between two neighbours
that both read back are a decision of the format that is written, hence a parameter.

A neighbour counts only if it *is* read back as the same magnitude, and the search
ends in the exact decimal, which always is. So what is found reads back whatever the
starting grid was; no estimate of a logarithm has to be trusted for that.
-/

import MetricBridge.Binary64.Rounding

namespace MetricBridge.Binary64

/-- Where an exact tie between two equally short decimals goes. -/
inductive Tie where
  | up
  | even
  deriving DecidableEq

namespace Magnitude

/-- The magnitude as a decimal without any rounding. -/
def exactDecimal (magnitude : Magnitude) : Decimal :=
  if 0 ≤ magnitude.exponent then ⟨magnitude.significand * Nat.pow 2 magnitude.exponent.toNat, 0⟩
  else ⟨magnitude.significand * Nat.pow 5 (-magnitude.exponent).toNat, magnitude.exponent⟩

/-- The neighbours of the magnitude among the multiples of `10 ^ exponent`, the closer
one first. -/
def neighbours (tie : Tie) (magnitude : Magnitude) (exponent : Int) : List Nat :=
  let numerator := magnitude.fraction.1 * Nat.pow 10 (-exponent).toNat
  let denominator := magnitude.fraction.2 * Nat.pow 10 exponent.toNat
  let below := numerator / denominator
  let remainder := numerator % denominator
  if 2 * remainder < denominator then [below, below + 1]
  else if denominator < 2 * remainder then [below + 1, below]
  else if tie = Tie.even ∧ below % 2 = 0 then [below, below + 1]
  else [below + 1, below]

/-- The neighbour on one grid that reads back, if there is one. -/
def onGrid? (tie : Tie) (magnitude : Magnitude) (exponent : Int) : Option Decimal :=
  ((neighbours tie magnitude exponent).map (Decimal.mk · exponent)).find? fun decimal =>
    decide (ofDecimal? decimal = some magnitude)

/-- The first of `count` grids, each ten times finer than the one before, that holds a
decimal which reads back; the exact decimal if none does. -/
def searchGrids (tie : Tie) (magnitude : Magnitude) : Nat → Int → Decimal
  | 0, _ => magnitude.exactDecimal
  | count + 1, exponent =>
    match onGrid? tie magnitude exponent with
    | some decimal => decimal
    | none => searchGrids tie magnitude count (exponent - 1)

/-- The greatest `k` with `10 ^ k` not above a positive magnitude. -/
def decimalOrder (magnitude : Magnitude) : Int :=
  let (numerator, denominator) := magnitude.fraction
  if denominator ≤ numerator then (Decimal.places (numerator / denominator) : Int) - 1
  else -(Decimal.places ((denominator - 1) / numerator) : Int)

/-- The decimal with the fewest digits that reads back as the magnitude. The first grid
holds no multiple below the magnitude but may hold the power of ten just above it;
seventeen digits always suffice. -/
def shortest (tie : Tie) (magnitude : Magnitude) : Decimal :=
  searchGrids tie magnitude 18 (magnitude.decimalOrder + 1)

end Magnitude

end MetricBridge.Binary64
