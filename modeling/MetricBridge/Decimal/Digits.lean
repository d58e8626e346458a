/-
# Decimal numerals of natural numbers and integers

Reading and writing of whole numbers in ASCII digits. A numeral is read by Horner's
rule, so leading zeros are harmless and the empty list of digits has the value zero;
readers that need at least one digit ask for it themselves.
-/

namespace MetricBridge.Decimal

/-- The value of one ASCII digit; anything else has the value of its distance from `0`. -/
def digitValue (c : Char) : Nat :=
  c.toNat - '0'.toNat

/-- The value of a list of digits, most significant first, continuing a value. -/
def valueFrom (start : Nat) (digits : List Char) : Nat :=
  digits.foldl (fun value c => 10 * value + digitValue c) start

/-- The value of a list of digits, most significant first. -/
def value (digits : List Char) : Nat :=
  valueFrom 0 digits

/-- Splits a text after its leading ASCII digits. -/
def spanDigits (text : List Char) : List Char × List Char :=
  (text.takeWhile Char.isDigit, text.dropWhile Char.isDigit)

/-- The digits of a natural number, most significant first, without leading zeros. -/
def digits (n : Nat) : List Char :=
  Nat.toDigits 10 n

/-- The numeral of an integer: a minus sign for negative ones, nothing for others. -/
def integer (n : Int) : List Char :=
  if n < 0 then '-' :: digits n.natAbs else digits n.natAbs

/-- The numeral of a natural number in at least `width` places, zeros in front. -/
def padded (width n : Nat) : List Char :=
  let numeral := digits n
  List.replicate (width - numeral.length) '0' ++ numeral

/-- How many decimal places a natural number has; none for zero. -/
def places (n : Nat) : Nat :=
  if n = 0 then 0 else places (n / 10) + 1

/-- Reads a whole text as a natural number: at least one digit and nothing else. -/
def natural? (text : List Char) : Option Nat :=
  if text ≠ [] ∧ text.all Char.isDigit then some (value text) else none

/-- Reads a whole text as an integer: an optional sign, then a natural number. -/
def integer? : List Char → Option Int
  | '-' :: rest => (natural? rest).map fun n => -(n : Int)
  | '+' :: rest => (natural? rest).map Int.ofNat
  | text => (natural? text).map Int.ofNat

/-- The two parts of a split give the text back. -/
theorem spanDigits_append (text : List Char) :
    (spanDigits text).1 ++ (spanDigits text).2 = text :=
  List.takeWhile_append_dropWhile

/-- Reading on from a value is reading the whole. -/
theorem valueFrom_append (start : Nat) (left right : List Char) :
    valueFrom start (left ++ right) = valueFrom (valueFrom start left) right := by
  simp [valueFrom, List.foldl_append]

end MetricBridge.Decimal
