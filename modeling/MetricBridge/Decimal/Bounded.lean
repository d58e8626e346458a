/-
# Numerals below a bound

Whole numbers in settings are digits with an optional plus sign in front. The digits are
taken one by one, and the first one that is no digit or makes the number too
great is the reason why the text is refused; so what comes after it does not matter.
-/

import MetricBridge.Decimal.Digits

namespace MetricBridge.Decimal

/-- Why a text is no number below the bound. -/
inductive NumeralError where
  | empty
  | invalidDigit
  | tooLarge
  deriving DecidableEq

namespace NumeralError

/-- The wording of each reason. -/
def message : NumeralError → String
  | empty => "cannot parse integer from empty string"
  | invalidDigit => "invalid digit found in string"
  | tooLarge => "number too large to fit in target type"

end NumeralError

/-- Reads on with some digits after a value. -/
def boundedFrom (bound value : Nat) : List Char → Except NumeralError Nat
  | [] => .ok value
  | c :: rest =>
    if c.isDigit then
      let value := 10 * value + digitValue c
      if value < bound then boundedFrom bound value rest else .error .tooLarge
    else .error .invalidDigit

/-- Reads a whole text as a number below a bound. -/
def bounded (bound : Nat) : List Char → Except NumeralError Nat
  | [] => .error .empty
  | ['+'] => .error .invalidDigit
  | '+' :: rest => boundedFrom bound 0 rest
  | text => boundedFrom bound 0 text

end MetricBridge.Decimal
