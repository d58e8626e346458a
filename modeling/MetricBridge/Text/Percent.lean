/-
# Percent encoding

A byte is written as a percent sign and two hexadecimal digits in capitals. The form of query
strings leaves letters, digits and four signs as they are and writes a space as
a plus sign. The parts of a URL leave most of ASCII as it is; which characters they write is
up to the part.
-/

import MetricBridge.Text.Utf8

namespace MetricBridge.Percent

/-- A digit of sixteen, in capitals. -/
def hexDigit (n : Nat) : Char :=
  (Nat.digitChar n).toUpper

/-- A byte with a percent sign. -/
def escape (byte : UInt8) : List Char :=
  ['%', hexDigit (byte.toNat / 16), hexDigit (byte.toNat % 16)]

/-- Letters, digits and the signs that a query string leaves as they are. -/
def isPlain (c : Char) : Bool :=
  c.isAlphanum || c = '*' || c = '-' || c = '.' || c = '_'

/-- One byte in a query string. -/
def formByte (byte : UInt8) : List Char :=
  let c := Char.ofNat byte.toNat
  if isPlain c then [c] else if c = ' ' then ['+'] else escape byte

/-- A text in a query string. -/
def form (text : String) : List Char :=
  (Utf8.encode text.toList).flatMap formByte

/-- Names and values as a query string. -/
def query : List (String × String) → List Char
  | [] => []
  | [(name, value)] => form name ++ '=' :: form value
  | (name, value) :: rest => form name ++ '=' :: form value ++ '&' :: query rest

/-- A character in a part of a URL that writes some of ASCII and everything else. -/
def urlChar (isWritten : Char → Bool) (c : Char) : List Char :=
  if c.toNat < 0x80 && !isWritten c then [c] else (Utf8.encode [c]).flatMap escape

/-- A text in a part of a URL. -/
def url (isWritten : Char → Bool) (text : List Char) : List Char :=
  text.flatMap (urlChar isWritten)

/-- The value of a hexadecimal digit. -/
def digitValue? (c : Char) : Option Nat :=
  if c.isDigit then some (c.toNat - '0'.toNat)
  else if 'a' ≤ c.toLower ∧ c.toLower ≤ 'f' then some (c.toLower.toNat - 'a'.toNat + 10)
  else none

/-- The byte of two hexadecimal digits. -/
def byte? (high low : Char) : Option UInt8 := do
  let high ← digitValue? high
  let low ← digitValue? low
  some (UInt8.ofNat (high * 16 + low))

/-- The bytes of a text in which bytes may be written with percent signs. -/
def bytes : List Char → List UInt8
  | '%' :: high :: low :: rest =>
    match byte? high low with
    | some byte => byte :: bytes rest
    | none => Utf8.encode ['%'] ++ bytes (high :: low :: rest)
  | c :: rest => Utf8.encode [c] ++ bytes rest
  | [] => []

end MetricBridge.Percent
