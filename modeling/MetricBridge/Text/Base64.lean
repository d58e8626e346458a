/-
# Base 64

Three bytes are written as four letters; one or two bytes at the end are filled up with equals
signs.
-/

namespace MetricBridge.Base64

/-- The letter of a number below 64. -/
def letter (n : Nat) : Char :=
  if n < 26 then Char.ofNat ('A'.toNat + n)
  else if n < 52 then Char.ofNat ('a'.toNat + (n - 26))
  else if n < 62 then Char.ofNat ('0'.toNat + (n - 52))
  else if n = 62 then '+' else '/'

/-- The letter at a place of a group, counted from the last. -/
def letterAt (place group : Nat) : Char :=
  letter (group / Nat.pow 64 place % 64)

/-- The letters of some bytes. -/
def encode : List UInt8 → List Char
  | a :: b :: c :: rest =>
    let group := (a.toNat * 256 + b.toNat) * 256 + c.toNat
    letterAt 3 group :: letterAt 2 group :: letterAt 1 group :: letterAt 0 group :: encode rest
  | [a, b] =>
    let group := (a.toNat * 256 + b.toNat) * 256
    [letterAt 3 group, letterAt 2 group, letterAt 1 group, '=']
  | [a] =>
    let group := a.toNat * 65536
    [letterAt 3 group, letterAt 2 group, '=', '=']
  | [] => []

end MetricBridge.Base64
