/-
# Text on a terminal

Characters that a terminal would obey instead of showing are written as escapes when text goes
into the log. Line ends and tabs are left alone.
-/

namespace MetricBridge.Text

/-- One character in the log. -/
def terminalChar (c : Char) : List Char :=
  let n := c.toNat
  let digits := Nat.toDigits 16 n
  if n = 0x1B ∨ n = 0x7F then '\\' :: 'x' :: digits
  else if n = 0x07 ∨ n = 0x08 ∨ n = 0x0C then '\\' :: 'x' :: '0' :: digits
  else if 0x80 ≤ n ∧ n ≤ 0x9F then ['\\', 'u', '\x7b'] ++ digits ++ ['\x7d']
  else [c]

/-- A text in the log. -/
def forTerminal (text : String) : String :=
  String.ofList (text.toList.flatMap terminalChar)

end MetricBridge.Text
