/-
# Quoted text in messages

Messages that name a piece of input put it in double quotes. The quote and the
backslash are preceded by a backslash, line feed, carriage return, tab and the null
character have letters, and every other character that is not shown is written as
its code point in hexadecimal. A single quote is left alone.
-/

import MetricBridge.Text.Printable

namespace MetricBridge.Text

/-- The code point in lower-case hexadecimal without padding, in braces after a `u`. -/
def codePointEscape (c : Char) : List Char :=
  ['\\', 'u', '\x7b'] ++ Nat.toDigits 16 c.toNat ++ ['\x7d']

/-- One character inside quotes. -/
def quotedChar (c : Char) : List Char :=
  if c = '"' then ['\\', '"']
  else if c = '\\' then ['\\', '\\']
  else if c = '\n' then ['\\', 'n']
  else if c = '\r' then ['\\', 'r']
  else if c = '\t' then ['\\', 't']
  else if c = '\x00' then ['\\', '0']
  else if isShown c then [c]
  else codePointEscape c

/-- The text in double quotes. -/
def quoted (text : List Char) : List Char :=
  '"' :: text.flatMap quotedChar ++ ['"']

/-- The text in double quotes, as a string. -/
def quote (text : String) : String :=
  String.ofList (quoted text.toList)

end MetricBridge.Text
