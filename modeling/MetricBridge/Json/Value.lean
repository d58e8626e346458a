/-
# JSON values

Records arrive as JSON objects, and a rejected value is shown as compact JSON. An
object keeps one value per key, the last one given, in the order of the keys; so two
objects with the same members are equal and have the same text. Text has no blanks
between tokens, escapes what has to be escaped and nothing else, and writes numbers in the
layout of JSON.
-/

import MetricBridge.Binary64.Layout
import MetricBridge.Json.Token

namespace MetricBridge.Json

/-- A JSON value. -/
inductive Value where
  | null
  | boolean (value : Bool)
  | number (value : Number)
  | string (value : String)
  | list (items : List Value)
  | object (members : List (String × Value))

instance : Inhabited Value := ⟨Value.null⟩

/-- The text of a number. -/
def Number.text : Number → List Char
  | .whole n => Decimal.integer n
  | .real value =>
    if value.isFinite then Binary64.Layout.json.write value else ['n', 'u', 'l', 'l']

/-- Two hexadecimal digits. -/
def hexPair (n : Nat) : List Char :=
  [Nat.digitChar (n / 16), Nat.digitChar (n % 16)]

/-- One character inside a JSON string. -/
def stringChar (c : Char) : List Char :=
  if c = '"' then ['\\', '"']
  else if c = '\\' then ['\\', '\\']
  else if c = '\n' then ['\\', 'n']
  else if c = '\r' then ['\\', 'r']
  else if c = '\t' then ['\\', 't']
  else if c = '\x08' then ['\\', 'b']
  else if c = '\x0c' then ['\\', 'f']
  else if c.toNat < 0x20 then ['\\', 'u', '0', '0'] ++ hexPair c.toNat
  else [c]

/-- A string in quotes. -/
def stringText (text : String) : List Char :=
  '"' :: text.toList.flatMap stringChar ++ ['"']

mutual

/-- The compact text of a value. -/
def Value.text : Value → List Char
  | .null => ['n', 'u', 'l', 'l']
  | .boolean true => ['t', 'r', 'u', 'e']
  | .boolean false => ['f', 'a', 'l', 's', 'e']
  | .number value => value.text
  | .string value => stringText value
  | .list items => '[' :: itemsText items ++ [']']
  | .object members => '\x7b' :: membersText members ++ ['\x7d']

/-- The items of a list, separated by commas. -/
def itemsText : List Value → List Char
  | [] => []
  | [item] => item.text
  | item :: rest => item.text ++ ',' :: itemsText rest

/-- The members of an object, separated by commas. -/
def membersText : List (String × Value) → List Char
  | [] => []
  | [(key, value)] => stringText key ++ ':' :: value.text
  | (key, value) :: rest => stringText key ++ ':' :: value.text ++ ',' :: membersText rest

end

/-- The compact text of a value, as a string. -/
def Value.render (value : Value) : String :=
  String.ofList value.text

end MetricBridge.Json
