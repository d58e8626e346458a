/-
# Hosts

The host of a URL is a name or an address. An address of four bytes may be written with
one to four numbers in base ten, eight or sixteen; it is shown with four numbers in base ten.
An address of eight groups stands in brackets and may leave out one run of zeros; it
is shown without the longest one. A name is shown in its ASCII form. Which form that is, and which
bytes are a name at all, is not decided here; it takes tables of all characters, and is given as
a function.
-/

import MetricBridge.Decimal.Digits
import MetricBridge.Text.Lines
import MetricBridge.Text.Percent

namespace MetricBridge.Url

/-- The value of digits in a base, unless one of them is none. -/
def numeral? (base : Nat) (digits : List Char) : Option Nat :=
  digits.foldlM (fun value c => do
    let digit ← Percent.digitValue? c
    if digit < base then some (value * base + digit) else none) 0

/-- A number of an address of four bytes. -/
def part? : List Char → Option Nat
  | [] => none
  | '0' :: x :: rest => if x.toLower = 'x' then numeral? 16 rest else numeral? 8 (x :: rest)
  | text => numeral? 10 text

/-- The labels of a name, without an empty one at the end. -/
def labels (name : List Char) : List (List Char) :=
  let all := Text.pieces '.' name
  if 1 < all.length ∧ all.getLast? = some [] then all.dropLast else all

/-- The last label of a name is a number, so the name has to be an address. -/
def endsInNumber (name : List Char) : Bool :=
  match (labels name).getLast? with
  | none | some [] => false
  | some label => label.all Char.isDigit || (label.take 2 |>.map Char.toLower) = ['0', 'x'] &&
      (part? label).isSome

/-- The number of an address, the last part filling what the others leave. -/
def address? (parts : List Nat) : Option Nat :=
  match parts.reverse with
  | [] => none
  | last :: others =>
    if parts.length ≤ 4 ∧ others.all (· < 256) ∧ last < Nat.pow 256 (5 - parts.length) then
      let head := others.reverse.foldl (fun value part => value * 256 + part) 0
      some (head * Nat.pow 256 (5 - parts.length) + last)
    else none

/-- An address as four numbers. -/
def dotted (address : Nat) : List Char :=
  let byte (place : Nat) := Decimal.digits (address / Nat.pow 256 place % 256)
  byte 3 ++ '.' :: byte 2 ++ '.' :: byte 1 ++ '.' :: byte 0

/-- One group of an address of eight. -/
def group? (text : List Char) : Option Nat :=
  if text ≠ [] ∧ text.length ≤ 4 then numeral? 16 text else none

/-- A byte in base ten without needless zeros. -/
def byte? (text : List Char) : Option Nat := do
  let value ← Decimal.natural? text
  if value < 256 ∧ text = Decimal.digits value then some value else none

/-- The groups of one side of an address; the last two may be written as four bytes. -/
def groups? : List (List Char) → Option (List Nat)
  | [] => some []
  | [last] =>
    if last.contains '.' then do
      match ← (Text.pieces '.' last).mapM byte? with
      | [a, b, c, d] => some [a * 256 + b, c * 256 + d]
      | _ => none
    else (group? last).map fun group => [group]
  | first :: rest => do
    let group ← group? first
    let groups ← groups? rest
    some (group :: groups)

/-- The text before the first pair of colons, and the text after it. -/
def splitGap? : List Char → Option (List Char × List Char)
  | ':' :: ':' :: rest => some ([], rest)
  | c :: rest => (splitGap? rest).map fun (left, right) => (c :: left, right)
  | [] => none

/-- The groups of a side, which may be empty. -/
def side? (text : List Char) : Option (List Nat) :=
  if text = [] then some [] else groups? (Text.pieces ':' text)

/-- The eight groups of an address. -/
def eight? (text : List Char) : Option (List Nat) :=
  match splitGap? text with
  | none => do
    let groups ← side? text
    if groups.length = 8 then some groups else none
  | some (left, right) => do
    let before ← if left.contains '.' then none else side? left
    let after ← side? right
    if before.length + after.length < 8 then
      some (before ++ List.replicate (8 - (before.length + after.length)) 0 ++ after)
    else none

/-- The number of zeros in front. -/
def zeros (groups : List Nat) : Nat :=
  (groups.takeWhile (· = 0)).length

/-- Where the longest run of zeros begins and how long it is, the first one of several. A
single zero is no run. -/
def longestRun (groups : List Nat) : Option (Nat × Nat) :=
  (List.range groups.length).foldl
    (fun found start =>
      let length := zeros (groups.drop start)
      if max 1 ((found.map Prod.snd).getD 0) < length then some (start, length) else found)
    none

/-- Groups with colons between them. -/
def groupsText : List Nat → List Char
  | [] => []
  | [group] => Nat.toDigits 16 group
  | group :: rest => Nat.toDigits 16 group ++ ':' :: groupsText rest

/-- An address in brackets. -/
def bracketed (groups : List Nat) : List Char :=
  let inside :=
    match longestRun groups with
    | none => groupsText groups
    | some (start, length) =>
      groupsText (groups.take start) ++ ':' :: ':' :: groupsText (groups.drop (start + length))
  '[' :: inside ++ [']']

/-- What stands in brackets, if the whole text does. -/
def inBrackets? (text : List Char) : Option (List Char) :=
  if text.getLast? = some ']' then some (text.drop 1).dropLast else none

/-- No host has these characters. -/
def isForbidden (c : Char) : Bool :=
  c.toNat = 0 ||
    c ∈ ['\t', '\n', '\r', ' ', '#', '/', ':', '<', '>', '?', '@', '[', '\\', ']', '^', '|']

/-- No name has these characters either. -/
def isForbiddenInName (c : Char) : Bool :=
  isForbidden c || c.toNat < 0x20 || c = '%' || c.toNat = 0x7F

/-- The ASCII form of the name of a host, if some bytes are one. -/
abbrev Naming := List UInt8 → Option (List Char)

/-- The host of a URL with a scheme whose hosts are names or addresses. -/
def host? (naming : Naming) (text : List Char) : Option (List Char) :=
  if text.head? = some '[' then (inBrackets? text).bind fun inside => (eight? inside).map bracketed
  else do
    let name ← naming (Percent.bytes text)
    if name = [] ∨ name.any isForbiddenInName then none
    else if endsInNumber name then do
      let parts ← (labels name).mapM part?
      (address? parts).map dotted
    else some name

/-- Characters that are written with a percent sign wherever they stand. -/
def isControl (c : Char) : Bool :=
  c.toNat < 0x20 || c.toNat = 0x7F

/-- The host of a URL with any other scheme. -/
def opaqueHost? (text : List Char) : Option (List Char) :=
  if text.head? = some '[' then (inBrackets? text).bind fun inside => (eight? inside).map bracketed
  else if text.any isForbidden then none
  else some (Percent.url isControl text)

end MetricBridge.Url
