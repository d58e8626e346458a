/-
# Names of hosts in ASCII

The names of hosts are in small letters, and a label with other characters than those of ASCII has
an ASCII form: the characters of ASCII, and behind them the distances from one of the others to
the next, in digits of varying weight. A label that is given in this form has to be the form of
some label.

The naming here is a plain one. It knows letters and digits of all scripts, but not what becomes of
capital letters outside of ASCII or of characters that are written in several ways.
-/

import MetricBridge.Text.Alphanumeric
import MetricBridge.Url.Host

namespace MetricBridge.Url

/-! ### Writing the ASCII form -/

/-- How the bias of the ASCII form changes after a character. -/
def adaptFrom : Nat → Nat → Nat → Nat
  | 0, _, bias => bias
  | fuel + 1, delta, bias =>
    if 455 < delta then adaptFrom fuel (delta / 35) (bias + 36)
    else bias + 36 * delta / (delta + 38)

/-- The bias after a distance, `count` characters being written. -/
def adapt (delta count : Nat) (first : Bool) : Nat :=
  let scaled := if first then delta / 700 else delta / 2
  adaptFrom scaled (scaled + scaled / count) 0

/-- A digit of thirty-six: letters first. -/
def digit36 (n : Nat) : Char :=
  if n < 26 then Char.ofNat ('a'.toNat + n) else Char.ofNat ('0'.toNat + (n - 26))

/-- A distance in digits of varying weight. -/
def distance (bias : Nat) : Nat → Nat → Nat → List Char
  | 0, _, _ => []
  | fuel + 1, place, n =>
    let threshold := max 1 (min 26 (place - bias))
    if n < threshold then [digit36 n]
    else
      let weight := 36 - threshold
      digit36 (threshold + (n - threshold) % weight) ::
        distance bias fuel (place + 36) ((n - threshold) / weight)

/-- What the ASCII form knows while it is written. -/
structure LabelState where
  delta : Nat
  bias : Nat
  written : Nat
  first : Bool
  text : List Char

/-- One character of a label, while those of a code point are inserted. -/
def labelChar (codePoint : Nat) (state : LabelState) (c : Char) : LabelState :=
  if c.toNat < codePoint then { state with delta := state.delta + 1 }
  else if c.toNat = codePoint then
    { delta := 0
      bias := adapt state.delta (state.written + 1) state.first
      written := state.written + 1
      first := false
      text := state.text ++ distance state.bias (state.delta + 1) 36 state.delta }
  else state

/-- All characters of one code point, which is the next greater one after `previous`. -/
def labelCodePoint (label : List Char) (previous codePoint : Nat) (state : LabelState) :
    LabelState :=
  let ahead := { state with
    delta := state.delta + (codePoint - previous) * (state.written + 1) }
  label.foldl (labelChar codePoint) ahead

/-- The ASCII form of a label. -/
def asciiLabel (label : List Char) : List Char :=
  let basic := label.filter fun c => c.toNat < 0x80
  if basic.length = label.length then label
  else
    let others := (label.filter fun c => 0x80 ≤ c.toNat).map Char.toNat
    let codePoints := (others.mergeSort fun a b => a ≤ b).eraseDups
    let start : LabelState :=
      ⟨0, 72, basic.length, true, if basic = [] then [] else basic ++ ['-']⟩
    let final := codePoints.foldl
      (fun (state, previous) codePoint =>
        let state := labelCodePoint label previous codePoint state
        ({ state with delta := state.delta + 1 }, codePoint + 1))
      (start, 0x80)
    ['x', 'n', '-', '-'] ++ final.1.text

/-- Labels with points between them. -/
def joinLabels : List (List Char) → List Char
  | [] => []
  | [label] => label
  | label :: rest => label ++ '.' :: joinLabels rest

/-! ### Reading the ASCII form -/

/-- The value of a digit of thirty-six. -/
def digit36Value? (c : Char) : Option Nat :=
  if 'a' ≤ c ∧ c ≤ 'z' then some (c.toNat - 'a'.toNat)
  else if c.isDigit then some (c.toNat - '0'.toNat + 26)
  else none

/-- The distance in the digits at the beginning of a text, and the text behind them. -/
def distance? (bias place weight value : Nat) : List Char → Option (Nat × List Char)
  | [] => none
  | c :: rest => do
    let digit ← digit36Value? c
    let threshold := max 1 (min 26 (place - bias))
    let next := value + digit * weight
    if digit < threshold then some (next, rest)
    else distance? bias (place + 36) (weight * (36 - threshold)) next rest

/-- What is known while the characters outside of ASCII are put in. -/
structure InsertionState where
  codePoint : Nat
  position : Nat
  bias : Nat
  first : Bool
  chars : List Char

/-- One character is put in, as far from the last one as a distance says. -/
def insertChar? (state : InsertionState) (delta : Nat) : Option InsertionState :=
  let count := state.chars.length + 1
  let codePoint := state.codePoint + (state.position + delta) / count
  let position := (state.position + delta) % count
  if Nat.isValidChar codePoint then
    some ⟨codePoint, position + 1, adapt delta count state.first, false,
      state.chars.insertIdx position (Char.ofNat codePoint)⟩
  else none

/-- All characters of some distances are put in; `fuel` is how many there may be. -/
def insertAll? : Nat → InsertionState → List Char → Option (List Char)
  | _, state, [] => some state.chars
  | 0, _, _ :: _ => none
  | fuel + 1, state, text => do
    let (delta, rest) ← distance? state.bias 36 1 0 text
    insertAll? fuel (← insertChar? state delta) rest

/-- The label that has an ASCII form, given without the letters in front. -/
def unicodeLabel? (form : List Char) : Option (List Char) :=
  let digits := (form.reverse.takeWhile (· ≠ '-')).reverse
  let basic := form.take (form.length - digits.length - 1)
  insertAll? digits.length ⟨0x80, 0, 72, true, basic⟩ digits

/-- The label is an ASCII form of letters and digits. -/
def isAsciiForm (label : List Char) : Bool :=
  (unicodeLabel? (label.drop 4)).any fun chars =>
    asciiLabel chars = label && chars.any (0x80 ≤ ·.toNat) &&
      chars.all fun c => c.toNat < 0x80 || Text.isAlphanumeric c

/-- The ASCII form of a label in small letters, if it has one. -/
def labelForm? (label : List Char) : Option (List Char) :=
  if label.take 4 = ['x', 'n', '-', '-'] then if isAsciiForm label then some label else none
  else some (asciiLabel label)

/-- The ASCII form of a name. -/
def plainNaming : Naming := fun bytes =>
  let text := Utf8.decode bytes
  if Utf8.encode text = bytes then
    ((Text.pieces '.' (text.map Char.toLower)).mapM labelForm?).map joinLabels
  else none

end MetricBridge.Url
