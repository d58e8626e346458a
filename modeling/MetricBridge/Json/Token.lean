/-
# The tokens of JSON

Blanks, words, numbers and strings. A reader takes a token from the front of a text
and returns what is left, always with the fact that this is shorter than the text; so
every loop over a text that reads a token in each round ends for that reason.

Whole numbers stay whole while they fit 64 bits, with or without a sign; all other
numbers are doubles, and one too great for a finite double is a flaw. Such a number is a
decimal with as many of its leading digits as 64 bits can take, and is rounded in steps; so its
double is not always the nearest one.
-/

import MetricBridge.Binary64.Scaling
import MetricBridge.Json.Flaw
import MetricBridge.Text.Remainder

namespace MetricBridge.Json

open Text (Shorter Within)

/-- A reader of values: the value and the text after it, or a flaw. -/
abbrev Reader (α : Type) := (text : List Char) → Except Flaw (α × Shorter text)

/-- Blanks between tokens: the four of JSON. -/
def isSpace (c : Char) : Bool :=
  c = ' ' || c = '\n' || c = '\t' || c = '\r'

/-- The text after its leading blanks. -/
def skipSpace (text : List Char) : List Char :=
  text.dropWhile isSpace

theorem length_skipSpace_le (text : List Char) : (skipSpace text).length ≤ text.length :=
  (List.dropWhile_suffix isSpace).length_le

/-- What is left of a text after its blanks is shorter than the text with them. -/
def withSpace {text start : List Char} (hstart : skipSpace text = start)
    (rest : Shorter start) : Shorter text :=
  rest.weaken (hstart ▸ length_skipSpace_le text)

/-- The given letters, as the remainder of a word. -/
def word : (letters : List Char) → (text : List Char) →
    Except Flaw (Within text)
  | [], text => .ok (Within.all text)
  | _ :: _, [] => .error (Flaw.here .unfinishedValue [])
  | letter :: letters, c :: text =>
    if c = letter then
      match word letters text with
      | .ok rest => .ok (rest.widen c)
      | .error flaw => .error flaw
    else .error (Flaw.next .wordExpected (c :: text))

/-- A number: whole and within 64 bits, or a double. -/
inductive Number where
  | whole (n : Int)
  | real (value : Binary64)
  deriving DecidableEq

namespace Number

/-- The double nearest to a number. -/
def toBinary64 : Number → Binary64
  | whole n => Binary64.ofInt n
  | real value => value

end Number

/-- The text after its leading digits. -/
def skipDigits (text : List Char) : List Char :=
  text.dropWhile Char.isDigit

theorem length_skipDigits_le (text : List Char) : (skipDigits text).length ≤ text.length :=
  (List.dropWhile_suffix Char.isDigit).length_le

/-- The text after its leading digits, with the fact that it is no longer. -/
def afterDigits (text : List Char) : Within text :=
  ⟨skipDigits text, length_skipDigits_le text⟩

/-- The text after a sign, if there is one. -/
def afterSign (text : List Char) : Within text :=
  ⟨if text.head? = some '-' ∨ text.head? = some '+' then text.drop 1 else text, by
    split <;> simp⟩

/-- The digits before the point and the text after them. No digit may follow a zero in
front. -/
def wholeDigits (text : List Char) : Except Flaw (List Char × Shorter text) :=
  match text with
  | [] => .error (Flaw.here .unfinishedValue [])
  | c :: rest =>
    if c = '0' then
      if rest.head?.any Char.isDigit then .error (Flaw.next .badNumber rest)
      else .ok (['0'], Shorter.tail c rest)
    else if c.isDigit then
      .ok (c :: rest.takeWhile Char.isDigit, (afterDigits rest).behind c)
    else .error (Flaw.next .badNumber (c :: rest))

/-- A part of a number that may be absent: its digits and the text after it. -/
abbrev Part (text : List Char) := List Char × Within text

/-- The point and the digits after it, of which there is at least one. -/
def fractionDigits (text : List Char) : Except Flaw (Option (Part text)) :=
  match text with
  | '.' :: rest =>
    let digits := rest.takeWhile Char.isDigit
    if digits = [] then
      .error (Flaw.next (if rest = [] then .unfinishedValue else .badNumber) rest)
    else .ok (some (digits, (afterDigits rest).widen '.'))
  | _ => .ok none

/-- Whether an exponent is negative, and its digits with the text after them. -/
def exponentDigits (text : List Char) : Except Flaw (Option (Bool × Part text)) :=
  match text with
  | mark :: rest =>
    if mark = 'e' ∨ mark = 'E' then
      let negative := rest.head? = some '-'
      let unsigned := afterSign rest
      let digits := unsigned.1.takeWhile Char.isDigit
      if digits = [] then
        .error (Flaw.next (if unsigned.1 = [] then .unfinishedValue else .badNumber) unsigned.1)
      else .ok (some (negative, digits, (unsigned.trans (afterDigits unsigned.1)).widen mark))
    else .ok none
  | [] => .ok none

/-- The number of leading digits of an exponent after which its value no longer fits 31
bits, if that happens. -/
def exponentOverflow? (digits : List Char) : Option Nat :=
  (List.range (digits.length + 1)).find? fun count =>
    2147483647 < Decimal.value (digits.take count)

/-- Reads on with some digits after a value, as long as it keeps to 64 bits: the value, and the
digits that were not taken. -/
def gather (value : Nat) : List Char → Nat × List Char
  | [] => (value, [])
  | c :: rest =>
    let next := 10 * value + Decimal.digitValue c
    if next < Nat.pow 2 64 then gather next rest else (value, c :: rest)

/-- The leading digits of a number as a decimal. Digits before the point that were not taken count
in the exponent, and those after it are tried again. -/
def leading (whole fraction : List Char) : Decimal :=
  let (value, untakenWhole) := gather 0 whole
  let (coefficient, untakenFraction) := gather value fraction
  ⟨coefficient, untakenWhole.length + untakenFraction.length - fraction.length⟩

/-- The double of a number that is not kept whole. `rest` is the text after the digits of the
exponent. -/
def realNumber (negative : Bool) (leading : Decimal) (exponent : Option (Bool × List Char))
    (rest : List Char) : Except Flaw Binary64 :=
  let (below, digits) := exponent.getD (false, [])
  match exponentOverflow? digits with
  | some count =>
    if leading.coefficient = 0 ∨ below then .ok (.finite negative .zero)
    else .error (Flaw.here .numberTooGreat (digits.drop count ++ rest))
  | none =>
    let power : Int := if below then -(Decimal.value digits : Int) else Decimal.value digits
    match Binary64.Magnitude.ofScaledDecimal? ⟨leading.coefficient, leading.exponent + power⟩ with
    | some magnitude => .ok (.finite negative magnitude)
    | none => .error (Flaw.here .numberTooGreat rest)

/-- A number without a point and without an exponent. -/
def wholeNumber (negative : Bool) (digits rest : List Char) : Except Flaw Number :=
  let n := Decimal.value digits
  if negative then
    if 0 < n ∧ n ≤ Nat.pow 2 63 then .ok (.whole (-(n : Int)))
    else (realNumber true (leading digits []) none rest).map Number.real
  else if n < Nat.pow 2 64 then .ok (.whole n)
  else (realNumber false (leading digits []) none rest).map Number.real

/-- A number after its sign. -/
def unsignedNumber (negative : Bool) : Reader Number := fun text => do
  let (digits, afterWhole) ← wholeDigits text
  let fraction ← fractionDigits afterWhole.1
  match fraction with
  | none =>
    match ← exponentDigits afterWhole.1 with
    | none => do
      let number ← wholeNumber negative digits afterWhole.1
      .ok (number, afterWhole)
    | some (below, exponent, rest) => do
      let value ← realNumber negative (leading digits []) (some (below, exponent)) rest.1
      .ok (.real value, afterWhole.followed rest)
  | some (places, afterFraction) =>
    match ← exponentDigits afterFraction.1 with
    | none => do
      let value ← realNumber negative (leading digits places) none afterFraction.1
      .ok (.real value, afterWhole.followed afterFraction)
    | some (below, exponent, rest) => do
      let value ← realNumber negative (leading digits places) (some (below, exponent)) rest.1
      .ok (.real value, afterWhole.followed (afterFraction.trans rest))

/-- A number. -/
def number : Reader Number := fun text =>
  match text with
  | '-' :: rest => do
    let (value, after) ← unsignedNumber true rest
    .ok (value, after.weaken (Nat.le_succ _))
  | text => unsignedNumber false text

/-- The value of a hexadecimal digit. -/
def hexValue? (c : Char) : Option Nat :=
  if c.isDigit then some (c.toNat - '0'.toNat)
  else if 'a' ≤ c ∧ c ≤ 'f' then some (c.toNat - 'a'.toNat + 10)
  else if 'A' ≤ c ∧ c ≤ 'F' then some (c.toNat - 'A'.toNat + 10)
  else none

/-- Four hexadecimal digits. They are four bytes whatever they are, so a flaw in
them is four bytes further on. -/
def hexQuad : Reader Nat := fun text =>
  if byteCount text < 4 then .error (Flaw.here .unfinishedString [])
  else
    let flaw : Flaw := ⟨.badEscape, byteCount text - 4⟩
    match text with
    | a :: b :: c :: d :: rest =>
      match hexValue? a, hexValue? b, hexValue? c, hexValue? d with
      | some a, some b, some c, some d =>
        .ok (((a * 16 + b) * 16 + c) * 16 + d, ⟨rest, by simp only [List.length_cons]; omega⟩)
      | _, _, _, _ => .error flaw
    | _ => .error flaw

/-- A character outside the surrogates, or the second half of one that is written as a
surrogate pair, after `\u`. -/
def unicodeEscape : Reader Char := fun text => do
  let (unit, rest) ← hexQuad text
  if 0xDC00 ≤ unit ∧ unit ≤ 0xDFFF then .error (Flaw.here .loneSurrogate rest.1)
  else if 0xD800 ≤ unit ∧ unit ≤ 0xDBFF then
    match hrest : rest.1 with
    | '\\' :: 'u' :: after =>
      match hexQuad after with
      | .error flaw => .error flaw
      | .ok (low, final) =>
        if 0xDC00 ≤ low ∧ low ≤ 0xDFFF then
          .ok (Char.ofNat (0x10000 + (unit - 0xD800) * 0x400 + (low - 0xDC00)),
            ⟨final.1, by
              have hfinal := final.2
              have hshort := rest.2
              rw [hrest] at hshort
              simp only [List.length_cons] at hshort
              omega⟩)
        else .error (Flaw.here .loneSurrogate final.1)
    | [] => .error (Flaw.here .unfinishedString [])
    | '\\' :: [] => .error (Flaw.here .unfinishedString [])
    | '\\' :: other => .error (Flaw.next .brokenSurrogatePair other)
    | other => .error (Flaw.next .brokenSurrogatePair other)
  else .ok (Char.ofNat unit, rest)

/-- The character that a letter after a backslash stands for. -/
def simpleEscape? (c : Char) : Option Char :=
  if c = '"' ∨ c = '\\' ∨ c = '/' then some c
  else if c = 'b' then some '\x08'
  else if c = 'f' then some '\x0c'
  else if c = 'n' then some '\n'
  else if c = 'r' then some '\r'
  else if c = 't' then some '\t'
  else none

/-- What follows a backslash. -/
def escape : Reader Char := fun text =>
  match text with
  | [] => .error (Flaw.here .unfinishedString [])
  | c :: rest =>
    if c = 'u' then do
      let (value, after) ← unicodeEscape rest
      .ok (value, after.weaken (Nat.le_succ _))
    else
      match simpleEscape? c with
      | some value => .ok (value, Shorter.tail c rest)
      | none => .error (Flaw.next .badEscape (c :: rest))

/-- The characters up to the closing quote. -/
def stringBody (text : List Char) : Except Flaw (List Char × Shorter text) :=
  match text with
  | [] => .error (Flaw.here .unfinishedString [])
  | c :: rest =>
    if c = '"' then .ok ([], Shorter.tail c rest)
    else if c = '\\' then
      match escape rest with
      | .error flaw => .error flaw
      | .ok (value, after) =>
        match stringBody after.1 with
        | .error flaw => .error flaw
        | .ok (values, final) =>
          .ok (value :: values, (after.trans final).weaken (Nat.le_succ _))
    else if c.toNat < 0x20 then .error (Flaw.next .controlCharacter (c :: rest))
    else
      match stringBody rest with
      | .error flaw => .error flaw
      | .ok (values, final) => .ok (c :: values, final.weaken (Nat.le_succ _))
termination_by text.length
decreasing_by
  · have := after.2
    simp only [List.length_cons]
    omega
  · simp only [List.length_cons]
    omega

/-- Passes over what follows a backslash in a string whose characters do not matter. -/
def skipEscape (text : List Char) : Except Flaw (Shorter text) :=
  match text with
  | [] => .error (Flaw.here .unfinishedString [])
  | c :: rest =>
    if c = 'u' then do
      let (_, after) ← hexQuad rest
      .ok (after.weaken (Nat.le_succ _))
    else if (simpleEscape? c).isSome then .ok (Shorter.tail c rest)
    else .error (Flaw.next .badEscape (c :: rest))

/-- Passes over a string whose characters do not matter, up to its closing quote. -/
def skipString (text : List Char) : Except Flaw (Shorter text) :=
  match text with
  | [] => .error (Flaw.here .unfinishedString [])
  | c :: rest =>
    if c = '"' then .ok (Shorter.tail c rest)
    else if c = '\\' then
      match skipEscape rest with
      | .error flaw => .error flaw
      | .ok after =>
        match skipString after.1 with
        | .error flaw => .error flaw
        | .ok final => .ok ((after.trans final).weaken (Nat.le_succ _))
    else if c.toNat < 0x20 then .error (Flaw.here .controlCharacter (c :: rest))
    else
      match skipString rest with
      | .error flaw => .error flaw
      | .ok final => .ok (final.weaken (Nat.le_succ _))
termination_by text.length
decreasing_by
  · have := after.2
    simp only [List.length_cons]
    omega
  · simp only [List.length_cons]
    omega

end MetricBridge.Json
