/-
# Reading any JSON value

The reader for values whose shape is not known beforehand. It is three functions, for
a value, for the items of a list and for the members of an object, and each of them
ends because the text in front of it becomes shorter.
-/

import MetricBridge.Dictionary
import MetricBridge.Json.Sequence
import MetricBridge.Json.Value

namespace MetricBridge.Json

open Text (Shorter)

/-- A word with its first letter already seen. -/
def wordValue (letters : List Char) (value : Value) (c : Char) (rest : List Char) :
    Except Flaw (Value × Shorter (c :: rest)) := do
  let after ← word letters rest
  .ok (value, after.behind c)

mutual

/-- A value, with blanks before it. -/
def value (text : List Char) : Except Flaw (Value × Shorter text) :=
  match htext : skipSpace text with
  | [] => .error (Flaw.here .unfinishedValue [])
  | c :: rest =>
    have hlength : (c :: rest).length ≤ text.length := htext ▸ length_skipSpace_le text
    have _ : rest.length < text.length := Nat.lt_of_succ_le hlength
    let result : Except Flaw (Value × Shorter (c :: rest)) :=
      if c = 'n' then wordValue ['u', 'l', 'l'] .null c rest
      else if c = 't' then wordValue ['r', 'u', 'e'] (.boolean true) c rest
      else if c = 'f' then wordValue ['a', 'l', 's', 'e'] (.boolean false) c rest
      else if c = '"' then do
        let (letters, after) ← stringBody rest
        .ok (.string (String.ofList letters), after.weaken (Nat.le_succ _))
      else if c = '[' then do
        let (items, after) ← items true rest
        .ok (.list items, after.weaken (Nat.le_succ _))
      else if c = '\x7b' then do
        let (given, after) ← members true rest
        .ok (.object (Dictionary.ofList given), after.weaken (Nat.le_succ _))
      else if c = '-' ∨ c.isDigit then do
        let (n, after) ← number (c :: rest)
        .ok (.number n, after)
      else .error (Flaw.next .valueExpected (c :: rest))
    match result with
    | .ok (v, after) => .ok (v, after.weaken hlength)
    | .error flaw => .error flaw
termination_by (text.length, 0)

/-- The items of a list up to and including its closing bracket. -/
def items (first : Bool) (text : List Char) : Except Flaw (List Value × Shorter text) :=
  match nextElement first text with
  | .error flaw => .error flaw
  | .ok none => do
    let after ← listEnd text
    .ok ([], after)
  | .ok (some start) =>
    match value start.1 with
    | .error flaw => .error flaw
    | .ok (item, after) =>
      have hafter : after.1.length < text.length := Nat.lt_of_lt_of_le after.2 start.2
      match items false after.1 with
      | .error flaw => .error flaw
      | .ok (rest, final) => .ok (item :: rest, ⟨final.1, Nat.lt_trans final.2 hafter⟩)
termination_by (text.length, 1)
decreasing_by
  · have := start.2
    omega
  · omega

/-- The members of an object up to and including its closing brace. -/
def members (first : Bool) (text : List Char) :
    Except Flaw (List (String × Value) × Shorter text) :=
  match nextKey first text with
  | .error flaw => .error flaw
  | .ok none => do
    let after ← objectEnd text
    .ok ([], after)
  | .ok (some start) =>
    match stringBody start.1 with
    | .error flaw => .error flaw
    | .ok (key, afterKey) =>
      match colon afterKey.1 with
      | .error flaw => .error flaw
      | .ok afterColon =>
        have hcolon : afterColon.1.length < text.length :=
          Nat.lt_trans afterColon.2 (Nat.lt_trans afterKey.2 start.2)
        match value afterColon.1 with
        | .error flaw => .error flaw
        | .ok (held, after) =>
          have hafter : after.1.length < text.length := Nat.lt_trans after.2 hcolon
          match members false after.1 with
          | .error flaw => .error flaw
          | .ok (rest, final) =>
            .ok ((String.ofList key, held) :: rest, ⟨final.1, Nat.lt_trans final.2 hafter⟩)
termination_by (text.length, 1)

end

/-- Reads a text that holds one JSON value. -/
def parse (text : String) : Except Flaw Value :=
  whole value text

end MetricBridge.Json
