/-
# Reading values of a known shape

Readers for strings, bounded whole numbers, doubles, values that may be null, lists,
and structures. A structure is described by its slots in order. It may be written as
an object, whose keys come in any order and whose unknown keys are passed over, or as
a list with the slots in order, from which trailing slots with a default may be
missing.

A value of the wrong kind is described together with what was expected. The flaw
lies behind the value if that is a single token, and before the opening bracket or
brace otherwise. What is wrong with a structure as a whole (a missing or repeated
slot, too few elements) lies behind the structure's end, as far as that was reached.
-/

import MetricBridge.Binary64.Layout
import MetricBridge.Json.Skip
import MetricBridge.Text.Quoted

namespace MetricBridge.Json

open Text (Shorter)

/-- What kind of value the text starts with, and the text at which to complain about it. -/
def kindOf (text : List Char) : Except Flaw (String × List Char) :=
  match text with
  | [] => .error (Flaw.here .unfinishedValue [])
  | c :: rest =>
    if c = 'n' then do
      let after ← word ['u', 'l', 'l'] rest
      .ok ("null", after.1)
    else if c = 't' then do
      let after ← word ['r', 'u', 'e'] rest
      .ok ("boolean `true`", after.1)
    else if c = 'f' then do
      let after ← word ['a', 'l', 's', 'e'] rest
      .ok ("boolean `false`", after.1)
    else if c = '"' then do
      let (letters, after) ← stringBody rest
      .ok ("string " ++ String.ofList (Text.quoted letters), after.1)
    else if c = '[' then .ok ("sequence", c :: rest)
    else if c = '\x7b' then .ok ("map", c :: rest)
    else if c = '-' ∨ c.isDigit then do
      let (n, after) ← number (c :: rest)
      match n with
      | .whole n => .ok ("integer `" ++ toString n ++ "`", after.1)
      | .real value =>
        let digits := String.ofList (Binary64.Layout.json.write value)
        .ok ("floating point `" ++ digits ++ "`", after.1)
    else .error (Flaw.next .valueExpected (c :: rest))

/-- The complaint about a value of the wrong kind. -/
def wrongKind {α : Type} (expected : String) (text : List Char) : Except Flaw α := do
  let (found, rest) ← kindOf text
  .error (Flaw.here (.wrongKind found expected) rest)

/-- A string. -/
def string (expected : String) : Reader String := fun text =>
  match htext : skipSpace text with
  | '"' :: rest => do
    let (letters, after) ← stringBody rest
    .ok (String.ofList letters, after.weaken (by
      have hlength := length_skipSpace_le text
      rw [htext] at hlength
      exact Nat.le_of_succ_le hlength))
  | other => wrongKind expected other

/-- A string that is read further into something else. -/
def stringAs {α : Type} (expected : String) (read : String → Except String α) : Reader α :=
  fun text => do
    let (content, after) ← string expected text
    match read content with
    | .ok value => .ok (value, after)
    | .error reason => .error (Flaw.here (.badContent reason) after.1)

/-- A number, whatever is then made of it. -/
def numberAs {α : Type} (expected : String)
    (use : Number → Except Problem α) : Reader α := fun text =>
  match htext : skipSpace text with
  | [] => .error (Flaw.here .unfinishedValue [])
  | c :: rest =>
    if c = '-' ∨ c.isDigit then do
      let (n, after) ← number (c :: rest)
      match use n with
      | .ok value => .ok (value, withSpace htext after)
      | .error problem => .error (Flaw.here problem after.1)
    else wrongKind expected (c :: rest)

/-- A whole number below a bound; `expected` names the type. -/
def natural (expected : String) (bound : Nat) : Reader Nat :=
  numberAs expected fun
    | .whole n =>
      if 0 ≤ n ∧ n < bound then .ok n.toNat
      else .error (.wrongValue ("integer `" ++ toString n ++ "`") expected)
    | .real value =>
      let digits := String.ofList (Binary64.Layout.json.write value)
      .error (.wrongKind ("floating point `" ++ digits ++ "`") expected)

/-- A double. -/
def double : Reader Binary64 :=
  numberAs "f64" fun n => .ok n.toBinary64

/-- A value or null. -/
def nullable {α : Type} (reader : Reader α) : Reader (Option α) := fun text =>
  match htext : skipSpace text with
  | 'n' :: rest => do
    let after ← word ['u', 'l', 'l'] rest
    .ok (none, ⟨after.1, by
      have hlength := length_skipSpace_le text
      have hafter := after.2
      rw [htext] at hlength
      simp only [List.length_cons] at hlength
      omega⟩)
  | _ => do
    let (value, after) ← reader text
    .ok (some value, after)

/-- The elements of a list up to and including its closing bracket. -/
def elements {α : Type} (reader : Reader α) (first : Bool) (text : List Char) :
    Except Flaw (List α × Shorter text) :=
  match nextElement first text with
  | .error flaw => .error flaw
  | .ok none => do
    let after ← listEnd text
    .ok ([], after)
  | .ok (some start) =>
    match reader start.1 with
    | .error flaw => .error flaw
    | .ok (item, after) =>
      have hafter : after.1.length < text.length := Nat.lt_of_lt_of_le after.2 start.2
      match elements reader false after.1 with
      | .error flaw => .error flaw
      | .ok (rest, final) => .ok (item :: rest, ⟨final.1, Nat.lt_trans final.2 hafter⟩)
termination_by text.length

/-- A list. -/
def list {α : Type} (reader : Reader α) : Reader (List α) := fun text =>
  match htext : skipSpace text with
  | '[' :: rest => do
    let (items, after) ← elements reader true rest
    .ok (items, after.weaken (by
      have hlength := length_skipSpace_le text
      rw [htext] at hlength
      exact Nat.le_of_succ_le hlength))
  | other => wrongKind "a sequence" other

/-- A part of a structure that is being read: its name, whether it was met, how it is read
into what is known of the structure so far, and whether it may be missing from a
list. -/
structure Slot (σ : Type) where
  name : String
  isMet : σ → Bool
  read : σ → Reader σ
  hasDefault : Bool

namespace Slot

/-- A slot for one part of the draft, which `get` shows and `put` replaces. -/
def of {σ β : Type} (hasDefault : Bool) (name : String) (reader : Reader β)
    (get : σ → Option β) (put : σ → Option β → σ) : Slot σ where
  name := name
  isMet := fun draft => (get draft).isSome
  read := fun draft text => do
    let (value, after) ← reader text
    .ok (put draft (some value), after)
  hasDefault := hasDefault

/-- A slot that has to be filled. -/
def required {σ β : Type} (name : String) (reader : Reader β)
    (get : σ → Option β) (put : σ → Option β → σ) : Slot σ :=
  of false name reader get put

/-- A slot that may be left out. -/
def withDefault {σ β : Type} (name : String) (reader : Reader β)
    (get : σ → Option β) (put : σ → Option β → σ) : Slot σ :=
  of true name reader get put

end Slot

/-- The elements of a list for the slots in order, up to and including the closing
bracket. `index` counts the elements met. -/
def slotElements {σ : Type} (expected : String) (draft : σ) (index : Nat) (text : List Char) :
    List (Slot σ) → Except Flaw (σ × Shorter text)
  | [] => do
    let after ← listEnd text
    .ok (draft, after)
  | slot :: slots =>
    match nextElement (index == 0) text with
    | .error flaw => .error flaw
    | .ok none =>
      if (slot :: slots).all Slot.hasDefault then do
        let after ← listEnd text
        .ok (draft, after)
      else do
        let length := index + ((slot :: slots).takeWhile Slot.hasDefault).length
        let after ← listEnd text
        .error (Flaw.here (.wrongLength length expected) after.1)
    | .ok (some start) =>
      match slot.read draft start.1 with
      | .error flaw => .error flaw
      | .ok (draft, after) =>
        match slotElements expected draft (index + 1) after.1 slots with
        | .error flaw => .error flaw
        | .ok (draft, final) =>
          .ok (draft, ⟨final.1, Nat.lt_trans final.2 (Nat.lt_of_lt_of_le after.2 start.2)⟩)

/-- Where a reader stands after it tried to close an object. -/
def pastObject (text : List Char) : List Char :=
  match skipSpace text with
  | '\x7d' :: rest => rest
  | other => other

/-- The members of an object for the slots, up to and including the closing brace. -/
def slotMembers {σ : Type} (slots : List (Slot σ)) (draft : σ) (first : Bool)
    (text : List Char) : Except Flaw (σ × Shorter text) :=
  match nextKey first text with
  | .error flaw => .error flaw
  | .ok none => do
    let after ← objectEnd text
    .ok (draft, after)
  | .ok (some start) =>
    match stringBody start.1 with
    | .error flaw => .error flaw
    | .ok (key, afterKey) =>
      let name := String.ofList key
      let found := slots.find? fun slot => slot.name = name
      if (found.map fun slot => slot.isMet draft) = some true then
        .error (Flaw.here (.duplicateField name) (pastObject afterKey.1))
      else
        match colon afterKey.1 with
        | .error flaw => .error flaw
        | .ok afterColon =>
          have hcolon : afterColon.1.length < text.length :=
            Nat.lt_trans afterColon.2 (Nat.lt_trans afterKey.2 start.2)
          let taken : Except Flaw (σ × Shorter afterColon.1) :=
            match found with
            | some slot => slot.read draft afterColon.1
            | none => (skipValue afterColon.1).map fun after => (draft, after)
          match taken with
          | .error flaw => .error flaw
          | .ok (draft, after) =>
            have hafter : after.1.length < text.length := Nat.lt_trans after.2 hcolon
            match slotMembers slots draft false after.1 with
            | .error flaw => .error flaw
            | .ok (draft, final) => .ok (draft, ⟨final.1, Nat.lt_trans final.2 hafter⟩)
termination_by text.length

/-- How a structure is read. -/
structure Shape (σ α : Type) where
  /-- The name by which complaints call the structure. -/
  expected : String
  /-- The same with the number of its parts. -/
  expectedLength : String
  slots : List (Slot σ)
  /-- What is known before anything was read. -/
  empty : σ
  /-- The structure, or the first part that is missing. -/
  finish : σ → Except Problem α

/-- A structure written as a list or as an object. -/
def Shape.reader {σ α : Type} (shape : Shape σ α) : Reader α := fun text =>
  let complete (rest : List Char) (hrest : rest.length ≤ text.length)
      (result : Except Flaw (σ × Shorter rest)) : Except Flaw (α × Shorter text) := do
    let (draft, after) ← result
    match shape.finish draft with
    | .ok value => .ok (value, after.weaken hrest)
    | .error problem => .error (Flaw.here problem after.1)
  match htext : skipSpace text with
  | '[' :: rest =>
    complete rest
      (by
        have hlength := length_skipSpace_le text
        rw [htext] at hlength
        exact Nat.le_of_succ_le hlength)
      (slotElements shape.expectedLength shape.empty 0 rest shape.slots)
  | '\x7b' :: rest =>
    complete rest
      (by
        have hlength := length_skipSpace_le text
        rw [htext] at hlength
        exact Nat.le_of_succ_le hlength)
      (slotMembers shape.slots shape.empty true rest)
  | other => wrongKind shape.expected other

/-- The complaint about a pair that ends after `length` elements. -/
def shortPair {α : Type} (length : Nat) (text : List Char) : Except Flaw α := do
  let after ← listEnd text
  .error (Flaw.here (.wrongLength length "a tuple of size 2") after.1)

/-- The two elements of a pair up to and including the closing bracket. -/
def pairElements {α β : Type} (first : Reader α) (second : Reader β) : Reader (α × β) :=
  fun text => do
    match ← nextElement true text with
    | none => shortPair 0 text
    | some start =>
      let (a, afterFirst) ← first start.1
      match ← nextElement false afterFirst.1 with
      | none => shortPair 1 afterFirst.1
      | some later =>
        let (b, afterSecond) ← second later.1
        let final ← listEnd afterSecond.1
        .ok ((a, b), ⟨final.1, by
          have h1 := start.2
          have h2 := afterFirst.2
          have h3 := later.2
          have h4 := afterSecond.2
          have h5 := final.2
          omega⟩)

/-- A pair, written as a list of two elements. -/
def pair {α β : Type} (first : Reader α) (second : Reader β) : Reader (α × β) := fun text =>
  match htext : skipSpace text with
  | '[' :: rest => do
    let (value, after) ← pairElements first second rest
    .ok (value, after.weaken (by
      have hlength := length_skipSpace_le text
      rw [htext] at hlength
      exact Nat.le_of_succ_le hlength))
  | other => wrongKind "a tuple of size 2" other

end MetricBridge.Json
