/-
# Passing over a value

A value under an unknown key is passed over. It has to be JSON all the same, but less
is asked of it and its flaws are found in other places: strings may hold lone
surrogates, numbers may have any size, and what follows a comma is expected to be the next
item or key, so a comma before a closing bracket or brace is a flaw at that bracket or
brace.
-/

import MetricBridge.Json.Sequence

namespace MetricBridge.Json

open Text (Shorter Within)

/-- Passes over the digits before the point. -/
def skipWhole (text : List Char) : Except Flaw (Shorter text) :=
  match text with
  | [] => .error (Flaw.here .badNumber [])
  | c :: rest =>
    if c = '0' then
      if rest.head?.any Char.isDigit then .error (Flaw.next .badNumber rest)
      else .ok (Shorter.tail c rest)
    else if c.isDigit then .ok ((afterDigits rest).behind c)
    else .error (Flaw.next .badNumber (c :: rest))

/-- Passes over a point and the digits after it. -/
def skipFraction (text : List Char) : Except Flaw (Within text) :=
  match text with
  | '.' :: rest =>
    if rest.head?.any Char.isDigit then .ok ((afterDigits rest).widen '.')
    else .error (Flaw.next .badNumber rest)
  | text => .ok (Within.all text)

/-- Passes over an exponent. -/
def skipExponent (text : List Char) : Except Flaw (Within text) :=
  match text with
  | mark :: rest =>
    if mark = 'e' ∨ mark = 'E' then
      let unsigned := afterSign rest
      if unsigned.1.head?.any Char.isDigit then
        .ok ((unsigned.trans (afterDigits unsigned.1)).widen mark)
      else .error (Flaw.next .badNumber unsigned.1)
    else .ok (Within.all (mark :: rest))
  | [] => .ok (Within.all [])

/-- Passes over a number without its sign. -/
def skipNumber (text : List Char) : Except Flaw (Shorter text) := do
  let afterWhole ← skipWhole text
  let afterFraction ← skipFraction afterWhole.1
  let afterExponent ← skipExponent afterFraction.1
  .ok (afterWhole.followed (afterFraction.trans afterExponent))

/-- Passes over a word with its first letter already seen. -/
def skipWord (letters : List Char) (c : Char) (rest : List Char) :
    Except Flaw (Shorter (c :: rest)) := do
  let after ← word letters rest
  .ok (after.behind c)

/-- Passes over a key and its colon. -/
def skipKey (text : List Char) : Except Flaw (Shorter text) :=
  match htext : skipSpace text with
  | [] => .error (Flaw.here .unfinishedObject [])
  | c :: rest =>
    have hlength : (c :: rest).length ≤ text.length := htext ▸ length_skipSpace_le text
    if c = '"' then do
      let afterKey ← skipString rest
      let afterColon ← colon afterKey.1
      .ok ((afterKey.trans afterColon).weaken (Nat.le_of_succ_le hlength))
    else .error (Flaw.next .keyNotString (c :: rest))

mutual

/-- Passes over a value, with blanks before it. -/
def skipValue (text : List Char) : Except Flaw (Shorter text) :=
  match htext : skipSpace text with
  | [] => .error (Flaw.here .unfinishedValue [])
  | c :: rest =>
    have hlength : (c :: rest).length ≤ text.length := htext ▸ length_skipSpace_le text
    have _ : rest.length < text.length := Nat.lt_of_succ_le hlength
    let result : Except Flaw (Shorter (c :: rest)) :=
      if c = 'n' then skipWord ['u', 'l', 'l'] c rest
      else if c = 't' then skipWord ['r', 'u', 'e'] c rest
      else if c = 'f' then skipWord ['a', 'l', 's', 'e'] c rest
      else if c = '"' then do
        let after ← skipString rest
        .ok (after.weaken (Nat.le_succ _))
      else if c = '[' then do
        let after ← skipItems true rest
        .ok (after.weaken (Nat.le_succ _))
      else if c = '\x7b' then do
        let after ← skipMembers true rest
        .ok (after.weaken (Nat.le_succ _))
      else if c = '-' then do
        let after ← skipNumber rest
        .ok (after.weaken (Nat.le_succ _))
      else if c.isDigit then skipNumber (c :: rest)
      else .error (Flaw.next .valueExpected (c :: rest))
    match result with
    | .ok after => .ok (after.weaken hlength)
    | .error flaw => .error flaw
termination_by (text.length, 0)

/-- Passes over the items of a list and its closing bracket. -/
def skipItems (first : Bool) (text : List Char) : Except Flaw (Shorter text) :=
  match htext : skipSpace text with
  | [] => .error (Flaw.here .unfinishedList [])
  | c :: rest =>
    have hlength : (c :: rest).length ≤ text.length := htext ▸ length_skipSpace_le text
    have hrest : rest.length < text.length := Nat.lt_of_succ_le hlength
    if c = ']' then .ok ⟨rest, hrest⟩
    else
      let start : Except Flaw (Within text) :=
        if first then .ok ⟨text, Nat.le_refl _⟩
        else if c = ',' then .ok ⟨rest, Nat.le_of_lt hrest⟩
        else .error (Flaw.next .commaOrBracketExpected (c :: rest))
      match start with
      | .error flaw => .error flaw
      | .ok start =>
        match skipValue start.1 with
        | .error flaw => .error flaw
        | .ok after =>
          have hafter : after.1.length < text.length := Nat.lt_of_lt_of_le after.2 start.2
          match skipItems false after.1 with
          | .error flaw => .error flaw
          | .ok final => .ok ⟨final.1, Nat.lt_trans final.2 hafter⟩
termination_by (text.length, 1)
decreasing_by
  · have := start.2
    omega
  · omega

/-- Passes over the members of an object and its closing brace. -/
def skipMembers (first : Bool) (text : List Char) : Except Flaw (Shorter text) :=
  match htext : skipSpace text with
  | [] => .error (Flaw.here .unfinishedObject [])
  | c :: rest =>
    have hlength : (c :: rest).length ≤ text.length := htext ▸ length_skipSpace_le text
    have hrest : rest.length < text.length := Nat.lt_of_succ_le hlength
    if c = '\x7d' then .ok ⟨rest, hrest⟩
    else
      let start : Except Flaw (Within text) :=
        if first then .ok ⟨text, Nat.le_refl _⟩
        else if c = ',' then .ok ⟨rest, Nat.le_of_lt hrest⟩
        else .error (Flaw.next .commaOrBraceExpected (c :: rest))
      match start with
      | .error flaw => .error flaw
      | .ok start =>
        match skipKey start.1 with
        | .error flaw => .error flaw
        | .ok afterKey =>
          have hkey : afterKey.1.length < text.length := Nat.lt_of_lt_of_le afterKey.2 start.2
          match skipValue afterKey.1 with
          | .error flaw => .error flaw
          | .ok after =>
            have hafter : after.1.length < text.length := Nat.lt_trans after.2 hkey
            match skipMembers false after.1 with
            | .error flaw => .error flaw
            | .ok final => .ok ⟨final.1, Nat.lt_trans final.2 hafter⟩
termination_by (text.length, 1)

end

end MetricBridge.Json
