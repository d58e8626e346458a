/-
# Elements and keys

How a list or an object goes on: with another element or key, or with its end. A
comma has to be followed by an element or key, which is why the two positions (first
and later) are told apart. These steps are shared by every reader of lists and
objects, and so are the ends.
-/

import MetricBridge.Json.Token

namespace MetricBridge.Json

open Text (Shorter Within)

/-- The text after its leading blanks, with the fact that it is no longer. -/
def spaced (text : List Char) : Within text :=
  ⟨skipSpace text, length_skipSpace_le text⟩

/-- The text at the next element of a list, or nothing at the closing bracket. -/
def nextElement (first : Bool) (text : List Char) : Except Flaw (Option (Within text)) :=
  match htext : skipSpace text with
  | [] => .error (Flaw.here .unfinishedList [])
  | c :: rest =>
    if c = ']' then .ok none
    else if first then .ok (some (spaced text))
    else if c = ',' then
      match skipSpace rest with
      | [] => .error (Flaw.here .unfinishedValue [])
      | d :: others =>
        if d = ']' then .error (Flaw.next .trailingComma (d :: others))
        else .ok (some ⟨skipSpace rest, by
          have houter := length_skipSpace_le text
          have hinner := length_skipSpace_le rest
          rw [htext] at houter
          simp only [List.length_cons] at houter
          omega⟩)
    else .error (Flaw.next .commaOrBracketExpected (c :: rest))

/-- The text after the quote that opens the next key of an object, or nothing at the
closing brace. -/
def nextKey (first : Bool) (text : List Char) : Except Flaw (Option (Shorter text)) :=
  match htext : skipSpace text with
  | [] => .error (Flaw.here .unfinishedObject [])
  | c :: rest =>
    if c = '\x7d' then .ok none
    else if first then
      if c = '"' then .ok (some ⟨rest, by
        have houter := length_skipSpace_le text
        rw [htext] at houter
        exact Nat.lt_of_succ_le houter⟩)
      else .error (Flaw.next .keyNotString (c :: rest))
    else if c = ',' then
      match hrest : skipSpace rest with
      | [] => .error (Flaw.here .unfinishedValue [])
      | d :: others =>
        if d = '"' then .ok (some ⟨others, by
          have houter := length_skipSpace_le text
          have hinner := length_skipSpace_le rest
          rw [htext] at houter
          rw [hrest] at hinner
          simp only [List.length_cons] at houter hinner
          omega⟩)
        else if d = '\x7d' then .error (Flaw.next .trailingComma (d :: others))
        else .error (Flaw.next .keyNotString (d :: others))
    else .error (Flaw.next .commaOrBraceExpected (c :: rest))

/-- The text after the colon between a key and its value. -/
def colon (text : List Char) : Except Flaw (Shorter text) :=
  match htext : skipSpace text with
  | [] => .error (Flaw.here .unfinishedObject [])
  | c :: rest =>
    if c = ':' then .ok ⟨rest, by
      have houter := length_skipSpace_le text
      rw [htext] at houter
      exact Nat.lt_of_succ_le houter⟩
    else .error (Flaw.next .colonExpected (c :: rest))

/-- The text after the bracket that has to close a list here. -/
def listEnd (text : List Char) : Except Flaw (Shorter text) :=
  match htext : skipSpace text with
  | [] => .error (Flaw.here .unfinishedList [])
  | c :: rest =>
    if c = ']' then .ok ⟨rest, by
      have houter := length_skipSpace_le text
      rw [htext] at houter
      exact Nat.lt_of_succ_le houter⟩
    else if c = ',' then
      let after := skipSpace rest
      .error (Flaw.next (if after.head? = some ']' then .trailingComma else .trailingCharacters)
        after)
    else .error (Flaw.next .trailingCharacters (c :: rest))

/-- The text after the brace that has to close an object here. -/
def objectEnd (text : List Char) : Except Flaw (Shorter text) :=
  match htext : skipSpace text with
  | [] => .error (Flaw.here .unfinishedObject [])
  | c :: rest =>
    if c = '\x7d' then .ok ⟨rest, by
      have houter := length_skipSpace_le text
      rw [htext] at houter
      exact Nat.lt_of_succ_le houter⟩
    else if c = ',' then .error (Flaw.next .trailingComma (c :: rest))
    else .error (Flaw.next .trailingCharacters (c :: rest))

/-- Nothing but blanks may follow a whole text. -/
def ending (text : List Char) : Except Flaw Unit :=
  match skipSpace text with
  | [] => .ok ()
  | c :: rest => .error (Flaw.next .trailingCharacters (c :: rest))

/-- Reads a text that holds one value and nothing else. -/
def whole {α : Type} (reader : Reader α) (text : String) : Except Flaw α := do
  let (value, rest) ← reader text.toList
  ending rest.1
  .ok value

end MetricBridge.Json
