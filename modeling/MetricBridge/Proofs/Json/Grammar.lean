/-
# The grammar of JSON

JSON texts, as relations between what is said and its spellings, without a word
about how they are read. Blanks may stand around every token. A character of a string may stand for
itself, or be a letter behind a backslash, or one or two numbers of four hexadecimal digits; so a
string, and with it a key of an object, has many spellings. A value is a word, a number, a string, a
list or an object.

Where only the form of a text matters and not what it says, less is asked of strings: the numbers of
four digits may be any.
-/

import Mathlib
import MetricBridge.Proofs.Decimal.Numerals
import MetricBridge.Json.Token

namespace MetricBridge.Json

open Decimal (IsDigits)

/-- Blanks between tokens, or none. -/
def IsGap (gap : List Char) : Prop :=
  ∀ c ∈ gap, isSpace c = true

instance (gap : List Char) : Decidable (IsGap gap) :=
  List.decidableBAll (fun c => isSpace c = true) gap

/-- A value may end before this text. -/
def EndsValue (rest : List Char) : Prop :=
  ∀ c ∈ rest.head?, isSpace c = true ∨ c ∈ [',', ']', '\x7d']

/-! ### Strings -/

/-- A hexadecimal digit of either case. -/
def IsHexDigit (n : Nat) (c : Char) : Prop :=
  n < 16 ∧ (c = Nat.digitChar n ∨ c = (Nat.digitChar n).toUpper)

instance (n : Nat) (c : Char) : Decidable (IsHexDigit n c) :=
  inferInstanceAs (Decidable (n < 16 ∧ (c = Nat.digitChar n ∨ c = (Nat.digitChar n).toUpper)))

/-- A number of sixteen bits in four hexadecimal digits. -/
inductive IsQuad : (n : Nat) → (digits : List Char) → Prop
  | mk {n₁ n₂ n₃ n₄ : Nat} {c₁ c₂ c₃ c₄ : Char} (h₁ : IsHexDigit n₁ c₁) (h₂ : IsHexDigit n₂ c₂)
      (h₃ : IsHexDigit n₃ c₃) (h₄ : IsHexDigit n₄ c₄) :
      IsQuad (((n₁ * 16 + n₂) * 16 + n₃) * 16 + n₄) [c₁, c₂, c₃, c₄]

/-- The letters that stand behind a backslash for a character. -/
def letters : List (Char × Char) :=
  [('"', '"'), ('\\', '\\'), ('/', '/'), ('b', '\x08'), ('f', '\x0c'), ('n', '\n'), ('r', '\r'),
    ('t', '\t')]

/-- A character that stands for itself in a string. -/
def IsOrdinary (c : Char) : Prop :=
  c ≠ '"' ∧ c ≠ '\\' ∧ 0x20 ≤ c.toNat

instance (c : Char) : Decidable (IsOrdinary c) :=
  inferInstanceAs (Decidable (c ≠ '"' ∧ c ≠ '\\' ∧ 0x20 ≤ c.toNat))

/-- A character in a string. -/
inductive SpellsChar : (c : Char) → (text : List Char) → Prop
  | ordinary {c : Char} (hc : IsOrdinary c) : SpellsChar c [c]
  | letter {letter c : Char} (hletter : (letter, c) ∈ letters) : SpellsChar c ['\\', letter]
  | number {c : Char} {digits : List Char} (hdigits : IsQuad c.toNat digits) :
      SpellsChar c ('\\' :: 'u' :: digits)
  /-- A character that does not fit sixteen bits, as two surrogates. -/
  | pair {c : Char} {high low : List Char} (hc : 0x10000 ≤ c.toNat)
      (hhigh : IsQuad (0xD800 + (c.toNat - 0x10000) / 0x400) high)
      (hlow : IsQuad (0xDC00 + (c.toNat - 0x10000) % 0x400) low) :
      SpellsChar c ('\\' :: 'u' :: high ++ '\\' :: 'u' :: low)

/-- What stands between the quotes of a string. -/
inductive SpellsBody : (content body : List Char) → Prop
  | nil : SpellsBody [] []
  | cons {c : Char} {content text body : List Char} (hc : SpellsChar c text)
      (hbody : SpellsBody content body) : SpellsBody (c :: content) (text ++ body)

/-- A string in quotes. -/
def SpellsString (content : String) (text : List Char) : Prop :=
  ∃ body, SpellsBody content.toList body ∧ text = '"' :: body ++ ['"']

/-- What stands between the quotes of a string that need not say anything. -/
inductive IsBody : (body : List Char) → Prop
  | nil : IsBody []
  | ordinary {c : Char} {body : List Char} (hc : IsOrdinary c) (hbody : IsBody body) :
      IsBody (c :: body)
  | letter {letter c : Char} {body : List Char} (hletter : (letter, c) ∈ letters)
      (hbody : IsBody body) : IsBody ('\\' :: letter :: body)
  | number {n : Nat} {digits body : List Char} (hdigits : IsQuad n digits) (hbody : IsBody body) :
      IsBody ('\\' :: 'u' :: digits ++ body)

/-- A string in quotes that need not say anything. -/
def IsString (text : List Char) : Prop :=
  ∃ body, IsBody body ∧ text = '"' :: body ++ ['"']

/-! ### Numbers -/

/-- Digits without a zero in front, unless they are this zero. -/
def IsWhole (digits : List Char) : Prop :=
  IsDigits digits ∧ (digits.head? = some '0' → digits = ['0'])

instance (digits : List Char) : Decidable (IsWhole digits) :=
  inferInstanceAs (Decidable (IsDigits digits ∧ (digits.head? = some '0' → digits = ['0'])))

/-- A natural number without a point and an exponent. -/
def SpellsNatural (n : Nat) (text : List Char) : Prop :=
  IsWhole text ∧ Decimal.value text = n

instance (n : Nat) (text : List Char) : Decidable (SpellsNatural n text) :=
  inferInstanceAs (Decidable (IsWhole text ∧ Decimal.value text = n))

/-- What may stand behind the whole part: a point and digits, or nothing. -/
inductive IsFraction : (text : List Char) → Prop
  | none : IsFraction []
  | some {digits : List Char} (hdigits : IsDigits digits) : IsFraction ('.' :: digits)

/-- An exponent with or without a sign, or nothing. -/
inductive IsExponent : (text : List Char) → Prop
  | none : IsExponent []
  | some {mark : Char} {sign digits : List Char} (hmark : mark = 'e' ∨ mark = 'E')
      (hsign : sign ∈ [[], ['+'], ['-']]) (hdigits : IsDigits digits) :
      IsExponent (mark :: sign ++ digits)

/-- A number. -/
inductive IsNumber : (text : List Char) → Prop
  | mk {sign whole fraction exponent : List Char} (hsign : sign ∈ [[], ['-']])
      (hwhole : IsWhole whole) (hfraction : IsFraction fraction) (hexponent : IsExponent exponent) :
      IsNumber (sign ++ whole ++ fraction ++ exponent)

/-! ### Lists and objects -/

/-- Parts in their order, with blanks around them and commas between them. -/
inductive Joined : (parts : List (List Char)) → (text : List Char) → Prop
  | none {gap : List Char} (hgap : IsGap gap) : Joined [] gap
  | last {before part after : List Char} (hbefore : IsGap before) (hafter : IsGap after) :
      Joined [part] (before ++ part ++ after)
  | more {before part after next text : List Char} {parts : List (List Char)}
      (hbefore : IsGap before) (hafter : IsGap after) (hjoined : Joined (next :: parts) text) :
      Joined (part :: next :: parts) (before ++ part ++ after ++ ',' :: text)

/-- A key, a colon and the value. -/
inductive IsMember {κ : Type} (SpellsKey : κ → List Char → Prop) :
    (member : κ × List Char) → (text : List Char) → Prop
  | mk {key : κ} {spelled before after value : List Char} (hkey : SpellsKey key spelled)
      (hbefore : IsGap before) (hafter : IsGap after) :
      IsMember SpellsKey (key, value) (spelled ++ before ++ ':' :: after ++ value)

/-- An object with these keys and values, in this order. -/
def IsObject {κ : Type} (SpellsKey : κ → List Char → Prop) (members : List (κ × List Char))
    (text : List Char) : Prop :=
  ∃ parts inner, List.Forall₂ (IsMember SpellsKey) members parts ∧ Joined parts inner ∧
    text = '\x7b' :: inner ++ ['\x7d']

/-- A key that is known only by its spelling. -/
def IsKey (key spelled : List Char) : Prop :=
  key = spelled ∧ IsString key

/-- A value. -/
inductive IsValue : (text : List Char) → Prop
  | null : IsValue ['n', 'u', 'l', 'l']
  | true : IsValue ['t', 'r', 'u', 'e']
  | false : IsValue ['f', 'a', 'l', 's', 'e']
  | number {text : List Char} (htext : IsNumber text) : IsValue text
  | string {text : List Char} (htext : IsString text) : IsValue text
  | list {items : List (List Char)} {inner : List Char} (hjoined : Joined items inner)
      (hitems : ∀ item ∈ items, IsValue item) : IsValue ('[' :: inner ++ [']'])
  | object {members : List (List Char × List Char)} {text : List Char}
      (hobject : IsObject IsKey members text)
      (hvalues : ∀ member ∈ members, IsValue member.2) : IsValue text

end MetricBridge.Json
