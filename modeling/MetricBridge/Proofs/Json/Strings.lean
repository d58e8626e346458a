/-
# Strings of JSON are read as what they say

Whichever way the characters of a string are spelled, the reader gives these characters. A string
that is only passed over need not say anything: any four hexadecimal digits may stand behind the
letter for them.
-/

import Mathlib
import MetricBridge.Proofs.Json.Grammar

namespace MetricBridge.Json

open Text (Shorter)

/-- What was read and what is left, without the fact about the length of what is left. -/
def plain {α : Type} {fact : List Char → Prop}
    (result : Except Flaw (α × { rest : List Char // fact rest })) :
    Except Flaw (α × List Char) :=
  result.map fun (value, rest) => (value, rest.1)

/-- What is left, without the fact about its length. -/
def plainRest {fact : List Char → Prop} (result : Except Flaw { rest : List Char // fact rest }) :
    Except Flaw (List Char) :=
  result.map Subtype.val

/-! ### Hexadecimal digits -/

theorem hexValue?_of_isHexDigit {n : Nat} {c : Char} (hdigit : IsHexDigit n c) :
    hexValue? c = some n := by
  obtain ⟨hn, rfl | rfl⟩ := hdigit <;> interval_cases n <;> decide

theorem length_le_byteCount (text : List Char) : text.length ≤ byteCount text := by
  have hfrom (count : Nat) :
      count + text.length ≤ text.foldl (fun count c => count + c.utf8Size) count := by
    induction text generalizing count with
    | nil => exact le_rfl
    | cons c rest ih =>
      have hsize := c.utf8Size_pos
      have hrest := ih (count + c.utf8Size)
      rw [List.foldl_cons, List.length_cons]
      omega
  simpa [byteCount] using hfrom 0

theorem plain_hexQuad {n : Nat} {digits : List Char} (hdigits : IsQuad n digits)
    (rest : List Char) : plain (hexQuad (digits ++ rest)) = .ok (n, rest) := by
  cases hdigits with
  | @mk n₁ n₂ n₃ n₄ c₁ c₂ c₃ c₄ h₁ h₂ h₃ h₄ =>
    have hbytes := length_le_byteCount ([c₁, c₂, c₃, c₄] ++ rest)
    have henough : ¬ byteCount ([c₁, c₂, c₃, c₄] ++ rest) < 4 := by
      simp only [List.length_append, List.length_cons, List.length_nil] at hbytes
      omega
    rw [hexQuad, if_neg henough]
    simp only [List.cons_append, List.nil_append, hexValue?_of_isHexDigit h₁,
      hexValue?_of_isHexDigit h₂, hexValue?_of_isHexDigit h₃, hexValue?_of_isHexDigit h₄]
    rfl

/-- What was read without the fact about the rest was read with it. -/
theorem exists_of_plain {α : Type} {fact : List Char → Prop}
    {result : Except Flaw (α × { rest : List Char // fact rest })} {value : α} {rest : List Char}
    (hplain : plain result = .ok (value, rest)) : ∃ hrest, result = .ok (value, ⟨rest, hrest⟩) := by
  cases result with
  | error flaw => cases hplain
  | ok read =>
    cases hplain
    exact ⟨read.2.2, rfl⟩

/-! ### Characters -/

/-- The code points of characters; surrogates are not among them. -/
theorem toNat_cases (c : Char) :
    c.toNat < 0xD800 ∨ 0xDFFF < c.toNat ∧ c.toNat < 0x110000 :=
  c.valid

theorem plain_unicodeEscape_number {c : Char} {digits : List Char} (hdigits : IsQuad c.toNat digits)
    (rest : List Char) : plain (unicodeEscape (digits ++ rest)) = .ok (c, rest) := by
  have hscalar := toNat_cases c
  obtain ⟨hrest, hread⟩ := exists_of_plain (plain_hexQuad hdigits rest)
  rw [unicodeEscape, hread]
  show plain (if _ then _ else if _ then _ else _) = _
  rw [if_neg (by omega), if_neg (by omega), Char.ofNat_toNat]
  rfl

theorem plain_unicodeEscape_surrogates {first second : Nat} {high low : List Char}
    (hhigh : IsQuad first high) (hfirst : 0xD800 ≤ first ∧ first ≤ 0xDBFF)
    (hlow : IsQuad second low) (hsecond : 0xDC00 ≤ second ∧ second ≤ 0xDFFF) (rest : List Char) :
    plain (unicodeEscape (high ++ '\\' :: 'u' :: (low ++ rest))) =
      .ok (Char.ofNat (0x10000 + (first - 0xD800) * 0x400 + (second - 0xDC00)), rest) := by
  obtain ⟨hrest, hread⟩ := exists_of_plain (plain_hexQuad hhigh ('\\' :: 'u' :: (low ++ rest)))
  obtain ⟨hfinal, hreadLow⟩ := exists_of_plain (plain_hexQuad hlow rest)
  rw [unicodeEscape, hread]
  show plain (if _ then _ else if _ then _ else _) = _
  rw [if_neg (by omega), if_pos hfirst]
  split
  next after hafter =>
    cases hafter
    rw [hreadLow]
    show plain (if _ then _ else _) = _
    rw [if_pos hsecond]
    rfl
  next hafter => cases hafter
  next hafter => cases hafter
  next hother _ hafter =>
    cases hafter
    exact absurd rfl (hother _)
  next hother _ _ _ => exact absurd rfl (hother _)

/-- A character that needs two numbers is put together from its halves. -/
theorem ofNat_surrogates {c : Char} (hc : 0x10000 ≤ c.toNat) :
    Char.ofNat (0x10000 + (0xD800 + (c.toNat - 0x10000) / 0x400 - 0xD800) * 0x400 +
      (0xDC00 + (c.toNat - 0x10000) % 0x400 - 0xDC00)) = c := by
  have hback : 0x10000 + (0xD800 + (c.toNat - 0x10000) / 0x400 - 0xD800) * 0x400 +
      (0xDC00 + (c.toNat - 0x10000) % 0x400 - 0xDC00) = c.toNat := by
    omega
  rw [hback, Char.ofNat_toNat]

theorem simpleEscape?_of_mem {letter c : Char} (hletter : (letter, c) ∈ letters) :
    simpleEscape? letter = some c ∧ letter ≠ 'u' := by
  have hall : ∀ entry ∈ letters, simpleEscape? entry.1 = some entry.2 ∧ entry.1 ≠ 'u' := by
    decide
  exact hall _ hletter

theorem plain_escape_letter {letter c : Char} (hletter : (letter, c) ∈ letters)
    (rest : List Char) : plain (escape (letter :: rest)) = .ok (c, rest) := by
  obtain ⟨hsimple, hne⟩ := simpleEscape?_of_mem hletter
  rw [escape, if_neg hne, hsimple]
  rfl

theorem plain_escape_unicode {text : List Char} {c : Char} {rest : List Char}
    (hread : plain (unicodeEscape text) = .ok (c, rest)) :
    plain (escape ('u' :: text)) = .ok (c, rest) := by
  obtain ⟨hrest, hread⟩ := exists_of_plain hread
  rw [escape, if_pos rfl, hread]
  rfl

/-! ### Strings that say something -/

theorem plain_stringBody_escape {text : List Char} {c : Char} {after rest content : List Char}
    (hescape : plain (escape text) = .ok (c, after))
    (hbody : plain (stringBody after) = .ok (content, rest)) :
    plain (stringBody ('\\' :: text)) = .ok (c :: content, rest) := by
  obtain ⟨hafter, hescape⟩ := exists_of_plain hescape
  obtain ⟨hrest, hbody⟩ := exists_of_plain hbody
  rw [stringBody, if_neg (by decide), if_pos rfl, hescape]
  simp only [hbody]
  rfl

theorem plain_stringBody_spellsChar {c : Char} {text after rest content : List Char}
    (hc : SpellsChar c text) (hbody : plain (stringBody after) = .ok (content, rest)) :
    plain (stringBody (text ++ after)) = .ok (c :: content, rest) := by
  cases hc with
  | ordinary hc =>
    obtain ⟨hquote, hbackslash, hcontrol⟩ := hc
    obtain ⟨hrest, hbody⟩ := exists_of_plain hbody
    rw [List.singleton_append, stringBody, if_neg hquote, if_neg hbackslash, if_neg (by omega),
      hbody]
    rfl
  | letter hletter => exact plain_stringBody_escape (plain_escape_letter hletter after) hbody
  | number hdigits =>
    exact plain_stringBody_escape
      (plain_escape_unicode (plain_unicodeEscape_number hdigits after)) hbody
  | @pair _ high low hc hhigh hlow =>
    have hscalar := toNat_cases c
    have hread := plain_unicodeEscape_surrogates hhigh (by omega) hlow (by omega) after
    rw [ofNat_surrogates hc] at hread
    have htext : '\\' :: 'u' :: high ++ '\\' :: 'u' :: low ++ after =
        '\\' :: 'u' :: (high ++ '\\' :: 'u' :: (low ++ after)) := by
      simp
    rw [htext]
    exact plain_stringBody_escape (plain_escape_unicode hread) hbody

/-- The characters of a string up to its closing quote. -/
theorem plain_stringBody {content body : List Char} (hbody : SpellsBody content body)
    (rest : List Char) : plain (stringBody (body ++ '"' :: rest)) = .ok (content, rest) := by
  induction hbody with
  | nil =>
    rw [List.nil_append, stringBody, if_pos rfl]
    rfl
  | cons hc _ ih =>
    rw [List.append_assoc]
    exact plain_stringBody_spellsChar hc ih

/-! ### Strings that are passed over -/

theorem exists_of_plainRest {fact : List Char → Prop}
    {result : Except Flaw { rest : List Char // fact rest }} {rest : List Char}
    (hplain : plainRest result = .ok rest) : ∃ hrest, result = .ok ⟨rest, hrest⟩ := by
  cases result with
  | error flaw => cases hplain
  | ok read =>
    cases hplain
    exact ⟨read.2, rfl⟩

theorem plainRest_skipString_escape {text after rest : List Char}
    (hescape : plainRest (skipEscape text) = .ok after)
    (hbody : plainRest (skipString after) = .ok rest) :
    plainRest (skipString ('\\' :: text)) = .ok rest := by
  obtain ⟨hafter, hescape⟩ := exists_of_plainRest hescape
  obtain ⟨hrest, hbody⟩ := exists_of_plainRest hbody
  rw [skipString, if_neg (by decide), if_pos rfl, hescape]
  simp only [hbody]
  rfl

/-- A string is passed over up to its closing quote. -/
theorem plainRest_skipString {body : List Char} (hbody : IsBody body) (rest : List Char) :
    plainRest (skipString (body ++ '"' :: rest)) = .ok rest := by
  induction hbody with
  | nil =>
    rw [List.nil_append, skipString, if_pos rfl]
    rfl
  | ordinary hc _ ih =>
    obtain ⟨hquote, hbackslash, hcontrol⟩ := hc
    obtain ⟨hrest, hskip⟩ := exists_of_plainRest ih
    rw [List.cons_append, skipString, if_neg hquote, if_neg hbackslash, if_neg (by omega), hskip]
    rfl
  | @letter letter c body hletter _ ih =>
    have hescape : plainRest (skipEscape (letter :: (body ++ '"' :: rest))) =
        .ok (body ++ '"' :: rest) := by
      obtain ⟨hsimple, hne⟩ := simpleEscape?_of_mem hletter
      rw [skipEscape, if_neg hne, hsimple]
      rfl
    exact plainRest_skipString_escape hescape ih
  | @number n digits body hdigits _ ih =>
    have hescape : plainRest (skipEscape ('u' :: (digits ++ (body ++ '"' :: rest)))) =
        .ok (body ++ '"' :: rest) := by
      obtain ⟨hrest, hread⟩ := exists_of_plain (plain_hexQuad hdigits (body ++ '"' :: rest))
      rw [skipEscape, if_pos rfl, hread]
      rfl
    have htext : '\\' :: 'u' :: digits ++ body ++ '"' :: rest =
        '\\' :: 'u' :: (digits ++ (body ++ '"' :: rest)) := by
      simp
    rw [htext]
    exact plainRest_skipString_escape hescape ih

end MetricBridge.Json
