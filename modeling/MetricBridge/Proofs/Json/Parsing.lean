/-
# What is read of JSON was spelled

The converse of reading a spelling: whatever a reader reads or passes over stood in the text as the
grammar says, behind blanks, and what it leaves is the rest of the text. So texts that do not follow
the grammar are not read. This goes from the tokens to the values, and for values by how long the
text is, since a list or an object is passed over by a loop whose steps pass over shorter texts.

What a loop over parts has behind it is told once for every loop: what stands behind a part is
either the end or a comma with more parts.
-/

import Mathlib
import MetricBridge.Proofs.Json.Numbers
import MetricBridge.Proofs.Json.Structures

namespace MetricBridge.Json

open Decimal (IsDigits)
open Text (Shorter Within)

/-- Whatever a reader reads was spelled, behind blanks. -/
def ReadsOnly {α : Type} (reader : Reader α) (Spells : α → List Char → Prop) : Prop :=
  ∀ ⦃text : List Char⦄ ⦃value : α⦄ ⦃rest : List Char⦄, plain (reader text) = .ok (value, rest) →
    ∃ gap spelled, IsGap gap ∧ Spells value spelled ∧ text = gap ++ spelled ++ rest

/-! ### Blanks and words -/

theorem exists_gap (text : List Char) : ∃ gap, IsGap gap ∧ text = gap ++ skipSpace text :=
  ⟨text.takeWhile isSpace, fun _ hc => List.mem_takeWhile_imp hc,
    List.takeWhile_append_dropWhile.symm⟩

theorem IsGap.append {gap more : List Char} (hgap : IsGap gap) (hmore : IsGap more) :
    IsGap (gap ++ more) :=
  List.forall_mem_append.2 ⟨hgap, hmore⟩

theorem isGap_nil : IsGap [] :=
  List.forall_mem_nil _

/-- What was read between an opening and a closing mark stood between them. -/
theorem eq_enclosed {text gap others inner rest : List Char} {opening closing : Char}
    (htext : text = gap ++ skipSpace text) (hspace : skipSpace text = opening :: others)
    (hothers : others = inner ++ closing :: rest) :
    text = gap ++ (opening :: inner ++ [closing]) ++ rest := by
  rw [htext, hspace, hothers]
  simp

theorem text_of_word {letters text rest : List Char}
    (hword : plainRest (word letters text) = .ok rest) : text = letters ++ rest := by
  induction letters generalizing text with
  | nil =>
    cases hword
    rfl
  | cons letter letters ih =>
    cases text with
    | nil => cases hword
    | cons c text =>
      rw [word] at hword
      split_ifs at hword with hc
      · cases hmore : word letters text with
        | error flaw =>
          rw [hmore] at hword
          cases hword
        | ok after =>
          rw [hmore] at hword
          cases hword
          rw [List.cons_append, ← ih (congrArg plainRest hmore), hc]
      · cases hword

/-! ### Characters -/

theorem isHexDigit_of_hexValue? {n : ℕ} {c : Char} (hvalue : hexValue? c = some n) :
    IsHexDigit n c := by
  -- There are three ranges of digits, and a value for the first digit of each.
  have hrange {low high first : ℕ} (hall : ∀ m < high + 1, low ≤ m →
      IsHexDigit (m - low + first) (Char.ofNat m)) (hlow : low ≤ c.toNat) (hhigh : c.toNat ≤ high)
      (hn : c.toNat - low + first = n) : IsHexDigit n c := by
    have hdigit := hall c.toNat (by omega) hlow
    rwa [Char.ofNat_toNat, hn] at hdigit
  unfold hexValue? at hvalue
  split_ifs at hvalue with hdigit hlower hupper
  · obtain ⟨hlow, hhigh⟩ := Decimal.toNat_bounds_of_isDigit hdigit
    exact @hrange 48 57 0 (by decide) hlow hhigh (Option.some.inj hvalue)
  · exact hrange (by decide) hlower.1 hlower.2 (Option.some.inj hvalue)
  · exact hrange (by decide) hupper.1 hupper.2 (Option.some.inj hvalue)

theorem isQuad_of_hexQuad {n : ℕ} {text : List Char} {rest : Shorter text}
    (hread : hexQuad text = .ok (n, rest)) :
    ∃ digits, IsQuad n digits ∧ text = digits ++ rest.1 := by
  unfold hexQuad at hread
  split_ifs at hread with hshort
  simp only at hread
  split at hread
  next c₁ c₂ c₃ c₄ after =>
    split at hread
    next h₁ h₂ h₃ h₄ =>
      cases hread
      exact ⟨_, .mk (isHexDigit_of_hexValue? h₁) (isHexDigit_of_hexValue? h₂)
        (isHexDigit_of_hexValue? h₃) (isHexDigit_of_hexValue? h₄), rfl⟩
    · cases hread
  · cases hread

theorem IsQuad.lt {n : ℕ} {digits : List Char} (hdigits : IsQuad n digits) : n < 0x10000 := by
  obtain ⟨⟨h₁, -⟩, ⟨h₂, -⟩, ⟨h₃, -⟩, ⟨h₄, -⟩⟩ := hdigits
  omega

/-- Outside the surrogates every code point has a character. -/
theorem toNat_ofNat {n : ℕ} (hn : n < 0xD800 ∨ 0xDFFF < n ∧ n < 0x110000) :
    (Char.ofNat n).toNat = n := by
  rw [Char.toNat_ofNat, if_pos hn]

theorem exists_of_unicodeEscape {c : Char} {text : List Char} {rest : Shorter text}
    (hread : unicodeEscape text = .ok (c, rest)) :
    ∃ digits, SpellsChar c ('\\' :: 'u' :: digits) ∧ text = digits ++ rest.1 := by
  unfold unicodeEscape at hread
  obtain ⟨⟨unit, after⟩, hquad, hread⟩ := exists_of_bind_eq_ok hread
  obtain ⟨high, hhigh, htext⟩ := isQuad_of_hexQuad hquad
  have hbound := hhigh.lt
  simp only at hread
  split_ifs at hread with hlow hsurrogate
  · split at hread
    next others hafter =>
      cases hsecond : hexQuad others with
      | error flaw =>
        rw [hsecond] at hread
        cases hread
      | ok result =>
        obtain ⟨second, final⟩ := result
        rw [hsecond] at hread
        simp only at hread
        split_ifs at hread with hrange
        simp only [Except.ok.injEq, Prod.mk.injEq] at hread
        obtain ⟨rfl, rfl⟩ := hread
        obtain ⟨low, hlowDigits, hothers⟩ := isQuad_of_hexQuad hsecond
        refine ⟨high ++ '\\' :: 'u' :: low, ?_, ?_⟩
        · have hcode : (Char.ofNat (0x10000 + (unit - 0xD800) * 0x400 + (second - 0xDC00))).toNat =
              0x10000 + (unit - 0xD800) * 0x400 + (second - 0xDC00) := toNat_ofNat (by omega)
          refine .pair (by omega) ?_ ?_
          · rw [hcode, show 0xD800 + (0x10000 + (unit - 0xD800) * 0x400 + (second - 0xDC00) -
              0x10000) / 0x400 = unit by omega]
            exact hhigh
          · rw [hcode, show 0xDC00 + (0x10000 + (unit - 0xD800) * 0x400 + (second - 0xDC00) -
              0x10000) % 0x400 = second by omega]
            exact hlowDigits
        · rw [hafter, hothers] at htext
          simpa using htext
    all_goals cases hread
  · cases hread
    refine ⟨high, .number ?_, htext⟩
    rw [toNat_ofNat (by omega)]
    exact hhigh

theorem mem_letters_of_simpleEscape? {letter c : Char} (hsimple : simpleEscape? letter = some c) :
    (letter, c) ∈ letters := by
  unfold simpleEscape? at hsimple
  split_ifs at hsimple with hself hb hf hn hr ht
  · cases hsimple
    rcases hself with rfl | rfl | rfl <;> decide
  all_goals
    cases hsimple
    subst letter
    decide

theorem exists_of_escape {c : Char} {text : List Char} {rest : Shorter text}
    (hread : escape text = .ok (c, rest)) :
    ∃ spelled, SpellsChar c ('\\' :: spelled) ∧ text = spelled ++ rest.1 := by
  unfold escape at hread
  split at hread
  · cases hread
  next letter others =>
    split_ifs at hread with hu
    · obtain ⟨⟨value, after⟩, hunicode, hread⟩ := exists_of_bind_eq_ok hread
      cases hread
      obtain ⟨digits, hspells, hothers⟩ := exists_of_unicodeEscape hunicode
      exact ⟨'u' :: digits, hspells, by rw [hu]; exact congrArg ('u' :: ·) hothers⟩
    · split at hread
      next value hsimple =>
        cases hread
        exact ⟨[letter], .letter (mem_letters_of_simpleEscape? hsimple), rfl⟩
      · cases hread

/-! ### Strings -/

theorem exists_of_stringBody {text content rest : List Char}
    (hread : plain (stringBody text) = .ok (content, rest)) :
    ∃ body, SpellsBody content body ∧ text = body ++ '"' :: rest := by
  fun_induction stringBody text generalizing content rest with
  | case2 after =>
    cases hread
    exact ⟨[], .nil, rfl⟩
  | case5 others c after hescape contents final hmore _ ih =>
    cases hread
    obtain ⟨spelled, hspells, hothers⟩ := exists_of_escape hescape
    obtain ⟨body, hbody, hafter⟩ := ih (congrArg plain hmore)
    refine ⟨_, .cons hspells hbody, ?_⟩
    simp [hothers.trans (congrArg (spelled ++ ·) hafter)]
  | case8 c others hquote hbackslash hcontrol contents final hmore ih =>
    cases hread
    obtain ⟨body, hbody, hothers⟩ := ih (congrArg plain hmore)
    exact ⟨_, .cons (.ordinary ⟨hquote, hbackslash, not_lt.1 hcontrol⟩) hbody,
      congrArg (c :: ·) hothers⟩
  | _ => cases hread

theorem exists_of_skipEscape {text : List Char} {rest : Shorter text}
    (hskip : skipEscape text = .ok rest) {body : List Char} (hbody : IsBody body) :
    ∃ spelled, IsBody ('\\' :: spelled ++ body) ∧ text = spelled ++ rest.1 := by
  unfold skipEscape at hskip
  split at hskip
  · cases hskip
  next letter others =>
    split_ifs at hskip with hu hsimple
    · obtain ⟨⟨n, after⟩, hquad, hskip⟩ := exists_of_bind_eq_ok hskip
      cases hskip
      obtain ⟨digits, hdigits, hothers⟩ := isQuad_of_hexQuad hquad
      exact ⟨'u' :: digits, .number hdigits hbody, by rw [hu]; exact congrArg ('u' :: ·) hothers⟩
    · cases hskip
      obtain ⟨c, hc⟩ := Option.isSome_iff_exists.1 hsimple
      exact ⟨[letter], .letter (mem_letters_of_simpleEscape? hc) hbody, rfl⟩

theorem exists_of_skipString {text rest : List Char}
    (hskip : plainRest (skipString text) = .ok rest) :
    ∃ body, IsBody body ∧ text = body ++ '"' :: rest := by
  fun_induction skipString text generalizing rest with
  | case2 after =>
    cases hskip
    exact ⟨[], .nil, rfl⟩
  | case5 others after hescape final hmore _ ih =>
    cases hskip
    obtain ⟨body, hbody, hafter⟩ := ih (congrArg plainRest hmore)
    obtain ⟨spelled, hspelled, hothers⟩ := exists_of_skipEscape hescape hbody
    refine ⟨_, hspelled, ?_⟩
    simp [hothers.trans (congrArg (spelled ++ ·) hafter)]
  | case8 c others hquote hbackslash hcontrol final hmore ih =>
    cases hskip
    obtain ⟨body, hbody, hothers⟩ := ih (congrArg plainRest hmore)
    exact ⟨_, .ordinary ⟨hquote, hbackslash, not_lt.1 hcontrol⟩ hbody,
      congrArg (c :: ·) hothers⟩
  | _ => cases hskip

/-! ### Numbers that are passed over -/

section Numbers

variable {text : List Char}

theorem isDigits_takeWhile (hany : text.head?.any Char.isDigit = true) :
    IsDigits (text.takeWhile Char.isDigit) := by
  refine ⟨?_, fun d hd => List.mem_takeWhile_imp hd⟩
  cases text with
  | nil => cases hany
  | cons c rest =>
    have hc : c.isDigit = true := hany
    simp [hc]

theorem takeWhile_append_skipDigits (text : List Char) :
    text.takeWhile Char.isDigit ++ skipDigits text = text :=
  List.takeWhile_append_dropWhile

theorem exists_of_skipWhole {rest : Shorter text} (hskip : skipWhole text = .ok rest) :
    ∃ whole, IsWhole whole ∧ text = whole ++ rest.1 := by
  unfold skipWhole at hskip
  split at hskip
  · cases hskip
  next c others =>
    split_ifs at hskip with hnull hany hdigit
    · cases hskip
      exact ⟨['0'], by decide, by rw [hnull]; rfl⟩
    · cases hskip
      have hall : ∀ d ∈ c :: others.takeWhile Char.isDigit, d.isDigit = true :=
        List.forall_mem_cons.2 ⟨hdigit, fun d hd => List.mem_takeWhile_imp hd⟩
      refine ⟨c :: others.takeWhile Char.isDigit, ⟨⟨by simp, hall⟩, ?_⟩, ?_⟩
      · intro hhead
        exact absurd (Option.some.inj hhead) hnull
      · exact congrArg (c :: ·) (takeWhile_append_skipDigits others).symm

theorem exists_of_skipFraction {rest : Within text} (hskip : skipFraction text = .ok rest) :
    ∃ fraction, IsFraction fraction ∧ text = fraction ++ rest.1 := by
  unfold skipFraction at hskip
  split at hskip
  next others =>
    split_ifs at hskip with hany
    cases hskip
    exact ⟨_, .some (isDigits_takeWhile hany),
      congrArg ('.' :: ·) (takeWhile_append_skipDigits others).symm⟩
  · cases hskip
    exact ⟨[], .none, rfl⟩

theorem exists_of_skipExponent {rest : Within text} (hskip : skipExponent text = .ok rest) :
    ∃ exponent, IsExponent exponent ∧ text = exponent ++ rest.1 := by
  unfold skipExponent at hskip
  split at hskip
  next mark others =>
    simp only at hskip
    split_ifs at hskip with hmark hany
    · cases hskip
      obtain ⟨sign, hsign, hothers, -⟩ := exists_sign others
      refine ⟨_, .some hmark hsign (isDigits_takeWhile hany), ?_⟩
      show mark :: others = mark :: sign ++ _ ++ skipDigits (afterSign others).1
      rw [List.append_assoc, takeWhile_append_skipDigits, List.cons_append, ← hothers]
    · cases hskip
      exact ⟨[], .none, rfl⟩
  · cases hskip
    exact ⟨[], .none, rfl⟩

theorem exists_of_skipNumber {rest sign : List Char} (hsign : sign ∈ [[], ['-']])
    (hskip : plainRest (skipNumber text) = .ok rest) :
    ∃ spelled, IsNumber (sign ++ spelled) ∧ text = spelled ++ rest := by
  obtain ⟨hlength, hskip⟩ := exists_of_plainRest hskip
  obtain ⟨afterWhole, hwhole, hskip⟩ := exists_of_bind_eq_ok hskip
  obtain ⟨afterFraction, hfraction, hskip⟩ := exists_of_bind_eq_ok hskip
  obtain ⟨afterExponent, hexponent, hskip⟩ := exists_of_bind_eq_ok hskip
  cases hskip
  obtain ⟨whole, hwhole, htext⟩ := exists_of_skipWhole hwhole
  obtain ⟨fraction, hfraction, hbehindWhole⟩ := exists_of_skipFraction hfraction
  obtain ⟨exponent, hexponent, hbehindFraction⟩ := exists_of_skipExponent hexponent
  refine ⟨whole ++ fraction ++ exponent, ?_, ?_⟩
  · rw [← List.append_assoc, ← List.append_assoc]
    exact .mk hsign hwhole hfraction hexponent
  · calc text = whole ++ afterWhole.1 := htext
      _ = whole ++ (fraction ++ afterFraction.1) := congrArg _ hbehindWhole
      _ = whole ++ (fraction ++ (exponent ++ afterExponent.1)) :=
          congrArg (fun after => whole ++ (fraction ++ after)) hbehindFraction
      _ = whole ++ fraction ++ exponent ++ afterExponent.1 := by simp

end Numbers

/-! ### Parts with commas between them -/

/-- What stands behind a part: blanks, and the parts behind a comma if there are more. -/
inductive Follows : (parts : List (List Char)) → (text : List Char) → Prop
  | none {gap : List Char} (hgap : IsGap gap) : Follows [] gap
  | more {gap part text : List Char} {parts : List (List Char)} (hgap : IsGap gap)
      (hjoined : Joined (part :: parts) text) : Follows (part :: parts) (gap ++ ',' :: text)

theorem Follows.joined {before part text : List Char} {parts : List (List Char)}
    (hbefore : IsGap before) (hfollows : Follows parts text) :
    Joined (part :: parts) (before ++ part ++ text) := by
  cases hfollows with
  | none hgap => exact .last hbefore hgap
  | more hgap hjoined =>
    rw [← List.append_assoc]
    exact .more hbefore hgap hjoined

/-- What stands in front of a part: blanks, and a comma among them unless it is the first. -/
inductive IsFront : (first : Bool) → (front : List Char) → Prop
  | first {gap : List Char} (hgap : IsGap gap) : IsFront true gap
  | comma {gap before : List Char} (hgap : IsGap gap) (hbefore : IsGap before) :
      IsFront false (gap ++ ',' :: before)

theorem IsFront.append {first : Bool} {front gap : List Char} (hfront : IsFront first front)
    (hgap : IsGap gap) : IsFront first (front ++ gap) := by
  cases hfront with
  | first hbefore => exact .first (hbefore.append hgap)
  | comma hbefore hbehind =>
    rw [List.append_assoc, List.cons_append]
    exact .comma hbefore (hbehind.append hgap)

/-- A round of a loop over parts that comes to a result: it ends at the closing mark, or takes a
part and goes on behind it. -/
inductive Unrolled {σ : Type} (loop : σ → Bool → List Char → Except Flaw (σ × List Char))
    (close : Char) (Step : σ → List Char → σ → Prop) (state : σ) (result : σ × List Char)
    (first : Bool) : (text : List Char) → Prop
  | closed {gap rest : List Char} (hgap : IsGap gap) (hresult : result = (state, rest)) :
      Unrolled loop close Step state result first (gap ++ close :: rest)
  | taken {front part after : List Char} {next : σ} (hfront : IsFront first front)
      (hstep : Step state part next) (hloop : loop next false after = .ok result) :
      Unrolled loop close Step state result first (front ++ part ++ after)

theorem Unrolled.of_taken {σ : Type} {loop : σ → Bool → List Char → Except Flaw (σ × List Char)}
    {close : Char} {Step : σ → List Char → σ → Prop} {state next : σ} {result : σ × List Char}
    {first : Bool} {text front part after : List Char} (htext : text = front ++ part ++ after)
    (hfront : IsFront first front) (hstep : Step state part next)
    (hloop : loop next false after = .ok result) :
    Unrolled loop close Step state result first text :=
  htext ▸ .taken hfront hstep hloop

/-- Every round of a loop, on texts up to this length, is one of these. -/
def Unrolls {σ : Type} (loop : σ → Bool → List Char → Except Flaw (σ × List Char)) (close : Char)
    (Step : σ → List Char → σ → Prop) (bound : ℕ) : Prop :=
  ∀ ⦃state : σ⦄ ⦃first : Bool⦄ ⦃text : List Char⦄ ⦃result : σ × List Char⦄, text.length ≤ bound →
    loop state first text = .ok result → Unrolled loop close Step state result first text

section Loops

variable {σ : Type} {loop : σ → Bool → List Char → Except Flaw (σ × List Char)} {close : Char}
  {Step : σ → List Char → σ → Prop} {bound : ℕ} {state last : σ} {text rest : List Char}

theorem exists_follows_of_unrolls (hunrolls : Unrolls loop close Step bound)
    (hlength : text.length ≤ bound) (hloop : loop state false text = .ok (last, rest)) :
    ∃ parts inner, Follows parts inner ∧ Takes Step state parts last ∧
      text = inner ++ close :: rest := by
  -- The comma in front of each part makes what is left of the text shorter.
  induction hcount : text.length using Nat.strong_induction_on generalizing state text with
  | h count ih =>
    cases hunrolls hlength hloop with
    | closed hgap hresult =>
      cases hresult
      exact ⟨[], _, .none hgap, .nil, rfl⟩
    | @taken _ part after next hfront hstep hmore =>
      obtain _ | ⟨hgap, hbefore⟩ := hfront
      simp only [List.length_append, List.length_cons] at hcount hlength
      obtain ⟨parts, inner, hfollows, htakes, rfl⟩ :=
        ih after.length (by omega) (by omega) hmore rfl
      exact ⟨part :: parts, _, .more hgap (hfollows.joined hbefore), .cons hstep htakes, by simp⟩

/-- A loop that comes to an end has taken parts with commas between them. -/
theorem exists_joined_of_unrolls (hunrolls : Unrolls loop close Step bound)
    (hlength : text.length ≤ bound) (hloop : loop state true text = .ok (last, rest)) :
    ∃ parts inner, Joined parts inner ∧ Takes Step state parts last ∧
      text = inner ++ close :: rest := by
  cases hunrolls hlength hloop with
  | closed hgap hresult =>
    cases hresult
    exact ⟨[], _, .none hgap, .nil, rfl⟩
  | @taken _ part after next hfront hstep hmore =>
    obtain ⟨hbefore⟩ := hfront
    simp only [List.length_append] at hlength
    obtain ⟨parts, inner, hfollows, htakes, rfl⟩ :=
      exists_follows_of_unrolls hunrolls (by omega) hmore
    exact ⟨part :: parts, _, hfollows.joined hbefore, .cons hstep htakes, by simp⟩

end Loops

/-! ### Values that are passed over -/

/-- What is passed over was a value, behind blanks. -/
def SkipsOnly (text : List Char) : Prop :=
  ∀ ⦃rest : List Char⦄, plainRest (skipValue text) = .ok rest →
    ∃ gap spelled, IsGap gap ∧ IsValue spelled ∧ text = gap ++ spelled ++ rest

theorem exists_of_bind {α : Type} {first : Except Flaw (List Char)}
    {next : List Char → Except Flaw α} {result : α} (hbind : first.bind next = .ok result) :
    ∃ after, first = .ok after ∧ next after = .ok result := by
  cases first with
  | error flaw => cases hbind
  | ok after => exact ⟨after, rfl, hbind⟩

theorem stateless_eq_ok_iff {fact : List Char → List Char → Prop}
    {loop : Bool → (text : List Char) → Except Flaw { rest : List Char // fact text rest }}
    {first : Bool} {text : List Char} {state : Unit} {result : Unit × List Char} :
    stateless loop state first text = .ok result ↔ plainRest (loop first text) = .ok result.2 := by
  rw [stateless]
  cases plainRest (loop first text) <;> simp [Except.map, Prod.ext_iff]

/-- A loop that passes over parts with commas between them: what it does at the closing mark, at
the beginning and at a comma, and that there is nothing else that it goes on at. -/
structure PassesOver (loop : Bool → List Char → Except Flaw (List Char)) (close : Char)
    (part : List Char → Except Flaw (List Char)) : Prop where
  closes (first : Bool) {text rest : List Char} (htext : skipSpace text = close :: rest) :
    loop first text = .ok rest
  begins {text rest : List Char} {c : Char} (htext : skipSpace text = c :: rest) (hc : c ≠ close) :
    loop true text = (part text).bind (loop false)
  continues {text rest : List Char} (htext : skipSpace text = ',' :: rest) :
    loop false text = (part rest).bind (loop false)
  head {first : Bool} {text rest : List Char} (hloop : loop first text = .ok rest) :
    ∃ c others, skipSpace text = c :: others ∧ (c = close ∨ first = true ∨ c = ',')

/-- A loop whose state says nothing takes parts of one kind. -/
theorem forall_of_takes {P : List Char → Prop} {parts : List (List Char)} {state last : Unit}
    (htakes : Takes (fun _ part _ => P part) state parts last) : ∀ part ∈ parts, P part := by
  induction htakes with
  | nil => simp
  | cons hstep _ ih => exact List.forall_mem_cons.2 ⟨hstep, ih⟩

theorem PassesOver.unrolls {fact : List Char → List Char → Prop}
    {loop : Bool → (text : List Char) → Except Flaw { rest : List Char // fact text rest }}
    {close : Char} {part : List Char → Except Flaw (List Char)}
    (hover : PassesOver (fun first text => plainRest (loop first text)) close part)
    {P : List Char → Prop} {bound : ℕ}
    (hpart : ∀ ⦃text rest : List Char⦄, text.length ≤ bound → part text = .ok rest →
      ∃ gap spelled, IsGap gap ∧ P spelled ∧ text = gap ++ spelled ++ rest) :
    Unrolls (stateless loop) close (fun _ spelled _ => P spelled) bound := by
  intro state first text result hlength hloop
  rw [stateless_eq_ok_iff] at hloop
  obtain ⟨gap, hgap, htext⟩ := exists_gap text
  obtain ⟨c, others, hspace, hc⟩ := hover.head hloop
  by_cases hclose : c = close
  · subst hclose
    rw [hover.closes first hspace] at hloop
    rw [htext, hspace]
    exact .closed hgap (Prod.ext rfl (Except.ok.inj hloop).symm)
  · cases first with
    | true =>
      rw [hover.begins hspace hclose] at hloop
      obtain ⟨after, htake, hmore⟩ := exists_of_bind hloop
      obtain ⟨before, spelled, hbefore, hspelled, rfl⟩ := hpart hlength htake
      have hloop : stateless loop () false after = .ok result := stateless_eq_ok_iff.2 hmore
      exact .taken (.first hbefore) hspelled hloop
    | false =>
      obtain rfl : c = ',' := by simpa [hclose] using hc
      rw [hover.continues hspace] at hloop
      obtain ⟨after, htake, hmore⟩ := exists_of_bind hloop
      have hshort := length_lt_of_skipSpace hspace
      obtain ⟨before, spelled, hbefore, hspelled, rfl⟩ := hpart (by omega) htake
      have hloop : stateless loop () false after = .ok result := stateless_eq_ok_iff.2 hmore
      have hwhole : text = gap ++ ',' :: before ++ spelled ++ after := by
        rw [htext, hspace]
        simp
      exact .of_taken hwhole (.comma hgap hbefore) hspelled hloop

/-- A loop that passes over parts of one kind has passed over such parts only. -/
theorem PassesOver.exists_joined {fact : List Char → List Char → Prop}
    {loop : Bool → (text : List Char) → Except Flaw { rest : List Char // fact text rest }}
    {close : Char} {part : List Char → Except Flaw (List Char)}
    (hover : PassesOver (fun first text => plainRest (loop first text)) close part)
    {P : List Char → Prop} {text rest : List Char}
    (hpart : ∀ ⦃inner after : List Char⦄, inner.length ≤ text.length → part inner = .ok after →
      ∃ gap spelled, IsGap gap ∧ P spelled ∧ inner = gap ++ spelled ++ after)
    (hloop : plainRest (loop true text) = .ok rest) :
    ∃ parts inner, Joined parts inner ∧ (∀ part ∈ parts, P part) ∧
      text = inner ++ close :: rest := by
  have hloop : stateless loop () true text = .ok ((), rest) := stateless_eq_ok_iff.2 hloop
  obtain ⟨parts, inner, hjoined, htakes, htext⟩ :=
    exists_joined_of_unrolls (hover.unrolls hpart) le_rfl hloop
  exact ⟨parts, inner, hjoined, forall_of_takes htakes, htext⟩

theorem passesOver_skipItems : PassesOver (fun first text => plainRest (skipItems first text)) ']'
    fun text => plainRest (skipValue text) where
  closes first _ _ htext := plainRest_skipItems_close first htext
  begins htext hc := plainRest_skipItems_true htext hc
  continues htext := plainRest_skipItems_comma htext
  head := by
    intro first text rest hloop
    rw [skipItems] at hloop
    split at hloop
    · cases hloop
    next c others htext =>
      refine ⟨c, others, htext, ?_⟩
      by_contra hnone
      simp only [not_or] at hnone
      simp only [if_neg hnone.1, if_neg hnone.2.1, if_neg hnone.2.2] at hloop
      cases hloop

theorem passesOver_skipMembers :
    PassesOver (fun first text => plainRest (skipMembers first text)) '\x7d' skipMember where
  closes first _ _ htext := plainRest_skipMembers_close first htext
  begins htext hc := plainRest_skipMembers_true htext hc
  continues htext := plainRest_skipMembers_comma htext
  head := by
    intro first text rest hloop
    rw [skipMembers] at hloop
    split at hloop
    · cases hloop
    next c others htext =>
      refine ⟨c, others, htext, ?_⟩
      by_contra hnone
      simp only [not_or] at hnone
      simp only [if_neg hnone.1, if_neg hnone.2.1, if_neg hnone.2.2] at hloop
      cases hloop

theorem skipSpace_of_colon {text rest : List Char} (hcolon : plainRest (colon text) = .ok rest) :
    skipSpace text = ':' :: rest := by
  unfold colon at hcolon
  split at hcolon
  · cases hcolon
  next c others htext =>
    split_ifs at hcolon with hc
    · cases hcolon
      exact hc ▸ htext
    · cases hcolon

/-- What stands before a colon and what stands behind it. -/
theorem exists_of_colon {text rest : List Char} (hcolon : plainRest (colon text) = .ok rest) :
    ∃ gap, IsGap gap ∧ text = gap ++ ':' :: rest := by
  obtain ⟨gap, hgap, htext⟩ := exists_gap text
  exact ⟨gap, hgap, skipSpace_of_colon hcolon ▸ htext⟩

theorem exists_of_skipKey {text rest : List Char} (hskip : plainRest (skipKey text) = .ok rest) :
    ∃ gap key before, IsGap gap ∧ IsString key ∧ IsGap before ∧
      text = gap ++ (key ++ before ++ ':' :: rest) := by
  obtain ⟨gap, hgap, htext⟩ := exists_gap text
  unfold skipKey at hskip
  split at hskip
  · cases hskip
  next c others hspace =>
    simp only at hskip
    split_ifs at hskip with hc
    · obtain ⟨hlength, hskip⟩ := exists_of_plainRest hskip
      obtain ⟨afterKey, hkey, hskip⟩ := exists_of_bind_eq_ok hskip
      obtain ⟨afterColon, hcolon, hskip⟩ := exists_of_bind_eq_ok hskip
      cases hskip
      obtain ⟨body, hbody, hothers⟩ := exists_of_skipString (congrArg plainRest hkey)
      obtain ⟨before, hbefore, hafter⟩ := exists_of_colon (congrArg plainRest hcolon)
      refine ⟨gap, '"' :: body ++ ['"'], before, hgap, ⟨body, hbody, rfl⟩, hbefore, ?_⟩
      calc text = gap ++ '"' :: others := by rw [htext, hspace, hc]
        _ = gap ++ '"' :: (body ++ '"' :: afterKey.1) :=
            congrArg (fun after => gap ++ '"' :: after) hothers
        _ = gap ++ '"' :: (body ++ '"' :: (before ++ ':' :: afterColon.1)) :=
            congrArg (fun after => gap ++ '"' :: (body ++ '"' :: after)) hafter
        _ = gap ++ ('"' :: body ++ ['"'] ++ before ++ ':' :: afterColon.1) := by simp
    · cases hskip

theorem exists_of_skipMember {bound : ℕ}
    (hvalues : ∀ text : List Char, text.length ≤ bound → SkipsOnly text) {text rest : List Char}
    (hlength : text.length ≤ bound) (hskip : skipMember text = .ok rest) :
    ∃ gap part, IsGap gap ∧ (∃ key value, IsMember IsKey (key, value) part ∧ IsValue value) ∧
      text = gap ++ part ++ rest := by
  obtain ⟨after, hkey, hvalue⟩ := exists_of_bind hskip
  obtain ⟨gap, key, before, hgap, hstring, hbefore, rfl⟩ := exists_of_skipKey hkey
  simp only [List.length_append, List.length_cons] at hlength
  obtain ⟨behind, value, hbehind, hspelled, rfl⟩ := hvalues after (by omega) hvalue
  exact ⟨gap, _, hgap, ⟨key, value, .mk ⟨rfl, hstring⟩ hbefore hbehind, hspelled⟩, by simp⟩

theorem exists_members_of_forall {parts : List (List Char)}
    (hparts : ∀ part ∈ parts, ∃ key value, IsMember IsKey (key, value) part ∧ IsValue value) :
    ∃ members, List.Forall₂ (IsMember IsKey) members parts ∧
      ∀ member ∈ members, IsValue member.2 := by
  induction parts with
  | nil => exact ⟨[], .nil, by simp⟩
  | cons part parts ih =>
    obtain ⟨⟨key, value, hpart, hvalue⟩, hparts⟩ := List.forall_mem_cons.1 hparts
    obtain ⟨members, hmembers, hvalues⟩ := ih hparts
    exact ⟨(key, value) :: members, .cons hpart hmembers,
      List.forall_mem_cons.2 ⟨hvalue, hvalues⟩⟩

/-- Only values are passed over. -/
theorem skipsOnly (text : List Char) : SkipsOnly text := by
  induction hlength : text.length using Nat.strong_induction_on generalizing text with
  | h length ih =>
    intro rest hskip
    obtain ⟨gap, hgap, htext⟩ := exists_gap text
    cases hspace : skipSpace text with
    | nil =>
      rw [skipValue] at hskip
      split at hskip
      next => cases hskip
      next hcons => cases hspace.symm.trans hcons
    | cons c others =>
      have hshort := length_lt_of_skipSpace hspace
      have hvalues : ∀ inner : List Char, inner.length ≤ others.length → SkipsOnly inner :=
        fun inner hinner => ih inner.length (by omega) inner rfl
      suffices hvalue : ∃ spelled, IsValue spelled ∧ c :: others = spelled ++ rest by
        obtain ⟨spelled, hspelled, hothers⟩ := hvalue
        exact ⟨gap, spelled, hgap, hspelled, by rw [htext, hspace, hothers, List.append_assoc]⟩
      rw [plainRest_skipValue_cons hspace] at hskip
      split_ifs at hskip with hn ht hf hquote hbracket hbrace hminus hdigit
      · exact ⟨_, .null, by rw [hn, text_of_word hskip]; rfl⟩
      · exact ⟨_, .true, by rw [ht, text_of_word hskip]; rfl⟩
      · exact ⟨_, .false, by rw [hf, text_of_word hskip]; rfl⟩
      · obtain ⟨body, hbody, rfl⟩ := exists_of_skipString hskip
        exact ⟨_, .string ⟨body, hbody, rfl⟩, by simp [hquote]⟩
      · obtain ⟨items, inner, hjoined, hitems, rfl⟩ := passesOver_skipItems.exists_joined
          (fun inner after hinner hskip => hvalues inner hinner hskip) hskip
        exact ⟨_, .list hjoined hitems, by simp [hbracket]⟩
      · obtain ⟨parts, inner, hjoined, hparts, rfl⟩ := passesOver_skipMembers.exists_joined
          (fun inner after hinner => exists_of_skipMember hvalues hinner) hskip
        obtain ⟨members, hmembers, hspelled⟩ := exists_members_of_forall hparts
        exact ⟨_, .object ⟨parts, inner, hmembers, hjoined, rfl⟩ hspelled, by simp [hbrace]⟩
      · obtain ⟨spelled, hnumber, rfl⟩ := exists_of_skipNumber (show ['-'] ∈ _ by simp) hskip
        exact ⟨_, .number hnumber, by simp [hminus]⟩
      · obtain ⟨spelled, hnumber, hothers⟩ := exists_of_skipNumber (show [] ∈ _ by simp) hskip
        exact ⟨spelled, .number hnumber, hothers⟩

/-! ### Strings and whole texts -/

theorem readsOnly_string (expected : String) : ReadsOnly (string expected) SpellsString := by
  intro text value rest hread
  obtain ⟨gap, hgap, htext⟩ := exists_gap text
  obtain ⟨hlength, hread⟩ := exists_of_plain hread
  unfold string at hread
  split at hread
  next others hspace =>
    obtain ⟨⟨content, after⟩, hbody, hread⟩ := exists_of_bind_eq_ok hread
    cases hread
    obtain ⟨body, hspells, hothers⟩ := exists_of_stringBody (congrArg plain hbody)
    exact ⟨gap, '"' :: body ++ ['"'], hgap, ⟨body, by rwa [String.toList_ofList], rfl⟩,
      eq_enclosed htext hspace hothers⟩
  next => exact absurd hread wrongKind_ne_ok

theorem exists_of_whole {α : Type} {reader : Reader α} {Spells : α → List Char → Prop}
    (honly : ReadsOnly reader Spells) {text : String} {value : α}
    (hread : whole reader text = .ok value) :
    ∃ before inner after, IsGap before ∧ Spells value inner ∧ IsGap after ∧
      text.toList = before ++ inner ++ after := by
  obtain ⟨⟨found, rest⟩, hvalue, hread⟩ := exists_of_bind_eq_ok hread
  obtain ⟨_, hending, hread⟩ := exists_of_bind_eq_ok hread
  cases hread
  obtain ⟨before, inner, hbefore, hinner, htext⟩ := honly (congrArg plain hvalue)
  refine ⟨before, inner, rest.1, hbefore, hinner, ?_, htext⟩
  obtain ⟨gap, hgap, hrest⟩ := exists_gap rest.1
  simp only [ending] at hending
  split at hending
  next hnone =>
    rw [hrest, hnone, List.append_nil]
    exact hgap
  next => cases hending

end MetricBridge.Json
