/-
# Any value can be passed over

What stands under an unknown key is passed over up to where it ends, whatever value it is and
however deep it is nested. Lists and objects are loops over parts with commas between them; what
such a loop does with its parts is told once, for every loop that reads on in this way.
-/

import Mathlib
import MetricBridge.Json.Skip
import MetricBridge.Proofs.Json.Strings

namespace MetricBridge.Json

open Decimal (IsDigits)
open Text (Shorter Within)

/-! ### Blanks -/

theorem skipSpace_append {gap : List Char} (hgap : IsGap gap) (text : List Char) :
    skipSpace (gap ++ text) = skipSpace text :=
  List.dropWhile_append_of_pos hgap

theorem skipSpace_cons {c : Char} (hc : isSpace c = false) (rest : List Char) :
    skipSpace (c :: rest) = c :: rest :=
  List.dropWhile_cons_of_neg (by simp [hc])

theorem skipSpace_gap_cons {gap : List Char} (hgap : IsGap gap) {c : Char}
    (hc : isSpace c = false) (rest : List Char) : skipSpace (gap ++ c :: rest) = c :: rest := by
  rw [skipSpace_append hgap, skipSpace_cons hc]

/-- What stands between an opening and a closing mark, behind blanks. -/
theorem skipSpace_enclosed {gap : List Char} (hgap : IsGap gap) {opening : Char}
    (hopening : isSpace opening = false) (inner : List Char) (closing : Char) (rest : List Char) :
    skipSpace (gap ++ (opening :: inner ++ [closing]) ++ rest) =
      opening :: (inner ++ closing :: rest) := by
  simp [skipSpace_gap_cons hgap hopening]

/-- A value may end before blanks if it may end before what follows them. -/
theorem endsValue_append {gap : List Char} (hgap : IsGap gap) {rest : List Char}
    (hrest : EndsValue rest) : EndsValue (gap ++ rest) := by
  cases gap with
  | nil => exact hrest
  | cons c others =>
    rintro _ ⟨⟩
    exact Or.inl (hgap c List.mem_cons_self)

/-! ### Numbers -/

/-- A number is over where a value may end. -/
theorem not_mem_number_of_endsValue {rest : List Char} (hends : EndsValue rest) :
    ∀ c ∈ rest.head?, c.isDigit = false ∧ c ∉ ['.', 'e', 'E'] := by
  intro c hc
  rcases hends c hc with hspace | hmark
  · simp only [isSpace, Bool.or_eq_true, decide_eq_true_eq] at hspace
    rcases hspace with ((rfl | rfl) | rfl) | rfl <;> decide
  · simp only [List.mem_cons, List.not_mem_nil, or_false] at hmark
    rcases hmark with rfl | rfl | rfl <;> decide

theorem skipDigits_append {digits rest : List Char} (hdigits : ∀ c ∈ digits, c.isDigit = true)
    (hrest : ∀ c ∈ rest.head?, c.isDigit = false) : skipDigits (digits ++ rest) = rest :=
  congrArg Prod.snd (Decimal.spanDigits_append_of_not_digit hdigits hrest)

section

variable {rest : List Char}

theorem not_any_isDigit (hrest : ∀ c ∈ rest.head?, c.isDigit = false) :
    ¬ rest.head?.any Char.isDigit = true := by
  simp only [Option.any_eq_true, not_exists, not_and]
  intro c hc
  simp [hrest c hc]

theorem plainRest_skipWhole {whole : List Char} (hwhole : IsWhole whole)
    (hrest : ∀ c ∈ rest.head?, c.isDigit = false) :
    plainRest (skipWhole (whole ++ rest)) = .ok rest := by
  obtain ⟨hdigits, hzero⟩ := hwhole
  obtain ⟨c, others, rfl, hc, hothers⟩ := hdigits.exists_cons
  rw [List.cons_append, skipWhole]
  by_cases hnull : c = '0'
  · obtain rfl : others = [] := by simpa [hnull] using hzero
    rw [if_pos hnull, List.nil_append, if_neg (not_any_isDigit hrest)]
    rfl
  · rw [if_neg hnull, if_pos hc]
    exact congrArg Except.ok (skipDigits_append hothers hrest)

theorem plainRest_skipFraction {fraction : List Char} (hfraction : IsFraction fraction)
    (hrest : ∀ c ∈ rest.head?, c.isDigit = false ∧ c ≠ '.') :
    plainRest (skipFraction (fraction ++ rest)) = .ok rest := by
  cases hfraction with
  | none =>
    rw [List.nil_append]
    unfold skipFraction
    split
    next others => exact absurd rfl (hrest '.' rfl).2
    next => rfl
  | some hdigits =>
    obtain ⟨c, others, rfl, hc, hothers⟩ := hdigits.exists_cons
    have hany : (c :: others ++ rest).head?.any Char.isDigit = true := by simp [hc]
    rw [List.cons_append, skipFraction, if_pos hany]
    exact congrArg Except.ok
      (skipDigits_append (List.forall_mem_cons.2 ⟨hc, hothers⟩) fun d hd => (hrest d hd).1)

theorem afterSign_append {sign digits : List Char} (hsign : sign ∈ [[], ['+'], ['-']])
    (hdigits : IsDigits digits) (rest : List Char) :
    (afterSign (sign ++ (digits ++ rest))).1 = digits ++ rest := by
  obtain ⟨c, others, rfl, hc, hothers⟩ := hdigits.exists_cons
  simp only [List.mem_cons, List.not_mem_nil, or_false] at hsign
  rcases hsign with rfl | rfl | rfl
  · have hplus : c ≠ '+' := by rintro rfl; cases hc
    have hminus : c ≠ '-' := by rintro rfl; cases hc
    simp [afterSign, hplus, hminus]
  · rfl
  · rfl

/-- A text begins with a sign or without one. -/
theorem exists_sign (text : List Char) : ∃ sign ∈ [[], ['+'], ['-']],
    text = sign ++ (afterSign text).1 ∧ (text.head? = some '-' ↔ sign = ['-']) := by
  cases text with
  | nil => exact ⟨[], by simp, rfl, by simp⟩
  | cons c rest =>
    by_cases hminus : c = '-'
    · exact ⟨['-'], by simp, by simp [afterSign, hminus], by simp [hminus]⟩
    by_cases hplus : c = '+'
    · exact ⟨['+'], by simp, by simp [afterSign, hplus], by simp [hplus]⟩
    exact ⟨[], by simp, by simp [afterSign, hminus, hplus], by simp [hminus]⟩

theorem plainRest_skipExponent {exponent : List Char} (hexponent : IsExponent exponent)
    (hrest : ∀ c ∈ rest.head?, c.isDigit = false ∧ c ≠ 'e' ∧ c ≠ 'E') :
    plainRest (skipExponent (exponent ++ rest)) = .ok rest := by
  cases hexponent with
  | none =>
    rw [List.nil_append]
    cases rest with
    | nil => rfl
    | cons c others =>
      obtain ⟨-, hlower, hupper⟩ := hrest c rfl
      rw [skipExponent, if_neg (by simp [hlower, hupper])]
      rfl
  | @some mark sign digits hmark hsign hdigits =>
    have hspan := skipDigits_append hdigits.2 fun d hd => (hrest d hd).1
    have hunsigned := afterSign_append hsign hdigits rest
    obtain ⟨c, others, rfl, hc, hothers⟩ := hdigits.exists_cons
    have hany : (afterSign (sign ++ (c :: others ++ rest))).1.head?.any Char.isDigit = true := by
      rw [hunsigned]
      simp [hc]
    have htext : mark :: sign ++ (c :: others) ++ rest =
        mark :: (sign ++ (c :: others ++ rest)) := by
      simp
    rw [htext, skipExponent, if_pos hmark]
    simp only [hany, if_true]
    refine congrArg Except.ok ?_
    show skipDigits (afterSign _).1 = rest
    rw [hunsigned, hspan]

theorem head_exponent {exponent : List Char} (hexponent : IsExponent exponent)
    (hrest : ∀ c ∈ rest.head?, c.isDigit = false ∧ c ≠ '.') :
    ∀ c ∈ (exponent ++ rest).head?, c.isDigit = false ∧ c ≠ '.' := by
  cases hexponent with
  | none => exact hrest
  | some hmark =>
    rintro _ ⟨⟩
    rcases hmark with rfl | rfl <;> decide

theorem head_fraction {fraction : List Char} (hfraction : IsFraction fraction)
    (hrest : ∀ c ∈ rest.head?, c.isDigit = false) :
    ∀ c ∈ (fraction ++ rest).head?, c.isDigit = false := by
  cases hfraction with
  | none => exact hrest
  | some =>
    rintro _ ⟨⟩
    decide

/-- What follows the sign of a number. -/
theorem plainRest_skipNumber {whole fraction exponent : List Char} (hwhole : IsWhole whole)
    (hfraction : IsFraction fraction) (hexponent : IsExponent exponent) (hends : EndsValue rest) :
    plainRest (skipNumber (whole ++ (fraction ++ (exponent ++ rest)))) = .ok rest := by
  have hrest := not_mem_number_of_endsValue hends
  simp only [List.mem_cons, List.not_mem_nil, or_false, not_or] at hrest
  have hbehindFraction := head_exponent hexponent fun c hc => ⟨(hrest c hc).1, (hrest c hc).2.1⟩
  have hbehindWhole := head_fraction hfraction fun c hc => (hbehindFraction c hc).1
  obtain ⟨_, hskipWhole⟩ := exists_of_plainRest (plainRest_skipWhole hwhole hbehindWhole)
  obtain ⟨_, hskipFraction⟩ :=
    exists_of_plainRest (plainRest_skipFraction hfraction hbehindFraction)
  obtain ⟨_, hskipExponent⟩ := exists_of_plainRest
    (plainRest_skipExponent hexponent fun c hc => ⟨(hrest c hc).1, (hrest c hc).2.2⟩)
  rw [skipNumber, hskipWhole]
  simp only [bind, Except.bind, hskipFraction, hskipExponent]
  rfl

end

/-! ### Parts with commas between them -/

/-- What a loop makes of its state, part by part. -/
inductive Takes {σ : Type} (Step : σ → List Char → σ → Prop) :
    (state : σ) → (parts : List (List Char)) → (last : σ) → Prop
  | nil {state : σ} : Takes Step state [] state
  | cons {state next last : σ} {part : List Char} {parts : List (List Char)}
      (hstep : Step state part next) (hparts : Takes Step next parts last) :
      Takes Step state (part :: parts) last

/-- A loop over parts up to a closing mark. It is told by what it does at that mark and by what it
does with one part, at the beginning and behind a comma. -/
structure IsLoop {σ : Type} (loop : σ → Bool → List Char → Except Flaw (σ × List Char))
    (close : Char) (Step : σ → List Char → σ → Prop) : Prop where
  isClosing : close ∈ [']', '\x7d']
  closes (state : σ) (first : Bool) {gap : List Char} (hgap : IsGap gap) (rest : List Char) :
    loop state first (gap ++ close :: rest) = .ok (state, rest)
  begins {state next : σ} {part : List Char} (hstep : Step state part next)
    {before rest : List Char} (hbefore : IsGap before) (hends : EndsValue rest) :
    loop state true (before ++ part ++ rest) = loop next false rest
  continues {state next : σ} {part : List Char} (hstep : Step state part next)
    {gap before rest : List Char} (hgap : IsGap gap) (hbefore : IsGap before)
    (hends : EndsValue rest) :
    loop state false (gap ++ ',' :: (before ++ part ++ rest)) = loop next false rest

theorem endsValue_cons {c : Char} (hc : c ∈ [',', ']', '\x7d']) (rest : List Char) :
    EndsValue (c :: rest) := by
  rintro _ ⟨⟩
  exact Or.inr hc

/-- What joined parts begin with. -/
theorem Joined.exists_front {part text : List Char} {parts : List (List Char)}
    (hjoined : Joined (part :: parts) text) :
    ∃ before after, text = before ++ part ++ after ∧ IsGap before ∧
      ∀ rest, EndsValue rest → EndsValue (after ++ rest) := by
  cases hjoined with
  | last hbefore hafter => exact ⟨_, _, rfl, hbefore, fun _ => endsValue_append hafter⟩
  | @more before _ after next inner _ hbefore hafter =>
    refine ⟨before, after ++ ',' :: inner, by simp, hbefore, fun rest _ => ?_⟩
    rw [List.append_assoc]
    exact endsValue_append hafter (endsValue_cons (by simp) _)

namespace IsLoop

variable {σ : Type} {loop : σ → Bool → List Char → Except Flaw (σ × List Char)} {close : Char}
  {Step : σ → List Char → σ → Prop}

theorem endsValue_close (hloop : IsLoop loop close Step) (rest : List Char) :
    EndsValue (close :: rest) :=
  endsValue_cons (List.mem_cons_of_mem _ hloop.isClosing) rest

/-- Behind a comma the loop goes on as at the beginning. -/
theorem behindComma_eq (hloop : IsLoop loop close Step) {state next : σ} {part text : List Char}
    {parts : List (List Char)} (hjoined : Joined (part :: parts) text)
    (hstep : Step state part next) {gap : List Char} (hgap : IsGap gap) (rest : List Char) :
    loop state false (gap ++ ',' :: (text ++ close :: rest)) =
      loop state true (text ++ close :: rest) := by
  obtain ⟨before, after, rfl, hbefore, hends⟩ := hjoined.exists_front
  have hclose := hends _ (hloop.endsValue_close rest)
  rw [List.append_assoc, hloop.continues hstep hgap hbefore hclose,
    hloop.begins hstep hbefore hclose]

/-- A loop takes all parts and stops behind its closing mark. -/
theorem eq_of_takes (hloop : IsLoop loop close Step) {parts : List (List Char)} {text : List Char}
    (hjoined : Joined parts text) {state last : σ} (htakes : Takes Step state parts last)
    (rest : List Char) : loop state true (text ++ close :: rest) = .ok (last, rest) := by
  induction hjoined generalizing state with
  | none hgap =>
    cases htakes
    exact hloop.closes _ true hgap rest
  | @last before part after hbefore hafter =>
    cases htakes with
    | cons hstep hnil =>
      cases hnil
      have hends := endsValue_append hafter (hloop.endsValue_close rest)
      rw [List.append_assoc, hloop.begins hstep hbefore hends]
      exact hloop.closes last false hafter rest
  | @more before part after next text parts hbefore hafter hjoined ih =>
    cases htakes with
    | cons hstep hmore =>
      have htext : before ++ part ++ after ++ ',' :: text ++ close :: rest =
          before ++ part ++ (after ++ ',' :: (text ++ close :: rest)) := by
        simp
      have hends : EndsValue (after ++ ',' :: (text ++ close :: rest)) :=
        endsValue_append hafter (endsValue_cons (by simp) _)
      rw [htext, hloop.begins hstep hbefore hends]
      cases hmore with
      | cons hnext hparts =>
        rw [hloop.behindComma_eq hjoined hnext hafter]
        exact ih (.cons hnext hparts)

end IsLoop

/-! ### Values -/

/-- What is passed over where a value begins with this character. -/
theorem plainRest_skipValue_cons {text rest : List Char} {c : Char}
    (htext : skipSpace text = c :: rest) :
    plainRest (skipValue text) =
      if c = 'n' then plainRest (word ['u', 'l', 'l'] rest)
      else if c = 't' then plainRest (word ['r', 'u', 'e'] rest)
      else if c = 'f' then plainRest (word ['a', 'l', 's', 'e'] rest)
      else if c = '"' then plainRest (skipString rest)
      else if c = '[' then plainRest (skipItems true rest)
      else if c = '\x7b' then plainRest (skipMembers true rest)
      else if c = '-' then plainRest (skipNumber rest)
      else if c.isDigit then plainRest (skipNumber (c :: rest))
      else .error (Flaw.next .valueExpected (c :: rest)) := by
  rw [skipValue]
  split
  next hnil => cases htext.symm.trans hnil
  next d others hcons =>
    cases htext.symm.trans hcons
    unfold skipWord
    split_ifs
    · cases word ['u', 'l', 'l'] rest <;> rfl
    · cases word ['r', 'u', 'e'] rest <;> rfl
    · cases word ['a', 'l', 's', 'e'] rest <;> rfl
    · cases skipString rest <;> rfl
    · cases skipItems true rest <;> rfl
    · cases skipMembers true rest <;> rfl
    · cases skipNumber rest <;> rfl
    · cases skipNumber (c :: rest) <;> rfl
    · rfl

/-! ### Lists -/

section

variable {text rest : List Char} {c : Char}

theorem plainRest_skipItems_close (first : Bool) (htext : skipSpace text = ']' :: rest) :
    plainRest (skipItems first text) = .ok rest := by
  rw [skipItems]
  split
  next hnil => cases htext.symm.trans hnil
  next d others hcons =>
    cases htext.symm.trans hcons
    rw [if_pos rfl]
    rfl

theorem plainRest_skipItems_true (htext : skipSpace text = c :: rest) (hc : c ≠ ']') :
    plainRest (skipItems true text) =
      (plainRest (skipValue text)).bind fun after => plainRest (skipItems false after) := by
  rw [skipItems]
  split
  next hnil => cases htext.symm.trans hnil
  next d others hcons =>
    cases htext.symm.trans hcons
    simp only [if_neg hc, if_true]
    cases skipValue text with
    | error flaw => rfl
    | ok after =>
      cases hmore : skipItems false after.1 <;> simp [plainRest, Except.map, Except.bind, hmore]

theorem plainRest_skipItems_comma (htext : skipSpace text = ',' :: rest) :
    plainRest (skipItems false text) =
      (plainRest (skipValue rest)).bind fun after => plainRest (skipItems false after) := by
  rw [skipItems]
  split
  next hnil => cases htext.symm.trans hnil
  next d others hcons =>
    cases htext.symm.trans hcons
    simp only [if_neg (show ',' ≠ ']' by decide), if_true, Bool.false_eq_true, if_false]
    cases skipValue rest with
    | error flaw => rfl
    | ok after =>
      cases hmore : skipItems false after.1 <;> simp [plainRest, Except.map, Except.bind, hmore]

end

/-! ### Objects -/

section

variable {text rest : List Char} {c : Char}

theorem plainRest_skipMembers_close (first : Bool) (htext : skipSpace text = '\x7d' :: rest) :
    plainRest (skipMembers first text) = .ok rest := by
  rw [skipMembers]
  split
  next hnil => cases htext.symm.trans hnil
  next d others hcons =>
    cases htext.symm.trans hcons
    rw [if_pos rfl]
    rfl

/-- What is passed over of a member, from its key on. -/
def skipMember (text : List Char) : Except Flaw (List Char) :=
  (plainRest (skipKey text)).bind fun after => plainRest (skipValue after)

theorem plainRest_skipMembers_true (htext : skipSpace text = c :: rest) (hc : c ≠ '\x7d') :
    plainRest (skipMembers true text) =
      (skipMember text).bind fun after => plainRest (skipMembers false after) := by
  rw [skipMembers]
  split
  next hnil => cases htext.symm.trans hnil
  next d others hcons =>
    cases htext.symm.trans hcons
    simp only [if_neg hc, if_true, skipMember]
    cases skipKey text with
    | error flaw => rfl
    | ok afterKey =>
      cases hvalue : skipValue afterKey.1 with
      | error flaw => simp [plainRest, Except.map, Except.bind, hvalue]
      | ok after =>
        cases hmore : skipMembers false after.1 <;>
          simp [plainRest, Except.map, Except.bind, hvalue, hmore]

theorem plainRest_skipMembers_comma (htext : skipSpace text = ',' :: rest) :
    plainRest (skipMembers false text) =
      (skipMember rest).bind fun after => plainRest (skipMembers false after) := by
  rw [skipMembers]
  split
  next hnil => cases htext.symm.trans hnil
  next d others hcons =>
    cases htext.symm.trans hcons
    simp only [if_neg (show ',' ≠ '\x7d' by decide), if_true, Bool.false_eq_true, if_false,
      skipMember]
    cases skipKey rest with
    | error flaw => rfl
    | ok afterKey =>
      cases hvalue : skipValue afterKey.1 with
      | error flaw => simp [plainRest, Except.map, Except.bind, hvalue]
      | ok after =>
        cases hmore : skipMembers false after.1 <;>
          simp [plainRest, Except.map, Except.bind, hvalue, hmore]

theorem plainRest_colon (htext : skipSpace text = ':' :: rest) :
    plainRest (colon text) = .ok rest := by
  rw [colon]
  split
  next hnil => cases htext.symm.trans hnil
  next d others hcons =>
    cases htext.symm.trans hcons
    rw [if_pos rfl]
    rfl

theorem plainRest_skipKey {body after : List Char} (hbody : IsBody body)
    (htext : skipSpace text = '"' :: (body ++ '"' :: after))
    (hafter : skipSpace after = ':' :: rest) : plainRest (skipKey text) = .ok rest := by
  obtain ⟨_, hskip⟩ := exists_of_plainRest (plainRest_skipString hbody after)
  obtain ⟨_, hcolon⟩ := exists_of_plainRest (plainRest_colon hafter)
  rw [skipKey]
  split
  next hnil => cases htext.symm.trans hnil
  next d others hcons =>
    cases htext.symm.trans hcons
    rw [if_pos rfl, hskip]
    simp only [bind, Except.bind, hcolon]
    rfl

end

/-! ### All values -/

/-- This text is passed over, with blanks in front of it. -/
def Skips (text : List Char) : Prop :=
  ∀ ⦃gap rest : List Char⦄, IsGap gap → EndsValue rest →
    plainRest (skipValue (gap ++ text ++ rest)) = .ok rest

/-- This character is neither a blank nor a mark behind a value. -/
def BeginsToken (c : Char) : Prop :=
  isSpace c = false ∧ c ∉ [',', ']', '\x7d']

theorem beginsToken_of_isDigit {c : Char} (hc : c.isDigit = true) : BeginsToken c := by
  have hends : ¬ EndsValue [c] := fun hends => by
    simpa [hc] using (not_mem_number_of_endsValue hends c rfl).1
  simpa [EndsValue, BeginsToken, not_or] using hends

/-- What a value begins with. -/
theorem exists_cons_of_isValue {text : List Char} (htext : IsValue text) :
    ∃ c rest, text = c :: rest ∧ BeginsToken c := by
  cases htext with
  | null => exact ⟨_, _, rfl, by decide, by decide⟩
  | true => exact ⟨_, _, rfl, by decide, by decide⟩
  | false => exact ⟨_, _, rfl, by decide, by decide⟩
  | number hnumber =>
    cases hnumber with
    | mk hsign hwhole _ _ =>
      obtain ⟨c, others, rfl, hc, -⟩ := hwhole.1.exists_cons
      simp only [List.mem_cons, List.not_mem_nil, or_false] at hsign
      rcases hsign with rfl | rfl
      · exact ⟨c, _, rfl, beginsToken_of_isDigit hc⟩
      · exact ⟨'-', _, rfl, by decide, by decide⟩
  | string hstring =>
    obtain ⟨body, -, rfl⟩ := hstring
    exact ⟨_, _, rfl, by decide, by decide⟩
  | list => exact ⟨_, _, rfl, by decide, by decide⟩
  | object hobject =>
    obtain ⟨parts, inner, -, -, rfl⟩ := hobject
    exact ⟨_, _, rfl, by decide, by decide⟩

theorem skipSpace_token {gap : List Char} (hgap : IsGap gap) {c : Char} (hc : BeginsToken c)
    (others rest : List Char) :
    skipSpace (gap ++ c :: others ++ rest) = c :: (others ++ rest) := by
  rw [List.append_assoc, List.cons_append, skipSpace_gap_cons hgap hc.1]

/-- A loop that passes over its parts, as one whose state says nothing. -/
def stateless {fact : List Char → List Char → Prop}
    (loop : Bool → (text : List Char) → Except Flaw { rest : List Char // fact text rest })
    (_ : Unit) (first : Bool) (text : List Char) : Except Flaw (Unit × List Char) :=
  (plainRest (loop first text)).map fun rest => ((), rest)

/-- The loop over the items of a list. -/
theorem isLoop_skipItems :
    IsLoop (stateless skipItems) ']' fun _ item _ => IsValue item ∧ Skips item where
  isClosing := by simp
  closes _ first _ hgap rest := by
    rw [stateless, plainRest_skipItems_close first (skipSpace_gap_cons hgap (by decide) rest)]
    rfl
  begins := by
    rintro _ _ item ⟨hitem, hskips⟩ before rest hbefore hends
    obtain ⟨c, others, rfl, hc⟩ := exists_cons_of_isValue hitem
    have hclose : c ≠ ']' := by
      rintro rfl
      exact hc.2 (by simp)
    rw [stateless, plainRest_skipItems_true (skipSpace_token hbefore hc others rest) hclose,
      hskips hbefore hends]
    rfl
  continues := by
    rintro _ _ item ⟨-, hskips⟩ gap before rest hgap hbefore hends
    rw [stateless, plainRest_skipItems_comma (skipSpace_gap_cons hgap (by decide) _),
      hskips hbefore hends]
    rfl

/-- A member behind blanks. -/
theorem skipSpace_member {before : List Char} (hbefore : IsGap before)
    (body front back value rest : List Char) :
    skipSpace (before ++ ('"' :: body ++ ['"'] ++ front ++ ':' :: back ++ value) ++ rest) =
      '"' :: (body ++ '"' :: (front ++ ':' :: (back ++ value ++ rest))) := by
  simp [skipSpace_gap_cons hbefore (show isSpace '"' = false by decide)]

theorem skipMember_of_isMember {key value part before rest : List Char}
    (hmember : IsMember IsKey (key, value) part)
    (hvalue : Skips value) (hbefore : IsGap before) (hends : EndsValue rest) :
    skipMember (before ++ part ++ rest) = .ok rest ∧
      ∃ others, skipSpace (before ++ part ++ rest) = '"' :: others := by
  cases hmember with
  | @mk _ spelled front back _ hkey hfront hback =>
    obtain ⟨rfl, body, hbody, rfl⟩ := hkey
    have htext := skipSpace_member hbefore body front back value rest
    refine ⟨?_, _, htext⟩
    rw [skipMember, plainRest_skipKey hbody htext (skipSpace_gap_cons hfront (by decide) _)]
    exact hvalue hback hends

/-- The loop over the members of an object. -/
theorem isLoop_skipMembers :
    IsLoop (stateless skipMembers) '\x7d'
      fun _ part _ => ∃ key value, IsMember IsKey (key, value) part ∧ Skips value where
  isClosing := by simp
  closes _ first _ hgap rest := by
    rw [stateless, plainRest_skipMembers_close first (skipSpace_gap_cons hgap (by decide) rest)]
    rfl
  begins := by
    rintro _ _ part ⟨key, value, hmember, hvalue⟩ before rest hbefore hends
    obtain ⟨hskip, others, htext⟩ := skipMember_of_isMember hmember hvalue hbefore hends
    rw [stateless, plainRest_skipMembers_true htext (by decide), hskip]
    rfl
  continues := by
    rintro _ _ part ⟨key, value, hmember, hvalue⟩ gap before rest hgap hbefore hends
    rw [stateless, plainRest_skipMembers_comma (skipSpace_gap_cons hgap (by decide) _),
      (skipMember_of_isMember hmember hvalue hbefore hends).1]
    rfl

theorem takes_of_forall {σ : Type} {Step : σ → List Char → σ → Prop} {state : σ}
    {parts : List (List Char)} (hparts : ∀ part ∈ parts, Step state part state) :
    Takes Step state parts state := by
  induction parts with
  | nil => exact .nil
  | cons part parts ih =>
    obtain ⟨hpart, hparts⟩ := List.forall_mem_cons.1 hparts
    exact .cons hpart (ih hparts)

theorem plainRest_word (letters rest : List Char) :
    plainRest (word letters (letters ++ rest)) = .ok rest := by
  induction letters with
  | nil => rfl
  | cons letter letters ih =>
    obtain ⟨_, hword⟩ := exists_of_plainRest ih
    rw [List.cons_append, word, if_pos rfl, hword]
    rfl

theorem skips_of_isNumber {text : List Char} (hnumber : IsNumber text) : Skips text := by
  intro gap rest hgap hends
  cases hnumber with
  | @mk sign whole fraction exponent hsign hwhole hfraction hexponent =>
    have hskip := plainRest_skipNumber hwhole hfraction hexponent hends
    simp only [List.mem_cons, List.not_mem_nil, or_false] at hsign
    rcases hsign with rfl | rfl
    · obtain ⟨c, others, rfl, hc, -⟩ := hwhole.1.exists_cons
      have hne {d : Char} (hd : d.isDigit = false) : c ≠ d := by
        rintro rfl
        simp [hc] at hd
      have htext : skipSpace (gap ++ ([] ++ c :: others ++ fraction ++ exponent) ++ rest) =
          c :: (others ++ (fraction ++ (exponent ++ rest))) := by
        simp [skipSpace_gap_cons hgap (beginsToken_of_isDigit hc).1]
      rw [plainRest_skipValue_cons htext, if_neg (hne (by decide)), if_neg (hne (by decide)),
        if_neg (hne (by decide)), if_neg (hne (by decide)), if_neg (hne (by decide)),
        if_neg (hne (by decide)), if_neg (hne (by decide)), if_pos hc]
      exact hskip
    · have htext : skipSpace (gap ++ (['-'] ++ whole ++ fraction ++ exponent) ++ rest) =
          '-' :: (whole ++ (fraction ++ (exponent ++ rest))) := by
        simp [skipSpace_gap_cons hgap (show isSpace '-' = false by decide)]
      rw [plainRest_skipValue_cons htext]
      exact hskip

theorem plainRest_of_stateless {fact : List Char → List Char → Prop}
    {loop : Bool → (text : List Char) → Except Flaw { rest : List Char // fact text rest }}
    {first : Bool} {text rest : List Char}
    (hloop : stateless loop () first text = .ok ((), rest)) :
    plainRest (loop first text) = .ok rest := by
  rw [stateless] at hloop
  cases hresult : plainRest (loop first text) with
  | error flaw =>
    rw [hresult] at hloop
    cases hloop
  | ok after =>
    rw [hresult] at hloop
    cases hloop
    rfl

theorem exists_member_of_mem {κ : Type} {SpellsKey : κ → List Char → Prop}
    {members : List (κ × List Char)} {parts : List (List Char)}
    (hparts : List.Forall₂ (IsMember SpellsKey) members parts) {part : List Char}
    (hpart : part ∈ parts) : ∃ member ∈ members, IsMember SpellsKey member part := by
  induction hparts with
  | nil => cases hpart
  | @cons member part _ _ hmember _ ih =>
    rcases List.mem_cons.1 hpart with rfl | hpart
    · exact ⟨member, List.mem_cons_self, hmember⟩
    · obtain ⟨found, hfound, hspells⟩ := ih hpart
      exact ⟨found, List.mem_cons_of_mem _ hfound, hspells⟩

/-- Every value is passed over. -/
theorem skips_of_isValue {text : List Char} (htext : IsValue text) : Skips text := by
  -- A list or an object is a loop whose steps pass over values further inside.
  induction htext with
  | null =>
    intro gap rest hgap _
    rw [plainRest_skipValue_cons (skipSpace_token hgap ⟨by decide, by decide⟩ _ rest)]
    exact plainRest_word ['u', 'l', 'l'] rest
  | true =>
    intro gap rest hgap _
    rw [plainRest_skipValue_cons (skipSpace_token hgap ⟨by decide, by decide⟩ _ rest)]
    exact plainRest_word ['r', 'u', 'e'] rest
  | false =>
    intro gap rest hgap _
    rw [plainRest_skipValue_cons (skipSpace_token hgap ⟨by decide, by decide⟩ _ rest)]
    exact plainRest_word ['a', 'l', 's', 'e'] rest
  | number hnumber => exact skips_of_isNumber hnumber
  | string hstring =>
    intro gap rest hgap _
    obtain ⟨body, hbody, rfl⟩ := hstring
    rw [List.cons_append,
      plainRest_skipValue_cons (skipSpace_token hgap ⟨by decide, by decide⟩ _ rest),
      List.append_assoc]
    exact plainRest_skipString hbody rest
  | @list items inner hjoined hitems ih =>
    intro gap rest hgap _
    have htakes : Takes (fun (_ : Unit) item _ => IsValue item ∧ Skips item) () items () :=
      takes_of_forall fun item hitem => ⟨hitems item hitem, ih item hitem⟩
    have hloop := isLoop_skipItems.eq_of_takes hjoined htakes rest
    rw [List.cons_append,
      plainRest_skipValue_cons (skipSpace_token hgap ⟨by decide, by decide⟩ _ rest),
      List.append_assoc]
    exact plainRest_of_stateless hloop
  | @object members text hobject hvalues ih =>
    intro gap rest hgap _
    obtain ⟨parts, inner, hparts, hjoined, rfl⟩ := hobject
    have htakes : Takes (fun (_ : Unit) part _ => ∃ key value,
        IsMember IsKey (key, value) part ∧ Skips value) () parts () := by
      refine takes_of_forall fun part hpart => ?_
      obtain ⟨member, hmember, hspells⟩ := exists_member_of_mem hparts hpart
      exact ⟨member.1, member.2, hspells, ih member hmember⟩
    have hloop := isLoop_skipMembers.eq_of_takes hjoined htakes rest
    rw [List.cons_append,
      plainRest_skipValue_cons (skipSpace_token hgap ⟨by decide, by decide⟩ _ rest),
      List.append_assoc]
    exact plainRest_of_stateless hloop

end MetricBridge.Json
