/-
# Letters in a timestamp

The only letters in a timestamp of the exact form are the one between date and time of day and the
one for UTC, and either may be in upper or lower case. So a timestamp in the other case is read as
the same instant, or is refused for the same reason, and words that hold any other letter are no
timestamp.

Both facts are shown piece by piece: each piece is read alike in either case, and takes none but
the characters of a timestamp.
-/

import Mathlib
import MetricBridge.Proofs.Text.Letters
import MetricBridge.Time.Rfc3339.Read

namespace MetricBridge.Time.Rfc3339

/-- What is read is carried over to a text in lower case. -/
def inLower {α : Type} (read : α × List Char) : α × List Char :=
  (read.1, read.2.map Char.toLower)

/-- The piece reads a text in lower case as it reads the text itself. -/
def IgnoresCase {α : Type} (piece : Piece α) : Prop :=
  ∀ text, piece (text.map Char.toLower) = (piece text).map inLower

/-- A character that may stand in a timestamp. -/
def IsStampChar (c : Char) : Prop :=
  c.isDigit = true ∨ c ∈ ['-', ':', '.', ' ', '+', '\u2212', 'T', 't', 'Z', 'z']

/-- The text has no other characters than those of a timestamp. -/
def IsStampText (text : List Char) : Prop :=
  ∀ c ∈ text, IsStampChar c

/-- What the piece takes from the front of a text are characters of a timestamp. -/
def TakesStampChars {α : Type} (piece : Piece α) : Prop :=
  ∀ ⦃text value rest⦄, piece text = .ok (value, rest) → IsStampText rest → IsStampText text

/-! ### Pieces one behind the other -/

section Sequence

variable {α β : Type} {piece : Piece α}

/-- A piece may be followed by whatever does not mind the case of what is left, up to what is done to
its result. -/
theorem IgnoresCase.bind_map (hpiece : IgnoresCase piece)
    {next : α × List Char → Except TimestampError β} {after : β → β} (text : List Char)
    (hnext : ∀ value rest,
      next (value, rest.map Char.toLower) = (next (value, rest)).map after) :
    (piece (text.map Char.toLower) >>= next) = (piece text >>= next).map after := by
  rw [hpiece text]
  cases piece text with
  | error reason => rfl
  | ok read => exact hnext read.1 read.2

theorem IgnoresCase.bind (hpiece : IgnoresCase piece)
    {next : α × List Char → Except TimestampError β} (text : List Char)
    (hnext : ∀ value rest, next (value, rest.map Char.toLower) = next (value, rest)) :
    (piece (text.map Char.toLower) >>= next) = (piece text >>= next) := by
  have hsame : ∀ result : Except TimestampError β, result.map id = result := by
    rintro (reason | result) <;> rfl
  have hunchanged : ∀ value rest,
      next (value, rest.map Char.toLower) = (next (value, rest)).map id := by
    intro value rest
    rw [hnext, hsame]
  rw [hpiece.bind_map text hunchanged, hsame]

theorem TakesStampChars.of_bind (hpiece : TakesStampChars piece)
    {next : α × List Char → Except TimestampError β} {text : List Char} {result : β}
    (hread : (piece text >>= next) = .ok result) :
    ∃ value rest, next (value, rest) = .ok result ∧ (IsStampText rest → IsStampText text) := by
  cases hfirst : piece text with
  | error reason =>
    rw [hfirst] at hread
    cases hread
  | ok read =>
    rw [hfirst] at hread
    exact ⟨read.1, read.2, hread, hpiece hfirst⟩

end Sequence

/-! ### The pieces -/

theorem ignoresCase_twoDigits : IgnoresCase twoDigits := by
  intro text
  match text with
  | [] => rfl
  | [_] => rfl
  | a :: b :: rest =>
    by_cases hdigits : a.isDigit = true ∧ b.isDigit = true
    · simp [twoDigits, hdigits, Decimal.toLower_of_isDigit, Except.map, inLower]
    · simp [twoDigits, hdigits, Except.map]

theorem ignoresCase_fourDigits : IgnoresCase fourDigits := by
  intro text
  match text with
  | [] => rfl
  | [_] => rfl
  | [_, _] => rfl
  | [_, _, _] => rfl
  | a :: b :: c :: d :: rest =>
    by_cases hdigits : a.isDigit = true ∧ b.isDigit = true ∧ c.isDigit = true ∧ d.isDigit = true
    · simp [fourDigits, hdigits, Decimal.toLower_of_isDigit, Except.map, inLower]
    · simp [fourDigits, hdigits, Except.map]

theorem ignoresCase_mark (expected : Char) (hplain : expected.isAlpha = false) :
    IgnoresCase (mark expected) := by
  intro text
  cases text with
  | nil => rfl
  | cons c rest =>
    by_cases hc : c = expected
    · simp [mark, Text.toLower_eq_iff_of_not_isAlpha hplain, hc, Except.map, inLower]
    · simp [mark, Text.toLower_eq_iff_of_not_isAlpha hplain, hc, Except.map]

theorem ignoresCase_separator : IgnoresCase separator := by
  intro text
  cases text with
  | nil => rfl
  | cons c rest =>
    have hsame := Text.apply_toLower (fun c => c = 'T' ∨ c = 't' ∨ c = ' ')
      (by decide +kernel) c
    by_cases hc : c = 'T' ∨ c = 't' ∨ c = ' '
    · simp only [List.map_cons, separator, hsame, if_pos hc]
      rfl
    · simp only [List.map_cons, separator, hsame, if_neg hc]
      rfl

theorem ignoresCase_fraction : IgnoresCase fraction := by
  intro text
  cases text with
  | nil => rfl
  | cons c rest =>
    by_cases hpoint : c = '.'
    · subst hpoint
      have hspan := Text.spanDigits_lower rest
      have hlower : ('.' :: rest).map Char.toLower = '.' :: rest.map Char.toLower := rfl
      rw [hlower, fraction, fraction, hspan]
      by_cases hnone : (Decimal.spanDigits rest).1 = []
      · simp [hnone, Except.map]
      · simp [hnone, Except.map, inLower]
    · have hlower : c.toLower ≠ '.' := by
        rwa [Ne, Text.toLower_eq_iff_of_not_isAlpha (by decide)]
      simp [fraction, hpoint, hlower, Except.map, inLower]

theorem ignoresCase_offsetPair : IgnoresCase offsetPair := by
  intro text
  match text with
  | [] => rfl
  | [c] =>
    have hascii := Text.apply_toLower (fun c => c.toNat < 0x80) (by decide +kernel) c
    simp [offsetPair, hascii, Except.map]
  | a :: b :: rest => exact ignoresCase_twoDigits (a :: b :: rest)

theorem ignoresCase_offset : IgnoresCase (offset (mark ':')) := by
  intro text
  cases text with
  | nil => rfl
  | cons c rest =>
    have hutc := Text.apply_toLower (fun c => c = 'Z' ∨ c = 'z') (by decide +kernel) c
    have hplus : c.toLower = '+' ↔ c = '+' := Text.toLower_eq_iff_of_not_isAlpha (by decide)
    have hminus : c.toLower = '-' ↔ c = '-' := Text.toLower_eq_iff_of_not_isAlpha (by decide)
    have hlong : c.toLower = '\u2212' ↔ c = '\u2212' :=
      Text.toLower_eq_iff_of_not_isAlpha (by decide)
    simp only [List.map_cons, offset, hutc, hplus, hminus, hlong]
    by_cases hzulu : c = 'Z' ∨ c = 'z'
    · rw [if_pos hzulu, if_pos hzulu]
      rfl
    rw [if_neg hzulu, if_neg hzulu]
    by_cases hsigned : c = '+' ∨ c = '-' ∨ c = '\u2212'
    · rw [if_pos hsigned, if_pos hsigned]
      refine ignoresCase_offsetPair.bind_map rest fun hours afterHours => ?_
      refine (ignoresCase_mark _ (by decide)).bind_map afterHours fun _ afterColon => ?_
      refine ignoresCase_offsetPair.bind_map afterColon fun minutes afterMinutes => ?_
      dsimp only
      by_cases htoo : 60 ≤ minutes
      · rw [if_pos htoo, if_pos htoo]
        rfl
      · rw [if_neg htoo, if_neg htoo]
        rfl
    · rw [if_neg hsigned, if_neg hsigned]
      rfl

/-! ### What the pieces take -/

theorem isStampText_append {taken rest : List Char} (htaken : IsStampText taken)
    (hrest : IsStampText rest) : IsStampText (taken ++ rest) :=
  List.forall_mem_append.2 ⟨htaken, hrest⟩

theorem isStampText_cons {c : Char} {rest : List Char} (hc : IsStampChar c)
    (hrest : IsStampText rest) : IsStampText (c :: rest) :=
  List.forall_mem_cons.2 ⟨hc, hrest⟩

theorem isStampText_of_digits {digits : List Char} (hdigits : ∀ c ∈ digits, c.isDigit = true) :
    IsStampText digits :=
  fun c hc => Or.inl (hdigits c hc)

theorem takesStampChars_twoDigits : TakesStampChars twoDigits := by
  intro text value rest hread hrest
  match text with
  | [] => cases hread
  | [_] => cases hread
  | a :: b :: others =>
    rw [twoDigits] at hread
    split at hread
    next hdigits =>
      cases hread
      rw [Bool.and_eq_true] at hdigits
      exact isStampText_cons (Or.inl hdigits.1) (isStampText_cons (Or.inl hdigits.2) hrest)
    next => cases hread

theorem takesStampChars_fourDigits : TakesStampChars fourDigits := by
  intro text value rest hread hrest
  match text with
  | [] => cases hread
  | [_] => cases hread
  | [_, _] => cases hread
  | [_, _, _] => cases hread
  | a :: b :: c :: d :: others =>
    rw [fourDigits] at hread
    split at hread
    next hdigits =>
      cases hread
      exact isStampText_append (isStampText_of_digits (List.all_eq_true.1 hdigits)) hrest
    next => cases hread

theorem takesStampChars_mark (expected : Char) (hstamp : IsStampChar expected) :
    TakesStampChars (mark expected) := by
  intro text value rest hread hrest
  cases text with
  | nil => cases hread
  | cons c others =>
    rw [mark] at hread
    split at hread
    next hc =>
      cases hread
      exact isStampText_cons (hc ▸ hstamp) hrest
    next => cases hread

theorem takesStampChars_separator : TakesStampChars separator := by
  intro text value rest hread hrest
  cases text with
  | nil => cases hread
  | cons c others =>
    rw [separator] at hread
    split at hread
    next hc =>
      cases hread
      exact isStampText_cons (by rcases hc with rfl | rfl | rfl <;> simp [IsStampChar]) hrest
    next => cases hread

theorem takesStampChars_fraction : TakesStampChars fraction := by
  intro text value rest hread hrest
  unfold fraction at hread
  split at hread
  next others =>
    have hdigits : ∀ c ∈ (Decimal.spanDigits others).1, c.isDigit = true :=
      fun c hc => List.mem_takeWhile_imp hc
    have hsplit := Decimal.spanDigits_append others
    dsimp only at hread
    split at hread
    next => cases hread
    next =>
      cases hread
      rw [← hsplit]
      exact isStampText_cons (by simp [IsStampChar])
        (isStampText_append (isStampText_of_digits hdigits) hrest)
  next =>
    cases hread
    exact hrest

theorem takesStampChars_offsetPair : TakesStampChars offsetPair := by
  intro text value rest hread hrest
  match text with
  | [] => cases hread
  | [_] => cases hread
  | a :: b :: others => exact takesStampChars_twoDigits hread hrest

theorem takesStampChars_offset : TakesStampChars (offset (mark ':')) := by
  intro text value rest hread hrest
  cases text with
  | nil => cases hread
  | cons c others =>
    rw [offset] at hread
    split at hread
    next hzulu =>
      cases hread
      exact isStampText_cons (by rcases hzulu with rfl | rfl <;> simp [IsStampChar]) hrest
    next =>
      split at hread
      next hsigned =>
        obtain ⟨hours, _, hread, hfirst⟩ := takesStampChars_offsetPair.of_bind hread
        obtain ⟨_, _, hread, hcolon⟩ :=
          (takesStampChars_mark _ (by simp [IsStampChar])).of_bind hread
        obtain ⟨minutes, _, hread, hlast⟩ := takesStampChars_offsetPair.of_bind hread
        dsimp only at hread
        split at hread
        next => cases hread
        next =>
          cases hread
          exact isStampText_cons (by rcases hsigned with rfl | rfl | rfl <;> simp [IsStampChar])
            (hfirst (hcolon (hlast hrest)))
      next => cases hread

/-! ### The whole timestamp -/

theorem utf8ByteSize_lower (text : List Char) :
    (String.ofList (text.map Char.toLower)).utf8ByteSize = (String.ofList text).utf8ByteSize := by
  rw [String.utf8ByteSize_ofList, String.utf8ByteSize_ofList]
  induction text with
  | nil => rfl
  | cons c rest ih =>
    have hsize := Text.apply_toLower Char.utf8Size (by decide +kernel) c
    rw [List.map_cons, String.utf8Len_cons, String.utf8Len_cons, ih, hsize]

/-- A timestamp is read alike in either case, down to the reason for which it is refused. -/
theorem readStrict_lower (text : List Char) :
    readStrict (text.map Char.toLower) = readStrict text := by
  have hdash := ignoresCase_mark '-' (by decide)
  have hcolon := ignoresCase_mark ':' (by decide)
  rw [readStrict, readStrict, utf8ByteSize_lower]
  split_ifs
  · rfl
  refine ignoresCase_fourDigits.bind text fun year text => ?_
  refine hdash.bind text fun _ text => ?_
  refine ignoresCase_twoDigits.bind text fun month text => ?_
  refine hdash.bind text fun _ text => ?_
  refine ignoresCase_twoDigits.bind text fun day text => ?_
  dsimp only
  split_ifs
  · rfl
  refine ignoresCase_separator.bind text fun _ text => ?_
  refine ignoresCase_twoDigits.bind text fun hour text => ?_
  refine hcolon.bind text fun _ text => ?_
  refine ignoresCase_twoDigits.bind text fun minute text => ?_
  refine hcolon.bind text fun _ text => ?_
  refine ignoresCase_twoDigits.bind text fun second text => ?_
  refine ignoresCase_fraction.bind text fun nano text => ?_
  dsimp only
  split
  · rfl
  refine ignoresCase_offset.bind text fun ahead text => ?_
  simp

/-- A text that is a timestamp has no other characters than those of one. -/
theorem isStampText_of_readStrict {text : List Char} {instant : Instant}
    (hread : readStrict text = .ok instant) : IsStampText text := by
  have hdash := takesStampChars_mark '-' (by simp [IsStampChar])
  have hcolon := takesStampChars_mark ':' (by simp [IsStampChar])
  rw [readStrict] at hread
  split at hread
  next => cases hread
  next =>
    obtain ⟨year, _, hread, hyear⟩ := takesStampChars_fourDigits.of_bind hread
    obtain ⟨_, _, hread, hyearEnd⟩ := hdash.of_bind hread
    obtain ⟨month, _, hread, hmonth⟩ := takesStampChars_twoDigits.of_bind hread
    obtain ⟨_, _, hread, hmonthEnd⟩ := hdash.of_bind hread
    obtain ⟨day, _, hread, hday⟩ := takesStampChars_twoDigits.of_bind hread
    dsimp only at hread
    split at hread
    next => cases hread
    next =>
      obtain ⟨_, _, hread, hdayEnd⟩ := takesStampChars_separator.of_bind hread
      obtain ⟨hour, _, hread, hhour⟩ := takesStampChars_twoDigits.of_bind hread
      obtain ⟨_, _, hread, hhourEnd⟩ := hcolon.of_bind hread
      obtain ⟨minute, _, hread, hminute⟩ := takesStampChars_twoDigits.of_bind hread
      obtain ⟨_, _, hread, hminuteEnd⟩ := hcolon.of_bind hread
      obtain ⟨second, _, hread, hsecond⟩ := takesStampChars_twoDigits.of_bind hread
      obtain ⟨nano, _, hread, hnano⟩ := takesStampChars_fraction.of_bind hread
      dsimp only at hread
      split at hread
      next => cases hread
      next secondOfDay nanoOfSecond _ =>
        obtain ⟨ahead, rest, hread, hoffset⟩ := takesStampChars_offset.of_bind hread
        have hrest : rest = [] := by
          by_contra hsome
          rw [if_pos hsome] at hread
          cases hread
        have hend : IsStampText rest := by simp [IsStampText, hrest]
        exact hyear (hyearEnd (hmonth (hmonthEnd (hday (hdayEnd (hhour (hhourEnd (hminute
          (hminuteEnd (hsecond (hnano (hoffset hend))))))))))))

end MetricBridge.Time.Rfc3339
