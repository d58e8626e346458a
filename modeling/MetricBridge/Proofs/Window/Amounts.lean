/-
# Which texts are a duration

A duration in words is a whole number and the name of a unit, with blanks between them, within a
wrapping of blanks and colons. Two limits apply: the number fits 63 bits, and so do the milliseconds
of the whole. `IsAmount` is this form, and it does not mention how a duration is read.

The second limit is the one that counts later. A duration within it can be held in milliseconds,
and going back by it from any instant is calculated in seconds that fit 64 bits with their sign; so
all that can happen to it when options are resolved is that no instant is there.
-/

import Mathlib
import MetricBridge.Proofs.Decimal.Numerals
import MetricBridge.Proofs.Window.Resolution
import MetricBridge.Proofs.Window.Wrapping

namespace MetricBridge

open Time (Instant Duration)

namespace Window

open Text (IsBlankText)

/-! ### The form of a duration -/

/-- The names of the units, by their seconds. -/
inductive UnitNames : (factor : Nat) → (names : List String) → Prop
  | second : UnitNames 1 ["s", "sec", "secs", "second", "seconds"]
  | minute : UnitNames 60 ["m", "min", "mins", "minute", "minutes"]
  | hour : UnitNames 3600 ["h", "hr", "hour", "hours"]
  | day : UnitNames 86400 ["d", "day", "days"]
  | week : UnitNames 604800 ["w", "week", "weeks"]

/-- The word is the name of a unit in any letter case. -/
def IsUnit (factor : Nat) (word : List Char) : Prop :=
  ∃ names, UnitNames factor names ∧ ∃ name ∈ names, word.map Char.toLower = name.toList

/-- A number and a unit, and the seconds that they come to. -/
inductive Amount : (words : List Char) → (seconds : Nat) → Prop
  | of {digits gap unit : List Char} {factor : Nat} (hsome : digits ≠ [])
      (hdigits : ∀ c ∈ digits, c.isDigit = true) (hgap : IsBlankText gap)
      (hunit : IsUnit factor unit) (hnumber : Decimal.value digits ≤ 2 ^ 63 - 1)
      (hlimit : Decimal.value digits * factor ≤ (2 ^ 63 - 1) / 1000) :
      Amount (digits ++ gap ++ unit) (Decimal.value digits * factor)

/-- The text is a duration of so many seconds in words. -/
def IsAmount (text : List Char) (seconds : Nat) : Prop :=
  ∃ words, Wraps words text ∧ Amount words seconds

/-! ### Units -/

theorem unitSeconds?_eq_some_iff {word : String} {factor : Nat} :
    unitSeconds? word = some factor ↔ ∃ names, UnitNames factor names ∧ word ∈ names := by
  constructor
  · intro hunit
    unfold unitSeconds? at hunit
    split at hunit
    next hmem => cases hunit; exact ⟨_, .second, hmem⟩
    next =>
      split at hunit
      next hmem => cases hunit; exact ⟨_, .minute, hmem⟩
      next =>
        split at hunit
        next hmem => cases hunit; exact ⟨_, .hour, hmem⟩
        next =>
          split at hunit
          next hmem => cases hunit; exact ⟨_, .day, hmem⟩
          next =>
            split at hunit
            next hmem => cases hunit; exact ⟨_, .week, hmem⟩
            next => cases hunit
  · rintro ⟨names, hnames, hmem⟩
    have hall : ∀ name ∈ names, unitSeconds? name = some factor := by
      cases hnames <;> decide
    exact hall word hmem

theorem unitSeconds?_lowered_iff {word : List Char} {factor : Nat} :
    unitSeconds? (lowered word) = some factor ↔ IsUnit factor word := by
  have hname : ∀ name : String, name.toList = word.map Char.toLower ↔ name = lowered word := by
    intro name
    rw [lowered, ← String.toList_inj, String.toList_ofList]
  rw [unitSeconds?_eq_some_iff]
  constructor
  · rintro ⟨names, hnames, hmem⟩
    exact ⟨names, hnames, _, hmem, ((hname _).2 rfl).symm⟩
  · rintro ⟨names, hnames, name, hmem, hword⟩
    exact ⟨names, hnames, (hname name).1 hword.symm ▸ hmem⟩

/-- The name of a unit has letters, and nothing else. -/
theorem IsUnit.letters {factor : Nat} {word : List Char} (hunit : IsUnit factor word) :
    word ≠ [] ∧ ∀ c ∈ word, c.toLower.isLower = true := by
  obtain ⟨names, hnames, name, hmem, hword⟩ := hunit
  have hall : ∀ name ∈ names, name.toList ≠ [] ∧ ∀ c ∈ name.toList, c.isLower = true := by
    cases hnames <;> simp [Char.isLower]
  obtain ⟨hne, hletters⟩ := hall name hmem
  constructor
  · rintro rfl
    exact hne hword.symm
  · intro c hc
    apply hletters
    rw [← hword]
    exact List.mem_map_of_mem hc

theorem not_isDigit_of_isLower {c : Char} (hlower : c.toLower.isLower = true) :
    c.isDigit = false := by
  cases hdigit : c.isDigit with
  | false => rfl
  | true =>
    have hbounds := Decimal.toNat_bounds_of_isDigit hdigit
    rw [Decimal.toLower_of_isDigit hdigit] at hlower
    simp only [Char.isLower, Bool.and_eq_true, decide_eq_true_eq, UInt32.le_iff_toNat_le] at hlower
    have hletter : 97 ≤ c.toNat := hlower.1
    omega

theorem IsUnit.isTight {factor : Nat} {word : List Char} (hunit : IsUnit factor word) :
    IsTight word :=
  isTight_of_letters hunit.letters.1 hunit.letters.2

/-! ### Reading an amount -/

theorem Amount.isTight {words : List Char} {seconds : Nat} (hamount : Amount words seconds) :
    IsTight words := by
  cases hamount with
  | @of digits gap unit factor hsome hdigits hgap hunit =>
    obtain ⟨c, rest, rfl⟩ := List.exists_cons_of_ne_nil hsome
    have hdigit := hdigits c List.mem_cons_self
    constructor
    · refine ⟨c, _, rfl, Decimal.not_isBlank_of_isDigit hdigit, ?_⟩
      rintro rfl
      cases hdigit
    · rw [List.reverse_append]
      exact hunit.isTight.last.append _

theorem greatestAmount_eq : greatestAmount = 2 ^ 63 - 1 := rfl

theorem greatestSeconds_eq : greatestSeconds = (2 ^ 63 - 1) / 1000 := rfl

theorem secondsOf_of_amount {words : List Char} {seconds : Nat} (hamount : Amount words seconds) :
    secondsOf words = .ok seconds := by
  cases hamount with
  | @of digits gap unit factor hsome hdigits hgap hunit hnumber hlimit =>
    have hhead : ∀ c ∈ (gap ++ unit).head?, c.isDigit = false := by
      refine Text.head_append_of_isBlankText (p := fun c => c.isDigit = false) hgap ?_ ?_
      · exact fun c hblank => Text.eq_false_of_isBlank (by decide) hblank
      · intro c hc
        have hlower := hunit.letters.2 c (List.mem_of_mem_head? hc)
        exact not_isDigit_of_isLower hlower
    have hspan : Decimal.spanDigits (digits ++ gap ++ unit) = (digits, gap ++ unit) := by
      rw [List.append_assoc]
      exact Decimal.spanDigits_append_of_not_digit hdigits hhead
    have htrim : Text.trim (gap ++ unit) = unit := by
      have haround := trim_around gap [] hunit.isTight
      rw [Text.trimStart_eq_nil_iff.2 hgap] at haround
      simpa [Text.trimStart] using haround
    rw [← greatestSeconds_eq] at hlimit
    rw [← greatestAmount_eq] at hnumber
    unfold secondsOf
    simp only [hspan, htrim, unitSeconds?_lowered_iff.2 hunit, hsome, hnumber.not_gt, hlimit,
      or_self, if_true, if_false]

/-- What is read is an amount, with blanks behind it. -/
theorem exists_amount_of_secondsOf {text : List Char} {seconds : Nat}
    (hread : secondsOf text = .ok seconds) :
    ∃ words blanks, text = words ++ blanks ∧ IsBlankText blanks ∧ Amount words seconds := by
  have htext := Decimal.spanDigits_append text
  have hdigits : ∀ c ∈ (Decimal.spanDigits text).1, c.isDigit = true :=
    fun _ => List.mem_takeWhile_imp
  unfold secondsOf at hread
  generalize Decimal.spanDigits text = span at htext hdigits hread
  obtain ⟨digits, rest⟩ := span
  simp only at htext hdigits hread
  split at hread
  next => cases hread
  next hnumber =>
    rw [not_or, not_lt, greatestAmount_eq] at hnumber
    split at hread
    next => cases hread
    next factor hunit =>
      split at hread
      next hlimit =>
        cases hread
        rw [greatestSeconds_eq] at hlimit
        rw [unitSeconds?_lowered_iff] at hunit
        obtain ⟨gap, blanks, hgap, hblanks, hbehind⟩ := exists_append_trim rest
        refine ⟨digits ++ gap ++ Text.trim rest, blanks, ?_, hblanks,
          .of hnumber.1 hdigits hgap hunit hnumber.2 hlimit⟩
        rw [← htext, List.append_assoc, List.append_assoc, ← List.append_assoc gap, ← hbehind]
      next => cases hread

/-! ### Reading a duration -/

/-- A text is read as a duration exactly if it is an amount of seconds in words. -/
theorem readDuration_eq_ok_iff {option : String} {text : List Char} {duration : Duration} :
    readDuration option text = .ok duration ↔
      ∃ seconds, IsAmount text seconds ∧ duration = .ofSeconds seconds := by
  constructor
  · intro hread
    unfold readDuration at hread
    split at hread
    next seconds hseconds =>
      cases hread
      obtain ⟨words, blanks, hbare, hblanks, hamount⟩ := exists_amount_of_secondsOf hseconds
      obtain ⟨before, after, hbefore, hafter, htext⟩ := wraps_bare text
      refine ⟨seconds, ⟨words, ⟨before, blanks ++ after, hbefore, ?_, ?_⟩, hamount⟩, rfl⟩
      · have hbehind := (isWrapping_of_isBlankText hblanks 0).append hafter
        rwa [Nat.zero_add] at hbehind
      · rw [hbare] at htext
        rw [htext]
        simp
    next => cases hread
  · rintro ⟨seconds, ⟨words, hwraps, hamount⟩, rfl⟩
    rw [readDuration, bare_eq_of_wraps hwraps hamount.isTight, secondsOf_of_amount hamount]

/-- A text that is read as no duration is told of as the value of its option. -/
theorem exists_reason_of_readDuration {option : String} {text : List Char} {fault : Fault}
    (hread : readDuration option text = .error fault) :
    ∃ reason, fault = .invalidOption option reason := by
  unfold readDuration at hread
  split at hread <;> cases hread
  exact ⟨_, rfl⟩

end Window

/-! ### What becomes of a duration -/

namespace Time.Duration

/-- The milliseconds of the duration fit 64 bits with their sign, the least number left out. -/
def Fits (duration : Duration) : Prop :=
  -((2 ^ 63 - 1) * 1000000) ≤ duration.nanoseconds ∧
    duration.nanoseconds ≤ (2 ^ 63 - 1) * 1000000

theorem fits_ofSeconds_iff (seconds : Nat) :
    (ofSeconds seconds).Fits ↔ seconds ≤ (2 ^ 63 - 1) / 1000 := by
  simp only [Fits, ofSeconds, perSecond]
  omega

end Time.Duration

namespace Window

/-- The whole second so many seconds before another, if it is within the range of instants. A leap
second is left as if it were the second behind it. -/
def secondsBefore? (now : Instant) (seconds : Nat) : Option Instant :=
  if seconds = 0 then some now
  else Instant.ofSecond? (now.second + now.nano / 1000000000 - seconds)

theorem map_truncate_sub?_ofSeconds {now : Instant} (hnow : now.IsWhole) (seconds : Nat) :
    (now.sub? (.ofSeconds seconds)).map Instant.truncate = secondsBefore? now seconds := by
  unfold secondsBefore?
  split
  next hzero =>
    rw [hzero, Nat.cast_zero, Instant.sub?_ofSeconds_zero, Option.map_some,
      Instant.truncate_eq_of_isWhole hnow]
  next hsome =>
    rw [Instant.sub?_ofSeconds_of_pos hnow (Nat.pos_of_ne_zero hsome),
      Instant.map_truncate_ofSecond?]

theorem means_ago_ofSeconds_iff {now instant : Instant} (hnow : now.IsWhole) (seconds : Nat) :
    (Moment.ago (.ofSeconds seconds)).Means now instant ↔
      secondsBefore? now seconds = some instant := by
  rw [← map_truncate_sub?_ofSeconds hnow, Option.map_eq_some_iff]
  constructor
  · intro hmeans
    cases hmeans with
    | ago hsub => exact ⟨_, hsub, rfl⟩
  · rintro ⟨earlier, hsub, rfl⟩
    exact .ago hsub

/-- The duration is the look-back of the options, or leads back to their start or their end. -/
def Involves (options : ReadOptions) (duration : Duration) : Prop :=
  options.lookBack = some duration ∨ options.start = some (.ago duration) ∨
    options.stop = some (.ago duration)

/-- Nothing goes wrong with a duration of so many seconds: it can be held; whatever the clock
shows, the second so long ago is a number of 64 bits, and means an instant exactly if it is in their
range; and options in which it stands come to a range that suits them or to a fault that is found
before anything is sent. -/
structure IsSafe (seconds : Nat) : Prop where
  fits : (Duration.ofSeconds seconds).Fits
  held : ∀ now : Instant, -2 ^ 63 ≤ now.second - seconds ∧ now.second + 1 - seconds < 2 ^ 63
  means_iff : ∀ clock instant : Instant,
    (Moment.ago (.ofSeconds seconds)).Means clock.truncate instant ↔
      secondsBefore? clock.truncate seconds = some instant
  outcome : ∀ (options : ReadOptions) (clock : Instant),
    Involves options (.ofSeconds seconds) →
      (∃ range, options.resolve clock = .ok range ∧ range.Suits options) ∨
        ∃ fault, options.resolve clock = .error fault ∧ fault.isValidation = true

theorem isSafe_of_le {seconds : Nat} (hlimit : seconds ≤ (2 ^ 63 - 1) / 1000) : IsSafe seconds where
  fits := (Duration.fits_ofSeconds_iff seconds).2 hlimit
  held now := by
    have hrange := now.inRange
    simp only [Time.firstSecond, Time.lastSecond] at hrange
    omega
  means_iff clock instant := means_ago_ofSeconds_iff clock.isWhole_truncate seconds
  outcome options clock _ := by
    have hresolves := resolves_resolve options clock
    cases hresult : options.resolve clock with
    | ok range =>
      rw [hresult] at hresolves
      exact Or.inl ⟨range, rfl, hresolves.suits clock.isWhole_truncate⟩
    | error fault =>
      rw [hresult] at hresolves
      exact Or.inr ⟨fault, rfl, hresolves.isValidation⟩

theorem IsAmount.le {text : List Char} {seconds : Nat} (hamount : IsAmount text seconds) :
    seconds ≤ (2 ^ 63 - 1) / 1000 := by
  obtain ⟨words, -, hwords⟩ := hamount
  cases hwords with
  | of _ _ _ _ _ hlimit => exact hlimit

/-- A text is read as a duration exactly if it is one in words, and the duration is what it says;
every other text is refused as the value of its option. Whatever is read is safe to go back by. -/
theorem readDuration_exact (option : String) (text : List Char) :
    (∀ duration, readDuration option text = .ok duration ↔
      ∃ seconds, IsAmount text seconds ∧ duration = .ofSeconds seconds) ∧
    ((∃ reason, readDuration option text = .error (.invalidOption option reason)) ↔
      ¬ ∃ seconds, IsAmount text seconds) ∧
    ∀ seconds, IsAmount text seconds → IsSafe seconds := by
  refine ⟨fun duration => readDuration_eq_ok_iff, ?_, fun seconds hamount =>
    isSafe_of_le hamount.le⟩
  constructor
  · rintro ⟨reason, hread⟩ ⟨seconds, hamount⟩
    rw [readDuration_eq_ok_iff.2 ⟨seconds, hamount, rfl⟩] at hread
    cases hread
  · intro hnone
    cases hread : readDuration option text with
    | ok duration =>
      obtain ⟨seconds, hamount, -⟩ := readDuration_eq_ok_iff.1 hread
      exact absurd ⟨seconds, hamount⟩ hnone
    | error fault =>
      obtain ⟨reason, rfl⟩ := exists_reason_of_readDuration hread
      exact ⟨reason, rfl⟩

end Window

end MetricBridge
