/-
# The same time in three ways

The time of a record may come from a timestamp, from a number of seconds since 1970, or from the
clock, if the record gives none. Each way cuts it to the second by other means: an instant is cut
to the whole second that is not after it, a number loses its fraction. From 1970 on these are the
same, and so are they before it where there is no fraction; a number of seconds before 1970 that
has one is cut to the second behind it, and its point lies a second after the one that the same
time has as a text.
-/

import Mathlib
import MetricBridge.Ingest.Record
import MetricBridge.Proofs.Binary64.Whole
import MetricBridge.Proofs.Dictionary
import MetricBridge.Proofs.Time.Earlier
import MetricBridge.Proofs.Time.Timestamps

namespace MetricBridge

open Time (Instant)
open Time.Rfc3339 (Writes)
open Binary64 (towardZero)

namespace Time.Instant

/-! ### Cutting an instant and cutting its number -/

/-- The seconds since 1970, with their fraction. -/
def toRat (instant : Instant) : ℚ :=
  instant.second + instant.nano / 10 ^ 9

/-- The second is the latest whole one that is not after the instant. -/
def IsLatestWhole (instant whole : Instant) : Prop :=
  IsGreatest {other : Instant | other.nano = 0 ∧ other ≤ instant} whole

theorem isLatestWhole_wholeSecond (instant : Instant) :
    instant.IsLatestWhole instant.wholeSecond := by
  refine ⟨⟨rfl, (le_of_nano_eq_zero rfl).2 le_rfl⟩, ?_⟩
  rintro other ⟨hwhole, hle⟩
  rw [le_of_nano_eq_zero hwhole] at hle ⊢
  exact hle

section Plain

variable {instant : Instant} (hplain : instant.isLeap = false)

include hplain

theorem truncate_eq_wholeSecond : instant.truncate = instant.wholeSecond := by
  refine eq_of_parts rfl ?_
  have hwhole : instant.nano / 10 ^ 9 = 0 := Nat.div_eq_of_lt (nano_lt_of_not_isLeap hplain)
  simp only [truncate, nano_wholeSecond]
  omega

/-- A number loses its fraction toward 1970. -/
theorem towardZero_toRat :
    towardZero instant.toRat =
      if 0 ≤ instant.second ∨ instant.nano = 0 then instant.second else instant.second + 1 := by
  have hnano : (instant.nano : ℚ) < 10 ^ 9 := by exact_mod_cast nano_lt_of_not_isLeap hplain
  have hbelow : (instant.nano : ℚ) / 10 ^ 9 < 1 := by rwa [div_lt_one (by norm_num)]
  have hnonneg : 0 ≤ (instant.nano : ℚ) / 10 ^ 9 := by positivity
  rcases le_or_gt 0 instant.second with hafter | hbefore
  · have hsecond : (0 : ℚ) ≤ instant.second := by exact_mod_cast hafter
    rw [if_pos (Or.inl hafter), towardZero, if_pos (by rw [toRat]; linarith), toRat,
      Int.floor_intCast_add, Int.floor_eq_zero_iff.2 ⟨hnonneg, hbelow⟩, add_zero]
  · have hsecond : (instant.second : ℚ) ≤ -1 := by exact_mod_cast Int.le_sub_one_of_lt hbefore
    rw [towardZero, if_neg (by rw [toRat]; linarith), toRat, Int.ceil_intCast_add]
    by_cases hwhole : instant.nano = 0
    · simp [hwhole]
    · have hfraction : 0 < (instant.nano : ℚ) / 10 ^ 9 := by
        have hpos : 0 < instant.nano := Nat.pos_of_ne_zero hwhole
        positivity
      have hceil : ⌈(instant.nano : ℚ) / 10 ^ 9⌉ = 1 :=
        Int.ceil_eq_iff.2 ⟨by simpa using hfraction, by simpa using hbelow.le⟩
      rw [hceil, if_neg (by omega)]

end Plain

end Time.Instant

namespace Record

/-! ### Records with a time and without -/

/-- The record gives no time, or null. -/
def IsUntimed (record : Record) : Prop :=
  ∀ raw, Dictionary.get? "time" record = some raw → raw = .null

/-- The record with a time. -/
def withTime (raw : Json.Value) (record : Record) : Record :=
  Dictionary.put "time" raw record

section Timed

variable (record : Record) (raw : Json.Value)

@[simp]
theorem name?_withTime : (record.withTime raw).name? = record.name? := by
  rw [name?, name?, withTime, Dictionary.get?_put, if_neg (by decide)]

@[simp]
theorem value?_withTime : (record.withTime raw).value? = record.value? := by
  rw [value?, value?, withTime, Dictionary.get?_put, if_neg (by decide)]

theorem time_withTime {raw : Json.Value} {instant : Instant}
    (hinstant : instantOf? raw = some instant) (emitted : Instant) :
    (record.withTime raw).time emitted = .ok instant := by
  rw [time, withTime, Dictionary.get?_put, if_pos rfl]
  cases raw with
  | null => cases hinstant
  | _ => simp only [hinstant]

end Timed

theorem IsUntimed.time_eq {record : Record} (huntimed : record.IsUntimed) (instant : Instant) :
    record.time instant = .ok instant := by
  unfold time
  cases htime : Dictionary.get? "time" record with
  | none => rfl
  | some raw => rw [huntimed raw htime]

/-- A record with a time stands for the point that it stands for without one, if it is written at
this time. -/
theorem point_withTime {record : Record} (huntimed : record.IsUntimed) {raw : Json.Value}
    {instant : Instant} (hinstant : instantOf? raw = some instant) (emitted : Instant) :
    (record.withTime raw).point emitted = record.point instant := by
  simp only [point, name?_withTime, value?_withTime, record.time_withTime hinstant,
    huntimed.time_eq]

/-- Whether a record without a time is rejected has nothing to do with the clock, and if it is not,
only the time of its point has. -/
theorem IsUntimed.point_cases {record : Record} (huntimed : record.IsUntimed) :
    (∃ rejection, ∀ instant, record.point instant = .error rejection) ∨
      ∃ name value, ∀ instant, record.point instant = .ok ⟨instant.truncate, name, value⟩ := by
  cases hname : record.name? with
  | none => exact Or.inl ⟨.missingField "name", fun instant => by simp only [point, hname]⟩
  | some name =>
    cases hvalue : record.value? with
    | none =>
      exact Or.inl ⟨.missingField "value", fun instant => by simp only [point, hname, hvalue]⟩
    | some value =>
      by_cases hblank : name.toList.any Text.isBlank = true
      · exact Or.inl ⟨.blankInName name, fun instant => by
          simp only [point, hname, hvalue, if_pos hblank]⟩
      · refine Or.inr ⟨name, value, fun instant => ?_⟩
        simp only [point, hname, hvalue, if_neg hblank, huntimed.time_eq]
        rfl

/-! ### The instant of a time that is given -/

theorem instantOf?_text {instant : Instant} {text : String} (hwrites : Writes instant text.toList) :
    instantOf? (.string text) = some instant := by
  rw [instantOf?, Time.Rfc3339.readStrict_of_writes hwrites]
  rfl

/-- The instant of a number is the second that is left of it. -/
theorem exists_instantOf?_number {instant : Instant} (hplain : instant.isLeap = false)
    {number : Json.Number} (hnumber : number.toBinary64.toRat? = some instant.toRat) :
    ∃ cut, instantOf? (.number number) = some cut ∧ cut.nano = 0 ∧
      cut.second =
        if 0 ≤ instant.second ∨ instant.nano = 0 then instant.second else instant.second + 1 := by
  have hrange := instant.inRange
  have hsecond : ∃ cut, Instant.ofSecond? (towardZero instant.toRat) = some cut := by
    rw [instant.towardZero_toRat hplain, Instant.ofSecond?, Instant.ofParts?, dif_pos]
    · exact ⟨_, rfl⟩
    · refine ⟨?_, Or.inl (by decide)⟩
      simp only [Time.firstSecond, Time.lastSecond] at hrange ⊢
      split_ifs <;> omega
  obtain ⟨cut, hcut⟩ := hsecond
  obtain ⟨hcutSecond, hcutNano⟩ := Instant.ofParts?_eq_some_iff.1 hcut
  refine ⟨cut, ?_, hcutNano, ?_⟩
  · rw [instantOf?, Binary64.wholePart?_eq_map, hnumber, Option.map_some, Option.bind_some, hcut]
  · rw [hcutSecond, instant.towardZero_toRat hplain]

/-- Let an instant in the years from 0 to 9999 be in no leap second. There is a text of it, and a
record that gives it as any such text stands for the point that it stands for without a time when it
is written at the instant; the time of the point is the latest whole second that is not after it. A
record that gives it as a number stands for the same point, unless the instant is before 1970 and
has a fraction of a second, in which case the point lies a second later. -/
theorem point_givenTime {record : Record} (huntimed : record.IsUntimed) {instant : Instant}
    (hplain : instant.isLeap = false)
    (hyear : 0 ≤ instant.date.year ∧ instant.date.year ≤ 9999) :
    (∃ text : String, Writes instant text.toList) ∧
    ∀ (emitted : Instant) (text : String) (number : Json.Number), Writes instant text.toList →
      number.toBinary64.toRat? = some instant.toRat →
      let byClock := record.point instant
      let byText := (record.withTime (.string text)).point emitted
      let byNumber := (record.withTime (.number number)).point emitted
      byText = byClock ∧
      (∀ point, byClock = .ok point → instant.IsLatestWhole point.time) ∧
      (byNumber = byText ↔
        0 ≤ instant.second ∨ instant.nano = 0 ∨ ∃ rejection, byText = .error rejection) ∧
      ∀ point, byText = .ok point → instant.second < 0 → instant.nano ≠ 0 →
        ∃ time, byNumber = .ok { point with time } ∧ time.nano = 0 ∧
          time.second = point.time.second + 1 := by
  refine ⟨⟨String.ofList instant.zuluText, ?_⟩, ?_⟩
  · rw [String.toList_ofList]
    exact Time.Rfc3339.writes_zuluText hplain hyear
  · intro emitted text number hwrites hnumber byClock byText byNumber
    obtain ⟨cut, hcut, hcutNano, hcutSecond⟩ := exists_instantOf?_number hplain hnumber
    have htext : byText = byClock := point_withTime huntimed (instantOf?_text hwrites) emitted
    have hnumberPoint : byNumber = record.point cut := point_withTime huntimed hcut emitted
    have hkept : cut.truncate = cut := Instant.truncate_eq_of_isWhole (Or.inl hcutNano)
    rw [htext, hnumberPoint]
    refine ⟨rfl, ?_⟩
    rcases huntimed.point_cases with ⟨rejection, hrejected⟩ | ⟨name, value, hpoint⟩
    · have hclock : byClock = .error rejection := hrejected instant
      rw [hclock, hrejected cut]
      exact ⟨by simp, by simp, by simp⟩
    · have hclock : byClock = .ok ⟨instant.wholeSecond, name, value⟩ := by
        rw [← instant.truncate_eq_wholeSecond hplain]
        exact hpoint instant
      rw [hclock, hpoint cut, hkept]
      refine ⟨?_, ?_, ?_⟩
      · rintro _ ⟨⟩
        exact instant.isLatestWhole_wholeSecond
      · have hsame : cut = instant.wholeSecond ↔ 0 ≤ instant.second ∨ instant.nano = 0 := by
          constructor
          · intro heq
            by_contra hearly
            rw [if_neg hearly, heq, Instant.second_wholeSecond] at hcutSecond
            omega
          · intro hkind
            rw [if_pos hkind] at hcutSecond
            exact Instant.eq_of_parts hcutSecond hcutNano
        simp [hsame]
      · rintro _ ⟨⟩ hbefore hfraction
        rw [if_neg (by omega)] at hcutSecond
        exact ⟨cut, rfl, hcutNano, hcutSecond⟩

/-! ### One and a half seconds before 1970 and after -/

/-- A record of a name and a value. -/
def untimedSample : Record :=
  [("name", .string "m"), ("value", .number (.whole 1))]

theorem isUntimed_untimedSample : untimedSample.IsUntimed := by
  simp [IsUntimed, untimedSample, Dictionary.get?]

theorem isCanonical_oneAndAHalf : Binary64.IsCanonical (3 * 2 ^ 51) (-52) := by
  decide

/-- The number 1.5 with a sign. -/
def oneAndAHalf (negative : Bool) : Json.Number :=
  .real (.finite negative ⟨3 * 2 ^ 51, -52, isCanonical_oneAndAHalf⟩)

/-- 1970-01-01T00:00:01.5Z. -/
def oneAndAHalfAfter : Instant := ⟨1, 500000000, by decide, by decide⟩

/-- 1969-12-31T23:59:58.5Z. -/
def oneAndAHalfBefore : Instant := ⟨-2, 500000000, by decide, by decide⟩

theorem toRat?_oneAndAHalf :
    (oneAndAHalf false).toBinary64.toRat? = some oneAndAHalfAfter.toRat ∧
      (oneAndAHalf true).toBinary64.toRat? = some oneAndAHalfBefore.toRat := by
  constructor <;>
    norm_num [oneAndAHalf, Json.Number.toBinary64, Binary64.toRat?, Binary64.Magnitude.toRat,
      oneAndAHalfAfter, oneAndAHalfBefore, Instant.toRat]

theorem writes_oneAndAHalfAfter : Writes oneAndAHalfAfter "1970-01-01T00:00:01.500Z".toList := by
  have htext : oneAndAHalfAfter.zuluText = "1970-01-01T00:00:01.500Z".toList := by decide +kernel
  rw [← htext]
  exact Time.Rfc3339.writes_zuluText (by decide) (by decide)

theorem writes_oneAndAHalfBefore : Writes oneAndAHalfBefore "1969-12-31T23:59:58.500Z".toList := by
  have htext : oneAndAHalfBefore.zuluText = "1969-12-31T23:59:58.500Z".toList := by decide +kernel
  rw [← htext]
  exact Time.Rfc3339.writes_zuluText (by decide) (by decide)

theorem point_givenTime_after :
    untimedSample.IsUntimed ∧ oneAndAHalfAfter.isLeap = false ∧
      (untimedSample.withTime (.string "1970-01-01T00:00:01.500Z")).point .epoch =
        untimedSample.point oneAndAHalfAfter ∧
      (untimedSample.withTime (.number (oneAndAHalf false))).point .epoch =
        untimedSample.point oneAndAHalfAfter := by
  have hplain : oneAndAHalfAfter.isLeap = false := by decide
  obtain ⟨-, hall⟩ := point_givenTime isUntimed_untimedSample hplain (by decide)
  obtain ⟨htext, -, hnumber, -⟩ := hall .epoch _ _ writes_oneAndAHalfAfter toRat?_oneAndAHalf.1
  exact ⟨isUntimed_untimedSample, hplain, htext, (hnumber.2 (Or.inl (by decide))).trans htext⟩

/-- Of two records that give the time one and a half seconds before 1970, one as a text and the
other as a number, the first lies in the latest whole second that is not after this time. The other
lies in the next one. -/
theorem point_givenTime_before :
    Writes oneAndAHalfBefore "1969-12-31T23:59:58.500Z".toList ∧
      (oneAndAHalf true).toBinary64.toRat? = some oneAndAHalfBefore.toRat ∧
      ∃ early late,
        (untimedSample.withTime (.string "1969-12-31T23:59:58.500Z")).point .epoch = .ok early ∧
        (untimedSample.withTime (.number (oneAndAHalf true))).point .epoch = .ok late ∧
        oneAndAHalfBefore.IsLatestWhole early.time ∧ late.time.second = early.time.second + 1 := by
  refine ⟨writes_oneAndAHalfBefore, toRat?_oneAndAHalf.2,
    ⟨oneAndAHalfBefore.wholeSecond, "m", .ofInt 1⟩,
    ⟨⟨-1, 0, by decide, by decide⟩, "m", .ofInt 1⟩, ?_, ?_,
    oneAndAHalfBefore.isLatestWhole_wholeSecond, rfl⟩
  · rw [point_withTime isUntimed_untimedSample (instantOf?_text writes_oneAndAHalfBefore)]
    rfl
  · rfl

end Record

end MetricBridge
