/-
# Going back in time

Cutting an instant to its second takes its fraction away. This never leaves the range of instants,
whereas going back by an arbitrary duration may. Where it does not, the result is earlier by a
positive duration however short, also when it starts from a leap second: what shares its second
number with a leap second and is not one comes before it. And the longer the duration, the
earlier the result.
-/

import Mathlib
import MetricBridge.Proofs.Time.Order

namespace MetricBridge.Time.Instant

theorem nano_lt (instant : Instant) : instant.nano < 2000000000 := by
  have hsubsecond := instant.subsecond
  simp only [IsSubsecond] at hsubsecond
  omega

theorem nano_lt_of_not_isLeap {instant : Instant} (hplain : instant.isLeap = false) :
    instant.nano < 10 ^ 9 := by
  simpa [isLeap] using hplain

/-! ### Cutting to the second -/

/-- The instant has no fraction of a second: it is the beginning of a second or of a leap second. -/
def IsWhole (instant : Instant) : Prop :=
  instant.nano = 0 ∨ (instant.nano = 1000000000 ∧ instant.second % 60 = 59)

theorem isWhole_truncate (instant : Instant) : instant.truncate.IsWhole := by
  have hsubsecond := instant.subsecond
  simp only [IsSubsecond] at hsubsecond
  simp only [IsWhole, truncate]
  omega

theorem truncate_eq_of_isWhole {instant : Instant} (hwhole : instant.IsWhole) :
    instant.truncate = instant := by
  refine eq_of_parts instant.second_truncate ?_
  simp only [truncate, IsWhole] at hwhole ⊢
  omega

theorem map_truncate_ofSecond? (second : Int) :
    (ofSecond? second).map truncate = ofSecond? second := by
  cases hinstant : ofSecond? second with
  | none => rfl
  | some instant =>
    obtain ⟨-, hnano⟩ := ofParts?_eq_some_iff.1 hinstant
    rw [Option.map_some, truncate_eq_of_isWhole (Or.inl hnano)]

theorem truncate_le_truncate {a b : Instant} (hle : a ≤ b) : a.truncate ≤ b.truncate := by
  rw [le_iff] at hle ⊢
  simp only [truncate]
  omega

/-- How far an instant is into its second, or into its leap second. -/
def fraction (instant : Instant) : Duration :=
  ⟨instant.nano % 1000000000⟩

/-! ### Going back -/

theorem afterSecond?_eq_some_iff {second nanoseconds : Int} {instant : Instant} :
    afterSecond? second nanoseconds = some instant ↔
      instant.second = second + nanoseconds / 1000000000 ∧
        (instant.nano : Int) = nanoseconds % 1000000000 := by
  rw [afterSecond?, ofParts?_eq_some_iff]
  simp only [Duration.perSecond]
  omega

/-- Less than a second back from a leap second there is the same second number; in all other
cases the way back is counted from the beginning of the second. -/
theorem sub?_of_nonneg (instant : Instant) {duration : Duration}
    (hnonneg : 0 ≤ duration.nanoseconds) :
    instant.sub? duration =
      if 1000000000 ≤ instant.nano ∧ duration.nanoseconds < 1000000000 then
        ofParts? instant.second (instant.nano - duration.nanoseconds).toNat
      else afterSecond? instant.second (instant.nano - duration.nanoseconds) := by
  have hnano := instant.nano_lt
  have hstep : (instant.nano : Int) + -duration.nanoseconds =
      instant.nano - duration.nanoseconds := Int.sub_eq_add_neg.symm
  unfold sub? add?
  simp only [hstep]
  split
  next hleap =>
    rw [isLeap, decide_eq_true_eq] at hleap
    rw [if_neg (by simp only [Duration.perSecond]; omega)]
    split
    next hlong =>
      simp only [Duration.perSecond] at hlong
      rw [if_neg (by omega)]
    next hshort =>
      simp only [Duration.perSecond] at hshort
      rw [if_pos (by omega)]
  next hplain =>
    rw [isLeap, decide_eq_true_eq] at hplain
    rw [if_neg (by omega)]

/-- Going back by the fraction of an instant is cutting it, and always has a result. -/
theorem sub?_fraction (instant : Instant) : instant.sub? instant.fraction = some instant.truncate := by
  have hnano := instant.nano_lt
  have hfraction : instant.fraction.nanoseconds = (instant.nano : Int) % 1000000000 := rfl
  rw [sub?_of_nonneg instant (by omega)]
  split
  next hleap =>
    rw [ofParts?_eq_some_iff]
    refine ⟨rfl, ?_⟩
    simp only [truncate]
    omega
  next hplain =>
    rw [afterSecond?_eq_some_iff]
    simp only [truncate]
    omega

/-- What is a positive duration earlier is earlier. -/
theorem lt_of_sub?_eq_some {instant earlier : Instant} {duration : Duration}
    (hpositive : 0 < duration.nanoseconds) (hsub : instant.sub? duration = some earlier) :
    earlier < instant := by
  have hnano := instant.nano_lt
  rw [sub?_of_nonneg instant hpositive.le] at hsub
  rw [lt_iff]
  split at hsub
  next hleap =>
    rw [ofParts?_eq_some_iff] at hsub
    omega
  next hplain =>
    rw [afterSecond?_eq_some_iff] at hsub
    omega

/-- What is longer ago is not later, also where the shorter way back ends within a leap second. -/
theorem sub?_antitone {instant earlier earliest : Instant} {shorter longer : Duration}
    (hnonneg : 0 ≤ shorter.nanoseconds) (hle : shorter.nanoseconds ≤ longer.nanoseconds)
    (hshorter : instant.sub? shorter = some earlier)
    (hlonger : instant.sub? longer = some earliest) : earliest ≤ earlier := by
  have hnano := instant.nano_lt
  rw [sub?_of_nonneg instant hnonneg] at hshorter
  rw [sub?_of_nonneg instant (hnonneg.trans hle)] at hlonger
  rw [le_iff]
  split at hshorter <;> split at hlonger
  all_goals
    simp only [ofParts?_eq_some_iff, afterSecond?_eq_some_iff] at hshorter hlonger
    omega

theorem sub?_ofSeconds_zero (now : Instant) : now.sub? (.ofSeconds 0) = some now := by
  have hnano := now.nano_lt
  have hnone : (Duration.ofSeconds 0).nanoseconds = 0 := rfl
  rw [sub?_of_nonneg now hnone.ge]
  split
  next hleap =>
    rw [ofParts?_eq_some_iff, hnone]
    omega
  next hplain =>
    rw [afterSecond?_eq_some_iff, hnone]
    omega

/-- A second or more back from a whole second, leap or not, there is a whole second. -/
theorem sub?_ofSeconds_of_pos {now : Instant} (hnow : now.IsWhole) {seconds : Nat}
    (hpos : 0 < seconds) :
    now.sub? (.ofSeconds seconds) =
      ofSecond? (now.second + now.nano / 1000000000 - seconds) := by
  have hlong : (Duration.ofSeconds seconds).nanoseconds = seconds * 1000000000 := rfl
  rw [sub?_of_nonneg now (by omega), if_neg (by omega), afterSecond?,
    ofSecond?, hlong]
  simp only [IsWhole, Duration.perSecond] at hnow ⊢
  congr 1 <;> omega

/-! ### A leap second -/

/-- 2016-12-31T23:59:59Z. -/
def lastPlainSecond : Instant := ⟨1483228799, 0, by decide, by decide⟩

/-- 2016-12-31T23:59:60Z, the leap second after it. -/
def leapSecond : Instant := ⟨1483228799, 1000000000, by decide, by decide⟩

/-- 2017-01-01T00:00:00.5Z, in the next second. -/
def newYear : Instant := ⟨1483228800, 500000000, by decide, by decide⟩

end MetricBridge.Time.Instant
