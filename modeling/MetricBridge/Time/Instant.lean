/-
# Points in time

An instant is a second since 1970-01-01T00:00:00Z and the nanoseconds into it. A
minute may end in a leap second, which has no second number of its own: it is the
second before it with nanoseconds from 10^9 up to 2 * 10^9. It therefore shares its
epoch second with `:59`, comes after all of `:59` and before the next minute.

Instants lie in the years -262143 to 262142; arithmetic that would leave them has no
result. All three facts (least second, greatest second, the form of the nanoseconds) are
part of the type.

The order is lexicographic, which is the order in time because of how leap seconds
are numbered.
-/

import MetricBridge.Time.Duration

namespace MetricBridge.Time

/-- The first second of the year -262143. -/
def firstSecond : Int := -8334601228800

/-- The last second of the year 262142. -/
def lastSecond : Int := 8210266876799

/-- Nanoseconds within a second: below 10^9, or up to 2 * 10^9 in the last second of a
minute. -/
def IsSubsecond (second : Int) (nano : Nat) : Prop :=
  nano < 1000000000 ∨ (nano < 2000000000 ∧ second % 60 = 59)

instance (second : Int) (nano : Nat) : Decidable (IsSubsecond second nano) :=
  inferInstanceAs (Decidable (_ ∨ _))

/-- A point in time. -/
structure Instant where
  second : Int
  nano : Nat
  inRange : firstSecond ≤ second ∧ second ≤ lastSecond
  subsecond : IsSubsecond second nano
  deriving DecidableEq

namespace Instant

/-- The instant with these parts, if there is one. -/
def ofParts? (second : Int) (nano : Nat) : Option Instant :=
  if valid : (firstSecond ≤ second ∧ second ≤ lastSecond) ∧ IsSubsecond second nano then
    some ⟨second, nano, valid.1, valid.2⟩
  else none

/-- The first nanosecond of a second, if the second is within the range of instants. -/
def ofSecond? (second : Int) : Option Instant :=
  ofParts? second 0

/-- 1970-01-01T00:00:00Z. -/
def epoch : Instant :=
  ⟨0, 0, by decide, by decide⟩

instance : Inhabited Instant := ⟨epoch⟩

/-- Earlier in time. -/
protected def lt (a b : Instant) : Prop :=
  a.second < b.second ∨ (a.second = b.second ∧ a.nano < b.nano)

/-- Not later in time. -/
protected def le (a b : Instant) : Prop :=
  a.second < b.second ∨ (a.second = b.second ∧ a.nano ≤ b.nano)

instance : LT Instant := ⟨Instant.lt⟩

instance : LE Instant := ⟨Instant.le⟩

theorem lt_iff {a b : Instant} :
    a < b ↔ a.second < b.second ∨ (a.second = b.second ∧ a.nano < b.nano) :=
  Iff.rfl

theorem le_iff {a b : Instant} :
    a ≤ b ↔ a.second < b.second ∨ (a.second = b.second ∧ a.nano ≤ b.nano) :=
  Iff.rfl

instance (a b : Instant) : Decidable (a < b) :=
  inferInstanceAs (Decidable (_ ∨ _))

instance (a b : Instant) : Decidable (a ≤ b) :=
  inferInstanceAs (Decidable (_ ∨ _))

instance : Max Instant := ⟨fun a b => if a ≤ b then b else a⟩

/-- The instant without its fraction of a second. A leap second stays one. -/
def truncate (instant : Instant) : Instant where
  second := instant.second
  nano := instant.nano / 1000000000 * 1000000000
  inRange := instant.inRange
  subsecond := by
    have hsub := instant.subsecond
    simp only [IsSubsecond] at hsub ⊢
    omega

/-- The instant is a leap second. -/
def isLeap (instant : Instant) : Bool :=
  1000000000 ≤ instant.nano

/-- The instant so many nanoseconds after the start of a second, no leap second. -/
def afterSecond? (second : Int) (nanoseconds : Int) : Option Instant :=
  ofParts? (second + nanoseconds / Duration.perSecond)
    (nanoseconds % Duration.perSecond).toNat

/-- The instant a duration later. Ordinarily this is plain addition. A leap second is
left forward as if it were the second before it, backward by a second or more as if it
were the second after it, and a shorter step backward stays in it or ends in the
second before it. -/
def add? (instant : Instant) (duration : Duration) : Option Instant :=
  let step := duration.nanoseconds
  let nano : Int := instant.nano
  if instant.isLeap then
    if Duration.perSecond ≤ step ∨ 2 * Duration.perSecond ≤ nano + step then
      afterSecond? instant.second (nano - Duration.perSecond + step)
    else if step ≤ -Duration.perSecond then
      afterSecond? instant.second (nano + step)
    else ofParts? instant.second (nano + step).toNat
  else afterSecond? instant.second (nano + step)

/-- The instant a duration earlier. -/
def sub? (instant : Instant) (duration : Duration) : Option Instant :=
  instant.add? ⟨-duration.nanoseconds⟩

/-- Truncation keeps the epoch second. -/
@[simp]
theorem second_truncate (instant : Instant) : instant.truncate.second = instant.second :=
  rfl

/-- An instant is never earlier than the second it lies in. -/
theorem truncate_le (instant : Instant) : instant.truncate ≤ instant := by
  exact Or.inr ⟨rfl, Nat.div_mul_le_self _ _⟩

/-- What `ofParts?` gives has the parts that were asked for. -/
theorem ofParts?_eq_some_iff {second : Int} {nano : Nat} {instant : Instant} :
    ofParts? second nano = some instant ↔ instant.second = second ∧ instant.nano = nano := by
  constructor
  · intro hsome
    unfold ofParts? at hsome
    split at hsome
    · cases hsome
      exact ⟨rfl, rfl⟩
    · cases hsome
  · rintro ⟨rfl, rfl⟩
    simp [ofParts?, instant.inRange, instant.subsecond]

end Instant

end MetricBridge.Time
