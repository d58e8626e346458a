/-
# A look-back is a start that long ago

A look-back has steps of its own, beside those of a start and an end. They come to the same: for a
positive duration, a look-back resolves exactly if a start that long ago does, with the end at now
or left out, and the three ranges are one. Its window is never empty, however short the duration
and also where the clock shows a leap second; and a longer look-back never loses an instant.

All this is about positive durations. With any other a look-back is refused, whereas a start that
is no time ago, or lies ahead, may do.
-/

import Mathlib
import MetricBridge.Proofs.Window.Interval
import MetricBridge.Proofs.Window.Resolution

namespace MetricBridge

open Time (Instant Duration)

/-- What is longer ago means no later second. -/
theorem Moment.Means.le_of_ago {now earlier earliest : Instant} {shorter longer : Duration}
    (hshorter : (Moment.ago shorter).Means now earlier)
    (hlonger : (Moment.ago longer).Means now earliest) (hnonneg : 0 ≤ shorter.nanoseconds)
    (hle : shorter.nanoseconds ≤ longer.nanoseconds) : earliest ≤ earlier := by
  cases hshorter with
  | ago hsub =>
    cases hlonger with
    | ago hsub' => exact Instant.truncate_le_truncate (Instant.sub?_antitone hnonneg hle hsub hsub')

namespace Window

variable {now : Instant} {duration : Duration} {range : Range}

/-- The range from the second a duration ago until now. -/
def ReachesBack (now : Instant) (duration : Duration) (range : Range) : Prop :=
  ∃ first, (Moment.ago duration).Means now first ∧ range = ⟨some first, .bounded now⟩

/-! ### Two ways to one range -/

theorem resolves_lookBack_iff (hduration : 0 < duration.nanoseconds) :
    Resolves now ⟨none, none, some duration⟩ (.ok range) ↔ ReachesBack now duration range := by
  constructor
  · intro hresolves
    cases hresolves with
    | lookBack _ hmeans => exact ⟨_, hmeans, rfl⟩
  · rintro ⟨first, hmeans, rfl⟩
    exact .lookBack hduration hmeans

/-- A start ago lies before now, so that the two are always in order. -/
theorem resolves_ago_iff {stop : Option Moment} (hduration : 0 < duration.nanoseconds)
    (hstop : stop.getD .now = .now) :
    Resolves now ⟨some (.ago duration), stop, none⟩ (.ok range) ↔
      ReachesBack now duration range := by
  constructor
  · intro hresolves
    cases hresolves with
    | liveAfter => cases hstop
    | between hmeans hlast =>
      rw [hstop] at hlast
      cases hlast with
      | now => exact ⟨_, hmeans, rfl⟩
  · rintro ⟨first, hmeans, rfl⟩
    refine .between hmeans ?_ (hmeans.lt_of_ago hduration).le
    rw [hstop]
    exact .now

/-! ### Windows of look-backs -/

/-- The window of a longer look-back holds that of a shorter one. -/
theorem contains_of_longer {longer : Duration} {first earliest time : Instant}
    (hmeans : (Moment.ago duration).Means now first)
    (hlonger : (Moment.ago longer).Means now earliest) (hnonneg : 0 ≤ duration.nanoseconds)
    (hle : duration.nanoseconds ≤ longer.nanoseconds)
    (hcontains : Interval.contains ⟨some first, now⟩ time = true) :
    Interval.contains ⟨some earliest, now⟩ time = true := by
  rw [Interval.contains_some_iff] at hcontains ⊢
  exact ⟨(hmeans.le_of_ago hlonger hnonneg hle).trans_lt hcontains.1, hcontains.2⟩

/-- A positive look-back, a start that long ago, and this start with the end at now resolve
to the same range or all not at all: the one from the second so long ago until now. Its start lies
before its end; and whatever lies in its window lies in that of any longer look-back that resolves,
too. -/
theorem lookBack_isShorthand (clock : Instant) (hduration : 0 < duration.nanoseconds) :
    let lookBack := ReadOptions.resolve ⟨none, none, some duration⟩ clock
    (∀ range, lookBack = .ok range ↔
      ReadOptions.resolve ⟨some (.ago duration), none, none⟩ clock = .ok range) ∧
    (∀ range, lookBack = .ok range ↔
      ReadOptions.resolve ⟨some (.ago duration), some .now, none⟩ clock = .ok range) ∧
    (∀ range, lookBack = .ok range ↔ ReachesBack clock.truncate duration range) ∧
    (∀ range, lookBack = .ok range →
      ∃ start stop, range.interval? = some ⟨some start, stop⟩ ∧ start < stop) ∧
    (∀ longer range wide, duration.nanoseconds ≤ longer.nanoseconds → lookBack = .ok range →
      ReadOptions.resolve ⟨none, none, some longer⟩ clock = .ok wide →
      ∃ window wideWindow, range.interval? = some window ∧ wide.interval? = some wideWindow ∧
        ∀ time, window.contains time = true → wideWindow.contains time = true) := by
  intro lookBack
  have hlookBack : ∀ range, lookBack = .ok range ↔ ReachesBack clock.truncate duration range :=
    fun _ => resolve_eq_iff.trans (resolves_lookBack_iff hduration)
  refine ⟨?_, ?_, hlookBack, ?_, ?_⟩
  · intro range
    rw [hlookBack, resolve_eq_iff, resolves_ago_iff hduration rfl]
  · intro range
    rw [hlookBack, resolve_eq_iff, resolves_ago_iff hduration rfl]
  · intro range hrange
    obtain ⟨first, hmeans, rfl⟩ := (hlookBack range).1 hrange
    exact ⟨first, clock.truncate, rfl, hmeans.lt_of_ago hduration⟩
  · intro longer range wide hle hrange hwide
    rw [resolve_eq_iff, resolves_lookBack_iff (hduration.trans_le hle)] at hwide
    obtain ⟨first, hmeans, rfl⟩ := (hlookBack range).1 hrange
    obtain ⟨earliest, hlonger, rfl⟩ := hwide
    refine ⟨_, _, rfl, rfl, fun time hcontains => ?_⟩
    exact contains_of_longer hmeans hlonger hduration.le hle hcontains

/-- Half a second back from a leap second is the last plain second of its minute, by either way of
asking; and a look-back that goes beyond that second still takes the leap second in. -/
theorem lookBack_fromLeapSecond :
    let half : Duration := ⟨500000000⟩
    let range : Range := ⟨some .lastPlainSecond, .bounded .leapSecond⟩
    0 < half.nanoseconds ∧
      ReadOptions.resolve ⟨none, none, some half⟩ .leapSecond = .ok range ∧
      ReadOptions.resolve ⟨some (.ago half), some .now, none⟩ .leapSecond = .ok range ∧
      ∃ wide window,
        ReadOptions.resolve ⟨none, none, some ⟨1500000000⟩⟩ .leapSecond = .ok wide ∧
          wide.interval? = some window ∧ window.contains .leapSecond = true := by
  intro half range
  have hpositive : 0 < half.nanoseconds := by decide
  have hrange : ReadOptions.resolve ⟨none, none, some half⟩ .leapSecond = .ok range := by
    decide +kernel
  obtain ⟨wide, hwide⟩ : ∃ wide,
      ReadOptions.resolve ⟨none, none, some ⟨1500000000⟩⟩ .leapSecond = .ok wide := ⟨_, rfl⟩
  obtain ⟨-, hbetween, -, -, hlonger⟩ := lookBack_isShorthand .leapSecond hpositive
  obtain ⟨window, wideWindow, hwindow, hwideWindow, hcontains⟩ :=
    hlonger _ _ _ (by decide) hrange hwide
  cases hwindow
  exact ⟨hpositive, hrange, (hbetween range).1 hrange, wide, wideWindow, hwide, hwideWindow,
    hcontains _ (by decide)⟩

end Window

end MetricBridge
