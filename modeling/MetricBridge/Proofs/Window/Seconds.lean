/-
# Windows in seconds

A window is cut to the second when it is resolved, compared with instants when points are selected,
and sent to the store as two numbers of seconds. The store keeps one sample a second, and for these
the three views of a window agree, whatever fractions and leap seconds its bounds had at first.

Whether a window is worth a query is decided on instants, too, and there the views part: a window
from the last plain second of a minute to the leap second behind it has two bounds, but only one
second number. It is not empty as a window of instants, so the store is asked; but no second of the
store lies in it, and the two numbers that are sent are the same. This is the only such window.
-/

import Mathlib
import MetricBridge.Proofs.Decimal.Numerals
import MetricBridge.Proofs.Read.Exact
import MetricBridge.Proofs.Window.Resolution
import MetricBridge.Render.Request

namespace MetricBridge

open Time (Instant)

namespace Render

/-- The second that a request for a query sends under a name, read back from its text. -/
def sentSecond? (query : Query) (name : String) : Option Int :=
  ((params query).lookup name).bind fun text => Decimal.integer? text.toList

theorem integer?_secondText (time : Instant) :
    Decimal.integer? (secondText time).toList = some time.second := by
  rw [secondText, String.toList_ofList, Decimal.integer?_integer]

/-- The start is sent as its second number, and not at all if it is open. -/
theorem sentSecond?_from (query : Query) :
    sentSecond? query "from" = query.window.start.map Instant.second := by
  obtain ⟨target, ⟨start, stop⟩⟩ := query
  cases start with
  | none => rfl
  | some start => exact integer?_secondText start

theorem sentSecond?_until (query : Query) :
    sentSecond? query "until" = some query.window.stop.second := by
  obtain ⟨target, ⟨start, stop⟩⟩ := query
  cases start <;> exact integer?_secondText stop

end Render

namespace Interval

/-- The whole second of this number lies in the window. -/
def HasSecond (window : Interval) (second : Int) : Prop :=
  ∃ time, Instant.ofSecond? second = some time ∧ window.contains time = true

/-- What counts are the second numbers of the bounds. All numbers between them are those of
instants, since the bounds are instants themselves. -/
theorem hasSecond_iff {start stop : Instant} {second : Int} :
    HasSecond ⟨some start, stop⟩ second ↔ start.second < second ∧ second ≤ stop.second := by
  constructor
  · rintro ⟨time, htime, hcontains⟩
    obtain ⟨rfl, hwhole⟩ := Instant.ofParts?_eq_some_iff.1 htime
    obtain ⟨hstart, hstop⟩ := (contains_wholeSecond_iff hwhole).1 hcontains
    exact ⟨hstart start rfl, hstop⟩
  · rintro ⟨hstart, hstop⟩
    have hinRange : Time.firstSecond ≤ second ∧ second ≤ Time.lastSecond :=
      ⟨start.inRange.1.trans hstart.le, hstop.trans stop.inRange.2⟩
    let time : Instant := ⟨second, 0, hinRange, Or.inl (by decide)⟩
    have hcontains : contains ⟨some start, stop⟩ time = true := by
      rw [contains_some_iff, Instant.lt_of_nano_eq_zero rfl, Instant.le_of_nano_eq_zero rfl]
      exact ⟨hstart, hstop⟩
    exact ⟨time, Instant.ofParts?_eq_some_iff.2 ⟨rfl, rfl⟩, hcontains⟩

theorem exists_hasSecond_iff {start stop : Instant} :
    (∃ second, HasSecond ⟨some start, stop⟩ second) ↔ start.second < stop.second := by
  simp only [hasSecond_iff]
  constructor
  · rintro ⟨second, hafter, hupTo⟩
    exact hafter.trans_le hupTo
  · exact fun hlt => ⟨stop.second, hlt, le_rfl⟩

/-- A window with an open start holds the second in which it ends. -/
theorem hasSecond_of_open (stop : Instant) : HasSecond ⟨none, stop⟩ stop.second := by
  refine ⟨_, stop.ofSecond?_eq_wholeSecond, ?_⟩
  rw [contains_wholeSecond_iff rfl]
  exact ⟨fun _ hstart => absurd hstart (Option.not_mem_none _), le_rfl⟩

end Interval

namespace Window

theorem resolve_fixed_eq_ok {a b clock : Instant} {range : Range}
    (hresolve : ReadOptions.resolve ⟨some (.fixed a), some (.fixed b), none⟩ clock = .ok range) :
    range = ⟨some a.truncate, .bounded b.truncate⟩ := by
  cases resolve_eq_iff.1 hresolve with
  | between hstart hstop =>
    cases hstart
    cases hstop
    rfl

/-- Where two instants resolve to a range, a second number is that of a whole second between
them exactly if it is that of one in the window of the range, and exactly if it lies between the two
numbers that a request for the window sends. And in an empty window, for which no request is sent,
nothing lies at all. -/
theorem views_agree {a b clock : Instant} {range : Range}
    (hresolve : ReadOptions.resolve ⟨some (.fixed a), some (.fixed b), none⟩ clock = .ok range) :
    (∃ window, range.interval? = some window ∧ ∀ target, ∃ first last,
      Render.sentSecond? ⟨target, window⟩ "from" = some first ∧
      Render.sentSecond? ⟨target, window⟩ "until" = some last ∧
      ∀ second,
        ((∃ time, Instant.ofSecond? second = some time ∧ a < time ∧ time ≤ b) ↔
          window.HasSecond second) ∧
        (window.HasSecond second ↔ first < second ∧ second ≤ last)) ∧
    ∀ window : Interval, window.isEmpty = true → ∀ time, window.contains time = false := by
  rw [resolve_fixed_eq_ok hresolve]
  refine ⟨⟨_, rfl, fun target => ⟨a.second, b.second, ?_, ?_, fun second => ⟨?_, ?_⟩⟩⟩, ?_⟩
  · rw [Render.sentSecond?_from, Option.map_some, Instant.second_truncate]
  · rw [Render.sentSecond?_until, Instant.second_truncate]
  · have hbetween : (∃ time, Instant.ofSecond? second = some time ∧ a < time ∧ time ≤ b) ↔
        Interval.HasSecond ⟨some a, b⟩ second := by
      simp only [Interval.HasSecond, Interval.contains_some_iff]
    rw [hbetween, Interval.hasSecond_iff, Interval.hasSecond_iff]
    exact Iff.rfl
  · exact Interval.hasSecond_iff
  · exact fun _ => Interval.contains_eq_false_of_isEmpty

/-- From a leap second on, the first second in the window is the next one, not the one whose number
the leap second shares. -/
theorem views_fromLeapSecond :
    ∃ window : Interval,
      ReadOptions.resolve ⟨some (.fixed .leapSecond), some (.fixed .newYear), none⟩ .epoch =
        .ok ⟨window.start, .bounded window.stop⟩ ∧
      ¬ window.HasSecond 1483228799 ∧ window.HasSecond 1483228800 := by
  have hresolve : ReadOptions.resolve ⟨some (.fixed .leapSecond), some (.fixed .newYear), none⟩
      .epoch = .ok ⟨some .leapSecond, .bounded Instant.newYear.truncate⟩ := by
    decide +kernel
  obtain ⟨⟨window, hwindow, hviews⟩, -⟩ := views_agree hresolve
  cases hwindow
  obtain ⟨first, last, hfirst, hlast, hseconds⟩ := hviews "m"
  rw [Render.sentSecond?_from] at hfirst
  rw [Render.sentSecond?_until] at hlast
  cases hfirst
  cases hlast
  refine ⟨_, hresolve, fun hbefore => ?_, (hseconds _).2.2 (by decide)⟩
  exact absurd ((hseconds _).2.1 hbefore) (by decide)

end Window

/-! ### Windows that are asked for -/

theorem Range.interval?_eq_some_iff {range : Range} {window : Interval} :
    range.interval? = some window ↔ range = ⟨window.start, .bounded window.stop⟩ := by
  constructor
  · intro hwindow
    obtain ⟨start, stop⟩ := range
    cases stop <;> cases hwindow
    rfl
  · rintro rfl
    rfl

namespace Interval

/-- The window from the plain second that shares its number with a leap second to this leap
second. -/
def IsLeapSecond (window : Interval) : Prop :=
  window.stop.isLeap = true ∧ window.start = some window.stop.wholeSecond

theorem isLeapSecond_iff {start stop : Instant} :
    IsLeapSecond ⟨some start, stop⟩ ↔ 1000000000 ≤ stop.nano ∧ start = stop.wholeSecond := by
  rw [IsLeapSecond, Instant.isLeap, decide_eq_true_eq, Option.some_inj]

/-- A window of whole seconds that is not empty has two second numbers, unless it is a leap
second. -/
theorem second_lt_iff_not_isLeapSecond {start stop : Instant} (hstart : start.IsWhole)
    (hstop : stop.IsWhole) (hasked : isEmpty ⟨some start, stop⟩ = false) :
    start.second < stop.second ↔ ¬ IsLeapSecond ⟨some start, stop⟩ := by
  rw [isEmpty_some_eq_false_iff, Instant.lt_iff] at hasked
  simp only [Instant.IsWhole] at hstart hstop
  rw [isLeapSecond_iff]
  constructor
  · rintro hsecond ⟨-, rfl⟩
    exact absurd hsecond (lt_irrefl _)
  · intro hnot
    by_contra hsame
    have hequal : start.second = stop.second := by omega
    exact hnot ⟨by omega, Instant.eq_of_parts hequal (by rw [Instant.nano_wholeSecond]; omega)⟩

end Interval

namespace Window

/-- A query is asked exactly if its window is not empty. -/
theorem mem_asked_iff {σ : Type} {source : Source σ} {state : σ} {query asked : Query} :
    asked ∈ (query.run source.logged (state, [])).2.2 ↔
      asked = query ∧ query.window.isEmpty = false := by
  unfold Query.run
  split
  next hempty => simp [hempty]
  next hnot =>
    have hasked : (source.logged query (state, [])).2.2 = [query] := rfl
    simp [hasked, hnot]

/-- Of the windows that options resolve to, one that is not empty holds a whole second exactly if
it is not a leap second; and where both of its bounds are sent because the store is asked, these
are in order, and differ exactly if it is not a leap second. -/
theorem asked_holdsSecond_iff {σ : Type} (source : Source σ) (state : σ) (target : String)
    {options : ReadOptions} {clock : Instant} {range : Range} {window : Interval}
    (hresolve : options.resolve clock = .ok range) (hwindow : range.interval? = some window) :
    (window.isEmpty = false →
      ((∃ second, window.HasSecond second) ↔ ¬ window.IsLeapSecond)) ∧
    ∀ asked ∈ (Query.run source.logged ⟨target, window⟩ (state, [])).2.2, ∀ first last,
      Render.sentSecond? asked "from" = some first →
      Render.sentSecond? asked "until" = some last →
      first ≤ last ∧ (first < last ↔ ¬ window.IsLeapSecond) := by
  have hsuits : range.Suits options := (resolve_eq_iff.1 hresolve).suits clock.isWhole_truncate
  obtain ⟨start, stop⟩ := window
  obtain rfl := Range.interval?_eq_some_iff.1 hwindow
  cases start with
  | none =>
    have hnot : ¬ Interval.IsLeapSecond ⟨none, stop⟩ := by
      rintro ⟨-, hstart⟩
      cases hstart
    refine ⟨fun _ => iff_of_true ⟨_, Interval.hasSecond_of_open stop⟩ hnot, ?_⟩
    intro asked hasked first last hfirst
    obtain ⟨rfl, -⟩ := mem_asked_iff.1 hasked
    rw [Render.sentSecond?_from] at hfirst
    cases hfirst
  | some start =>
    have hdiffer : Interval.isEmpty ⟨some start, stop⟩ = false →
        (start.second < stop.second ↔ ¬ Interval.IsLeapSecond ⟨some start, stop⟩) :=
      Interval.second_lt_iff_not_isLeapSecond (hsuits.isWhole_start start rfl)
        (hsuits.isWhole_stop stop rfl)
    have hordered : start.second ≤ stop.second := by
      have hle := hsuits.ordered start stop rfl rfl
      rw [Instant.le_iff] at hle
      omega
    constructor
    · intro hempty
      rw [Interval.exists_hasSecond_iff, hdiffer hempty]
    · intro asked hasked first last hfirst hlast
      obtain ⟨rfl, hempty⟩ := mem_asked_iff.1 hasked
      rw [Render.sentSecond?_from] at hfirst
      rw [Render.sentSecond?_until] at hlast
      cases hfirst
      cases hlast
      exact ⟨hordered, hdiffer hempty⟩

/-- A window that goes on past a leap second holds the second behind it, and the numbers sent
differ. -/
theorem asked_pastLeapSecond :
    ∃ window : Interval,
      ReadOptions.resolve ⟨some (.fixed .lastPlainSecond), some (.fixed .newYear), none⟩ .epoch =
        .ok ⟨window.start, .bounded window.stop⟩ ∧ window.isEmpty = false ∧
      (∃ second, window.HasSecond second) ∧
      ∃ first last, Render.sentSecond? ⟨"m", window⟩ "from" = some first ∧
        Render.sentSecond? ⟨"m", window⟩ "until" = some last ∧ first < last := by
  let silent : Source Unit := fun _ state => (.ok [], state)
  let window : Interval := ⟨some .lastPlainSecond, Instant.newYear.truncate⟩
  have hresolve : ReadOptions.resolve
      ⟨some (.fixed .lastPlainSecond), some (.fixed .newYear), none⟩ .epoch =
        .ok ⟨window.start, .bounded window.stop⟩ := by
    decide +kernel
  have hempty : window.isEmpty = false := by decide
  have hnot : ¬ window.IsLeapSecond := by
    rintro ⟨hleap, -⟩
    exact absurd hleap (by decide)
  obtain ⟨hholds, hsent⟩ := asked_holdsSecond_iff silent () "m" hresolve rfl
  refine ⟨window, hresolve, hempty, (hholds hempty).2 hnot, _, _, Render.sentSecond?_from _,
    Render.sentSecond?_until _, ?_⟩
  exact (hsent _ (mem_asked_iff.2 ⟨rfl, hempty⟩) _ _ (Render.sentSecond?_from _)
    (Render.sentSecond?_until _)).2.2 hnot

/-- From the last plain second of a minute to the leap second behind it the window is not empty,
and every store is asked, also if the window comes of a look-back of half a second. But there is no
second of the store in it, and the two numbers that are sent are the same. -/
theorem asked_withinLeapSecond :
    let window : Interval := ⟨some .lastPlainSecond, .leapSecond⟩
    let query : Query := ⟨"m", window⟩
    ReadOptions.resolve ⟨some (.fixed .lastPlainSecond), some (.fixed .leapSecond), none⟩ .epoch =
        .ok ⟨window.start, .bounded window.stop⟩ ∧
      ReadOptions.resolve ⟨none, none, some ⟨500000000⟩⟩ .leapSecond =
        .ok ⟨window.start, .bounded window.stop⟩ ∧
      window.isEmpty = false ∧
      (∀ (σ : Type) (source : Source σ) (state : σ),
        query ∈ (query.run source.logged (state, [])).2.2) ∧
      (∀ second, ¬ window.HasSecond second) ∧
      Render.sentSecond? query "from" = Render.sentSecond? query "until" := by
  intro window query
  have hempty : window.isEmpty = false := by decide
  refine ⟨by decide +kernel, by decide +kernel, hempty, ?_, ?_, ?_⟩
  · exact fun σ source state => mem_asked_iff.2 ⟨rfl, hempty⟩
  · exact not_exists.1 (mt Interval.exists_hasSecond_iff.1 (lt_irrefl _))
  · rw [Render.sentSecond?_from, Render.sentSecond?_until]
    rfl

end Window

end MetricBridge
