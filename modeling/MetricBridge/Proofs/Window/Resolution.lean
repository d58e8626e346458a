/-
# What the options of a read come to

Three options, of which each may be missing, and four kinds of moments for two of them: every
combination has one outcome, a range or a fault. `Window.Resolves` lists the outcomes. It takes its
instants from what a moment means at a time and does not mention the steps of resolving, and an
outcome is the one that resolving gives exactly if it is on the list.

From the list it is read off that every range is well formed and when which fault arises. Where
several faults would do, the list also tells which of them comes first: a look-back beside
another option, then the start, then the end, and their order last.
-/

import Mathlib
import MetricBridge.Proofs.Time.Earlier
import MetricBridge.Window.Range

namespace MetricBridge

open Time (Instant Duration)

namespace Moment

/-- The instant that a moment means when the clock shows a whole second `now`. -/
inductive Means (now : Instant) : Moment → Instant → Prop
  | now : Means now .now now
  | fixed (instant : Instant) : Means now (.fixed instant) instant.truncate
  | ago {duration : Duration} {earlier : Instant} (hsub : now.sub? duration = some earlier) :
      Means now (.ago duration) earlier.truncate

/-- The moment is so long ago, or by a negative duration so far ahead, that no instant is there. -/
inductive LeavesRange (now : Instant) : Moment → Prop
  | ago {duration : Duration} (hsub : now.sub? duration = none) : LeavesRange now (.ago duration)

theorem endless_or_means_or_leavesRange (now : Instant) (moment : Moment) :
    moment = .endless ∨ (∃ instant, moment.Means now instant) ∨ moment.LeavesRange now := by
  cases moment with
  | now => exact Or.inr (Or.inl ⟨_, .now⟩)
  | endless => exact Or.inl rfl
  | fixed instant => exact Or.inr (Or.inl ⟨_, .fixed instant⟩)
  | ago duration =>
    cases hsub : now.sub? duration with
    | none => exact Or.inr (Or.inr (.ago hsub))
    | some earlier => exact Or.inr (Or.inl ⟨_, .ago hsub⟩)

theorem Means.isWhole {now instant : Instant} {moment : Moment} (hmeans : moment.Means now instant)
    (hnow : now.IsWhole) : instant.IsWhole := by
  cases hmeans with
  | now => exact hnow
  | fixed instant => exact instant.isWhole_truncate
  | @ago _ earlier _ => exact earlier.isWhole_truncate

/-- What is a positive duration ago lies in the past. -/
theorem Means.lt_of_ago {now instant : Instant} {duration : Duration}
    (hmeans : (Moment.ago duration).Means now instant) (hduration : 0 < duration.nanoseconds) :
    instant < now := by
  cases hmeans with
  | @ago _ earlier hsub =>
    exact lt_of_le_of_lt earlier.truncate_le (Instant.lt_of_sub?_eq_some hduration hsub)

end Moment

namespace Window

variable {now : Instant}

/-! ### Bounds -/

theorem secondBefore_of_means {instant : Instant} {duration : Duration} (option : String)
    (hmeans : (Moment.ago duration).Means now instant) :
    secondBefore option now duration = .ok instant := by
  cases hmeans with
  | ago hsub => rw [secondBefore, hsub]

theorem secondBefore_of_leavesRange {duration : Duration} (option : String)
    (hleaves : (Moment.ago duration).LeavesRange now) :
    secondBefore option now duration = .error (.invalidOption option "time out of range") := by
  cases hleaves with
  | ago hsub => rw [secondBefore, hsub]

theorem startOf_of_means {moment : Moment} {instant : Instant} (hmeans : moment.Means now instant) :
    startOf now moment = .ok instant := by
  cases hmeans with
  | now => rfl
  | fixed => rfl
  | ago hsub => exact secondBefore_of_means _ (.ago hsub)

theorem startOf_of_leavesRange {moment : Moment} (hleaves : moment.LeavesRange now) :
    startOf now moment = .error (.invalidOption ReadOptions.startName "time out of range") := by
  cases hleaves with
  | ago hsub => exact secondBefore_of_leavesRange _ (.ago hsub)

theorem stopOf_of_means {moment : Moment} {instant : Instant} (hmeans : moment.Means now instant) :
    stopOf now moment = .ok (.bounded instant) := by
  cases hmeans with
  | now => rfl
  | fixed => rfl
  | ago hsub => rw [stopOf, secondBefore_of_means _ (.ago hsub)]; rfl

theorem stopOf_of_leavesRange {moment : Moment} (hleaves : moment.LeavesRange now) :
    stopOf now moment = .error (.invalidOption ReadOptions.stopName "time out of range") := by
  cases hleaves with
  | ago hsub => rw [stopOf, secondBefore_of_leavesRange _ (.ago hsub)]; rfl

/-! ### Outcomes -/

/-- The outcome of options when the clock shows a whole second. -/
inductive Resolves (now : Instant) : ReadOptions → Except Fault Range → Prop
  | missing : Resolves now ⟨none, none, none⟩ (.error .missingTimeRange)
  | conflicting {start stop : Option Moment} {duration : Duration}
      (hother : start ≠ none ∨ stop ≠ none) :
      Resolves now ⟨start, stop, some duration⟩ (.error .conflictingTimeRange)
  | notPositive {duration : Duration} (hduration : duration.nanoseconds ≤ 0) :
      Resolves now ⟨none, none, some duration⟩
        (.error (.invalidOption ReadOptions.lookBackName "duration must be positive"))
  | lookBackLeaves {duration : Duration} (hduration : 0 < duration.nanoseconds)
      (hleaves : (Moment.ago duration).LeavesRange now) :
      Resolves now ⟨none, none, some duration⟩
        (.error (.invalidOption ReadOptions.lookBackName "time out of range"))
  | lookBack {duration : Duration} {first : Instant} (hduration : 0 < duration.nanoseconds)
      (hmeans : (Moment.ago duration).Means now first) :
      Resolves now ⟨none, none, some duration⟩ (.ok ⟨some first, .bounded now⟩)
  | endlessStart {stop : Option Moment} :
      Resolves now ⟨some .endless, stop, none⟩
        (.error (.invalidOption ReadOptions.startName ":end: is only valid for -to"))
  | startLeaves {start : Moment} {stop : Option Moment} (hleaves : start.LeavesRange now) :
      Resolves now ⟨some start, stop, none⟩
        (.error (.invalidOption ReadOptions.startName "time out of range"))
  | stopLeaves {start : Option Moment} {stop : Moment}
      (hstart : ∀ moment ∈ start, ∃ first, moment.Means now first)
      (hleaves : stop.LeavesRange now) :
      Resolves now ⟨start, some stop, none⟩
        (.error (.invalidOption ReadOptions.stopName "time out of range"))
  | live : Resolves now ⟨none, some .endless, none⟩ (.ok ⟨some now, .live⟩)
  | liveAfter {start : Moment} {first : Instant} (hstart : start.Means now first) :
      Resolves now ⟨some start, some .endless, none⟩ (.ok ⟨some first, .live⟩)
  | upTo {stop : Moment} {last : Instant} (hstop : stop.Means now last) :
      Resolves now ⟨none, some stop, none⟩ (.ok ⟨none, .bounded last⟩)
  | between {start : Moment} {stop : Option Moment} {first last : Instant}
      (hstart : start.Means now first) (hstop : (stop.getD .now).Means now last)
      (hordered : first ≤ last) :
      Resolves now ⟨some start, stop, none⟩ (.ok ⟨some first, .bounded last⟩)
  | disordered {start : Moment} {stop : Option Moment} {first last : Instant}
      (hstart : start.Means now first) (hstop : (stop.getD .now).Means now last)
      (hdisordered : last < first) :
      Resolves now ⟨some start, stop, none⟩
        (.error (.invalidTimeRange (String.ofList first.offsetText)
          (String.ofList last.offsetText)))

theorem lookBackRange_of_not_positive {duration : Duration} (hduration : duration.nanoseconds ≤ 0) :
    lookBackRange now duration =
      .error (.invalidOption ReadOptions.lookBackName "duration must be positive") := by
  rw [lookBackRange, Duration.isPositive, if_neg (by simp only [decide_eq_true_eq]; omega)]

theorem lookBackRange_of_positive {duration : Duration} (hduration : 0 < duration.nanoseconds) :
    lookBackRange now duration =
      (secondBefore ReadOptions.lookBackName now duration).map fun first =>
        ⟨some first, .bounded now⟩ := by
  rw [lookBackRange, Duration.isPositive, if_pos (by simp only [decide_eq_true_eq]; exact hduration)]

/-- The start is looked at first, then the end. -/
theorem boundsRange_some (start : Moment) (stop : Option Moment) :
    boundsRange now (some start) stop =
      (startOf now start).bind fun first =>
        (stopOf now (stop.getD .now)).bind fun stop => rangeBetween now (some first) stop := by
  cases hstart : startOf now start <;>
    simp [boundsRange, hstart, bind, Except.bind, Functor.map, Except.map]

theorem boundsRange_none (stop : Option Moment) :
    boundsRange now none stop = (stopOf now (stop.getD .now)).bind (rangeBetween now none) :=
  rfl

theorem resolve_eq_boundsRange {start stop : Option Moment} (clock : Instant)
    (hgiven : start ≠ none ∨ stop ≠ none) :
    ReadOptions.resolve ⟨start, stop, none⟩ clock = boundsRange clock.truncate start stop := by
  cases start <;> cases stop <;> simp_all [ReadOptions.resolve]

theorem resolve_conflicting {start stop : Option Moment} {duration : Duration} (clock : Instant)
    (hother : start ≠ none ∨ stop ≠ none) :
    ReadOptions.resolve ⟨start, stop, some duration⟩ clock = .error .conflictingTimeRange := by
  cases start <;> cases stop <;> simp_all [ReadOptions.resolve]

theorem resolves_lookBackRange (now : Instant) (duration : Duration) :
    Resolves now ⟨none, none, some duration⟩ (lookBackRange now duration) := by
  rcases lt_or_ge 0 duration.nanoseconds with hpositive | hnot
  · rw [lookBackRange_of_positive hpositive]
    rcases Moment.endless_or_means_or_leavesRange now (.ago duration) with
      hendless | ⟨first, hfirst⟩ | hleaves
    · cases hendless
    · rw [secondBefore_of_means _ hfirst]
      exact .lookBack hpositive hfirst
    · rw [secondBefore_of_leavesRange _ hleaves]
      exact .lookBackLeaves hpositive hleaves
  · rw [lookBackRange_of_not_positive hnot]
    exact .notPositive hnot

theorem resolves_upTo (now : Instant) (stop : Moment) :
    Resolves now ⟨none, some stop, none⟩ (boundsRange now none (some stop)) := by
  rw [boundsRange_none, Option.getD_some]
  rcases stop.endless_or_means_or_leavesRange now with rfl | ⟨last, hlast⟩ | hleaves
  · exact .live
  · rw [stopOf_of_means hlast]
    exact .upTo hlast
  · rw [stopOf_of_leavesRange hleaves]
    exact .stopLeaves (fun _ hmem => absurd hmem (Option.not_mem_none _)) hleaves

theorem resolves_after {now : Instant} (start : Moment) (stop : Option Moment) :
    Resolves now ⟨some start, stop, none⟩ (boundsRange now (some start) stop) := by
  rw [boundsRange_some]
  rcases start.endless_or_means_or_leavesRange now with rfl | ⟨first, hfirst⟩ | hleaves
  · exact .endlessStart
  · rw [startOf_of_means hfirst, Except.bind]
    rcases (stop.getD .now).endless_or_means_or_leavesRange now with
      hendless | ⟨last, hlast⟩ | hleaves
    · cases stop with
      | none => cases hendless
      | some stop =>
        cases hendless
        exact .liveAfter hfirst
    · rw [stopOf_of_means hlast, Except.bind]
      rcases lt_or_ge last first with hdisordered | hordered
      · rw [rangeBetween, if_pos hdisordered]
        exact .disordered hfirst hlast hdisordered
      · rw [rangeBetween, if_neg hordered.not_gt]
        exact .between hfirst hlast hordered
    · cases stop with
      | none => cases hleaves
      | some stop =>
        rw [stopOf_of_leavesRange hleaves]
        exact .stopLeaves (fun _ hmem => (Option.mem_some_iff.1 hmem) ▸ ⟨first, hfirst⟩) hleaves
  · rw [startOf_of_leavesRange hleaves]
    exact .startLeaves hleaves

/-- Resolving gives an outcome that is on the list. -/
theorem resolves_resolve (options : ReadOptions) (clock : Instant) :
    Resolves clock.truncate options (options.resolve clock) := by
  obtain ⟨start, stop, lookBack⟩ := options
  cases lookBack with
  | some duration =>
    by_cases hother : start ≠ none ∨ stop ≠ none
    · rw [resolve_conflicting clock hother]
      exact .conflicting hother
    · obtain ⟨rfl, rfl⟩ : start = none ∧ stop = none := by simpa using hother
      exact resolves_lookBackRange _ duration
  | none =>
    cases start with
    | some start =>
      rw [resolve_eq_boundsRange clock (Or.inl (Option.some_ne_none start))]
      exact resolves_after start stop
    | none =>
      cases stop with
      | some stop =>
        rw [resolve_eq_boundsRange clock (Or.inr (Option.some_ne_none stop))]
        exact resolves_upTo _ stop
      | none => exact .missing

/-- An outcome on the list is the one that resolving gives. -/
theorem Resolves.resolve_eq {options : ReadOptions} {clock : Instant} {result : Except Fault Range}
    (hresolves : Resolves clock.truncate options result) : options.resolve clock = result := by
  cases hresolves with
  | missing => rfl
  | conflicting hother => exact resolve_conflicting clock hother
  | notPositive hduration => exact lookBackRange_of_not_positive hduration
  | lookBackLeaves hduration hleaves =>
    refine (lookBackRange_of_positive hduration).trans ?_
    rw [secondBefore_of_leavesRange _ hleaves, Except.map]
  | lookBack hduration hmeans =>
    refine (lookBackRange_of_positive hduration).trans ?_
    rw [secondBefore_of_means _ hmeans, Except.map]
  | @endlessStart stop =>
    rw [resolve_eq_boundsRange clock (Or.inl (Option.some_ne_none _)), boundsRange_some]
    rfl
  | startLeaves hleaves =>
    rw [resolve_eq_boundsRange clock (Or.inl (Option.some_ne_none _)), boundsRange_some,
      startOf_of_leavesRange hleaves, Except.bind]
  | @stopLeaves start stop hstart hleaves =>
    rw [resolve_eq_boundsRange clock (Or.inr (Option.some_ne_none _))]
    cases start with
    | none => rw [boundsRange_none, Option.getD_some, stopOf_of_leavesRange hleaves, Except.bind]
    | some start =>
      obtain ⟨first, hfirst⟩ := hstart start rfl
      rw [boundsRange_some, startOf_of_means hfirst, Option.getD_some,
        stopOf_of_leavesRange hleaves, Except.bind, Except.bind]
  | live => rfl
  | liveAfter hstart =>
    rw [resolve_eq_boundsRange clock (Or.inl (Option.some_ne_none _)), boundsRange_some,
      startOf_of_means hstart]
    rfl
  | upTo hstop =>
    rw [resolve_eq_boundsRange clock (Or.inr (Option.some_ne_none _)), boundsRange_none,
      Option.getD_some, stopOf_of_means hstop]
    rfl
  | between hstart hstop hordered =>
    rw [resolve_eq_boundsRange clock (Or.inl (Option.some_ne_none _)), boundsRange_some,
      startOf_of_means hstart, stopOf_of_means hstop, Except.bind, Except.bind, rangeBetween,
      if_neg hordered.not_gt]
  | disordered hstart hstop hdisordered =>
    rw [resolve_eq_boundsRange clock (Or.inl (Option.some_ne_none _)), boundsRange_some,
      startOf_of_means hstart, stopOf_of_means hstop, Except.bind, Except.bind, rangeBetween,
      if_pos hdisordered]

theorem resolve_eq_iff {options : ReadOptions} {clock : Instant} {result : Except Fault Range} :
    options.resolve clock = result ↔ Resolves clock.truncate options result := by
  constructor
  · rintro rfl
    exact resolves_resolve options clock
  · exact Resolves.resolve_eq

/-- What keeps options from resolving is found before anything is sent. -/
theorem Resolves.isValidation {options : ReadOptions} {fault : Fault}
    (hresolves : Resolves now options (.error fault)) : fault.isValidation = true := by
  cases hresolves <;> rfl

end Window

/-! ### Well-formed ranges, and when there is none -/

/-- A range that fits the options which it was made of: it is live exactly if no end was asked for,
and then has a start; its ends are whole seconds, and in order; and it lacks a start exactly if it
is bounded and neither a start nor a look-back was given. -/
structure Range.Suits (range : Range) (options : ReadOptions) : Prop where
  isLive_iff : range.isLive = true ↔ options.stop = some .endless
  start_of_isLive : range.isLive = true → ∃ first, range.start = some first
  isWhole_start : ∀ first, range.start = some first → first.IsWhole
  isWhole_stop : ∀ last, range.stop = .bounded last → last.IsWhole
  ordered : ∀ first last, range.start = some first → range.stop = .bounded last → first ≤ last
  start_eq_none_iff :
    range.start = none ↔ range.isLive = false ∧ options.start = none ∧ options.lookBack = none

namespace Window

theorem Resolves.suits {now : Instant} {options : ReadOptions} {range : Range}
    (hresolves : Resolves now options (.ok range)) (hnow : now.IsWhole) : range.Suits options := by
  cases hresolves with
  | @lookBack duration first hduration hmeans =>
    refine ⟨by simp [Range.isLive], by simp [Range.isLive], ?_, ?_, ?_, by simp [Range.isLive]⟩
    · rintro _ ⟨⟩
      exact hmeans.isWhole hnow
    · rintro _ ⟨⟩
      exact hnow
    · rintro _ _ ⟨⟩ ⟨⟩
      exact (hmeans.lt_of_ago hduration).le
  | live =>
    refine ⟨by simp [Range.isLive], by simp, ?_, by simp, by simp, by simp [Range.isLive]⟩
    rintro _ ⟨⟩
    exact hnow
  | @liveAfter start first hstart =>
    refine ⟨by simp [Range.isLive], by simp, ?_, by simp, by simp, by simp⟩
    rintro _ ⟨⟩
    exact hstart.isWhole hnow
  | @upTo stop last hstop =>
    have hend : stop ≠ .endless := by
      rintro rfl
      cases hstop
    refine ⟨by simp [Range.isLive, hend], by simp [Range.isLive], by simp, ?_,
      by simp, by simp [Range.isLive]⟩
    rintro _ ⟨⟩
    exact hstop.isWhole hnow
  | @between start stop first last hstart hstop hordered =>
    have hend : stop ≠ some .endless := by
      rintro rfl
      cases hstop
    refine ⟨by simp [Range.isLive, hend], by simp [Range.isLive], ?_, ?_, ?_,
      by simp [Range.isLive]⟩
    · rintro _ ⟨⟩
      exact hstart.isWhole hnow
    · rintro _ ⟨⟩
      exact hstop.isWhole hnow
    · rintro _ _ ⟨⟩ ⟨⟩
      exact hordered

/-- The option of this name has a value that no range can be made of. -/
inductive IsUnfit (now : Instant) (options : ReadOptions) : (option : String) → Prop
  | notPositive {duration : Duration} (hgiven : options.lookBack = some duration)
      (hduration : duration.nanoseconds ≤ 0) : IsUnfit now options ReadOptions.lookBackName
  | lookBackLeaves {duration : Duration} (hgiven : options.lookBack = some duration)
      (hleaves : (Moment.ago duration).LeavesRange now) :
      IsUnfit now options ReadOptions.lookBackName
  | endlessStart (hgiven : options.start = some .endless) :
      IsUnfit now options ReadOptions.startName
  | startLeaves {start : Moment} (hgiven : options.start = some start)
      (hleaves : start.LeavesRange now) : IsUnfit now options ReadOptions.startName
  | stopLeaves {stop : Moment} (hgiven : options.stop = some stop)
      (hleaves : stop.LeavesRange now) : IsUnfit now options ReadOptions.stopName

/-- Options resolve to a range that suits them, or to one of four faults, and nothing that is cut
to its second on the way leaves the range of instants. No option at all is the one fault, a look-back
beside another option the second, a start that is later than the end the third; and the fourth
names an option that is unfit: a look-back that is not positive, a start without end, or a moment
that leaves the range of instants. -/
theorem resolve_outcome (options : ReadOptions) (clock : Instant) :
    let now := clock.truncate
    let result := options.resolve clock
    (∀ instant : Instant, instant.sub? instant.fraction = some instant.truncate) ∧
    (∀ range, result = .ok range → range.Suits options) ∧
    (result = .error .missingTimeRange ↔ options = ⟨none, none, none⟩) ∧
    (result = .error .conflictingTimeRange ↔
      options.lookBack ≠ none ∧ (options.start ≠ none ∨ options.stop ≠ none)) ∧
    ((∃ start stop, result = .error (.invalidTimeRange start stop)) ↔
      options.lookBack = none ∧ ∃ start first last, options.start = some start ∧
        start.Means now first ∧ (options.stop.getD .now).Means now last ∧ last < first) ∧
    (∀ fault, result = .error fault →
      fault = .missingTimeRange ∨ fault = .conflictingTimeRange ∨
      (∃ start stop, fault = .invalidTimeRange start stop) ∨
      ∃ option reason, fault = .invalidOption option reason ∧ IsUnfit now options option) := by
  intro now result
  have hiff : ∀ other, result = other ↔ Resolves now options other := fun _ => resolve_eq_iff
  simp only [hiff]
  refine ⟨Instant.sub?_fraction, ?_, ?_, ?_, ?_, ?_⟩
  · intro range hresolves
    exact hresolves.suits clock.isWhole_truncate
  · constructor
    · rintro ⟨⟩
      rfl
    · rintro rfl
      exact .missing
  · constructor
    · intro hresolves
      cases hresolves with
      | conflicting hother => exact ⟨Option.some_ne_none _, hother⟩
    · obtain ⟨start, stop, lookBack⟩ := options
      rintro ⟨hlookBack, hother⟩
      obtain ⟨duration, rfl⟩ := Option.ne_none_iff_exists'.1 hlookBack
      exact .conflicting hother
  · constructor
    · rintro ⟨_, _, hresolves⟩
      cases hresolves with
      | disordered hstart hstop hdisordered =>
        exact ⟨rfl, _, _, _, rfl, hstart, hstop, hdisordered⟩
    · obtain ⟨start, stop, lookBack⟩ := options
      rintro ⟨rfl, moment, first, last, rfl, hstart, hstop, hdisordered⟩
      exact ⟨_, _, .disordered hstart hstop hdisordered⟩
  · intro fault hresolves
    cases hresolves with
    | missing => exact Or.inl rfl
    | conflicting hother => exact Or.inr (Or.inl rfl)
    | disordered => exact Or.inr (Or.inr (Or.inl ⟨_, _, rfl⟩))
    | notPositive hduration =>
      exact Or.inr (Or.inr (Or.inr ⟨_, _, rfl, .notPositive rfl hduration⟩))
    | lookBackLeaves hduration hleaves =>
      exact Or.inr (Or.inr (Or.inr ⟨_, _, rfl, .lookBackLeaves rfl hleaves⟩))
    | endlessStart => exact Or.inr (Or.inr (Or.inr ⟨_, _, rfl, .endlessStart rfl⟩))
    | startLeaves hleaves =>
      exact Or.inr (Or.inr (Or.inr ⟨_, _, rfl, .startLeaves rfl hleaves⟩))
    | stopLeaves hstart hleaves =>
      exact Or.inr (Or.inr (Or.inr ⟨_, _, rfl, .stopLeaves rfl hleaves⟩))

end Window

end MetricBridge
