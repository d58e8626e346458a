/-
# The points of an answer

An answer is used as a whole or not at all. What counts of it is its data: the datapoints that
have a value, each with the name of its series. If the time of every one of them is a second in the
range of instants, the points of the answer are those of its data. If not, there is only the
fault of the first datum whose time is none, however many others are fine.
-/

import Mathlib
import MetricBridge.Proofs.Point.Order
import MetricBridge.Series

namespace MetricBridge

open Time (Instant)

/-- A datapoint that has a value, and the name of its series. -/
structure Datum where
  name : String
  value : Binary64
  timestamp : Binary64
  deriving DecidableEq

namespace Datum

/-- The time is finite and, without its fraction, a second in the range of instants. -/
def IsUsable (datum : Datum) : Prop :=
  ∃ second, datum.timestamp.wholePart? = some second ∧
    Time.firstSecond ≤ second ∧ second ≤ Time.lastSecond

/-- The point that a datum says, if it is usable. -/
def point? (datum : Datum) : Option Point :=
  (datum.timestamp.wholePart?.bind Instant.ofSecond?).map fun time =>
    ⟨time, datum.name, datum.value⟩

/-- The point that a datum says, or what is wrong with its time. -/
def point (datum : Datum) : Except Fault Point :=
  (Series.timeOf datum.name datum.timestamp).map fun time => ⟨time, datum.name, datum.value⟩

theorem ofSecond?_eq_none_iff {second : Int} :
    Instant.ofSecond? second = none ↔ ¬ (Time.firstSecond ≤ second ∧ second ≤ Time.lastSecond) := by
  simp [Instant.ofSecond?, Instant.ofParts?, Time.IsSubsecond]

theorem point_of_isUsable {datum : Datum} (husable : datum.IsUsable) :
    ∃ point, datum.point? = some point ∧ datum.point = .ok point := by
  obtain ⟨second, hwhole, hrange⟩ := husable
  cases htime : Instant.ofSecond? second with
  | none => exact absurd hrange (ofSecond?_eq_none_iff.1 htime)
  | some time =>
    refine ⟨⟨time, datum.name, datum.value⟩, ?_, ?_⟩
    · rw [point?, hwhole, Option.bind_some, htime, Option.map_some]
    · simp only [point, Series.timeOf, hwhole, htime]
      rfl

theorem point_of_not_isUsable {datum : Datum} (hunusable : ¬ datum.IsUsable) :
    ∃ fault, datum.point = .error fault := by
  cases hwhole : datum.timestamp.wholePart? with
  | none =>
    simp only [point, Series.timeOf, hwhole]
    exact ⟨_, rfl⟩
  | some second =>
    have hrange : Instant.ofSecond? second = none :=
      ofSecond?_eq_none_iff.2 fun hrange => hunusable ⟨second, hwhole, hrange⟩
    simp only [point, Series.timeOf, hwhole, hrange]
    exact ⟨_, rfl⟩

theorem mapM_point_of_isUsable {data : List Datum} (husable : ∀ datum ∈ data, datum.IsUsable) :
    data.mapM point = .ok (data.filterMap point?) := by
  induction data with
  | nil => rfl
  | cons datum rest ih =>
    obtain ⟨hdatum, hrest⟩ := List.forall_mem_cons.1 husable
    obtain ⟨said, hpoint?, hpoint⟩ := point_of_isUsable hdatum
    rw [List.mapM_cons, hpoint, ih hrest, List.filterMap_cons_some hpoint?]
    rfl

/-- The first datum that is not usable is the fault of all. -/
theorem mapM_point_of_not_isUsable {before after : List Datum} {datum : Datum} {fault : Fault}
    (husable : ∀ earlier ∈ before, earlier.IsUsable) (hfault : datum.point = .error fault) :
    (before ++ datum :: after).mapM point = .error fault := by
  induction before with
  | nil =>
    rw [List.nil_append, List.mapM_cons, hfault]
    rfl
  | cons earlier others ih =>
    obtain ⟨hearlier, hothers⟩ := List.forall_mem_cons.1 husable
    obtain ⟨said, -, hpoint⟩ := point_of_isUsable hearlier
    rw [List.cons_append, List.mapM_cons, hpoint, ih hothers]
    rfl

theorem isUsable_or_exists_first (data : List Datum) :
    (∀ datum ∈ data, datum.IsUsable) ∨
      ∃ before datum after, data = before ++ datum :: after ∧
        (∀ earlier ∈ before, earlier.IsUsable) ∧ ¬ datum.IsUsable := by
  induction data with
  | nil => exact Or.inl fun datum hmem => by cases hmem
  | cons first rest ih =>
    by_cases hfirst : first.IsUsable
    · rcases ih with hrest | ⟨before, datum, after, rfl, hbefore, hdatum⟩
      · exact Or.inl (List.forall_mem_cons.2 ⟨hfirst, hrest⟩)
      · exact Or.inr ⟨first :: before, datum, after, rfl,
          List.forall_mem_cons.2 ⟨hfirst, hbefore⟩, hdatum⟩
    · refine Or.inr ⟨[], first, rest, rfl, ?_, hfirst⟩
      intro earlier hmem
      cases hmem

end Datum

namespace Series

/-- What counts of a series. -/
def data (series : Series) : List Datum :=
  series.datapoints.filterMap fun (value, timestamp) =>
    value.map fun value => ⟨series.target, value, timestamp⟩

/-- What counts of an answer. -/
def dataOf (answer : List Series) : List Datum :=
  answer.flatMap data

theorem pointsOf_eq_mapM (series : Series) :
    pointsOf series.target series.datapoints = series.data.mapM Datum.point := by
  obtain ⟨target, datapoints⟩ := series
  induction datapoints with
  | nil => rfl
  | cons datapoint rest ih =>
    obtain ⟨value, timestamp⟩ := datapoint
    cases value with
    | none => exact ih
    | some value =>
      have hdata : data ⟨target, (some value, timestamp) :: rest⟩ =
          ⟨target, value, timestamp⟩ :: data ⟨target, rest⟩ := rfl
      rw [hdata, List.mapM_cons, ← ih, pointsOf, Datum.point]
      cases timeOf target timestamp <;> rfl

/-- The points of an answer are those of its data, as far as all of these are usable. -/
theorem collect_eq_mapM (answer : List Series) :
    collect answer = (dataOf answer).mapM Datum.point := by
  induction answer with
  | nil => rfl
  | cons series rest ih =>
    have hdata : dataOf (series :: rest) = series.data ++ dataOf rest := List.flatMap_cons
    rw [collect, pointsOf_eq_mapM, ih, hdata, List.mapM_append]
    rfl

end Series

end MetricBridge
