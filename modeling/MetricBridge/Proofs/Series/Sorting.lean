/-
# Points in order, and which answers have none

The points of an answer are its data, sorted by time and then by name. The sort is stable: what
shares both stays in the order of the answer. Where no two series of an answer share a name,
what shares a name is all in one series, and then the order in which the series come makes
no difference.

An answer has no points at all as soon as one datum has a time that is no second in the range of
instants. What is told then is about the first such datum. With the series in another order
it may be another one, but not none.
-/

import Mathlib
import MetricBridge.Proofs.Binary64.Whole
import MetricBridge.Proofs.Series.Points

namespace MetricBridge

open Time (Instant)

/-! ### Data and what they say -/

/-- A timestamp that is no second in the range of instants: it is no number or not finite, or it is
out of range when its fraction is taken away. -/
inductive Binary64.Strays : Binary64 → Prop
  | nan : Strays .nan
  | infinite (negative : Bool) : Strays (.infinite negative)
  | beyond {timestamp : Binary64} {number : ℚ} (hnumber : timestamp.toRat? = some number)
      (hbeyond : towardZero number < Time.firstSecond ∨ Time.lastSecond < towardZero number) :
      Strays timestamp

namespace Datum

/-- The point is what the datum says: the sample of its series, with its value as it is, at the
second that is left of its time without the fraction. -/
structure Says (datum : Datum) (point : Point) : Prop where
  name : point.name = datum.name
  value : point.value = datum.value
  nano : point.time.nano = 0
  second : datum.timestamp.toRat?.map Binary64.towardZero = some point.time.second

/-- What is told of a datum whose time strays: the series, and the time if it is a number. -/
def complaint (datum : Datum) : Fault :=
  if datum.timestamp.isFinite then
    .malformed ("timestamp " ++ String.ofList (Binary64.Layout.line.write datum.timestamp) ++
      " out of range in series " ++ datum.name)
  else .malformed ("non-finite timestamp in series " ++ datum.name)

theorem isUsable_iff {datum : Datum} : datum.IsUsable ↔ ¬ datum.timestamp.Strays := by
  obtain ⟨name, value, timestamp⟩ := datum
  rw [IsUsable, Binary64.wholePart?_eq_map]
  constructor
  · rintro ⟨second, hsecond, hrange⟩ hstrays
    cases hstrays with
    | nan => cases hsecond
    | infinite => cases hsecond
    | beyond hnumber hbeyond =>
      rw [hnumber] at hsecond
      cases hsecond
      omega
  · intro hnot
    cases timestamp with
    | nan => exact absurd .nan hnot
    | infinite negative => exact absurd (.infinite negative) hnot
    | finite negative magnitude =>
      refine ⟨_, rfl, ?_⟩
      by_contra hbeyond
      exact hnot (.beyond rfl (by omega))

theorem point_of_strays {datum : Datum} (hstrays : datum.timestamp.Strays) :
    datum.point = .error datum.complaint := by
  obtain ⟨name, value, timestamp⟩ := datum
  cases hstrays with
  | nan => rfl
  | infinite => rfl
  | @beyond _ number hnumber hbeyond =>
    have hwhole : timestamp.wholePart? = some (Binary64.towardZero number) := by
      rw [Binary64.wholePart?_eq_map, hnumber, Option.map_some]
    have hnone : Instant.ofSecond? (Binary64.towardZero number) = none :=
      ofSecond?_eq_none_iff.2 (by omega)
    have hfinite : timestamp.isFinite = true := by
      cases timestamp with
      | nan => cases hnumber
      | infinite => cases hnumber
      | finite => rfl
    simp only [point, Series.timeOf, complaint, hwhole, hnone, hfinite, if_true]
    rfl

theorem says_of_point? {datum : Datum} {point : Point} (hpoint : datum.point? = some point) :
    datum.Says point := by
  obtain ⟨time, htime, rfl⟩ := Option.map_eq_some_iff.1 hpoint
  obtain ⟨second, hwhole, hsecond⟩ := Option.bind_eq_some_iff.1 htime
  obtain ⟨rfl, hnano⟩ := Instant.ofParts?_eq_some_iff.1 hsecond
  rw [Binary64.wholePart?_eq_map] at hwhole
  exact ⟨rfl, rfl, hnano, hwhole⟩

/-- Data of which none strays say one point each. -/
theorem forall₂_says {data : List Datum} (hnone : ∀ datum ∈ data, ¬ datum.timestamp.Strays) :
    List.Forall₂ Says data (data.filterMap point?) := by
  induction data with
  | nil => exact .nil
  | cons datum rest ih =>
    obtain ⟨hdatum, hrest⟩ := List.forall_mem_cons.1 hnone
    obtain ⟨point, hpoint, -⟩ := point_of_isUsable (isUsable_iff.2 hdatum)
    rw [List.filterMap_cons_some hpoint]
    exact .cons (says_of_point? hpoint) (ih hrest)

end Datum

/-! ### Sorting -/

namespace Series

/-- The points that the data of a series say, in their order. -/
def said (series : Series) : List Point :=
  series.data.filterMap Datum.point?

theorem points_of_no_strays {answer : List Series}
    (hnone : ∀ datum ∈ dataOf answer, ¬ datum.timestamp.Strays) :
    points answer = .ok ((answer.flatMap said).mergeSort Point.precedes) := by
  have husable : ∀ datum ∈ dataOf answer, datum.IsUsable :=
    fun datum hmem => Datum.isUsable_iff.2 (hnone datum hmem)
  have hsaid : (dataOf answer).filterMap Datum.point? = answer.flatMap said :=
    List.filterMap_flatMap
  rw [points, collect_eq_mapM, Datum.mapM_point_of_isUsable husable, hsaid]
  rfl

/-- The first datum that strays is the one that is told of. -/
theorem points_of_first_strays {answer : List Series} {before after : List Datum} {datum : Datum}
    (hdata : dataOf answer = before ++ datum :: after)
    (hfirst : ∀ earlier ∈ before, ¬ earlier.timestamp.Strays) (hstrays : datum.timestamp.Strays) :
    points answer = .error datum.complaint := by
  have husable : ∀ earlier ∈ before, earlier.IsUsable :=
    fun earlier hmem => Datum.isUsable_iff.2 (hfirst earlier hmem)
  rw [points, collect_eq_mapM, hdata,
    Datum.mapM_point_of_not_isUsable husable (Datum.point_of_strays hstrays)]
  rfl

theorem no_strays_or_exists_first (answer : List Series) :
    (∀ datum ∈ dataOf answer, ¬ datum.timestamp.Strays) ∨
      ∃ before datum after, dataOf answer = before ++ datum :: after ∧
        (∀ earlier ∈ before, ¬ earlier.timestamp.Strays) ∧ datum.timestamp.Strays := by
  rcases Datum.isUsable_or_exists_first (dataOf answer) with
    husable | ⟨before, datum, after, hdata, hfirst, hunusable⟩
  · exact Or.inl fun datum hmem => Datum.isUsable_iff.1 (husable datum hmem)
  · refine Or.inr ⟨before, datum, after, hdata, ?_, ?_⟩
    · exact fun earlier hmem => Datum.isUsable_iff.1 (hfirst earlier hmem)
    · exact not_not.1 fun hnot => hunusable (Datum.isUsable_iff.2 hnot)

/-- There are no points exactly if a datum strays. -/
theorem exists_points_eq_error_iff {answer : List Series} :
    (∃ fault, points answer = .error fault) ↔ ∃ datum ∈ dataOf answer, datum.timestamp.Strays := by
  rcases no_strays_or_exists_first answer with
    hnone | ⟨before, datum, after, hdata, hfirst, hstrays⟩
  · refine iff_of_false ?_ ?_
    · rintro ⟨fault, hfault⟩
      rw [points_of_no_strays hnone] at hfault
      cases hfault
    · rintro ⟨datum, hmem, hstrays⟩
      exact hnone datum hmem hstrays
  · have hmem : datum ∈ dataOf answer := by
      rw [hdata]
      exact List.mem_append_right _ List.mem_cons_self
    exact iff_of_true ⟨_, points_of_first_strays hdata hfirst hstrays⟩ ⟨datum, hmem, hstrays⟩

/-- Where a function gives something for one name only, and no two series share a name, the
order of the series makes no difference. -/
theorem flatMap_perm {α : Type} {answer other : List Series} {f : Series → List α}
    (hperm : answer.Perm other) (hdistinct : (answer.map target).Nodup) (name : String)
    (hname : ∀ series, series.target ≠ name → f series = []) :
    answer.flatMap f = other.flatMap f := by
  induction hperm with
  | nil => rfl
  | cons series _ ih =>
    rw [List.flatMap_cons, List.flatMap_cons, ih (List.nodup_cons.1 hdistinct).2]
  | swap first second rest =>
    have hne : second.target ≠ first.target := by
      intro hsame
      simp [hsame] at hdistinct
    simp only [List.flatMap_cons]
    by_cases hfirst : first.target = name
    · rw [hname second (hfirst ▸ hne)]
      rfl
    · rw [hname first hfirst]
      rfl
  | trans hleft _ ih₁ ih₂ =>
    exact (ih₁ hdistinct).trans (ih₂ ((hleft.map target).nodup hdistinct))

theorem name_of_mem_said {series : Series} {point : Point} (hmem : point ∈ series.said) :
    point.name = series.target := by
  obtain ⟨datum, hdatum, hpoint⟩ := List.mem_filterMap.1 hmem
  obtain ⟨⟨value, timestamp⟩, -, hvalue⟩ := List.mem_filterMap.1 hdatum
  obtain ⟨value, -, rfl⟩ := Option.map_eq_some_iff.1 hvalue
  exact (Datum.says_of_point? hpoint).name

/-- Ties are within one series, so the order of the series makes no difference for them. -/
theorem ties_perm {answer other : List Series} (hperm : answer.Perm other)
    (hdistinct : (answer.map target).Nodup) (time : Instant) (name : String) :
    Point.ties (answer.flatMap said) time name = Point.ties (other.flatMap said) time name := by
  rw [Point.ties, Point.ties, List.filter_flatMap, List.filter_flatMap]
  refine flatMap_perm hperm hdistinct name fun series hne => ?_
  rw [List.filter_eq_nil_iff]
  intro point hmem
  rw [decide_eq_true_eq, name_of_mem_said hmem]
  exact fun hsame => hne hsame.2

/-- Series of different names in another order have the same points, or none either. -/
theorem points_perm {answer other : List Series} (hperm : answer.Perm other)
    (hdistinct : (answer.map target).Nodup) :
    ((∃ fault, points answer = .error fault) ∧ ∃ fault, points other = .error fault) ∨
      ∃ sorted, points answer = .ok sorted ∧ points other = .ok sorted := by
  have hdata : ∀ datum, datum ∈ dataOf other ↔ datum ∈ dataOf answer :=
    fun _ => (hperm.symm.flatMap_right data).mem_iff
  by_cases hstrays : ∃ datum ∈ dataOf answer, datum.timestamp.Strays
  · left
    simp only [exists_points_eq_error_iff, hdata]
    exact ⟨hstrays, hstrays⟩
  · right
    push Not at hstrays
    have hother : ∀ datum ∈ dataOf other, ¬ datum.timestamp.Strays :=
      fun datum hmem => hstrays datum ((hdata datum).1 hmem)
    have hsorted : (answer.flatMap said).mergeSort Point.precedes =
        (other.flatMap said).mergeSort Point.precedes := by
      apply Point.eq_of_ties_eq (Point.pairwise_mergeSort_precedes _)
        (Point.pairwise_mergeSort_precedes _)
      intro time name
      rw [Point.ties_mergeSort, Point.ties_mergeSort, ties_perm hperm hdistinct]
    exact ⟨_, points_of_no_strays hstrays, hsorted ▸ points_of_no_strays hother⟩

/-- An answer has no points exactly if some datum strays, and then the first that does is told of.
Otherwise its points are what its data say, one point a datum, ordered by time and then by name,
and those of one time and name as they stand in the answer. Where no two series share a name, the
order of the series changes nothing about the points, nor whether there are any. -/
theorem points_stablySorted (answer : List Series) :
    ((∃ fault, points answer = .error fault) ↔
      ∃ datum ∈ dataOf answer, datum.timestamp.Strays) ∧
    (∀ fault, points answer = .error fault →
      ∃ before datum after, dataOf answer = before ++ datum :: after ∧
        (∀ earlier ∈ before, ¬ earlier.timestamp.Strays) ∧ datum.timestamp.Strays ∧
        fault = datum.complaint) ∧
    (∀ sorted, points answer = .ok sorted →
      ∃ unsorted, List.Forall₂ Datum.Says (dataOf answer) unsorted ∧ sorted.Perm unsorted ∧
        (sorted.Pairwise fun a b => a.time < b.time ∨ (a.time = b.time ∧ a.name ≤ b.name)) ∧
        ∀ time name, Point.ties sorted time name = Point.ties unsorted time name) ∧
    ∀ other, answer.Perm other → (answer.map target).Nodup →
      ((∃ fault, points answer = .error fault) ∧ ∃ fault, points other = .error fault) ∨
        ∃ sorted, points answer = .ok sorted ∧ points other = .ok sorted := by
  refine ⟨exists_points_eq_error_iff, ?_, ?_, fun other => points_perm⟩
  · intro fault hfault
    rcases no_strays_or_exists_first answer with
      hnone | ⟨before, datum, after, hdata, hfirst, hstrays⟩
    · rw [points_of_no_strays hnone] at hfault
      cases hfault
    · rw [points_of_first_strays hdata hfirst hstrays] at hfault
      cases hfault
      exact ⟨before, datum, after, hdata, hfirst, hstrays, rfl⟩
  · intro sorted hsorted
    have hnone : ∀ datum ∈ dataOf answer, ¬ datum.timestamp.Strays := by
      intro datum hmem hstrays
      obtain ⟨fault, hfault⟩ := exists_points_eq_error_iff.2 ⟨datum, hmem, hstrays⟩
      rw [hsorted] at hfault
      cases hfault
    rw [points_of_no_strays hnone] at hsorted
    cases hsorted
    refine ⟨answer.flatMap said, ?_, List.mergeSort_perm _ _, ?_, Point.ties_mergeSort _⟩
    · have hsays := Datum.forall₂_says hnone
      rwa [dataOf, List.filterMap_flatMap] at hsays
    · exact (Point.pairwise_mergeSort_precedes _).imp Point.precedes_iff.1

/-- Two series with samples in one second, one of them with two, of which the later one has the
lesser value. Null has no time that could stray. -/
def sharedSecond : List Series :=
  [⟨"m.b", [(some (.ofInt 2), .ofInt 10), (none, .nan), (some (.ofInt 1), .ofInt 10)]⟩,
    ⟨"m.a", [(some (.ofInt 0), .ofInt 10)]⟩]

theorem points_sharedSecond :
    sharedSecond.Perm sharedSecond.reverse ∧ (sharedSecond.map target).Nodup ∧
      ∃ sorted, points sharedSecond = .ok sorted ∧ points sharedSecond.reverse = .ok sorted := by
  have hperm : sharedSecond.Perm sharedSecond.reverse := (List.reverse_perm _).symm
  have hdistinct : (sharedSecond.map target).Nodup := by decide
  obtain ⟨hfails, -, -, hother⟩ := points_stablySorted sharedSecond
  refine ⟨hperm, hdistinct, (hother _ hperm hdistinct).resolve_left ?_⟩
  rintro ⟨hfault, -⟩
  obtain ⟨datum, hmem, hstrays⟩ := hfails.1 hfault
  have hwhole : ∀ datum ∈ dataOf sharedSecond, datum.timestamp.wholePart? = some 10 := by
    decide +kernel
  exact Datum.isUsable_iff.1 ⟨10, hwhole datum hmem, by decide⟩ hstrays

end Series

end MetricBridge
