/-
# What a store holds and what it answers

A store is told by one question: which value does it hold for a name and a second? Putting
a reading in changes the answer for its own name and second only, so after some
points the value is that of the last of them, and of the store before if none of
them is for that name and second.

An answer to a query always has points, because a store that was only filled with
points holds no second beyond the range of instants. They are the samples that the query
asks for, each of them once, in strict order.
-/

import Mathlib
import MetricBridge.Proofs.Binary64.Rounding
import MetricBridge.Proofs.Dictionary
import MetricBridge.Proofs.Ingest.Plaintext
import MetricBridge.Proofs.Point.Order
import MetricBridge.Store.Memory

namespace MetricBridge

open Time (Instant)

/-- The value of the last of some points that is for a name and a second. -/
def Point.latest? (points : List Point) (name : String) (second : Int) : Option Binary64 :=
  (points.filter fun point => point.name = name ∧ point.time.second = second).getLast?.map
    Point.value

theorem Point.latest?_cons (point : Point) (points : List Point) (name : String)
    (second : Int) :
    latest? (point :: points) name second = (latest? points name second).or
      (if point.name = name ∧ point.time.second = second then some point.value else none) := by
  unfold latest?
  by_cases hmatch : point.name = name ∧ point.time.second = second
  · rw [if_pos hmatch, List.filter_cons_of_pos (by simpa using hmatch), List.getLast?_cons]
    cases (points.filter _).getLast? <;> rfl
  · rw [if_neg hmatch, List.filter_cons_of_neg (by simpa using hmatch), Option.or_none]

theorem Point.latest?_eq_none_iff {points : List Point} {name : String} {second : Int} :
    latest? points name second = none ↔
      ∀ point ∈ points, point.name = name → point.time.second ≠ second := by
  simp [latest?]

namespace Store

/-- The value that a store holds for a name and a second. -/
def sample? (store : Store) (name : String) (second : Int) : Option Binary64 :=
  (Dictionary.get? name store.series).bind (Dictionary.get? second)

/-- The dictionaries of a store are in order, and its seconds are in the range of instants. -/
structure WellFormed (store : Store) : Prop where
  names : Dictionary.Ascending store.series
  seconds : ∀ entry ∈ store.series, Dictionary.Ascending entry.2
  inRange : ∀ entry ∈ store.series, ∀ sample ∈ entry.2,
    ∃ instant : Instant, instant.second = sample.1

theorem wellFormed_empty : empty.WellFormed where
  names := List.Pairwise.nil
  seconds := by simp [empty]
  inRange := by simp [empty]

/-! ### Filling a store -/

theorem sample?_insert (store : Store) (reading : Plaintext.Reading) (name : String)
    (second : Int) :
    (store.insert reading).sample? name second =
      if reading.name = name ∧ reading.second = second then some reading.value
      else store.sample? name second := by
  rw [sample?, insert, Dictionary.get?_put]
  by_cases hname : reading.name = name
  · rw [if_pos hname, Option.bind_some, Dictionary.get?_put, sample?, hname]
    by_cases hsecond : reading.second = second
    · rw [if_pos hsecond, if_pos ⟨rfl, hsecond⟩]
    · rw [if_neg hsecond, if_neg fun h => hsecond h.2]
      cases Dictionary.get? name store.series <;> rfl
  · rw [if_neg hname, if_neg fun h => hname h.1, sample?]

theorem WellFormed.insert {store : Store} (hstore : store.WellFormed)
    {reading : Plaintext.Reading} (hrange : ∃ instant : Instant, instant.second = reading.second) :
    (store.insert reading).WellFormed := by
  set samples := (Dictionary.get? reading.name store.series).getD [] with hsamples
  have hheld : Dictionary.Ascending samples ∧
      ∀ sample ∈ samples, ∃ instant : Instant, instant.second = sample.1 := by
    cases hget : Dictionary.get? reading.name store.series with
    | none =>
      rw [hsamples, hget]
      exact ⟨List.Pairwise.nil, by simp⟩
    | some held =>
      have hmem := (Dictionary.mem_iff_get?_eq_some hstore.names).2 hget
      rw [hsamples, hget]
      exact ⟨hstore.seconds _ hmem, hstore.inRange _ hmem⟩
  constructor
  case names => exact Dictionary.ascending_put hstore.names _ _
  case seconds =>
    intro entry hmem
    rcases Dictionary.mem_put hmem with rfl | hmem
    · exact Dictionary.ascending_put hheld.1 _ _
    · exact hstore.seconds entry hmem
  case inRange =>
    intro entry hmem
    rcases Dictionary.mem_put hmem with rfl | hmem
    · intro sample hsample
      rcases Dictionary.mem_put hsample with rfl | hsample
      · exact hrange
      · exact hheld.2 sample hsample
    · exact hstore.inRange entry hmem

/-- The store with some points put in, one after the other. -/
def withPoints (store : Store) (points : List Point) : Store :=
  points.foldl (fun store point => store.insert (Plaintext.readingOf point)) store

theorem sample?_withPoints (points : List Point) (store : Store) (name : String)
    (second : Int) :
    (store.withPoints points).sample? name second =
      (Point.latest? points name second).or (store.sample? name second) := by
  induction points generalizing store with
  | nil => rfl
  | cons point rest ih =>
    rw [Point.latest?_cons, Option.or_assoc]
    have hrest := ih (store.insert (Plaintext.readingOf point))
    rw [sample?_insert] at hrest
    rw [withPoints, List.foldl_cons, ← withPoints, hrest]
    by_cases hmatch : point.name = name ∧ point.time.second = second <;>
      simp [Plaintext.readingOf, hmatch]

theorem WellFormed.withPoints {store : Store} (hstore : store.WellFormed)
    (points : List Point) : (store.withPoints points).WellFormed := by
  induction points generalizing store with
  | nil => exact hstore
  | cons point rest ih =>
    have hone : (store.insert (Plaintext.readingOf point)).WellFormed :=
      hstore.insert ⟨point.time, rfl⟩
    exact ih hone

/-- A payload of points with plain names is taken as a whole. -/
theorem accept_encode {points : List Point}
    (hplain : ∀ point ∈ points, Plaintext.IsPlainName point.name) (store : Store) :
    store.accept (Plaintext.encode points) = (.taken, store.withPoints points) := by
  rw [accept, Plaintext.lines_encode hplain]
  induction points generalizing store with
  | nil => rfl
  | cons point rest ih =>
    rw [List.map_cons, acceptLines,
      Plaintext.reading?_body (hplain point List.mem_cons_self)]
    exact ih (fun other hmem => hplain other (List.mem_cons_of_mem _ hmem)) _

/-! ### The points of an answer -/

/-- The point of a sample. -/
def pointOf? (name : String) (sample : Int × Binary64) : Option Point :=
  (Instant.ofSecond? sample.1).map fun time => ⟨time, name, sample.2⟩

theorem pointOf?_eq_some_iff {name : String} {sample : Int × Binary64} {point : Point} :
    pointOf? name sample = some point ↔
      point.time.nano = 0 ∧ point.name = name ∧ sample = (point.time.second, point.value) := by
  obtain ⟨second, value⟩ := sample
  obtain ⟨time, held, amount⟩ := point
  simp only [pointOf?, Option.map_eq_some_iff, Instant.ofSecond?, Instant.ofParts?_eq_some_iff,
    Point.mk.injEq, Prod.mk.injEq]
  constructor
  · rintro ⟨_, ⟨rfl, hnano⟩, rfl, rfl, rfl⟩
    exact ⟨hnano, rfl, rfl, rfl⟩
  · rintro ⟨hnano, rfl, rfl, rfl⟩
    exact ⟨time, ⟨rfl, hnano⟩, rfl, rfl, rfl⟩

/-- The points of a series are those of its samples. -/
theorem pointsOf_samples (name : String) {samples : List (Int × Binary64)}
    (hrange : ∀ sample ∈ samples, ∃ instant : Instant, instant.second = sample.1) :
    Series.pointsOf name (samples.map fun (second, value) =>
        (some value, Binary64.ofInt second)) =
      .ok (samples.filterMap (pointOf? name)) := by
  induction samples with
  | nil => rfl
  | cons sample rest ih =>
    obtain ⟨second, value⟩ := sample
    obtain ⟨instant, hinstant⟩ := hrange _ List.mem_cons_self
    simp only at hinstant
    subst hinstant
    have htime : Series.timeOf name (Binary64.ofInt instant.second) = .ok instant.wholeSecond := by
      rw [Series.timeOf, Binary64.wholePart?_ofInt instant.natAbs_second_lt]
      simp only [instant.ofSecond?_eq_wholeSecond]
    have hrest := ih fun other hmem => hrange other (List.mem_cons_of_mem _ hmem)
    rw [List.map_cons, Series.pointsOf, htime]
    simp only [hrest]
    rw [List.filterMap_cons_some]
    · rfl
    · simp [pointOf?, instant.ofSecond?_eq_wholeSecond]

/-- The points of the series that fit a query, as far as the store sends them. -/
def sent (store : Store) (query : Query) : List Point :=
  (store.series.filter fun entry => Glob.fits query.target.toList entry.1.toList).flatMap
    fun entry => (entry.2.filter fun sample => covers query.window sample.1).filterMap
      (pointOf? entry.1)

theorem collect_answer {store : Store} (hstore : store.WellFormed) (query : Query) :
    Series.collect (store.answer query) = .ok (store.sent query) := by
  have hcollect : ∀ entries : List (String × List (Int × Binary64)),
      (∀ entry ∈ entries, ∀ sample ∈ entry.2,
        ∃ instant : Instant, instant.second = sample.1) →
      Series.collect (entries.map fun entry =>
          ⟨entry.1, datapoints query.window entry.2⟩) =
        .ok (entries.flatMap fun entry =>
          (entry.2.filter fun sample => covers query.window sample.1).filterMap
            (pointOf? entry.1)) := by
    intro entries hrange
    induction entries with
    | nil => rfl
    | cons entry rest ih =>
      obtain ⟨name, samples⟩ := entry
      have hpoints : Series.pointsOf name (datapoints query.window samples) = .ok _ :=
        pointsOf_samples name fun sample hmem =>
          hrange _ List.mem_cons_self sample (List.mem_of_mem_filter hmem)
      have hrest := ih fun other hmem => hrange other (List.mem_cons_of_mem _ hmem)
      rw [List.map_cons, Series.collect, hpoints, hrest]
      rfl
  exact hcollect _ fun entry hmem => hstore.inRange entry (List.mem_of_mem_filter hmem)

theorem mem_sent_iff {store : Store} (hstore : store.WellFormed) {query : Query}
    {point : Point} :
    point ∈ store.sent query ↔
      point.time.nano = 0 ∧ Glob.fits query.target.toList point.name.toList = true ∧
        covers query.window point.time.second = true ∧
        store.sample? point.name point.time.second = some point.value := by
  simp only [sent, List.mem_flatMap, List.mem_filter, List.mem_filterMap, pointOf?_eq_some_iff]
  constructor
  · rintro ⟨⟨name, samples⟩, ⟨hentry, hfits⟩, sample, ⟨hsample, hcovers⟩, hwhole, rfl, rfl⟩
    have hseries := (Dictionary.mem_iff_get?_eq_some hstore.names).1 hentry
    have hvalue := (Dictionary.mem_iff_get?_eq_some (hstore.seconds _ hentry)).1 hsample
    exact ⟨hwhole, hfits, hcovers, by rw [sample?, hseries]; exact hvalue⟩
  · rintro ⟨hwhole, hfits, hcovers, hheld⟩
    obtain ⟨samples, hseries, hvalue⟩ := Option.bind_eq_some_iff.1 hheld
    have hentry := (Dictionary.mem_iff_get?_eq_some hstore.names).2 hseries
    have hsample := (Dictionary.mem_iff_get?_eq_some (hstore.seconds _ hentry)).2 hvalue
    exact ⟨_, ⟨hentry, hfits⟩, _, ⟨hsample, hcovers⟩, hwhole, rfl, rfl⟩

/-- No two points that a store sends share their time and their name. -/
theorem pairwise_sent {store : Store} (hstore : store.WellFormed) (query : Query) :
    (store.sent query).Pairwise fun a b => a.time ≠ b.time ∨ a.name ≠ b.name := by
  apply List.pairwise_flatMap.2
  constructor
  · intro entry hmem
    have hseconds := hstore.seconds entry (List.mem_of_mem_filter hmem)
    apply (hseconds.sublist List.filter_sublist).filterMap
    intro a b hlt p hp q hq
    left
    obtain ⟨-, -, rfl⟩ := pointOf?_eq_some_iff.1 hp
    obtain ⟨-, -, rfl⟩ := pointOf?_eq_some_iff.1 hq
    exact fun heq => absurd (congrArg Instant.second heq) (ne_of_lt hlt)
  · apply (hstore.names.sublist List.filter_sublist).imp
    intro _ _ hlt p hp q hq
    right
    obtain ⟨_, -, hp⟩ := List.mem_filterMap.1 hp
    obtain ⟨_, -, hq⟩ := List.mem_filterMap.1 hq
    rw [(pointOf?_eq_some_iff.1 hp).2.1, (pointOf?_eq_some_iff.1 hq).2.1]
    exact ne_of_lt hlt

/-- What lies in a window is within the seconds that the store sends for it. -/
theorem covers_of_contains {window : Interval} {time : Instant}
    (hcontains : window.contains time = true) : covers window time.second = true := by
  simp only [Interval.contains, covers, Bool.and_eq_true, decide_eq_true_eq, Option.all_eq_true]
    at hcontains ⊢
  obtain ⟨hstart, hstop⟩ := hcontains
  constructor
  · intro start hmem
    have := Instant.lt_iff.1 (hstart start hmem)
    omega
  · have := Instant.le_iff.1 hstop
    omega

/-- A point is a sample of the store that a query asks for. -/
structure Offers (store : Store) (query : Query) (point : Point) : Prop where
  isWhole : point.time.nano = 0
  fits : Glob.fits query.target.toList point.name.toList = true
  inWindow : query.window.contains point.time = true
  held : store.sample? point.name point.time.second = some point.value

/-- Points after the end of a window change nothing of what is offered in it. -/
theorem offers_withPoints_iff {store : Store} {points : List Point} {query : Query}
    (hlater : ∀ point ∈ points, query.window.stop.second < point.time.second) {point : Point} :
    (store.withPoints points).Offers query point ↔ store.Offers query point := by
  by_cases hwindow : query.window.contains point.time = true
  · have hstop : point.time ≤ query.window.stop := by
      rw [Interval.contains, Bool.and_eq_true] at hwindow
      exact of_decide_eq_true hwindow.2
    have hsecond : point.time.second ≤ query.window.stop.second := by
      have hle := Instant.le_iff.1 hstop
      omega
    have hnone : Point.latest? points point.name point.time.second = none := by
      rw [Point.latest?_eq_none_iff]
      intro other hmem _ heq
      have hlt := hlater other hmem
      omega
    have hsame : (store.withPoints points).sample? point.name point.time.second =
        store.sample? point.name point.time.second := by
      rw [sample?_withPoints, hnone, Option.none_or]
    constructor
    · intro hoffers
      exact { hoffers with held := hsame ▸ hoffers.held }
    · intro hoffers
      exact { hoffers with held := hsame.symm ▸ hoffers.held }
  · constructor
    · intro hoffers
      exact absurd hoffers.inWindow hwindow
    · intro hoffers
      exact absurd hoffers.inWindow hwindow

/-- A query is answered with exactly the samples it asks for, in strict order. -/
theorem select_answer {store : Store} (hstore : store.WellFormed) (query : Query) :
    ∃ points, query.select (.ok (store.answer query)) = .ok points ∧
      points.Pairwise Point.Before ∧ ∀ point, point ∈ points ↔ store.Offers query point := by
  refine ⟨((store.sent query).mergeSort Point.precedes).filter fun point =>
    query.window.contains point.time, ?_, ?_, ?_⟩
  · have hpoints : Series.points (store.answer query) =
        .ok ((store.sent query).mergeSort Point.precedes) := by
      rw [Series.points, collect_answer hstore]
      rfl
    simp only [Query.select, bind, Except.bind, hpoints]
  · exact (Point.pairwise_before_mergeSort (pairwise_sent hstore query)).sublist
      List.filter_sublist
  · intro point
    rw [List.mem_filter, (List.mergeSort_perm _ _).mem_iff, mem_sent_iff hstore]
    constructor
    · rintro ⟨⟨hwhole, hfits, -, hheld⟩, hwindow⟩
      exact ⟨hwhole, hfits, hwindow, hheld⟩
    · rintro ⟨hwhole, hfits, hwindow, hheld⟩
      exact ⟨⟨hwhole, hfits, covers_of_contains hwindow, hheld⟩, hwindow⟩

end Store

end MetricBridge
