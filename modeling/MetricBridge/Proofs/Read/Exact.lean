/-
# A bounded read, whatever the store answers

What a bounded read hands out is settled by its window and by the one answer that it gets. For
an empty window it does not even ask. Otherwise it asks once, and either the answer can be used as
a whole and the read hands out its points in the window, as often as they are in the answer, or
the read hands out one fault and no point.

The store is any source here. A log beside its state keeps the queries that it was asked, and a
reader may look for items as often as it likes.
-/

import Mathlib
import MetricBridge.Proofs.Series.Points
import MetricBridge.Proofs.Window.Interval
import MetricBridge.Read.Bounded
import MetricBridge.Window.Range

namespace MetricBridge

open Time (Instant)

variable {σ : Type}

/-- A source with a log of the queries that it was asked, oldest first. -/
def Source.logged (source : Source σ) : Source (σ × List Query) := fun query (state, queries) =>
  let (answer, state) := source query state
  (answer, state, queries ++ [query])

/-- What is due for a query: the items that are handed out and the queries that are asked, when the
store answers the query in a given way or would do so. -/
inductive Due (query : Query) : (answer : Except Fault (List Series)) → (items : List Item) →
    (queries : List Query) → Prop
  | nothing {answer : Except Fault (List Series)} {start : Instant}
      (hstart : query.window.start = some start) (hempty : query.window.stop ≤ start) :
      Due query answer [] []
  | failed {fault : Fault} (hwindow : ∀ start ∈ query.window.start, start < query.window.stop) :
      Due query (.error fault) [.error fault] [query]
  | unusable {answer : List Series} {before after : List Datum} {datum : Datum} {fault : Fault}
      (hwindow : ∀ start ∈ query.window.start, start < query.window.stop)
      (hdata : Series.dataOf answer = before ++ datum :: after)
      (hfirst : ∀ earlier ∈ before, earlier.IsUsable) (hunusable : ¬ datum.IsUsable)
      (hfault : datum.point = .error fault) :
      Due query (.ok answer) [.error fault] [query]
  | points {answer : List Series} {points : List Point}
      (hwindow : ∀ start ∈ query.window.start, start < query.window.stop)
      (husable : ∀ datum ∈ Series.dataOf answer, datum.IsUsable)
      (hperm : points.Perm (((Series.dataOf answer).filterMap Datum.point?).filter fun point =>
        (∀ start ∈ query.window.start, start < point.time) ∧ point.time ≤ query.window.stop))
      (hordered : points.Pairwise fun a b =>
        a.time < b.time ∨ (a.time = b.time ∧ a.name ≤ b.name)) :
      Due query (.ok answer) (points.map Except.ok) [query]

theorem Query.select_ok (query : Query) (answer : List Series) :
    query.select (.ok answer) = (Series.collect answer).map fun points =>
      (points.mergeSort Point.precedes).filter fun point => query.window.contains point.time := by
  change (Series.points answer).bind _ = _
  rw [Series.points]
  cases Series.collect answer <;> rfl

/-- What is made of the answer to a query that was asked is due for it. -/
theorem due_itemsOf_select {query : Query} (answer : Except Fault (List Series))
    (hwindow : ∀ start ∈ query.window.start, start < query.window.stop) :
    Due query answer (BoundedRead.itemsOf (query.select answer)) [query] := by
  cases answer with
  | error fault => exact Due.failed hwindow
  | ok answer =>
    rw [Query.select_ok, Series.collect_eq_mapM]
    rcases Datum.isUsable_or_exists_first (Series.dataOf answer) with
      husable | ⟨before, datum, after, hdata, hfirst, hunusable⟩
    · rw [Datum.mapM_point_of_isUsable husable]
      apply Due.points hwindow husable
      · simp only [← Interval.contains_iff, Bool.decide_eq_true]
        exact (List.mergeSort_perm _ _).filter _
      · have hordered := (Point.pairwise_mergeSort_precedes
          ((Series.dataOf answer).filterMap Datum.point?)).imp Point.precedes_iff.1
        exact hordered.sublist List.filter_sublist
    · obtain ⟨fault, hfault⟩ := Datum.point_of_not_isUsable hunusable
      rw [hdata, Datum.mapM_point_of_not_isUsable hfirst hfault]
      exact Due.unusable hwindow hdata hfirst hunusable hfault

/-- A query is asked at most once, and what comes of it is due. -/
theorem exists_due_run (source : Source σ) (query : Query) (state : σ) :
    ∃ queries, Due query (source query state).1
        (BoundedRead.itemsOf (query.run source.logged (state, [])).1) queries ∧
      (query.run source.logged (state, [])).2.2 = queries := by
  by_cases hempty : query.window.isEmpty = true
  · obtain ⟨start, hstart, hle⟩ := Interval.isEmpty_iff.1 hempty
    rw [Query.run, if_pos hempty]
    exact ⟨[], Due.nothing hstart hle, rfl⟩
  · have hwindow : ∀ start ∈ query.window.start, start < query.window.stop := by
      intro start hstart
      by_contra hnot
      exact hempty (Interval.isEmpty_iff.2 ⟨start, hstart, not_lt.1 hnot⟩)
    rw [Query.run, if_neg hempty]
    exact ⟨[query], due_itemsOf_select _ hwindow, rfl⟩

/-- The log changes nothing about what is handed out. -/
theorem fst_run_logged (source : Source σ) (query : Query) (state : σ) (queries : List Query) :
    (query.run source.logged (state, queries)).1 = (query.run source state).1 := by
  unfold Query.run
  split <;> rfl

namespace BoundedRead

/-- What a reader finds who looks for an item so many times, and the state of the source after
that. -/
def polls (source : Source σ) : Nat → BoundedRead → σ → List (Option Item) × σ
  | 0, _, state => ([], state)
  | count + 1, read, state =>
    let (item, read, state) := read.next source state
    let (items, state) := polls source count read state
    (item :: items, state)

theorem next_handing (source : Source σ) (query : Query) (items : List Item) (state : σ) :
    next source ⟨query, .handing items, false⟩ state =
      (items[0]?, ⟨query, .handing items.tail, false⟩, state) := by
  cases items <;> rfl

/-- The reader finds the items in turn, and nothing from then on. -/
theorem polls_handing (source : Source σ) (query : Query) (items : List Item) (state : σ)
    (count : Nat) :
    polls source count ⟨query, .handing items, false⟩ state =
      ((List.range count).map fun i => items[i]?, state) := by
  induction count generalizing items with
  | zero => rfl
  | succ count ih =>
    have hshift : (List.range (count + 1)).map (fun i => items[i]?) =
        items[0]? :: (List.range count).map fun i => items.tail[i]? := by
      rw [List.range_succ_eq_map, List.map_cons, List.map_map]
      simp [Function.comp_def]
    rw [hshift]
    simp only [polls, next_handing, ih]

theorem polls_start (source : Source σ) (query : Query) (state : σ) (count : Nat) :
    polls source (count + 1) (start query) state =
      ((List.range (count + 1)).map fun i => (itemsOf (query.run source state).1)[i]?,
        (query.run source state).2) := by
  have hsame : polls source (count + 1) (start query) state =
      polls source (count + 1) ⟨query, .handing (itemsOf (query.run source state).1), false⟩
        (query.run source state).2 := rfl
  rw [hsame, polls_handing]

end BoundedRead

/-- A bounded read that is not cancelled hands out what is due for its target and its range, and
then nothing more; the store was asked what is due as soon as the reader has looked once. -/
theorem boundedRead_exact (source : Source σ) (state : σ) (target : String)
    (start : Option Instant) (stop : Instant) :
    let query : Query := ⟨target, ⟨start, stop⟩⟩
    (Range.mk start (.bounded stop)).interval? = some query.window ∧
      ∃ (items : List Item) (queries : List Query),
        Due query (source query state).1 items queries ∧
        ∀ count,
          let looks := BoundedRead.polls source.logged (count + 1) (BoundedRead.start query)
            (state, [])
          looks.1 = (List.range (count + 1)).map (fun i => items[i]?) ∧ looks.2.2 = queries := by
  intro query
  obtain ⟨queries, hdue, hqueries⟩ := exists_due_run source query state
  refine ⟨rfl, _, queries, hdue, ?_⟩
  intro count
  rw [BoundedRead.polls_start]
  exact ⟨rfl, hqueries⟩

end MetricBridge
