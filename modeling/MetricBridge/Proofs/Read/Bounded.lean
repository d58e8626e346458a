/-
# What a bounded read yields

Reading on until the end gives a list of items. For a read of which nothing was taken yet
this is what comes of its one query: the points of the answer or the single
fault, each of them once.
-/

import Mathlib
import MetricBridge.Read.Bounded

namespace MetricBridge

namespace BoundedRead

/-- A reader that takes items from a read until there are none gets exactly these. -/
inductive Yields {σ : Type} (source : Source σ) : BoundedRead → σ → List Item → Prop
  | finished {read : BoundedRead} {state : σ} :
      (read.next source state).1 = none → Yields source read state []
  | item {read : BoundedRead} {state : σ} {item : Item} {rest : List Item} :
      (read.next source state).1 = some item →
      Yields source (read.next source state).2.1 (read.next source state).2.2 rest →
      Yields source read state (item :: rest)

variable {σ : Type} {source : Source σ}

theorem yields_handing (query : Query) (items : List Item) (state : σ) :
    Yields source ⟨query, .handing items, false⟩ state items := by
  induction items with
  | nil => exact Yields.finished rfl
  | cons item rest ih => exact Yields.item rfl ih

/-- A read that was just started yields what comes of its query. -/
theorem yields_start (query : Query) (state : σ) :
    Yields source (start query) state (itemsOf (query.run source state).1) := by
  cases hitems : itemsOf (query.run source state).1 with
  | nil =>
    apply Yields.finished
    simp [next, start, hitems, hand]
  | cons item rest =>
    apply Yields.item
    · simp [next, start, hitems, hand]
    · have hnext : ((start query).next source state).2.1 = ⟨query, .handing rest, false⟩ := by
        simp [next, start, hitems, hand]
      rw [hnext]
      exact yields_handing query rest _

theorem yields_points {query : Query} {state : σ} {points : List Point}
    (hrun : (query.run source state).1 = .ok points) :
    Yields source (start query) state (points.map Except.ok) := by
  have hyields : Yields source _ _ _ := yields_start query state
  rwa [hrun] at hyields

end BoundedRead

end MetricBridge
