/-
# Reads with an end

A bounded read asks the store once, when its first item is taken, and then hands out the
points of the answer one by one, or the single fault. Once it is cancelled it hands
out nothing more, not even points that it already has.
-/

import MetricBridge.Read.Query

namespace MetricBridge

/-- What a read hands out. -/
abbrev Item := Except Fault Point

/-- How far a bounded read has come. -/
inductive BoundedPhase where
  /-- The store has not been asked yet. -/
  | unasked
  /-- What is still to be handed out. -/
  | handing (items : List Item)

/-- A read with an end. -/
structure BoundedRead where
  query : Query
  phase : BoundedPhase
  isCancelled : Bool

namespace BoundedRead

/-- A read before anything was taken from it. -/
def start (query : Query) : BoundedRead :=
  ⟨query, .unasked, false⟩

/-- What a read hands out once the store has answered. -/
def itemsOf : Except Fault (List Point) → List Item
  | .ok points => points.map Except.ok
  | .error fault => [.error fault]

/-- Takes the first of the items that are still to be handed out. -/
def hand (read : BoundedRead) : List Item → Option Item × BoundedRead
  | [] => (none, { read with phase := .handing [] })
  | item :: rest => (some item, { read with phase := .handing rest })

/-- Takes the next item; none at the end. -/
def next {σ : Type} (source : Source σ) (read : BoundedRead) (state : σ) :
    Option Item × BoundedRead × σ :=
  if read.isCancelled then (none, read, state)
  else
    match read.phase with
    | .handing items =>
      let (item, read) := read.hand items
      (item, read, state)
    | .unasked =>
      let (points, state) := read.query.run source state
      let (item, read) := read.hand (itemsOf points)
      (item, read, state)

/-- Ends the read. -/
def cancel (read : BoundedRead) : BoundedRead :=
  { read with isCancelled := true }

end BoundedRead

end MetricBridge
