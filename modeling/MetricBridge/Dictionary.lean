/-
# Dictionaries in the order of their keys

A dictionary is a list of entries whose keys ascend, at most one entry to a key. An
entry that is put under a key that is there replaces the one that was there, so the last
one put counts. JSON objects are such lists, and so are the series of a store and
the samples of a series.
-/

namespace MetricBridge.Dictionary

variable {κ α : Type} [LT κ] [DecidableLT κ] [DecidableEq κ]

/-- The entries with a value put under a key. -/
def put (key : κ) (value : α) : List (κ × α) → List (κ × α)
  | [] => [(key, value)]
  | (other, held) :: rest =>
    if key < other then (key, value) :: (other, held) :: rest
    else if key = other then (key, value) :: rest
    else (other, held) :: put key value rest

omit [LT κ] [DecidableLT κ] in
/-- The value under a key. -/
def get? (key : κ) (entries : List (κ × α)) : Option α :=
  (entries.find? fun entry => entry.1 = key).map Prod.snd

/-- Entries given in any order, a later one replacing an earlier one of the same key. -/
def ofList (given : List (κ × α)) : List (κ × α) :=
  given.foldl (fun entries entry => put entry.1 entry.2 entries) []

end MetricBridge.Dictionary
