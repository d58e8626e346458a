/-
# Options of a read

A read is bounded by a start and an end, or by a look-back from now. Options come as a
list of names with values; a name may come again, and the last value counts. A value is a
text, or a moment or a duration that the caller has already made.

A name that is not known is a fault whatever the values are, and the first such name
is the one that is told. Otherwise the first value that cannot be used is, even if a
later one of the same name would have replaced it.
-/

import MetricBridge.Window.Moment

namespace MetricBridge

open Time (Instant Duration)

/-- The value of an option. -/
inductive OptionValue where
  | text (words : String)
  | moment (moment : Moment)
  | duration (duration : Duration)
  deriving DecidableEq

/-- What the options of a read say. -/
structure ReadOptions where
  start : Option Moment
  stop : Option Moment
  lookBack : Option Duration
  deriving DecidableEq

namespace ReadOptions

/-- The name of the option for the start. -/
def startName : String := "from"

/-- The name of the option for the end. -/
def stopName : String := "to"

/-- The name of the option for the look-back. -/
def lookBackName : String := "last"

/-- The names that a read knows. -/
def names : List String := [startName, stopName, lookBackName]

/-- No option given. -/
def none : ReadOptions := ⟨.none, .none, .none⟩

/-- The value as a moment. -/
def momentOf (option : String) : OptionValue → Except Fault Moment
  | .text words => Window.readMoment option words.toList
  | .moment moment => .ok moment
  | .duration _ => .error (.invalidOption option "expected a moment, got a duration")

/-- The value as a duration. -/
def durationOf (option : String) : OptionValue → Except Fault Duration
  | .text words => Window.readDuration option words.toList
  | .duration duration => .ok duration
  | .moment _ => .error (.invalidOption option "expected a duration, got a moment")

/-- The options with one more of a known name. -/
def insert (options : ReadOptions) (name : String) (value : OptionValue) :
    Except Fault ReadOptions :=
  if name = startName then
    (momentOf name value).map fun moment => { options with start := some moment }
  else if name = stopName then
    (momentOf name value).map fun moment => { options with stop := some moment }
  else
    (durationOf name value).map fun duration => { options with lookBack := some duration }

/-- The options with all of a list of known names. -/
def insertAll (options : ReadOptions) :
    List (String × OptionValue) → Except Fault ReadOptions
  | [] => .ok options
  | (name, value) :: rest =>
    match options.insert name value with
    | .ok options => insertAll options rest
    | .error fault => .error fault

/-- The first name that a read does not know. -/
def unknown? (given : List (String × OptionValue)) : Option String :=
  (given.find? fun option => option.1 ∉ names).map Prod.fst

/-- What a list of options says. -/
def ofList (given : List (String × OptionValue)) : Except Fault ReadOptions :=
  match unknown? given with
  | some name => .error (.unknownOption name)
  | .none => insertAll none given

end ReadOptions

end MetricBridge
