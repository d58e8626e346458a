/-
# What can go wrong

A fault is the cause for which a statement is refused or breaks off. Most faults are
found while a statement is checked, before anything is sent; the other three come
from the store, from writing results, and from the settings. Every fault has
a stable code and a message.
-/

namespace MetricBridge

/-- Why a read, a write or an export did not succeed. -/
inductive Fault where
  /-- The filter is not a single constraint on the name. -/
  | invalidFilter
  /-- A read option of an unknown name. -/
  | unknownOption (name : String)
  /-- No option bounds the read. -/
  | missingTimeRange
  /-- A look-back was combined with a start or an end. -/
  | conflictingTimeRange
  /-- The start is later than the end; both as timestamps. -/
  | invalidTimeRange (start stop : String)
  /-- The value of an option cannot be used. -/
  | invalidOption (option reason : String)
  /-- The store cannot be reached, or its answer cannot be used. -/
  | transport (text : String)
  /-- Results could not be written. -/
  | output (text : String)
  /-- The settings cannot be used. -/
  | settings (text : String)
  deriving DecidableEq

namespace Fault

/-- The code that stays the same whatever the wording. -/
def code : Fault → String
  | invalidFilter => "RT-INVALID-FILTER"
  | unknownOption _ => "RT-UNKNOWN-OPTION"
  | missingTimeRange => "MISSING-TIME-RANGE"
  | conflictingTimeRange => "RT-CONFLICTING-TIME-RANGE"
  | invalidTimeRange _ _ => "RT-INVALID-TIME-RANGE"
  | invalidOption _ _ => "RT-INVALID-OPTION"
  | transport _ => "RT-TRANSPORT-ERROR"
  | output _ => "RT-EXPORT-ERROR"
  | settings _ => "RT-CONFIG-ERROR"

/-- The wording. -/
def message : Fault → String
  | invalidFilter => "filter expression must match: name=\"XXX\"/name~\"X.*\""
  | unknownOption name => "unknown read-graphite option " ++ name
  | missingTimeRange =>
    "one of -from/-to or -last must be specified to define a query time range"
  | conflictingTimeRange => "-last option should not be combined with -from or -to"
  | invalidTimeRange start stop =>
    "-from (" ++ start ++ ") must not be later than -to (" ++ stop ++ ")"
  | invalidOption option reason => "invalid value for option " ++ option ++ ": " ++ reason
  | transport text => "graphite transport error: " ++ text
  | output text => "export failed: " ++ text
  | settings text => "invalid graphite configuration: " ++ text

/-- The fault is found by looking at the statement alone. -/
def isValidation : Fault → Bool
  | transport _ | output _ | settings _ => false
  | _ => true

/-- An answer of the store that cannot be used. -/
def malformed (what : String) : Fault :=
  transport ("malformed response: " ++ what)

end Fault

end MetricBridge
