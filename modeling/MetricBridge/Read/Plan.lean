/-
# Planning a read

A read is planned before anything is asked: its options and its selector give a target and a
range, or the first fault. An option of an unknown name is told before anything else,
then a value that cannot be used, then the selector, then the range.

A selector that comes in words is read before the plan is made, so words that are no
selector are told first.
-/

import MetricBridge.Selector.Read
import MetricBridge.Window.Range

namespace MetricBridge

open Time (Instant)

/-- A read that can be carried out. -/
structure Plan where
  target : String
  range : Range
  deriving DecidableEq

/-- How a selector is given. -/
inductive SelectorSource where
  | absent
  | words (text : String)
  | made (selector : Selector)

namespace SelectorSource

/-- The selector, if one is given. -/
def selector? : SelectorSource → Except Fault (Option Selector)
  | absent => .ok none
  | words text => (Selector.read text).map some
  | made selector => .ok (some selector)

end SelectorSource

namespace Plan

/-- The target of a selector that has to be given. -/
def targetOf : Option Selector → Except Fault String
  | none => .error .invalidFilter
  | some selector => selector.constraint.map NameConstraint.target

/-- The plan of a read with these options and this selector when the clock shows a time. -/
def make (options : List (String × OptionValue)) (selector : Option Selector)
    (clock : Instant) : Except Fault Plan := do
  let options ← ReadOptions.ofList options
  let target ← targetOf selector
  let range ← options.resolve clock
  .ok ⟨target, range⟩

/-- The plan of a read whose selector may be in words. -/
def ofStatement (options : List (String × OptionValue)) (source : SelectorSource)
    (clock : Instant) : Except Fault Plan := do
  let selector ← source.selector?
  make options selector clock

end Plan

end MetricBridge
