/-
# Selectors and the one constraint a store can serve

A selector is a statement about the fields of a sample, with comparisons, `AND`, `OR` and
`NOT`. The store finds series by name only. So the one selector that leads to a read is a
single comparison of the field `name` with a text that is not empty, for equality
or for likeness to a pattern; no other selector does, not even one that means the same,
such as a constraint negated twice.

The text of a constraint goes to the store as it is. In particular an equality is not
protected against the signs that the store reads as a pattern.
-/

import MetricBridge.Binary64.Basic
import MetricBridge.Fault

namespace MetricBridge

/-- How a field is compared. -/
inductive Comparison where
  | equal
  | unequal
  | like
  | unlike
  | less
  | atMost
  | greater
  | atLeast
  deriving DecidableEq, Inhabited

/-- What a field is compared with. -/
inductive Operand where
  | text (content : String)
  | number (value : Binary64)
  deriving DecidableEq, Inhabited

/-- A statement about the fields of a sample. -/
inductive Selector where
  | compare (field : String) (comparison : Comparison) (operand : Operand)
  | both (left right : Selector)
  | either (left right : Selector)
  | negate (inner : Selector)
  deriving DecidableEq, Inhabited

/-- A constraint on the name of a series. -/
inductive NameConstraint where
  | equals (name : String)
  | like (pattern : String)
  deriving DecidableEq

namespace NameConstraint

/-- What the store is asked for. -/
def target : NameConstraint → String
  | equals name => name
  | like pattern => pattern

end NameConstraint

namespace Selector

/-- The one field that a read can be limited by. -/
def nameField : String := "name"

/-- The selector of the series of a name. -/
def nameEquals (name : String) : Selector :=
  compare nameField .equal (.text name)

/-- The selector of the series whose names are like a pattern. -/
def nameLike (pattern : String) : Selector :=
  compare nameField .like (.text pattern)

/-- The constraint that a selector consists of, if it is one. -/
def constraint : Selector → Except Fault NameConstraint
  | compare field comparison (.text content) =>
    if field = nameField ∧ content ≠ "" then
      match comparison with
      | .equal => .ok (.equals content)
      | .like => .ok (.like content)
      | _ => .error .invalidFilter
    else .error .invalidFilter
  | _ => .error .invalidFilter

end Selector

end MetricBridge
