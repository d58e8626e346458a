/-
# Sets of characters given by ranges of code points

The properties of characters that this library depends on (letters and numerals in names, characters that
are shown as escapes in quoted text) come as lists of inclusive ranges. A set is
such a list and nothing else: no order of the ranges is assumed by membership, so
no lemma below depends on how a table is laid out.
-/

namespace MetricBridge.Text

/-- A set of characters, as the inclusive ranges of the code points in it. -/
structure CharSet where
  ranges : List (Nat × Nat)

namespace CharSet

/-- Membership: some range holds the code point. -/
def contains (set : CharSet) (c : Char) : Bool :=
  set.ranges.any fun range => range.1 ≤ c.toNat && c.toNat ≤ range.2

/-- A character belongs to a set exactly when one of the ranges holds its code point. -/
theorem contains_iff {set : CharSet} {c : Char} :
    set.contains c = true ↔
      ∃ range ∈ set.ranges, range.1 ≤ c.toNat ∧ c.toNat ≤ range.2 := by
  simp [contains, List.any_eq_true]

end CharSet

end MetricBridge.Text
