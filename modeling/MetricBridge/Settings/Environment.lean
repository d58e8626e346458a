/-
# Settings from the environment

Eight variables, each of which replaces one default. Numbers are checked in a fixed
order, and the first that cannot be used is told.
-/

import MetricBridge.Decimal.Bounded
import MetricBridge.Fault
import MetricBridge.Settings.Basic
import MetricBridge.Text.Quoted

namespace MetricBridge.Settings

/-- The variables of the environment. -/
abbrev Environment := String → Option String

/-- The complaint about a variable. -/
def badVariable (name raw : String) (error : Decimal.NumeralError) : Fault :=
  .settings (name ++ "=" ++ Text.quote raw ++ ": " ++ error.message)

/-- The number in a variable, or the default where it is not set. -/
def numberIn (environment : Environment) (name : String) (bound default : Nat) :
    Except Fault Nat :=
  match environment name with
  | none => .ok default
  | some raw => (Decimal.bounded bound raw.toList).mapError (badVariable name raw)

/-- The text in a variable, or the default where it is not set. -/
def textIn (environment : Environment) (name default : String) : String :=
  (environment name).getD default

/-- The settings of an environment. -/
def ofEnvironment (environment : Environment) : Except Fault Settings := do
  let listenerPort ←
    numberIn environment "GRAPHITE_CARBON_PORT" portBound standard.listener.port
  let renderPort ← numberIn environment "GRAPHITE_WEBAPP_PORT" portBound standard.render.port
  let pollInterval ←
    numberIn environment "GRAPHITE_POLL_INTERVAL_MS" millisecondBound standard.pollInterval
  let requestTimeout ←
    numberIn environment "GRAPHITE_REQUEST_TIMEOUT_MS" millisecondBound standard.requestTimeout
  .ok {
    listener := ⟨textIn environment "GRAPHITE_CARBON_HOST" defaultHost, listenerPort⟩
    render := ⟨textIn environment "GRAPHITE_WEBAPP_HOST" defaultHost, renderPort,
      environment "GRAPHITE_USERNAME", environment "GRAPHITE_PASSWORD"⟩
    pollInterval
    requestTimeout }

end MetricBridge.Settings
