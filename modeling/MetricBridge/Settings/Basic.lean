/-
# Settings

Where payloads are sent to, where queries are asked, how long a tail sleeps and how long a
request may take. Everything has a default, so settings can always be given in part.
-/

namespace MetricBridge

/-- The listener that takes payloads. -/
structure ListenerSettings where
  host : String
  port : Nat
  deriving DecidableEq

/-- The server that answers queries. -/
structure RenderSettings where
  host : String
  port : Nat
  username : Option String
  password : Option String
  deriving DecidableEq

/-- All settings. -/
structure Settings where
  listener : ListenerSettings
  render : RenderSettings
  /-- How long a tail sleeps between polls, in milliseconds. -/
  pollInterval : Nat
  /-- How long a request may take, in milliseconds. -/
  requestTimeout : Nat
  deriving DecidableEq

namespace Settings

/-- The host where nothing else is said. -/
def defaultHost : String := "localhost"

/-- Port numbers are below this. -/
def portBound : Nat := Nat.pow 2 16

/-- Numbers of milliseconds are below this. -/
def millisecondBound : Nat := Nat.pow 2 64

/-- The settings where nothing is said. -/
def standard : Settings where
  listener := ⟨defaultHost, 2003⟩
  render := ⟨defaultHost, 8080, none, none⟩
  pollInterval := 1000
  requestTimeout := 30000

end Settings

namespace ListenerSettings

/-- Host and port as an address. -/
def address (settings : ListenerSettings) : String :=
  settings.host ++ ":" ++ toString settings.port

end ListenerSettings

namespace RenderSettings

/-- Where the server is found. -/
def baseUrl (settings : RenderSettings) : String :=
  "http://" ++ settings.host ++ ":" ++ toString settings.port

/-- User name and password, if a user name is set; the password may be missing. -/
def credentials? (settings : RenderSettings) : Option (String × String) :=
  settings.username.map fun username => (username, settings.password.getD "")

end RenderSettings

end MetricBridge
