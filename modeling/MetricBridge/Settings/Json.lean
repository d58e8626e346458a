/-
# Settings as JSON

Settings are a structure of four slots, of which two are structures again. Every slot may be
left out and then has its default; an unknown one is passed over.
-/

import MetricBridge.Json.Decode
import MetricBridge.Settings.Basic

namespace MetricBridge

/-- A port number. -/
def Settings.portReader : Json.Reader Nat :=
  Json.natural "u16" Settings.portBound

/-- A number of milliseconds. -/
def Settings.millisecondReader : Json.Reader Nat :=
  Json.natural "u64" Settings.millisecondBound

/-- The name of a host. -/
def Settings.textReader : Json.Reader String :=
  Json.string "a string"

namespace ListenerSettings

/-- The slots that were met so far. -/
structure Draft where
  host : Option String
  port : Option Nat

/-- The slots in order. -/
def slots : List (Json.Slot Draft) :=
  [Json.Slot.withDefault "host" Settings.textReader (·.host) fun draft host =>
      { draft with host },
    Json.Slot.withDefault "port" Settings.portReader (·.port) fun draft port =>
      { draft with port }]

/-- The settings with defaults for what was not met. -/
def ofDraft (draft : Draft) : ListenerSettings where
  host := draft.host.getD Settings.standard.listener.host
  port := draft.port.getD Settings.standard.listener.port

/-- How the settings of the listener are read. -/
def shape : Json.Shape Draft ListenerSettings where
  expected := "struct CarbonConfig"
  expectedLength := "struct CarbonConfig with 2 elements"
  slots := slots
  empty := ⟨none, none⟩
  finish := fun draft => .ok (ofDraft draft)

end ListenerSettings

namespace RenderSettings

/-- The slots that were met so far. User name and password may also be null. -/
structure Draft where
  host : Option String
  port : Option Nat
  username : Option (Option String)
  password : Option (Option String)

/-- The slots in order. -/
def slots : List (Json.Slot Draft) :=
  [Json.Slot.withDefault "host" Settings.textReader (·.host) fun draft host =>
      { draft with host },
    Json.Slot.withDefault "port" Settings.portReader (·.port) fun draft port =>
      { draft with port },
    Json.Slot.withDefault "username" (Json.nullable Settings.textReader) (·.username)
      fun draft username => { draft with username },
    Json.Slot.withDefault "password" (Json.nullable Settings.textReader) (·.password)
      fun draft password => { draft with password }]

/-- The settings with defaults for what was not met. -/
def ofDraft (draft : Draft) : RenderSettings where
  host := draft.host.getD Settings.standard.render.host
  port := draft.port.getD Settings.standard.render.port
  username := draft.username.getD Settings.standard.render.username
  password := draft.password.getD Settings.standard.render.password

/-- How the settings of the server are read. -/
def shape : Json.Shape Draft RenderSettings where
  expected := "struct WebappConfig"
  expectedLength := "struct WebappConfig with 4 elements"
  slots := slots
  empty := ⟨none, none, none, none⟩
  finish := fun draft => .ok (ofDraft draft)

end RenderSettings

namespace Settings

/-- The slots that were met so far. -/
structure Draft where
  listener : Option ListenerSettings
  render : Option RenderSettings
  pollInterval : Option Nat
  requestTimeout : Option Nat

/-- The slots in order. -/
def slots : List (Json.Slot Draft) :=
  [Json.Slot.withDefault "carbon" ListenerSettings.shape.reader (·.listener)
      fun draft listener => { draft with listener },
    Json.Slot.withDefault "webapp" RenderSettings.shape.reader (·.render)
      fun draft render => { draft with render },
    Json.Slot.withDefault "poll_interval_ms" millisecondReader (·.pollInterval)
      fun draft pollInterval => { draft with pollInterval },
    Json.Slot.withDefault "request_timeout_ms" millisecondReader (·.requestTimeout)
      fun draft requestTimeout => { draft with requestTimeout }]

/-- The settings with defaults for what was not met. -/
def ofDraft (draft : Draft) : Settings where
  listener := draft.listener.getD standard.listener
  render := draft.render.getD standard.render
  pollInterval := draft.pollInterval.getD standard.pollInterval
  requestTimeout := draft.requestTimeout.getD standard.requestTimeout

/-- How settings are read. -/
def shape : Json.Shape Draft Settings where
  expected := "struct GraphiteConfig"
  expectedLength := "struct GraphiteConfig with 4 elements"
  slots := slots
  empty := ⟨none, none, none, none⟩
  finish := fun draft => .ok (ofDraft draft)

/-- Reads a text that holds settings; otherwise says what is wrong and where. -/
def ofJson (text : String) : Except String Settings :=
  (Json.whole shape.reader text).mapError (Json.Flaw.report text.toList)

end Settings

end MetricBridge
