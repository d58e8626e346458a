/-
# Two ways to say the same settings

Settings are said by a text of JSON or by an environment, and both leave out what is to have its
default. Here both are told by what they say: any choice of hosts, ports, user name, password and
numbers of milliseconds, each of which may be left out. Whoever says the same choice in one way or
the other has the same settings, however it is written: with the keys of an object in any order and
in any spelling, with blanks, with anything under keys that are not known, with a block that
says nothing or no block, with null for a name that is not given, and in the environment with a plus
sign or zeros in front of a number.

Objects that set a known key twice are not such texts, and neither are lists in place of objects.
-/

import Mathlib
import MetricBridge.Proofs.Decimal.Bounded
import MetricBridge.Proofs.Json.Writing
import MetricBridge.Settings.Environment
import MetricBridge.Settings.Json

namespace MetricBridge

open Json (IsGap IsObject IsValue OthersAreValues Reads Sets SetsUnless SpellsNatural
  SpellsNullable SpellsString)

/-! ### Choices -/

/-- What is said about the listener. -/
structure ListenerSettings.Choice where
  host : Option String
  port : Option UInt16

/-- What is said about the server. -/
structure RenderSettings.Choice where
  host : Option String
  port : Option UInt16
  username : Option String
  password : Option String

/-- What is said about the settings. -/
structure Settings.Choice where
  listener : ListenerSettings.Choice
  render : RenderSettings.Choice
  pollInterval : Option UInt64
  requestTimeout : Option UInt64

/-- Nothing is said about the listener. -/
def ListenerSettings.Choice.nothing : ListenerSettings.Choice :=
  ⟨none, none⟩

/-- Nothing is said about the server. -/
def RenderSettings.Choice.nothing : RenderSettings.Choice :=
  ⟨none, none, none, none⟩

/-- The choice, and defaults for what is left out. -/
def ListenerSettings.Choice.settings (choice : ListenerSettings.Choice) : ListenerSettings where
  host := choice.host.getD Settings.defaultHost
  port := (choice.port.map UInt16.toNat).getD Settings.standard.listener.port

/-- The choice, and defaults for what is left out. -/
def RenderSettings.Choice.settings (choice : RenderSettings.Choice) : RenderSettings where
  host := choice.host.getD Settings.defaultHost
  port := (choice.port.map UInt16.toNat).getD Settings.standard.render.port
  username := choice.username
  password := choice.password

/-- The choice, and defaults for what is left out. -/
def Settings.Choice.settings (choice : Settings.Choice) : Settings where
  listener := choice.listener.settings
  render := choice.render.settings
  pollInterval := (choice.pollInterval.map UInt64.toNat).getD Settings.standard.pollInterval
  requestTimeout := (choice.requestTimeout.map UInt64.toNat).getD Settings.standard.requestTimeout

/-! ### Choices as JSON -/

/-- An object that says this choice about the listener. -/
def ListenerSettings.Choice.IsWritten (choice : ListenerSettings.Choice) (text : List Char) :
    Prop :=
  ∃ members, IsObject SpellsString members text ∧
    Sets members "host" SpellsString choice.host ∧
    Sets members "port" (fun port => SpellsNatural port.toNat) choice.port ∧
    OthersAreValues members ["host", "port"]

/-- An object that says this choice about the server. -/
def RenderSettings.Choice.IsWritten (choice : RenderSettings.Choice) (text : List Char) : Prop :=
  ∃ members, IsObject SpellsString members text ∧
    Sets members "host" SpellsString choice.host ∧
    Sets members "port" (fun port => SpellsNatural port.toNat) choice.port ∧
    SetsUnless none members "username" (SpellsNullable SpellsString) choice.username ∧
    SetsUnless none members "password" (SpellsNullable SpellsString) choice.password ∧
    OthersAreValues members ["host", "port", "username", "password"]

/-- An object that says this choice. -/
def Settings.Choice.IsWritten (choice : Settings.Choice) (text : List Char) : Prop :=
  ∃ members, IsObject SpellsString members text ∧
    SetsUnless .nothing members "carbon" ListenerSettings.Choice.IsWritten choice.listener ∧
    SetsUnless .nothing members "webapp" RenderSettings.Choice.IsWritten choice.render ∧
    Sets members "poll_interval_ms" (fun n => SpellsNatural n.toNat) choice.pollInterval ∧
    Sets members "request_timeout_ms" (fun n => SpellsNatural n.toNat) choice.requestTimeout ∧
    OthersAreValues members ["carbon", "webapp", "poll_interval_ms", "request_timeout_ms"]

/-- A whole text of JSON that says this choice. -/
def Settings.Choice.IsText (choice : Settings.Choice) (text : String) : Prop :=
  ∃ before object after, IsGap before ∧ choice.IsWritten object ∧ IsGap after ∧
    text.toList = before ++ object ++ after

/-! ### Reading choices -/

theorem Settings.reads_port {port : UInt16} {text : List Char}
    (htext : SpellsNatural port.toNat text) : Reads portReader port.toNat text :=
  Json.reads_natural (by decide) port.toNat_lt htext

theorem Settings.reads_milliseconds {n : UInt64} {text : List Char}
    (htext : SpellsNatural n.toNat text) : Reads millisecondReader n.toNat text :=
  Json.reads_natural (by decide) n.toNat_lt htext

namespace ListenerSettings

/-- The fields of the settings of the listener. -/
def fields : List (Json.Field Draft) :=
  [⟨String, "host", Settings.textReader, true, (·.host), fun draft host => { draft with host }⟩,
    ⟨Nat, "port", Settings.portReader, true, (·.port), fun draft port => { draft with port }⟩]

theorem makeUp_fields : Json.Field.MakeUp fields where
  nodup := by simp [fields]
  get_put := by simp [fields]
  get_put_other := by simp [fields]
  ext := by
    rintro ⟨⟩ ⟨⟩
    simp [fields]

theorem reads_choice {choice : Choice} {text : List Char} (htext : choice.IsWritten text) :
    Reads shape.reader choice.settings text := by
  obtain ⟨members, hobject, hhost, hport, hothers⟩ := htext
  let final : Draft := ⟨choice.host, choice.port.map UInt16.toNat⟩
  have hsets : ∀ field ∈ fields,
      Sets members field.name (Reads field.reader) (field.get final) := by
    simp only [fields, List.forall_mem_cons]
    exact ⟨hhost.imp Json.reads_string, hport.map _ Settings.reads_port, by simp⟩
  exact Json.reads_shape rfl makeUp_fields (by simp [fields, shape]) hobject hsets hothers rfl

end ListenerSettings

namespace RenderSettings

/-- The fields of the settings of the server. -/
def fields : List (Json.Field Draft) :=
  [⟨String, "host", Settings.textReader, true, (·.host), fun draft host => { draft with host }⟩,
    ⟨Nat, "port", Settings.portReader, true, (·.port), fun draft port => { draft with port }⟩,
    ⟨Option String, "username", Json.nullable Settings.textReader, true, (·.username),
      fun draft username => { draft with username }⟩,
    ⟨Option String, "password", Json.nullable Settings.textReader, true, (·.password),
      fun draft password => { draft with password }⟩]

theorem makeUp_fields : Json.Field.MakeUp fields where
  nodup := by simp [fields]
  get_put := by simp [fields]
  get_put_other := by simp [fields]
  ext := by
    rintro ⟨⟩ ⟨⟩
    simp [fields]

theorem reads_choice {choice : Choice} {text : List Char} (htext : choice.IsWritten text) :
    Reads shape.reader choice.settings text := by
  obtain ⟨members, hobject, hhost, hport, ⟨username, husername, hsetsUsername⟩,
    ⟨password, hpassword, hsetsPassword⟩, hothers⟩ := htext
  let final : Draft := ⟨choice.host, choice.port.map UInt16.toNat, username, password⟩
  have hsets : ∀ field ∈ fields,
      Sets members field.name (Reads field.reader) (field.get final) := by
    simp only [fields, List.forall_mem_cons]
    exact ⟨hhost.imp Json.reads_string, hport.map _ Settings.reads_port,
      hsetsUsername.imp Json.reads_nullable_string, hsetsPassword.imp Json.reads_nullable_string,
      by simp⟩
  have hfinal : ofDraft final = choice.settings := by
    rw [Choice.settings, ← husername, ← hpassword]
    rfl
  exact Json.reads_shape rfl makeUp_fields (by simp [fields, shape]) hobject hsets hothers
    (congrArg Except.ok hfinal)

end RenderSettings

namespace Settings

/-- The fields of all settings. -/
def fields : List (Json.Field Draft) :=
  [⟨ListenerSettings, "carbon", ListenerSettings.shape.reader, true, (·.listener),
      fun draft listener => { draft with listener }⟩,
    ⟨RenderSettings, "webapp", RenderSettings.shape.reader, true, (·.render),
      fun draft render => { draft with render }⟩,
    ⟨Nat, "poll_interval_ms", millisecondReader, true, (·.pollInterval),
      fun draft pollInterval => { draft with pollInterval }⟩,
    ⟨Nat, "request_timeout_ms", millisecondReader, true, (·.requestTimeout),
      fun draft requestTimeout => { draft with requestTimeout }⟩]

theorem makeUp_fields : Json.Field.MakeUp fields where
  nodup := by simp [fields]
  get_put := by simp [fields]
  get_put_other := by simp [fields]
  ext := by
    rintro ⟨⟩ ⟨⟩
    simp [fields]

theorem reads_choice {choice : Choice} {text : List Char} (htext : choice.IsWritten text) :
    Reads shape.reader choice.settings text := by
  obtain ⟨members, hobject, ⟨listener, hlistener, hsetsListener⟩, ⟨render, hrender, hsetsRender⟩,
    hpollInterval, hrequestTimeout, hothers⟩ := htext
  let final : Draft := ⟨listener.map ListenerSettings.Choice.settings,
    render.map RenderSettings.Choice.settings, choice.pollInterval.map UInt64.toNat,
    choice.requestTimeout.map UInt64.toNat⟩
  have hsets : ∀ field ∈ fields,
      Sets members field.name (Reads field.reader) (field.get final) := by
    simp only [fields, List.forall_mem_cons]
    exact ⟨hsetsListener.map _ ListenerSettings.reads_choice,
      hsetsRender.map _ RenderSettings.reads_choice, hpollInterval.map _ reads_milliseconds,
      hrequestTimeout.map _ reads_milliseconds, by simp⟩
  -- A block that is left out gives the settings of one that says nothing.
  have hfinal : ofDraft final = choice.settings := by
    rw [Choice.settings, ← hlistener, ← hrender]
    cases listener <;> cases render <;> rfl
  exact Json.reads_shape rfl makeUp_fields (by simp [fields, shape]) hobject hsets hothers
    (congrArg Except.ok hfinal)

theorem ofJson_eq_settings {choice : Choice} {text : String} (htext : choice.IsText text) :
    ofJson text = .ok choice.settings := by
  obtain ⟨before, object, after, hbefore, hobject, hafter, htext⟩ := htext
  have hread := Json.whole_of_reads (reads_choice hobject) hbefore hafter htext
  rw [ofJson, hread]
  rfl

/-! ### Choices in the environment -/

/-- A variable holds a numeral of this number. -/
def HoldsNumber (n : Nat) (raw : String) : Prop :=
  Decimal.IsNumeral n raw.toList

/-- An environment that says this choice. -/
structure Choice.IsIn (choice : Choice) (environment : Environment) : Prop where
  listenerHost : environment "GRAPHITE_CARBON_HOST" = choice.listener.host
  listenerPort : Option.Rel (fun port => HoldsNumber port.toNat) choice.listener.port
    (environment "GRAPHITE_CARBON_PORT")
  renderHost : environment "GRAPHITE_WEBAPP_HOST" = choice.render.host
  renderPort : Option.Rel (fun port => HoldsNumber port.toNat) choice.render.port
    (environment "GRAPHITE_WEBAPP_PORT")
  username : environment "GRAPHITE_USERNAME" = choice.render.username
  password : environment "GRAPHITE_PASSWORD" = choice.render.password
  pollInterval : Option.Rel (fun n => HoldsNumber n.toNat) choice.pollInterval
    (environment "GRAPHITE_POLL_INTERVAL_MS")
  requestTimeout : Option.Rel (fun n => HoldsNumber n.toNat) choice.requestTimeout
    (environment "GRAPHITE_REQUEST_TIMEOUT_MS")

theorem numberIn_eq_ok {α : Type} {toNat : α → Nat} {held : Option α} {environment : Environment}
    {name : String} {bound default : Nat}
    (hset : Option.Rel (fun n => HoldsNumber (toNat n)) held (environment name))
    (hbound : ∀ n, toNat n < bound) :
    numberIn environment name bound default = .ok ((held.map toNat).getD default) := by
  rw [numberIn]
  generalize environment name = raw at hset
  cases hset with
  | none => rfl
  | some hraw =>
    simp only [Decimal.bounded_eq_ok hraw (hbound _)]
    rfl

theorem toNat_lt_portBound (port : UInt16) : port.toNat < portBound :=
  port.toNat_lt

theorem toNat_lt_millisecondBound (n : UInt64) : n.toNat < millisecondBound :=
  n.toNat_lt

theorem ofEnvironment_eq_settings {choice : Choice} {environment : Environment}
    (henvironment : choice.IsIn environment) : ofEnvironment environment = .ok choice.settings := by
  rw [ofEnvironment, numberIn_eq_ok henvironment.listenerPort toNat_lt_portBound,
    numberIn_eq_ok henvironment.renderPort toNat_lt_portBound,
    numberIn_eq_ok henvironment.pollInterval toNat_lt_millisecondBound,
    numberIn_eq_ok henvironment.requestTimeout toNat_lt_millisecondBound]
  simp only [textIn, henvironment.listenerHost, henvironment.renderHost, henvironment.username,
    henvironment.password]
  rfl

theorem exists_of_numberIn {α : Type} {toNat : α → Nat} {environment : Environment}
    {name : String} {bound default n : Nat} (hbound : 0 < bound)
    (hheld : ∀ n < bound, ∃ held, toNat held = n)
    (hread : numberIn environment name bound default = .ok n) :
    ∃ held : Option α, Option.Rel (fun n => HoldsNumber (toNat n)) held (environment name) ∧
      n = (held.map toNat).getD default := by
  rw [numberIn] at hread
  cases hraw : environment name with
  | none =>
    rw [hraw] at hread
    exact ⟨none, .none, (Except.ok.inj hread).symm⟩
  | some raw =>
    rw [hraw] at hread
    cases hnumber : Decimal.bounded bound raw.toList with
    | error error =>
      simp only [hnumber] at hread
      cases hread
    | ok read =>
      simp only [hnumber] at hread
      cases hread
      obtain ⟨hnumeral, hlt⟩ := (Decimal.bounded_eq_ok_iff hbound).1 hnumber
      obtain ⟨held, rfl⟩ := hheld n hlt
      exact ⟨some held, .some hnumeral, rfl⟩

theorem exists_port : ∀ n < portBound, ∃ port : UInt16, port.toNat = n := fun n hn =>
  ⟨.ofNat n, UInt16.toNat_ofNat_of_lt' hn⟩

theorem exists_milliseconds : ∀ n < millisecondBound, ∃ held : UInt64, held.toNat = n :=
  fun n hn => ⟨.ofNat n, UInt64.toNat_ofNat_of_lt' hn⟩

/-- Settings that are taken from an environment are those of a choice that it says. -/
theorem ofEnvironment_eq_ok_iff {environment : Environment} {settings : Settings} :
    ofEnvironment environment = .ok settings ↔
      ∃ choice : Choice, choice.IsIn environment ∧ settings = choice.settings := by
  constructor
  · intro hread
    obtain ⟨_, hlistenerPort, hread⟩ := Json.exists_of_bind_eq_ok hread
    obtain ⟨_, hrenderPort, hread⟩ := Json.exists_of_bind_eq_ok hread
    obtain ⟨_, hpollInterval, hread⟩ := Json.exists_of_bind_eq_ok hread
    obtain ⟨_, hrequestTimeout, hread⟩ := Json.exists_of_bind_eq_ok hread
    obtain ⟨listenerPort, hlistener, rfl⟩ :=
      exists_of_numberIn (by decide) exists_port hlistenerPort
    obtain ⟨renderPort, hrender, rfl⟩ :=
      exists_of_numberIn (by decide) exists_port hrenderPort
    obtain ⟨pollInterval, hpoll, rfl⟩ :=
      exists_of_numberIn (by decide) exists_milliseconds hpollInterval
    obtain ⟨requestTimeout, htimeout, rfl⟩ :=
      exists_of_numberIn (by decide) exists_milliseconds hrequestTimeout
    cases hread
    exact ⟨⟨⟨environment "GRAPHITE_CARBON_HOST", listenerPort⟩,
        ⟨environment "GRAPHITE_WEBAPP_HOST", renderPort, environment "GRAPHITE_USERNAME",
          environment "GRAPHITE_PASSWORD"⟩, pollInterval, requestTimeout⟩,
      ⟨rfl, hlistener, rfl, hrender, rfl, rfl, hpoll, htimeout⟩, rfl⟩
  · rintro ⟨choice, henvironment, rfl⟩
    exact ofEnvironment_eq_settings henvironment

/-- The variables that are looked at. -/
def knownVariables : List String :=
  ["GRAPHITE_CARBON_HOST", "GRAPHITE_CARBON_PORT", "GRAPHITE_WEBAPP_HOST", "GRAPHITE_WEBAPP_PORT",
    "GRAPHITE_USERNAME", "GRAPHITE_PASSWORD", "GRAPHITE_POLL_INTERVAL_MS",
    "GRAPHITE_REQUEST_TIMEOUT_MS"]

theorem ofEnvironment_congr {one other : Environment}
    (hsame : ∀ name ∈ knownVariables, one name = other name) :
    ofEnvironment one = ofEnvironment other := by
  simp only [knownVariables, List.forall_mem_cons] at hsame
  simp only [ofEnvironment, numberIn, textIn, hsame]

/-! ### Agreement -/

/-- A text and an environment that say the same choice give the same settings, namely the choice
with defaults for what is left out; and of an environment nothing else matters. -/
theorem ofJson_agrees_ofEnvironment {choice : Choice} {text : String} {environment : Environment}
    (htext : choice.IsText text) (henvironment : choice.IsIn environment) :
    ofJson text = .ok choice.settings ∧ ofEnvironment environment = .ok choice.settings ∧
      ∀ one other : Environment, (∀ name ∈ knownVariables, one name = other name) →
        ofEnvironment one = ofEnvironment other :=
  ⟨ofJson_eq_settings htext, ofEnvironment_eq_settings henvironment, fun _ _ => ofEnvironment_congr⟩

/-- A port for the listener, a user name without a password and a number of milliseconds. -/
def partlySaid : Choice :=
  ⟨⟨none, some 2004⟩, ⟨none, none, some "guest", none⟩, some 250, none⟩

/-- A text that says it, with keys in another order, blanks, a letter by its number and a list under
a key that is not known. -/
def partlySaidText : String :=
  " \x7b\"poll_interval_ms\" :250,\"tags\":[1.5e3,null],\n" ++
    "\"webapp\":\x7b\"\\u0075sername\":\"guest\"\x7d,\"carbon\":\x7b\"port\":2004\x7d\x7d\n"

/-- An environment that says it, with a plus sign, a zero in front and one more variable. -/
def partlySaidEnvironment : Environment
  | "GRAPHITE_CARBON_PORT" => some "+2004"
  | "GRAPHITE_USERNAME" => some "guest"
  | "GRAPHITE_POLL_INTERVAL_MS" => some "0250"
  | "GRAPHITE_PORT" => some "none"
  | _ => none

theorem isWritten_partlySaidListener :
    partlySaid.listener.IsWritten "\x7b\"port\":2004\x7d".toList := by
  have hnone : IsGap [] := by decide
  have hkey : SpellsString "port" "\"port\"".toList := Json.spellsString_self (by decide)
  refine ⟨[("port", "2004".toList)],
    ⟨["\"port\":2004".toList], _, .cons (.mk hkey hnone hnone) .nil, .last hnone hnone, rfl⟩,
    .absent (by decide), .present rfl (by decide), ?_⟩
  intro member hmem hother
  obtain rfl := List.mem_singleton.1 hmem
  exact absurd (by decide) hother

theorem isWritten_partlySaidRender :
    partlySaid.render.IsWritten "\x7b\"\\u0075sername\":\"guest\"\x7d".toList := by
  have hnone : IsGap [] := by decide
  have hletter : Json.SpellsChar 'u' "\\u0075".toList :=
    .number (.mk (by decide : Json.IsHexDigit 0 '0') (by decide : Json.IsHexDigit 0 '0')
      (by decide : Json.IsHexDigit 7 '7') (by decide : Json.IsHexDigit 5 '5'))
  have hkey : SpellsString "username" "\"\\u0075sername\"".toList := by
    have hrest : Json.SpellsBody "sername".toList "sername".toList :=
      Json.spellsBody_self (by simp [Json.IsOrdinary])
    exact ⟨_, .cons hletter hrest, rfl⟩
  have hvalue : SpellsString "guest" "\"guest\"".toList := Json.spellsString_self (by decide)
  refine ⟨[("username", "\"guest\"".toList)],
    ⟨["\"\\u0075sername\":\"guest\"".toList], _, .cons (.mk hkey hnone hnone) .nil,
      .last hnone hnone, rfl⟩,
    .absent (by decide), .absent (by decide),
    ⟨some (some "guest"), rfl, .present rfl (.some hvalue)⟩, ⟨none, rfl, .absent (by decide)⟩, ?_⟩
  intro member hmem hother
  obtain rfl := List.mem_singleton.1 hmem
  exact absurd (by decide) hother

theorem isValue_partlySaidTags : IsValue "[1.5e3,null]".toList := by
  have hnone : IsGap [] := by decide
  have hnumber : IsValue "1.5e3".toList :=
    .number (.mk (List.mem_cons_self : [] ∈ [[], ['-']]) (by decide : Json.IsWhole ['1'])
      (.some (by decide : Decimal.IsDigits ['5']))
      (.some (Or.inl rfl) List.mem_cons_self (by decide : Decimal.IsDigits ['3'])))
  have hjoined : ∃ inner, Json.Joined ["1.5e3".toList, "null".toList] inner ∧
      '[' :: inner ++ [']'] = "[1.5e3,null]".toList :=
    ⟨_, .more hnone hnone (.last hnone hnone), rfl⟩
  obtain ⟨inner, hinner, htext⟩ := hjoined
  have hitems : ∀ item ∈ ["1.5e3".toList, "null".toList], IsValue item :=
    List.forall_mem_cons.2 ⟨hnumber, List.forall_mem_singleton.2 .null⟩
  exact htext ▸ .list hinner hitems

theorem isText_partlySaidText : partlySaid.IsText partlySaidText := by
  have hnone : IsGap [] := by decide
  have hspace : IsGap [' '] := by decide
  have hline : IsGap ['\n'] := by decide
  have hmilliseconds : SpellsString "poll_interval_ms" "\"poll_interval_ms\"".toList :=
    Json.spellsString_self (by decide)
  have htags : SpellsString "tags" "\"tags\"".toList := Json.spellsString_self (by decide)
  have hrender : SpellsString "webapp" "\"webapp\"".toList := Json.spellsString_self (by decide)
  have hlistener : SpellsString "carbon" "\"carbon\"".toList := Json.spellsString_self (by decide)
  let members : List (String × List Char) :=
    [("poll_interval_ms", ['2', '5', '0']), ("tags", "[1.5e3,null]".toList),
      ("webapp", "\x7b\"\\u0075sername\":\"guest\"\x7d".toList),
      ("carbon", "\x7b\"port\":2004\x7d".toList)]
  have hobject : ∃ object, IsObject SpellsString members object ∧
      partlySaidText.toList = [' '] ++ object ++ ['\n'] :=
    ⟨_, ⟨_, _, .cons (.mk hmilliseconds hspace hnone) (.cons (.mk htags hnone hnone)
        (.cons (.mk hrender hnone hnone) (.cons (.mk hlistener hnone hnone) .nil))),
      .more hnone hnone (.more hnone hnone (.more hline hnone (.last hnone hnone))), rfl⟩, rfl⟩
  obtain ⟨object, hobject, htext⟩ := hobject
  have hothers : OthersAreValues members
      ["carbon", "webapp", "poll_interval_ms", "request_timeout_ms"] := by
    intro member hmem hother
    simp only [members, List.mem_cons, List.not_mem_nil, or_false] at hmem
    rcases hmem with rfl | rfl | rfl | rfl
    · exact absurd (by decide) hother
    · exact isValue_partlySaidTags
    · exact absurd (by decide) hother
    · exact absurd (by decide) hother
  exact ⟨[' '], object, ['\n'], hspace, ⟨members, hobject,
    ⟨_, rfl, .present rfl isWritten_partlySaidListener⟩,
    ⟨_, rfl, .present rfl isWritten_partlySaidRender⟩,
    .present rfl (by decide), .absent rfl, hothers⟩, hline, htext⟩

theorem isIn_partlySaidEnvironment : partlySaid.IsIn partlySaidEnvironment where
  listenerHost := rfl
  listenerPort := .some (show Decimal.IsNumeral 2004 "+2004".toList from
    ⟨['+'], by decide, ['2', '0', '0', '4'], by decide, by decide, by decide⟩)
  renderHost := rfl
  renderPort := .none
  username := rfl
  password := rfl
  pollInterval := .some (show Decimal.IsNumeral 250 "0250".toList from
    ⟨[], by decide, ['0', '2', '5', '0'], by decide, by decide, by decide⟩)
  requestTimeout := .none

theorem partlySaid_agrees :
    partlySaid.IsText partlySaidText ∧ partlySaid.IsIn partlySaidEnvironment ∧
      ofJson partlySaidText =
        .ok ⟨⟨"localhost", 2004⟩, ⟨"localhost", 8080, some "guest", none⟩, 250, 30000⟩ ∧
      ofEnvironment partlySaidEnvironment =
        .ok ⟨⟨"localhost", 2004⟩, ⟨"localhost", 8080, some "guest", none⟩, 250, 30000⟩ := by
  have hagree := ofJson_agrees_ofEnvironment isText_partlySaidText isIn_partlySaidEnvironment
  exact ⟨isText_partlySaidText, isIn_partlySaidEnvironment, hagree.1, hagree.2.1⟩

end Settings

/-! ### Every choice can be said -/

theorem Settings.exists_spellsPort (port : UInt16) : ∃ text, SpellsNatural port.toNat text :=
  Json.exists_spellsNatural port.toNat

theorem Settings.exists_spellsMilliseconds (n : UInt64) : ∃ text, SpellsNatural n.toNat text :=
  Json.exists_spellsNatural n.toNat

theorem ListenerSettings.exists_isWritten (choice : ListenerSettings.Choice) :
    ∃ text, choice.IsWritten text := by
  obtain ⟨host, hhost⟩ := Json.exists_sets Json.exists_spellsString "host" choice.host
  obtain ⟨port, hport⟩ := Json.exists_sets Settings.exists_spellsPort "port" choice.port
  obtain ⟨text, htext⟩ := Json.exists_isObject (Json.offered [("host", host), ("port", port)])
  exact ⟨text, _, htext, hhost _ (by simp), hport _ (by simp), Json.othersAreValues_offered _⟩

theorem RenderSettings.exists_isWritten (choice : RenderSettings.Choice) :
    ∃ text, choice.IsWritten text := by
  obtain ⟨host, hhost⟩ := Json.exists_sets Json.exists_spellsString "host" choice.host
  obtain ⟨port, hport⟩ := Json.exists_sets Settings.exists_spellsPort "port" choice.port
  obtain ⟨username, husername⟩ :=
    Json.exists_sets Json.exists_spellsNullable "username" (some choice.username)
  obtain ⟨password, hpassword⟩ :=
    Json.exists_sets Json.exists_spellsNullable "password" (some choice.password)
  obtain ⟨text, htext⟩ := Json.exists_isObject (Json.offered
    [("host", host), ("port", port), ("username", username), ("password", password)])
  exact ⟨text, _, htext, hhost _ (by simp), hport _ (by simp), ⟨_, rfl, husername _ (by simp)⟩,
    ⟨_, rfl, hpassword _ (by simp)⟩, Json.othersAreValues_offered _⟩

namespace Settings

/-- Every choice is said by some text. -/
theorem exists_isText (choice : Choice) : ∃ text, choice.IsText text := by
  obtain ⟨listener, hlistener⟩ :=
    Json.exists_sets ListenerSettings.exists_isWritten "carbon" (some choice.listener)
  obtain ⟨render, hrender⟩ :=
    Json.exists_sets RenderSettings.exists_isWritten "webapp" (some choice.render)
  obtain ⟨pollInterval, hpollInterval⟩ :=
    Json.exists_sets exists_spellsMilliseconds "poll_interval_ms" choice.pollInterval
  obtain ⟨requestTimeout, hrequestTimeout⟩ :=
    Json.exists_sets exists_spellsMilliseconds "request_timeout_ms" choice.requestTimeout
  obtain ⟨text, htext⟩ := Json.exists_isObject (Json.offered
    [("carbon", listener), ("webapp", render), ("poll_interval_ms", pollInterval),
      ("request_timeout_ms", requestTimeout)])
  have hwritten : choice.IsWritten text :=
    ⟨_, htext, ⟨_, rfl, hlistener _ (by simp)⟩, ⟨_, rfl, hrender _ (by simp)⟩,
      hpollInterval _ (by simp), hrequestTimeout _ (by simp), Json.othersAreValues_offered _⟩
  exact ⟨String.ofList text, [], text, [], by decide, hwritten, by decide, by simp⟩

/-- A number as it stands in a variable. -/
def numeral (n : Nat) : String :=
  String.ofList (Decimal.digits n)

theorem rel_numeral {α : Type} (toNat : α → Nat) (held : Option α) :
    Option.Rel (fun n => HoldsNumber (toNat n)) held (held.map fun n => numeral (toNat n)) := by
  cases held with
  | none => exact .none
  | some n =>
    refine .some ?_
    show Decimal.IsNumeral (toNat n) (String.ofList (Decimal.digits (toNat n))).toList
    rw [String.toList_ofList]
    exact Decimal.isNumeral_digits _

/-- An environment that says a choice and nothing else. -/
def Choice.environment (choice : Choice) : Environment
  | "GRAPHITE_CARBON_HOST" => choice.listener.host
  | "GRAPHITE_CARBON_PORT" => choice.listener.port.map fun port => numeral port.toNat
  | "GRAPHITE_WEBAPP_HOST" => choice.render.host
  | "GRAPHITE_WEBAPP_PORT" => choice.render.port.map fun port => numeral port.toNat
  | "GRAPHITE_USERNAME" => choice.render.username
  | "GRAPHITE_PASSWORD" => choice.render.password
  | "GRAPHITE_POLL_INTERVAL_MS" => choice.pollInterval.map fun n => numeral n.toNat
  | "GRAPHITE_REQUEST_TIMEOUT_MS" => choice.requestTimeout.map fun n => numeral n.toNat
  | _ => none

/-- Every choice is said by some environment. -/
theorem isIn_environment (choice : Choice) : choice.IsIn choice.environment where
  listenerHost := rfl
  listenerPort := rel_numeral UInt16.toNat choice.listener.port
  renderHost := rfl
  renderPort := rel_numeral UInt16.toNat choice.render.port
  username := rfl
  password := rfl
  pollInterval := rel_numeral UInt64.toNat choice.pollInterval
  requestTimeout := rel_numeral UInt64.toNat choice.requestTimeout

end Settings

end MetricBridge
