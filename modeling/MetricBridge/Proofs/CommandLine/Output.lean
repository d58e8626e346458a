/-
# What a run of a bounded read writes

A run writes all that it was asked for or nothing. It succeeds exactly if everything that it was
given is in order and the window is empty or its request is answered, successfully and with a
body that says series whose data can all be used. Then its output is the table of the data that lie
in the window. However else it ends, not even the header of the table is written.

What the body says is told by the grammar of series, and what the output says by a reader of
comma-separated values. The client is any: it names the hosts, answers the requests and finds the
texts of answers as it likes. The output takes every text.
-/

import Mathlib
import MetricBridge.Proofs.CommandLine.Preparation
import MetricBridge.Proofs.Export.Records
import MetricBridge.Proofs.Read.Exact
import MetricBridge.Proofs.Series.Bodies

namespace MetricBridge.CommandLine

open Render (Answer Client Endpoint Network Request)
open Time (Instant)

/-! ### What is served for a query -/

section Serving

variable {settings : Settings} {client : Client} {query : Query}

/-- What is asked for a query: below the host and port of the settings, which have to make the
address of a web page, the path `render` with the parameters of the query. -/
inductive Asks (settings : Settings) (naming : Url.Naming) (query : Query) :
    (request : Request) → Prop
  | intro {url : Url}
      (hurl : Url.read? naming ("http://" ++ settings.render.host ++ ":" ++
        toString settings.render.port ++ "/render") = some url)
      (hhost : url.hasHost = true) (hscheme : url.scheme = "http" ∨ url.scheme = "https") :
      Asks settings naming query
        ⟨url.addQuery (Render.params query), (endpointOf settings).authorization?⟩

/-- The data with which a query is served: none for an empty window, for which nothing is asked,
and otherwise those of a successful answer if all of them can be used. -/
inductive Serves (settings : Settings) (client : Client) (query : Query) : List Datum → Prop
  | unasked {start : Instant} (hstart : query.window.start = some start)
      (hempty : query.window.stop ≤ start) : Serves settings client query []
  | answered {request : Request} {answer : Answer} {body : String} {series : List Series}
      (hwindow : ∀ start ∈ query.window.start, start < query.window.stop)
      (hasks : Asks settings client.naming query request)
      (hanswer : client.network request = some answer)
      (hsuccess : 200 ≤ answer.status ∧ answer.status < 300)
      (htext : client.text answer = .ok body) (hbody : Series.IsBody series body)
      (husable : ∀ datum ∈ Series.dataOf series, datum.IsUsable) :
      Serves settings client query (Series.dataOf series)

/-- The base ends in a digit of its port and not in a slash. -/
theorem trimmedBase_endpointOf (settings : Settings) :
    (endpointOf settings).trimmedBase = settings.render.baseUrl.toList := by
  have hport : (toString settings.render.port).toList = Decimal.digits settings.render.port := by
    simp [toString, Nat.repr, Decimal.digits]
  obtain ⟨front, last, hdigits⟩ := (List.eq_nil_or_concat' _).resolve_left
    (Decimal.digits_ne_nil settings.render.port)
  have hlast : last ≠ '/' := by
    have hdigit : last.isDigit = true :=
      (Decimal.isDigits_digits settings.render.port).2 last (hdigits ▸ by simp)
    rintro rfl
    cases hdigit
  show (settings.render.baseUrl.toList.reverse.dropWhile _).reverse = _
  rw [RenderSettings.baseUrl, String.toList_append, hport, hdigits]
  simp [hlast]

theorem address_endpointOf (settings : Settings) :
    (endpointOf settings).address = "http://" ++ settings.render.host ++ ":" ++
      toString settings.render.port ++ "/render" := by
  rw [Endpoint.address, trimmedBase_endpointOf, String.ofList_append, String.ofList_toList,
    String.ofList_toList]
  rfl

theorem request_eq_ok_iff {naming : Url.Naming} {request : Request} :
    (endpointOf settings).request naming query = .ok request ↔
      Asks settings naming query request := by
  have haddress := address_endpointOf settings
  rw [Endpoint.request, haddress]
  constructor
  · intro hrequest
    split at hrequest
    · cases hrequest
    next url hurl =>
      simp only at hrequest
      split_ifs at hrequest with hhost hscheme
      cases hrequest
      exact .intro hurl hhost hscheme
  · rintro ⟨hurl, hhost, hscheme⟩
    simp only [hurl, if_pos hhost, if_pos hscheme]

theorem load_eq_ok_iff {exchange : Render.Exchange} {series : List Series} :
    ((endpointOf settings).load client query exchange).1 = .ok series ↔
      ∃ request answer body, Asks settings client.naming query request ∧
        client.network request = some answer ∧ (200 ≤ answer.status ∧ answer.status < 300) ∧
        client.text answer = .ok body ∧ Series.IsBody series body := by
  simp only [← request_eq_ok_iff, ← Series.ofBody_eq_ok_iff]
  rw [Endpoint.load]
  cases (endpointOf settings).request client.naming query with
  | error fault => simp
  | ok request =>
    cases hanswer : client.network request with
    | none => simp [hanswer]
    | some answer =>
      have hsuccess : Render.isSuccess answer.status = true ↔
          200 ≤ answer.status ∧ answer.status < 300 := by
        simp [Render.isSuccess]
      cases htext : client.text answer <;>
        by_cases hstatus : Render.isSuccess answer.status = true <;>
          simp_all [Answer.series]

theorem Serves.exists_load {data : List Datum} (hserves : Serves settings client query data)
    (hwindow : ∀ start ∈ query.window.start, start < query.window.stop)
    (exchange : Render.Exchange) :
    ∃ series, ((endpointOf settings).load client query exchange).1 = .ok series ∧
      data = Series.dataOf series ∧ ∀ datum ∈ data, datum.IsUsable := by
  cases hserves with
  | unasked hstart hempty => exact absurd (hwindow _ hstart) (not_lt.2 hempty)
  | answered _ hasks hanswer hsuccess htext hbody husable =>
    exact ⟨_, load_eq_ok_iff.2 ⟨_, _, _, hasks, hanswer, hsuccess, htext, hbody⟩, rfl, husable⟩

theorem Serves.unique {data other : List Datum} (hserves : Serves settings client query data)
    (hother : Serves settings client query other) : other = data := by
  cases hserves with
  | unasked hstart hempty =>
    cases hother with
    | unasked => rfl
    | answered hwindow => exact absurd (hwindow _ hstart) (not_lt.2 hempty)
  | answered hwindow hasks hanswer hsuccess htext hbody husable =>
    obtain ⟨series, hload, rfl, -⟩ := hother.exists_load hwindow ⟨[]⟩
    have hsame : ((endpointOf settings).load client query ⟨[]⟩).1 = .ok _ :=
      load_eq_ok_iff.2 ⟨_, _, _, hasks, hanswer, hsuccess, htext, hbody⟩
    exact congrArg Series.dataOf (Except.ok.inj (hload.symm.trans hsame))

/-- The output tells the data that lie in a window: their points, each as often as it is among the
data, by time and then by name. -/
inductive Tells (window : Interval) (data : List Datum) : (output : String) → Prop
  | intro {points : List Point} {output : String}
      (hperm : points.Perm ((data.filterMap Datum.point?).filter fun point =>
        (∀ start ∈ window.start, start < point.time) ∧ point.time ≤ window.stop))
      (hordered : points.Pairwise fun a b =>
        a.time < b.time ∨ (a.time = b.time ∧ a.name ≤ b.name))
      (houtput : output = Point.sheet points) (htold : Point.AreTold points output) :
      Tells window data output

theorem finish_of_points (points : List Point) (requests : List Render.Request) :
    finish Sink.unlimited (points.map .ok) requests =
      ⟨0, Point.sheet points, [], requests⟩ := by
  rw [finish, Table.ofItems_of_points]
  simp [Sink.result, Sink.written, Sink.takes, Sink.unlimited]

theorem finish_of_fault (fault : Fault) (requests : List Render.Request) :
    finish Sink.unlimited [.error fault] requests = ⟨1, "", [faultLine fault], requests⟩ := by
  rw [finish, Table.ofItems_of_fault]
  rfl

/-- A read of a window tells the data that it is served with. If it is served with none, it
writes nothing. -/
theorem readWindow_cases (settings : Settings) (client : Client) (query : Query) :
    let outcome := readWindow Sink.unlimited (endpointOf settings) client query
    (∃ data, Serves settings client query data ∧ outcome.status = 0 ∧
      Tells query.window data outcome.output) ∨
    (¬ ∃ data, Serves settings client query data) ∧ outcome.status ≠ 0 ∧ outcome.output = "" := by
  intro outcome
  let source := (endpointOf settings).load client
  obtain ⟨queries, hdue, -⟩ := exists_due_run source query ⟨[]⟩
  rw [fst_run_logged] at hdue
  obtain ⟨requests, houtcome⟩ : ∃ requests, outcome = finish Sink.unlimited
      (BoundedRead.itemsOf (query.run source ⟨[]⟩).1) requests := ⟨_, rfl⟩
  generalize BoundedRead.itemsOf (query.run source ⟨[]⟩).1 = items at hdue houtcome
  generalize hanswer : (source query ⟨[]⟩).1 = answer at hdue
  cases hdue with
  | nothing hstart hempty =>
    rw [houtcome]
    exact Or.inl ⟨[], .unasked hstart hempty, rfl,
      .intro .rfl .nil rfl (Point.areTold_sheet [])⟩
  | failed hwindow =>
    refine Or.inr ⟨?_, ?_⟩
    · rintro ⟨data, hserves⟩
      obtain ⟨series, hload, -⟩ := hserves.exists_load hwindow ⟨[]⟩
      rw [hanswer] at hload
      cases hload
    · rw [houtcome, finish_of_fault]
      exact ⟨Nat.one_ne_zero, rfl⟩
  | unusable hwindow hdata hfirst hunusable hfault =>
    refine Or.inr ⟨?_, ?_⟩
    · rintro ⟨data, hserves⟩
      obtain ⟨series, hload, rfl, husable⟩ := hserves.exists_load hwindow ⟨[]⟩
      obtain rfl := Except.ok.inj (hanswer.symm.trans hload)
      rw [hdata] at husable
      exact hunusable (husable _ (List.mem_append_right _ List.mem_cons_self))
    · rw [houtcome, finish_of_fault]
      exact ⟨Nat.one_ne_zero, rfl⟩
  | points hwindow husable hperm hordered =>
    obtain ⟨request, answered, body, hasks, hanswered, hsuccess, htext, hbody⟩ :=
      load_eq_ok_iff.1 hanswer
    rw [houtcome, finish_of_points]
    exact Or.inl ⟨_, .answered hwindow hasks hanswered hsuccess htext hbody husable, rfl,
      .intro hperm hordered rfl (Point.areTold_sheet _)⟩

end Serving

/-! ### The whole run -/

variable {arguments : List String} {environment : Settings.Environment} {clock : Instant}
  {client : Client}

/-- The options of the arguments do not ask for a read without an end. Options that are not valid
ask for nothing. -/
def IsBounded (arguments : List String) (clock : Instant) : Prop :=
  ∀ ⦃said : Arguments⦄ ⦃options : ReadOptions⦄ ⦃range : Range⦄,
    Arguments.Splits arguments (.ok said) → ReadOptions.Gathers said.optionValues (.ok options) →
      Window.Resolves clock.truncate options (.ok range) → range.stop ≠ .live

/-- Everything that a run is given is in order, it asks for a window, and it is served with these
data. -/
inductive IsServed (arguments : List String) (environment : Settings.Environment)
    (clock : Instant) (client : Client) : (window : Interval) → (data : List Datum) → Prop
  | intro {plan : Plan} {settings : Settings} {window : Interval} {data : List Datum}
      (hinOrder : IsInOrder arguments environment clock plan settings)
      (hwindow : plan.range = ⟨window.start, .bounded window.stop⟩)
      (hserves : Serves settings client ⟨plan.target, window⟩ data) :
      IsServed arguments environment clock client window data

theorem exists_window {range : Range} (hbounded : range.stop ≠ .live) :
    ∃ window : Interval, range = ⟨window.start, .bounded window.stop⟩ := by
  obtain ⟨start, stop⟩ := range
  cases stop with
  | bounded stop => exact ⟨⟨start, stop⟩, rfl⟩
  | live => exact absurd rfl hbounded

theorem IsInOrder.unique {plan other : Plan} {settings others : Settings}
    (hinOrder : IsInOrder arguments environment clock plan settings)
    (hother : IsInOrder arguments environment clock other others) :
    other = plan ∧ others = settings := by
  have hsame := (prepare_of_isInOrder hother).symm.trans (prepare_of_isInOrder hinOrder)
  exact Prod.mk.inj (Except.ok.inj hsame)

theorem IsInOrder.isServed_iff {plan : Plan} {settings : Settings} {window other : Interval}
    {data : List Datum} (hinOrder : IsInOrder arguments environment clock plan settings)
    (hwindow : plan.range = ⟨window.start, .bounded window.stop⟩) :
    IsServed arguments environment clock client other data ↔
      other = window ∧ Serves settings client ⟨plan.target, window⟩ data := by
  constructor
  · rintro ⟨hotherOrder, hotherWindow, hserves⟩
    obtain ⟨rfl, rfl⟩ := hinOrder.unique hotherOrder
    have hsame := hotherWindow.symm.trans hwindow
    obtain ⟨hstart, hstop⟩ := Range.mk.inj hsame
    obtain rfl : other = window :=
      congrArg₂ Interval.mk hstart (RangeEnd.bounded.inj hstop)
    exact ⟨rfl, hserves⟩
  · rintro ⟨rfl, hserves⟩
    exact .intro hinOrder hwindow hserves

theorem IsInOrder.run?_eq {plan : Plan} {settings : Settings} {window : Interval}
    (hinOrder : IsInOrder arguments environment clock plan settings)
    (hwindow : plan.range = ⟨window.start, .bounded window.stop⟩) (sink : Sink)
    (client : Client) :
    run? sink arguments environment clock client =
      some (readWindow sink (endpointOf settings) client ⟨plan.target, window⟩) := by
  rw [run?, prepare_of_isInOrder hinOrder]
  simp only [hwindow, Range.interval?, Option.map_some]

/-- The tenth minute. -/
def tenthMinute : Instant := ⟨600, 0, by decide, by decide⟩

/-- Arguments that ask for the ten minutes after the epoch. -/
def tenMinutes : List String :=
  ["-from", "1970-01-01T00:00:00Z", "-to", "1970-01-01T00:10:00Z", "name='m'"]

/-- What they say. -/
def tenMinutesSaid : Arguments :=
  ⟨[("from", "1970-01-01T00:00:00Z"), ("to", "1970-01-01T00:10:00Z")], "name='m'"⟩

theorem ofList_tenMinutes : Arguments.ofList tenMinutes = .ok tenMinutesSaid := by decide +kernel

theorem ofList_tenMinutesSaid : ReadOptions.ofList tenMinutesSaid.optionValues =
    .ok ⟨some (.fixed .epoch), some (.fixed tenthMinute), none⟩ := by
  decide +kernel

theorem resolve_tenMinutes :
    ReadOptions.resolve ⟨some (.fixed .epoch), some (.fixed tenthMinute), none⟩ .epoch =
      .ok ⟨some .epoch, .bounded tenthMinute⟩ := by
  decide +kernel

theorem isInOrder_tenMinutes : IsInOrder tenMinutes (fun _ => none) .epoch
    ⟨"m", ⟨some .epoch, .bounded tenthMinute⟩⟩ Settings.standard := by
  obtain ⟨choice, hchoice, hsettings⟩ := Settings.ofEnvironment_eq_ok_iff.1
    (show Settings.ofEnvironment (fun _ => none) = .ok Settings.standard by decide +kernel)
  have hwritten : Selector.Written "name='m'".toList (.equals "m") :=
    Selector.written_equals ['m'] (by simp) (by simp)
  exact .intro (Arguments.ofList_eq_iff.1 ofList_tenMinutes) hchoice hsettings (Or.inl hwritten)
    (ReadOptions.ofList_eq_iff.1 ofList_tenMinutesSaid)
    (Window.resolve_eq_iff.1 resolve_tenMinutes)

/-- A series with one sample at the first minute, and none at the second. -/
def oneSampleBody : String :=
  "[\x7b\"target\":\"m\",\"datapoints\":[[1,60],[null,120]]\x7d]"

/-- The answer that has this series. -/
def oneSampleAnswer : Answer := ⟨200, Utf8.encode oneSampleBody.toList⟩

/-- A network that has this answer for all requests. -/
def oneSample : Network := fun _ => some oneSampleAnswer

theorem serves_oneSample : Serves Settings.standard oneSample ⟨"m", ⟨some .epoch, tenthMinute⟩⟩
    [⟨"m", .ofInt 1, .ofInt 60⟩] := by
  obtain ⟨request, hrequest⟩ : ∃ request, (endpointOf Settings.standard).request
      (oneSample : Client).naming ⟨"m", ⟨some .epoch, tenthMinute⟩⟩ = .ok request := ⟨_, rfl⟩
  have hbody : Series.ofBody oneSampleBody =
      .ok [⟨"m", [(some (.ofInt 1), .ofInt 60), (none, .ofInt 120)]⟩] := by
    decide +kernel
  have hanswer : (oneSample : Client).network request = some oneSampleAnswer := rfl
  have htext : (oneSample : Client).text oneSampleAnswer = .ok oneSampleBody := by decide +kernel
  refine .answered (by decide +kernel) (request_eq_ok_iff.1 hrequest) hanswer (by decide) htext
    (Series.ofBody_eq_ok_iff.1 hbody) ?_
  intro datum hmem
  rw [List.mem_singleton.1 hmem]
  exact ⟨60, by decide +kernel⟩

end MetricBridge.CommandLine
