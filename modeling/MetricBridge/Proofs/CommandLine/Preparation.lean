/-
# What is told before anything is sent

A run splits its arguments, takes its settings from the environment, reads the selector and makes a
plan, in this order. Whatever is wrong ends it there: with a status that is not 0, without output
and without a request.

An option of an unknown name is meant to be told before anything that may be wrong with the
selector. A plan keeps to this. But a plan takes a selector that was read already, and so the run
keeps to it only for a selector that can be read: of words that cannot, it tells that first.
-/

import Mathlib
import MetricBridge.CommandLine.Run
import MetricBridge.Proofs.CommandLine.Splitting
import MetricBridge.Proofs.Read.Planning
import MetricBridge.Proofs.Settings.Agreement

namespace MetricBridge.CommandLine

open Time (Instant)

variable {arguments : List String} {environment : Settings.Environment} {clock : Instant}

/-! ### What a run is prepared for -/

/-- Everything that a run is given is in order, and says a plan and settings. -/
inductive IsInOrder (arguments : List String) (environment : Settings.Environment)
    (clock : Instant) (plan : Plan) (settings : Settings) : Prop
  | intro {said : Arguments} {choice : Settings.Choice} {options : ReadOptions}
      (harguments : Arguments.Splits arguments (.ok said))
      (henvironment : choice.IsIn environment) (hsettings : settings = choice.settings)
      (hselector : Selector.Written said.selector.toList (.equals plan.target) ∨
        Selector.Written said.selector.toList (.like plan.target))
      (hoptions : ReadOptions.Gathers said.optionValues (.ok options))
      (hrange : Window.Resolves clock.truncate options (.ok plan.range))

theorem prepare_of_arguments {said : Arguments} {settings : Settings}
    (harguments : Arguments.ofList arguments = .ok said)
    (henvironment : Settings.ofEnvironment environment = .ok settings) (clock : Instant) :
    prepare arguments environment clock =
      match Plan.ofStatement said.optionValues (.words said.selector) clock with
      | .error fault => .error (refused 1 (faultLine fault))
      | .ok plan => .ok (plan, settings) := by
  rw [prepare, harguments]
  cases hplan : Plan.ofStatement said.optionValues (.words said.selector) clock <;>
    simp only [henvironment, hplan]

theorem prepare_of_isInOrder {plan : Plan} {settings : Settings}
    (hinOrder : IsInOrder arguments environment clock plan settings) :
    prepare arguments environment clock = .ok (plan, settings) := by
  obtain ⟨harguments, henvironment, rfl, hselector, hoptions, hrange⟩ := hinOrder
  have hplan := Plan.ofStatement_words_eq_ok_iff.2
    ⟨hselector, _, hoptions, Window.resolve_eq_iff.2 hrange⟩
  rw [prepare_of_arguments harguments.ofList_eq (Settings.ofEnvironment_eq_settings henvironment),
    hplan]

/-- A run is prepared for what is in order, or is refused with a status that is not 0. -/
theorem prepare_cases (arguments : List String) (environment : Settings.Environment)
    (clock : Instant) :
    (∃ plan settings, IsInOrder arguments environment clock plan settings ∧
      prepare arguments environment clock = .ok (plan, settings)) ∨
    ∃ status message, status ≠ 0 ∧
      prepare arguments environment clock = .error (refused status message) := by
  cases harguments : Arguments.ofList arguments with
  | error error =>
    refine Or.inr ⟨2, error.message, by decide, ?_⟩
    rw [prepare, harguments]
  | ok said =>
    cases henvironment : Settings.ofEnvironment environment with
    | error fault =>
      refine Or.inr ⟨1, logLine ("Failed to load configuration: " ++ fault.message), by decide, ?_⟩
      rw [prepare, harguments]
      simp only [henvironment]
    | ok settings =>
      rw [prepare_of_arguments harguments henvironment]
      cases hplan : Plan.ofStatement said.optionValues (.words said.selector) clock with
      | error fault => exact Or.inr ⟨1, _, by decide, rfl⟩
      | ok plan =>
        obtain ⟨choice, hchoice, hsettings⟩ := Settings.ofEnvironment_eq_ok_iff.1 henvironment
        obtain ⟨hselector, options, hoptions, hresolve⟩ := Plan.ofStatement_words_eq_ok_iff.1 hplan
        exact Or.inl ⟨plan, settings, .intro (Arguments.ofList_eq_iff.1 harguments) hchoice
          hsettings hselector hoptions (Window.resolve_eq_iff.1 hresolve), rfl⟩

/-! ### Unknown options -/

/-- An unknown name stays the first one when the options are handed on as values. -/
theorem gathers_optionValues {said : Arguments} {before after : List (String × String)}
    {name value : String} (hoptions : said.options = before ++ (name, value) :: after)
    (hbefore : ∀ earlier ∈ before, earlier.1 ∈ ReadOptions.names)
    (hunknown : name ∉ ReadOptions.names) :
    ReadOptions.Gathers said.optionValues (.error (.unknownOption name)) := by
  rw [Arguments.optionValues, hoptions, List.map_append, List.map_cons]
  refine .unknown rfl ?_ hunknown
  intro earlier hmem
  obtain ⟨given, hgiven, rfl⟩ := List.mem_map.1 hmem
  exact hbefore given hgiven

/-- The line about an unknown option is not the one about a selector, for it has another code. -/
theorem faultLine_unknownOption_ne (name : String) :
    faultLine (.unknownOption name) ≠ faultLine .invalidFilter := by
  intro hsame
  have hlast := congrArg (fun line => line.toList.reverse[1]?) hsame
  simp [faultLine, Fault.code] at hlast

theorem run?_of_fault {sink : Sink} {client : Render.Client} {said : Arguments}
    {settings : Settings} {fault : Fault} (harguments : Arguments.ofList arguments = .ok said)
    (henvironment : Settings.ofEnvironment environment = .ok settings)
    (hplan : Plan.ofStatement said.optionValues (.words said.selector) clock = .error fault) :
    run? sink arguments environment clock client = some (refused 1 (faultLine fault)) := by
  rw [run?, prepare_of_arguments harguments henvironment, hplan]

/-- Let the arguments name an option that a read does not know, and no such option before it. A run
tells this option exactly if its selector can be read, whatever it says. Otherwise it
tells that the selector cannot. -/
theorem unknownOption_told_iff {said : Arguments} {settings : Settings}
    {before after : List (String × String)} {name value : String}
    (harguments : Arguments.ofList arguments = .ok said)
    (henvironment : Settings.ofEnvironment environment = .ok settings)
    (hoptions : said.options = before ++ (name, value) :: after)
    (hbefore : ∀ earlier ∈ before, earlier.1 ∈ ReadOptions.names)
    (hunknown : name ∉ ReadOptions.names) (sink : Sink) (clock : Instant)
    (client : Render.Client) :
    let outcome := run? sink arguments environment clock client
    (outcome = some (refused 1 (faultLine (.unknownOption name))) ↔
      ∃ selector, Selector.read said.selector = .ok selector) ∧
    (outcome = some (refused 1 (faultLine .invalidFilter)) ↔
      ¬ ∃ selector, Selector.read said.selector = .ok selector) := by
  intro outcome
  have hdistinct : refused 1 (faultLine (.unknownOption name)) ≠
      refused 1 (faultLine .invalidFilter) := by
    intro hsame
    exact faultLine_unknownOption_ne name (by simpa [refused] using hsame)
  cases hread : Selector.read said.selector with
  | ok selector =>
    have htold : outcome = some (refused 1 (faultLine (.unknownOption name))) := by
      apply run?_of_fault harguments henvironment
      rw [Plan.ofStatement_words_of_ok hread, Plan.make_eq_iff]
      exact .options (gathers_optionValues hoptions hbefore hunknown)
    simp [htold, hdistinct]
  | error fault =>
    have htold : outcome = some (refused 1 (faultLine .invalidFilter)) :=
      run?_of_fault harguments henvironment (Plan.ofStatement_words_of_error hread _ _)
    simp [htold, hdistinct.symm]

/-- An unknown option before a selector that can be read. -/
theorem unknownOption_told_beforeSelector :
    let arguments := ["-bogus", "1", "name='m'"]
    run? Sink.unlimited arguments (fun _ => none) .epoch Render.Network.silent =
      some (refused 1 (faultLine (.unknownOption "bogus"))) := by
  intro arguments
  have harguments : Arguments.ofList arguments = .ok ⟨[("bogus", "1")], "name='m'"⟩ := by
    decide +kernel
  have henvironment : Settings.ofEnvironment (fun _ => none) = .ok Settings.standard := by
    decide +kernel
  have hwritten : Selector.Written "name='m'".toList (.equals "m") :=
    Selector.written_equals ['m'] (by simp) (by simp)
  have hoptions : [("bogus", "1")] = [] ++ ("bogus", "1") :: [] := rfl
  obtain ⟨htold, -⟩ := unknownOption_told_iff harguments henvironment hoptions (by simp) (by decide)
    Sink.unlimited .epoch Render.Network.silent
  refine htold.2 ?_
  have hread := Selector.read_bind_constraint_eq_ok_iff.2 hwritten
  cases hselector : Selector.read "name='m'" with
  | ok selector => exact ⟨selector, rfl⟩
  | error fault =>
    rw [hselector] at hread
    cases hread

/-- An unknown option that is not told, since the selector opens a quote and does not close it. -/
theorem unknownOption_untold_openQuote :
    let arguments := ["-bogus", "1", "name=\""]
    let outcome := run? Sink.unlimited arguments (fun _ => none) .epoch Render.Network.silent
    Arguments.ofList arguments = .ok ⟨[("bogus", "1")], "name=\""⟩ ∧
      "bogus" ∉ ReadOptions.names ∧ Settings.ofEnvironment (fun _ => none) = .ok Settings.standard ∧
      outcome = some (refused 1 (faultLine .invalidFilter)) ∧
      outcome ≠ some (refused 1 (faultLine (.unknownOption "bogus"))) := by
  intro arguments outcome
  have harguments : Arguments.ofList arguments = .ok ⟨[("bogus", "1")], "name=\""⟩ := by
    decide +kernel
  have henvironment : Settings.ofEnvironment (fun _ => none) = .ok Settings.standard := by
    decide +kernel
  have hunary : Selector.plain (Selector.unary? "name=\"".toList) = none := by
    refine (Selector.plain_unary?_nameField ['=', '"']).trans ?_
    decide +kernel
  have htold : outcome = some (refused 1 (faultLine .invalidFilter)) :=
    run?_of_fault harguments henvironment
      (Plan.ofStatement_words_of_error (Selector.read_eq_error_of_unary? hunary) _ _)
  refine ⟨harguments, by decide, henvironment, htold, ?_⟩
  rw [htold]
  intro hsame
  exact faultLine_unknownOption_ne "bogus" (by simpa [refused] using hsame.symm)

end MetricBridge.CommandLine
