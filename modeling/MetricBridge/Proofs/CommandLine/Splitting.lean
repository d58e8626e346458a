/-
# Arguments are split as they were put together

Options with their values, and one selector somewhere among them, are found again when their
arguments are split, whatever the values look like. `Splits` tells the other lists of arguments as
well: every list begins with some options, and is at its end behind them, or breaks off in
the middle of an option, or goes on with an argument that names none. The first such argument is the
selector, and after it the list goes on in one of these three ways again.
-/

import Mathlib
import MetricBridge.CommandLine.Arguments

namespace MetricBridge.Arguments

/-- The argument begins with a dash, so it names an option. -/
def NamesOption (argument : String) : Prop :=
  ∃ name, argument = "-" ++ name

/-- Options as arguments: a dash and the name, and then the value. -/
def written (options : List (String × String)) : List String :=
  options.flatMap fun (name, value) => ["-" ++ name, value]

/-- What a list of arguments is split into. That there is no selector shows at the end only, and
that there is another one shows before what stands behind it is looked at. -/
inductive Splits : (arguments : List String) → Except UsageError Arguments → Prop
  | whole (before after : List (String × String)) {selector : String}
      (hselector : ¬ NamesOption selector) :
      Splits (written before ++ selector :: written after) (.ok ⟨before ++ after, selector⟩)
  | secondSelector (before between : List (String × String)) {first second : String}
      (hfirst : ¬ NamesOption first) (hsecond : ¬ NamesOption second) (rest : List String) :
      Splits (written before ++ first :: (written between ++ second :: rest))
        (.error .secondSelector)
  | missingValue (options : List (String × String)) (name : String) :
      Splits (written options ++ ["-" ++ name]) (.error (.missingValue name))
  | missingValueBehind (before after : List (String × String)) {selector : String}
      (hselector : ¬ NamesOption selector) (name : String) :
      Splits (written before ++ selector :: (written after ++ ["-" ++ name]))
        (.error (.missingValue name))
  | noSelector (options : List (String × String)) :
      Splits (written options) (.error .noSelector)

/-! ### What a list of arguments begins with -/

theorem optionName?_eq_some_iff {argument name : String} :
    optionName? argument = some name ↔ argument = "-" ++ name := by
  rw [← String.toList_inj, String.toList_append, optionName?]
  split
  next rest hrest =>
    rw [hrest, Option.some.injEq, ← String.toList_inj, String.toList_ofList]
    simp
  next hother =>
    simpa using hother name.toList

theorem optionName?_dash (name : String) : optionName? ("-" ++ name) = some name :=
  optionName?_eq_some_iff.2 rfl

theorem optionName?_eq_none {argument : String} (hargument : ¬ NamesOption argument) :
    optionName? argument = none :=
  Option.eq_none_iff_forall_ne_some.2 fun name hname =>
    hargument ⟨name, optionName?_eq_some_iff.1 hname⟩

theorem written_cons (name value : String) (options : List (String × String)) :
    written ((name, value) :: options) = ("-" ++ name) :: value :: written options := rfl

/-- A list of arguments behind the options that it begins with. -/
inductive Opening : List String → Prop
  | done (options : List (String × String)) : Opening (written options)
  | unfinished (options : List (String × String)) (name : String) :
      Opening (written options ++ ["-" ++ name])
  | selector (options : List (String × String)) {argument : String}
      (hargument : ¬ NamesOption argument) (rest : List String) :
      Opening (written options ++ argument :: rest)

theorem Opening.cons {arguments : List String} (hopening : Opening arguments)
    (name value : String) : Opening (("-" ++ name) :: value :: arguments) := by
  cases hopening with
  | done options => exact .done ((name, value) :: options)
  | unfinished options last => exact .unfinished ((name, value) :: options) last
  | selector options hargument rest => exact .selector ((name, value) :: options) hargument rest

theorem opening : ∀ arguments : List String, Opening arguments
  | [] => .done []
  | [argument] => by
    by_cases hargument : NamesOption argument
    · obtain ⟨name, rfl⟩ := hargument
      exact .unfinished [] name
    · exact .selector [] hargument []
  | argument :: value :: rest => by
    by_cases hargument : NamesOption argument
    · obtain ⟨name, rfl⟩ := hargument
      exact (opening rest).cons name value
    · exact .selector [] hargument (value :: rest)

theorem exists_splits (arguments : List String) : ∃ result, Splits arguments result := by
  cases opening arguments with
  | done options => exact ⟨_, .noSelector options⟩
  | unfinished options name => exact ⟨_, .missingValue options name⟩
  | selector before hselector rest =>
    cases opening rest with
    | done after => exact ⟨_, .whole before after hselector⟩
    | unfinished after name => exact ⟨_, .missingValueBehind before after hselector name⟩
    | selector between hsecond rest =>
      exact ⟨_, .secondSelector before between hselector hsecond rest⟩

/-! ### Splitting -/

section Scan

variable (found : Option String) (options : List (String × String))

theorem scan_option (name value : String) (rest : List String) :
    scan found (("-" ++ name) :: value :: rest) =
      (scan found rest).map fun (more, selector) => ((name, value) :: more, selector) := by
  rw [scan.eq_def]
  simp only [optionName?_dash]

theorem scan_unfinished (name : String) :
    scan found ["-" ++ name] = .error (.missingValue name) := by
  rw [scan.eq_def]
  simp only [optionName?_dash]

/-- Options are taken as they come, whether or not a selector was found before. -/
theorem scan_written (rest : List String) :
    scan found (written options ++ rest) =
      (scan found rest).map fun (more, selector) => (options ++ more, selector) := by
  induction options with
  | nil =>
    rw [written, List.flatMap_nil, List.nil_append]
    cases scan found rest <;> rfl
  | cons first others ih =>
    obtain ⟨name, value⟩ := first
    rw [written_cons, List.cons_append, List.cons_append, scan_option, ih]
    cases scan found rest <;> rfl

theorem scan_written_end : scan found (written options) = .ok (options, found) := by
  have hscan := scan_written found options []
  rw [List.append_nil] at hscan
  simp [hscan, scan, Except.map]

theorem scan_written_unfinished (name : String) :
    scan found (written options ++ ["-" ++ name]) = .error (.missingValue name) := by
  rw [scan_written, scan_unfinished]
  rfl

variable {argument : String} (hargument : ¬ NamesOption argument)

include hargument

theorem scan_selector (rest : List String) :
    scan none (written options ++ argument :: rest) =
      (scan (some argument) rest).map fun (more, selector) => (options ++ more, selector) := by
  rw [scan_written, scan, optionName?_eq_none hargument]

theorem scan_secondSelector (selector : String) (rest : List String) :
    scan (some selector) (written options ++ argument :: rest) = .error .secondSelector := by
  rw [scan_written, scan, optionName?_eq_none hargument]
  rfl

end Scan

theorem Splits.ofList_eq {arguments : List String} {result : Except UsageError Arguments}
    (hsplits : Splits arguments result) : ofList arguments = result := by
  cases hsplits with
  | whole before after hselector =>
    rw [ofList, scan_selector before hselector, scan_written_end]
    rfl
  | secondSelector before between hfirst hsecond rest =>
    rw [ofList, scan_selector before hfirst, scan_secondSelector between hsecond]
    rfl
  | missingValue options name => rw [ofList, scan_written_unfinished]
  | missingValueBehind before after hselector name =>
    rw [ofList, scan_selector before hselector, scan_written_unfinished]
    rfl
  | noSelector options => rw [ofList, scan_written_end]

theorem ofList_eq_iff {arguments : List String} {result : Except UsageError Arguments} :
    ofList arguments = result ↔ Splits arguments result := by
  constructor
  · rintro rfl
    obtain ⟨result, hsplits⟩ := exists_splits arguments
    rwa [hsplits.ofList_eq]
  · exact Splits.ofList_eq

/-! ### The usage -/

theorem head?_message_missingValue (name : String) :
    (UsageError.missingValue name).message.toList.head? = some 'm' := by
  have hmessage : (UsageError.missingValue name).message =
      "missing value for option -" ++ name := rfl
  have hfirst : "missing value for option -".toList.head? = some 'm' := by decide +kernel
  rw [hmessage, String.toList_append, List.head?_append, hfirst, Option.some_or]

/-- The usage is told for one reason: no other message has its first letter. -/
theorem message_eq_usage_iff {error : UsageError} :
    error.message = UsageError.noSelector.message ↔ error = .noSelector := by
  refine ⟨fun hmessage => ?_, fun herror => herror ▸ rfl⟩
  have hfirst : error.message.toList.head? = some 'u' := by
    rw [hmessage]
    decide +kernel
  clear hmessage
  cases error with
  | missingValue name =>
    rw [head?_message_missingValue, Option.some.injEq] at hfirst
    exact absurd hfirst (by decide)
  | secondSelector => exact absurd hfirst (by decide +kernel)
  | noSelector => rfl

/-- Arguments are split into options and a selector exactly if they are these options, written
in this order, with this selector somewhere among them; all other arguments are refused for what is
wrong with them. The usage is told exactly for arguments that are written options and nothing else. -/
theorem ofList_splits (arguments : List String) :
    (∀ result, ofList arguments = result ↔ Splits arguments result) ∧
    ((∃ error, ofList arguments = .error error ∧
        error.message = UsageError.noSelector.message) ↔
      ∃ options, arguments = written options) := by
  refine ⟨fun result => ofList_eq_iff, ?_⟩
  constructor
  · rintro ⟨error, hsplit, hmessage⟩
    rw [message_eq_usage_iff.1 hmessage, ofList_eq_iff] at hsplit
    cases hsplit with
    | noSelector options => exact ⟨options, rfl⟩
  · rintro ⟨options, rfl⟩
    exact ⟨.noSelector, ofList_eq_iff.2 (.noSelector options), rfl⟩

/-- The value of an option may look like an option or like a selector. -/
example : ofList ["-from", "-to", "name='m'", "-to", "name='n'"] =
    .ok ⟨[("from", "-to"), ("to", "name='n'")], "name='m'"⟩ := by
  decide +kernel

end MetricBridge.Arguments
