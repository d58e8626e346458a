/-
# Arguments

An argument that begins with a dash names an option and takes the next argument, whatever
that is, as its value. Any other argument is the selector, of which there has to be exactly
one. The first offence from the left is told; that there is no selector shows only at the
end.
-/

import MetricBridge.Window.Options

namespace MetricBridge

/-- What the arguments of the program say. -/
structure Arguments where
  /-- Names of options, without their dash, and values, in order. -/
  options : List (String × String)
  /-- The selector in words. -/
  selector : String
  deriving DecidableEq

/-- What is wrong with the arguments. -/
inductive UsageError where
  | missingValue (name : String)
  | secondSelector
  | noSelector
  deriving DecidableEq

namespace UsageError

/-- The wording of each error. -/
def message : UsageError → String
  | missingValue name => "missing value for option -" ++ name
  | secondSelector => "only one filter expression may be given"
  | noSelector =>
    "usage: graphite_adapter [-from <time>] [-to <time>|:end:] [-last <duration>] <filter>"

end UsageError

namespace Arguments

/-- The name of an option in an argument that names one. -/
def optionName? (argument : String) : Option String :=
  match argument.toList with
  | '-' :: name => some (String.ofList name)
  | _ => none

/-- The options and the selector in some arguments, of which `selector` came before. -/
def scan (selector : Option String) :
    List String → Except UsageError (List (String × String) × Option String)
  | [] => .ok ([], selector)
  | argument :: rest =>
    match optionName? argument with
    | some name =>
      match rest with
      | [] => .error (.missingValue name)
      | value :: rest =>
        (scan selector rest).map fun (options, selector) => ((name, value) :: options, selector)
    | none =>
      match selector with
      | some _ => .error .secondSelector
      | none => scan (some argument) rest

/-- What a list of arguments says. -/
def ofList (arguments : List String) : Except UsageError Arguments :=
  match scan none arguments with
  | .error error => .error error
  | .ok (_, none) => .error .noSelector
  | .ok (options, some selector) => .ok ⟨options, selector⟩

/-- The options as values of a read. -/
def optionValues (arguments : Arguments) : List (String × OptionValue) :=
  arguments.options.map fun (name, value) => (name, .text value)

end Arguments

end MetricBridge
