/-
# What a list of options says

Options are taken from the left, and a name may come again. Two faults compete: a name that a read
does not know, and a value that cannot be used under its name. The first unknown name is told
before any value is looked at; among the values it is the first that cannot be used, even if a
later one of the same name could be. Where all names are known and all values can be used, the last
value of each name counts.

So the order of options matters only where a name comes again, or where something is wrong.
-/

import Mathlib
import MetricBridge.Window.Options

namespace MetricBridge.ReadOptions

open Time (Duration)

/-- The value that counts of those given under a name. -/
def lastValue? (name : String) (given : List (String × OptionValue)) : Option OptionValue :=
  (given.filter fun option => option.1 = name).getLast?.map Prod.snd

/-- The options are the last values of their names. -/
structure IsLastOf (options : ReadOptions) (given : List (String × OptionValue)) : Prop where
  start : (lastValue? startName given).mapM (momentOf startName) = .ok options.start
  stop : (lastValue? stopName given).mapM (momentOf stopName) = .ok options.stop
  lookBack : (lastValue? lookBackName given).mapM (durationOf lookBackName) = .ok options.lookBack

/-- The value cannot be used under its name, which is a known one, for a reason. -/
inductive IsUnusable : (option : String × OptionValue) → (fault : Fault) → Prop
  | moment {name : String} {value : OptionValue} {fault : Fault}
      (hname : name = startName ∨ name = stopName) (hvalue : momentOf name value = .error fault) :
      IsUnusable (name, value) fault
  | duration {value : OptionValue} {fault : Fault}
      (hvalue : durationOf lookBackName value = .error fault) :
      IsUnusable (lookBackName, value) fault

/-- Nothing is wrong with the value under its name. -/
def IsUsable (option : String × OptionValue) : Prop :=
  ∀ fault, ¬ IsUnusable option fault

/-- What becomes of a list of options. -/
inductive Gathers (given : List (String × OptionValue)) : Except Fault ReadOptions → Prop
  | unknown {before after : List (String × OptionValue)} {name : String} {value : OptionValue}
      (hgiven : given = before ++ (name, value) :: after)
      (hbefore : ∀ earlier ∈ before, earlier.1 ∈ names) (hunknown : name ∉ names) :
      Gathers given (.error (.unknownOption name))
  | unusable {before after : List (String × OptionValue)} {option : String × OptionValue}
      {fault : Fault} (hknown : ∀ option ∈ given, option.1 ∈ names)
      (hgiven : given = before ++ option :: after) (hbefore : ∀ earlier ∈ before, IsUsable earlier)
      (hunusable : IsUnusable option fault) : Gathers given (.error fault)
  | options {options : ReadOptions} (hknown : ∀ option ∈ given, option.1 ∈ names)
      (husable : ∀ option ∈ given, IsUsable option) (hlast : options.IsLastOf given) :
      Gathers given (.ok options)

variable {given : List (String × OptionValue)}

theorem IsLastOf.unique {options other : ReadOptions} (hlast : options.IsLastOf given)
    (hother : other.IsLastOf given) : options = other := by
  obtain ⟨start, stop, lookBack⟩ := options
  obtain rfl := Except.ok.inj (hlast.start.symm.trans hother.start)
  obtain rfl := Except.ok.inj (hlast.stop.symm.trans hother.stop)
  obtain rfl := Except.ok.inj (hlast.lookBack.symm.trans hother.lookBack)
  rfl

/-! ### One option -/

theorem insert_of_isUnusable {name : String} {value : OptionValue} {fault : Fault}
    (hunusable : IsUnusable (name, value) fault) (options : ReadOptions) :
    options.insert name value = .error fault := by
  cases hunusable with
  | moment hname hvalue =>
    rcases hname with rfl | rfl
    · rw [insert, if_pos rfl, hvalue, Except.map]
    · rw [insert, if_neg (by decide), if_pos rfl, hvalue, Except.map]
  | duration hvalue => rw [insert, if_neg (by decide), if_neg (by decide), hvalue, Except.map]

theorem exists_momentOf_of_isUsable {name : String} {value : OptionValue}
    (hname : name = startName ∨ name = stopName) (husable : IsUsable (name, value)) :
    ∃ moment, momentOf name value = .ok moment := by
  cases hvalue : momentOf name value with
  | error fault => exact absurd (.moment hname hvalue) (husable fault)
  | ok moment => exact ⟨moment, rfl⟩

theorem exists_durationOf_of_isUsable {value : OptionValue}
    (husable : IsUsable (lookBackName, value)) :
    ∃ duration, durationOf lookBackName value = .ok duration := by
  cases hvalue : durationOf lookBackName value with
  | error fault => exact absurd (.duration hvalue) (husable fault)
  | ok duration => exact ⟨duration, rfl⟩

theorem lastValue?_concat (name other : String) (value : OptionValue) :
    lastValue? name (given ++ [(other, value)]) =
      if other = name then some value else lastValue? name given := by
  by_cases hsame : other = name <;> simp [lastValue?, hsame]

/-- One more option of a known name replaces what was there under this name, and nothing else. -/
theorem IsLastOf.exists_insert {options : ReadOptions} {name : String} {value : OptionValue}
    (hlast : options.IsLastOf given) (hname : name ∈ names) (husable : IsUsable (name, value)) :
    ∃ next, options.insert name value = .ok next ∧ next.IsLastOf (given ++ [(name, value)]) := by
  have hcases : name = startName ∨ name = stopName ∨ name = lookBackName := by
    simpa [names] using hname
  rcases hcases with rfl | rfl | rfl
  · obtain ⟨moment, hmoment⟩ := exists_momentOf_of_isUsable (Or.inl rfl) husable
    refine ⟨{ options with start := some moment }, ?_, ?_, ?_, ?_⟩
    · rw [insert, if_pos rfl, hmoment, Except.map]
    · rw [lastValue?_concat, if_pos rfl, Option.mapM_some, hmoment]
      rfl
    · rw [lastValue?_concat, if_neg (by decide)]
      exact hlast.stop
    · rw [lastValue?_concat, if_neg (by decide)]
      exact hlast.lookBack
  · obtain ⟨moment, hmoment⟩ := exists_momentOf_of_isUsable (Or.inr rfl) husable
    refine ⟨{ options with stop := some moment }, ?_, ?_, ?_, ?_⟩
    · rw [insert, if_neg (by decide), if_pos rfl, hmoment, Except.map]
    · rw [lastValue?_concat, if_neg (by decide)]
      exact hlast.start
    · rw [lastValue?_concat, if_pos rfl, Option.mapM_some, hmoment]
      rfl
    · rw [lastValue?_concat, if_neg (by decide)]
      exact hlast.lookBack
  · obtain ⟨duration, hduration⟩ := exists_durationOf_of_isUsable husable
    refine ⟨{ options with lookBack := some duration }, ?_, ?_, ?_, ?_⟩
    · rw [insert, if_neg (by decide), if_neg (by decide), hduration, Except.map]
    · rw [lastValue?_concat, if_neg (by decide)]
      exact hlast.start
    · rw [lastValue?_concat, if_neg (by decide)]
      exact hlast.stop
    · rw [lastValue?_concat, if_pos rfl, Option.mapM_some, hduration]
      rfl

/-! ### All options -/

theorem insertAll_append (options : ReadOptions) (before after : List (String × OptionValue)) :
    options.insertAll (before ++ after) =
      (options.insertAll before).bind fun options => options.insertAll after := by
  induction before generalizing options with
  | nil => rfl
  | cons option rest ih =>
    rw [List.cons_append, insertAll, insertAll]
    cases options.insert option.1 option.2 with
    | error fault => rfl
    | ok options => exact ih options

/-- By induction on the list from its end, since the last value of a name replaces the others. -/
theorem exists_insertAll (hknown : ∀ option ∈ given, option.1 ∈ names)
    (husable : ∀ option ∈ given, IsUsable option) :
    ∃ options, none.insertAll given = .ok options ∧ options.IsLastOf given := by
  induction given using List.reverseRecOn with
  | nil => exact ⟨none, rfl, rfl, rfl, rfl⟩
  | append_singleton given option ih =>
    rw [List.forall_mem_append, List.forall_mem_singleton] at hknown husable
    obtain ⟨options, hinsertAll, hlast⟩ := ih hknown.1 husable.1
    obtain ⟨next, hinsert, hnext⟩ := hlast.exists_insert hknown.2 husable.2
    refine ⟨next, ?_, hnext⟩
    rw [insertAll_append, hinsertAll, Except.bind, insertAll, hinsert]
    rfl

theorem insertAll_of_first {before after : List (String × OptionValue)}
    {option : String × OptionValue} {fault : Fault} (hknown : ∀ earlier ∈ before, earlier.1 ∈ names)
    (hbefore : ∀ earlier ∈ before, IsUsable earlier) (hunusable : IsUnusable option fault) :
    none.insertAll (before ++ option :: after) = .error fault := by
  obtain ⟨options, hinsertAll, -⟩ := exists_insertAll hknown hbefore
  rw [insertAll_append, hinsertAll, Except.bind, insertAll, insert_of_isUnusable hunusable]

theorem ofList_of_known (hknown : ∀ option ∈ given, option.1 ∈ names) :
    ofList given = none.insertAll given := by
  have hunknown : unknown? given = .none := by
    rw [unknown?, Option.map_eq_none_iff, List.find?_eq_none]
    simpa using hknown
  rw [ofList, hunknown]

theorem ofList_of_unknown {before after : List (String × OptionValue)} {name : String}
    {value : OptionValue} (hbefore : ∀ earlier ∈ before, earlier.1 ∈ names)
    (hunknown : name ∉ names) :
    ofList (before ++ (name, value) :: after) = .error (.unknownOption name) := by
  have hfirst : unknown? (before ++ (name, value) :: after) = some name := by
    rw [unknown?, Option.map_eq_some_iff]
    refine ⟨(name, value), ?_, rfl⟩
    rw [List.find?_eq_some_iff_append]
    refine ⟨by simpa using hunknown, before, after, rfl, ?_⟩
    simpa using hbefore
  rw [ofList, hfirst]

theorem Gathers.ofList_eq {result : Except Fault ReadOptions} (hgathers : Gathers given result) :
    ofList given = result := by
  cases hgathers with
  | unknown hgiven hbefore hunknown =>
    rw [hgiven]
    exact ofList_of_unknown hbefore hunknown
  | unusable hknown hgiven hbefore hunusable =>
    rw [ofList_of_known hknown, hgiven]
    rw [hgiven, List.forall_mem_append] at hknown
    exact insertAll_of_first hknown.1 hbefore hunusable
  | options hknown husable hlast =>
    obtain ⟨other, hinsertAll, hother⟩ := exists_insertAll hknown husable
    rw [ofList_of_known hknown, hinsertAll, hlast.unique hother]

theorem isUsable_or_exists_first (given : List (String × OptionValue)) :
    (∀ option ∈ given, IsUsable option) ∨
      ∃ before option after fault, given = before ++ option :: after ∧
        (∀ earlier ∈ before, IsUsable earlier) ∧ IsUnusable option fault := by
  classical
  cases hfind : given.find? fun option => ¬ IsUsable option with
  | none => exact Or.inl (by simpa using List.find?_eq_none.1 hfind)
  | some option =>
    obtain ⟨hoption, before, after, hgiven, hbefore⟩ := List.find?_eq_some_iff_append.1 hfind
    obtain ⟨fault, hfault⟩ : ∃ fault, IsUnusable option fault := by
      simpa [IsUsable] using hoption
    exact Or.inr ⟨before, option, after, fault, hgiven, by simpa using hbefore, hfault⟩

theorem gathers_ofList (given : List (String × OptionValue)) : Gathers given (ofList given) := by
  cases hunknown : given.find? fun option => option.1 ∉ names with
  | some option =>
    obtain ⟨name, value⟩ := option
    obtain ⟨hname, before, after, rfl, hbefore⟩ := List.find?_eq_some_iff_append.1 hunknown
    rw [decide_eq_true_eq] at hname
    have hearlier : ∀ earlier ∈ before, earlier.1 ∈ names := by simpa using hbefore
    rw [ofList_of_unknown hearlier hname]
    exact .unknown rfl hearlier hname
  | none =>
    have hknown : ∀ option ∈ given, option.1 ∈ names := by
      simpa using List.find?_eq_none.1 hunknown
    rw [ofList_of_known hknown]
    rcases isUsable_or_exists_first given with
      husable | ⟨before, option, after, fault, rfl, hbefore, hunusable⟩
    · obtain ⟨options, hinsertAll, hlast⟩ := exists_insertAll hknown husable
      rw [hinsertAll]
      exact .options hknown husable hlast
    · rw [insertAll_of_first (List.forall_mem_append.1 hknown).1 hbefore hunusable]
      exact .unusable hknown rfl hbefore hunusable

theorem ofList_eq_iff {result : Except Fault ReadOptions} :
    ofList given = result ↔ Gathers given result := by
  constructor
  · rintro rfl
    exact gathers_ofList given
  · exact Gathers.ofList_eq

/-! ### The order of options -/

/-- Where no name comes twice, the value that counts is the only one. -/
theorem lastValue?_eq_some_iff (hdistinct : (given.map Prod.fst).Nodup) {name : String}
    {value : OptionValue} : lastValue? name given = some value ↔ (name, value) ∈ given := by
  rw [lastValue?, Option.map_eq_some_iff]
  constructor
  · rintro ⟨⟨other, _⟩, hlast, rfl⟩
    obtain ⟨hmem, hname⟩ := List.mem_filter.1 (List.mem_of_getLast? hlast)
    rw [decide_eq_true_eq] at hname
    exact hname ▸ hmem
  · intro hmem
    have hheld : (name, value) ∈ given.filter fun option => option.1 = name :=
      List.mem_filter.2 ⟨hmem, decide_eq_true rfl⟩
    obtain ⟨option, hlast⟩ := Option.isSome_iff_exists.1
      (List.getLast?_isSome.2 (List.ne_nil_of_mem hheld))
    obtain ⟨hoption, hname⟩ := List.mem_filter.1 (List.mem_of_getLast? hlast)
    rw [decide_eq_true_eq] at hname
    exact ⟨option, hlast, congrArg Prod.snd (List.inj_on_of_nodup_map hdistinct hoption hmem hname)⟩

theorem lastValue?_perm {other : List (String × OptionValue)} (hperm : given.Perm other)
    (hdistinct : (given.map Prod.fst).Nodup) (name : String) :
    lastValue? name given = lastValue? name other := by
  have hother : (other.map Prod.fst).Nodup := (hperm.map Prod.fst).nodup hdistinct
  ext value
  rw [lastValue?_eq_some_iff hdistinct, lastValue?_eq_some_iff hother, hperm.mem_iff]

/-- Options of which no two share a name say the same in any order. -/
theorem Gathers.perm {other : List (String × OptionValue)} {options : ReadOptions}
    (hgathers : Gathers given (.ok options)) (hperm : given.Perm other)
    (hdistinct : (given.map Prod.fst).Nodup) : Gathers other (.ok options) := by
  cases hgathers with
  | options hknown husable hlast =>
    refine .options ?_ ?_ ⟨?_, ?_, ?_⟩
    · exact fun option hmem => hknown option (hperm.mem_iff.2 hmem)
    · exact fun option hmem => husable option (hperm.mem_iff.2 hmem)
    · rw [← lastValue?_perm hperm hdistinct]
      exact hlast.start
    · rw [← lastValue?_perm hperm hdistinct]
      exact hlast.stop
    · rw [← lastValue?_perm hperm hdistinct]
      exact hlast.lookBack

/-! ### What is told of options -/

theorem isValidation_of_readDuration {option : String} {text : List Char} {fault : Fault}
    (hread : Window.readDuration option text = .error fault) : fault.isValidation = true := by
  unfold Window.readDuration at hread
  split at hread <;> cases hread
  rfl

theorem isValidation_of_readMoment {option : String} {text : List Char} {fault : Fault}
    (hread : Window.readMoment option text = .error fault) : fault.isValidation = true := by
  simp only [Window.readMoment] at hread
  split at hread
  next => cases hread
  next =>
    split at hread
    next => cases hread
    next =>
      split at hread
      next duration _ =>
        cases hduration : Window.readDuration option duration with
        | error other =>
          rw [hduration] at hread
          cases hread
          exact isValidation_of_readDuration hduration
        | ok duration =>
          rw [hduration] at hread
          cases hread
      next =>
        split at hread <;> cases hread
        rfl

theorem isValidation_of_momentOf {name : String} {value : OptionValue} {fault : Fault}
    (hvalue : momentOf name value = .error fault) : fault.isValidation = true := by
  unfold momentOf at hvalue
  split at hvalue
  next => exact isValidation_of_readMoment hvalue
  next => cases hvalue
  next =>
    cases hvalue
    rfl

theorem isValidation_of_durationOf {name : String} {value : OptionValue} {fault : Fault}
    (hvalue : durationOf name value = .error fault) : fault.isValidation = true := by
  unfold durationOf at hvalue
  split at hvalue
  next => exact isValidation_of_readDuration hvalue
  next => cases hvalue
  next =>
    cases hvalue
    rfl

/-- What is wrong with options is found before anything is sent. -/
theorem Gathers.isValidation {fault : Fault} (hgathers : Gathers given (.error fault)) :
    fault.isValidation = true := by
  cases hgathers with
  | unknown => rfl
  | unusable _ _ _ hunusable =>
    cases hunusable with
    | moment _ hvalue => exact isValidation_of_momentOf hvalue
    | duration hvalue => exact isValidation_of_durationOf hvalue

end MetricBridge.ReadOptions
