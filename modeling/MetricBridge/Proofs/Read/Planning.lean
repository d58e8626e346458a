/-
# Which plan a read has, and which fault is told

Options, selector and range are looked at in this order, and whatever is wrong first is told. So the
options decide alone as long as something is wrong with them; a selector that is no constraint is
told whatever the range would be; and only then the options are resolved.

A plan does not depend on the order of options of which no two share a name. A fault does: of two
values that cannot be used, the one given first is told.
-/

import Mathlib
import MetricBridge.Proofs.Selector.Constraint
import MetricBridge.Proofs.Window.Gathering
import MetricBridge.Proofs.Window.Resolution
import MetricBridge.Read.Plan

namespace MetricBridge

open Time (Instant)

/-! ### Selectors -/

/-- The selector is one comparison of the name, for equality with a text or likeness to it. -/
inductive Selector.AsksFor (target : String) : Selector → Prop
  | equal (hsome : target ≠ "") : AsksFor target (.compare nameField .equal (.text target))
  | like (hsome : target ≠ "") : AsksFor target (.compare nameField .like (.text target))

namespace Plan

theorem targetOf_of_asksFor {selector : Selector} {target : String}
    (hasks : selector.AsksFor target) : targetOf (some selector) = .ok target := by
  cases hasks with
  | equal hsome =>
    rw [targetOf, Selector.constraint_eq_ok_iff.2 ⟨_, _, rfl, hsome, Or.inl ⟨rfl, rfl⟩⟩]
    rfl
  | like hsome =>
    rw [targetOf, Selector.constraint_eq_ok_iff.2 ⟨_, _, rfl, hsome, Or.inr ⟨rfl, rfl⟩⟩]
    rfl

/-- A selector has a target, or there is only one thing to tell about it. -/
theorem targetOf_cases (selector : Option Selector) :
    (∃ inner target, selector = some inner ∧ inner.AsksFor target) ∨
      targetOf selector = .error .invalidFilter := by
  cases selector with
  | none => exact Or.inr rfl
  | some inner =>
    cases hconstraint : inner.constraint with
    | error fault =>
      obtain rfl := Selector.eq_invalidFilter_of_constraint hconstraint
      rw [targetOf, hconstraint]
      exact Or.inr rfl
    | ok constraint =>
      obtain ⟨_, content, rfl, hsome, ⟨rfl, -⟩ | ⟨rfl, -⟩⟩ :=
        Selector.constraint_eq_ok_iff.1 hconstraint
      · exact Or.inl ⟨_, content, rfl, .equal hsome⟩
      · exact Or.inl ⟨_, content, rfl, .like hsome⟩

/-! ### Plans -/

/-- What becomes of the statement of a read. -/
inductive Follows (given : List (String × OptionValue)) (selector : Option Selector)
    (clock : Instant) : Except Fault Plan → Prop
  | options {fault : Fault} (hgathers : ReadOptions.Gathers given (.error fault)) :
      Follows given selector clock (.error fault)
  | selector {options : ReadOptions} (hgathers : ReadOptions.Gathers given (.ok options))
      (hselector : ¬ ∃ inner target, selector = some inner ∧ inner.AsksFor target) :
      Follows given selector clock (.error .invalidFilter)
  | range {options : ReadOptions} {inner : Selector} {target : String} {fault : Fault}
      (hgathers : ReadOptions.Gathers given (.ok options)) (hselector : selector = some inner)
      (hasks : inner.AsksFor target) (hresolve : options.resolve clock = .error fault) :
      Follows given selector clock (.error fault)
  | plan {options : ReadOptions} {inner : Selector} {plan : Plan}
      (hgathers : ReadOptions.Gathers given (.ok options)) (hselector : selector = some inner)
      (hasks : inner.AsksFor plan.target) (hresolve : options.resolve clock = .ok plan.range) :
      Follows given selector clock (.ok plan)

variable {given : List (String × OptionValue)} {selector : Option Selector} {clock : Instant}

theorem make_eq (given : List (String × OptionValue)) (selector : Option Selector)
    (clock : Instant) :
    make given selector clock = (ReadOptions.ofList given).bind fun options =>
      (targetOf selector).bind fun target =>
        (options.resolve clock).map fun range => ⟨target, range⟩ :=
  rfl

theorem follows_make (given : List (String × OptionValue)) (selector : Option Selector)
    (clock : Instant) : Follows given selector clock (make given selector clock) := by
  have hgathers := ReadOptions.gathers_ofList given
  rw [make_eq]
  cases hoptions : ReadOptions.ofList given with
  | error fault => exact .options (hoptions ▸ hgathers)
  | ok options =>
    rw [hoptions] at hgathers
    by_cases hasked : ∃ inner target, selector = some inner ∧ inner.AsksFor target
    · obtain ⟨inner, target, rfl, hasks⟩ := hasked
      rw [targetOf_of_asksFor hasks, Except.bind, Except.bind]
      cases hresolve : options.resolve clock with
      | error fault => exact .range hgathers rfl hasks hresolve
      | ok range => exact .plan hgathers rfl hasks hresolve
    · rw [(targetOf_cases selector).resolve_left hasked]
      exact .selector hgathers hasked

theorem Follows.make_eq {result : Except Fault Plan} (hfollows : Follows given selector clock result) :
    make given selector clock = result := by
  rw [Plan.make_eq]
  cases hfollows with
  | options hgathers => rw [hgathers.ofList_eq, Except.bind]
  | selector hgathers hselector =>
    rw [hgathers.ofList_eq, (targetOf_cases selector).resolve_left hselector, Except.bind,
      Except.bind]
  | range hgathers hselector hasks hresolve =>
    rw [hgathers.ofList_eq, hselector, targetOf_of_asksFor hasks, Except.bind, Except.bind,
      hresolve, Except.map]
  | plan hgathers hselector hasks hresolve =>
    rw [hgathers.ofList_eq, hselector, targetOf_of_asksFor hasks, Except.bind, Except.bind,
      hresolve, Except.map]

theorem make_eq_iff {result : Except Fault Plan} :
    make given selector clock = result ↔ Follows given selector clock result := by
  constructor
  · rintro rfl
    exact follows_make given selector clock
  · exact Follows.make_eq

/-- Whatever is wrong with a statement is found before anything is sent. -/
theorem Follows.isValidation {fault : Fault} (hfollows : Follows given selector clock (.error fault)) :
    fault.isValidation = true := by
  cases hfollows with
  | options hgathers => exact hgathers.isValidation
  | selector hgathers hselector => rfl
  | range hgathers hselector hasks hresolve =>
    exact (Window.resolve_eq_iff.1 hresolve).isValidation

theorem Follows.perm {other : List (String × OptionValue)} {plan : Plan}
    (hfollows : Follows given selector clock (.ok plan)) (hperm : given.Perm other)
    (hdistinct : (given.map Prod.fst).Nodup) : Follows other selector clock (.ok plan) := by
  cases hfollows with
  | plan hgathers hselector hasks hresolve =>
    exact .plan (hgathers.perm hperm hdistinct) hselector hasks hresolve

/-! ### Selectors in words -/

theorem ofStatement_words_of_ok {text : String} {inner : Selector}
    (hread : Selector.read text = .ok inner) (given : List (String × OptionValue))
    (clock : Instant) :
    ofStatement given (.words text) clock = make given (some inner) clock := by
  have hselector : (SelectorSource.words text).selector? = .ok (some inner) := by
    rw [SelectorSource.selector?, hread, Except.map]
  rw [ofStatement, hselector]
  rfl

/-- Words that cannot be read are told before the options are looked at. -/
theorem ofStatement_words_of_error {text : String} {fault : Fault}
    (hread : Selector.read text = .error fault) (given : List (String × OptionValue))
    (clock : Instant) : ofStatement given (.words text) clock = .error .invalidFilter := by
  obtain rfl := Selector.eq_invalidFilter_of_read hread
  have hselector : (SelectorSource.words text).selector? = .error .invalidFilter := by
    rw [SelectorSource.selector?, hread, Except.map]
  rw [ofStatement, hselector]
  rfl

/-- Words lead to a plan exactly if they are a constraint in writing, for its target, and the
options say a range. -/
theorem ofStatement_words_eq_ok_iff {text : String} {plan : Plan} :
    ofStatement given (.words text) clock = .ok plan ↔
      (Selector.Written text.toList (.equals plan.target) ∨
        Selector.Written text.toList (.like plan.target)) ∧
      ∃ options, ReadOptions.Gathers given (.ok options) ∧
        options.resolve clock = .ok plan.range := by
  rw [← Selector.read_bind_targetOf_eq_ok_iff]
  cases hread : Selector.read text with
  | error fault => simp [ofStatement_words_of_error hread, Except.bind]
  | ok inner =>
    rw [ofStatement_words_of_ok hread, make_eq_iff, Except.bind]
    constructor
    · intro hfollows
      cases hfollows with
      | plan hgathers hselector hasks hresolve =>
        obtain rfl := Option.some.inj hselector
        exact ⟨targetOf_of_asksFor hasks, _, hgathers, hresolve⟩
    · rintro ⟨htarget, options, hgathers, hresolve⟩
      rcases targetOf_cases (some inner) with ⟨_, target, hselector, hasks⟩ | hnone
      · obtain rfl := Option.some.inj hselector
        obtain rfl := Except.ok.inj ((targetOf_of_asksFor hasks).symm.trans htarget)
        exact .plan hgathers rfl hasks hresolve
      · rw [hnone] at htarget
        cases htarget

/-- The outcome of a statement is the first of these that applies: the first unknown name among
its options, the first of their values that cannot be used, a selector that is no constraint on the
name, and what the last values of the options resolve to. All faults of it are found before anything
is sent. Options of which no two share a name may be given in any order, for the plan
is the same, if there is one. -/
theorem make_precedence (given : List (String × OptionValue)) (selector : Option Selector)
    (clock : Instant) :
    (∀ result, make given selector clock = result ↔ Follows given selector clock result) ∧
    (∀ fault, make given selector clock = .error fault → fault.isValidation = true) ∧
    (∀ other, given.Perm other → (given.map Prod.fst).Nodup →
      ∀ plan, make given selector clock = .ok plan ↔ make other selector clock = .ok plan) := by
  refine ⟨fun _ => make_eq_iff, fun _ hmake => (make_eq_iff.1 hmake).isValidation, ?_⟩
  intro other hperm hdistinct plan
  have hother : (other.map Prod.fst).Nodup := (hperm.map Prod.fst).nodup hdistinct
  rw [make_eq_iff, make_eq_iff]
  constructor
  · intro hfollows
    exact hfollows.perm hperm hdistinct
  · intro hfollows
    exact hfollows.perm hperm.symm hother

/-- A start and an end, either of them first. -/
theorem make_startStop_swapped :
    let start := (ReadOptions.startName, OptionValue.moment (.fixed .epoch))
    let stop := (ReadOptions.stopName, OptionValue.moment .now)
    let plan : Plan := ⟨"m", ⟨some .epoch, .bounded .epoch⟩⟩
    List.Perm [start, stop] [stop, start] ∧ ([start, stop].map Prod.fst).Nodup ∧
      make [start, stop] (some (.nameEquals "m")) .epoch = .ok plan ∧
      make [stop, start] (some (.nameEquals "m")) .epoch = .ok plan := by
  intro start stop plan
  have hperm : List.Perm [start, stop] [stop, start] := List.Perm.swap _ _ _
  have hdistinct : ([start, stop].map Prod.fst).Nodup := by decide
  have hplan : make [start, stop] (some (.nameEquals "m")) .epoch = .ok plan := by decide +kernel
  obtain ⟨-, -, hswap⟩ := make_precedence [start, stop] (some (.nameEquals "m")) .epoch
  exact ⟨hperm, hdistinct, hplan, (hswap [stop, start] hperm hdistinct plan).1 hplan⟩

end Plan

end MetricBridge
