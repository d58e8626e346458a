/-
# The calls of a device

The writer of an export is looked at by itself here, as if all points were in the queue from the
beginning. Its calls tell everything about it: how the device came to its present state, whether
a call was refused, and which bytes were handed on. If none was refused, the bytes are those of
the whole sheet, however they were cut. If one was, its complaint is what the writer stops with.

The calls with which a writer parts from the device come behind all that, and nothing of what it
has come to depends on them.
-/

import Mathlib
import MetricBridge.Export.Relay
import MetricBridge.Proofs.Export.Rows

namespace MetricBridge

theorem Utf8.encode_append (text more : List Char) :
    encode (text ++ more) = encode text ++ encode more := List.flatMap_append

namespace Export

/-! ### What calls tell -/

namespace Call

/-- Why the call was refused, if it was. -/
def complaint? : Call → Option String
  | write _ complaint | flush complaint => complaint

/-- The bytes that the call hands on. -/
def bytes : Call → List UInt8
  | write bytes _ => bytes
  | flush _ => []

end Call

/-- The complaints of the calls that were refused, in order. -/
def refusals (calls : List Call) : List String :=
  calls.filterMap Call.complaint?

/-- The bytes that the calls hand on, in order. -/
def bytesOf (calls : List Call) : List UInt8 :=
  calls.flatMap Call.bytes

namespace Device

variable {σ : Type} (device : Device σ)

/-- The device refuses no call. -/
def IsWilling : Prop :=
  (∀ bytes state, (device.write bytes state).1 = none) ∧ ∀ state, (device.flush state).1 = none

/-- What the device makes of a call. -/
def answer : Call → σ → Option String × σ
  | .write bytes _ => device.write bytes
  | .flush _ => device.flush

/-- The device is brought from one state to another by just these calls and refuses just those that
were refused. -/
def Answers : List Call → (state reached : σ) → Prop
  | [], state, reached => reached = state
  | call :: later, state, reached =>
    (device.answer call state).1 = call.complaint? ∧
      Answers later (device.answer call state).2 reached

variable {device}

theorem Answers.append {calls later : List Call} {state between reached : σ}
    (hcalls : device.Answers calls state between)
    (hlater : device.Answers later between reached) :
    device.Answers (calls ++ later) state reached := by
  induction calls generalizing state with
  | nil =>
    cases hcalls
    exact hlater
  | cons first others ih => exact ⟨hcalls.1, ih hcalls.2⟩

theorem Answers.concat {calls : List Call} {state between : σ}
    (hcalls : device.Answers calls state between) {call : Call}
    (hcall : (device.answer call between).1 = call.complaint?) :
    device.Answers (calls ++ [call]) state (device.answer call between).2 :=
  hcalls.append ⟨hcall, rfl⟩

theorem IsWilling.answer (hwilling : device.IsWilling) (call : Call) (state : σ) :
    (device.answer call state).1 = none := by
  cases call with
  | write bytes complaint => exact hwilling.1 bytes state
  | flush complaint => exact hwilling.2 state

theorem IsWilling.refusals_eq_nil (hwilling : device.IsWilling) {calls : List Call}
    {state reached : σ} (hcalls : device.Answers calls state reached) : refusals calls = [] := by
  induction calls generalizing state with
  | nil => rfl
  | cons call later ih =>
    rw [refusals, List.filterMap_cons, ← hcalls.1, hwilling.answer]
    exact ih hcalls.2

end Device

@[simp] theorem refusals_append (calls later : List Call) :
    refusals (calls ++ later) = refusals calls ++ refusals later := List.filterMap_append

@[simp] theorem bytesOf_append (calls later : List Call) :
    bytesOf (calls ++ later) = bytesOf calls ++ bytesOf later := List.flatMap_append

@[simp] theorem refusals_singleton (call : Call) :
    refusals [call] = call.complaint?.toList := by
  cases hcall : call.complaint? <;> simp [refusals, hcall]

@[simp] theorem bytesOf_singleton (call : Call) : bytesOf [call] = call.bytes :=
  List.flatMap_singleton _ _

namespace Progress

variable {σ : Type} {device : Device σ} {buffering : Buffering}

/-- Since then no call was refused, and some bytes and points were added. -/
structure Adds (progress : Progress σ) (bytes : List UInt8) (points : Nat)
    (reached : Progress σ) : Prop where
  unrefused : refusals reached.calls = refusals progress.calls
  handed : bytesOf reached.calls ++ reached.kept =
    bytesOf progress.calls ++ progress.kept ++ bytes
  counted : reached.count = progress.count + points

/-- Since then one call was refused, with this complaint. -/
def Fails (progress : Progress σ) (complaint : String) (reached : Progress σ) : Prop :=
  refusals reached.calls = refusals progress.calls ++ [complaint]

/-- What an attempt to add some bytes and points comes to. -/
inductive Attempts (progress : Progress σ) (bytes : List UInt8) (points : Nat) :
    Option String × Progress σ → Prop
  | adds {reached : Progress σ} (hadds : progress.Adds bytes points reached) :
    Attempts progress bytes points (none, reached)
  | fails {complaint : String} {reached : Progress σ} (hfails : progress.Fails complaint reached) :
    Attempts progress bytes points (some complaint, reached)

theorem Adds.attempts {progress between : Progress σ} {bytes more : List UInt8}
    {points others : Nat} {outcome : Option String × Progress σ}
    (hadds : progress.Adds bytes points between) (hmore : between.Attempts more others outcome) :
    progress.Attempts (bytes ++ more) (points + others) outcome := by
  cases hmore with
  | adds hmore =>
    refine .adds ⟨hmore.unrefused.trans hadds.unrefused, ?_, ?_⟩
    · rw [hmore.handed, hadds.handed, List.append_assoc]
    · rw [hmore.counted, hadds.counted, Nat.add_assoc]
  | fails hmore => exact .fails (hmore.trans (congrArg (· ++ _) hadds.unrefused))

/-! ### Single calls -/

section Steps

variable (device buffering) (progress : Progress σ)

/-- A call leaves a note, and nothing else of the progress changes but the device. -/
theorem write_eq (bytes : List UInt8) :
    progress.write device bytes =
      ((device.write bytes progress.device).1,
        { progress with
          device := (device.write bytes progress.device).2
          calls := progress.calls ++ [.write bytes (device.write bytes progress.device).1] }) :=
  rfl

theorem flush_eq :
    progress.flush device =
      ((device.flush progress.device).1,
        { progress with
          device := (device.flush progress.device).2
          calls := progress.calls ++ [.flush (device.flush progress.device).1] }) :=
  rfl

theorem refusals_write (bytes : List UInt8) :
    refusals (progress.write device bytes).2.calls =
      refusals progress.calls ++ (device.write bytes progress.device).1.toList := by
  rw [write_eq, refusals_append, refusals_singleton]
  rfl

theorem bytesOf_write (bytes : List UInt8) :
    bytesOf (progress.write device bytes).2.calls = bytesOf progress.calls ++ bytes := by
  rw [write_eq, bytesOf_append, bytesOf_singleton]
  rfl

/-- Either all pieces are handed on in order, or one call is refused. -/
theorem handOn_cases (pieces : List (List UInt8)) :
    (∃ reached, progress.handOn device pieces = (none, reached) ∧
      refusals reached.calls = refusals progress.calls ∧
      bytesOf reached.calls = bytesOf progress.calls ++ pieces.flatten ∧
      reached.count = progress.count) ∨
    ∃ complaint reached, progress.handOn device pieces = (some complaint, reached) ∧
      progress.Fails complaint reached := by
  induction pieces generalizing progress with
  | nil => exact Or.inl ⟨progress, rfl, rfl, by simp, rfl⟩
  | cons piece rest ih =>
    cases hanswer : (device.write piece progress.device).1 with
    | none =>
      have hstep : progress.handOn device (piece :: rest) =
          (progress.write device piece).2.handOn device rest := by
        rw [handOn, write_eq, hanswer]
      rw [hstep]
      rcases ih (progress.write device piece).2 with
        ⟨reached, heq, hrefusals, hbytes, hcount⟩ | ⟨complaint, reached, heq, hfails⟩
      · refine Or.inl ⟨reached, heq, ?_, ?_, hcount⟩
        · rw [hrefusals, refusals_write, hanswer, Option.toList_none, List.append_nil]
        · rw [hbytes, bytesOf_write, List.append_assoc, List.flatten_cons]
      · refine Or.inr ⟨complaint, reached, heq, ?_⟩
        rw [Fails, hfails, refusals_write, hanswer, Option.toList_none, List.append_nil]
    | some complaint =>
      have hstep : progress.handOn device (piece :: rest) =
          (some complaint, { (progress.write device piece).2 with kept := piece }) := by
        rw [handOn, write_eq, hanswer]
      refine Or.inr ⟨complaint, _, hstep, ?_⟩
      rw [Fails, refusals_write, hanswer, Option.toList_some]

/-- Bytes that are cut in some way are added, once what is kept and the count are noted. -/
theorem attempts_handOn {pieces : List (List UInt8)} {kept bytes : List UInt8} (points : Nat)
    (hcut : pieces.flatten ++ kept = progress.kept ++ bytes) :
    (∃ reached, progress.handOn device pieces = (none, reached) ∧
      progress.Adds bytes points
        { reached with kept := kept, count := reached.count + points }) ∨
    ∃ complaint reached, progress.handOn device pieces = (some complaint, reached) ∧
      progress.Fails complaint reached := by
  rcases progress.handOn_cases device pieces with
    ⟨reached, heq, hrefusals, hbytes, hcount⟩ | hfails
  · refine Or.inl ⟨reached, heq, hrefusals, ?_, congrArg (· + points) hcount⟩
    rw [hbytes, List.append_assoc, hcut, List.append_assoc]
  · exact Or.inr hfails

theorem put_eq (point : Point) :
    progress.put device buffering point =
      match progress.handOn device (buffering.cut progress.kept (progress.added point)).1 with
      | (none, reached) =>
        (none, { reached with
          kept := (buffering.cut progress.kept (progress.added point)).2
          count := reached.count + 1 })
      | refused => refused :=
  rfl

theorem attempts_put (point : Point) :
    progress.Attempts (progress.added point) 1 (progress.put device buffering point) := by
  rcases progress.attempts_handOn device 1
      (buffering.cut_keeps progress.kept (progress.added point)) with
    ⟨reached, heq, hadds⟩ | ⟨complaint, reached, heq, hfails⟩
  · rw [put_eq, heq]
    exact .adds hadds
  · rw [put_eq, heq]
    exact .fails hfails

theorem flatten_leftover : progress.leftover.flatten = progress.kept := by
  rw [leftover]
  split_ifs with hkept
  · rw [hkept, List.flatten_nil]
  · rw [List.flatten_singleton]

theorem attempts_flush : progress.Attempts [] 0 (progress.flush device) := by
  rw [flush_eq]
  cases hanswer : (device.flush progress.device).1 with
  | none => exact .adds ⟨by simp [Call.complaint?], by simp [Call.bytes], rfl⟩
  | some complaint => exact .fails (by simp [Fails, Call.complaint?])

theorem attempts_finish : progress.Attempts [] 0 (progress.finish device) := by
  have hcut : progress.leftover.flatten ++ [] = progress.kept ++ [] := by rw [flatten_leftover]
  rcases progress.attempts_handOn device 0 hcut with
    ⟨reached, heq, hadds⟩ | ⟨complaint, reached, heq, hfails⟩
  · rw [finish, heq]
    exact hadds.attempts (attempts_flush device _)
  · rw [finish, heq]
    exact .fails hfails

variable {device progress} in
/-- A writer that has finished keeps nothing, and the device has been flushed. -/
theorem ended_of_finish {reached : Progress σ} (hnone : progress.finish device = (none, reached)) :
    reached.kept = [] ∧ reached.calls.getLast? = some (.flush none) := by
  rw [finish] at hnone
  split at hnone
  next between hhanded =>
    rw [flush_eq, Prod.mk.injEq] at hnone
    obtain ⟨hanswer, rfl⟩ := hnone
    exact ⟨rfl, by rw [List.getLast?_concat, hanswer]⟩
  next between hrefused => exact absurd hnone (hrefused _)

end Steps

/-- The calls of the export are none of those with which the writer is given up. -/
@[simp] theorem calls_part (device : Device σ) (progress : Progress σ) :
    (progress.part device).calls = progress.calls := rfl

/-! ### All calls -/

/-- Some points are written one after the other and the writer finishes, unless a call is
refused. -/
def deliver (device : Device σ) (buffering : Buffering) :
    List Point → Progress σ → Option String × Progress σ
  | [], progress => progress.finish device
  | point :: rest, progress =>
    match progress.put device buffering point with
    | (none, progress) => deliver device buffering rest progress
    | refused => refused

/-- The lines of some points, with the header before them if nothing was written yet. -/
def linesOf (progress : Progress σ) (points : List Point) : List Char :=
  if progress.count = 0 then (Point.sheet points).toList
  else points.flatMap fun point => point.row.line

theorem linesOf_nil (progress : Progress σ) : progress.linesOf [] = [] := by
  rw [linesOf]
  split_ifs <;> rfl

theorem encode_linesOf_cons (progress reached : Progress σ)
    (hcount : reached.count = progress.count + 1) (point : Point) (others : List Point) :
    Utf8.encode (progress.linesOf (point :: others)) =
      progress.added point ++ Utf8.encode (reached.linesOf others) := by
  have hlater : reached.count ≠ 0 := by omega
  rw [added, ← Utf8.encode_append, linesOf, linesOf, if_neg hlater]
  congr 1
  split_ifs with hfirst
  · rw [Point.toList_sheet_cons, List.map_cons, List.flatMap_cons, List.flatMap_map,
      List.append_assoc]
  · rw [List.flatMap_cons, List.nil_append]

theorem attempts_deliver (device : Device σ) (buffering : Buffering) (points : List Point)
    (progress : Progress σ) :
    progress.Attempts (Utf8.encode (progress.linesOf points)) points.length
      (progress.deliver device buffering points) := by
  induction points generalizing progress with
  | nil =>
    rw [linesOf_nil]
    exact progress.attempts_finish device
  | cons point others ih =>
    rw [deliver]
    cases hput : progress.put device buffering point with
    | mk complaint reached =>
      have hattempts := progress.attempts_put device buffering point
      rw [hput] at hattempts
      cases hattempts with
      | adds hadds =>
        rw [encode_linesOf_cons progress reached hadds.counted, List.length_cons, Nat.add_comm]
        exact hadds.attempts (ih reached)
      | fails hfails => exact .fails hfails

theorem ended_of_deliver {points : List Point} {progress reached : Progress σ}
    (hnone : progress.deliver device buffering points = (none, reached)) :
    reached.kept = [] ∧ reached.calls.getLast? = some (.flush none) := by
  induction points generalizing progress with
  | nil => exact ended_of_finish hnone
  | cons point others ih =>
    rw [deliver] at hnone
    split at hnone
    next between hput => exact ih hnone
    next refused hrefused => exact absurd hnone (hrefused _)

/-! ### What the device has seen -/

/-- The notes of a progress tell how the device came from some state to its present one. -/
def IsFaithful (device : Device σ) (state : σ) (progress : Progress σ) : Prop :=
  device.Answers progress.calls state progress.device

theorem isFaithful_start (device : Device σ) (state : σ) :
    (start state).IsFaithful device state :=
  rfl

section Faithful

variable {state : σ} {progress : Progress σ}

theorem IsFaithful.write (hfaithful : progress.IsFaithful device state) (bytes : List UInt8) :
    (progress.write device bytes).2.IsFaithful device state :=
  Device.Answers.concat hfaithful rfl

theorem IsFaithful.flush (hfaithful : progress.IsFaithful device state) :
    (progress.flush device).2.IsFaithful device state :=
  Device.Answers.concat hfaithful rfl

theorem IsFaithful.handOn (hfaithful : progress.IsFaithful device state)
    (pieces : List (List UInt8)) : (progress.handOn device pieces).2.IsFaithful device state := by
  induction pieces generalizing progress with
  | nil => exact hfaithful
  | cons piece rest ih =>
    have hwritten := hfaithful.write piece
    rw [Progress.handOn]
    split
    next between hwrite =>
      rw [hwrite] at hwritten
      exact ih hwritten
    next complaint between hwrite =>
      rw [hwrite] at hwritten
      exact hwritten

theorem IsFaithful.put (hfaithful : progress.IsFaithful device state) (point : Point) :
    (progress.put device buffering point).2.IsFaithful device state := by
  have hhanded := hfaithful.handOn (buffering.cut progress.kept (progress.added point)).1
  rw [put_eq]
  split
  next between hhandOn =>
    rw [hhandOn] at hhanded
    exact hhanded
  next => exact hhanded

theorem IsFaithful.finish (hfaithful : progress.IsFaithful device state) :
    (progress.finish device).2.IsFaithful device state := by
  have hhanded := hfaithful.handOn progress.leftover
  rw [Progress.finish]
  split
  next between hhandOn =>
    rw [hhandOn] at hhanded
    exact IsFaithful.flush hhanded
  next => exact hhanded

theorem IsFaithful.deliver (hfaithful : progress.IsFaithful device state) (points : List Point) :
    (progress.deliver device buffering points).2.IsFaithful device state := by
  induction points generalizing progress with
  | nil => exact hfaithful.finish
  | cons point others ih =>
    have hwritten : (progress.put device buffering point).2.IsFaithful device state :=
      hfaithful.put point
    rw [Progress.deliver]
    split
    next between hput =>
      rw [hput] at hwritten
      exact ih hwritten
    next => exact hwritten

/-- The calls before and after the writer is given up are all that the device has seen. -/
theorem IsFaithful.part (hfaithful : progress.IsFaithful device state) :
    device.Answers ((progress.part device).calls ++ (progress.part device).parting) state
      (progress.part device).device := by
  have hparted : IsFaithful device progress.device { progress with calls := [] } := rfl
  exact Device.Answers.append hfaithful hparted.finish

/-- A writer that keeps nothing parts from the device by flushing it once more. -/
theorem parting_part (hkept : progress.kept = []) :
    (progress.part device).parting = [.flush (device.flush progress.device).1] := by
  have hleftover : leftover { progress with calls := [] } = [] := if_pos hkept
  rw [Progress.part, Progress.finish, hleftover]
  rfl

end Faithful

end Progress

end Export

end MetricBridge
