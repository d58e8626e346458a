/-
# Which records are written, and what is said of the others

A record is acceptable for what it holds under three keys, whatever else is in it and whenever it
is written. An acceptable record has a line in the payload, which says its name, its value and the
second of its time; every other record has one warning, for the first thing that is wrong with it.
So each record is accounted for once.

The endpoint is handed a payload exactly if there is a line for it. Whether it takes the payload
makes a difference only to the errors.
-/

import Mathlib
import MetricBridge.Proofs.Binary64.Whole
import MetricBridge.Proofs.Ingest.Batch
import MetricBridge.Proofs.Series.Points

namespace MetricBridge

open Time (Instant)
open Binary64 (towardZero)

namespace Record

/-! ### What a record has to be like -/

/-- A value that can stand for a time, null included, which stands for none. -/
def IsTime : Json.Value → Prop
  | .null => True
  | .string text => ∃ instant, Time.Rfc3339.readStrict text.toList = .ok instant
  | .number number => ∃ seconds, number.toBinary64.toRat? = some seconds ∧
      Time.firstSecond ≤ towardZero seconds ∧ towardZero seconds ≤ Time.lastSecond
  | _ => False

/-- The record can be written. -/
structure IsAcceptable (record : Record) : Prop where
  name : ∃ name, Dictionary.get? "name" record = some (.string name) ∧ name ≠ "" ∧
    Plaintext.IsPlainName name
  value : ∃ number, Dictionary.get? "value" record = some (.number number)
  time : ∀ raw, Dictionary.get? "time" record = some raw → IsTime raw

/-- The second of the time of a record that is written at an instant. `cut` says what becomes of a
fraction of a second in a time that is a number. -/
inductive Stamp (cut : ℚ → ℤ) (emitted : Instant) (record : Record) : ℤ → Prop
  | absent (htime : Dictionary.get? "time" record = none) :
      Stamp cut emitted record emitted.second
  | null (htime : Dictionary.get? "time" record = some .null) :
      Stamp cut emitted record emitted.second
  | text {text : String} {instant : Instant}
      (htime : Dictionary.get? "time" record = some (.string text))
      (hread : Time.Rfc3339.readStrict text.toList = .ok instant) :
      Stamp cut emitted record instant.second
  | number {number : Json.Number} {seconds : ℚ}
      (htime : Dictionary.get? "time" record = some (.number number))
      (hvalue : number.toBinary64.toRat? = some seconds) :
      Stamp cut emitted record (cut seconds)

/-- A line says what the record says. -/
structure Says (cut : ℚ → ℤ) (emitted : Instant) (record : Record)
    (reading : Plaintext.Reading) : Prop where
  name : Dictionary.get? "name" record = some (.string reading.name)
  value : ∃ number, Dictionary.get? "value" record = some (.number number) ∧
    reading.value = number.toBinary64
  second : record.Stamp cut emitted reading.second

/-- The first thing that is wrong with a record: its name, its value, blanks in its name, or its
time, in this order. -/
inductive FirstFlaw (record : Record) : Rejection → Prop
  | name (hname : ∀ name, Dictionary.get? "name" record = some (.string name) → name = "") :
      FirstFlaw record (.missingField "name")
  | value {name : String} (hname : Dictionary.get? "name" record = some (.string name))
      (hne : name ≠ "") (hvalue : ∀ number, Dictionary.get? "value" record ≠ some (.number number)) :
      FirstFlaw record (.missingField "value")
  | blank {name : String} {number : Json.Number}
      (hname : Dictionary.get? "name" record = some (.string name)) (hne : name ≠ "")
      (hvalue : Dictionary.get? "value" record = some (.number number))
      (hblank : ¬ Plaintext.IsPlainName name) :
      FirstFlaw record (.blankInName name)
  | time {name : String} {number : Json.Number} {raw : Json.Value}
      (hname : Dictionary.get? "name" record = some (.string name)) (hne : name ≠ "")
      (hvalue : Dictionary.get? "value" record = some (.number number))
      (hplain : Plaintext.IsPlainName name)
      (htime : Dictionary.get? "time" record = some raw) (hnone : ¬ IsTime raw) :
      FirstFlaw record (.invalidTime raw)

/-! ### One record -/

theorem name?_eq_some_iff {record : Record} {name : String} :
    record.name? = some name ↔
      Dictionary.get? "name" record = some (.string name) ∧ name ≠ "" := by
  unfold name?
  split
  next held hheld =>
    simp only [hheld, Option.some.injEq, Json.Value.string.injEq]
    split_ifs with hempty
    · rw [false_iff]
      rintro ⟨rfl, hne⟩
      exact hne hempty
    · simp only [Option.some.injEq]
      constructor
      · rintro rfl
        exact ⟨rfl, hempty⟩
      · exact And.left
  next hother =>
    simp only [reduceCtorEq, false_iff]
    rintro ⟨hname, -⟩
    exact hother name hname

theorem value?_eq_some_iff {record : Record} {value : Binary64} :
    record.value? = some value ↔
      ∃ number, Dictionary.get? "value" record = some (.number number) ∧
        value = number.toBinary64 := by
  unfold value?
  split
  next held hheld => simp [hheld, eq_comm]
  next hother =>
    simp only [reduceCtorEq, false_iff]
    rintro ⟨number, hvalue, -⟩
    exact hother number hvalue

theorem any_isBlank_eq_true_iff {name : String} :
    name.toList.any Text.isBlank = true ↔ ¬ Plaintext.IsPlainName name := by
  simp [Plaintext.IsPlainName]

/-- A number of seconds is an instant exactly if it is within the range once it is cut. -/
theorem ofSecond?_bind_wholePart?_cases (value : Binary64) :
    (∃ seconds instant, value.toRat? = some seconds ∧
      value.wholePart?.bind Instant.ofSecond? = some instant ∧
      instant.second = towardZero seconds) ∨
    ((¬ ∃ seconds, value.toRat? = some seconds ∧ Time.firstSecond ≤ towardZero seconds ∧
        towardZero seconds ≤ Time.lastSecond) ∧
      value.wholePart?.bind Instant.ofSecond? = none) := by
  rw [Binary64.wholePart?_eq_map]
  cases hvalue : value.toRat? with
  | none => exact Or.inr ⟨by simp, rfl⟩
  | some seconds =>
    rw [Option.map_some, Option.bind_some]
    cases hinstant : Instant.ofSecond? (towardZero seconds) with
    | none =>
      refine Or.inr ⟨?_, rfl⟩
      rintro ⟨_, ⟨⟩, hrange⟩
      exact Datum.ofSecond?_eq_none_iff.1 hinstant hrange
    | some instant =>
      exact Or.inl ⟨seconds, instant, rfl, rfl, (Instant.ofParts?_eq_some_iff.1 hinstant).1⟩

/-- A record has a time with its second, or what it gives for the time is none. -/
theorem time_cases (record : Record) (emitted : Instant) :
    (∃ instant, record.time emitted = .ok instant ∧
      (∀ raw, Dictionary.get? "time" record = some raw → IsTime raw) ∧
      record.Stamp towardZero emitted instant.second) ∨
    (∃ raw, record.time emitted = .error (.invalidTime raw) ∧
      Dictionary.get? "time" record = some raw ∧ ¬ IsTime raw) := by
  unfold time
  cases htime : Dictionary.get? "time" record with
  | none => exact Or.inl ⟨emitted, rfl, by simp, .absent htime⟩
  | some raw =>
    cases raw with
    | null => exact Or.inl ⟨emitted, rfl, by simp [IsTime], .null htime⟩
    | string text =>
      cases hread : Time.Rfc3339.readStrict text.toList with
      | ok instant =>
        refine Or.inl ⟨instant, by simp [instantOf?, hread, Except.toOption], ?_,
          .text htime hread⟩
        rintro _ ⟨⟩
        exact ⟨instant, hread⟩
      | error reason =>
        exact Or.inr ⟨_, by simp [instantOf?, hread, Except.toOption], rfl, by simp [IsTime, hread]⟩
    | number number =>
      rcases ofSecond?_bind_wholePart?_cases number.toBinary64 with
        ⟨seconds, instant, hvalue, hinstant, hsecond⟩ | ⟨hnone, hinstant⟩
      · refine Or.inl ⟨instant, by simp [instantOf?, hinstant], ?_, ?_⟩
        · rintro _ ⟨⟩
          exact ⟨seconds, hvalue, hsecond ▸ instant.inRange⟩
        · rw [hsecond]
          exact .number htime hvalue
      · exact Or.inr ⟨_, by simp [instantOf?, hinstant], rfl, hnone⟩
    | boolean _ => exact Or.inr ⟨_, rfl, rfl, id⟩
    | list _ => exact Or.inr ⟨_, rfl, rfl, id⟩
    | object _ => exact Or.inr ⟨_, rfl, rfl, id⟩

/-- A record is acceptable and stands for a point that says the same, or it is not and there is a
first thing wrong with it. -/
theorem point_cases (record : Record) (emitted : Instant) :
    (∃ point, record.point emitted = .ok point ∧ record.IsAcceptable ∧
      record.Says towardZero emitted (Plaintext.readingOf point)) ∨
    (∃ rejection, record.point emitted = .error rejection ∧ ¬ record.IsAcceptable ∧
      record.FirstFlaw rejection) := by
  unfold point
  cases hname : record.name? with
  | none =>
    have hnone : ∀ name, Dictionary.get? "name" record = some (.string name) → name = "" := by
      intro name hget
      by_contra hne
      rw [name?_eq_some_iff.2 ⟨hget, hne⟩] at hname
      cases hname
    refine Or.inr ⟨_, rfl, ?_, .name hnone⟩
    rintro ⟨⟨name, hget, hne, -⟩, -, -⟩
    exact hne (hnone name hget)
  | some name =>
    obtain ⟨hget, hne⟩ := name?_eq_some_iff.1 hname
    cases hvalue : record.value? with
    | none =>
      have hnone : ∀ number, Dictionary.get? "value" record ≠ some (.number number) := by
        intro number hnumber
        rw [value?_eq_some_iff.2 ⟨number, hnumber, rfl⟩] at hvalue
        cases hvalue
      refine Or.inr ⟨_, rfl, ?_, .value hget hne hnone⟩
      rintro ⟨-, ⟨number, hnumber⟩, -⟩
      exact hnone number hnumber
    | some value =>
      obtain ⟨number, hnumber, hsame⟩ := value?_eq_some_iff.1 hvalue
      by_cases hplain : Plaintext.IsPlainName name
      · have hclean : ¬ name.toList.any Text.isBlank = true :=
          fun hblank => any_isBlank_eq_true_iff.1 hblank hplain
        simp only [if_neg hclean]
        rcases record.time_cases emitted with ⟨instant, htime, hvalid, hstamp⟩ |
          ⟨raw, htime, hraw, hnone⟩ <;> rw [htime]
        · exact Or.inl ⟨_, rfl, ⟨⟨name, hget, hne, hplain⟩, ⟨number, hnumber⟩, hvalid⟩,
            hget, ⟨number, hnumber, hsame⟩, hstamp⟩
        · refine Or.inr ⟨_, rfl, ?_, .time hget hne hnumber hplain hraw hnone⟩
          rintro ⟨-, -, hvalid⟩
          exact hnone (hvalid raw hraw)
      · simp only [if_pos (any_isBlank_eq_true_iff.2 hplain)]
        refine Or.inr ⟨_, rfl, ?_, .blank hget hne hnumber hplain⟩
        rintro ⟨⟨other, hother, -, hclean⟩, -, -⟩
        rw [hget] at hother
        cases hother
        exact hplain hclean

theorem isSome_point?_iff {record : Record} (emitted : Instant) :
    (record.point? emitted).isSome = true ↔ record.IsAcceptable := by
  rcases record.point_cases emitted with ⟨point, hpoint, hgood, -⟩ | ⟨rejection, hpoint, hbad, -⟩
  · simp [point?, hpoint, Except.toOption, hgood]
  · simp [point?, hpoint, Except.toOption, hbad]

instance (record : Record) : Decidable record.IsAcceptable :=
  decidable_of_iff _ (isSome_point?_iff Instant.epoch)

end Record

/-! ### All records of a write -/

namespace Batch

/-- The points of a batch say what its acceptable records say, and its rejections what is wrong
with the others, each in the order of the records. -/
theorem ofRecords_forall₂ (emitted : Instant) (records : List Record) :
    List.Forall₂
        (fun record point => record.Says towardZero emitted (Plaintext.readingOf point))
        (records.filter fun record => record.IsAcceptable) (ofRecords emitted records).points ∧
      List.Forall₂ Record.FirstFlaw
        (records.filter fun record => ¬ record.IsAcceptable)
        (ofRecords emitted records).rejected := by
  induction records with
  | nil => exact ⟨.nil, .nil⟩
  | cons record rest ih =>
    obtain ⟨hpoints, hrejected⟩ := ih
    rcases record.point_cases emitted with ⟨point, hpoint, hgood, hsaid⟩ |
      ⟨rejection, hpoint, hbad, hflaw⟩
    · rw [List.filter_cons_of_pos (by simpa using hgood),
        List.filter_cons_of_neg (by simpa using hgood), ofRecords, hpoint]
      exact ⟨.cons hsaid hpoints, hrejected⟩
    · rw [List.filter_cons_of_neg (by simpa using hbad),
        List.filter_cons_of_pos (by simpa using hbad), ofRecords, hpoint]
      exact ⟨hpoints, .cons hflaw hrejected⟩

theorem points_eq_nil_iff {emitted : Instant} {records : List Record} :
    (ofRecords emitted records).points = [] ↔ ¬ ∃ record ∈ records, record.IsAcceptable := by
  rw [← List.length_eq_zero_iff, ← (ofRecords_forall₂ emitted records).1.length_eq,
    List.length_eq_zero_iff, List.filter_eq_nil_iff]
  simp

/-- An endpoint with a log of the payloads that it was handed, oldest first. -/
def logged {σ : Type} (endpoint : String → σ → Option Fault × σ) :
    String → σ × List String → Option Fault × (σ × List String) :=
  fun payload (state, payloads) =>
    let (error, state) := endpoint payload state
    (error, state, payloads ++ [payload])

end Batch

end MetricBridge
