/-
# The points of a batch

A record that stands for a point has a name without blanks, so every point of a batch can go
into a line. The points of a batch are those of its records, in the order of the
records, and a payload leaves none of them out.
-/

import Mathlib
import MetricBridge.Ingest.Batch
import MetricBridge.Proofs.Ingest.Plaintext

namespace MetricBridge

open Time (Instant)

/-- The point of a record that stands for one. -/
def Record.point? (emitted : Instant) (record : Record) : Option Point :=
  (record.point emitted).toOption

theorem Record.point?_eq_some_iff {emitted : Instant} {record : Record} {point : Point} :
    record.point? emitted = some point ↔ record.point emitted = .ok point := by
  unfold point?
  cases record.point emitted <;> simp [Except.toOption]

/-- What a record has to be like to stand for a point, and which point this is. -/
theorem Record.point_eq_ok_iff {emitted : Instant} {record : Record} {point : Point} :
    record.point emitted = .ok point ↔
      record.name? = some point.name ∧ record.value? = some point.value ∧
        Plaintext.IsPlainName point.name ∧
        ∃ time, record.time emitted = .ok time ∧ point.time = time.truncate := by
  obtain ⟨instant, name, value⟩ := point
  unfold Record.point
  cases hname : record.name? with
  | none => simp
  | some held =>
    cases hvalue : record.value? with
    | none => simp
    | some amount =>
      by_cases hblank : held.toList.any Text.isBlank = true
      · have hnot : ¬Plaintext.IsPlainName held := by
          obtain ⟨c, hmem, hc⟩ := List.any_eq_true.1 hblank
          intro hplain
          rw [hplain c hmem] at hc
          cases hc
        simp only [hblank, if_true, reduceCtorEq, false_iff, Option.some.injEq]
        rintro ⟨rfl, -, hplain, -⟩
        exact hnot hplain
      · have hplain : Plaintext.IsPlainName held := by
          intro c hmem
          by_contra hc
          exact hblank (List.any_eq_true.2 ⟨c, hmem, by simpa using hc⟩)
        simp only [if_neg hblank, Option.some.injEq]
        cases htime : record.time emitted with
        | error rejection => simp [Except.map]
        | ok time =>
          simp only [Except.map, Except.ok.injEq, Point.mk.injEq, exists_eq_left']
          constructor
          · rintro ⟨rfl, rfl, rfl⟩
            exact ⟨rfl, rfl, hplain, rfl⟩
          · rintro ⟨rfl, rfl, -, rfl⟩
            exact ⟨rfl, rfl, rfl⟩

theorem Batch.points_ofRecords (emitted : Instant) (records : List Record) :
    (Batch.ofRecords emitted records).points = records.filterMap (Record.point? emitted) := by
  induction records with
  | nil => rfl
  | cons record rest ih =>
    unfold Batch.ofRecords Batch.add
    cases hpoint : record.point emitted with
    | ok point =>
      rw [List.filterMap_cons_some (Record.point?_eq_some_iff.2 hpoint), ← ih]
    | error rejection =>
      have hnone : record.point? emitted = none := by
        rw [Record.point?, hpoint]
        rfl
      rw [List.filterMap_cons_none hnone, ← ih]

/-- Every point of a batch has a name that the line protocol can carry. -/
theorem Record.isPlainName_of_mem {emitted : Instant} {records : List Record} {point : Point}
    (hmem : point ∈ records.filterMap (Record.point? emitted)) :
    Plaintext.IsPlainName point.name := by
  obtain ⟨record, -, hpoint⟩ := List.mem_filterMap.1 hmem
  exact (Record.point_eq_ok_iff.1 (Record.point?_eq_some_iff.1 hpoint)).2.2.1

end MetricBridge
