/-
# What a payload tells

A payload has one line for each acceptable record, and a line has three fields, from which name,
value and second of the record are read back. This holds whatever the names are made of, since an
acceptable one has no blank and the two numbers never have one.

A line says the second in which a time lies, except that a number of seconds is cut toward
the epoch: the line of a record that was taken one and a half seconds before it says `-1`. For
texts, for the times of writes, and for numbers without a fraction or from the epoch on, there is
no difference.

Payloads that arrive one behind the other are read like one, so a connection carries the points of
all of them.
-/

import Mathlib
import MetricBridge.Proofs.Ingest.Acceptance
import MetricBridge.Proofs.Json.Numbers

namespace MetricBridge

open Time (Instant)
open Binary64 (towardZero)

theorem Batch.isPlainName_of_mem {emitted : Instant} {records : List Record} {point : Point}
    (hmem : point ∈ (Batch.ofRecords emitted records).points) :
    Plaintext.IsPlainName point.name := by
  rw [Batch.points_ofRecords] at hmem
  exact Record.isPlainName_of_mem hmem

/-! ### One line -/

namespace Plaintext

/-- A line has three fields, between single spaces, and they spell a name, a value and a second. -/
def Spells (line : List Char) (reading : Reading) : Prop :=
  ∃ value second, Text.pieces ' ' line = [reading.name.toList, value, second] ∧
    Binary64.read? value = some reading.value ∧ second? second = some reading.second

theorem spells_body {point : Point} (hplain : IsPlainName point.name) :
    Spells (body point) (readingOf point) :=
  ⟨_, _, pieces_body hplain, Binary64.read?_write .line _, second?_integer _⟩

theorem Spells.reading?_eq {line : List Char} {reading : Reading} (hspells : Spells line reading) :
    reading? line = some reading := by
  obtain ⟨value, second, hpieces, hvalue, hsecond⟩ := hspells
  simp only [reading?, hpieces, hvalue, hsecond, Option.bind_eq_bind, Option.bind_some,
    String.ofList_toList]

theorem spells_body_iff {point : Point} (hplain : IsPlainName point.name) {reading : Reading} :
    Spells (body point) reading ↔ reading = readingOf point := by
  constructor
  · intro hspells
    have hread := hspells.reading?_eq
    rw [reading?_body hplain] at hread
    exact (Option.some.inj hread).symm
  · rintro rfl
    exact spells_body hplain

/-! ### All lines -/

theorem pieces_encode {points : List Point} (hplain : ∀ point ∈ points, IsPlainName point.name) :
    Text.pieces '\n' (encode points).toList = points.map body ++ [[]] := by
  rw [toList_encode, Text.pieces_flatMap (newline_not_mem_of_mem_map_body hplain)]

theorem encode_append (earlier later : List Point) :
    encode (earlier ++ later) = encode earlier ++ encode later := by
  rw [encode, List.flatMap_append, String.ofList_append]
  rfl

theorem join_map_encode (pieces : List (List Point)) :
    String.join (pieces.map encode) = encode pieces.flatten := by
  induction pieces with
  | nil => rfl
  | cons points others ih =>
    rw [List.map_cons, String.join_cons, ih, List.flatten_cons, encode_append]

theorem map_reading?_encode {points : List Point}
    (hplain : ∀ point ∈ points, IsPlainName point.name) :
    (Text.lines (encode points).toList).map reading? =
      points.map fun point => some (readingOf point) := by
  rw [lines_encode hplain, List.map_map]
  exact List.map_congr_left fun point hmem => reading?_body (hplain point hmem)

/-- A line says what a record says. The value is finite if that of the record is one that a record
can have. -/
def TellsOne (cut : ℚ → ℤ) (emitted : Instant) (record : Record) (line : List Char) : Prop :=
  ∃ reading, Spells line reading ∧ record.Says cut emitted reading ∧
    ∀ number, Dictionary.get? "value" record = some (.number number) → number.IsProper →
      reading.value.isFinite = true

/-- A payload has one line for each of some records, in their order, which says what the record
says: there is a line feed behind each line, and nothing else. -/
def Tells (cut : ℚ → ℤ) (emitted : Instant) (records : List Record) (payload : String) : Prop :=
  ∃ lines, Text.pieces '\n' payload.toList = lines ++ [[]] ∧
    List.Forall₂ (TellsOne cut emitted) records lines

theorem tellsOne_body_iff {cut : ℚ → ℤ} {emitted : Instant} {record : Record} {point : Point}
    (hplain : IsPlainName point.name) :
    TellsOne cut emitted record (body point) ↔ record.Says cut emitted (readingOf point) := by
  constructor
  · rintro ⟨reading, hspells, hsaid, -⟩
    rwa [(spells_body_iff hplain).1 hspells] at hsaid
  · intro hsaid
    refine ⟨readingOf point, spells_body hplain, hsaid, ?_⟩
    intro number hnumber hproper
    obtain ⟨held, hheld, hvalue⟩ := hsaid.value
    rw [hnumber] at hheld
    cases hheld
    rw [hvalue]
    exact number.isFinite_toBinary64 hproper

theorem tells_encode_iff {cut : ℚ → ℤ} {emitted : Instant} {records : List Record}
    {points : List Point} (hplain : ∀ point ∈ points, IsPlainName point.name) :
    Tells cut emitted records (encode points) ↔
      List.Forall₂ (fun (record : Record) point => record.Says cut emitted (readingOf point))
        records points := by
  unfold Tells
  simp only [pieces_encode hplain, List.append_cancel_right_eq, exists_eq_left',
    List.forall₂_map_right_iff]
  induction points generalizing records with
  | nil => rw [List.forall₂_nil_right_iff, List.forall₂_nil_right_iff]
  | cons point others ih =>
    obtain ⟨hpoint, hothers⟩ := List.forall_mem_cons.1 hplain
    simp only [List.forall₂_cons_right_iff, tellsOne_body_iff hpoint, ih hothers]

end Plaintext

/-! ### Numbers of seconds -/

theorem Binary64.towardZero_eq_floor_iff {number : ℚ} :
    towardZero number = ⌊number⌋ ↔ 0 ≤ number ∨ (⌊number⌋ : ℚ) = number := by
  rw [towardZero]
  split_ifs with hnonneg
  · simp [hnonneg]
  · simp only [hnonneg, false_or]
    constructor
    · intro hsame
      exact le_antisymm (Int.floor_le number) (hsame ▸ Int.le_ceil number)
    · intro hwhole
      rw [← hwhole, Int.ceil_intCast, Int.floor_intCast]

namespace Record

variable {emitted : Instant} {record : Record}

/-- The time of the record is a number of seconds with a fraction, before the epoch. Its line says
the second after the one in which this time lies. -/
def IsStampedLate (record : Record) : Prop :=
  ∃ number seconds, Dictionary.get? "time" record = some (.number number) ∧
    number.toBinary64.toRat? = some seconds ∧ seconds < 0 ∧ (⌊seconds⌋ : ℚ) ≠ seconds

theorem Stamp.eq_cut {cut : ℚ → ℤ} {second : ℤ} {number : Json.Number} {seconds : ℚ}
    (hstamp : record.Stamp cut emitted second)
    (htime : Dictionary.get? "time" record = some (.number number))
    (hvalue : number.toBinary64.toRat? = some seconds) : second = cut seconds := by
  cases hstamp with
  | absent habsent => simp [habsent] at htime
  | null hnull => simp [hnull] at htime
  | text htext => simp [htext] at htime
  | number hheld hsame =>
    rw [htime] at hheld
    cases hheld
    rw [hvalue] at hsame
    cases hsame
    rfl

theorem Stamp.floor_iff {second : ℤ} (hstamp : record.Stamp towardZero emitted second) :
    record.Stamp Int.floor emitted second ↔ ¬ record.IsStampedLate := by
  constructor
  · rintro hfloor ⟨number, seconds, htime, hvalue, hbefore, hfraction⟩
    have hsame := (hstamp.eq_cut htime hvalue).symm.trans (hfloor.eq_cut htime hvalue)
    rcases Binary64.towardZero_eq_floor_iff.1 hsame with hafter | hwhole
    · exact absurd hbefore (not_lt.2 hafter)
    · exact hfraction hwhole
  · intro hnot
    cases hstamp with
    | absent habsent => exact .absent habsent
    | null hnull => exact .null hnull
    | text htext hread => exact .text htext hread
    | @number number seconds htime hvalue =>
      have hsame : towardZero seconds = ⌊seconds⌋ := by
        rw [Binary64.towardZero_eq_floor_iff]
        by_contra hnone
        rw [not_or, not_le] at hnone
        exact hnot ⟨number, seconds, htime, hvalue, hnone⟩
      exact hsame ▸ .number htime hvalue

theorem Says.floor_iff {reading : Plaintext.Reading}
    (hsaid : record.Says towardZero emitted reading) :
    record.Says Int.floor emitted reading ↔ ¬ record.IsStampedLate := by
  rw [← hsaid.second.floor_iff]
  exact ⟨Says.second, fun hsecond => ⟨hsaid.name, hsaid.value, hsecond⟩⟩

end Record

theorem Plaintext.tells_floor_iff {emitted : Instant} {records : List Record}
    {points : List Point} (hplain : ∀ point ∈ points, IsPlainName point.name)
    (hsaid : List.Forall₂ (fun (record : Record) point =>
      record.Says towardZero emitted (readingOf point)) records points) :
    Tells Int.floor emitted records (encode points) ↔
      ∀ record ∈ records, ¬ record.IsStampedLate := by
  rw [tells_encode_iff hplain]
  clear hplain
  induction hsaid with
  | nil => simp
  | cons hfirst _ ih => rw [List.forall₂_cons, hfirst.floor_iff, ih, List.forall_mem_cons]

/-- The payload of some records tells the acceptable ones, with a number of seconds cut toward the
epoch. So it says the seconds in which their times lie exactly if none of them has a number with a
fraction before the epoch. The payload of two lists of points is that of the first with that of
the second behind it, and so the payloads of any number of writes, one behind the other, are read
as the points of all of them. -/
theorem Record.payload_tells (emitted : Instant) (records : List Record) :
    let accepted := records.filter fun record => record.IsAcceptable
    let payload := Plaintext.encode (Batch.ofRecords emitted records).points
    Plaintext.Tells towardZero emitted accepted payload ∧
    (Plaintext.Tells Int.floor emitted accepted payload ↔
      ∀ record ∈ accepted, ¬ record.IsStampedLate) ∧
    (∀ earlier later : List Point,
      Plaintext.encode (earlier ++ later) = Plaintext.encode earlier ++ Plaintext.encode later) ∧
    ∀ writes : List (Instant × List Record),
      let batches := writes.map fun write => Batch.ofRecords write.1 write.2
      let payloads := batches.map fun batch => Plaintext.encode batch.points
      (Text.lines (String.join payloads).toList).map Plaintext.reading? =
        (batches.flatMap Batch.points).map fun point => some (Plaintext.readingOf point) := by
  intro accepted payload
  have hsaid := (Batch.ofRecords_forall₂ emitted records).1
  refine ⟨?_, ?_, Plaintext.encode_append, ?_⟩
  · exact (Plaintext.tells_encode_iff fun _ => Batch.isPlainName_of_mem).2 hsaid
  · exact Plaintext.tells_floor_iff (fun _ => Batch.isPlainName_of_mem) hsaid
  · intro writes batches payloads
    have hjoin : String.join payloads = Plaintext.encode (batches.flatMap Batch.points) := by
      rw [List.flatMap_def, ← Plaintext.join_map_encode, List.map_map]
      rfl
    rw [hjoin]
    apply Plaintext.map_reading?_encode
    intro point hmem
    obtain ⟨batch, hbatch, hpoint⟩ := List.mem_flatMap.1 hmem
    obtain ⟨write, -, rfl⟩ := List.mem_map.1 hbatch
    exact Batch.isPlainName_of_mem hpoint

/-! ### Times before the epoch -/

/-- A record of one and a half seconds before the epoch. -/
def Record.beforeEpoch : Record :=
  [("name", .string "m"), ("time", .number (.real (.finite true ⟨3 * 2 ^ 51, -52, by decide⟩))),
    ("value", .number (.whole 1))]

/-- The line of a number of seconds does not say the second in which it lies: that would be `-2`
here, and the line says `-1`. -/
theorem Record.payload_beforeEpoch :
    Plaintext.encode (Batch.ofRecords Instant.epoch [Record.beforeEpoch]).points = "m 1 -1\n" ∧
      ¬ Plaintext.Tells Int.floor Instant.epoch
        ([Record.beforeEpoch].filter fun record => record.IsAcceptable)
        (Plaintext.encode (Batch.ofRecords Instant.epoch [Record.beforeEpoch]).points) := by
  refine ⟨by decide +kernel, ?_⟩
  have hgood : Record.beforeEpoch.IsAcceptable :=
    (Record.isSome_point?_iff Instant.epoch).1 (by decide)
  have htime : Dictionary.get? "time" Record.beforeEpoch =
      some (.number (.real (.finite true ⟨3 * 2 ^ 51, -52, by decide⟩))) := by
    rfl
  have hvalue : (Binary64.finite true ⟨3 * 2 ^ 51, -52, by decide⟩).toRat? = some (-(3 / 2)) := by
    norm_num [Binary64.toRat?, Binary64.Magnitude.toRat]
  intro htells
  rw [Plaintext.tells_encode_iff fun _ => Batch.isPlainName_of_mem] at htells
  have hcut := (Batch.ofRecords_forall₂ Instant.epoch [Record.beforeEpoch]).1
  rw [List.filter_cons_of_pos (by simpa using hgood), List.filter_nil] at htells hcut
  rcases htells with _ | ⟨hsaid, -⟩
  rcases hcut with _ | ⟨hsame, -⟩
  have hfloor := hsaid.second.eq_cut htime hvalue
  have htoward := hsame.second.eq_cut htime hvalue
  rw [htoward] at hfloor
  norm_num [towardZero] at hfloor

end MetricBridge
