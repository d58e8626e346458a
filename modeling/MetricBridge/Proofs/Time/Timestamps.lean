/-
# Texts that write an instant

`Writes` is the form of a timestamp: a date with a year of four digits, a time of day, perhaps a
fraction of a second with any number of digits, and an offset from UTC. It is told by what the parts
come to, whatever reads them. Leap seconds are left out, and so are fractions that are finer than
the nanoseconds of an instant. Every text of this form is read as its instant, and every instant in
the years from 0 to 9999 that is not in a leap second has such a text. The timestamp of a leap
second, with second 60, is read back as well.
-/

import Mathlib
import MetricBridge.Proofs.Decimal.Numerals
import MetricBridge.Proofs.Time.Calendar
import MetricBridge.Proofs.Time.Earlier
import MetricBridge.Time.Rfc3339
import MetricBridge.Time.Rfc3339.Read

namespace MetricBridge.Time

theorem Date.text_eq {date : Date} (hyear : 0 ≤ date.year ∧ date.year ≤ 9999) :
    date.text = Decimal.padded 4 date.year.toNat ++ '-' :: Decimal.padded 2 date.month ++
      '-' :: Decimal.padded 2 date.day := by
  rw [Date.text, Date.yearText, if_pos hyear]

namespace Rfc3339

/-! ### The form -/

/-- A fraction of a second of so many nanoseconds: nothing, or a point and digits. -/
inductive WritesFraction : (nano : Nat) → (text : List Char) → Prop
  | none : WritesFraction 0 []
  | digits {nano : Nat} {digits : List Char} (hsome : digits ≠ [])
      (hdigits : ∀ c ∈ digits, c.isDigit = true)
      (hvalue : Decimal.value digits * 10 ^ 9 = nano * 10 ^ digits.length) :
      WritesFraction nano ('.' :: digits)

/-- An offset from UTC of so many seconds: a letter for none, or a sign, hours and minutes. -/
inductive WritesOffset : (seconds : Int) → (text : List Char) → Prop
  | utc {letter : Char} (hletter : letter = 'Z' ∨ letter = 'z') : WritesOffset 0 [letter]
  | ahead {hours minutes : Nat} (hhours : hours < 24) (hminutes : minutes < 60) :
      WritesOffset (hours * 3600 + minutes * 60)
        ('+' :: Decimal.padded 2 hours ++ ':' :: Decimal.padded 2 minutes)
  | behind {hours minutes : Nat} (hhours : hours < 24) (hminutes : minutes < 60) :
      WritesOffset (-(hours * 3600 + minutes * 60))
        ('-' :: Decimal.padded 2 hours ++ ':' :: Decimal.padded 2 minutes)

/-- A time of day in hours, minutes and seconds. -/
def clock (hour minute second : Nat) : List Char :=
  Decimal.padded 2 hour ++ ':' :: Decimal.padded 2 minute ++ ':' :: Decimal.padded 2 second

/-- The text is a timestamp of the instant. -/
inductive Writes (instant : Instant) : (text : List Char) → Prop
  | of {date : Date} {hour minute second : Nat} {divider : Char} {fraction offset : List Char}
      {ahead : Int} (hvalid : date.isValid = true) (hyear : 0 ≤ date.year ∧ date.year ≤ 9999)
      (hdivider : divider = 'T' ∨ divider = 't' ∨ divider = ' ')
      (hclock : hour < 24 ∧ minute < 60 ∧ second < 60)
      (hfraction : WritesFraction instant.nano fraction) (hoffset : WritesOffset ahead offset)
      (hsecond : instant.second =
        date.toDay * 86400 + (hour * 3600 + minute * 60 + second : Nat) - ahead) :
      Writes instant (date.text ++ divider :: clock hour minute second ++ fraction ++ offset)

/-! ### Reading the parts -/

section Parts

variable (rest : List Char)

theorem mark_cons (c : Char) : mark c (c :: rest) = .ok ((), rest) := by
  rw [mark, if_pos rfl]

theorem twoDigits_padded {n : Nat} (hfits : n < 100) :
    twoDigits (Decimal.padded 2 n ++ rest) = .ok (n, rest) := by
  have hvalue := Decimal.value_padded 2 n
  have hdigits : ∀ c ∈ Decimal.padded 2 n, c.isDigit = true :=
    fun _ => Decimal.isDigit_of_mem_padded
  obtain ⟨a, b, hpair⟩ := List.length_eq_two.1 (Decimal.length_padded (by decide) hfits)
  rw [hpair] at hvalue hdigits ⊢
  simp [twoDigits, hvalue, hdigits a, hdigits b]

theorem fourDigits_padded {n : Nat} (hfits : n < 10000) :
    fourDigits (Decimal.padded 4 n ++ rest) = .ok (n, rest) := by
  have hvalue := Decimal.value_padded 4 n
  have hdigits : ∀ c ∈ Decimal.padded 4 n, c.isDigit = true :=
    fun _ => Decimal.isDigit_of_mem_padded
  have hlength : (Decimal.padded 4 n).length = 4 := Decimal.length_padded (by decide) hfits
  match hfour : Decimal.padded 4 n, hlength with
  | [a, b, c, d], _ =>
    rw [hfour] at hvalue hdigits
    simp [fourDigits, hvalue, hdigits a, hdigits b, hdigits c, hdigits d]

/-- Digits after the ninth have no effect. -/
theorem fraction_digits {digits : List Char} (hsome : digits ≠ [])
    (hdigits : ∀ c ∈ digits, c.isDigit = true) (hrest : ∀ c ∈ rest.head?, c.isDigit = false) :
    fraction ('.' :: (digits ++ rest)) =
      .ok (Decimal.value digits * 10 ^ 9 / 10 ^ digits.length, rest) := by
  have hnano : Decimal.value (digits.take 9) * 10 ^ (9 - (digits.take 9).length) =
      Decimal.value digits * 10 ^ 9 / 10 ^ digits.length := by
    rcases le_or_gt digits.length 9 with hshort | hlong
    · rw [List.take_of_length_le hshort, Nat.mul_div_assoc _ (Nat.pow_dvd_pow 10 hshort),
        Nat.pow_div hshort (by decide)]
    · have hbehind : (digits.drop 9).length = digits.length - 9 := List.length_drop
      have hsmall : Decimal.value (digits.drop 9) < 10 ^ (digits.length - 9) :=
        hbehind ▸ Decimal.value_lt fun c hc => hdigits c (List.mem_of_mem_drop hc)
      have hfront : (digits.take 9).length = 9 := by
        rw [List.length_take]
        omega
      have hpow : 10 ^ digits.length = 10 ^ (digits.length - 9) * 10 ^ 9 := by
        rw [← Nat.pow_add, Nat.sub_add_cancel hlong.le]
      have hvalue : Decimal.value digits =
          Decimal.value (digits.take 9) * 10 ^ (digits.length - 9) +
            Decimal.value (digits.drop 9) := by
        rw [← hbehind, ← Decimal.value_append, List.take_append_drop]
      rw [hfront, Nat.sub_self, Nat.pow_zero, Nat.mul_one, hpow,
        Nat.mul_div_mul_right _ _ (by decide), hvalue, Nat.mul_comm,
        Nat.mul_add_div (by positivity), Nat.div_eq_of_lt hsmall, Nat.add_zero]
  rw [fraction, Decimal.spanDigits_append_of_not_digit hdigits hrest]
  simp only [if_neg hsome, Nat.pow_eq, hnano]

theorem fraction_of_writes {nano : Nat} {text : List Char} (hwrites : WritesFraction nano text)
    (hrest : ∀ c ∈ rest.head?, c.isDigit = false ∧ c ≠ '.') :
    fraction (text ++ rest) = .ok (nano, rest) := by
  cases hwrites with
  | none =>
    cases rest with
    | nil => rfl
    | cons c others =>
      have hpoint := (hrest c rfl).2
      simp [fraction, hpoint]
  | digits hsome hdigits hvalue =>
    rw [List.cons_append, fraction_digits rest hsome hdigits fun c hc => (hrest c hc).1, hvalue,
      Nat.mul_div_cancel _ (by positivity)]

theorem separator_cons {divider : Char} (hdivider : divider = 'T' ∨ divider = 't' ∨ divider = ' ') :
    separator (divider :: rest) = .ok ((), rest) := by
  rw [separator, if_pos hdivider]

end Parts

theorem offsetPair_padded {n : Nat} (hfits : n < 100) (rest : List Char) :
    offsetPair (Decimal.padded 2 n ++ rest) = .ok (n, rest) := by
  rw [← twoDigits_padded rest hfits]
  obtain ⟨a, b, hpair⟩ := List.length_eq_two.1 (Decimal.length_padded (by decide) hfits)
  rw [hpair]
  rfl

/-- Behind a sign the hours and minutes of an offset are read, and the sign is applied to both. -/
theorem offset_signed {sign : Char} (hsign : sign = '+' ∨ sign = '-') {hours minutes : Nat}
    (hhours : hours < 24) (hminutes : minutes < 60) :
    offset (mark ':') (sign :: Decimal.padded 2 hours ++ ':' :: Decimal.padded 2 minutes) =
      .ok (if sign = '+' then hours * 3600 + minutes * 60 else -(hours * 3600 + minutes * 60),
        []) := by
  have hfirst := offsetPair_padded (n := hours) (by omega) (':' :: Decimal.padded 2 minutes)
  have hlast := offsetPair_padded (n := minutes) (by omega) []
  rw [List.append_nil] at hlast
  rcases hsign with rfl | rfl <;>
    simp [offset, hfirst, mark_cons, hlast, hminutes.not_ge, bind, Except.bind]

theorem offset_of_writes {seconds : Int} {text : List Char} (hwrites : WritesOffset seconds text) :
    offset (mark ':') text = .ok (seconds, []) := by
  cases hwrites with
  | utc hletter => rw [offset, if_pos hletter]
  | ahead hhours hminutes => exact offset_signed (Or.inl rfl) hhours hminutes
  | behind hhours hminutes => exact offset_signed (Or.inr rfl) hhours hminutes

theorem WritesFraction.lt {nano : Nat} {text : List Char} (hwrites : WritesFraction nano text) :
    nano < 10 ^ 9 := by
  cases hwrites with
  | none => decide
  | @digits digits _ hsome hdigits hvalue =>
    have hlt := Nat.mul_lt_mul_of_pos_right (Decimal.value_lt hdigits) (by decide : 0 < 10 ^ 9)
    rw [hvalue, Nat.mul_comm] at hlt
    exact Nat.lt_of_mul_lt_mul_left hlt

theorem WritesOffset.head {seconds : Int} {text : List Char} (hwrites : WritesOffset seconds text) :
    ∀ c ∈ text.head?, c.isDigit = false ∧ c ≠ '.' := by
  cases hwrites with
  | utc hletter => rcases hletter with rfl | rfl <;> simp [Char.isDigit]
  | ahead => simp [Char.isDigit]
  | behind => simp [Char.isDigit]

theorem WritesOffset.bounds {seconds : Int} {text : List Char}
    (hwrites : WritesOffset seconds text) : -86400 < seconds ∧ seconds < 86400 := by
  cases hwrites <;> omega

/-! ### Reading the whole -/

theorem length_le_utf8ByteSize (text : List Char) :
    text.length ≤ (String.ofList text).utf8ByteSize := by
  rw [String.utf8ByteSize_ofList]
  induction text with
  | nil => exact Nat.le_refl 0
  | cons c rest ih =>
    have hc := c.utf8Size_pos
    rw [List.length_cons, String.utf8Len_cons]
    omega

/-- A date with a year of four digits, a time of day and an offset make the instant that they come
to: neither the time on the spot nor that in UTC leaves the range of instants. -/
theorem assemble_eq_ok {instant : Instant} {date : Date} {secondOfDay : Nat} {ahead : Int}
    (hvalid : date.isValid = true) (hyear : 0 ≤ date.year ∧ date.year ≤ 9999)
    (hclock : secondOfDay < 86400) (hahead : -86400 < ahead ∧ ahead < 86400)
    (hnano : IsSubsecond (date.toDay * 86400 + secondOfDay) instant.nano)
    (hsecond : instant.second = date.toDay * 86400 + secondOfDay - ahead) :
    assemble date secondOfDay instant.nano ahead = .ok instant := by
  have hday := Date.toDay_bounds hvalid hyear.1 hyear.2
  have hoffset : isOffset ahead = true := by simpa [isOffset] using hahead
  have hspot :
      (Instant.ofParts? (date.toDay * 86400 + secondOfDay) instant.nano).isSome = true := by
    rw [Instant.ofParts?, dif_pos ⟨by simp only [firstSecond, lastSecond]; omega, hnano⟩]
    rfl
  have hinstant : Instant.ofParts? (date.toDay * 86400 + secondOfDay - ahead) instant.nano =
      some instant :=
    Instant.ofParts?_eq_some_iff.2 ⟨hsecond, rfl⟩
  simp only [assemble, hoffset, hspot, hinstant, and_self, if_true]

section Whole

variable {date : Date} {hour minute second nano : Nat} {divider : Char}
  {fractionText offsetText : List Char} {ahead : Int}

/-- A date, a time of day, a fraction and an offset are read as the instant that they come to. The
time of day may be the leap second at the end of a minute. -/
theorem readStrict_parts {instant : Instant} {secondOfDay : Nat} (hvalid : date.isValid = true)
    (hyear : 0 ≤ date.year ∧ date.year ≤ 9999)
    (hdivider : divider = 'T' ∨ divider = 't' ∨ divider = ' ')
    (hclock : hour < 24 ∧ minute < 60 ∧ second ≤ 60)
    (hfraction : WritesFraction nano fractionText) (hoffset : WritesOffset ahead offsetText)
    (htime : timeOfDay? hour minute second nano = some (secondOfDay, instant.nano))
    (hday : secondOfDay < 86400)
    (hnano : IsSubsecond (date.toDay * 86400 + secondOfDay) instant.nano)
    (hsecond : instant.second = date.toDay * 86400 + secondOfDay - ahead) :
    readStrict (date.text ++ divider :: clock hour minute second ++ fractionText ++ offsetText) =
      .ok instant := by
  obtain ⟨hhour, hminute, hshort⟩ := hclock
  obtain ⟨hmonth, -, hmonthDay⟩ := Date.bounds_of_isValid hvalid
  set text := date.text ++ divider :: clock hour minute second ++ fractionText ++ offsetText
    with htext
  have hlength : 19 ≤ text.length := by
    have hfour : (Decimal.padded 4 date.year.toNat).length = 4 :=
      Decimal.length_padded (by decide) (by omega)
    have htwo : ∀ n < 100, (Decimal.padded 2 n).length = 2 :=
      fun n hn => Decimal.length_padded (by decide) hn
    simp only [htext, Date.text_eq hyear, clock, List.length_append, List.length_cons, hfour,
      htwo date.month (by omega), htwo date.day (by omega), htwo hour (by omega),
      htwo minute (by omega), htwo second (by omega)]
    omega
  have hlong : ¬ (String.ofList text).utf8ByteSize < 19 :=
    (hlength.trans (length_le_utf8ByteSize text)).not_gt
  have hdate : (⟨date.year.toNat, date.month, date.day⟩ : Date) = date := by
    rw [Int.toNat_of_nonneg hyear.1]
  have hassembled := assemble_eq_ok hvalid hyear hday hoffset.bounds hnano hsecond
  rw [readStrict, if_neg hlong, htext, Date.text_eq hyear, clock]
  simp only [List.append_assoc, List.cons_append,
    fourDigits_padded _ (n := date.year.toNat) (by omega), mark_cons,
    twoDigits_padded _ (n := date.month) (by omega),
    twoDigits_padded _ (n := date.day) (by omega),
    hdate, hvalid, separator_cons _ hdivider, twoDigits_padded _ (n := hour) (by omega),
    twoDigits_padded _ (n := minute) (by omega), twoDigits_padded _ (n := second) (by omega),
    fraction_of_writes _ hfraction hoffset.head, htime, offset_of_writes hoffset, hassembled,
    bind, Except.bind]
  simp

end Whole

/-- What writes an instant is read as it. -/
theorem readStrict_of_writes {instant : Instant} {text : List Char}
    (hwrites : Writes instant text) : readStrict text = .ok instant := by
  cases hwrites with
  | @of date hour minute second divider fractionText offsetText ahead hvalid hyear hdivider hclock
      hfraction hoffset hsecond =>
    obtain ⟨hhour, hminute, hshort⟩ := hclock
    have htime : timeOfDay? hour minute second instant.nano =
        some (hour * 3600 + minute * 60 + second, instant.nano) := by
      rw [timeOfDay?, if_pos ⟨hhour, hminute, by omega⟩, if_neg (by omega)]
    exact readStrict_parts hvalid hyear hdivider ⟨hhour, hminute, hshort.le⟩ hfraction hoffset htime
      (by omega) (Or.inl hfraction.lt) hsecond

/-! ### Every instant is written -/

theorem writesFraction_padded {nano unit width : Nat} (hpos : 0 < width)
    (hunit : unit * 10 ^ width = 10 ^ 9) (hnano : nano < 10 ^ 9) (hwhole : nano % unit = 0) :
    WritesFraction nano ('.' :: Decimal.padded width (nano / unit)) := by
  have hunits : unit * (nano / unit) = nano := Nat.mul_div_cancel' (Nat.dvd_of_mod_eq_zero hwhole)
  have hfits : nano / unit < 10 ^ width := by
    apply Nat.div_lt_of_lt_mul
    rwa [hunit]
  have hlength := Decimal.length_padded hpos hfits
  refine .digits ?_ (fun c => Decimal.isDigit_of_mem_padded) ?_
  · rw [← List.length_pos_iff, hlength]
    exact hpos
  · rw [Decimal.value_padded, hlength, ← hunit]
    calc nano / unit * (unit * 10 ^ width) = unit * (nano / unit) * 10 ^ width := by ring
      _ = nano * 10 ^ width := by rw [hunits]

theorem writesFraction_fractionText {nano : Nat} (hnano : nano < 10 ^ 9) :
    WritesFraction nano (fractionText nano) := by
  unfold fractionText
  split_ifs with hzero hmilli hmicro
  · rw [hzero]
    exact .none
  · exact writesFraction_padded (by decide) (by decide) hnano hmilli
  · exact writesFraction_padded (by decide) (by decide) hnano hmicro
  · have hunit : 1 * 10 ^ 9 = 10 ^ 9 := Nat.one_mul _
    have hwritten := writesFraction_padded (by decide) hunit hnano (Nat.mod_one nano)
    rwa [Nat.div_one] at hwritten

/-- The timestamp with the letter for UTC, in the parts that are read. -/
theorem zuluText_eq (instant : Instant) :
    instant.zuluText = instant.date.text ++
      'T' :: clock ((instant.second % 86400).toNat / 3600)
        ((instant.second % 86400).toNat / 60 % 60)
        ((instant.second % 86400).toNat % 60 + instant.nano / 1000000000) ++
      fractionText (instant.nano % 1000000000) ++ ['Z'] := by
  simp [Instant.zuluText, Instant.localText, Instant.clockText, clock, Instant.secondsPerDay]

/-- The timestamp with the letter for UTC writes its instant. -/
theorem writes_zuluText {instant : Instant} (hplain : instant.isLeap = false)
    (hyear : 0 ≤ instant.date.year ∧ instant.date.year ≤ 9999) :
    Writes instant instant.zuluText := by
  have hnano := Instant.nano_lt_of_not_isLeap hplain
  have hday : instant.date.toDay = instant.second / 86400 := Date.toDay_ofDay _
  have hfraction := writesFraction_fractionText hnano
  have hwhole : instant.nano / 1000000000 = 0 := Nat.div_eq_of_lt hnano
  have hrest : instant.nano % 1000000000 = instant.nano := Nat.mod_eq_of_lt hnano
  rw [zuluText_eq, hwhole, hrest, Nat.add_zero]
  exact .of (Date.isValid_ofDay _) hyear (Or.inl rfl) ⟨by omega, by omega, by omega⟩
    hfraction (.utc (Or.inl rfl)) (by omega)

/-- Every instant in these years is read back from its timestamp, leap seconds included. -/
theorem readStrict_zuluText {instant : Instant}
    (hyear : 0 ≤ instant.date.year ∧ instant.date.year ≤ 9999) :
    readStrict instant.zuluText = .ok instant := by
  cases hleap : instant.isLeap with
  | false => exact readStrict_of_writes (writes_zuluText hleap hyear)
  | true =>
    rw [Instant.isLeap, decide_eq_true_eq] at hleap
    have hday : instant.date.toDay = instant.second / 86400 := Date.toDay_ofDay _
    have hspot : instant.date.toDay * 86400 + (instant.second % 86400).toNat = instant.second := by
      omega
    obtain ⟨hnano, hlast⟩ : instant.nano < 2000000000 ∧ instant.second % 60 = 59 :=
      instant.subsecond.resolve_left (by omega)
    have hwhole : instant.nano / 1000000000 = 1 := by omega
    have htime : timeOfDay? ((instant.second % 86400).toNat / 3600)
        ((instant.second % 86400).toNat / 60 % 60)
        ((instant.second % 86400).toNat % 60 + instant.nano / 1000000000)
        (instant.nano % 1000000000) = some ((instant.second % 86400).toNat, instant.nano) := by
      rw [timeOfDay?, if_pos ⟨by omega, by omega, by omega⟩, if_pos (by omega)]
      congr 2 <;> omega
    have hsubsecond : IsSubsecond (instant.date.toDay * 86400 + (instant.second % 86400).toNat)
        instant.nano := by
      rw [hspot]
      exact instant.subsecond
    rw [zuluText_eq]
    exact readStrict_parts (Date.isValid_ofDay _) hyear (Or.inl rfl)
      ⟨by omega, by omega, by omega⟩ (writesFraction_fractionText (Nat.mod_lt _ (by decide)))
      (.utc (Or.inl rfl)) htime (by omega) hsubsecond (by omega)

end Rfc3339

end MetricBridge.Time
