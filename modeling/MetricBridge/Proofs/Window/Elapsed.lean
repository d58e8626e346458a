/-
# Which texts are a duration ago

A moment in words is stripped as a whole, and what stands before `ago` is then read as a duration
and stripped once more. The second stripping takes colons that were not meant: one more in front,
which the first has left, and one between the unit and `ago`. `IsPast` counts the colons that a
text may have in these two places. `IsPast 1 0` has its colons around the whole, which is the form
that is meant; what is accepted is `IsPast 2 1`, and the difference are the texts with a surplus
colon. The words `now` and `end` are stripped only once.
-/

import Mathlib
import MetricBridge.Proofs.Window.Amounts

namespace MetricBridge.Window

open Time (Instant Duration)

/-! ### The form of a moment in the past -/

/-- The word behind a duration. -/
def ago : List Char :=
  ['a', 'g', 'o']

/-- The text is a duration of so many seconds and `ago`, with at most so many colons in front and
in between, and at most one behind. -/
def IsPast (inFront between : Nat) (text : List Char) (seconds : Nat) : Prop :=
  ∃ front words gap back, IsWrapping inFront front ∧ Amount words seconds ∧
    IsWrapping between gap ∧ IsWrapping 1 back ∧ text = front ++ words ++ gap ++ ago ++ back

/-- The part of a text before its first digit. -/
def beforeDigit (text : List Char) : List Char :=
  text.takeWhile fun c => !c.isDigit

/-- The part of a text from its first digit on. -/
def fromDigit (text : List Char) : List Char :=
  text.dropWhile fun c => !c.isDigit

/-- There are two colons before the first digit, or there is one between it and `ago`. -/
def HasSurplusColon (text : List Char) : Prop :=
  2 ≤ (beforeDigit text).count ':' ∨
    ∃ between after, fromDigit text = between ++ ago ++ after ∧ ':' ∈ between

theorem IsPast.mono {inFront between moreInFront moreBetween : Nat} {text : List Char}
    {seconds : Nat} (hpast : IsPast inFront between text seconds) (hfront : inFront ≤ moreInFront)
    (hbetween : between ≤ moreBetween) : IsPast moreInFront moreBetween text seconds := by
  obtain ⟨front, words, gap, back, hbefore, hamount, hgap, hback, htext⟩ := hpast
  exact ⟨front, words, gap, back, hbefore.mono hfront, hamount, hgap.mono hbetween, hback, htext⟩

/-! ### The colons of a text -/

theorem IsWrapping.not_isDigit {most : Nat} {text : List Char} (htext : IsWrapping most text)
    {c : Char} (hc : c ∈ text) : c.isDigit = false := by
  rcases htext.loose c hc with hblank | rfl
  · exact Text.eq_false_of_isBlank (by decide) hblank
  · rfl

theorem isTight_ago : IsTight ago :=
  isTight_of_letters (by simp [ago]) (by simp [ago, Char.isLower])

/-- No part of a wrapping is the word `ago`. -/
theorem IsWrapping.ne_append_ago {most : Nat} {back : List Char} (hback : IsWrapping most back)
    (before after : List Char) : back ≠ before ++ ago ++ after := by
  rintro rfl
  have hletter : 'g' ∈ before ++ ago ++ after := by simp [ago]
  rcases hback.loose 'g' hletter with hblank | hcolon
  · cases hblank
  · cases hcolon

theorem Amount.exists_digit {words : List Char} {seconds : Nat} (hamount : Amount words seconds) :
    ∃ c rest, words = c :: rest ∧ c.isDigit = true := by
  cases hamount with
  | of hsome hdigits hgap hunit =>
    obtain ⟨c, rest, rfl⟩ := List.exists_cons_of_ne_nil hsome
    exact ⟨c, _, rfl, hdigits c List.mem_cons_self⟩

theorem Amount.not_mem_colon {words : List Char} {seconds : Nat} (hamount : Amount words seconds) :
    ':' ∉ words := by
  cases hamount with
  | of hsome hdigits hgap hunit =>
    simp only [List.mem_append, not_or]
    refine ⟨⟨fun hmem => ?_, fun hmem => ?_⟩, fun hmem => ?_⟩
    · cases hdigits ':' hmem
    · cases hgap ':' hmem
    · cases hunit.letters.2 ':' hmem

section Parts

variable {inFront : Nat} {front words others : List Char} {seconds : Nat}
  (hfront : IsWrapping inFront front) (hamount : Amount words seconds)

include hfront hamount

theorem beforeDigit_append : beforeDigit (front ++ (words ++ others)) = front := by
  obtain ⟨c, rest, rfl, hdigit⟩ := hamount.exists_digit
  rw [beforeDigit, List.takeWhile_append_of_pos fun d hd => by simp [hfront.not_isDigit hd]]
  simp [hdigit]

theorem fromDigit_append : fromDigit (front ++ (words ++ others)) = words ++ others := by
  obtain ⟨c, rest, rfl, hdigit⟩ := hamount.exists_digit
  rw [fromDigit, List.dropWhile_append_of_pos fun d hd => by simp [hfront.not_isDigit hd]]
  simp [hdigit]

end Parts

/-- The colons stand around the whole exactly if there is no surplus colon. -/
theorem isPast_iff_not_hasSurplusColon {text : List Char} {seconds : Nat} :
    IsPast 1 0 text seconds ↔ IsPast 2 1 text seconds ∧ ¬ HasSurplusColon text := by
  constructor
  · intro hpast
    refine ⟨hpast.mono (by decide) (by decide), ?_⟩
    obtain ⟨front, words, gap, back, hfront, hamount, hgap, hback, rfl⟩ := hpast
    have hplain : ':' ∉ words ++ gap ++ ago := by
      have hnone : ':' ∉ gap := fun hmem => by cases hgap.isBlankText ':' hmem
      simp [hamount.not_mem_colon, hnone, ago]
    simp only [List.append_assoc]
    rintro (hmany | ⟨between, after, hsplit, hcolon⟩)
    · rw [beforeDigit_append hfront hamount] at hmany
      have hcount := hfront.count_le
      omega
    · -- The colon comes before a whole `ago`, so it is not in what stands behind the first one.
      rw [fromDigit_append hfront hamount] at hsplit
      have hregroup : (words ++ gap ++ ago) ++ back = between ++ (ago ++ after) := by
        simpa using hsplit
      rcases List.append_eq_append_iff.1 hregroup with ⟨more, hbetween, hmore⟩ | ⟨more, hwords, -⟩
      · exact hback.ne_append_ago more after (by simpa using hmore)
      · exact hplain (hwords ▸ List.mem_append_left _ hcolon)
  · rintro ⟨⟨front, words, gap, back, hfront, hamount, hgap, hback, rfl⟩, hnone⟩
    simp only [HasSurplusColon, List.append_assoc] at hnone
    rw [beforeDigit_append hfront hamount, fromDigit_append hfront hamount, not_or, not_le] at hnone
    obtain ⟨hfew, hbetween⟩ := hnone
    have hgapless : ':' ∉ gap := fun hmem =>
      hbetween ⟨words ++ gap, back, by simp, List.mem_append_right _ hmem⟩
    refine ⟨front, words, gap, back, ⟨hfront.loose, Nat.le_of_lt_succ hfew⟩, hamount,
      ⟨hgap.loose, (List.count_eq_zero_of_not_mem hgapless).le⟩, hback, by simp⟩

/-! ### Reading a moment -/

theorem beforeAgo?_eq_some_iff {text before : List Char} :
    beforeAgo? text = some before ↔ text = before ++ ago := by
  have hreverse : text = before ++ ago ↔ text.reverse = 'o' :: 'g' :: 'a' :: before.reverse := by
    rw [← List.reverse_inj]
    simp [ago]
  rw [hreverse, beforeAgo?]
  split
  next rest hrest =>
    rw [hrest, Option.some.injEq, ← List.reverse_inj]
    simp
  next hother =>
    rw [iff_false_intro (hother _)]
    simp

/-- Words that end in `ago` are neither `now` nor `end`. -/
theorem lowered_append_ago_ne (before : List Char) :
    lowered (before ++ ago) ≠ "now" ∧ lowered (before ++ ago) ≠ "end" := by
  have hlast : (lowered (before ++ ago)).toList.getLast? = some 'o' := by
    rw [lowered, String.toList_ofList, List.map_append]
    simp [ago]
  constructor
  all_goals
    intro heq
    rw [heq] at hlast
    revert hlast
    decide

theorem isTight_of_lowered_eq {word : List Char} {name : String} (hword : lowered word = name)
    (hsome : name.toList ≠ []) (hletters : ∀ c ∈ name.toList, c.isLower = true) : IsTight word := by
  have hname : word.map Char.toLower = name.toList := by
    rw [← hword, lowered, String.toList_ofList]
  refine isTight_of_letters (fun hnil => hsome ?_) fun c hc => hletters _ ?_
  · rw [← hname, hnil, List.map_nil]
  · rw [← hname]
    exact List.mem_map_of_mem hc

/-- Words are what is left of a text exactly if it wraps words that are not stripped. -/
theorem lowered_bare_iff {text : List Char} {name : String} (hsome : name.toList ≠ [])
    (hletters : ∀ c ∈ name.toList, c.isLower = true) :
    lowered (bare text) = name ↔ ∃ word, Wraps word text ∧ lowered word = name := by
  constructor
  · exact fun hname => ⟨bare text, wraps_bare text, hname⟩
  · rintro ⟨word, hwraps, hname⟩
    rw [bare_eq_of_wraps hwraps (isTight_of_lowered_eq hname hsome hletters), hname]

/-- What a text comes to, by the words that are left of it. A timestamp and a fault are not told
apart any further. -/
inductive ComesTo (option : String) (text : List Char) : Except Fault Moment → Prop
  | now (hword : lowered (bare text) = "now") : ComesTo option text (.ok .now)
  | endless (hword : lowered (bare text) = "end") : ComesTo option text (.ok .endless)
  | ago {before : List Char} {duration : Duration} (hbare : bare text = before ++ ago)
      (hduration : readDuration option before = .ok duration) :
      ComesTo option text (.ok (.ago duration))
  | fixed (instant : Instant) : ComesTo option text (.ok (.fixed instant))
  | fault (fault : Fault) : ComesTo option text (.error fault)

theorem comesTo_of_readMoment {option : String} {text : List Char} {result : Except Fault Moment}
    (hread : readMoment option text = result) : ComesTo option text result := by
  rw [← hread, readMoment]
  split
  next hnow => exact .now hnow
  next =>
    split
    next hend => exact .endless hend
    next =>
      split
      next before hbefore =>
        cases hduration : readDuration option before with
        | ok duration => exact .ago (beforeAgo?_eq_some_iff.1 hbefore) hduration
        | error fault => exact .fault fault
      next =>
        split
        next instant _ => exact .fixed instant
        next => exact .fault _

theorem readMoment_of_ago {option : String} {text before : List Char}
    (hbare : bare text = before ++ ago) :
    readMoment option text = (readDuration option before).map Moment.ago := by
  obtain ⟨hnow, hend⟩ := lowered_append_ago_ne before
  have hbefore : beforeAgo? (before ++ ago) = some before := beforeAgo?_eq_some_iff.2 rfl
  simp only [readMoment, hbare, hnow, hend, if_false, hbefore]

theorem readMoment_eq_now_iff {option : String} {text : List Char} :
    readMoment option text = .ok .now ↔ lowered (bare text) = "now" := by
  constructor
  · intro hread
    cases comesTo_of_readMoment hread with
    | now hword => exact hword
  · intro hword
    rw [readMoment, if_pos hword]

theorem readMoment_eq_endless_iff {option : String} {text : List Char} :
    readMoment option text = .ok .endless ↔ lowered (bare text) = "end" := by
  constructor
  · intro hread
    cases comesTo_of_readMoment hread with
    | endless hword => exact hword
  · intro hword
    have hnow : lowered (bare text) ≠ "now" := by
      rw [hword]
      decide
    rw [readMoment, if_neg hnow, if_pos hword]

/-- The text is a duration of so many seconds and then the word, with as many colons in front and in
between as are taken when both the text and what stands before the word are stripped. -/
def IsAmountBefore (word text : List Char) (seconds : Nat) : Prop :=
  ∃ front words gap back, IsWrapping 2 front ∧ Amount words seconds ∧ IsWrapping 1 gap ∧
    IsWrapping 1 back ∧ text = front ++ words ++ gap ++ word ++ back

theorem isAmountBefore_ago_iff {text : List Char} {seconds : Nat} :
    IsAmountBefore ago text seconds ↔ IsPast 2 1 text seconds :=
  Iff.rfl

/-- A duration before a word is stripped twice in front, and the blanks before the word are stripped
with a colon among them. -/
theorem exists_bare_eq_append_iff (option : String) {text word : List Char} {duration : Duration}
    (hword : IsTight word) :
    (∃ before, bare text = before ++ word ∧ readDuration option before = .ok duration) ↔
      ∃ seconds, IsAmountBefore word text seconds ∧ duration = .ofSeconds seconds := by
  constructor
  · rintro ⟨before, hbare, hduration⟩
    obtain ⟨seconds, ⟨words, ⟨inner, gap, hinner, hgap, hbefore⟩, hamount⟩, rfl⟩ :=
      readDuration_eq_ok_iff.1 hduration
    obtain ⟨front, back, hfront, hback, htext⟩ := wraps_bare text
    refine ⟨seconds, ⟨front ++ inner, words, gap, back, hfront.append hinner, hamount, hgap,
      hback, ?_⟩, rfl⟩
    rw [hbare, hbefore] at htext
    rw [htext]
    simp
  · rintro ⟨seconds, ⟨front, words, gap, back, hfront, hamount, hgap, hback, rfl⟩, rfl⟩
    have htight : IsTight (words ++ gap ++ word) :=
      ⟨by rw [List.append_assoc]; exact hamount.isTight.first.append _,
        by rw [List.reverse_append]; exact hword.last.append _⟩
    have hbare : bare (front ++ words ++ gap ++ word ++ back) =
        stripFront front ++ words ++ gap ++ word := by
      have haround := bare_around front back htight
      rw [hback.reverse.stripFront_eq_nil] at haround
      simpa using haround
    exact ⟨_, hbare, readDuration_eq_ok_iff.2
      ⟨seconds, ⟨words, ⟨_, gap, hfront.stripFront, hgap, rfl⟩, hamount⟩, rfl⟩⟩

theorem readMoment_eq_ago_iff {option : String} {text : List Char} {duration : Duration} :
    readMoment option text = .ok (.ago duration) ↔
      ∃ seconds, IsPast 2 1 text seconds ∧ duration = .ofSeconds seconds := by
  simp only [← isAmountBefore_ago_iff]
  rw [← exists_bare_eq_append_iff option isTight_ago]
  constructor
  · intro hread
    cases comesTo_of_readMoment hread with
    | ago hbare hduration => exact ⟨_, hbare, hduration⟩
  · rintro ⟨before, hbare, hduration⟩
    rw [readMoment_of_ago hbare, hduration]
    rfl

/-- A text is read as a duration ago exactly if it is one in words, with or without a surplus
colon: a second one in front, or one between the unit and `ago`. Those without are the texts in
which all colons stand around the whole; and a text is read as `now` or as `end` exactly if it is
this word between colons. -/
theorem readMoment_words (option : String) (text : List Char) :
    (∀ duration, readMoment option text = .ok (.ago duration) ↔
      ∃ seconds, IsPast 2 1 text seconds ∧ duration = .ofSeconds seconds) ∧
    (∀ seconds, IsPast 1 0 text seconds ↔ IsPast 2 1 text seconds ∧ ¬ HasSurplusColon text) ∧
    (readMoment option text = .ok .now ↔ ∃ word, Wraps word text ∧ lowered word = "now") ∧
    (readMoment option text = .ok .endless ↔ ∃ word, Wraps word text ∧ lowered word = "end") := by
  refine ⟨fun duration => readMoment_eq_ago_iff, fun seconds => isPast_iff_not_hasSurplusColon, ?_,
    ?_⟩
  · rw [readMoment_eq_now_iff]
    exact lowered_bare_iff (by decide) (by simp [Char.isLower])
  · rw [readMoment_eq_endless_iff]
    exact lowered_bare_iff (by decide) (by simp [Char.isLower])

theorem HasSurplusColon.not_isPast {text : List Char} (hsurplus : HasSurplusColon text)
    (seconds : Nat) : ¬ IsPast 1 0 text seconds :=
  fun hpast => (isPast_iff_not_hasSurplusColon.1 hpast).2 hsurplus

/-- The colons of `5 minutes: ago` and `::5 minutes ago` do not stand around the whole, yet both are
read as five minutes ago. -/
theorem readMoment_surplusColon :
    (readMoment "from" "5 minutes: ago".toList = .ok (.ago (.ofSeconds 300)) ∧
      ¬ ∃ seconds, IsPast 1 0 "5 minutes: ago".toList seconds) ∧
    readMoment "from" "::5 minutes ago".toList = .ok (.ago (.ofSeconds 300)) ∧
      ¬ ∃ seconds, IsPast 1 0 "::5 minutes ago".toList seconds := by
  have hbetween : HasSurplusColon "5 minutes: ago".toList :=
    Or.inr ⟨"5 minutes: ".toList, [], by decide, by decide⟩
  have hfront : HasSurplusColon "::5 minutes ago".toList := Or.inl (by decide)
  exact ⟨⟨by decide +kernel, not_exists.2 hbetween.not_isPast⟩, by decide +kernel,
    not_exists.2 hfront.not_isPast⟩

end MetricBridge.Window
