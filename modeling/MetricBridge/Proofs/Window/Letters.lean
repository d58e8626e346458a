/-
# Moments and durations in either letter case

Whoever writes a unit, `now`, `end` or a timestamp may write it in upper or lower case: two texts that
differ in letter case only are read as the same duration, and as the same moment of these kinds, or
both are refused. The exception is the word `ago`, which is compared as it stands. So a duration
and `ago` in capitals, which is no timestamp either, is refused.

What is said of two texts here is the value that is read, if there is one. The reason for which a
text is refused quotes the text, and so it keeps the case.
-/

import Mathlib
import MetricBridge.Proofs.Time.Letters
import MetricBridge.Proofs.Window.Elapsed

namespace MetricBridge.Window

open Text (SameLetters)
open Time (Instant Duration)
open Time.Rfc3339 (readStrict)

variable {option : String} {text other : List Char}

/-! ### What does not mind the case -/

theorem eq_of_sameLetters {α : Type} {read : List Char → α}
    (hread : ∀ text, read (text.map Char.toLower) = read text) (hsame : SameLetters text other) :
    read text = read other := by
  rw [← hread text, hsame, hread]

theorem dropColon_lower (text : List Char) :
    dropColon (text.map Char.toLower) = (dropColon text).map Char.toLower := by
  cases text with
  | nil => rfl
  | cons c rest =>
    have hcolon : c.toLower = ':' ↔ c = ':' := Text.toLower_eq_iff_of_not_isAlpha (by decide)
    by_cases hc : c = ':'
    · subst hc
      rfl
    · simp [dropColon, hc, hcolon]

theorem bare_lower (text : List Char) :
    bare (text.map Char.toLower) = (bare text).map Char.toLower := by
  simp only [bare, Text.trim_lower, dropColon_lower, ← List.map_reverse]

theorem bare_sameLetters (hsame : SameLetters text other) :
    SameLetters (bare text) (bare other) := by
  rw [SameLetters, ← bare_lower, hsame, bare_lower]

theorem lowered_lower (text : List Char) : lowered (text.map Char.toLower) = lowered text := by
  simp [lowered, Function.comp_def]

theorem secondsOf_lower (text : List Char) :
    secondsOf (text.map Char.toLower) = secondsOf text := by
  unfold secondsOf
  simp only [Text.spanDigits_lower, Text.trim_lower, lowered_lower]

/-! ### Durations -/

theorem toOption_readDuration (option : String) (text : List Char) :
    (readDuration option text).toOption =
      (secondsOf (bare text)).toOption.map fun seconds => .ofSeconds seconds := by
  rw [readDuration]
  cases secondsOf (bare text) <;> rfl

theorem toOption_readDuration_eq (option : String) (hsame : SameLetters text other) :
    (readDuration option text).toOption = (readDuration option other).toOption := by
  rw [toOption_readDuration, toOption_readDuration,
    eq_of_sameLetters secondsOf_lower (bare_sameLetters hsame)]

/-! ### The word at the end -/

/-- The text is a duration of so many seconds and then `ago`, whose letters are those of the word. -/
def IsPastSpelled (word text : List Char) (seconds : Nat) : Prop :=
  SameLetters word ago ∧ IsAmountBefore word text seconds

theorem isTight_of_sameLetters_ago {word : List Char} (hword : SameLetters word ago) :
    IsTight word := by
  have hletters : ∀ c ∈ word.map Char.toLower, c.isLower = true := by
    rw [hword]
    simp [ago, Char.isLower]
  refine isTight_of_letters ?_ fun c hc => hletters _ (List.mem_map_of_mem hc)
  rintro rfl
  cases hword

theorem exists_bare_of_isPastSpelled {word : List Char} {seconds : Nat} (option : String)
    (hspelled : IsPastSpelled word text seconds) :
    ∃ before, bare text = before ++ word ∧
      readDuration option before = .ok (.ofSeconds seconds) :=
  (exists_bare_eq_append_iff option (isTight_of_sameLetters_ago hspelled.1)).2
    ⟨seconds, hspelled.2, rfl⟩

/-- Texts in which the letters are the same have them in the same places. -/
theorem exists_append_of_sameLetters {front back : List Char}
    (hsame : SameLetters (front ++ back) text) :
    ∃ before after, text = before ++ after ∧ SameLetters front before ∧ SameLetters back after := by
  rw [SameLetters, List.map_append, eq_comm, List.map_eq_append_iff] at hsame
  obtain ⟨before, after, htext, hbefore, hafter⟩ := hsame
  exact ⟨before, after, htext, hbefore.symm, hafter.symm⟩

theorem eq_of_append_eq_append_ago {before front word : List Char} (hword : SameLetters word ago)
    (hsplit : before ++ word = front ++ ago) : word = ago := by
  have hlength : word.length = ago.length := by
    have hmap := congrArg List.length hword
    rwa [List.length_map, List.length_map] at hmap
  exact (List.append_inj' hsplit hlength).2

/-- Words that end in `ago`, in whatever case, are no timestamp. -/
theorem toOption_readStrict_of_ago {before word : List Char} (hword : SameLetters word ago) :
    (readStrict (before ++ word)).toOption = none := by
  rw [← Time.Rfc3339.readStrict_lower, List.map_append, hword]
  cases hread : readStrict (before.map Char.toLower ++ ago.map Char.toLower) with
  | error reason => rfl
  | ok instant =>
    have hstamp := Time.Rfc3339.isStampText_of_readStrict hread 'o' (by simp [ago])
    exact absurd hstamp (by simp [Time.Rfc3339.IsStampChar])

/-! ### Moments -/

/-- The moment that words mean if they are no duration in the past. -/
def plainMoment? (words : List Char) : Option Moment :=
  if lowered words = "now" then some .now
  else if lowered words = "end" then some .endless
  else (readStrict words).toOption.map .fixed

theorem plainMoment?_eq (hsame : SameLetters text other) :
    plainMoment? text = plainMoment? other := by
  unfold plainMoment?
  rw [eq_of_sameLetters lowered_lower hsame,
    eq_of_sameLetters Time.Rfc3339.readStrict_lower hsame]

theorem plainMoment?_of_ago {before word : List Char} (hword : SameLetters word ago) :
    plainMoment? (before ++ word) = none := by
  have hlowered : lowered (before ++ word) = lowered (before ++ ago) :=
    eq_of_sameLetters lowered_lower (by rw [SameLetters, List.map_append, hword, List.map_append])
  obtain ⟨hnow, hend⟩ := lowered_append_ago_ne before
  rw [plainMoment?, hlowered, if_neg hnow, if_neg hend, toOption_readStrict_of_ago hword]
  rfl

theorem toOption_readMoment_of_ago {before : List Char} (hbare : bare text = before ++ ago) :
    (readMoment option text).toOption = (readDuration option before).toOption.map .ago := by
  rw [readMoment_of_ago hbare]
  cases readDuration option before <;> rfl

theorem toOption_readMoment_of_not_ago (hbare : ∀ before, bare text ≠ before ++ ago) :
    (readMoment option text).toOption = plainMoment? (bare text) := by
  have hnone : beforeAgo? (bare text) = none :=
    Option.eq_none_iff_forall_ne_some.2 fun before heq => hbare before (beforeAgo?_eq_some_iff.1 heq)
  rw [readMoment, plainMoment?]
  split_ifs
  · rfl
  · rfl
  · simp only [hnone]
    cases readStrict (bare text) <;> rfl

/-- Of the texts that say a duration ago, those with `ago` in lower case are read as it, and the
others are refused. -/
theorem toOption_readMoment_of_isPastSpelled {word : List Char} {seconds : Nat}
    (hspelled : IsPastSpelled word text seconds) :
    (readMoment option text).toOption =
      if word = ago then some (.ago (.ofSeconds seconds)) else none := by
  obtain ⟨before, hbare, hduration⟩ := exists_bare_of_isPastSpelled option hspelled
  split_ifs with hword
  · subst hword
    rw [toOption_readMoment_of_ago hbare, hduration]
    rfl
  · rw [toOption_readMoment_of_not_ago, hbare, plainMoment?_of_ago hspelled.1]
    intro front hfront
    exact hword (eq_of_append_eq_append_ago hspelled.1 (hbare ▸ hfront))

theorem toOption_readMoment_of_not_isPastSpelled
    (hnone : ∀ word seconds, ¬ IsPastSpelled word text seconds) :
    (readMoment option text).toOption = plainMoment? (bare text) := by
  by_cases hago : ∃ before, bare text = before ++ ago
  · obtain ⟨before, hbare⟩ := hago
    rw [toOption_readMoment_of_ago hbare, hbare, plainMoment?_of_ago rfl]
    cases hduration : readDuration option before with
    | error fault => rfl
    | ok duration =>
      obtain ⟨seconds, hamount, -⟩ :=
        (exists_bare_eq_append_iff _ isTight_ago).1 ⟨before, hbare, hduration⟩
      exact absurd ⟨rfl, hamount⟩ (hnone ago seconds)
  · exact toOption_readMoment_of_not_ago (not_exists.1 hago)

theorem exists_isPastSpelled_of_sameLetters {word : List Char} {seconds : Nat}
    (hsame : SameLetters text other) (hspelled : IsPastSpelled word text seconds) :
    ∃ otherWord, IsPastSpelled otherWord other seconds := by
  obtain ⟨before, hbare, hduration⟩ := exists_bare_of_isPastSpelled "" hspelled
  have hwords := bare_sameLetters hsame
  rw [hbare] at hwords
  obtain ⟨otherBefore, otherWord, hother, hbefore, hword⟩ := exists_append_of_sameLetters hwords
  have hago : SameLetters otherWord ago := hword.symm.trans hspelled.1
  have hread := toOption_readDuration_eq "" hbefore
  rw [hduration] at hread
  cases hotherDuration : readDuration "" otherBefore with
  | error fault =>
    rw [hotherDuration] at hread
    cases hread
  | ok duration =>
    rw [hotherDuration] at hread
    obtain rfl : Duration.ofSeconds seconds = duration := Option.some.inj hread
    obtain ⟨others, hamount, hseconds⟩ :=
      (exists_bare_eq_append_iff _ (isTight_of_sameLetters_ago hago)).1
        ⟨otherBefore, hother, hotherDuration⟩
    obtain rfl : seconds = others := by
      simpa [Duration.ofSeconds, Duration.perSecond] using hseconds
    exact ⟨otherWord, hago, hamount⟩

/-- Two texts that differ in letter case only are read as the same duration or are both refused as
one. They are read as the same moment or both refused as one, unless they say the same duration ago
and just one of them has `ago` in lower case; and then this one is read as the moment so long ago, and
the other is refused. -/
theorem readMoment_sameLetters_iff (option : String) (hsame : SameLetters text other) :
    (readDuration option text).toOption = (readDuration option other).toOption ∧
    ((readMoment option text).toOption = (readMoment option other).toOption ↔
      ∀ word otherWord seconds, IsPastSpelled word text seconds →
        IsPastSpelled otherWord other seconds → (word = ago ↔ otherWord = ago)) ∧
    ∀ word seconds, IsPastSpelled word text seconds →
      (readMoment option text).toOption =
        if word = ago then some (.ago (.ofSeconds seconds)) else none := by
  refine ⟨toOption_readDuration_eq option hsame, ?_,
    fun word seconds => toOption_readMoment_of_isPastSpelled⟩
  constructor
  · intro hread word otherWord seconds hspelled hother
    rw [toOption_readMoment_of_isPastSpelled hspelled,
      toOption_readMoment_of_isPastSpelled hother] at hread
    by_cases hword : word = ago
    · by_cases hotherWord : otherWord = ago
      · exact iff_of_true hword hotherWord
      · simp [hword, hotherWord] at hread
    · by_cases hotherWord : otherWord = ago
      · simp [hword, hotherWord] at hread
      · exact iff_of_false hword hotherWord
  · intro hspelling
    by_cases hpast : ∃ word seconds, IsPastSpelled word text seconds
    · obtain ⟨word, seconds, hspelled⟩ := hpast
      obtain ⟨otherWord, hother⟩ := exists_isPastSpelled_of_sameLetters hsame hspelled
      have hword := hspelling word otherWord seconds hspelled hother
      rw [toOption_readMoment_of_isPastSpelled hspelled,
        toOption_readMoment_of_isPastSpelled hother]
      simp only [hword]
    · have hnone : ∀ word seconds, ¬ IsPastSpelled word text seconds := by
        simpa only [not_exists] using hpast
      have hotherNone : ∀ word seconds, ¬ IsPastSpelled word other seconds := by
        intro word seconds hother
        obtain ⟨firstWord, hspelled⟩ := exists_isPastSpelled_of_sameLetters hsame.symm hother
        exact hnone firstWord seconds hspelled
      rw [toOption_readMoment_of_not_isPastSpelled hnone,
        toOption_readMoment_of_not_isPastSpelled hotherNone, plainMoment?_eq (bare_sameLetters hsame)]

theorem eq_ago_of_isPastSpelled {front word : List Char} {seconds : Nat}
    (hbare : bare text = front ++ ago) (hspelled : IsPastSpelled word text seconds) :
    word = ago := by
  obtain ⟨before, hbefore, -⟩ := exists_bare_of_isPastSpelled "" hspelled
  exact eq_of_append_eq_append_ago hspelled.1 (hbefore.symm.trans hbare)

/-- The letters of a unit may be in any case. -/
theorem readMoment_sameLetters_unit :
    SameLetters "5 MINUTES ago".toList "5 Minutes ago".toList ∧
      (readMoment "from" "5 MINUTES ago".toList).toOption =
        (readMoment "from" "5 Minutes ago".toList).toOption := by
  have hsame : SameLetters "5 MINUTES ago".toList "5 Minutes ago".toList := by decide +kernel
  have hfirst : bare "5 MINUTES ago".toList = "5 MINUTES ".toList ++ ago := by decide +kernel
  have hsecond : bare "5 Minutes ago".toList = "5 Minutes ".toList ++ ago := by decide +kernel
  refine ⟨hsame, (readMoment_sameLetters_iff "from" hsame).2.1.2 ?_⟩
  intro word otherWord seconds hspelled hother
  exact iff_of_true (eq_ago_of_isPastSpelled hfirst hspelled)
    (eq_ago_of_isPastSpelled hsecond hother)

/-- Five minutes ago, with `ago` in capitals, differs in letter case only from what is read as
five minutes ago, and is refused. -/
theorem readMoment_agoInCapitals :
    SameLetters "5 minutes AGO".toList "5 minutes ago".toList ∧
      (readMoment "from" "5 minutes ago".toList).toOption = some (.ago (.ofSeconds 300)) ∧
      (readMoment "from" "5 minutes AGO".toList).toOption = none := by
  refine ⟨?_, ?_, ?_⟩ <;> decide +kernel

end MetricBridge.Window
