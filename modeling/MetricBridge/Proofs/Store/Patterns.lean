/-
# What a pattern stands for

`Denotes` tells which texts a segment of a pattern stands for, sign by sign: signs one behind
the other stand for texts one behind the other, and braces stand for whatever one of
their alternatives stands for. It does not mention how a segment is matched: no text is cut, and no
alternative is put in front of what stands behind its braces. Matching agrees with it as long as no
braces stand inside others, for then an alternative has no braces, and can be taken apart from what
follows it.

Matching calls itself with another pattern each time, for braces with one that was put together on
the spot. That it ends is told of a run whose calls may be nested to a given depth only: a
depth greater than the length of the pattern is never used up.
-/

import Mathlib
import MetricBridge.Proofs.Store.Glob

namespace MetricBridge.Glob

/-! ### The meaning of a segment -/

/-- The pattern stands for the text. -/
inductive Denotes : (pattern text : List Char) → Prop
  | nothing : Denotes [] []
  | many (text : List Char) : Denotes ['*'] text
  | one (c : Char) : Denotes ['?'] [c]
  | itself {c : Char} (hplain : c ≠ '*' ∧ c ≠ '?' ∧ c ≠ '\x7b') : Denotes [c] [c]
  | choice {alternatives : List (List Char)} {alternative text : List Char}
      (hplain : ∀ other ∈ alternatives, ',' ∉ other ∧ '\x7b' ∉ other ∧ '\x7d' ∉ other)
      (hmem : alternative ∈ alternatives) (hdenotes : Denotes alternative text) :
      Denotes ('\x7b' :: [','].intercalate alternatives ++ ['\x7d']) text
  | append {left right front back : List Char} (hleft : Denotes left front)
      (hright : Denotes right back) : Denotes (left ++ right) (front ++ back)

/-- Between an opening brace and the next closing one there is neither another opening brace nor a
point. -/
def IsFlat (pattern : List Char) : Prop :=
  ∀ before inside after, pattern = before ++ '\x7b' :: inside ++ '\x7d' :: after →
    '\x7d' ∉ inside → '\x7b' ∉ inside ∧ '.' ∉ inside

theorem IsFlat.of_infix {pattern part : List Char} (hflat : IsFlat pattern)
    (hpart : part <:+: pattern) : IsFlat part := by
  obtain ⟨front, back, rfl⟩ := hpart
  rintro before inside after rfl hclosed
  exact hflat (front ++ before) inside (after ++ back) (by simp) hclosed

/-! ### Braces -/

theorem splitBrace?_append {inside : List Char} (hinside : '\x7d' ∉ inside) (after : List Char) :
    splitBrace? (inside ++ '\x7d' :: after) = some (inside, after) := by
  induction inside with
  | nil => rw [List.nil_append, splitBrace?, if_pos rfl]
  | cons c rest ih =>
    have hc : c ≠ '\x7d' := (List.ne_of_not_mem_cons hinside).symm
    rw [List.cons_append, splitBrace?, if_neg hc, ih (List.not_mem_of_not_mem_cons hinside)]
    rfl

theorem splitBrace?_of_not_mem {text : List Char} (hnone : '\x7d' ∉ text) :
    splitBrace? text = none := by
  induction text with
  | nil => rfl
  | cons c rest ih =>
    have hc : c ≠ '\x7d' := (List.ne_of_not_mem_cons hnone).symm
    rw [splitBrace?, if_neg hc, ih (List.not_mem_of_not_mem_cons hnone)]
    rfl

/-- A text with a closing brace is cut at the first one. -/
theorem exists_closed_or_open (text : List Char) :
    (∃ inside after, text = inside ++ '\x7d' :: after ∧ '\x7d' ∉ inside) ∨ '\x7d' ∉ text := by
  by_cases hclosed : '\x7d' ∈ text
  · obtain ⟨inside, after, htext, hinside⟩ := List.eq_append_cons_of_mem hclosed
    exact Or.inl ⟨inside, after, htext, hinside⟩
  · exact Or.inr hclosed

theorem map_val_candidates {inside : List Char} (hinside : '\x7d' ∉ inside) (after : List Char) :
    (candidates (inside ++ '\x7d' :: after)).map Subtype.val =
      (Text.pieces ',' inside).map (· ++ after) := by
  unfold candidates
  split
  next hsplit =>
    rw [splitBrace?_append hinside] at hsplit
    cases hsplit
  next hsplit =>
    rw [splitBrace?_append hinside] at hsplit
    cases hsplit
    rw [List.map_map]
    exact List.attach_map_val (f := (· ++ after))

theorem candidates_of_not_mem {text : List Char} (hnone : '\x7d' ∉ text) : candidates text = [] := by
  unfold candidates
  split
  next => rfl
  next hsplit =>
    rw [splitBrace?_of_not_mem hnone] at hsplit
    cases hsplit

/-! ### Matching sign by sign -/

theorem mem_suffixes_iff {text suffix : List Char} : suffix ∈ suffixes text ↔ suffix <:+ text := by
  induction text with
  | nil => simp [suffixes]
  | cons c rest ih => rw [suffixes, List.mem_cons, ih, List.suffix_cons_iff]

section Signs

variable {rest segment : List Char}

theorem segmentFits_nil_iff : segmentFits [] segment = true ↔ segment = [] := by
  rw [segmentFits, List.isEmpty_iff]

theorem segmentFits_many_iff :
    segmentFits ('*' :: rest) segment = true ↔
      ∃ front back, segment = front ++ back ∧ segmentFits rest back = true := by
  rw [segmentFits.eq_def]
  dsimp only
  rw [if_pos rfl, List.any_eq_true]
  constructor
  · rintro ⟨back, hback, hfits⟩
    obtain ⟨front, rfl⟩ := mem_suffixes_iff.1 hback
    exact ⟨front, back, rfl, hfits⟩
  · rintro ⟨front, back, rfl, hfits⟩
    exact ⟨back, mem_suffixes_iff.2 (List.suffix_append front back), hfits⟩

theorem segmentFits_one_iff :
    segmentFits ('?' :: rest) segment = true ↔
      ∃ c others, segment = c :: others ∧ segmentFits rest others = true := by
  rw [segmentFits.eq_def]
  dsimp only
  rw [if_neg (by decide), if_pos rfl]
  cases segment <;> simp

theorem segmentFits_itself_iff {c : Char} (hplain : c ≠ '*' ∧ c ≠ '?' ∧ c ≠ '\x7b') :
    segmentFits (c :: rest) segment = true ↔
      ∃ others, segment = c :: others ∧ segmentFits rest others = true := by
  obtain ⟨hmany, hone, hbrace⟩ := hplain
  rw [segmentFits.eq_def]
  dsimp only
  rw [if_neg hmany, if_neg hone, if_neg hbrace]
  cases segment with
  | nil => simp
  | cons d others =>
    simp only [Bool.and_eq_true, decide_eq_true_eq, List.cons.injEq]
    constructor
    · rintro ⟨rfl, hfits⟩
      exact ⟨others, ⟨rfl, rfl⟩, hfits⟩
    · rintro ⟨others, ⟨rfl, rfl⟩, hfits⟩
      exact ⟨rfl, hfits⟩

theorem segmentFits_brace :
    segmentFits ('\x7b' :: rest) segment =
      ((candidates rest).map Subtype.val).any fun candidate => segmentFits candidate segment := by
  rw [segmentFits.eq_def]
  dsimp only
  rw [if_neg (by decide), if_neg (by decide), if_pos rfl, List.any_map]
  rfl

theorem segmentFits_choice_iff {inside after : List Char} (hinside : '\x7d' ∉ inside) :
    segmentFits ('\x7b' :: (inside ++ '\x7d' :: after)) segment = true ↔
      ∃ alternative ∈ Text.pieces ',' inside,
        segmentFits (alternative ++ after) segment = true := by
  rw [segmentFits_brace, map_val_candidates hinside, List.any_map, List.any_eq_true]
  rfl

theorem segmentFits_open (hnone : '\x7d' ∉ rest) : segmentFits ('\x7b' :: rest) segment = false := by
  rw [segmentFits_brace, candidates_of_not_mem hnone]
  rfl

end Signs

theorem sign_cases (c : Char) :
    c = '*' ∨ c = '?' ∨ c = '\x7b' ∨ (c ≠ '*' ∧ c ≠ '?' ∧ c ≠ '\x7b') := by
  tauto

/-! ### Matching and meaning -/

/-- What a pattern stands for fits it, and whatever stands behind both is matched next. -/
theorem Denotes.segmentFits_append {pattern text : List Char} (hdenotes : Denotes pattern text)
    {after rest : List Char} (hafter : segmentFits after rest = true) :
    segmentFits (pattern ++ after) (text ++ rest) = true := by
  induction hdenotes generalizing after rest with
  | nothing => exact hafter
  | many text => exact segmentFits_many_iff.2 ⟨text, rest, rfl, hafter⟩
  | one c => exact segmentFits_one_iff.2 ⟨c, rest, rfl, hafter⟩
  | itself hplain => exact (segmentFits_itself_iff hplain).2 ⟨rest, rfl, hafter⟩
  | @choice alternatives alternative text hplain hmem hdenotes ih =>
    have hclosed : '\x7d' ∉ [','].intercalate alternatives := by
      intro hbrace
      rcases Text.mem_of_mem_intercalate hbrace with hcomma | ⟨other, hother, hin⟩
      · exact absurd hcomma (by decide)
      · exact (hplain other hother).2.2 hin
    have hpieces : Text.pieces ',' ([','].intercalate alternatives) = alternatives :=
      Text.pieces_intercalate (fun other hother => (hplain other hother).1)
        (List.ne_nil_of_mem hmem)
    have hfits : segmentFits ('\x7b' :: ([','].intercalate alternatives ++ '\x7d' :: after))
        (text ++ rest) = true :=
      (segmentFits_choice_iff hclosed).2 ⟨alternative, hpieces.symm ▸ hmem, ih hafter⟩
    simpa using hfits
  | append hleft hright ihLeft ihRight =>
    rw [List.append_assoc, List.append_assoc]
    exact ihLeft (ihRight hafter)

/-- A pattern without braces can be taken apart from what follows it. -/
theorem exists_append_of_segmentFits {pattern after segment : List Char}
    (hplain : '\x7b' ∉ pattern) (hfits : segmentFits (pattern ++ after) segment = true) :
    ∃ front back, segment = front ++ back ∧ segmentFits pattern front = true ∧
      segmentFits after back = true := by
  induction pattern generalizing segment with
  | nil => exact ⟨[], segment, rfl, segmentFits_nil_iff.2 rfl, hfits⟩
  | cons c rest ih =>
    have hrest := List.not_mem_of_not_mem_cons hplain
    rw [List.cons_append] at hfits
    rcases sign_cases c with rfl | rfl | rfl | hc
    · obtain ⟨front, others, rfl, hothers⟩ := segmentFits_many_iff.1 hfits
      obtain ⟨middle, back, rfl, hmiddle, hback⟩ := ih hrest hothers
      exact ⟨front ++ middle, back, by simp, segmentFits_many_iff.2 ⟨front, middle, rfl, hmiddle⟩,
        hback⟩
    · obtain ⟨d, others, rfl, hothers⟩ := segmentFits_one_iff.1 hfits
      obtain ⟨front, back, rfl, hfront, hback⟩ := ih hrest hothers
      exact ⟨d :: front, back, rfl, segmentFits_one_iff.2 ⟨d, front, rfl, hfront⟩, hback⟩
    · exact absurd List.mem_cons_self hplain
    · obtain ⟨others, rfl, hothers⟩ := (segmentFits_itself_iff hc).1 hfits
      obtain ⟨front, back, rfl, hfront, hback⟩ := ih hrest hothers
      exact ⟨c :: front, back, rfl, (segmentFits_itself_iff hc).2 ⟨front, rfl, hfront⟩, hback⟩

/-- What stands between the commas of flat braces has neither commas nor braces. -/
theorem IsFlat.plain_of_mem_pieces {inside after : List Char}
    (hflat : IsFlat ('\x7b' :: (inside ++ '\x7d' :: after))) (hclosed : '\x7d' ∉ inside) :
    ∀ alternative ∈ Text.pieces ',' inside,
      ',' ∉ alternative ∧ '\x7b' ∉ alternative ∧ '\x7d' ∉ alternative := by
  intro alternative hmem
  have hinside : '\x7b' ∉ inside := (hflat [] inside after rfl hclosed).1
  have hpart := (Text.infix_of_mem_pieces hmem).subset
  exact ⟨Text.separator_not_mem_of_mem_pieces hmem, fun hbrace => hinside (hpart hbrace),
    fun hbrace => hclosed (hpart hbrace)⟩

/-- The induction is on the length of the pattern, since an alternative is no part of the pattern
that begins with the brace before it. -/
theorem denotes_of_segmentFits {pattern segment : List Char} (hflat : IsFlat pattern)
    (hfits : segmentFits pattern segment = true) : Denotes pattern segment := by
  induction hlength : pattern.length using Nat.strong_induction_on
    generalizing pattern segment with
  | _ length ih =>
    subst hlength
    cases pattern with
    | nil =>
      rw [segmentFits_nil_iff.1 hfits]
      exact .nothing
    | cons c rest =>
      have hrest : IsFlat rest := hflat.of_infix (List.suffix_cons c rest).isInfix
      have hshorter : rest.length < (c :: rest).length := Nat.lt_succ_self _
      rcases sign_cases c with rfl | rfl | rfl | hc
      · obtain ⟨front, back, rfl, hback⟩ := segmentFits_many_iff.1 hfits
        exact .append (.many front) (ih _ hshorter hrest hback rfl)
      · obtain ⟨d, others, rfl, hothers⟩ := segmentFits_one_iff.1 hfits
        exact .append (.one d) (ih _ hshorter hrest hothers rfl)
      · rcases exists_closed_or_open rest with ⟨inside, after, rfl, hclosed⟩ | hopen
        · obtain ⟨alternative, hmem, hchosen⟩ := (segmentFits_choice_iff hclosed).1 hfits
          have hplain := hflat.plain_of_mem_pieces hclosed
          obtain ⟨front, back, rfl, hfront, hback⟩ :=
            exists_append_of_segmentFits (hplain alternative hmem).2.1 hchosen
          have hpart := Text.infix_of_mem_pieces hmem
          have halternative : Denotes alternative front := by
            refine ih _ ?_ (hrest.of_infix (hpart.trans (List.prefix_append _ _).isInfix)) hfront rfl
            have hshort := hpart.length_le
            simp only [List.length_cons, List.length_append]
            omega
          have hbehind : Denotes after back := by
            refine ih _ ?_ (hrest.of_infix ?_) hback rfl
            · simp only [List.length_cons, List.length_append]
              omega
            · exact ((List.suffix_cons _ after).trans (List.suffix_append inside _)).isInfix
          have hwhole := Denotes.append (.choice hplain hmem halternative) hbehind
          rw [Text.intercalate_pieces] at hwhole
          simpa using hwhole
        · rw [segmentFits_open hopen] at hfits
          cases hfits
      · obtain ⟨others, rfl, hothers⟩ := (segmentFits_itself_iff hc).1 hfits
        exact .append (.itself hc) (ih _ hshorter hrest hothers rfl)

theorem segmentFits_iff_denotes {pattern segment : List Char} (hflat : IsFlat pattern) :
    segmentFits pattern segment = true ↔ Denotes pattern segment := by
  refine ⟨denotes_of_segmentFits hflat, fun hdenotes => ?_⟩
  simpa using hdenotes.segmentFits_append (segmentFits_nil_iff.2 rfl)

/-- With an opening brace that is never closed, nothing fits: the brace stays where it is, behind
whatever is put in the place of the braces before it. -/
theorem segmentFits_of_open {before rest segment : List Char} (hopen : '\x7d' ∉ rest) :
    segmentFits (before ++ '\x7b' :: rest) segment = false := by
  induction hlength : before.length using Nat.strong_induction_on
    generalizing before segment with
  | _ length ih =>
    subst hlength
    rw [Bool.eq_false_iff]
    intro hfits
    cases before with
    | nil =>
      rw [List.nil_append, segmentFits_open hopen] at hfits
      cases hfits
    | cons c others =>
      have hnot : ∀ segment, segmentFits (others ++ '\x7b' :: rest) segment ≠ true := fun _ =>
        Bool.eq_false_iff.1 (ih _ (Nat.lt_succ_self _) rfl)
      rw [List.cons_append] at hfits
      rcases sign_cases c with rfl | rfl | rfl | hc
      · obtain ⟨-, back, -, hback⟩ := segmentFits_many_iff.1 hfits
        exact hnot back hback
      · obtain ⟨-, back, -, hback⟩ := segmentFits_one_iff.1 hfits
        exact hnot back hback
      · rcases exists_closed_or_open (others ++ '\x7b' :: rest) with
          ⟨inside, after, hsplit, hclosed⟩ | hnone
        · rw [hsplit] at hfits
          obtain ⟨alternative, hmem, hchosen⟩ := (segmentFits_choice_iff hclosed).1 hfits
          have hshort := (Text.infix_of_mem_pieces hmem).length_le
          rcases List.append_eq_append_iff.1 hsplit with ⟨more, -, hmore⟩ | ⟨more, hothers, hafter⟩
          · have hin : '\x7d' ∈ '\x7b' :: rest := hmore ▸ by simp
            exact hopen ((List.mem_cons.1 hin).resolve_left (by decide))
          · cases more with
            | nil => cases hafter
            | cons d kept =>
              rw [List.cons_append, List.cons.injEq] at hafter
              obtain ⟨rfl, rfl⟩ := hafter
              have hlength : (alternative ++ kept).length < ('\x7b' :: others).length := by
                simp only [hothers, List.length_cons, List.length_append]
                omega
              rw [← List.append_assoc, ih _ hlength rfl] at hchosen
              cases hchosen
        · rw [segmentFits_open hnone] at hfits
          cases hfits
      · obtain ⟨back, -, hback⟩ := (segmentFits_itself_iff hc).1 hfits
        exact hnot back hback

/-! ### Matching ends -/

/-- One call of matching, with what it calls as a parameter. -/
def matchOnce {m : Type → Type} [Monad m] (call : List Char → List Char → m Bool) :
    (pattern segment : List Char) → m Bool
  | [], segment => pure segment.isEmpty
  | c :: rest, segment =>
    if c = '*' then (suffixes segment).anyM (call rest)
    else if c = '?' then
      match segment with
      | [] => pure false
      | _ :: others => call rest others
    else if c = '\x7b' then (candidates rest).anyM fun candidate => call candidate.1 segment
    else
      match segment with
      | [] => pure false
      | d :: others => if c = d then call rest others else pure false

/-- Matching with calls that may be nested so deep. There is no answer if that is not enough. -/
def fitsWithin : (depth : Nat) → (pattern segment : List Char) → Option Bool
  | 0, _, _ => none
  | depth + 1, pattern, segment => matchOnce (fitsWithin depth) pattern segment

/-- Each call is about a shorter pattern, so matching follows from the answers for those. -/
theorem matchOnce_eq {m : Type → Type} [Monad m] [LawfulMonad m]
    {call : List Char → List Char → m Bool} {pattern : List Char}
    (hcall : ∀ shorter : List Char, shorter.length < pattern.length →
      ∀ segment, call shorter segment = pure (segmentFits shorter segment))
    (segment : List Char) : matchOnce call pattern segment = pure (segmentFits pattern segment) := by
  cases pattern with
  | nil => rw [matchOnce, segmentFits]
  | cons c rest =>
    have hrest := hcall rest (Nat.lt_succ_self _)
    rw [segmentFits.eq_def]
    unfold matchOnce
    dsimp only
    split_ifs with hmany hone hbrace
    · have hall : call rest = fun suffix => pure (segmentFits rest suffix) := funext hrest
      rw [hall, List.anyM_pure]
    · cases segment with
      | nil => rfl
      | cons d others => exact hrest others
    · have hall : (fun candidate : Text.Within rest => call candidate.1 segment) =
          fun candidate => pure (segmentFits candidate.1 segment) :=
        funext fun candidate => hcall candidate.1 (Nat.lt_succ_of_le candidate.2) segment
      rw [hall, List.anyM_pure]
    · cases segment with
      | nil => rfl
      | cons d others =>
        by_cases hc : c = d
        · simp [hc, hrest]
        · simp [hc]

theorem fitsWithin_eq_some {depth : Nat} {pattern : List Char} (hdepth : pattern.length < depth)
    (segment : List Char) :
    fitsWithin depth pattern segment = some (segmentFits pattern segment) := by
  induction depth generalizing pattern segment with
  | zero => exact absurd hdepth (Nat.not_lt_zero _)
  | succ depth ih =>
    exact matchOnce_eq (fun shorter hshorter => ih (by omega)) segment

/-! ### Whole patterns -/

/-- A pattern without braces in braces, and without a point in braces, fits the names that
have as many segments as it, each of which its segment stands for; with an opening brace that is not
closed it stands for nothing, and without any sign for itself only. Matching ends for all
patterns: calls are never nested deeper than the pattern is long. -/
theorem fits_iff_denotes (pattern name : List Char) :
    (IsFlat pattern → (fits pattern name = true ↔
      List.Forall₂ Denotes (pattern.splitOn '.') (name.splitOn '.'))) ∧
    (∀ before rest text, '\x7d' ∉ rest → ¬ Denotes (before ++ '\x7b' :: rest) text) ∧
    (IsLiteral pattern → (fits pattern name = true ↔ name = pattern)) ∧
    ∀ segment depth, pattern.length < depth →
      fitsWithin depth pattern segment = some (segmentFits pattern segment) := by
  refine ⟨fun hflat => ?_, ?_, fits_iff_of_isLiteral, fun segment depth hdepth =>
    fitsWithin_eq_some hdepth segment⟩
  · have hmeaning : ∀ part ∈ pattern.splitOn '.', ∀ segment,
        segmentFits part segment = true ↔ Denotes part segment := by
      intro part hpart segment
      rw [← Text.pieces_eq_splitOn] at hpart
      exact segmentFits_iff_denotes (hflat.of_infix (Text.infix_of_mem_pieces hpart))
    rw [fits_iff_forall₂, Text.pieces_eq_splitOn, Text.pieces_eq_splitOn, List.forall₂_iff_zip,
      List.forall₂_iff_zip]
    refine and_congr_right fun _ => forall₂_congr fun part segment => forall_congr' fun hpair => ?_
    exact hmeaning part (List.of_mem_zip hpair).1 segment
  · intro before rest text hopen hdenotes
    have hfits := hdenotes.segmentFits_append (segmentFits_nil_iff.2 rfl)
    rw [List.append_nil, List.append_nil, segmentFits_of_open hopen] at hfits
    cases hfits

theorem isFlat_choiceOfMany : IsFlat "\x7ba,b*\x7d.?".toList := by
  intro before inside after hsplit hclosed
  obtain ⟨-, hinside⟩ : before = [] ∧ inside ++ '\x7d' :: after = "a,b*\x7d.?".toList := by
    simpa [List.cons_eq_append_iff] using hsplit
  have hcut := splitBrace?_append hclosed after
  rw [hinside] at hcut
  have hfirst : splitBrace? "a,b*\x7d.?".toList = some ("a,b*".toList, ".?".toList) := by decide
  obtain ⟨rfl, -⟩ := Prod.mk.inj (Option.some.inj (hcut.symm.trans hfirst))
  decide

/-- Braces with a wildcard in one of their alternatives. -/
theorem fits_choiceOfMany :
    IsFlat "\x7ba,b*\x7d.?".toList ∧ fits "\x7ba,b*\x7d.?".toList "bcd.e".toList = true := by
  have hplain : ∀ alternative ∈ [['a'], ['b', '*']],
      ',' ∉ alternative ∧ '\x7b' ∉ alternative ∧ '\x7d' ∉ alternative := by decide
  have hbraces : Denotes "\x7ba,b*\x7d".toList "bcd".toList :=
    .choice hplain (by decide) (.append (.itself (c := 'b') (by decide)) (.many ['c', 'd']))
  refine ⟨isFlat_choiceOfMany, ((fits_iff_denotes _ _).1 isFlat_choiceOfMany).2 ?_⟩
  have hpattern : "\x7ba,b*\x7d.?".toList.splitOn '.' =
      ["\x7ba,b*\x7d".toList, ['?']] := by
    decide +kernel
  have hname : "bcd.e".toList.splitOn '.' = ["bcd".toList, ['e']] := by decide +kernel
  rw [hpattern, hname]
  exact .cons hbraces (.cons (.one 'e') .nil)

end MetricBridge.Glob
