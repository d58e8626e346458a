/-
# Readers that read what is spelled and nothing else

A reader understands a spelling if it reads all that is spelled so, and nothing else. Readers of
lists, of pairs, of what may be null and of structures understand what is put together from what
their parts understand. So what a whole text says can be told by the grammar in both directions: it
is read as a value exactly if it spells this value.
-/

import Mathlib
import MetricBridge.Proofs.Json.Parsing

namespace MetricBridge.Json

open Text (Shorter Within)

/-- A reader reads what is spelled in this way, and nothing else. Spellings are told from the
blanks in front of them and from the marks behind. -/
structure Understands {α : Type} (reader : Reader α) (Spells : α → List Char → Prop) : Prop where
  begins ⦃value : α⦄ ⦃text : List Char⦄ (htext : Spells value text) :
    ∃ c others, text = c :: others ∧ BeginsToken c
  reads ⦃value : α⦄ ⦃text : List Char⦄ (htext : Spells value text) : Reads reader value text
  only : ReadsOnly reader Spells

section

variable {α β : Type} {reader : Reader α} {Spells : α → List Char → Prop}

/-- A whole text is read as a value exactly if it spells it, with blanks around. -/
theorem Understands.whole_eq_ok_iff (hreader : Understands reader Spells) {text : String}
    {value : α} : whole reader text = .ok value ↔ ∃ before inner after,
      IsGap before ∧ Spells value inner ∧ IsGap after ∧ text.toList = before ++ inner ++ after := by
  constructor
  · exact exists_of_whole hreader.only
  · rintro ⟨before, inner, after, hbefore, hinner, hafter, htext⟩
    exact whole_of_reads (hreader.reads hinner) hbefore hafter htext

theorem understands_string (expected : String) : Understands (string expected) SpellsString where
  begins := by
    rintro content _ ⟨body, -, rfl⟩
    exact ⟨'"', _, rfl, by decide, by decide⟩
  reads _ _ htext := reads_string htext
  only := readsOnly_string expected

/-! ### Null -/

theorem Understands.nullable (hreader : Understands reader Spells)
    (hnull : ∀ ⦃value : α⦄ ⦃others : List Char⦄, ¬ Spells value ('n' :: others)) :
    Understands (nullable reader) (SpellsNullable Spells) where
  begins := by
    rintro _ _ (_ | htext)
    · exact ⟨'n', _, rfl, by decide, by decide⟩
    · exact hreader.begins htext
  reads := by
    rintro _ _ (_ | htext)
    · exact reads_nullable_none reader
    · obtain ⟨c, others, rfl, hc⟩ := hreader.begins htext
      refine reads_nullable_some (hreader.reads htext) hc ?_
      rintro rfl
      exact hnull htext
  only := by
    intro text value rest hread
    obtain ⟨gap, hgap, htext⟩ := exists_gap text
    obtain ⟨hlength, hread⟩ := exists_of_plain hread
    unfold Json.nullable at hread
    split at hread
    next others hspace =>
      obtain ⟨after, hword, hread⟩ := exists_of_bind_eq_ok hread
      cases hread
      have hothers := text_of_word (congrArg plainRest hword)
      refine ⟨gap, _, hgap, .null, ?_⟩
      calc text = gap ++ 'n' :: others := by rw [htext, hspace]
        _ = gap ++ 'n' :: (['u', 'l', 'l'] ++ after.1) :=
            congrArg (fun others => gap ++ 'n' :: others) hothers
        _ = gap ++ ['n', 'u', 'l', 'l'] ++ after.1 := by simp
    next =>
      obtain ⟨⟨found, after⟩, hvalue, hread⟩ := exists_of_bind_eq_ok hread
      cases hread
      obtain ⟨before, spelled, hbefore, hspelled, htext⟩ := hreader.only (congrArg plain hvalue)
      exact ⟨before, spelled, hbefore, .some hspelled, htext⟩

/-! ### Elements -/

theorem nextElement_close (first : Bool) {text rest : List Char}
    (htext : skipSpace text = ']' :: rest) : nextElement first text = .ok none := by
  unfold nextElement
  split
  next hnil => cases htext.symm.trans hnil
  next c others hcons =>
    cases htext.symm.trans hcons
    rw [if_pos rfl]

theorem nextElement_true {text rest : List Char} {c : Char} (htext : skipSpace text = c :: rest)
    (hc : c ≠ ']') : nextElement true text = .ok (some (spaced text)) := by
  unfold nextElement
  split
  next hnil => cases htext.symm.trans hnil
  next d others hcons =>
    cases htext.symm.trans hcons
    rw [if_neg hc, if_pos rfl]

theorem exists_nextElement_false {text behind rest : List Char} {c : Char}
    (htext : skipSpace text = ',' :: behind) (hbehind : skipSpace behind = c :: rest)
    (hc : c ≠ ']') :
    ∃ hlength, nextElement false text = .ok (some ⟨skipSpace behind, hlength⟩) := by
  have hinner := length_skipSpace_le behind
  have houter := length_lt_of_skipSpace htext
  refine ⟨by omega, ?_⟩
  unfold nextElement
  split
  next hnil => cases htext.symm.trans hnil
  next d others hcons =>
    cases htext.symm.trans hcons
    simp only [if_neg (show ',' ≠ ']' by decide), Bool.false_eq_true, if_false, if_true]
    split
    next hnil => cases hbehind.symm.trans hnil
    next d remaining hcons =>
      cases hbehind.symm.trans hcons
      rw [if_neg hc]

/-- What stands in front of the next element. -/
theorem exists_front_of_nextElement {first : Bool} {text : List Char} {start : Within text}
    (hnext : nextElement first text = .ok (some start)) :
    ∃ front, IsFront first front ∧ text = front ++ start.1 := by
  obtain ⟨gap, hgap, htext⟩ := exists_gap text
  unfold nextElement at hnext
  split at hnext
  · cases hnext
  next c others hspace =>
    split_ifs at hnext with hclose hfirst hcomma
    · cases hnext
    · cases hnext
      exact ⟨gap, hfirst ▸ .first hgap, htext⟩
    · obtain ⟨before, hbefore, hothers⟩ := exists_gap others
      split at hnext
      · cases hnext
      next d remaining hbehind =>
        split_ifs at hnext with hd
        cases hnext
        have hfront : IsFront first (gap ++ ',' :: before) := by
          rw [Bool.eq_false_of_not_eq_true hfirst]
          exact .comma hgap hbefore
        refine ⟨_, hfront, ?_⟩
        show text = gap ++ ',' :: before ++ skipSpace others
        rw [List.append_assoc, List.cons_append, ← hothers, ← hcomma, ← hspace]
        exact htext

theorem exists_of_nextElement_none {first : Bool} {text : List Char}
    (hnext : nextElement first text = .ok none) : ∃ rest, skipSpace text = ']' :: rest := by
  unfold nextElement at hnext
  split at hnext
  · cases hnext
  next c others hspace =>
    split_ifs at hnext with hclose hfirst hcomma
    · exact ⟨others, hclose ▸ hspace⟩
    · cases hnext
    · split at hnext
      · cases hnext
      · split_ifs at hnext
        cases hnext

theorem plainRest_listEnd {text rest : List Char} (htext : skipSpace text = ']' :: rest) :
    plainRest (listEnd text) = .ok rest := by
  unfold listEnd
  split
  next hnil => cases htext.symm.trans hnil
  next c others hcons =>
    cases htext.symm.trans hcons
    rw [if_pos rfl]
    rfl

theorem skipSpace_of_listEnd {text rest : List Char} (hend : plainRest (listEnd text) = .ok rest) :
    skipSpace text = ']' :: rest := by
  unfold listEnd at hend
  split at hend
  · cases hend
  next c others hspace =>
    split_ifs at hend with hclose hcomma
    · cases hend
      exact hclose ▸ hspace
    · cases hend
    · cases hend

/-- What stands before a closing bracket and what stands behind it. -/
theorem exists_of_listEnd {text : List Char} {rest : Shorter text}
    (hend : listEnd text = .ok rest) : ∃ gap, IsGap gap ∧ text = gap ++ ']' :: rest.1 := by
  obtain ⟨gap, hgap, htext⟩ := exists_gap text
  rw [skipSpace_of_listEnd (congrArg plainRest hend)] at htext
  exact ⟨gap, hgap, htext⟩

/-- An element is reached behind what stands in front of it, and read. -/
theorem Understands.exists_element (hreader : Understands reader Spells) {first : Bool}
    {front part rest : List Char} {item : α} (hfront : IsFront first front)
    (hitem : Spells item part) (hends : EndsValue rest) :
    ∃ start, nextElement first (front ++ part ++ rest) = .ok (some start) ∧
      plain (reader start.1) = .ok (item, rest) := by
  obtain ⟨c, others, rfl, hc⟩ := hreader.begins hitem
  have hclose : c ≠ ']' := by
    rintro rfl
    exact hc.2 (by simp)
  have hread : plain (reader (c :: (others ++ rest))) = .ok (item, rest) :=
    hreader.reads hitem isGap_nil hends
  cases hfront with
  | first hbefore =>
    have htext := skipSpace_token hbefore hc others rest
    refine ⟨_, nextElement_true htext hclose, ?_⟩
    show plain (reader (skipSpace _)) = _
    rwa [htext]
  | @comma gap before hgap hbefore =>
    have htext := skipSpace_token hbefore hc others rest
    have hcomma : skipSpace (gap ++ ',' :: before ++ c :: others ++ rest) =
        ',' :: (before ++ c :: others ++ rest) := by
      simp [skipSpace_gap_cons hgap (show isSpace ',' = false by decide)]
    obtain ⟨hlength, hnext⟩ := exists_nextElement_false hcomma htext hclose
    refine ⟨_, hnext, ?_⟩
    show plain (reader (skipSpace _)) = _
    rwa [htext]

/-- An element that was read stands behind what may stand in front of it. -/
theorem Understands.exists_of_element (hreader : Understands reader Spells) {first : Bool}
    {text : List Char} {start : Within text} {item : α} {after : Shorter start.1}
    (hnext : nextElement first text = .ok (some start))
    (hread : reader start.1 = .ok (item, after)) :
    ∃ front part, IsFront first front ∧ Spells item part ∧ text = front ++ part ++ after.1 := by
  obtain ⟨front, hfront, htext⟩ := exists_front_of_nextElement hnext
  obtain ⟨gap, part, hgap, hpart, hstart⟩ := hreader.only (congrArg plain hread)
  refine ⟨front ++ gap, part, hfront.append hgap, hpart, ?_⟩
  calc text = front ++ start.1 := htext
    _ = front ++ (gap ++ part ++ after.1) := congrArg (front ++ ·) hstart
    _ = front ++ gap ++ part ++ after.1 := by simp

/-! ### Lists -/

/-- A list of values, each spelled in one way. -/
def SpellsList (Spells : α → List Char → Prop) (items : List α) (text : List Char) : Prop :=
  ∃ parts inner, List.Forall₂ Spells items parts ∧ Joined parts inner ∧
    text = '[' :: inner ++ [']']

theorem plain_elements_close (reader : Reader α) (first : Bool) {text rest : List Char}
    (htext : skipSpace text = ']' :: rest) :
    plain (elements reader first text) = .ok ([], rest) := by
  obtain ⟨_, hend⟩ := exists_of_plainRest (plainRest_listEnd htext)
  rw [elements, nextElement_close first htext]
  simp only [hend]
  rfl

/-- The loop over the elements of a list, with the elements that were read before. -/
def collect (reader : Reader α) (items : List α) (first : Bool) (text : List Char) :
    Except Flaw (List α × List Char) :=
  (plain (elements reader first text)).map fun (more, rest) => (items ++ more, rest)

theorem collect_of_nextElement {items : List α} {first : Bool} {text after : List Char}
    {start : Within text} {item : α} (hnext : nextElement first text = .ok (some start))
    (hread : plain (reader start.1) = .ok (item, after)) :
    collect reader items first text = collect reader (items ++ [item]) false after := by
  obtain ⟨hlength, hread⟩ := exists_of_plain hread
  rw [collect, collect, elements, hnext]
  simp only [hread]
  cases elements reader false after <;> simp [plain, Except.map]

/-- What a list becomes with one more element. -/
def Collects (Spells : α → List Char → Prop) (items : List α) (part : List Char)
    (next : List α) : Prop :=
  ∃ item, Spells item part ∧ next = items ++ [item]

theorem takes_collects_iff {items last : List α} {parts : List (List Char)} :
    Takes (Collects Spells) items parts last ↔
      ∃ more, last = items ++ more ∧ List.Forall₂ Spells more parts := by
  constructor
  · intro htakes
    induction htakes with
    | nil => exact ⟨[], (List.append_nil _).symm, .nil⟩
    | cons hstep _ ih =>
      obtain ⟨item, hitem, rfl⟩ := hstep
      obtain ⟨more, rfl, hmore⟩ := ih
      exact ⟨item :: more, by simp, .cons hitem hmore⟩
  · rintro ⟨more, rfl, hmore⟩
    induction hmore generalizing items with
    | nil =>
      rw [List.append_nil]
      exact .nil
    | @cons item part more parts hitem _ ih =>
      refine .cons ⟨item, hitem, rfl⟩ ?_
      have hparts : Takes _ (items ++ [item]) parts _ := ih
      rwa [List.append_assoc] at hparts

theorem Understands.isLoop_collect (hreader : Understands reader Spells) :
    IsLoop (collect reader) ']' (Collects Spells) where
  isClosing := by simp
  closes items first gap hgap rest := by
    rw [collect, plain_elements_close reader first (skipSpace_gap_cons hgap (by decide) rest)]
    simp [Except.map]
  begins := by
    rintro items next part ⟨item, hitem, rfl⟩ before rest hbefore hends
    obtain ⟨start, hnext, hread⟩ := hreader.exists_element (.first hbefore) hitem hends
    exact collect_of_nextElement hnext hread
  continues := by
    rintro items next part ⟨item, hitem, rfl⟩ gap before rest hgap hbefore hends
    obtain ⟨start, hnext, hread⟩ := hreader.exists_element (.comma hgap hbefore) hitem hends
    have hloop : collect reader items false _ = _ := collect_of_nextElement hnext hread
    simpa using hloop

theorem Understands.unrolls_collect (hreader : Understands reader Spells) (bound : ℕ) :
    Unrolls (collect reader) ']' (Collects Spells) bound := by
  intro items first text result _ hloop
  have hstep := hloop
  rw [collect, elements] at hstep
  split at hstep
  next => cases hstep
  next hnext =>
    obtain ⟨rest, hspace⟩ := exists_of_nextElement_none hnext
    obtain ⟨gap, hgap, htext⟩ := exists_gap text
    rw [collect, plain_elements_close reader first hspace] at hloop
    rw [htext, hspace]
    exact .closed hgap (by simpa [Except.map] using hloop.symm)
  next start hnext =>
    cases hread : reader start.1 with
    | error flaw =>
      rw [hread] at hstep
      cases hstep
    | ok read =>
      obtain ⟨item, after⟩ := read
      rw [collect_of_nextElement hnext (congrArg plain hread)] at hloop
      obtain ⟨front, part, hfront, hpart, hwhole⟩ := hreader.exists_of_element hnext hread
      exact .of_taken hwhole hfront ⟨item, hpart, rfl⟩ hloop

/-- A reader of lists understands lists of what the reader of elements understands. -/
theorem Understands.list (hreader : Understands reader Spells) :
    Understands (list reader) (SpellsList Spells) where
  begins := by
    rintro items _ ⟨parts, inner, -, -, rfl⟩
    exact ⟨'[', _, rfl, by decide, by decide⟩
  reads := by
    rintro items _ ⟨parts, inner, hparts, hjoined, rfl⟩ gap rest hgap _
    have htakes : Takes (Collects Spells) [] parts items :=
      takes_collects_iff.2 ⟨items, rfl, hparts⟩
    have hloop := hreader.isLoop_collect.eq_of_takes hjoined htakes rest
    have helements : plain (elements reader true (inner ++ ']' :: rest)) = .ok (items, rest) := by
      rw [collect] at hloop
      cases hread : plain (elements reader true (inner ++ ']' :: rest)) with
      | error flaw =>
        rw [hread] at hloop
        cases hloop
      | ok read => simpa [hread, Except.map, Prod.ext_iff] using hloop
    obtain ⟨_, helements⟩ := exists_of_plain helements
    have htext := skipSpace_enclosed hgap (show isSpace '[' = false by decide) inner ']' rest
    unfold Json.list
    split
    next others hcons =>
      cases htext.symm.trans hcons
      rw [helements]
      rfl
    next hother => exact absurd htext (hother _)
  only := by
    intro text items rest hread
    obtain ⟨gap, hgap, htext⟩ := exists_gap text
    obtain ⟨hlength, hread⟩ := exists_of_plain hread
    unfold Json.list at hread
    split at hread
    next others hspace =>
      obtain ⟨⟨found, after⟩, helements, hread⟩ := exists_of_bind_eq_ok hread
      cases hread
      have hloop : collect reader [] true others = .ok (items, after.1) := by
        rw [collect, helements]
        rfl
      obtain ⟨parts, inner, hjoined, htakes, hothers⟩ :=
        exists_joined_of_unrolls (hreader.unrolls_collect _) le_rfl hloop
      obtain ⟨more, rfl, hparts⟩ := takes_collects_iff.1 htakes
      exact ⟨gap, _, hgap, ⟨parts, inner, hparts, hjoined, rfl⟩, eq_enclosed htext hspace hothers⟩
    next => exact absurd hread wrongKind_ne_ok

/-! ### Pairs -/

/-- A pair of values, each spelled in its way, as a list. -/
def SpellsPair (Spells : α → List Char → Prop) (SpellsOther : β → List Char → Prop)
    (value : α × β) (text : List Char) : Prop :=
  ∃ one other inner, Spells value.1 one ∧ SpellsOther value.2 other ∧ Joined [one, other] inner ∧
    text = '[' :: inner ++ [']']

variable {second : Reader β} {SpellsOther : β → List Char → Prop}

theorem Understands.plain_pairElements (hfirst : Understands reader Spells)
    (hsecond : Understands second SpellsOther) {a : α} {b : β} {one other inner : List Char}
    (hone : Spells a one) (hother : SpellsOther b other) (hjoined : Joined [one, other] inner)
    (rest : List Char) :
    plain (pairElements reader second (inner ++ ']' :: rest)) = .ok ((a, b), rest) := by
  obtain _ | _ | @⟨before, _, gap, _, _, _, hbefore, hgap, hlast⟩ := hjoined
  obtain _ | @⟨front, _, after, hfront, hafter⟩ := hlast
  have hclose : EndsValue (after ++ ']' :: rest) :=
    endsValue_append hafter (endsValue_cons (by simp) rest)
  have hcomma : EndsValue (gap ++ ',' :: front ++ other ++ (after ++ ']' :: rest)) := by
    rw [List.append_assoc, List.append_assoc]
    exact endsValue_append hgap (endsValue_cons (by simp) _)
  obtain ⟨start, hnext, hread⟩ := hfirst.exists_element (.first hbefore) hone hcomma
  obtain ⟨_, hread⟩ := exists_of_plain hread
  obtain ⟨later, hnextOther, hreadOther⟩ :=
    hsecond.exists_element (.comma hgap hfront) hother hclose
  obtain ⟨_, hreadOther⟩ := exists_of_plain hreadOther
  obtain ⟨_, hend⟩ :=
    exists_of_plainRest (plainRest_listEnd (skipSpace_gap_cons hafter (by decide) rest))
  have htext : before ++ one ++ gap ++ ',' :: (front ++ other ++ after) ++ ']' :: rest =
      before ++ one ++ (gap ++ ',' :: front ++ other ++ (after ++ ']' :: rest)) := by
    simp
  rw [htext, pairElements]
  simp only [bind, Except.bind, hnext, hread, hnextOther, hreadOther, hend]
  rfl

theorem Understands.exists_of_pairElements (hfirst : Understands reader Spells)
    (hsecond : Understands second SpellsOther) {text : List Char} {value : α × β}
    {rest : Shorter text} (hread : pairElements reader second text = .ok (value, rest)) :
    ∃ one other inner, Spells value.1 one ∧ SpellsOther value.2 other ∧ Joined [one, other] inner ∧
      text = inner ++ ']' :: rest.1 := by
  obtain ⟨next, hnext, hread⟩ := exists_of_bind_eq_ok hread
  cases next with
  | none =>
    obtain ⟨_, _, hread⟩ := exists_of_bind_eq_ok hread
    cases hread
  | some start =>
    obtain ⟨⟨a, afterFirst⟩, hone, hread⟩ := exists_of_bind_eq_ok hread
    obtain ⟨next, hnextOther, hread⟩ := exists_of_bind_eq_ok hread
    cases next with
    | none =>
      obtain ⟨_, _, hread⟩ := exists_of_bind_eq_ok hread
      cases hread
    | some later =>
      obtain ⟨⟨b, afterSecond⟩, hother, hread⟩ := exists_of_bind_eq_ok hread
      obtain ⟨final, hend, hread⟩ := exists_of_bind_eq_ok hread
      cases hread
      obtain ⟨before, one, hbefore, hspelled, htext⟩ := hfirst.exists_of_element hnext hone
      obtain ⟨front, other, hfront, hspelledOther, hbehind⟩ :=
        hsecond.exists_of_element hnextOther hother
      obtain ⟨after, hafter, hlast⟩ := exists_of_listEnd hend
      obtain ⟨hbefore⟩ := hbefore
      obtain _ | @⟨gap, between, hgap, hbetween⟩ := hfront
      refine ⟨one, other, _, hspelled, hspelledOther,
        .more hbefore hgap (.last hbetween hafter), ?_⟩
      calc text = before ++ one ++ afterFirst.1 := htext
        _ = before ++ one ++ (gap ++ ',' :: between ++ other ++ afterSecond.1) :=
            congrArg (before ++ one ++ ·) hbehind
        _ = before ++ one ++ (gap ++ ',' :: between ++ other ++ (after ++ ']' :: final.1)) :=
            congrArg (fun after => before ++ one ++ (gap ++ ',' :: between ++ other ++ after)) hlast
        _ = before ++ one ++ gap ++ ',' :: (between ++ other ++ after) ++ ']' :: final.1 := by simp

/-- A reader of pairs understands pairs of what the readers of its parts understand. -/
theorem Understands.pair (hfirst : Understands reader Spells)
    (hsecond : Understands second SpellsOther) :
    Understands (pair reader second) (SpellsPair Spells SpellsOther) where
  begins := by
    rintro value _ ⟨one, other, inner, -, -, -, rfl⟩
    exact ⟨'[', _, rfl, by decide, by decide⟩
  reads := by
    rintro ⟨a, b⟩ _ ⟨one, other, inner, hone, hother, hjoined, rfl⟩ gap rest hgap _
    obtain ⟨_, hread⟩ := exists_of_plain
      (hfirst.plain_pairElements hsecond hone hother hjoined rest)
    have htext := skipSpace_enclosed hgap (show isSpace '[' = false by decide) inner ']' rest
    unfold Json.pair
    split
    next others hcons =>
      cases htext.symm.trans hcons
      rw [hread]
      rfl
    next hother => exact absurd htext (hother _)
  only := by
    intro text value rest hread
    obtain ⟨gap, hgap, htext⟩ := exists_gap text
    obtain ⟨hlength, hread⟩ := exists_of_plain hread
    unfold Json.pair at hread
    split at hread
    next others hspace =>
      obtain ⟨⟨found, after⟩, helements, hread⟩ := exists_of_bind_eq_ok hread
      cases hread
      obtain ⟨one, other, inner, hone, hother, hjoined, hothers⟩ :=
        hfirst.exists_of_pairElements hsecond helements
      exact ⟨gap, _, hgap, ⟨one, other, inner, hone, hother, hjoined, rfl⟩,
        eq_enclosed htext hspace hothers⟩
    next => exact absurd hread wrongKind_ne_ok

end

end MetricBridge.Json
