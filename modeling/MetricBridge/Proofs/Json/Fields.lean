/-
# Structures say what their fields say

A structure is written as an object or as a list. In an object each field is set once or left out,
and under all other keys there are values; in a list the values of the fields stand in order, and
those at the end may be missing if they have a default. If the readers of the fields understand
their spellings, the reader of the structure understands both forms and nothing else.

Between the text and what is held of each field stands what the reader makes of it part by part: a
member of an object fills one field or none, and the elements of a list fill the fields in order.
-/

import Mathlib
import MetricBridge.Proofs.Json.Exact

namespace MetricBridge.Json

open Text (Shorter Within)

/-- A field together with how its values are spelled. -/
structure SpelledField (σ : Type) extends Field σ where
  Spells : Held → List Char → Prop
  understands : Understands reader Spells

variable {σ : Type}

/-- The elements of a list that hold the values of the fields in order. -/
inductive HoldsInOrder (final : σ) :
    (fields : List (SpelledField σ)) → (parts : List (List Char)) → Prop
  | rest {fields : List (SpelledField σ)}
      (hrest : ∀ field ∈ fields, field.hasDefault = true ∧ field.get final = none) :
      HoldsInOrder final fields []
  | cons {field : SpelledField σ} {fields : List (SpelledField σ)} {value : field.Held}
      {part : List Char} {parts : List (List Char)} (hget : field.get final = some value)
      (hpart : field.Spells value part) (hparts : HoldsInOrder final fields parts) :
      HoldsInOrder final (field :: fields) (part :: parts)

/-- An object or a list that says what is held of each field. -/
inductive SpellsFields (fields : List (SpelledField σ)) (final : σ) : (text : List Char) → Prop
  | object {members : List (String × List Char)} {text : List Char}
      (hobject : IsObject SpellsString members text)
      (hsets : ∀ field ∈ fields, Sets members field.name field.Spells (field.get final))
      (hothers : OthersAreValues members (fields.map fun field => field.name)) :
      SpellsFields fields final text
  | list {parts : List (List Char)} {inner : List Char} (hholds : HoldsInOrder final fields parts)
      (hjoined : Joined parts inner) : SpellsFields fields final ('[' :: inner ++ [']'])

/-! ### Members -/

theorem exists_of_nextKey_none {first : Bool} {text : List Char}
    (hnext : nextKey first text = .ok none) : ∃ rest, skipSpace text = '\x7d' :: rest := by
  unfold nextKey at hnext
  split at hnext
  · cases hnext
  next c others hspace =>
    split_ifs at hnext with hclose hfirst hquote hcomma
    · exact ⟨others, hclose ▸ hspace⟩
    · cases hnext
    · split at hnext
      · cases hnext
      · split_ifs at hnext
        cases hnext

/-- What stands in front of the next key. -/
theorem exists_front_of_nextKey {first : Bool} {text : List Char} {start : Shorter text}
    (hnext : nextKey first text = .ok (some start)) :
    ∃ front, IsFront first front ∧ text = front ++ '"' :: start.1 := by
  obtain ⟨gap, hgap, htext⟩ := exists_gap text
  unfold nextKey at hnext
  split at hnext
  · cases hnext
  next c others hspace =>
    split_ifs at hnext with hclose hfirst hquote hcomma
    · cases hnext
    · cases hnext
      refine ⟨gap, hfirst ▸ .first hgap, ?_⟩
      rw [hspace, hquote] at htext
      exact htext
    · obtain ⟨before, hbefore, hothers⟩ := exists_gap others
      split at hnext
      · cases hnext
      next d remaining hbehind =>
        split_ifs at hnext with hd
        · cases hnext
          have hfront : IsFront first (gap ++ ',' :: before) := by
            rw [Bool.eq_false_of_not_eq_true hfirst]
            exact .comma hgap hbefore
          refine ⟨_, hfront, ?_⟩
          rw [hbehind, hd] at hothers
          rw [hspace, hcomma, hothers] at htext
          simpa using htext

/-- What one member makes of what is known of a structure. -/
inductive Fills (fields : List (SpelledField σ)) (draft : σ) :
    (member : String × List Char) → (next : σ) → Prop
  | field {field : SpelledField σ} {value : field.Held} {text : List Char} (hmem : field ∈ fields)
      (hnew : field.get draft = none) (hspells : field.Spells value text) :
      Fills fields draft (field.name, text) (field.put draft (some value))
  | unknown {key : String} {text : List Char} (hkey : ∀ field ∈ fields, key ≠ field.name)
      (hvalue : IsValue text) : Fills fields draft (key, text) draft

/-- The slots for some fields. -/
def slotsOf (fields : List (SpelledField σ)) : List (Slot σ) :=
  fields.map fun field => field.toField.slot

/-- What is read for a key fills a field, or is a value that is passed over. -/
theorem exists_of_slotRead {fields : List (SpelledField σ)} {draft next : σ} {key : String}
    {text : List Char} {after : Shorter text}
    (hmet : ¬ ((slotsOf fields).find? fun slot => slot.name = key).map
      (fun slot => slot.isMet draft) = some true)
    (hread : (match (slotsOf fields).find? fun slot => slot.name = key with
      | some slot => slot.read draft text
      | none => (skipValue text).map fun after => (draft, after)) = .ok (next, after)) :
    ∃ gap spelled, IsGap gap ∧ Fills fields draft (key, spelled) next ∧
      text = gap ++ spelled ++ after.1 := by
  cases hfind : (slotsOf fields).find? fun slot => slot.name = key with
  | none =>
    rw [hfind] at hread
    cases hskip : skipValue text with
    | error flaw =>
      simp only [hskip] at hread
      cases hread
    | ok found =>
      simp only [hskip] at hread
      cases hread
      obtain ⟨gap, spelled, hgap, hspelled, htext⟩ := skipsOnly text (congrArg plainRest hskip)
      refine ⟨gap, spelled, hgap, .unknown (fun field hmem hkey => ?_) hspelled, htext⟩
      have hnone := List.find?_eq_none.1 hfind _ (List.mem_map_of_mem hmem)
      exact hnone (decide_eq_true hkey.symm)
  | some slot =>
    rw [hfind] at hmet hread
    obtain ⟨field, hmem, rfl⟩ := List.mem_map.1 (List.mem_of_find?_eq_some hfind)
    have hfound := List.find?_some hfind
    have hname : field.name = key := of_decide_eq_true hfound
    subst hname
    obtain ⟨⟨value, found⟩, hvalue, hread⟩ := exists_of_bind_eq_ok hread
    cases hread
    obtain ⟨gap, spelled, hgap, hspelled, htext⟩ := field.understands.only (congrArg plain hvalue)
    refine ⟨gap, spelled, hgap, .field hmem ?_ hspelled, htext⟩
    have hnone : (field.get draft).isSome ≠ true := fun hsome => hmet (congrArg some hsome)
    simpa using hnone

theorem unrolls_slotMembers (fields : List (SpelledField σ)) (bound : ℕ) :
    Unrolls (fun draft first text => plain (slotMembers (slotsOf fields) draft first text)) '\x7d'
      (fun draft part next => ∃ member,
        IsMember SpellsString member part ∧ Fills fields draft member next) bound := by
  intro draft first text result _ hloop
  obtain ⟨final, rest⟩ := result
  have hloop : plain (slotMembers (slotsOf fields) draft first text) = .ok (final, rest) := hloop
  obtain ⟨_, hread⟩ := exists_of_plain hloop
  rw [slotMembers] at hread
  split at hread
  next => cases hread
  next hnext =>
    obtain ⟨behind, hspace⟩ := exists_of_nextKey_none hnext
    obtain ⟨gap, hgap, htext⟩ := exists_gap text
    rw [plain_slotMembers_close first hspace] at hloop
    rw [htext, hspace]
    exact .closed hgap (Except.ok.inj hloop).symm
  next start hnext =>
    obtain ⟨front, hfront, htext⟩ := exists_front_of_nextKey hnext
    split at hread
    next => cases hread
    next key afterKey hkey =>
      obtain ⟨body, hbody, hstart⟩ := exists_of_stringBody (congrArg plain hkey)
      simp only at hread
      split_ifs at hread with hmet
      split at hread
      next => cases hread
      next afterColon hcolon =>
        obtain ⟨before, hbefore, hafterKey⟩ := exists_of_colon (congrArg plainRest hcolon)
        split at hread
        next => cases hread
        next next after htaken =>
          obtain ⟨gap, spelled, hgap, hfills, hafterColon⟩ := exists_of_slotRead hmet htaken
          split at hread
          next => cases hread
          next last final hmore =>
            cases hread
            have hmember : IsMember SpellsString (String.ofList key, spelled)
                ('"' :: body ++ ['"'] ++ before ++ ':' :: gap ++ spelled) :=
              .mk ⟨body, by rwa [String.toList_ofList], rfl⟩ hbefore hgap
            have hwhole : text =
                front ++ ('"' :: body ++ ['"'] ++ before ++ ':' :: gap ++ spelled) ++ after.1 := by
              calc text = front ++ '"' :: start.1 := htext
                _ = front ++ '"' :: (body ++ '"' :: afterKey.1) :=
                    congrArg (fun start => front ++ '"' :: start) hstart
                _ = front ++ '"' :: (body ++ '"' :: (before ++ ':' :: afterColon.1)) :=
                    congrArg (fun after => front ++ '"' :: (body ++ '"' :: after)) hafterKey
                _ = front ++ '"' :: (body ++ '"' :: (before ++ ':' ::
                      (gap ++ spelled ++ after.1))) :=
                    congrArg
                      (fun after => front ++ '"' :: (body ++ '"' :: (before ++ ':' :: after)))
                      hafterColon
                _ = front ++ ('"' :: body ++ ['"'] ++ before ++ ':' :: gap ++ spelled) ++
                      after.1 := by simp
            exact .of_taken hwhole hfront ⟨_, hmember, hfills⟩ (congrArg plain hmore)

/-- The fields without their spellings. -/
def plainFields (fields : List (SpelledField σ)) : List (Field σ) :=
  fields.map SpelledField.toField

section

variable {fields : List (SpelledField σ)} {field : SpelledField σ}

theorem mem_plainFields (hmem : field ∈ fields) : field.toField ∈ plainFields fields :=
  List.mem_map_of_mem hmem

theorem eq_of_name_eq (hfields : Field.MakeUp (plainFields fields)) {other : SpelledField σ}
    (hmem : field ∈ fields) (hother : other ∈ fields) (hname : other.name = field.name) :
    other = field := by
  have hnodup : (fields.map fun field => field.name).Nodup := by
    simpa [plainFields, List.map_map, Function.comp_def] using hfields.nodup
  exact List.inj_on_of_nodup_map hnodup hother hmem hname

/-- What some members make of a draft is told by what stands under the name of each field. -/
theorem exists_members_of_takes (hfields : Field.MakeUp (plainFields fields)) {draft final : σ}
    {parts : List (List Char)}
    (htakes : Takes (fun draft part next => ∃ member, IsMember SpellsString member part ∧
      Fills fields draft member next) draft parts final) :
    ∃ members, List.Forall₂ (IsMember SpellsString) members parts ∧
      OthersAreValues members (fields.map fun field => field.name) ∧
      ∀ field ∈ fields, field.Stands field.Spells members draft final := by
  induction htakes with
  | nil => exact ⟨[], .nil, by simp [OthersAreValues], fun field _ => .settled rfl rfl⟩
  | @cons draft next final part parts hstep _ ih =>
    obtain ⟨member, hmember, hfills⟩ := hstep
    obtain ⟨members, hmembers, hothers, hstands⟩ := ih
    refine ⟨member :: members, .cons hmember hmembers, ?_⟩
    cases hfills with
    | @field filled value text hmem hnew hspells =>
      refine ⟨List.forall_mem_cons.2 ⟨fun hkey => absurd (List.mem_map_of_mem hmem) hkey, hothers⟩,
        fun other hother => ?_⟩
      by_cases hsame : other.name = filled.name
      · obtain rfl := eq_of_name_eq hfields hmem hother hsame
        have hput := hfields.get_put _ (mem_plainFields hmem) draft (some value)
        rcases hstands other hother with ⟨hget, hnone⟩ | ⟨hget, -, -, -⟩
        · refine .awaited hnew (hget.symm.trans hput) ?_ hspells
          rw [textsUnder_cons_self, hnone]
        · rw [hput] at hget
          cases hget
      · exact (Field.stands_cons_iff (Ne.symm hsame) (hfields.get_put_other _ (mem_plainFields hmem)
          _ (mem_plainFields hother) hsame draft _)).2 (hstands other hother)
    | @unknown key text hkey hvalue =>
      exact ⟨List.forall_mem_cons.2 ⟨fun _ => hvalue, hothers⟩, fun other hother =>
        (Field.stands_cons_iff (hkey other hother) rfl).2 (hstands other hother)⟩

end

/-! ### Elements in order -/

/-- What the elements of a list make of a draft, field by field. -/
inductive FillsInOrder : (draft : σ) → (fields : List (SpelledField σ)) →
    (parts : List (List Char)) → (final : σ) → Prop
  | rest {draft : σ} {fields : List (SpelledField σ)}
      (hrest : ∀ field ∈ fields, field.hasDefault = true) : FillsInOrder draft fields [] draft
  | cons {draft final : σ} {field : SpelledField σ} {fields : List (SpelledField σ)}
      {value : field.Held} {part : List Char} {parts : List (List Char)}
      (hpart : field.Spells value part)
      (hparts : FillsInOrder (field.put draft (some value)) fields parts final) :
      FillsInOrder draft (field :: fields) (part :: parts) final

/-- Parts with commas between them, and one in front unless they are the first. -/
inductive Behind : (first : Bool) → (parts : List (List Char)) → (text : List Char) → Prop
  | first {parts : List (List Char)} {text : List Char} (hjoined : Joined parts text) :
      Behind true parts text
  | later {parts : List (List Char)} {text : List Char} (hfollows : Follows parts text) :
      Behind false parts text

theorem behind_nil (first : Bool) {gap : List Char} (hgap : IsGap gap) : Behind first [] gap := by
  cases first with
  | true => exact .first (.none hgap)
  | false => exact .later (.none hgap)

theorem behind_cons {first : Bool} {front part after : List Char} {parts : List (List Char)}
    (hfront : IsFront first front) (hmore : Behind false parts after) :
    Behind first (part :: parts) (front ++ part ++ after) := by
  obtain _ | hfollows := hmore
  cases hfront with
  | first hbefore => exact .first (hfollows.joined hbefore)
  | @comma gap before hgap hbefore =>
    have htext : gap ++ ',' :: before ++ part ++ after =
        gap ++ ',' :: (before ++ part ++ after) := by
      simp
    rw [htext]
    exact .later (.more hgap (hfollows.joined hbefore))

/-- Behind the first of some parts stand the others. -/
theorem Joined.exists_follows {part text : List Char} {parts : List (List Char)}
    (hjoined : Joined (part :: parts) text) :
    ∃ before after, IsGap before ∧ Follows parts after ∧ text = before ++ part ++ after := by
  cases hjoined with
  | last hbefore hafter => exact ⟨_, _, hbefore, .none hafter, rfl⟩
  | @more before _ gap next inner parts hbefore hgap hmore =>
    exact ⟨before, gap ++ ',' :: inner, hbefore, .more hgap hmore, by simp⟩

theorem Behind.exists_front {first : Bool} {part text : List Char} {parts : List (List Char)}
    (hbehind : Behind first (part :: parts) text) :
    ∃ front after, IsFront first front ∧ Behind false parts after ∧
      text = front ++ part ++ after := by
  cases hbehind with
  | first hjoined =>
    obtain ⟨before, after, hbefore, hfollows, rfl⟩ := hjoined.exists_follows
    exact ⟨before, after, .first hbefore, .later hfollows, rfl⟩
  | later hfollows =>
    obtain _ | ⟨hgap, hjoined⟩ := hfollows
    obtain ⟨before, after, hbefore, hfollows, rfl⟩ := hjoined.exists_follows
    exact ⟨_, after, .comma hgap hbefore, .later hfollows, by simp⟩

theorem Behind.isGap {first : Bool} {text : List Char} (hbehind : Behind first [] text) :
    IsGap text := by
  obtain ⟨⟨hgap⟩⟩ | ⟨⟨hgap⟩⟩ := hbehind
  · exact hgap
  · exact hgap

/-- A value may end before the parts that follow it and the closing bracket. -/
theorem Behind.endsValue {text : List Char} {parts : List (List Char)}
    (hbehind : Behind false parts text) (rest : List Char) : EndsValue (text ++ ']' :: rest) := by
  obtain _ | ⟨⟨hgap⟩ | ⟨hgap, hjoined⟩⟩ := hbehind
  · exact endsValue_append hgap (endsValue_cons (by simp) rest)
  · rw [List.append_assoc]
    exact endsValue_append hgap (endsValue_cons (by simp) _)

section

variable {fields : List (SpelledField σ)} {draft final : σ} {parts : List (List Char)}

theorem all_hasDefault_iff :
    (slotsOf fields).all Slot.hasDefault = true ↔ ∀ field ∈ fields, field.hasDefault = true := by
  simp only [slotsOf, List.all_map, List.all_eq_true]
  rfl

theorem exists_of_slotElements {expected : String} {index : ℕ} {text rest : List Char}
    (hread : plain (slotElements expected draft index text (slotsOf fields)) = .ok (final, rest)) :
    ∃ parts inner, Behind (index == 0) parts inner ∧ FillsInOrder draft fields parts final ∧
      text = inner ++ ']' :: rest := by
  induction fields generalizing draft index text with
  | nil =>
    obtain ⟨_, hread⟩ := exists_of_plain hread
    obtain ⟨after, hend, hread⟩ := exists_of_bind_eq_ok hread
    cases hread
    obtain ⟨gap, hgap, htext⟩ := exists_of_listEnd hend
    exact ⟨[], gap, behind_nil _ hgap, .rest (by simp), htext⟩
  | cons field fields ih =>
    obtain ⟨_, hread⟩ := exists_of_plain hread
    rw [slotsOf, List.map_cons, slotElements] at hread
    split at hread
    next => cases hread
    next hnext =>
      split_ifs at hread with hall
      · obtain ⟨after, hend, hread⟩ := exists_of_bind_eq_ok hread
        cases hread
        obtain ⟨gap, hgap, htext⟩ := exists_of_listEnd hend
        exact ⟨[], gap, behind_nil _ hgap, .rest (all_hasDefault_iff.1 hall), htext⟩
      · obtain ⟨after, hend, hread⟩ := exists_of_bind_eq_ok hread
        cases hread
    next start hnext =>
      split at hread
      next => cases hread
      next next after hslot =>
        obtain ⟨⟨value, found⟩, hvalue, hslot⟩ := exists_of_bind_eq_ok hslot
        cases hslot
        obtain ⟨front, part, hfront, hpart, htext⟩ :=
          field.understands.exists_of_element hnext hvalue
        split at hread
        next => cases hread
        next _ last hmore =>
          cases hread
          obtain ⟨parts, inner, hbehind, hfills, hafter⟩ := ih (congrArg plain hmore)
          refine ⟨part :: parts, _, behind_cons hfront hbehind, .cons hpart hfills, ?_⟩
          calc text = front ++ part ++ after.1 := htext
            _ = front ++ part ++ (inner ++ ']' :: last.1) := congrArg (front ++ part ++ ·) hafter
            _ = front ++ part ++ inner ++ ']' :: last.1 := by simp

theorem plain_slotElements {expected : String} {index : ℕ} {inner : List Char}
    (hfills : FillsInOrder draft fields parts final) (hbehind : Behind (index == 0) parts inner)
    (rest : List Char) :
    plain (slotElements expected draft index (inner ++ ']' :: rest) (slotsOf fields)) =
      .ok (final, rest) := by
  induction hfills generalizing index inner with
  | @rest draft fields hrest =>
    have hspace := skipSpace_gap_cons hbehind.isGap (show isSpace ']' = false by decide) rest
    obtain ⟨_, hend⟩ := exists_of_plainRest (plainRest_listEnd hspace)
    cases fields with
    | nil =>
      rw [slotsOf, List.map_nil, slotElements, hend]
      rfl
    | cons field fields =>
      have hall := all_hasDefault_iff.2 hrest
      rw [slotsOf, List.map_cons] at hall ⊢
      rw [slotElements, nextElement_close _ hspace]
      simp only [hall, if_true, hend]
      rfl
  | @cons draft final field fields value part parts hpart _ ih =>
    obtain ⟨front, after, hfront, hmore, rfl⟩ := hbehind.exists_front
    have htext : front ++ part ++ after ++ ']' :: rest =
        front ++ part ++ (after ++ ']' :: rest) := by
      simp
    obtain ⟨start, hnext, hread⟩ :=
      field.understands.exists_element hfront hpart (hmore.endsValue rest)
    obtain ⟨hlength, hread⟩ := exists_of_plain hread
    have hslot : field.slot.read draft start.1 =
        .ok (field.put draft (some value), ⟨after ++ ']' :: rest, hlength⟩) := by
      show (field.reader start.1 >>= _) = _
      rw [hread]
      rfl
    have helements : plain (slotElements expected _ (index + 1) _ (slotsOf fields)) = _ := ih hmore
    obtain ⟨_, helements⟩ := exists_of_plain helements
    rw [slotsOf] at helements
    rw [htext, slotsOf, List.map_cons, slotElements, hnext]
    simp only [hslot, helements]
    rfl

end

/-- The elements of a list make of a draft what they say of the fields in order, and leave the
other fields as they are. -/
theorem fillsInOrder_iff {all fields : List (SpelledField σ)} {draft final : σ}
    {parts : List (List Char)} (hfields : Field.MakeUp (plainFields all))
    (hall : ∀ field ∈ fields, field ∈ all)
    (hnodup : (fields.map fun field => field.name).Nodup)
    (hnone : ∀ field ∈ fields, field.get draft = none) :
    FillsInOrder draft fields parts final ↔ HoldsInOrder final fields parts ∧
      ∀ other ∈ all, (∀ field ∈ fields, other.name ≠ field.name) →
        other.get final = other.get draft := by
  -- The draft changes with each element; which fields are all there are does not.
  induction fields generalizing draft parts with
  | nil =>
    constructor
    · rintro ⟨-⟩
      exact ⟨.rest (by simp), fun _ _ _ => rfl⟩
    · rintro ⟨⟨-⟩, hleft⟩
      obtain rfl : draft = final := hfields.ext fun field hmem => by
        obtain ⟨other, hother, rfl⟩ := List.mem_map.1 hmem
        exact (hleft other hother (by simp)).symm
      exact .rest (by simp)
  | cons field fields ih =>
    obtain ⟨hfield, hallRest⟩ := List.forall_mem_cons.1 hall
    obtain ⟨hnew, hnodup⟩ := List.nodup_cons.1 hnodup
    have hnames : ∀ other ∈ fields, field.name ≠ other.name := fun other hother hname =>
      hnew (List.mem_map.2 ⟨other, hother, hname.symm⟩)
    have hput (value : field.Held) := hfields.get_put _ (mem_plainFields hfield) draft (some value)
    have hputOther (value : field.Held) (other : SpelledField σ) (hother : other ∈ all)
        (hname : other.name ≠ field.name) :
        other.get (field.put draft (some value)) = other.get draft :=
      hfields.get_put_other _ (mem_plainFields hfield) _ (mem_plainFields hother) hname draft _
    have hnoneRest (value : field.Held) :
        ∀ other ∈ fields, other.get (field.put draft (some value)) = none := by
      intro other hother
      rw [hputOther value other (hallRest other hother) (hnames other hother).symm]
      exact hnone other (List.mem_cons_of_mem _ hother)
    constructor
    · intro hfills
      cases hfills with
      | rest hdefault =>
        exact ⟨.rest fun other hother => ⟨hdefault other hother, hnone other hother⟩,
          fun _ _ _ => rfl⟩
      | @cons _ _ _ _ value part parts hpart hparts =>
        obtain ⟨hholds, hleft⟩ := (ih hallRest hnodup (hnoneRest value)).1 hparts
        refine ⟨.cons ((hleft field hfield hnames).trans (hput value)) hpart hholds,
          fun other hother hname => ?_⟩
        obtain ⟨hname, hnameRest⟩ := List.forall_mem_cons.1 hname
        exact (hleft other hother hnameRest).trans (hputOther value other hother hname)
    · rintro ⟨hholds, hleft⟩
      cases hholds with
      | rest hdefault =>
        obtain rfl : draft = final := hfields.ext fun plain hmem => by
          obtain ⟨other, hother, rfl⟩ := List.mem_map.1 hmem
          by_cases hnamed : ∃ found ∈ field :: fields, other.name = found.name
          · obtain ⟨found, hfound, hname⟩ := hnamed
            obtain rfl := eq_of_name_eq hfields (hall found hfound) hother hname
            exact (hnone other hfound).trans (hdefault other hfound).2.symm
          · refine (hleft other hother fun found hfound hname => ?_).symm
            exact hnamed ⟨found, hfound, hname⟩
        exact .rest fun other hother => (hdefault other hother).1
      | @cons _ _ value part parts hget hpart hparts =>
        refine .cons hpart ((ih hallRest hnodup (hnoneRest value)).2
          ⟨hparts, fun other hother hname => ?_⟩)
        by_cases hsame : other.name = field.name
        · obtain rfl := eq_of_name_eq hfields hfield hother hsame
          exact hget.trans (hput value).symm
        · rw [hputOther value other hother hsame]
          exact hleft other hother (List.forall_mem_cons.2 ⟨hsame, hname⟩)

/-! ### Structures -/

/-- Elements fill the fields of a structure, of which nothing is known before. -/
theorem fillsInOrder_empty_iff {fields : List (SpelledField σ)} {empty final : σ}
    {parts : List (List Char)} (hfields : Field.MakeUp (plainFields fields))
    (hempty : ∀ field ∈ fields, field.get empty = none) :
    FillsInOrder empty fields parts final ↔ HoldsInOrder final fields parts := by
  have hnodup : (fields.map fun field => field.name).Nodup := by
    simpa [plainFields, Function.comp_def] using hfields.nodup
  rw [fillsInOrder_iff hfields (fun _ hmem => hmem) hnodup hempty]
  exact and_iff_left fun other hother hname => absurd rfl (hname other hother)

/-- The reader of a structure understands objects and lists that say what is held of each field. -/
theorem understands_shape {α : Type} {shape : Shape σ α} {fields : List (SpelledField σ)}
    (hslots : shape.slots = slotsOf fields) (hfields : Field.MakeUp (plainFields fields))
    (hempty : ∀ field ∈ fields, field.get shape.empty = none) :
    Understands shape.reader fun value text =>
      ∃ final, SpellsFields fields final text ∧ shape.finish final = .ok value where
  begins := by
    rintro value _ ⟨final, ⟨hobject, -, -⟩ | ⟨-, -⟩, -⟩
    · obtain ⟨parts, inner, -, -, rfl⟩ := hobject
      exact ⟨'\x7b', _, rfl, by decide, by decide⟩
    · exact ⟨'[', _, rfl, by decide, by decide⟩
  reads := by
    rintro value _ ⟨final, hfinal, hfinish⟩
    cases hfinal with
    | object hobject hsets hothers =>
      have hslots : shape.slots = (plainFields fields).map Field.slot := by
        rw [hslots, slotsOf, plainFields, List.map_map]
        rfl
      have hnames : (plainFields fields).map Field.name = fields.map fun field => field.name := by
        rw [plainFields, List.map_map]
        rfl
      refine reads_shape hslots hfields ?_ hobject ?_ (hnames ▸ hothers) hfinish
      · exact List.forall_mem_map.2 hempty
      · exact List.forall_mem_map.2 fun field hmem =>
          (hsets field hmem).imp fun htext => field.understands.reads htext
    | @list parts inner hholds hjoined =>
      intro gap rest hgap _
      have hfills := (fillsInOrder_empty_iff hfields hempty).2 hholds
      have helements : plain (slotElements shape.expectedLength shape.empty 0
          (inner ++ ']' :: rest) (slotsOf fields)) = .ok (final, rest) :=
        plain_slotElements hfills (show Behind (0 == 0) parts inner from .first hjoined) rest
      have htext := skipSpace_enclosed hgap (show isSpace '[' = false by decide) inner ']' rest
      exact Shape.plain_reader_eq_ok_iff.2
        ⟨final, _, hfinish, Or.inl ⟨htext, by rw [hslots]; exact helements⟩⟩
  only := by
    intro text value rest hread
    obtain ⟨gap, hgap, htext⟩ := exists_gap text
    obtain ⟨final, others, hfinish, ⟨hspace, hread⟩ | ⟨hspace, hread⟩⟩ :=
      Shape.plain_reader_eq_ok_iff.1 hread
    · rw [hslots] at hread
      obtain ⟨parts, inner, ⟨hjoined⟩, hfills, hothers⟩ := exists_of_slotElements hread
      have hholds := (fillsInOrder_empty_iff hfields hempty).1 hfills
      exact ⟨gap, _, hgap, ⟨final, .list hholds hjoined, hfinish⟩,
        eq_enclosed htext hspace hothers⟩
    · rw [hslots] at hread
      obtain ⟨parts, inner, hjoined, htakes, hothers⟩ :=
        exists_joined_of_unrolls (unrolls_slotMembers fields _) le_rfl hread
      obtain ⟨members, hparts, hvalues, hstands⟩ := exists_members_of_takes hfields htakes
      have hsets : ∀ field ∈ fields,
          Sets members field.name field.Spells (field.get final) := fun field hmem =>
        (Field.stands_iff_sets (hempty field hmem)).1 (hstands field hmem)
      exact ⟨gap, _, hgap,
        ⟨final, .object ⟨parts, inner, hparts, hjoined, rfl⟩ hsets hvalues, hfinish⟩,
        eq_enclosed htext hspace hothers⟩

end MetricBridge.Json
