/-
# What a body of JSON says of series

The series that the body of an answer says, as a relation between the two: a list of series, each an
object or a list. An object says the name of its series and its samples under two keys, and anything
else under other keys; a list says the name first. The samples may be left out where there are
none. A body is read as some series exactly if it says them.

So what is no list of series, what leaves out a name or says a part twice, and what has no double in
the place of a time is not read; neither is a body that goes on behind the list.
-/

import Mathlib
import MetricBridge.Proofs.Json.Doubles
import MetricBridge.Proofs.Json.Fields
import MetricBridge.Series.Json

namespace MetricBridge.Series

open Json (IsGap IsObject Joined OthersAreValues Sets SetsUnless SpelledField SpellsDouble
  SpellsFields SpellsList SpellsNullable SpellsPair SpellsString Understands)

/-! ### Spellings -/

/-- A value or null and a time, as a list of the two. -/
def SpellsSample : (sample : Option Binary64 × Binary64) → (text : List Char) → Prop :=
  SpellsPair (SpellsNullable SpellsDouble) SpellsDouble

/-- A series, as an object or as a list. -/
inductive Spells : (series : Series) → (text : List Char) → Prop
  | object {series : Series} {members : List (String × List Char)} {text : List Char}
      (hobject : IsObject SpellsString members text)
      (htarget : Sets members "target" SpellsString (some series.target))
      (hdatapoints :
        SetsUnless [] members "datapoints" (SpellsList SpellsSample) series.datapoints)
      (hothers : OthersAreValues members ["target", "datapoints"]) : Spells series text
  | list {series : Series} {target datapoints inner : List Char}
      (htarget : SpellsString series.target target)
      (hdatapoints : SpellsList SpellsSample series.datapoints datapoints)
      (hjoined : Joined [target, datapoints] inner) : Spells series ('[' :: inner ++ [']'])
  /-- A series without samples. -/
  | name {name : String} {target inner : List Char} (htarget : SpellsString name target)
      (hjoined : Joined [target] inner) : Spells ⟨name, []⟩ ('[' :: inner ++ [']'])

/-- A whole body that says these series. -/
def IsBody (series : List Series) (body : String) : Prop :=
  ∃ before list after, IsGap before ∧ SpellsList Spells series list ∧ IsGap after ∧
    body.toList = before ++ list ++ after

/-! ### Reading series -/

theorem understands_samples :
    Understands (Json.list (Json.pair (Json.nullable Json.double) Json.double))
      (SpellsList SpellsSample) := by
  have hvalue : Understands (Json.nullable Json.double) (SpellsNullable SpellsDouble) :=
    Json.understands_double.nullable fun _ _ => Json.not_spellsDouble_n
  exact (hvalue.pair Json.understands_double).list

/-- The fields of a series. -/
def fields : List (SpelledField Draft) :=
  [⟨⟨String, "target", Json.string "a string", false, (·.target),
      fun draft target => { draft with target }⟩, SpellsString, Json.understands_string _⟩,
    ⟨⟨List (Option Binary64 × Binary64), "datapoints", _, true, (·.datapoints),
      fun draft datapoints => { draft with datapoints }⟩, SpellsList SpellsSample,
      understands_samples⟩]

theorem makeUp_fields : Json.Field.MakeUp (Json.plainFields fields) where
  nodup := by simp [fields, Json.plainFields]
  get_put := by simp [fields, Json.plainFields]
  get_put_other := by simp [fields, Json.plainFields]
  ext := by
    rintro ⟨⟩ ⟨⟩
    simp [fields, Json.plainFields]

theorem ofDraft_eq_ok_iff {draft : Draft} {series : Series} :
    ofDraft draft = .ok series ↔
      draft.target = some series.target ∧ draft.datapoints.getD [] = series.datapoints := by
  obtain ⟨name, samples⟩ := series
  obtain ⟨_ | target, datapoints⟩ := draft <;> simp [ofDraft]

/-- The values of the two fields in a list, with both or with the name only. -/
theorem holdsInOrder_iff {final : Draft} {parts : List (List Char)} {series : Series}
    (htarget : final.target = some series.target) :
    Json.HoldsInOrder final fields parts ↔ ∃ target, SpellsString series.target target ∧
      ((parts = [target] ∧ final.datapoints = none) ∨
        ∃ held datapoints, final.datapoints = some held ∧ SpellsList SpellsSample held datapoints ∧
          parts = [target, datapoints]) := by
  constructor
  · intro hholds
    cases hholds with
    | rest hrest =>
      have hdefault : false = true := (hrest _ List.mem_cons_self).1
      cases hdefault
    | @cons _ _ name target parts hname hspells hmore =>
      obtain rfl : name = series.target := Option.some.inj (hname.symm.trans htarget)
      refine ⟨target, hspells, ?_⟩
      cases hmore with
      | rest hrest => exact Or.inl ⟨rfl, (hrest _ List.mem_cons_self).2⟩
      | @cons _ _ held datapoints parts hheld hspells hmore =>
        obtain ⟨-⟩ := hmore
        exact Or.inr ⟨held, datapoints, hheld, hspells, rfl⟩
  · rintro ⟨target, hspells, ⟨rfl, hnone⟩ | ⟨held, datapoints, hheld, hsamples, rfl⟩⟩
    · refine .cons htarget hspells (.rest fun field hmem => ?_)
      obtain rfl := List.mem_singleton.1 hmem
      exact ⟨rfl, hnone⟩
    · exact .cons htarget hspells (.cons hheld hsamples (.rest (by simp)))

/-- The two fields say a series. -/
theorem spells_iff {series : Series} {text : List Char} :
    Spells series text ↔ ∃ final, SpellsFields fields final text ∧ ofDraft final = .ok series := by
  simp only [ofDraft_eq_ok_iff]
  constructor
  · intro hspells
    cases hspells with
    | object hobject htarget hdatapoints hothers =>
      obtain ⟨held, hheld, hdatapoints⟩ := hdatapoints
      refine ⟨⟨some series.target, held⟩, .object hobject ?_ hothers, rfl, hheld⟩
      simp only [fields, List.forall_mem_cons]
      exact ⟨htarget, hdatapoints, by simp⟩
    | list htarget hdatapoints hjoined =>
      let final : Draft := ⟨some series.target, some series.datapoints⟩
      have hname : final.target = some series.target := rfl
      have hholds := (holdsInOrder_iff hname).2
        ⟨_, htarget, Or.inr ⟨_, _, rfl, hdatapoints, rfl⟩⟩
      exact ⟨final, .list hholds hjoined, hname, rfl⟩
    | @name name _ _ htarget hjoined =>
      let series : Series := ⟨name, []⟩
      let final : Draft := ⟨some name, none⟩
      have hname : final.target = some series.target := rfl
      have hholds := (holdsInOrder_iff hname).2 ⟨_, htarget, Or.inl ⟨rfl, rfl⟩⟩
      exact ⟨final, .list hholds hjoined, hname, rfl⟩
  · rintro ⟨final, hfinal, htarget, hdatapoints⟩
    cases hfinal with
    | object hobject hsets hothers =>
      simp only [fields, List.forall_mem_cons] at hsets
      obtain ⟨hname, hsamples, -⟩ := hsets
      exact .object hobject (htarget ▸ hname) ⟨_, hdatapoints, hsamples⟩ hothers
    | list hholds hjoined =>
      obtain ⟨target, hname, ⟨rfl, hnone⟩ | ⟨held, samples, hheld, hsamples, rfl⟩⟩ :=
        (holdsInOrder_iff htarget).1 hholds
      · rw [hnone] at hdatapoints
        obtain ⟨name, datapoints⟩ := series
        obtain rfl : [] = datapoints := hdatapoints
        exact .name hname hjoined
      · rw [hheld] at hdatapoints
        obtain rfl : held = series.datapoints := hdatapoints
        exact .list hname hsamples hjoined

theorem understands_series : Understands shape.reader Spells := by
  have hreader : Understands shape.reader _ :=
    Json.understands_shape rfl makeUp_fields (by simp [fields, shape])
  have hspells : Spells = fun series text =>
      ∃ final, SpellsFields fields final text ∧ shape.finish final = .ok series :=
    funext₂ fun _ _ => propext spells_iff
  exact hspells ▸ hreader

/-- A body is read as these series exactly if it says them. -/
theorem ofBody_eq_ok_iff {body : String} {series : List Series} :
    ofBody body = .ok series ↔ IsBody series body := by
  rw [IsBody, ← understands_series.list.whole_eq_ok_iff, ofBody]
  cases Json.whole (Json.list shape.reader) body <;> simp [Except.mapError]

end MetricBridge.Series
