/-
# What can be written in JSON

Every string and every natural number has a spelling, and any keys with any texts under them stand
in some object. So what is said about all spellings of something is never said about none.
-/

import Mathlib
import MetricBridge.Proofs.Json.Structures

namespace MetricBridge.Json

/-! ### Strings -/

/-- Characters that stand for themselves are their own spelling. -/
theorem spellsBody_self {content : List Char} (hcontent : ∀ c ∈ content, IsOrdinary c) :
    SpellsBody content content := by
  induction content with
  | nil => exact .nil
  | cons c content ih =>
    obtain ⟨hc, hcontent⟩ := List.forall_mem_cons.1 hcontent
    exact .cons (.ordinary hc) (ih hcontent)

/-- A string of such characters, with nothing behind a backslash. -/
theorem spellsString_self {content : String}
    (hcontent : content.toList.all (fun c => IsOrdinary c) = true) :
    SpellsString content ('"' :: content.toList ++ ['"']) :=
  ⟨_, spellsBody_self (by simpa using hcontent), rfl⟩

theorem isHexDigit_digitChar {n : Nat} (hn : n < 16) : IsHexDigit n (Nat.digitChar n) :=
  ⟨hn, Or.inl rfl⟩

theorem exists_spellsChar (c : Char) : ∃ text, SpellsChar c text := by
  by_cases hordinary : IsOrdinary c
  · exact ⟨_, .ordinary hordinary⟩
  · by_cases hquote : c = '"'
    · exact ⟨_, .letter (show ('"', c) ∈ letters by simp [letters, hquote])⟩
    · by_cases hbackslash : c = '\\'
      · exact ⟨_, .letter (show ('\\', c) ∈ letters by simp [letters, hbackslash])⟩
      · -- What is left are the control characters, which two digits are enough for.
        have hcontrol : c.toNat < 0x20 := by
          by_contra hge
          exact hordinary ⟨hquote, hbackslash, by omega⟩
        have hquad := IsQuad.mk (isHexDigit_digitChar (show 0 < 16 by decide))
          (isHexDigit_digitChar (show 0 < 16 by decide))
          (isHexDigit_digitChar (show c.toNat / 16 < 16 by omega))
          (isHexDigit_digitChar (show c.toNat % 16 < 16 by omega))
        have hvalue : ((0 * 16 + 0) * 16 + c.toNat / 16) * 16 + c.toNat % 16 = c.toNat := by
          omega
        rw [hvalue] at hquad
        exact ⟨_, .number hquad⟩

theorem exists_spellsString (content : String) : ∃ text, SpellsString content text := by
  have hbody : ∀ content : List Char, ∃ body, SpellsBody content body := by
    intro content
    induction content with
    | nil => exact ⟨[], .nil⟩
    | cons c content ih =>
      obtain ⟨text, htext⟩ := exists_spellsChar c
      obtain ⟨body, hbody⟩ := ih
      exact ⟨text ++ body, .cons htext hbody⟩
  obtain ⟨body, hbody⟩ := hbody content.toList
  exact ⟨_, body, hbody, rfl⟩

theorem exists_spellsNullable (content : Option String) :
    ∃ text, SpellsNullable SpellsString content text := by
  cases content with
  | none => exact ⟨_, .null⟩
  | some content =>
    obtain ⟨text, htext⟩ := exists_spellsString content
    exact ⟨text, .some htext⟩

/-! ### Numbers -/

theorem exists_spellsNatural (n : Nat) : ∃ text, SpellsNatural n text := by
  refine ⟨Decimal.digits n, ⟨Decimal.isDigits_digits n, fun hhead => ?_⟩, Decimal.value_digits n⟩
  rw [Decimal.eq_zero_of_head_digits hhead]
  rfl

/-! ### Objects -/

theorem exists_joined (parts : List (List Char)) : ∃ text, Joined parts text := by
  have hgap : IsGap [] := by decide
  induction parts with
  | nil => exact ⟨[], .none hgap⟩
  | cons part parts ih =>
    cases parts with
    | nil => exact ⟨_, .last hgap hgap⟩
    | cons next parts =>
      obtain ⟨text, htext⟩ := ih
      exact ⟨_, .more hgap hgap htext⟩

theorem exists_isObject (members : List (String × List Char)) :
    ∃ text, IsObject SpellsString members text := by
  have hgap : IsGap [] := by decide
  have hparts : ∃ parts, List.Forall₂ (IsMember SpellsString) members parts := by
    induction members with
    | nil => exact ⟨[], .nil⟩
    | cons member members ih =>
      obtain ⟨parts, hparts⟩ := ih
      obtain ⟨spelled, hspelled⟩ := exists_spellsString member.1
      exact ⟨_, .cons (.mk hspelled hgap hgap) hparts⟩
  obtain ⟨parts, hparts⟩ := hparts
  obtain ⟨inner, hinner⟩ := exists_joined parts
  exact ⟨_, parts, inner, hparts, hinner, rfl⟩

/-- Members for the keys under which a text is offered. -/
def offered (offers : List (String × Option (List Char))) : List (String × List Char) :=
  offers.filterMap fun offer => offer.2.map fun text => (offer.1, text)

@[simp]
theorem textsUnder_offered_nil (key : String) : textsUnder key (offered []) = [] :=
  rfl

@[simp]
theorem textsUnder_offered_cons (key other : String) (text : Option (List Char))
    (offers : List (String × Option (List Char))) :
    textsUnder key (offered ((other, text) :: offers)) =
      (if other = key then text.toList else []) ++ textsUnder key (offered offers) := by
  cases text with
  | none => simp [offered, textsUnder]
  | some text => by_cases hother : other = key <;> simp [offered, textsUnder, hother]

theorem othersAreValues_offered (offers : List (String × Option (List Char))) :
    OthersAreValues (offered offers) (offers.map Prod.fst) := by
  intro member hmember hother
  obtain ⟨offer, hoffer, hmember⟩ := List.mem_filterMap.1 hmember
  obtain ⟨text, -, rfl⟩ := Option.map_eq_some_iff.1 hmember
  exact absurd (List.mem_map_of_mem hoffer) hother

/-- What can be spelled can be set. -/
theorem exists_sets {α : Type} {Spells : α → List Char → Prop}
    (hspells : ∀ value, ∃ text, Spells value text) (key : String) (held : Option α) :
    ∃ text : Option (List Char), ∀ members, textsUnder key members = text.toList →
      Sets members key Spells held := by
  cases held with
  | none => exact ⟨none, fun members hnone => .absent hnone⟩
  | some value =>
    obtain ⟨text, htext⟩ := hspells value
    exact ⟨some text, fun members hone => .present hone htext⟩

end MetricBridge.Json
