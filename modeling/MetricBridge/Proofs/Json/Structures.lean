/-
# Structures of JSON are read as what they say

A reader reads a value from a spelling of it if it does so behind any blanks and in front of
anything before which a value may end. A structure that is written as an object is read member by
member: the keys may come in any order, a field with a default may be left out, and under any other
key any value may stand, also more than once. What is read depends only on what stands under the
names of the fields.
-/

import Mathlib
import MetricBridge.Json.Decode
import MetricBridge.Proofs.Json.Numbers
import MetricBridge.Proofs.Json.Skipping

namespace MetricBridge.Json

open Text (Shorter Within)

/-- A reader reads this value from this spelling. -/
def Reads {α : Type} (reader : Reader α) (value : α) (text : List Char) : Prop :=
  ∀ ⦃gap rest : List Char⦄, IsGap gap → EndsValue rest →
    plain (reader (gap ++ text ++ rest)) = .ok (value, rest)

/-- A text that holds a value and blanks is read as a whole. -/
theorem whole_of_reads {α : Type} {reader : Reader α} {value : α} {inner : List Char}
    (hreads : Reads reader value inner) {before after : List Char} (hbefore : IsGap before)
    (hafter : IsGap after) {text : String} (htext : text.toList = before ++ inner ++ after) :
    whole reader text = .ok value := by
  have hnil : EndsValue [] := by simp [EndsValue]
  have hends := endsValue_append hafter hnil
  have hspace := skipSpace_append hafter []
  rw [List.append_nil] at hends hspace
  have hread := hreads hbefore hends
  rw [← htext] at hread
  obtain ⟨_, hread⟩ := exists_of_plain hread
  have hending : ending after = .ok () := by
    rw [ending, hspace]
    rfl
  rw [whole, hread]
  simp only [bind, Except.bind, hending]

/-! ### Strings -/

theorem plain_string {expected : String} {text content body rest : List Char}
    (hbody : SpellsBody content body) (htext : skipSpace text = '"' :: (body ++ '"' :: rest)) :
    plain (string expected text) = .ok (String.ofList content, rest) := by
  obtain ⟨_, hread⟩ := exists_of_plain (plain_stringBody hbody rest)
  unfold string
  split
  next others hquote =>
    cases htext.symm.trans hquote
    rw [hread]
    rfl
  next hother => exact absurd htext (hother _)

theorem reads_string {expected content : String} {text : List Char}
    (htext : SpellsString content text) : Reads (string expected) content text := by
  intro gap rest hgap _
  obtain ⟨body, hbody, rfl⟩ := htext
  rw [plain_string hbody (skipSpace_enclosed hgap (by decide) body '"' rest), String.ofList_toList]

/-! ### Numbers -/

section

variable {digits rest : List Char}

theorem wholeDigits_append (hdigits : IsWhole digits)
    (hrest : ∀ c ∈ rest.head?, c.isDigit = false) :
    plain (wholeDigits (digits ++ rest)) = .ok (digits, rest) := by
  obtain ⟨hdigits, hzero⟩ := hdigits
  obtain ⟨c, others, rfl, hc, hothers⟩ := hdigits.exists_cons
  rw [List.cons_append, wholeDigits]
  by_cases hnull : c = '0'
  · obtain rfl : others = [] := by simpa [hnull] using hzero
    rw [if_pos hnull, List.nil_append, if_neg (not_any_isDigit hrest), hnull]
    rfl
  · have hspan := Decimal.spanDigits_append_of_not_digit hothers hrest
    rw [if_neg hnull, if_pos hc]
    exact congrArg (fun parts => Except.ok (c :: parts.1, parts.2)) hspan

theorem fractionDigits_eq_none (hrest : ∀ c ∈ rest.head?, c ≠ '.') :
    fractionDigits rest = .ok none := by
  unfold fractionDigits
  split
  next others => exact absurd rfl (hrest '.' rfl)
  next => rfl

theorem exponentDigits_eq_none (hrest : ∀ c ∈ rest.head?, c ≠ 'e' ∧ c ≠ 'E') :
    exponentDigits rest = .ok none := by
  cases rest with
  | nil => rfl
  | cons c others =>
    obtain ⟨hlower, hupper⟩ := hrest c rfl
    rw [exponentDigits, if_neg (by simp [hlower, hupper])]

theorem number_of_ne_minus {text : List Char} (htext : ∀ c ∈ text.head?, c ≠ '-') :
    number text = unsignedNumber false text := by
  unfold number
  split
  next => exact absurd rfl (htext '-' rfl)
  next => rfl

theorem plain_number (hdigits : IsWhole digits) (hvalue : Decimal.value digits < 2 ^ 64)
    (hends : EndsValue rest) :
    plain (number (digits ++ rest)) = .ok (.whole (Decimal.value digits), rest) := by
  have hrest := not_mem_number_of_endsValue hends
  simp only [List.mem_cons, List.not_mem_nil, or_false, not_or] at hrest
  obtain ⟨_, hwhole⟩ := exists_of_plain (wholeDigits_append hdigits fun c hc => (hrest c hc).1)
  have hfraction := fractionDigits_eq_none fun c hc => (hrest c hc).2.1
  have hexponent := exponentDigits_eq_none fun c hc => (hrest c hc).2.2
  have hminus : ∀ c ∈ (digits ++ rest).head?, c ≠ '-' := by
    obtain ⟨c, others, rfl, hc, -⟩ := hdigits.1.exists_cons
    rintro _ ⟨⟩ rfl
    cases hc
  rw [number_of_ne_minus hminus, unsignedNumber, hwhole]
  simp only [bind, Except.bind, hfraction, hexponent, wholeNumber, Nat.pow_eq, if_pos hvalue,
    Bool.false_eq_true, if_false]
  rfl

theorem plain_numberAs {α : Type} {expected : String} {use : Number → Except Problem α} {value : α}
    {text start : List Char} {read : Number} (htext : skipSpace text = start)
    (hstart : ∃ c others, start = c :: others ∧ (c = '-' ∨ c.isDigit = true))
    (hread : plain (number start) = .ok (read, rest)) (huse : use read = .ok value) :
    plain (numberAs expected use text) = .ok (value, rest) := by
  obtain ⟨_, hread⟩ := exists_of_plain hread
  obtain ⟨c, others, rfl, hc⟩ := hstart
  unfold numberAs
  split
  next hnil => cases htext.symm.trans hnil
  next d remaining hcons =>
    cases htext.symm.trans hcons
    rw [if_pos hc, hread]
    simp only [bind, Except.bind, huse]
    rfl

theorem reads_natural {expected : String} {bound n : Nat} (hbound : bound ≤ 2 ^ 64) (hn : n < bound)
    {text : List Char} (htext : SpellsNatural n text) : Reads (natural expected bound) n text := by
  intro gap rest hgap hends
  obtain ⟨hwhole, rfl⟩ := htext
  have hnumber := plain_number hwhole (by omega) hends
  obtain ⟨c, others, rfl, hc, -⟩ := hwhole.1.exists_cons
  refine plain_numberAs (skipSpace_token hgap (beginsToken_of_isDigit hc) others rest)
    ⟨c, _, rfl, Or.inr hc⟩ hnumber ?_
  have hfits : (0 : Int) ≤ Decimal.value (c :: others) ∧
      (Decimal.value (c :: others) : Int) < bound := by
    omega
  simp only [if_pos hfits, Int.toNat_natCast]

end

/-! ### Null -/

theorem reads_nullable_none {α : Type} (reader : Reader α) :
    Reads (nullable reader) none ['n', 'u', 'l', 'l'] := by
  intro gap rest hgap _
  have htext : skipSpace (gap ++ ['n', 'u', 'l', 'l'] ++ rest) = 'n' :: (['u', 'l', 'l'] ++ rest) :=
    by simp [skipSpace_gap_cons hgap (show isSpace 'n' = false by decide)]
  obtain ⟨_, hword⟩ := exists_of_plainRest (plainRest_word ['u', 'l', 'l'] rest)
  unfold nullable
  split
  next others hcons =>
    cases htext.symm.trans hcons
    rw [hword]
    rfl
  next hother => exact absurd htext (hother _)

/-- What may also be null is read as before, unless it looks like null. -/
theorem reads_nullable_some {α : Type} {reader : Reader α} {value : α} {c : Char}
    {others : List Char} (hreads : Reads reader value (c :: others)) (hc : BeginsToken c)
    (hne : c ≠ 'n') : Reads (nullable reader) (some value) (c :: others) := by
  intro gap rest hgap hends
  obtain ⟨_, hread⟩ := exists_of_plain (hreads hgap hends)
  unfold nullable
  split
  next remaining hcons =>
    rw [skipSpace_token hgap hc] at hcons
    cases hcons
    exact absurd rfl hne
  next hother =>
    rw [hread]
    rfl

/-- What is spelled in one way, or null. -/
inductive SpellsNullable {α : Type} (Spells : α → List Char → Prop) :
    (content : Option α) → (text : List Char) → Prop
  | null : SpellsNullable Spells none ['n', 'u', 'l', 'l']
  | some {content : α} {text : List Char} (htext : Spells content text) :
      SpellsNullable Spells (some content) text

theorem reads_nullable_string {expected : String} {content : Option String} {text : List Char}
    (htext : SpellsNullable SpellsString content text) :
    Reads (nullable (string expected)) content text := by
  cases htext with
  | null => exact reads_nullable_none _
  | some htext =>
    have hreads : Reads (Json.string expected) _ text := reads_string htext
    obtain ⟨body, -, rfl⟩ := htext
    exact reads_nullable_some hreads ⟨by decide, by decide⟩ (by decide)

/-! ### Members -/

theorem length_lt_of_skipSpace {text rest : List Char} {c : Char}
    (htext : skipSpace text = c :: rest) : rest.length < text.length := by
  have hlength := length_skipSpace_le text
  rw [htext] at hlength
  exact Nat.lt_of_succ_le hlength

theorem nextKey_close (first : Bool) {text rest : List Char}
    (htext : skipSpace text = '\x7d' :: rest) : nextKey first text = .ok none := by
  unfold nextKey
  split
  next hnil => cases htext.symm.trans hnil
  next c others hcons =>
    cases htext.symm.trans hcons
    rw [if_pos rfl]

theorem nextKey_true {text rest : List Char} (htext : skipSpace text = '"' :: rest) :
    nextKey true text = .ok (some ⟨rest, length_lt_of_skipSpace htext⟩) := by
  unfold nextKey
  split
  next hnil => cases htext.symm.trans hnil
  next c others hcons =>
    cases htext.symm.trans hcons
    rfl

theorem nextKey_false {text behind rest : List Char}
    (htext : skipSpace text = ',' :: behind) (hbehind : skipSpace behind = '"' :: rest) :
    nextKey false text = .ok (some
      ⟨rest, Nat.lt_trans (length_lt_of_skipSpace hbehind) (length_lt_of_skipSpace htext)⟩) := by
  unfold nextKey
  split
  next hnil => cases htext.symm.trans hnil
  next c others hcons =>
    cases htext.symm.trans hcons
    rw [if_neg (by decide), if_neg (by decide), if_pos rfl]
    split
    next hnil => cases hbehind.symm.trans hnil
    next d remaining hcons =>
      cases hbehind.symm.trans hcons
      rfl

theorem plainRest_objectEnd {text rest : List Char} (htext : skipSpace text = '\x7d' :: rest) :
    plainRest (objectEnd text) = .ok rest := by
  unfold objectEnd
  split
  next hnil => cases htext.symm.trans hnil
  next c others hcons =>
    cases htext.symm.trans hcons
    rw [if_pos rfl]
    rfl

section

variable {σ : Type}

/-- What one member makes of what is known of a structure. -/
inductive Meets (slots : List (Slot σ)) (draft : σ) :
    (member : String × List Char) → (next : σ) → Prop
  | slot {slot : Slot σ} {key : String} {text : List Char} {next : σ}
      (hfind : slots.find? (fun slot => slot.name = key) = some slot)
      (hnew : slot.isMet draft = false) (hreads : Reads (slot.read draft) next text) :
      Meets slots draft (key, text) next
  | unknown {key : String} {text : List Char}
      (hfind : slots.find? (fun slot => slot.name = key) = none) (hskips : Skips text) :
      Meets slots draft (key, text) draft

variable {slots : List (Slot σ)} {draft next : σ}

theorem plain_slotMembers_close (first : Bool) {text rest : List Char}
    (htext : skipSpace text = '\x7d' :: rest) :
    plain (slotMembers slots draft first text) = .ok (draft, rest) := by
  obtain ⟨_, hend⟩ := exists_of_plainRest (plainRest_objectEnd htext)
  rw [slotMembers, nextKey_close first htext]
  simp only [hend]
  rfl

theorem plain_slotMembers_of_meets {key : String} {first : Bool}
    {text body front back value rest : List Char}
    {hstart : (body ++ '"' :: (front ++ ':' :: (back ++ value ++ rest))).length < text.length}
    (hkey : nextKey first text = .ok (some ⟨_, hstart⟩)) (hbody : SpellsBody key.toList body)
    (hfront : IsGap front) (hback : IsGap back) (hends : EndsValue rest)
    (hmeets : Meets slots draft (key, value) next) :
    plain (slotMembers slots draft first text) = plain (slotMembers slots next false rest) := by
  obtain ⟨_, hread⟩ := exists_of_plain
    (plain_stringBody hbody (front ++ ':' :: (back ++ value ++ rest)))
  obtain ⟨_, hcolon⟩ := exists_of_plainRest
    (plainRest_colon (skipSpace_gap_cons hfront (by decide) (back ++ value ++ rest)))
  rw [slotMembers]
  simp only [hkey, hread, hcolon, String.ofList_toList]
  cases hmeets with
  | @slot slot _ _ _ hfind hnew hreads =>
    obtain ⟨_, hslot⟩ := exists_of_plain (hreads hback hends)
    simp only [hfind, hnew, hslot, Option.map_some, Option.some.injEq, Bool.false_eq_true, if_false]
    cases slotMembers slots next false rest <;> rfl
  | unknown hfind hskips =>
    obtain ⟨_, hskip⟩ := exists_of_plainRest (hskips hback hends)
    simp only [hfind, hskip, Option.map_none, Except.map, reduceCtorEq, if_false]
    cases slotMembers slots draft false rest <;> rfl

/-- The loop over the members of an object for a structure. -/
theorem isLoop_slotMembers (slots : List (Slot σ)) :
    IsLoop (fun draft first text => plain (slotMembers slots draft first text)) '\x7d'
      fun draft part next => ∃ member,
        IsMember SpellsString member part ∧ Meets slots draft member next where
  isClosing := by simp
  closes draft first _ hgap rest :=
    plain_slotMembers_close first (skipSpace_gap_cons hgap (by decide) rest)
  begins := by
    rintro draft next part ⟨⟨key, value⟩, hmember, hmeets⟩ before rest hbefore hends
    cases hmember with
    | @mk _ _ front back _ hkey hfront hback =>
      obtain ⟨body, hbody, rfl⟩ := hkey
      have htext := skipSpace_member hbefore body front back value rest
      exact plain_slotMembers_of_meets (nextKey_true htext) hbody hfront hback hends hmeets
  continues := by
    rintro draft next part ⟨⟨key, value⟩, hmember, hmeets⟩ gap before rest hgap hbefore hends
    cases hmember with
    | @mk _ _ front back _ hkey hfront hback =>
      obtain ⟨body, hbody, rfl⟩ := hkey
      have htext := skipSpace_member hbefore body front back value rest
      have hkey := nextKey_false (skipSpace_gap_cons hgap (by decide) _) htext
      exact plain_slotMembers_of_meets hkey hbody hfront hback hends hmeets

end

/-! ### Fields -/

/-- What stands under a key. -/
def textsUnder (key : String) (members : List (String × List Char)) : List (List Char) :=
  (members.filter fun member => member.1 = key).map Prod.snd

theorem textsUnder_cons_self (key : String) (text : List Char)
    (members : List (String × List Char)) :
    textsUnder key ((key, text) :: members) = text :: textsUnder key members := by
  simp [textsUnder]

theorem textsUnder_cons_of_ne {key other : String} (hne : other ≠ key) (text : List Char)
    (members : List (String × List Char)) :
    textsUnder key ((other, text) :: members) = textsUnder key members := by
  simp [textsUnder, hne]

/-- The members set this key to a value, once, or do not set it. -/
inductive Sets (members : List (String × List Char)) (key : String) {α : Type}
    (Spells : α → List Char → Prop) : (held : Option α) → Prop
  | absent (hnone : textsUnder key members = []) : Sets members key Spells none
  | present {value : α} {text : List Char} (hone : textsUnder key members = [text])
      (hspells : Spells value text) : Sets members key Spells (some value)

/-- The members set this key to the value, or leave it out where the value is the default. -/
def SetsUnless {α : Type} (default : α) (members : List (String × List Char)) (key : String)
    (Spells : α → List Char → Prop) (value : α) : Prop :=
  ∃ held : Option α, held.getD default = value ∧ Sets members key Spells held

/-- Under all other keys there are values. -/
def OthersAreValues (members : List (String × List Char)) (keys : List String) : Prop :=
  ∀ member ∈ members, member.1 ∉ keys → IsValue member.2

theorem Sets.map {members : List (String × List Char)} {key : String} {α β : Type}
    {Spells : α → List Char → Prop} {Spells' : β → List Char → Prop} {held : Option α}
    (hsets : Sets members key Spells held) (f : α → β)
    (hspells : ∀ {value text}, Spells value text → Spells' (f value) text) :
    Sets members key Spells' (held.map f) := by
  cases hsets with
  | absent hnone => exact .absent hnone
  | present hone hvalue => exact .present hone (hspells hvalue)

theorem Sets.imp {members : List (String × List Char)} {key : String} {α : Type}
    {Spells Spells' : α → List Char → Prop} {held : Option α} (hsets : Sets members key Spells held)
    (hspells : ∀ {value text}, Spells value text → Spells' value text) :
    Sets members key Spells' held := by
  simpa using hsets.map id hspells

/-- A field of a structure: how it is read, where it is kept, and whether it may be missing from a
list. -/
structure Field (σ : Type) where
  Held : Type
  name : String
  reader : Reader Held
  hasDefault : Bool
  get : σ → Option Held
  put : σ → Option Held → σ

namespace Field

variable {σ : Type}

/-- The slot for a field. -/
def slot (field : Field σ) : Slot σ :=
  Slot.of field.hasDefault field.name field.reader field.get field.put

theorem reads_slot {field : Field σ} {value : field.Held} {text : List Char}
    (hreads : Reads field.reader value text) (draft : σ) :
    Reads (field.slot.read draft) (field.put draft (some value)) text := by
  intro gap rest hgap hends
  obtain ⟨_, hread⟩ := exists_of_plain (hreads hgap hends)
  show plain (field.reader _ >>= _) = _
  rw [hread]
  rfl

/-- These fields have different names, are kept apart from one another, and are all there is. -/
structure MakeUp (fields : List (Field σ)) : Prop where
  nodup : (fields.map Field.name).Nodup
  get_put : ∀ field ∈ fields, ∀ draft held, field.get (field.put draft held) = held
  get_put_other : ∀ field ∈ fields, ∀ other ∈ fields, other.name ≠ field.name →
    ∀ draft held, other.get (field.put draft held) = other.get draft
  ext {draft draft' : σ} : (∀ field ∈ fields, field.get draft = field.get draft') → draft = draft'

variable {fields : List (Field σ)}

theorem find?_slot (hnodup : (fields.map Field.name).Nodup) {field : Field σ}
    (hmem : field ∈ fields) :
    (fields.map slot).find? (fun slot => slot.name = field.name) = some field.slot := by
  induction fields with
  | nil => cases hmem
  | cons first others ih =>
    obtain ⟨hfirst, hothers⟩ := List.nodup_cons.1 hnodup
    rcases List.mem_cons.1 hmem with rfl | hmem
    · exact List.find?_cons_of_pos (decide_eq_true rfl)
    · have hne : first.name ≠ field.name := fun hname =>
        hfirst (hname ▸ List.mem_map_of_mem hmem)
      rw [List.map_cons, List.find?_cons_of_neg]
      · exact ih hothers hmem
      · rw [decide_eq_true_iff]
        exact hne

theorem find?_slot_eq_none {key : String} (hkey : key ∉ fields.map Field.name) :
    (fields.map slot).find? (fun slot => slot.name = key) = none := by
  refine List.find?_eq_none.2 fun found hfound => ?_
  obtain ⟨field, hmem, rfl⟩ := List.mem_map.1 hfound
  rw [decide_eq_true_iff]
  rintro rfl
  exact hkey (List.mem_map_of_mem hmem)

/-- How a field stands before the rest of the members: it is as it will be and nothing more
comes, or one member for it is still to come. -/
inductive Stands (field : Field σ) (Spells : field.Held → List Char → Prop)
    (members : List (String × List Char)) (draft final : σ) : Prop
  | settled (hget : field.get draft = field.get final)
      (hnone : textsUnder field.name members = [])
  | awaited {value : field.Held} {text : List Char} (hget : field.get draft = none)
      (hfinal : field.get final = some value) (hone : textsUnder field.name members = [text])
      (hspells : Spells value text)

section Stands

variable {field : Field σ} {Spells : field.Held → List Char → Prop}
  {members : List (String × List Char)} {draft next final : σ}

theorem stands_iff_sets (hget : field.get draft = none) :
    field.Stands Spells members draft final ↔
      Sets members field.name Spells (field.get final) := by
  constructor
  · rintro (⟨hsame, hnone⟩ | ⟨-, hfinal, hone, hspells⟩)
    · rw [← hsame, hget]
      exact .absent hnone
    · rw [hfinal]
      exact .present hone hspells
  · intro hsets
    generalize hheld : field.get final = held at hsets
    cases hsets with
    | absent hnone => exact .settled (by rw [hget, hheld]) hnone
    | present hone hspells => exact .awaited hget hheld hone hspells

/-- A member under another key does not matter to a field. -/
theorem stands_cons_iff {key : String} {text : List Char} (hkey : key ≠ field.name)
    (hnext : field.get next = field.get draft) :
    field.Stands Spells ((key, text) :: members) draft final ↔
      field.Stands Spells members next final := by
  constructor
  · rintro (⟨hget, hnone⟩ | ⟨hget, hfinal, hone, hspells⟩)
    · rw [textsUnder_cons_of_ne hkey] at hnone
      exact .settled (hnext.trans hget) hnone
    · rw [textsUnder_cons_of_ne hkey] at hone
      exact .awaited (hnext.trans hget) hfinal hone hspells
  · rintro (⟨hget, hnone⟩ | ⟨hget, hfinal, hone, hspells⟩)
    · rw [← textsUnder_cons_of_ne hkey text] at hnone
      exact .settled (hnext.symm.trans hget) hnone
    · rw [← textsUnder_cons_of_ne hkey text] at hone
      exact .awaited (hnext.symm.trans hget) hfinal hone hspells

end Stands

/-- A member leads to a draft from which the others lead on. -/
theorem exists_meets (hfields : MakeUp fields) {key : String} {text : List Char}
    {members : List (String × List Char)} {draft final : σ}
    (hother : key ∉ fields.map Field.name → Skips text)
    (hstands : ∀ field ∈ fields,
      field.Stands (Reads field.reader) ((key, text) :: members) draft final) :
    ∃ next, Meets (fields.map slot) draft (key, text) next ∧
      ∀ field ∈ fields, field.Stands (Reads field.reader) members next final := by
  by_cases hkey : key ∈ fields.map Field.name
  · obtain ⟨field, hmem, rfl⟩ := List.mem_map.1 hkey
    cases hstands field hmem with
    | settled _ hnone =>
      rw [textsUnder_cons_self] at hnone
      cases hnone
    | @awaited value _ hget hfinal hone hreads =>
      rw [textsUnder_cons_self] at hone
      obtain ⟨rfl, hnone⟩ := List.cons.inj hone
      have hnew : field.slot.isMet draft = false := by
        show (field.get draft).isSome = false
        rw [hget]
        rfl
      have hmeets : Meets (fields.map slot) draft (field.name, _) (field.put draft (some value)) :=
        .slot (find?_slot hfields.nodup hmem) hnew (reads_slot hreads draft)
      refine ⟨field.put draft (some value), hmeets, fun other hother => ?_⟩
      -- This field is settled now, and every other one stands as before.
      by_cases hsame : other.name = field.name
      · obtain rfl : other = field := List.inj_on_of_nodup_map hfields.nodup hother hmem hsame
        exact .settled (by rw [hfields.get_put _ hmem, hfinal]) hnone
      · exact (stands_cons_iff (Ne.symm hsame)
          (hfields.get_put_other field hmem other hother hsame draft _)).1 (hstands other hother)
  · refine ⟨draft, .unknown (find?_slot_eq_none hkey) (hother hkey), fun field hmem => ?_⟩
    refine (stands_cons_iff ?_ rfl).1 (hstands field hmem)
    rintro rfl
    exact hkey (List.mem_map_of_mem hmem)

theorem takes_of_stands (hfields : MakeUp fields) {members : List (String × List Char)}
    {parts : List (List Char)} {draft final : σ}
    (hparts : List.Forall₂ (IsMember SpellsString) members parts)
    (hothers : ∀ member ∈ members, member.1 ∉ fields.map Field.name → Skips member.2)
    (hstands : ∀ field ∈ fields, field.Stands (Reads field.reader) members draft final) :
    Takes (fun draft part next => ∃ member, IsMember SpellsString member part ∧
      Meets (fields.map slot) draft member next) draft parts final := by
  -- The draft changes with each member; where the fields are to end up does not.
  induction hparts generalizing draft with
  | nil =>
    obtain rfl : draft = final := hfields.ext fun field hmem => by
      cases hstands field hmem with
      | settled hget _ => exact hget
      | awaited _ _ hone _ => cases hone
    exact .nil
  | @cons member part members parts hmember _ ih =>
    obtain ⟨hother, hothers⟩ := List.forall_mem_cons.1 hothers
    obtain ⟨next, hmeets, hnext⟩ := exists_meets hfields hother hstands
    exact .cons ⟨member, hmember, hmeets⟩ (ih hothers hnext)

end Field

/-- A value of the wrong kind is not read. -/
theorem wrongKind_ne_ok {α : Type} {expected : String} {text : List Char} {value : α} :
    wrongKind expected text ≠ .ok value := by
  rw [wrongKind]
  cases kindOf text <;> simp [bind, Except.bind]

/-- A structure is read if its elements or its members are, and if they say all of it that may not
be left out. -/
theorem Shape.plain_reader_eq_ok_iff {σ α : Type} {shape : Shape σ α} {text rest : List Char}
    {value : α} : plain (shape.reader text) = .ok (value, rest) ↔
      ∃ final others, shape.finish final = .ok value ∧
        ((skipSpace text = '[' :: others ∧ plain (slotElements shape.expectedLength shape.empty 0
            others shape.slots) = .ok (final, rest)) ∨
          (skipSpace text = '\x7b' :: others ∧
            plain (slotMembers shape.slots shape.empty true others) = .ok (final, rest))) := by
  constructor
  · intro hread
    obtain ⟨_, hread⟩ := exists_of_plain hread
    unfold Shape.reader at hread
    split at hread
    next others hspace =>
      obtain ⟨⟨final, after⟩, helements, hread⟩ := exists_of_bind_eq_ok hread
      cases hfinish : shape.finish final <;> simp only [hfinish] at hread <;> cases hread
      exact ⟨final, others, hfinish, Or.inl ⟨hspace, congrArg plain helements⟩⟩
    next others hspace =>
      obtain ⟨⟨final, after⟩, hmembers, hread⟩ := exists_of_bind_eq_ok hread
      cases hfinish : shape.finish final <;> simp only [hfinish] at hread <;> cases hread
      exact ⟨final, others, hfinish, Or.inr ⟨hspace, congrArg plain hmembers⟩⟩
    next => exact absurd hread wrongKind_ne_ok
  · rintro ⟨final, others, hfinish, ⟨hspace, hread⟩ | ⟨hspace, hread⟩⟩
    · obtain ⟨_, hread⟩ := exists_of_plain hread
      unfold Shape.reader
      split
      next others hcons =>
        cases hspace.symm.trans hcons
        rw [hread]
        simp only [bind, Except.bind, hfinish]
        rfl
      next others hcons => cases hspace.symm.trans hcons
      next hother _ => exact absurd hspace (hother _)
    · obtain ⟨_, hread⟩ := exists_of_plain hread
      unfold Shape.reader
      split
      next others hcons => cases hspace.symm.trans hcons
      next others hcons =>
        cases hspace.symm.trans hcons
        rw [hread]
        simp only [bind, Except.bind, hfinish]
        rfl
      next hother => exact absurd hspace (hother _)

/-- A structure written as an object is read as what stands under the names of its fields. -/
theorem reads_shape {σ α : Type} {shape : Shape σ α} {fields : List (Field σ)}
    (hslots : shape.slots = fields.map Field.slot) (hfields : Field.MakeUp fields)
    (hempty : ∀ field ∈ fields, field.get shape.empty = none)
    {members : List (String × List Char)} {text : List Char}
    (hobject : IsObject SpellsString members text) {final : σ} {value : α}
    (hsets : ∀ field ∈ fields, Sets members field.name (Reads field.reader) (field.get final))
    (hothers : OthersAreValues members (fields.map Field.name))
    (hfinish : shape.finish final = .ok value) : Reads shape.reader value text := by
  intro gap rest hgap _
  obtain ⟨parts, inner, hparts, hjoined, rfl⟩ := hobject
  have hstands : ∀ field ∈ fields,
      field.Stands (Reads field.reader) members shape.empty final := fun field hmem =>
    (Field.stands_iff_sets (hempty field hmem)).2 (hsets field hmem)
  have htakes := Field.takes_of_stands hfields hparts
    (fun member hmem hnone => skips_of_isValue (hothers member hmem hnone)) hstands
  have hloop := (isLoop_slotMembers (fields.map Field.slot)).eq_of_takes hjoined htakes rest
  have htext := skipSpace_enclosed hgap (show isSpace '\x7b' = false by decide) inner '\x7d' rest
  exact Shape.plain_reader_eq_ok_iff.2
    ⟨final, _, hfinish, Or.inr ⟨htext, by rw [hslots]; exact hloop⟩⟩

end MetricBridge.Json
