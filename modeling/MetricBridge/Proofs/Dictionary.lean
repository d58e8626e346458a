/-
# What is put under a key is found under it

Putting an entry changes the value under its own key and no other, whatever the
dictionary looks like. Where the keys ascend they still do afterwards, and then the
entries are exactly the pairs of a key and the value that is found under it.
-/

import Mathlib
import MetricBridge.Dictionary

namespace MetricBridge.Dictionary

variable {κ α : Type} [LT κ] [DecidableLT κ] [DecidableEq κ]

/-- The keys ascend, so no key has two entries. -/
def Ascending (entries : List (κ × α)) : Prop :=
  entries.Pairwise fun a b => a.1 < b.1

omit [LT κ] [DecidableLT κ] in
@[simp]
theorem get?_cons (key other : κ) (held : α) (rest : List (κ × α)) :
    get? key ((other, held) :: rest) = if other = key then some held else get? key rest := by
  by_cases heq : other = key <;> simp [get?, heq]

/-- The value under a key after another one was put. -/
theorem get?_put (key other : κ) (value : α) (entries : List (κ × α)) :
    get? key (put other value entries) = if other = key then some value else get? key entries := by
  induction entries with
  | nil => rw [put, get?_cons]
  | cons entry rest ih =>
    obtain ⟨first, held⟩ := entry
    unfold put
    split
    next => rw [get?_cons]
    next =>
      split
      next heq =>
        subst heq
        by_cases hkey : other = key <;> simp [hkey]
      next hne =>
        rw [get?_cons, get?_cons, ih]
        by_cases hfirst : first = key
        · rw [if_pos hfirst, if_pos hfirst, if_neg (hfirst ▸ hne)]
        · rw [if_neg hfirst, if_neg hfirst]

/-- An entry of a dictionary is the one that was put last or was there before. -/
theorem mem_put {key : κ} {value : α} {entries : List (κ × α)} {entry : κ × α}
    (hmem : entry ∈ put key value entries) : entry = (key, value) ∨ entry ∈ entries := by
  induction entries with
  | nil => exact Or.inl (List.mem_singleton.1 hmem)
  | cons first rest ih =>
    unfold put at hmem
    split at hmem
    next => exact (List.mem_cons.1 hmem)
    next =>
      split at hmem
      next => exact (List.mem_cons.1 hmem).imp id (List.mem_cons_of_mem _)
      next =>
        rcases List.mem_cons.1 hmem with rfl | hrest
        · exact Or.inr List.mem_cons_self
        · exact (ih hrest).imp id (List.mem_cons_of_mem _)

variable [IsStrictTotalOrder κ (· < ·)]

theorem ascending_put {entries : List (κ × α)} (hascending : Ascending entries) (key : κ)
    (value : α) : Ascending (put key value entries) := by
  induction entries with
  | nil => exact List.pairwise_singleton _ _
  | cons entry rest ih =>
    obtain ⟨first, held⟩ := entry
    obtain ⟨hfirst, hrest⟩ := List.pairwise_cons.1 hascending
    unfold put
    split
    next hlt =>
      refine List.pairwise_cons.2 ⟨fun other hmem => ?_, hascending⟩
      rcases List.mem_cons.1 hmem with rfl | hmem
      · exact hlt
      · exact trans_of (· < ·) hlt (hfirst other hmem)
    next hnlt =>
      split
      next heq => exact List.pairwise_cons.2 ⟨heq ▸ hfirst, hrest⟩
      next hne =>
        refine List.pairwise_cons.2 ⟨fun other hmem => ?_, ih hrest⟩
        rcases mem_put hmem with rfl | hmem
        · exact (trichotomous_of (· < ·) first key).resolve_right fun h =>
            h.elim (fun heq => hne heq.symm) hnlt
        · exact hfirst other hmem

omit [DecidableLT κ] in
/-- In a dictionary the entries are what is found under their keys. -/
theorem mem_iff_get?_eq_some {entries : List (κ × α)} (hascending : Ascending entries) {key : κ}
    {value : α} : (key, value) ∈ entries ↔ get? key entries = some value := by
  induction entries with
  | nil => simp [get?]
  | cons entry rest ih =>
    obtain ⟨first, held⟩ := entry
    obtain ⟨hfirst, hrest⟩ := List.pairwise_cons.1 hascending
    rw [get?_cons, List.mem_cons, Prod.mk.injEq]
    split
    next heq =>
      subst heq
      constructor
      · rintro (⟨-, rfl⟩ | hmem)
        · rfl
        · exact absurd (hfirst _ hmem) (irrefl_of (· < ·) first)
      · intro hvalue
        exact Or.inl ⟨rfl, (Option.some.inj hvalue).symm⟩
    next hne =>
      rw [← ih hrest]
      exact ⟨fun h => h.resolve_left fun hkey => hne hkey.1.symm, Or.inr⟩

end MetricBridge.Dictionary
