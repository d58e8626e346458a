/-
# The order of points

Points are ordered by time and then by name, which is the lexicographic order of the two. A
list without two points of one time and name that is in this order is determined by
its members; so two reads that hold the same points hold the same list.

Points that share time and name are ties. Sorting leaves them in the order they had, and a list that
may have ties is determined, once it is sorted, by each tie and its order.
-/

import Mathlib
import MetricBridge.Point
import MetricBridge.Proofs.Time.Order

namespace MetricBridge.Point

/-- The first point stands strictly before the second one: it is earlier, or they share an
instant and its name is the lesser one. -/
def Before (a b : Point) : Prop :=
  a.time < b.time ∨ (a.time = b.time ∧ a.name < b.name)

/-- What points are ordered by. -/
def rank (point : Point) : Time.Instant ×ₗ String :=
  toLex (point.time, point.name)

theorem before_iff_rank_lt {a b : Point} : a.Before b ↔ a.rank < b.rank := by
  rw [rank, rank, Prod.Lex.toLex_lt_toLex]
  exact Iff.rfl

theorem precedes_iff {a b : Point} :
    a.precedes b = true ↔ a.time < b.time ∨ (a.time = b.time ∧ a.name ≤ b.name) := by
  rw [precedes, Bool.or_eq_true, decide_eq_true_eq, Bool.and_eq_true, decide_eq_true_eq,
    decide_eq_true_eq]

theorem precedes_iff_rank_le {a b : Point} : a.precedes b = true ↔ a.rank ≤ b.rank := by
  rw [rank, rank, Prod.Lex.toLex_le_toLex, precedes_iff]

instance : IsStrictOrder Point Before where
  irrefl a hlt := lt_irrefl a.rank (before_iff_rank_lt.1 hlt)
  trans _ _ _ hab hbc := before_iff_rank_lt.2
    (lt_trans (before_iff_rank_lt.1 hab) (before_iff_rank_lt.1 hbc))

/-- Standing before is standing in order without sharing both time and name. -/
theorem before_of_precedes {a b : Point} (hprecedes : a.precedes b = true)
    (hapart : a.time ≠ b.time ∨ a.name ≠ b.name) : a.Before b := by
  rw [before_iff_rank_lt]
  apply lt_of_le_of_ne (precedes_iff_rank_le.1 hprecedes)
  intro heq
  have hparts : (a.time, a.name) = (b.time, b.name) := toLex.injective heq
  obtain ⟨htime, hname⟩ := Prod.mk.injEq .. ▸ hparts
  exact hapart.elim (· htime) (· hname)

theorem precedes_trans (a b c : Point) (hab : a.precedes b = true) (hbc : b.precedes c = true) :
    a.precedes c = true :=
  precedes_iff_rank_le.2 (le_trans (precedes_iff_rank_le.1 hab) (precedes_iff_rank_le.1 hbc))

theorem precedes_total (a b : Point) : (a.precedes b || b.precedes a) = true := by
  rw [Bool.or_eq_true, precedes_iff_rank_le, precedes_iff_rank_le]
  exact le_total _ _

/-- Points that precede each other share time and name. -/
theorem tie_of_precedes {a b : Point} (hab : a.precedes b = true) (hba : b.precedes a = true) :
    a.time = b.time ∧ a.name = b.name := by
  have hrank : a.rank = b.rank :=
    le_antisymm (precedes_iff_rank_le.1 hab) (precedes_iff_rank_le.1 hba)
  exact Prod.mk.inj (toLex.injective hrank)

/-- The head of a sorted list precedes all of it. -/
theorem head_precedes {head point : Point} {points : List Point}
    (hsorted : (head :: points).Pairwise fun a b => a.precedes b = true)
    (hmem : point ∈ head :: points) : head.precedes point = true := by
  rcases List.mem_cons.1 hmem with rfl | hlater
  · exact precedes_iff_rank_le.2 le_rfl
  · exact List.rel_of_pairwise_cons hsorted hlater

/-- The points of a list in their order. -/
theorem pairwise_mergeSort_precedes (points : List Point) :
    (points.mergeSort precedes).Pairwise fun a b => a.precedes b = true :=
  List.pairwise_mergeSort precedes_trans precedes_total points

/-- Points apart from each other are in strict order when they are in order. -/
theorem pairwise_before_mergeSort {points : List Point}
    (hapart : points.Pairwise fun a b => a.time ≠ b.time ∨ a.name ≠ b.name) :
    (points.mergeSort precedes).Pairwise Before := by
  have hsorted := (List.mergeSort_perm points precedes).pairwise_iff
    (fun hne => hne.imp Ne.symm Ne.symm) |>.2 hapart
  exact (pairwise_mergeSort_precedes points).imp₂ (fun _ _ => before_of_precedes) hsorted

/-- A list in strict order is determined by its members. -/
theorem eq_of_mem_iff {left right : List Point} (hleft : left.Pairwise Before)
    (hright : right.Pairwise Before) (hmem : ∀ point, point ∈ left ↔ point ∈ right) :
    left = right :=
  hleft.eq_of_mem_iff hright hmem

/-! ### Ties -/

/-- The points of one time and name, in their order. -/
def ties (points : List Point) (time : Time.Instant) (name : String) : List Point :=
  points.filter fun point => point.time = time ∧ point.name = name

variable {points left right : List Point} {time : Time.Instant} {name : String} {point : Point}

theorem mem_ties_iff : point ∈ ties points time name ↔
    point ∈ points ∧ point.time = time ∧ point.name = name := by
  rw [ties, List.mem_filter, decide_eq_true_eq]

theorem ties_cons_of_eq (htime : point.time = time) (hname : point.name = name) :
    ties (point :: points) time name = point :: ties points time name :=
  List.filter_cons_of_pos (decide_eq_true ⟨htime, hname⟩)

theorem ties_cons_of_ne (hne : ¬ (point.time = time ∧ point.name = name)) :
    ties (point :: points) time name = ties points time name :=
  List.filter_cons_of_neg (by simpa using hne)

/-- Sorting leaves ties in their order. They are in order among themselves as they are, and
what is in order stays a sublist. -/
theorem ties_mergeSort (points : List Point) (time : Time.Instant) (name : String) :
    ties (points.mergeSort precedes) time name = ties points time name := by
  have hordered : (ties points time name).Pairwise fun a b => a.precedes b = true := by
    rw [List.pairwise_iff_forall_sublist]
    intro a b hsub
    obtain ⟨-, hatime, haname⟩ := mem_ties_iff.1 (hsub.subset List.mem_cons_self)
    obtain ⟨-, hbtime, hbname⟩ :=
      mem_ties_iff.1 (hsub.subset (List.mem_cons_of_mem _ List.mem_cons_self))
    rw [precedes_iff]
    exact Or.inr ⟨hatime.trans hbtime.symm, (haname.trans hbname.symm).le⟩
  have hsublist : (ties points time name).Sublist (points.mergeSort precedes) :=
    List.sublist_mergeSort precedes_trans precedes_total hordered List.filter_sublist
  have hties : ties (ties points time name) time name = ties points time name := by
    rw [ties, ties, List.filter_filter]
    simp
  have hlength : (ties points time name).length =
      (ties (points.mergeSort precedes) time name).length :=
    ((List.mergeSort_perm points precedes).filter _).length_eq.symm
  rw [← hties] at hlength
  exact ((hsublist.filter _).eq_of_length hlength).symm.trans hties

/-- Lists with the same ties have the same members. -/
theorem mem_iff_of_ties_eq (hties : ∀ time name, ties left time name = ties right time name) :
    point ∈ left ↔ point ∈ right := by
  have hmem : ∀ points : List Point, point ∈ points ↔ point ∈ ties points point.time point.name := by
    intro points
    rw [mem_ties_iff]
    exact ⟨fun hpoint => ⟨hpoint, rfl, rfl⟩, fun hpoint => hpoint.1⟩
  rw [hmem left, hmem right, hties]

/-- Sorted lists with the same ties are the same. Their heads precede each other, so they tie, and
each comes first among the same ties. -/
theorem eq_of_ties_eq (hleft : left.Pairwise fun a b => a.precedes b = true)
    (hright : right.Pairwise fun a b => a.precedes b = true)
    (hties : ∀ time name, ties left time name = ties right time name) : left = right := by
  induction left generalizing right with
  | nil =>
    symm
    rw [List.eq_nil_iff_forall_not_mem]
    intro point hpoint
    cases (mem_iff_of_ties_eq hties).2 hpoint
  | cons a left ih =>
    cases right with
    | nil => cases (mem_iff_of_ties_eq hties).1 List.mem_cons_self
    | cons b right =>
      obtain ⟨htime, hname⟩ : b.time = a.time ∧ b.name = a.name :=
        tie_of_precedes
          (head_precedes hright ((mem_iff_of_ties_eq hties).1 List.mem_cons_self))
          (head_precedes hleft ((mem_iff_of_ties_eq hties).2 List.mem_cons_self))
      have hheads := hties a.time a.name
      rw [ties_cons_of_eq rfl rfl, ties_cons_of_eq htime hname] at hheads
      obtain rfl := (List.cons.inj hheads).1
      rw [ih hleft.of_cons hright.of_cons]
      intro time name
      have hboth := hties time name
      by_cases hsame : a.time = time ∧ a.name = name
      · rw [ties_cons_of_eq hsame.1 hsame.2, ties_cons_of_eq hsame.1 hsame.2] at hboth
        exact (List.cons.inj hboth).2
      · rwa [ties_cons_of_ne hsame, ties_cons_of_ne hsame] at hboth

end MetricBridge.Point
