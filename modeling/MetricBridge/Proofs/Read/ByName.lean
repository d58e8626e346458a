/-
# Reading a series by its name

An equality hands its text to the store as it is, and the store reads every text as a pattern. So
a read by name yields the samples of all series whose names fit the text. As long as the text has
no sign of a pattern in it this is the one series of that name. A sign makes a difference in two
ways: with `*` or `?` other series come along, and with an opening brace the series itself may
stay away.
-/

import Mathlib
import MetricBridge.Proofs.Read.Watch
import MetricBridge.Proofs.Store.Glob
import MetricBridge.Read.Plan

namespace MetricBridge

/-- A point is a sample that the store holds. -/
def Store.Holds (store : Store) (point : Point) : Prop :=
  point.time.nano = 0 ∧ store.sample? point.name point.time.second = some point.value

instance (store : Store) (point : Point) : Decidable (store.Holds point) :=
  inferInstanceAs (Decidable (_ ∧ _))

theorem Store.offers_iff {store : Store} {query : Query} {point : Point} :
    store.Offers query point ↔
      store.Holds point ∧ query.window.contains point.time = true ∧
        Glob.fits query.target.toList point.name.toList = true := by
  constructor
  · intro hoffers
    exact ⟨⟨hoffers.isWhole, hoffers.held⟩, hoffers.inWindow, hoffers.fits⟩
  · rintro ⟨⟨hwhole, hheld⟩, hwindow, hfits⟩
    exact ⟨hwhole, hfits, hwindow, hheld⟩

namespace Selector

open Watch (dawn noon untimed)

/-- A selector by name asks for the name as it is. -/
theorem targetOf_nameEquals {name : String} (hname : name ≠ "") :
    Plan.targetOf (some (nameEquals name)) = .ok name := by
  rw [Plan.targetOf, nameEquals, constraint, if_pos ⟨rfl, hname⟩]
  rfl

/-- A read by name yields the samples in its window of the series whose names fit the name as a
pattern, ordered by time and then by name. They are all of that name if none of its characters
has a meaning in a pattern; and the samples of that name are among them if it has no
opening brace. -/
theorem read_nameEquals {installation : Installation} (hserving : installation.Serving)
    {name : String} (hname : name ≠ "") (window : Interval) :
    ∃ (target : String) (points : List Point),
      Plan.targetOf (some (nameEquals name)) = .ok target ∧
      BoundedRead.Yields Installation.load (BoundedRead.start ⟨target, window⟩) installation
        (points.map Except.ok) ∧
      points.Pairwise Point.Before ∧
      (∀ point, point ∈ points ↔
        installation.store.Holds point ∧ window.contains point.time = true ∧
          Glob.fits name.toList point.name.toList = true) ∧
      (Glob.IsLiteral name.toList → ∀ point ∈ points, point.name = name) ∧
      ('\x7b' ∉ name.toList →
        ∀ point, installation.store.Holds point → window.contains point.time = true →
          point.name = name → point ∈ points) := by
  obtain ⟨points, hrun, hordered, hoffers⟩ := hserving.run ⟨name, window⟩
  have hmem : ∀ point, point ∈ points ↔
      installation.store.Holds point ∧ window.contains point.time = true ∧
        Glob.fits name.toList point.name.toList = true := by
    intro point
    rw [hoffers, Store.offers_iff]
  refine ⟨name, points, targetOf_nameEquals hname, BoundedRead.yields_points hrun, hordered, hmem,
    ?_, ?_⟩
  · intro hliteral point hpoint
    have hfits := ((hmem point).1 hpoint).2.2
    exact String.toList_injective ((Glob.fits_iff_of_isLiteral hliteral).1 hfits)
  · intro hbrace point hholds hwindow hsame
    apply (hmem point).2
    refine ⟨hholds, hwindow, ?_⟩
    rw [hsame]
    exact Glob.fits_self hbrace

/-- An installation to which one sample of a name was written at noon. -/
def sampledAtNoon (name : String) : Installation :=
  Installation.after [⟨noon, [untimed name 1], false⟩]

/-- A name without signs is read by equality. -/
theorem read_plainName :
    (sampledAtNoon "m.a").Serving ∧ ∃ points : List Point,
      BoundedRead.Yields Installation.load (BoundedRead.start ⟨"m.a", ⟨some dawn, noon⟩⟩)
        (sampledAtNoon "m.a") (points.map Except.ok) ∧
      (∀ point ∈ points, point.name = "m.a") ∧ ⟨noon, "m.a", Binary64.ofInt 1⟩ ∈ points := by
  have hserving : (sampledAtNoon "m.a").Serving := (Installation.store_after _).2
  obtain ⟨target, points, htarget, hyields, -, -, honly, hall⟩ :=
    read_nameEquals hserving (by decide : "m.a" ≠ "") ⟨some dawn, noon⟩
  rw [targetOf_nameEquals (by decide)] at htarget
  cases htarget
  refine ⟨hserving, points, hyields, honly ?_, ?_⟩
  · rw [Glob.IsLiteral]
    simp
  · exact hall (by decide) _ (by decide +kernel) (by decide +kernel) rfl

/-- Names with signs are not: a read of `m.*` yields a sample of another series, and a read of a
name that ends in an opening brace misses the sample of that very series. -/
theorem read_signs_not_by_equality :
    Plan.targetOf (some (nameEquals "m.*")) = .ok "m.*" ∧
      BoundedRead.Yields Installation.load (BoundedRead.start ⟨"m.*", ⟨some dawn, noon⟩⟩)
        (sampledAtNoon "m.a") [.ok ⟨noon, "m.a", Binary64.ofInt 1⟩] ∧
      Plan.targetOf (some (nameEquals "m\x7b")) = .ok "m\x7b" ∧
      (sampledAtNoon "m\x7b").store.Holds ⟨noon, "m\x7b", Binary64.ofInt 1⟩ ∧
      Interval.contains ⟨some dawn, noon⟩ noon = true ∧
      BoundedRead.Yields Installation.load (BoundedRead.start ⟨"m\x7b", ⟨some dawn, noon⟩⟩)
        (sampledAtNoon "m\x7b") [] := by
  have hother : (Query.run Installation.load ⟨"m.*", ⟨some dawn, noon⟩⟩
      (sampledAtNoon "m.a")).1 = .ok [⟨noon, "m.a", Binary64.ofInt 1⟩] := by
    decide +kernel
  have hmissed : (Query.run Installation.load ⟨"m\x7b", ⟨some dawn, noon⟩⟩
      (sampledAtNoon "m\x7b")).1 = .ok [] := by
    decide +kernel
  refine ⟨rfl, ?_, rfl, by decide +kernel, by decide +kernel, ?_⟩
  · exact BoundedRead.yields_points hother
  · exact BoundedRead.yields_points hmissed

end Selector

end MetricBridge
