import WorkDepot.Depot
import WorkDepot.Proofs.Text.Cut

/-! # Paths relative to a marker

A path is made relative by dropping everything through the last place where the marker stands,
wherever occurrences overlap. What is left has no marker, so nothing more is dropped when it is made
relative again. A path without the marker is left as it is, or refused by those who insist on one.
-/
namespace WorkDepot

namespace Text
variable {marker text front rest : Text}

/-- Behind the last marker there is none, not even one that begins within the last. -/
theorem CutsLast.free (h : CutsLast marker text front rest) (hm : marker ≠ []) :
    ¬ marker <:+: rest := by
  rintro ⟨before, behind, rfl⟩
  have hpos := List.length_pos_iff.mpr hm
  have hle := h.last (front ++ marker ++ before) behind (by rw [h.eq]; simp)
  simp only [List.length_append] at hle
  omega

/-- A marker without characters stands at the end. -/
theorem CutsLast.eq_nil (h : CutsLast [] text front rest) : rest = [] := by
  have hle := h.last text [] (by simp)
  have hlength := congrArg List.length h.eq
  simp only [List.append_nil, List.length_append] at hlength
  exact List.length_eq_zero_iff.mp (by omega)

end Text

namespace Placement
variable {marker path relative other : Text}

/-- What is left of a path, seen from the marker. -/
structure Relative (marker path relative : Text) : Prop where
  behind : marker <:+: path → ∃ front, Text.CutsLast marker path front relative
  whole : ¬ marker <:+: path → relative = path
  free : marker ≠ [] → ¬ marker <:+: relative
  emptied : marker = [] → relative = []

theorem Relative.unique (h : Relative marker path relative) (h' : Relative marker path other) :
    relative = other := by
  by_cases hm : marker <:+: path
  · obtain ⟨front, hcuts⟩ := h.behind hm
    obtain ⟨front', hcuts'⟩ := h'.behind hm
    exact (hcuts.unique hcuts').2
  · rw [h.whole hm, h'.whole hm]

theorem relativeTo_relative (marker path : Text) :
    Relative marker path (relativeTo marker path) := by
  rw [relativeTo]
  cases h : Text.afterLast? marker path with
  | none =>
    have hm := Text.afterLast?_eq_none_iff.mp h
    refine ⟨fun hinfix => absurd hinfix hm, fun _ => rfl, fun _ => hm, ?_⟩
    rintro rfl
    exact absurd List.nil_infix hm
  | some rest =>
    obtain ⟨front, hcuts⟩ := Text.afterLast?_eq_some_iff.mp h
    have hm : marker <:+: path := ⟨front, rest, hcuts.eq.symm⟩
    refine ⟨fun _ => ⟨front, hcuts⟩, fun hnone => absurd hm hnone, hcuts.free, ?_⟩
    rintro rfl
    exact hcuts.eq_nil

theorem relativeTo_eq_iff : relativeTo marker path = relative ↔ Relative marker path relative := by
  constructor
  · rintro rfl
    exact relativeTo_relative marker path
  · exact (relativeTo_relative marker path).unique

/-- A path that has been made relative is relative to itself. -/
theorem Relative.again (h : Relative marker path relative) :
    Relative marker relative relative := by
  by_cases hm : marker = []
  · obtain rfl := h.emptied hm
    subst hm
    exact relativeTo_relative [] []
  · have hnone := h.free hm
    exact ⟨fun hinfix => absurd hinfix hnone, fun _ => rfl, h.free, h.emptied⟩

theorem afterLast?_eq_ite (marker path : Text) : Text.afterLast? marker path =
    if marker <:+: path then some (relativeTo marker path) else none := by
  rw [relativeTo]
  cases h : Text.afterLast? marker path with
  | none => rw [if_neg (Text.afterLast?_eq_none_iff.mp h)]
  | some rest =>
    have hm : marker <:+: path := by
      by_contra hnone
      rw [Text.afterLast?_eq_none_iff.mpr hnone] at h
      cases h
    rw [if_pos hm, Option.getD_some]

/-- Making a path relative drops everything through the last marker and nothing else, and does
nothing the second time. A depot does it with its own marker, and its strict form gives the same
where the marker occurs and nothing elsewhere. -/
theorem relativeTo_last (marker path : Text) (depot : Depot) :
    let marked : Depot := { depot with marker }
    (∀ relative, relativeTo marker path = relative ↔ Relative marker path relative) ∧
      relativeTo marker (relativeTo marker path) = relativeTo marker path ∧
      marked.toRelative path = relativeTo marker path ∧
      marked.toRelative? path =
        if marker <:+: path then some (relativeTo marker path) else none := by
  intro marked
  refine ⟨fun _ => relativeTo_eq_iff, ?_, rfl, afterLast?_eq_ite marker path⟩
  exact relativeTo_eq_iff.mpr (relativeTo_relative marker path).again

/-- The two markers share a slash. -/
example : relativeTo "/d/".toList "/a/d/d/x".toList = "x".toList := by decide

end Placement
end WorkDepot
