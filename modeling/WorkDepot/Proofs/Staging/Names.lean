import WorkDepot.Proofs.Placement.Hashed
import WorkDepot.Proofs.Staging.Stage
import WorkDepot.Proofs.Text.Cut

/-! # Names that do not clash

The underscore before the fingerprint is the last one in a name, since fingerprints are written in
hexadecimal. A name thus tells its label and its fingerprint, whatever underscores the label has.
In a hashed layout all names are two levels below the directory, so that the path of one is never
that of another, nor a directory that another one is in.
-/
namespace WorkDepot

namespace Path

/-- Neither path is the other one or above it, whatever dots and slashes they are spelled with. -/
structure Apart (first second : Text) : Prop where
  notAbove : ¬ way first <:+ way second
  notBelow : ¬ way second <:+ way first

variable {first second : Text}

theorem Apart.notMem_lineage (h : Apart first second) :
    first ∉ lineage second ∧ second ∉ lineage first := by
  constructor
  · intro hm
    exact h.notAbove (way_suffix_of_mem_ancestors hm)
  · intro hm
    exact h.notBelow (way_suffix_of_mem_ancestors hm)

/-- Paths that go equally far are apart as soon as they go different ways. -/
theorem apart_of_length (hl : (way first).length = (way second).length)
    (hne : way first ≠ way second) : Apart first second where
  notAbove hsuffix := hne (hsuffix.eq_of_length hl)
  notBelow hsuffix := hne (hsuffix.eq_of_length hl.symm).symm

end Path

namespace Placement.Hashed.Layout

theorem apart_expectedPath (layout : Layout) {first second : Text} (hf : Path.Plain first)
    (hs : Path.Plain second) (hne : first ≠ second) :
    Path.Apart (layout.expectedPath first) (layout.expectedPath second) := by
  have hfirst := layout.way_expectedPath hf
  have hsecond := layout.way_expectedPath hs
  apply Path.apart_of_length
  · rw [hfirst, hsecond, List.length_cons, List.length_cons, List.length_cons, List.length_cons]
  · intro hway
    rw [hfirst, hsecond, List.cons.injEq, Path.Step.into.injEq] at hway
    exact hne hway.1

end Placement.Hashed.Layout

namespace Staging
open Placement.Hashed
variable {label other fingerprint spelling : Text}

/-- A name is cut at its last underscore into the label and the fingerprint. -/
theorem filename_eq_iff (hf : '_' ∉ fingerprint) (hs : '_' ∉ spelling) :
    filename label fingerprint = filename other spelling ↔
      label = other ∧ fingerprint = spelling := by
  constructor
  · intro h
    have hcuts : Text.CutsLast ['_'] (filename label fingerprint) label fingerprint :=
      .of_notMem label hf
    have hother : Text.CutsLast ['_'] (filename other spelling) other spelling :=
      .of_notMem other hs
    rw [h] at hcuts
    exact hcuts.unique hother
  · rintro ⟨rfl, rfl⟩
    rfl

/-- Names are equal only if their labels and fingerprints are. If labels have no slash, the paths of
different names are apart in every layout: a path is in its own lineage, with the directories that
it is in, and not in the lineage of the other. -/
theorem filenames_apart (hf : Text.IsHex fingerprint) (hs : Text.IsHex spelling) :
    (filename label fingerprint = filename other spelling ↔
        label = other ∧ fingerprint = spelling) ∧
      ('/' ∉ label → '/' ∉ other → (label, fingerprint) ≠ (other, spelling) →
        ∀ layout : Layout,
          let first := layout.expectedPath (filename label fingerprint)
          let second := layout.expectedPath (filename other spelling)
          Path.Apart first second ∧
            first ∉ Path.lineage second ∧ second ∉ Path.lineage first) := by
  have hname : filename label fingerprint = filename other spelling ↔
      label = other ∧ fingerprint = spelling :=
    filename_eq_iff (hf.notMem (by decide)) (hs.notMem (by decide))
  refine ⟨hname, ?_⟩
  intro hl ho hne layout first second
  have hfirst := filename_plain_of_notMem hl (hf.notMem (by decide))
  have hsecond := filename_plain_of_notMem ho (hs.notMem (by decide))
  have hdifferent : filename label fingerprint ≠ filename other spelling := by
    intro he
    obtain ⟨rfl, rfl⟩ := hname.mp he
    exact hne rfl
  have hapart : Path.Apart first second := layout.apart_expectedPath hfirst hsecond hdifferent
  exact ⟨hapart, hapart.notMem_lineage⟩

/-- One label is the whole name of the other content, and the one path begins with the other. -/
theorem filenames_apart_nested :
    let layout : Layout := ⟨"../d/".toList, 1⟩
    let first := layout.expectedPath (filename "in".toList "aF".toList)
    let second := layout.expectedPath (filename "in_aF".toList [])
    first = "../d/0/in_aF".toList ∧ second = "../d/0/in_aF_".toList ∧
      Path.Apart first second := by
  intro layout first second
  obtain ⟨-, hapart⟩ := @filenames_apart "in".toList "in_aF".toList "aF".toList [] (by decide)
    (by decide)
  obtain ⟨hpaths, -⟩ := hapart (by decide) (by decide) (by decide) layout
  exact ⟨by decide +kernel, by decide +kernel, hpaths⟩

end Staging
end WorkDepot
