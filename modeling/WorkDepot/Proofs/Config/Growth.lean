import WorkDepot.Proofs.Config.Overlay
import WorkDepot.Proofs.FileSystem.Walk

/-! # Configurations of growing file systems

What is read from files that are there does not change when more files come. So a configuration
that has been loaded is loaded again as long as nothing is taken away.
-/
namespace WorkDepot.Config
variable {before after : FileSystem} {parse : Text → Option Document}

theorem documentAt_mono {path? : Option Text} {document : Document} (h : before ≤ after)
    (hd : documentAt parse before path? = .ok document) :
    documentAt parse after path? = .ok document := by
  cases path? with
  | none => exact hd
  | some path =>
    simp only [documentAt] at hd ⊢
    cases hread : before.readText path with
    | error cause => simp [hread] at hd
    | ok text =>
      rw [hread] at hd
      rw [FileSystem.readText_mono h hread]
      exact hd

theorem ifSound_eq_ok_iff {α : Type} {value result : α} {faults : List Error} :
    ifSound value faults = .ok result ↔ faults = [] ∧ value = result := by
  cases faults <;> simp [ifSound]

theorem projectFaults_mono {path? : Option Text} (h : before ≤ after)
    (hp : projectFaults before path? = []) : projectFaults after path? = [] := by
  cases path? with
  | none => cases hp
  | some path =>
    simp only [projectFaults, List.append_eq_nil_iff] at hp ⊢
    refine ⟨hp.1, ?_⟩
    by_cases hd : before.isDirectory path
    · rw [if_pos (FileSystem.isDirectory_mono h hd)]
    · simp [hd] at hp

theorem faults_mono {document : Document} (h : before ≤ after)
    (hf : document.faults before = []) : document.faults after = [] := by
  simp only [Document.faults, List.append_eq_nil_iff] at hf ⊢
  obtain ⟨⟨⟨⟨hproject, htimeout⟩, hdigest⟩, hmode⟩, hmarker⟩ := hf
  exact ⟨⟨⟨⟨projectFaults_mono h hproject, htimeout⟩, hdigest⟩, hmode⟩, hmarker⟩

/-- A configuration that has been loaded can be loaded from all files that come later. -/
theorem load_mono {file : Option Text} {environment : Environment} {settings : Settings}
    (h : before ≤ after) (hl : load parse before file environment = .ok settings) :
    load parse after file environment = .ok settings := by
  rw [load_overlaid, overlaid, bind_eq_ok] at hl ⊢
  obtain ⟨document, hd, hs⟩ := hl
  refine ⟨document, documentAt_mono h hd, ?_⟩
  simp only [ifSound_eq_ok_iff, List.append_eq_nil_iff] at hs ⊢
  obtain ⟨⟨htimeout, hfaults⟩, hsettled⟩ := hs
  exact ⟨⟨htimeout, faults_mono h hfaults⟩, hsettled⟩

end WorkDepot.Config
