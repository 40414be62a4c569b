import WorkDepot.Config.File
import WorkDepot.Proofs.Config.Overlay

/-! # Blank variables

A blank variable overrides nothing: as far as the values of a document go, it might as well not be
set. With the variable for the file it is different, since whatever it is set to is a path. So to
unset what is blank makes no difference to a configuration that comes from the same file, and none
at all when the file is given or its variable is not blank.
-/
namespace WorkDepot.Config
variable {parse : Text → Option Document} {files : FileSystem} {first second : Environment}

/-- The variable is not set to blanks only. -/
def Environment.Filled (environment : Environment) (which : Variable) : Prop :=
  ∀ value ∈ environment which.name, Text.trim value ≠ []

instance (environment : Environment) (which : Variable) : Decidable (environment.Filled which) :=
  inferInstanceAs (Decidable (∀ value ∈ environment which.name, Text.trim value ≠ []))

/-- What is blank in the first environment is not set in the second, and all else is the same. -/
structure Cleared (first second : Environment) : Prop where
  unset : ∀ which : Variable, ¬ first.Filled which → second which.name = none
  same : ∀ which : Variable, first.Filled which → second which.name = first which.name

/-- A blank variable is chosen no more than one that is not set. -/
theorem Cleared.chosen_eq (h : Cleared first second) (which : Variable) (own : Option Text) :
    chosen second which own = chosen first which own := by
  by_cases hfilled : first.Filled which
  · exact chosen_congr (h.same which hfilled) own
  · have hunset := h.unset which hfilled
    unfold Environment.Filled at hfilled
    push Not at hfilled
    obtain ⟨value, hvalue, hblank⟩ := hfilled
    rw [Option.mem_def] at hvalue
    simp [chosen, hunset, hvalue, hblank]

theorem Cleared.under_eq (h : Cleared first second) (document : Document) :
    document.under second = document.under first := by
  simp only [Document.under, timeoutGiven, h.chosen_eq]

theorem Cleared.timeoutFaults_eq (h : Cleared first second) :
    timeoutFaults second = timeoutFaults first := by
  simp only [timeoutFaults, timeoutGiven, h.chosen_eq]

/-- Whether a file is given or named by the first environment, the second leads to none other. -/
theorem Cleared.documentPath_eq (h : Cleared first second) (file : Option Text) :
    documentPath (documentPath file first) second = documentPath file first := by
  cases hpath : documentPath file first with
  | some path => rfl
  | none =>
    have hunset : first Variable.configFile.name = none := by
      cases file with
      | none => exact hpath
      | some path => cases hpath
    have hfilled : first.Filled .configFile := by
      intro value hvalue
      rw [hunset] at hvalue
      cases hvalue
    exact (h.same _ hfilled).trans hunset

/-- To unset what is blank makes no difference to what is loaded from the same file. The file is the
same when one is given, or when the variable for it is not among the blank ones. -/
theorem load_cleared (h : Cleared first second) (file : Option Text) :
    load parse files (documentPath file first) second = load parse files file first ∧
      ((file = none → first.Filled .configFile) →
        load parse files file second = load parse files file first) := by
  have hsame (given : Option Text) (hgiven : documentPath given second = documentPath file first) :
      load parse files given second = load parse files file first := by
    simp only [load_overlaid, overlaid, hgiven, h.under_eq, h.timeoutFaults_eq]
  refine ⟨hsame _ (h.documentPath_eq file), ?_⟩
  intro hfilled
  apply hsame
  cases file with
  | none => exact h.same _ (hfilled rfl)
  | some path => rfl

/-- A blank digest and an empty timeout leave those of the file in force, which is named by a
variable. -/
theorem load_cleared_named :
    let files := (FileSystem.empty.insert ["p".toList] .directory).insert ["c".toList]
      (.file (Bytes.ofAscii "digest: blake3\ntool_timeout_secs: 5") 0o644)
    let second : Environment := fun name =>
      if name = Variable.projectDir.name then some "/p".toList
      else if name = Variable.configFile.name then some "/c".toList
      else none
    let first : Environment := fun name =>
      if name = Variable.digest.name then some "\t ".toList
      else if name = Variable.toolTimeoutSecs.name then some []
      else second name
    let settings : Settings :=
      { Settings.ofProject "/p".toList with digest := .blake3, timeoutMillis := 5000 }
    Cleared first second ∧ first.Filled .configFile ∧
      load Document.ofText? files none first = .ok settings ∧
      load Document.ofText? files none second = load Document.ofText? files none first := by
  intro files second first settings
  have h : Cleared first second :=
    ⟨fun which => by cases which <;> decide, fun which => by cases which <;> decide⟩
  have hfilled : first.Filled .configFile := by decide
  have hfirst : load Document.ofText? files none first = .ok settings := by decide +kernel
  exact ⟨h, hfilled, hfirst, (load_cleared h none).2 fun _ => hfilled⟩

/-- An empty variable for the file is a path that cannot be read, where without it there would be no
file to read. -/
theorem not_load_cleared_unnamed :
    let files := FileSystem.empty.insert ["p".toList] .directory
    let second : Environment := fun name =>
      if name = Variable.projectDir.name then some "/p".toList else none
    let first : Environment := fun name =>
      if name = Variable.configFile.name then some [] else second name
    Cleared first second ∧
      load Document.ofText? files none first = .error (.unreadable [] .notFound) ∧
      load Document.ofText? files none second = .ok (Settings.ofProject "/p".toList) := by
  intro files second first
  refine ⟨⟨fun which => ?_, fun which => ?_⟩, ?_, ?_⟩
  · cases which <;> decide
  · cases which <;> decide
  · decide +kernel
  · decide +kernel

end WorkDepot.Config
