import WorkDepot.Config.File
import WorkDepot.Proofs.Config.Growth
import WorkDepot.Proofs.Path

/-! # Configurations that can be used

A value of a configuration is looked at in one place when it is given and is a default when it is
not, and each field has a place of its own. Whatever the values come from, a configuration is loaded
only when a process can be started in its project, waited for, and handed files with its mode.
-/
namespace WorkDepot.Config
variable {parse : Text → Option Document} {files : FileSystem} {file : Option Text}
variable {environment : Environment} {settings : Settings} {document : Document}

/-- Where a program is that a project calls: where its path says when that is absolute, and
otherwise behind the project's directory and one slash. -/
structure Found (projectDir program path : Text) : Prop where
  absolute : Path.isAbsolute path
  itself : Path.isAbsolute program → path = program
  below : ¬ Path.isAbsolute program → ∃ base, path = base ++ '/' :: program ∧
    (projectDir = base ∨ projectDir = base ++ ['/'])
  joined : path = Path.join projectDir program

/-- What those who work with a configuration rely on. -/
structure Usable (files : FileSystem) (settings : Settings) : Prop where
  absolute : Path.isAbsolute settings.projectDir
  directory : ∃ location, files.locate settings.projectDir = .ok location ∧
    files.node? location = some .directory
  timeout : 1000 ≤ settings.timeoutMillis
  mode : settings.fileMode ≤ 0o7777
  marker : settings.downloadMarker ≠ []
  oracle : Found settings.projectDir settings.oracleProgram settings.oracleProgramPath
  createWork : Found settings.projectDir settings.createWorkProgram settings.createWorkProgramPath
  programs : ∀ program, Found settings.projectDir program (settings.programPath program)

/-- A configuration that has been loaded is a document without faults, with its defaults. -/
theorem settled_of_load (h : load parse files file environment = .ok settings) :
    ∃ document : Document, document.faults files = [] ∧ document.settled = settings := by
  rw [load_overlaid, overlaid, bind_eq_ok] at h
  obtain ⟨document, _, hs⟩ := h
  obtain ⟨hfaults, hsettled⟩ := ifSound_eq_ok_iff.mp hs
  exact ⟨document.under environment, (List.append_eq_nil_iff.mp hfaults).2, hsettled⟩

theorem projectFaults_eq_nil {path? : Option Text} (h : projectFaults files path? = []) :
    ∃ path, path? = some path ∧ Path.isAbsolute path ∧ files.isDirectory path := by
  cases path? with
  | none => cases h
  | some path =>
    obtain ⟨ha, hd⟩ := List.append_eq_nil_iff.mp h
    refine ⟨path, rfl, ?_, ?_⟩
    · by_contra hne
      simp [hne] at ha
    · by_contra hne
      simp [hne] at hd

/-- What is read as a mode is within the limit, however long its digits are. -/
theorem readMode_le {value : Text} {mode : Mode} (h : readMode value = .ok mode) :
    mode ≤ modeLimit := by
  simp only [readMode] at h
  split at h
  · cases h
  · split at h
    · cases h
    · next hle =>
      cases h
      exact Nat.le_of_not_lt hle

/-- A mode that gives no fault is within the limit, and so is the default. -/
theorem mode_le {value? : Option Text}
    (h : (value?.toList.flatMap fun value => faultOf (readMode value)) = []) :
    readOr readMode 0o755 value? ≤ 0o7777 := by
  cases value? with
  | none => decide
  | some value =>
    cases hread : readMode value with
    | error error => simp [hread, faultOf] at h
    | ok mode =>
      rw [readOr, Option.bind_some, hread]
      exact readMode_le hread

theorem found_programPath (ha : Path.isAbsolute settings.projectDir) (program : Text) :
    Found settings.projectDir program (settings.programPath program) := by
  by_cases hp : Path.isAbsolute program
  · have hpath : settings.programPath program = program := if_pos hp
    exact {
      absolute := by rw [hpath]; exact hp
      itself := fun _ => hpath
      below := fun hr => absurd hp hr
      joined := by rw [hpath, Path.join]; simp [hp] }
  · have hpath : settings.programPath program = Path.join settings.projectDir program := if_neg hp
    obtain ⟨base, hjoin, hbase⟩ := Path.join_relative ha hp
    exact {
      absolute := by rw [hpath]; exact Path.join_isAbsolute ha
      itself := fun h => absurd h hp
      below := fun _ => ⟨base, hpath.trans hjoin, hbase⟩
      joined := hpath }

/-- Every configuration that is loaded can be used. -/
theorem load_usable (h : load parse files file environment = .ok settings) :
    Usable files settings := by
  obtain ⟨document, hfaults, rfl⟩ := settled_of_load h
  simp only [Document.faults, List.append_eq_nil_iff] at hfaults
  obtain ⟨⟨⟨⟨hproject, htimeout⟩, _⟩, hmode⟩, hmarker⟩ := hfaults
  obtain ⟨path, hpath, ha, hd⟩ := projectFaults_eq_nil hproject
  have hdir : document.settled.projectDir = path := by simp [Document.settled, hpath]
  have ha' : Path.isAbsolute document.settled.projectDir := by rw [hdir]; exact ha
  have hsecs : 1 ≤ document.toolTimeoutSecs.getD 300 := by
    cases hs : document.toolTimeoutSecs with
    | none => decide
    | some secs =>
      have hne : secs ≠ 0 := by
        rintro rfl
        simp [hs] at htimeout
      exact Nat.one_le_iff_ne_zero.mpr hne
  exact {
    absolute := ha'
    directory := by rw [hdir]; exact FileSystem.isDirectory_iff.mp hd
    timeout := Nat.mul_le_mul_left 1000 hsecs
    mode := mode_le hmode
    marker := by
      cases hm : document.downloadMarker with
      | none => simp [Document.settled, hm]
      | some marker =>
        intro he
        rw [Document.settled, hm] at he
        simp [hm, show marker = [] from he] at hmarker
    oracle := found_programPath ha' _
    createWork := found_programPath ha' _
    programs := found_programPath ha' }

/-- The environment gives the project and a mode, the file the shortest timeout and a program
without a path, which is then the project itself. -/
theorem load_usable_overlaid :
    let files := (FileSystem.empty.insert ["p".toList] .directory).insert ["c".toList]
      (.file (Bytes.ofAscii "oracle_program: ''\ntool_timeout_secs: 1") 0o644)
    let environment : Environment := fun name =>
      if name = Variable.projectDir.name then some "/p".toList
      else if name = Variable.fileMode.name then some "0o007777".toList
      else none
    let settings : Settings := { Settings.ofProject "/p".toList with
      oracleProgram := [], timeoutMillis := 1000, fileMode := 0o7777 }
    load Document.ofText? files (some "/c".toList) environment = .ok settings ∧
      Usable files settings ∧ settings.oracleProgramPath = "/p/".toList := by
  intro files environment settings
  have h : load Document.ofText? files (some "/c".toList) environment = .ok settings := by
    decide +kernel
  exact ⟨h, load_usable h, by decide⟩

end WorkDepot.Config
