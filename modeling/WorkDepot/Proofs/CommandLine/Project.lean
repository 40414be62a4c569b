import WorkDepot.Proofs.CommandLine.ExitCode
import WorkDepot.Proofs.Config.Growth

/-! # The project of a call

A call that names its project has no use for what others say about it. The variable for the project
makes no difference to it at all. The project in the configuration file makes none either, as long
as the call does not name a blank one, and then the project of its settings is the one that it
names. A blank name is passed over like a blank variable, so that the file has its way.
-/
namespace WorkDepot
open Config (Variable Document Settings Environment)

namespace Config
variable {parse : Text → Option Document} {files files' : FileSystem} {file : Option Text}
variable {first second environment : Environment} {path : Text}

/-- The document without its project. -/
def Document.withoutProject (document : Document) : Document := { document with projectDir := none }

/-- The environments are the same but for the variable for the project. -/
def SameButProject (first second : Environment) : Prop :=
  ∀ which : Variable, which ≠ .projectDir → first which.name = second which.name

theorem SameButProject.documentPath_eq (h : SameButProject first second) (file : Option Text) :
    documentPath file first = documentPath file second := by
  cases file with
  | some path => rfl
  | none => exact h .configFile nofun

theorem SameButProject.timeoutGiven_eq (h : SameButProject first second) :
    timeoutGiven first = timeoutGiven second := chosen_congr (h .toolTimeoutSecs nofun) none

/-- The project that the environment gives, in the place of any other. -/
def Gives (environment : Environment) (path : Text) : Prop :=
  ∀ own, chosen environment .projectDir own = some path

theorem gives_of_value (hvalue : environment Variable.projectDir.name = some path)
    (hpath : Text.trim path ≠ []) : Gives environment path := by
  intro own
  rw [chosen, hvalue]
  exact if_neg hpath

/-- Under environments that give the same project, what the document has for it is not looked at. -/
theorem SameButProject.under_eq (h : SameButProject first second) (hfirst : Gives first path)
    (hsecond : Gives second path) (document : Document) :
    document.under first = document.withoutProject.under second := by
  have hother (which : Variable) (hne : which ≠ .projectDir) (own : Option Text) :
      chosen first which own = chosen second which own := chosen_congr (h which hne) own
  simp only [Document.under, Document.withoutProject, hfirst _, hsecond _, h.timeoutGiven_eq,
    hother .oracleProgram (by simp), hother .createWorkProgram (by simp),
    hother .digest (by simp), hother .fileMode (by simp)]

/-- Of the files only the project's directory is looked at. -/
theorem faults_congr {document : Document} (hproject : document.projectDir = some path)
    (hdirectory : files.isDirectory path = files'.isDirectory path) :
    document.faults files = document.faults files' := by
  simp only [Document.faults, hproject, projectFaults, hdirectory]

/-- What a document comes to under an environment. -/
def finish (files : FileSystem) (environment : Environment) (document : Document) :
    Except Error Settings :=
  ifSound (document.under environment).settled
    (timeoutFaults environment ++ (document.under environment).faults files)

theorem finish_of_project (h : SameButProject first second) (hfirst : Gives first path)
    (hsecond : Gives second path)
    (hdirectory : files.isDirectory path = files'.isDirectory path) (document : Document) :
    finish files first document = finish files' second document.withoutProject := by
  have hproject : (document.withoutProject.under second).projectDir = some path := hsecond _
  simp only [finish, h.under_eq hfirst hsecond, timeoutFaults, h.timeoutGiven_eq,
    faults_congr hproject hdirectory]

theorem bind_withoutProject {α : Type} {found : Except Error Document}
    {next next' : Document → Except Error α}
    (h : ∀ document : Document, next document = next' document.withoutProject) :
    (found >>= next) = (found.map Document.withoutProject >>= next') := by
  cases found with
  | error error => rfl
  | ok document => exact h document

/-- With the project given, it is all the same which project the document has. -/
theorem overlaid_of_project (h : SameButProject first second) (hfirst : Gives first path)
    (hsecond : Gives second path)
    (hdocument : (documentAt parse files (documentPath file first)).map Document.withoutProject =
      (documentAt parse files' (documentPath file second)).map Document.withoutProject)
    (hdirectory : files.isDirectory path = files'.isDirectory path) :
    overlaid parse files file first = overlaid parse files' file second := by
  have hsame : SameButProject second second := fun _ _ => rfl
  calc overlaid parse files file first
    _ = ((documentAt parse files (documentPath file first)).map Document.withoutProject >>=
          finish files' second) :=
        bind_withoutProject (finish_of_project h hfirst hsecond hdirectory)
    _ = ((documentAt parse files' (documentPath file second)).map Document.withoutProject >>=
          finish files' second) := by rw [hdocument]
    _ = overlaid parse files' file second :=
        (bind_withoutProject (finish_of_project hsame hsecond hsecond rfl)).symm

end Config

namespace CommandLine
variable {call : Call} {parse : Text → Option Document} {host other : Host} {path : Text}

/-- The document in the configuration file of a call. -/
def Call.ownDocument (call : Call) (parse : Text → Option Document) (host : Host) :
    Except Config.Error Document :=
  Config.documentAt parse host.files (Config.documentPath call.config host.environment)

/-- The hosts differ in the project that they name, in the variable for it and in the configuration
file, and for the call in nothing else that could matter. -/
structure Call.DifferInProject (call : Call) (parse : Text → Option Document) (path : Text)
    (host other : Host) : Prop where
  environment : Config.SameButProject host.environment other.environment
  document : (call.ownDocument parse host).map Document.withoutProject =
    (call.ownDocument parse other).map Document.withoutProject
  directory : host.files.isDirectory path = other.files.isDirectory path

theorem Call.environment_eq (call : Call) (host : Host) {which : Variable}
    (hne : which ≠ .projectDir) :
    call.environment host which.name = host.environment which.name := by
  have hname : which.name ≠ Variable.projectDir.name := by
    cases which with
    | projectDir => exact absurd rfl hne
    | _ => decide
  exact if_neg hname

theorem Call.environment_project (hp : call.projectDir = some path) (host : Host) :
    call.environment host Variable.projectDir.name = some path := by
  rw [environment, if_pos rfl, hp]
  rfl

theorem Call.sameButProject (call : Call)
    (h : Config.SameButProject host.environment other.environment) :
    Config.SameButProject (call.environment host) (call.environment other) := by
  intro which hne
  rw [call.environment_eq host hne, call.environment_eq other hne]
  exact h which hne

theorem Call.documentPath_eq (call : Call) (host : Host) :
    Config.documentPath call.config (call.environment host) =
      Config.documentPath call.config host.environment := by
  cases h : call.config with
  | some path => rfl
  | none => exact call.environment_eq host nofun

theorem Call.load_of_settings {settings : Settings} (h : call.settings parse host = .ok settings) :
    Config.load parse host.files call.config (call.environment host) = .ok settings :=
  mapError_eq_ok.mp h

/-- The variable for the project is hidden by the project that the call names. -/
theorem Call.settings_of_variable (hp : call.projectDir = some path)
    (hfiles : host.files = other.files)
    (h : Config.SameButProject host.environment other.environment) :
    call.settings parse host = call.settings parse other := by
  have hproject : call.environment host Variable.projectDir.name =
      call.environment other Variable.projectDir.name := by
    rw [environment_project hp, environment_project hp]
  have hall (which : Variable) :
      call.environment host which.name = call.environment other which.name := by
    by_cases hwhich : which = .projectDir
    · rw [hwhich, hproject]
    · exact call.sameButProject h which hwhich
  have hload : Config.overlaid parse other.files call.config (call.environment host) =
      Config.overlaid parse other.files call.config (call.environment other) :=
    Config.overlaid_congr _ _ (fun _ => hall .configFile) fun which _ => hall which
  rw [settings, settings, Config.load_overlaid, Config.load_overlaid, hfiles, hload]

/-- The project of the settings is the one that the call names. -/
theorem Call.projectDir_of_settings (hp : call.projectDir = some path)
    (hpath : Text.trim path ≠ []) {settings : Settings}
    (h : call.settings parse host = .ok settings) : settings.projectDir = path := by
  have hgives := Config.gives_of_value (environment_project hp host) hpath
  have hloaded := load_of_settings h
  rw [Config.load_overlaid, Config.overlaid, bind_eq_ok] at hloaded
  obtain ⟨document, -, hsettled⟩ := hloaded
  obtain ⟨-, rfl⟩ := Config.ifSound_eq_ok_iff.mp hsettled
  have hproject : (document.under (call.environment host)).projectDir = some path := hgives _
  rw [Document.settled, hproject]
  rfl

/-- A call that names its project is settled the same whatever the variable for the project is. If
the project is not blank, it is that of the settings, and the settings or what is wrong with them
are the same whatever project the configuration file has. How the file is read is all the same. -/
theorem Call.settings_of_project (hp : call.projectDir = some path)
    (parse : Text → Option Document) :
    (∀ host other : Host, host.files = other.files →
      Config.SameButProject host.environment other.environment →
      call.settings parse host = call.settings parse other) ∧
    (Text.trim path ≠ [] →
      (∀ host settings, call.settings parse host = .ok settings → settings.projectDir = path) ∧
      ∀ host other, call.DifferInProject parse path host other →
        call.settings parse host = call.settings parse other) := by
  refine ⟨fun host other => settings_of_variable hp, fun hpath => ⟨?_, ?_⟩⟩
  · intro host settings h
    exact projectDir_of_settings hp hpath h
  · intro host other h
    have hgives (host : Host) := Config.gives_of_value (environment_project hp host) hpath
    have hdocument := h.document
    rw [ownDocument, ownDocument, ← documentPath_eq, ← documentPath_eq] at hdocument
    rw [settings, settings, Config.load_overlaid, Config.load_overlaid]
    rw [Config.overlaid_of_project (call.sameButProject h.environment) (hgives host)
      (hgives other) hdocument h.directory]

/-- A host with two directories and a configuration file, where only the variable for the project
may be set. -/
def hostWith (document : String) (project? : Option Text) : Host where
  files := ((FileSystem.empty.insert ["p".toList] .directory).insert ["q".toList] .directory).insert
    ["c".toList] (.file (Bytes.ofAscii document) 0o644)
  machine := fun _ => none
  environment := fun name => if name = Variable.projectDir.name then project? else none
  stdin := []

/-- The file has another project or one that is not there, and the variable says something else. -/
theorem Call.settings_of_project_named :
    let arguments := ["--config".toList, "/c".toList, "resolve".toList, "x".toList,
      "--project-dir=/p".toList]
    let parse := Document.ofText?
    let host := hostWith "project_dir: /q" none
    let other := hostWith "project_dir: /r" (some "/q".toList)
    ∃ call, Call.ofArguments arguments = .ok call ∧ call.projectDir = some "/p".toList ∧
      Text.trim "/p".toList ≠ [] ∧ call.DifferInProject parse "/p".toList host other ∧
      call.settings parse host = .ok (Settings.ofProject "/p".toList) ∧
      call.settings parse other = .ok (Settings.ofProject "/p".toList) := by
  intro arguments parse host other
  let call : Call :=
    ⟨some "/c".toList, some "/p".toList, none, Log.defaultLevel, .text, false, .resolve "x".toList⟩
  have harguments : Call.ofArguments arguments = .ok call := by decide +kernel
  have hp : call.projectDir = some "/p".toList := rfl
  have hpath : Text.trim "/p".toList ≠ [] := by decide
  have hdiffer : call.DifferInProject parse "/p".toList host other :=
    { environment := fun which hne => by
        cases which with
        | projectDir => exact absurd rfl hne
        | _ => decide
      document := by decide +kernel
      directory := by decide +kernel }
  have hloaded : call.loaded host = .ok (Settings.ofProject "/p".toList) := by decide +kernel
  have hsettings : call.settings parse host = .ok (Settings.ofProject "/p".toList) := by
    rw [settings_eq, hloaded]
    rfl
  have hsame := ((settings_of_project hp _).2 hpath).2 host other hdiffer
  exact ⟨call, harguments, hp, hpath, hdiffer, hsettings, hsame.symm.trans hsettings⟩

/-- The command line takes a blank project, and then the file says which one it is. -/
theorem Call.not_settings_of_blank :
    let arguments := ["--config".toList, "/c".toList, "resolve".toList, "x".toList,
      "--project-dir".toList, " ".toList]
    let parse := Document.ofText?
    let host := hostWith "project_dir: /p" none
    let other := hostWith "project_dir: /q" none
    ∃ call, Call.ofArguments arguments = .ok call ∧ call.projectDir = some " ".toList ∧
      call.DifferInProject parse " ".toList host other ∧
      call.settings parse host = .ok (Settings.ofProject "/p".toList) ∧
      call.settings parse other = .ok (Settings.ofProject "/q".toList) := by
  intro arguments parse host other
  let call : Call :=
    ⟨some "/c".toList, some " ".toList, none, Log.defaultLevel, .text, false, .resolve "x".toList⟩
  have harguments : Call.ofArguments arguments = .ok call := by decide +kernel
  have hdiffer : call.DifferInProject parse " ".toList host other :=
    { environment := fun _ _ => rfl
      document := by decide +kernel
      directory := by decide +kernel }
  have hhost : call.loaded host = .ok (Settings.ofProject "/p".toList) := by decide +kernel
  have hother : call.loaded other = .ok (Settings.ofProject "/q".toList) := by decide +kernel
  refine ⟨call, harguments, rfl, hdiffer, ?_, ?_⟩
  · rw [settings_eq, hhost]
    rfl
  · rw [settings_eq, hother]
    rfl

end CommandLine
end WorkDepot
