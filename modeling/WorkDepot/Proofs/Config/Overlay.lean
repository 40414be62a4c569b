import WorkDepot.Config.Load
import WorkDepot.Proofs.Config.Digests
import WorkDepot.Proofs.Text.Cut

/-! # The overlay

A configuration has one document, in which a value that the environment gives takes the place of the
document's own. All that is wrong with it can be listed, in the order in which it counts: what keeps
the environment's timeout from being read, then the faults of each field. Loading reports the first
of these, or settles what is left open by the defaults. So a value that is overridden is never
looked at, and of the environment only the variables that have a name here are.
-/
namespace WorkDepot.Config

/-! ## Where the values come from -/

/-- A value that the environment gives, when it is not blank, and else one's own. -/
def chosen (environment : Environment) (which : Variable) (own : Option Text) : Option Text :=
  match environment which.name with
  | none => own
  | some value => if Text.trim value = [] then own else some value

/-- The file that the document is in, if it is in one. -/
def documentPath (file : Option Text) (environment : Environment) : Option Text :=
  match file with
  | some path => some path
  | none => environment Variable.configFile.name

/-- The document in a file; without a file or in a blank one it is empty. -/
def documentAt (parse : Text → Option Document) (files : FileSystem) :
    Option Text → Except Error Document
  | none => .ok {}
  | some path =>
    match files.readText path with
    | .error cause => .error (.unreadable path cause)
    | .ok text =>
      if Text.trim text = [] then .ok {}
      else
        match parse text with
        | none => .error (.malformed path)
        | some document => .ok document

/-- The timeout that the environment gives. -/
def timeoutGiven (environment : Environment) : Option Text :=
  chosen environment .toolTimeoutSecs none

/-- The document under the environment. A timeout of the environment that is no number is left out
here. -/
def Document.under (document : Document) (environment : Environment) : Document where
  projectDir := chosen environment .projectDir document.projectDir
  oracleProgram := chosen environment .oracleProgram document.oracleProgram
  createWorkProgram := chosen environment .createWorkProgram document.createWorkProgram
  toolTimeoutSecs :=
    match timeoutGiven environment with
    | some value => Text.readUnsigned 10 64 (Text.trim value)
    | none => document.toolTimeoutSecs
  digest := chosen environment .digest document.digest
  fileMode := chosen environment .fileMode document.fileMode
  downloadMarker := document.downloadMarker

/-- The document without the values that the environment overrides. -/
def Document.hidden (document : Document) (environment : Environment) : Document :=
  let left {α : Type} (which : Variable) (own : Option α) : Option α :=
    if chosen environment which none = none then own else none
  { projectDir := left .projectDir document.projectDir
    oracleProgram := left .oracleProgram document.oracleProgram
    createWorkProgram := left .createWorkProgram document.createWorkProgram
    toolTimeoutSecs := left .toolTimeoutSecs document.toolTimeoutSecs
    digest := left .digest document.digest
    fileMode := left .fileMode document.fileMode
    downloadMarker := document.downloadMarker }

/-! ## What is wrong -/

/-- What keeps a value from being read. -/
def faultOf {α : Type} : Except Error α → List Error
  | .error error => [error]
  | .ok _ => []

def projectFaults (files : FileSystem) : Option Text → List Error
  | none => [.missingProject]
  | some path =>
    (if Path.isAbsolute path then [] else [.invalid .relativeProject path]) ++
      if files.isDirectory path then [] else [.invalid .absentProject path]

def digestFaults (value : Text) : List Error :=
  if digestCalled? value = none then [.invalid .unknownDigest value] else []

/-- All that is wrong with a document, the fault that counts most first. -/
def Document.faults (document : Document) (files : FileSystem) : List Error :=
  projectFaults files document.projectDir ++
  (if document.toolTimeoutSecs = some 0 then [.invalid .timeoutZero ['0']] else []) ++
  document.digest.toList.flatMap digestFaults ++
  (document.fileMode.toList.flatMap fun value => faultOf (readMode value)) ++
  if document.downloadMarker = some [] then [.invalid .emptyMarker []] else []

def timeoutFaults (environment : Environment) : List Error :=
  (timeoutGiven environment).toList.flatMap fun value =>
    if Text.readUnsigned 10 64 (Text.trim value) = none then [.invalid .timeoutNotInteger value]
    else []

/-! ## What the values stand for -/

/-- What a value is read as; where there is none, the default. -/
def readOr {α : Type} (read : Text → Except Error α) (default : α) (value? : Option Text) : α :=
  (value?.bind fun value => (read value).toOption).getD default

/-- The settings of a document without faults. -/
def Document.settled (document : Document) : Settings where
  projectDir := document.projectDir.getD []
  oracleProgram := document.oracleProgram.getD "bin/dir_hier_path".toList
  createWorkProgram := document.createWorkProgram.getD "bin/create_work".toList
  timeoutMillis := 1000 * document.toolTimeoutSecs.getD 300
  digest := (document.digest.bind digestCalled?).getD .sha256
  fileMode := readOr readMode 0o755 document.fileMode
  downloadMarker := document.downloadMarker.getD "/download/".toList

/-- A value when nothing is wrong with it, and else the first fault. -/
def ifSound {α : Type} (value : α) : List Error → Except Error α
  | [] => .ok value
  | error :: _ => .error error

/-- The settings that a document stands for under the environment, or the first fault. -/
def overlaid (parse : Text → Option Document) (files : FileSystem) (file : Option Text)
    (environment : Environment) : Except Error Settings := do
  let document ← documentAt parse files (documentPath file environment)
  let whole := document.under environment
  ifSound whole.settled (timeoutFaults environment ++ whole.faults files)

/-! ## Loading step by step -/

theorem given?_or (environment : Environment) (which : Variable) (own : Option Text) :
    (environment.given? which).or own = chosen environment which own := by
  rw [Environment.given?, chosen]
  cases environment which.name with
  | none => rfl
  | some value =>
    by_cases hb : Text.isBlank value <;> simp [Option.filter, Text.trim_eq_nil_iff, hb]

theorem given?_timeout (environment : Environment) :
    environment.given? .toolTimeoutSecs = timeoutGiven environment := by
  rw [timeoutGiven, ← given?_or, Option.or_none]

theorem readDocument_eq (parse : Text → Option Document) (files : FileSystem) (path : Text) :
    readDocument parse files path = documentAt parse files (some path) := by
  simp only [readDocument, documentAt, Text.trim_eq_nil_iff]
  cases files.readText path with
  | error cause => rfl
  | ok text => cases hparse : parse text <;> simp only [hparse]

theorem loadDocument_eq (parse : Text → Option Document) (files : FileSystem) (file : Option Text)
    (environment : Environment) : loadDocument parse files file environment =
      (documentAt parse files (documentPath file environment) >>= (·.overlay environment)) := by
  have hpath : file.or (environment Variable.configFile.name) = documentPath file environment := by
    cases file <;> rfl
  rw [loadDocument, hpath]
  cases documentPath file environment with
  | none => rfl
  | some path => simp only [readDocument_eq]

/-- Faults add up over steps that are taken one after the other. -/
theorem ifSound_bind {α β : Type} {value : α} {faults more : List Error} {result : β}
    {next : α → Except Error β} (h : next value = ifSound result more) :
    (ifSound value faults >>= next) = ifSound result (faults ++ more) := by
  cases faults with
  | nil => exact h
  | cons error faults => rfl

/-- The overlay fails for the environment's timeout only. -/
theorem overlay_eq (document : Document) (environment : Environment) :
    document.overlay environment =
      ifSound (document.under environment) (timeoutFaults environment) := by
  simp only [Document.overlay, given?_or, given?_timeout, timeoutFaults, Document.under]
  cases timeoutGiven environment with
  | none => rfl
  | some value =>
    cases hread : Text.readUnsigned 10 64 (Text.trim value) <;>
      simp [readSeconds, hread, ifSound, bind, Except.bind, pure, Except.pure]

theorem read_eq {α : Type} (read : Text → Except Error α) (default : α) (value? : Option Text) :
    (value?.map read).getD (.ok default) =
      ifSound (readOr read default value?)
        (value?.toList.flatMap fun value => faultOf (read value)) := by
  cases value? with
  | none => rfl
  | some value =>
    cases hread : read value <;> simp [hread, faultOf, ifSound, readOr, Except.toOption]

theorem digest_eq (projectDir : Text) (value? : Option Text) :
    (value?.map readDigest).getD (.ok (Settings.ofProject projectDir).digest) =
      ifSound ((value?.bind digestCalled?).getD .sha256) (value?.toList.flatMap digestFaults) := by
  cases value? with
  | none => rfl
  | some value =>
    rw [Option.map_some, Option.getD_some, readDigest, ofSpelling?_eq]
    cases hcalled : digestCalled? value <;> simp [hcalled, digestFaults, ifSound]

theorem checkProject_eq (files : FileSystem) (path : Text) :
    checkProject files path = ifSound () (projectFaults files (some path)) := by
  by_cases ha : Path.isAbsolute path <;> by_cases hd : files.isDirectory path <;>
    simp [checkProject, projectFaults, ifSound, ha, hd]

theorem readTimeout_eq (secs? : Option Nat) :
    readTimeout (secs?.getD Settings.defaultTimeoutSecs) =
      ifSound (1000 * secs?.getD 300)
        (if secs? = some 0 then [.invalid .timeoutZero ['0']] else []) := by
  rcases secs? with _ | _ | secs
  · rfl
  · rfl
  · simp [readTimeout, ifSound]

theorem checkMarker_eq (marker? : Option Text) :
    checkMarker (marker?.getD Settings.defaultMarker) =
      ifSound (marker?.getD "/download/".toList)
        (if marker? = some [] then [.invalid .emptyMarker []] else []) := by
  rcases marker? with _ | _ | ⟨c, rest⟩ <;> rfl

/-- Checking reports the first fault, and else settles the document. -/
theorem check_eq (document : Document) (files : FileSystem) :
    document.check files = ifSound document.settled (document.faults files) := by
  cases hproject : document.projectDir with
  | none => simp [Document.check, Document.faults, projectFaults, hproject, ifSound]; rfl
  | some path =>
    simp only [Document.check, Document.faults, hproject, checkProject_eq, readTimeout_eq,
      digest_eq, read_eq readMode, List.append_assoc]
    refine ifSound_bind (ifSound_bind (ifSound_bind (ifSound_bind ?_)))
    have hmarker := checkMarker_eq document.downloadMarker
    rw [← List.append_nil (ite _ _ _)]
    refine (congrArg (· >>= _) hmarker).trans (ifSound_bind ?_)
    simp only [Document.settled, hproject]
    rfl

/-! ## What makes no difference -/

theorem chosen_congr {first second : Environment} {which : Variable}
    (h : first which.name = second which.name) (own : Option Text) :
    chosen first which own = chosen second which own := by
  rw [chosen, chosen, h]

/-- What is hidden would not have been chosen. -/
theorem chosen_hidden (environment : Environment) (which : Variable) (own : Option Text) :
    chosen environment which (if chosen environment which none = none then own else none) =
      chosen environment which own := by
  cases hgiven : environment which.name with
  | none => simp [chosen, hgiven]
  | some value => by_cases hv : Text.trim value = [] <;> simp [chosen, hgiven, hv]

theorem under_hidden (document : Document) (environment : Environment) :
    (document.hidden environment).under environment = document.under environment := by
  simp only [Document.under, Document.hidden, chosen_hidden, timeoutGiven]
  cases chosen environment .toolTimeoutSecs none <;> rfl

theorem documentAt_map (parse : Text → Option Document) (files : FileSystem)
    {change : Document → Document} (hempty : change {} = {}) (path? : Option Text) :
    documentAt (fun text => (parse text).map change) files path? =
      (documentAt parse files path?).map change := by
  cases path? with
  | none => simp [documentAt, Except.map, hempty]
  | some path =>
    simp only [documentAt]
    cases files.readText path with
    | error cause => rfl
    | ok text =>
      by_cases ht : Text.trim text = []
      · simp [ht, Except.map, hempty]
      · cases hparse : parse text <;> simp [ht, hparse, Except.map]

/-- The overlay does not depend on what is hidden. -/
theorem overlaid_hidden (parse : Text → Option Document) (files : FileSystem) (file : Option Text)
    (environment : Environment) :
    overlaid (fun text => (parse text).map (·.hidden environment)) files file environment =
      overlaid parse files file environment := by
  have hempty : Document.hidden {} environment = {} := by simp [Document.hidden]
  rw [overlaid, overlaid, documentAt_map parse files hempty]
  cases documentAt parse files (documentPath file environment) with
  | error error => rfl
  | ok document => simp only [Except.map, bind, Except.bind, under_hidden]

theorem overlaid_congr (parse : Text → Option Document) (files : FileSystem) {file : Option Text}
    {first second : Environment}
    (hfile : file = none → first Variable.configFile.name = second Variable.configFile.name)
    (h : ∀ which : Variable, which ≠ .configFile → first which.name = second which.name) :
    overlaid parse files file first = overlaid parse files file second := by
  have hpath : documentPath file first = documentPath file second := by
    cases file with
    | none => exact hfile rfl
    | some path => rfl
  have hgiven : timeoutGiven first = timeoutGiven second :=
    chosen_congr (h .toolTimeoutSecs nofun) none
  have hunder (document : Document) : document.under first = document.under second := by
    simp only [Document.under, hgiven, chosen_congr (h .projectDir nofun),
      chosen_congr (h .oracleProgram nofun), chosen_congr (h .createWorkProgram nofun),
      chosen_congr (h .digest nofun), chosen_congr (h .fileMode nofun)]
  simp only [overlaid, hpath, hunder, timeoutFaults, hgiven]

theorem load_overlaid (parse : Text → Option Document) (files : FileSystem) (file : Option Text)
    (environment : Environment) :
    load parse files file environment = overlaid parse files file environment := by
  rw [load, loadDocument_eq, overlaid]
  cases documentAt parse files (documentPath file environment) with
  | error error => rfl
  | ok document =>
    simp only [bind, Except.bind]
    rw [overlay_eq]
    exact ifSound_bind (check_eq _ files)

/-- Loading is the overlay. The variable for the file has no say when a file is given, and no other
variable than the seven has any; what the document has for a field that the environment gives could
as well not be there. -/
theorem load_eq_overlaid (parse : Text → Option Document) (files : FileSystem)
    (file : Option Text) (environment : Environment) :
    load parse files file environment = overlaid parse files file environment ∧
      (∀ other : Environment,
        (file = none → other Variable.configFile.name = environment Variable.configFile.name) →
        (∀ which : Variable, which ≠ .configFile → other which.name = environment which.name) →
        load parse files file other = load parse files file environment) ∧
      load (fun text => (parse text).map (·.hidden environment)) files file environment =
        load parse files file environment := by
  refine ⟨load_overlaid .., ?_, ?_⟩
  · intro other hfile hother
    rw [load_overlaid, load_overlaid]
    exact overlaid_congr parse files hfile hother
  · rw [load_overlaid, load_overlaid]
    exact overlaid_hidden parse files file environment

end WorkDepot.Config
