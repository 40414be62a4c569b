import WorkDepot.Config.Settings

/-!
# Loading a configuration

A document comes from a file, if one is named, and the environment's values that are not blank take
the place of the document's. How the text of a file becomes a document is a parameter.
-/
namespace WorkDepot.Config

/-- The value of each environment variable that is set. -/
abbrev Environment := Text → Option Text

inductive Variable where
  | configFile
  | projectDir
  | oracleProgram
  | createWorkProgram
  | toolTimeoutSecs
  | digest
  | fileMode

def Variable.all : List Variable :=
  [.configFile, .projectDir, .oracleProgram, .createWorkProgram, .toolTimeoutSecs, .digest,
   .fileMode]

def Variable.name : Variable → Text
  | .configFile => "GRIDSTAGE_CONFIG".toList
  | .projectDir => "GRIDSTAGE_PROJECT_DIR".toList
  | .oracleProgram => "GRIDSTAGE_ORACLE_PROGRAM".toList
  | .createWorkProgram => "GRIDSTAGE_CREATE_WORK_PROGRAM".toList
  | .toolTimeoutSecs => "GRIDSTAGE_TOOL_TIMEOUT_SECS".toList
  | .digest => "GRIDSTAGE_DIGEST".toList
  | .fileMode => "GRIDSTAGE_FILE_MODE".toList

def Environment.given? (environment : Environment) (which : Variable) : Option Text :=
  (environment which.name).filter fun value => !Text.isBlank value

/-- The document of a file. A file without anything but blanks is the empty document. -/
def readDocument (parse : Text → Option Document) (files : FileSystem) (path : Text) :
    Except Error Document :=
  match files.readText path with
  | .error cause => .error (.unreadable path cause)
  | .ok text =>
    if Text.isBlank text then .ok {}
    else
      match parse text with
      | some document => .ok document
      | none => .error (.malformed path)

def readSeconds (value : Text) : Except Error Nat :=
  match Text.readUnsigned 10 64 (Text.trim value) with
  | some secs => .ok secs
  | none => .error (.invalid .timeoutNotInteger value)

def Document.overlay (document : Document) (environment : Environment) : Except Error Document := do
  let toolTimeoutSecs ←
    match environment.given? .toolTimeoutSecs with
    | some value => some <$> readSeconds value
    | none => pure document.toolTimeoutSecs
  return {
    projectDir := (environment.given? .projectDir).or document.projectDir
    oracleProgram := (environment.given? .oracleProgram).or document.oracleProgram
    createWorkProgram := (environment.given? .createWorkProgram).or document.createWorkProgram
    toolTimeoutSecs
    digest := (environment.given? .digest).or document.digest
    fileMode := (environment.given? .fileMode).or document.fileMode
    downloadMarker := document.downloadMarker }

/-- The document of a file, if one is given or the environment names one, under the environment. -/
def loadDocument (parse : Text → Option Document) (files : FileSystem) (file : Option Text)
    (environment : Environment) : Except Error Document := do
  let document ←
    match file.or (environment Variable.configFile.name) with
    | some path => readDocument parse files path
    | none => pure {}
  document.overlay environment

/-- The settings that the document of a file stands for, under the environment. -/
def load (parse : Text → Option Document) (files : FileSystem) (file : Option Text)
    (environment : Environment) : Except Error Settings := do
  (← loadDocument parse files file environment).check files

end WorkDepot.Config
