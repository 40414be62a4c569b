import WorkDepot.Digest.Algorithm
import WorkDepot.FileSystem.Operations
import WorkDepot.Text.Number

/-!
# Settings

What a depot is configured with. A document has a value for some of the fields; checking it puts
defaults in the place of what is absent and turns each value into what it stands for. The first
fault in the order of the fields is the one that is reported.
-/
namespace WorkDepot.Config

inductive Fault where
  | relativeProject
  | absentProject
  | timeoutNotInteger
  | timeoutZero
  | unknownDigest
  | modeNotOctal
  | modeTooLarge
  | emptyMarker
  deriving DecidableEq

inductive Error where
  | unreadable (path : Text) (cause : IoFault)
  | malformed (path : Text)
  | missingProject
  | invalid (fault : Fault) (value : Text)
  deriving DecidableEq

def Fault.field : Fault → Text
  | .relativeProject | .absentProject => "project_dir".toList
  | .timeoutNotInteger | .timeoutZero => "tool_timeout_secs".toList
  | .unknownDigest => "digest".toList
  | .modeNotOctal | .modeTooLarge => "file_mode".toList
  | .emptyMarker => "download_marker".toList

def Fault.reason : Fault → Text
  | .relativeProject => "must be an absolute path".toList
  | .absentProject => "must be an existing directory".toList
  | .timeoutNotInteger => "must be an integer".toList
  | .timeoutZero => "must be greater than zero".toList
  | .unknownDigest => "must be one of sha256, sha512, blake3".toList
  | .modeNotOctal => "must be an octal mode".toList
  | .modeTooLarge => "must not exceed 0o7777".toList
  | .emptyMarker => "must not be empty".toList

def Error.message : Error → Text
  | .unreadable .. => "failed to read configuration file".toList
  | .malformed _ => "failed to parse configuration file".toList
  | .missingProject => "missing configuration field".toList
  | .invalid .. => "invalid configuration field".toList

structure Document where
  projectDir : Option Text := none
  oracleProgram : Option Text := none
  createWorkProgram : Option Text := none
  toolTimeoutSecs : Option Nat := none
  digest : Option Text := none
  fileMode : Option Text := none
  downloadMarker : Option Text := none
  deriving DecidableEq

structure Settings where
  projectDir : Text
  oracleProgram : Text
  createWorkProgram : Text
  timeoutMillis : Nat
  digest : Digest.Algorithm
  fileMode : Mode
  downloadMarker : Text
  deriving DecidableEq

namespace Settings

def defaultTimeoutSecs : Nat := 300

def defaultMode : Mode := 0o755

def defaultMarker : Text := "/download/".toList

/-- The settings of a project with a default in every other field. -/
def ofProject (projectDir : Text) : Settings where
  projectDir
  oracleProgram := "bin/dir_hier_path".toList
  createWorkProgram := "bin/create_work".toList
  timeoutMillis := 1000 * defaultTimeoutSecs
  digest := .sha256
  fileMode := defaultMode
  downloadMarker := defaultMarker

/-- A program's path: an absolute one is taken as it is, another starts at the project. -/
def programPath (settings : Settings) (program : Text) : Text :=
  if Path.isAbsolute program then program else Path.join settings.projectDir program

def oracleProgramPath (settings : Settings) : Text := settings.programPath settings.oracleProgram

def createWorkProgramPath (settings : Settings) : Text :=
  settings.programPath settings.createWorkProgram

end Settings

def modeLimit : Mode := 0o7777

/-- A mode in octal digits, possibly with `0o` before them and blanks around. -/
def readMode (value : Text) : Except Error Mode :=
  let trimmed := Text.trim value
  match Text.readUnsigned 8 32 ((Text.strip? "0o".toList trimmed).getD trimmed) with
  | none => .error (.invalid .modeNotOctal value)
  | some mode => if modeLimit < mode then .error (.invalid .modeTooLarge value) else .ok mode

def readTimeout (secs : Nat) : Except Error Nat :=
  if secs = 0 then .error (.invalid .timeoutZero (Text.decimal secs)) else .ok (1000 * secs)

def readDigest (value : Text) : Except Error Digest.Algorithm :=
  match Digest.Algorithm.ofSpelling? value with
  | some algorithm => .ok algorithm
  | none => .error (.invalid .unknownDigest value)

def checkProject (files : FileSystem) (path : Text) : Except Error Unit :=
  if !Path.isAbsolute path then .error (.invalid .relativeProject path)
  else if !files.isDirectory path then .error (.invalid .absentProject path)
  else .ok ()

def checkMarker (marker : Text) : Except Error Text :=
  if marker.isEmpty then .error (.invalid .emptyMarker marker) else .ok marker

def Document.check (document : Document) (files : FileSystem) : Except Error Settings := do
  let some projectDir := document.projectDir | throw .missingProject
  checkProject files projectDir
  let defaults := Settings.ofProject projectDir
  let timeoutMillis ← readTimeout (document.toolTimeoutSecs.getD Settings.defaultTimeoutSecs)
  let digest ← (document.digest.map readDigest).getD (.ok defaults.digest)
  let fileMode ← (document.fileMode.map readMode).getD (.ok defaults.fileMode)
  let downloadMarker ← checkMarker (document.downloadMarker.getD defaults.downloadMarker)
  return {
    projectDir
    oracleProgram := document.oracleProgram.getD defaults.oracleProgram
    createWorkProgram := document.createWorkProgram.getD defaults.createWorkProgram
    timeoutMillis, digest, fileMode, downloadMarker }

end WorkDepot.Config
