import WorkDepot.CommandLine.Report
import WorkDepot.CommandLine.Result
import WorkDepot.Config.File
import WorkDepot.Submission.Submit

/-!
# Running commands

A command runs on a host, which has files, programs, an environment and standard input. It loads the
settings, does its work in a depot of its own and ends with an exit code: zero when it succeeds, two
when the caller is at fault, and one for every other failure.

A host has no working directory. The paths that a caller may give without a leading slash, those of
the configuration file, of the source and of the seed file, are walked from the root, as they are
for a caller who works there.
-/
namespace WorkDepot.CommandLine

structure Host where
  files : FileSystem
  machine : Helper.Machine
  environment : Config.Environment
  stdin : Bytes

/-- Why a command has failed, and whether its caller is at fault. -/
structure Complaint where
  isCallers : Bool
  text : Text

def Complaint.exitCode (complaint : Complaint) : Nat := if complaint.isCallers then 2 else 1

/-- How a command has ended, what it has printed, and the world that it has left. -/
structure Ended where
  exitCode : Nat
  stdout : Text
  stderr : Text
  world : World

/-- The world as a command finds it: nothing has been asked, called or counted. -/
def Host.world (host : Host) : World := { files := host.files }

/-- A lone hyphen stands for standard input. Slashes and dots behind it make no difference. -/
def isStandardInput (source : Text) : Bool :=
  Path.dropStays (Text.splitAt '/' source).reverse = [['-']]

def Host.readSource (host : Host) (source : Text) : Except Complaint Bytes :=
  if isStandardInput source then .ok host.stdin
  else
    (host.files.read source).mapError fun cause =>
      ⟨true, withCause ("failed to read ".toList ++ source) cause.message⟩

/-- The environment in which a project that the caller has named takes the place of the variable for
it. -/
def Call.environment (call : Call) (host : Host) : Config.Environment := fun name =>
  if name = Config.Variable.projectDir.name then call.projectDir.or (host.environment name)
  else host.environment name

def Call.document (call : Call) (host : Host) : Except Config.Error Config.Document :=
  Config.loadDocument Config.Document.ofText? host.files call.config (call.environment host)

/-- The settings of a call, with a reader for the text of the configuration file. -/
def Call.settings (call : Call) (parse : Text → Option Config.Document) (host : Host) :
    Except Complaint Config.Settings :=
  (Config.load parse host.files call.config (call.environment host)).mapError
    fun error => ⟨true, error.report⟩

def isHexDigit (c : Char) : Bool := (Text.digit? 16 c).isSome

def Complaint.ofFailure (text : Text) : Complaint := ⟨false, text⟩

def Complaint.ofSubmission (error : Submission.Error) : Complaint :=
  ⟨error.kind.isCallers, error.report⟩

/-- The path that a command takes content from, if it does. -/
def Command.source? : Command → Option Text
  | .stage _ source => some source
  | .submit _ _ seedFile _ => seedFile
  | .resolve _ | .downloadPath _ | .locate .. => none

def Command.perform (command : Command) (host : Host) (depot : Depot) (world : World) :
    Except Complaint Result × World :=
  match command with
  | .resolve filename =>
    let (answer, world) := depot.resolve filename world
    ((answer.mapError fun failure => .ofFailure failure.report).map (.path filename), world)
  | .downloadPath filename =>
    let (answer, world) := depot.downloadPath filename world
    ((answer.mapError fun failure => .ofFailure failure.report).map (.path filename), world)
  | .stage label source =>
    if Text.isBlank label then (.error ⟨true, "prefix must not be empty".toList⟩, world)
    else
      match host.readSource source with
      | .error complaint => (.error complaint, world)
      | .ok content =>
        let (answer, world) := depot.stage label content world
        ((answer.mapError fun error => .ofFailure error.report).map .staged, world)
  | .locate label hash =>
    if hash.isEmpty || !hash.all isHexDigit then
      (.error ⟨true, "hash must be a hex digest".toList⟩, world)
    else
      let hash := Text.toLowerAscii hash
      let (answer, world) := depot.locate label hash world
      ((answer.mapError fun error => .ofFailure error.report).map
        (.path (Staging.filename label hash)), world)
  | .submit appName cmdline seedFile seedPath =>
    match seedFile.mapM host.readSource with
    | .error complaint => (.error complaint, world)
    | .ok content =>
      let (answer, world) := depot.submitParts appName cmdline content seedPath world
      ((answer.mapError .ofSubmission).map .workUnit, world)

/-- The line that tells about a complaint. -/
def Complaint.line (complaint : Complaint) : Text := "error: ".toList ++ complaint.text ++ ['\n']

/-- What is said when the filter for the log cannot be used. -/
def loggingWarning (environment : Config.Environment) (level : Text) : Text :=
  match Log.install environment level false with
  | .ok () => []
  | .error error => "warning: logging disabled: ".toList ++ error.message ++ ['\n']

def Call.run (call : Call) (host : Host) : Ended :=
  let warning := loggingWarning host.environment call.logLevel
  match call.settings Config.Document.ofText? host with
  | .error complaint => ⟨complaint.exitCode, [], warning ++ complaint.line, host.world⟩
  | .ok settings =>
    let (result, world) :=
      call.command.perform host (.ofSettings settings host.machine) host.world
    let metrics := if call.printMetrics then world.counters.render else []
    match result with
    | .ok result => ⟨0, result.render call.output, warning ++ metrics, world⟩
    | .error complaint =>
      ⟨complaint.exitCode, [], warning ++ metrics ++ complaint.line, world⟩

def run (host : Host) (arguments : List Text) : Except Stop Ended := do
  return (← Call.ofArguments arguments).run host

/-- The exit code of a caller who has not got as far as a command. -/
def Stop.exitCode : Stop → Nat
  | .usage => 2
  | .help => 0

end WorkDepot.CommandLine
