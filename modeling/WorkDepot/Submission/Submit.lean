import WorkDepot.Submission.Request

/-!
# Submitting work

A submission checks the request, stages the seed and the command line, calls the tool once and reads
the number of the work unit from its output. It ends at the first step that fails, and its end is
counted and reported once.
-/
namespace WorkDepot.Depot

open Submission

/-- The path of an artifact, once it is staged. -/
def stageArtifact (depot : Depot) (artifact : Artifact) (content : Bytes) (world : World) :
    Except Error Text × World :=
  match depot.stage artifact.label content world with
  | (.ok staged, world) => (.ok staged.path, world)
  | (.error cause, world) => (.error (.staging artifact cause), world)

/-- The path of the seed, which is staged unless it has been. -/
def stageSeed (depot : Depot) (seed : Seed) (world : World) : Except Error Text × World :=
  match seed with
  | .inline content => depot.stageArtifact .seed content world
  | .staged path => (.ok path, world)

/-- Stages the command line. The tool looks for it by its name alone. -/
def stageCmdline (depot : Depot) (cmdline : Text) (world : World) : Except Error Text × World :=
  match depot.stageArtifact .cmdline (Text.encode cmdline) world with
  | (.error error, world) => (.error error, world)
  | (.ok path, world) =>
    match Path.fileName? path with
    | some name => (.ok name, world)
    | none =>
      let fault : Staging.StorageFault :=
        ⟨.basename, path, .other "staged path has no file name".toList⟩
      (.error (.staging .cmdline (.storage fault)), world)

def callTool (depot : Depot) (invocation : Invocation) (world : World) :
    Except ToolFailure ToolOutput × World :=
  let reply := depot.tool.call world.invocations world.files invocation
  (reply.answer,
   { world with
     files := reply.files
     invocations := world.invocations ++ [invocation]
     events := world.events ++ reply.events })

/-- The number in the output of a tool that has succeeded. -/
def readId (output : Bytes) : Except Error Nat :=
  (IdLine.read output).mapError (.protocol (Text.decodeLossy output))

/-- The step at which the submission ends, and the number of the work unit or what went wrong. -/
def perform (depot : Depot) (request : Request) (world : World) :
    (Step × Except Error Nat) × World :=
  if Text.isBlank request.appName then
    ((.validateRequest, .error (.request .blankApplication)), world)
  else
    match depot.stageSeed request.seed world with
    | (.error error, world) => ((.stageSeed, .error error), world)
    | (.ok seedPath, world) =>
      match depot.stageCmdline request.cmdline world with
      | (.error error, world) => ((.stageCmdline, .error error), world)
      | (.ok cmdlineFile, world) =>
        match depot.callTool ⟨request.appName, seedPath, cmdlineFile⟩ world with
        | (.error failure, world) => ((.invokeTool, .error (.tool failure)), world)
        | (.ok reply, world) =>
          if reply.success then ((.parseOutput, readId reply.output), world)
          else
            let failure := ToolFailure.exited reply.status (Text.decodeLossy reply.output)
            ((.invokeTool, .error (.tool failure)), world)

def conclude (depot : Depot) (step : Step) (result : Except Error Nat) (world : World) : World :=
  match result with
  | .ok id => depot.record .submissionSucceeded (world.emit (.workUnitCreated id))
  | .error error =>
    depot.record (.submissionFailed error.kind)
      (world.emit (.submissionFailed step error.kind error.message (error.toolOutput?.getD [])))

def submit (depot : Depot) (request : Request) (world : World) : Except Error Nat × World :=
  let ((step, result), world) := depot.perform request world
  (result, depot.conclude step result world)

/-- Submits a request whose seed may be given in two ways. -/
def submitParts (depot : Depot) (appName cmdline : Text) (content : Option Bytes)
    (path : Option Text) (world : World) : Except Error Nat × World :=
  match Seed.ofParts content path with
  | .ok seed => depot.submit ⟨appName, cmdline, seed⟩ world
  | .error fault =>
    (.error (.request fault), depot.conclude .validateRequest (.error (.request fault)) world)

end WorkDepot.Depot
