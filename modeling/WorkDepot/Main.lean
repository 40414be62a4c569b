import WorkDepot.CommandLine.Run

/-!
# The program

Copies what a call may read from the machine into a file system: the configuration file, the
project's directory with its helper programs, and the file that content comes from. The call is run
on that copy, and what it prints is printed. Helper programs can be found here but not started.
-/
namespace WorkDepot.CommandLine

/-- The number of the error with which the reading of a directory as a file ends. -/
def directoryError : UInt32 := 21

/-- The file or the empty directory at a path, put into a copy. What cannot be read is left out. -/
def copyIn (mode : Mode) (files : FileSystem) (path : Text) : IO FileSystem := do
  try
    let content ← IO.FS.readBinFile (String.ofList path)
    let (_, made) := files.makeDirectories ((Path.parent? path).getD [])
    return (made.write path content.toList mode).toOption.getD files
  catch
    | .inappropriateType _ code _ =>
      return if code = directoryError then (files.makeDirectories path).2 else files
    | _ => return files

partial def readAll (stream : IO.FS.Stream) (before : List UInt8) : IO Bytes := do
  let piece ← stream.read 65536
  if piece.isEmpty then return before else readAll stream (before ++ piece.toList)

/-- The variables that are set, of those with names that a call looks up. -/
def readEnvironment : IO Config.Environment := do
  let names := Log.filterVariable :: Config.Variable.all.map Config.Variable.name
  let values ← names.mapM fun name => do
    return (name, (← IO.getEnv (String.ofList name)).map String.toList)
  return fun name => (values.lookup name).join

def readHost (call : Call) : IO Host := do
  let environment ← readEnvironment
  let mentioned := [call.config, environment Config.Variable.configFile.name, call.projectDir,
    environment Config.Variable.projectDir.name, call.command.source?]
  let files ← (mentioned.filterMap id).foldlM (copyIn 0o644) FileSystem.empty
  let stdin ←
    if call.command.source?.any isStandardInput then readAll (← IO.getStdin) [] else pure []
  let host : Host := { files, machine := fun _ => none, environment, stdin }
  match call.document host with
  | .error _ => return host
  | .ok document =>
    match document.projectDir with
    | none => return host
    | some projectDir =>
      let files ← copyIn 0o644 files projectDir
      match document.check files with
      | .error _ => return { host with files }
      | .ok settings =>
        let programs := [settings.oracleProgramPath, settings.createWorkProgramPath]
        return { host with files := ← programs.foldlM (copyIn 0o755) files }

def usageText : String :=
  "usage: workdepot [OPTION]... (resolve | download-path | stage | locate | submit) [ARGUMENT]..."

/-- Runs the call that the arguments amount to, and prints what it prints. -/
def runHere (arguments : List Text) : IO UInt32 := do
  match Call.ofArguments arguments with
  | .error stop =>
    if stop = .help then IO.println usageText else IO.eprintln usageText
    return UInt32.ofNat stop.exitCode
  | .ok call =>
    let ended := call.run (← readHost call)
    IO.print (String.ofList ended.stdout)
    IO.eprint (String.ofList ended.stderr)
    return UInt32.ofNat ended.exitCode

end WorkDepot.CommandLine

def main (arguments : List String) : IO UInt32 :=
  WorkDepot.CommandLine.runHere (arguments.map String.toList)
