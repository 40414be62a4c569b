import WorkDepot.Event
import WorkDepot.Helper

/-!
# Work-creation tools

A tool registers a unit of work: it is shown the application, the path of the seed and the name of
the command-line file, and prints what it did. Its answer may depend on the calls before and on the
files, which it may change.
-/
namespace WorkDepot.Submission

structure Invocation where
  appName : Text
  seedPath : Text
  cmdlineFile : Text
  deriving DecidableEq

def Invocation.arguments (invocation : Invocation) : List Text :=
  ["--appname".toList, invocation.appName, "--verbose".toList, invocation.seedPath,
   invocation.cmdlineFile]

/-- How a tool ended, and what it wrote to either stream in the order of writing. -/
structure ToolOutput where
  success : Bool
  status : Option Int
  output : Bytes
  deriving DecidableEq

inductive ToolFailure where
  | notStarted (program : Text) (cause : IoFault)
  | notCaptured (operation : Text) (cause : IoFault)
  /-- The tool ended with this status, or by a signal if there is none. -/
  | exited (status : Option Int) (output : Text)
  | timedOut (timeoutMillis : Nat) (output : Text)
  deriving DecidableEq

namespace ToolFailure

def message : ToolFailure → Text
  | notStarted .. => "work-creation tool could not be started".toList
  | notCaptured .. => "work-creation tool output could not be captured".toList
  | exited .. => "work-creation tool exited unsuccessfully".toList
  | timedOut .. => "work-creation tool timed out".toList

/-- What the tool wrote, if that is known. -/
def output? : ToolFailure → Option Text
  | notStarted .. | notCaptured .. => none
  | exited _ output | timedOut _ output => some output

end ToolFailure

structure ToolReply where
  answer : Except ToolFailure ToolOutput
  files : FileSystem
  events : List Event := []

structure Tool where
  call : (earlier : List Invocation) → FileSystem → Invocation → ToolReply

namespace Tool

/-- Ends every call with the same status and output. -/
def scripted (status : Int) (output : Bytes) : Tool where
  call _ files _ := { answer := .ok ⟨status = 0, some status, output⟩, files }

/-- Reports a work unit of this number at every call. -/
def created (id : Nat) : Tool :=
  scripted 0
    (Bytes.ofAscii "created workunit; name fixture, ID " ++ Text.encode (Text.decimal id) ++
      Bytes.ofAscii "\n")

/-- Gives the n-th reply to the n-th call, and the last reply to all further ones. -/
def ofReplies (replies : List (Except ToolFailure ToolOutput)) : Tool where
  call earlier files _ :=
    let reply := (replies[earlier.length]?.or replies.getLast?).getD (.ok ⟨true, some 0, []⟩)
    { answer := reply, files }

/-- What a run of the tool's program amounts to. -/
def ofRun (timeoutMillis : Nat) (run : Helper.Run) : Except ToolFailure ToolOutput :=
  match run.ending with
  | .exited code => .ok ⟨code = 0, some code, run.combined⟩
  | .killed => .ok ⟨false, none, run.combined⟩
  | .hung => .error (.timedOut timeoutMillis (Text.decodeLossy run.combined))

/-- Calls a program, which is run in the project's directory. -/
def command (machine : Helper.Machine) (program projectDir : Text) (timeoutMillis : Nat) :
    Tool where
  call _ files invocation :=
    let started : Event :=
      .toolStarted program invocation.appName invocation.seedPath invocation.cmdlineFile
    match Helper.start machine files program projectDir invocation.arguments with
    | .error cause => { answer := .error (.notStarted program cause), files, events := [started] }
    | .ok (run, files) =>
      { answer := ofRun timeoutMillis run
        files
        events := started :: if run.ending = .hung then [.toolTimedOut timeoutMillis] else [] }

end Tool
end WorkDepot.Submission
