import WorkDepot.Event
import WorkDepot.Helper

/-!
# Placement oracles

An oracle says where a file of a given name belongs. Its answer may depend on the names that it has
been asked for before and on the files, which it may change. An answer is good when it is one line
with an absolute path, blanks around it aside.
-/
namespace WorkDepot.Placement

inductive AnswerFault where
  | empty
  | severalLines
  | relative
  | notUtf8
  deriving DecidableEq

def AnswerFault.reason : AnswerFault → Text
  | .empty => "empty output".toList
  | .severalLines => "expected exactly one line".toList
  | .relative => "path is not absolute".toList
  | .notUtf8 => "output is not valid utf-8".toList

inductive Failure where
  | notStarted (program : Text) (cause : IoFault)
  /-- The program ended with this status, or by a signal if there is none. -/
  | failed (filename : Text) (status : Option Int) (output : Text)
  | timedOut (filename : Text) (timeoutMillis : Nat)
  | malformed (filename output : Text) (fault : AnswerFault)
  deriving DecidableEq

def Failure.message : Failure → Text
  | .notStarted .. => "placement oracle could not be started".toList
  | .failed .. => "placement oracle exited unsuccessfully".toList
  | .timedOut .. => "placement oracle timed out".toList
  | .malformed .. => "placement oracle returned unusable output".toList

structure Lookup where
  answer : Except Failure Text
  files : FileSystem
  events : List Event := []

structure Oracle where
  ask : (earlier : List Text) → FileSystem → (filename : Text) → Lookup

def readAnswer (filename answer : Text) : Except Failure Text :=
  let path := Text.trim answer
  if path.isEmpty then .error (.malformed filename answer .empty)
  else if '\n' ∈ path then .error (.malformed filename answer .severalLines)
  else if !Path.isAbsolute path then .error (.malformed filename answer .relative)
  else .ok path

namespace Oracle

def fixed (answer : Text) : Oracle where
  ask _ files _ := { answer := .ok answer, files }

/-- Gives the n-th reply to the n-th question, and the last reply to all further ones. -/
def ofReplies (replies : List (Text → Except Failure Text)) : Oracle where
  ask earlier files filename :=
    let reply := (replies[earlier.length]?.or replies.getLast?).getD fun _ => .ok []
    { answer := reply filename, files }

/-- What a run of the oracle's program says. -/
def ofRun (filename : Text) (timeoutMillis : Nat) (run : Helper.Run) : Except Failure Text :=
  match run.ending with
  | .hung => .error (.timedOut filename timeoutMillis)
  | .exited 0 =>
    match Text.decode? (run.written .out) with
    | some answer => .ok answer
    | none => .error (.malformed filename (Text.decodeLossy (run.written .out)) .notUtf8)
  | ending =>
    let status := match ending with
      | .exited code => some (code : Int)
      | _ => none
    .error (.failed filename status
      (Text.decodeLossy (run.written .out) ++ Text.decodeLossy (run.written .err)))

/-- Asks a program, which is run in the project's directory with the name as its argument. -/
def command (machine : Helper.Machine) (program projectDir : Text) (timeoutMillis : Nat) :
    Oracle where
  ask _ files filename :=
    let events := [.lookupStarted program filename]
    match Helper.start machine files program projectDir [filename] with
    | .error cause => { answer := .error (.notStarted program cause), files, events }
    | .ok (run, files) => { answer := ofRun filename timeoutMillis run, files, events }

end Oracle

/-- What follows the last marker in a path; the path as it is when it has no marker. -/
def relativeTo (marker path : Text) : Text := (Text.afterLast? marker path).getD path

end WorkDepot.Placement
