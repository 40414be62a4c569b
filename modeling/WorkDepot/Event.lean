import WorkDepot.Bytes
import WorkDepot.Submission.Kind
import WorkDepot.Text.Number

/-!
# Events

What a depot reports of its work, each kind of event with a level, a message and fields.
-/
namespace WorkDepot

inductive Level where
  | debug
  | info
  | warn
  deriving DecidableEq

def Level.name : Level → Text
  | .debug => "DEBUG".toList
  | .info => "INFO".toList
  | .warn => "WARN".toList

inductive FieldValue where
  | text (value : Text)
  | number (value : Nat)
  deriving DecidableEq

inductive Event where
  | lookupStarted (program filename : Text)
  | lookupDone (filename path : Text)
  | lookupFailed (filename : Text)
  | fileStaged (filename path digest : Text) (bytes : Nat)
  | fileReused (filename path : Text)
  | fileDiffers (filename path : Text)
  | toolStarted (program appName seedPath cmdlineFile : Text)
  | toolTimedOut (timeoutMillis : Nat)
  | workUnitCreated (id : Nat)
  | submissionFailed (step : Submission.Step) (kind : Submission.Kind) (error toolOutput : Text)
  deriving DecidableEq

/-- A span of time in the largest unit of which it has one at least, without zeros at the end. -/
def showMillis (millis : Nat) : Text :=
  if millis = 0 then "0ns".toList
  else if millis < 1000 then Text.decimal millis ++ "ms".toList
  else
    let digits := Text.decimal (1000 + millis % 1000) |>.drop 1
    let fraction := (digits.reverse.dropWhile (· = '0')).reverse
    Text.decimal (millis / 1000) ++ (if fraction.isEmpty then [] else '.' :: fraction) ++ ['s']

namespace Event

def level : Event → Level
  | lookupStarted .. | lookupDone .. | fileReused .. | toolStarted .. => .debug
  | fileStaged .. | workUnitCreated _ => .info
  | lookupFailed _ | fileDiffers .. | toolTimedOut _ | submissionFailed .. => .warn

def message : Event → Text
  | lookupStarted .. => "invoking placement oracle".toList
  | lookupDone .. => "resolved storage path".toList
  | lookupFailed _ => "placement lookup failed".toList
  | fileStaged .. => "staged new file".toList
  | fileReused .. => "content already staged".toList
  | fileDiffers .. => "existing file differs from staged content".toList
  | toolStarted .. => "invoking work-creation tool".toList
  | toolTimedOut _ => "work-creation tool timed out; killing it".toList
  | workUnitCreated _ => "work unit created".toList
  | submissionFailed .. => "submission failed".toList

def fields : Event → List (Text × FieldValue)
  | lookupStarted program filename =>
    [("program".toList, .text program), ("filename".toList, .text filename)]
  | lookupDone filename path | fileReused filename path | fileDiffers filename path =>
    [("filename".toList, .text filename), ("path".toList, .text path)]
  | lookupFailed filename => [("filename".toList, .text filename)]
  | fileStaged filename path digest bytes =>
    [("filename".toList, .text filename), ("path".toList, .text path),
     ("digest".toList, .text digest), ("bytes".toList, .number bytes)]
  | toolStarted program appName seedPath cmdlineFile =>
    [("program".toList, .text program), ("app_name".toList, .text appName),
     ("seed_path".toList, .text seedPath), ("cmdline_file".toList, .text cmdlineFile)]
  | toolTimedOut timeoutMillis => [("timeout".toList, .text (showMillis timeoutMillis))]
  | workUnitCreated id => [("workunit_id".toList, .text (Text.decimal id))]
  | submissionFailed step kind error toolOutput =>
    [("step".toList, .text step.name), ("kind".toList, .text kind.label),
     ("error".toList, .text error), ("tool_output".toList, .text toolOutput)]

end Event
end WorkDepot
