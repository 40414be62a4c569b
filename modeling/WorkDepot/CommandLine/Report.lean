import WorkDepot.Submission.Request
import WorkDepot.Text.Quoted

/-!
# Reports of failures

What a command tells its caller about a failure. The caller is told all that is known: names, paths,
the cause below and, where a program has written something, its output without blanks at the end.
-/
namespace WorkDepot

def showInteger (n : Int) : Text :=
  if n < 0 then '-' :: Text.decimal n.natAbs else Text.decimal n.natAbs

/-- The status that a program ended with, if it was not a signal that ended it. -/
def showStatus (status : Option Int) : Text := (status.map showInteger).getD "signal".toList

def withCause (text cause : Text) : Text := text ++ ": ".toList ++ cause

def inBrackets (text : Text) : Text := '(' :: text ++ [')']

/-- What stands for the place and the nature of a fault in a file's syntax. -/
def Config.syntaxFault : Text := "<yaml>".toList

def Config.Error.report (error : Config.Error) : Text :=
  withCause error.message <|
    match error with
    | .unreadable path cause => withCause path cause.message
    | .malformed path => withCause path Config.syntaxFault
    | .missingProject => "project_dir".toList
    | .invalid fault value =>
      fault.field ++ '=' :: Text.quoted value ++ ' ' :: inBrackets fault.reason

def Placement.Failure.report (failure : Placement.Failure) : Text :=
  let about := fun (filename : Text) => failure.message ++ " for ".toList ++ filename
  match failure with
  | .notStarted program cause => withCause failure.message (withCause program cause.message)
  | .failed filename status output =>
    about filename ++ ' ' :: inBrackets ("status ".toList ++ showStatus status) ++ ":\n".toList ++
      Text.trimEnd output
  | .timedOut filename timeoutMillis =>
    about filename ++ " after ".toList ++ showMillis timeoutMillis
  | .malformed filename output fault =>
    withCause (about filename ++ ' ' :: inBrackets fault.reason) (Text.quoted output)

def Staging.Error.report (error : Staging.Error) : Text :=
  match error with
  | .oracle cause => cause.report
  | .conflict filename path =>
    withCause error.message (filename ++ " at ".toList ++ path ++ " holds different content".toList)
  | .storage fault =>
    withCause error.message
      (withCause (fault.operation.name ++ ' ' :: fault.path) fault.cause.message)

def Submission.ToolFailure.report (failure : Submission.ToolFailure) : Text :=
  match failure with
  | .notStarted _ cause | .notCaptured _ cause => withCause failure.message cause.message
  | .exited .. | .timedOut .. => failure.message

/-- The output of a tool, below what it belongs to. Blank output is left out. -/
def belowOutput (output : Option Text) : Text :=
  match output.filter fun text => !Text.isBlank text with
  | some text => "\ntool output:\n".toList ++ Text.trimEnd text
  | none => []

def Submission.Error.report (error : Submission.Error) : Text :=
  match error with
  | .request fault => withCause error.message (withCause fault.field fault.reason)
  | .staging artifact cause =>
    withCause (error.message ++ ' ' :: inBrackets artifact.name) cause.report
  | .tool cause => withCause error.message cause.report ++ belowOutput error.toolOutput?
  | .protocol _ violation =>
    error.message ++ ' ' :: inBrackets violation.reason ++ belowOutput error.toolOutput?

end WorkDepot
