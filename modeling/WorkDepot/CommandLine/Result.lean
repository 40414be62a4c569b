import WorkDepot.CommandLine.Command
import WorkDepot.Json.Object
import WorkDepot.Staging.Stage

/-!
# Results of commands

A command that succeeds yields a path for a name, a staged file or the number of a work unit. It is
printed as a line of text or as an object of JSON.
-/
namespace WorkDepot.CommandLine

inductive Result where
  | path (filename path : Text)
  | staged (file : Staging.Staged)
  | workUnit (id : Nat)

namespace Result

/-- The line without its end. -/
def text : Result → Text
  | path _ place => place
  | staged file => file.path ++ '\t' :: file.filename
  | workUnit id => Text.decimal id

def members : Result → List Json.Member
  | path filename place =>
    [("filename".toList, Json.quote filename), ("path".toList, Json.quote place)]
  | staged file =>
    [("filename".toList, Json.quote file.filename),
     ("fingerprint".toList, Json.quote file.fingerprint),
     ("path".toList, Json.quote file.path),
     ("created".toList, Json.ofBool (file.outcome = .created))]
  | workUnit id => [("workunit_id".toList, Text.decimal id)]

def render (result : Result) : OutputFormat → Text
  | .text => result.text ++ ['\n']
  | .json => Json.object result.members ++ ['\n']

end Result
end WorkDepot.CommandLine
