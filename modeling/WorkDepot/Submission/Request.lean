import WorkDepot.Staging.Stage
import WorkDepot.Submission.IdLine

/-!
# Requests

A request has an application, a command line and a seed, which is either given as content or has
been staged before. The failures of a submission are those of the request, of staging one of its two
artifacts, of the tool and of the tool's output.
-/
namespace WorkDepot.Submission

inductive Seed where
  | inline (content : Bytes)
  | staged (path : Text)
  deriving DecidableEq

structure Request where
  appName : Text
  cmdline : Text
  seed : Seed
  deriving DecidableEq

inductive RequestFault where
  | bothSeeds
  | noSeed
  | blankApplication
  deriving DecidableEq

def RequestFault.field : RequestFault → Text
  | .bothSeeds | .noSeed => "seed".toList
  | .blankApplication => "app_name".toList

def RequestFault.reason : RequestFault → Text
  | .bothSeeds => "only one of seed contents and seed path may be given".toList
  | .noSeed => "no seed was given".toList
  | .blankApplication => "application name must not be empty".toList

/-- The seed of a request that may give content, a path or both. Empty ones count as not given. -/
def Seed.ofParts (content : Option Bytes) (path : Option Text) : Except RequestFault Seed :=
  match content.filter (!·.isEmpty), path.filter (!·.isEmpty) with
  | some _, some _ => .error .bothSeeds
  | none, none => .error .noSeed
  | some content, none => .ok (.inline content)
  | none, some path => .ok (.staged path)

inductive Artifact where
  | seed
  | cmdline
  deriving DecidableEq

def Artifact.name : Artifact → Text
  | .seed => "seed".toList
  | .cmdline => "cmdline".toList

def Artifact.label : Artifact → Text
  | .seed => "input".toList
  | .cmdline => "cmdline".toList

inductive Error where
  | request (fault : RequestFault)
  | staging (artifact : Artifact) (cause : Staging.Error)
  | tool (cause : ToolFailure)
  | protocol (output : Text) (violation : Violation)
  deriving DecidableEq

namespace Error

def message : Error → Text
  | request _ => "invalid work request".toList
  | staging .. => "artifact staging failed".toList
  | tool _ => "work-creation tool invocation failed".toList
  | protocol .. => "work-creation tool output did not contain a work-unit id".toList

def kind : Error → Kind
  | request _ => .configuration
  | staging _ (.oracle _) => .oracle
  | staging _ (.conflict ..) => .consistency
  | staging _ (.storage _) => .storage
  | tool _ => .toolInvocation
  | protocol .. => .toolProtocol

/-- What the tool wrote, if that is known. -/
def toolOutput? : Error → Option Text
  | request _ | staging .. => none
  | tool cause => cause.output?
  | protocol output _ => some output

end Error
end WorkDepot.Submission
